import Affordance.Proofs.Instrument.Probing
import Affordance.Proofs.Surface.Sources
import Affordance.Proofs.Tool.Naming
import Affordance.Proofs.Tool.Stability

/-!
# When stability is assessed

Stability should be assessed exactly when the elements were located in the page.

  * `Analysis.proposals_made`: a proposed tool stands for elements of the analysis as the view of
    the page leaves them, and its verdict is that on these.
  * `PageView.of_switches`: any address makes tools be assessed, but only an address that is not
    empty makes elements be located.
  * **`stability_assessed_iff`**: so a tool is assessed iff its elements were located, unless the
    address is empty. `empty_address_assessed`: then every tool with an element is called
    unstable, for want of selectors that nobody made.
-/

namespace Affordance

/-! ## 1. Tools -/

/-- A candidate stands for elements of its component. -/
theorem Candidate.mem_parts {c : Component} {d : Candidate} (hd : d ∈ candidates c)
    {q : String × Element} (hq : q ∈ d.parts) : q.2 ∈ c.elements := by
  obtain ⟨g, -, rfl⟩ := List.mem_map.mp hd
  rcases List.mem_append.mp hq with hinput | htrigger
  · obtain ⟨e, he, rfl⟩ := List.mem_map.mp hinput
    obtain ⟨i, -, hi⟩ := List.mem_filterMap.mp he
    exact List.mem_of_getElem? hi
  · obtain ⟨e, he, rfl⟩ := List.mem_map.mp htrigger
    obtain ⟨i, -, hi⟩ := Option.bind_eq_some_iff.mp (Option.mem_toList.mp he)
    exact List.mem_of_getElem? hi

/-- **A proposed tool stands for elements of the analysis as the view leaves them**, and where
    tools are assessed its verdict is that on these. -/
theorem Analysis.proposals_made {a : Analysis} {config : Option Config} {view : PageView}
    {p : Proposal} (hp : p ∈ a.proposals config view) :
    ∃ d : Candidate, p.candidate = d.mapElements view.place ∧
      (∀ q ∈ d.parts, q.2 ∈ a.elements) ∧
      p.stabilityReason = (if view.named then p.candidate.instability .standard else none) ∧
      p.isStable = if view.named then some p.stabilityReason.isNone else none := by
  obtain ⟨before, after, hsplit⟩ := List.append_of_mem hp
  obtain ⟨b, hb, -, rfl⟩ := proposalsFrom_split view.named _ [] 1 before hsplit
  rw [a.assessedOf_seenIn config view] at hb
  obtain ⟨assessed, hassessed, rfl⟩ := List.mem_map.mp hb
  obtain ⟨d, hd, rfl⟩ := List.mem_map.mp hassessed
  obtain ⟨c, hc, hd⟩ := List.mem_flatMap.mp hd
  exact ⟨d, rfl, fun q hq => List.mem_flatMap.mpr ⟨c, hc, Candidate.mem_parts hd hq⟩, rfl, rfl⟩

/-! ## 2. Reasons -/

/-- The reason says of an element that it has no selectors at all. -/
def SaysUnlocated (reason : String) : Prop :=
  " lacks a runtime selector entirely".toList <:+ reason.toList

/-- What is said of an element that has no selectors. -/
def unlocatedReason (kind : String) (e : Element) : String :=
  kind ++ " \"" ++ e.reference ++ "\"" ++ " lacks a runtime selector entirely"

theorem saysUnlocated_unlocatedReason (kind : String) (e : Element) :
    SaysUnlocated (unlocatedReason kind e) := by
  unfold SaysUnlocated unlocatedReason
  rw [String.toList_append]
  exact List.suffix_append _ _

/-- A score that is too low is another reason. -/
theorem not_saysUnlocated_shortfall (kind : String) (e : Element) (top : Rat) :
    ¬ SaysUnlocated (shortfall kind e top) := by
  rintro ⟨u, hu⟩
  have hlast := congrArg List.getLast? hu
  rw [shortfall, String.toList_append, List.getLast?_append, List.getLast?_append,
    show " lacks a runtime selector entirely".toList.getLast? = some 'y' by decide,
    show " is below 0.6".toList.getLast? = some '6' by decide] at hlast
  cases hlast

/-- The verdict on an element without selectors. -/
theorem Element.instability_unlocated {e : Element} (h : e.selectors = none)
    (threshold : RequiredScore) (kind : String) :
    e.instability threshold kind = some (unlocatedReason kind e) := by
  unfold Element.instability Element.topScore
  rw [h]
  rfl

/-- The verdict on a located element is about its scores. -/
theorem Element.not_saysUnlocated_of_located {live : List LiveElement} {e : Element}
    {kind reason : String}
    (h : (locate .binary live e).element.instability .standard kind = some reason) :
    ¬ SaysUnlocated reason := by
  obtain ⟨top, -, -, hverdict⟩ := e.instability_located separates_binary live kind
  rw [RequiredScore.rounded_binary, h] at hverdict
  split at hverdict
  · cases hverdict
  · cases hverdict
    exact not_saysUnlocated_shortfall kind e top

/-! ## 3. Views of the page -/

/-- The elements of a source are located among live ones, if only among none. -/
def LocatesElements (prober : String → ProbeRun) (url : Option String) : Prop :=
  ∃ view live, (PageView.of prober url).value = .ok view ∧ view.live = some live

/-- **The two switches**: any address makes tools be assessed, an address that is not empty makes
    elements be located. -/
theorem PageView.of_switches {prober : String → ProbeRun} {url : Option String} {view : PageView}
    (h : (PageView.of prober url).value = .ok view) :
    (view.named = true ↔ url ≠ none) ∧ (view.live ≠ none ↔ url ≠ none ∧ url ≠ some "") := by
  cases url with
  | none =>
    cases h
    simp
  | some u =>
    unfold of at h
    dsimp only at h
    split at h
    · next hempty =>
      cases h
      simp [hempty]
    · next hurl =>
      unfold ofRun at h
      split at h
      · cases h
        simp [hurl]
      · cases h
        simp [hurl]
      · cases h

/-- A source whose tools are proposed was analysed, and its page was viewed. -/
theorem instrument_eq_ok {config : Option Config} {prober : String → ProbeRun}
    {url : Option String} {source fileName : String} {r : Instrumentation}
    (h : (instrument config prober url source fileName).value = .ok r) :
    ∃ a view, SourceFile.analyze source fileName = .ok a ∧
      (PageView.of prober url).value = .ok view ∧
      r.outcome.proposals = a.proposals config view := by
  unfold instrument at h
  split at h
  · cases h
  · next a ha =>
    dsimp only at h
    split at h
    · cases h
    · next view hview =>
      split at h
      · cases h
      · cases h
        exact ⟨a, view, ha, hview, Outcome.proposals_ofProposals _⟩

/-- An element of a source has selectors in a view iff it is located there. -/
theorem PageView.selectors_place {view : PageView} {e : Element} (h : e.selectors = none) :
    (view.place e).selectors ≠ none ↔ view.live ≠ none := by
  unfold place
  cases view.live with
  | none => simp [h]
  | some live =>
    obtain ⟨ss, helement, -⟩ := enough_iff_dependable separates_binary live e
    simp [helement]

/-- The verdict on an element of a source says that it has no selectors iff it is not located. -/
theorem PageView.saysUnlocated_place {view : PageView} {e : Element} {kind reason : String}
    (h : e.selectors = none) (hverdict : (view.place e).instability .standard kind = some reason) :
    SaysUnlocated reason ↔ view.live = none := by
  unfold place at hverdict
  cases hlive : view.live with
  | none =>
    rw [hlive, Element.instability_unlocated h] at hverdict
    cases hverdict
    exact iff_of_true (saysUnlocated_unlocatedReason kind e) rfl
  | some live =>
    rw [hlive] at hverdict
    exact iff_of_false (Element.not_saysUnlocated_of_located hverdict) nofun

/-! ## 4. Runs -/

/-- What is said of a tool's stability where an address is given, or none. -/
structure Proposal.AssessedAt (url : Option String) (p : Proposal) : Prop where
  assessed : p.isStable ≠ none ↔ url ≠ none
  located : ∀ q ∈ p.candidate.parts, q.2.selectors ≠ none ↔ url ≠ none ∧ url ≠ some ""
  reason : ∀ reason, p.stabilityReason = some reason → (SaysUnlocated reason ↔ url = some "")
  /-- At the empty address the reason is that the first element, if there is one, has no
      selectors. -/
  empty : url = some "" →
    p.stabilityReason = p.candidate.parts.head?.map fun q => unlocatedReason q.1 q.2

theorem Analysis.assessedAt_of_proposals {a : Analysis} {config : Option Config}
    {prober : String → ProbeRun} {url : Option String} {view : PageView}
    (ha : ∀ e ∈ a.elements, e.selectors = none)
    (hview : (PageView.of prober url).value = .ok view) {p : Proposal}
    (hp : p ∈ a.proposals config view) : p.AssessedAt url := by
  obtain ⟨hnamed, hlive⟩ := PageView.of_switches hview
  obtain ⟨d, hcandidate, hparts, hreason, hstable⟩ := Analysis.proposals_made hp
  have hpart : ∀ q ∈ p.candidate.parts, ∃ e, q.2 = view.place e ∧ e.selectors = none := by
    intro q hq
    rw [hcandidate, Candidate.parts_mapElements] at hq
    obtain ⟨q', hq', rfl⟩ := List.mem_map.mp hq
    exact ⟨q'.2, rfl, ha _ (hparts q' hq')⟩
  have hempty : view.named = true → (view.live = none ↔ url = some "") := by
    intro hnamed'
    rw [← not_iff_not, ← Ne, hlive, and_iff_right (hnamed.mp hnamed')]
  refine ⟨?_, fun q hq => ?_, fun reason hsome => ?_, fun hurl => ?_⟩
  · rw [hstable, ← hnamed]
    cases view.named <;> simp
  · obtain ⟨e, hplace, he⟩ := hpart q hq
    rw [hplace, PageView.selectors_place he, hlive]
  · rw [hsome] at hreason
    split at hreason
    · next hnamed' =>
      rw [Candidate.instability_eq_findSome?] at hreason
      obtain ⟨q, hq, hverdict⟩ := List.exists_of_findSome?_eq_some hreason.symm
      obtain ⟨e, hplace, he⟩ := hpart q hq
      rw [hplace] at hverdict
      rw [PageView.saysUnlocated_place he hverdict, hempty hnamed']
    · cases hreason
  · have hnamed' : view.named = true := hnamed.mpr (by simp [hurl])
    rw [hreason, if_pos hnamed', Candidate.instability_eq_findSome?]
    cases hall : p.candidate.parts with
    | nil => rfl
    | cons q rest =>
      obtain ⟨e, hplace, he⟩ := hpart q (hall ▸ List.mem_cons_self)
      have hunlocated : q.2.selectors = none := by
        rw [hplace, ← not_ne_iff, PageView.selectors_place he, hlive]
        exact fun hboth => hboth.2 hurl
      rw [List.findSome?_cons, Element.instability_unlocated hunlocated]
      rfl

/-- **When stability is assessed**: elements are located iff an address is given that is not empty,
    and tools are assessed iff any address is given. So the tools of a source are assessed iff
    their elements are located, and no reason says that an element has no selectors, unless the
    address is empty; then every tool is assessed but none is located, and the first element of
    each is said to have no selectors. -/
theorem stability_assessed_iff {config : Option Config} {prober : String → ProbeRun}
    {url : Option String} {source fileName : String} {r : Instrumentation}
    (h : (instrument config prober url source fileName).value = .ok r) :
    (LocatesElements prober url ↔ url ≠ none ∧ url ≠ some "") ∧
    (∀ p ∈ r.outcome.proposals, p.AssessedAt url) ∧
    ((∀ p ∈ r.outcome.proposals, p.isStable ≠ none ↔ LocatesElements prober url) ↔
      url ≠ some "" ∨ r.outcome.proposals = []) ∧
    ((∀ p ∈ r.outcome.proposals, ∀ reason, p.stabilityReason = some reason →
        ¬ SaysUnlocated reason) ↔
      url ≠ some "" ∨ ∀ p ∈ r.outcome.proposals, p.candidate.parts = []) := by
  obtain ⟨a, view, ha, hview, hproposals⟩ := instrument_eq_ok h
  have hlocates : LocatesElements prober url ↔ url ≠ none ∧ url ≠ some "" := by
    rw [← (PageView.of_switches hview).2, Option.ne_none_iff_exists']
    constructor
    · rintro ⟨view', live, hview', hlive⟩
      cases hview.symm.trans hview'
      exact ⟨live, hlive⟩
    · rintro ⟨live, hlive⟩
      exact ⟨view, live, hview, hlive⟩
  have hassessed : ∀ p ∈ r.outcome.proposals, p.AssessedAt url := by
    rw [hproposals]
    exact fun p hp => Analysis.assessedAt_of_proposals (selectors_of_analyze ha) hview hp
  refine ⟨hlocates, hassessed, ⟨fun hall => ?_, ?_⟩, ⟨fun hall => ?_, ?_⟩⟩
  · refine or_iff_not_imp_left.mpr fun hurl => ?_
    have hurl := not_not.mp hurl
    refine List.eq_nil_iff_forall_not_mem.mpr fun p hp => ?_
    have hboth := (hassessed p hp).assessed.symm.trans ((hall p hp).trans hlocates)
    rw [hurl] at hboth
    simp at hboth
  · rintro (hurl | hnil) p hp
    · rw [(hassessed p hp).assessed, hlocates, and_iff_left hurl]
    · rw [hnil] at hp
      cases hp
  · refine or_iff_not_imp_left.mpr fun hurl p hp => ?_
    have hurl := not_not.mp hurl
    have hreason := (hassessed p hp).empty hurl
    cases hparts : p.candidate.parts with
    | nil => rfl
    | cons q rest =>
      rw [hparts] at hreason
      exact absurd (saysUnlocated_unlocatedReason q.1 q.2) (hall p hp _ hreason)
  · rintro (hurl | hnil) p hp reason hreason
    · exact fun hsays => hurl (((hassessed p hp).reason reason hreason).mp hsays)
    · intro hsays
      have hurl := ((hassessed p hp).reason reason hreason).mp hsays
      rw [(hassessed p hp).empty hurl, hnil p hp] at hreason
      cases hreason

/-- **At the empty address a tool is assessed that was not located.** -/
theorem empty_address_assessed : ∃ r,
    (instrument none unreachable (some "") "<button>Save</button>" "page.html").value = .ok r ∧
    r.outcome.proposals.map (fun p => (p.name, p.isStable, p.stabilityReason)) =
      [("save", some false, some "Trigger \"Save\" lacks a runtime selector entirely")] ∧
    ¬ LocatesElements unreachable (some "") ∧
    ¬ (∀ p ∈ r.outcome.proposals,
      p.isStable ≠ none ↔ LocatesElements unreachable (some "")) ∧
    ¬ ∀ p ∈ r.outcome.proposals, ∀ reason, p.stabilityReason = some reason →
      ¬ SaysUnlocated reason := by
  have hrun : (instrument none unreachable (some "") "<button>Save</button>"
      "page.html").value.toOption.map (fun r => r.outcome.proposals.map fun p =>
        (p.name, p.isStable, p.stabilityReason, p.candidate.parts.length)) =
      some [("save", some false,
        some "Trigger \"Save\" lacks a runtime selector entirely", 1)] := by
    decide +kernel
  obtain ⟨r, hr, htools⟩ := Option.map_eq_some_iff.mp hrun
  have hr := toOption_eq_some_iff.mp hr
  obtain ⟨hlocates, -, hassessed, hreasons⟩ := stability_assessed_iff hr
  obtain ⟨p, hp, htool⟩ := List.map_eq_singleton_iff.mp htools
  obtain ⟨hname, hstable, hreason, hlength⟩ : p.name = "save" ∧ p.isStable = some false ∧
      p.stabilityReason = some "Trigger \"Save\" lacks a runtime selector entirely" ∧
      p.candidate.parts.length = 1 := by
    simpa using htool
  refine ⟨r, hr, ?_, ?_, ?_, ?_⟩
  · rw [hp, List.map_singleton, hname, hstable, hreason]
  · rw [hlocates]
    exact fun hboth => hboth.2 rfl
  · rw [hassessed, hp]
    simp
  · rw [hreasons, hp]
    simp [← List.length_eq_zero_iff, hlength]

end Affordance
