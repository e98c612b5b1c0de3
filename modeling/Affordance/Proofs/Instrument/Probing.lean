import Mathlib.Data.List.Forall2
import Affordance.Instrument.Source
import Affordance.Proofs.Tool.Surface

/-!
# What a running page says about tools

  * `Element.unlocated`: an element but for the selectors that it is found by.
  * `Proposal.SameTool`: two proposals are of one tool.  Only the selectors of its elements and
    the verdict on their stability may differ, and the second is not selected unless the first
    is.
  * `proposalsFrom_sameTool`: locating the elements of assessed candidates changes no tool.
  * **`page_keeps_tools`**: naming the page that a source runs in leaves its tools as they are,
    whatever the page holds and also if it cannot be probed.
-/

namespace Affordance

open Affordance.Text

/-! ## 1. Elements without their selectors -/

/-- The element but for its selectors. -/
def Element.unlocated (e : Element) : Element := { e with selectors := none }

/-- The candidate but for the selectors of its elements. -/
def Candidate.unlocated (c : Candidate) : Candidate := c.mapElements Element.unlocated

/-- Elements that differ in their selectors alone agree in what does not depend on them. -/
theorem Element.eq_of_unlocated {α : Type} {a b : Element} (h : a.unlocated = b.unlocated)
    (get : Element → α) (hget : ∀ e : Element, get e.unlocated = get e) : get a = get b := by
  rw [← hget a, h, hget b]

/-- Elements that differ in their selectors alone show the same surface. -/
theorem Element.sameSurface_of_unlocated {a b : Element} (h : a.unlocated = b.unlocated) :
    a.SameSurface b where
  tag := eq_of_unlocated h tag fun _ => rfl
  id := eq_of_unlocated h id fun _ => rfl
  name := eq_of_unlocated h name fun _ => rfl
  label := eq_of_unlocated h label fun _ => rfl
  inputType := eq_of_unlocated h inputType fun _ => rfl
  submits := eq_of_unlocated h submitsForm fun _ => rfl
  stateBinding := eq_of_unlocated h stateBinding fun _ => rfl
  validation := eq_of_unlocated h validation fun _ => rfl
  accessibility := eq_of_unlocated h accessibility fun _ => rfl
  parentForm := eq_of_unlocated h parentForm fun _ => rfl
  formKey := eq_of_unlocated h formKey fun _ => rfl
  handlers := eq_of_unlocated h handlers fun _ => rfl
  options := eq_of_unlocated h options fun _ => rfl

theorem Element.unlocated_sameSurface (e : Element) : e.unlocated.SameSurface e :=
  sameSurface_of_unlocated rfl

/-- Locating an element changes nothing but its selectors. -/
theorem locate_unlocated (round : Rounding) (live : List LiveElement) (e : Element) :
    (locate round live e).element.unlocated = e.unlocated := by
  unfold locate
  dsimp only
  split <;> rfl

/-! ## 2. One tool -/

/-- The proposals are of one tool: they agree in all but the selectors of the elements and what
    was found about them. -/
structure Proposal.SameTool (p q : Proposal) : Prop where
  index : p.index = q.index
  id : p.id = q.id
  name : p.name = q.name
  description : p.description = q.description
  risk : p.risk = q.risk
  riskReason : p.riskReason = q.riskReason
  schema : p.schema = q.schema
  candidate : p.candidate.unlocated = q.candidate.unlocated
  selected : q.selected = true → p.selected = true

theorem Candidate.idFault?_unlocated (c : Candidate) : c.unlocated.idFault? = c.idFault? :=
  congrArg halfFault? (Candidate.identityText_map Element.unlocated_sameSurface c)

theorem Proposal.SameTool.idFault? {p q : Proposal} (h : p.SameTool q) :
    p.candidate.idFault? = q.candidate.idFault? := by
  rw [← Candidate.idFault?_unlocated, h.candidate, Candidate.idFault?_unlocated]

/-- Equal tools have no identity for the same first reason. -/
theorem findSome?_idFault? {ps qs : List Proposal} (h : List.Forall₂ Proposal.SameTool ps qs) :
    ps.findSome? (·.candidate.idFault?) = qs.findSome? (·.candidate.idFault?) := by
  induction h with
  | nil => rfl
  | cons hpq _ ih => rw [List.findSome?_cons, List.findSome?_cons, hpq.idFault?, ih]

section Located

variable {f : Element → Element} (hf : ∀ e, (f e).unlocated = e.unlocated)

include hf

theorem Candidate.unlocated_mapElements (c : Candidate) :
    (c.mapElements f).unlocated = c.unlocated := by
  have hcomp : Element.unlocated ∘ f = Element.unlocated := funext hf
  simp only [unlocated, mapElements, Option.map_map, List.map_map, hcomp]

/-- The step: a candidate whose elements are located is proposed as the same tool, and if it is
    selected then so is the candidate whose stability nobody asks for. -/
theorem Assessed.proposal_sameTool (a : Assessed) (assessStability : Bool) (index : Nat)
    (name : String) :
    (a.proposal false index name).SameTool
      ((a.mapElements f).proposal assessStability index name) where
  index := rfl
  id := (Candidate.id_map (fun e => Element.sameSurface_of_unlocated (hf e)) a.candidate).symm
  name := rfl
  description := (Candidate.description_map
    (fun e => Element.sameSurface_of_unlocated (hf e)) a.candidate).symm
  risk := rfl
  riskReason := rfl
  schema := (schema_map
    (fun e => Element.sameSurface_of_unlocated (hf e)) a.candidate.inputs).symm
  candidate := (a.candidate.unlocated_mapElements hf).symm
  selected := by
    intro h
    have hrisk := (Bool.and_eq_true_iff.mp h).1
    exact Bool.and_eq_true_iff.mpr ⟨hrisk, rfl⟩

/-- The run: locating elements changes no tool of a list of candidates. -/
theorem proposalsFrom_sameTool (assessStability : Bool) :
    ∀ (as : List Assessed) (taken : List String) (index : Nat),
      List.Forall₂ Proposal.SameTool (proposalsFrom false taken index as)
        (proposalsFrom assessStability taken index (as.map (Assessed.mapElements f)))
  | [], _, _ => .nil
  | a :: rest, taken, index => by
    rw [List.map_cons, proposalsFrom, proposalsFrom,
      show (a.mapElements f).assessment = a.assessment from rfl,
      show (a.mapElements f).name = a.name from rfl]
    split
    · exact proposalsFrom_sameTool assessStability rest taken index
    · exact .cons (a.proposal_sameTool hf assessStability index _)
        (proposalsFrom_sameTool assessStability rest _ _)

end Located

/-! ## 3. Analyses -/

/-- An element as a view of the page leaves it. -/
def PageView.place (view : PageView) (e : Element) : Element :=
  match view.live with
  | some live => (locate .binary live e).element
  | none => e

theorem PageView.place_unlocated (view : PageView) (e : Element) :
    (view.place e).unlocated = e.unlocated := by
  unfold place
  cases view.live with
  | none => rfl
  | some live => exact locate_unlocated .binary live e

theorem Analysis.seenIn_components (a : Analysis) (view : PageView) :
    (a.seenIn view).components = a.components.map (Component.mapElements view.place) := by
  cases hlive : view.live with
  | none =>
    have hplace : view.place = id := by
      funext e
      simp only [PageView.place, hlive, id]
    simp only [seenIn, hlive, hplace]
    exact ((List.map_congr_left fun c _ => c.mapElements_id).trans a.components.map_id).symm
  | some live =>
    have hplace : view.place = fun e => (locate .binary live e).element := by
      funext e
      simp only [PageView.place, hlive]
    simp only [seenIn, hlive, locatedAmong, locateAll, hplace, List.map_map]
    rfl

/-- Candidates are assessed as they were in the source. -/
theorem Analysis.assessedOf_seenIn (a : Analysis) (config : Option Config) (view : PageView) :
    assessedOf config (a.seenIn view).components =
      (assessedOf config a.components).map (Assessed.mapElements view.place) := by
  rw [seenIn_components]
  exact assessedOf_map
    (fun e => Element.sameSurface_of_unlocated (view.place_unlocated e)) config a.components

/-- The tools of an analysis are the same whatever is known of the page. -/
theorem Analysis.proposals_sameTool (a : Analysis) (config : Option Config) (view : PageView) :
    List.Forall₂ Proposal.SameTool (a.proposals config {}) (a.proposals config view) := by
  show List.Forall₂ Proposal.SameTool (proposalsFrom false [] 1 (assessedOf config a.components))
    (proposalsFrom view.named [] 1 (assessedOf config (a.seenIn view).components))
  rw [a.assessedOf_seenIn config view]
  exact proposalsFrom_sameTool view.place_unlocated view.named _ [] 1

/-! ## 4. Sources -/

theorem Outcome.proposals_ofProposals (ps : List Proposal) :
    (Outcome.ofProposals ps).proposals = ps := by
  cases ps <;> rfl

/-- Two runs end alike: both stop for one reason, or both propose the same tools. -/
inductive SameTools : Except Stop Instrumentation → Except Stop Instrumentation → Prop
  | stopped (e : Stop) : SameTools (.error e) (.error e)
  | proposed {r s : Instrumentation}
      (tools : List.Forall₂ Proposal.SameTool r.outcome.proposals s.outcome.proposals) :
      SameTools (.ok r) (.ok s)

/-- A page that is probed, or that cannot be, is viewed. -/
theorem PageView.of_eq_ok {prober : String → ProbeRun} {url : String}
    (h : ∀ e, (prober url).answer = .error e → ∃ f, e = .fault f) :
    ∃ view, (PageView.of prober (some url)).value = .ok view := by
  unfold PageView.of
  dsimp only
  split
  · exact ⟨_, rfl⟩
  · unfold PageView.ofRun
    cases hanswer : (prober url).answer with
    | ok es => exact ⟨_, rfl⟩
    | error e =>
      obtain ⟨f, rfl⟩ := h e hanswer
      exact ⟨_, rfl⟩

/-- **The running page never changes what the tools are**: a source whose page is named ends as
    it does without a page, whatever elements the page holds and also if probing it fails. Where a
    tool without an identity ends it (`Candidate.idFault?`), it is the same one. -/
theorem page_keeps_tools (config : Option Config) (prober : String → ProbeRun)
    (url source fileName : String)
    (h : ∀ e, (prober url).answer = .error e → ∃ f, e = .fault f) :
    SameTools (instrument config prober none source fileName).value
      (instrument config prober (some url) source fileName).value := by
  obtain ⟨view, hview⟩ := PageView.of_eq_ok h
  unfold instrument
  cases SourceFile.analyze source fileName with
  | error e => exact .stopped _
  | ok a =>
    have htools := a.proposals_sameTool config view
    have hfault := findSome?_idFault? htools
    simp only [PageView.of, Told.silent] at hview ⊢
    rw [hview]
    dsimp only
    rw [hfault]
    cases (a.proposals config view).findSome? (·.candidate.idFault?) with
    | some f => exact .stopped _
    | none =>
      refine .proposed ?_
      simpa only [Analysis.instrumented, Outcome.proposals_ofProposals] using htools

/-- A page that nobody answers for. -/
def unreachable (url : String) : ProbeRun where
  calls := []
  log := ""
  answer := .error (.fault ⟨"NAV_ERROR", "navigate", "navigation failed: refused", some url⟩)

/-- The names of the tools of a run, and why the page could not be probed. -/
def toolNames (r : Except Stop Instrumentation) : Option (List String × Option String) :=
  r.toOption.map fun r => (r.outcome.proposals.map (·.name), r.probeError)

theorem page_keeps_tools_unreachable :
    let source := "<button>Search</button><button>Search</button>"
    (∀ e, (unreachable "http://localhost").answer = .error e → ∃ f, e = .fault f) ∧
    SameTools (instrument none unreachable none source "page.html").value
      (instrument none unreachable (some "http://localhost") source "page.html").value ∧
    toolNames (instrument none unreachable none source "page.html").value =
      some (["search", "search_2"], none) ∧
    toolNames (instrument none unreachable (some "http://localhost") source "page.html").value =
      some (["search", "search_2"],
        some "[NAV_ERROR@navigate] navigation failed: refused (url=http://localhost)") := by
  have h : ∀ e, (unreachable "http://localhost").answer = .error e → ∃ f, e = .fault f := by
    intro e he
    cases he
    exact ⟨_, rfl⟩
  exact ⟨h, page_keeps_tools none unreachable "http://localhost" _ "page.html" h,
    by decide +kernel, by decide +kernel⟩

end Affordance
