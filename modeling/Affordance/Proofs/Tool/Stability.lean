import Mathlib.Data.List.Sections
import Mathlib.Tactic.Linarith
import Affordance.Proofs.Live.Ranking
import Affordance.Proofs.Tool.Surface

/-!
# What stability means

  * `topScore_spec`: the best confidence among selectors whose scores are numbers.
  * `Rounding.Separates`: rounded scores stand on the same side of the threshold as the exact ones;
    `separates_exact`, `separates_binary`.
  * `LiveElement.Dependable`, `Element.Dependable`: what has to be there, in the page or in the
    source, for an element to be found again. `enough_iff_dependable`: it is there iff a selector's
    score reaches the threshold.
  * `instability_located`: so an element that was located is found wanting iff it is not
    dependable.
  * **`stable_iff_dependable`**: a tool whose elements were located is stable iff all of them are
    dependable, and otherwise the reason names the first that is not.
-/

namespace Affordance

open Affordance.Number
open Affordance.Text
open Affordance.Vocabulary (toolMarks testMarks)

/-! ## 1. The best confidence -/

/-- The score is a number. -/
def Selector.Valued (s : Selector) : Prop := ∃ q, s.score = .value q

/-- A search for the best score that starts from a number. -/
theorem foldl_topScore : ∀ (ss : List Selector) (q : Rat), (∀ s ∈ ss, s.Valued) →
    ∃ p, ss.foldl (fun m s => if m.lt s.score then s.score else m) (.value q) = .value p ∧
      q ≤ p ∧ (p = q ∨ ∃ s ∈ ss, s.score = .value p) ∧ ∀ s ∈ ss, s.score.toRat ≤ p
  | [], q, _ => ⟨q, rfl, le_refl q, .inl rfl, fun s hs => absurd hs List.not_mem_nil⟩
  | s :: ss, q, h => by
    obtain ⟨⟨r, hr⟩, hrest⟩ := List.forall_mem_cons.mp h
    rw [List.foldl_cons, hr, Measure.lt_value]
    by_cases hlt : q < r
    · obtain ⟨p, hp, hrp, hfound, hle⟩ := foldl_topScore ss r hrest
      rw [if_pos (decide_eq_true hlt)]
      refine ⟨p, hp, hlt.le.trans hrp, .inr ?_, List.forall_mem_cons.mpr ⟨?_, hle⟩⟩
      · rcases hfound with rfl | ⟨t, ht, hscore⟩
        · exact ⟨s, List.mem_cons_self, hr⟩
        · exact ⟨t, List.mem_cons_of_mem s ht, hscore⟩
      · rw [hr]
        exact hrp
    · obtain ⟨p, hp, hqp, hfound, hle⟩ := foldl_topScore ss q hrest
      rw [if_neg (by simpa using hlt)]
      refine ⟨p, hp, hqp, ?_, List.forall_mem_cons.mpr ⟨?_, hle⟩⟩
      · rcases hfound with rfl | ⟨t, ht, hscore⟩
        · exact .inl rfl
        · exact .inr ⟨t, List.mem_cons_of_mem s ht, hscore⟩
      · rw [hr]
        exact (not_lt.mp hlt).trans hqp

/-- The best confidence is the greatest score of the selectors. -/
theorem topScore_spec {e : Element} {ss : List Selector} (h : e.selectors = some ss)
    (hne : ss ≠ []) (hvalued : ∀ s ∈ ss, s.Valued) :
    ∃ p, e.topScore = some (.value p) ∧ (∃ s ∈ ss, s.score = .value p) ∧
      ∀ s ∈ ss, s.score.toRat ≤ p := by
  cases ss with
  | nil => exact absurd rfl hne
  | cons s rest =>
    obtain ⟨⟨q, hq⟩, hrest⟩ := List.forall_mem_cons.mp hvalued
    obtain ⟨p, hp, hqp, hfound, hle⟩ := foldl_topScore rest q hrest
    refine ⟨p, ?_, ?_, List.forall_mem_cons.mpr ⟨?_, hle⟩⟩
    · unfold Element.topScore
      rw [h]
      dsimp only
      rw [hq, hp]
    · rcases hfound with rfl | ⟨t, ht, hscore⟩
      · exact ⟨s, List.mem_cons_self, hq⟩
      · exact ⟨t, List.mem_cons_of_mem s ht, hscore⟩
    · rw [hq]
      exact hqp

/-! ## 2. Roundings -/

/-- The threshold in use, rounded. -/
def RequiredScore.rounded (round : Rounding) : RequiredScore := ⟨.value (round (mkRat 6 10)), "0.6"⟩

theorem RequiredScore.rounded_binary : rounded .binary = standard := rfl

/-- Rounded scores stand on the same side of the rounded threshold as the exact ones. -/
structure Rounding.Separates (round : Rounding) : Prop where
  toolHook : round (mkRat 6 10) ≤ 1
  testHook : round (mkRat 6 10) ≤ round (mkRat 9 10)
  label : round (mkRat 6 10) ≤ round (mkRat 8 10)
  id : round (mkRat 5 10) < round (mkRat 6 10)
  name : round (mkRat 4 10) < round (mkRat 6 10)
  leastPath : round (mkRat 2 10) < round (mkRat 6 10)
  tag : round (mkRat 1 10) < round (mkRat 6 10)
  halfMatch : ∀ e l, round (matchScore round e l * mkRat 1 2) < round (mkRat 6 10)

theorem separates_exact : Rounding.exact.Separates where
  toolHook := by decide +kernel
  testHook := by decide +kernel
  label := by decide +kernel
  id := by decide +kernel
  name := by decide +kernel
  leastPath := by decide +kernel
  tag := by decide +kernel
  halfMatch := by
    intro e l
    have hscore := matchScore_le_one .exact e l
    have hhalf : (mkRat 1 2 : Rat) = 1 / 2 := by decide +kernel
    have hthreshold : (mkRat 6 10 : Rat) = 6 / 10 := by decide +kernel
    show matchScore .exact e l * mkRat 1 2 < mkRat 6 10
    rw [hhalf, hthreshold]
    linarith

/-- The weights that each agreement may have. -/
def possibleWeights (round : Rounding) : List (List Rat) :=
  let w := weights round
  [[0, w.id], [0, w.name], [0, w.testHook], [0, w.toolHook], [0, w.label, w.partOfLabel],
    [0, w.role]]

theorem when_mem (b : Bool) (q : Rat) : (if b then q else 0) ∈ [0, q] := by
  cases b <;> simp

theorem labelWeight_mem (w : MatchWeights) (a b : String) :
    labelWeight w a b ∈ [0, w.label, w.partOfLabel] := by
  unfold labelWeight
  repeat' split
  all_goals simp

theorem agreements_mem_sections (round : Rounding) (e : Element) (l : LiveElement) :
    agreements round e l ∈ (possibleWeights round).sections := by
  unfold agreements possibleWeights
  refine List.mem_sections.mpr (.cons (when_mem _ _) (.cons (when_mem _ _) (.cons (when_mem _ _)
    (.cons (when_mem _ _) (.cons (labelWeight_mem _ _ _) (.cons (when_mem _ _) .nil))))))

theorem separates_binary : Rounding.binary.Separates where
  toolHook := by decide +kernel
  testHook := by decide +kernel
  label := by decide +kernel
  id := by decide +kernel
  name := by decide +kernel
  leastPath := by decide +kernel
  tag := by decide +kernel
  halfMatch := by
    -- sums are rounded step by step, so all that may come out are looked at
    have hsums : ∀ ws ∈ (possibleWeights .binary).sections,
        let sum := ws.foldl (fun s w => Rounding.binary (s + w)) 0
        Rounding.binary ((if sum ≤ 1 then sum else 1) * mkRat 1 2) <
          Rounding.binary (mkRat 6 10) := by
      decide +kernel
    exact fun e l => hsums _ (agreements_mem_sections .binary e l)

/-! ## 3. Dependable elements -/

/-- One of the attributes is there and not empty. -/
def Marked (attributes : List (String × String)) (names : List String) : Prop :=
  ∃ n ∈ names, ∃ v, attributes.lookup n = some v ∧ v ≠ ""

theorem marked_iff {attributes : List (String × String)} {names : List String} :
    Marked attributes names ↔ ∃ n v, firstMark attributes names = some (n, v) := by
  constructor
  · rintro ⟨n, hn, v, hv, hne⟩
    have hsome : firstMark attributes names ≠ none := by
      intro hnone
      have hn := List.findSome?_eq_none_iff.mp hnone n hn
      rw [nonEmpty_eq_some.mpr ⟨hv, hne⟩] at hn
      cases hn
    obtain ⟨m, hm⟩ := Option.ne_none_iff_exists'.mp hsome
    exact ⟨m.1, m.2, hm⟩
  · rintro ⟨n, v, h⟩
    obtain ⟨n', hn', h⟩ := List.exists_of_findSome?_eq_some h
    obtain ⟨v', hv', h⟩ := Option.map_eq_some_iff.mp h
    cases h
    obtain ⟨hv, hne⟩ := nonEmpty_eq_some.mp hv'
    exact ⟨n, hn', v, hv, hne⟩

/-- The live element has a mark for tools or tests, or a name that is not blank. -/
def LiveElement.Dependable (l : LiveElement) : Prop :=
  Marked l.attributes toolMarks ∨ Marked l.attributes testMarks ∨ trim l.accessibleName ≠ ""

/-- Among live elements, the element is matched with one that is dependable, or it is matched with
    none and has a mark for tests of its own. -/
def Element.Dependable (round : Rounding) (live : List LiveElement) (e : Element) : Prop :=
  (∃ i l, (locate round live e).live = some i ∧ live[i]? = some l ∧ l.Dependable) ∨
    ((locate round live e).live = none ∧ Marked e.attributes testMarks)

section Separated

variable {round : Rounding} (h : round.Separates)

include h

theorem liveSelectors_enough_iff {e : Element} {l : LiveElement} :
    (∃ s ∈ liveSelectors round l (.value (matchScore round e l)),
      round (mkRat 6 10) ≤ s.score.toRat) ↔ l.Dependable := by
  constructor
  · rintro ⟨s, hs, henough⟩
    cases mem_liveSelectors.mp hs with
    | toolHook hmark => exact .inl (marked_iff.mpr ⟨_, _, hmark⟩)
    | testHook hmark => exact .inr (.inl (marked_iff.mpr ⟨_, _, hmark⟩))
    | label hname => exact .inr (.inr hname)
    | role hname => exact .inr (.inr hname)
    | path =>
      rw [pathScore_value] at henough
      exact absurd henough (not_le.mpr (max_lt h.leastPath (h.halfMatch e l)))
  · rintro (hmark | hmark | hname)
    · obtain ⟨n, v, hmark⟩ := marked_iff.mp hmark
      exact ⟨_, mem_liveSelectors.mpr (.toolHook hmark), h.toolHook⟩
    · obtain ⟨n, v, hmark⟩ := marked_iff.mp hmark
      exact ⟨_, mem_liveSelectors.mpr (.testHook hmark), h.testHook⟩
    · exact ⟨_, mem_liveSelectors.mpr (.label hname), h.label⟩

theorem sourceSelectors_enough_iff {e : Element} :
    (∃ s ∈ sourceSelectors round e, round (mkRat 6 10) ≤ s.score.toRat) ↔
      Marked e.attributes testMarks := by
  constructor
  · rintro ⟨s, hs, henough⟩
    cases mem_sourceSelectors.mp hs with
    | testHook hmark => exact marked_iff.mpr ⟨_, _, hmark⟩
    | id => exact absurd henough (not_le.mpr h.id)
    | name => exact absurd henough (not_le.mpr h.name)
    | tag => exact absurd henough (not_le.mpr h.tag)
  · intro hmark
    obtain ⟨n, v, hmark⟩ := marked_iff.mp hmark
    exact ⟨_, mem_sourceSelectors.mpr (.testHook hmark), h.testHook⟩

/-- **A selector of a located element reaches the threshold iff the element is dependable.** -/
theorem enough_iff_dependable (live : List LiveElement) (e : Element) :
    ∃ ss, (locate round live e).element = { e with selectors := some ss } ∧ ss ≠ [] ∧
      (∀ s ∈ ss, s.Valued) ∧
      ((∃ s ∈ ss, round (mkRat 6 10) ≤ s.score.toRat) ↔ e.Dependable round live) := by
  rcases locate_cases round live e with
    ⟨before, l, after, rfl, -, -, hlocate⟩ | ⟨-, hlocate⟩
  · refine ⟨_, congrArg Located.element hlocate, liveSelectors_ne_nil _ _ _, fun s hs => ?_, ?_⟩
    · cases mem_liveSelectors.mp hs with
      | path => exact ⟨_, pathScore_value round _⟩
      | _ => exact ⟨_, rfl⟩
    · rw [liveSelectors_enough_iff h, Element.Dependable, hlocate]
      have hat : (before ++ l :: after)[before.length]? = some l := by
        rw [List.getElem?_append_right (le_refl _), Nat.sub_self, List.getElem?_cons_zero]
      constructor
      · exact fun hl => .inl ⟨before.length, l, rfl, hat, hl⟩
      · rintro (⟨i, k, hi, hk, hdependable⟩ | ⟨hnone, -⟩)
        · obtain rfl := Option.some.inj hi
          obtain rfl := Option.some.inj (hat.symm.trans hk)
          exact hdependable
        · cases hnone
  · refine ⟨_, congrArg Located.element hlocate, sourceSelectors_ne_nil _ _, fun s hs => ?_, ?_⟩
    · cases mem_sourceSelectors.mp hs <;> exact ⟨_, rfl⟩
    · rw [sourceSelectors_enough_iff h, Element.Dependable, hlocate]
      constructor
      · exact fun hmark => .inr ⟨rfl, hmark⟩
      · rintro (⟨i, k, hi, -⟩ | ⟨-, hmark⟩)
        · cases hi
        · exact hmark

end Separated

/-! ## 4. Verdicts -/

/-- What is said of an element whose best confidence is too low. -/
def shortfall (kind : String) (e : Element) (top : Rat) : String :=
  kind ++ " \"" ++ e.reference ++ "\"" ++ " top selector score " ++ (Measure.value top).fixed 2 ++
  " is below 0.6"

/-- The elements of a tool as they are looked at, with what messages call them. -/
def Candidate.parts (c : Candidate) : List (String × Element) :=
  c.inputs.map ("Field", ·) ++ c.trigger.toList.map ("Trigger", ·)

theorem Candidate.parts_mapElements (f : Element → Element) (c : Candidate) :
    (c.mapElements f).parts = c.parts.map fun p => (p.1, f p.2) := by
  unfold parts mapElements
  rw [List.map_append, List.map_map, List.map_map, List.map_map]
  cases c.trigger <;> rfl

/-- The verdict on a tool is that on the first of its elements that is found wanting. -/
theorem Candidate.instability_eq_findSome? (threshold : RequiredScore) (c : Candidate) :
    c.instability threshold = c.parts.findSome? fun p => p.2.instability threshold p.1 := by
  unfold instability parts
  rw [List.findSome?_append, List.findSome?_map, List.findSome?_map, Option.orElse_eq_orElse]
  cases c.trigger <;> simp [Function.comp_def]

section Separated

variable {round : Rounding} (h : round.Separates)

include h

/-- The verdict on a located element. -/
theorem Element.instability_located (live : List LiveElement) (e : Element) (kind : String) :
    ∃ top, (locate round live e).element.topScore = some (.value top) ∧
      (e.Dependable round live ↔ round (mkRat 6 10) ≤ top) ∧
      (locate round live e).element.instability (.rounded round) kind =
        if round (mkRat 6 10) ≤ top then none else some (shortfall kind e top) := by
  obtain ⟨ss, helement, hne, hvalued, henough⟩ := enough_iff_dependable h live e
  rw [helement]
  obtain ⟨top, htop, ⟨s, hs, hscore⟩, hle⟩ :=
    topScore_spec (e := { e with selectors := some ss }) rfl hne hvalued
  refine ⟨top, htop, ?_, ?_⟩
  · rw [← henough]
    constructor
    · rintro ⟨t, ht, hreach⟩
      exact hreach.trans (hle t ht)
    · intro hreach
      refine ⟨s, hs, ?_⟩
      rw [hscore]
      exact hreach
  · unfold Element.instability
    rw [htop]
    simp only [RequiredScore.rounded, Measure.lt_value, decide_eq_true_eq]
    by_cases hreach : round (mkRat 6 10) ≤ top
    · rw [if_pos hreach, if_neg (not_lt.mpr hreach)]
    · have htext : " is below 0.6" = " is below " ++ "0.6" := by decide
      rw [if_neg hreach, if_pos (not_le.mp hreach), shortfall, htext, ← String.append_assoc]
      rfl

/-- The verdict on a tool whose elements were located. -/
theorem Candidate.instability_located (live : List LiveElement) (c : Candidate) :
    let seen := c.mapElements fun e => (locate round live e).element
    (seen.instability (.rounded round) = none ↔ ∀ p ∈ c.parts, p.2.Dependable round live) ∧
    ∀ reason, seen.instability (.rounded round) = some reason →
      ∃ before kind e after top, c.parts = before ++ (kind, e) :: after ∧
        (∀ p ∈ before, p.2.Dependable round live) ∧ ¬ e.Dependable round live ∧
        (locate round live e).element.topScore = some (.value top) ∧ top < round (mkRat 6 10) ∧
        reason = shortfall kind e top := by
  intro seen
  have hnone : ∀ p : String × Element,
      (locate round live p.2).element.instability (.rounded round) p.1 = none ↔
        p.2.Dependable round live := by
    intro p
    obtain ⟨top, -, hdependable, hverdict⟩ := p.2.instability_located h live p.1
    rw [hverdict, hdependable]
    by_cases hreach : round (mkRat 6 10) ≤ top <;> simp [hreach]
  have hseen : seen.instability (.rounded round) = c.parts.findSome? fun p =>
      (locate round live p.2).element.instability (.rounded round) p.1 := by
    rw [Candidate.instability_eq_findSome?, Candidate.parts_mapElements, List.findSome?_map]
    rfl
  rw [hseen]
  constructor
  · rw [List.findSome?_eq_none_iff]
    exact forall₂_congr fun p _ => hnone p
  · intro reason hreason
    obtain ⟨before, ⟨kind, e⟩, after, hsplit, hfails, hbefore⟩ :=
      List.findSome?_eq_some_iff.mp hreason
    obtain ⟨top, htop, hdependable, hverdict⟩ := e.instability_located h live kind
    dsimp only at hfails
    rw [hverdict] at hfails
    split at hfails
    · cases hfails
    · next hreach =>
      cases hfails
      exact ⟨before, kind, e, after, top, hsplit, fun p hp => (hnone p).mp (hbefore p hp),
        fun hdep => hreach (hdependable.mp hdep), htop, not_le.mp hreach, rfl⟩

end Separated

/-- **What stability means**: a tool whose elements were located among any live elements is stable
    iff each of its inputs and its trigger, if it has one, is matched with a live element that has a
    mark for tools or tests or a name that is not blank, or is matched with none and has a mark for
    tests in the source. Otherwise the reason names the first that is not, inputs before the
    trigger, with its best confidence. -/
theorem stable_iff_dependable (live : List LiveElement) (c : Candidate) :
    let seen := c.mapElements fun e => (locate .exact live e).element
    (seen.instability (.rounded .exact) = none ↔ ∀ p ∈ c.parts, p.2.Dependable .exact live) ∧
    ∀ reason, seen.instability (.rounded .exact) = some reason →
      ∃ before kind e after top, c.parts = before ++ (kind, e) :: after ∧
        (∀ p ∈ before, p.2.Dependable .exact live) ∧ ¬ e.Dependable .exact live ∧
        (locate .exact live e).element.topScore = some (.value top) ∧ top < mkRat 6 10 ∧
        reason = shortfall kind e top :=
  c.instability_located separates_exact live

/-- Rounded scores give the same verdicts: a tool is stable under the threshold in use iff its
    elements are dependable. -/
theorem stable_binary_iff (live : List LiveElement) (c : Candidate) :
    (c.mapElements fun e => (locate .binary live e).element).instability .standard = none ↔
      ∀ p ∈ c.parts, p.2.Dependable .binary live :=
  (c.instability_located separates_binary live).1

end Affordance
