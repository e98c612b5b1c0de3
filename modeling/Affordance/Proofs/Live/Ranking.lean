import Mathlib.Algebra.Order.Ring.Rat
import Mathlib.Data.List.Forall2
import Mathlib.Data.List.MinMax
import Mathlib.Tactic.Linarith
import Affordance.Live.Matching

/-!
# Live elements matched, selectors ranked

  * `bestFrom_cases`: what a search through live elements has found so far, by induction on them:
    the best of before, or the FIRST of the greatest score.
  * **`locate_cases`**: the two ways to locate an element. It is found as such a live element, whose
    score is above the threshold, or no live element's score is.
  * `FromLive`, `FromSource`: the selectors that an element gets in either case, one constructor for
    each; `mem_liveSelectors`, `mem_sourceSelectors`.
  * `Ranked`: selectors of falling scores. `ranked_sorted`: sorting them makes them so.
  * **`located_ranked`**: hence every element is located with ranked selectors, the first of the
    best live elements is the one that it is matched with, and more live elements lower no score.
-/

namespace Affordance

open Affordance.Number
open Affordance.Text
open Affordance.Vocabulary (toolMarks testMarks)

/-! ## 1. The best of some live elements -/

/-- The live element between two parts of a list is the first of the greatest score. -/
structure FirstBest (score : LiveElement → Rat) (before : List LiveElement) (l : LiveElement)
    (after : List LiveElement) : Prop where
  before_lt : ∀ k ∈ before, score k < score l
  after_le : ∀ k ∈ after, score k ≤ score l

namespace FirstBest

variable {score : LiveElement → Rat} {before after : List LiveElement} {l : LiveElement}

theorem cons {k : LiveElement} (h : FirstBest score before l after) (hk : score k < score l) :
    FirstBest score (k :: before) l after :=
  ⟨List.forall_mem_cons.mpr ⟨hk, h.before_lt⟩, h.after_le⟩

theorem le (h : FirstBest score before l after) :
    ∀ k ∈ before ++ l :: after, score k ≤ score l := by
  intro k hk
  rcases List.mem_append.mp hk with hk | hk
  · exact (h.before_lt k hk).le
  · rcases List.mem_cons.mp hk with rfl | hk
    · exact le_refl _
    · exact h.after_le k hk

theorem maximum (h : FirstBest score before l after) :
    ((before ++ l :: after).map score).maximum = score l := by
  refine List.maximum_eq_coe_iff.mpr ⟨List.mem_map.mpr ⟨l, by simp, rfl⟩, fun q hq => ?_⟩
  obtain ⟨k, hk, rfl⟩ := List.mem_map.mp hq
  exact h.le k hk

end FirstBest

section Search

variable (round : Rounding) (e : Element)

/-- What a search has found: the best of before, which nothing exceeds, or the first of the best
    live elements. -/
theorem bestFrom_cases : ∀ (ls : List LiveElement) (best : Option Nat × Rat) (i : Nat),
    (bestFrom round e best i ls = best ∧ ∀ l ∈ ls, matchScore round e l ≤ best.2) ∨
      ∃ before l after, ls = before ++ l :: after ∧
        bestFrom round e best i ls = (some (i + before.length), matchScore round e l) ∧
        best.2 < matchScore round e l ∧ FirstBest (matchScore round e) before l after
  | [], best, _ => .inl ⟨rfl, fun l hl => absurd hl List.not_mem_nil⟩
  | l :: ls, best, i => by
    rw [bestFrom]
    by_cases hl : best.2 < matchScore round e l
    · rw [if_pos hl]
      right
      rcases bestFrom_cases ls (some i, matchScore round e l) (i + 1) with
        ⟨hfound, hle⟩ | ⟨before, k, after, rfl, hfound, hlt, hbest⟩
      · exact ⟨[], l, ls, rfl, hfound, hl, fun k hk => absurd hk List.not_mem_nil, hle⟩
      · refine ⟨l :: before, k, after, rfl, ?_, hl.trans hlt, hbest.cons hlt⟩
        rw [hfound, List.length_cons, Nat.add_right_comm, Nat.add_assoc]
    · rw [if_neg hl]
      rcases bestFrom_cases ls best (i + 1) with
        ⟨hfound, hle⟩ | ⟨before, k, after, rfl, hfound, hlt, hbest⟩
      · exact .inl ⟨hfound, List.forall_mem_cons.mpr ⟨not_lt.mp hl, hle⟩⟩
      · refine .inr ⟨l :: before, k, after, rfl, ?_, hlt,
          hbest.cons (lt_of_le_of_lt (not_lt.mp hl) hlt)⟩
        rw [hfound, List.length_cons, Nat.add_right_comm, Nat.add_assoc]

theorem likeliest_cases (live : List LiveElement) :
    (likeliest round e live = (none, 0) ∧ ∀ l ∈ live, matchScore round e l ≤ 0) ∨
      ∃ before l after, live = before ++ l :: after ∧
        likeliest round e live = (some before.length, matchScore round e l) ∧
        0 < matchScore round e l ∧ FirstBest (matchScore round e) before l after := by
  rcases bestFrom_cases round e live (none, 0) 0 with
    hnone | ⟨before, l, after, hsplit, hfound, hlt, hbest⟩
  · exact .inl hnone
  · refine .inr ⟨before, l, after, hsplit, ?_, hlt, hbest⟩
    rw [likeliest, hfound, Nat.zero_add]

end Search

/-! ## 2. The two ways to locate an element -/

/-- **What locating an element does**: it is matched with the first of the best live elements, if
    that one's score is above the threshold, or has the selectors of the source. -/
theorem locate_cases (round : Rounding) (live : List LiveElement) (e : Element) :
    (∃ before l after, live = before ++ l :: after ∧
        FirstBest (matchScore round e) before l after ∧
        acceptanceScore round < matchScore round e l ∧
        locate round live e =
          ⟨{ e with selectors := some (liveSelectors round l (.value (matchScore round e l))) },
            some before.length, matchScore round e l⟩) ∨
      ((∀ l ∈ live, matchScore round e l ≤ max 0 (acceptanceScore round)) ∧
        locate round live e =
          ⟨{ e with selectors := some (sourceSelectors round e) }, none,
            (likeliest round e live).2⟩) := by
  unfold locate
  rcases likeliest_cases round e live with
    ⟨hfound, hle⟩ | ⟨before, l, after, hsplit, hfound, -, hbest⟩
  · rw [hfound]
    exact .inr ⟨fun l hl => le_max_of_le_left (hle l hl), rfl⟩
  · have hat : live[before.length]? = some l := by
      rw [hsplit, List.getElem?_append_right (le_refl _), Nat.sub_self, List.getElem?_cons_zero]
    rw [hfound]
    simp only [Option.bind_some, hat, Option.map_some, Option.filter_some, decide_eq_true_eq]
    by_cases habove : acceptanceScore round < matchScore round e l
    · refine .inl ⟨before, l, after, hsplit, hbest, habove, ?_⟩
      rw [if_pos habove]
    · refine .inr ⟨fun k hk => le_max_of_le_right ((hbest.le k ?_).trans (not_lt.mp habove)), ?_⟩
      · exact hsplit ▸ hk
      · rw [if_neg habove]

/-! ## 3. Scores -/

/-- What an agreement weighs, if there is one. -/
theorem zero_le_when (b : Bool) {q : Rat} (h : 0 ≤ q) : 0 ≤ if b then q else 0 := by
  split
  · exact h
  · exact le_refl 0

theorem zero_le_labelWeight {w : MatchWeights} (h : 0 ≤ w.label) (hpart : 0 ≤ w.partOfLabel)
    (a b : String) : 0 ≤ labelWeight w a b := by
  unfold labelWeight
  repeat' split
  · exact le_refl 0
  · exact h
  · exact hpart
  · exact le_refl 0

theorem zero_le_agreements (e : Element) (l : LiveElement) :
    ∀ q ∈ agreements .exact e l, 0 ≤ q := by
  unfold agreements
  simp only [List.forall_mem_cons]
  refine ⟨zero_le_when _ ?_, zero_le_when _ ?_, zero_le_when _ ?_, zero_le_when _ ?_,
    zero_le_labelWeight ?_ ?_ _ _, zero_le_when _ ?_, fun q hq => absurd hq List.not_mem_nil⟩
  all_goals decide +kernel

theorem zero_le_foldl : ∀ (qs : List Rat) {s : Rat}, 0 ≤ s → (∀ q ∈ qs, 0 ≤ q) →
    0 ≤ qs.foldl (fun s q => Rounding.exact (s + q)) s
  | [], _, hs, _ => hs
  | q :: qs, s, hs, hqs => by
    obtain ⟨hq, hrest⟩ := List.forall_mem_cons.mp hqs
    exact zero_le_foldl qs (add_nonneg hs hq) hrest

theorem zero_le_matchScore (e : Element) (l : LiveElement) : 0 ≤ matchScore .exact e l := by
  unfold matchScore
  dsimp only
  split
  · exact zero_le_foldl _ (le_refl 0) (zero_le_agreements e l)
  · exact zero_le_one

theorem matchScore_le_one (round : Rounding) (e : Element) (l : LiveElement) :
    matchScore round e l ≤ 1 := by
  unfold matchScore
  dsimp only
  split
  · assumption
  · exact le_refl 1

/-- The greatest score of the live elements; none without live elements. -/
def greatestScore (round : Rounding) (e : Element) (live : List LiveElement) : WithBot Rat :=
  (live.map (matchScore round e)).maximum

theorem greatestScore_split {round : Rounding} {e : Element} {before after : List LiveElement}
    {l : LiveElement} (h : FirstBest (matchScore round e) before l after) :
    greatestScore round e (before ++ l :: after) = matchScore round e l := h.maximum

theorem greatestScore_le {round : Rounding} {e : Element} {live : List LiveElement} {q : Rat}
    (h : ∀ l ∈ live, matchScore round e l ≤ q) : greatestScore round e live ≤ q := by
  refine List.maximum_le_of_forall_le fun p hp => ?_
  obtain ⟨l, hl, rfl⟩ := List.mem_map.mp hp
  exact WithBot.coe_le_coe.mpr (h l hl)

theorem zero_le_greatestScore (e : Element) (live : List LiveElement) :
    0 ≤ (greatestScore .exact e live).unbotD 0 := by
  cases hgreatest : greatestScore .exact e live with
  | bot => exact le_refl 0
  | coe q =>
    obtain ⟨l, -, rfl⟩ := List.mem_map.mp (List.maximum_mem hgreatest)
    exact zero_le_matchScore e l

/-- The score of the search is the greatest one, zero without live elements. -/
theorem likeliest_score (e : Element) (live : List LiveElement) :
    (likeliest .exact e live).2 = (greatestScore .exact e live).unbotD 0 := by
  rcases likeliest_cases .exact e live with
    ⟨hfound, hle⟩ | ⟨before, l, after, rfl, hfound, -, hbest⟩
  · rw [hfound]
    refine le_antisymm (zero_le_greatestScore e live) ?_
    have hgreatest := greatestScore_le hle
    cases hscore : greatestScore .exact e live with
    | bot => exact le_refl 0
    | coe q => exact WithBot.coe_le_coe.mp (hscore ▸ hgreatest)
  · rw [hfound, greatestScore_split hbest, WithBot.unbotD_coe]

/-! ## 4. Selectors -/

/-- A selector that a live element yields, which fits with a score. -/
inductive FromLive (round : Rounding) (l : LiveElement) (score : Measure) : Selector → Prop
  | toolHook {n v : String} : firstMark l.attributes toolMarks = some (n, v) →
      FromLive round l score ⟨.toolHook, attributeSelector n v, .value 1⟩
  | testHook {n v : String} : firstMark l.attributes testMarks = some (n, v) →
      FromLive round l score ⟨.testId, attributeSelector n v, .value (round (mkRat 9 10))⟩
  | label : trim l.accessibleName ≠ "" →
      FromLive round l score ⟨.label, trim l.accessibleName, .value (round (mkRat 8 10))⟩
  | role {r : String} : trim l.accessibleName ≠ "" → nonEmpty l.role = some r →
      FromLive round l score
        ⟨.role, r ++ ":" ++ trim l.accessibleName, .value (round (mkRat 6 10))⟩
  | path : FromLive round l score ⟨.css, l.selector, pathScore round score⟩

/-- A selector that the source alone yields. -/
inductive FromSource (round : Rounding) (e : Element) : Selector → Prop
  | testHook {n v : String} : firstMark e.attributes testMarks = some (n, v) →
      FromSource round e ⟨.testId, attributeSelector n v, .value (round (mkRat 9 10))⟩
  | id {i : String} : nonEmpty e.id = some i →
      FromSource round e ⟨.css, if isPlainIdentifier i then "#" ++ i else attributeSelector "id" i,
        .value (round (mkRat 5 10))⟩
  | name {n : String} : nonEmpty e.name = some n →
      FromSource round e
        ⟨.css, e.tag.text ++ attributeSelector "name" n, .value (round (mkRat 4 10))⟩
  | tag : firstMark e.attributes testMarks = none → nonEmpty e.id = none →
      nonEmpty e.name = none → FromSource round e ⟨.css, e.tag.text, .value (round (mkRat 1 10))⟩

theorem mem_ranked {s : Selector} {ss : List Selector} : s ∈ ranked ss ↔ s ∈ ss :=
  List.mem_mergeSort

theorem mem_liveSelectors {round : Rounding} {l : LiveElement} {score : Measure} {s : Selector} :
    s ∈ liveSelectors round l score ↔ FromLive round l score s := by
  unfold liveSelectors
  dsimp only
  rw [mem_ranked]
  constructor
  · intro h
    simp only [List.mem_append, List.mem_singleton] at h
    rcases h with ((h | h) | h) | rfl
    · split at h
      · obtain rfl := List.mem_singleton.mp h
        exact .toolHook ‹_›
      · cases h
    · split at h
      · obtain rfl := List.mem_singleton.mp h
        exact .testHook ‹_›
      · cases h
    · split at h
      · cases h
      · rcases List.mem_cons.mp h with rfl | h
        · exact .label ‹_›
        · split at h
          · obtain rfl := List.mem_singleton.mp h
            exact .role ‹_› ‹_›
          · cases h
    · exact .path
  · intro h
    cases h with
    | toolHook h => simp [h]
    | testHook h => simp [h]
    | label h => simp [h]
    | role h hrole => simp [h, hrole]
    | path => simp

theorem mem_unlessEmpty {s t : Selector} {ss : List Selector} :
    s ∈ (if ss.isEmpty then [t] else ss) ↔ s ∈ ss ∨ ss = [] ∧ s = t := by
  cases ss <;> simp

theorem mem_sourceSelectors {round : Rounding} {e : Element} {s : Selector} :
    s ∈ sourceSelectors round e ↔ FromSource round e s := by
  unfold sourceSelectors
  dsimp only
  rw [mem_ranked, mem_unlessEmpty]
  simp only [List.mem_append, List.append_eq_nil_iff]
  constructor
  · rintro (((h | h) | h) | ⟨⟨⟨hmark, hid⟩, hname⟩, rfl⟩)
    · split at h
      · obtain rfl := List.mem_singleton.mp h
        exact .testHook ‹_›
      · cases h
    · split at h
      · obtain rfl := List.mem_singleton.mp h
        exact .id ‹_›
      · cases h
    · split at h
      · obtain rfl := List.mem_singleton.mp h
        exact .name ‹_›
      · cases h
    · -- the tag alone is left where no other selector is
      split at hmark <;> split at hid <;> split at hname
      all_goals first | exact .tag ‹_› ‹_› ‹_› | contradiction
  · intro h
    cases h with
    | testHook h => simp [h]
    | id h => simp [h]
    | name h => simp [h]
    | tag hmark hid hname => simp [hmark, hid, hname]

theorem liveSelectors_ne_nil (round : Rounding) (l : LiveElement) (score : Measure) :
    liveSelectors round l score ≠ [] :=
  List.ne_nil_of_mem (mem_liveSelectors.mpr .path)

/-- The source yields a selector, that of the tag if no other. -/
theorem sourceSelectors_ne_nil (round : Rounding) (e : Element) :
    sourceSelectors round e ≠ [] := by
  suffices h : ∃ s, FromSource round e s by
    obtain ⟨s, hs⟩ := h
    exact List.ne_nil_of_mem (mem_sourceSelectors.mpr hs)
  cases hmark : firstMark e.attributes testMarks with
  | some m => exact ⟨_, .testHook hmark⟩
  | none =>
    cases hid : nonEmpty e.id with
    | some i => exact ⟨_, .id hid⟩
    | none =>
      cases hname : nonEmpty e.name with
      | some n => exact ⟨_, .name hname⟩
      | none => exact ⟨_, .tag hmark hid hname⟩

/-! ## 5. Ranking -/

/-- The score is a number above zero and one at most. -/
def Selector.Scored (s : Selector) : Prop := ∃ q, s.score = .value q ∧ 0 < q ∧ q ≤ 1

/-- There are selectors, and their scores are in range and do not rise. -/
structure Ranked (ss : List Selector) : Prop where
  nonempty : ss ≠ []
  scored : ∀ s ∈ ss, s.Scored
  falling : ss.Pairwise fun s t => t.score.toRat ≤ s.score.toRat

theorem pathScore_value (round : Rounding) (q : Rat) :
    pathScore round (.value q) =
      .value (max (round (mkRat 2 10)) (round (q * mkRat 1 2))) := by
  unfold pathScore
  dsimp only
  rw [Measure.lt_value, max_def]
  by_cases h : round (mkRat 2 10) < round (q * mkRat 1 2)
  · rw [if_pos (decide_eq_true h), if_pos h.le]
  · rw [if_neg (by simpa using h)]
    by_cases hle : round (mkRat 2 10) ≤ round (q * mkRat 1 2)
    · rw [if_pos hle, le_antisymm hle (not_lt.mp h)]
    · rw [if_neg hle]

/-- A selector of a live element is scored if the score of the match is one at most. -/
theorem FromLive.scored {l : LiveElement} {q : Rat} {s : Selector}
    (h : FromLive .exact l (.value q) s) (hq : q ≤ 1) : s.Scored := by
  cases h with
  | toolHook => exact ⟨_, rfl, by decide +kernel, by decide +kernel⟩
  | testHook => exact ⟨_, rfl, by decide +kernel, by decide +kernel⟩
  | label => exact ⟨_, rfl, by decide +kernel, by decide +kernel⟩
  | role => exact ⟨_, rfl, by decide +kernel, by decide +kernel⟩
  | path =>
    refine ⟨_, pathScore_value .exact q, lt_max_of_lt_left (by decide +kernel), max_le ?_ ?_⟩
    · decide +kernel
    · have hhalf : (mkRat 1 2 : Rat) = 1 / 2 := by decide +kernel
      show q * mkRat 1 2 ≤ 1
      rw [hhalf]
      linarith

theorem FromSource.scored {e : Element} {s : Selector} (h : FromSource .exact e s) :
    s.Scored := by
  cases h with
  | testHook => exact ⟨_, rfl, by decide +kernel, by decide +kernel⟩
  | id => exact ⟨_, rfl, by decide +kernel, by decide +kernel⟩
  | name => exact ⟨_, rfl, by decide +kernel, by decide +kernel⟩
  | tag => exact ⟨_, rfl, by decide +kernel, by decide +kernel⟩

/-- **Sorted selectors are ranked.** The order of the scores is total on numbers alone, so it is
    that of the rationals that is sorted by. -/
theorem ranked_sorted {ss : List Selector} (hne : ranked ss ≠ [])
    (h : ∀ s ∈ ranked ss, s.Scored) : Ranked (ranked ss) where
  nonempty := hne
  scored := h
  falling := by
    have horder : ∀ s ∈ ss, ∀ t ∈ ss,
        (!(s.score.lt t.score)) = decide (t.score.toRat ≤ s.score.toRat) := by
      intro s hs t ht
      obtain ⟨p, hp, -⟩ := h s (mem_ranked.mpr hs)
      obtain ⟨q, hq, -⟩ := h t (mem_ranked.mpr ht)
      rw [hp, hq, Measure.lt_value, ← decide_not]
      exact decide_eq_decide.mpr not_lt
    have hscores : (ranked ss).map (·.score.toRat) =
        (ss.map (·.score.toRat)).mergeSort fun p q => decide (q ≤ p) :=
      List.map_mergeSort horder
    have hsorted : ((ss.map (·.score.toRat)).mergeSort fun p q => decide (q ≤ p)).Pairwise
        fun p q => decide (q ≤ p) = true := by
      refine List.pairwise_mergeSort (fun a b c hab hbc => ?_) (fun a b => ?_) _
      · simp only [decide_eq_true_eq] at hab hbc ⊢
        exact hbc.trans hab
      · simpa using le_total b a
    rw [← hscores, List.pairwise_map] at hsorted
    exact hsorted.imp fun hst => of_decide_eq_true hst

theorem ranked_liveSelectors {l : LiveElement} {q : Rat} (hq : q ≤ 1) :
    Ranked (liveSelectors .exact l (.value q)) :=
  ranked_sorted (liveSelectors_ne_nil _ _ _) fun _ hs => (mem_liveSelectors.mp hs).scored hq

theorem ranked_sourceSelectors (e : Element) : Ranked (sourceSelectors .exact e) :=
  ranked_sorted (sourceSelectors_ne_nil _ _) fun _ hs => (mem_sourceSelectors.mp hs).scored

/-! ## 6. Located elements -/

/-- What is promised of an element that is located among live ones. -/
structure LocatedAmong (live : List LiveElement) (e : Element) (p : Located) : Prop where
  /-- The element has ranked selectors, and nothing else of it is changed. -/
  ranked : ∃ ss, p.element = { e with selectors := some ss } ∧ Ranked ss
  /-- It is matched iff the greatest score is above three tenths. -/
  matched_iff : p.live.isSome = true ↔ ((3 / 10 : Rat) : WithBot Rat) < greatestScore .exact e live
  /-- It is matched with the first live element of the greatest score. -/
  first : ∀ i ∈ p.live, ∃ l, live[i]? = some l ∧
    greatestScore .exact e live = matchScore .exact e l ∧
    ∀ k ∈ live.take i, (matchScore .exact e k : WithBot Rat) < greatestScore .exact e live
  score : p.score = (greatestScore .exact e live).unbotD 0

theorem locatedAmong_locate (live : List LiveElement) (e : Element) :
    LocatedAmong live e (locate .exact live e) := by
  have hthreshold : acceptanceScore .exact = 3 / 10 := by decide +kernel
  rcases locate_cases .exact live e with
    ⟨before, l, after, rfl, hbest, habove, hlocate⟩ | ⟨hbelow, hlocate⟩
  · have hgreatest := greatestScore_split hbest
    rw [hthreshold] at habove
    rw [hlocate]
    constructor
    · exact ⟨_, rfl, ranked_liveSelectors (matchScore_le_one .exact e l)⟩
    · rw [hgreatest]
      exact iff_of_true rfl (WithBot.coe_lt_coe.mpr habove)
    · intro i hi
      obtain rfl := Option.some.inj hi
      refine ⟨l, ?_, hgreatest, fun k hk => ?_⟩
      · rw [List.getElem?_append_right (le_refl _), Nat.sub_self, List.getElem?_cons_zero]
      · rw [List.take_left] at hk
        rw [hgreatest]
        exact WithBot.coe_lt_coe.mpr (hbest.before_lt k hk)
    · rw [hgreatest, WithBot.unbotD_coe]
  · rw [hthreshold, max_eq_right (by decide +kernel)] at hbelow
    rw [hlocate]
    constructor
    · exact ⟨_, rfl, ranked_sourceSelectors e⟩
    · exact iff_of_false Bool.false_ne_true (not_lt.mpr (greatestScore_le hbelow))
    · intro i hi
      cases hi
    · exact likeliest_score e live

/-- More live elements lower no score. -/
theorem score_locate_append (live more : List LiveElement) (e : Element) :
    (locate .exact live e).score ≤ (locate .exact (live ++ more) e).score := by
  rw [(locatedAmong_locate live e).score, (locatedAmong_locate (live ++ more) e).score]
  have hmono : greatestScore .exact e live ≤ greatestScore .exact e (live ++ more) :=
    List.maximum_mono (List.map_subset _ (List.subset_append_left live more))
  cases hless : greatestScore .exact e live with
  | bot => exact zero_le_greatestScore e (live ++ more)
  | coe q =>
    rw [hless] at hmono
    obtain ⟨p, hp, hqp⟩ := WithBot.coe_le_iff.mp hmono
    rw [hp]
    exact hqp

/-- **Locating elements always yields ranked selectors**: for all elements and all live elements,
    each element keeps all but its selectors, of which there is one at least, with scores that are
    in range and do not rise; it is matched iff the greatest score of the live elements is above
    three tenths, and then with the first live element of that score; and more live elements lower
    no score. -/
theorem located_ranked (live more : List LiveElement) (es : List Element) :
    List.Forall₂ (LocatedAmong live) es (locateAll .exact live es) ∧
    List.Forall₂ (fun p q => p.score ≤ q.score) (locateAll .exact live es)
      (locateAll .exact (live ++ more) es) := by
  constructor
  · refine List.forall₂_map_right_iff.mpr (List.forall₂_same.mpr fun e _ => ?_)
    exact locatedAmong_locate live e
  · refine List.forall₂_map_left_iff.mpr (List.forall₂_map_right_iff.mpr ?_)
    exact List.forall₂_same.mpr fun e _ => score_locate_append live more e

end Affordance
