import Affordance.Text.Pattern

/-!
# What a match rests on

  * `attempt_accepted`: a pattern leads to a match only where what comes after it does. One case
    for each kind of pattern; a repetition by the number of steps it has left.
  * `matchAt_of_search`, `matchAt_of_mem_findAll`: what a search finds is a match at the place
    where it begins.
  * **`matchAt_last`**: before the end of a match stands a character of the pattern's last class;
    **`matchAt_next`**: at the end of a match stands a character of the class that is looked
    ahead for.
-/

namespace Affordance.Text.Pattern

/-! ## 1. What comes after a pattern -/

variable {src : Source} {p : Pattern} {i j : Nat} {r : Reached}

theorem tryDown_accepted {k : Nat → Option Reached} : ∀ {n i : Nat},
    tryDown k i n = some r → ∃ j, k j = some r
  | 0, i, h => ⟨i, h⟩
  | n + 1, i, h => by
    unfold tryDown at h
    cases hk : k (i + (n + 1)) with
    | none =>
      rw [hk] at h
      exact tryDown_accepted h
    | some r' =>
      rw [hk] at h
      exact ⟨_, hk.trans h⟩

theorem tryUp_accepted {k : Nat → Option Reached} : ∀ {n i : Nat},
    tryUp k n i = some r → ∃ j, k j = some r
  | 0, i, h => ⟨i, h⟩
  | n + 1, i, h => by
    unfold tryUp at h
    cases hk : k i with
    | none =>
      rw [hk] at h
      exact tryUp_accepted h
    | some r' =>
      rw [hk] at h
      exact ⟨i, hk.trans h⟩

theorem repeatMost_accepted {step : Nat → Groups → Cont → Option Reached} {k : Cont}
    (hstep : ∀ {i g k}, step i g k = some r → ∃ j g', k j g' = some r) : ∀ {n i : Nat} {g : Groups},
    repeatMost step k n i g = some r → ∃ j g', k j g' = some r
  | 0, i, g, h => ⟨i, g, h⟩
  | n + 1, i, g, h => by
    unfold repeatMost at h
    cases hs : step i g (fun j g' => if i < j then repeatMost step k n j g' else none) with
    | none =>
      rw [hs] at h
      exact ⟨i, g, h⟩
    | some r' =>
      rw [hs] at h
      obtain ⟨j, g', hj⟩ := hstep (hs.trans h)
      split at hj
      · exact repeatMost_accepted hstep hj
      · cases hj

/-- **A pattern leads to a match only where what comes after it does.** -/
theorem attempt_accepted (p : Pattern) : ∀ {i : Nat} {g : Groups} {k : Cont},
    attempt src p i g k = some r → ∃ j g', k j g' = some r := by
  induction p with
  | empty => exact fun h => ⟨_, _, h⟩
  | one p =>
    intro i g k h
    simp only [attempt] at h
    split at h
    · split at h
      · exact ⟨_, _, h⟩
      · cases h
    · cases h
  | seq a b iha ihb =>
    intro i g k h
    obtain ⟨j, g', hb⟩ := iha h
    exact ihb hb
  | alt a b iha ihb =>
    intro i g k h
    simp only [attempt] at h
    split at h
    · rename_i ha
      exact iha (ha.trans h)
    · exact ihb h
  | run p =>
    intro i g k h
    obtain ⟨j, hj⟩ := tryDown_accepted h
    exact ⟨j, g, hj⟩
  | fewest p =>
    intro i g k h
    obtain ⟨j, hj⟩ := tryUp_accepted h
    exact ⟨j, g, hj⟩
  | many a ih => exact fun h => repeatMost_accepted ih h
  | group name a ih =>
    intro i g k h
    obtain ⟨j, g', hj⟩ := ih h
    exact ⟨j, _, hj⟩
  | again | ahead | notAhead | after | notAfter | wordEdge | lineStart | atEnd =>
    -- These pass on to what comes after them at once, or fail.
    intro i g k h
    simp only [attempt] at h
    repeat' split at h
    all_goals first | exact ⟨_, _, h⟩ | cases h

/-! ## 2. Searches -/

variable {m : Match}

theorem matchAt_eq_some : p.matchAt src i = some m ↔
    attempt src p i [] (fun j g => some (j, g)) = some (m.stop, m.groups) ∧
      m.source = src ∧ m.start = i := by
  unfold matchAt
  obtain ⟨s, a, b, g⟩ := m
  constructor
  · intro h
    obtain ⟨⟨j, g'⟩, hj, hm⟩ := Option.map_eq_some_iff.mp h
    cases hm
    exact ⟨hj, rfl, rfl⟩
  · rintro ⟨h, rfl, rfl⟩
    rw [h]
    rfl

theorem matchAt_of_searchWithin : ∀ {n i : Nat}, searchWithin p src n i = some m →
    p.matchAt src m.start = some m
  | 0, _, h => nomatch h
  | n + 1, i, h => by
    unfold searchWithin at h
    cases hm : p.matchAt src i with
    | none =>
      rw [hm] at h
      exact matchAt_of_searchWithin h
    | some m' =>
      rw [hm] at h
      cases h
      rw [(matchAt_eq_some.mp hm).2.2]
      exact hm

/-- What a search finds is a match. -/
theorem matchAt_of_search (h : p.search src i = some m) : p.matchAt src m.start = some m :=
  matchAt_of_searchWithin h

theorem matchAt_of_mem_findFrom : ∀ {n i : Nat}, m ∈ findFrom p src n i →
    p.matchAt src m.start = some m
  | 0, _, h => nomatch h
  | n + 1, i, h => by
    unfold findFrom at h
    cases hs : p.search src i with
    | none =>
      rw [hs] at h
      cases h
    | some m' =>
      rw [hs] at h
      rcases List.mem_cons.mp h with rfl | h
      · exact matchAt_of_search hs
      · exact matchAt_of_mem_findFrom h

/-- Everything that is found is a match. -/
theorem matchAt_of_mem_findAll (h : m ∈ p.findAll src) : p.matchAt src m.start = some m :=
  matchAt_of_mem_findFrom h

/-! ## 3. The end of a match -/

variable {test : Char → Bool}

/-- **A match of a pattern that ends with a class** ends after a character of the class. -/
theorem matchAt_last (h : (p ++ one test).matchAt src i = some m) :
    ∃ c, 0 < m.stop ∧ src[m.stop - 1]? = some c ∧ test c = true := by
  obtain ⟨j, g, hj⟩ := attempt_accepted p (matchAt_eq_some.mp h).1
  simp only [attempt] at hj
  split at hj
  · rename_i c hc
    split at hj
    · rename_i ht
      have hstop : j + 1 = m.stop := congrArg Prod.fst (Option.some.inj hj)
      rw [← hstop]
      exact ⟨c, Nat.succ_pos j, hc, ht⟩
    · cases hj
  · cases hj

/-- **A match of a pattern that looks ahead for a class** ends at a character of the class. -/
theorem matchAt_next (h : (p ++ ahead (one test)).matchAt src i = some m) :
    ∃ c, src[m.stop]? = some c ∧ test c = true := by
  obtain ⟨j, g, hj⟩ := attempt_accepted p (matchAt_eq_some.mp h).1
  simp only [attempt] at hj
  split at hj
  · rename_i hahead
    have hstop : j = m.stop := congrArg Prod.fst (Option.some.inj hj)
    rw [← hstop]
    split at hahead
    · rename_i c hc
      split at hahead
      · exact ⟨c, hc, by assumption⟩
      · cases hahead
    · cases hahead
  · cases hj

end Affordance.Text.Pattern
