import Affordance.Proofs.Text.Cuts
import Affordance.Proofs.Text.Spelling

/-!
# Patterns tried on the text ahead

  * `attempt_lit`, `attempt_run`, `attempt_opt_of_none` and their like: what a part of a pattern
    does where the text ahead of the position is known. It goes on behind the text that it passes,
    or fails at once.
  * `attempt_notAfter_iff`, `attempt_lineStart_iff`, `attempt_wordEdge_start` and their like: looks to
    either side. `notAfter_iff_endsApart`: what a look back says of the text before the position.
  * `Between.cut`: what passes some text cuts the source in three.
  * `search_eq_some`: a search finds the match at the first position where there is one.
  * `findAll_eq_nil`, `findAll_eq_cons`, `findAll_eq_single`: the matches of a pattern that has none,
    those that begin with a given one, and a single one.
-/

namespace Affordance.Text.Pattern

variable {src : Source} {i : Nat} {g : Groups} {k : Cont} {r : Reached}

/-! ## 1. Parts of patterns -/

theorem attempt_append (a b : Pattern) :
    attempt src (a ++ b) i g k = attempt src a i g fun j g' => attempt src b j g' k := rfl

theorem attempt_append_of_none {a b : Pattern} (h : ∀ k, attempt src a i g k = none) :
    attempt src (a ++ b) i g k = none := h _

theorem attempt_named (name : String) (a : Pattern) :
    attempt src (group name a) i g k = attempt src a i g fun j g' => k j ((name, i, j) :: g') := rfl

/-- The text that a group holds is passed where it stands once more. -/
theorem attempt_again {name : String} {a b : Nat} (hg : g.lookup name = some (a, b))
    (h : src.at_ i (src.slice a b) = true) :
    attempt src (again name) i g k = k (i + (b - a)) g := by
  simp only [attempt, hg, h, if_true]

section Parts

variable {a s : List Char} {c : Char} {p : Char → Bool}

theorem attempt_one (h : src.Ahead i (c :: s)) (hc : p c = true) :
    attempt src (one p) i g k = k (i + 1) g := by
  simp only [attempt, h.head, hc, if_true]

theorem attempt_one_off (h : src.Ahead i s) (hs : ∀ c ∈ s.head?, p c = false) :
    attempt src (one p) i g k = none := by
  cases s with
  | nil => simp only [attempt, h.none_of_nil]
  | cons c s => simp [attempt, h.head, hs c rfl]

theorem attempt_char (h : src.Ahead i (c :: s)) : attempt src (char c) i g k = k (i + 1) g :=
  attempt_one h (beq_self_eq_true c)

theorem attempt_char_off (h : src.Ahead i s) (hs : c ∉ s.head?) :
    attempt src (char c) i g k = none :=
  attempt_one_off h fun _ hd => beq_eq_false_iff_ne.mpr fun e => hs (e ▸ hd)

theorem attempt_chars : ∀ (cs : List Char) {i : Nat}, src.Ahead i (cs ++ s) →
    attempt src (chars cs) i g k = k (i + cs.length) g
  | [], _, _ => rfl
  | [_], _, h => attempt_char h
  | c :: d :: rest, i, h => by
    have hfirst : attempt src (chars (c :: d :: rest)) i g k =
        attempt src (char c) i g fun j g' => attempt src (chars (d :: rest)) j g' k := rfl
    rw [hfirst, attempt_char h, attempt_chars (d :: rest) h.tail, List.length_cons,
      List.length_cons, List.length_cons]
    congr 1
    omega

/-- A text is passed where it stands. -/
theorem attempt_lit (w : String) (h : src.Ahead i (w.toList ++ s)) :
    attempt src (lit w) i g k = k (i + w.toList.length) g :=
  attempt_chars w.toList h

theorem attempt_chars_off : ∀ (cs : List Char) {s : List Char} {i : Nat}, src.Ahead i s →
    startsWith s cs = false → attempt src (chars cs) i g k = none
  | [], s, _, _, hs => by
    rw [startsWith_nil] at hs
    cases hs
  | [c], s, i, h, hs => by
    refine attempt_char_off h fun hc => ?_
    obtain ⟨rest, rfl⟩ := List.head?_eq_some_iff.mp hc
    simp [startsWith] at hs
  | c :: d :: rest, s, i, h, hs => by
    have hfirst : attempt src (chars (c :: d :: rest)) i g k =
        attempt src (char c) i g fun j g' => attempt src (chars (d :: rest)) j g' k := rfl
    rw [hfirst]
    by_cases hc : c ∈ s.head?
    · obtain ⟨s', rfl⟩ := List.head?_eq_some_iff.mp hc
      rw [attempt_char h]
      refine attempt_chars_off (d :: rest) h.tail ?_
      simpa [startsWith] using hs
    · exact attempt_char_off h hc

/-- A text is not passed where another one stands. -/
theorem attempt_lit_off (w : String) (h : src.Ahead i s) (hs : startsWith s w.toList = false) :
    attempt src (lit w) i g k = none :=
  attempt_chars_off w.toList h hs

/-- A run ends before a character that is not of its class. -/
theorem off_cons (hc : p c = false) : ∀ d ∈ (c :: s).head?, p d = false := by
  intro d hd
  cases hd
  exact hc

/-- All of a run is passed if that leads to a match. -/
theorem attempt_run (h : src.Ahead i (a ++ s)) (ha : ∀ c ∈ a, p c = true)
    (hs : ∀ c ∈ s.head?, p c = false) (hk : k (i + a.length) g = some r) :
    attempt src (run p) i g k = some r := by
  have hlength : src.passWhile p i - i = a.length := by
    rw [h.passWhile ha hs]
    omega
  simp only [attempt, hlength]
  cases a with
  | nil => exact hk
  | cons c a => rw [List.length_cons, tryDown, ← List.length_cons, hk]

/-- All of a run with a first character is passed if that leads to a match. -/
theorem attempt_runs (h : src.Ahead i (a ++ s)) (hne : a ≠ []) (ha : ∀ c ∈ a, p c = true)
    (hs : ∀ c ∈ s.head?, p c = false) (hk : k (i + a.length) g = some r) :
    attempt src (runs p) i g k = some r := by
  obtain ⟨c, a, rfl⟩ := List.exists_cons_of_ne_nil hne
  rw [runs, attempt_append, attempt_one h (ha c List.mem_cons_self)]
  refine attempt_run h.tail (fun d hd => ha d (List.mem_cons_of_mem c hd)) hs ?_
  rw [List.length_cons] at hk
  rwa [show i + 1 + a.length = i + (a.length + 1) by omega]

/-- A run that is empty is passed at once. -/
theorem attempt_run_nil (h : src.Ahead i s) (hs : ∀ c ∈ s.head?, p c = false) :
    attempt src (run p) i g k = k i g := by
  have hlength : src.passWhile p i - i = 0 := by
    rw [Source.Ahead.passWhile (a := []) h (fun _ hc => nomatch hc) hs]
    exact Nat.sub_self i
  simp only [attempt, hlength]
  rfl

theorem attempt_space_nil (h : src.Ahead i s) (hs : ∀ c ∈ s.head?, isSpace c = false) :
    attempt src space i g k = k i g :=
  attempt_run_nil h hs

end Parts

section Choices

variable {a b : Pattern}

theorem attempt_opt_of_none (h : attempt src a i g k = none) :
    attempt src (opt a) i g k = k i g := by
  simp only [opt, attempt, h]

theorem attempt_opt_of_some (h : attempt src a i g k = some r) :
    attempt src (opt a) i g k = some r := by
  simp only [opt, attempt, h]

theorem attempt_alt_of_some (h : attempt src a i g k = some r) :
    attempt src (alt a b) i g k = some r := by
  simp only [attempt, h]

theorem attempt_alt_of_none (h : attempt src a i g k = none) :
    attempt src (alt a b) i g k = attempt src b i g k := by
  simp only [attempt, h]

end Choices

/-! ## 2. Looks to either side -/

section Looks

variable {s : List Char} {c : Char} {p : Char → Bool}

theorem attempt_ahead_one_iff : attempt src (ahead (one p)) i g k = some r ↔
    (∃ c, src[i]? = some c ∧ p c = true) ∧ k i g = some r := by
  cases hi : src[i]? with
  | none => simp [attempt, hi]
  | some c => cases hc : p c <;> simp [attempt, hi, hc]

theorem attempt_ahead_one (h : src.Ahead i (c :: s)) (hc : p c = true) :
    attempt src (ahead (one p)) i g k = k i g := by
  simp only [attempt, h.head, hc, if_true]

/-- No character of the class stands before the position. -/
def NotAfter (src : Source) (p : Char → Bool) (i : Nat) : Prop :=
  ∀ c, 0 < i → src[i - 1]? = some c → p c = false

theorem notAfter_iff_endsApart {u : List Char} (h : src.toList = u ++ s) :
    NotAfter src p u.length ↔ EndsApart p u := by
  rcases List.eq_nil_or_concat' u with rfl | ⟨u, d, rfl⟩
  · exact ⟨fun _ => endsApart_nil, fun _ _ hi => absurd hi (Nat.lt_irrefl 0)⟩
  · have hlast : src[(u ++ [d]).length - 1]? = some d := by
      rw [← Array.getElem?_toList, h]
      simp
    simp only [NotAfter, EndsApart, hlast]
    simp

theorem attempt_notAfter_iff : attempt src (notAfter p) i g k = some r ↔
    NotAfter src p i ∧ k i g = some r := by
  unfold NotAfter
  cases i with
  | zero => simp [attempt]
  | succ j =>
    simp only [attempt, Nat.add_sub_cancel, Nat.succ_pos, forall_const]
    cases src[j]? with
    | none => simp
    | some c => cases hc : p c <;> simp [hc]

/-- A line begins at the position. -/
def AtLineStart (src : Source) (i : Nat) : Prop := 0 < i → src[i - 1]? = some '\n'

theorem atLineStart_iff {u : List Char} (h : src.toList = u ++ s) :
    AtLineStart src u.length ↔ ∀ c ∈ u.getLast?, c = '\n' := by
  rcases List.eq_nil_or_concat' u with rfl | ⟨u, d, rfl⟩
  · exact ⟨fun _ _ hc => (nomatch hc), fun _ hi => absurd hi (Nat.lt_irrefl 0)⟩
  · have hlast : src[(u ++ [d]).length - 1]? = some d := by
      rw [← Array.getElem?_toList, h]
      simp
    simp only [AtLineStart, hlast]
    simp

theorem attempt_lineStart_iff : attempt src lineStart i g k = some r ↔
    AtLineStart src i ∧ k i g = some r := by
  unfold AtLineStart
  cases i with
  | zero => simp [attempt]
  | succ j => simp [attempt]

/-- A word begins behind a character that belongs to none. -/
theorem attempt_wordEdge_start (hbefore : NotAfter src isWord i) (h : src.Ahead i (c :: s))
    (hc : isWord c = true) : attempt src wordEdge i g k = k i g := by
  have hedge : isWordEdge src i = true := by
    unfold isWordEdge
    rw [h.head, Option.map_some, hc]
    cases i with
    | zero => rfl
    | succ j =>
      cases hj : src[j]? with
      | none => simp [hj]
      | some d => simp [hj, hbefore d (Nat.succ_pos j) hj]
  simp only [attempt, hedge, if_true]

/-- A word ends before a character that belongs to none. -/
theorem attempt_wordEdge_end {d : Char} (hbefore : src[i]? = some d) (hd : isWord d = true)
    (h : src.Ahead (i + 1) (c :: s)) (hc : isWord c = false) :
    attempt src wordEdge (i + 1) g k = k (i + 1) g := by
  have hedge : isWordEdge src (i + 1) = true := by
    simp [isWordEdge, h.head, hbefore, hc, hd]
  simp only [attempt, hedge, if_true]

theorem attempt_atEnd (h : i = src.size) : attempt src atEnd i g k = k i g := by
  simp [attempt, h]

end Looks

/-! ## 3. Matches in their source -/

variable {p : Pattern} {m : Match}

/-- What passes some text cuts the source in three. -/
theorem Between.cut {t : List Char} {j : Nat} (h : Between src i t j) (ht : t ≠ []) :
    ∃ u v, src.toList = u ++ t ++ v ∧ u.length = i ∧ src.Ahead j v := by
  have hi : i ≤ src.toList.length := by
    by_contra hi
    have hnil : src.toList.drop i = [] := List.drop_eq_nil_iff.mpr (by omega)
    rw [h.ahead] at hnil
    exact ht (List.append_eq_nil_iff.mp hnil).1
  refine ⟨src.toList.take i, src.toList.drop j, ?_, List.length_take_of_le hi, rfl⟩
  rw [List.append_assoc, ← h.ahead, List.take_append_drop]

/-! ## 4. Searches -/

theorem searchWithin_eq_some : ∀ {n i j : Nat}, p.matchAt src j = some m → i ≤ j → j < i + n →
    (∀ l, i ≤ l → l < j → p.matchAt src l = none) → searchWithin p src n i = some m
  | 0, i, j, _, hij, hj, _ => by omega
  | n + 1, i, j, h, hij, hj, hfirst => by
    rw [searchWithin]
    rcases Nat.eq_or_lt_of_le hij with rfl | hlt
    · rw [h]
    · rw [hfirst i (Nat.le_refl i) hlt]
      exact searchWithin_eq_some h hlt (by omega) fun l hl => hfirst l (by omega)

theorem searchWithin_eq_none : ∀ {n i : Nat}, (∀ l, i ≤ l → p.matchAt src l = none) →
    searchWithin p src n i = none
  | 0, _, _ => rfl
  | n + 1, i, h => by
    rw [searchWithin, h i (Nat.le_refl i)]
    exact searchWithin_eq_none fun l hl => h l (by omega)

/-- **A search finds the first match.** -/
theorem search_eq_some {j : Nat} (h : p.matchAt src j = some m) (hij : i ≤ j) (hj : j ≤ src.size)
    (hfirst : ∀ l, i ≤ l → l < j → p.matchAt src l = none) : p.search src i = some m :=
  searchWithin_eq_some h hij (by omega) hfirst

/-- A pattern without matches is found nowhere. -/
theorem findAll_eq_nil (h : ∀ i m, p.matchAt src i ≠ some m) : p.findAll src = [] := by
  have hnone : ∀ i, p.matchAt src i = none :=
    fun i => Option.eq_none_iff_forall_ne_some.mpr (h i)
  rw [findAll, findFrom, search, searchWithin_eq_none fun l _ => hnone l]

/-- A pattern is found first where its first match is. -/
theorem findAll_eq_cons {j : Nat} (h : p.matchAt src j = some m) (hj : j ≤ src.size)
    (hfirst : ∀ l < j, ∀ m, p.matchAt src l ≠ some m) : ∃ rest, p.findAll src = m :: rest := by
  have hnone : ∀ l < j, p.matchAt src l = none :=
    fun l hl => Option.eq_none_iff_forall_ne_some.mpr (hfirst l hl)
  rw [findAll, findFrom, search_eq_some h (Nat.zero_le j) hj fun l _ => hnone l]
  exact ⟨_, rfl⟩

/-- A pattern that matches at one place is found once. -/
theorem findAll_eq_single {j : Nat} (h : p.matchAt src j = some m) (hj : j ≤ src.size)
    (hpassed : j < m.stop) (honly : ∀ l m, p.matchAt src l = some m → l = j) :
    p.findAll src = [m] := by
  have hstart : m.start = j := (matchAt_eq_some.mp h).2.2
  have hnone : ∀ l, l ≠ j → p.matchAt src l = none :=
    fun l hl => Option.eq_none_iff_forall_ne_some.mpr fun m hm => hl (honly l m hm)
  rw [findAll, findFrom, search_eq_some h (Nat.zero_le j) hj fun l _ hl => hnone l (by omega)]
  dsimp only
  rw [hstart, if_pos hpassed]
  cases hsize : src.size with
  | zero => rfl
  | succ n =>
    rw [findFrom, search, searchWithin_eq_none fun l hl => hnone l (by omega)]

end Affordance.Text.Pattern
