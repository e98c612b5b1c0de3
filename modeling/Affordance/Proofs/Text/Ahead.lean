import Affordance.Text.Source

/-!
# The text ahead of a position

  * `Source.Ahead`: the text from a position on. What is ahead of a position is ahead of the
    later ones as well, without the characters that were passed (`Ahead.tail`, `Ahead.drop`).
  * What readers ask of a source, told by the text ahead: `Ahead.slice`, `Ahead.at_`,
    `Ahead.passWhile`, `Ahead.findChar`, `Ahead.findFragment`.
  * `passWhile_passWhile`: a run of characters is passed once.
-/

namespace Affordance.Text.Source

/-! ## 1. What is ahead -/

/-- The text from the position on. -/
def Ahead (src : Source) (i : Nat) (s : List Char) : Prop := src.toList.drop i = s

theorem ahead_of (s : String) : (Source.of s).Ahead 0 s.toList := by
  simp [Ahead, Source.of]

theorem ahead_toArray (s : List Char) : Ahead s.toArray 0 s := by
  simp [Ahead]

theorem ahead_of_cut {src : Source} {u s : List Char} (h : src.toList = u ++ s) :
    src.Ahead u.length s := by
  rw [Ahead, h, List.drop_left]

namespace Ahead

variable {src : Source} {i : Nat} {c : Char} {a s : List Char}

/-- The position holds the first character of the text ahead. -/
theorem head (h : src.Ahead i (c :: s)) : src[i]? = some c := by
  have hget : (src.toList.drop i)[0]? = some c := by
    rw [show src.toList.drop i = c :: s from h]
    rfl
  rw [List.getElem?_drop, Nat.add_zero, Array.getElem?_toList] at hget
  exact hget

/-- The text ahead begins with the character that the position holds. -/
theorem cons_of_head (h : src.Ahead i s) (hc : src[i]? = some c) : ∃ t, s = c :: t := by
  have hget : (src.toList.drop i)[0]? = some c := by
    rwa [List.getElem?_drop, Nat.add_zero, Array.getElem?_toList]
  rw [show src.toList.drop i = s from h] at hget
  cases s with
  | nil => cases hget
  | cons d t =>
    cases hget
    exact ⟨t, rfl⟩

theorem tail (h : src.Ahead i (c :: s)) : src.Ahead (i + 1) s := by
  have hdrop : (src.toList.drop i).drop 1 = s := by
    rw [show src.toList.drop i = c :: s from h]
    rfl
  rwa [List.drop_drop] at hdrop

theorem drop (h : src.Ahead i (a ++ s)) : src.Ahead (i + a.length) s := by
  have hdrop : (src.toList.drop i).drop a.length = s := by
    rw [show src.toList.drop i = a ++ s from h, List.drop_left]
  rwa [List.drop_drop] at hdrop

/-- Nothing is ahead of the end. -/
theorem none_of_nil (h : src.Ahead i []) : src[i]? = none := by
  have hlen : src.toList.length ≤ i := List.drop_eq_nil_iff.mp h
  rw [Array.length_toList] at hlen
  exact Array.getElem?_eq_none hlen

theorem size (h : src.Ahead i s) (hi : i ≤ src.size) : src.size = i + s.length := by
  have hlen := congrArg List.length (show src.toList.drop i = s from h)
  rw [List.length_drop, Array.length_toList] at hlen
  omega

/-- The characters that are ahead are cut out. -/
theorem slice (h : src.Ahead i (a ++ s)) : src.slice i (i + a.length) = a := by
  rw [slice_eq, List.drop_take, Nat.add_sub_cancel_left,
    show src.toList.drop i = a ++ s from h, List.take_left]

/-- A beginning of the text ahead stands at the position. -/
theorem at_ : ∀ {a : List Char} {i : Nat}, src.Ahead i (a ++ s) → src.at_ i a = true
  | [], _, _ => rfl
  | c :: a, i, h => by
    rw [at_cons, Bool.and_eq_true, beq_iff_eq]
    exact ⟨h.head, at_ h.tail⟩

/-- A fragment stands at the position if the text ahead begins with it. -/
theorem at_eq : ∀ {s frag : List Char} {i : Nat}, src.Ahead i s →
    src.at_ i frag = startsWith s frag
  | s, [], _, _ => by rw [at_nil, startsWith_nil]
  | [], d :: frag, i, h => by
    rw [at_cons, h.none_of_nil]
    rfl
  | c :: s, d :: frag, i, h => by
    rw [at_cons, h.head, at_eq h.tail, startsWith]
    rfl

theorem passWithin {p : Char → Bool} (hs : ∀ c ∈ s.head?, p c = false) :
    ∀ {a : List Char} {i n : Nat}, src.Ahead i (a ++ s) → (∀ c ∈ a, p c = true) →
      a.length + s.length ≤ n → passWithin src p n i = i + a.length
  | [], i, 0, _, _, _ => rfl
  | [], i, n + 1, h, _, _ => by
    cases s with
    | nil => rw [Source.passWithin, h.none_of_nil]; rfl
    | cons d s =>
      rw [Source.passWithin, h.head]
      dsimp only
      rw [if_neg (by rw [hs d rfl]; decide)]
      rfl
  | c :: a, i, 0, _, _, hn => by simp at hn
  | c :: a, i, n + 1, h, ha, hn => by
    rw [Source.passWithin, h.head]
    dsimp only
    rw [if_pos (ha c List.mem_cons_self),
      passWithin hs h.tail (fun d hd => ha d (List.mem_cons_of_mem c hd))
        (by simp only [List.length_cons] at hn; omega), List.length_cons]
    omega

/-- A run of characters of a class is passed up to the first other one. -/
theorem passWhile {p : Char → Bool} (h : src.Ahead i (a ++ s)) (ha : ∀ c ∈ a, p c = true)
    (hs : ∀ c ∈ s.head?, p c = false) : src.passWhile p i = i + a.length := by
  refine passWithin hs h ha ?_
  have hlen := congrArg List.length (show src.toList.drop i = a ++ s from h)
  rw [List.length_drop, Array.length_toList, List.length_append] at hlen
  omega

theorem findWithin : ∀ {a : List Char} {i n : Nat}, src.Ahead i (a ++ c :: s) → c ∉ a →
    a.length < n → findWithin (fun k => src[k]? == some c) n i = some (i + a.length)
  | [], i, n + 1, h, _, _ => by
    rw [Source.findWithin, h.head, if_pos (beq_self_eq_true _)]
    rfl
  | d :: a, i, n + 1, h, ha, hn => by
    have hd : d ≠ c := fun e => ha (e ▸ List.mem_cons_self)
    rw [Source.findWithin, h.head, if_neg (by simpa using hd),
      findWithin h.tail (fun hc => ha (List.mem_cons_of_mem d hc)) (Nat.lt_of_succ_lt_succ hn),
      List.length_cons]
    congr 1
    omega

/-- A character is found where it first stands in the text ahead. -/
theorem findChar (h : src.Ahead i (a ++ c :: s)) (hc : c ∉ a) :
    src.findChar c i = some (i + a.length) := by
  refine findWithin h hc ?_
  have hlen := congrArg List.length (show src.toList.drop i = a ++ c :: s from h)
  rw [List.length_drop, Array.length_toList, List.length_append, List.length_cons] at hlen
  omega

theorem findWithin_at {frag : List Char} : ∀ {a : List Char} {i n : Nat},
    src.Ahead i (a ++ (frag ++ s)) →
    (∀ t c rest, a = t ++ c :: rest → startsWith (c :: rest ++ (frag ++ s)) frag = false) →
    a.length < n → Source.findWithin (fun k => src.at_ k frag) n i = some (i + a.length)
  | [], i, n + 1, h, _, _ => by
    have hat : src.at_ i frag = true := Ahead.at_ (by rwa [List.nil_append] at h)
    rw [Source.findWithin, if_pos hat]
    rfl
  | c :: a, i, n + 1, h, hfirst, hn => by
    rw [Source.findWithin, h.at_eq, if_neg (by rw [hfirst [] c a rfl]; decide),
      findWithin_at h.tail (fun t d rest e => hfirst (c :: t) d rest (by rw [e]; rfl))
        (Nat.lt_of_succ_lt_succ hn), List.length_cons]
    congr 1
    omega

/-- A fragment is found where the text ahead first begins with it. -/
theorem findFragment {c : Char} {frag : List Char} (h : src.Ahead i (a ++ (c :: frag ++ s)))
    (hfirst : ∀ t d rest, a = t ++ d :: rest →
      startsWith (d :: rest ++ (c :: frag ++ s)) (c :: frag) = false) :
    src.findFragment (c :: frag) i = some (i + a.length) := by
  refine findWithin_at h hfirst ?_
  have hlen := congrArg List.length (show src.toList.drop i = a ++ (c :: frag ++ s) from h)
  rw [List.length_drop, Array.length_toList, List.length_append, List.length_append,
    List.length_cons] at hlen
  omega

end Ahead

/-! ## 2. Runs -/

/-- A run ends at a character that is not of its class. -/
theorem passWithin_end (src : Source) (p : Char → Bool) {c : Char} : ∀ (n i : Nat),
    src.size ≤ i + n → src[passWithin src p n i]? = some c → p c = false
  | 0, i, hn, h => by
    have hi : i < src.size := (Array.getElem?_eq_some_iff.mp h).1
    omega
  | n + 1, i, hn, h => by
    unfold passWithin at h
    cases hd : src[i]? with
    | none =>
      rw [hd] at h
      exact absurd (hd.symm.trans h) (by simp)
    | some d =>
      rw [hd] at h
      dsimp only at h
      by_cases hp : p d = true
      · rw [if_pos hp] at h
        exact passWithin_end src p n (i + 1) (by omega) h
      · rw [if_neg hp, hd] at h
        cases h
        exact Bool.eq_false_iff.mpr hp

/-- A run is passed once. -/
theorem passWhile_passWhile (src : Source) (p : Char → Bool) (i : Nat) :
    src.passWhile p (src.passWhile p i) = src.passWhile p i := by
  have hend : ∀ c, src[src.passWhile p i]? = some c → p c = false :=
    fun c h => passWithin_end src p (src.size - i) i (by omega) h
  generalize src.passWhile p i = k at *
  unfold passWhile
  cases src.size - k with
  | zero => rfl
  | succ n =>
    unfold passWithin
    cases hc : src[k]? with
    | none => rfl
    | some c =>
      dsimp only
      rw [if_neg (by rw [hend c hc]; decide)]

end Affordance.Text.Source
