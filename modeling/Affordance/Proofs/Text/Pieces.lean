import Mathlib.Data.List.Infix
import Affordance.Text.Basic

/-!
# Pieces of texts

  * `contains_iff_piece`: to occur in a text is to be a piece of it.
  * `joinChars_prefix_append`, `joinChars_suffix_append`: some of joined texts, joined alone, are a
    piece of the whole; `infix_joinChars`: so is each of them.
  * **`infix_joinChars_iff`**: a fragment without the separator occurs in joined texts iff it occurs
    in one of them.
  * `append_sep_inj`: a text is divided in one way by a separator if it is known how often the
    separator occurs before; `cut_unique`: and so by the first one.
  * `InOrder`: texts stand in a text one after the other, each in one piece. What stands in order in
    each of joined texts stands in order in the whole (`InOrder.joinChars`).
-/

namespace Affordance.Text

/-! ## 1. Occurring -/

theorem isInfix_iff_piece {frag s : List Char} : isInfix frag s = true ↔ frag <:+: s := by
  rw [isInfix_iff]
  exact ⟨fun ⟨pre, post, h⟩ => ⟨pre, post, h.symm⟩, fun ⟨pre, post, h⟩ => ⟨pre, post, h.symm⟩⟩

theorem contains_iff_piece {s frag : String} :
    contains s frag = true ↔ frag.toList <:+: s.toList := isInfix_iff_piece

/-- What is checked of each character of a fixed text holds of all of them. -/
theorem forall_of_all {p : Char → Prop} [DecidablePred p] {s : List Char}
    (h : s.all (fun c => p c) = true) : ∀ c ∈ s, p c := fun c hc =>
  of_decide_eq_true (List.all_eq_true.mp h c hc)

/-! ## 2. Joined texts -/

theorem toList_join (sep : String) (xs : List String) :
    (join sep xs).toList = joinChars sep.toList (xs.map String.toList) :=
  String.toList_ofList

/-- What stands behind the first of joined texts. -/
theorem joinChars_cons (sep x : List Char) (xs : List (List Char)) :
    joinChars sep (x :: xs) = x ++ if xs.isEmpty then [] else sep ++ joinChars sep xs := by
  cases xs with
  | nil => exact (List.append_nil x).symm
  | cons y rest => exact List.append_assoc ..

/-- The first of joined texts, joined alone, are the beginning of the whole. -/
theorem joinChars_prefix_append {sep : List Char} : ∀ xs ys : List (List Char),
    joinChars sep xs <+: joinChars sep (xs ++ ys)
  | [], _ => List.nil_prefix
  | [x], [] => List.prefix_rfl
  | [x], y :: ys => by
    show x <+: x ++ sep ++ joinChars sep (y :: ys)
    rw [List.append_assoc]
    exact List.prefix_append _ _
  | x :: z :: xs, ys => by
    have hrest : joinChars sep (z :: xs) <+: joinChars sep (z :: xs ++ ys) :=
      joinChars_prefix_append (z :: xs) ys
    exact (List.prefix_append_right_inj (x ++ sep)).mpr hrest

/-- The last of joined texts, joined alone, are the end of the whole. -/
theorem joinChars_suffix_append {sep : List Char} : ∀ xs ys : List (List Char),
    joinChars sep ys <:+ joinChars sep (xs ++ ys)
  | [], _ => List.suffix_rfl
  | [x], [] => List.nil_suffix
  | [x], y :: ys => List.suffix_append (x ++ sep) _
  | x :: z :: xs, ys => by
    have hrest : joinChars sep ys <:+ joinChars sep (z :: xs ++ ys) :=
      joinChars_suffix_append (z :: xs) ys
    exact hrest.trans (List.suffix_append (x ++ sep) _)

/-- Each of joined texts is a piece of the whole. -/
theorem infix_joinChars {sep x : List Char} {xs : List (List Char)} (h : x ∈ xs) :
    x <:+: joinChars sep xs := by
  obtain ⟨front, back, rfl⟩ := List.append_of_mem h
  have hhead : x <+: joinChars sep (x :: back) := joinChars_prefix_append [x] back
  exact hhead.isInfix.trans (joinChars_suffix_append front (x :: back)).isInfix

theorem mem_joinChars {sep : List Char} {c : Char} : ∀ {xs : List (List Char)},
    c ∈ joinChars sep xs → c ∈ sep ∨ ∃ x ∈ xs, c ∈ x
  | [], h => absurd h List.not_mem_nil
  | [x], h => .inr ⟨x, List.mem_singleton_self x, h⟩
  | x :: y :: rest, h => by
    rcases List.mem_append.mp h with h | h
    · rcases List.mem_append.mp h with h | h
      · exact .inr ⟨x, List.mem_cons_self, h⟩
      · exact .inl h
    · rcases mem_joinChars h with h | ⟨z, hz, h⟩
      · exact .inl h
      · exact .inr ⟨z, List.mem_cons_of_mem x hz, h⟩

/-! ## 3. Fragments without the separator -/

section Joined

variable {sep : Char} {frag : List Char}

theorem prefix_of_prefix_cut : ∀ {a b frag : List Char}, sep ∉ frag →
    frag <+: a ++ sep :: b → frag <+: a
  | [], b, frag, hsep, h => by
    rcases List.prefix_cons_iff.mp h with rfl | ⟨t, rfl, -⟩
    · exact List.nil_prefix
    · exact absurd List.mem_cons_self hsep
  | c :: a, b, frag, hsep, h => by
    rcases List.prefix_cons_iff.mp h with rfl | ⟨t, rfl, ht⟩
    · exact List.nil_prefix
    · have hrest : t <+: a := prefix_of_prefix_cut (fun h => hsep (List.mem_cons_of_mem c h)) ht
      exact List.prefix_cons_iff.mpr (.inr ⟨t, rfl, hrest⟩)

/-- A fragment without a character lies on one side of it. -/
theorem infix_of_infix_cut (hsep : sep ∉ frag) : ∀ {a b : List Char},
    frag <:+: a ++ sep :: b → frag <:+: a ∨ frag <:+: b
  | [], b, h => by
    rcases List.infix_cons_iff.mp h with h | h
    · have hnil : frag <+: [] := prefix_of_prefix_cut hsep h
      exact .inl hnil.isInfix
    · exact .inr h
  | c :: a, b, h => by
    rcases List.infix_cons_iff.mp h with h | h
    · have hhead : frag <+: c :: a := prefix_of_prefix_cut hsep h
      exact .inl hhead.isInfix
    · rcases infix_of_infix_cut hsep h with h | h
      · exact .inl (List.infix_cons h)
      · exact .inr h

/-- **A fragment without the separator** occurs in joined texts iff it occurs in one of them. -/
theorem infix_joinChars_iff (hsep : sep ∉ frag) (hne : frag ≠ []) : ∀ {xs : List (List Char)},
    frag <:+: joinChars [sep] xs ↔ ∃ x ∈ xs, frag <:+: x
  | [] => by simp [joinChars, hne]
  | [x] => by simp [joinChars]
  | x :: y :: rest => by
    have hrest : frag <:+: joinChars [sep] (y :: rest) ↔ ∃ x ∈ y :: rest, frag <:+: x :=
      infix_joinChars_iff hsep hne
    rw [joinChars, List.append_assoc, List.singleton_append, List.exists_mem_cons_iff, ← hrest]
    constructor
    · exact infix_of_infix_cut hsep
    · rintro (h | h)
      · exact h.trans (List.prefix_append _ _).isInfix
      · exact h.trans ((List.suffix_cons _ _).trans (List.suffix_append _ _)).isInfix

end Joined

/-! ## 4. Separators -/

/-- Texts before a separator that hold it equally often are the same. -/
theorem append_sep_inj {sep : Char} : ∀ {x y r s : List Char}, x ++ sep :: r = y ++ sep :: s →
    x.count sep = y.count sep → x = y ∧ r = s
  | [], [], _, _, h, _ => ⟨rfl, (List.cons.inj h).2⟩
  | [], c :: y, _, _, h, hcount => by
    obtain rfl : sep = c := (List.cons.inj h).1
    simp at hcount
  | c :: x, [], _, _, h, hcount => by
    obtain rfl : c = sep := (List.cons.inj h).1
    simp at hcount
  | c :: x, d :: y, r, s, h, hcount => by
    obtain ⟨rfl, hrest⟩ := List.cons.inj h
    have hxy : x.count sep = y.count sep := by
      simpa only [List.count_cons, Nat.add_right_cancel_iff] using hcount
    obtain ⟨rfl, rfl⟩ := append_sep_inj hrest hxy
    exact ⟨rfl, rfl⟩

/-- The first of a character divides a text in one way. -/
theorem cut_unique {sep : Char} {x y r s : List Char} (hx : sep ∉ x) (hy : sep ∉ y)
    (h : x ++ sep :: r = y ++ sep :: s) : x = y ∧ r = s := by
  have hcount : x.count sep = y.count sep := by
    rw [List.count_eq_zero.mpr hx, List.count_eq_zero.mpr hy]
  exact append_sep_inj h hcount

/-! ## 5. Texts in order -/

/-- The texts stand in the text one after the other, each in one piece. -/
inductive InOrder : List (List Char) → List Char → Prop
  | nil (s : List Char) : InOrder [] s
  | cons (front x : List Char) {xs : List (List Char)} {back : List Char} :
      InOrder xs back → InOrder (x :: xs) (front ++ (x ++ back))

namespace InOrder

variable {xs ys : List (List Char)} {s t : List Char}

/-- A text stands in itself. -/
theorem whole (s : List Char) : InOrder [s] s := by
  have h : InOrder [s] ([] ++ (s ++ [])) := .cons [] s (.nil [])
  rwa [List.nil_append, List.append_nil] at h

theorem behind (front : List Char) (h : InOrder xs s) : InOrder xs (front ++ s) := by
  cases h with
  | nil s => exact .nil _
  | cons inner x hback =>
    rw [← List.append_assoc]
    exact .cons (front ++ inner) x hback

theorem of_suffix (h : InOrder xs s) (hsuffix : s <:+ t) : InOrder xs t := by
  obtain ⟨front, rfl⟩ := hsuffix
  exact h.behind front

theorem append (hs : InOrder xs s) (ht : InOrder ys t) : InOrder (xs ++ ys) (s ++ t) := by
  induction hs with
  | nil s => exact ht.behind s
  | cons front x _ ih =>
    rw [List.append_assoc, List.append_assoc]
    exact .cons front x ih

theorem before (back : List Char) (h : InOrder xs s) : InOrder xs (s ++ back) := by
  have hall := h.append (.nil back)
  rwa [List.append_nil] at hall

theorem sublist (hsub : ys.Sublist xs) (h : InOrder xs s) : InOrder ys s := by
  induction hsub generalizing s with
  | slnil => exact .nil s
  | cons x _ ih =>
    cases h with
    | cons front _ hback => exact ((ih hback).behind x).behind front
  | cons_cons x _ ih =>
    cases h with
    | cons front _ hback => exact .cons front x (ih hback)

/-- Each of texts in order is a piece of the whole. -/
theorem piece {x : List Char} (h : InOrder xs s) (hx : x ∈ xs) : x <:+: s := by
  cases h.sublist (List.singleton_sublist.mpr hx) with
  | cons front _ hback => exact ⟨front, _, List.append_assoc ..⟩

/-- What stands in order in each of joined texts stands in order in the whole. -/
theorem joinChars {α : Type} {f : α → List (List Char)} {g : α → List Char} (sep : List Char) :
    ∀ {as : List α}, (∀ a ∈ as, InOrder (f a) (g a)) →
      InOrder (as.flatMap f) (Text.joinChars sep (as.map g))
  | [], _ => .nil []
  | [a], h => by
    rw [List.flatMap_singleton]
    exact h a (List.mem_singleton_self a)
  | a :: b :: rest, h => by
    have hrest := joinChars sep fun c hc => h c (List.mem_cons_of_mem a hc)
    exact ((h a List.mem_cons_self).before sep).append hrest

end InOrder

end Affordance.Text
