import Affordance.Text.Basic

/-!
# Escaped texts

What may stand between two double quotes.

  * `Escaped`: a text in which a backslash takes the next character with it, and no other character
    is a quote.
  * `unslash`: what an escaped text stands for, a backslash followed by a character being that
    character.
  * **`Escaped.closing_inj`**: the first quote that no backslash takes ends an escaped text, so the
    text before it and what comes behind it are told from the whole.
-/

namespace Affordance.Text

/-- A text that may stand between double quotes. -/
inductive Escaped : List Char → Prop where
  | nil : Escaped []
  | plain {c : Char} {s : List Char} : c ≠ '\\' → c ≠ '"' → Escaped s → Escaped (c :: s)
  | escape (e : Char) {s : List Char} : Escaped s → Escaped ('\\' :: e :: s)

namespace Escaped

variable {a b s t : List Char}

theorem append (ha : Escaped a) (hb : Escaped b) : Escaped (a ++ b) := by
  induction ha with
  | nil => exact hb
  | plain hslash hquote _ ih => exact .plain hslash hquote ih
  | escape e _ ih => exact .escape e ih

theorem of_plain (h : ∀ c ∈ s, c ≠ '\\' ∧ c ≠ '"') : Escaped s := by
  induction s with
  | nil => exact .nil
  | cons c s ih =>
    obtain ⟨hslash, hquote⟩ := h c List.mem_cons_self
    exact .plain hslash hquote (ih fun d hd => h d (List.mem_cons_of_mem c hd))

theorem flatMap {α : Type} {f : α → List Char} (h : ∀ x, Escaped (f x)) (xs : List α) :
    Escaped (xs.flatMap f) := by
  induction xs with
  | nil => exact .nil
  | cons x xs ih => exact (h x).append ih

/-- **The quote that ends an escaped text is found again**: it is the first one that no backslash
    takes. -/
theorem closing_inj (ha : Escaped a) (hb : Escaped b) (h : a ++ '"' :: s = b ++ '"' :: t) :
    a = b ∧ s = t := by
  induction ha generalizing b with
  | nil =>
    cases hb with
    | nil => exact ⟨rfl, List.tail_eq_of_cons_eq h⟩
    | plain _ hquote _ => exact absurd (List.head_eq_of_cons_eq h).symm hquote
    | escape e _ => exact absurd (List.head_eq_of_cons_eq h) (by decide)
  | plain hslash hquote _ ih =>
    cases hb with
    | nil => exact absurd (List.head_eq_of_cons_eq h) hquote
    | plain _ _ hb =>
      obtain ⟨rfl, htail⟩ := List.cons_eq_cons.mp h
      obtain ⟨rfl, hrest⟩ := ih hb htail
      exact ⟨rfl, hrest⟩
    | escape e _ => exact absurd (List.head_eq_of_cons_eq h) hslash
  | escape e _ ih =>
    cases hb with
    | nil => exact absurd (List.head_eq_of_cons_eq h) (by decide)
    | plain hslash _ _ => exact absurd (List.head_eq_of_cons_eq h).symm hslash
    | escape e' hb =>
      obtain ⟨rfl, htail⟩ := List.cons_eq_cons.mp (List.tail_eq_of_cons_eq h)
      obtain ⟨rfl, hrest⟩ := ih hb htail
      exact ⟨rfl, hrest⟩

end Escaped

/-! ## What escapes stand for -/

/-- What an escaped text stands for. -/
def unslash : List Char → List Char
  | '\\' :: e :: s => e :: unslash s
  | c :: s => c :: unslash s
  | [] => []

@[simp] theorem unslash_escape (e : Char) (s : List Char) :
    unslash ('\\' :: e :: s) = e :: unslash s := rfl

theorem unslash_plain {c : Char} (h : c ≠ '\\') (s : List Char) :
    unslash (c :: s) = c :: unslash s := by
  rw [unslash]
  intro e t hcons
  exact absurd hcons h

/-- A text without backslashes stands for itself. -/
theorem unslash_of_plain {s : List Char} (h : ∀ c ∈ s, c ≠ '\\') : unslash s = s := by
  induction s with
  | nil => rfl
  | cons c s ih =>
    obtain ⟨hc, hs⟩ := List.forall_mem_cons.mp h
    rw [unslash_plain hc, ih hs]

theorem length_unslash_le (s : List Char) : (unslash s).length ≤ s.length := by
  fun_induction unslash s with
  | case1 e s ih => simpa using Nat.le_succ_of_le (Nat.succ_le_succ ih)
  | case2 c s _ ih => exact Nat.succ_le_succ ih
  | case3 => exact Nat.le_refl 0

/-- An escaped text that stands for itself has no quotes and no backslashes. -/
theorem Escaped.plain_of_unslash {s : List Char} (h : Escaped s) (hs : unslash s = s) :
    ∀ c ∈ s, c ≠ '\\' ∧ c ≠ '"' := by
  induction h with
  | nil => exact fun c hc => absurd hc List.not_mem_nil
  | plain hslash hquote _ ih =>
    rw [unslash_plain hslash] at hs
    exact List.forall_mem_cons.mpr ⟨⟨hslash, hquote⟩, ih (List.tail_eq_of_cons_eq hs)⟩
  | @escape e s _ ih =>
    -- an escape stands for less than it takes
    have hlength := length_unslash_le s
    have hsame := congrArg List.length hs
    simp only [unslash_escape, List.length_cons] at hsame
    omega

end Affordance.Text
