import Affordance.Proofs.Number.Digits
import Affordance.Proofs.Text.Fresh
import Affordance.Text.Naming

/-!
# Names in snake case

  * `SnakeWord`, `SnakeName`: the grammar. A name is a word of ASCII small letters and digits, or
    such a word, one underscore and a name.
  * `snakeName_snake`: `snake` makes such a name of every text, unless it makes nothing of it.
  * `SnakeName.append`, `SnakeName.numbered`: what names are put together of: two names with an
    underscore between them, a name with a number at its end.
  * `snakeName_fresh`: so a fresh name of such a name is one.
-/

namespace Affordance.Text

/-! ## 1. The grammar -/

/-- An ASCII small letter or digit. -/
def isSnakeChar (c : Char) : Bool := isLowerAscii c || isDigitAscii c

/-- A word of ASCII small letters and digits. -/
def SnakeWord (w : List Char) : Prop := w ≠ [] ∧ ∀ c ∈ w, isSnakeChar c = true

instance (w : List Char) : Decidable (SnakeWord w) :=
  @instDecidableAnd _ _ inferInstance (List.decidableBAll (isSnakeChar · = true) w)

/-- Words joined by single underscores. -/
inductive SnakeName : List Char → Prop
  | word {w : List Char} : SnakeWord w → SnakeName w
  | joined {w rest : List Char} : SnakeWord w → SnakeName rest → SnakeName (w ++ '_' :: rest)

namespace SnakeName

/-- A name holds small letters, digits and underscores alone. -/
theorem chars {s : List Char} (h : SnakeName s) :
    ∀ c ∈ s, isSnakeChar c = true ∨ c = '_' := by
  induction h with
  | word hw => exact fun c hc => .inl (hw.2 c hc)
  | joined hw _ ih =>
    intro c hc
    rcases List.mem_append.mp hc with hc | hc
    · exact .inl (hw.2 c hc)
    · rcases List.mem_cons.mp hc with rfl | hc
      · exact .inr rfl
      · exact ih c hc

theorem append {a b : List Char} (ha : SnakeName a) (hb : SnakeName b) :
    SnakeName (a ++ '_' :: b) := by
  induction ha with
  | word hw => exact .joined hw hb
  | joined hw _ ih =>
    rw [List.append_assoc, List.cons_append]
    exact .joined hw ih

/-- Joined words are a name. -/
theorem ofWords {ws : List (List Char)} (h : ∀ w ∈ ws, SnakeWord w) (hne : ws ≠ []) :
    SnakeName (joinChars ['_'] ws) := by
  induction ws with
  | nil => exact absurd rfl hne
  | cons w ws ih =>
    have hw : SnakeWord w := h w List.mem_cons_self
    cases ws with
    | nil => exact .word hw
    | cons v ws =>
      have hrest := ih (fun u hu => h u (List.mem_cons_of_mem w hu)) (List.cons_ne_nil v ws)
      rw [joinChars, List.append_assoc]
      exact .joined hw hrest

end SnakeName

/-! ## 2. Numbers -/

/-- The digits of a number are a word. -/
theorem snakeWord_toDigits (n : Nat) : SnakeWord (Nat.toDigits 10 n) := by
  refine ⟨Nat.toDigits_ne_nil, fun c hc => ?_⟩
  rw [isSnakeChar, Number.digits_toDigits n c hc, Bool.or_true]

theorem SnakeName.numbered {name : String} (h : SnakeName name.toList) (n : Nat) :
    SnakeName (Text.numbered name n).toList := by
  rw [toList_numbered]
  exact h.append (.word (snakeWord_toDigits n))

/-- A fresh name of a name is one. -/
theorem snakeName_fresh {name : String} (h : SnakeName name.toList) (taken : List String) :
    SnakeName (fresh name taken).toList := by
  obtain ⟨-, hsame | ⟨-, n, -, hname, -⟩⟩ := fresh_firstFree name taken
  · rwa [hsame]
  · rw [hname]
    exact h.numbered n

/-! ## 3. Texts as names -/

/-- Every text that `snake` makes something of becomes a name. -/
theorem snakeName_snake {s : String} (h : snake s ≠ "") : SnakeName (snake s).toList := by
  have hwords : ∀ w ∈ snakeWords s.toList, SnakeWord w := by
    intro w hw
    obtain ⟨hne, halnum⟩ := snakeWords_alnum hw
    exact ⟨hne, fun c hc => Bool.or_eq_true_iff.mpr (halnum c hc)⟩
  rw [snake, String.toList_ofList]
  refine .ofWords hwords fun hnil => h ?_
  rw [snake, hnil]
  rfl

end Affordance.Text
