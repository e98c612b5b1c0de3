import Affordance.Proofs.Script.Expression
import Affordance.Proofs.Text.Pieces
import Affordance.Proofs.Text.Stripped

/-!
# Plain values and literals

Whether an expression is one quoted text is decided twice. `literal` looks at its first and its last
character; the scanner passes the literal that begins there, one character after the other.

  * `literal_delimited_iff`: what `literal` takes for the text of a quoted value.
  * `Guarded`: a text each of whose delimiters is taken by a backslash.
  * `LiteralLoop`: the loops of the scanner over the inside of a literal, as far as only backslashes
    and delimiters mean something to them (`literalLoop_string`, `literalLoop_template`).
  * `LiteralLoop.eq_size_iff`: such a loop passes the rest of a text iff what stands before the last
    delimiter is guarded. By induction on that text, two characters at a time behind a backslash.
  * **`literal_single_iff`**: what is taken for a plain value is one literal to the scanner iff the
    text between its delimiters is guarded.
  * `sum_is_plain`: the sum of two strings is taken for a plain value, and so for the text of an
    attribute.
-/

namespace Affordance.Script

open Affordance.Text
open Affordance.Text.Source (Ahead)

/-! ## 1. What is taken for a quoted value -/

theorem between_eq_some_iff {quote : Char} {s v : List Char} :
    between quote s = some v ↔ s = quote :: (v ++ [quote]) := by
  cases s with
  | nil => simp [between]
  | cons c rest =>
    obtain rfl | ⟨inner, d, rfl⟩ := List.eq_nil_or_concat' rest
    · simp [between]
    · have hsame : between quote (c :: (inner ++ [d])) =
          if c == quote && d == quote then some inner else none := by
        simp [between]
      rw [hsame]
      by_cases hc : c = quote <;> by_cases hd : d = quote <;> simp [hc, hd]

theorem between_eq_none {q c : Char} {s : List Char} (h : c ≠ q) :
    between q (c :: s) = none := by
  rw [Option.eq_none_iff_forall_ne_some]
  intro v hv
  exact h (List.cons.inj (between_eq_some_iff.mp hv)).1

/-- The characters that a literal can begin with. -/
def IsDelimiter (q : Char) : Prop := q = '\'' ∨ q = '"' ∨ q = '`'

/-- A delimiter begins no number. -/
theorem isNumber_delimiter {q : Char} (hq : IsDelimiter q) (s : List Char) :
    isNumber (q :: s) = false := by
  rcases hq with rfl | rfl | rfl <;> rfl

/-- A hole of a template lies between its delimiters. -/
theorem hole_between_iff {v : List Char} :
    ['$', '\x7b'] <:+: '`' :: (v ++ ['`']) ↔ ['$', '\x7b'] <:+: v := by
  constructor
  · intro h
    rcases infix_of_infix_cut (by decide) (a := []) h with h | h
    · simp at h
    · exact (infix_of_infix_cut (by decide) h).resolve_right (by simp)
  · exact fun h => h.trans ⟨['`'], ['`'], by simp⟩

section Delimited

variable {expr s v : List Char} {q : Char}

/-- What begins with a delimiter is neither a number nor a truth value. -/
theorem unquoted_eq_none (hq : IsDelimiter q) :
    (if isNumber (q :: s) || q :: s == "true".toList || q :: s == "false".toList
      then some (q :: s) else none) = none := by
  have hletter : q ≠ 't' ∧ q ≠ 'f' := by
    rcases hq with rfl | rfl | rfl <;> decide
  have htrue : (q :: s == "true".toList) = false :=
    beq_eq_false_iff_ne.mpr fun h => hletter.1 (List.cons.inj h).1
  have hfalse : (q :: s == "false".toList) = false :=
    beq_eq_false_iff_ne.mpr fun h => hletter.2 (List.cons.inj h).1
  rw [isNumber_delimiter hq, htrue, hfalse]
  rfl

theorem literal_quoted (hq : q = '\'' ∨ q = '"') (hs : strip expr = q :: s) :
    literal expr = between q (q :: s) := by
  have hdelimiter : IsDelimiter q := hq.imp_right .inl
  have htick : between '`' (q :: s) = none :=
    between_eq_none (by rcases hq with rfl | rfl <;> decide)
  have hquote : (between '\'' (q :: s) <|> between '"' (q :: s)) = between q (q :: s) := by
    rcases hq with rfl | rfl
    · rw [between_eq_none (q := '"') (by decide)]
      cases between '\'' ('\'' :: s) <;> rfl
    · rw [between_eq_none (q := '\'') (by decide)]
      rfl
  unfold literal
  dsimp only
  rw [hs, hquote, htick]
  cases between q (q :: s) with
  | none => exact unquoted_eq_none hdelimiter
  | some inner => rfl

theorem literal_template (hs : strip expr = '`' :: s) :
    literal expr = (between '`' ('`' :: s)).filter fun _ => !isInfix ['$', '\x7b'] ('`' :: s) := by
  unfold literal
  dsimp only
  rw [hs, between_eq_none (q := '\'') (by decide), between_eq_none (q := '"') (by decide)]
  cases between '`' ('`' :: s) with
  | none => exact unquoted_eq_none (.inr (.inr rfl))
  | some inner => cases isInfix ['$', '\x7b'] ('`' :: s) <;> rfl

/-- **A quoted value is told by its two ends**, and a template by having no holes besides. -/
theorem literal_delimited_iff (hq : IsDelimiter q) (hfirst : (strip expr).head? = some q) :
    literal expr = some v ↔
      strip expr = q :: (v ++ [q]) ∧ (q = '`' → ¬ ['$', '\x7b'] <:+: v) := by
  obtain ⟨s, hs⟩ := List.head?_eq_some_iff.mp hfirst
  rw [hs]
  by_cases htick : q = '`'
  · subst htick
    rw [literal_template hs, Option.filter_eq_some_iff, between_eq_some_iff]
    refine and_congr_right fun h => ?_
    rw [h, Bool.not_eq_true', ← Bool.not_eq_true, isInfix_iff_piece, hole_between_iff]
    exact ⟨fun hhole _ => hhole, fun hhole => hhole rfl⟩
  · have hquote : q = '\'' ∨ q = '"' := hq.imp_right fun h => h.resolve_right htick
    rw [literal_quoted hquote hs, between_eq_some_iff]
    exact (and_iff_left fun h => absurd h htick).symm

end Delimited

/-! ## 2. Where the scanner ends -/

/-- A text in which a backslash takes every delimiter. A backslash at its end takes the delimiter
    behind the text. -/
inductive Guarded (delimiter : Char) : List Char → Prop
  | nil : Guarded delimiter []
  | slash : Guarded delimiter ['\\']
  | char {c : Char} {s : List Char} (hdelimiter : c ≠ delimiter) (hslash : c ≠ '\\')
      (hs : Guarded delimiter s) : Guarded delimiter (c :: s)
  | escape {c : Char} {s : List Char} (hs : Guarded delimiter s) :
      Guarded delimiter ('\\' :: c :: s)

section Ends

variable {src : Source} {q c : Char} {s : List Char}

theorem guarded_char_iff (hslash : c ≠ '\\') : Guarded q (c :: s) ↔ c ≠ q ∧ Guarded q s := by
  constructor
  · intro h
    cases h with
    | slash => exact absurd rfl hslash
    | char hq _ hs => exact ⟨hq, hs⟩
    | escape => exact absurd rfl hslash
  · exact fun ⟨hq, hs⟩ => .char hq hslash hs

theorem guarded_escape_iff : Guarded q ('\\' :: c :: s) ↔ Guarded q s := by
  constructor
  · intro h
    cases h with
    | char _ hslash => exact absurd rfl hslash
    | escape hs => exact hs
  · exact .escape

/-- The loop over the inside of a literal in which, from a position on, only backslashes and
    delimiters mean something. -/
structure LiteralLoop (src : Source) (delimiter : Char) (f : Nat → Nat) (i : Nat) : Prop where
  ends : ∀ {k}, src[k]? = none → f k = src.size
  escape : ∀ {k}, src[k]? = some '\\' → f k = f (k + 2)
  closes : ∀ {k}, src[k]? = some delimiter → f k = k + 1
  char : ∀ {k c}, i ≤ k → src[k]? = some c → c ≠ '\\' → c ≠ delimiter → f k = f (k + 1)

namespace LiteralLoop

variable {f : Nat → Nat} {i j : Nat} {v : List Char} (l : LiteralLoop src q f i)

include l

/-- A character that is no backslash ends the literal iff it is the delimiter. -/
theorem char_iff (hslash : c ≠ '\\') (hj : i ≤ j) (h : src.Ahead j (c :: (v ++ [q])))
    (hrest : f (j + 1) = src.size ↔ Guarded q v) : f j = src.size ↔ Guarded q (c :: v) := by
  have hsize : src.size = j + (v.length + 2) := by
    rw [h.size (Nat.le_of_lt (lt_size h.head))]
    simp
  rw [guarded_char_iff hslash]
  by_cases hq : c = q
  · subst hq
    rw [l.closes h.head]
    exact iff_of_false (by omega) fun hs => hs.1 rfl
  · rw [l.char hj h.head hslash hq, hrest]
    exact (and_iff_right hq).symm

/-- **A literal ends with the text iff its inside is guarded**, by induction on the inside. -/
theorem eq_size_iff : ∀ {v : List Char} {j : Nat}, i ≤ j → src.Ahead j (v ++ [q]) →
    (f j = src.size ↔ Guarded q v)
  | [], j, _, h => by
    have hsize : src.size = j + 1 := h.size (Nat.le_of_lt (lt_size h.head))
    rw [l.closes h.head, hsize]
    exact iff_of_true rfl .nil
  | [c], j, hj, h => by
    by_cases hslash : c = '\\'
    · subst hslash
      rw [l.escape h.head, l.ends h.tail.tail.none_of_nil]
      exact iff_of_true rfl .slash
    · exact l.char_iff hslash hj h (eq_size_iff (by omega) h.tail)
  | c :: d :: v, j, hj, h => by
    by_cases hslash : c = '\\'
    · subst hslash
      rw [l.escape h.head, guarded_escape_iff]
      exact eq_size_iff (by omega) h.tail.tail
    · exact l.char_iff hslash hj h (eq_size_iff (by omega) h.tail)

end LiteralLoop

/-- Within a line only backslashes and quotes mean something to a string literal. -/
theorem literalLoop_string {i : Nat} (hq : q ≠ '\\') (hline : '\n' ∉ src.toList) :
    LiteralLoop src q (inString src q) i where
  ends := inString_end
  escape h := by rw [inString_eq h, if_pos rfl]
  closes h := by rw [inString_eq h, if_neg hq, if_pos (.inl rfl)]
  char {k d} _ h hslash hd := by
    have hbreak : d ≠ '\n' := by
      rintro rfl
      exact hline (Array.mem_toList_iff.mpr (Array.mem_of_getElem? h))
    rw [inString_eq h, if_neg hslash, if_neg (not_or.mpr ⟨hd, hbreak⟩)]

/-- Without holes only backslashes and backticks mean something to a template. -/
theorem literalLoop_template {i : Nat} (hhole : ¬ ['$', '\x7b'] <:+: src.toList) :
    LiteralLoop src '`' (inTemplate src) i where
  ends := inTemplate_end
  escape h := by rw [inTemplate_eq h, if_pos rfl]
  closes h := by rw [inTemplate_eq h, if_neg (by decide), if_pos rfl]
  char {k d} _ h hslash hd := by
    have hnone : ¬(d = '$' ∧ src[k + 1]? = some '\x7b') := by
      rintro ⟨rfl, hbrace⟩
      have hk : src.Ahead k (src.toList.drop k) := rfl
      obtain ⟨s, hs⟩ := hk.cons_of_head h
      rw [hs] at hk
      obtain ⟨t, rfl⟩ := hk.tail.cons_of_head hbrace
      have hpiece : ['$', '\x7b'] <:+: src.toList.drop k := hs ▸ ⟨[], t, rfl⟩
      exact hhole (hpiece.trans (List.drop_suffix k src.toList).isInfix)
    rw [inTemplate_eq h, if_neg hslash, if_neg hd, if_neg hnone]

end Ends

/-! ## 3. Plain values that are one literal -/

/-- Where the scanner ends the literal that the text begins with. -/
def literalEnd (s : List Char) : Nat :=
  if s.head? = some '`' then pastTemplate s.toArray 0 else pastString s.toArray 0

/-- **What is taken for a plain value is one literal iff no delimiter stands free in it**: the value
    is what lies between the first and the last character, and the scanner passes all of the
    expression as one literal iff backslashes take the delimiters in between. -/
theorem literal_single_iff {expr v : List Char} {q : Char} (hq : IsDelimiter q)
    (hfirst : (strip expr).head? = some q) (hline : q ≠ '`' → '\n' ∉ strip expr)
    (h : literal expr = some v) :
    strip expr = q :: (v ++ [q]) ∧
      (literalEnd (strip expr) = (strip expr).length ↔ Guarded q v) := by
  obtain ⟨hs, hhole⟩ := (literal_delimited_iff hq hfirst).mp h
  refine ⟨hs, ?_⟩
  rw [hs] at hline ⊢
  have hahead : Ahead (q :: (v ++ [q])).toArray 0 (q :: (v ++ [q])) := Source.ahead_toArray _
  have hsize : (q :: (v ++ [q])).length = (q :: (v ++ [q])).toArray.size := rfl
  unfold literalEnd
  rw [List.head?_cons, hsize]
  by_cases htick : q = '`'
  · subst htick
    have hnone : ¬ ['$', '\x7b'] <:+: ('`' :: (v ++ ['`'])).toArray.toList :=
      fun h => hhole rfl (hole_between_iff.mp h)
    rw [if_pos rfl, pastTemplate_eq]
    exact (literalLoop_template (i := 1) hnone).eq_size_iff (Nat.le_refl 1) hahead.tail
  · have hslash : q ≠ '\\' := by
      rcases hq with rfl | rfl | rfl <;> decide
    rw [if_neg (by simpa using htick), pastString_eq hahead.head]
    exact (literalLoop_string (i := 1) hslash (hline htick)).eq_size_iff (Nat.le_refl 1) hahead.tail

/-- **The sum of two strings is taken for a plain value**, with everything between its outer quotes
    for its text, and so is an attribute that holds it; the scanner passes the first string only.
    A string with its quote behind a backslash is passed as a whole. -/
theorem sum_is_plain :
    (literal "'it\\'s'".toList = some "it\\'s".toList ∧ literalEnd "'it\\'s'".toList = 7) ∧
    (literal "'a' + 'b'".toList = some "a' + 'b".toList ∧ literalEnd "'a' + 'b'".toList = 3 ∧
      ¬ Guarded '\'' "a' + 'b".toList ∧
      (({ tag := "input" } : OpenTag).withExpression "id" "'a' + 'b'".toList).dynamic = []) := by
  have hescaped : Guarded '\'' "it\\'s".toList :=
    .char (by decide) (by decide) (.char (by decide) (by decide) (.escape
      (.char (by decide) (by decide) .nil)))
  have hliteral : literal "'it\\'s'".toList = some "it\\'s".toList := by decide
  obtain ⟨-, hend⟩ := literal_single_iff (q := '\'') (.inl rfl) (by decide) (by decide) hliteral
  have hsum : literal "'a' + 'b'".toList = some "a' + 'b".toList := by decide
  have hfirst : literalEnd "'a' + 'b'".toList = 3 := by decide
  obtain ⟨-, hsumEnd⟩ := literal_single_iff (q := '\'') (.inl rfl) (by decide) (by decide) hsum
  refine ⟨⟨hliteral, hend.mpr hescaped⟩, hsum, hfirst, fun hguarded => ?_, by decide⟩
  have hwhole : literalEnd "'a' + 'b'".toList = 9 := hsumEnd.mpr hguarded
  rw [hfirst] at hwhole
  cases hwhole

end Affordance.Script
