import Affordance.Text.Class
import Affordance.Text.Half

/-!
# Quoted text

  * `quoted`: a text between quotes as messages show it.  The quotes are single
    unless the text holds single quotes and no double ones; the backslash, the
    quote itself and everything that cannot be shown are escaped, halves of surrogate
    pairs by their own numbers.
-/

namespace Affordance.Text

/-- The hexadecimal digit of a number below sixteen. -/
def hexDigit (n : Nat) : Char := Char.ofNat (if n < 10 then 48 + n else 87 + n)

/-- A number in hexadecimal with exactly `width` digits. -/
def hexFixed : Nat → Nat → List Char
  | 0, _ => []
  | width + 1, n => hexFixed width (n / 16) ++ [hexDigit (n % 16)]

/-- What holds of the sixteen digits holds of all digits of a number. -/
theorem forall_hexFixed {p : Char → Prop} (h : ∀ k < 16, p (hexDigit k)) :
    ∀ (width n : Nat), ∀ c ∈ hexFixed width n, p c
  | 0, _, c, hc => absurd hc List.not_mem_nil
  | width + 1, n, c, hc => by
    rcases List.mem_append.mp hc with hc | hc
    · exact forall_hexFixed h width (n / 16) c hc
    · rw [List.mem_singleton.mp hc]
      exact h (n % 16) (Nat.mod_lt n (by decide))

/-- One character of quoted text. -/
def quotedChar (quote c : Char) : List Char :=
  if c == '\\' then ['\\', '\\']
  else if c == quote then ['\\', c]
  else if c == '\n' then ['\\', 'n']
  else if c == '\r' then ['\\', 'r']
  else if c == '\t' then ['\\', 't']
  else if isPrintable c then [c]
  else if let some h := half? c then '\\' :: 'u' :: hexFixed 4 h
  else if c.toNat < 0x100 then '\\' :: 'x' :: hexFixed 2 c.toNat
  else if c.toNat < 0x10000 then '\\' :: 'u' :: hexFixed 4 c.toNat
  else '\\' :: 'U' :: hexFixed 8 c.toNat

/-- The quote that surrounds a text. -/
def quoteOf (s : List Char) : Char := if s.contains '\'' && !s.contains '"' then '"' else '\''

/-- A text between quotes. -/
def quoted (s : String) : String :=
  let q := quoteOf s.toList
  String.ofList (q :: s.toList.flatMap (quotedChar q) ++ [q])

end Affordance.Text
