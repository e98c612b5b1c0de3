import Affordance.Script.Scanner

/-!
# Plain values in script text

  * `literal`: the text of an expression that is one plain value, a quoted text,
    a template without holes, a number or a truth value.
  * `splitTop`: an expression list cut at separators outside all brackets.
  * `initialType`: the type of a state variable told from its initial value.
-/

namespace Affordance.Script

open Affordance.Text

/-! ## 1. Single values -/

/-- Digits and nothing else, at least one. -/
def isDigits (s : List Char) : Bool := !s.isEmpty && s.all isDigit

/-- A decimal number without a sign. -/
def isUnsigned (s : List Char) : Bool :=
  let whole := s.takeWhile isDigit
  match s.dropWhile isDigit with
  | [] => !whole.isEmpty
  | c :: frac => c == '.' && !whole.isEmpty && isDigits frac

/-- A decimal number. -/
def isNumber : List Char → Bool
  | '-' :: s => isUnsigned s
  | s => isUnsigned s

/-- The characters between the first and the last, if both are the same. -/
def between (quote : Char) (s : List Char) : Option (List Char) :=
  match s with
  | [] => none
  | c :: rest =>
    match rest.reverse with
    | [] => none
    | d :: inner => if c == quote && d == quote then some inner.reverse else none

/-- The text of an expression that is one plain value. -/
def literal (expr : List Char) : Option (List Char) :=
  let s := strip expr
  match between '\'' s <|> between '"' s with
  | some inner => some inner
  | none =>
    match between '`' s with
    | some inner => if isInfix ['$', '{'] s then none else some inner
    | none =>
      if isNumber s || s == "true".toList || s == "false".toList then some s else none

/-- The text of an expression that is one plain value. -/
def literalText (expr : String) : Option String := (literal expr.toList).map String.ofList

/-! ## 2. Lists of expressions -/

/-- The stripped pieces of a text from a position on, cut at separators outside all
    brackets and at closing brackets without a partner. -/
def piecesFrom (src : Source) (separators : List Char) : Nat → Nat → List (List Char)
  | 0, _ => []
  | n + 1, i =>
    if i < src.size then
      let stop := skip src separators i
      strip (src.slice i stop) :: piecesFrom src separators n (stop + 1)
    else []

/-- The stripped pieces of a text, cut at separators outside all brackets. -/
def splitTop (separators : List Char) (s : List Char) : List (List Char) :=
  piecesFrom s.toArray separators (s.length + 1) 0

/-! ## 3. Types of initial values -/

/-- The type of a state variable told from its initial value. -/
def initialType (initial : Option String) : String :=
  match strip ((initial.getD "").toList) with
  | [] => "string"
  | c :: s =>
    if c :: s == "true".toList || c :: s == "false".toList then "boolean"
    else if isNumber (c :: s) then "number"
    else if c == '{' then "object"
    else if c == '[' then "array"
    else "string"

end Affordance.Script
