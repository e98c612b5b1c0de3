import Affordance.Text.Source

/-!
# The script scanner

  * Walks over script text without understanding it: strings, templates,
    comments, regular expressions and nested element tags are passed as wholes,
    and brackets are counted.
  * `skip` stops at the first character of a given set outside all brackets, or
    at a closing bracket that was never opened.
  * `move` says what one character does to the walk; it is shared with the
    reader of element tags (module `Affordance.Script.Elements`), which does
    more with a tag than pass it.
  * The four walks that call each other count down an amount of fuel; `fuelFor`
    is more than any walk over the text can use, since every step but two in a
    row goes forward.
-/

namespace Affordance.Script

open Affordance.Text

/-! ## 1. What may stand before a tag or a regular expression -/

/-- A character of a name. -/
def isNameChar (c : Char) : Bool := isWord c || c == '$'

/-- The first character of a name. -/
def isNameStart (c : Char) : Bool := isLetterAscii c || c == '_' || c == '$'

/-- A later character of a tag name or an attribute name. -/
def isTagNameChar (c : Char) : Bool := isNameChar c || c == '.' || c == ':' || c == '-'

/-- Characters after which an element can begin. -/
def tagLead : List Char := "([{,;:?=&|!>}".toList

/-- Words after which an element can begin. -/
def tagLeadWords : List (List Char) :=
  ["return", "yield", "default", "case", "await", "in", "of", "do", "else"].map String.toList

/-- Characters after which a regular expression can begin. -/
def regexLead : List Char := "(,=:[!&|?{};\n".toList

/-- Words after which a regular expression can begin. -/
def regexLeadWords : List (List Char) :=
  ["return", "typeof", "case", "in", "of"].map String.toList

/-- What stands before a position, blanks of the class aside, is the beginning of
    the text, a character of `lead` or one of the words. -/
def leads (src : Source) (blank : Char → Bool) (lead : List Char) (leadWords : List (List Char))
    (i : Nat) : Bool :=
  match src.passBack blank i with
  | 0 => true
  | j + 1 =>
    match src[j]? with
    | none => false
    | some c =>
      lead.contains c || leadWords.contains (src.slice (src.passBack isNameChar (j + 1)) (j + 1))

/-- The `<` at the position opens an element and is no comparison. -/
def canOpenTag (src : Source) (i : Nat) : Bool :=
  match src[i + 1]? with
  | none => false
  | some c => (isLetter c || c == '>' || c == '_') && leads src isSpace tagLead tagLeadWords i

/-- The slash at the position begins a regular expression and is no division. -/
def canOpenRegex (src : Source) (i : Nat) : Bool :=
  leads src (fun c => c == ' ' || c == '\t') regexLead regexLeadWords i

/-! ## 2. Literals and comments -/

/-- The end of a string literal from inside it: after its quote, or after the
    line break that cuts it off. -/
def stringEnd (src : Source) (quote : Char) : Nat → Nat → Nat
  | 0, _ => src.size
  | n + 1, j =>
    match src[j]? with
    | none => src.size
    | some c =>
      if c == '\\' then stringEnd src quote n (j + 2)
      else if c == quote || c == '\n' then j + 1
      else stringEnd src quote n (j + 1)

/-- The end of the string literal that begins at the position. -/
def pastString (src : Source) (i : Nat) : Nat :=
  match src[i]? with
  | none => src.size
  | some quote => stringEnd src quote (src.size - i) (i + 1)

/-- The end of a regular expression from inside it; `inClass` inside brackets,
    where a slash does not end it. -/
def regexEnd (src : Source) : Bool → Nat → Nat → Nat
  | _, 0, _ => src.size
  | inClass, n + 1, j =>
    match src[j]? with
    | none => src.size
    | some c =>
      if c == '\\' then regexEnd src inClass n (j + 2)
      else if c == '\n' then j
      else if c == '[' then regexEnd src true n (j + 1)
      else if c == ']' then regexEnd src false n (j + 1)
      else if c == '/' && !inClass then src.passWhile isLetter (j + 1)
      else regexEnd src inClass n (j + 1)

/-- The end of the regular expression that begins at the position, flags included. -/
def pastRegex (src : Source) (i : Nat) : Nat := regexEnd src false (src.size - i) (i + 1)

/-- The line feed that ends a line comment. -/
def lineCommentEnd (src : Source) (i : Nat) : Nat := (src.findChar '\n' i).getD src.size

/-- The position after a block comment. -/
def blockCommentEnd (src : Source) (i : Nat) : Nat :=
  match src.findFragment ['*', '/'] (i + 2) with
  | some j => j + 2
  | none => src.size

/-! ## 3. What one character does -/

/-- An opening bracket. -/
def isOpener (c : Char) : Bool := c == '(' || c == '[' || c == '{'

/-- A closing bracket. -/
def isCloser (c : Char) : Bool := c == ')' || c == ']' || c == '}'

/-- What the character at a position does to a walk. -/
inductive Move where
  /-- The walk ends here. -/
  | stop
  /-- A string, a comment or a regular expression is passed up to the position. -/
  | jump (to_ : Nat)
  /-- A template literal begins. -/
  | template
  /-- A bracket opens. -/
  | opens
  /-- A bracket closes. -/
  | closes
  /-- An element may begin. -/
  | tag
  /-- Nothing special. -/
  | plain
  deriving Repr, DecidableEq

/-- What the slash at the position does. -/
def slashMove (src : Source) (i : Nat) : Move :=
  match src[i + 1]? with
  | none => .plain
  | some next =>
    if next == '/' then .jump (lineCommentEnd src i)
    else if next == '*' then .jump (blockCommentEnd src i)
    else if canOpenRegex src i then .jump (pastRegex src i)
    else .plain

/-- What the character at the position does, `depth` brackets deep. -/
def move (src : Source) (closers : List Char) (depth i : Nat) (c : Char) : Move :=
  if depth = 0 ∧ closers.contains c = true then .stop
  else if c = '\'' ∨ c = '"' then .jump (pastString src i)
  else if c = '`' then .template
  else if c = '/' then slashMove src i
  else if isOpener c = true then .opens
  else if isCloser c = true then (if depth = 0 then .stop else .closes)
  else if c = '<' ∧ canOpenTag src i = true then .tag
  else .plain

/-! ## 4. The walks -/

/-- The end of a tag name that begins at the position. -/
def tagNameEnd (src : Source) (i : Nat) : Option Nat :=
  match src[i]? with
  | some c => if isNameStart c then some (src.passWhile isTagNameChar (i + 1)) else none
  | none => none

mutual

/-- Walks from a position, `depth` brackets deep, to the first of `closers` outside
    all brackets or to a closing bracket without a partner. -/
def skipFrom (src : Source) (closers : List Char) : Nat → Nat → Nat → Nat
  | 0, _, _ => src.size
  | fuel + 1, depth, i =>
    match src[i]? with
    | none => src.size
    | some c =>
      match move src closers depth i c with
      | .stop => i
      | .jump j => skipFrom src closers fuel depth j
      | .template => skipFrom src closers fuel depth (templateFrom src fuel (i + 1))
      | .opens => skipFrom src closers fuel (depth + 1) (i + 1)
      | .closes => skipFrom src closers fuel (depth - 1) (i + 1)
      | .tag =>
        let j := elementFrom src i fuel 0 i
        skipFrom src closers fuel depth (if i < j then j else i + 1)
      | .plain => skipFrom src closers fuel depth (i + 1)
termination_by structural fuel => fuel

/-- The end of a template literal from inside it. -/
def templateFrom (src : Source) : Nat → Nat → Nat
  | 0, _ => src.size
  | fuel + 1, j =>
    match src[j]? with
    | none => src.size
    | some c =>
      if c = '\\' then templateFrom src fuel (j + 2)
      else if c = '`' then j + 1
      else if c = '$' ∧ src[j + 1]? = some '{' then
        templateFrom src fuel (skipFrom src ['}'] fuel 0 (j + 2) + 1)
      else templateFrom src fuel (j + 1)
termination_by structural fuel => fuel

/-- The end of the element that begins at `start`, from a position inside it,
    `depth` elements deep; `start` itself if there is no element. -/
def elementFrom (src : Source) (start : Nat) : Nat → Nat → Nat → Nat
  | 0, _, _ => src.size
  | fuel + 1, depth, j =>
    match src[j]? with
    | none => src.size
    | some c =>
      if c = '<' then
        if src[j + 1]? = some '/' then
          match src.findChar '>' j with
          | none => src.size
          | some k => if depth ≤ 1 then k + 1 else elementFrom src start fuel (depth - 1) (k + 1)
        else
          match openTagFrom src fuel j with
          | none => if depth = 0 then start else elementFrom src start fuel depth (j + 1)
          | some (k, true) => if depth = 0 then k else elementFrom src start fuel depth k
          | some (k, false) => elementFrom src start fuel (depth + 1) k
      else if c = '{' ∧ 0 < depth then
        elementFrom src start fuel depth (skipFrom src ['}'] fuel 0 (j + 1) + 1)
      else if depth = 0 then j
      else elementFrom src start fuel depth (j + 1)
termination_by structural fuel => fuel

/-- The end of the opening tag at the position, and whether it closes itself. -/
def openTagFrom (src : Source) : Nat → Nat → Option (Nat × Bool)
  | 0, _ => none
  | fuel + 1, i =>
    if src.at_ i ['<', '>'] then some (i + 2, false)
    else
      match tagNameEnd src (i + 1) with
      | none => none
      | some j => tagRestFrom src fuel j
termination_by structural fuel => fuel

/-- The end of an opening tag from inside it, and whether it closes itself. -/
def tagRestFrom (src : Source) : Nat → Nat → Option (Nat × Bool)
  | 0, _ => none
  | fuel + 1, j =>
    match src[j]? with
    | none => none
    | some c =>
      if c = '\'' ∨ c = '"' then tagRestFrom src fuel (pastString src j)
      else if c = '{' then tagRestFrom src fuel (skipFrom src ['}'] fuel 0 (j + 1) + 1)
      else if src.at_ j ['/', '>'] then some (j + 2, true)
      else if c = '>' then some (j + 1, false)
      else if c = '<' then none
      else tagRestFrom src fuel (j + 1)
termination_by structural fuel => fuel

end

/-- More fuel than a walk over the text can use. -/
def fuelFor (src : Source) : Nat := 4 * src.size + 8

/-- The first position from `i` on, outside brackets, that holds one of `closers` or
    a closing bracket without a partner; the size of the text if there is none. -/
def skip (src : Source) (closers : List Char) (i : Nat) : Nat :=
  skipFrom src closers (fuelFor src) 0 i

/-- The end of the template literal that begins at the position. -/
def pastTemplate (src : Source) (i : Nat) : Nat := templateFrom src (fuelFor src) (i + 1)

/-- The end of the element that begins at the position, or the position itself. -/
def pastElement (src : Source) (i : Nat) : Nat := elementFrom src i (fuelFor src) 0 i

/-! ## 5. Partners of brackets -/

/-- Why there is nothing to look for at a position. -/
inductive BracketFault where
  /-- The position holds no opening bracket. -/
  | noBracket (c : Char)
  /-- The position lies outside the text. -/
  | outside
  deriving Repr, DecidableEq

/-- The closing bracket of an opening one. -/
def closerOf (c : Char) : Option Char :=
  if c = '(' then some ')'
  else if c = '[' then some ']'
  else if c = '{' then some '}'
  else none

/-- Where the partner of an opening bracket is, searched from a position on. -/
def partnerFrom (src : Source) (opener : Option Char) (i : Nat) : Except BracketFault Nat :=
  match opener with
  | none => .error .outside
  | some c =>
    match closerOf c with
    | none => .error (.noBracket c)
    | some d => .ok (skip src [d] i)

/-- The end of the string literal at the position, which must lie inside the text. -/
def stringAt (src : Source) (i : Nat) : Except BracketFault Nat :=
  if i < src.size then .ok (pastString src i) else .error .outside

/-- Where the partner of the bracket at the position is; the size of the text if the
    bracket is never closed. -/
def partner (src : Source) (i : Nat) : Except BracketFault Nat :=
  partnerFrom src src[i]? (i + 1)

theorem partner_of_opener {src : Source} {i : Nat} {c d : Char} (hc : src[i]? = some c)
    (hd : closerOf c = some d) : partner src i = .ok (skip src [d] (i + 1)) := by
  simp [partner, partnerFrom, hc, hd]

end Affordance.Script
