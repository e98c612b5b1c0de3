import Affordance.Json.Basic
import Affordance.Text.Utf8

/-!
# Writing JSON

  * `Style` fixes what a written JSON value leaves open: the separators, the
    indentation, the order of fields and whether characters above ASCII are
    escaped.
  * `Style.spaced`, `Style.indented`, `Style.canonical` and `Style.wire` are the styles in
    use.
  * `Json.render` writes a value.  `pieceFault?` finds what of a value cannot be written to
    a file.
-/

namespace Affordance.Json

open Affordance.Text

/-! ## 1. Styles -/

/-- What a written JSON value leaves open. -/
structure Style where
  /-- Between two items on one line. -/
  itemSep : String
  /-- Between a key and its value. -/
  keySep : String
  /-- Blanks for each level, where every item has a line of its own. -/
  indent : Option Nat
  /-- Characters above ASCII are escaped. -/
  asciiOnly : Bool
  /-- Fields are written in the order of their keys. -/
  sortKeys : Bool
  deriving Repr, DecidableEq

/-- One line with blanks, all characters as they are. -/
def Style.spaced : Style := ⟨", ", ": ", none, false, false⟩

/-- A line for each item, all characters as they are. -/
def Style.indented : Style := ⟨",", ": ", some 2, false, false⟩

/-- One line without blanks and with sorted fields: equal values have equal texts. -/
def Style.canonical : Style := ⟨",", ":", none, false, true⟩

/-- One line without blanks, ASCII alone. -/
def Style.wire : Style := ⟨",", ":", none, true, false⟩

/-! ## 2. Texts -/

/-- An escape of four hexadecimal digits. -/
def unicodeEscape (n : Nat) : List Char := '\\' :: 'u' :: hexFixed 4 n

/-- One character of a written text. -/
def renderChar (asciiOnly : Bool) (c : Char) : List Char :=
  if c = '"' then ['\\', '"']
  else if c = '\\' then ['\\', '\\']
  else if c = '\n' then ['\\', 'n']
  else if c = '\r' then ['\\', 'r']
  else if c = '\t' then ['\\', 't']
  else if c = '\x0c' then ['\\', 'f']
  else if c = '\x08' then ['\\', 'b']
  else if c.toNat < 32 then unicodeEscape c.toNat
  else if asciiOnly && 127 ≤ c.toNat then
    if c.toNat < 0x10000 then unicodeEscape c.toNat
    else if let some h := half? c then unicodeEscape h
    else
      let n := c.toNat - 0x10000
      unicodeEscape (0xd800 + n / 0x400) ++ unicodeEscape (0xdc00 + n % 0x400)
  else [c]

/-- A written text, quotes included. -/
def renderText (asciiOnly : Bool) (s : String) : List Char :=
  '"' :: s.toList.flatMap (renderChar asciiOnly) ++ ['"']

/-! ## 3. Values -/

/-- A line break and the blanks of a level, where every item has its own line. -/
def Style.newline (st : Style) (level : Nat) : List Char :=
  match st.indent with
  | none => []
  | some n => '\n' :: List.replicate (n * level) ' '

/-- A written number. -/
def renderMeasure : Number.Measure → List Char
  | .infinity negative => (if negative then "-Infinity" else "Infinity").toList
  | .undefined => "NaN".toList
  | m => m.shortest.toList

/-- Fields in the order of their keys. -/
def sortFields {α : Type} (fs : List (String × α)) : List (String × α) :=
  fs.mergeSort fun a b => !(b.1 < a.1)

/-- A bracketed list of written items. -/
def bracket (st : Style) (level : Nat) (open_ close : Char) (items : List (List Char)) :
    List Char :=
  if items.isEmpty then [open_, close]
  else
    open_ :: (st.newline (level + 1) ++
      joinChars (st.itemSep.toList ++ st.newline (level + 1)) items ++ st.newline level) ++ [close]

mutual

/-- A written value, at a level of nesting. -/
def renderAt (st : Style) (level : Nat) : Json → List Char
  | null => "null".toList
  | bool b => (if b then "true" else "false").toList
  | int i => (toString i).toList
  | num m => renderMeasure m
  | str s => renderText st.asciiOnly s
  | arr items => bracket st level '[' ']' (renderItems st (level + 1) items)
  | obj fields =>
    let written := renderFields st (level + 1) fields
    let ordered := if st.sortKeys then sortFields written else written
    bracket st level '\x7b' '\x7d' (ordered.map fun (k, v) =>
      renderText st.asciiOnly k ++ st.keySep.toList ++ v)

/-- The written items of a list. -/
def renderItems (st : Style) (level : Nat) : List Json → List (List Char)
  | [] => []
  | v :: rest => renderAt st level v :: renderItems st level rest

/-- The written values of an object with their keys. -/
def renderFields (st : Style) (level : Nat) : List (String × Json) → List (String × List Char)
  | [] => []
  | (k, v) :: rest => (k, renderAt st level v) :: renderFields st level rest

end

/-- A written value. -/
def render (st : Style) (v : Json) : String := String.ofList (renderAt st 0 v)

/-- A written text, all characters as they are. -/
def quote (s : String) : String := String.ofList (renderText false s)

/-- A written text, ASCII alone. -/
def quoteAscii (s : String) : String := String.ofList (renderText true s)

/-! ## 4. Halves of surrogate pairs -/

mutual

/-- The first halves in a value that is written piece by piece with a line for each item:
    their place in the piece, which begins `lead` characters before the value.  Halves are told
    as `half?` does. -/
def pieceFault? (lead level : Nat) : Json → Option HalfFault
  | str s => (halfFault? (quote s)).map fun f => { f with position := lead + f.position }
  | arr items => itemsFault? (level + 1) items
  | obj fields => fieldsFault? (level + 1) fields
  | _ => none

/-- The first halves in the items of a list; the bracket or comma and the line break
    before an item belong to its piece. -/
def itemsFault? (level : Nat) : List Json → Option HalfFault
  | [] => none
  | v :: rest => pieceFault? (2 + 2 * level) level v <|> itemsFault? level rest

/-- The first halves in the fields of an object; a key is a piece, and so is its value. -/
def fieldsFault? (level : Nat) : List (String × Json) → Option HalfFault
  | [] => none
  | (k, v) :: rest => halfFault? (quote k) <|> pieceFault? 0 level v <|> fieldsFault? level rest

end

end Affordance.Json
