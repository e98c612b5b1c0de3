import Affordance.Script.Literal
import Affordance.Text.Pattern

/-!
# Object literals and destructuring patterns

  * `entries`: the entries of an object literal, with or without its braces; an
    entry is a key with its value, a bare key, or a method.
  * `defaults`: the keys of a destructuring pattern with their default values.
-/

namespace Affordance.Script

open Affordance.Text
open Affordance.Text.Pattern

/-! ## 1. Entries of an object literal -/

/-- The inside of an object literal; a text that opens no brace stays as it is. -/
def insideBraces (s : List Char) : List Char :=
  match strip s with
  | '{' :: rest =>
    match (stripEnd rest).reverse with
    | '}' :: inner => inner.reverse
    | _ => rest
  | other => other

/-- A key, quoted or not, perhaps optional, with what follows a colon or an equals
    sign as its value. -/
def entryPattern : Pattern :=
  opt (lit "async" ++ space1) ++
  opt (alt (lit "get" ++ space1) (lit "set" ++ space1)) ++
  group "quote" (opt (one fun c => c == '\'' || c == '"')) ++
  group "key" (runs fun c => isNameChar c || c == '-') ++
  again "quote" ++ space ++ opt (char '?') ++ space ++
  opt (one (fun c => c == ':' || c == '=') ++ space ++ group "value" (run fun _ => true)) ++
  atEnd

/-- The name of a method. -/
def methodPattern : Pattern :=
  opt (lit "async" ++ space1) ++ group "key" (runs isNameChar) ++ space ++ char '('

/-- What one piece of an object literal declares. -/
def entryOf (piece : List Char) : Option (String × Option String) :=
  if piece.isEmpty || startsWith piece "...".toList then none
  else match entryPattern.matchStart piece with
    | some m => some (m.text "key", (m.chars? "value").map fun v => String.ofList (strip v))
    | none =>
      match methodPattern.matchStart piece with
      | some m => some (m.text "key", some (String.ofList piece))
      | none => none

/-- The entries of an object literal with their values; a bare key has none. -/
def entries (s : List Char) : List (String × Option String) :=
  (splitTop [','] (insideBraces s)).filterMap entryOf

/-- The value of the last entry of a key. -/
def lastEntry (es : List (String × Option String)) (key : String) : Option (Option String) :=
  (es.reverse.lookup key)

/-! ## 2. Defaults of a destructuring pattern -/

/-- A key, perhaps renamed, perhaps with a default. -/
def defaultPattern : Pattern :=
  group "key" (runs isNameChar) ++ space ++
  opt (char ':' ++ space ++ runs isNameChar ++ space) ++
  opt (char '=' ++ space ++ group "default" (runs fun _ => true)) ++
  atEnd

/-- What one piece of a destructuring pattern declares. -/
def defaultOf (piece : List Char) : Option (String × Option String) :=
  (defaultPattern.matchStart piece).map fun m =>
    (m.text "key", (m.chars? "default").map fun d => String.ofList (strip d))

/-- The inside of a braced pattern: all but its first and last characters. -/
def insidePattern (s : List Char) : List Char :=
  match strip s with
  | '{' :: rest => rest.dropLast
  | _ => s

/-- The keys of a destructuring pattern with their default values. -/
def defaults (s : List Char) : List (String × Option String) :=
  (splitTop [','] (insidePattern s)).filterMap defaultOf

end Affordance.Script
