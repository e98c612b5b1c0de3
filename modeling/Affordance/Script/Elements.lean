import Affordance.Keyed
import Affordance.Script.Literal
import Affordance.Surface.TagEvent
import Affordance.Text.Entity
import Affordance.Text.Pattern

/-!
# Elements in script text

  * `elementEvents` reads the elements that stand among the statements and expressions of a
    script, as tag events in the order of the text.  An element inside an attribute
    comes before the element that the attribute belongs to.
  * What stands between elements is passed as the scanner passes it (module
    `Affordance.Script.Scanner`): both share `move`.
  * A text whose references are refused is an event of its own kind.
  * An element that breaks off is given back to the walk as if it had not been begun;
    what was read inside its attributes by then stays read.
-/

namespace Affordance.Script

open Affordance.Text
open Affordance.Text.Pattern

/-! ## 1. Fields that a form library registers -/

/-- A spread attribute that registers a form field. -/
def registration : Pattern :=
  opt (runs isNameChar ++ char '.') ++ group "function" (words ["register", "getFieldProps"]) ++
  char '(' ++ space ++ group "quote" (one fun c => c == '\'' || c == '"' || c == '`') ++
  group "field" (runs fun c => isWord c || c == '.' || c == '[' || c == ']' || c == '-') ++
  again "quote" ++ group "rest" (run fun _ => true) ++ atEnd

/-- An option that makes a field required. -/
def requiredOption : Pattern :=
  lit "required" ++ space ++ char ':' ++ space ++ notAhead (lit "false" ++ wordEdge)

/-- A form field that a spread attribute registers. -/
structure Registration where
  field : String
  required : Bool
  library : String
  deriving Repr, DecidableEq

/-- The field that a spread registers. -/
def registrationOf (spread : List Char) : Option Registration :=
  (registration.matchStart spread).map fun m => {
    field := m.text "field"
    required := (requiredOption.search (Source.of (m.text "rest")) 0).isSome
    library := if m.text "function" = "register" then "react-hook-form" else "formik" }

/-- The attributes that a registration stands for. -/
def applyRegistration (attrs : List (String × String)) (r : Registration) :
    List (String × String) :=
  let attrs := Keyed.putMissing "name" r.field attrs
  if r.required then Keyed.putMissing "required" "true" attrs else attrs

/-! ## 2. Open tags and what was read so far -/

/-- A tag whose attributes are being read. -/
structure OpenTag where
  tag : String
  attributes : List (String × String) := []
  /-- Attributes that hold an expression. -/
  dynamic : List String := []
  /-- Spread attributes. -/
  spreads : List (List Char) := []

namespace OpenTag

/-- The tag with a text attribute. -/
def withText (t : OpenTag) (name value : String) : OpenTag :=
  { t with attributes := Keyed.put name value t.attributes }

/-- The tag with an attribute that holds an expression; a plain value is a text. -/
def withExpression (t : OpenTag) (name : String) (expr : List Char) : OpenTag :=
  match literal expr with
  | some v => t.withText name (String.ofList v)
  | none => { t.withText name (String.ofList expr) with dynamic := name :: t.dynamic }

/-- The tag with an expression in place of an attribute, which counts if it is a spread. -/
def withSpread (t : OpenTag) (expr : List Char) : OpenTag :=
  if startsWith expr "...".toList then { t with spreads := t.spreads ++ [strip (expr.drop 3)] }
  else t

end OpenTag

/-- What a walk has read so far. -/
structure Trail where
  /-- Events, the latest first. -/
  events : List TagEvent := []
  /-- The first form library that registered a field. -/
  library : Option String := none

namespace Trail

/-- One more event. -/
def add (t : Trail) (e : TagEvent) : Trail := { t with events := e :: t.events }

/-- A text whose references are to be replaced: it counts as it is meant unless one of them
    is refused. -/
def addMeant (t : Trail) (s : List Char) : Trail :=
  match longReference? s with
  | some n => t.add (.unreadable n)
  | none => t.add (.text (String.ofList (unescape s)))

/-- An attribute whose references are to be replaced. -/
def checkMeant (t : Trail) (s : List Char) : Trail :=
  match longReference? s with
  | some n => t.add (.unreadable n)
  | none => t

/-- A tag that was read up to its end. -/
def addTag (t : Trail) (o : OpenTag) (selfClosing : Bool) : Trail :=
  let rs := o.spreads.filterMap registrationOf
  let attrs := rs.foldl applyRegistration o.attributes
  { events := .open_ o.tag attrs selfClosing o.dynamic (rs.getLast?.map (·.field)) :: t.events
    library := t.library <|> rs.head?.map (·.library) }

end Trail

/-! ## 3. The walk -/

/-- The end of an attribute name that begins at the position. -/
def attributeNameEnd (src : Source) (i : Nat) : Option Nat := tagNameEnd src i

mutual

/-- Walks from a position as the scanner does, reading the elements on the way. -/
def walkFrom (src : Source) (closers : List Char) : Nat → Nat → Nat → Trail → Nat × Trail
  | 0, _, _, t => (src.size, t)
  | fuel + 1, depth, i, t =>
    match src[i]? with
    | none => (src.size, t)
    | some c =>
      match move src closers depth i c with
      | .stop => (i, t)
      | .jump j => walkFrom src closers fuel depth j t
      | .template => walkFrom src closers fuel depth (pastTemplate src i) t
      | .opens => walkFrom src closers fuel (depth + 1) (i + 1) t
      | .closes => walkFrom src closers fuel (depth - 1) (i + 1) t
      | .tag =>
        match readElement src fuel i t with
        | (j, t) => walkFrom src closers fuel depth (if i < j then j else i + 1) t
      | .plain => walkFrom src closers fuel depth (i + 1) t
termination_by structural fuel => fuel

/-- Reads the element at the position: its end, or the position itself if there is no
    element. -/
def readElement (src : Source) : Nat → Nat → Trail → Nat × Trail
  | 0, _, t => (src.size, t)
  | fuel + 1, i, t =>
    if src[i + 1]? = some '>' then readChildren src "" fuel (i + 2) t
    else
      match tagNameEnd src (i + 1) with
      | none => (i, t)
      | some j => readAttributes src i fuel { tag := src.text (i + 1) j } j t
termination_by structural fuel => fuel

/-- Reads the attributes of the tag that begins at `start`, and what follows the tag. -/
def readAttributes (src : Source) (start : Nat) : Nat → OpenTag → Nat → Trail → Nat × Trail
  | 0, _, _, t => (src.size, t)
  | fuel + 1, o, j, t =>
    let j := src.passSpace j
    match src[j]? with
    | none => (start, t)
    | some c =>
      if src.at_ j ['/', '>'] then (j + 2, t.addTag o true)
      else if c = '>' then readChildren src o.tag fuel (j + 1) (t.addTag o false)
      else if c = '\x7b' then
        match walkFrom src ['\x7d'] fuel 0 (j + 1) t with
        | (k, t) =>
          readAttributes src start fuel (o.withSpread (strip (src.slice (j + 1) k))) (k + 1) t
      else
        match attributeNameEnd src j with
        | none => (start, t)
        | some e =>
          let name := src.text j e
          let j := src.passSpace e
          if src[j]? = some '=' then
            let j := src.passSpace (j + 1)
            match src[j]? with
            | none => (start, t)
            | some q =>
              if q = '\'' ∨ q = '"' then
                match src.findChar q (j + 1) with
                | none => (start, t)
                | some k =>
                  let value := src.slice (j + 1) k
                  readAttributes src start fuel (o.withText name (String.ofList (unescape value)))
                    (k + 1) (t.checkMeant value)
              else if q = '\x7b' then
                match walkFrom src ['\x7d'] fuel 0 (j + 1) t with
                | (k, t) =>
                  let expr := strip (src.slice (j + 1) k)
                  readAttributes src start fuel (o.withExpression name expr) (k + 1) t
              else (start, t)
          else readAttributes src start fuel (o.withText name "true") j t
termination_by structural fuel => fuel

/-- Reads what stands inside a tag, up to the end of its closing tag. -/
def readChildren (src : Source) (tag : String) : Nat → Nat → Trail → Nat × Trail
  | 0, _, t => (src.size, t)
  | fuel + 1, j, t =>
    match src[j]? with
    | none => (src.size, t.add (.close tag))
    | some c =>
      if c = '<' then
        if src[j + 1]? = some '/' then
          ((match src.findChar '>' j with
            | some k => k + 1
            | none => src.size), t.add (.close tag))
        else
          match readElement src fuel j t with
          | (k, t) =>
            if k = j then readChildren src tag fuel (j + 1) (t.add (.text "<"))
            else readChildren src tag fuel k t
      else if c = '\x7b' then
        match walkFrom src ['\x7d'] fuel 0 (j + 1) t with
        | (k, t) =>
          let t := match literal (src.slice (j + 1) k) with
            | some v => t.add (.text (String.ofList v))
            | none => t
          readChildren src tag fuel (k + 1) t
      else
        let k := src.passWhile (fun c => !(c == '<' || c == '\x7b')) j
        readChildren src tag fuel k (t.addMeant (src.slice j k))
termination_by structural fuel => fuel

end

/-- Walks over the rest of the text; a closing bracket without a partner is passed. -/
def walkAll (src : Source) : Nat → Nat → Trail → Trail
  | 0, _, t => t
  | n + 1, i, t =>
    if i < src.size then
      match walkFrom src [] (fuelFor src) 0 i t with
      | (j, t) => walkAll src n (j + 1) t
    else t

/-- The elements of a script: its tag events in order, and the form library that
    registered a field. -/
def elementEvents (src : Source) : List TagEvent × Option String :=
  let t := walkAll src (src.size + 1) 0 {}
  (t.events.reverse, t.library)

end Affordance.Script
