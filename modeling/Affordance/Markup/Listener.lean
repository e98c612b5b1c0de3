import Affordance.Script.Request
import Affordance.Surface.Collector

/-!
# Listeners that scripts add

  * `listeners`: the events that a page's script binds to elements it looks up by
    identifier, directly or through a variable, in the order of the script.
-/

namespace Affordance.Markup

open Affordance.Text
open Affordance.Text.Pattern
open Affordance.Script

/-! ## 1. Patterns -/

/-- A single or double quote. -/
def plainQuote : Pattern := one fun c => c == '\'' || c == '"'

/-- A character of an identifier that a look-up names. -/
def isIdChar (c : Char) : Bool := isWord c || c == ':' || c == '-'

/-- Looks an element up by its identifier. -/
def elementLookup : Pattern :=
  lit "document" ++ space ++ char '.' ++ space ++
  alt
    (lit "getElementById(" ++ space ++ group "q1" plainQuote ++
      group "id" (runs fun c => isIdChar c || c == '.') ++ again "q1" ++ space ++ char ')')
    (lit "querySelector(" ++ space ++ group "q2" plainQuote ++ char '#' ++
      group "idq" (runs isIdChar) ++ again "q2" ++ space ++ char ')')

/-- A variable that holds a looked-up element. -/
def variableLookup : Pattern :=
  words ["const", "let", "var"] ++ space1 ++ group "var" (runs Script.isNameChar) ++ space ++
  char '=' ++ space ++ elementLookup

/-- Adds a listener, up to the listener itself. -/
def addListener : Pattern :=
  space ++ opt (char '?') ++ char '.' ++ space ++ lit "addEventListener(" ++ space ++
  group "q3" plainQuote ++ group "event" (words ["submit", "click", "change"]) ++ again "q3" ++
  space ++ char ',' ++ space

/-- A listener added to a looked-up element. -/
def directListener : Pattern := elementLookup ++ addListener

/-- A listener added to a variable. -/
def variableListener : Pattern :=
  notAfter (fun c => Script.isNameChar c || c == '.') ++ group "var" (runs Script.isNameChar) ++
  addListener

/-! ## 2. Bindings -/

/-- The identifier of a look-up. -/
def lookedUp (m : Match) : String := (m.text? "id").getD (m.text "idq")

/-- The place of the last element of an identifier. -/
def placeOf (elements : List Element) (id : String) : Option Nat :=
  (elements.zipIdx.reverse.find? fun p => p.1.id = some id).map (·.2)

/-- The binding of a listener to the element of an identifier. -/
def listenerBinding (src : Source) (elements : List Element) (m : Match) (id : String) :
    Option (Nat × Binding) :=
  (EventKind.ofText? (m.text "event")).map fun kind =>
    let stop := skip src [',', ')'] m.stop
    let place := placeOf elements id
    (m.start, {
      kind
      expr := String.ofList (strip (src.slice m.stop stop))
      tag := ((place.bind fun i => elements[i]?).map (·.tag.text)).getD "element"
      element := place
      elementId := some id })

/-- The events that a script binds to elements. -/
def listeners (script : String) (elements : List Element) : List Binding :=
  let src := Source.of script
  let direct := (directListener.findAll src).filterMap fun m =>
    listenerBinding src elements m (lookedUp m)
  let known := (variableLookup.findAll src).map fun m => (m.text "var", lookedUp m)
  let indirect := (variableListener.findAll src).filterMap fun m =>
    (known.reverse.lookup (m.text "var")).bind (listenerBinding src elements m)
  inOrder (direct ++ indirect)

end Affordance.Markup
