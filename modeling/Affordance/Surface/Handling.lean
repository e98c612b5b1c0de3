import Affordance.Script.Function
import Affordance.Script.Triviality
import Affordance.Surface.Collector

/-!
# Handlers of events

  * `resolve`: what an event attribute runs.  A name leads to the function of that
    name, a single call to the function it calls; anything else is an inline handler,
    unless it only stores a value.
  * `Handling`: handlers are resolved one binding after the other.  A function bound
    several times is one handler; an element keeps the first handler of each event.
-/

namespace Affordance.Handling

open Affordance.Text
open Affordance.Text.Pattern
open Affordance.Script

/-! ## 1. Functions by name -/

/-- What an event runs. -/
structure Resolved where
  name : String
  body : Option String := none
  isAsync : Bool := false
  deriving Repr, DecidableEq

/-- Finds a function by its name. -/
abbrev Finder := String → Except BracketFault (Option Resolved)

/-- Looks for a function in one text after the other. -/
def inScopes : List String → Finder
  | [], _ => .ok none
  | scope :: rest, name => do
    match ← definitionOf scope name with
    | some d => return some ⟨d.name, some d.body, d.isAsync⟩
    | none => inScopes rest name

/-! ## 2. Forms of event attributes -/

/-- A form library's submit wrapper around a handler. -/
def submitWrapper : Pattern :=
  many (runs isNameChar ++ char '.') ++ lit "handleSubmit" ++ space ++ char '(' ++ space ++
  group "argument" (one (fun c => !(c == ',' || c == '(' || c == ')')) ++
    fewest fun c => !(c == ',' || c == '(' || c == ')')) ++
  space ++ opt (char ',' ++ run fun c => !(c == '(' || c == ')')) ++ char ')' ++ atEnd

/-- An arrow function. -/
def arrow : Pattern :=
  opt (group "async" (lit "async" ++ space)) ++
  alt (char '(' ++ run (fun c => !(c == '(' || c == ')')) ++ char ')') identifier ++
  space ++ opt (char ':' ++ runs (· ≠ '=')) ++ lit "=>" ++ space ++
  group "body" (run fun _ => true) ++ atEnd

/-- A function with the keyword. -/
def functionExpression : Pattern :=
  opt (group "async" (lit "async" ++ space1)) ++ lit "function" ++ wordEdge ++ run (· ≠ '(') ++
  char '('

/-- A call of a plain function. -/
def plainCall : Pattern := opt (lit "this.") ++ group "name" identifier ++ space ++ char '('

/-- The function that a statement calls, if it is exactly one call. -/
def onlyCall (stmt : List Char) : Except BracketFault (Option String) :=
  match plainCall.matchStart stmt with
  | none => .ok none
  | some m => do
    let close ← partner stmt.toArray (m.stop - 1)
    return if close + 1 = stmt.length then some (m.text "name") else none

/-- The body of an inline handler, and whether it is asynchronous. -/
def inlineBody (s : List Char) : List Char × Bool :=
  match arrow.matchStart s with
  | some m => (strip ((m.chars? "body").getD []), m.has "async")
  | none =>
    match functionExpression.matchStart s with
    | some m =>
      let body := s.dropWhile (· ≠ '\x7b')
      (if body.isEmpty then s else body, m.has "async")
    | none => (s, false)

/-! ## 3. Inline handlers -/

/-- How many inline handlers each event has. -/
abbrev InlineCounts := List (EventKind × Nat)

/-- The name of an event's next inline handler. -/
def inlineName (counts : InlineCounts) (kind : EventKind) : String × InlineCounts :=
  let n := (counts.lookup kind).getD 0 + 1
  let base := "inline_" ++ kind.text ++ "_handler"
  (if n = 1 then base else base ++ "_" ++ toString n, (kind, n) :: counts)

/-! ## 4. Resolving -/

/-- An expression without white space and semicolons around it. -/
def bareExpression (expr : String) : List Char :=
  strip (stripEndBy (· == ';') (strip expr.toList))

/-- The function of a name, or the bare name. -/
def named (find : Finder) (name : String) : Except BracketFault Resolved := do
  return (← find name).getD { name }

/-- What an expression that is no plain name runs. -/
def resolveInline (s : List Char) (kind : EventKind) (find : Finder) (counts : InlineCounts) :
    Except BracketFault (Option Resolved × InlineCounts) := do
  let (body, isAsync) := inlineBody s
  let text := String.ofList body
  let called ← onlyCall (← unwrap text)
  let found ← match called with
    | some name => if startsWith name.toList "set".toList then pure none else find name
    | none => pure none
  match found with
  | some r => return (some r, counts)
  | none =>
    if ← isTrivial text then return (none, counts)
    else
      let (name, counts) := inlineName counts kind
      return (some ⟨name, some text, isAsync⟩, counts)

/-- What an event attribute runs; nothing if it only stores a value. -/
def resolve (expr : String) (kind : EventKind) (find : Finder) (counts : InlineCounts) :
    Except BracketFault (Option Resolved × InlineCounts) :=
  let s := bareExpression expr
  if s.isEmpty then .ok (none, counts)
  else
    match lastMember (String.ofList s) with
    | some name => (named find name).map fun r => (some r, counts)
    | none =>
      match submitWrapper.matchStart s with
      | some m =>
        let argument := strip ((m.chars? "argument").getD [])
        match lastMember (String.ofList argument) with
        | some name => (named find name).map fun r => (some r, counts)
        | none => resolveInline argument kind find counts
      | none => resolveInline s kind find counts

/-! ## 5. All bindings -/

/-- The handlers resolved so far. -/
structure State where
  elements : List Element
  handlers : List Handler := []
  counts : InlineCounts := []

/-- An element with the handler of an event, unless it has one. -/
def bindHandler (kind : EventKind) (name : String) (e : Element) : Element :=
  if (e.handlers.lookup kind).isSome then e else { e with handlers := e.handlers ++ [(kind, name)] }

/-- The handler that a binding makes of what it runs. -/
def Resolved.handler (r : Resolved) (b : Binding) : Handler where
  name := r.name
  event := b.kind
  elementTag := some b.tag
  elementId := b.elementId
  body := r.body
  isAsync := r.isAsync
  requests := (r.body.map requests).getD []

/-- A resolved binding. -/
def State.add (s : State) (b : Binding) (r : Resolved) : State :=
  let elements := match b.element with
    | some i => s.elements.modify i (bindHandler b.kind r.name)
    | none => s.elements
  if s.handlers.any (·.name = r.name) then { s with elements }
  else { s with elements, handlers := s.handlers ++ [r.handler b] }

/-- One binding. -/
def State.step (find : Finder) (s : State) (b : Binding) : Except BracketFault State := do
  let (r, counts) ← resolve b.expr b.kind find s.counts
  let s := { s with counts }
  return match r with
    | some r => s.add b r
    | none => s

/-- All bindings, one after the other. -/
def build (find : Finder) : List Binding → State → Except BracketFault State
  | [], s => .ok s
  | b :: rest, s => do build find rest (← s.step find b)

end Affordance.Handling
