import Affordance.Text.Digest
import Affordance.Text.Pattern
import Affordance.Tool.Group
import Affordance.Tool.Schema

/-!
# Candidates for tools

  * `Candidate`: a group with its elements.
  * `Candidate.name`, `Candidate.description`: what a tool is called and how it is
    described.
  * `Candidate.id`: the identity of a tool, the digest of what it means to a user: its
    names, labels and types.  Styling and position leave no trace in it.
-/

namespace Affordance

open Affordance.Text
open Affordance.Text.Pattern

/-- A group with its elements. -/
structure Candidate where
  kind : GroupKind
  componentName : String
  trigger : Option Element := none
  inputs : List Element := []
  handler : Option Handler := none
  deriving DecidableEq

/-- The candidate of a group. -/
def Group.candidate (c : Component) (g : Group) : Candidate where
  kind := g.kind
  componentName := c.name
  trigger := g.trigger.bind fun i => c.elements[i]?
  inputs := g.inputs.filterMap fun i => c.elements[i]?
  handler := g.handler

/-- The candidates of a component. -/
def candidates (c : Component) : List Candidate := (groups c).map (Group.candidate c)

/-! ## 1. Names -/

/-- The beginning of a handler's name that says only that it handles. -/
def handlerLead : Pattern :=
  alt (lit "handle") (lit "on") ++ ahead (one fun c => isUpperAscii c || c == '_')

/-- What a handler's name says. -/
def handlerAction (name : String) : Option String :=
  (nonEmpty (some name)).map fun n =>
    match handlerLead.matchStart n.toList with
    | some m => String.ofList (n.toList.drop m.stop)
    | none => n

namespace Candidate

/-- The label of the trigger. -/
def label (c : Candidate) : Option String := (c.trigger.bind (·.label))

/-- What the handler's name says. -/
def verb (c : Candidate) : Option String := c.handler.bind fun h => handlerAction h.name

/-- The component's part of a name. -/
def slug (c : Candidate) : String :=
  let s := snake c.componentName
  if s = "" then "component" else s

/-- The name of a tool, before equal names are told apart. -/
def name (c : Candidate) : String :=
  match c.kind with
  | .form =>
    let verb := snake ((firstText [c.label, c.verb]).getD "")
    if verb = "" then "submit_" ++ c.slug else verb ++ "_" ++ c.slug
  | .action =>
    let names := [c.label, c.trigger.bind (·.id), c.verb].map (Option.map snake)
    (firstText names).getD ("action_in_" ++ c.slug)

/-! ## 2. Descriptions -/

end Candidate

/-- The first of the texts that name an element. -/
def Element.reference (e : Element) : String :=
  (firstText [e.label, e.name, e.id]).getD e.tag.text

namespace Candidate

/-- The description of a tool. -/
def description (c : Candidate) : String :=
  match c.kind, nonEmpty c.label with
  | .form, some label =>
    let fields := (c.inputs.map Element.reference).take 3
    if fields.isEmpty then label ++ " the " ++ c.componentName ++ " form"
    else label ++ " the form with: " ++ join ", " fields
  | .form, none => "Fill and submit the " ++ c.componentName ++ " form"
  | .action, some label => "Trigger: " ++ label
  | .action, none => "Perform action in " ++ c.componentName

/-! ## 3. Identity -/

/-- What an input means to a user. -/
def inputParts (e : Element) : List String := [
  e.parameterKey.getD "", (firstText [e.label, e.ariaLabel]).getD "",
  (nonEmpty e.inputType).getD e.tag.text]

/-- What a tool means to a user. -/
def identityParts (c : Candidate) : List String :=
  let t := c.trigger
  [c.componentName, c.kind.text, (t.map (·.tag.text)).getD "", (t.bind (·.label)).getD "",
    (t.bind (·.name)).getD ""] ++ c.inputs.flatMap inputParts

/-- What a tool means to a user, as one text. -/
def identityText (c : Candidate) : String := join "|" (c.identityParts.map toLower)

/-- The identity of a tool. -/
def id (c : Candidate) : String := String.ofList ((digest c.identityText).toList.take 12)

/-- Why a tool has no identity: what it means to a user holds a half, as `half?` tells them. -/
def idFault? (c : Candidate) : Option HalfFault := halfFault? c.identityText

end Candidate

end Affordance
