import Affordance.Number.Measure
import Affordance.Script.Request

/-!
# Elements of a user interface

  * `Element`: something a user can act on, with the names and hints that tell what it
    is for.
  * `Handler`: what runs when a user acts on an element.
  * `StateVariable`, `Prop_`: what a component keeps and what it is given.
  * `Component` and `Analysis`: the elements of one component, and the components of
    one source file.
-/

namespace Affordance

open Affordance.Number
open Affordance.Script

/-! ## 1. Kinds -/

/-- The native form of an element. -/
inductive ElementTag where
  | input
  | button
  | select
  | textarea
  | form
  deriving Repr, DecidableEq

/-- The tag as markup writes it. -/
def ElementTag.text : ElementTag → String
  | input => "input"
  | button => "button"
  | select => "select"
  | textarea => "textarea"
  | form => "form"

/-- The tag that markup writes so. -/
def ElementTag.ofText? : String → Option ElementTag
  | "input" => some input
  | "button" => some button
  | "select" => some select
  | "textarea" => some textarea
  | "form" => some form
  | _ => none

theorem ElementTag.ofText?_text (t : ElementTag) : ofText? t.text = some t := by
  cases t <;> rfl

/-- What a user does to an element. -/
inductive EventKind where
  | submit
  | click
  | change
  deriving Repr, DecidableEq

/-- The event as sources name it. -/
def EventKind.text : EventKind → String
  | submit => "submit"
  | click => "click"
  | change => "change"

/-- The event that sources name so. -/
def EventKind.ofText? : String → Option EventKind
  | "submit" => some submit
  | "click" => some click
  | "change" => some change
  | _ => none

theorem EventKind.ofText?_text (k : EventKind) : ofText? k.text = some k := by
  cases k <;> rfl

/-- What a component as a whole is for. -/
inductive ComponentKind where
  | form
  | action
  | display
  | mixed
  deriving Repr, DecidableEq

/-- The kind as it is reported. -/
def ComponentKind.text : ComponentKind → String
  | form => "form"
  | action => "action"
  | display => "display"
  | mixed => "mixed"

/-- How a component keeps a value. -/
inductive StateKind where
  | state
  | ref
  | reducer
  | formLibrary
  | other
  deriving Repr, DecidableEq

/-- The kind as it is reported. -/
def StateKind.text : StateKind → String
  | state => "state"
  | ref => "ref"
  | reducer => "reducer"
  | formLibrary => "form_library"
  | other => "other"

/-- The kind that is reported so. -/
def StateKind.ofText? : String → Option StateKind
  | "state" => some state
  | "ref" => some ref
  | "reducer" => some reducer
  | "form_library" => some formLibrary
  | "other" => some other
  | _ => none

/-- The dialect a source is written in. -/
inductive Framework where
  | html
  | react
  | vue
  deriving Repr, DecidableEq

/-- The dialect as it is reported. -/
def Framework.text : Framework → String
  | html => "html"
  | react => "react"
  | vue => "vue"

/-! ## 2. Selectors -/

/-- One way of finding an element in a running page. -/
inductive Strategy where
  | toolHook
  | testId
  | label
  | role
  | css
  deriving Repr, DecidableEq

/-- The strategy as it is reported. -/
def Strategy.text : Strategy → String
  | toolHook => "tool-hook"
  | testId => "test-id"
  | label => "label"
  | role => "role"
  | css => "css"

/-- The strategy that is reported so. -/
def Strategy.ofText? : String → Option Strategy
  | "tool-hook" => some toolHook
  | "test-id" => some testId
  | "label" => some label
  | "role" => some role
  | "css" => some css
  | _ => none

/-- A selector with the confidence that it finds the right element. -/
structure Selector where
  strategy : Strategy
  value : String
  score : Measure
  deriving DecidableEq

/-! ## 3. Elements -/

/-- The state variable that holds an element's value. -/
structure StateBinding where
  variable_ : String
  setter : Option String
  accessPath : Option String
  deriving Repr, DecidableEq

/-- What an element says to assistive technology. -/
structure Accessibility where
  ariaLabel : Option String
  ariaDescribedBy : Option String
  role : Option String
  deriving Repr, DecidableEq

/-- Something a user can act on. -/
structure Element where
  tag : ElementTag
  id : Option String := none
  name : Option String := none
  label : Option String := none
  inputType : Option String := none
  /-- Attributes in the order of the source. -/
  attributes : List (String × String) := []
  stateBinding : Option StateBinding := none
  /-- Markers of constraints, such as `required`. -/
  validation : List String := []
  accessibility : Option Accessibility := none
  /-- The key of the innermost form around the element. -/
  parentForm : Option String := none
  /-- On a form: the key that its elements hold as `parentForm`. -/
  formKey : Option String := none
  /-- The name of the handler of each event, in the order they were bound. -/
  handlers : List (EventKind × String) := []
  /-- The values of a selection. -/
  options : List String := []
  /-- Selectors found by comparing with a running page; none before that. -/
  selectors : Option (List Selector) := none
  deriving DecidableEq

namespace Element

/-- The label for assistive technology. -/
def ariaLabel (e : Element) : Option String := e.accessibility.bind (·.ariaLabel)

/-- The element has to be filled. -/
def isRequired (e : Element) : Bool := e.validation.contains "required"

/-- The value of an attribute. -/
def attribute? (e : Element) (name : String) : Option String := e.attributes.lookup name

/-- The name of the handler of an event. -/
def handler? (e : Element) (kind : EventKind) : Option String := e.handlers.lookup kind

/-- The best confidence among the selectors. -/
def topScore (e : Element) : Option Measure :=
  match e.selectors with
  | some (s :: rest) => some (rest.foldl (fun m t => if m.lt t.score then t.score else m) s.score)
  | _ => none

end Element

/-! ## 4. Handlers, state and components -/

/-- What runs when a user acts on an element. -/
structure Handler where
  name : String
  event : EventKind
  elementTag : Option String := none
  elementId : Option String := none
  body : Option String := none
  isAsync : Bool := false
  requests : List Request := []
  deriving Repr, DecidableEq

/-- A value that a component keeps. -/
structure StateVariable where
  name : String
  setter : Option String := none
  initialValue : Option String := none
  type : String := "string"
  kind : StateKind := .state
  deriving Repr, DecidableEq

/-- A value that a component is given. -/
structure ComponentProp where
  name : String
  type : Option String := none
  required : Bool := true
  defaultValue : Option String := none
  deriving Repr, DecidableEq

/-- The elements and the behaviour of one component. -/
structure Component where
  name : String
  kind : ComponentKind
  elements : List Element := []
  handlers : List Handler := []
  states : List StateVariable := []
  props : List ComponentProp := []
  formLibrary : Option String := none
  deriving DecidableEq

/-- The component offers nothing to act on. -/
def Component.isEmpty (c : Component) : Bool := c.elements.isEmpty && c.handlers.isEmpty

/-- The components of one source file. -/
structure Analysis where
  fileName : String
  framework : Framework
  components : List Component := []
  deriving DecidableEq

/-- All elements of the file, component by component. -/
def Analysis.elements (a : Analysis) : List Element := a.components.flatMap (·.elements)

end Affordance
