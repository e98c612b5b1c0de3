import Affordance.Surface.Element
import Affordance.Text.Case

/-!
# Grouping elements

  * `Group`: the elements of one tool: what triggers it, what it is filled with, and the
    handler that runs.  Elements are meant by their places in the component.
  * `groups`: the groups of a component.  Every submit handler makes a group for each
    form it is bound to, or for all elements; without submit handlers every form with
    inputs makes one, and so do the elements outside all forms.  Every button that
    triggers no form is a group of its own.
-/

namespace Affordance

open Affordance.Text

/-! ## 1. Groups -/

/-- What a tool does: it fills a form, or presses a button. -/
inductive GroupKind where
  | form
  | action
  deriving Repr, DecidableEq

/-- The kind as it is reported. -/
def GroupKind.text : GroupKind → String
  | form => "form"
  | action => "action"

/-- The elements of one tool. -/
structure Group where
  kind : GroupKind
  trigger : Option Nat
  inputs : List Nat
  handler : Option Handler
  deriving Repr, DecidableEq

/-! ## 2. Kinds of elements -/

namespace Element

/-- The element takes a value that may be written down. -/
def canBeFilled (e : Element) : Bool :=
  (e.tag = .input || e.tag = .textarea || e.tag = .select) &&
  !(["password", "file", "hidden"].contains (e.inputType.getD ""))

/-- The element is a button that submits. -/
def submitsForm (e : Element) : Bool :=
  e.tag = .button &&
  (e.inputType = some "submit" || toLower ((e.attribute? "type").getD "") = "submit")

end Element

/-- An element with its place. -/
abbrev Placed := Element × Nat

/-- The trigger among elements: the first button that submits, or the first button. -/
def triggerAmong (scope : List Placed) : Option Placed :=
  let buttons := scope.filter fun p => p.1.tag = .button
  (buttons.find? fun p => p.1.submitsForm) <|> buttons.head?

/-! ## 3. Forms -/

/-- The form key that encloses a form key; the last form of a key counts. -/
def enclosingKey (elements : List Element) (key : String) : Option String :=
  (elements.reverse.find? fun e =>
    e.tag = .form && e.formKey = some key && key ≠ "").bind (·.parentForm)

/-- A form key is reached from another one by going outwards, in at most `n` steps. -/
def reaches (elements : List Element) (target : Option String) : Nat → Option String → Bool
  | 0, _ => false
  | _, none => false
  | n + 1, some key =>
    some key = target || reaches elements target n (enclosingKey elements key)

/-- The element is nested in a form of the key, at any depth. -/
def isInside (elements : List Element) (formKey : Option String) (e : Element) : Bool :=
  reaches elements formKey (elements.length + 1) e.parentForm

/-- The elements of a form. -/
def elementsOfForm (elements : List Element) (form : Element) : List Placed :=
  elements.zipIdx.filter fun p => isInside elements form.formKey p.1

/-! ## 4. Handlers of buttons -/

/-- The names of all handlers that elements are bound to. -/
def boundNames (elements : List Element) : List String :=
  elements.flatMap fun e => e.handlers.map (·.2)

/-- The handler that a click on a button runs: the one it is bound to, or one for its
    identifier, or one for buttons that no element is bound to. -/
def handlerOfClick (handlers : List Handler) (bound : List String) (button : Element) :
    Option Handler :=
  match nonEmpty (button.handler? .click) with
  | some name => handlers.reverse.find? (·.name = name)
  | none =>
    let byId := (nonEmpty button.id).bind fun id =>
      handlers.find? fun h => h.event = .click && h.elementId = some id
    byId <|> handlers.find? fun h =>
      h.event = .click && h.elementTag = some "button" && !bound.contains h.name

/-! ## 5. Groups of a component -/

/-- The places of the elements that can be filled. -/
def placesToFill (scope : List Placed) : List Nat := (scope.filter (·.1.canBeFilled)).map (·.2)

/-- The group of a form's elements. -/
def formGroup (c : Component) (scope : List Placed) (handler : Option Handler) : Group :=
  let trigger := triggerAmong scope
  { kind := .form
    trigger := trigger.map (·.2)
    inputs := placesToFill scope
    handler := handler <|>
      trigger.bind fun t => handlerOfClick c.handlers (boundNames c.elements) t.1 }

/-- The groups of a submit handler. -/
def submitGroups (c : Component) (h : Handler) : List Group :=
  let forms := c.elements.filter fun e => e.tag = .form && e.handler? .submit = some h.name
  if forms.isEmpty then [formGroup c c.elements.zipIdx (some h)]
  else forms.map fun f => formGroup c (elementsOfForm c.elements f) (some h)

/-- The elements outside all forms. -/
def freeElements (elements : List Element) : List Placed :=
  elements.zipIdx.filter fun p => p.1.parentForm.isNone && p.1.tag ≠ .form

/-- What is filled in together in a component without submit handlers: each form with inputs,
    and the elements outside all forms if there are inputs and a button. -/
def plainScopes (elements : List Element) : List (List Placed) :=
  let scopes := (elements.filter (·.tag = .form)).map (elementsOfForm elements)
  let free := freeElements elements
  let fillable (scope : List Placed) := scope.any (·.1.canBeFilled)
  scopes.filter fillable ++
  if fillable free && free.any (·.1.tag = .button) then [free] else []

/-- The groups of a component without submit handlers. -/
def plainGroups (c : Component) : List Group :=
  (plainScopes c.elements).map (formGroup c · none)

/-- The groups that fill forms. -/
def formGroups (c : Component) : List Group :=
  let submits := c.handlers.filter (·.event = .submit)
  if submits.isEmpty then plainGroups c else submits.flatMap (submitGroups c)

/-- The groups of buttons that trigger no form. -/
def actionGroups (c : Component) (claimed : List Nat) : List Group :=
  (c.elements.zipIdx.filter fun p => p.1.tag = .button && !claimed.contains p.2).map fun p =>
    { kind := .action, trigger := some p.2, inputs := []
      handler := handlerOfClick c.handlers (boundNames c.elements) p.1 }

/-- The groups of a component. -/
def groups (c : Component) : List Group :=
  let forms := formGroups c
  forms ++ actionGroups c (forms.filterMap (·.trigger))

end Affordance
