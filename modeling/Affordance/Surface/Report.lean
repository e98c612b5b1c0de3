import Affordance.Json.Basic
import Affordance.Surface.Element

/-!
# Elements as JSON

  * Everything that an analysis holds, written as JSON values.  A field without a
    value is left out, an empty list or text stays.
  * Confidences are measures; how a measure is written is the printer's business.
-/

namespace Affordance

open Affordance.Number
open Affordance.Script

/-- A text that may be missing. -/
def textField? (s : Option String) : Option Json := s.map Json.str

namespace StateBinding

/-- A state binding as JSON. -/
def toJson (b : StateBinding) : Json := .compactObj [
  ("variable", some (.str b.variable_)), ("setter", textField? b.setter),
  ("access_path", textField? b.accessPath)]

end StateBinding

namespace Accessibility

/-- Accessibility hints as JSON. -/
def toJson (a : Accessibility) : Json := .compactObj [
  ("aria_label", textField? a.ariaLabel), ("aria_described_by", textField? a.ariaDescribedBy),
  ("role", textField? a.role)]

end Accessibility

namespace Selector

/-- A selector as JSON. -/
def toJson (s : Selector) : Json := .obj [
  ("strategy", .str s.strategy.text), ("value", .str s.value), ("score", .num s.score)]

end Selector

namespace Element

/-- The handlers of an element as JSON. -/
def handlersJson (hs : List (EventKind × String)) : Json :=
  .obj (hs.map fun (k, n) => (k.text, .str n))

/-- An element as JSON. -/
def toJson (e : Element) : Json := .compactObj [
  ("tag", some (.str e.tag.text)), ("id", textField? e.id), ("name", textField? e.name),
  ("label", textField? e.label), ("input_type", textField? e.inputType),
  ("attributes", some (.textMap e.attributes)),
  ("state_binding", e.stateBinding.map StateBinding.toJson),
  ("validation", some (.texts e.validation)),
  ("accessibility", e.accessibility.map Accessibility.toJson),
  ("parent_form_id", textField? e.parentForm), ("form_key", textField? e.formKey),
  ("handlers", some (handlersJson e.handlers)), ("options", some (.texts e.options)),
  ("selector_fallback", e.selectors.map fun ss => .arr (ss.map Selector.toJson))]

end Element

/-- A request as JSON. -/
def requestJson (r : Request) : Json := .obj [("method", .str r.method), ("url", .str r.url)]

namespace Handler

/-- A handler as JSON. -/
def toJson (h : Handler) : Json := .compactObj [
  ("name", some (.str h.name)), ("event", some (.str h.event.text)),
  ("element_tag", textField? h.elementTag), ("element_id", textField? h.elementId),
  ("body", textField? h.body), ("is_async", some (.bool h.isAsync)),
  ("api_calls", some (.arr (h.requests.map requestJson)))]

end Handler

namespace StateVariable

/-- A state variable as JSON. -/
def toJson (v : StateVariable) : Json := .compactObj [
  ("name", some (.str v.name)), ("setter", textField? v.setter),
  ("initial_value", textField? v.initialValue), ("type", some (.str v.type)),
  ("kind", some (.str v.kind.text))]

end StateVariable

namespace ComponentProp

/-- A prop as JSON. -/
def toJson (p : ComponentProp) : Json := .compactObj [
  ("name", some (.str p.name)), ("type", textField? p.type), ("required", some (.bool p.required)),
  ("default_value", textField? p.defaultValue)]

end ComponentProp

namespace Component

/-- A component as JSON. -/
def toJson (c : Component) : Json := .compactObj [
  ("name", some (.str c.name)), ("type", some (.str c.kind.text)),
  ("elements", some (.arr (c.elements.map Element.toJson))),
  ("handlers", some (.arr (c.handlers.map Handler.toJson))),
  ("state_variables", some (.arr (c.states.map StateVariable.toJson))),
  ("props", some (.arr (c.props.map ComponentProp.toJson))),
  ("form_library", textField? c.formLibrary)]

end Component

namespace Analysis

/-- An analysis as JSON. -/
def toJson (a : Analysis) : Json := .obj [
  ("file_name", .str a.fileName), ("framework", .str a.framework.text),
  ("components", .arr (a.components.map Component.toJson))]

end Analysis

end Affordance
