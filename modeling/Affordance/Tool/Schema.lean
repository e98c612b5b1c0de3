import Affordance.Json.Basic
import Affordance.Surface.Element
import Affordance.Text.Case
import Affordance.Text.Fresh
import Affordance.Text.Naming

/-!
# Parameters of a tool

  * An input becomes a parameter under the first of its names: its own name, its
    identifier, the variable that holds its value, its label.  An input without a usable
    name becomes none.
  * `parameterKeys`: the key of each input; equal keys are numbered.
  * `InputSchema.of`: the parameters of some inputs, put together one by one.
-/

namespace Affordance

open Affordance.Text

/-! ## 1. Keys -/

/-- The first of some texts that is not empty. -/
def firstText (xs : List (Option String)) : Option String := xs.findSome? nonEmpty

namespace Element

/-- The first name of an input. -/
def rawName (e : Element) : Option String :=
  firstText [e.name, e.id, e.stateBinding.map (·.variable_), e.label]

/-- The key of an input on its own. -/
def parameterKey (e : Element) : Option String := nonEmpty (e.rawName.map snake)

end Element

/-- The keys of inputs, given the keys that are taken. -/
def keysFrom : List String → List Element → List (Option String)
  | _, [] => []
  | taken, e :: rest =>
    match e.parameterKey with
    | none => none :: keysFrom taken rest
    | some k =>
      let key := fresh k taken
      some key :: keysFrom (taken ++ [key]) rest

/-- The key of each input; none where an input has no usable name. -/
def parameterKeys (inputs : List Element) : List (Option String) := keysFrom [] inputs

/-! ## 2. Parameters -/

/-- The type of a parameter's value. -/
inductive ValueType where
  | text
  | number
  | truth
  deriving Repr, DecidableEq

/-- The type as schemas write it. -/
def ValueType.name : ValueType → String
  | text => "string"
  | number => "number"
  | truth => "boolean"

/-- A parameter. -/
structure Property where
  type : ValueType
  description : String
  /-- The values to choose from, if they are known. -/
  choices : Option (List String) := none
  deriving Repr, DecidableEq

namespace Element

/-- The type of an input's value. -/
def valueType (e : Element) : ValueType :=
  match toLower ((nonEmpty e.inputType).getD "text") with
  | "number" => .number
  | "range" => .number
  | "checkbox" => .truth
  | _ => .text

/-- The description of an input. -/
def fieldDescription (e : Element) : String :=
  match firstText [e.label, e.ariaLabel] with
  | some d => if e.tag = .select then d ++ " (select field)" else d
  | none =>
    if e.tag = .select then "select field"
    else (nonEmpty e.inputType).getD e.tag.text ++ " field"

/-- The parameter of an input. -/
def property (e : Element) : Property where
  type := e.valueType
  description := e.fieldDescription
  choices := if e.tag = .select && !e.options.isEmpty then some e.options else none

end Element

/-! ## 3. Schemas -/

/-- The parameters of a tool. -/
structure InputSchema where
  properties : List (String × Property)
  required : List String
  deriving Repr, DecidableEq

namespace InputSchema

/-- Inputs that have a key, with their keys. -/
def keyed (inputs : List Element) : List (String × Element) :=
  (inputs.zip (parameterKeys inputs)).filterMap fun (e, key) => key.map (·, e)

/-- The parameters with one more input, under a key that none of them has. -/
def put (s : InputSchema) (e : Element) : InputSchema :=
  match e.parameterKey with
  | none => s
  | some k =>
    let key := fresh k (s.properties.map (·.1))
    { properties := Keyed.put key e.property s.properties
      required := if e.isRequired then s.required ++ [key] else s.required }

/-- The parameters of inputs. -/
def of (inputs : List Element) : InputSchema := inputs.foldl put ⟨[], []⟩

end InputSchema

/-- A parameter as JSON. -/
def Property.toJson (p : Property) : Json := .compactObj [
  ("type", some (.str p.type.name)), ("description", some (.str p.description)),
  ("enum", p.choices.map Json.texts)]

/-- The parameters of a tool as JSON. -/
def InputSchema.toJson (s : InputSchema) : Json := .obj [
  ("type", .str "object"), ("properties", .obj (s.properties.map fun (k, p) => (k, p.toJson))),
  ("required", .texts s.required)]

end Affordance
