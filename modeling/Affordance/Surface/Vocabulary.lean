import Affordance.Surface.Element
import Affordance.Text.Case

/-!
# The vocabulary of user interfaces

  * `knownComponents`: components of user interface libraries and the native elements
    that they stand for.
  * `buttonTypes`, `choiceTags`, `voidTags` and the attribute lists: the words that
    the collector and the readers of sources look for.
-/

namespace Affordance.Vocabulary

open Affordance.Text

/-! ## 1. Components of libraries -/

/-- A native element and the input type that it has by default. -/
abbrev Native := ElementTag × Option String

/-- Components of libraries by name. -/
def knownComponents : List (String × Native) := [
  ("TextField", (.input, none)), ("Select", (.select, none)),
  ("Checkbox", (.input, some "checkbox")), ("Switch", (.input, some "checkbox")),
  ("Radio", (.input, some "radio")), ("Slider", (.input, some "range")),
  ("Input", (.input, none)), ("Textarea", (.textarea, none)), ("TextArea", (.textarea, none)),
  ("NumberInput", (.input, some "number")), ("InputNumber", (.input, some "number")),
  ("DatePicker", (.input, some "date")), ("Form", (.form, none)),
  ("Button", (.button, none)), ("IconButton", (.button, none)),
  ("el-input", (.input, none)), ("el-input-number", (.input, some "number")),
  ("el-select", (.select, none)), ("el-checkbox", (.input, some "checkbox")),
  ("el-switch", (.input, some "checkbox")), ("el-button", (.button, none)),
  ("el-form", (.form, none)),
  ("v-text-field", (.input, none)), ("v-textarea", (.textarea, none)),
  ("v-select", (.select, none)), ("v-checkbox", (.input, some "checkbox")),
  ("v-switch", (.input, some "checkbox")), ("v-btn", (.button, none)), ("v-form", (.form, none)),
  ("a-input", (.input, none)), ("a-select", (.select, none)),
  ("a-checkbox", (.input, some "checkbox")), ("a-button", (.button, none)),
  ("a-form", (.form, none)),
  ("n-input", (.input, none)), ("n-button", (.button, none)),
  ("q-input", (.input, none)), ("q-select", (.select, none)), ("q-btn", (.button, none))]

/-- A component name without case and hyphens. -/
def plainName (s : String) : String := String.ofList ((lower s.toList).filter (· ≠ '-'))

/-- The same components by their plain names. -/
def plainComponents : List (String × Native) :=
  knownComponents.map fun (name, native) => (plainName name, native)

/-- The native element that a tag stands for where letter case counts. -/
def nativeOfExact (tag : String) : Option Native :=
  match ElementTag.ofText? tag with
  | some t => some (t, none)
  | none => knownComponents.lookup tag

/-- The native element that a tag stands for where letter case does not count. -/
def nativeOfAnyCase (tag : String) : Option Native :=
  match ElementTag.ofText? (toLower tag) with
  | some t => some (t, none)
  | none => plainComponents.lookup (plainName tag)

/-! ## 2. Types and tags -/

/-- Input types that make a button. -/
def buttonTypes : List String := ["submit", "button", "reset", "image"]

/-- Attributes that hold a library button's native type. -/
def nativeTypeAttributes : List String :=
  ["native-type", "nativeType", "htmlType", "htmltype", "html-type"]

/-- Tags of selection options. -/
def choiceTags : List String := [
  "option", "el-option", "eloption", "a-select-option", "aselectoption",
  "Option", "Select.Option", "MenuItem", "ElOption", "ASelectOption"]

/-- Tags that never have a content. -/
def voidTags : List String := [
  "area", "base", "br", "col", "embed", "hr", "img", "input",
  "link", "meta", "param", "source", "track", "wbr"]

/-! ## 3. Attributes -/

/-- Attributes that label an element, the strongest first. -/
def labelAttributes : List String := ["placeholder", "aria-label", "label", "title"]

/-- Attributes that mark an element for tools. -/
def toolMarks : List String := ["data-mcp", "data-tool"]

/-- Attributes that mark an element for tests. -/
def testMarks : List String :=
  ["data-testid", "data-test-id", "data-test", "data-cy", "data-qa"]

end Affordance.Vocabulary
