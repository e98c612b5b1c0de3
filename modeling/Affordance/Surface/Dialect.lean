import Affordance.Surface.Vocabulary

/-!
# Dialects

  * A `Dialect` says how tags and attributes are read: whether letter case counts,
    which attributes bind a label, an event or a value.
  * `Dialect.markup` for pages, `Dialect.script` for elements in script text,
    `Dialect.template` for templates of single-file components.
-/

namespace Affordance

open Affordance.Text

/-- How tags and attributes are read. -/
structure Dialect where
  caseSensitive : Bool
  /-- Attributes that tie a label to an element's identifier. -/
  labelFor : List String
  /-- The event that an attribute binds. -/
  event : String → Option EventKind
  /-- The attribute binds the element's value. -/
  bindsValue : String → Bool

namespace Dialect

/-! ## 1. Pages -/

/-- The event of a page's attribute. -/
def markupEvent (name : String) : Option EventKind :=
  match toLower name with
  | "onsubmit" => some .submit
  | "onclick" => some .click
  | "onchange" => some .change
  | _ => none

/-- The dialect of pages. -/
def markup : Dialect := ⟨false, ["for"], markupEvent, fun _ => false⟩

/-! ## 2. Elements in script text -/

/-- The event of an attribute in script text. -/
def scriptEvent : String → Option EventKind
  | "onSubmit" => some .submit
  | "onClick" => some .click
  | "onChange" => some .change
  | _ => none

/-- The dialect of elements in script text. -/
def script : Dialect :=
  ⟨true, ["htmlFor", "for"], scriptEvent, fun a => a == "value" || a == "checked"⟩

/-! ## 3. Templates -/

/-- The text after a beginning, if the text begins so. -/
def after? (beginning s : List Char) : Option (List Char) :=
  if startsWith s beginning then some (s.drop beginning.length) else none

/-- The event of a template's directive; modifiers after a point do not count. -/
def templateEvent (name : String) : Option EventKind :=
  let a := lower name.toList
  match after? ['@'] a <|> after? "v-on:".toList a with
  | some e => EventKind.ofText? (String.ofList (e.takeWhile (· ≠ '.')))
  | none => none

/-- The template's directive binds the element's value. -/
def templateValue (name : String) : Bool :=
  let a := lower name.toList
  startsWith a "v-model".toList ||
  [":value", "v-bind:value", ":checked", "v-bind:checked", ":model-value", ":modelvalue"].contains
    (String.ofList a)

/-- The dialect of templates. -/
def template : Dialect := ⟨false, ["for"], templateEvent, templateValue⟩

/-! ## 4. Tags -/

/-- A tag as the dialect compares it. -/
def tagName (d : Dialect) (tag : String) : String := if d.caseSensitive then tag else toLower tag

/-- The native element that a tag stands for. -/
def native (d : Dialect) (tag : String) : Option Vocabulary.Native :=
  if d.caseSensitive then Vocabulary.nativeOfExact tag else Vocabulary.nativeOfAnyCase tag

end Dialect

end Affordance
