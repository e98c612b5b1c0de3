import Affordance.Json.Decode

/-!
# Elements of a running page

  * `LiveElement`: an element as it was found in a running page.
  * `decodeLive`: a live element from JSON, with every misfit.
-/

namespace Affordance

open Affordance.Json
open Affordance.Number

/-- Where an element stands on the page. -/
structure Rectangle where
  x : Measure := .value 0
  y : Measure := .value 0
  width : Measure := .value 0
  height : Measure := .value 0
  deriving DecidableEq

/-- An element as it was found in a running page. -/
structure LiveElement where
  tag : String
  id : Option String := none
  name : Option String := none
  inputType : Option String := none
  accessibleName : String := ""
  role : Option String := none
  /-- A selector from the structure of the page. -/
  selector : String
  bounds : Rectangle := {}
  attributes : List (String × String) := []
  isInteractive : Bool := true
  deriving DecidableEq

/-! ## 1. Reading -/

/-- A place on the page. -/
def decodeRectangle : Json → Decoded Rectangle :=
  decodeRecord "Bounds" fun fs =>
    Rectangle.mk <$> fieldOr ["x"] (.value 0) decodeMeasure fs
      <*> fieldOr ["y"] (.value 0) decodeMeasure fs
      <*> fieldOr ["width"] (.value 0) decodeMeasure fs
      <*> fieldOr ["height"] (.value 0) decodeMeasure fs

/-- A live element. -/
def decodeLive : Json → Decoded LiveElement :=
  decodeRecord "ProbeElement" fun fs =>
    LiveElement.mk <$> field "tag" decodeText fs
      <*> fieldOr ["id"] none decodeText? fs
      <*> fieldOr ["name"] none decodeText? fs
      <*> fieldOr ["input_type"] none decodeText? fs
      <*> fieldOr ["accessible_name"] "" decodeText fs
      <*> fieldOr ["role"] none decodeText? fs
      <*> field "selector" decodeText fs
      <*> fieldOr ["bounds"] {} decodeRectangle fs
      <*> fieldOr ["attributes"] [] decodeTextMap fs
      <*> fieldOr ["is_interactive"] true decodeTruth fs

/-! ## 2. Writing -/

/-- A place on the page as JSON. -/
def Rectangle.toJson (b : Rectangle) : Json := .obj [
  ("x", .num b.x), ("y", .num b.y), ("width", .num b.width), ("height", .num b.height)]

/-- A live element as JSON, every field written. -/
def LiveElement.toJson (e : LiveElement) : Json := .obj [
  ("tag", .str e.tag), ("id", .ofText? e.id), ("name", .ofText? e.name),
  ("input_type", .ofText? e.inputType), ("accessible_name", .str e.accessibleName),
  ("role", .ofText? e.role), ("selector", .str e.selector), ("bounds", e.bounds.toJson),
  ("attributes", .textMap e.attributes), ("is_interactive", .bool e.isInteractive)]

end Affordance
