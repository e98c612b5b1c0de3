import Affordance.Keyed
import Affordance.Number.Measure

/-!
# JSON values

  * `Json`: a JSON value.  The fields of an object keep the order in which they were
    put there; a whole number and a number with a fraction are kept apart.
  * `field?`: an object read as a map.
-/

namespace Affordance

open Affordance.Number

/-- A JSON value. -/
inductive Json where
  | null
  | bool (b : Bool)
  | int (i : Int)
  | num (m : Measure)
  | str (s : String)
  | arr (items : List Json)
  | obj (fields : List (String × Json))

namespace Json

/-! ## 1. Fields -/

/-- The value of a field; none where there is no such field or no object. -/
def field? : Json → String → Option Json
  | obj fields, key => fields.lookup key
  | _, _ => none

/-! ## 2. Building -/

/-- A text or null. -/
def ofText? : Option String → Json
  | some s => str s
  | none => null

/-- A list of texts. -/
def texts (xs : List String) : Json := arr (xs.map str)

/-- A map of texts. -/
def textMap (xs : List (String × String)) : Json := obj (xs.map fun (k, v) => (k, str v))

/-- An object of the fields that have a value. -/
def compactObj (fields : List (String × Option Json)) : Json :=
  obj (fields.filterMap fun (k, v) => v.map (k, ·))

end Json

end Affordance
