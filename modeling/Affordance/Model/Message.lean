import Affordance.Json.Basic
import Affordance.Told

/-!
# Messages to a language model

  * `Message`: a part of what a model is asked.
  * `Inquiry`: what a model is asked, how freely and at what length it may answer.
  * `Writer`: something that answers inquiries with texts, or fails.
-/

namespace Affordance

open Affordance.Number

/-- A part of what a model is asked. -/
structure Message where
  role : String
  content : String
  deriving Repr, DecidableEq

/-- How freely a model may answer: a number, whole or not as it was given. -/
inductive Temperature where
  | whole (i : Int)
  | measure (m : Measure)
  deriving DecidableEq

namespace Temperature

/-- The temperature in use. -/
def standard : Temperature := measure (.ofRat (mkRat 1 10))

/-- The temperature as it is told. -/
def text : Temperature → String
  | whole i => toString i
  | measure m => m.shortest

/-- The temperature as JSON. -/
def toJson : Temperature → Json
  | whole i => .int i
  | measure m => .num m

end Temperature

/-- What a model is asked. -/
structure Inquiry where
  messages : List Message
  temperature : Temperature := .standard
  /-- The greatest length of the answer. -/
  limit : Option Int := none
  deriving DecidableEq

/-- Why there is no answer: the kind of the fault and its wording. -/
structure WriterFault where
  kind : String
  message : String
  deriving Repr, DecidableEq

/-- Something that answers inquiries, and may tell of it. -/
abbrev Writer := Inquiry → Told (Except WriterFault String)

end Affordance
