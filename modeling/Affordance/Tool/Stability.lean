import Affordance.Number.Measure
import Affordance.Tool.Candidate

/-!
# Stable tools

  * A tool is stable if each of its inputs and its trigger has a selector of a sufficient
    score.  `Candidate.instability` names the first element that has none.
-/

namespace Affordance

open Affordance.Number

/-- The score that a selector needs, with the text that messages show. -/
structure RequiredScore where
  value : Measure
  text : String
  deriving DecidableEq

/-- The threshold in use. -/
def RequiredScore.standard : RequiredScore := ⟨.value (nearest (mkRat 6 10)), "0.6"⟩

/-- Why an element is not found reliably. -/
def Element.instability (threshold : RequiredScore) (kind : String) (e : Element) :
    Option String :=
  let subject := kind ++ " \"" ++ e.reference ++ "\""
  match e.topScore with
  | none => some (subject ++ " lacks a runtime selector entirely")
  | some top =>
    if top.lt threshold.value then
      some (subject ++ " top selector score " ++ top.fixed 2 ++ " is below " ++ threshold.text)
    else none

namespace Candidate

/-- Why a tool is not stable. -/
def instability (threshold : RequiredScore) (c : Candidate) : Option String :=
  (c.inputs.findSome? (Element.instability threshold "Field")) <|>
  c.trigger.bind (Element.instability threshold "Trigger")

end Candidate

end Affordance
