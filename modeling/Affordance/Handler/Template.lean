import Affordance.Handler.Selectors
import Affordance.Tool.Proposal

/-!
# Handlers from a template

  * `templateHandler`: the body of a tool's handler, written from its elements alone.
    Every parameter that is given fills its input, then the trigger is pressed.
-/

namespace Affordance

open Affordance.Text

/-- The expression of a parameter. -/
def parameter (key : String) : String := "params[" ++ Json.quoteAscii key ++ "]"

/-- The line that fills an input. -/
def fillLine (key : String) (e : Element) : String :=
  "  if (" ++ parameter key ++ " !== undefined) " ++ setCall e (parameter key) ++ ";"

/-- The lines that press the trigger, after a pause where there was something to fill. -/
def pressLines (inputs : List Element) (trigger : Option Element) : List String :=
  match trigger with
  | none => []
  | some t =>
    (if inputs.isEmpty then [] else ["  await new Promise((r) => setTimeout(r, 100));"]) ++
    ["  " ++ submitCall t ++ ";"]

/-- The lines of a handler's body. -/
def templateLines (inputs : List Element) (trigger : Option Element) (description : String) :
    List String :=
  ["try \x7b"] ++
  (InputSchema.keyed inputs).map (fun (k, e) => fillLine k e) ++
  pressLines inputs trigger ++
  ["  return \x7b success: true, message: " ++ Json.quote description ++ " \x7d;",
   "\x7d catch (err) \x7b",
   "  return \x7b success: false, message: err instanceof Error ? err.message : String(err) \x7d;",
   "\x7d"]

/-- The body of a tool's handler. -/
def templateHandler (p : Proposal) : String :=
  join "\n" (templateLines p.candidate.inputs p.candidate.trigger p.description)

end Affordance
