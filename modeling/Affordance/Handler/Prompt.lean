import Affordance.Handler.Selectors
import Affordance.Tool.Proposal

/-!
# Asking for a handler

  * `handlerPrompt`: what a language model is asked for: the tool, its parameters, the
    selectors it may use, and perhaps a piece of the source.
-/

namespace Affordance

open Affordance.Text

/-- What the model is told to be. -/
def modelRole : String :=
  "You are a precise code generator. Output only the requested code, no markdown fences, no explanation."

/-- The line of a parameter. -/
def parameterLine (p : String × Property) : String :=
  "  - " ++ p.1 ++ " (" ++ p.2.type.name ++ "): " ++ p.2.description

/-- The line of an input's selectors. -/
def selectorLine (e : Element) : String :=
  "  - " ++ codeList e.selectorsTried ++ " -> " ++ e.reference

/-- Lines, or a word where there are none. -/
def linesOrNone (xs : List String) : String :=
  let s := join "\n" xs
  if s = "" then "  (none)" else s

/-- A piece of the source, cut short. -/
def excerptPart (excerpt : Option String) : String :=
  match nonEmpty excerpt with
  | some s => "Source context:\n```\n" ++ String.ofList (s.toList.take 800) ++ "\n```\n"
  | none => ""

/-- What a language model is asked for. -/
def handlerPrompt (p : Proposal) (excerpt : Option String) : String :=
  let c := p.candidate
  "You are generating a JavaScript handler for a browser-side agent tool.\n\n" ++
  "Tool name: " ++ p.name ++ "\n" ++
  "Description: " ++ p.description ++ "\n\n" ++
  "Input parameters:\n" ++ linesOrNone (p.schema.properties.map parameterLine) ++ "\n\n" ++
  "Known DOM selectors (try in order):\n" ++ linesOrNone (c.inputs.map selectorLine) ++ "\n" ++
  "Trigger selectors: " ++
    ((c.trigger.map fun t => codeList t.selectorsTried).getD "unknown") ++ "\n\n" ++
  "Available DOM helpers (already defined in scope, each takes a selector array):\n" ++
  "- __afcSetValue(selectors, value)\n" ++
  "- __afcSetChecked(selectors, checked)\n" ++
  "- __afcSetSelect(selectors, value)\n" ++
  "- __afcClick(selectors)\n\n" ++
  excerptPart excerpt ++
  "Generate ONLY the body of `async (params) => \x7b ... \x7d`.\n" ++
  "1. Fill each input from params using the helpers.\n" ++
  "2. Then trigger the submit/action.\n" ++
  "3. Return \x7b success: true, message: '...' \x7d on success.\n" ++
  "4. Wrap in try/catch and return \x7b success: false, message: err.message \x7d on error.\n" ++
  "5. Use only the selectors listed above.\n" ++
  "Respond with the handler body only."

end Affordance
