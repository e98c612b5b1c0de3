import Affordance.Markup.Page
import Affordance.SingleFile.Blocks
import Affordance.SingleFile.Script
import Affordance.Text.Naming

/-!
# Single-file components

  * A single-file component is one component: its template is markup in a dialect of its
    own, its scripts define state, props and handlers.
  * Interpolations in a template's text are no text.
-/

namespace Affordance.SingleFile

open Affordance.Text
open Affordance.Text.Pattern

/-- An interpolation. -/
def interpolation : Pattern := lit "\x7b\x7b" ++ fewest (fun _ => true) ++ lit "\x7d\x7d"

/-- A template's text without its interpolations. -/
def dropInterpolations (s : String) : String :=
  String.ofList (interpolation.replaceAll [' '] s.toList)

/-- The import of a validation library. -/
def validationImport : Pattern :=
  lit "from" ++ space1 ++ group "quote" (one fun c => c == '\'' || c == '"') ++
  lit "vee-validate" ++ again "quote"

/-- What a template holds. -/
def collectTemplate (template : Option String) : Except SourceFault Collected := do
  match template with
  | none => return {}
  | some t => Markup.collect .template dropInterpolations (← Markup.nodesOf t)

/-- The analysis of a single-file component. -/
def analyze (source fileName : String) : Except SourceFault Analysis := do
  let b := blocks source
  if b.template.isNone && b.scripts.isEmpty then throw .noBlocks
  let collected ← collectTemplate b.template
  let script := join "\n" b.scripts
  let src := Source.of script
  let name := (← orFault (nameOf src)).getD (pascal (Path.stem fileName))
  let states ← orFault (stateOf src)
  let props ← orFault (propsOf src)
  let library := (validationImport.search src 0).map fun _ => "vee-validate"
  let c ← orFault
    (Assembly.assemble name collected (Handling.inScopes [script]) states props library [])
  return ⟨fileName, .vue, nonEmptyComponents [c]⟩

end Affordance.SingleFile
