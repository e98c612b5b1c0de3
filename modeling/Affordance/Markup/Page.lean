import Affordance.Markup.Listener
import Affordance.Markup.Node
import Affordance.Path
import Affordance.Surface.Assembly

/-!
# Pages

  * A page is one component, named after its file.  Its scripts define the handlers and
    may add listeners of their own.
  * `SourceFault`: what can go wrong while a source of any dialect is read.
-/

namespace Affordance

open Affordance.Text
open Affordance.Script

/-- What goes wrong while a source is read. -/
inductive SourceFault where
  /-- A bracket is looked for where there is none. -/
  | bracket (f : BracketFault)
  /-- The markup is refused. -/
  | rejected (r : Markup.Rejection)
  /-- A single-file component has neither a template nor a script. -/
  | noBlocks
  /-- A text has a reference by a number with too many digits. -/
  | longNumber (n : Number.LongNumber)
  deriving Repr, DecidableEq

/-- A step that may miss a bracket, as a step of reading a source. -/
def orFault {α : Type} (x : Except BracketFault α) : Except SourceFault α :=
  x.mapError .bracket

/-- The components of a file that offer something to act on. -/
def nonEmptyComponents (cs : List Component) : List Component := cs.filter fun c => !c.isEmpty

namespace Markup

/-- The trees of a source that is markup. -/
def nodesOf (source : String) : Except SourceFault (List Node) :=
  (read (Source.of source)).mapError fun
    | .longNumber n => .longNumber n
    | r => .rejected r

/-- What markup trees hold, in a dialect; texts are changed by `edit`. -/
def collect (d : Dialect) (edit : String → String) (nodes : List Node) :
    Except SourceFault Collected :=
  (Collector.collect d (Node.eventsAll edit nodes)).mapError .longNumber

/-- The component of a page's trees. -/
def component (name : String) (nodes : List Node) : Except SourceFault Component := do
  let collected ← collect .markup id nodes
  let script := join "\n" (Node.scriptsAll nodes)
  orFault (Assembly.assemble name collected (Handling.inScopes [script]) [] [] none
    (listeners script collected.elements))

/-- The name of a page's component. -/
def pageName (fileName : String) : String :=
  let stem := Path.stem fileName
  if stem = "" then "page" else stem

/-- The analysis of a page. -/
def analyze (source fileName : String) : Except SourceFault Analysis := do
  let c ← component (pageName fileName) (← nodesOf source)
  return ⟨fileName, .html, nonEmptyComponents [c]⟩

end Markup

end Affordance
