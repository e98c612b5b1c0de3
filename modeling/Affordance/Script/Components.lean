import Affordance.Markup.Page
import Affordance.Script.Elements
import Affordance.Script.Props
import Affordance.Script.State
import Affordance.Text.Naming

/-!
# Components in script text

  * `componentSpans`: the components that a script declares, as functions, as constants that
    hold functions, or as classes.  A declaration inside another component is no
    component of its own.
  * `analyze`: the analysis of a script.
-/

namespace Affordance.Script

open Affordance.Text
open Affordance.Text.Pattern

/-! ## 1. Declarations -/

/-- A component as it stands in the text. -/
structure Span where
  name : String
  start : Nat
  stop : Nat
  params : String
  bodyStart : Nat
  deriving Repr, DecidableEq

/-- A component's name. -/
def capitalName : Pattern := one isUpperAscii ++ run isNameChar

/-- A wrapper around a component function. -/
def wrapper : Pattern :=
  opt (lit "React.") ++ words ["memo", "forwardRef"] ++ space ++ typeArguments ++ space ++
  char '(' ++ space

/-- A function that may be a component, up to its parameters. -/
def functionDeclaration : Pattern :=
  indent ++ opt (group "export" (lit "export" ++ space1 ++ opt (lit "default" ++ space1))) ++
  opt (lit "async" ++ space1) ++ lit "function" ++ space ++ opt (group "name" capitalName) ++
  space ++
  opt (char '<' ++ run (fun c => !(c == '<' || c == '>' || c == '(' || c == ')')) ++ char '>') ++
  space ++ ahead (char '(')

/-- A constant that may be a component, up to its function. -/
def constantDeclaration : Pattern :=
  indent ++ opt (lit "export" ++ space1) ++ declares ++ space1 ++ group "name" capitalName ++
  space ++ annotation ++ char '=' ++ space ++ many wrapper

/-- A class that is a component, up to its body. -/
def classDeclaration : Pattern :=
  indent ++ opt (lit "export" ++ space1) ++ opt (lit "default" ++ space1) ++ lit "class" ++ space1 ++
  group "name" capitalName ++ space1 ++ lit "extends" ++ space1 ++ opt (lit "React.") ++
  opt (lit "Pure") ++ lit "Component" ++ wordEdge ++ run (· ≠ '\x7b')

/-! ## 2. Spans -/

/-- The name of a declared function; a default export may be named after its file. -/
def functionName (m : Match) (fileName : String) : Option String :=
  match m.text? "name" with
  | some n => some n
  | none =>
    if contains (m.text "export") "default" then some (pascal (Path.stem fileName)) else none

/-- The span of a declared function. -/
def functionSpan (src : Source) (fileName : String) (m : Match) :
    Except BracketFault (Option Span) :=
  match functionName m fileName with
  | none => .ok none
  | some name => do
    let close ← partner src m.stop
    let body := skip src ['\x7b'] (close + 1)
    if src.size ≤ body then return none
    else
      let last ← partner src body
      return some ⟨name, m.start, last + 1, src.text (m.stop + 1) close, body⟩

/-- The parameters of the function that begins at a position and ends at another. -/
def parametersOf (src : Source) (start stop : Nat) : Except BracketFault String :=
  match src.findChar '(' start with
  | none => .ok ""
  | some open_ =>
    let head := strip (src.slice start open_)
    if open_ < stop &&
        (head.isEmpty || head == "async".toList || startsWith head "function".toList) then do
      let close ← partner src open_
      return src.text (open_ + 1) close
    else .ok ""

/-- The span of a constant that holds a function. -/
def constantSpan (src : Source) (m : Match) : Except BracketFault (Option Span) := do
  match ← functionAt src m.stop false with
  | none => return none
  | some f => return some ⟨m.text "name", m.start, f.stop, ← parametersOf src m.stop f.stop, m.stop⟩

/-- The span of a class. -/
def classSpan (src : Source) (m : Match) : Except BracketFault (Option Span) :=
  if src[m.stop]? = some '\x7b' then do
    let close ← partner src m.stop
    return some ⟨m.text "name", m.start, close + 1, "", m.stop⟩
  else .ok none

/-- Spans in order without those that begin inside an earlier one, which ends at
    `stop`. -/
def disjointFrom : Nat → List Span → List Span
  | _, [] => []
  | stop, s :: rest =>
    if s.start < stop then disjointFrom stop rest else s :: disjointFrom s.stop rest

/-- The components that a script declares. -/
def componentSpans (src : Source) (fileName : String) : Except BracketFault (List Span) := do
  let functions ← (functionDeclaration.findAll src).mapM (functionSpan src fileName)
  let constants ← (constantDeclaration.findAll src).mapM (constantSpan src)
  let classes ← (classDeclaration.findAll src).mapM (classSpan src)
  let spans := (functions ++ constants ++ classes).filterMap id
  return disjointFrom 0 (inOrder (spans.map fun s => (s.start, s)))

/-! ## 3. Analysis -/

/-- The component of a span. -/
def component (src : Source) (source : String) (s : Span) : Except SourceFault Component := do
  let span := src.text s.start s.stop
  let (events, registered) := elementEvents (src.extract s.bodyStart s.stop)
  let collected ← (Collector.collect .script events).mapError .longNumber
  let (states, library) ← orFault (stateOf (Source.of span))
  let props ← orFault (propsOf s.params.toList src)
  orFault (Assembly.assemble s.name collected (Handling.inScopes [span, source]) states props
    (library <|> registered) [])

/-- The analysis of a script. -/
def analyze (source fileName : String) : Except SourceFault Analysis := do
  let src := Source.of source
  let spans ← orFault (componentSpans src fileName)
  let components ← spans.mapM (component src source)
  return ⟨fileName, .react, nonEmptyComponents components⟩

end Affordance.Script
