import Affordance.Instrument.Result

/-!
# Instrumenting a source

  * `instrument`: a source is analysed, its elements are located in a running page if one
    is named, and tools are proposed.
  * `PageView`: what is known of the running page.  A page that cannot be probed leaves
    the selectors of the source.
-/

namespace Affordance

open Affordance.Text

/-! ## 1. The running page -/

/-- What is known of the page that a source runs in. -/
structure PageView where
  /-- A page is named, and so tools are assessed for stability. -/
  named : Bool := false
  /-- The live elements to compare with; none where there is no comparing. -/
  live : Option (List LiveElement) := none
  /-- Why the page could not be probed. -/
  error : Option String := none

/-- What is told when a page cannot be probed. -/
def unprobedLine (f : ProbeFault) : String :=
  "[skill.instrument] probe failed, static selectors only: " ++ f.line ++ "\n"

/-- What a session tells of a page. -/
def PageView.ofRun (run : ProbeRun) : Told (Except Stop PageView) :=
  match run.answer with
  | .ok es => ⟨run.log, .ok ⟨true, some es, none⟩⟩
  | .error (.fault f) => ⟨run.log ++ unprobedLine f, .ok ⟨true, some [], some f.line⟩⟩
  | .error e => ⟨run.log, .error (.session e)⟩

/-- What is known of a page by its address; an empty address names a page that nobody
    visits. -/
def PageView.of (prober : String → ProbeRun) : Option String → Told (Except Stop PageView)
  | none => .silent (.ok {})
  | some url => if url = "" then .silent (.ok { named := true }) else PageView.ofRun (prober url)

/-! ## 2. Analyses -/

/-- An analysis whose elements are located among live ones. -/
def Analysis.locatedAmong (a : Analysis) (live : List LiveElement) : Analysis :=
  { a with components := a.components.map fun c =>
      { c with elements := (locateAll .binary live c.elements).map (·.element) } }

/-- An analysis as a view of the page leaves it. -/
def Analysis.seenIn (a : Analysis) (view : PageView) : Analysis :=
  match view.live with
  | some live => a.locatedAmong live
  | none => a

/-- What is told about an analysis. -/
def analysisLine (a : Analysis) : String :=
  "[skill.instrument] " ++ a.fileName ++ ": framework=" ++ a.framework.text ++ " components=" ++
  toString a.components.length ++ " elements=" ++ toString a.elements.length ++ "\n"

/-- What is told about locating the elements of an analysis. -/
def locatedLine (a : Analysis) (view : PageView) : String :=
  match view.live with
  | some live => matchedLine (locateAll .binary live a.elements) live
  | none => ""

/-! ## 3. Proposals -/

/-- The tools of an analysis, where each of them has an identity. -/
def Analysis.proposals (a : Analysis) (config : Option Config) (view : PageView) :
    List Proposal :=
  propose config view.named (a.seenIn view).components

/-- What is told about the tools of an analysis. -/
def Analysis.toolLines (a : Analysis) (config : Option Config) (view : PageView) : String :=
  locatedLine a view ++
  proposalLines (assessedOf config (a.seenIn view).components) (a.proposals config view)
    a.fileName

/-- What comes of an analysis. -/
def Analysis.instrumented (a : Analysis) (config : Option Config) (view : PageView) :
    Instrumentation :=
  ⟨a.fileName, .ofProposals (a.proposals config view), view.error⟩

/-- What comes of a source whose page is looked at through a prober. -/
def instrument (config : Option Config) (prober : String → ProbeRun) (url : Option String)
    (source fileName : String) : Told (Except Stop Instrumentation) :=
  match SourceFile.analyze source fileName with
  | .error f => .silent (.error (.source f))
  | .ok a =>
    let view := PageView.of prober url
    match view.value with
    | .error e => ⟨analysisLine a ++ view.log, .error e⟩
    | .ok v =>
      match (a.proposals config v).findSome? (·.candidate.idFault?) with
      | some f => ⟨analysisLine a ++ view.log ++ locatedLine a v, .error (.identity f)⟩
      | none =>
        ⟨analysisLine a ++ view.log ++ a.toolLines config v, .ok (a.instrumented config v)⟩

end Affordance
