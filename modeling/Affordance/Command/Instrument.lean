import Affordance.Command.Outcome

/-!
# The command that instruments source files

  * `instrumentCommand`: tools are proposed for source files, and their handlers are
    written if that is asked for.
  * `summary`: what is printed about a source file for people to read.
-/

namespace Affordance

open Affordance.Text

/-! ## 1. Summaries -/

/-- The lines about a proposed tool. -/
def proposalSummary (p : Proposal) : String :=
  "  [" ++ (if p.selected then "x" else " ") ++ "] " ++ toString p.index ++ ". " ++ p.name ++
  " (" ++ p.risk.text ++ ") - " ++ p.description ++ "\n" ++
  (if p.riskReason = "" then "" else "        risk: " ++ p.riskReason ++ "\n") ++
  (match p.isStable, p.stabilityReason with
    | some false, some reason => "        unstable: " ++ reason ++ "\n"
    | _, _ => "")

/-- The line about a page that could not be probed. -/
def unprobedSummary (r : Instrumentation) : String :=
  match r.probeError with
  | some e => "  ⚠ runtime probe skipped: " ++ e ++ "\n"
  | none => ""

/-- The lines about a source file. -/
def summary (r : Instrumentation) : String :=
  "\n" ++ r.fileName ++ "\n" ++
  match r.outcome with
  | .failed p => p.shown ++ "\n"
  | .nothing => "  ⚠ " ++ r.message.getD "" ++ "\n"
  | .tools ps => unprobedSummary r ++ join "" (ps.map proposalSummary)

/-- The report on source files. -/
def report (asJson : Bool) (rs : List Instrumentation) : String :=
  if asJson then printedJson (.arr (rs.map Instrumentation.toJson)) else join "" (rs.map summary)

/-! ## 2. Writing handlers -/

/-- Why no more handlers are written. -/
inductive Halt where
  /-- There is no backend, and the user is told why. -/
  | told (f : AccessFault)
  | crash (c : Crash)

/-- A missing backend is told, an endless number of attempts breaks off. -/
def Halt.ofAccess : AccessFault → Halt
  | .endless => crash (.access .endless)
  | f => told f

/-- The writer of a backend. -/
def writerOf (connect : Access → Option Writer) : Backend → Except Halt (Option Writer)
  | .none => .ok none
  | .model a =>
    match connect a with
    | some w => .ok (some w)
    | none => .error (.crash .noClient)

/-- The writer that the arguments, the settings or the environment choose. -/
def chosenWriter (s : Surroundings) (a : Arguments) (c : Config) :
    Except Halt (Option Writer) := do
  let name := nonEmpty (a.text? "--llm") <|> c.llm.backend.map BackendKind.text
  let model := nonEmpty (a.text? "--model") <|> c.llm.model
  writerOf s.connect (← (Backend.detect s.environment s.disk name model).mapError .ofAccess)

/-- The settings and the writer for a source file. -/
def writingTools (s : Surroundings) (a : Arguments) (d : Disk) (config : Option Config)
    (r : Instrumentation) : Except Halt (Config × Option Writer) := do
  let c ← (settingsFor d config r.fileName).mapError fun f => .crash (.stop (.config f))
  return (c, ← chosenWriter s a c)

/-- The handlers of a source file's tools written. -/
def writeOne (s : Surroundings) (a : Arguments) (config : Option Config) (store : HandlerStore)
    (r : Instrumentation) : Told (HandlerStore × Except Halt Unit) :=
  match r.outcome with
  | .tools _ =>
    match writingTools s a store.disk config r with
    | .error h => .silent (store, .error h)
    | .ok (c, writer) =>
      (writeBeside c writer (a.has "--all") s.time store r).map fun (store, done) =>
        (store, done.mapError fun f => .crash (.write f))
  | _ => .silent (store, .ok ())

/-- The handlers of all source files' tools written, until something stops it. -/
def writeEach (s : Surroundings) (a : Arguments) (config : Option Config) :
    HandlerStore → List Instrumentation → Told (HandlerStore × Except Halt Unit)
  | store, [] => .silent (store, .ok ())
  | store, r :: rest =>
    let first := writeOne s a config store r
    match first.value with
    | (store, .error h) => ⟨first.log, (store, .error h)⟩
    | (store, .ok ()) => (writeEach s a config store rest).after first.log

/-- The cache that is kept where a command runs. -/
def homeCache (d : Disk) : BodyCache where
  path := some (Path.join (Path.join d.home ".afc_instrument") "cache.json")

/-- The handlers written if the arguments ask for it. -/
def writePhase (s : Surroundings) (a : Arguments) (config : Option Config)
    (rs : List Instrumentation) : Told (HandlerStore × Except Halt Unit) :=
  let store : HandlerStore := ⟨s.disk, homeCache s.disk⟩
  if a.has "--write" then writeEach s a config store rs else .silent (store, .ok ())

/-! ## 3. The command -/

/-- The settings in the file that the arguments name. -/
def namedConfig (s : Surroundings) (a : Arguments) : Except Stop (Option Config) :=
  match nonEmpty (a.text? "--config") with
  | some path => ((ConfigFile.load s.disk path).map some).mapError .config
  | none => .ok none

/-- What the files are instrumented with. -/
def workbench (s : Surroundings) (a : Arguments) (config : Option Config) : Workbench where
  disk := s.disk
  config := config
  url := a.text? "--url"
  prober := fun url => probe s.browser url
    { limit := a.wholeOr "--timeout-ms" 10000, script := a.text? "--setup-script" }

/-- What is heard of what is told. -/
def heard (a : Arguments) (log : String) : String := if a.has "--verbose" then log else ""

/-- The outcome when all files have been instrumented. -/
def finishInstrument (s : Surroundings) (a : Arguments) (config : Option Config) (log : String)
    (rs : List Instrumentation) : CommandOutcome :=
  let writing := writePhase s a config rs
  let output := log ++ heard a writing.log
  match writing.value with
  | (store, .error (.told f)) => ⟨output ++ "\n✖ " ++ f.message ++ "\n", .code 1, store.disk⟩
  | (store, .error (.crash c)) => ⟨output, .crash c, store.disk⟩
  | (store, .ok ()) =>
    ⟨output ++ report (a.has "--json") rs, .code (if rs.all (·.ok) then 0 else 1), store.disk⟩

/-- Source files instrumented. -/
def instrumentWork (s : Surroundings) (a : Arguments) : CommandOutcome :=
  match namedConfig s a with
  | .error e => .stopped s "" e
  | .ok config =>
    let t := instrumentBatch (workbench s a config) a.operands
    match t.value with
    | .error e => .stopped s (heard a t.log) e
    | .ok rs => finishInstrument s a config (heard a t.log) rs

/-- The command that instruments source files. -/
def instrumentCommand : Command where
  help := [
    "usage: afc-instrument [-h] [--url URL] [--setup-script SETUP_SCRIPT]",
    "                      [--timeout-ms TIMEOUT_MS] [--config CONFIG] [--json]",
    "                      [--write] [--all] [--llm LLM] [--model MODEL]",
    "                      [--verbose]",
    "                      paths [paths ...]",
    "",
    "Propose agent tools for the interactive surface of UI source files",
    "",
    "positional arguments:",
    "  paths                 .html / .htm / .tsx / .jsx / .vue files",
    "",
    "options:",
    "  -h, --help            show this help message and exit",
    "  --url URL             running instance to probe for live selectors",
    "  --setup-script SETUP_SCRIPT",
    "                        JS evaluated in the page before extraction",
    "  --timeout-ms TIMEOUT_MS",
    "  --config CONFIG       explicit config file (default: search upward)",
    "  --json                print results as JSON",
    "  --write               generate handlers and write the tools module",
    "  --all                 with --write: include unselected tools",
    "  --llm LLM             handler generation backend: none | openai",
    "  --model MODEL",
    "  --verbose"]
  grammar := {
    options := [("-h", .help), ("--help", .help), ("--url", .text), ("--setup-script", .text),
      ("--timeout-ms", .whole), ("--config", .text), ("--json", .flag), ("--write", .flag),
      ("--all", .flag), ("--llm", .text), ("--model", .text), ("--verbose", .flag)]
    operands := .oneOrMore }
  work := instrumentWork

end Affordance
