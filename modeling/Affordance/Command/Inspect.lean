import Affordance.Command.Outcome
import Affordance.Surface.Report

/-!
# Commands that look at one thing

  * `analyzeCommand`: the analysis of a source file is printed.
  * `probeCommand`: the live elements of a page are printed.
-/

namespace Affordance

open Affordance.Text

/-! ## 1. Source files -/

/-- A source file analysed. -/
def analyzeWork (s : Surroundings) (a : Arguments) : CommandOutcome :=
  match analyzeFile s.disk (a.operands.headD "") with
  | .error f => .stopped s "" (.source f)
  | .ok analysis => .printed s (printedJson analysis.toJson) 0

/-- The command that analyses a source file. -/
def analyzeCommand : Command where
  help := [
    "usage: parse_file [-h] path",
    "",
    "Extract the interactive surface of a UI source file",
    "",
    "positional arguments:",
    "  path        .html / .htm / .tsx / .jsx / .vue file",
    "",
    "options:",
    "  -h, --help  show this help message and exit"]
  grammar := { options := [("-h", .help), ("--help", .help)], operands := .one }
  work := analyzeWork

/-! ## 2. Pages -/

/-- The live elements of a page as JSON. -/
def probeJson (url : String) (es : List LiveElement) (time : Int) : Json := .obj [
  ("url", .str url), ("elements", .arr (es.map LiveElement.toJson)), ("timestamp", .int time)]

/-- A page probed. -/
def probeWork (s : Surroundings) (a : Arguments) : CommandOutcome :=
  let url := a.operands.headD ""
  let run := probe s.browser url
    { headless := !a.has "--headed", limit := a.wholeOr "--timeout-ms" 10000
      script := a.text? "--setup-script" }
  match run.answer with
  | .ok es => .printed s (run.log ++ printedJson (probeJson url es s.time)) 0
  | .error (.fault f) => .printed s (run.log ++ "✖ " ++ f.line ++ "\n") 1
  | .error e => .broken s run.log (.stop (.session e))

/-- The command that probes a page. -/
def probeCommand : Command where
  help := [
    "usage: probe [-h] [--timeout-ms TIMEOUT_MS] [--headed]",
    "             [--setup-script SETUP_SCRIPT]",
    "             url",
    "",
    "Probe a running page for its interactive elements",
    "",
    "positional arguments:",
    "  url",
    "",
    "options:",
    "  -h, --help            show this help message and exit",
    "  --timeout-ms TIMEOUT_MS",
    "  --headed              show the browser window",
    "  --setup-script SETUP_SCRIPT",
    "                        JS evaluated before extraction"]
  grammar := {
    options := [("-h", .help), ("--help", .help), ("--timeout-ms", .whole), ("--headed", .flag),
      ("--setup-script", .text)]
    operands := .one }
  work := probeWork

end Affordance
