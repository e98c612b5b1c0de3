import Affordance.Live.Address
import Affordance.Live.Matching

/-!
# Sessions with a browser

  * `Step`: what a browser is asked to do.  `Browser`: what comes of it.
  * `Browser.perform`: the steps that are done: all, or those up to the first that fails.
  * `probe`: a session that visits a page and takes its elements.  A browser that was
    launched is closed at the end, whatever happened, and a driver that was started is left.
  * `ProbeFault`: why there are no live elements.
-/

namespace Affordance

open Affordance.Json
open Affordance.Text

/-! ## 1. Faults -/

/-- Why there are no live elements. -/
structure ProbeFault where
  code : String
  stage : String
  message : String
  url : Option String := none
  deriving Repr, DecidableEq

/-- A fault as one line. -/
def ProbeFault.line (f : ProbeFault) : String :=
  "[" ++ f.code ++ "@" ++ f.stage ++ "] " ++ f.message ++
  match nonEmpty f.url with
  | some u => " (url=" ++ u ++ ")"
  | none => ""

/-- Why a session has no live elements. -/
inductive ProbeFailure where
  | fault (f : ProbeFault)
  /-- The address cannot be read. -/
  | address (f : AddressFault)
  /-- The page yields a value that holds no elements at all. -/
  | noList (payload : Json)

/-! ## 2. Steps -/

/-- What a browser is asked to do. -/
inductive Step where
  | start
  | launch (headless : Bool)
  | newContext
  | newPage
  | setTimeout (limit : Int)
  | goto (url : String) (limit : Int)
  | wait (pause : Int)
  | setup (script : String)
  /-- The wait after the script, which may fail where the first one did not. -/
  | waitAgain (pause : Int)
  | extract
  | close
  deriving Repr, DecidableEq

/-- How a step fails. -/
inductive StepFault where
  | error (message : String)
  | timeout (message : String)
  deriving Repr, DecidableEq

/-- The browser's own words. -/
def StepFault.message : StepFault → String
  | error m => m
  | timeout m => m

/-- The fault of a session in which something fails that has no stage of its own. -/
def sessionFault (url : String) (f : StepFault) : ProbeFault :=
  ⟨"SESSION_ERROR", "session", "browser session failed: " ++ f.message, some url⟩

/-- The fault of a session in which a step fails. -/
def Step.fault (url : String) (f : StepFault) : Step → ProbeFault
  | launch _ => ⟨"LAUNCH_ERROR", "launch", "browser launch failed: " ++ f.message, some url⟩
  | goto _ limit =>
    match f with
    | .timeout _ =>
      ⟨"NAV_TIMEOUT", "navigate", "navigation timed out after " ++ toString limit ++ "ms", some url⟩
    | .error m => ⟨"NAV_ERROR", "navigate", "navigation failed: " ++ m, some url⟩
  | setup _ => ⟨"SETUP_SCRIPT_ERROR", "setup", "setup script failed: " ++ f.message, some url⟩
  | extract => ⟨"EXTRACT_ERROR", "extract", "extraction script failed: " ++ f.message, some url⟩
  | _ => sessionFault url f

/-- The marks of elements that are looked for in a page. -/
def elementSelector : String :=
  "input, button, select, textarea, form, [role=\"button\"], [role=\"textbox\"], [role=\"checkbox\"]"

/-! ## 3. Browsers -/

/-- What comes of the steps: which fail and how, and what a page yields. -/
structure Browser where
  fault : Step → Option StepFault
  payload : Json
  /-- How leaving the driver fails.  That is no call to the browser: it follows the last one,
      wherever the start did not fail. -/
  exit : Option StepFault := none

/-- The steps that are done one after another, and the last one if it fails. -/
def Browser.perform (b : Browser) : List Step → List Step × Option (Step × StepFault)
  | [] => ([], none)
  | s :: rest =>
    match b.fault s with
    | some f => ([s], some (s, f))
    | none =>
      let (done, failed) := b.perform rest
      (s :: done, failed)

/-! ## 4. Sessions -/

/-- How a page is visited. -/
structure VisitOptions where
  headless : Bool := true
  /-- The longest time that a step may take, in milliseconds. -/
  limit : Int := 10000
  /-- A script that is run in the page before its elements are taken. -/
  script : Option String := none
  /-- The time that a page gets to settle, in milliseconds. -/
  pause : Int := 500
  deriving Repr, DecidableEq

/-- The steps that lead to a browser. -/
def launching (o : VisitOptions) : List Step := [.start, .launch o.headless]

/-- The steps of a visit. -/
def visiting (url : String) (o : VisitOptions) : List Step :=
  [.newContext, .newPage, .setTimeout o.limit, .goto url o.limit, .wait o.pause] ++
  (match nonEmpty o.script with
    | some script => [.setup script, .waitAgain o.pause]
    | none => []) ++
  [.extract]

/-- The items of what a page yields; nothing at all is an empty list, an object is the list
    of its keys and a text the list of its characters. -/
def payloadItems : Json → Option (List Json)
  | .null => some []
  | .bool false => some []
  | .bool true => none
  | .int i => if i = 0 then some [] else none
  | .num m => if m = .value 0 || m = .minusZero then some [] else none
  | .str s => some (s.toList.map fun c => .str (String.singleton c))
  | .arr xs => some xs
  | .obj fields => some (fields.map fun (k, _) => .str k)

/-- The elements that items describe. -/
def liveElements : List Json → Except (List Misfit) (List LiveElement)
  | [] => .ok []
  | v :: rest => do return (← (decodeLive v).allMisfits) :: (← liveElements rest)

/-- A misfit as one text. -/
def Json.Misfit.text (m : Misfit) : String := m.at_ ++ ": " ++ m.message

/-- The elements of what a page yields. -/
def elementsOf (url : String) (payload : Json) : Except ProbeFailure (List LiveElement) :=
  match payloadItems payload with
  | none => .error (.noList payload)
  | some items => (liveElements items).mapError fun ms => .fault
      ⟨"EXTRACT_ERROR", "extract",
        "unexpected extraction payload: " ++ join "; " (ms.map Misfit.text), some url⟩

/-- The address must be one of a page. -/
def checkUrl (url : String) : Except ProbeFailure Unit := do
  let a ← (Address.read url).mapError .address
  if a.isPage then return ()
  else throw (.fault ⟨"INVALID_URL", "init",
    "unsupported URL: " ++ quoted url ++ " (expected http:// or https://)", some url⟩)

/-! ## 5. Probing -/

/-- What comes of a session. -/
structure ProbeRun where
  /-- The steps that were done. -/
  calls : List Step
  /-- What is told. -/
  log : String
  answer : Except ProbeFailure (List LiveElement)

/-- A truth value as it is told. -/
def toldTruth (b : Bool) : String := if b then "True" else "False"

/-- What is told before a step. -/
def Step.told (o : VisitOptions) : Step → String
  | goto url limit =>
    "[detect.probe] goto " ++ url ++ " (timeout=" ++ toString limit ++ "ms, headless=" ++
    toldTruth o.headless ++ ")\n"
  | _ => ""

/-- What is told about the elements of a page. -/
def countLine : Except ProbeFailure (List LiveElement) → String
  | .ok es => "[detect.probe] elements=" ++ toString es.length ++ "\n"
  | .error _ => ""

/-- A visit to a page in a browser that has been launched, which is closed at the end. -/
def visit (b : Browser) (url : String) (o : VisitOptions) : ProbeRun :=
  let (calls, failed) := b.perform (visiting url o)
  let told := join "" (calls.map (Step.told o))
  let answer := match failed with
    | some (s, f) => .error (.fault (s.fault url f))
    | none => elementsOf url b.payload
  match b.fault .close with
  | some f => ⟨calls ++ [.close], told, .error (.fault (Step.close.fault url f))⟩
  | none => ⟨calls ++ [.close], told ++ "[detect.probe] browser closed\n", answer⟩

/-- A session whose driver is left at the end. -/
def ProbeRun.leaving (run : ProbeRun) (b : Browser) (url : String) : ProbeRun :=
  match b.exit with
  | some f => { run with answer := .error (.fault (sessionFault url f)) }
  | none => { run with log := run.log ++ countLine run.answer }

/-- The elements of a page, taken in a session with a browser. -/
def probe (b : Browser) (url : String) (o : VisitOptions) : ProbeRun :=
  match checkUrl url with
  | .error e => ⟨[], "", .error e⟩
  | .ok () =>
    match b.perform (launching o) with
    | (calls, some (s, f)) =>
      let run : ProbeRun := ⟨calls, "", .error (.fault (s.fault url f))⟩
      if s = .start then run else run.leaving b url
    | (calls, none) =>
      let run := visit b url o
      { run with calls := calls ++ run.calls }.leaving b url

/-- What is told of a fault that is passed over. -/
def skippedLine (f : ProbeFault) : String := "[detect.probe] skipped: " ++ f.line ++ "\n"

/-- A session whose faults are told and passed over. -/
def ProbeRun.safely (run : ProbeRun) :
    String × Except ProbeFailure (Option (List LiveElement)) :=
  match run.answer with
  | .ok es => (run.log, .ok (some es))
  | .error (.fault f) => (run.log ++ skippedLine f, .ok none)
  | .error e => (run.log, .error e)

end Affordance
