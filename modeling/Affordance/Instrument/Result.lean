import Affordance.Config.Lookup
import Affordance.Live.Session
import Affordance.SourceFile
import Affordance.Told
import Affordance.Tool.Proposal

/-!
# What comes of a source file

  * `Instrumentation`: the tools that are proposed for a source file, or that it offers
    nothing to act on, or the problem that it has.
  * `Stop`: what ends the work on a source file without an answer.
-/

namespace Affordance

open Affordance.Text

/-! ## 1. Outcomes -/

/-- What ends the work on a source file without an answer. -/
inductive Stop where
  | source (f : Failure)
  | config (f : ConfigFault)
  | session (f : ProbeFailure)
  /-- A tool has no identity. -/
  | identity (f : HalfFault)

/-- The problem that a user is told about, if there is one. -/
def Stop.problem? : Stop → Option Problem
  | source (.problem p) => some p
  | config (.problem p) => some p
  | _ => none

/-- What a source file offers. -/
inductive Outcome where
  | tools (proposals : List Proposal)
  | nothing
  | failed (p : Problem)
  deriving DecidableEq

namespace Outcome

/-- The outcome as reports name it. -/
def text : Outcome → String
  | tools _ => "OK"
  | nothing => "NO_ELEMENTS"
  | failed _ => "ERROR"

/-- The proposed tools. -/
def proposals : Outcome → List Proposal
  | tools ps => ps
  | _ => []

/-- The outcome of proposals. -/
def ofProposals : List Proposal → Outcome
  | [] => nothing
  | p :: ps => tools (p :: ps)

/-- The problem of a source file. -/
def problem? : Outcome → Option Problem
  | failed p => some p
  | _ => none

end Outcome

/-- What comes of a source file. -/
structure Instrumentation where
  fileName : String
  outcome : Outcome
  /-- Why the running page could not be probed. -/
  probeError : Option String := none
  deriving DecidableEq

namespace Instrumentation

/-- The source file has no problem. -/
def ok (r : Instrumentation) : Bool := r.outcome.problem?.isNone

/-- What a user is told instead of tools. -/
def message (r : Instrumentation) : Option String :=
  match r.outcome with
  | .tools _ => none
  | .nothing => some (nothingFound (Path.baseName r.fileName))
  | .failed p => some p.message

end Instrumentation

/-! ## 2. Writing -/

/-- A problem as part of a report. -/
def Problem.toJson (p : Problem) : Json := .obj [
  ("code", .str p.code), ("message", .str p.message), ("suggestion", .str p.suggestion)]

/-- A report on a source file. -/
def Instrumentation.toJson (r : Instrumentation) : Json := .compactObj [
  ("file_name", some (.str r.fileName)), ("outcome", some (.str r.outcome.text)),
  ("proposals", some (.arr (r.outcome.proposals.map Proposal.toJson))),
  ("message", r.message.map Json.str), ("probe_error", r.probeError.map Json.str),
  ("error", r.outcome.problem?.map Problem.toJson)]

end Affordance
