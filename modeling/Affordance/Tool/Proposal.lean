import Affordance.Config.Overrides
import Affordance.Tool.Stability

/-!
# Proposed tools

  * `Proposal`: a tool that an agent may be given, with what its code is written from.
  * `propose`: the proposals of an analysis.  Excluded candidates are left out, equal
    names are told apart, and what is destructive or unstable is not selected.  Whoever asks
    for them is given none if one has no identity: `Candidate.idFault?`.
-/

namespace Affordance

open Affordance.Text

/-! ## 1. Proposals -/

/-- A tool that an agent may be given. -/
structure Proposal where
  /-- The place in the list of proposals, counted from one. -/
  index : Nat
  id : String
  name : String
  description : String
  risk : Risk
  riskReason : String
  /-- Whether the tool is stable; none where that was not assessed. -/
  isStable : Option Bool
  stabilityReason : Option String
  selected : Bool
  schema : InputSchema
  /-- The elements and the handler that the tool stands for. -/
  candidate : Candidate
  deriving DecidableEq

/-- A candidate with its name before equal names are told apart, and its level. -/
structure Assessed where
  candidate : Candidate
  name : String
  assessment : Assessment

/-- A candidate assessed under settings. -/
def Candidate.assess (config : Option Config) (c : Candidate) : Assessed where
  candidate := c
  name := c.name
  assessment := (Risk.classify (rulesOf config) c.trigger c.handler).override config c.name

/-- The proposal of an assessed candidate. -/
def Assessed.proposal (a : Assessed) (assessStability : Bool) (index : Nat) (name : String) :
    Proposal :=
  let c := a.candidate
  let reason := if assessStability then c.instability .standard else none
  { index, id := c.id, name, description := c.description
    risk := a.assessment.risk, riskReason := a.assessment.reason
    isStable := if assessStability then some reason.isNone else none
    stabilityReason := reason
    selected := a.assessment.risk ≠ .destructive && reason.isNone
    schema := InputSchema.of c.inputs
    candidate := c }

/-! ## 2. All proposals -/

/-- The proposals of assessed candidates that are not excluded, given the names taken and
    the next index. -/
def proposalsFrom (assessStability : Bool) : List String → Nat → List Assessed → List Proposal
  | _, _, [] => []
  | taken, index, a :: rest =>
    if a.assessment.risk = .excluded then proposalsFrom assessStability taken index rest
    else
      let name := fresh a.name taken
      a.proposal assessStability index name ::
        proposalsFrom assessStability (taken ++ [name]) (index + 1) rest

/-- The assessed candidates of components. -/
def assessedOf (config : Option Config) (components : List Component) : List Assessed :=
  (components.flatMap candidates).map (Candidate.assess config)

/-- The proposals of components, where each of them has an identity.  That is not asked here:
    `instrument` and `fileResult` stop at the first proposal of this list that has an `idFault?`,
    and what is proved about the list is about what they return where there is none. -/
def propose (config : Option Config) (assessStability : Bool) (components : List Component) :
    List Proposal :=
  proposalsFrom assessStability [] 1 (assessedOf config components)

/-! ## 3. What is told -/

/-- What is told about a candidate that is left out. -/
def droppedLine (a : Assessed) : String :=
  "[skill.build] drop " ++ a.name ++ ": " ++ a.assessment.reason ++ "\n"

/-- What is told about the proposals of a file. -/
def proposalLines (assessed : List Assessed) (proposals : List Proposal) (fileName : String) :
    String :=
  join "" ((assessed.filter (·.assessment.risk = .excluded)).map droppedLine) ++
  "[skill.build] proposals: " ++ toString proposals.length ++ " (file=" ++ fileName ++ ")\n"

namespace Proposal

/-- A proposal as JSON. -/
def toJson (p : Proposal) : Json := .compactObj [
  ("index", some (.int p.index)), ("id", some (.str p.id)), ("name", some (.str p.name)),
  ("description", some (.str p.description)), ("risk", some (.str p.risk.text)),
  ("risk_reason", some (.str p.riskReason)), ("is_stable", p.isStable.map Json.bool),
  ("stability_reason", p.stabilityReason.map Json.str), ("selected", some (.bool p.selected)),
  ("input_schema", some p.schema.toJson)]

end Proposal

end Affordance
