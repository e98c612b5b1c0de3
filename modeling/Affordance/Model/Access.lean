import Affordance.Model.Environment
import Affordance.Number.Measure
import Affordance.Text.Case

/-!
# Access to a language model

  * `Access`: which model is asked, with which key, where, how often and how patiently.
  * `Access.of`: access as an environment grants it.
  * `Backend.detect`: whether handlers are written by a model at all.
-/

namespace Affordance

open Affordance.Number
open Affordance.Text

/-! ## 1. Access -/

/-- Access to a language model. -/
structure Access where
  model : String
  key : String
  baseUrl : Option String
  retries : Int
  /-- The seconds before the second attempt. -/
  pause : Measure
  /-- The seconds that an answer may take. -/
  patience : Measure
  deriving DecidableEq

/-- Why there is no access. -/
inductive AccessFault where
  | noKey
  | unknownBackend (name : String)
  /-- The number of attempts is infinite. -/
  | endless
  /-- The number of attempts is no number. -/
  | uncounted
  /-- The file of variables cannot be used. -/
  | environment (f : VariableFault)
  deriving Repr, DecidableEq

/-- The model that is asked by default. -/
def defaultModel : String := "gpt-4o-mini"

/-- The names of the backends. -/
def backendNames : List String := ["none", "openai"]

/-- The wording of a fault. -/
def AccessFault.message : AccessFault → String
  | noKey => "AFC_LLM_API_KEY (or OPENAI_API_KEY) is not set"
  | unknownBackend name =>
    "unknown LLM backend \"" ++ name ++ "\" (valid: " ++ join ", " backendNames ++ ")"
  | endless => "cannot convert float infinity to integer"
  | uncounted => "cannot convert float NaN to integer"
  | environment f => f.message

/-! ## 2. Environments -/

/-- A number as a variable gives it; one that cannot be read has its default. -/
def Environment.measureOr (env : Environment) (name : String) (d : Measure) : Measure :=
  ((env.lookup name).bind fun s => Measure.read? s.toList).getD d

/-- A measure without its fraction. -/
def wholePart : Measure → Except AccessFault Int
  | .value q => .ok (q.num.tdiv q.den)
  | .minusZero => .ok 0
  | .infinity _ => .error .endless
  | .undefined => .error .uncounted

/-- The model that an environment names. -/
def Environment.modelName (env : Environment) (model : Option String) : String :=
  (nonEmpty model).getD
    ((nonEmpty (some (trim (env.valueOr "AFC_LLM_MODEL" "")))).getD defaultModel)

/-- The key that an environment holds. -/
def Environment.accessKey (env : Environment) : String :=
  trim ((nonEmpty (env.lookup "AFC_LLM_API_KEY")).getD (env.valueOr "OPENAI_API_KEY" ""))

namespace Access

/-- Access by the variables of an environment. -/
def ofVariables (env : Environment) (model : Option String) : Except AccessFault Access := do
  return {
    model := env.modelName model
    key := env.accessKey
    baseUrl := nonEmpty (some (trim (env.valueOr "AFC_LLM_BASE_URL" "")))
    retries := ← wholePart (env.measureOr "AFC_LLM_MAX_RETRIES" (.value 2))
    pause := env.measureOr "AFC_LLM_RETRY_BASE_SEC" (.value (mkRat 3 2))
    patience := env.measureOr "AFC_LLM_REQUEST_TIMEOUT" (.value 60) }

/-- Access by an environment and its file of variables. -/
def of (env : Environment) (d : Disk) (model : Option String) : Except AccessFault Access := do
  ofVariables (← (env.withFile d).mapError .environment) model

/-- Without a key there is no access. -/
def validate (a : Access) : Except AccessFault Unit :=
  if a.key = "" then .error .noKey else .ok ()

end Access

/-! ## 3. Backends -/

/-- Who writes handlers. -/
inductive Backend where
  /-- Nobody: every handler is a template. -/
  | none
  | model (a : Access)
  deriving DecidableEq

namespace Backend

/-- The backend as it is named. -/
def name : Backend → String
  | none => "none"
  | model _ => "openai"

/-- A model that has been validated. -/
def ofAccess (a : Access) : Except AccessFault Backend := do
  a.validate
  return model a

/-- The backend of an explicit name or, without one, the one that the environment allows. -/
def detect (env : Environment) (d : Disk) (explicit model : Option String) :
    Except AccessFault Backend :=
  match nonEmpty explicit with
  | some name =>
    match toLower (trim name) with
    | "none" => .ok none
    | "openai" => do ofAccess (← Access.of env d model)
    | _ => .error (.unknownBackend name)
  | Option.none => do
    let a ← Access.of env d model
    return if a.key = "" then none else .model a

/-- The wording of a request to write without a model. -/
def silence : String :=
  "the 'none' backend does not generate text; use the template handler"

end Backend

end Affordance
