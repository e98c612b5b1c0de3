import Affordance.Text.Basic

/-!
# Problems

  * `Notice`: what a user is told about a problem: a code for programs, a message for
    people, perhaps a suggestion and the file in question.
  * `Problem`: the problems a source or a configuration can have, each with its notice.
  * `display`: a problem as the command line shows it.
-/

namespace Affordance

open Affordance.Text

/-! ## 1. Notices -/

/-- What a user is told about a problem. -/
structure Notice where
  code : String
  message : String
  suggestion : Option String
  fileName : Option String
  deriving Repr, DecidableEq

/-- A notice on one line. -/
def Notice.line (n : Notice) : String :=
  let base := "[" ++ n.code ++ "] " ++ n.message
  match n.fileName with
  | none => base
  | some f => if f = "" then base else base ++ " (file=" ++ f ++ ")"

/-- A message with its suggestion, as the command line shows a problem. -/
def display (message : String) (suggestion : Option String) : String :=
  let base := "\n✖ " ++ message
  match suggestion with
  | none => base
  | some s => if s = "" then base else base ++ "\n  → " ++ s

/-! ## 2. Problems -/

/-- What is wrong with a source or a configuration. -/
inductive Problem where
  | unsupportedType (fileName extension : String) (supported : List String)
  | parseFailed (fileName detail : String)
  | notFound (path : String)
  | configInvalid (source detail : String)
  deriving Repr, DecidableEq

namespace Problem

/-- The code of a problem. -/
def code : Problem → String
  | unsupportedType .. => "UNSUPPORTED_TYPE"
  | parseFailed .. => "PARSE_FAILED"
  | notFound _ => "FILE_NOT_FOUND"
  | configInvalid .. => "CONFIG_INVALID"

/-- The wording of a problem. -/
def message : Problem → String
  | unsupportedType _ ext _ =>
    "File type \"" ++ (if ext = "" then "(none)" else ext) ++ "\" is not supported."
  | parseFailed file detail => "Could not parse " ++ file ++ ": " ++ detail
  | notFound path => "Could not read file: " ++ path
  | configInvalid source detail => "Invalid configuration in " ++ source ++ ": " ++ detail

/-- What a user can do about a problem. -/
def suggestion : Problem → String
  | unsupportedType _ _ supported => "Supported types: " ++ join ", " supported
  | parseFailed .. =>
    "Make sure the file contains valid .html, .tsx, .jsx or .vue source code."
  | notFound _ => "Check the path and try again."
  | configInvalid .. => "Fix or remove the offending keys; every field is optional."

/-- The file that has the problem. -/
def fileName : Problem → String
  | unsupportedType file _ _ => file
  | parseFailed file _ => file
  | notFound path => path
  | configInvalid source _ => source

/-- What a user is told about a problem. -/
def notice (p : Problem) : Notice := ⟨p.code, p.message, some p.suggestion, some p.fileName⟩

/-- A problem as the command line shows it. -/
def shown (p : Problem) : String := display p.message (some p.suggestion)

end Problem

/-- What a user is told when a file offers nothing to act on. -/
def nothingFound (fileName : String) : String :=
  "No forms, buttons, or interactive elements found in " ++ fileName ++
  ". Nothing went wrong; try pointing at a specific page or form component."

end Affordance
