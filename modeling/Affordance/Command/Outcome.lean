import Affordance.Command.Arguments
import Affordance.Instrument.Files
import Affordance.Model.Access

/-!
# What comes of a command

  * `Surroundings`: what a command finds: files, variables, a browser, the way to a language
    model, the time.
  * `CommandOutcome`: what a command leaves: what it printed, how it ended, and the files.
-/

namespace Affordance

open Affordance.Text

/-- What a command finds. -/
structure Surroundings where
  disk : Disk
  environment : Environment := []
  browser : Browser
  /-- A model as a writer, if there is a way to it. -/
  connect : Access → Option Writer := fun _ => none
  /-- The time in milliseconds. -/
  time : Int := 0

/-- What breaks a command off. -/
inductive Crash where
  | stop (s : Stop)
  | write (f : Disk.WriteFault)
  | access (f : AccessFault)
  /-- There is no way to the language model. -/
  | noClient

/-- Why a session has no live elements, as one line. -/
def ProbeFailure.message : ProbeFailure → String
  | fault f => f.line
  | address f => f.message
  | noList _ => "the page yields no list of elements"

/-- What stops the work on a source file, as one text. -/
def Stop.message : Stop → String
  | source (.problem p) => p.message
  | source (.rejected r) => r.message
  | source .noPath => Disk.noPathMessage
  | source (.noOctets f) => f.message
  | config (.problem p) => p.message
  | config (.noText f) => f.message
  | config (.longNumber n) => n.message
  | session f => f.message
  | identity f => f.message

/-- What breaks a command off, as one text. -/
def Crash.message : Crash → String
  | stop s => s.message
  | write f => f.message
  | access f => f.message
  | noClient => "there is no way to the language model"

/-- How a command ends. -/
inductive Exit where
  | code (n : Nat)
  | crash (c : Crash)

/-- What a command leaves. -/
structure CommandOutcome where
  output : String
  exit : Exit
  disk : Disk

namespace CommandOutcome

/-- A command that printed something and ended, the files as they were. -/
def printed (s : Surroundings) (output : String) (code : Nat) : CommandOutcome :=
  ⟨output, .code code, s.disk⟩

/-- A command that printed something and broke off, the files as they were. -/
def broken (s : Surroundings) (output : String) (c : Crash) : CommandOutcome :=
  ⟨output, .crash c, s.disk⟩

/-- A command that was stopped: by a problem that is shown, or in the middle. -/
def stopped (s : Surroundings) (output : String) (e : Stop) : CommandOutcome :=
  match e.problem? with
  | some p => printed s (output ++ p.shown ++ "\n") 1
  | none => broken s output (.stop e)

end CommandOutcome

/-- A command: what its help says, which arguments it understands, and what it does. -/
structure Command where
  help : List String
  grammar : Grammar
  work : Surroundings → Arguments → CommandOutcome

/-- A command with its arguments. -/
def Command.run (c : Command) (s : Surroundings) (args : List String) : CommandOutcome :=
  match c.grammar.read args with
  | .help => .printed s (join "\n" c.help ++ "\n") 0
  | .misuse => .printed s "" 2
  | .arguments a => c.work s a

/-- A JSON value as commands print it. -/
def printedJson (v : Json) : String := Json.render .indented v ++ "\n"

end Affordance
