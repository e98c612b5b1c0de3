import Affordance.Model.Access
import Affordance.Model.Message

/-!
# Asking a language model

  * `completeWith`: a model is asked until it answers, a limited number of times, with pauses
    between the attempts.
  * `complete`: the pause before an attempt is twice the pause before the one before, and
    cannot be doubled without end.
  * `clockRefusal`: which pauses the clock of a machine refuses.  A refused pause ends the
    attempts: `Access.clocked`.
  * `Completion`: the answer with all requests and pauses.
-/

namespace Affordance

open Affordance.Number
open Affordance.Text

/-- An inquiry as it is sent. -/
structure SentInquiry where
  model : String
  inquiry : Inquiry
  patience : Measure
  deriving DecidableEq

/-- What comes back: a text, nothing, or a fault. -/
abbrev Reply := Except WriterFault (Option String)

/-- An answer with all requests and pauses. -/
structure Completion (Pause : Type) where
  requests : List SentInquiry
  pauses : List Pause
  answer : Except WriterFault String

/-- The pauses between attempts. -/
structure Pauses (Pause : Type) where
  /-- The pause before the attempt that follows a number of failed ones, if there is one. -/
  after : Nat → Option Pause
  /-- A pause as it is told. -/
  told : Pause → String
  /-- Why the clock refuses a pause, if it does. -/
  refusal : Pause → Option WriterFault := fun _ => none

/-- The request of an inquiry. -/
def Access.request (a : Access) (q : Inquiry) : SentInquiry := ⟨a.model, q, a.patience⟩

/-- The number of attempts, one at least. -/
def Access.attempts (a : Access) : Nat := max 1 a.retries.toNat

/-- A measure doubled some times. -/
def doubled (m : Measure) (times : Nat) : Measure :=
  match m with
  | .value q => .ofRat (q * mkRat (Nat.pow 2 times) 1)
  | m => m

/-- Doublings that are not too many for a measure. -/
def mostDoublings : Nat := 1024

/-- What stops the attempts where the pause has been doubled too often. -/
def overdoubled : WriterFault := ⟨"OverflowError", "int too large to convert to float"⟩

/-- The seconds before the attempt that follows a number of failed ones; none after too
    many. -/
def Access.pauseAfter (a : Access) (failed : Nat) : Option Measure :=
  if failed < mostDoublings then some (doubled a.pause failed) else none

/-- The pauses of an access, in seconds, with a clock that takes them all. -/
def Access.pauses (a : Access) : Pauses Measure where
  after := a.pauseAfter
  told := (·.fixed 1)

/-- What a clock says of a pause that it cannot count. -/
def uncountable : WriterFault := ⟨"OverflowError", "timestamp out of range for platform time_t"⟩

/-- The nanoseconds that a clock counts, in 64 binary digits with a sign. -/
def countedNanoseconds : Rat := mkRat (Nat.pow 2 63) 1

/-- Why the clock of a machine refuses a pause in seconds: it cannot count so many nanoseconds, or
    would have to run backwards. -/
def clockRefusal : Measure → Option WriterFault
  | .undefined => some ⟨"ValueError", "Invalid value NaN (not a number)"⟩
  | .infinity _ => some uncountable
  | .minusZero => none
  | .value q =>
    let nanoseconds := nearest (q * 1000000000)
    if nanoseconds < -countedNanoseconds || countedNanoseconds ≤ nanoseconds then some uncountable
    else if q < 0 then some ⟨"ValueError", "sleep length must be non-negative"⟩
    else none

/-- The pauses of an access, in seconds, with the clock of a machine. -/
def Access.clocked (a : Access) : Pauses Measure := { a.pauses with refusal := clockRefusal }

/-- What is told of an answer. -/
def answeredLine (text : String) (attempt : Nat) : String :=
  "[llm] completion_len=" ++ toString text.length ++ " attempt=" ++ toString (attempt + 1) ++ "\n"

/-- What is told of a failed attempt that is followed by another one. -/
def retryLine (f : WriterFault) (pause : String) : String :=
  "[llm] error=" ++ f.kind ++ ": " ++ f.message ++ "; retry in " ++ pause ++ "s …\n"

/-- Attempts from a number on, of which some are left after it. -/
def completeFrom {Pause : Type} (ps : Pauses Pause) (a : Access) (q : Inquiry)
    (reply : Nat → Reply) : Nat → Nat → Told (Completion Pause)
  | attempt, left =>
    match reply attempt with
    | .ok text =>
      let text := trim (text.getD "")
      ⟨answeredLine text attempt, ⟨[a.request q], [], .ok text⟩⟩
    | .error f =>
      match left with
      | 0 => .silent ⟨[a.request q], [], .error f⟩
      | left + 1 =>
        match ps.after attempt with
        | none => .silent ⟨[a.request q], [], .error overdoubled⟩
        | some pause =>
          match ps.refusal pause with
          | some r => ⟨retryLine f (ps.told pause), ⟨[a.request q], [], .error r⟩⟩
          | none =>
            let later := completeFrom ps a q reply (attempt + 1) left
            ⟨retryLine f (ps.told pause) ++ later.log,
              ⟨a.request q :: later.value.requests, pause :: later.value.pauses,
                later.value.answer⟩⟩
termination_by _ left => left

/-- The number of characters that a model is asked with. -/
def Inquiry.size (q : Inquiry) : Nat := q.messages.foldl (fun n m => n + m.content.length) 0

/-- What is told of a request. -/
def askedLines (a : Access) (q : Inquiry) : String :=
  "[llm] model=" ++ a.model ++ " base_url=" ++ a.baseUrl.getD "openai-default" ++ "\n" ++
  "[llm] prompt_chars=" ++ toString q.size ++ " temperature=" ++ q.temperature.text ++ "\n"

/-- The answer of a model that replies to each attempt, with given pauses. -/
def completeWith {Pause : Type} (ps : Pauses Pause) (a : Access) (q : Inquiry)
    (reply : Nat → Reply) : Told (Completion Pause) :=
  (completeFrom ps a q reply 0 (a.attempts - 1)).after (askedLines a q)

/-- The answer of a model that replies to each attempt, where every pause is taken. -/
def complete (a : Access) (q : Inquiry) (reply : Nat → Reply) : Told (Completion Measure) :=
  completeWith a.pauses a q reply

/-- The model as a writer. -/
def Access.writer (a : Access) (reply : Inquiry → Nat → Reply) : Writer :=
  fun q => (completeWith a.clocked a q (reply q)).map (·.answer)

end Affordance
