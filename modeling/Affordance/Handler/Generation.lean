import Affordance.Handler.Cache
import Affordance.Handler.Prompt
import Affordance.Handler.Surface
import Affordance.Handler.Template
import Affordance.Model.Message

/-!
# Generating handlers

  * `generateHandler`: the body of a tool's handler: the one in the cache, or else what a
    writer answers, or else the template.  It is kept in the cache.
  * A writer's answer counts if it returns something; the template needs no writer.
-/

namespace Affordance

open Affordance.Text

/-! ## 1. Writing -/

/-- What a writer is asked for a tool. -/
def handlerInquiry (p : Proposal) (excerpt : Option String) (temperature : Temperature) :
    Inquiry where
  messages := [⟨"system", modelRole⟩, ⟨"user", handlerPrompt p excerpt⟩]
  temperature := temperature

/-- What is told when a writer fails. -/
def failedLine (p : Proposal) (f : WriterFault) : String :=
  "[skill.codegen] LLM failed for " ++ p.name ++ " (" ++ f.kind ++ ": " ++ f.message ++
  "); using template\n"

/-- What is told when an answer returns nothing. -/
def unreturnedLine (p : Proposal) : String :=
  "[skill.codegen] LLM body for " ++ p.name ++ " has no return; using template\n"

/-- The body that a writer's answer makes, or the template. -/
def bodyOfAnswer (p : Proposal) : Except WriterFault String → Told String
  | .error f => ⟨failedLine p f, templateHandler p⟩
  | .ok answer =>
    if contains (trim answer) "return" then .silent (trim answer)
    else ⟨unreturnedLine p, templateHandler p⟩

/-- The body of a tool's handler without a cache. -/
def writeBody (p : Proposal) (writer : Option Writer) (inquiry : Inquiry) : Told String :=
  match writer with
  | none => .silent (templateHandler p)
  | some w =>
    let answer := w inquiry
    (bodyOfAnswer p answer.value).after answer.log

/-! ## 2. Keeping -/

/-- A generated body with the cache and the disk that it leaves. -/
structure Generation where
  cache : BodyCache
  /-- The body and the disk, or why the body could not be kept. -/
  answer : Except Disk.FailedWrite (String × Disk)
  /-- What the writer was asked, if it was asked. -/
  asked : Option Inquiry := none

/-- What is told of a body in the cache. -/
def hitLine (p : Proposal) : String := "[skill.codegen] cache hit: " ++ p.name ++ "\n"

/-- A body put into the cache. -/
def keepBody (d : Disk) (c : BodyCache) (p : Proposal) (time : Int) (asked : Option Inquiry)
    (body : String) : Told Generation :=
  (c.set d p.surfaceKey body time).map fun (c, d) => ⟨c, d.map (body, ·), asked⟩

/-- The body of the handler of a tool whose surface has a digest. -/
def bodyFor (d : Disk) (c : BodyCache) (p : Proposal) (writer : Option Writer)
    (excerpt : Option String) (temperature : Temperature) (time : Int) : Told Generation :=
  let held := c.get d p.surfaceKey
  let (c, body?) := held.value
  match body? with
  | some body => ⟨held.log ++ hitLine p, ⟨c, .ok (body, d), none⟩⟩
  | none =>
    let inquiry := handlerInquiry p excerpt temperature
    let body := writeBody p writer inquiry
    (keepBody d c p time (writer.map fun _ => inquiry) body.value).after (held.log ++ body.log)

/-- The body of a tool's handler. A tool whose surface has no digest has no place in the cache, so
    nothing is written for it. -/
def generateHandler (d : Disk) (c : BodyCache) (p : Proposal) (writer : Option Writer)
    (excerpt : Option String) (temperature : Temperature) (time : Int) : Told Generation :=
  match p.surfaceFault? with
  | some f => .silent ⟨c, .error ⟨.noOctets f, d⟩, none⟩
  | none => bodyFor d c p writer excerpt temperature time

end Affordance
