import Affordance.Script.Literal
import Affordance.Text.Pattern

/-!
# Requests that script text makes

  * `requests`: the calls to a server in a function body, in the order of the text,
    with method and address.  Two forms are known: a fetching function with its
    options, and a method of a client object that is named after the verb.
-/

namespace Affordance.Script

open Affordance.Text
open Affordance.Text.Pattern

/-- A call to a server. -/
structure Request where
  method : String
  url : String
  deriving Repr, DecidableEq

/-- One of the three quotes. -/
def isQuote (c : Char) : Bool := c == '\'' || c == '"' || c == '`'

/-- An address between quotes. -/
def quotedAddress : Pattern :=
  group "quote" (one isQuote) ++ group "url" (run fun c => !isQuote c) ++ again "quote"

/-- A call of a fetching function. -/
def fetchCall : Pattern :=
  notAfter (fun c => isNameChar c || c == '.') ++ words ["fetch", "$fetch", "ofetch"] ++
  space ++ char '(' ++ space ++ quotedAddress

/-- One of the texts with letter case ignored. -/
def anyOf : List String → Pattern
  | [] => one (fun _ => false)
  | [w] => litAnyCase w
  | w :: rest => alt (litAnyCase w) (anyOf rest)

/-- Objects that send requests. -/
def clientNames : List String :=
  ["axios", "api", "http", "client", "apiClient", "$http", "ky", "request"]

/-- Methods that are named after what they send. -/
def verbNames : List String := ["get", "post", "put", "patch", "delete"]

/-- A call of a client's method. -/
def verbCall : Pattern :=
  notAfter (fun c => isNameChar c || c == '.') ++ anyOf clientNames ++ char '.' ++
  group "method" (anyOf verbNames) ++ space ++
  opt (char '<' ++ run (fun c => !(c == '>' || c == '(' || c == ')')) ++ char '>') ++ space ++
  char '(' ++ space ++ quotedAddress

/-- The method among the options of a fetching call. -/
def methodOption : Pattern :=
  lit "method" ++ space ++ char ':' ++ space ++ group "quote" (one isQuote) ++
  group "method" (runs isLetterAscii) ++ again "quote"

/-- The request of a fetching call; a call without a method option reads. -/
def fetchRequest (src : Source) (m : Match) : Request :=
  let args := match src.findChar '(' m.start with
    | some j => j + 1
    | none => 0
  let stop := skip src [')'] args
  match methodOption.searchIn src m.stop stop with
  | some o => ⟨toUpper (o.text "method"), m.text "url"⟩
  | none => ⟨"GET", m.text "url"⟩

/-- The request of a client's method. -/
def verbRequest (m : Match) : Request := ⟨toUpper (m.text "method"), m.text "url"⟩

/-- Texts in the order of their positions; equal positions keep their order. -/
def inOrder {α : Type} (found : List (Nat × α)) : List α :=
  (found.mergeSort fun a b => a.1 ≤ b.1).map (·.2)

/-- The calls to a server in a function body. -/
def requests (body : String) : List Request :=
  let src := Source.of body
  inOrder ((fetchCall.findAll src).map (fun m => (m.start, fetchRequest src m)) ++
    (verbCall.findAll src).map (fun m => (m.start, verbRequest m)))

end Affordance.Script
