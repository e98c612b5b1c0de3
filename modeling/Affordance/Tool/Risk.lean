import Affordance.Surface.Element
import Affordance.Text.Case

/-!
# The risk of a tool

  * `Risk`: how much harm a tool can do, from safe to excluded.
  * `classify`: the rules are asked from the most severe to the mildest, and the first
    that applies decides.  A rule looks for keywords in what the trigger and the handler
    say, or at the requests the handler makes.
-/

namespace Affordance

open Affordance.Text
open Affordance.Script

/-! ## 1. Levels -/

/-- How much harm a tool can do. -/
inductive Risk where
  | safe
  | caution
  | destructive
  | excluded
  deriving Repr, DecidableEq

/-- The level as it is reported. -/
def Risk.text : Risk → String
  | safe => "safe"
  | caution => "caution"
  | destructive => "destructive"
  | excluded => "excluded"

/-- The place of the level in the order of severity. -/
def Risk.severity : Risk → Nat
  | safe => 0
  | caution => 1
  | destructive => 2
  | excluded => 3

/-- What decided about a level. -/
inductive RiskSource where
  | navigation
  | fileUpload
  | destructive
  | mutation
  | http
  | default_
  | custom
  | config
  deriving Repr, DecidableEq

/-- The source as it is reported. -/
def RiskSource.text : RiskSource → String
  | navigation => "navigation"
  | fileUpload => "file-upload"
  | destructive => "destructive"
  | mutation => "mutation"
  | http => "http"
  | default_ => "default"
  | custom => "custom"
  | config => "config"

/-- A level with its reason. -/
structure Assessment where
  risk : Risk
  reason : String
  keyword : Option String := none
  source : RiskSource := .default_
  /-- The texts that the rules looked at. -/
  signals : List String := []
  deriving Repr, DecidableEq

/-! ## 2. Rules -/

/-- The keywords of each rule. -/
structure RiskKeywords where
  navigation : List String
  fileUpload : List String
  destructive : List String
  caution : List String
  deriving Repr, DecidableEq

namespace RiskKeywords

/-- The rules without any settings. -/
def standard : RiskKeywords where
  navigation := ["navigate", "redirect", "route", "link", "href", "goto"]
  fileUpload := ["file-upload", "upload-file"]
  destructive := ["delete", "remove", "destroy", "drop", "purge", "erase", "revoke", "terminate",
    "cancel", "unsubscribe", "deactivate", "reset", "wipe", "clear-all"]
  caution := ["update", "edit", "modify", "change", "save", "submit", "post", "put", "patch",
    "send", "publish", "create", "toggle", "enable", "disable", "set"]

/-- Keywords as rules hold them: in small letters, blank ones left out. -/
def keywords (xs : List String) : List String :=
  (xs.filter fun x => trim x ≠ "").map toLower

/-- The rules with more keywords. -/
def extended (r : RiskKeywords) (excluded destructive caution : List String) : RiskKeywords where
  navigation := r.navigation ++ keywords excluded
  fileUpload := r.fileUpload
  destructive := r.destructive ++ keywords destructive
  caution := r.caution ++ keywords caution

end RiskKeywords

/-! ## 3. The cascade -/

namespace Risk

/-- The texts among some that may be missing, in small letters. -/
def spoken (xs : List (Option String)) : List String := (xs.filterMap nonEmpty).map toLower

/-- What a trigger and a handler say. -/
def signals (trigger : Option Element) (handler : Option Handler) : List String :=
  (trigger.map fun t => spoken [t.label, t.name, t.id]).getD [] ++
  (handler.map fun h => spoken [some h.name, h.body]).getD []

/-- The first keyword that occurs in the text. -/
def firstKeyword (text : String) (keywords : List String) : Option String :=
  keywords.find? fun k => k ≠ "" && contains text k

/-- The methods of a handler's requests. -/
def methods (handler : Option Handler) : List String :=
  (handler.map fun h => h.requests.map fun r => toUpper r.method).getD []

/-- The methods that change what is stored. -/
def writingMethods : List String := ["POST", "PUT", "PATCH"]

/-- The level of a keyword. -/
def byKeyword (risk : Risk) (words : String) (source : RiskSource) (k : String) : Assessment :=
  { risk, reason := words ++ " \"" ++ k ++ "\"", keyword := some k, source }

/-- The level of a handler's requests. -/
def byRequest (risk : Risk) (words : String) : Assessment :=
  { risk, reason := "Handler makes " ++ words ++ " API call", source := .http }

/-- The level that the rules give to some text and some requests. -/
def cascade (rules : RiskKeywords) (text : String) (methods : List String) : Assessment :=
  match firstKeyword text rules.navigation with
  | some k => byKeyword .excluded "Matches excluded pattern:" .navigation k
  | none =>
  match firstKeyword text rules.fileUpload with
  | some k => byKeyword .excluded "Matches excluded pattern:" .fileUpload k
  | none =>
  match firstKeyword text rules.destructive with
  | some k => byKeyword .destructive "Contains destructive keyword:" .destructive k
  | none =>
  if methods.contains "DELETE" then byRequest .destructive "DELETE"
  else match firstKeyword text rules.caution with
  | some k => byKeyword .caution "Contains mutation keyword:" .mutation k
  | none =>
  if methods.any writingMethods.contains then byRequest .caution (join ", " methods)
  else { risk := .safe, reason := "No mutation or destructive signals detected" }

/-- The level of a tool. -/
def classify (rules : RiskKeywords) (trigger : Option Element) (handler : Option Handler) :
    Assessment :=
  let signals := signals trigger handler
  { cascade rules (join " " signals) (methods handler) with signals }

end Risk

end Affordance
