import Affordance.Config.Basic
import Affordance.Text.Glob

/-!
# Levels under settings

  * `override`: the level of a tool after the settings.  A custom rule replaces the level;
    an excluding pattern excludes; an including pattern and the navigation mode lift an
    exclusion of the rules to caution; the destructive mode may exclude what is
    destructive.
-/

namespace Affordance

open Affordance.Text

/-- The first pattern that matches the name; an empty pattern counts as none. -/
def patternHit (name : String) (patterns : List String) : Option String :=
  nonEmpty (patterns.find? fun p => globMatches p name)

namespace Assessment

/-- The custom rule that applies to a tool. -/
def wordRule (rules : List WordRule) (name : String) (a : Assessment) : Option WordRule :=
  let text := join " " (a.signals ++ [toLower name])
  rules.find? fun r => r.word ≠ "" && contains text (toLower r.word)

/-- The level after the custom rules. -/
def afterRules (rules : List WordRule) (name : String) (a : Assessment) : Assessment :=
  match wordRule rules name a with
  | some r =>
    { a with
      risk := r.risk, reason := "Matches custom rule \"" ++ r.word ++ "\"", source := .custom }
  | none => a

/-- The level after an including pattern, which lifts an exclusion of the rules. -/
def afterInclude (patterns : List String) (name : String) (byRules : Bool) (a : Assessment) :
    Assessment :=
  match patternHit name patterns with
  | some p =>
    if byRules && a.risk = .excluded then
      { a with
        risk := .caution
        reason := "Included by config pattern \"" ++ p ++ "\" (" ++ a.reason ++ ")"
        source := .config }
    else a
  | none => a

/-- The level after the navigation mode. -/
def afterNavigation (mode : NavigationMode) (a : Assessment) : Assessment :=
  if mode = .include_ && a.risk = .excluded && a.source = .navigation then
    { a with risk := .caution, reason := "Navigation allowed by config (" ++ a.reason ++ ")" }
  else a

/-- The level after the destructive mode. -/
def afterDestructive (mode : DestructiveMode) (a : Assessment) : Assessment :=
  if mode = .exclude && a.risk = .destructive then
    { a with
      risk := .excluded
      reason := "Destructive tools excluded by config (" ++ a.reason ++ ")" }
  else a

/-- The level of a tool under settings about tools. -/
def under (t : ToolSettings) (name : String) (a : Assessment) : Assessment :=
  let out := a.afterRules t.customRules name
  match patternHit name t.exclude with
  | some p =>
    { out with
      risk := .excluded, reason := "Excluded by config pattern \"" ++ p ++ "\"", source := .config }
  | none =>
    let byRules := a.risk = .excluded && (wordRule t.customRules name a).isNone
    ((out.afterInclude t.include_ name byRules).afterNavigation t.navigation).afterDestructive
      t.destructive

/-- The level of a tool under settings that may be missing. -/
def override (c : Option Config) (name : String) (a : Assessment) : Assessment :=
  match c with
  | some c => a.under c.tools name
  | none => a

end Assessment

end Affordance
