import Affordance.Number.Measure
import Affordance.Tool.Risk

/-!
# Settings

  * `Config`: what a user can set about tools, about the modules that are written and
    about the language model.  Every setting has a default.
-/

namespace Affordance

open Affordance.Number

/-! ## 1. Tools -/

/-- What happens to destructive tools. -/
inductive DestructiveMode where
  | exclude
  | includeWithWarning
  deriving Repr, DecidableEq

/-- The mode as settings write it. -/
def DestructiveMode.text : DestructiveMode → String
  | exclude => "exclude"
  | includeWithWarning => "include-with-warning"

/-- What happens to tools that navigate. -/
inductive NavigationMode where
  | exclude
  | include_
  deriving Repr, DecidableEq

/-- The mode as settings write it. -/
def NavigationMode.text : NavigationMode → String
  | exclude => "exclude"
  | include_ => "include"

/-- A level for tools in whose texts a word occurs. -/
structure WordRule where
  word : String
  risk : Risk
  deriving Repr, DecidableEq

/-- Keywords added to the rules. -/
structure ExtraKeywords where
  excluded : List String := []
  destructive : List String := []
  caution : List String := []
  deriving Repr, DecidableEq

/-- Settings about the levels of tools. -/
structure ToolSettings where
  /-- Patterns of names that are kept where the rules exclude them. -/
  include_ : List String := []
  /-- Patterns of names that are left out. -/
  exclude : List String := []
  destructive : DestructiveMode := .includeWithWarning
  navigation : NavigationMode := .exclude
  customRules : List WordRule := []
  keywords : ExtraKeywords := {}
  deriving Repr, DecidableEq

/-! ## 2. Modules and the language model -/

/-- The form of a written module. -/
inductive ModuleFormat where
  | iife
  | esm
  deriving Repr, DecidableEq

/-- The form as settings write it. -/
def ModuleFormat.text : ModuleFormat → String
  | iife => "iife"
  | esm => "esm"

/-- Settings about written modules. -/
structure OutputSettings where
  format : ModuleFormat := .iife
  fileExtension : String := ".mcp.js"
  deriving Repr, DecidableEq

/-- What writes handlers. -/
inductive BackendKind where
  | none_
  | openai
  deriving Repr, DecidableEq

/-- The backend as settings write it. -/
def BackendKind.text : BackendKind → String
  | none_ => "none"
  | openai => "openai"

/-- Settings about the language model. -/
structure ModelSettings where
  backend : Option BackendKind := none
  model : Option String := none
  temperature : Measure := .ofRat (mkRat 1 10)
  deriving DecidableEq

/-! ## 3. All settings -/

/-- All settings. -/
structure Config where
  tools : ToolSettings := {}
  output : OutputSettings := {}
  llm : ModelSettings := {}
  specVersion : String := "0.1"
  deriving DecidableEq

/-- The risk rules with the extra keywords. -/
def Config.rules (c : Config) : RiskKeywords :=
  RiskKeywords.standard.extended c.tools.keywords.excluded c.tools.keywords.destructive
    c.tools.keywords.caution

/-- The risk rules under settings that may be missing. -/
def rulesOf (c : Option Config) : RiskKeywords := (c.map Config.rules).getD .standard

end Affordance
