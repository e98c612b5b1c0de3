import Affordance.Config.Basic
import Affordance.Json.Decode
import Affordance.Problem

/-!
# Reading settings

  * `Config.ofJson`: settings from a JSON value.  A key may be written with humps or with
    underscores, the one with humps wins; unknown keys are passed over.  The first misfit
    is reported.
  * `Config.toJson`: settings as JSON, every field written.
-/

namespace Affordance

open Affordance.Json

/-! ## 1. Reading -/

/-- The levels as settings write them. -/
def riskChoices : List (String × Risk) :=
  [Risk.safe, .caution, .destructive, .excluded].map fun r => (r.text, r)

/-- A custom rule. -/
def decodeRule : Json → Decoded WordRule :=
  decodeRecord "CustomRule" fun fs =>
    WordRule.mk <$> field "match" decodeText fs <*> field "risk" (decodeChoice riskChoices) fs

/-- Extra keywords. -/
def decodeKeywords : Json → Decoded ExtraKeywords :=
  decodeRecord "KeywordExtras" fun fs =>
    ExtraKeywords.mk <$> fieldOr ["excluded"] [] (decodeList decodeText) fs
      <*> fieldOr ["destructive"] [] (decodeList decodeText) fs
      <*> fieldOr ["caution"] [] (decodeList decodeText) fs

/-- The treatments of destructive tools. -/
def destructiveChoices : List (String × DestructiveMode) :=
  [DestructiveMode.exclude, .includeWithWarning].map fun m => (m.text, m)

/-- The treatments of tools that navigate. -/
def navigationChoices : List (String × NavigationMode) :=
  [NavigationMode.exclude, .include_].map fun m => (m.text, m)

/-- Settings about tools. -/
def decodeTools : Json → Decoded ToolSettings :=
  decodeRecord "ClassificationConfig" fun fs =>
    ToolSettings.mk <$> fieldOr ["include"] [] (decodeList decodeText) fs
      <*> fieldOr ["exclude"] [] (decodeList decodeText) fs
      <*> fieldOr ["destructive"] .includeWithWarning (decodeChoice destructiveChoices) fs
      <*> fieldOr ["navigation"] .exclude (decodeChoice navigationChoices) fs
      <*> fieldOr ["customRules", "custom_rules"] [] (decodeList decodeRule) fs
      <*> fieldOr ["keywords"] {} decodeKeywords fs

/-- The forms of modules. -/
def formatChoices : List (String × ModuleFormat) :=
  [ModuleFormat.iife, .esm].map fun f => (f.text, f)

/-- Settings about modules. -/
def decodeOutput : Json → Decoded OutputSettings :=
  decodeRecord "OutputConfig" fun fs =>
    OutputSettings.mk <$> fieldOr ["format"] .iife (decodeChoice formatChoices) fs
      <*> fieldOr ["fileExtension", "file_extension"] ".mcp.js" decodeText fs

/-- The backends. -/
def backendChoices : List (String × BackendKind) :=
  [BackendKind.none_, .openai].map fun b => (b.text, b)

/-- A backend or null. -/
def decodeBackend : Json → Decoded (Option BackendKind)
  | null => .fits none
  | v => (decodeChoice backendChoices v).map some

/-- Settings about the language model. -/
def decodeModel : Json → Decoded ModelSettings :=
  decodeRecord "LLMSettings" fun fs =>
    ModelSettings.mk <$> fieldOr ["backend"] none decodeBackend fs
      <*> fieldOr ["model"] none decodeText? fs
      <*> fieldOr ["temperature"] ({} : ModelSettings).temperature decodeMeasure fs

/-- All settings. -/
def decodeConfig (fs : List (String × Json)) : Decoded Config :=
  Config.mk <$> fieldOr ["classification"] {} decodeTools fs
    <*> fieldOr ["output"] {} decodeOutput fs
    <*> fieldOr ["llm"] {} decodeModel fs
    <*> fieldOr ["specVersion", "spec_version"] "0.1" decodeText fs

namespace Config

/-- Settings from a JSON value; null stands for the defaults. -/
def ofJson (source : String) : Json → Except Problem Config
  | null => .ok {}
  | .obj fields =>
    (decodeConfig fields).firstMisfit.mapError fun m =>
      .configInvalid source (m.at_ ++ ": " ++ m.message)
  | _ => .error (.configInvalid source "config root must be a JSON object")

/-! ## 2. Writing -/

/-- Settings as JSON. -/
def toJson (c : Config) : Json :=
  let t := c.tools
  .obj [
    ("classification", .obj [
      ("include", .texts t.include_), ("exclude", .texts t.exclude),
      ("destructive", .str t.destructive.text), ("navigation", .str t.navigation.text),
      ("custom_rules", .arr (t.customRules.map fun r =>
        .obj [("match", .str r.word), ("risk", .str r.risk.text)])),
      ("keywords", .obj [
        ("excluded", .texts t.keywords.excluded), ("destructive", .texts t.keywords.destructive),
        ("caution", .texts t.keywords.caution)])]),
    ("output", .obj [
      ("format", .str c.output.format.text), ("file_extension", .str c.output.fileExtension)]),
    ("llm", .obj [
      ("backend", .ofText? (c.llm.backend.map (·.text))), ("model", .ofText? c.llm.model),
      ("temperature", .num c.llm.temperature)]),
    ("spec_version", .str c.specVersion)]

end Config

end Affordance
