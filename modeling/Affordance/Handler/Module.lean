import Affordance.Config.Basic
import Affordance.Handler.Template

/-!
# Written modules

  * `moduleText`: a script that registers tools with the page, or a module that exports
    them.  Names, descriptions and parameters stand in it as JSON texts.
  * `helperLines`: the functions that handlers call.
  * `ModuleFormat.read`: the form of a module by its name.
-/

namespace Affordance

open Affordance.Text

/-! ## 1. Helpers -/

/-- The functions that handlers call, line by line. -/
def helperLines : List String := [
  "function __afcFind(selectors) \x7b",
  "  for (const sel of selectors) \x7b",
  "    try \x7b",
  "      const el = document.querySelector(sel);",
  "      if (el) return el;",
  "    \x7d catch (e) \x7b /* not a CSS selector */ \x7d",
  "  \x7d",
  "  throw new Error('Element not found matching any of: ' + selectors.join(', '));",
  "\x7d",
  "",
  "function __afcSetValue(selectors, value) \x7b",
  "  const el = __afcFind(selectors);",
  "  const proto = el instanceof HTMLTextAreaElement ? HTMLTextAreaElement.prototype : HTMLInputElement.prototype;",
  "  const setter = Object.getOwnPropertyDescriptor(proto, 'value')?.set;",
  "  if (setter) setter.call(el, value); else el.value = value;",
  "  el.dispatchEvent(new Event('input', \x7b bubbles: true \x7d));",
  "  el.dispatchEvent(new Event('change', \x7b bubbles: true \x7d));",
  "\x7d",
  "",
  "function __afcSetChecked(selectors, checked) \x7b",
  "  const el = __afcFind(selectors);",
  "  const setter = Object.getOwnPropertyDescriptor(HTMLInputElement.prototype, 'checked')?.set;",
  "  if (setter) setter.call(el, !!checked); else el.checked = !!checked;",
  "  el.dispatchEvent(new Event('change', \x7b bubbles: true \x7d));",
  "\x7d",
  "",
  "function __afcSetSelect(selectors, value) \x7b",
  "  const el = __afcFind(selectors);",
  "  el.value = value;",
  "  el.dispatchEvent(new Event('change', \x7b bubbles: true \x7d));",
  "\x7d",
  "",
  "function __afcClick(selectors) \x7b",
  "  __afcFind(selectors).click();",
  "\x7d"]

/-! ## 2. Layout -/

/-- Every line that is not empty moved to the right; line breaks of any kind become line
    feeds. -/
def indent (pad s : List Char) : List Char :=
  joinChars ['\n'] ((lines s).map fun l => if l.isEmpty then l else pad ++ l)

/-- A text without white space at its beginning. -/
def dropLead (s : List Char) : List Char := s.dropWhile isSpace

/-! ## 3. Modules -/

/-- The entry of a tool with the body of its handler. -/
def toolEntry (p : Proposal) (body : String) : List Char :=
  "\x7b\n".toList ++
  "  name: ".toList ++ (Json.quoteAscii p.name).toList ++ ",\n".toList ++
  "  description: ".toList ++ (Json.quote p.description).toList ++ ",\n".toList ++
  "  inputSchema: ".toList ++ (Json.render .spaced p.schema.toJson).toList ++ ",\n".toList ++
  "  handler: async (params) => \x7b\n".toList ++
  indent "    ".toList body.toList ++ "\n".toList ++
  "  \x7d,\n".toList ++
  "\x7d".toList

/-- The body of a tool's handler among some; an empty one counts as missing. -/
def bodyOf (bodies : List (String × String)) (p : Proposal) : String :=
  (nonEmpty (bodies.lookup p.name)).getD (templateHandler p)

/-- The list of tools. -/
def toolList (bodies : List (String × String)) (ps : List Proposal) : List Char :=
  "[\n".toList ++
  joinChars ",\n".toList (ps.map fun p => indent "  ".toList (toolEntry p (bodyOf bodies p))) ++
  "\n]".toList

/-- A module of tools. -/
def moduleText (format : ModuleFormat) (bodies : List (String × String)) (ps : List Proposal) :
    String :=
  let tools := toolList bodies ps
  let helpers := (join "\n" helperLines).toList
  match format with
  | .esm =>
    String.ofList ("\n".toList ++ helpers ++ "\n\nexport const tools = ".toList ++ tools ++
      ";\n".toList)
  | .iife =>
    String.ofList ("(function () \x7b\n".toList ++
      indent "  ".toList helpers ++ "\n\n".toList ++
      "  const tools = ".toList ++ dropLead (indent "  ".toList tools) ++ ";\n".toList ++
      "  if (window.mcp && typeof window.mcp.registerTool === 'function') \x7b\n".toList ++
      "    tools.forEach((t) => window.mcp.registerTool(t));\n".toList ++
      "  \x7d\n".toList ++
      "\x7d)();\n".toList)

/-- The form that a name stands for; of other names it is told that they are unknown. -/
def ModuleFormat.read : String → Except String ModuleFormat
  | "iife" => .ok .iife
  | "esm" => .ok .esm
  | s => .error ("unknown output format: " ++ quoted s)

end Affordance
