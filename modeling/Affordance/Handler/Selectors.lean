import Affordance.Json.Printer
import Affordance.Live.Matching

/-!
# Selectors that handlers try

  * `selectorsTried`: the selectors that a handler tries for an element, in order and
    without repetition: those found by comparing with a running page, or else those of
    the source.
  * `setCall`, `submitCall`: the calls that fill an input and press a trigger.
-/

namespace Affordance

open Affordance.Text

/-! ## 1. Lists of selectors -/

/-- The selectors of one way of finding an element; a role is none that a page
    understands. -/
def Selector.tries (s : Selector) : List String :=
  match s.strategy with
  | .label => [attributeSelector "aria-label" s.value, attributeSelector "placeholder" s.value]
  | .role => []
  | _ => [s.value]

namespace Element

/-- The selectors that the source yields. -/
def sourceTries (e : Element) : List String :=
  let attribute? (name : String) (value : Option String) : List String :=
    ((nonEmpty value).map (attributeSelector name)).toList
  attribute? "id" e.id ++
  attribute? "data-testid" (e.attribute? "data-testid") ++
  attribute? "data-mcp" (e.attribute? "data-mcp") ++
  (attribute? "name" e.name).map (e.tag.text ++ ·) ++
  attribute? "aria-label" e.ariaLabel

/-- The selector of last resort. -/
def lastTry (e : Element) : String :=
  match nonEmpty e.inputType with
  | some t => e.tag.text ++ "[type=\"" ++ t ++ "\"]"
  | none => e.tag.text

/-- The selectors that are tried for an element, in order. -/
def selectorsTried (e : Element) : List String :=
  let tries := match e.selectors with
    | some (s :: ss) => (s :: ss).flatMap Selector.tries
    | _ => e.sourceTries
  if tries.isEmpty then [e.lastTry] else tries.eraseDups

end Element

/-! ## 2. Calls -/

/-- A list of texts as code. -/
def codeList (xs : List String) : String := Json.render .spaced (.texts xs)

/-- The function that fills an input. -/
def Element.setFunction (e : Element) : String :=
  if e.tag = .select then "__afcSetSelect"
  else if e.inputType = some "checkbox" || e.inputType = some "radio" then "__afcSetChecked"
  else "__afcSetValue"

/-- The call that fills an input with the value of an expression. -/
def setCall (e : Element) (value : String) : String :=
  e.setFunction ++ "(" ++ codeList e.selectorsTried ++ ", " ++ value ++ ")"

/-- The selectors that are tried to press a trigger. -/
def Element.pressList (e : Element) : List String :=
  if e.tag = .form then e.selectorsTried.map (· ++ " [type=\"submit\"]") else e.selectorsTried

/-- The call that presses a trigger. -/
def submitCall (e : Element) : String := "__afcClick(" ++ codeList e.pressList ++ ")"

end Affordance
