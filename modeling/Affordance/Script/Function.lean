import Affordance.Script.Literal
import Affordance.Text.Pattern

/-!
# Functions in script text

  * `functionAt`: a function expression at a position, an arrow function or one
    with the keyword; its body is a block or an expression.
  * `methodAt`: parameters and a block at a position.
  * `definitionOf`: the body of a function of a given name, declared anywhere in a
    text.  Five forms of declaration are looked for one after the other, each from
    the beginning of the text; a mere function type is no definition.
-/

namespace Affordance.Script

open Affordance.Text
open Affordance.Text.Pattern

/-- A function that was read: its body, whether it is asynchronous, and where it ends. -/
structure FunctionText where
  body : String
  isAsync : Bool
  stop : Nat
  deriving Repr, DecidableEq

/-! ## 1. Function expressions -/

/-- What may stand before the parameters: `async`, the keyword with a name, type
    parameters. -/
def functionHead : Pattern :=
  space ++
  opt (group "async" (lit "async" ++ wordEdge ++ space)) ++
  opt (group "keyword"
    (lit "function" ++ wordEdge ++ space ++ opt (char '*') ++ space ++ run isNameChar ++ space)) ++
  opt (char '<' ++ run (fun c => !(c == '<' || c == '>' || c == '(' || c == ')')) ++ char '>') ++
  space

/-- The position after the return type that a colon at the position begins. -/
def passReturnType (src : Source) : Nat → Nat → Nat
  | 0, k => k
  | n + 1, k =>
    if k < src.size then
      let k := skip src ['{', '='] k
      if src.size ≤ k || src[k]? == some '{' || src.at_ k ['=', '>'] then k
      else passReturnType src n (k + 1)
    else k

/-- The position after white space and an optional return type. -/
def afterParameters (src : Source) (i : Nat) : Nat :=
  let j := src.passSpace i
  if src[j]? == some ':' then src.passSpace (passReturnType src (src.size + 1) (j + 1))
  else src.passSpace j

/-- The position after the parameters that follow a function's head, if there are any;
    a lone name is enough where no keyword stands. -/
def passParameters (src : Source) (j : Nat) (needsParens : Bool) :
    Except BracketFault (Option Nat) :=
  if src[j]? == some '(' then do
    let close ← partner src j
    return some (close + 1)
  else if needsParens then .ok none
  else match src[j]? with
    | some c => .ok (if isNameStart c then some (src.passWhile isNameChar (j + 1)) else none)
    | none => .ok none

/-- The function at the position, an arrow function or one with the keyword, or with
    `allowMethod` bare parameters and a block. -/
def functionAt (src : Source) (i : Nat) (allowMethod : Bool) :
    Except BracketFault (Option FunctionText) := do
  match functionHead.matchAt src i with
  | none => return none
  | some m =>
    let isAsync := m.has "async"
    let isBlock := m.has "keyword" || allowMethod
    match ← passParameters src m.stop isBlock with
    | none => return none
    | some j =>
      let j := afterParameters src j
      let isArrow := src.at_ j ['=', '>']
      if !isArrow && !isBlock then return none
      let j := if isArrow then src.passSpace (j + 2) else j
      if src[j]? == some '{' then
        let close ← partner src j
        return some ⟨src.text j (close + 1), isAsync, min (close + 1) src.size⟩
      else if !isArrow then return none
      else
        let stop := skip src [';', ',', '\n'] j
        return some ⟨String.ofList (strip (src.slice j stop)), isAsync, stop⟩

/-! ## 2. Methods -/

/-- The parameters and the block at the position. -/
def methodAt (src : Source) (i : Nat) : Except BracketFault (Option FunctionText) := do
  let j := src.passSpace i
  let j :=
    if src[j]? == some '<' then
      match src.findChar '>' j with
      | some k => k + 1
      | none => src.size
    else j
  if src[j]? == some '(' then
    let close ← partner src j
    let j := src.passSpace (close + 1)
    let j := if src[j]? == some ':' then skip src ['{'] (j + 1) else j
    if src[j]? == some '{' then
      let last ← partner src j
      return some ⟨src.text j (last + 1), false, last + 1⟩
    else return none
  else return none

/-! ## 3. Declarations -/

/-- No part of a longer name or member access stands before this position. -/
def notInName : Pattern := notAfter fun c => isNameChar c || c == '.'

/-- Blanks that indent a line. -/
def indent : Pattern := lineStart ++ run fun c => c == ' ' || c == '\t'

/-- A type annotation up to the equals sign. -/
def annotation : Pattern := opt (char ':' ++ runs fun c => !(c == '=' || c == '\n'))

/-- Access modifiers, each with white space after it. -/
def modifiers (ws : List String) : Pattern := many (words ws ++ space1)

/-- A form of declaration: how it begins, up to the function itself, and whether the
    function is bare parameters and a block. -/
structure DeclarationForm where
  head : Pattern
  isMethod : Bool

/-- The forms in which a function of the name can be declared, in order of preference. -/
def declarationForms (name : String) : List DeclarationForm := [
  -- `function name(`
  ⟨notInName ++ opt (group "async" (lit "async" ++ space1)) ++ lit "function" ++ space ++
    opt (char '*') ++ space ++ lit name ++ space ++ ahead (one fun c => c == '(' || c == '<'), true⟩,
  -- `const name =`, perhaps wrapped in a callback hook
  ⟨wordEdge ++ words ["const", "let", "var"] ++ space1 ++ lit name ++ space ++ annotation ++
    char '=' ++ space ++
    opt (opt (lit "React.") ++ lit "useCallback" ++ space ++ char '(' ++ space), false⟩,
  -- a class field
  ⟨indent ++ modifiers ["public", "private", "protected", "static", "readonly"] ++ lit name ++
    space ++ annotation ++ char '=' ++ notAhead (one fun c => c == '=' || c == '>') ++ space, false⟩,
  -- a property
  ⟨notInName ++ lit name ++ space ++ char ':' ++ space ++
    ahead (alt (lit "async" ++ wordEdge) (alt (lit "function" ++ wordEdge)
      (alt (char '(') (runs isNameChar ++ space ++ lit "=>")))), false⟩,
  -- a method
  ⟨indent ++ modifiers ["public", "private", "protected", "static"] ++
    opt (group "async" (lit "async" ++ space1)) ++ lit name ++ space ++ ahead (char '('), true⟩]

/-- The body is the result of a function type and not of a function. -/
def typeBody : Pattern :=
  alt (words ["void", "any", "unknown", "never", "boolean", "string", "number"])
    (lit "Promise<" ++ run (fun _ => true) ++ char '>' ++ opt (char ';'))

/-- The function has a body that is more than a type. -/
def isDefinition (f : FunctionText) : Bool :=
  (typeBody.fullMatch (strip f.body.toList)).isNone

/-- A function found by name. -/
structure Definition where
  name : String
  body : String
  isAsync : Bool
  deriving Repr, DecidableEq

/-- The first of the places that holds a definition. -/
def definitionAmong (src : Source) (name : String) (isMethod : Bool) :
    List Match → Except BracketFault (Option Definition)
  | [] => .ok none
  | m :: rest => do
    let f ← if isMethod then methodAt src m.stop else functionAt src m.stop false
    match f with
    | some f =>
      if isDefinition f then return some ⟨name, f.body, f.isAsync || m.has "async"⟩
      else definitionAmong src name isMethod rest
    | none => definitionAmong src name isMethod rest

/-- The first of the forms in which the text defines the function. -/
def definitionIn (src : Source) (name : String) :
    List DeclarationForm → Except BracketFault (Option Definition)
  | [] => .ok none
  | form :: rest => do
    match ← definitionAmong src name form.isMethod (form.head.findAll src) with
    | some d => return some d
    | none => definitionIn src name rest

/-- The function of the name that the text defines. -/
def definitionOf (scope name : String) : Except BracketFault (Option Definition) :=
  if scope.isEmpty || name.isEmpty then .ok none
  else definitionIn (Source.of scope) name (declarationForms name)

end Affordance.Script
