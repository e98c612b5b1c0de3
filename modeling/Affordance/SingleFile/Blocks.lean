import Affordance.Text.Pattern

/-!
# Blocks of a single-file component

  * `blocks`: the template of a single-file component and its scripts.  The template
    reaches from the first opening template tag to the last closing one, scripts aside.
-/

namespace Affordance.SingleFile

open Affordance.Text
open Affordance.Text.Pattern

/-- Attributes up to the end of a tag. -/
def tagTail : Pattern := opt (one isSpace ++ run (· ≠ '>')) ++ char '>'

/-- A script with its tags. -/
def scriptBlock : Pattern :=
  litAnyCase "<script" ++ tagTail ++ group "body" (fewest fun _ => true) ++ litAnyCase "</script" ++
  space ++ char '>'

/-- A template's opening tag. -/
def templateOpen : Pattern := litAnyCase "<template" ++ tagTail

/-- A template's closing tag. -/
def templateClose : Pattern := litAnyCase "</template" ++ space ++ char '>'

/-- The blocks of a single-file component. -/
structure Blocks where
  template : Option String
  scripts : List String
  deriving Repr, DecidableEq

/-- The template of a source without its scripts. -/
def templateOf (src : Source) : Option String :=
  match templateOpen.search src 0, (templateClose.findAll src).getLast? with
  | some o, some c => if c.start < o.stop then none else some (src.text o.stop c.start)
  | _, _ => none

/-- The blocks of a source. -/
def blocks (source : String) : Blocks :=
  let src := Source.of source
  let scripts := scriptBlock.findAll src
  ⟨templateOf (substitute src [] 0 scripts).toArray, scripts.map (·.text "body")⟩

end Affordance.SingleFile
