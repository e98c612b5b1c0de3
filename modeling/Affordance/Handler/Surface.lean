import Affordance.Json.Printer
import Affordance.Tool.Proposal

/-!
# Surfaces of tools

  * `Proposal.surface`: what a tool's handler depends on, as a JSON value: the component,
    the elements with their names, types and labels, the handler and the parameters.
    Styling, layout and places in the source are left out.
  * `Proposal.surfaceKey`: the digest of the surface.
-/

namespace Affordance

open Affordance.Text

/-- An input as part of a surface. -/
def inputSurface (e : Element) : Json := .obj [
  ("t", .str e.tag.text), ("n", .ofText? e.name), ("i", .ofText? e.inputType),
  ("l", .ofText? e.label), ("s", .bool e.stateBinding.isSome)]

/-- A trigger as part of a surface. -/
def triggerSurface (e : Element) : Json := .obj [
  ("t", .str e.tag.text), ("n", .ofText? e.name), ("l", .ofText? e.label)]

/-- A handler as part of a surface. -/
def handlerSurface (h : Handler) : Json := .obj [
  ("n", .str h.name), ("ev", .str h.event.text)]

/-- A part or null. -/
def orNull {α : Type} (f : α → Json) : Option α → Json
  | some a => f a
  | none => .null

namespace Proposal

/-- What a tool's handler depends on. -/
def surface (p : Proposal) : Json :=
  let c := p.candidate
  .obj [
    ("c", .str c.componentName), ("e", .arr (c.inputs.map inputSurface)),
    ("t", orNull triggerSurface c.trigger), ("h", orNull handlerSurface c.handler),
    ("schema", p.schema.toJson)]

/-- The surface as one text. -/
def surfaceText (p : Proposal) : String := Json.render .canonical p.surface

/-- The digest of the surface. -/
def surfaceKey (p : Proposal) : String := digest p.surfaceText

/-- Why a tool has no such digest: some text of its surface holds a half, as `half?` tells them. -/
def surfaceFault? (p : Proposal) : Option HalfFault := halfFault? p.surfaceText

end Proposal

end Affordance
