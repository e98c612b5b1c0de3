import Affordance.Keyed
import Affordance.Markup.Token
import Affordance.Surface.TagEvent
import Affordance.Surface.Vocabulary

/-!
# Markup trees

  * `Node`: a tag with its attributes and contents, or a text.
  * `Node.ofTokens` builds the trees of a token sequence: a closing tag closes
    everything up to the innermost open tag of its name and is ignored when there is
    none; nothing is closed by implication.
  * `Node.events`: a tree as tag events, in the order of the source.
  * `Node.scripts`: the texts of the scripts in a tree.
-/

namespace Affordance.Markup

open Affordance.Text

/-- A tag with its contents, or a text. -/
inductive Node where
  | text (s : String)
  | tag (name : String) (attributes : List (String × String)) (children : List Node)

/-! ## 1. Building trees -/

/-- Tags that close as soon as they open. -/
def voidElements : List String := [
  "area", "base", "br", "col", "embed", "hr", "img", "input", "keygen", "link", "menuitem",
  "meta", "param", "source", "track", "wbr", "basefont", "bgsound", "command", "frame", "image",
  "isindex", "nextid", "spacer"]

/-- Tags whose contents keep their white space. -/
def preformattedElements : List String := ["pre", "textarea"]

/-- A text as a tree holds it: white space alone becomes one line break if it has one,
    and one space otherwise. -/
def condensed (s : List Char) : List Char :=
  if s.all fun c => c == ' ' || c == '\n' || c == '\t' || c == '\x0c' || c == '\r' then
    if s.contains '\n' then ['\n'] else [' ']
  else s

/-- A tag whose contents are being read. -/
structure OpenNode where
  name : String
  attributes : List (String × String)
  /-- Contents so far, the latest first. -/
  children : List Node

/-- A tree that is being built. -/
structure Builder where
  /-- Open tags, the innermost first. -/
  stack : List OpenNode := []
  /-- Finished trees outside all tags, the latest first. -/
  roots : List Node := []
  /-- Text that the next tag or gap ends. -/
  pending : List Char := []
  /-- Void tags that a closing tag may still follow. -/
  closedVoids : List String := []

namespace Builder

/-- A finished tree put where it belongs. -/
def place (b : Builder) (n : Node) : Builder :=
  match b.stack with
  | [] => { b with roots := n :: b.roots }
  | o :: rest => { b with stack := { o with children := n :: o.children } :: rest }

/-- A preformatted tag is open. -/
def isPreformatted (b : Builder) : Bool := b.stack.any fun o => preformattedElements.contains o.name

/-- The pending text put where it belongs. -/
def endText (b : Builder) : Builder :=
  if b.pending.isEmpty then b
  else
    let text := if b.isPreformatted then b.pending else condensed b.pending
    { b.place (.text (String.ofList text)) with pending := [] }

/-- The innermost open tag closed. -/
def pop (b : Builder) : Builder :=
  match b.stack with
  | [] => b
  | o :: rest => { b with stack := rest }.place (.tag o.name o.attributes o.children.reverse)

/-- The innermost `n` open tags closed. -/
def popMany : Nat → Builder → Builder
  | 0, b => b
  | n + 1, b => popMany n b.pop

/-- A closing tag. -/
def close (b : Builder) (name : String) : Builder :=
  let b := b.endText
  match b.stack.findIdx? (·.name = name) with
  | some i => popMany (i + 1) b
  | none => b

/-- A closing tag of the source, which may only repeat the end of a void tag. -/
def closeOnce (b : Builder) (name : String) : Builder :=
  if b.closedVoids.contains name then { b with closedVoids := b.closedVoids.erase name }
  else b.close name

/-- An opening tag. -/
def openTag (b : Builder) (name : String) (attributes : List (String × String)) : Builder :=
  let b := b.endText
  { b with stack := ⟨name, attributes, []⟩ :: b.stack }

/-- One token. -/
def step (b : Builder) : Token → Builder
  | .text s => { b with pending := b.pending ++ s }
  | .gap => b.endText
  | .close name => b.closeOnce name
  | .open_ name attrs selfClosed =>
    let b := b.openTag name (Keyed.ofList attrs)
    if selfClosed then b.close name
    else if voidElements.contains name then
      { b.close name with closedVoids := b.closedVoids ++ [name] }
    else b

/-- The finished trees, with everything closed. -/
def finish (b : Builder) : List Node :=
  let b := b.endText
  (popMany b.stack.length b).roots.reverse

end Builder

/-- The trees of a token sequence. -/
def Node.ofTokens (ts : List Token) : List Node := (ts.foldl Builder.step {}).finish

/-- The trees of a markup text. -/
def read (src : Source) : Except Rejection (List Node) := (tokens src).map Node.ofTokens

/-! ## 2. Reading trees -/

/-- Attributes that are true by standing there. -/
def truthAttributes : List String := [
  "required", "disabled", "checked", "selected", "multiple", "readonly", "hidden", "autofocus",
  "novalidate"]

/-- An attribute as the collector takes it. -/
def attributeOf (a : String × String) : String × String :=
  if a.2 = "" && truthAttributes.contains (toLower a.1) then (a.1, "true") else a

mutual

/-- A tree as tag events; texts are changed by `edit`.  Scripts and styles are no part
    of the surface, a void tag closes itself. -/
def Node.events (edit : String → String) : Node → List TagEvent
  | .text s => [.text (edit s)]
  | .tag name attrs children =>
    if name = "script" ∨ name = "style" then []
    else if Vocabulary.voidTags.contains name then
      .open_ name (attrs.map attributeOf) true [] none :: Node.eventsAll edit children
    else
      .open_ name (attrs.map attributeOf) false [] none ::
        (Node.eventsAll edit children ++ [.close name])

/-- Trees as tag events. -/
def Node.eventsAll (edit : String → String) : List Node → List TagEvent
  | [] => []
  | n :: rest => n.events edit ++ Node.eventsAll edit rest

end

/-- The text right inside a tag. -/
def Node.ownText : List Node → String
  | [] => ""
  | .text s :: rest => s ++ Node.ownText rest
  | .tag _ _ _ :: rest => Node.ownText rest

mutual

/-- The texts of the scripts in a tree. -/
def Node.scripts : Node → List String
  | .text _ => []
  | .tag name _ children =>
    if name = "script" then [Node.ownText children]
    else if name = "style" then []
    else Node.scriptsAll children

/-- The texts of the scripts in trees. -/
def Node.scriptsAll : List Node → List String
  | [] => []
  | n :: rest => n.scripts ++ Node.scriptsAll rest

end

end Affordance.Markup
