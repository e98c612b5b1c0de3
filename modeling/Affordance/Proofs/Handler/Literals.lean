import Affordance.Proofs.Handler.Assignments
import Affordance.Proofs.Json.RoundTrip
import Affordance.Proofs.Text.Pieces

/-!
# Literals of generated code

Texts of a page come into a handler between double quotes alone, so they are data there and never
code.

  * `skeleton`, `literals`: code cut at its double-quoted literals. A literal ends at its first
    quote that no backslash takes.
  * `Cuts`: a piece of code leaves a skeleton and has literals, whatever comes behind it. Pieces are
    cut one after the other (`Cuts.append`, `Cuts.join`); between its quotes an escaped text is one
    literal (`Cuts.literal`).
  * `HandlerShape`: how many selectors there are, how each input is filled, and whether there are
    inputs and a trigger. No text of the page is in it.
  * **`template_texts_stay_literals`**: the skeleton of a body from a template is that of its shape,
    and its literals are read as the keys, the selectors and the description.
-/

namespace Affordance.Code

open Affordance.Text

/-! ## 1. Cutting -/

/-- A fragment of code that is cut at its literals. -/
inductive Fragment where
  | code (c : Char)
  /-- A literal with its quotes. -/
  | literal (text : List Char)
  deriving DecidableEq

/-- Where a cut stands; what was read of a literal comes latest first. -/
inductive Stand where
  | code
  | literal (read : List Char)
  /-- Behind a backslash in a literal. -/
  | escape (read : List Char)

/-- Code cut at its literals; one that the code leaves open ends with the code. -/
def cutFrom : Stand → List Char → List Fragment
  | .code, [] => []
  | .literal read, [] | .escape read, [] => [.literal read.reverse]
  | .code, c :: s => if c = '"' then cutFrom (.literal [c]) s else .code c :: cutFrom .code s
  | .literal read, c :: s =>
    if c = '\\' then cutFrom (.escape (c :: read)) s
    else if c = '"' then .literal (c :: read).reverse :: cutFrom .code s
    else cutFrom (.literal (c :: read)) s
  | .escape read, c :: s => cutFrom (.literal (c :: read)) s

/-- What a fragment leaves where literals are cut out. -/
def Fragment.outer : Fragment → Option Char
  | code c => some c
  | literal _ => none

/-- The literal that a fragment is. -/
def Fragment.literal? : Fragment → Option (List Char)
  | code _ => none
  | literal text => some text

/-- Code without its literals; `none` stands in the place of each. -/
def skeleton (s : List Char) : List (Option Char) := (cutFrom .code s).map Fragment.outer

/-- The literals of code, in order. -/
def literals (s : List Char) : List (List Char) := (cutFrom .code s).filterMap Fragment.literal?

/-! ## 2. Pieces -/

/-- A piece of code leaves a skeleton and has literals, whatever comes behind it. -/
structure Cuts (s : List Char) (outer : List (Option Char)) (ls : List (List Char)) : Prop where
  skeleton : ∀ rest, Code.skeleton (s ++ rest) = outer ++ Code.skeleton rest
  literals : ∀ rest, Code.literals (s ++ rest) = ls ++ Code.literals rest

/-- Code without literals as a skeleton. -/
def asIs (s : String) : List (Option Char) := s.toList.map some

/-- An escaped text leaves the literal open in which it stands. -/
theorem cutFrom_escaped {s : List Char} (h : Escaped s) (read rest : List Char) :
    cutFrom (.literal read) (s ++ rest) = cutFrom (.literal (s.reverse ++ read)) rest := by
  induction h generalizing read with
  | nil => rfl
  | @plain c s hslash hquote _ ih =>
    rw [List.cons_append, cutFrom, if_neg hslash, if_neg hquote, ih, List.reverse_cons,
      List.append_assoc]
    rfl
  | @escape e s _ ih =>
    rw [List.cons_append, List.cons_append, cutFrom, if_pos rfl, cutFrom, ih, List.reverse_cons,
      List.reverse_cons, List.append_assoc, List.append_assoc]
    rfl

namespace Cuts

variable {s t : List Char} {outer outer' : List (Option Char)} {ls ls' : List (List Char)}

theorem nil : Cuts [] [] [] := ⟨fun _ => rfl, fun _ => rfl⟩

theorem append (hs : Cuts s outer ls) (ht : Cuts t outer' ls') :
    Cuts (s ++ t) (outer ++ outer') (ls ++ ls') where
  skeleton rest := by rw [List.append_assoc, hs.skeleton, ht.skeleton, List.append_assoc]
  literals rest := by rw [List.append_assoc, hs.literals, ht.literals, List.append_assoc]

theorem whole (hs : Cuts s outer ls) : Code.skeleton s = outer ∧ Code.literals s = ls := by
  have hskeleton := hs.skeleton []
  have hliterals := hs.literals []
  rw [List.append_nil] at hskeleton hliterals
  exact ⟨hskeleton.trans (List.append_nil _), hliterals.trans (List.append_nil _)⟩

/-- Code without quotes has no literals. -/
theorem plain {s : String} (h : '"' ∉ s.toList) : Cuts s.toList (asIs s) [] := by
  unfold asIs
  generalize s.toList = cs at h
  induction cs with
  | nil => exact .nil
  | cons c cs ih =>
    have hc : c ≠ '"' := fun e => h (e ▸ List.mem_cons_self)
    have hcut : ∀ rest, cutFrom .code (c :: rest) = .code c :: cutFrom .code rest := fun rest => by
      rw [cutFrom, if_neg hc]
    have hfirst : Cuts [c] [some c] [] := by
      constructor <;> intro rest
      · exact congrArg (List.map Fragment.outer) (hcut rest)
      · exact (congrArg (List.filterMap Fragment.literal?) (hcut rest) :)
    exact hfirst.append (ih fun hmem => h (List.mem_cons_of_mem c hmem))

/-- **Between its quotes an escaped text is one literal.** -/
theorem literal (h : Escaped s) : Cuts ('"' :: s ++ ['"']) [none] ['"' :: s ++ ['"']] := by
  have hcut : ∀ rest, cutFrom .code ('"' :: s ++ ['"'] ++ rest) =
      .literal ('"' :: s ++ ['"']) :: cutFrom .code rest := by
    intro rest
    rw [List.append_assoc, List.cons_append, cutFrom, if_pos rfl, cutFrom_escaped h,
      List.cons_append, cutFrom, if_neg (by decide), if_pos rfl, List.reverse_cons,
      List.reverse_append, List.reverse_reverse]
    rfl
  constructor <;> intro rest
  · exact congrArg (List.map Fragment.outer) (hcut rest)
  · exact congrArg (List.filterMap Fragment.literal?) (hcut rest)

theorem renderText (asciiOnly : Bool) (t : String) :
    Cuts (Json.renderText asciiOnly t) [none] [Json.renderText asciiOnly t] :=
  .literal (escaped_written asciiOnly t)

/-- Joined pieces are cut piece by piece. -/
theorem join {α : Type} {f : α → List Char} {g : α → List (Option Char)}
    {h : α → List (List Char)} (hs : Cuts s outer []) : ∀ {xs : List α},
    (∀ x ∈ xs, Cuts (f x) (g x) (h x)) →
      Cuts (joinChars s (xs.map f)) (outer.intercalate (xs.map g)) (xs.flatMap h)
  | [], _ => .nil
  | [x], hx => by
    rw [List.flatMap_singleton, List.map_singleton, List.map_singleton, List.intercalate_singleton]
    exact hx x (List.mem_singleton_self x)
  | x :: y :: rest, hx => by
    have hrest := join hs fun z hz => hx z (List.mem_cons_of_mem x hz)
    have hall := ((hx x List.mem_cons_self).append hs).append hrest
    rwa [List.append_nil, List.map_cons, List.map_cons, ← List.intercalate_cons_cons] at hall

end Cuts

/-- A name in snake case is written in one way, whatever is escaped. -/
theorem renderText_of_snakeName {key : String} (h : SnakeName key.toList) :
    Json.renderText true key = Json.renderText false key := by
  have hbody : ∀ asciiOnly, Json.renderText asciiOnly key = '"' :: key.toList ++ ['"'] := by
    intro asciiOnly
    rw [← written_of_snakeName asciiOnly h]
    rfl
  rw [hbody, hbody]

end Affordance.Code

namespace Affordance

open Affordance.Text
open Affordance.Code

/-! ## 3. Shapes of handlers -/

/-- A function that fills inputs. -/
inductive Filler where
  | value
  | checked
  | choice
  deriving Repr, DecidableEq

/-- The name of the function. -/
def Filler.name : Filler → String
  | value => "__afcSetValue"
  | checked => "__afcSetChecked"
  | choice => "__afcSetSelect"

/-- The function that fills an input. -/
def Element.filler (e : Element) : Filler :=
  if e.tag = .select then .choice
  else if e.inputType = some "checkbox" || e.inputType = some "radio" then .checked
  else .value

theorem Element.name_filler (e : Element) : e.filler.name = e.setFunction := by
  unfold filler setFunction
  split
  · rfl
  · split <;> rfl

/-- What a handler's code is built of, apart from texts. -/
structure HandlerShape where
  /-- For each input that has a key: the function that fills it, and how many selectors it has. -/
  fills : List (Filler × Nat)
  /-- There are inputs, with keys or without. -/
  hasInputs : Bool
  /-- How many selectors the trigger has, if there is one. -/
  press : Option Nat
  deriving Repr, DecidableEq

namespace HandlerShape

/-- The skeleton of a list of texts. -/
def listSkeleton (n : Nat) : List (Option Char) :=
  asIs "[" ++ (asIs ", ").intercalate (List.replicate n [none]) ++ asIs "]"

/-- The skeleton of a parameter. -/
def parameterSkeleton : List (Option Char) := asIs "params[" ++ [none] ++ asIs "]"

/-- The skeleton of the line that fills an input. -/
def fillSkeleton (filler : Filler) (n : Nat) : List (Option Char) :=
  asIs "  if (" ++ parameterSkeleton ++ asIs " !== undefined) " ++
  (asIs filler.name ++ asIs "(" ++ listSkeleton n ++ asIs ", " ++ parameterSkeleton ++ asIs ")") ++
  asIs ";"

/-- The skeletons of the lines that press the trigger. -/
def pressSkeletons (hasInputs : Bool) (press : Option Nat) : List (List (Option Char)) :=
  match press with
  | none => []
  | some n =>
    (if hasInputs then [asIs "  await new Promise((r) => setTimeout(r, 100));"] else []) ++
    [asIs "  " ++ (asIs "__afcClick(" ++ listSkeleton n ++ asIs ")") ++ asIs ";"]

/-- The skeletons of the lines that end a body. -/
def endSkeletons : List (List (Option Char)) :=
  [asIs "  return \x7b success: true, message: " ++ [none] ++ asIs " \x7d;",
   asIs "\x7d catch (err) \x7b",
   asIs "  return \x7b success: false, message: err instanceof Error ? err.message : String(err) \x7d;",
   asIs "\x7d"]

/-- The skeleton of a body. -/
def skeleton (s : HandlerShape) : List (Option Char) :=
  (asIs "\n").intercalate
    ([asIs "try \x7b"] ++ s.fills.map (fun f => fillSkeleton f.1 f.2) ++
      (pressSkeletons s.hasInputs s.press ++ endSkeletons))

end HandlerShape

namespace Proposal

/-- The shape of a tool's handler. -/
def handlerShape (p : Proposal) : HandlerShape where
  fills := (InputSchema.keyed p.candidate.inputs).map fun f =>
    (f.2.filler, f.2.selectorsTried.length)
  hasInputs := !p.candidate.inputs.isEmpty
  press := p.candidate.trigger.map (·.pressList.length)

/-- The texts in a tool's handler, in order: for each input that has a key, its key, its selectors
    and its key again, then the trigger's selectors, then the description. -/
def handlerTexts (p : Proposal) : List String :=
  (InputSchema.keyed p.candidate.inputs).flatMap (fun f => f.1 :: f.2.selectorsTried ++ [f.1]) ++
  ((p.candidate.trigger.map Element.pressList).getD [] ++ [p.description])

end Proposal

/-! ## 4. Lines of handlers -/

/-- A line with its skeleton and its literals. -/
structure CutLine where
  text : String
  outer : List (Option Char)
  /-- The texts that stand in it as literals. -/
  texts : List String

/-- The line is cut so. -/
def CutLine.Right (l : CutLine) : Prop :=
  Cuts l.text.toList l.outer (l.texts.map (Json.renderText false))

namespace CutLine

/-- A line without literals. -/
def plain (s : String) : CutLine := ⟨s, asIs s, []⟩

theorem right_plain {s : String} (h : '"' ∉ s.toList) : (plain s).Right := .plain h

end CutLine

theorem cuts_codeList (xs : List String) :
    Cuts (codeList xs).toList (HandlerShape.listSkeleton xs.length)
      (xs.map (Json.renderText false)) := by
  have hopen : Cuts "[".toList (asIs "[") [] := .plain (by decide)
  have hcomma : Cuts ", ".toList (asIs ", ") [] := .plain (by decide)
  have hclose : Cuts "]".toList (asIs "]") [] := .plain (by decide)
  have hitems := hcomma.join fun x (_ : x ∈ xs) => Cuts.renderText false x
  have hall := (hopen.append hitems).append hclose
  rwa [List.map_const', List.append_nil, List.nil_append, ← List.map_eq_flatMap,
    show "[".toList ++ _ ++ "]".toList = (codeList xs).toList from (toList_codeList xs).symm]
    at hall

theorem cuts_parameter {key : String} (h : SnakeName key.toList) :
    Cuts (parameter key).toList HandlerShape.parameterSkeleton [Json.renderText false key] := by
  have hopen : Cuts "params[".toList (asIs "params[") [] := .plain (by decide)
  have hclose : Cuts "]".toList (asIs "]") [] := .plain (by decide)
  have hquoted : (Json.quoteAscii key).toList = Json.renderText true key := String.toList_ofList
  have hall := (hopen.append (Cuts.renderText true key)).append hclose
  rw [parameter, String.toList_append, String.toList_append, hquoted]
  rwa [renderText_of_snakeName h] at hall ⊢

theorem cuts_setCall {key : String} (h : SnakeName key.toList) (e : Element) :
    Cuts (setCall e (parameter key)).toList
      (asIs e.filler.name ++ asIs "(" ++ HandlerShape.listSkeleton e.selectorsTried.length ++
        asIs ", " ++ HandlerShape.parameterSkeleton ++ asIs ")")
      (e.selectorsTried.map (Json.renderText false) ++ [Json.renderText false key]) := by
  have hname : Cuts e.setFunction.toList (asIs e.filler.name) [] := by
    rw [← e.name_filler]
    refine .plain ?_
    cases e.filler <;> decide
  have hopen : Cuts "(".toList (asIs "(") [] := .plain (by decide)
  have hcomma : Cuts ", ".toList (asIs ", ") [] := .plain (by decide)
  have hclose : Cuts ")".toList (asIs ")") [] := .plain (by decide)
  have hall := ((((hname.append hopen).append (cuts_codeList e.selectorsTried)).append
    hcomma).append (cuts_parameter h)).append hclose
  rw [setCall]
  simp only [String.toList_append]
  simpa only [List.nil_append, List.append_nil] using hall

/-- The line that fills an input. -/
def cutFill (f : String × Element) : CutLine where
  text := fillLine f.1 f.2
  outer := HandlerShape.fillSkeleton f.2.filler f.2.selectorsTried.length
  texts := f.1 :: f.2.selectorsTried ++ [f.1]

theorem right_cutFill {f : String × Element} (h : SnakeName f.1.toList) : (cutFill f).Right := by
  have hopen : Cuts "  if (".toList (asIs "  if (") [] := .plain (by decide)
  have hguard : Cuts " !== undefined) ".toList (asIs " !== undefined) ") [] := .plain (by decide)
  have hclose : Cuts ";".toList (asIs ";") [] := .plain (by decide)
  have hall := (((hopen.append (cuts_parameter h)).append hguard).append
    (cuts_setCall h f.2)).append hclose
  simp only [CutLine.Right, cutFill, HandlerShape.fillSkeleton, fillLine, String.toList_append,
    List.map_append, List.map_cons, List.map_nil]
  simpa only [List.nil_append, List.append_nil, List.cons_append] using hall

/-- The lines that press a trigger. -/
def cutPress (inputs : List Element) (trigger : Option Element) : List CutLine :=
  match trigger with
  | none => []
  | some t =>
    (if inputs.isEmpty then [] else [.plain "  await new Promise((r) => setTimeout(r, 100));"]) ++
    [⟨"  " ++ submitCall t ++ ";",
      asIs "  " ++ (asIs "__afcClick(" ++ HandlerShape.listSkeleton t.pressList.length ++ asIs ")") ++
        asIs ";", t.pressList⟩]

theorem right_cutPress (inputs : List Element) (trigger : Option Element) :
    ∀ l ∈ cutPress inputs trigger, l.Right := by
  cases trigger with
  | none => exact fun l hl => absurd hl List.not_mem_nil
  | some t =>
    refine List.forall_mem_append.mpr ⟨?_, List.forall_mem_singleton.mpr ?_⟩
    · split
      · exact fun l hl => absurd hl List.not_mem_nil
      · exact List.forall_mem_singleton.mpr (CutLine.right_plain (by decide))
    · have hlead : Cuts "  ".toList (asIs "  ") [] := .plain (by decide)
      have hopen : Cuts "__afcClick(".toList (asIs "__afcClick(") [] := .plain (by decide)
      have hclose : Cuts ")".toList (asIs ")") [] := .plain (by decide)
      have hend : Cuts ";".toList (asIs ";") [] := .plain (by decide)
      have hall := (hlead.append ((hopen.append (cuts_codeList t.pressList)).append
        hclose)).append hend
      simp only [CutLine.Right, submitCall, String.toList_append]
      simpa only [List.nil_append, List.append_nil] using hall

/-- The lines that end a body. -/
def cutEnd (description : String) : List CutLine :=
  [⟨"  return \x7b success: true, message: " ++ Json.quote description ++ " \x7d;",
    asIs "  return \x7b success: true, message: " ++ [none] ++ asIs " \x7d;", [description]⟩,
   .plain "\x7d catch (err) \x7b",
   .plain "  return \x7b success: false, message: err instanceof Error ? err.message : String(err) \x7d;",
   .plain "\x7d"]

theorem right_cutEnd (description : String) : ∀ l ∈ cutEnd description, l.Right := by
  refine List.forall_mem_cons.mpr ⟨?_, ?_⟩
  · have hopen : Cuts "  return \x7b success: true, message: ".toList
        (asIs "  return \x7b success: true, message: ") [] := .plain (by decide)
    have hclose : Cuts " \x7d;".toList (asIs " \x7d;") [] := .plain (by decide)
    have hquoted : (Json.quote description).toList = Json.renderText false description :=
      String.toList_ofList
    have hall := (hopen.append (Cuts.renderText false description)).append hclose
    simp only [CutLine.Right, String.toList_append, hquoted, List.map_cons, List.map_nil]
    simpa only [List.nil_append, List.append_nil] using hall
  · exact List.forall_mem_cons.mpr ⟨CutLine.right_plain (by decide), List.forall_mem_cons.mpr
      ⟨CutLine.right_plain (by decide), List.forall_mem_singleton.mpr
        (CutLine.right_plain (by decide))⟩⟩

/-! ## 5. Bodies -/

/-- The lines of a tool's handler. -/
def Proposal.cutLines (p : Proposal) : List CutLine :=
  [.plain "try \x7b"] ++ (InputSchema.keyed p.candidate.inputs).map cutFill ++
    (cutPress p.candidate.inputs p.candidate.trigger ++ cutEnd p.description)

namespace Proposal

variable (p : Proposal)

theorem right_cutLines : ∀ l ∈ p.cutLines, l.Right := by
  refine List.forall_mem_append.mpr ⟨List.forall_mem_append.mpr ⟨?_, ?_⟩,
    List.forall_mem_append.mpr ⟨right_cutPress _ _, right_cutEnd _⟩⟩
  · exact List.forall_mem_singleton.mpr (CutLine.right_plain (by decide))
  · intro l hl
    obtain ⟨f, hf, rfl⟩ := List.mem_map.mp hl
    exact right_cutFill (snakeName_of_mem_keyed hf)

theorem text_cutLines :
    p.cutLines.map (·.text) =
      templateLines p.candidate.inputs p.candidate.trigger p.description := by
  have hpress : (cutPress p.candidate.inputs p.candidate.trigger).map (·.text) =
      pressLines p.candidate.inputs p.candidate.trigger := by
    cases p.candidate.trigger with
    | none => rfl
    | some t => cases p.candidate.inputs <;> rfl
  rw [templateLines_eq, cutLines, List.map_append, List.map_append, List.map_append, List.map_map,
    hpress]
  rfl

theorem outer_cutLines :
    (asIs "\n").intercalate (p.cutLines.map (·.outer)) = p.handlerShape.skeleton := by
  have hpress : (cutPress p.candidate.inputs p.candidate.trigger).map (·.outer) =
      HandlerShape.pressSkeletons p.handlerShape.hasInputs p.handlerShape.press := by
    unfold handlerShape
    cases p.candidate.trigger with
    | none => rfl
    | some t => cases p.candidate.inputs <;> rfl
  rw [HandlerShape.skeleton, cutLines, List.map_append, List.map_append, List.map_append, hpress,
    handlerShape, List.map_map, List.map_map]
  rfl

theorem texts_cutLines : p.cutLines.flatMap (·.texts) = p.handlerTexts := by
  have hpress : (cutPress p.candidate.inputs p.candidate.trigger).flatMap (·.texts) =
      (p.candidate.trigger.map Element.pressList).getD [] := by
    cases p.candidate.trigger with
    | none => rfl
    | some t => cases p.candidate.inputs <;> simp [cutPress, CutLine.plain]
  rw [handlerTexts, cutLines, List.flatMap_append, List.flatMap_append, List.flatMap_append, hpress,
    List.flatMap_map]
  rfl

end Proposal

/-- **Texts of the page stay literals.** For every tool, whatever its texts are: the body from the
    template, cut at its literals, leaves the skeleton of its shape, in which no text has a part;
    and its literals are read as the texts that it is made of. -/
theorem template_texts_stay_literals (p : Proposal) :
    skeleton (templateHandler p).toList = p.handlerShape.skeleton ∧
    List.Forall₂ (fun literal text => Json.read literal.toArray = .ok (.str text))
      (literals (templateHandler p).toList) p.handlerTexts := by
  have hbreak : Cuts "\n".toList (asIs "\n") [] := .plain (by decide)
  have hlines := hbreak.join p.right_cutLines
  have hbody : (templateHandler p).toList =
      joinChars "\n".toList (p.cutLines.map fun l => l.text.toList) := by
    rw [templateHandler, toList_join, ← p.text_cutLines, List.map_map]
    rfl
  rw [← hbody, p.outer_cutLines, ← List.map_flatMap, p.texts_cutLines] at hlines
  obtain ⟨hskeleton, hliterals⟩ := hlines.whole
  refine ⟨hskeleton, ?_⟩
  rw [hliterals, List.forall₂_map_left_iff]
  exact List.forall₂_same.mpr fun t _ => Json.read_renderText t

end Affordance
