import Affordance.Json.Basic
import Affordance.Surface.Dialect
import Affordance.Surface.Label
import Affordance.Surface.TagEvent

/-!
# Collecting elements

  * A source is read as a sequence of `TagEvent`s: a tag opens, text follows, a tag
    closes.  `Collector.step` takes one event, `Collector.finish` closes what is still
    open and settles the labels.
  * Open tags are a stack of frames, the innermost first.  The innermost open form
    gives an element its parent, the innermost open selection takes an option.
  * A label is settled last, from the strongest hint to the weakest: the element's own
    attributes, a label tied to its identifier, the label around it, and for a button
    its own text.
  * A text that is read as a label may have a reference that is refused.  The first one is
    kept as the collection's fault, and `collect` gives it in place of the elements.
  * `openTag_keeps`, `closeTag_keeps`, `step_open_keeps`: what each part of an event keeps is kept
    by the event.
-/

namespace Affordance

open Affordance.Number (LongNumber)
open Affordance.Text

/-! ## 1. Results -/

/-- An event attribute found on a tag. -/
structure Binding where
  kind : EventKind
  expr : String
  tag : String
  /-- The element the attribute stands on, as its place among the elements. -/
  element : Option Nat := none
  elementId : Option String := none
  deriving Repr, DecidableEq

/-- What was collected from a source. -/
structure Collected where
  elements : List Element := []
  bindings : List Binding := []
  /-- Elements, by place, with the expressions that hold their values. -/
  valueBindings : List (Nat × String) := []
  deriving DecidableEq

/-! ## 2. The state of a collection -/

/-- What an open tag is to the collector. -/
inductive FrameRole where
  | form
  | label
  | button
  | select
  | option
  | textarea
  | other
  deriving Repr, DecidableEq

/-- The role as it is reported. -/
def FrameRole.text : FrameRole → String
  | form => "form"
  | label => "label"
  | button => "button"
  | select => "select"
  | option => "option"
  | textarea => "textarea"
  | other => "other"

/-- An open tag. -/
structure Frame where
  tag : String
  role : FrameRole
  /-- The element of the tag, as its place among the elements. -/
  element : Option Nat := none
  /-- The identifier that a label is tied to. -/
  labelFor : Option String := none
  /-- The value that an option gives itself. -/
  value : Option String := none
  /-- The text read inside so far. -/
  text : String := ""
  /-- Tells labels and buttons apart after they are closed. -/
  serial : Nat
  deriving Repr, DecidableEq

/-- Hints at an element's label, settled when the collection is finished. -/
structure LabelHints where
  /-- From the element's own attributes. -/
  explicit : Option String
  /-- The label around the element, as the serial number of its frame. -/
  wrapping : Option Nat
  /-- The element's own frame, if its text can label it. -/
  inner : Option Nat
  /-- The text of a button that has no content. -/
  fallback : Option String
  deriving Repr, DecidableEq

/-- The state of a collection. -/
structure Collector where
  /-- Open tags, the innermost first. -/
  stack : List Frame := []
  /-- Keys of the open forms, the innermost first. -/
  forms : List String := []
  formCount : Nat := 0
  /-- Open selections and text areas, whose text labels nothing. -/
  muted : Nat := 0
  collected : Collected := {}
  /-- The hints of each element, in the order of the elements. -/
  hints : List LabelHints := []
  /-- The texts of closed labels and buttons by serial number. -/
  texts : List (Nat × String) := []
  /-- The first text of the labels tied to each identifier. -/
  labels : List (String × String) := []
  nextSerial : Nat := 0
  /-- What was wrong first with the texts that were read. -/
  fault : Option LongNumber := none
  deriving DecidableEq

namespace Collector

/-- The collection with a fault, which counts if it is the first one. -/
def failing (c : Collector) (fault : Option LongNumber) : Collector :=
  { c with fault := c.fault <|> fault }

/-! ## 3. Attributes -/

/-- The value of the first of the attributes that stands there as text. -/
def literal? (attrs : List (String × String)) (dynamic : List String) (names : List String) :
    Option String :=
  names.findSome? fun n => if dynamic.contains n then none else attrs.lookup n

/-- The value of an attribute, letter case ignored; an exact name goes first. -/
def valueAnyCase (attrs : List (String × String)) (names : List String) : Option String :=
  let lowered := attrs.reverse.map fun (k, v) => (toLower k, v)
  names.findSome? fun n => attrs.lookup n <|> lowered.lookup (toLower n)

/-- The markers of the constraints on an element. -/
def constraints (attrs : List (String × String)) (dynamic : List String) : List String :=
  let required := match valueAnyCase attrs ["required"] with
    | some v => if toLower (trim v) == "false" then [] else ["required"]
    | none => []
  let bounds := ["minLength", "maxLength", "pattern"].filterMap fun key =>
    match nonEmpty (valueAnyCase attrs [key]) with
    | some v =>
      if (dynamic.map toLower).contains (toLower key) then none else some (key ++ ":" ++ v)
    | none => none
  required ++ bounds

/-- The attributes that may name a label. -/
def explicitTexts (attrs : List (String × String)) (dynamic : List String) : List String :=
  Vocabulary.labelAttributes.filterMap fun a => literal? attrs dynamic [a]

/-- What the element says to assistive technology, if it says anything. -/
def accessibilityOf (attrs : List (String × String)) (dynamic : List String) :
    Option Accessibility :=
  let a : Accessibility := {
    ariaLabel := literal? attrs dynamic ["aria-label", "ariaLabel"]
    ariaDescribedBy :=
      literal? attrs dynamic ["aria-describedby", "ariaDescribedby", "ariaDescribedBy"]
    role := literal? attrs dynamic ["role"] }
  if (nonEmpty a.ariaLabel).isSome || (nonEmpty a.ariaDescribedBy).isSome ||
      (nonEmpty a.role).isSome then some a
  else none

/-! ## 4. Elements -/

/-- The native tag of an element, its input type, and the text of a button that has no
    content. -/
def shape (native : Vocabulary.Native) (attrs : List (String × String)) (dynamic : List String) :
    ElementTag × Option String × Option String :=
  let given := (nonEmpty (literal? attrs dynamic ["type"]) <|> native.2).map toLower
  let isButton : Bool := match given with
    | some t => native.1 = .input && Vocabulary.buttonTypes.contains t
    | none => false
  let tag := if isButton then .button else native.1
  let fallback := if isButton then literal? attrs dynamic ["value"] else none
  if tag = .button then
    let type :=
      (nonEmpty (literal? attrs dynamic Vocabulary.nativeTypeAttributes)).map toLower <|> given
    (tag, type.filter Vocabulary.buttonTypes.contains, fallback)
  else (tag, given, fallback)

/-- The serial number of the innermost open label. -/
def openLabel (stack : List Frame) : Option Nat :=
  (stack.find? (·.role = .label)).map (·.serial)

/-- The key of a form that is opened. -/
def keyOfForm (id name : Option String) (count : Nat) : String :=
  (nonEmpty id <|> nonEmpty name).getD ("form_" ++ toString count)

/-- The element of a tag, added to what is collected. -/
def addElement (c : Collector) (native : Vocabulary.Native) (attrs : List (String × String))
    (dynamic : List String) : Collector × Element :=
  let (tag, inputType, fallback) := shape native attrs dynamic
  let id := literal? attrs dynamic ["id"]
  let name := literal? attrs dynamic ["name"]
  let count := if tag = .form then c.formCount + 1 else c.formCount
  let e : Element := {
    tag, id, name, inputType
    attributes := attrs
    parentForm := c.forms.head?
    formKey := if tag = .form then some (keyOfForm id name count) else none
    validation := constraints attrs dynamic
    accessibility := accessibilityOf attrs dynamic }
  let explicit := explicitTexts attrs dynamic
  let hints : LabelHints := ⟨firstLabel explicit, openLabel c.stack, none, fallback⟩
  ({ c.failing (unreadableLabel? explicit) with
      formCount := count
      collected := { c.collected with elements := c.collected.elements ++ [e] }
      hints := c.hints ++ [hints] }, e)

/-- What a tag's attributes bind. -/
def bindingsOf (d : Dialect) (tag : String) (attrs : List (String × String))
    (element : Option Nat) : List Binding :=
  attrs.filterMap fun (a, v) =>
    match d.event a with
    | some kind =>
      if v = "" || v = "true" then none
      else some ⟨kind, v, tag, element, attrs.lookup "id"⟩
    | none => none

/-- The value expressions of a tag's attributes. -/
def valuesOf (d : Dialect) (attrs : List (String × String)) (element : Nat) :
    List (Nat × String) :=
  attrs.filterMap fun (a, v) =>
    if (d.event a).isNone && d.bindsValue a && v ≠ "" && v ≠ "true" then some (element, v) else none

/-- The collection with what a tag's attributes bind. -/
def addBindings (c : Collector) (d : Dialect) (tag : String) (attrs : List (String × String))
    (element : Option Nat) : Collector :=
  let values := match element with
    | some i => valuesOf d attrs i
    | none => []
  { c with collected := { c.collected with
      bindings := c.collected.bindings ++ bindingsOf d tag attrs element
      valueBindings := c.collected.valueBindings ++ values } }

/-! ## 5. Options -/

/-- The value added to the options of an element, unless it is there already. -/
def withOption (value : String) (e : Element) : Element :=
  if e.options.contains value then e else { e with options := e.options ++ [value] }

/-- An option given to the innermost open selection. -/
def giveOption (c : Collector) (value : String) : Collector :=
  match (c.stack.find? (·.role = .select)).bind (·.element) with
  | some i =>
    { c with collected := { c.collected with
        elements := c.collected.elements.modify i (withOption value) } }
  | none => c

/-- The value that an option gives itself. -/
def optionValue (attrs : List (String × String)) (dynamic : List String) : Option String :=
  ["value", "label"].findSome? fun a =>
    if dynamic.contains a then none else nonEmpty (attrs.lookup a)

/-! ## 6. Opening -/

/-- What an open tag of the native form is to the collector. -/
def roleOf : ElementTag → FrameRole
  | .form => .form
  | .button => .button
  | .select => .select
  | .textarea => .textarea
  | .input => .other

/-- What an open tag without a native form is to the collector. -/
def plainRole (tag : String) : FrameRole :=
  if tag = "label" then .label
  else if Vocabulary.choiceTags.contains tag then .option
  else .other

/-- Text inside such a frame labels nothing. -/
def FrameRole.mutes (r : FrameRole) : Bool := r = .select || r = .textarea

/-- The text of such a frame is kept when it is closed. -/
def FrameRole.keeps (r : FrameRole) : Bool := r = .label || r = .button

/-- The hints of the newest element with its own frame. -/
def withInner (serial : Nat) (hints : List LabelHints) : List LabelHints :=
  hints.modify (hints.length - 1) fun h => { h with inner := some serial }

/-- A frame put on the stack. -/
def push (c : Collector) (f : Frame) (formKey : Option String) : Collector :=
  { c with
    stack := f :: c.stack
    nextSerial := if FrameRole.keeps f.role then c.nextSerial + 1 else c.nextSerial
    forms := if f.role = .form then formKey.getD "" :: c.forms else c.forms
    hints := if f.role = .button then withInner f.serial c.hints else c.hints
    muted := if FrameRole.mutes f.role then c.muted + 1 else c.muted }

/-- The element at a place bound to a form field of a library. -/
def bindField (c : Collector) (i : Nat) (field : String) : Collector :=
  let parts := splitOn '.' field.toList
  let b : StateBinding := {
    variable_ := String.ofList (parts.getLastD [])
    setter := none
    accessPath := if 1 < parts.length then some field else none }
  { c with collected := { c.collected with
      elements := c.collected.elements.modify i fun e => { e with stateBinding := some b } } }

/-- A tag opens. -/
def openTag (c : Collector) (d : Dialect) (tag : String) (attrs : List (String × String))
    (selfClosing : Bool) (dynamic : List String) : Collector :=
  let tagName := d.tagName tag
  let place := c.collected.elements.length
  let (c, element) := match d.native tag with
    | some native => let (c, e) := c.addElement native attrs dynamic; (c, some e)
    | none => (c, none)
  let role := match element with
    | some e => roleOf e.tag
    | none => plainRole tagName
  let index := element.map fun _ => place
  let c := c.addBindings d ((element.map (·.tag.text)).getD tagName) attrs index
  let value := if role = .option then optionValue attrs dynamic else none
  if selfClosing then
    match value with
    | some v => c.giveOption v
    | none => c
  else
    c.push {
      tag := tagName, role, element := index, value, serial := c.nextSerial
      labelFor := if role = .label then literal? attrs dynamic d.labelFor else none }
      (element.bind (·.formKey))

/-- What an element, bindings, an option and a frame keep is kept when a tag opens. -/
theorem openTag_keeps {P : Collector → Prop} {d : Dialect} {c : Collector}
    {attrs : List (String × String)} {dynamic : List String}
    (helement : ∀ native, P (c.addElement native attrs dynamic).1)
    (hbind : ∀ {c} tag element, P c → P (addBindings c d tag attrs element))
    (hgive : ∀ {c} v, P c → P (giveOption c v))
    (hpush : ∀ {c f} key, f.text = "" → P c → P (push c f key)) (tag : String) (selfClosing : Bool)
    (h : P c) : P (c.openTag d tag attrs selfClosing dynamic) := by
  unfold openTag
  cases d.native tag
  case' none => have hadded := h
  case' some native => have hadded := helement native
  all_goals
    have hbound := fun tag element => hbind tag element hadded
    dsimp only
    split
    · split
      · exact hgive _ (hbound _ _)
      · exact hbound _ _
    · exact hpush _ rfl (hbound _ _)

/-! ## 7. Text and closing -/

/-- Text inside a frame. -/
def Frame.addText (muted : Bool) (s : String) (f : Frame) : Frame :=
  match f.role with
  | .label => if muted then f else { f with text := f.text ++ s }
  | .button => { f with text := f.text ++ s }
  | .option => { f with text := f.text ++ s }
  | _ => f

/-- Text between tags. -/
def addText (c : Collector) (s : String) : Collector :=
  { c with stack := c.stack.map (Frame.addText (c.muted ≠ 0) s) }

/-- What closing a label or a button leaves behind. -/
def keepText (c : Collector) (f : Frame) : Collector :=
  if FrameRole.keeps f.role then { c with texts := (f.serial, f.text) :: c.texts } else c

/-- The first text of the labels tied to an identifier. -/
def withLabel (c : Collector) (id : String) (text : Option String) : Collector :=
  match text with
  | some text =>
    if (c.labels.lookup id).isSome then c else { c with labels := c.labels ++ [(id, text)] }
  | none => c

/-- What closing a label tied to an identifier leaves behind. -/
def keepLabel (c : Collector) (f : Frame) : Collector :=
  match nonEmpty f.labelFor with
  | some id => (c.failing (unreadableLabel? [f.text])).withLabel id (labelText f.text)
  | none => c

/-- What closing an option leaves behind: its value or else its text is given to the
    innermost open selection. -/
def keepOption (c : Collector) (f : Frame) : Collector :=
  let c := if f.value.isNone then c.failing (unreadableLabel? [f.text]) else c
  match f.value <|> labelText f.text with
  | some v => c.giveOption v
  | none => c

/-- A frame that was taken from the stack is closed. -/
def close (c : Collector) (f : Frame) : Collector :=
  let c := c.keepText f
  match f.role with
  | .form => { c with forms := c.forms.tail }
  | .label => c.keepLabel f
  | .option => c.keepOption f
  | .select => { c with muted := c.muted - 1 }
  | .textarea => { c with muted := c.muted - 1 }
  | _ => c

/-- The innermost `n` frames are closed, one after the other. -/
def closeMany : Nat → Collector → Collector
  | 0, c => c
  | n + 1, c =>
    match c.stack with
    | [] => c
    | f :: rest => closeMany n (close { c with stack := rest } f)

/-- A tag closes: everything up to its innermost open frame is closed; a tag that is
    not open closes nothing. -/
def closeTag (c : Collector) (d : Dialect) (tag : String) : Collector :=
  if tag = "" then c
  else
    match c.stack.findIdx? (·.tag = d.tagName tag) with
    | some i => closeMany (i + 1) c
    | none => c

/-- What closing the innermost frame keeps is kept when several frames are closed. -/
theorem closeMany_keeps {P : Collector → Prop}
    (hclose : ∀ {c f rest}, c.stack = f :: rest → P c → P (close { c with stack := rest } f)) :
    ∀ (n : Nat) {c : Collector}, P c → P (closeMany n c)
  | 0, _, h => h
  | n + 1, c, h => by
    unfold closeMany
    split
    · exact h
    · rename_i hstack
      exact closeMany_keeps hclose n (hclose hstack h)

/-- What closing the innermost frame keeps is kept when a tag closes. -/
theorem closeTag_keeps {P : Collector → Prop}
    (hclose : ∀ {c f rest}, c.stack = f :: rest → P c → P (close { c with stack := rest } f))
    (d : Dialect) (tag : String) {c : Collector} (h : P c) : P (c.closeTag d tag) := by
  unfold closeTag
  split
  · exact h
  · split
    · exact closeMany_keeps hclose _ h
    · exact h

/-! ## 8. The whole collection -/

/-- One event. -/
def step (d : Dialect) (c : Collector) : TagEvent → Collector
  | .open_ tag attrs selfClosing dynamic field =>
    let place := c.collected.elements.length
    let c := c.openTag d tag attrs selfClosing dynamic
    match field with
    | some f => if place < c.collected.elements.length then c.bindField place f else c
    | none => c
  | .text s => c.addText s
  | .close tag => c.closeTag d tag
  | .unreadable n => c.failing (some n)

/-- What a form field of a library keeps is kept when a tag opens that may be bound to one. -/
theorem step_open_keeps {P : Collector → Prop} {d : Dialect} {c : Collector} {tag : String}
    {attrs : List (String × String)} {selfClosing : Bool} {dynamic : List String}
    (hbind : ∀ {c} i field, P c → P (bindField c i field)) (field : Option String)
    (h : P (c.openTag d tag attrs selfClosing dynamic)) :
    P (step d c (.open_ tag attrs selfClosing dynamic field)) := by
  unfold step
  dsimp only
  split
  · split
    · exact hbind _ _ h
    · exact h
  · exact h

/-- The text of a closed frame. -/
def textOf (c : Collector) (serial : Nat) : Option String := c.texts.lookup serial

/-- The label of an element that is read already: from its own attributes, or tied to its
    identifier. -/
def knownLabel (c : Collector) (e : Element) (h : LabelHints) : Option String :=
  h.explicit <|> (nonEmpty e.id).bind fun id => c.labels.lookup id

/-- The texts that may label an element, from the strongest hint to the weakest. -/
def textsFor (c : Collector) (e : Element) (h : LabelHints) : List String :=
  (h.wrapping.bind c.textOf).toList ++
  if e.tag = .button then (h.inner.bind c.textOf).toList ++ h.fallback.toList else []

/-- The label of an element, from the strongest hint to the weakest. -/
def settle (c : Collector) (e : Element) (h : LabelHints) : Option String :=
  c.knownLabel e h <|> firstLabel (c.textsFor e h)

/-- What is wrong with the texts that are read to settle a label. -/
def unsettled? (c : Collector) (e : Element) (h : LabelHints) : Option LongNumber :=
  if (c.knownLabel e h).isSome then none else unreadableLabel? (c.textsFor e h)

/-- The collection with every tag closed. -/
def closed (c : Collector) : Collector := closeMany c.stack.length c

/-- What was collected once all tags are closed, with the labels settled. -/
def settled (c : Collector) : Collected :=
  { c.collected with
    elements := c.collected.elements.zipWith (fun e h => { e with label := c.settle e h }) c.hints }

/-- What was wrong first, the labels included. -/
def finalFault? (c : Collector) : Option LongNumber :=
  c.fault <|> (c.collected.elements.zip c.hints).findSome? fun (e, h) => c.unsettled? e h

/-- What was collected, with everything closed and the labels settled; or what was wrong
    first. -/
def finish (c : Collector) : Except LongNumber Collected :=
  let c := c.closed
  match c.finalFault? with
  | some n => .error n
  | none => .ok c.settled

/-- What a sequence of events collects. -/
def collect (d : Dialect) (events : List TagEvent) : Except LongNumber Collected :=
  (events.foldl (step d) {}).finish

end Collector

end Affordance
