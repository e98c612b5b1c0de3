import Affordance.Markup.Node
import Affordance.Surface.Collector

/-!
# Walking a tree

  * `Node.effect`: what collecting a tree does, by recursion over the tree.  A tag is closed
    where its contents end, so no name is looked for on the stack, and a frame that does
    nothing is not put there at all.
  * `core`: a collection without the frames that do nothing; every event respects it.
  * `stack_walk`: after the events of a tree the stack is what it was, up to texts and to
    frames of tags without a name, which are never closed by their own tag.
  * **`core_walk`**: so the events of a tree do what `effect` says, and **`collect_eq`**: what
    a markup tree collects is the end of its effect.
-/

namespace Affordance

open Affordance.Text

/-! ## 1. Frames that count -/

namespace Frame

/-- Closing the frame, or text inside it, does something. -/
def counts (f : Frame) : Bool := f.role ≠ .other

/-- The frame without the text that was read. -/
def bare (f : Frame) : Frame := { f with text := "" }

@[simp] theorem bare_role (f : Frame) : f.bare.role = f.role := rfl

@[simp] theorem bare_tag (f : Frame) : f.bare.tag = f.tag := rfl

@[simp] theorem bare_addText (m : Bool) (s : String) (f : Frame) :
    (Collector.Frame.addText m s f).bare = f.bare := by
  unfold Collector.Frame.addText
  split
  · split <;> rfl
  all_goals rfl

@[simp] theorem role_addText (m : Bool) (s : String) (f : Frame) :
    (Collector.Frame.addText m s f).role = f.role := by
  rw [← bare_role, bare_addText, bare_role]

theorem role_of_bare {f g : Frame} (h : f.bare = g.bare) : f.role = g.role := by
  rw [← bare_role f, h, bare_role]

theorem tag_of_bare {f g : Frame} (h : f.bare = g.bare) : f.tag = g.tag := by
  rw [← bare_tag f, h, bare_tag]

end Frame

/-- A map of lists respects the change of one element, if it does so for every element. -/
theorem map_modify {α β : Type} {u : α → β} {f : α → α} {g : β → β} (h : ∀ a, u (f a) = g (u a)) :
    ∀ (l : List α) (i : Nat), (l.modify i f).map u = (l.map u).modify i g
  | [], i => by rw [List.modify_nil, List.map_nil, List.modify_nil]
  | a :: l, 0 => by
    rw [List.modify_zero_cons, List.map_cons, h, List.map_cons, List.modify_zero_cons]
  | a :: l, i + 1 => by
    rw [List.modify_succ_cons, List.map_cons, map_modify h l i, List.map_cons,
      List.modify_succ_cons]

namespace Collector

/-! ## 2. What closing a frame does -/

/-- A reading of a collection that sees neither its texts, labels and faults nor the options
    that are given. -/
structure Unseen {β : Type} (φ : Collector → β) : Prop where
  texts : ∀ c texts, φ { c with texts } = φ c
  labels : ∀ c labels, φ { c with labels } = φ c
  failing : ∀ c fault, φ (failing c fault) = φ c
  giveOption : ∀ c v, φ (giveOption c v) = φ c

namespace Unseen

variable {β : Type} {φ : Collector → β} (h : Unseen φ)

include h

theorem keepText (c : Collector) (f : Frame) : φ (c.keepText f) = φ c := by
  unfold Collector.keepText
  split
  · exact h.texts c _
  · rfl

theorem keepLabel (c : Collector) (f : Frame) : φ (c.keepLabel f) = φ c := by
  unfold Collector.keepLabel Collector.withLabel
  split
  · split
    · split
      · exact h.failing c _
      · rw [h.labels, h.failing]
    · exact h.failing c _
  · rfl

theorem keepOption (c : Collector) (f : Frame) : φ (c.keepOption f) = φ c := by
  have hfailing :
      φ (if f.value.isNone then c.failing (unreadableLabel? [f.text]) else c) = φ c := by
    split
    · exact h.failing c _
    · rfl
  simp only [Collector.keepOption]
  cases f.value <|> labelText f.text with
  | none => exact hfailing
  | some v => exact (h.giveOption _ v).trans hfailing

end Unseen

/-- A change of collections that closing a frame respects: it leaves alone what closing
    reads and writes, and options are given before or after it. -/
structure Respected (φ : Collector → Collector) : Prop where
  texts : ∀ c texts, φ { c with texts } = { φ c with texts }
  sameTexts : ∀ c, (φ c).texts = c.texts
  labels : ∀ c labels, φ { c with labels } = { φ c with labels }
  sameLabels : ∀ c, (φ c).labels = c.labels
  forms : ∀ c forms, φ { c with forms } = { φ c with forms }
  sameForms : ∀ c, (φ c).forms = c.forms
  muted : ∀ c muted, φ { c with muted } = { φ c with muted }
  sameMuted : ∀ c, (φ c).muted = c.muted
  failing : ∀ c fault, φ (failing c fault) = failing (φ c) fault
  giveOption : ∀ c v, φ (giveOption c v) = giveOption (φ c) v

namespace Respected

variable {φ : Collector → Collector} (h : Respected φ)

include h

theorem keepText (c : Collector) (f : Frame) : φ (c.keepText f) = (φ c).keepText f := by
  unfold Collector.keepText
  split
  · rw [h.texts, h.sameTexts]
  · rfl

theorem withLabel (c : Collector) (id : String) (text : Option String) :
    φ (c.withLabel id text) = (φ c).withLabel id text := by
  cases text with
  | none => rfl
  | some text =>
    simp only [Collector.withLabel, h.sameLabels]
    split
    · rfl
    · exact h.labels c _

theorem keepLabel (c : Collector) (f : Frame) : φ (c.keepLabel f) = (φ c).keepLabel f := by
  unfold Collector.keepLabel
  split
  · rw [h.withLabel, h.failing]
  · rfl

theorem keepOption (c : Collector) (f : Frame) : φ (c.keepOption f) = (φ c).keepOption f := by
  have hfailing : φ (if f.value.isNone then c.failing (unreadableLabel? [f.text]) else c) =
      if f.value.isNone then (φ c).failing (unreadableLabel? [f.text]) else φ c := by
    split
    · exact h.failing c _
    · rfl
  simp only [Collector.keepOption, ← hfailing]
  cases f.value <|> labelText f.text with
  | none => rfl
  | some v => exact h.giveOption _ v

/-- **Closing a frame respects the change.** -/
theorem close (c : Collector) (f : Frame) : φ (c.close f) = (φ c).close f := by
  unfold Collector.close
  rw [← h.keepText]
  cases f.role
  case form =>
    show _ = { φ (c.keepText f) with forms := (φ (c.keepText f)).forms.tail }
    rw [h.sameForms]
    exact h.forms _ _
  case label => exact h.keepLabel _ f
  case option => exact h.keepOption _ f
  case button => rfl
  case other => rfl
  all_goals
    show _ = { φ (c.keepText f) with muted := (φ (c.keepText f)).muted - 1 }
    rw [h.sameMuted]
    exact h.muted _ _

end Respected

/-! ## 3. Frames that do nothing -/

/-- The collection without the frames that do nothing. -/
def core (c : Collector) : Collector := { c with stack := c.stack.filter (·.counts) }

@[simp] theorem core_stack (c : Collector) : c.core.stack = c.stack.filter (·.counts) := rfl

/-- Frames of one role are found among the frames that count. -/
theorem find?_counts {role : FrameRole} (hrole : role ≠ .other) (stack : List Frame) :
    (stack.filter (·.counts)).find? (·.role = role) = stack.find? (·.role = role) := by
  rw [List.find?_filter]
  congr 1
  funext f
  by_cases h : f.role = role
  · simp [Frame.counts, h, hrole]
  · simp [h]

theorem core_addText (c : Collector) (s : String) : (c.addText s).core = c.core.addText s := by
  have hcounts : (fun f : Frame => f.counts) ∘ Frame.addText (decide (c.muted ≠ 0)) s =
      fun f => f.counts := by
    funext f
    simp only [Function.comp_apply, Frame.counts, Frame.role_addText]
  simp only [core, addText, List.filter_map]
  rw [hcounts]
  rfl

theorem core_failing (c : Collector) (fault : Option Number.LongNumber) :
    (c.failing fault).core = c.core.failing fault := rfl

theorem core_addElement (c : Collector) (native : Vocabulary.Native)
    (attrs : List (String × String)) (dynamic : List String) :
    (c.addElement native attrs dynamic).1.core = (c.core.addElement native attrs dynamic).1 ∧
      (c.addElement native attrs dynamic).2 = (c.core.addElement native attrs dynamic).2 := by
  refine ⟨?_, rfl⟩
  simp only [addElement, core, openLabel, failing]
  rw [find?_counts (by decide)]

theorem core_addBindings (c : Collector) (d : Dialect) (tag : String)
    (attrs : List (String × String)) (element : Option Nat) :
    (c.addBindings d tag attrs element).core = c.core.addBindings d tag attrs element := rfl

theorem core_giveOption (c : Collector) (v : String) :
    (c.giveOption v).core = c.core.giveOption v := by
  simp only [giveOption, core_stack]
  rw [find?_counts (by decide)]
  split <;> rfl

/-- A frame that does nothing leaves only itself behind. -/
theorem core_push_other (c : Collector) {f : Frame} (k : Option String) (h : f.role = .other) :
    (c.push f k).core = c.core := by
  simp [push, core, h, Frame.counts, FrameRole.keeps, FrameRole.mutes]

theorem core_push (c : Collector) {f : Frame} (k : Option String) (h : f.role ≠ .other) :
    (c.push f k).core = c.core.push f k := by
  simp [push, core, h, Frame.counts]

theorem respected_core : Respected core where
  texts _ _ := rfl
  sameTexts _ := rfl
  labels _ _ := rfl
  sameLabels _ := rfl
  forms _ _ := rfl
  sameForms _ := rfl
  muted _ _ := rfl
  sameMuted _ := rfl
  failing := core_failing
  giveOption := core_giveOption

theorem core_close (c : Collector) (f : Frame) : (c.close f).core = c.core.close f :=
  respected_core.close c f

/-- Closing a frame that does nothing changes nothing. -/
theorem close_other (c : Collector) {f : Frame} (h : f.role = .other) : c.close f = c := by
  simp [close, keepText, FrameRole.keeps, h]

/-! ## 4. Opening a tag -/

/-- What an open tag is to the collector. -/
def ownRole (d : Dialect) (name : String) (attrs : List (String × String)) : FrameRole :=
  match d.native name with
  | some native => roleOf (shape native attrs []).1
  | none => plainRole (d.tagName name)

/-- The collection with a tag's element and what its attributes bind. -/
def taken (c : Collector) (d : Dialect) (name : String) (attrs : List (String × String)) :
    Collector :=
  match d.native name with
  | some native =>
    (c.addElement native attrs []).1.addBindings d (shape native attrs []).1.text attrs
      (some c.collected.elements.length)
  | none => c.addBindings d (d.tagName name) attrs none

/-- The value that a tag gives itself as an option. -/
def ownValue (d : Dialect) (name : String) (attrs : List (String × String)) : Option String :=
  if ownRole d name attrs = .option then optionValue attrs [] else none

/-- The frame of a tag. -/
def frameOf (c : Collector) (d : Dialect) (name : String) (attrs : List (String × String)) :
    Frame where
  tag := d.tagName name
  role := ownRole d name attrs
  element := (d.native name).map fun _ => c.collected.elements.length
  labelFor := if ownRole d name attrs = .label then literal? attrs [] d.labelFor else none
  value := ownValue d name attrs
  serial := c.nextSerial

/-- The key of a tag's form. -/
def keyOf (c : Collector) (d : Dialect) (name : String) (attrs : List (String × String)) :
    Option String :=
  (d.native name).bind fun native => (c.addElement native attrs []).2.formKey

/-- A tag that is left open pushes its frame. -/
theorem openTag_open (c : Collector) (d : Dialect) (name : String)
    (attrs : List (String × String)) :
    c.openTag d name attrs false [] =
      (c.taken d name attrs).push (c.frameOf d name attrs) (c.keyOf d name attrs) := by
  unfold openTag taken frameOf keyOf ownValue ownRole
  cases d.native name <;> rfl

/-- A tag that closes itself gives its value, if it is an option. -/
theorem openTag_closed (c : Collector) (d : Dialect) (name : String)
    (attrs : List (String × String)) :
    c.openTag d name attrs true [] =
      match ownValue d name attrs with
      | some v => (c.taken d name attrs).giveOption v
      | none => c.taken d name attrs := by
  unfold openTag taken ownValue ownRole
  cases d.native name <;> rfl

theorem core_taken (c : Collector) (d : Dialect) (name : String)
    (attrs : List (String × String)) :
    (c.taken d name attrs).core = c.core.taken d name attrs := by
  unfold taken
  cases d.native name with
  | none => rfl
  | some native =>
    dsimp only
    rw [core_addBindings, (core_addElement c native attrs []).1]
    rfl

theorem stack_taken (c : Collector) (d : Dialect) (name : String)
    (attrs : List (String × String)) : (c.taken d name attrs).stack = c.stack := by
  unfold taken
  cases d.native name <;> rfl

/-- A tag opens, and its frame is put on the stack only if it counts. -/
def enter (c : Collector) (d : Dialect) (name : String) (attrs : List (String × String))
    (selfClosing : Bool) : Collector :=
  c.openTag d name attrs (selfClosing || ownRole d name attrs = .other) []

theorem core_openTag (c : Collector) (d : Dialect) (name : String)
    (attrs : List (String × String)) (selfClosing : Bool) :
    (c.openTag d name attrs selfClosing []).core = c.core.enter d name attrs selfClosing := by
  unfold enter
  cases selfClosing with
  | true =>
    rw [Bool.true_or, openTag_closed, openTag_closed, ← core_taken]
    cases ownValue d name attrs with
    | none => rfl
    | some v => exact core_giveOption _ v
  | false =>
    rw [openTag_open, Bool.false_or]
    by_cases hrole : ownRole d name attrs = .other
    · have hvalue : ownValue d name attrs = none := by
        unfold ownValue
        rw [if_neg (by rw [hrole]; decide)]
      rw [decide_eq_true hrole, openTag_closed, hvalue, core_push_other _ _ hrole, core_taken]
    · rw [decide_eq_false hrole, openTag_open, core_push _ _ hrole, core_taken]
      rfl

/-! ## 5. The stack -/

theorem stack_giveOption (c : Collector) (v : String) : (c.giveOption v).stack = c.stack := by
  unfold giveOption
  split <;> rfl

theorem stack_close (c : Collector) (f : Frame) : (c.close f).stack = c.stack := by
  have h : Unseen Collector.stack :=
    ⟨fun _ _ => rfl, fun _ _ => rfl, fun _ _ => rfl, stack_giveOption⟩
  have hkeep := h.keepText c f
  unfold close
  cases f.role
  case label => exact (h.keepLabel _ f).trans hkeep
  case option => exact (h.keepOption _ f).trans hkeep
  all_goals exact hkeep

theorem stack_openTag_closed (c : Collector) (d : Dialect) (name : String)
    (attrs : List (String × String)) : (c.openTag d name attrs true []).stack = c.stack := by
  rw [openTag_closed, ← stack_taken c d name attrs]
  cases ownValue d name attrs with
  | none => rfl
  | some v => exact stack_giveOption _ v

theorem stack_openTag_open (c : Collector) (d : Dialect) (name : String)
    (attrs : List (String × String)) :
    (c.openTag d name attrs false []).stack = c.frameOf d name attrs :: c.stack := by
  rw [openTag_open, ← stack_taken c d name attrs]
  rfl

/-- Frames of tags without a name.  No closing tag finds them, and closing them does nothing. -/
def Idle (frames : List Frame) : Prop := ∀ f ∈ frames, f.tag = "" ∧ f.role = .other

theorem Idle.nil : Idle [] := fun _ h => absurd h List.not_mem_nil

theorem Idle.append {fs gs : List Frame} (hf : Idle fs) (hg : Idle gs) : Idle (fs ++ gs) := by
  intro f hmem
  rcases List.mem_append.mp hmem with h | h
  · exact hf f h
  · exact hg f h

theorem Idle.filter_counts {fs : List Frame} (h : Idle fs) : fs.filter (·.counts) = [] := by
  rw [List.filter_eq_nil_iff]
  intro f hmem
  simp [Frame.counts, (h f hmem).2]

theorem Idle.of_bare {fs gs : List Frame} (h : Idle gs) (hbare : fs.map (·.bare) = gs) :
    Idle fs := by
  intro f hmem
  have hg := h f.bare (hbare ▸ List.mem_map_of_mem hmem)
  exact hg

theorem closeMany_succ {c : Collector} {f : Frame} {rest : List Frame} (n : Nat)
    (h : c.stack = f :: rest) :
    closeMany (n + 1) c = closeMany n (close { c with stack := rest } f) := by
  simp only [closeMany, h]

/-- Closing a frame closes the idle frames above it, which does nothing. -/
theorem closeMany_idle : ∀ (idle : List Frame) {f : Frame} {rest : List Frame} (c : Collector),
    Idle idle → c.stack = idle ++ f :: rest →
      closeMany (idle.length + 1) c = close { c with stack := rest } f
  | [], _, _, _, _, hstack => closeMany_succ 0 hstack
  | g :: idle, f, rest, c, hidle, hstack => by
    have hg := hidle g List.mem_cons_self
    have hrest : Idle idle := fun k hk => hidle k (List.mem_cons_of_mem _ hk)
    rw [List.length_cons, closeMany_succ _ hstack, close_other _ hg.2]
    exact closeMany_idle idle _ hrest rfl

/-- A closing tag closes the innermost frame of its name. -/
theorem closeTag_idle {d : Dialect} {name : String} (hname : name ≠ "")
    (htag : d.tagName name ≠ "") {c : Collector} {idle rest : List Frame} {f : Frame}
    (hidle : Idle idle) (hstack : c.stack = idle ++ f :: rest) (hf : f.tag = d.tagName name) :
    c.closeTag d name = close { c with stack := rest } f := by
  have hnone : idle.findIdx? (·.tag = d.tagName name) = none := by
    rw [List.findIdx?_eq_none_iff]
    intro g hg
    rw [(hidle g hg).1]
    exact decide_eq_false (fun h => htag h.symm)
  have hfind : c.stack.findIdx? (·.tag = d.tagName name) = some idle.length := by
    rw [hstack, List.findIdx?_append, hnone, List.findIdx?_cons]
    simp [hf]
  unfold closeTag
  rw [if_neg hname, hfind]
  exact closeMany_idle idle c hidle hstack

end Collector

namespace Markup

open Collector

/-! ## 6. The effect of a tree -/

/-- A tag closes: its frame is the innermost one, if it counts. -/
def leave (d : Dialect) (name : String) (attrs : List (String × String)) (c : Collector) :
    Collector :=
  if ownRole d name attrs = .other then c else closeMany 1 c

mutual

/-- What collecting a tree does. -/
def Node.effect (d : Dialect) (edit : String → String) : Node → Collector → Collector
  | .text s, c => c.addText (edit s)
  | .tag name attrs children, c =>
    if name = "script" ∨ name = "style" then c
    else if Vocabulary.voidTags.contains name then
      Node.effectAll d edit children (c.enter d name (attrs.map attributeOf) true)
    else
      leave d name (attrs.map attributeOf)
        (Node.effectAll d edit children (c.enter d name (attrs.map attributeOf) false))

/-- What collecting trees does. -/
def Node.effectAll (d : Dialect) (edit : String → String) : List Node → Collector → Collector
  | [], c => c
  | n :: rest, c => Node.effectAll d edit rest (n.effect d edit c)

end

/-- The collection after some events, against the one before: what has happened apart from
    frames that do nothing, and that only idle frames were added to the stack. -/
structure Walked (before after : Collector) (effect : Collector → Collector) : Prop where
  core : after.core = effect before.core
  stack : ∃ idle, Idle idle ∧
    after.stack.map (·.bare) = idle ++ before.stack.map (·.bare)

theorem Walked.trans {a b c : Collector} {f g : Collector → Collector} (hab : Walked a b f)
    (hbc : Walked b c g) : Walked a c (fun x => g (f x)) := by
  obtain ⟨k, hk, hks⟩ := hab.stack
  obtain ⟨l, hl, hls⟩ := hbc.stack
  refine ⟨by rw [hbc.core, hab.core], l ++ k, hl.append hk, ?_⟩
  rw [hls, hks, List.append_assoc]

/-- Events that leave the stack alone. -/
theorem Walked.of_stack {before after : Collector} {effect : Collector → Collector}
    (hcore : after.core = effect before.core)
    (hstack : after.stack.map (·.bare) = before.stack.map (·.bare)) :
    Walked before after effect :=
  ⟨hcore, [], Idle.nil, by rw [hstack, List.nil_append]⟩

theorem tagName_empty (d : Dialect) : d.tagName "" = "" := by
  unfold Dialect.tagName
  split <;> rfl

theorem lower_ne_nil {c : Char} {s : List Char} : Text.lower (c :: s) ≠ [] := by
  unfold Text.lower Text.lowerFrom
  dsimp only
  split
  · exact List.cons_ne_nil _ _
  · split <;> exact List.cons_ne_nil _ _

/-- Only the empty name is compared as the empty name. -/
theorem tagName_ne_empty (d : Dialect) {name : String} (h : name ≠ "") : d.tagName name ≠ "" := by
  unfold Dialect.tagName
  split
  · exact h
  · intro hlower
    have hnil : Text.lower name.toList = [] := by
      simpa [toLower] using congrArg String.toList hlower
    cases hs : name.toList with
    | nil => exact h (by simpa using congrArg String.ofList hs)
    | cons c s =>
      rw [hs] at hnil
      exact lower_ne_nil hnil

theorem native_empty (d : Dialect) : d.native "" = none := by
  unfold Dialect.native
  split <;> decide +kernel

theorem ownRole_empty (d : Dialect) (attrs : List (String × String)) :
    ownRole d "" attrs = .other := by
  unfold ownRole
  rw [native_empty, tagName_empty]
  show plainRole "" = .other
  decide +kernel

/-- The frame of a tag without a name is idle. -/
theorem idle_frameOf_empty (c : Collector) (d : Dialect) (attrs : List (String × String)) :
    Idle [(c.frameOf d "" attrs).bare] := by
  intro f hf
  rw [List.mem_singleton.mp hf]
  exact ⟨tagName_empty d, ownRole_empty d attrs⟩

/-- A tag opens, its contents are walked, and its closing tag follows. -/
theorem Walked.close {d : Dialect} {name : String} {attrs : List (String × String)}
    {c r : Collector} {contents : Collector → Collector}
    (h : Walked (c.openTag d name attrs false []) r contents) :
    Walked c (r.closeTag d name) fun x =>
      leave d name attrs (contents (x.enter d name attrs false)) := by
  obtain ⟨idle, hidle, hstack⟩ := h.stack
  rw [stack_openTag_open, List.map_cons] at hstack
  have hcore : r.core = contents (c.core.enter d name attrs false) := by
    rw [h.core, core_openTag]
  by_cases hname : name = ""
  · -- the frame of a tag without a name stays where it is
    subst hname
    have hclose : r.closeTag d "" = r := if_pos rfl
    refine ⟨?_, idle ++ [(c.frameOf d "" attrs).bare],
      hidle.append (idle_frameOf_empty c d attrs), ?_⟩
    · rw [hclose, hcore]
      exact (if_pos (ownRole_empty d attrs)).symm
    · rw [hclose, hstack, List.append_assoc, List.singleton_append]
  · obtain ⟨above, frames, hr, habove, hframes⟩ := List.map_eq_append_iff.mp hstack
    obtain ⟨f, rest, rfl, hf, hrest⟩ := List.map_eq_cons_iff.mp hframes
    have hidleAbove : Idle above := hidle.of_bare habove
    rw [closeTag_idle hname (tagName_ne_empty d hname) hidleAbove hr (Frame.tag_of_bare hf)]
    refine Walked.of_stack ?_ (by rw [stack_close]; exact hrest)
    have hrole : f.role = ownRole d name attrs := Frame.role_of_bare hf
    have hfiltered : r.core.stack = (f :: rest).filter (·.counts) := by
      rw [core_stack, hr, List.filter_append, hidleAbove.filter_counts, List.nil_append]
    unfold leave
    rw [← hcore]
    by_cases hother : ownRole d name attrs = .other
    · rw [if_pos hother, close_other _ (hrole.trans hother)]
      rw [List.filter_cons_of_neg (by simp [Frame.counts, hrole, hother])] at hfiltered
      show { r with stack := rest.filter (·.counts) } = r.core
      rw [← hfiltered]
      rfl
    · rw [if_neg hother, core_close]
      rw [List.filter_cons_of_pos (by simp [Frame.counts, hrole, hother])] at hfiltered
      simp only [closeMany, hfiltered]
      rfl

mutual

theorem Node.walked (d : Dialect) (edit : String → String) :
    ∀ (n : Node) (c : Collector),
      Walked c ((n.events edit).foldl (Collector.step d) c) (n.effect d edit)
  | .text s, c => by
    simp only [Node.events, List.foldl_cons, List.foldl_nil, Collector.step]
    refine Walked.of_stack (by rw [core_addText, Node.effect]) ?_
    simp only [Collector.addText, List.map_map]
    congr 1
    funext f
    exact Frame.bare_addText _ _ f
  | .tag name attrs children, c => by
    simp only [Node.events, Node.effect]
    by_cases hskip : name = "script" ∨ name = "style"
    · simp only [if_pos hskip]
      exact Walked.of_stack rfl rfl
    · simp only [if_neg hskip]
      by_cases hvoid : Vocabulary.voidTags.contains name = true
      · simp only [if_pos hvoid, List.foldl_cons]
        have hopen : Walked c (c.openTag d name (attrs.map attributeOf) true [])
            (·.enter d name (attrs.map attributeOf) true) :=
          Walked.of_stack (core_openTag c d name _ true) (by rw [stack_openTag_closed])
        exact hopen.trans (Node.walkedAll d edit children _)
      · simp only [if_neg hvoid, List.foldl_cons, List.foldl_append, List.foldl_nil]
        exact (Node.walkedAll d edit children _).close

theorem Node.walkedAll (d : Dialect) (edit : String → String) :
    ∀ (ns : List Node) (c : Collector),
      Walked c ((Node.eventsAll edit ns).foldl (Collector.step d) c) (Node.effectAll d edit ns)
  | [], c => Walked.of_stack rfl rfl
  | n :: rest, c => by
    simp only [Node.eventsAll, List.foldl_append, Node.effectAll]
    exact (Node.walked d edit n c).trans (Node.walkedAll d edit rest _)

end

/-- **The events of trees do what the effect of the trees says.** -/
theorem core_walk (d : Dialect) (edit : String → String) (ns : List Node) (c : Collector) :
    ((Node.eventsAll edit ns).foldl (Collector.step d) c).core = Node.effectAll d edit ns c.core :=
  (Node.walkedAll d edit ns c).core

/-! ## 7. The whole collection -/

/-- Closing all frames is closing all frames that count. -/
theorem core_closed_of : ∀ (stack : List Frame) (c : Collector), c.stack = stack →
    closeMany stack.length c = closeMany (stack.filter (·.counts)).length c.core
  | [], c, h => by
    simp only [List.length_nil, List.filter_nil, closeMany, core, h]
    rw [← h]
  | f :: rest, c, h => by
    have hclosed : (close { c with stack := rest } f).stack = rest := stack_close _ f
    have ih := core_closed_of rest _ hclosed
    rw [List.length_cons, closeMany_succ _ h, ih]
    by_cases hf : f.role = .other
    · have hstack : c.stack.filter (·.counts) = rest.filter (·.counts) := by
        rw [h, List.filter_cons_of_neg (by simp [Frame.counts, hf])]
      rw [List.filter_cons_of_neg (by simp [Frame.counts, hf]), close_other _ hf]
      unfold core
      rw [hstack]
    · have hstack : c.core.stack = f :: rest.filter (·.counts) := by
        rw [core_stack, h, List.filter_cons_of_pos (by simp [Frame.counts, hf])]
      rw [List.filter_cons_of_pos (by simp [Frame.counts, hf]), List.length_cons,
        closeMany_succ _ hstack, core_close]
      rfl

theorem finish_core (c : Collector) : c.core.finish = c.finish := by
  have hclosed : c.closed = c.core.closed := core_closed_of c.stack c rfl
  simp only [finish, hclosed]

/-- Leaving a tag closes its frame, which is the innermost one again, if it counts. -/
theorem leave_cases {d : Dialect} {name : String} {attrs : List (String × String)}
    {c r : Collector}
    (h : r.stack.map (·.bare) = (c.enter d name attrs false).stack.map (·.bare)) :
    (ownRole d name attrs = .other ∧ leave d name attrs r = r ∧
        r.stack.map (·.bare) = c.stack.map (·.bare)) ∨
      ∃ f rest, f.role = ownRole d name attrs ∧ rest.map (·.bare) = c.stack.map (·.bare) ∧
        leave d name attrs r = close { r with stack := rest } f := by
  unfold leave
  unfold enter at h
  rw [Bool.false_or] at h
  by_cases hother : ownRole d name attrs = .other
  · rw [decide_eq_true hother, stack_openTag_closed] at h
    exact .inl ⟨hother, if_pos hother, h⟩
  · rw [decide_eq_false hother, stack_openTag_open, List.map_cons] at h
    obtain ⟨f, rest, hr, hf, hrest⟩ := List.map_eq_cons_iff.mp h
    refine .inr ⟨f, rest, Frame.role_of_bare hf, hrest, ?_⟩
    rw [if_neg hother, closeMany_succ 0 hr]
    rfl

/-- Leaving a tag takes its frame from the stack. -/
theorem bare_leave {d : Dialect} {name : String} {attrs : List (String × String)}
    {c r : Collector}
    (h : r.stack.map (·.bare) = (c.enter d name attrs false).stack.map (·.bare)) :
    (leave d name attrs r).stack.map (·.bare) = c.stack.map (·.bare) := by
  rcases leave_cases h with ⟨_, hr, hstack⟩ | ⟨f, rest, _, hrest, hr⟩
  · rw [hr, hstack]
  · rw [hr, stack_close]
    exact hrest

mutual

theorem Node.bare_effect (d : Dialect) (edit : String → String) : ∀ (n : Node) (c : Collector),
    (n.effect d edit c).stack.map (·.bare) = c.stack.map (·.bare)
  | .text s, c => by
    simp only [Node.effect, Collector.addText, List.map_map]
    congr 1
    funext f
    exact Frame.bare_addText _ _ f
  | .tag name attrs children, c => by
    simp only [Node.effect]
    split
    · rfl
    · split
      · rw [Node.bare_effectAll d edit children]
        unfold enter
        rw [Bool.true_or, stack_openTag_closed]
      · exact bare_leave (Node.bare_effectAll d edit children _)

/-- Trees leave the stack as they find it, up to the texts. -/
theorem Node.bare_effectAll (d : Dialect) (edit : String → String) :
    ∀ (ns : List Node) (c : Collector),
      (Node.effectAll d edit ns c).stack.map (·.bare) = c.stack.map (·.bare)
  | [], c => rfl
  | n :: rest, c => by
    simp only [Node.effectAll]
    rw [Node.bare_effectAll d edit rest, Node.bare_effect d edit n]

end

theorem stack_effectAll_empty (d : Dialect) (edit : String → String) (ns : List Node) :
    (Node.effectAll d edit ns {}).stack = [] :=
  List.map_eq_nil_iff.mp (Node.bare_effectAll d edit ns {})

/-- **What markup trees collect is the end of their effect on an empty collection.** -/
theorem collect_eq (d : Dialect) (edit : String → String) (ns : List Node) :
    Collector.collect d (Node.eventsAll edit ns) = (Node.effectAll d edit ns {}).finish := by
  unfold Collector.collect
  rw [← finish_core, core_walk]
  rfl

end Markup

end Affordance
