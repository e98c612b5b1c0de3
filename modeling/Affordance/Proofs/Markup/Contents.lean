import Affordance.Proofs.Markup.Nesting

/-!
# Contents of tags

  * `frameRole`: what a tag is while it is open.  `effect_passed`, `effect_framed`: a tag either
    leaves no frame, or its frame is closed right after its contents.
  * `effect_induction`: hence a property of trees and collections is shown by one case for each
    way to meet a tree.
  * `fullText`, `heardText`: the text of a tag's contents, and what a label hears of it.
  * **`heard_effect`**: the open frames have heard the texts of the trees, and nothing else;
    **`close_framed`**: so a frame is closed with the text of its contents.
  * `Sight`: a collected tag with the texts around it and in it; `Node.sights` lists them in the
    order of the source.
-/

namespace Affordance

open Affordance.Text

namespace Collector

/-! ## 1. Readings that closing a frame leaves alone -/

/-- Closing a frame leaves a reading alone that does not see what is open, either. -/
theorem Unseen.close {β : Type} {φ : Collector → β} (h : Unseen φ)
    (hforms : ∀ c forms, φ { c with forms } = φ c) (hmuted : ∀ c muted, φ { c with muted } = φ c)
    (c : Collector) (f : Frame) : φ (c.close f) = φ c := by
  have hkeep := h.keepText c f
  unfold Collector.close
  cases f.role
  case form => exact (hforms _ _).trans hkeep
  case label => exact (h.keepLabel _ f).trans hkeep
  case option => exact (h.keepOption _ f).trans hkeep
  case select => exact (hmuted _ _).trans hkeep
  case textarea => exact (hmuted _ _).trans hkeep
  all_goals exact hkeep

section Options

variable {β : Type} {φ : Collector → β} (h : ∀ c collected, φ { c with collected } = φ c)

include h

/-- Giving an option changes nothing but elements. -/
theorem eq_giveOption (c : Collector) (v : String) : φ (c.giveOption v) = φ c := by
  unfold giveOption
  split
  · exact h c _
  · rfl

/-- Closing an option changes nothing but elements and the fault. -/
theorem eq_keepOption (hfailing : ∀ c fault, φ (failing c fault) = φ c) (c : Collector)
    (f : Frame) : φ (c.keepOption f) = φ c := by
  have hread : φ (if f.value.isNone then c.failing (unreadableLabel? [f.text]) else c) = φ c := by
    split
    · exact hfailing c _
    · rfl
  unfold keepOption
  dsimp only
  split
  · exact (eq_giveOption h _ _).trans hread
  · exact hread

end Options

/-- Closing a selection or a text area lets text be heard again. -/
theorem muted_close (c : Collector) (f : Frame) :
    (c.close f).muted = if FrameRole.mutes f.role then c.muted - 1 else c.muted := by
  have h : Unseen Collector.muted :=
    ⟨fun _ _ => rfl, fun _ _ => rfl, fun _ _ => rfl, eq_giveOption fun _ _ => rfl⟩
  have hkeep := h.keepText c f
  unfold close
  cases f.role
  case label => exact (h.keepLabel _ f).trans hkeep
  case option => exact (h.keepOption _ f).trans hkeep
  case select => exact congrArg (· - 1) hkeep
  case textarea => exact congrArg (· - 1) hkeep
  all_goals exact hkeep

/-- A selection or a text area is open. -/
def quiet (c : Collector) : Bool := c.muted ≠ 0

theorem muted_taken (c : Collector) (d : Dialect) (name : String)
    (attrs : List (String × String)) : (c.taken d name attrs).muted = c.muted := by
  unfold taken
  cases d.native name <;> rfl

theorem quiet_taken (c : Collector) (d : Dialect) (name : String)
    (attrs : List (String × String)) : (c.taken d name attrs).quiet = c.quiet := by
  unfold quiet
  rw [muted_taken]

/-! ## 2. What a tag is while it is open -/

/-- What a tag is to the collector while it is open.  A void tag is never open: what a tree holds
    in it stands beside it. -/
def frameRole (d : Dialect) (name : String) (attrs : List (String × String)) : FrameRole :=
  if Vocabulary.voidTags.contains name then .other else ownRole d name attrs

/-- A void tag is no option. -/
theorem void_ne_option {d : Dialect} {name : String} (attrs : List (String × String))
    (hvoid : Vocabulary.voidTags.contains name = true) : ownRole d name attrs ≠ .option := by
  have hall : ∀ n ∈ Vocabulary.voidTags,
      plainRole n ≠ .option ∧ plainRole (toLower n) ≠ .option := by decide +kernel
  obtain ⟨hexact, hlower⟩ := hall name (List.contains_iff_mem.mp hvoid)
  unfold ownRole
  split
  · cases (shape _ attrs []).1 <;> decide
  · unfold Dialect.tagName
    split
    · exact hexact
    · exact hlower

/-- The collection with the frame of a tag. -/
def opened (c : Collector) (d : Dialect) (name : String) (attrs : List (String × String)) :
    Collector :=
  (c.taken d name attrs).push (c.frameOf d name attrs) (c.keyOf d name attrs)

variable {d : Dialect} {name : String} {attrs : List (String × String)}

theorem stack_opened (c : Collector) :
    (c.opened d name attrs).stack = c.frameOf d name attrs :: c.stack := by
  rw [opened, ← stack_taken c d name attrs]
  rfl

theorem muted_opened (c : Collector) : (c.opened d name attrs).muted =
    if FrameRole.mutes (ownRole d name attrs) then c.muted + 1 else c.muted := by
  rw [← muted_taken c d name attrs]
  rfl

theorem quiet_opened (c : Collector) :
    (c.opened d name attrs).quiet = (c.quiet || FrameRole.mutes (ownRole d name attrs)) := by
  unfold quiet
  rw [muted_opened]
  split <;> simp [*]

/-- A button or a selection is collected. -/
theorem native_of_ownRole (h : ownRole d name attrs = .button ∨ ownRole d name attrs = .select) :
    ∃ native, d.native name = some native := by
  cases hnative : d.native name with
  | some native => exact ⟨native, rfl⟩
  | none =>
    have hplain : plainRole (d.tagName name) ≠ .button ∧ plainRole (d.tagName name) ≠ .select := by
      unfold plainRole
      repeat' split
      all_goals decide
    unfold ownRole at h
    rw [hnative] at h
    rcases h with h | h
    · exact absurd h hplain.1
    · exact absurd h hplain.2

/-- A tag without a frame leaves its element and what its attributes bind. -/
theorem enter_passed (c : Collector) (h : frameRole d name attrs = .other) :
    c.enter d name attrs (Vocabulary.voidTags.contains name) = c.taken d name attrs := by
  have hoption : ownRole d name attrs ≠ .option := by
    unfold frameRole at h
    split at h
    · next hvoid => exact void_ne_option attrs hvoid
    · rw [h]
      decide
  have hvalue : ownValue d name attrs = none := if_neg hoption
  have hclosed : (Vocabulary.voidTags.contains name || decide (ownRole d name attrs = .other)) =
      true := by
    unfold frameRole at h
    split at h
    · next hvoid => rw [hvoid, Bool.true_or]
    · rw [decide_eq_true h, Bool.or_true]
  unfold enter
  rw [hclosed, openTag_closed, hvalue]

end Collector

namespace Markup

open Collector

/-! ## 3. Trees, one after the other -/

section Trees

variable {d : Dialect} {edit : String → String} {name : String} {attrs : List (String × String)}
  {children : List Node}

theorem effect_skipped (hskip : name = "script" ∨ name = "style") (c : Collector) :
    (Node.tag name attrs children).effect d edit c = c := by
  rw [Node.effect, if_pos hskip]

/-- A tag without a frame: its contents are collected after it. -/
theorem effect_passed (hskip : ¬ (name = "script" ∨ name = "style"))
    (h : frameRole d name (attrs.map attributeOf) = .other) (c : Collector) :
    (Node.tag name attrs children).effect d edit c =
      Node.effectAll d edit children (c.taken d name (attrs.map attributeOf)) := by
  have henter := enter_passed c h
  rw [Node.effect, if_neg hskip]
  split
  · next hvoid =>
    rw [hvoid] at henter
    rw [henter]
  · next hvoid =>
    rw [Bool.of_not_eq_true hvoid] at henter
    rw [frameRole, if_neg hvoid] at h
    rw [leave, if_pos h, henter]

/-- A tag with a frame: its contents are collected, and the frame is closed. -/
theorem effect_framed (hskip : ¬ (name = "script" ∨ name = "style"))
    (h : frameRole d name (attrs.map attributeOf) ≠ .other) (c : Collector) :
    (Node.tag name attrs children).effect d edit c =
      closeMany 1 (Node.effectAll d edit children (c.opened d name (attrs.map attributeOf))) := by
  unfold frameRole at h
  split at h
  · exact absurd rfl h
  · next hvoid =>
    rw [Node.effect, if_neg hskip, if_neg hvoid, leave, if_neg h]
    unfold enter
    rw [decide_eq_false h, Bool.or_false, openTag_open]
    rfl

theorem ownRole_of_framed (h : frameRole d name attrs ≠ .other) :
    ownRole d name attrs = frameRole d name attrs := by
  unfold frameRole at h ⊢
  split
  · next hvoid => exact absurd (if_pos hvoid) h
  · rfl

/-- **Trees are met one after the other, each with its contents.** -/
@[elab_as_elim]
theorem effect_induction (d : Dialect) (edit : String → String)
    {motive : List Node → Collector → Prop}
    (nil : ∀ c, motive [] c)
    (text : ∀ s rest c, motive rest (c.addText (edit s)) → motive (.text s :: rest) c)
    (skipped : ∀ name attrs children rest c, name = "script" ∨ name = "style" →
      motive rest c → motive (.tag name attrs children :: rest) c)
    (passed : ∀ name attrs children rest c, ¬ (name = "script" ∨ name = "style") →
      frameRole d name (attrs.map attributeOf) = .other →
      motive children (c.taken d name (attrs.map attributeOf)) →
      motive rest ((Node.tag name attrs children).effect d edit c) →
      motive (.tag name attrs children :: rest) c)
    (framed : ∀ name attrs children rest c, ¬ (name = "script" ∨ name = "style") →
      frameRole d name (attrs.map attributeOf) ≠ .other →
      motive children (c.opened d name (attrs.map attributeOf)) →
      motive rest ((Node.tag name attrs children).effect d edit c) →
      motive (.tag name attrs children :: rest) c)
    (ns : List Node) (c : Collector) : motive ns c := by
  -- a tree is met together with the trees after it, which are shown for every collection
  refine @Node.rec_1 (fun n => ∀ rest, (∀ c, motive rest c) → ∀ c, motive (n :: rest) c)
    (fun ns => ∀ c, motive ns c) ?text ?tag nil ?cons ns c
  case text => exact fun s rest hrest c => text s rest c (hrest _)
  case tag =>
    intro name attrs children hchildren rest hrest c
    by_cases hskip : name = "script" ∨ name = "style"
    · exact skipped name attrs children rest c hskip (hrest c)
    · by_cases h : frameRole d name (attrs.map attributeOf) = .other
      · exact passed name attrs children rest c hskip h (hchildren _) (hrest _)
      · exact framed name attrs children rest c hskip h (hchildren _) (hrest _)
  case cons => exact fun n rest hn hrest c => hn rest hrest c

end Trees

/-! ## 4. Texts of contents -/

mutual

/-- The text of a tree, without the tags that are left out.  Scripts and styles hold no text. -/
def Node.words (d : Dialect) (edit : String → String) (leftOut : FrameRole → Bool) : Node → String
  | .text s => edit s
  | .tag name attrs children =>
    if name = "script" ∨ name = "style" then ""
    else if leftOut (frameRole d name (attrs.map attributeOf)) then ""
    else Node.wordsAll d edit leftOut children

/-- The text of trees, without the tags that are left out. -/
def Node.wordsAll (d : Dialect) (edit : String → String) (leftOut : FrameRole → Bool) :
    List Node → String
  | [] => ""
  | n :: rest => n.words d edit leftOut ++ Node.wordsAll d edit leftOut rest

end

/-- All text of a tag's contents. -/
def fullText (d : Dialect) (edit : String → String) (ns : List Node) : String :=
  Node.wordsAll d edit (fun _ => false) ns

/-- The text of a tag's contents outside selections and text areas; nothing, if the tag itself
    stands in one. -/
def heardText (d : Dialect) (edit : String → String) (quiet : Bool) (ns : List Node) : String :=
  if quiet then "" else Node.wordsAll d edit FrameRole.mutes ns

section Texts

variable {d : Dialect} {edit : String → String} {name : String} {attrs : List (String × String)}
  {children rest : List Node}

theorem fullText_text (s : String) :
    fullText d edit (.text s :: rest) = edit s ++ fullText d edit rest := by
  simp only [fullText, Node.wordsAll, Node.words]

theorem fullText_skipped (h : name = "script" ∨ name = "style") :
    fullText d edit (.tag name attrs children :: rest) = fullText d edit rest := by
  simp only [fullText, Node.wordsAll, Node.words, if_pos h, String.empty_append]

theorem fullText_tag (h : ¬ (name = "script" ∨ name = "style")) :
    fullText d edit (.tag name attrs children :: rest) =
      fullText d edit children ++ fullText d edit rest := by
  simp only [fullText, Node.wordsAll, Node.words, if_neg h, Bool.false_eq_true, if_false]

theorem heardText_text (quiet : Bool) (s : String) :
    heardText d edit quiet (.text s :: rest) =
      (if quiet then "" else edit s) ++ heardText d edit quiet rest := by
  cases quiet <;> simp [heardText, Node.wordsAll, Node.words]

theorem heardText_skipped (quiet : Bool) (h : name = "script" ∨ name = "style") :
    heardText d edit quiet (.tag name attrs children :: rest) = heardText d edit quiet rest := by
  simp only [heardText, Node.wordsAll, Node.words, if_pos h, String.empty_append]

theorem heardText_tag (quiet : Bool) (h : ¬ (name = "script" ∨ name = "style")) :
    heardText d edit quiet (.tag name attrs children :: rest) =
      heardText d edit (quiet || FrameRole.mutes (frameRole d name (attrs.map attributeOf)))
        children ++ heardText d edit quiet rest := by
  simp only [heardText, Node.wordsAll, Node.words, if_neg h]
  cases quiet <;> cases FrameRole.mutes (frameRole d name (attrs.map attributeOf)) <;> simp

end Texts

/-! ## 5. What open frames hear -/

end Markup

/-- A frame that has heard a text: a label hears less than the others. -/
def Frame.hear (full heard : String) (f : Frame) : Frame :=
  match f.role with
  | .label => { f with text := f.text ++ heard }
  | .button => { f with text := f.text ++ full }
  | .option => { f with text := f.text ++ full }
  | _ => f

namespace Frame

@[simp] theorem hear_empty (f : Frame) : f.hear "" "" = f := by
  unfold hear
  split <;> simp

@[simp] theorem hear_role (full heard : String) (f : Frame) :
    (f.hear full heard).role = f.role := by
  unfold hear
  split <;> rfl

/-- What is heard first comes first. -/
theorem hear_hear (full heard full' heard' : String) (f : Frame) :
    (f.hear full heard).hear full' heard' = f.hear (full ++ full') (heard ++ heard') := by
  unfold hear
  cases h : f.role <;> simp [h, String.append_assoc]

theorem addText_eq_hear (muted : Bool) (s : String) (f : Frame) :
    Collector.Frame.addText muted s f = f.hear s (if muted then "" else s) := by
  unfold hear Collector.Frame.addText
  cases h : f.role <;> cases muted <;> simp [← h]

end Frame

namespace Markup

open Collector

/-- The open frames have heard two texts, and as many selections are open as before. -/
structure Heard (full heard : String) (before after : Collector) : Prop where
  stack : after.stack = before.stack.map (·.hear full heard)
  muted : after.muted = before.muted

namespace Heard

variable {full heard full' heard' : String} {a b c : Collector}

theorem refl (c : Collector) : Heard "" "" c c where
  stack := by simp
  muted := rfl

theorem trans (hab : Heard full heard a b) (hbc : Heard full' heard' b c) :
    Heard (full ++ full') (heard ++ heard') a c where
  stack := by
    rw [hbc.stack, hab.stack, List.map_map]
    congr 1
    funext f
    exact Frame.hear_hear full heard full' heard' f
  muted := hbc.muted.trans hab.muted

theorem quiet (h : Heard full heard a b) : b.quiet = a.quiet := by
  unfold Collector.quiet
  rw [h.muted]

theorem addText (c : Collector) (s : String) :
    Heard s (if c.quiet then "" else s) c (c.addText s) where
  stack := List.map_congr_left fun f _ => Frame.addText_eq_hear c.quiet s f
  muted := rfl

end Heard

/-- What the innermost frame leaves when it is closed after it has heard its contents. -/
theorem closeMany_heard {d : Dialect} {name : String} {attrs : List (String × String)}
    {full heard : String} {c r : Collector} (h : Heard full heard (c.opened d name attrs) r) :
    closeMany 1 r =
      close { r with stack := c.stack.map (·.hear full heard) }
        ((c.frameOf d name attrs).hear full heard) := by
  have hstack := h.stack
  rw [stack_opened, List.map_cons] at hstack
  rw [closeMany_succ 0 hstack]
  rfl

/-- A frame that is opened and closed again: only the frames around it have heard more. -/
theorem Heard.close {d : Dialect} {name : String} {attrs : List (String × String)}
    {full heard : String} {c r : Collector} (h : Heard full heard (c.opened d name attrs) r) :
    Heard full heard c (closeMany 1 r) where
  stack := by rw [closeMany_heard h, stack_close]
  muted := by
    have hmuted : r.muted = _ := h.muted.trans (muted_opened c)
    have hrole : ((c.frameOf d name attrs).hear full heard).role = ownRole d name attrs :=
      Frame.hear_role full heard _
    rw [closeMany_heard h, muted_close, hrole, hmuted]
    split <;> rfl

/-- **The open frames have heard the trees.** -/
theorem heard_effect (d : Dialect) (edit : String → String) (ns : List Node) (c : Collector) :
    Heard (fullText d edit ns) (heardText d edit c.quiet ns) c (Node.effectAll d edit ns c) := by
  induction ns, c using effect_induction d edit with
  | nil c =>
    have hheard : heardText d edit c.quiet [] = "" := ite_self _
    rw [hheard]
    exact Heard.refl c
  | text s rest c hrest =>
    have hs := Heard.addText c (edit s)
    rw [hs.quiet] at hrest
    rw [fullText_text, heardText_text]
    exact hs.trans hrest
  | skipped name attrs children rest c hskip hrest =>
    rw [fullText_skipped hskip, heardText_skipped _ hskip, Node.effectAll, effect_skipped hskip]
    exact hrest
  | passed name attrs children rest c hskip hrole hchildren hrest =>
    have htag : Heard (fullText d edit children) (heardText d edit c.quiet children) c
        ((Node.tag name attrs children).effect d edit c) := by
      rw [quiet_taken] at hchildren
      rw [effect_passed hskip hrole]
      exact ⟨by rw [hchildren.stack, stack_taken], hchildren.muted.trans (muted_taken ..)⟩
    rw [htag.quiet] at hrest
    rw [fullText_tag hskip, heardText_tag _ hskip, hrole, Node.effectAll]
    show Heard _ (heardText d edit (c.quiet || false) children ++ _) _ _
    rw [Bool.or_false]
    exact htag.trans hrest
  | framed name attrs children rest c hskip hrole hchildren hrest =>
    -- the frames around have heard the contents as they were heard in the tag
    have htag := hchildren.close
    rw [← effect_framed hskip hrole] at htag
    rw [htag.quiet] at hrest
    rw [fullText_tag hskip, heardText_tag _ hskip, Node.effectAll, ← ownRole_of_framed hrole,
      ← quiet_opened]
    exact htag.trans hrest

theorem quiet_effect (d : Dialect) (edit : String → String) (n : Node) (c : Collector) :
    (n.effect d edit c).quiet = c.quiet := by
  have h := (heard_effect d edit [n] c).quiet
  rw [Node.effectAll, Node.effectAll] at h
  exact h

/-- **A frame is closed with the text of its contents.** -/
theorem close_framed {d : Dialect} {name : String} {attrs : List (String × String)}
    (edit : String → String) (children : List Node) (hskip : ¬ (name = "script" ∨ name = "style"))
    (hrole : frameRole d name (attrs.map attributeOf) ≠ .other) (c : Collector) :
    ∃ stack, (Node.tag name attrs children).effect d edit c =
      close { Node.effectAll d edit children (c.opened d name (attrs.map attributeOf)) with stack }
        ((c.frameOf d name (attrs.map attributeOf)).hear (fullText d edit children)
          (heardText d edit (c.opened d name (attrs.map attributeOf)).quiet children)) ∧
      Heard (fullText d edit children)
        (heardText d edit (c.opened d name (attrs.map attributeOf)).quiet children)
        c { c with stack } := by
  have h := heard_effect d edit children (c.opened d name (attrs.map attributeOf))
  exact ⟨_, (effect_framed hskip hrole c).trans (closeMany_heard h), rfl, rfl⟩

/-- What trees collect is settled at the end of their effect. -/
theorem eq_settled {d : Dialect} {edit : String → String} {ns : List Node} {c : Collected}
    (h : Collector.collect d (Node.eventsAll edit ns) = .ok c) :
    c = (Node.effectAll d edit ns {}).settled := by
  have hclosed : (Node.effectAll d edit ns {}).closed = Node.effectAll d edit ns {} := by
    rw [closed, stack_effectAll_empty]
    rfl
  rw [collect_eq] at h
  simp only [finish, hclosed] at h
  split at h
  · cases h
  · exact (Except.ok.inj h).symm

/-! ## 6. Sights -/

/-- An option with its text. -/
structure Choice where
  attributes : List (String × String)
  text : String
  deriving Repr, DecidableEq

/-- A collected tag, with what a reader sees around it and in it. -/
structure Sight where
  native : Vocabulary.Native
  attributes : List (String × String)
  /-- What the innermost label around it hears. -/
  around : Option String
  /-- The text in it, if it is a button with a content. -/
  inside : Option String
  /-- The options in it, if it is a selection, in the order in which they are closed. -/
  choices : List Choice
  deriving Repr, DecidableEq

mutual

/-- The options of a tree that no selection in the tree takes, in the order in which they are
    closed. -/
def Node.choices (d : Dialect) (edit : String → String) : Node → List Choice
  | .text _ => []
  | .tag name attrs children =>
    let role := frameRole d name (attrs.map attributeOf)
    if name = "script" ∨ name = "style" ∨ role = .select then []
    else
      Node.choicesAll d edit children ++
        if role = .option then [⟨attrs.map attributeOf, fullText d edit children⟩] else []

/-- The options of trees. -/
def Node.choicesAll (d : Dialect) (edit : String → String) : List Node → List Choice
  | [] => []
  | n :: rest => n.choices d edit ++ Node.choicesAll d edit rest

end

/-- The element that the tag stands for; some inputs are buttons. -/
def Sight.tag (s : Sight) : ElementTag := (shape s.native s.attributes []).1

/-- The sight of a tag, if it is collected. -/
def sightOf (d : Dialect) (edit : String → String) (around : Option String) (name : String)
    (attrs : List (String × String)) (children : List Node) : Option Sight :=
  let role := frameRole d name attrs
  (d.native name).map fun native => {
    native, attributes := attrs, around
    inside := if role = .button then some (fullText d edit children) else none
    choices := if role = .select then Node.choicesAll d edit children else [] }

mutual

/-- The sights of a tree, in the order in which the tags open, given what stands around it: whether
    it is in a selection or a text area, and what the innermost label hears. -/
def Node.sights (d : Dialect) (edit : String → String) (quiet : Bool) (around : Option String) :
    Node → List Sight
  | .text _ => []
  | .tag name attrs children =>
    let role := frameRole d name (attrs.map attributeOf)
    let inner := quiet || FrameRole.mutes role
    if name = "script" ∨ name = "style" then []
    else
      (sightOf d edit around name (attrs.map attributeOf) children).toList ++
        Node.sightsAll d edit inner
          (if role = .label then some (heardText d edit inner children) else around) children

/-- The sights of trees. -/
def Node.sightsAll (d : Dialect) (edit : String → String) (quiet : Bool) (around : Option String) :
    List Node → List Sight
  | [] => []
  | n :: rest =>
    n.sights d edit quiet around ++ Node.sightsAll d edit quiet around rest

end

end Markup

end Affordance
