import Mathlib.Data.List.Induction
import Affordance.Proofs.Markup.Contents

/-!
# Open frames

A collection keeps the keys of the open forms and the number of open selections and text areas
beside the stack. Both say what is on the stack, whatever is opened and closed.

  * `Tallied`: they do. `tallied_push`, `tallied_close`: a frame more and a frame less;
    `Tallied.of_retains`: everything else leaves open what is open (`Retains`).
  * `tallied_step`: so every event keeps it so, whether the tag that it closes is open or not.
  * `adds_step`: an event makes one element at most, whose parent is the innermost form open then.
  * **`frames_accounted`**: so what is open is tallied after any events, and whenever a part of it
    is closed; and each element has the innermost form of its moment (`MadeIn`).
-/

namespace Affordance.Collector

open Affordance.Text

variable {c c' : Collector} {d : Dialect}

/-! ## 1. What is open -/

/-- The key of the element at a place, if it is a form. -/
def elementKey (c : Collector) (i : Nat) : Option String :=
  c.collected.elements[i]?.bind (·.formKey)

/-- The key of the element of a frame, if it is a form. -/
def frameKey (c : Collector) (f : Frame) : Option String := f.element.bind c.elementKey

/-- The key of the innermost open form. -/
def innermostForm (c : Collector) : Option String :=
  (c.stack.find? (·.role = .form)).bind c.frameKey

/-- The forms among frames. -/
def formFrames (fs : List Frame) : List Frame := fs.filter (·.role = .form)

/-- The number of selections and text areas among frames. -/
def mutingFrames (fs : List Frame) : Nat := fs.countP (FrameRole.mutes ·.role)

/-- What is kept about open frames says what is on the stack. -/
structure Tallied (c : Collector) : Prop where
  /-- The open forms are the forms on the stack, each with the key of its element. -/
  forms : c.forms.map some = (formFrames c.stack).map c.frameKey
  /-- The selections and text areas on the stack are counted. -/
  muted : c.muted = mutingFrames c.stack

section Frames

variable {f : Frame} {fs : List Frame}

theorem formFrames_form (h : f.role = .form) : formFrames (f :: fs) = f :: formFrames fs :=
  List.filter_cons_of_pos (p := fun f : Frame => f.role = .form) (decide_eq_true h)

theorem formFrames_other (h : f.role ≠ .form) : formFrames (f :: fs) = formFrames fs :=
  List.filter_cons_of_neg (p := fun f : Frame => f.role = .form) (by simpa using h)

theorem mutingFrames_cons (f : Frame) (fs : List Frame) : mutingFrames (f :: fs) =
    if FrameRole.mutes f.role then mutingFrames fs + 1 else mutingFrames fs := by
  unfold mutingFrames
  rw [List.countP_cons]
  split <;> rfl

end Frames

theorem elementKey_eq (c : Collector) (i : Nat) :
    c.elementKey i = c.nesting.nests[i]?.bind (·.formKey) := by
  show _ = (c.collected.elements.map (·.nest))[i]?.bind _
  rw [List.getElem?_map, Option.bind_map]
  rfl

/-- The innermost open form is the one whose key was kept last. -/
theorem Tallied.innermostForm (h : Tallied c) : c.innermostForm = c.forms.head? := by
  have hhead : c.forms.head?.map some = (c.stack.find? (·.role = .form)).map c.frameKey := by
    rw [← List.head?_map, h.forms, List.head?_map, formFrames, List.head?_filter]
  unfold Collector.innermostForm
  cases hform : c.stack.find? (·.role = .form) with
  | none =>
    rw [hform] at hhead
    exact (Option.map_eq_none_iff.mp hhead).symm
  | some f =>
    rw [hform] at hhead
    obtain ⟨k, hk, hf⟩ := Option.map_eq_some_iff.mp hhead
    rw [hk]
    exact hf.symm

/-- A selection or text area that is closed was counted: the count does not stop at zero. -/
theorem Tallied.unclamped (h : Tallied c) {f : Frame} {rest : List Frame}
    (hstack : c.stack = f :: rest) (hf : FrameRole.mutes f.role = true) :
    (close { c with stack := rest } f).muted + 1 = c.muted := by
  have hcount : c.muted = mutingFrames rest + 1 := by
    rw [h.muted, hstack, mutingFrames_cons, if_pos hf]
  rw [muted_close, if_pos hf]
  show c.muted - 1 + 1 = c.muted
  omega

/-! ## 2. Changes that leave open what is open -/

/-- The collection is the other one with its open frames: they may have read more, and there may be
    more elements. -/
structure Retains (c c' : Collector) : Prop where
  stack : c'.stack.map (·.bare) = c.stack.map (·.bare)
  forms : c'.forms = c.forms
  muted : c'.muted = c.muted
  keys : ∀ i k, c.elementKey i = some k → c'.elementKey i = some k

theorem retains_of_nesting (hstack : c'.stack = c.stack) (hmuted : c'.muted = c.muted)
    (hnesting : c'.nesting = c.nesting) : Retains c c' where
  stack := by rw [hstack]
  forms := congrArg Nesting.forms hnesting
  muted := hmuted
  keys i k h := by
    rw [elementKey_eq, hnesting, ← elementKey_eq]
    exact h

/-- **What stays open stays tallied.** -/
theorem Tallied.of_retains (h : Tallied c) (hretains : Retains c c') : Tallied c' where
  forms := by
    have hbare : ∀ (c : Collector) (fs : List Frame), (formFrames fs).map c.frameKey =
        (formFrames (fs.map (·.bare))).map c.frameKey := by
      intro c fs
      rw [formFrames, formFrames, List.filter_map, List.map_map]
      rfl
    rw [hretains.forms, h.forms, hbare c', hretains.stack, ← hbare]
    refine List.map_congr_left fun f hf => ?_
    -- Every open form has a key, which its element keeps.
    have hkey : c.frameKey f ∈ c.forms.map some := h.forms ▸ List.mem_map_of_mem hf
    obtain ⟨k, -, hk⟩ := List.mem_map.mp hkey
    obtain ⟨i, hi, hik⟩ := Option.bind_eq_some_iff.mp hk.symm
    rw [← hk]
    exact (Option.bind_eq_some_iff.mpr ⟨i, hi, hretains.keys i k hik⟩).symm
  muted := by
    have hbare : ∀ fs : List Frame, mutingFrames fs = mutingFrames (fs.map (·.bare)) := by
      intro fs
      rw [mutingFrames, mutingFrames, List.countP_map]
      rfl
    rw [hretains.muted, h.muted, hbare c'.stack, hretains.stack, ← hbare]

theorem retains_addElement (c : Collector) (native : Vocabulary.Native)
    (attrs : List (String × String)) (dynamic : List String) :
    Retains c (c.addElement native attrs dynamic).1 where
  stack := rfl
  forms := rfl
  muted := rfl
  keys i k h := by
    obtain ⟨e, he, hk⟩ := Option.bind_eq_some_iff.mp h
    have hlt : i < c.collected.elements.length := (List.getElem?_eq_some_iff.mp he).1
    refine Option.bind_eq_some_iff.mpr ⟨e, ?_, hk⟩
    exact (List.getElem?_append_left hlt).trans he

theorem retains_addBindings (c : Collector) (d : Dialect) (tag : String)
    (attrs : List (String × String)) (element : Option Nat) :
    Retains c (c.addBindings d tag attrs element) := retains_of_nesting rfl rfl rfl

theorem retains_giveOption (c : Collector) (v : String) : Retains c (c.giveOption v) :=
  retains_of_nesting (stack_giveOption c v) (eq_giveOption (fun _ _ => rfl) c v)
    (nesting_giveOption c v)

theorem nesting_bindField (c : Collector) (i : Nat) (field : String) :
    (c.bindField i field).nesting = c.nesting := by
  have hnests : (c.bindField i field).collected.elements.map (·.nest) =
      c.collected.elements.map (·.nest) := by
    refine (map_modify (g := id) (fun e => ?_) c.collected.elements i).trans ?_
    · rfl
    · rw [List.modify_id]
  show Nesting.mk _ _ _ _ = _
  rw [hnests]
  rfl

theorem retains_addText (c : Collector) (s : String) : Retains c (c.addText s) where
  stack := by
    show (c.stack.map _).map _ = _
    rw [List.map_map]
    exact List.map_congr_left fun f _ => Frame.bare_addText _ s f
  forms := rfl
  muted := rfl
  keys _ _ h := h

/-! ## 3. A frame more, a frame less -/

theorem tallied_push (h : Tallied c) {f : Frame} {key : Option String}
    (hf : f.role = .form → c.frameKey f = some (key.getD "")) : Tallied (c.push f key) where
  forms := by
    show (if f.role = .form then key.getD "" :: c.forms else c.forms).map some =
      (formFrames (f :: c.stack)).map c.frameKey
    by_cases hrole : f.role = .form
    · rw [if_pos hrole, formFrames_form hrole, List.map_cons, List.map_cons, hf hrole, h.forms]
    · rw [if_neg hrole, formFrames_other hrole, h.forms]
  muted := by
    show (if FrameRole.mutes f.role then c.muted + 1 else c.muted) = mutingFrames (f :: c.stack)
    rw [mutingFrames_cons, h.muted]

section Closing

variable {f : Frame} {rest : List Frame}

theorem forms_close (c : Collector) (f : Frame) :
    (c.close f).forms = if f.role = .form then c.forms.tail else c.forms := by
  have hforms := congrArg Nesting.forms (nesting_close c f)
  split at hforms <;> rename_i hrole
  · rw [if_pos hrole]
    exact hforms
  · rw [if_neg hrole]
    exact hforms

theorem nests_close (c : Collector) (f : Frame) :
    (c.close f).nesting.nests = c.nesting.nests := by
  rw [nesting_close]
  split <;> rfl

theorem frameKey_close (c : Collector) (f : Frame) : (c.close f).frameKey = c.frameKey := by
  have hkeys : (c.close f).elementKey = c.elementKey := by
    funext i
    rw [elementKey_eq, elementKey_eq, nests_close]
  unfold frameKey
  rw [hkeys]

/-- The innermost frame is taken from the stack and closed. -/
theorem tallied_close (hstack : c.stack = f :: rest) (h : Tallied c) :
    Tallied (close { c with stack := rest } f) where
  forms := by
    have hforms := h.forms
    rw [forms_close, stack_close, frameKey_close]
    show (if f.role = .form then c.forms.tail else c.forms).map some =
      (formFrames rest).map c.frameKey
    rw [hstack] at hforms
    by_cases hrole : f.role = .form
    · rw [if_pos hrole, List.map_tail, hforms, formFrames_form hrole]
      rfl
    · rw [if_neg hrole, hforms, formFrames_other hrole]
  muted := by
    rw [muted_close, stack_close]
    show (if FrameRole.mutes f.role then c.muted - 1 else c.muted) = mutingFrames rest
    rw [h.muted, hstack, mutingFrames_cons]
    split <;> rfl

end Closing

/-! ## 4. Events -/

/-- The element of a form has a key. -/
theorem formKey_addElement {native : Vocabulary.Native} {attrs : List (String × String)}
    {dynamic : List String} (h : (c.addElement native attrs dynamic).2.tag = .form) :
    (c.addElement native attrs dynamic).2.formKey =
      some ((c.addElement native attrs dynamic).2.formKey.getD "") := by
  have hkey : (c.addElement native attrs dynamic).2.formKey = some _ := if_pos h
  rw [hkey]
  rfl

/-- The place of a new element is the one behind all others. -/
theorem elementKey_addElement (c : Collector) (native : Vocabulary.Native)
    (attrs : List (String × String)) (dynamic : List String) :
    (c.addElement native attrs dynamic).1.elementKey c.collected.elements.length =
      (c.addElement native attrs dynamic).2.formKey := by
  show (c.collected.elements ++ [_])[_]?.bind _ = _
  rw [List.getElem?_concat_length]
  rfl

theorem tallied_openTag (h : Tallied c) (d : Dialect) (tag : String) (attrs : List (String × String))
    (selfClosing : Bool) (dynamic : List String) :
    Tallied (c.openTag d tag attrs selfClosing dynamic) := by
  have hbound : ∀ {c : Collector}, Tallied c → ∀ tag element,
      Tallied (c.addBindings d tag attrs element) := fun h tag element =>
    h.of_retains (retains_addBindings _ d tag attrs element)
  have hgiven : ∀ {c : Collector}, Tallied c → ∀ v, Tallied (c.giveOption v) := fun h v =>
    h.of_retains (retains_giveOption _ v)
  unfold openTag
  cases d.native tag with
  | none =>
    dsimp only
    split
    · split
      · exact hgiven (hbound h _ _) _
      · exact hbound h _ _
    · refine tallied_push (hbound h _ _) fun hrole => ?_
      exact absurd hrole (plainRole_ne_form _)
  | some native =>
    have hadded := h.of_retains (retains_addElement c native attrs dynamic)
    dsimp only
    split
    · split
      · exact hgiven (hbound hadded _ _) _
      · exact hbound hadded _ _
    · refine tallied_push (hbound hadded _ _) fun hrole => ?_
      exact (elementKey_addElement c native attrs dynamic).trans
        (formKey_addElement ((roleOf_form _).mp hrole))

/-- **Every event keeps what is open tallied.** -/
theorem tallied_step (h : Tallied c) (d : Dialect) (e : TagEvent) : Tallied (step d c e) := by
  cases e with
  | open_ tag attrs selfClosing dynamic field =>
    have hopened := tallied_openTag h d tag attrs selfClosing dynamic
    refine step_open_keeps (fun i field h => ?_) field hopened
    exact h.of_retains (retains_of_nesting rfl rfl (nesting_bindField _ i field))
  | text s => exact h.of_retains (retains_addText c s)
  | close tag => exact closeTag_keeps tallied_close d tag h
  | unreadable n => exact h.of_retains (retains_of_nesting rfl rfl rfl)

/-! ## 5. Elements and their parents -/

theorem nests_closeMany (n : Nat) (c : Collector) :
    (closeMany n c).nesting.nests = c.nesting.nests :=
  closeMany_keeps (P := fun c' => c'.nesting.nests = c.nesting.nests)
    (fun _ h => (nests_close _ _).trans h) n rfl

theorem nests_closeTag (c : Collector) (d : Dialect) (tag : String) :
    (c.closeTag d tag).nesting.nests = c.nesting.nests :=
  closeTag_keeps (P := fun c' => c'.nesting.nests = c.nesting.nests)
    (fun _ h => (nests_close _ _).trans h) d tag rfl

/-- The elements of the second collection are those of the first one and at most one more, whose
    parent is the innermost of the forms that the first one has open. -/
def Adds (c c' : Collector) : Prop :=
  ∃ new : List Nest, c'.nesting.nests = c.nesting.nests ++ new ∧ new.length ≤ 1 ∧
    ∀ n ∈ new, n.parentForm = c.forms.head?

theorem adds_of_nests (h : c'.nesting.nests = c.nesting.nests) : Adds c c' :=
  ⟨[], h.trans (List.append_nil _).symm, Nat.zero_le 1, fun _ hn => absurd hn List.not_mem_nil⟩

theorem Adds.of_nests {c'' : Collector} (h : Adds c c')
    (hnests : c''.nesting.nests = c'.nesting.nests) : Adds c c'' := by
  obtain ⟨new, hnew, hrest⟩ := h
  exact ⟨new, hnests.trans hnew, hrest⟩

theorem adds_addElement (c : Collector) (native : Vocabulary.Native)
    (attrs : List (String × String)) (dynamic : List String) :
    Adds c (c.addElement native attrs dynamic).1 := by
  refine ⟨[(c.addElement native attrs dynamic).2.nest], ?_, Nat.le_refl 1, fun n hn => ?_⟩
  · exact List.map_append
  · rw [List.mem_singleton.mp hn]
    rfl

theorem adds_openTag (c : Collector) (d : Dialect) (tag : String) (attrs : List (String × String))
    (selfClosing : Bool) (dynamic : List String) :
    Adds c (c.openTag d tag attrs selfClosing dynamic) :=
  openTag_keeps (adds_addElement c · attrs dynamic) (fun _ _ h => h)
    (fun v h => h.of_nests (congrArg Nesting.nests (nesting_giveOption _ v))) (fun _ _ h => h) tag
    selfClosing (adds_of_nests rfl)

/-- **An event makes one element at most**, in the innermost form that is open before. -/
theorem adds_step (c : Collector) (d : Dialect) (e : TagEvent) : Adds c (step d c e) := by
  cases e with
  | open_ tag attrs selfClosing dynamic field =>
    have hopened := adds_openTag c d tag attrs selfClosing dynamic
    refine step_open_keeps (fun i field h => ?_) field hopened
    exact h.of_nests (congrArg Nesting.nests (nesting_bindField _ i field))
  | text s => exact adds_of_nests rfl
  | close tag => exact adds_of_nests (nests_closeTag c d tag)
  | unreadable n => exact adds_of_nests rfl

/-! ## 6. Runs -/

/-- The collection after all of the events. -/
def afterAll (d : Dialect) (events : List TagEvent) : Collector := events.foldl (step d) {}

theorem afterAll_concat (d : Dialect) (events : List TagEvent) (e : TagEvent) :
    afterAll d (events ++ [e]) = step d (afterAll d events) e := List.foldl_append

theorem tallied_afterAll (d : Dialect) (events : List TagEvent) : Tallied (afterAll d events) := by
  induction events using List.reverseRecOn with
  | nil => exact ⟨rfl, rfl⟩
  | append_singleton events e ih =>
    rw [afterAll_concat]
    exact tallied_step ih d e

/-- The element at a place is made by one of the events, in the innermost form that is open before
    it. -/
def MadeIn (d : Dialect) (events : List TagEvent) (i : Nat) (parentForm : Option String) : Prop :=
  ∃ before event rest, events = before ++ event :: rest ∧
    (afterAll d before).collected.elements.length = i ∧
    (afterAll d (before ++ [event])).collected.elements.length = i + 1 ∧
    parentForm = (afterAll d before).innermostForm

theorem MadeIn.concat {events : List TagEvent} {i : Nat} {parentForm : Option String}
    (h : MadeIn d events i parentForm) (e : TagEvent) : MadeIn d (events ++ [e]) i parentForm := by
  obtain ⟨before, event, rest, rfl, h⟩ := h
  exact ⟨before, event, rest ++ [e], List.append_assoc .., h⟩

theorem length_nests (c : Collector) : c.nesting.nests.length = c.collected.elements.length :=
  List.length_map _

theorem madeIn_afterAll (d : Dialect) (events : List TagEvent) {i : Nat} {n : Nest}
    (h : (afterAll d events).nesting.nests[i]? = some n) : MadeIn d events i n.parentForm := by
  induction events using List.reverseRecOn with
  | nil => cases h
  | append_singleton events e ih =>
    obtain ⟨new, hnests, hlength, hparent⟩ := adds_step (afterAll d events) d e
    rw [← afterAll_concat] at hnests
    rw [hnests] at h
    by_cases hi : i < (afterAll d events).nesting.nests.length
    · rw [List.getElem?_append_left hi] at h
      exact (ih h).concat e
    · rw [List.getElem?_append_right (Nat.le_of_not_lt hi)] at h
      have hnew := (List.getElem?_eq_some_iff.mp h).1
      have hlast : i = (afterAll d events).collected.elements.length := by
        rw [← length_nests]
        omega
      refine ⟨events, e, [], rfl, hlast.symm, ?_, ?_⟩
      · rw [← length_nests, hnests, List.length_append, length_nests, ← hlast]
        omega
      · rw [hparent n (List.mem_of_getElem? h), (tallied_afterAll d events).innermostForm]

/-- What the collection says about the events is right: about what they leave open, and about where
    its elements are made. -/
structure Accounted (d : Dialect) (events : List TagEvent) (c : Collector) : Prop
    extends Tallied c where
  /-- To close the next selection or text area does not stop the count at zero. -/
  unclamped : ∀ f rest, c.stack = f :: rest → FrameRole.mutes f.role = true →
    (close { c with stack := rest } f).muted + 1 = c.muted
  /-- The parent of each element is the innermost form that is open when it is made. -/
  parents : ∀ i e, c.collected.elements[i]? = some e → MadeIn d events i e.parentForm

/-- **What is open is accounted for after any events**, and after any part of it is closed. -/
theorem frames_accounted (d : Dialect) (events : List TagEvent) (n : Nat) :
    Accounted d events (closeMany n (afterAll d events)) := by
  have htallied := closeMany_keeps tallied_close n (tallied_afterAll d events)
  refine ⟨htallied, fun f rest hstack hf => htallied.unclamped hstack hf, fun i e he => ?_⟩
  have hnest : (afterAll d events).nesting.nests[i]? = some e.nest := by
    rw [← nests_closeMany n]
    exact (List.getElem?_map ..).trans (congrArg (Option.map _) he)
  exact madeIn_afterAll d events hnest

-- A selection is closed with the form in it; a form that closes itself is never open.
example :
    let opens := fun tag attrs selfClosing => TagEvent.open_ tag attrs selfClosing [] none
    let inside := [opens "form" [("id", "a")] false, opens "select" [] false,
      opens "form" [("name", "b")] true, opens "form" [] false, opens "input" [] true]
    let outside := [.close "nav", .close "select", opens "input" [] true]
    (afterAll .markup inside).forms = ["form_3", "a"] ∧ (afterAll .markup inside).muted = 1 ∧
    (afterAll .markup (inside ++ outside)).forms = ["a"] ∧
    (afterAll .markup (inside ++ outside)).muted = 0 ∧
    (afterAll .markup (inside ++ outside)).collected.elements.map (·.parentForm) =
      [none, some "a", some "a", some "a", some "form_3", some "a"] := by
  decide +kernel

end Affordance.Collector
