import Affordance.Proofs.Succeeds
import Affordance.Surface.Collector

/-!
# Labels that are read

A collection fails only where a text that is read for a label has a reference with too many digits.

  * `TagEvent.Literal`: an event whose texts hold no ampersand. What stands in an attribute as an
    expression is no text.
  * `Collector.Literal`: what of a collection may still be read for a label holds none either.
    `literal_step`: every event keeps it so, one case for each kind of event.
  * **`succeeds_collect`**: hence events without ampersands in their texts are collected.
-/

namespace Affordance

open Affordance.Text

/-- The texts of the event hold no reference. -/
def TagEvent.Literal : TagEvent → Prop
  | .open_ _ attrs _ dynamic _ => ∀ a ∈ attrs, a.1 ∉ dynamic → '&' ∉ a.2.toList
  | .text s => '&' ∉ s.toList
  | .close _ => True
  | .unreadable _ => False

namespace Collector

/-! ## 1. Texts of attributes -/

section Attributes

variable {attrs : List (String × String)} {dynamic : List String}

/-- An attribute's own text has no reference in an event without any. -/
theorem literal?_text (hattrs : ∀ a ∈ attrs, a.1 ∉ dynamic → '&' ∉ a.2.toList)
    {names : List String} {v : String} (h : literal? attrs dynamic names = some v) :
    '&' ∉ v.toList := by
  obtain ⟨n, -, hn⟩ := List.exists_of_findSome?_eq_some h
  split at hn
  · cases hn
  · rename_i hdynamic
    obtain ⟨before, rest, rfl, -⟩ := List.lookup_eq_some_iff.mp hn
    exact hattrs (n, v) (by simp) (by simpa using hdynamic)

theorem explicitTexts_text (hattrs : ∀ a ∈ attrs, a.1 ∉ dynamic → '&' ∉ a.2.toList) :
    ∀ t ∈ explicitTexts attrs dynamic, '&' ∉ t.toList := by
  intro t ht
  obtain ⟨a, -, ha⟩ := List.mem_filterMap.mp ht
  exact literal?_text hattrs ha

/-- The text of a button without content is an attribute's own. -/
theorem shape_text (hattrs : ∀ a ∈ attrs, a.1 ∉ dynamic → '&' ∉ a.2.toList)
    (native : Vocabulary.Native) : ∀ t ∈ (shape native attrs dynamic).2.2, '&' ∉ t.toList := by
  intro t ht
  have hvalue : literal? attrs dynamic ["value"] = some t := by
    unfold shape at ht
    dsimp only at ht
    repeat' split at ht
    all_goals first | exact ht | cases ht
  exact literal?_text hattrs hvalue

end Attributes

/-! ## 2. Collections without references -/

/-- What may still be read for a label holds no reference, and nothing was refused so far. -/
structure Literal (c : Collector) : Prop where
  fault : c.fault = none
  stack : ∀ f ∈ c.stack, '&' ∉ f.text.toList
  texts : ∀ t ∈ c.texts, '&' ∉ t.2.toList
  hints : ∀ h ∈ c.hints, ∀ t ∈ h.fallback, '&' ∉ t.toList

@[simp] theorem failing_none (c : Collector) : c.failing none = c := by
  have hfault : (c.fault <|> none) = c.fault := by cases c.fault <;> rfl
  rw [failing, hfault]

namespace Literal

variable {c : Collector} (h : c.Literal)

include h

theorem addElement {attrs : List (String × String)} {dynamic : List String}
    (hattrs : ∀ a ∈ attrs, a.1 ∉ dynamic → '&' ∉ a.2.toList) (native : Vocabulary.Native) :
    (c.addElement native attrs dynamic).1.Literal := by
  have hshape := shape_text hattrs native
  unfold Collector.addElement
  generalize shape native attrs dynamic = shaped at hshape
  obtain ⟨tag, inputType, fallback⟩ := shaped
  dsimp only
  rw [unreadableLabel?_eq_none (explicitTexts_text hattrs), failing_none]
  refine ⟨h.fault, h.stack, h.texts, fun hint hmem => ?_⟩
  rcases List.mem_append.mp hmem with hmem | hmem
  · exact h.hints hint hmem
  · rw [List.mem_singleton.mp hmem]
    exact hshape

theorem addBindings (d : Dialect) (tag : String) (attrs : List (String × String))
    (element : Option Nat) : (c.addBindings d tag attrs element).Literal :=
  ⟨h.fault, h.stack, h.texts, h.hints⟩

theorem giveOption (v : String) : (c.giveOption v).Literal := by
  unfold Collector.giveOption
  split
  · exact ⟨h.fault, h.stack, h.texts, h.hints⟩
  · exact h

theorem bindField (i : Nat) (field : String) : (c.bindField i field).Literal :=
  ⟨h.fault, h.stack, h.texts, h.hints⟩

theorem push {f : Frame} (hf : '&' ∉ f.text.toList) (key : Option String) :
    (c.push f key).Literal where
  fault := h.fault
  stack := List.forall_mem_cons.mpr ⟨hf, h.stack⟩
  texts := h.texts
  hints := by
    intro hint hmem
    simp only [Collector.push] at hmem
    split at hmem
    · obtain ⟨i, hi⟩ := List.mem_iff_getElem?.mp hmem
      rw [withInner, List.getElem?_modify] at hi
      obtain ⟨hint', hi', rfl⟩ := Option.map_eq_some_iff.mp hi
      have := h.hints hint' (List.mem_of_getElem? hi')
      split <;> exact this
    · exact h.hints hint hmem

/-- A tag is opened. -/
theorem openTag {attrs : List (String × String)} {dynamic : List String}
    (hattrs : ∀ a ∈ attrs, a.1 ∉ dynamic → '&' ∉ a.2.toList) (d : Dialect) (tag : String)
    (selfClosing : Bool) : (c.openTag d tag attrs selfClosing dynamic).Literal := by
  exact openTag_keeps (h.addElement hattrs) (fun tag element h => h.addBindings d tag attrs element)
    (fun v h => h.giveOption v) (fun key hf h => h.push (by simp [hf]) key) tag selfClosing h

theorem addText {s : String} (hs : '&' ∉ s.toList) : (c.addText s).Literal where
  fault := h.fault
  stack := by
    intro f hf
    obtain ⟨f', hf', rfl⟩ := List.mem_map.mp hf
    have hmem := h.stack f' hf'
    have hjoined : '&' ∉ (f'.text ++ s).toList := by
      rw [String.toList_append, List.mem_append]
      exact not_or.mpr ⟨hmem, hs⟩
    unfold Frame.addText
    repeat' split
    all_goals assumption
  texts := h.texts
  hints := h.hints

section Closing

variable {f : Frame} (hf : '&' ∉ f.text.toList)

include hf

theorem keepText : (c.keepText f).Literal := by
  unfold Collector.keepText
  split
  · exact ⟨h.fault, h.stack, List.forall_mem_cons.mpr ⟨hf, h.texts⟩, h.hints⟩
  · exact h

theorem keepLabel : (c.keepLabel f).Literal := by
  unfold Collector.keepLabel
  rw [unreadableLabel?_eq_none (by simpa using hf), failing_none]
  unfold withLabel
  repeat' split
  all_goals exact ⟨h.fault, h.stack, h.texts, h.hints⟩

theorem keepOption : (c.keepOption f).Literal := by
  unfold Collector.keepOption
  rw [unreadableLabel?_eq_none (by simpa using hf), failing_none, ite_self]
  dsimp only
  split
  · exact h.giveOption _
  · exact h

/-- A frame is closed. -/
theorem close : (c.close f).Literal := by
  have hkept := h.keepText hf
  unfold Collector.close
  dsimp only
  split
  · exact ⟨hkept.fault, hkept.stack, hkept.texts, hkept.hints⟩
  · exact hkept.keepLabel hf
  · exact hkept.keepOption hf
  · exact ⟨hkept.fault, hkept.stack, hkept.texts, hkept.hints⟩
  · exact ⟨hkept.fault, hkept.stack, hkept.texts, hkept.hints⟩
  · exact hkept

end Closing

end Literal

/-- The innermost frame is taken from the stack and closed. -/
theorem literal_close {c : Collector} {f : Frame} {rest : List Frame} (hstack : c.stack = f :: rest)
    (h : c.Literal) : (close { c with stack := rest } f).Literal := by
  have hframes : ∀ f' ∈ f :: rest, '&' ∉ f'.text.toList := hstack ▸ h.stack
  have hpopped : ({ c with stack := rest } : Collector).Literal :=
    ⟨h.fault, fun f' hf' => hframes f' (List.mem_cons_of_mem f hf'), h.texts, h.hints⟩
  exact hpopped.close (hframes f List.mem_cons_self)

/-- **An event without references keeps a collection without them.** -/
theorem literal_step {c : Collector} (h : c.Literal) (d : Dialect) :
    ∀ {e : TagEvent}, e.Literal → (step d c e).Literal
  | .open_ tag _ selfClosing _ field, he =>
    step_open_keeps (fun i field h => h.bindField i field) field (h.openTag he d tag selfClosing)
  | .text _, he => h.addText he
  | .close tag, _ => closeTag_keeps literal_close d tag h
  | .unreadable _, he => he.elim

theorem literal_run (d : Dialect) : ∀ {events : List TagEvent}, (∀ e ∈ events, e.Literal) →
    ∀ {c : Collector}, c.Literal → (events.foldl (step d) c).Literal
  | [], _, _, h => h
  | e :: _, he, _, h => by
    obtain ⟨hfirst, hrest⟩ := List.forall_mem_cons.mp he
    exact literal_run d hrest (literal_step h d hfirst)

/-! ## 3. The end of a collection -/

/-- Labels are settled. -/
theorem unsettled?_eq_none {c : Collector} (h : c.Literal) {hint : LabelHints}
    (hhint : hint ∈ c.hints) (e : Element) : c.unsettled? e hint = none := by
  unfold unsettled?
  split
  · rfl
  · refine unreadableLabel?_eq_none fun t ht => ?_
    have htext : ∀ {n : Option Nat}, t ∈ (n.bind c.textOf).toList → '&' ∉ t.toList := by
      intro n hn
      obtain ⟨serial, -, hserial⟩ := Option.bind_eq_some_iff.mp (Option.mem_toList.mp hn)
      obtain ⟨before, rest, heq, -⟩ := List.lookup_eq_some_iff.mp hserial
      exact h.texts (serial, t) (heq ▸ by simp)
    unfold textsFor at ht
    rcases List.mem_append.mp ht with ht | ht
    · exact htext ht
    · split at ht
      · rcases List.mem_append.mp ht with ht | ht
        · exact htext ht
        · exact h.hints hint hhint t (Option.mem_toList.mp ht)
      · cases ht

/-- **Events without references in their texts are collected.** -/
theorem succeeds_collect (d : Dialect) {events : List TagEvent} (h : ∀ e ∈ events, e.Literal) :
    Succeeds (collect d events) := by
  have hstart : ({} : Collector).Literal := ⟨rfl, by simp, by simp, by simp⟩
  have hclosed : (events.foldl (step d) {}).closed.Literal :=
    closeMany_keeps literal_close _ (literal_run d h hstart)
  have hfault : (events.foldl (step d) {}).closed.finalFault? = none := by
    unfold finalFault?
    rw [hclosed.fault]
    refine List.findSome?_eq_none_iff.mpr fun p hp => ?_
    exact unsettled?_eq_none hclosed (List.of_mem_zip hp).2 p.1
  unfold collect finish
  dsimp only
  rw [hfault]
  exact succeeds_ok _

end Collector

end Affordance
