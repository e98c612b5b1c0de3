import Affordance.Proofs.Markup.Contents
import Affordance.Proofs.Succeeds
import Affordance.Proofs.Surface.Bindings

/-!
# What collecting leaves alone

  * `Element.Untouched`: a reading of elements that is the same in every element when it is opened,
    and that options, labels and state variables do not change.
  * `Collector.Uniform`: all elements of a collection read so. `uniform_step`: every event keeps it
    so; **`uniform_collect`**, the run over all events.
  * **`uniform_assemble`**: so do the elements of an assembled component, if binding handlers does
    not change the reading either.
-/

namespace Affordance

/-- A reading of elements that collecting them leaves as it is when they are opened. -/
structure Element.Untouched {α : Type} (get : Element → α) (a : α) : Prop where
  opened : ∀ c native attrs dynamic, get (Collector.addElement c native attrs dynamic).2 = a
  options : ∀ e options, get { e with options } = get e
  label : ∀ e label, get { e with label } = get e
  stateBinding : ∀ e stateBinding, get { e with stateBinding } = get e

section Readings

variable {α : Type} {get : Element → α} {a : α}

/-- Changing one element, but not what is read of it, leaves the reading of all as it is. -/
theorem map_modify_same {f : Element → Element} (hf : ∀ e, get (f e) = get e)
    (es : List Element) (i : Nat) : (es.modify i f).map get = es.map get := by
  rw [map_modify (g := id) hf es i, List.modify_id]

namespace Collector

/-- Every element of the collection reads so. -/
def Uniform (get : Element → α) (a : α) (c : Collector) : Prop :=
  ∀ x ∈ c.collected.elements.map get, x = a

theorem Uniform.of_eq {c c' : Collector}
    (h : c'.collected.elements.map get = c.collected.elements.map get)
    (hc : c.Uniform get a) : c'.Uniform get a := by
  unfold Uniform
  rw [h]
  exact hc

section Untouched

variable (h : Element.Untouched get a)

include h

/-! ## 1. Events -/

theorem map_giveOption (c : Collector) (v : String) :
    (c.giveOption v).collected.elements.map get = c.collected.elements.map get := by
  unfold giveOption
  split
  · refine map_modify_same (fun e => ?_) _ _
    unfold withOption
    split
    · rfl
    · exact h.options e _
  · rfl

theorem map_close (c : Collector) (f : Frame) :
    (c.close f).collected.elements.map get = c.collected.elements.map get := by
  have hunseen : Unseen fun c => c.collected.elements.map get :=
    ⟨fun _ _ => rfl, fun _ _ => rfl, fun _ _ => rfl, map_giveOption h⟩
  exact hunseen.close (fun _ _ => rfl) (fun _ _ => rfl) c f

theorem uniform_close {c : Collector} {f : Frame} {rest : List Frame} (_ : c.stack = f :: rest)
    (hc : c.Uniform get a) : (close { c with stack := rest } f).Uniform get a :=
  .of_eq (map_close h _ _) hc

theorem uniform_openTag {c : Collector} (hc : c.Uniform get a) (d : Dialect) (tag : String)
    (attrs : List (String × String)) (selfClosing : Bool) (dynamic : List String) :
    (c.openTag d tag attrs selfClosing dynamic).Uniform get a := by
  have hadded : ∀ native, (c.addElement native attrs dynamic).1.Uniform get a := by
    intro native x hx
    have helements : (c.addElement native attrs dynamic).1.collected.elements =
        c.collected.elements ++ [(c.addElement native attrs dynamic).2] := rfl
    rw [helements, List.map_append, List.mem_append, List.map_singleton,
      List.mem_singleton] at hx
    rcases hx with hold | rfl
    · exact hc x hold
    · exact h.opened c native attrs dynamic
  exact openTag_keeps hadded (fun _ _ hc => hc) (fun v hc => .of_eq (map_giveOption h _ v) hc)
    (fun _ _ hc => hc) tag selfClosing hc

/-- **An event leaves the reading of all elements as it is.** -/
theorem uniform_step {c : Collector} (hc : c.Uniform get a) (d : Dialect) (e : TagEvent) :
    (step d c e).Uniform get a := by
  cases e with
  | open_ tag attrs selfClosing dynamic field =>
    have hopened := uniform_openTag h hc d tag attrs selfClosing dynamic
    refine step_open_keeps (fun i field hc => ?_) field hopened
    exact .of_eq (map_modify_same (fun e => h.stateBinding e _) _ _) hc
  | text s => exact hc
  | close tag => exact closeTag_keeps (uniform_close h) d tag hc
  | unreadable n => exact hc

/-! ## 2. Collections -/

/-- **Collected elements read as they did when they were opened.** -/
theorem uniform_collect {d : Dialect} {events : List TagEvent} {c : Collected}
    (hok : collect d events = .ok c) : ∀ e ∈ c.elements, get e = a := by
  have hrun : ∀ (events : List TagEvent) {c : Collector}, c.Uniform get a →
      (events.foldl (step d) c).Uniform get a := by
    intro events
    induction events with
    | nil => exact fun hc => hc
    | cons event rest ih => exact fun hc => ih (uniform_step h hc d event)
  have hclosed : (events.foldl (step d) {}).closed.Uniform get a :=
    closeMany_keeps (uniform_close h) _ (hrun events fun x hx => absurd hx List.not_mem_nil)
  unfold collect finish at hok
  dsimp only at hok
  split at hok
  · cases hok
  · cases hok
    intro e he
    obtain ⟨i, hi⟩ := List.mem_iff_getElem?.mp he
    simp only [settled, List.getElem?_zipWith] at hi
    split at hi
    · next e' hint he' _ =>
      cases hi
      rw [h.label]
      exact hclosed _ (List.mem_map.mpr ⟨e', List.mem_of_getElem? he', rfl⟩)
    · cases hi

end Untouched

end Collector

/-! ## 3. Assembled components -/

theorem Assembly.map_bindValues (h : Element.Untouched get a) (states : List StateVariable)
    (values : List (Nat × String)) (elements : List Element) :
    (bindValues states values elements).map get = elements.map get := by
  induction values generalizing elements with
  | nil => rfl
  | cons v rest ih =>
    refine (ih (bindValue states elements v)).trans ?_
    unfold bindValue
    split
    · exact map_modify_same (fun e => h.stateBinding e _) _ _
    · rfl

namespace Handling

/-- Binding handlers does not change what is read of an element. -/
def KeptByHandlers (get : Element → α) : Prop :=
  ∀ kind name e, get (bindHandler kind name e) = get e

theorem map_addAll (hkept : KeptByHandlers get) : ∀ (rs : List (Binding × Resolved)) (s : State),
    (s.addAll rs).elements.map get = s.elements.map get
  | [], _ => rfl
  | br :: rs, s => by
    rw [addAll_cons, map_addAll hkept rs, elements_add]
    cases br.1.element with
    | none => rfl
    | some i => exact map_modify_same (hkept br.1.kind br.2.name) s.elements i

/-- **The elements of an assembled component read as they were collected.** -/
theorem uniform_assemble (h : Element.Untouched get a) (hkept : KeptByHandlers get)
    {name : String} {c : Collected} {find : Finder} {states : List StateVariable}
    {props : List ComponentProp} {library : Option String} {extra : List Binding}
    {comp : Component} (hc : ∀ e ∈ c.elements, get e = a)
    (hok : Assembly.assemble name c find states props library extra = .ok comp) :
    ∀ e ∈ comp.elements, get e = a := by
  obtain ⟨t, hbuild, hok⟩ := bind_eq_ok_iff.mp hok
  cases hok
  obtain ⟨rs, counts, -, rfl⟩ := build_eq_addAll _ _ _ t hbuild
  intro e he
  have hmem := List.mem_map_of_mem (f := get) he
  rw [show ({ State.addAll _ rs with counts } : State).elements = (State.addAll _ rs).elements
    from rfl, map_addAll hkept, Assembly.map_bindValues h] at hmem
  obtain ⟨e', he', hsame⟩ := List.mem_map.mp hmem
  rw [← hsame, hc e' he']

end Handling

end Readings

end Affordance
