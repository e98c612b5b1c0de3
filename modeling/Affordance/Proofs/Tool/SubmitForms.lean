import Mathlib.Control.Monad.Basic
import Affordance.Proofs.Surface.Bindings
import Affordance.Tool.Group

/-!
# Forms and the handlers that submit them

  * `ServedBy`: some group fills in exactly the inputs of a form and runs a handler.
  * `served_of_submit`: a form is served by the handler it submits to, as long as that handler
    is kept under the event `submit`.
  * `served_elim`: where it is not, only the click of a trigger can lead to it
    (`ClickedInstead`), and that only in a component without any submit handler.
  * **`submit_served_iff`**: so a form of an assembled component is served by the handler it
    submits to iff the FIRST binding of that handler is one to `submit`, or it is clicked
    instead.  `click_first_is_not_served`: a link before the form, bound to the same function,
    is enough to leave the form without its handler.
-/

namespace Affordance

open Affordance.Handling

/-! ## 1. Forms that are served -/

/-- A form's inputs are filled in by a group that runs the handler. -/
def ServedBy (c : Component) (form : Element) (h : Handler) : Prop :=
  ∃ g ∈ groups c, g.kind = .form ∧
    g.inputs = placesToFill (elementsOfForm c.elements form) ∧ g.handler = some h

/-- Without any submit handler, the trigger of some elements with the same inputs runs the
    handler when it is clicked. -/
def ClickedInstead (c : Component) (form : Element) (h : Handler) : Prop :=
  (∀ k ∈ c.handlers, k.event ≠ .submit) ∧
  ∃ scope ∈ plainScopes c.elements,
    placesToFill scope = placesToFill (elementsOfForm c.elements form) ∧
    (triggerAmong scope).bind (fun t =>
      handlerOfClick c.handlers (boundNames c.elements) t.1) = some h

theorem submits_isEmpty_iff {c : Component} :
    (c.handlers.filter (·.event = .submit)).isEmpty = true ↔
      ∀ k ∈ c.handlers, k.event ≠ .submit := by
  simp [List.isEmpty_iff, List.filter_eq_nil_iff]

theorem kind_of_mem_actionGroups {c : Component} {claimed : List Nat} {g : Group}
    (h : g ∈ actionGroups c claimed) : g.kind = .action := by
  obtain ⟨p, _, rfl⟩ := List.mem_map.mp h
  rfl

/-- A group that fills in a form is one of the form groups. -/
theorem mem_formGroups {c : Component} {g : Group} (h : g ∈ groups c) (hk : g.kind = .form) :
    g ∈ formGroups c := by
  rcases List.mem_append.mp h with h | h
  · exact h
  · rw [kind_of_mem_actionGroups h] at hk
    cases hk

/-- Every group of a submit handler runs that handler. -/
theorem handler_of_mem_submitGroups {c : Component} {k : Handler} {g : Group}
    (h : g ∈ submitGroups c k) : g.handler = some k := by
  simp only [submitGroups] at h
  split at h
  · rw [List.mem_singleton.mp h]
    rfl
  · obtain ⟨f, _, rfl⟩ := List.mem_map.mp h
    rfl

/-- **A form is served by its submit handler.** -/
theorem served_of_submit {c : Component} {form : Element} {h : Handler}
    (hform : form ∈ c.elements) (htag : form.tag = .form)
    (hbound : form.handler? .submit = some h.name) (hh : h ∈ c.handlers)
    (hevent : h.event = .submit) : ServedBy c form h := by
  have hmem : form ∈ c.elements.filter fun e =>
      e.tag = .form && e.handler? .submit = some h.name := by
    simp [hform, htag, hbound]
  have hgroup : formGroup c (elementsOfForm c.elements form) (some h) ∈ submitGroups c h := by
    simp only [submitGroups]
    rw [if_neg (by rw [List.isEmpty_iff]; exact List.ne_nil_of_mem hmem)]
    exact List.mem_map_of_mem hmem
  have hsubmits : h ∈ c.handlers.filter (·.event = .submit) := by simp [hh, hevent]
  refine ⟨formGroup c (elementsOfForm c.elements form) (some h), List.mem_append_left _ ?_,
    rfl, rfl, rfl⟩
  simp only [formGroups]
  rw [if_neg (by rw [List.isEmpty_iff]; exact List.ne_nil_of_mem hsubmits)]
  exact List.mem_flatMap.mpr ⟨h, hsubmits, hgroup⟩

/-- A form is served by a handler of another event only where that handler is clicked
    instead. -/
theorem served_elim {c : Component} {form : Element} {h : Handler} (hs : ServedBy c form h) :
    h.event = .submit ∨ ClickedInstead c form h := by
  obtain ⟨g, hg, hk, hi, hh⟩ := hs
  have hg := mem_formGroups hg hk
  simp only [formGroups] at hg
  split at hg
  · rename_i hnone
    obtain ⟨scope, hscope, rfl⟩ := List.mem_map.mp hg
    exact .inr ⟨submits_isEmpty_iff.mp hnone, scope, hscope, hi, by simpa [formGroup] using hh⟩
  · obtain ⟨k, hk, hg⟩ := List.mem_flatMap.mp hg
    rw [handler_of_mem_submitGroups hg] at hh
    cases hh
    exact .inl (by simpa using (List.mem_filter.mp hk).2)

/-- A form whose handler is clicked instead is served by it. -/
theorem served_of_clicked {c : Component} {form : Element} {h : Handler}
    (hc : ClickedInstead c form h) : ServedBy c form h := by
  obtain ⟨hnone, scope, hscope, hi, hh⟩ := hc
  refine ⟨formGroup c scope none, List.mem_append_left _ ?_, rfl, hi, ?_⟩
  · simp only [formGroups]
    rw [if_pos (submits_isEmpty_iff.mpr hnone)]
    exact List.mem_map_of_mem hscope
  · simpa [formGroup] using hh

/-! ## 2. Assembled components -/

/-- **A form of an assembled component is served by the handler it submits to iff the first
    binding of that handler is one to `submit`**, or the handler is clicked instead. -/
theorem submit_served_iff {name : String} {collected : Collected} {find : Finder}
    {states : List StateVariable} {props : List ComponentProp} {library : Option String}
    {extra : List Binding} {c : Component}
    (hc : Assembly.assemble name collected find states props library extra = .ok c)
    {form : Element} (hform : form ∈ c.elements) (htag : form.tag = .form) {n : String}
    (hbound : form.handler? .submit = some n) :
    (∃ h, c.handlers.find? (·.name = n) = some h ∧ ServedBy c form h) ↔
      (firstBinding find (collected.bindings ++ extra) n).map (·.kind) = some .submit ∨
      ∃ h, c.handlers.find? (·.name = n) = some h ∧ ClickedInstead c form h := by
  rw [← event_of_assemble hc n]
  constructor
  · rintro ⟨h, hfind, hs⟩
    rcases served_elim hs with hevent | hclick
    · exact .inl (by rw [hfind, Option.map_some, hevent])
    · exact .inr ⟨h, hfind, hclick⟩
  · rintro (hevent | ⟨h, hfind, hclick⟩)
    · obtain ⟨h, hfind, hsubmit⟩ := Option.map_eq_some_iff.mp hevent
      have hname : h.name = n := by simpa using List.find?_some hfind
      subst hname
      exact ⟨h, hfind,
        served_of_submit hform htag hbound (List.mem_of_find?_eq_some hfind) hsubmit⟩
    · exact ⟨h, hfind, served_of_clicked hclick⟩

/-! ## 3. A link before the form -/

/-- A form with an input and a button, as its handler leaves it. -/
def boundForm : Element :=
  { tag := .form, id := some "f", formKey := some "f", handlers := [(.submit, "go")] }

/-- What the form holds. -/
def boundFormFields : List Element :=
  [{ tag := .input, name := some "q", parentForm := some "f" },
   { tag := .button, parentForm := some "f" }]

/-- A link that runs a function when it is clicked, and a form that submits to it. -/
def linkThenForm : Collected where
  elements := { boundForm with handlers := [] } :: boundFormFields
  bindings := [⟨.click, "go", "a", none, none⟩, ⟨.submit, "go", "form", some 0, some "f"⟩]

/-- The component of the link and the form. -/
def linkThenFormComponent : Component where
  name := "page"
  kind := .form
  elements := boundForm :: boundFormFields
  handlers := [{ name := "go", event := .click, elementTag := some "a" }]

/-- The form after the link is bound to the function and is not served by it. -/
theorem click_first_is_not_served :
    Assembly.assemble "page" linkThenForm (inScopes []) [] [] none [] =
      .ok linkThenFormComponent ∧
    boundForm ∈ linkThenFormComponent.elements ∧ boundForm.tag = .form ∧
    boundForm.handler? .submit = some "go" ∧
    ¬ (∃ h, linkThenFormComponent.handlers.find? (·.name = "go") = some h ∧
        ServedBy linkThenFormComponent boundForm h) ∧
    ¬ ((firstBinding (inScopes []) (linkThenForm.bindings ++ []) "go").map (·.kind) =
        some .submit ∨
      ∃ h, linkThenFormComponent.handlers.find? (·.name = "go") = some h ∧
        ClickedInstead linkThenFormComponent boundForm h) := by
  have hc : Assembly.assemble "page" linkThenForm (inScopes []) [] [] none [] =
      .ok linkThenFormComponent := by decide +kernel
  have hgroups : groups linkThenFormComponent = [⟨.form, some 2, [1], none⟩] := by
    decide +kernel
  have hmem : boundForm ∈ linkThenFormComponent.elements := List.mem_cons_self
  have hiff := submit_served_iff hc hmem rfl rfl
  have hnot : ¬ ∃ h, linkThenFormComponent.handlers.find? (·.name = "go") = some h ∧
      ServedBy linkThenFormComponent boundForm h := by
    rintro ⟨h, _, g, hg, _, _, hh⟩
    rw [hgroups] at hg
    cases List.mem_singleton.mp hg
    cases hh
  exact ⟨hc, hmem, rfl, rfl, hnot, fun h => hnot (hiff.mpr h)⟩

end Affordance
