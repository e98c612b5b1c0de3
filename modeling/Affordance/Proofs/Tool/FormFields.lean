import Mathlib.Data.List.Basic
import Affordance.Tool.Group

/-!
# Fields that some tool fills in

  * `FilledIn`: the field at a place is among the inputs of a group.
  * `filled_submitGroups_iff`: the groups of one submit handler fill in every field if no form
    binds the handler, and otherwise the fields of the forms that bind it.
  * `filled_plainGroups`: without submit handlers every form is filled in.
  * **`form_fields_filled_iff`**: so a field of a form is filled in iff the component has no submit
    handler, or one that no form binds, or the field is inside a form that binds one.
    `plain_form_is_passed_over`: a form that submits to nothing, beside one that submits to a
    handler, has its fields filled in by no tool.
-/

namespace Affordance

/-! ## 1. Fields -/

/-- The field at the place is filled in by some tool of the component. -/
def FilledIn (c : Component) (place : Nat) : Prop := ∃ g ∈ groups c, place ∈ g.inputs

/-- No form of the component submits to the handler. -/
def Unbound (c : Component) (h : Handler) : Prop :=
  ∀ f ∈ c.elements, f.tag = .form → f.handler? .submit ≠ some h.name

/-- The handler runs when something is submitted. -/
def SubmitsIn (c : Component) (h : Handler) : Prop := h ∈ c.handlers ∧ h.event = .submit

section Fields

variable {c : Component} {place : Nat} {field : Element}
  (hfield : c.elements[place]? = some field) (hfill : field.canBeFilled = true)

include hfield hfill

theorem mem_placesToFill_all : place ∈ placesToFill c.elements.zipIdx := by
  refine List.mem_map.mpr ⟨(field, place), List.mem_filter.mpr ⟨?_, hfill⟩, rfl⟩
  exact List.mk_mem_zipIdx_iff_getElem?.mpr hfield

/-- A form's inputs are the fields inside the form. -/
theorem mem_placesToFill_form {form : Element} :
    place ∈ placesToFill (elementsOfForm c.elements form) ↔
      isInside c.elements form.formKey field = true := by
  constructor
  · intro h
    obtain ⟨⟨e, i⟩, he, rfl⟩ := List.mem_map.mp h
    obtain ⟨hmem, hinside⟩ := List.mem_filter.mp (List.mem_filter.mp he).1
    have hsame : c.elements[i]? = some e := List.mk_mem_zipIdx_iff_getElem?.mp hmem
    obtain rfl : field = e := Option.some.inj (hfield.symm.trans hsame)
    exact hinside
  · intro hinside
    refine List.mem_map.mpr ⟨(field, place), List.mem_filter.mpr ⟨?_, hfill⟩, rfl⟩
    exact List.mem_filter.mpr ⟨List.mk_mem_zipIdx_iff_getElem?.mpr hfield, hinside⟩

/-! ## 2. Groups -/

/-- The groups of a submit handler fill in every field if no form binds it, and the fields of the
    forms that bind it otherwise. -/
theorem filled_submitGroups_iff {h : Handler} :
    (∃ g ∈ submitGroups c h, place ∈ g.inputs) ↔
      Unbound c h ∨ ∃ f ∈ c.elements, f.tag = .form ∧ f.handler? .submit = some h.name ∧
        isInside c.elements f.formKey field = true := by
  have hforms : ∀ f, f ∈ (c.elements.filter fun e =>
      e.tag = .form && e.handler? .submit = some h.name) ↔
      f ∈ c.elements ∧ f.tag = .form ∧ f.handler? .submit = some h.name := by
    simp [List.mem_filter]
  unfold submitGroups
  dsimp only
  by_cases hnone : (c.elements.filter fun e =>
      e.tag = .form && e.handler? .submit = some h.name) = []
  · rw [if_pos (List.isEmpty_iff.mpr hnone)]
    refine iff_of_true ⟨_, List.mem_singleton_self _, mem_placesToFill_all hfield hfill⟩ (.inl ?_)
    intro f hf htag hbinds
    exact List.not_mem_nil (hnone ▸ (hforms f).mpr ⟨hf, htag, hbinds⟩)
  · rw [if_neg (fun hempty => hnone (List.isEmpty_iff.mp hempty))]
    constructor
    · rintro ⟨g, hg, hplace⟩
      obtain ⟨f, hf, rfl⟩ := List.mem_map.mp hg
      obtain ⟨hmem, htag, hbinds⟩ := (hforms f).mp hf
      exact .inr ⟨f, hmem, htag, hbinds, (mem_placesToFill_form hfield hfill).mp hplace⟩
    · rintro (hunbound | ⟨f, hf, htag, hbinds, hinside⟩)
      · obtain ⟨f, hf⟩ := List.exists_mem_of_ne_nil _ hnone
        obtain ⟨hmem, htag, hbinds⟩ := (hforms f).mp hf
        exact absurd hbinds (hunbound f hmem htag)
      · exact ⟨_, List.mem_map_of_mem ((hforms f).mpr ⟨hf, htag, hbinds⟩),
          (mem_placesToFill_form hfield hfill).mpr hinside⟩

/-- Without submit handlers every form with a field is filled in. -/
theorem filled_plainGroups {form : Element} (hform : form ∈ c.elements) (htag : form.tag = .form)
    (hinside : isInside c.elements form.formKey field = true) :
    ∃ g ∈ plainGroups c, place ∈ g.inputs := by
  have hscope : (field, place) ∈ elementsOfForm c.elements form :=
    List.mem_filter.mpr ⟨List.mk_mem_zipIdx_iff_getElem?.mpr hfield, hinside⟩
  have hkept : elementsOfForm c.elements form ∈ plainScopes c.elements := by
    refine List.mem_append_left _ (List.mem_filter.mpr ⟨List.mem_map_of_mem ?_, ?_⟩)
    · exact List.mem_filter.mpr ⟨hform, decide_eq_true htag⟩
    · exact List.any_eq_true.mpr ⟨_, hscope, hfill⟩
  exact ⟨_, List.mem_map_of_mem hkept, (mem_placesToFill_form hfield hfill).mpr hinside⟩

end Fields

/-- Buttons that trigger no form fill nothing in. -/
theorem filledIn_iff {c : Component} {place : Nat} :
    FilledIn c place ↔ ∃ g ∈ formGroups c, place ∈ g.inputs := by
  constructor
  · rintro ⟨g, hg, hplace⟩
    rcases List.mem_append.mp hg with hg | hg
    · exact ⟨g, hg, hplace⟩
    · obtain ⟨p, -, rfl⟩ := List.mem_map.mp hg
      exact absurd hplace List.not_mem_nil
  · rintro ⟨g, hg, hplace⟩
    exact ⟨g, List.mem_append_left _ hg, hplace⟩

/-! ## 3. Fields of forms -/

/-- **Which fields of forms are filled in**: a field inside a form is among the inputs of some group
    iff the component has no submit handler, or one that no form binds, or the field is inside a
    form that binds a submit handler. -/
theorem form_fields_filled_iff {c : Component} {place : Nat} {field form : Element}
    (hfield : c.elements[place]? = some field) (hfill : field.canBeFilled = true)
    (hform : form ∈ c.elements) (htag : form.tag = .form)
    (hinside : isInside c.elements form.formKey field = true) :
    FilledIn c place ↔
      (∀ h, ¬ SubmitsIn c h) ∨ (∃ h, SubmitsIn c h ∧ Unbound c h) ∨
      ∃ f ∈ c.elements, f.tag = .form ∧ (∃ h, SubmitsIn c h ∧ f.handler? .submit = some h.name) ∧
        isInside c.elements f.formKey field = true := by
  have hsubmits : ∀ h, h ∈ c.handlers.filter (·.event = .submit) ↔ SubmitsIn c h := by
    simp [List.mem_filter, SubmitsIn]
  rw [filledIn_iff, formGroups]
  by_cases hnone : c.handlers.filter (·.event = .submit) = []
  · rw [if_pos (List.isEmpty_iff.mpr hnone)]
    refine iff_of_true (filled_plainGroups hfield hfill hform htag hinside) (.inl fun h hh => ?_)
    exact List.not_mem_nil (hnone ▸ (hsubmits h).mpr hh)
  · rw [if_neg (fun hempty => hnone (List.isEmpty_iff.mp hempty))]
    constructor
    · rintro ⟨g, hg, hplace⟩
      obtain ⟨h, hh, hg⟩ := List.mem_flatMap.mp hg
      rcases (filled_submitGroups_iff hfield hfill).mp ⟨g, hg, hplace⟩ with
        hunbound | ⟨f, hf, hftag, hbinds, hfinside⟩
      · exact .inr (.inl ⟨h, (hsubmits h).mp hh, hunbound⟩)
      · exact .inr (.inr ⟨f, hf, hftag, ⟨h, (hsubmits h).mp hh, hbinds⟩, hfinside⟩)
    · intro hwhy
      have hfilled : ∃ h, SubmitsIn c h ∧ ∃ g ∈ submitGroups c h, place ∈ g.inputs := by
        rcases hwhy with hnever | ⟨h, hh, hunbound⟩ | ⟨f, hf, hftag, ⟨h, hh, hbinds⟩, hfinside⟩
        · obtain ⟨h, hh⟩ := List.exists_mem_of_ne_nil _ hnone
          exact absurd ((hsubmits h).mp hh) (hnever h)
        · exact ⟨h, hh, (filled_submitGroups_iff hfield hfill).mpr (.inl hunbound)⟩
        · exact ⟨h, hh, (filled_submitGroups_iff hfield hfill).mpr
            (.inr ⟨f, hf, hftag, hbinds, hfinside⟩)⟩
      obtain ⟨h, hh, g, hg, hplace⟩ := hfilled
      exact ⟨g, List.mem_flatMap.mpr ⟨h, (hsubmits h).mpr hh, hg⟩, hplace⟩

/-- Two forms with a field and a button each: the first submits to a handler, the second to none. -/
def searchAndFilter : Component where
  name := "Page"
  kind := .form
  elements := [
    { tag := .form, formKey := some "search", handlers := [(.submit, "run")] },
    { tag := .input, name := some "query", parentForm := some "search" },
    { tag := .button, label := some "Search", parentForm := some "search" },
    { tag := .form, formKey := some "filter" },
    { tag := .input, name := some "year", parentForm := some "filter" },
    { tag := .button, label := some "Filter", parentForm := some "filter" }]
  handlers := [{ name := "run", event := .submit, elementTag := some "form" }]

/-- The field of the form that submits to the handler is filled in. -/
theorem form_fields_filled_search :
    searchAndFilter.elements[1]? =
      some { tag := .input, name := some "query", parentForm := some "search" } ∧
    FilledIn searchAndFilter 1 := by
  have hinside : isInside searchAndFilter.elements (some "search")
      { tag := .input, name := some "query", parentForm := some "search" } = true := by
    decide +kernel
  refine ⟨rfl, (@form_fields_filled_iff searchAndFilter 1 _ _ rfl rfl List.mem_cons_self rfl
    hinside).mpr (.inr (.inr ?_))⟩
  exact ⟨_, List.mem_cons_self, rfl, ⟨_, ⟨List.mem_cons_self, rfl⟩, rfl⟩, hinside⟩

/-- **A form that submits to nothing is passed over beside one that submits to a handler**: its
    field is not filled in, although it has a button. -/
theorem plain_form_is_passed_over :
    ¬ ∀ (c : Component) (place : Nat) (field form : Element), c.elements[place]? = some field →
      field.canBeFilled = true → form ∈ c.elements → form.tag = .form →
      isInside c.elements form.formKey field = true →
      (elementsOfForm c.elements form).any (·.1.tag = .button) = true → FilledIn c place := by
  intro hall
  have hgroups : groups searchAndFilter =
      [⟨.form, some 2, [1], some { name := "run", event := .submit, elementTag := some "form" }⟩,
        ⟨.action, some 5, [], none⟩] := by
    decide +kernel
  obtain ⟨g, hg, hplace⟩ := hall searchAndFilter 4 _ { tag := .form, formKey := some "filter" }
    rfl rfl (by simp [searchAndFilter]) rfl (by decide +kernel) (by decide +kernel)
  rw [hgroups] at hg
  rcases List.mem_cons.mp hg with rfl | hg
  · exact absurd hplace (by decide)
  · cases List.mem_singleton.mp hg
    exact absurd hplace List.not_mem_nil

end Affordance
