import Mathlib.Data.Finset.Card
import Mathlib.Data.List.Dedup
import Affordance.Proofs.Tool.FormScope
import Affordance.Proofs.Tool.SubmitForms
import Affordance.Tool.Candidate

/-!
# Grouping keeps every button

  * `outwards`: from form key to form key, without a bound.  The keys may lead in a circle; a key
    that is met at all is met within as many steps as there are elements (`outwards_bounded`), so
    `isInside_iff_outwards`: the bounded walk misses nothing.
  * `Group.Stands`: the trigger of a group is a button, and its inputs are fields in the order of
    the elements.  `stands_formGroup`, `stands_actionGroups`: every way to make a group keeps to it.
  * `actionTriggers`: the buttons that trigger no form, in order, each of them once.
  * **`groups_keep_buttons`**: so no button is lost and none is pressed by two actions, whatever
    forms, keys, handlers and bindings the component has.
-/

namespace Affordance

/-! ## 1. Going outwards -/

/-- The form key that is met after some steps outwards. -/
def outwards (elements : List Element) : Nat → Option String → Option String
  | 0, key => key
  | n + 1, key => outwards elements n (key.bind (enclosingKey elements))

section Outwards

variable {elements : List Element} {key : Option String} {target : String}

theorem outwards_none (n : Nat) : outwards elements n none = none := by
  induction n with
  | zero => rfl
  | succ n ih => exact ih

theorem outwards_add (m n : Nat) (key : Option String) :
    outwards elements (m + n) key = outwards elements n (outwards elements m key) := by
  induction m generalizing key with
  | zero => rw [Nat.zero_add, outwards]
  | succ m ih => rw [Nat.succ_add, outwards, ih, outwards]

/-- A bounded walk finds what is met before the bound. -/
theorem reaches_iff_outwards (n : Nat) (key : Option String) :
    reaches elements (some target) n key = true ↔
      ∃ m < n, outwards elements m key = some target := by
  induction n generalizing key with
  | zero =>
    constructor
    · intro h
      cases key <;> cases h
    · intro h
      rcases h with ⟨m, hm, -⟩
      omega
  | succ n ih =>
    cases key with
    | none =>
      refine iff_of_false Bool.false_ne_true ?_
      intro h
      rcases h with ⟨m, -, hmet⟩
      rw [outwards_none] at hmet
      cases hmet
    | some k =>
      rw [reaches, Bool.or_eq_true, decide_eq_true_eq, ih]
      constructor
      · intro h
        rcases h with hk | ⟨m, hm, hmet⟩
        · exact ⟨0, Nat.succ_pos n, hk⟩
        · exact ⟨m + 1, Nat.succ_lt_succ hm, hmet⟩
      · intro h
        rcases h with ⟨m, hm, hmet⟩
        cases m with
        | zero => exact .inl hmet
        | succ m => exact .inr ⟨m, Nat.lt_of_succ_lt_succ hm, hmet⟩

/-- Only the key of a form leads on. -/
theorem mem_formKeys_of_enclosingKey {k k' : String} (h : enclosingKey elements k = some k') :
    some k ∈ elements.map (·.formKey) := by
  obtain ⟨form, hfound, -⟩ := Option.bind_eq_some_iff.mp h
  have hform := List.find?_some hfound
  simp only [Bool.and_eq_true, decide_eq_true_eq] at hform
  rw [← hform.1.2]
  exact List.mem_map_of_mem (List.mem_reverse.mp (List.mem_of_find?_eq_some hfound))

/-- What is passed on the way to a key is the key of a form. -/
theorem mem_formKeys_of_passed {i m : Nat} (him : i < m)
    (h : outwards elements m key = some target) :
    outwards elements i key ∈ elements.map (·.formKey) := by
  obtain ⟨n, rfl⟩ := Nat.exists_eq_add_of_lt him
  rw [Nat.add_assoc, outwards_add, Nat.add_comm n 1, outwards_add] at h
  cases hk : outwards elements i key with
  | none =>
    rw [hk, outwards_none, outwards_none] at h
    cases h
  | some k =>
    cases hk' : enclosingKey elements k with
    | none =>
      have hstep : outwards elements 1 (some k) = none := hk'
      rw [hk, hstep, outwards_none] at h
      cases h
    | some k' => exact mem_formKeys_of_enclosingKey hk'

/-- On a long way two of the keys that are passed are the same, and the way between them can be
    left out. -/
theorem outwards_shorter {m : Nat} (hlong : elements.length < m)
    (h : outwards elements m key = some target) :
    ∃ n < m, outwards elements n key = some target := by
  have hfew : (elements.map (·.formKey)).toFinset.card < (Finset.range m).card := by
    rw [Finset.card_range]
    refine Nat.lt_of_le_of_lt (List.toFinset_card_le _) ?_
    rwa [List.length_map]
  have hpassed : ∀ i ∈ Finset.range m,
      outwards elements i key ∈ (elements.map (·.formKey)).toFinset := fun i hi =>
    List.mem_toFinset.mpr (mem_formKeys_of_passed (Finset.mem_range.mp hi) h)
  obtain ⟨i, hi, j, hj, hne, hsame⟩ :=
    Finset.exists_ne_map_eq_of_card_lt_of_maps_to hfew hpassed
  rw [Finset.mem_range] at hi hj
  have hcut : ∀ {i j : Nat}, i < j → j < m → outwards elements i key = outwards elements j key →
      ∃ n < m, outwards elements n key = some target := by
    intro i j hij hjm hsame
    refine ⟨i + (m - j), by omega, ?_⟩
    rw [outwards_add, hsame, ← outwards_add, Nat.add_sub_cancel' (Nat.le_of_lt hjm), h]
  rcases Nat.lt_or_gt_of_ne hne with hlt | hgt
  · exact hcut hlt hj hsame
  · exact hcut hgt hi hsame.symm

/-- **A key that is met is met within as many steps as there are elements.** -/
theorem outwards_bounded (m : Nat) (h : outwards elements m key = some target) :
    ∃ n ≤ elements.length, outwards elements n key = some target := by
  induction m using Nat.strongRecOn with
  | ind m ih =>
    rcases Nat.lt_or_ge elements.length m with hlong | hle
    · obtain ⟨n, hn, hmet⟩ := outwards_shorter hlong h
      exact ih n hn hmet
    · exact ⟨m, hle, h⟩

end Outwards

/-- **An element is inside a form iff the form's key is met on the way outwards**, however long the
    way is and even if it leads in a circle. -/
theorem isInside_iff_outwards (elements : List Element) (key : String) (e : Element) :
    isInside elements (some key) e = true ↔
      ∃ n, outwards elements n e.parentForm = some key := by
  rw [isInside, reaches_iff_outwards]
  constructor
  · intro h
    rcases h with ⟨n, -, hmet⟩
    exact ⟨n, hmet⟩
  · intro h
    rcases h with ⟨n, hmet⟩
    obtain ⟨m, hm, hmet⟩ := outwards_bounded n hmet
    exact ⟨m, Nat.lt_succ_of_le hm, hmet⟩

/-! ## 2. What a group is made of -/

/-- The element at the place is a button. -/
def ButtonAt (c : Component) (i : Nat) : Prop := ∃ e, c.elements[i]? = some e ∧ e.tag = .button

/-- The group stands in the component: its trigger is one of the buttons, and its inputs are among
    the fields, in the order of the elements. -/
structure Group.Stands (c : Component) (g : Group) : Prop where
  trigger : ∀ i, g.trigger = some i → ButtonAt c i
  inputs : g.inputs.Sublist (placesToFill c.elements.zipIdx)

theorem buttonAt_of_mem {c : Component} {p : Placed} (h : p ∈ c.elements.zipIdx)
    (htag : p.1.tag = .button) : ButtonAt c p.2 :=
  ⟨p.1, List.mk_mem_zipIdx_iff_getElem?.mp h, htag⟩

/-- What triggers some elements is one of the buttons among them. -/
theorem triggerAmong_button {scope : List Placed} {p : Placed} (h : triggerAmong scope = some p) :
    p ∈ scope ∧ p.1.tag = .button := by
  have hbutton : p ∈ scope.filter fun p => p.1.tag = .button := by
    unfold triggerAmong at h
    dsimp only at h
    cases hsubmit : (scope.filter fun p => p.1.tag = .button).find? fun p => p.1.submitsForm with
    | some q =>
      rw [hsubmit] at h
      cases h
      exact List.mem_of_find?_eq_some hsubmit
    | none =>
      rw [hsubmit] at h
      exact List.mem_of_head? h
  obtain ⟨hmem, htag⟩ := List.mem_filter.mp hbutton
  exact ⟨hmem, of_decide_eq_true htag⟩

/-- A group that fills some of the elements stands in the component. -/
theorem stands_formGroup {c : Component} {scope : List Placed}
    (hscope : scope.Sublist c.elements.zipIdx) (handler : Option Handler) :
    (formGroup c scope handler).Stands c where
  trigger := by
    intro i hi
    obtain ⟨p, hp, rfl⟩ := Option.map_eq_some_iff.mp hi
    obtain ⟨hmem, htag⟩ := triggerAmong_button hp
    exact buttonAt_of_mem (hscope.subset hmem) htag
  inputs := (hscope.filter _).map _

/-- Every group that fills a form is one of some of the elements. -/
theorem scope_of_mem_formGroups {c : Component} {g : Group} (h : g ∈ formGroups c) :
    ∃ scope handler, scope.Sublist c.elements.zipIdx ∧ g = formGroup c scope handler := by
  unfold formGroups at h
  dsimp only at h
  split at h
  · obtain ⟨scope, hscope, rfl⟩ := List.mem_map.mp h
    refine ⟨scope, none, ?_, rfl⟩
    rcases List.mem_append.mp hscope with hform | hfree
    · obtain ⟨form, -, rfl⟩ := List.mem_map.mp (List.mem_filter.mp hform).1
      exact List.filter_sublist
    · split at hfree
      · rw [List.mem_singleton.mp hfree]
        exact List.filter_sublist
      · cases hfree
  · obtain ⟨handler, -, hsubmit⟩ := List.mem_flatMap.mp h
    unfold submitGroups at hsubmit
    dsimp only at hsubmit
    split at hsubmit
    · exact ⟨_, some handler, List.Sublist.refl _, List.mem_singleton.mp hsubmit⟩
    · obtain ⟨form, -, rfl⟩ := List.mem_map.mp hsubmit
      exact ⟨_, some handler, List.filter_sublist, rfl⟩

theorem kind_of_mem_formGroups {c : Component} {g : Group} (h : g ∈ formGroups c) :
    g.kind = .form := by
  obtain ⟨scope, handler, -, rfl⟩ := scope_of_mem_formGroups h
  rfl

theorem stands_actionGroups {c : Component} {claimed : List Nat} {g : Group}
    (h : g ∈ actionGroups c claimed) : g.Stands c := by
  obtain ⟨p, hp, rfl⟩ := List.mem_map.mp h
  obtain ⟨hmem, hbutton⟩ := List.mem_filter.mp hp
  refine ⟨fun i hi => ?_, List.nil_sublist _⟩
  cases hi
  exact buttonAt_of_mem hmem (of_decide_eq_true (Bool.and_eq_true_iff.mp hbutton).1)

/-- **Every group stands in its component.** -/
theorem stands_of_mem_groups {c : Component} {g : Group} (h : g ∈ groups c) : g.Stands c := by
  rcases List.mem_append.mp h with hform | haction
  · obtain ⟨scope, handler, hscope, rfl⟩ := scope_of_mem_formGroups hform
    exact stands_formGroup hscope handler
  · exact stands_actionGroups haction

/-- Places that are all taken are read one by one. -/
theorem map_some_filterMap {α β : Type} {f : α → Option β} {l : List α}
    (h : ∀ a ∈ l, (f a).isSome = true) : (l.filterMap f).map some = l.map f := by
  induction l with
  | nil => rfl
  | cons a l ih =>
    obtain ⟨hhead, htail⟩ := List.forall_mem_cons.mp h
    obtain ⟨b, hb⟩ := Option.isSome_iff_exists.mp hhead
    rw [List.filterMap_cons_some hb, List.map_cons, List.map_cons, ih htail, hb]

/-- **A candidate has exactly the elements at the places of its group.** -/
theorem Group.Stands.candidate {c : Component} {g : Group} (h : g.Stands c) :
    (g.candidate c).trigger.map some = g.trigger.map (c.elements[·]?) ∧
    (g.candidate c).inputs.map some = g.inputs.map (c.elements[·]?) := by
  constructor
  · unfold Group.candidate
    dsimp only
    cases htrigger : g.trigger with
    | none => rfl
    | some i =>
      obtain ⟨e, he, -⟩ := h.trigger i htrigger
      rw [Option.bind_some, Option.map_some, he, Option.map_some]
  · refine map_some_filterMap fun i hi => ?_
    obtain ⟨e, he, -⟩ := mem_places.mp (h.inputs.subset hi)
    exact Option.isSome_of_eq_some he

/-! ## 3. Buttons that trigger no form -/

/-- The places of the buttons that are not claimed. -/
def unclaimedButtons (c : Component) (claimed : List Nat) : List Nat :=
  (c.elements.zipIdx.filter fun p => p.1.tag = .button && !claimed.contains p.2).map (·.2)

theorem triggers_actionGroups (c : Component) (claimed : List Nat) :
    (actionGroups c claimed).map (·.trigger) = (unclaimedButtons c claimed).map some := by
  rw [actionGroups, unclaimedButtons, List.map_map, List.map_map]
  rfl

theorem unclaimedButtons_ordered (c : Component) (claimed : List Nat) :
    (unclaimedButtons c claimed).Pairwise (· < ·) := by
  refine List.Pairwise.sublist (List.Sublist.map _ List.filter_sublist) ?_
  rw [List.zipIdx_map_snd]
  exact List.pairwise_lt_range'

theorem mem_unclaimedButtons {c : Component} {claimed : List Nat} {i : Nat} :
    i ∈ unclaimedButtons c claimed ↔ ButtonAt c i ∧ i ∉ claimed := by
  unfold unclaimedButtons ButtonAt
  rw [mem_places]
  simp only [Bool.and_eq_true, decide_eq_true_eq, Bool.not_eq_true', List.contains_eq_mem,
    decide_eq_false_iff_not]
  constructor
  · intro h
    rcases h with ⟨e, he, htag, hfree⟩
    exact ⟨⟨e, he, htag⟩, hfree⟩
  · intro h
    rcases h with ⟨⟨e, he, htag⟩, hfree⟩
    exact ⟨e, he, htag, hfree⟩

/-- The button at the place triggers a group that fills a form. -/
def TriggersForm (c : Component) (i : Nat) : Prop :=
  ∃ g ∈ groups c, g.kind = .form ∧ g.trigger = some i

/-- The groups in which the button at the place is pressed and nothing is filled. -/
def actionsOf (c : Component) (i : Nat) : List Group :=
  (groups c).filter fun g => g.kind = .action && g.trigger = some i

theorem triggersForm_iff {c : Component} {i : Nat} :
    TriggersForm c i ↔ i ∈ (formGroups c).filterMap (·.trigger) := by
  rw [List.mem_filterMap]
  constructor
  · intro h
    rcases h with ⟨g, hg, hkind, htrigger⟩
    rcases List.mem_append.mp hg with hform | haction
    · exact ⟨g, hform, htrigger⟩
    · rw [kind_of_mem_actionGroups haction] at hkind
      cases hkind
  · intro h
    rcases h with ⟨g, hg, htrigger⟩
    exact ⟨g, List.mem_append_left _ hg, kind_of_mem_formGroups hg, htrigger⟩

/-- A button is pressed as often as it stands among those that trigger no form. -/
theorem length_actionsOf (c : Component) (i : Nat) :
    (actionsOf c i).length =
      (unclaimedButtons c ((formGroups c).filterMap (·.trigger))).count i := by
  have hforms : (formGroups c).filter (fun g => g.kind = .action && g.trigger = some i) = [] := by
    refine List.filter_eq_nil_iff.mpr fun g hg => ?_
    rw [kind_of_mem_formGroups hg]
    exact Bool.false_ne_true
  have hactions : ∀ g ∈ actionGroups c ((formGroups c).filterMap (·.trigger)),
      ((g.kind = .action && g.trigger = some i) = true ↔
        ((fun t => t == some i) ∘ (·.trigger)) g = true) := by
    intro g hg
    simp [kind_of_mem_actionGroups hg]
  unfold actionsOf groups
  dsimp only
  rw [List.filter_append, hforms, List.nil_append, ← List.countP_eq_length_filter,
    List.countP_congr hactions, ← List.countP_map, triggers_actionGroups]
  exact List.count_map_of_injective _ some (Option.some_injective Nat) i

/-- **Grouping neither loses nor repeats buttons.**  Every trigger is a button and all inputs are
    fields in the order of the elements; every button triggers some group, and one action group iff
    it triggers no form; the actions follow the forms, in the order of their buttons.  The elements
    of a form are those from which its key is met on the way outwards, circles included. -/
theorem groups_keep_buttons (c : Component) :
    (∀ g ∈ groups c, g.Stands c ∧
      (g.candidate c).trigger.map some = g.trigger.map (c.elements[·]?) ∧
      (g.candidate c).inputs.map some = g.inputs.map (c.elements[·]?)) ∧
    (∀ i, ButtonAt c i → (∃ g ∈ groups c, g.trigger = some i) ∧
      (TriggersForm c i → actionsOf c i = []) ∧
      (¬ TriggersForm c i → (actionsOf c i).length = 1)) ∧
    (∃ (forms actions : List Group) (places : List Nat), groups c = forms ++ actions ∧
      (∀ g ∈ forms, g.kind = .form) ∧ (∀ g ∈ actions, g.kind = .action) ∧
      actions.map (·.trigger) = places.map some ∧ places.Pairwise (· < ·)) ∧
    (∀ (key : String) (e : Element), isInside c.elements (some key) e = true ↔
      ∃ n, outwards c.elements n e.parentForm = some key) := by
  generalize hclaimed : (formGroups c).filterMap (·.trigger) = claimed
  have hnodup : (unclaimedButtons c claimed).Nodup :=
    (unclaimedButtons_ordered c claimed).imp Nat.ne_of_lt
  have hcount : ∀ i, (actionsOf c i).length = (unclaimedButtons c claimed).count i := by
    intro i
    rw [length_actionsOf, hclaimed]
  have honce : ∀ i, ButtonAt c i → ¬ TriggersForm c i → (actionsOf c i).length = 1 := by
    intro i hbutton hfree
    rw [triggersForm_iff, hclaimed] at hfree
    rw [hcount, List.count_eq_one_of_mem hnodup (mem_unclaimedButtons.mpr ⟨hbutton, hfree⟩)]
  refine ⟨fun g hg => ?_, fun i hbutton => ⟨?_, ?_, honce i hbutton⟩, ?_,
    isInside_iff_outwards c.elements⟩
  · have hstands := stands_of_mem_groups hg
    exact ⟨hstands, hstands.candidate⟩
  · by_cases hform : TriggersForm c i
    · obtain ⟨g, hg, -, htrigger⟩ := hform
      exact ⟨g, hg, htrigger⟩
    · obtain ⟨g, hg⟩ := List.exists_mem_of_length_pos (Nat.lt_of_lt_of_eq Nat.one_pos
        (honce i hbutton hform).symm)
      obtain ⟨hmem, hpressed⟩ := List.mem_filter.mp hg
      exact ⟨g, hmem, of_decide_eq_true (Bool.and_eq_true_iff.mp hpressed).2⟩
  · intro hform
    rw [triggersForm_iff, hclaimed] at hform
    refine List.eq_nil_of_length_eq_zero ?_
    rw [hcount, List.count_eq_zero]
    exact fun hmem => (mem_unclaimedButtons.mp hmem).2 hform
  · refine ⟨formGroups c, actionGroups c claimed, unclaimedButtons c claimed, ?_,
      fun g => kind_of_mem_formGroups, fun g => kind_of_mem_actionGroups,
      triggers_actionGroups c claimed, unclaimedButtons_ordered c claimed⟩
    rw [← hclaimed]
    rfl

/-- Two forms whose keys lead to each other, a field and a button inside, and a button outside. -/
def formCircle : Component where
  name := "Page"
  kind := .form
  elements := [
    { tag := .form, formKey := some "a", parentForm := some "b" },
    { tag := .form, formKey := some "b", parentForm := some "a" },
    { tag := .input, name := some "q", parentForm := some "a" },
    { tag := .button, parentForm := some "b" },
    { tag := .button }]

/-- The button inside triggers both forms and is no action, the one outside is an action; each form
    is inside itself. -/
theorem groups_keep_buttons_circle :
    (ButtonAt formCircle 3 ∧ TriggersForm formCircle 3 ∧ actionsOf formCircle 3 = []) ∧
    (ButtonAt formCircle 4 ∧ ¬ TriggersForm formCircle 4 ∧ (actionsOf formCircle 4).length = 1) ∧
    outwards formCircle.elements 1 (some "b") = some "a" ∧
    isInside formCircle.elements (some "a")
      { tag := .form, formKey := some "a", parentForm := some "b" } = true := by
  obtain ⟨-, hbuttons, -, hinside⟩ := groups_keep_buttons formCircle
  have hgroups : groups formCircle =
      [⟨.form, some 3, [2], none⟩, ⟨.form, some 3, [2], none⟩, ⟨.action, some 4, [], none⟩] := by
    decide +kernel
  have hin : ButtonAt formCircle 3 := ⟨_, rfl, rfl⟩
  have hout : ButtonAt formCircle 4 := ⟨_, rfl, rfl⟩
  have htriggers : TriggersForm formCircle 3 := by
    unfold TriggersForm
    rw [hgroups]
    exact ⟨_, List.mem_cons_self, rfl, rfl⟩
  have hfree : ¬ TriggersForm formCircle 4 := by
    unfold TriggersForm
    rw [hgroups]
    decide
  have hmet : outwards formCircle.elements 1 (some "b") = some "a" := by decide +kernel
  exact ⟨⟨hin, htriggers, (hbuttons 3 hin).2.1 htriggers⟩,
    ⟨hout, hfree, (hbuttons 4 hout).2.2 hfree⟩, hmet, (hinside "a" _).mpr ⟨1, hmet⟩⟩

end Affordance
