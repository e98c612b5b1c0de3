import Mathlib.Control.Monad.Basic
import Affordance.Proofs.Markup.Nesting
import Affordance.Tool.Group

/-!
# What belongs to a form

  * `reaches_iff`: going outwards from form key to form key follows the tags around an
    element, as long as each key on the way is the key of one form only.
  * `KeysApart`: two forms of one key have nothing inside.
  * **`scopes_follow_tree_iff`**: the elements of every form are those inside its tag iff the
    keys are apart.  `numbered_key_clashes`: a form that is named like the number of another
    one is enough to give both the elements of both.
-/

namespace Affordance

open Affordance.Markup

/-! ## 1. Places in lists -/

/-- Filtering two lists by tests that agree place by place keeps the same places. -/
theorem places_congr {α β : Type} {p : α × Nat → Bool} {q : β × Nat → Bool} :
    ∀ (as : List α) (bs : List β) (n : Nat), as.length = bs.length →
      (∀ t a b, as[t]? = some a → bs[t]? = some b → p (a, n + t) = q (b, n + t)) →
      ((as.zipIdx n).filter p).map (·.2) = ((bs.zipIdx n).filter q).map (·.2)
  | [], [], _, _, _ => rfl
  | [], _ :: _, _, h, _ => by cases h
  | _ :: _, [], _, h, _ => by cases h
  | a :: as, b :: bs, n, h, hpq => by
    have ih := places_congr as bs (n + 1) (Nat.succ.inj h) fun t a b ha hb => by
      rw [Nat.add_assoc, Nat.add_comm 1]
      exact hpq (t + 1) a b ha hb
    have hhead : p (a, n) = q (b, n) := hpq 0 a b rfl rfl
    rw [List.zipIdx_cons, List.zipIdx_cons]
    cases hq : q (b, n) with
    | true =>
      rw [List.filter_cons_of_pos (by rw [hhead, hq]), List.filter_cons_of_pos hq, List.map_cons,
        List.map_cons, ih]
    | false =>
      rw [List.filter_cons_of_neg (by rw [hhead, hq]; decide),
        List.filter_cons_of_neg (by rw [hq]; decide), ih]

theorem mem_places {α : Type} {p : α × Nat → Bool} {as : List α} {t : Nat} :
    t ∈ (as.zipIdx.filter p).map (·.2) ↔ ∃ a, as[t]? = some a ∧ p (a, t) = true := by
  simp only [List.mem_map, List.mem_filter, Prod.exists, exists_eq_right,
    List.mk_mem_zipIdx_iff_getElem?]

theorem mem_inside {ss : List Spot} {i t : Nat} :
    t ∈ inside ss i ↔ ∃ s, ss[t]? = some s ∧ i ∈ s.around := by
  simp only [inside, mem_places, List.contains_iff_mem]

/-! ## 2. Elements and spots -/

/-- The elements stand as the spots say. -/
structure Stand (es : List Element) (ss : List Spot) : Prop where
  nests : es.map (·.nest) = nestsFrom (keyAt ss) 0 ss
  split : ∀ {t i : Nat} {s : Spot} {inner outer : List Nat}, ss[t]? = some s →
    s.around = inner ++ i :: outer → Split [] 0 ss t i outer

theorem stand_of_collect {d : Dialect} {edit : String → String} {ns : List Node} {c : Collected}
    (h : Collector.collect d (Node.eventsAll edit ns) = .ok c) :
    Stand c.elements (Node.spotsAll d [] 0 ns) :=
  ⟨nest_of_collect h, Node.spotsAll_split d ns [] 0⟩

namespace Stand

variable {es : List Element} {ss : List Spot} (h : Stand es ss)

include h

theorem length_eq : es.length = ss.length := by
  rw [← List.length_map (·.nest), h.nests, length_nestsFrom]

theorem nest_at (t : Nat) : es[t]?.map (·.nest) = ss[t]?.map fun s =>
    ⟨s.attributes, s.isForm, keyAt ss t, (s.around.filterMap (keyAt ss)).head?⟩ := by
  rw [← List.getElem?_map, h.nests, getElem?_nestsFrom, Nat.zero_add]

/-- The spot of an element. -/
theorem nest_of {t : Nat} {e : Element} {s : Spot} (he : es[t]? = some e) (hs : ss[t]? = some s) :
    e.nest = ⟨s.attributes, s.isForm, keyAt ss t, (s.around.filterMap (keyAt ss)).head?⟩ := by
  have hnest := h.nest_at t
  rw [he, hs, Option.map_some, Option.map_some, Option.some.injEq] at hnest
  exact hnest

theorem formKey_eq {t : Nat} {e : Element} {s : Spot} (he : es[t]? = some e)
    (hs : ss[t]? = some s) : e.formKey = keyAt ss t :=
  congrArg Nest.formKey (h.nest_of he hs)

theorem parentForm_eq {t : Nat} {e : Element} {s : Spot} (he : es[t]? = some e)
    (hs : ss[t]? = some s) : e.parentForm = (s.around.filterMap (keyAt ss)).head? :=
  congrArg Nest.parentForm (h.nest_of he hs)

theorem tag_form_iff {t : Nat} {e : Element} {s : Spot} (he : es[t]? = some e)
    (hs : ss[t]? = some s) : e.tag = .form ↔ s.isForm = true := by
  rw [← show decide (e.tag = .form) = s.isForm from congrArg Nest.isForm (h.nest_of he hs),
    decide_eq_true_eq]

theorem exists_spot {t : Nat} {e : Element} (he : es[t]? = some e) : ∃ s, ss[t]? = some s := by
  obtain ⟨hlt, _⟩ := List.getElem?_eq_some_iff.mp he
  exact ⟨_, List.getElem?_eq_getElem (h.length_eq ▸ hlt)⟩

theorem exists_element {t : Nat} {s : Spot} (hs : ss[t]? = some s) : ∃ e, es[t]? = some e := by
  obtain ⟨hlt, _⟩ := List.getElem?_eq_some_iff.mp hs
  exact ⟨_, List.getElem?_eq_getElem (h.length_eq.symm ▸ hlt)⟩

/-- A tag around a spot is a spot before it, with what follows around it, and the spot right
    after it is inside it. -/
theorem around_cases {t i : Nat} {s : Spot} {inner outer : List Nat} (hs : ss[t]? = some s)
    (ha : s.around = inner ++ i :: outer) :
    i < t ∧ (∃ u, ss[i]? = some u ∧ u.around = outer) ∧
      ∃ u, ss[i + 1]? = some u ∧ u.around = i :: outer := by
  rcases h.split hs ha with ⟨l, hl⟩ | ⟨_, hlt, hi, hnext⟩
  · exact absurd hl (by simp)
  · rw [Nat.zero_add] at hlt
    exact ⟨hlt, hi, hnext⟩

/-- No more tags stand around a spot than there are spots before it. -/
theorem length_around (t : Nat) {s : Spot} (hs : ss[t]? = some s) : s.around.length ≤ t := by
  induction t using Nat.strongRecOn generalizing s with
  | ind t ih =>
    cases ha : s.around with
    | nil => exact Nat.zero_le _
    | cons i outer =>
      have hsplit : s.around = [] ++ i :: outer := ha
      obtain ⟨hlt, ⟨u, hu, hua⟩, _⟩ := h.around_cases hs hsplit
      have := ih i hlt hu
      rw [hua] at this
      rw [List.length_cons]
      omega

end Stand

/-! ## 3. Keys -/

theorem keyOfForm_ne_empty (id name : Option String) (count : Nat) :
    Collector.keyOfForm id name count ≠ "" := by
  unfold Collector.keyOfForm
  cases h : (Text.nonEmpty id <|> Text.nonEmpty name) with
  | none =>
    intro hempty
    have := congrArg String.length hempty
    rw [Option.getD_none, String.length_append] at this
    exact absurd this (by rw [show "form_".length = 5 from rfl, String.length_empty]; omega)
  | some k =>
    rw [Option.getD_some]
    cases hid : Text.nonEmpty id with
    | none =>
      rw [hid] at h
      exact (Text.nonEmpty_eq_some.mp h).2
    | some k' =>
      rw [hid] at h
      cases h
      exact (Text.nonEmpty_eq_some.mp hid).2

/-- The key at a spot is the one that its tag has as the form of some number. -/
theorem getElem?_formKeys : ∀ (count : Nat) (ss : List Spot) (t : Nat) {s : Spot},
    ss[t]? = some s →
      ∃ n, (formKeys count ss)[t]? = some (if s.isForm then some (s.key n) else none)
  | count, s :: rest, 0, _, h => by
    rw [List.getElem?_cons_zero, Option.some.injEq] at h
    subst h
    refine ⟨count + 1, ?_⟩
    by_cases hs : s.isForm
    · rw [formKeys_form hs, List.getElem?_cons_zero, if_pos hs]
    · rw [formKeys_other hs, List.getElem?_cons_zero, if_neg hs]
  | count, s :: rest, t + 1, u, h => by
    rw [List.getElem?_cons_succ] at h
    by_cases hs : s.isForm
    · rw [formKeys_form hs, List.getElem?_cons_succ]
      exact getElem?_formKeys (count + 1) rest t h
    · rw [formKeys_other hs, List.getElem?_cons_succ]
      exact getElem?_formKeys count rest t h

/-- A form has a key. -/
theorem exists_keyAt {ss : List Spot} {t : Nat} {s : Spot} (hs : ss[t]? = some s)
    (hform : s.isForm = true) : ∃ k, keyAt ss t = some k := by
  obtain ⟨n, hn⟩ := getElem?_formKeys 0 ss t hs
  exact ⟨s.key n, by rw [keyAt, hn, if_pos hform, Option.join_some]⟩

/-- A key is that of a form, and it is not empty. -/
theorem of_keyAt {ss : List Spot} {t : Nat} {k : String} (h : keyAt ss t = some k) :
    k ≠ "" ∧ ∃ s, ss[t]? = some s ∧ s.isForm = true := by
  unfold keyAt at h
  cases hs : ss[t]? with
  | none =>
    have hnone : (formKeys 0 ss)[t]? = none := by
      rw [List.getElem?_eq_none_iff, length_formKeys]
      exact List.getElem?_eq_none_iff.mp hs
    rw [hnone] at h
    cases h
  | some s =>
    obtain ⟨n, hn⟩ := getElem?_formKeys 0 ss t hs
    rw [hn, Option.join_some] at h
    split at h
    · rename_i hform
      cases h
      exact ⟨keyOfForm_ne_empty _ _ _, s, rfl, hform⟩
    · cases h

/-! ## 4. Going outwards -/

namespace Stand

variable {es : List Element} {ss : List Spot} (h : Stand es ss)

include h

/-- The key of one form only leads to the form around that form. -/
theorem enclosingKey_eq {i : Nat} {k : String} {s : Spot} (hs : ss[i]? = some s)
    (hk : keyAt ss i = some k) (only : ∀ j, keyAt ss j = some k → j = i) :
    enclosingKey es k = (s.around.filterMap (keyAt ss)).head? := by
  obtain ⟨hne, u, hu, hform⟩ := of_keyAt hk
  cases hs.symm.trans hu
  obtain ⟨e, he⟩ := h.exists_element hs
  have hfound : (es.reverse.find? fun e =>
      e.tag = .form && e.formKey = some k && k ≠ "") = some e := by
    cases hfind : es.reverse.find? fun e => e.tag = .form && e.formKey = some k && k ≠ "" with
    | none =>
      have hnot := List.find?_eq_none.mp hfind e
        (List.mem_reverse.mpr (List.mem_of_getElem? he))
      rw [(h.tag_form_iff he hs).mpr hform, h.formKey_eq he hs, hk] at hnot
      exact absurd hne (by simpa using hnot)
    | some e' =>
      -- what is found is a form of the key, so it stands at the same place
      have hp := List.find?_some hfind
      obtain ⟨j, hj⟩ := List.mem_iff_getElem?.mp
        (List.mem_reverse.mp (List.mem_of_find?_eq_some hfind))
      obtain ⟨s', hs'⟩ := h.exists_spot hj
      have hkey : e'.formKey = some k := by
        simp only [Bool.and_eq_true, decide_eq_true_eq] at hp
        exact hp.1.2
      rw [h.formKey_eq hj hs'] at hkey
      rw [only j hkey, he] at hj
      rw [hj]
  rw [enclosingKey, hfound, Option.bind_some, h.parentForm_eq he hs]

end Stand

/-- Each key on the way outwards leads to the next form. -/
def Linked (es : List Element) (ss : List Spot) (around : List Nat) : Prop :=
  ∀ inner i outer k, around = inner ++ i :: outer → keyAt ss i = some k →
    enclosingKey es k = (outer.filterMap (keyAt ss)).head?

theorem Linked.tail {es : List Element} {ss : List Spot} {i : Nat} {outer : List Nat}
    (h : Linked es ss (i :: outer)) : Linked es ss outer :=
  fun inner j rest k hrest => h (i :: inner) j rest k (by rw [hrest, List.cons_append])

/-- **Going outwards reaches the keys of the tags around.** -/
theorem reaches_iff {es : List Element} {ss : List Spot} {target : String} :
    ∀ (around : List Nat) (n : Nat), around.length < n → Linked es ss around →
      (reaches es (some target) n (around.filterMap (keyAt ss)).head? = true ↔
        ∃ i ∈ around, keyAt ss i = some target)
  | [], n, _, _ => by
    have hnone : reaches es (some target) n none = false := by
      cases n <;> rfl
    rw [List.filterMap_nil, List.head?_nil, hnone]
    constructor
    · intro hf
      cases hf
    · rintro ⟨_, hi, _⟩
      exact absurd hi List.not_mem_nil
  | i :: outer, n, hn, hlinked => by
    rw [List.length_cons] at hn
    cases hk : keyAt ss i with
    | none =>
      rw [List.filterMap_cons_none hk, reaches_iff outer n (by omega) hlinked.tail]
      simp only [List.mem_cons, exists_eq_or_imp, hk, reduceCtorEq, false_or]
    | some k =>
      obtain ⟨m, rfl⟩ : ∃ m, n = m + 1 := ⟨n - 1, by omega⟩
      have ih : reaches es (some target) m (outer.filterMap (keyAt ss)).head? = true ↔ _ :=
        reaches_iff outer m (by omega) hlinked.tail
      rw [List.filterMap_cons_some hk, List.head?_cons, reaches, hlinked [] i outer k rfl hk,
        Bool.or_eq_true, ih, decide_eq_true_eq]
      simp only [List.mem_cons, exists_eq_or_imp, hk]

/-! ## 5. Scopes -/

/-- Two forms of one key have nothing inside. -/
def KeysApart (ss : List Spot) : Prop :=
  ∀ i j k, i ≠ j → keyAt ss i = some k → keyAt ss j = some k → inside ss i = []

namespace Stand

variable {es : List Element} {ss : List Spot} (h : Stand es ss)

include h

/-- Where the keys are apart, all ways outwards lead along the tags around. -/
theorem linked (apart : KeysApart ss) {t : Nat} {s : Spot} (hs : ss[t]? = some s) :
    Linked es ss s.around := by
  intro inner i outer k ha hk
  obtain ⟨_, ⟨u, hu, hua⟩, _⟩ := h.around_cases hs ha
  rw [h.enclosingKey_eq hu hk ?_, hua]
  intro j hj
  refine Decidable.byContradiction fun hne => ?_
  have hempty := apart i j k (fun e => hne e.symm) hk hj
  have hin : t ∈ inside ss i := mem_inside.mpr ⟨s, hs, by rw [ha]; simp⟩
  rw [hempty] at hin
  cases hin

/-- Where the keys are apart, an element is inside a form iff its tag is. -/
theorem isInside_iff (apart : KeysApart ss) {t i : Nat} {e : Element} {s : Spot} {k : String}
    (he : es[t]? = some e) (hs : ss[t]? = some s) (hk : keyAt ss i = some k) :
    isInside es (some k) e = true ↔ i ∈ s.around := by
  have hlength : s.around.length < es.length + 1 := by
    have := h.length_around t hs
    have := (List.getElem?_eq_some_iff.mp he).1
    omega
  rw [isInside, h.parentForm_eq he hs, reaches_iff s.around _ hlength (h.linked apart hs)]
  constructor
  · rintro ⟨j, hj, hkj⟩
    by_cases hij : j = i
    · rwa [← hij]
    · have hempty := apart j i k hij hkj hk
      have hin : t ∈ inside ss j := mem_inside.mpr ⟨s, hs, hj⟩
      rw [hempty] at hin
      cases hin
  · intro hi
    exact ⟨i, hi, hk⟩

/-- Right scopes put a form with something inside into every other form of its key. -/
theorem mem_around_of_same_key
    (right : ∀ i f, es[i]? = some f → f.tag = .form →
      (elementsOfForm es f).map (·.2) = inside ss i)
    {i j : Nat} {k : String} (hij : i ≠ j) (hi : keyAt ss i = some k) (hj : keyAt ss j = some k)
    (hne : inside ss i ≠ []) : ∃ u, ss[i]? = some u ∧ j ∈ u.around := by
  obtain ⟨t, ht⟩ := List.exists_mem_of_ne_nil _ hne
  obtain ⟨s, hs, his⟩ := mem_inside.mp ht
  obtain ⟨inner, outer, ha⟩ := List.append_of_mem his
  obtain ⟨_, ⟨u, hu, hua⟩, v, hv, hva⟩ := h.around_cases hs ha
  -- the first element inside the form names its key, so it counts as one of the other form
  obtain ⟨e, he⟩ := h.exists_element hv
  have hparent : e.parentForm = some k := by
    rw [h.parentForm_eq he hv, hva, List.filterMap_cons_some hi, List.head?_cons]
  have hinside : isInside es (some k) e = true := by
    rw [isInside, hparent, reaches, decide_eq_true rfl, Bool.true_or]
  obtain ⟨_, w, hw, hform⟩ := of_keyAt hj
  obtain ⟨f, hf⟩ := h.exists_element hw
  have hscope : i + 1 ∈ (elementsOfForm es f).map (·.2) := by
    rw [elementsOfForm, mem_places, h.formKey_eq hf hw, hj]
    exact ⟨e, he, hinside⟩
  rw [right j f hf ((h.tag_form_iff hf hw).mpr hform), mem_inside] at hscope
  obtain ⟨v', hv', hjv⟩ := hscope
  cases hv.symm.trans hv'
  rw [hva, List.mem_cons] at hjv
  exact ⟨u, hu, hua ▸ hjv.resolve_left fun e => hij e.symm⟩

/-- A tag around a spot comes before it. -/
theorem lt_of_mem_around {t i : Nat} {s : Spot} (hs : ss[t]? = some s) (hi : i ∈ s.around) :
    i < t := by
  obtain ⟨inner, outer, ha⟩ := List.append_of_mem hi
  exact (h.around_cases hs ha).1

theorem scopes_iff :
    (∀ i f, es[i]? = some f → f.tag = .form →
      (elementsOfForm es f).map (·.2) = inside ss i) ↔ KeysApart ss := by
  constructor
  · intro right i j k hij hi hj
    refine Decidable.byContradiction fun hne => ?_
    obtain ⟨u, hu, hju⟩ := h.mem_around_of_same_key right hij hi hj hne
    have hnej : inside ss j ≠ [] := List.ne_nil_of_mem (mem_inside.mpr ⟨u, hu, hju⟩)
    obtain ⟨v, hv, hiv⟩ :=
      h.mem_around_of_same_key right (fun e => hij e.symm) hj hi hnej
    have := h.lt_of_mem_around hu hju
    have := h.lt_of_mem_around hv hiv
    omega
  · intro apart i f hf hform
    obtain ⟨s, hs⟩ := h.exists_spot hf
    obtain ⟨k, hk⟩ := exists_keyAt hs ((h.tag_form_iff hf hs).mp hform)
    refine places_congr es ss 0 h.length_eq fun t e u he hu => ?_
    rw [Bool.eq_iff_iff, h.formKey_eq hf hs, hk, h.isInside_iff apart he hu hk,
      List.contains_iff_mem]

end Stand

/-- **The elements of every form are those inside its tag iff two forms of one key have nothing
    inside.**  The elements are the spots of the trees, in the order of the source. -/
theorem scopes_follow_tree_iff {d : Dialect} {edit : String → String} {ns : List Node}
    {c : Collected} (hc : Collector.collect d (Node.eventsAll edit ns) = .ok c) :
    c.elements.map (·.attributes) = (Node.spotsAll d [] 0 ns).map (·.attributes) ∧
    ((∀ i form, c.elements[i]? = some form → form.tag = .form →
        (elementsOfForm c.elements form).map (·.2) = inside (Node.spotsAll d [] 0 ns) i) ↔
      KeysApart (Node.spotsAll d [] 0 ns)) := by
  have hstand := stand_of_collect hc
  refine ⟨List.ext_getElem? fun t => ?_, hstand.scopes_iff⟩
  have hnest := congrArg (Option.map Nest.attributes) (hstand.nest_at t)
  rw [Option.map_map, Option.map_map] at hnest
  rw [List.getElem?_map, List.getElem?_map]
  exact hnest

/-! ## 6. A form that is named like a number -/

/-- A form with an input and a button. -/
def filledForm (attrs : List (String × String)) (name : String) : Node :=
  .tag "form" attrs [.tag "input" [("name", name)] [], .tag "button" [] [.text name]]

/-- A form that is named like the number of the form after it. -/
def numberedForms : List Node := [filledForm [("id", "form_2")] "a", filledForm [] "b"]

/-- What the two forms hold. -/
def numberedElements : List Element := [
  { tag := .form, id := some "form_2", attributes := [("id", "form_2")], formKey := some "form_2" },
  { tag := .input, name := some "a", attributes := [("name", "a")], parentForm := some "form_2" },
  { tag := .button, label := some "a", parentForm := some "form_2" },
  { tag := .form, formKey := some "form_2" },
  { tag := .input, name := some "b", attributes := [("name", "b")], parentForm := some "form_2" },
  { tag := .button, label := some "b", parentForm := some "form_2" }]

/-- Both forms are given the elements of both, and their keys are not apart. -/
theorem numbered_key_clashes :
    Collector.collect .markup (Node.eventsAll id numberedForms) =
      .ok { elements := numberedElements } ∧
    inside (Node.spotsAll .markup [] 0 numberedForms) 3 = [4, 5] ∧
    numberedElements[3]?.map (fun form => (elementsOfForm numberedElements form).map (·.2)) =
      some [1, 2, 4, 5] ∧
    ¬ KeysApart (Node.spotsAll .markup [] 0 numberedForms) := by
  have hc : Collector.collect .markup (Node.eventsAll id numberedForms) =
      .ok { elements := numberedElements } := by decide +kernel
  have hinside : inside (Node.spotsAll .markup [] 0 numberedForms) 3 = [4, 5] := by
    decide +kernel
  have hscope : numberedElements[3]?.map
      (fun form => (elementsOfForm numberedElements form).map (·.2)) = some [1, 2, 4, 5] := by
    decide +kernel
  refine ⟨hc, hinside, hscope, fun apart => ?_⟩
  have hright := (scopes_follow_tree_iff hc).2.mpr apart 3
    { tag := .form, formKey := some "form_2" } rfl rfl
  rw [hinside] at hright
  have : some [4, 5] = some [1, 2, 4, 5] := (congrArg some hright).symm.trans hscope
  cases this

end Affordance
