import Affordance.Proofs.Surface.Untouched
import Affordance.Proofs.Text.Spelling
import Affordance.Tool.Group

/-!
# Handlers that elements refer to

  * `name_of_resolve`: what a binding runs has a name, since a function is found under the name that
    was asked for and names are never empty.
  * `State.Closed`: the handlers' names are distinct and elements name handlers that are there.
    `closed_add` is the step, `closed_addAll` the run.
  * `lookup_addAll`: an element has the name that the FIRST binding of an event runs.
  * `fresh_collect`: elements are collected without handlers.
  * **`references_closed`**: hence in a component that is assembled from elements without handlers
    no name leads nowhere, and the handler of a button's click is always found.
-/

namespace Affordance

namespace Handling

open Affordance.Script
open Affordance.Text
open Affordance.Text.Pattern

/-! ## 1. Names -/

theorem ne_nil_of_identifier {t : List Char} (h : identifier.Spells t) : t ≠ [] := by
  obtain ⟨u, v, rfl, ⟨c, rfl, -⟩, -⟩ := h
  exact List.cons_ne_nil c v

theorem ofList_ne_empty {t : List Char} (h : t ≠ []) : String.ofList t ≠ "" := by
  intro hempty
  exact h (by simpa using congrArg String.toList hempty)

/-- The last name of a member path is not empty. -/
theorem lastMember_ne_empty {expr n : String} (h : lastMember expr = some n) : n ≠ "" := by
  obtain ⟨m, hm, rfl⟩ := Option.map_eq_some_iff.mp h
  obtain ⟨⟨j, g⟩, hattempt, rfl⟩ := Option.map_eq_some_iff.mp hm
  obtain ⟨t, a, b, g', j', ht, hbetween, hj⟩ := attempt_group (by decide) hattempt
  split at hj
  · cases hj
    rw [text_latest rfl hbetween]
    exact ofList_ne_empty (ne_nil_of_identifier ht)
  · cases hj

/-- The function that a statement calls has a name. -/
theorem onlyCall_ne_empty {stmt : List Char} {n : String} (h : onlyCall stmt = .ok (some n)) :
    n ≠ "" := by
  unfold onlyCall at h
  split at h
  · cases h
  · next m hm =>
    obtain ⟨close, -, hcall⟩ := bind_eq_ok_iff.mp h
    have hname : m.text "name" = n := by
      split at hcall
      · cases hcall
        rfl
      · cases hcall
    obtain ⟨hattempt, hsource, -⟩ := matchAt_eq_some.mp hm
    obtain ⟨t, a, b, g', j, ht, hbetween, hj⟩ := attempt_group (by decide) hattempt
    rw [← hsource] at hbetween
    have hgroups : m.groups = ("name", a, b) :: g' := by
      simp only [char, attempt] at hj
      split at hj
      · split at hj
        · exact (congrArg Prod.snd (Option.some.inj hj)).symm
        · cases hj
      · cases hj
    rw [← hname, text_latest hgroups hbetween]
    exact ofList_ne_empty (ne_nil_of_identifier ht)

/-- A definition is found under the name that was asked for. -/
theorem name_of_definitionAmong {src : Source} {n : String} {isMethod : Bool} {ms : List Match}
    {d : Definition} (h : definitionAmong src n isMethod ms = .ok (some d)) : d.name = n := by
  induction ms with
  | nil => cases h
  | cons m rest ih =>
    rw [definitionAmong] at h
    dsimp only at h
    split at h
    all_goals
      obtain ⟨f, -, h⟩ := bind_eq_ok_iff.mp h
      cases f with
      | none => exact ih h
      | some f =>
        dsimp only at h
        split at h
        · cases h
          rfl
        · exact ih h

theorem name_of_definitionIn {src : Source} {n : String} {forms : List DeclarationForm}
    {d : Definition} (h : definitionIn src n forms = .ok (some d)) : d.name = n := by
  induction forms with
  | nil => cases h
  | cons form rest ih =>
    obtain ⟨found, hfound, h⟩ := bind_eq_ok_iff.mp h
    cases found with
    | none => exact ih h
    | some d' =>
      cases h
      exact name_of_definitionAmong hfound

theorem name_of_definitionOf {scope n : String} {d : Definition}
    (h : definitionOf scope n = .ok (some d)) : d.name = n := by
  unfold definitionOf at h
  split at h
  · cases h
  · exact name_of_definitionIn h

/-- **A function is found under the name that was asked for.** -/
theorem name_of_inScopes {scopes : List String} {n : String} {r : Resolved}
    (h : inScopes scopes n = .ok (some r)) : r.name = n := by
  induction scopes with
  | nil => cases h
  | cons scope rest ih =>
    obtain ⟨found, hfound, h⟩ := bind_eq_ok_iff.mp h
    cases found with
    | none => exact ih h
    | some d =>
      cases h
      exact name_of_definitionOf hfound

theorem inlineName_ne_empty (counts : InlineCounts) (kind : EventKind) :
    (inlineName counts kind).1 ≠ "" := by
  have hbase : "inline_" ++ kind.text ++ "_handler" ≠ "" := by cases kind <;> decide
  unfold inlineName
  dsimp only
  split
  · exact hbase
  · intro hempty
    have hlist := congrArg String.toList hempty
    rw [String.toList_append, String.toList_append, String.toList_empty] at hlist
    exact hbase (by simpa using (List.append_eq_nil_iff.mp (List.append_eq_nil_iff.mp hlist).1).1)

section Names

variable {scopes : List String} {kind : EventKind} {counts later : InlineCounts} {r : Resolved}

theorem name_of_named {n : String} (hn : n ≠ "") (h : named (inScopes scopes) n = .ok r) :
    r.name ≠ "" := by
  obtain ⟨found, hfound, h⟩ := bind_eq_ok_iff.mp h
  cases found with
  | none =>
    cases h
    exact hn
  | some r' =>
    cases h
    rw [Option.getD_some, name_of_inScopes hfound]
    exact hn

/-- What is bound to no function is given a name. -/
theorem name_of_inlineHandler {trivial : Except BracketFault Bool} {body : Option String}
    {isAsync : Bool}
    (h : (do
      if ← trivial then return (none, counts)
      else
        let (n, counts) := inlineName counts kind
        return (some ⟨n, body, isAsync⟩, counts)) =
      (.ok (some r, later) : Except BracketFault (Option Resolved × InlineCounts))) :
    r.name ≠ "" := by
  obtain ⟨t, -, h⟩ := bind_eq_ok_iff.mp h
  cases t with
  | true => cases h
  | false =>
    cases h
    exact inlineName_ne_empty counts kind

theorem name_of_resolveInline {s : List Char}
    (h : resolveInline s kind (inScopes scopes) counts = .ok (some r, later)) : r.name ≠ "" := by
  unfold resolveInline at h
  generalize inlineBody s = inline at h
  dsimp only at h
  obtain ⟨stmt, -, h⟩ := bind_eq_ok_iff.mp h
  obtain ⟨called, hcalled, h⟩ := bind_eq_ok_iff.mp h
  cases called with
  | none =>
    obtain ⟨found, hfound, h⟩ := bind_eq_ok_iff.mp h
    cases hfound
    exact name_of_inlineHandler h
  | some n =>
    dsimp only at h
    split at h
    · obtain ⟨found, hfound, h⟩ := bind_eq_ok_iff.mp h
      cases hfound
      exact name_of_inlineHandler h
    · obtain ⟨found, hfound, h⟩ := bind_eq_ok_iff.mp h
      cases found with
      | none => exact name_of_inlineHandler h
      | some r' =>
        cases h
        rw [name_of_inScopes hfound]
        exact onlyCall_ne_empty hcalled

/-- **What a binding runs has a name.** -/
theorem name_of_resolve {expr : String}
    (h : resolve expr kind (inScopes scopes) counts = .ok (some r, later)) : r.name ≠ "" := by
  have hnamed : ∀ {n : String}, n ≠ "" →
      ((named (inScopes scopes) n).map fun r => (some r, counts)) = .ok (some r, later) →
        r.name ≠ "" := by
    intro n hn hmap
    cases hr : named (inScopes scopes) n with
    | error e =>
      rw [hr] at hmap
      cases hmap
    | ok r' =>
      rw [hr] at hmap
      cases hmap
      exact name_of_named hn hr
  unfold resolve at h
  dsimp only at h
  split at h
  · cases h
  · split at h
    · next n hn => exact hnamed (lastMember_ne_empty hn) h
    · split at h
      · split at h
        · next n hn => exact hnamed (lastMember_ne_empty hn) h
        · exact name_of_resolveInline h
      · exact name_of_resolveInline h

theorem names_of_resolveAll {bs : List Binding} {rs : List (Binding × Resolved)}
    (h : resolveAll (inScopes scopes) bs counts = .ok rs) : ∀ br ∈ rs, br.2.name ≠ "" := by
  induction bs generalizing counts rs with
  | nil =>
    cases h
    exact fun br hbr => absurd hbr List.not_mem_nil
  | cons b rest ih =>
    obtain ⟨⟨r, counts'⟩, hr, h⟩ := bind_eq_ok_iff.mp h
    obtain ⟨later, hlater, h⟩ := bind_eq_ok_iff.mp h
    cases h
    intro br hbr
    rcases List.mem_append.mp hbr with hfirst | hrest
    · obtain ⟨r', rfl, rfl⟩ := Option.map_eq_some_iff.mp (Option.mem_toList.mp hfirst)
      exact name_of_resolve hr
    · exact ih hlater br hrest

end Names

/-! ## 2. Adding what bindings run -/

/-- No name leads nowhere. -/
structure State.Closed (s : State) : Prop where
  distinct : (s.handlers.map (·.name)).Nodup
  found : ∀ e ∈ s.elements, ∀ k ∈ e.handlers, ∃ h ∈ s.handlers, h.name = k.2

theorem mem_handlers_bindHandler {kind : EventKind} {n : String} {e : Element}
    {k : EventKind × String} (h : k ∈ (bindHandler kind n e).handlers) :
    k ∈ e.handlers ∨ k = (kind, n) := by
  unfold bindHandler at h
  split at h
  · exact .inl h
  · rcases List.mem_append.mp h with hold | hnew
    · exact .inl hold
    · exact .inr (List.mem_singleton.mp hnew)

/-- An element after a binding has no other names than before and the one that the binding runs. -/
theorem mem_elements_add {s : State} {b : Binding} {r : Resolved} {e : Element}
    (he : e ∈ (s.add b r).elements) {k : EventKind × String} (hk : k ∈ e.handlers) :
    (∃ e' ∈ s.elements, k ∈ e'.handlers) ∨ k.2 = r.name := by
  rw [elements_add] at he
  cases hplace : b.element with
  | none =>
    rw [hplace] at he
    exact .inl ⟨e, he, hk⟩
  | some i =>
    rw [hplace] at he
    obtain ⟨j, hj⟩ := List.mem_iff_getElem?.mp he
    rw [List.getElem?_modify] at hj
    obtain ⟨e', he', rfl⟩ := Option.map_eq_some_iff.mp hj
    split at hk
    · rcases mem_handlers_bindHandler hk with hold | rfl
      · exact .inl ⟨e', List.mem_of_getElem? he', hold⟩
      · exact .inr rfl
    · exact .inl ⟨e', List.mem_of_getElem? he', hk⟩

/-- After a binding is added there is a handler of the name that it runs, and those that were there
    before are there still. -/
theorem handlers_of_add (s : State) (b : Binding) (r : Resolved) :
    (∃ h ∈ (s.add b r).handlers, h.name = r.name) ∧ s.handlers ⊆ (s.add b r).handlers := by
  rw [handlers_add]
  split
  · next h =>
    obtain ⟨g, hg, hname⟩ := List.any_eq_true.mp h
    exact ⟨⟨g, hg, of_decide_eq_true hname⟩, fun _ => id⟩
  · refine ⟨⟨r.handler b, by simp, rfl⟩, fun h hh => List.mem_append_left _ hh⟩

/-- **One binding.** -/
theorem closed_add {s : State} (h : s.Closed) (b : Binding) (r : Resolved) :
    (s.add b r).Closed where
  distinct := by
    rw [handlers_add]
    split
    · exact h.distinct
    · next hnew =>
      rw [List.map_append, List.nodup_append]
      refine ⟨h.distinct, by simp, fun n hn n' hn' hsame => hnew ?_⟩
      obtain ⟨g, hg, rfl⟩ := List.mem_map.mp hn
      rw [List.mem_singleton.mp hn'] at hsame
      exact List.any_eq_true.mpr ⟨g, hg, decide_eq_true hsame⟩
  found := by
    obtain ⟨hnew, hkept⟩ := handlers_of_add s b r
    intro e he k hk
    rcases mem_elements_add he hk with ⟨e', he', hk'⟩ | hname
    · obtain ⟨g, hg, hgk⟩ := h.found e' he' k hk'
      exact ⟨g, hkept hg, hgk⟩
    · obtain ⟨g, hg, hgr⟩ := hnew
      exact ⟨g, hg, hgr.trans hname.symm⟩

/-- **All bindings.** -/
theorem closed_addAll {s : State} (h : s.Closed) (rs : List (Binding × Resolved)) :
    (s.addAll rs).Closed := by
  induction rs generalizing s with
  | nil => exact h
  | cons br rs ih => exact ih (closed_add h br.1 br.2)

theorem handlers_of_addAll (s : State) (rs : List (Binding × Resolved)) :
    (∀ br ∈ rs, ∃ h ∈ (s.addAll rs).handlers, h.name = br.2.name) ∧
      s.handlers ⊆ (s.addAll rs).handlers := by
  induction rs generalizing s with
  | nil => exact ⟨fun br hbr => absurd hbr List.not_mem_nil, fun _ => id⟩
  | cons br rs ih =>
    obtain ⟨hnew, hkept⟩ := handlers_of_add s br.1 br.2
    obtain ⟨hlater, hlast⟩ := ih (s.add br.1 br.2)
    refine ⟨List.forall_mem_cons.mpr ⟨?_, hlater⟩, fun h hh => hlast (hkept hh)⟩
    obtain ⟨g, hg, hname⟩ := hnew
    exact ⟨g, hlast hg, hname⟩

/-! ## 3. The first binding of an event -/

/-- What the bindings run first when the event happens at the place. -/
def firstRun (rs : List (Binding × Resolved)) (i : Nat) (kind : EventKind) : Option String :=
  (rs.find? fun br => br.1.element = some i && br.1.kind = kind).map (·.2.name)

theorem lookup_bindHandler (kind kind' : EventKind) (n : String) (e : Element) :
    (bindHandler kind n e).handlers.lookup kind' =
      (e.handlers.lookup kind').or (if kind = kind' then some n else none) := by
  unfold bindHandler
  by_cases hsame : kind = kind'
  · subst hsame
    cases hfound : e.handlers.lookup kind with
    | some m => simp [hfound]
    | none => simp [hfound, List.lookup_append]
  · have hother : (kind' == kind) = false := beq_eq_false_iff_ne.mpr fun h => hsame h.symm
    rw [if_neg hsame, Option.or_none]
    split
    · rfl
    · simp [List.lookup_append, List.lookup_cons, hother]

theorem lookup_add (s : State) (b : Binding) (r : Resolved) (i : Nat) (kind : EventKind) :
    (s.add b r).elements[i]?.map (·.handlers.lookup kind) = s.elements[i]?.map fun e =>
      (e.handlers.lookup kind).or
        (if b.element = some i ∧ b.kind = kind then some r.name else none) := by
  rw [elements_add]
  cases hplace : b.element with
  | none => simp
  | some j =>
    dsimp only
    rw [List.getElem?_modify]
    cases s.elements[i]? with
    | none => rfl
    | some e =>
      by_cases hij : j = i
      · subst hij
        simp [lookup_bindHandler]
      · simp [hij]

/-- **An element has the name that the first of the bindings runs.** -/
theorem lookup_addAll (s : State) (rs : List (Binding × Resolved)) (i : Nat) (kind : EventKind) :
    (s.addAll rs).elements[i]?.map (·.handlers.lookup kind) = s.elements[i]?.map fun e =>
      (e.handlers.lookup kind).or (firstRun rs i kind) := by
  induction rs generalizing s with
  | nil => simp [firstRun]
  | cons br rs ih =>
    have hstep := lookup_add s br.1 br.2 i kind
    rw [addAll_cons, ih]
    cases he : s.elements[i]? with
    | none =>
      rw [he, Option.map_none] at hstep
      rw [Option.map_eq_none_iff.mp hstep, Option.map_none, Option.map_none]
    | some e =>
      rw [he, Option.map_some] at hstep
      obtain ⟨e', he', hlookup⟩ := Option.map_eq_some_iff.mp hstep
      rw [he', Option.map_some, Option.map_some, hlookup, Option.or_assoc]
      congr 2
      unfold firstRun
      by_cases hthis : br.1.element = some i ∧ br.1.kind = kind
      · simp [hthis]
      · rw [if_neg hthis, Option.none_or, List.find?_cons_of_neg (by simpa using hthis)]

/-! ## 4. Elements as they are collected -/

end Handling

/-- An element is opened without handlers, and only binding them gives it any. -/
theorem Element.untouched_handlers : Element.Untouched (·.handlers) [] :=
  ⟨fun _ _ _ _ => rfl, fun _ _ => rfl, fun _ _ => rfl, fun _ _ => rfl⟩

/-- **Elements are collected without handlers.** -/
theorem Collector.fresh_collect {d : Dialect} {events : List TagEvent} {c : Collected}
    (h : collect d events = .ok c) : ∀ e ∈ c.elements, e.handlers = [] :=
  uniform_collect Element.untouched_handlers h

/-- Binding values leaves handlers as they are. -/
theorem Assembly.handlers_bindValues (states : List StateVariable)
    (values : List (Nat × String)) (elements : List Element) :
    (bindValues states values elements).map (·.handlers) = elements.map (·.handlers) :=
  map_bindValues Element.untouched_handlers states values elements

/-! ## 5. Assembled components -/

namespace Handling

/-- The handler of a click is found if its name is. -/
theorem handlerOfClick_eq_some {handlers : List Handler} {bound : List String} {button : Element}
    {n : String} (hclick : button.handler? .click = some n) (hn : n ≠ "")
    (hfound : ∃ h ∈ handlers, h.name = n) :
    ∃ h ∈ handlers, h.name = n ∧ handlerOfClick handlers bound button = some h := by
  obtain ⟨g, hg, hgn⟩ := hfound
  have hname : Text.nonEmpty (button.handler? .click) = some n :=
    Text.nonEmpty_eq_some.mpr ⟨hclick, hn⟩
  unfold handlerOfClick
  rw [hname]
  dsimp only
  cases hfind : handlers.reverse.find? (·.name = n) with
  | none =>
    have hnot := List.find?_eq_none.mp hfind g (List.mem_reverse.mpr hg)
    exact absurd (decide_eq_true hgn) hnot
  | some h =>
    have hname := List.find?_some hfind
    exact ⟨h, List.mem_reverse.mp (List.mem_of_find?_eq_some hfind), of_decide_eq_true hname, rfl⟩

/-- **Handler references are closed.**  In a component that is assembled from elements without
    handlers the handlers' names are distinct, every name that an element holds is one of them, and
    so is every name that a binding runs; an element holds the name that its first binding of an
    event runs, and the handler of a bound button's click is found under that name. -/
theorem references_closed {name : String} {c : Collected} {scopes : List String}
    {states : List StateVariable} {props : List ComponentProp} {library : Option String}
    {extra : List Binding} {comp : Component} (hfresh : ∀ e ∈ c.elements, e.handlers = [])
    (h : Assembly.assemble name c (inScopes scopes) states props library extra = .ok comp) :
    (comp.handlers.map (·.name)).Nodup ∧
    (∀ e ∈ comp.elements, ∀ k ∈ e.handlers, ∃ g ∈ comp.handlers, g.name = k.2) ∧
    ∃ rs, resolveAll (inScopes scopes) (c.bindings ++ extra) [] = .ok rs ∧
      (∀ br ∈ rs, ∃ g ∈ comp.handlers, g.name = br.2.name) ∧
      (∀ i e kind, comp.elements[i]? = some e → e.handler? kind = firstRun rs i kind) ∧
      ∀ e ∈ comp.elements, ∀ n, e.handler? .click = some n →
        ∃ g ∈ comp.handlers, g.name = n ∧
          handlerOfClick comp.handlers (boundNames comp.elements) e = some g := by
  obtain ⟨t, hbuild, h⟩ := bind_eq_ok_iff.mp h
  cases h
  obtain ⟨rs, counts, hrs, rfl⟩ := build_eq_addAll _ _ _ t hbuild
  have hnone : ∀ e ∈ Assembly.bindValues states c.valueBindings c.elements, e.handlers = [] := by
    intro e he
    have hmem := List.mem_map_of_mem (f := (·.handlers)) he
    rw [Assembly.handlers_bindValues] at hmem
    obtain ⟨e', he', hsame⟩ := List.mem_map.mp hmem
    rw [← hsame, hfresh e' he']
  generalize Assembly.bindValues states c.valueBindings c.elements = elements at hnone
  have hstart : ({ elements } : State).Closed := by
    refine ⟨List.nodup_nil, fun e he k hk => ?_⟩
    rw [hnone e he] at hk
    cases hk
  have hclosed := closed_addAll hstart rs
  have hfirst : ∀ i e kind, (({ elements } : State).addAll rs).elements[i]? = some e →
      e.handler? kind = firstRun rs i kind := by
    intro i e kind he
    have hlookup := lookup_addAll { elements } rs i kind
    rw [he] at hlookup
    obtain ⟨e', he', hsame⟩ := Option.map_eq_some_iff.mp hlookup.symm
    rw [hnone e' (List.mem_of_getElem? he')] at hsame
    exact hsame.symm
  refine ⟨hclosed.distinct, hclosed.found, rs, hrs, (handlers_of_addAll _ rs).1, hfirst, ?_⟩
  intro e he n hclick
  obtain ⟨i, hi⟩ := List.mem_iff_getElem?.mp he
  have hrun := (hfirst i e .click hi).symm.trans hclick
  obtain ⟨br, hbr, rfl⟩ := Option.map_eq_some_iff.mp hrun
  have hmem := List.mem_of_find?_eq_some hbr
  exact handlerOfClick_eq_some hclick (names_of_resolveAll hrs br hmem)
    ((handlers_of_addAll _ rs).1 br hmem)

/-- A form and a button run one function, which the button's second attribute does not change; a
    link without an element runs what has no name. -/
def sharedEvents : List TagEvent :=
  [.open_ "form" [("onsubmit", "save")] false [] none,
   .open_ "button" [("onclick", "save()"), ("ONCLICK", "other")] false [] none,
   .close "button", .close "form",
   .open_ "a" [("onclick", "log(1)")] false [] none, .close "a"]

/-- The function that both run. -/
def sharedScript : String := "function save() \x7bsend(1)\x7d"

/-- The button's click is found among three handlers. -/
theorem references_closed_shared : ∃ c comp e g,
    Collector.collect .markup sharedEvents = .ok c ∧
    Assembly.assemble "page" c (inScopes [sharedScript]) [] [] none [] = .ok comp ∧
    comp.handlers.map (·.name) = ["save", "other", "inline_click_handler"] ∧
    comp.elements.map (·.handlers) = [[(.submit, "save")], [(.click, "save")]] ∧
    e ∈ comp.elements ∧ e.handler? .click = some "save" ∧ g.name = "save" ∧
    handlerOfClick comp.handlers (boundNames comp.elements) e = some g := by
  have hrun : ((Collector.collect .markup sharedEvents).toOption.bind fun c =>
      (Assembly.assemble "page" c (inScopes [sharedScript]) [] [] none []).toOption.map fun comp =>
        (comp.handlers.map (·.name), comp.elements.map (·.handlers))) =
      some (["save", "other", "inline_click_handler"],
        [[(.submit, "save")], [(.click, "save")]]) := by
    decide +kernel
  obtain ⟨c, hc, hrun⟩ := Option.bind_eq_some_iff.mp hrun
  obtain ⟨comp, hcomp, hnames⟩ := Option.map_eq_some_iff.mp hrun
  obtain ⟨hhandlers, helements⟩ := Prod.mk.inj hnames
  have hc := toOption_eq_some_iff.mp hc
  have hcomp := toOption_eq_some_iff.mp hcomp
  obtain ⟨-, -, -, -, -, -, hclicks⟩ := references_closed (Collector.fresh_collect hc) hcomp
  have hbutton : [(.click, "save")] ∈ comp.elements.map (·.handlers) := by
    rw [helements]
    decide
  obtain ⟨e, he, hclick⟩ := List.mem_map.mp hbutton
  have hclick : e.handler? .click = some "save" := by
    unfold Element.handler?
    rw [hclick]
    rfl
  obtain ⟨g, -, hname, hfound⟩ := hclicks e he "save" hclick
  exact ⟨c, comp, e, g, hc, hcomp, hhandlers, helements, he, hclick, hname, hfound⟩

end Handling

end Affordance
