import Affordance.Surface.Assembly

/-!
# What bindings leave behind

  * `resolveAll`: what a list of bindings runs, resolved before anything is added.
  * `build_eq_addAll`: building handlers is adding what the bindings run one after the other
    (`State.addAll`), so resolving and adding can be looked at apart.
  * `find_addAll`: the handler of a name is made by the FIRST binding that runs it, whatever
    element and event the later ones are for.
  * `firstBinding`, **`event_of_assemble`**: hence the event of a handler is that of the first
    binding of its name, in any order and any sharing of bindings.
-/

namespace Affordance.Handling

open Affordance.Script

/-! ## 1. Resolving first, adding then -/

/-- What the bindings run, in their order; a binding that runs nothing is left out. -/
def resolveAll (find : Finder) :
    List Binding → InlineCounts → Except BracketFault (List (Binding × Resolved))
  | [], _ => .ok []
  | b :: rest, counts => do
    let (r, counts) ← resolve b.expr b.kind find counts
    let later ← resolveAll find rest counts
    return (r.map (b, ·)).toList ++ later

/-- Resolved bindings added one after the other. -/
def State.addAll (s : State) (rs : List (Binding × Resolved)) : State :=
  rs.foldl (fun s br => s.add br.1 br.2) s

@[simp] theorem addAll_nil (s : State) : s.addAll [] = s := rfl

@[simp] theorem addAll_cons (s : State) (br : Binding × Resolved)
    (rs : List (Binding × Resolved)) : s.addAll (br :: rs) = (s.add br.1 br.2).addAll rs := rfl

/-- How many inline handlers there are plays no part in adding. -/
theorem add_counts (s : State) (counts : InlineCounts) (b : Binding) (r : Resolved) :
    { s with counts }.add b r = { s.add b r with counts } := by
  unfold State.add
  by_cases h : s.handlers.any (·.name = r.name) <;> simp [h]

theorem addAll_counts (rs : List (Binding × Resolved)) : ∀ (s : State) (counts : InlineCounts),
    { s with counts }.addAll rs = { s.addAll rs with counts } := by
  induction rs with
  | nil => exact fun _ _ => rfl
  | cons br rs ih =>
    intro s counts
    rw [addAll_cons, add_counts, ih, addAll_cons]

/-- **Building handlers is resolving all bindings and adding what they run.** -/
theorem build_eq_addAll (find : Finder) : ∀ (bs : List Binding) (s t : State),
    build find bs s = .ok t → ∃ rs counts, resolveAll find bs s.counts = .ok rs ∧
      t = { s.addAll rs with counts }
  | [], s, t, h => by
    cases h
    exact ⟨[], s.counts, rfl, rfl⟩
  | b :: rest, s, t, h => by
    cases hr : resolve b.expr b.kind find s.counts with
    | error e => simp [build, State.step, hr, bind, Except.bind] at h
    | ok rc =>
      obtain ⟨r, counts⟩ := rc
      simp only [build, State.step, hr, bind, Except.bind, pure, Except.pure] at h
      cases r with
      | none =>
        obtain ⟨rs, counts', hrs, ht⟩ := build_eq_addAll find rest _ t h
        refine ⟨rs, counts', ?_, ?_⟩
        · simp only [resolveAll, hr, bind, Except.bind, hrs, pure, Except.pure]
          rfl
        · rw [ht, addAll_counts]
      | some r =>
        dsimp only at h
        rw [add_counts] at h
        obtain ⟨rs, counts', hrs, ht⟩ := build_eq_addAll find rest _ t h
        refine ⟨(b, r) :: rs, counts', ?_, ?_⟩
        · simp only [resolveAll, hr, bind, Except.bind, hrs, pure, Except.pure]
          rfl
        · rw [ht, addAll_counts, addAll_cons]

/-! ## 2. Adding one binding, handlers by name -/

theorem handlers_add (s : State) (b : Binding) (r : Resolved) :
    (s.add b r).handlers =
      if s.handlers.any (·.name = r.name) then s.handlers else s.handlers ++ [r.handler b] := by
  unfold State.add
  by_cases h : s.handlers.any (·.name = r.name) <;> simp [h]

theorem elements_add (s : State) (b : Binding) (r : Resolved) :
    (s.add b r).elements = match b.element with
      | some i => s.elements.modify i (bindHandler b.kind r.name)
      | none => s.elements := by
  unfold State.add
  dsimp only
  split <;> rfl

theorem find_add (s : State) (b : Binding) (r : Resolved) (n : String) :
    (s.add b r).handlers.find? (·.name = n) =
      (s.handlers.find? (·.name = n)).or (if r.name = n then some (r.handler b) else none) := by
  rw [handlers_add]
  by_cases h : s.handlers.any (·.name = r.name)
  · rw [if_pos h]
    by_cases hn : r.name = n
    · subst hn
      cases hf : s.handlers.find? (·.name = r.name) with
      | some g => rfl
      | none =>
        obtain ⟨g, hg, hgn⟩ := List.any_eq_true.mp h
        exact absurd hgn (List.find?_eq_none.mp hf g hg)
    · rw [if_neg hn]
      cases s.handlers.find? (·.name = n) <;> rfl
  · rw [if_neg h, List.find?_append]
    by_cases hn : r.name = n <;>
      simp [Resolved.handler, hn]

/-- **The handler of a name is made by the first binding that runs it.** -/
theorem find_addAll (n : String) : ∀ (rs : List (Binding × Resolved)) (s : State),
    (s.addAll rs).handlers.find? (·.name = n) =
      (s.handlers.find? (·.name = n)).or
        ((rs.find? (·.2.name = n)).map fun br => br.2.handler br.1)
  | [], s => by simp
  | br :: rs, s => by
    rw [addAll_cons, find_addAll n rs, find_add]
    by_cases hn : br.2.name = n
    · cases s.handlers.find? (·.name = n) <;> simp [hn]
    · cases s.handlers.find? (·.name = n) <;> simp [hn]

/-! ## 3. Assembled components -/

/-- The first of the bindings that run a name. -/
def firstBinding (find : Finder) (bs : List Binding) (n : String) : Option Binding :=
  match resolveAll find bs [] with
  | .ok rs => (rs.find? (·.2.name = n)).map (·.1)
  | .error _ => none

/-- **The event of a component's handler is that of the first binding of its name.** -/
theorem event_of_assemble {name : String} {c : Collected} {find : Finder}
    {states : List StateVariable} {props : List ComponentProp} {library : Option String}
    {extra : List Binding} {comp : Component}
    (h : Assembly.assemble name c find states props library extra = .ok comp) (n : String) :
    (comp.handlers.find? (·.name = n)).map (·.event) =
      (firstBinding find (c.bindings ++ extra) n).map (·.kind) := by
  unfold Assembly.assemble at h
  cases hb : build find (c.bindings ++ extra)
      { elements := Assembly.bindValues states c.valueBindings c.elements } with
  | error e => simp [hb, bind, Except.bind] at h
  | ok t =>
    simp only [hb, bind, Except.bind, pure, Except.pure, Except.ok.injEq] at h
    subst h
    obtain ⟨rs, counts, hrs, rfl⟩ := build_eq_addAll find _ _ t hb
    simp only [firstBinding, hrs]
    show ((State.addAll _ rs).handlers.find? (·.name = n)).map (·.event) = _
    rw [find_addAll]
    cases rs.find? (·.2.name = n) <;> rfl

end Affordance.Handling
