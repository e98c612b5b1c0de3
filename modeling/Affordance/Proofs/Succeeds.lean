import Mathlib.Data.List.Forall2

/-!
# Steps that succeed

  * `Succeeds`: a step gives a value and no fault. A chain of steps succeeds if each of them does
    (`Succeeds.bind`), a step for every item of a list iff it does for each
    (`succeeds_mapM_iff`).
  * `bind_eq_ok_iff`, `bind_eq_error_iff`, `mapM_eq_ok_iff`, `error_of_mapM`: which steps a value
    or a fault comes from.
-/

namespace Affordance

variable {ε ε' α β : Type}

/-- The step gives a value. -/
def Succeeds (x : Except ε α) : Prop := ∃ a, x = .ok a

@[simp] theorem succeeds_ok (a : α) : Succeeds (.ok a : Except ε α) := ⟨a, rfl⟩

@[simp] theorem succeeds_pure (a : α) : Succeeds (pure a : Except ε α) := ⟨a, rfl⟩

@[simp] theorem not_succeeds_error (e : ε) : ¬ Succeeds (.error e : Except ε α) := by
  rintro ⟨a, ha⟩
  cases ha

@[simp] theorem ok_bind (a : α) (f : α → Except ε β) : (.ok a >>= f) = f a := rfl

@[simp] theorem error_bind (e : ε) (f : α → Except ε β) : (.error e >>= f) = .error e := rfl

theorem succeeds_bind_iff {x : Except ε α} {f : α → Except ε β} :
    Succeeds (x >>= f) ↔ ∃ a, x = .ok a ∧ Succeeds (f a) := by
  cases x with
  | ok a =>
    refine ⟨fun h => ⟨a, rfl, h⟩, ?_⟩
    rintro ⟨b, hb, h⟩
    cases hb
    exact h
  | error e =>
    refine ⟨fun h => absurd h (not_succeeds_error e), ?_⟩
    rintro ⟨b, hb, -⟩
    cases hb

theorem Succeeds.bind {x : Except ε α} {f : α → Except ε β} (hx : Succeeds x)
    (hf : ∀ a, x = .ok a → Succeeds (f a)) : Succeeds (x >>= f) := by
  obtain ⟨a, ha⟩ := hx
  exact succeeds_bind_iff.mpr ⟨a, ha, hf a ha⟩

@[simp] theorem succeeds_map_iff {x : Except ε α} {f : α → β} :
    Succeeds (x.map f) ↔ Succeeds x := by
  cases x with
  | ok a => exact iff_of_true (succeeds_ok _) (succeeds_ok _)
  | error e => exact iff_of_false (not_succeeds_error _) (not_succeeds_error _)

@[simp] theorem succeeds_mapError_iff {x : Except ε α} {f : ε → ε'} :
    Succeeds (x.mapError f) ↔ Succeeds x := by
  cases x with
  | ok a => exact iff_of_true (succeeds_ok _) (succeeds_ok _)
  | error e => exact iff_of_false (not_succeeds_error _) (not_succeeds_error _)

/-- A step is done for every item of a list iff it succeeds for each. -/
theorem succeeds_mapM_iff {f : α → Except ε β} : ∀ {xs : List α},
    Succeeds (xs.mapM f) ↔ ∀ x ∈ xs, Succeeds (f x)
  | [] => by simp
  | x :: xs => by
    rw [List.mapM_cons, List.forall_mem_cons, ← succeeds_mapM_iff, succeeds_bind_iff]
    constructor
    · rintro ⟨y, hy, h⟩
      obtain ⟨ys, hys, -⟩ := succeeds_bind_iff.mp h
      exact ⟨⟨y, hy⟩, ⟨ys, hys⟩⟩
    · rintro ⟨⟨y, hy⟩, h⟩
      exact ⟨y, hy, h.bind fun ys _ => succeeds_pure _⟩

@[simp] theorem map_eq_error_iff {x : Except ε α} {f : α → β} {e : ε} :
    x.map f = .error e ↔ x = .error e := by
  cases x with
  | ok a => exact iff_of_false nofun nofun
  | error e' =>
    constructor
    · intro h
      cases h
      rfl
    · intro h
      cases h
      rfl

@[simp] theorem mapError_eq_error_iff {x : Except ε α} {f : ε → ε'} {e : ε'} :
    x.mapError f = .error e ↔ ∃ e', x = .error e' ∧ f e' = e := by
  cases x with
  | ok a => exact iff_of_false nofun nofun
  | error e' =>
    constructor
    · exact fun h => ⟨e', rfl, Except.error.inj h⟩
    · rintro ⟨_, h, rfl⟩
      cases h
      rfl

/-- A fault that no fault is reported as is not reported. -/
theorem mapError_ne_error {x : Except ε α} {f : ε → ε'} {e : ε'} (h : ∀ e', f e' ≠ e) :
    x.mapError f ≠ .error e := by
  intro hx
  obtain ⟨e', -, he⟩ := mapError_eq_error_iff.mp hx
  exact h e' he

theorem bind_eq_error_iff {x : Except ε α} {f : α → Except ε β} {e : ε} :
    x >>= f = .error e ↔ x = .error e ∨ ∃ a, x = .ok a ∧ f a = .error e := by
  cases x with
  | ok a =>
    constructor
    · exact fun h => .inr ⟨a, rfl, h⟩
    · rintro (h | ⟨b, hb, h⟩)
      · cases h
      · cases hb
        exact h
  | error e' =>
    constructor
    · intro h
      cases h
      exact .inl rfl
    · rintro (h | ⟨b, hb, -⟩)
      · cases h
        rfl
      · cases hb

theorem bind_eq_ok_iff {x : Except ε α} {f : α → Except ε β} {b : β} :
    x >>= f = .ok b ↔ ∃ a, x = .ok a ∧ f a = .ok b := by
  cases x with
  | ok a =>
    constructor
    · exact fun h => ⟨a, rfl, h⟩
    · rintro ⟨a', ha', h⟩
      cases ha'
      exact h
  | error e => exact iff_of_false nofun nofun

theorem toOption_eq_some_iff {x : Except ε α} {a : α} : x.toOption = some a ↔ x = .ok a := by
  cases x with
  | ok a' => simp [Except.toOption]
  | error e => exact iff_of_false nofun nofun

@[simp] theorem mapError_eq_ok_iff {x : Except ε α} {f : ε → ε'} {a : α} :
    x.mapError f = .ok a ↔ x = .ok a := by
  cases x with
  | ok a' =>
    constructor
    · intro h
      cases h
      rfl
    · intro h
      cases h
      rfl
  | error e => exact iff_of_false nofun nofun

theorem Succeeds.ne_error {x : Except ε α} (h : Succeeds x) (e : ε) : x ≠ .error e := by
  rintro rfl
  exact not_succeeds_error e h

/-- Steps that agree on the items of a list give the list the same values. -/
theorem mapM_congr {f g : α → Except ε β} : ∀ {xs : List α}, (∀ x ∈ xs, f x = g x) →
    xs.mapM f = xs.mapM g
  | [], _ => rfl
  | x :: xs, h => by
    obtain ⟨hx, hxs⟩ := List.forall_mem_cons.mp h
    rw [List.mapM_cons, List.mapM_cons, hx, mapM_congr hxs]

/-- The values of steps for a list are values of its items, in order. -/
theorem mapM_eq_ok_iff {f : α → Except ε β} : ∀ {xs : List α} {ys : List β},
    xs.mapM f = .ok ys ↔ List.Forall₂ (fun x y => f x = .ok y) xs ys
  | [], ys => by
    simp only [List.mapM_nil, List.forall₂_nil_left_iff]
    exact ⟨fun h => by cases h; rfl, fun h => h ▸ rfl⟩
  | x :: xs, ys => by
    simp only [List.mapM_cons, bind_eq_ok_iff, mapM_eq_ok_iff, List.forall₂_cons_left_iff]
    constructor
    · rintro ⟨y, hy, rest, hrest, h⟩
      cases h
      exact ⟨y, rest, hy, hrest, rfl⟩
    · rintro ⟨y, rest, hy, hrest, rfl⟩
      exact ⟨y, hy, rest, hrest, rfl⟩

/-- A value among those of steps for the items of a list is the value of one item. -/
theorem exists_of_mem_mapM {f : α → Except ε β} {xs : List α} {ys : List β}
    (h : xs.mapM f = .ok ys) {y : β} (hy : y ∈ ys) : ∃ x ∈ xs, f x = .ok y := by
  have hvalues := mapM_eq_ok_iff.mp h
  clear h
  induction hvalues with
  | nil => cases hy
  | cons hx _ ih =>
    rcases List.mem_cons.mp hy with rfl | hy
    · exact ⟨_, List.mem_cons_self, hx⟩
    · obtain ⟨x, hmem, hx⟩ := ih hy
      exact ⟨x, List.mem_cons_of_mem _ hmem, hx⟩

/-- The values among those of steps for the items of a list are the values of its items. -/
theorem mem_mapM_iff {f : α → Except ε β} {xs : List α} {ys : List β} (h : xs.mapM f = .ok ys)
    {y : β} : y ∈ ys ↔ ∃ x ∈ xs, f x = .ok y := by
  refine ⟨exists_of_mem_mapM h, ?_⟩
  rintro ⟨x, hx, hy⟩
  have hvalues := mapM_eq_ok_iff.mp h
  clear h
  induction hvalues with
  | nil => cases hx
  | cons hfirst _ ih =>
    rcases List.mem_cons.mp hx with rfl | hx
    · cases hfirst.symm.trans hy
      exact List.mem_cons_self
    · exact List.mem_cons_of_mem _ (ih hx)

/-- A fault among steps for the items of a list is the fault of one item. -/
theorem error_of_mapM {f : α → Except ε β} {e : ε} : ∀ {xs : List α}, xs.mapM f = .error e →
    ∃ x ∈ xs, f x = .error e
  | [], h => by simp [pure, Except.pure] at h
  | x :: xs, h => by
    rw [List.mapM_cons] at h
    rcases bind_eq_error_iff.mp h with hx | ⟨y, -, h⟩
    · exact ⟨x, List.mem_cons_self, hx⟩
    · rcases bind_eq_error_iff.mp h with hxs | ⟨ys, -, h⟩
      · obtain ⟨z, hz, hfault⟩ := error_of_mapM hxs
        exact ⟨z, List.mem_cons_of_mem x hz, hfault⟩
      · cases h

end Affordance
