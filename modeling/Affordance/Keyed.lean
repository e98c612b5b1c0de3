/-!
# Keyed lists

  * A map that keeps the order in which its keys were first set is a list of pairs with
    distinct keys.  `put` sets a key, `List.lookup` finds a value.
  * `lookup_put_self` and `lookup_put_other`: `put` sets its own key and no other.
    `put_of_new`: a new key comes last. `nodup_put`: the keys stay distinct.
-/

namespace Affordance.Keyed

/-- A key of a map set to a value: a new key comes last, a known one keeps its place. -/
def put {α : Type} (key : String) (v : α) : List (String × α) → List (String × α)
  | [] => [(key, v)]
  | (k, w) :: rest => if k = key then (key, v) :: rest else (k, w) :: put key v rest

theorem lookup_put_self {α : Type} (key : String) (v : α) (fs : List (String × α)) :
    (put key v fs).lookup key = some v := by
  induction fs with
  | nil => simp [put]
  | cons f rest ih =>
    obtain ⟨k, w⟩ := f
    simp only [put]
    split
    · simp
    · rename_i h
      have : (key == k) = false := by
        rw [beq_eq_false_iff_ne]; exact fun e => h e.symm
      simp [List.lookup_cons, this, ih]

theorem lookup_put_other {α : Type} {key other : String} (h : other ≠ key) (v : α)
    (fs : List (String × α)) : (put key v fs).lookup other = fs.lookup other := by
  induction fs with
  | nil => simp [put, List.lookup_cons, beq_eq_false_iff_ne.mpr h]
  | cons f rest ih =>
    obtain ⟨k, w⟩ := f
    simp only [put]
    split
    · rename_i hk
      subst hk
      simp [List.lookup_cons, beq_eq_false_iff_ne.mpr h]
    · simp [List.lookup_cons, ih]

/-- A new key comes last. -/
theorem put_of_new {α : Type} {key : String} {v : α} : ∀ {fs : List (String × α)},
    key ∉ fs.map (·.1) → put key v fs = fs ++ [(key, v)]
  | [], _ => rfl
  | (k, w) :: rest, h => by
    have hk : k ≠ key := fun e => h (by simp [e])
    rw [put, if_neg hk, put_of_new fun hmem => h (List.mem_cons_of_mem k hmem)]
    rfl

/-- A known key keeps its place. -/
theorem keys_put_of_mem {α : Type} {key : String} {v : α} : ∀ {fs : List (String × α)},
    key ∈ fs.map (·.1) → (put key v fs).map (·.1) = fs.map (·.1)
  | [], h => absurd h List.not_mem_nil
  | (k, w) :: rest, h => by
    rw [put]
    split
    · rename_i hk
      rw [List.map_cons, List.map_cons, hk]
    · rename_i hk
      have hrest : key ∈ rest.map (·.1) := (List.mem_cons.mp h).resolve_left fun e => hk e.symm
      rw [List.map_cons, List.map_cons, keys_put_of_mem hrest]

/-- The keys stay distinct. -/
theorem nodup_put {α : Type} (key : String) (v : α) {fs : List (String × α)}
    (h : (fs.map (·.1)).Nodup) : ((put key v fs).map (·.1)).Nodup := by
  by_cases hkey : key ∈ fs.map (·.1)
  · rwa [keys_put_of_mem hkey]
  · rw [put_of_new hkey, List.map_append, List.nodup_append]
    exact ⟨h, by simp, fun k hk k' hk' e => hkey (by simp_all)⟩

/-- What holds of all values and of a new one holds after it was set. -/
theorem forall_put {α : Type} {p : α → Prop} {key : String} {v : α} (hv : p v) :
    ∀ {fs : List (String × α)}, (∀ f ∈ fs, p f.2) → ∀ f ∈ put key v fs, p f.2
  | [], _, f, hf => by rw [List.mem_singleton.mp hf]; exact hv
  | (k, w) :: rest, h, f, hf => by
    have hrest : ∀ f ∈ rest, p f.2 := fun f hf => h f (List.mem_cons_of_mem _ hf)
    rw [put] at hf
    split at hf
    · rcases List.mem_cons.mp hf with rfl | hf
      · exact hv
      · exact hrest f hf
    · rcases List.mem_cons.mp hf with rfl | hf
      · exact h _ List.mem_cons_self
      · exact forall_put hv hrest f hf

/-- The map that results from setting the keys one after the other. -/
def ofList {α : Type} (es : List (String × α)) : List (String × α) :=
  es.foldl (fun fs e => put e.1 e.2 fs) []

/-- The key has a value. -/
def has {α : Type} (key : String) (fs : List (String × α)) : Bool := (fs.lookup key).isSome

/-- A key set to a value, unless it has one already. -/
def putMissing {α : Type} (key : String) (v : α) (fs : List (String × α)) : List (String × α) :=
  if has key fs then fs else fs ++ [(key, v)]

end Affordance.Keyed
