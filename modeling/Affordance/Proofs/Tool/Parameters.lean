import Mathlib.Data.List.ReduceOption
import Affordance.Proofs.Text.SnakeCase
import Affordance.Tool.Schema

/-!
# Keys of parameters

The keys of inputs are assigned twice: all of them in one pass over the inputs (`parameterKeys`),
and one by one while the parameters are put together (`InputSchema.of`), each against the
parameters that are there.

  * `keysFrom_new`: the keys of a pass are all different, and none of them was taken.
  * `snakeName_key`: every key is in snake case.
  * `foldl_put`: the INVARIANT that ties both together: parameters to which inputs are put gain
    the parameters of the keyed inputs, their own keys being the ones that are taken.
  * `InputSchema.of_eq_keyed`: so the parameters are those of the inputs with their keys of one
    pass. `properties_keys` and `required_eq` say which keys they have and which are required.
-/

namespace Affordance

open Affordance.Text

/-! ## 1. Keys of one pass -/

/-- The keys of a pass are all different, and none of them was taken. -/
theorem keysFrom_new : ∀ (inputs : List Element) (taken : List String),
    (keysFrom taken inputs).reduceOption.Nodup ∧
      ∀ k ∈ (keysFrom taken inputs).reduceOption, k ∉ taken
  | [], _ => ⟨List.nodup_nil, fun k hk => absurd hk List.not_mem_nil⟩
  | e :: rest, taken => by
    rw [keysFrom]
    cases e.parameterKey with
    | none =>
      dsimp only
      rw [List.reduceOption_cons_of_none]
      exact keysFrom_new rest taken
    | some k =>
      dsimp only
      rw [List.reduceOption_cons_of_some]
      obtain ⟨hnodup, hnew⟩ := keysFrom_new rest (taken ++ [fresh k taken])
      constructor
      · refine List.nodup_cons.mpr ⟨fun hmem => ?_, hnodup⟩
        exact hnew _ hmem (List.mem_append_right taken (List.mem_singleton_self _))
      · intro key hkey
        rcases List.mem_cons.mp hkey with rfl | hkey
        · exact fresh_not_mem k taken
        · exact fun hmem => hnew key hkey (List.mem_append_left _ hmem)

theorem length_keysFrom : ∀ (inputs : List Element) (taken : List String),
    (keysFrom taken inputs).length = inputs.length
  | [], _ => rfl
  | e :: rest, taken => by
    rw [keysFrom]
    cases e.parameterKey <;> simp [length_keysFrom rest]

/-- Every key is in snake case. -/
theorem snakeName_key : ∀ {inputs : List Element} {taken : List String} {k : String},
    some k ∈ keysFrom taken inputs → SnakeName k.toList
  | [], _, _, h => absurd h List.not_mem_nil
  | e :: rest, taken, k, h => by
    rw [keysFrom] at h
    cases hown : e.parameterKey with
    | none =>
      rw [hown] at h
      rcases List.mem_cons.mp h with h | h
      · cases h
      · exact snakeName_key h
    | some own =>
      rw [hown] at h
      rcases List.mem_cons.mp h with h | h
      · obtain rfl := Option.some.inj h
        obtain ⟨hraw, hne⟩ := nonEmpty_eq_some.mp hown
        obtain ⟨raw, -, rfl⟩ := Option.map_eq_some_iff.mp hraw
        exact snakeName_fresh (snakeName_snake hne) taken
      · exact snakeName_key h

/-! ## 2. Inputs with their keys -/

namespace InputSchema

/-- Inputs that have a key in a pass, with their keys. -/
def keyedFrom (taken : List String) (inputs : List Element) : List (String × Element) :=
  (inputs.zip (keysFrom taken inputs)).filterMap fun (e, key) => key.map (·, e)

theorem keyedFrom_cons_of_none {e : Element} (h : e.parameterKey = none) (taken : List String)
    (rest : List Element) : keyedFrom taken (e :: rest) = keyedFrom taken rest := by
  simp [keyedFrom, keysFrom, h]

theorem keyedFrom_cons_of_some {e : Element} {k : String} (h : e.parameterKey = some k)
    (taken : List String) (rest : List Element) :
    keyedFrom taken (e :: rest) =
      (fresh k taken, e) :: keyedFrom (taken ++ [fresh k taken]) rest := by
  simp [keyedFrom, keysFrom, h]

/-- The keys of the inputs that have one. -/
theorem keyedFrom_keys : ∀ (inputs : List Element) (taken : List String),
    (keyedFrom taken inputs).map (·.1) = (keysFrom taken inputs).reduceOption
  | [], _ => rfl
  | e :: rest, taken => by
    cases hown : e.parameterKey with
    | none =>
      rw [keyedFrom_cons_of_none hown, keyedFrom_keys rest, keysFrom, hown]
      exact (List.reduceOption_cons_of_none _).symm
    | some k =>
      rw [keyedFrom_cons_of_some hown, List.map_cons, keyedFrom_keys rest, keysFrom, hown]
      exact (List.reduceOption_cons_of_some _ _).symm

/-! ## 3. Parameters put together one by one -/

/-- The parameters of keyed inputs. -/
def ofKeyed (fields : List (String × Element)) : InputSchema where
  properties := fields.map fun (k, e) => (k, e.property)
  required := (fields.filter (·.2.isRequired)).map (·.1)

/-- **The invariant of putting parameters together**: the inputs still to come get the keys of
    one pass against the parameters that are there. -/
theorem foldl_put : ∀ (inputs : List Element) (s : InputSchema),
    inputs.foldl put s =
      let more := ofKeyed (keyedFrom (s.properties.map (·.1)) inputs)
      ⟨s.properties ++ more.properties, s.required ++ more.required⟩
  | [], s => by simp [keyedFrom, ofKeyed]
  | e :: rest, s => by
    rw [List.foldl_cons, foldl_put rest]
    cases hown : e.parameterKey with
    | none =>
      rw [keyedFrom_cons_of_none hown]
      simp only [put, hown]
    | some k =>
      have hnew := Keyed.put_of_new (v := e.property) (fresh_not_mem k (s.properties.map (·.1)))
      rw [keyedFrom_cons_of_some hown]
      simp only [put, hown, hnew]
      cases hreq : e.isRequired <;> simp [ofKeyed, hreq]

/-- **The parameters are those of the inputs with their keys of one pass.** -/
theorem of_eq_keyed (inputs : List Element) : of inputs = ofKeyed (keyed inputs) := by
  rw [of, foldl_put]
  rfl

/-- The keys of the parameters are the keys of the inputs, in order. -/
theorem properties_keys (inputs : List Element) :
    (of inputs).properties.map (·.1) = (parameterKeys inputs).reduceOption := by
  rw [of_eq_keyed, ofKeyed, List.map_map]
  exact keyedFrom_keys inputs []

/-- The required keys are those of the required inputs, in order. -/
theorem required_eq (inputs : List Element) :
    (of inputs).required = ((inputs.zip (parameterKeys inputs)).filterMap fun (e, key) =>
      if e.isRequired then key else none) := by
  rw [of_eq_keyed]
  simp only [ofKeyed, keyed]
  rw [List.filter_filterMap, List.map_filterMap]
  refine List.filterMap_congr fun x _ => ?_
  obtain ⟨e, key⟩ := x
  cases key with
  | none => simp
  | some k => cases hreq : e.isRequired <;> simp [hreq]

end InputSchema

end Affordance
