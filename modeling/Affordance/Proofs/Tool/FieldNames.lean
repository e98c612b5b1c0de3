import Affordance.Proofs.Text.Fresh
import Affordance.Proofs.Tool.Parameters

/-!
# Names that inputs are keyed by

An input should be left out of a tool's parameters only if none of its names can be used, and
otherwise be keyed by the first name that can.

  * `FirstWith`: the first of some names that has a property.
  * `keysFrom_at`: in a pass over inputs each gets its own key, numbered against the keys before.
  * `Element.KeyedByFirst`: what the key of an input is made of. The first name that is not empty
    is chosen before it is put into snake case, where nothing may be left of it.
  * `Element.Shadowed`: so a name of which nothing is left hides a later one that could be used.
  * **`fields_keyed_as_promised_iff`**: an input is keyed by its first usable name, or left out for
    want of one, iff it is not shadowed. `foreign_name_hides_id`: a name in foreign letters hides
    the identifier.
-/

namespace Affordance

open Affordance.Text

/-! ## 1. Names -/

/-- The name is the first of some names that has the property. -/
def FirstWith (usable : String → Prop) (names : List (Option String)) (n : String) : Prop :=
  ∃ before after, names = before ++ some n :: after ∧ usable n ∧ ∀ m, some m ∈ before → ¬ usable m

theorem firstText_eq_some_iff {names : List (Option String)} {n : String} :
    firstText names = some n ↔ FirstWith (· ≠ "") names n := by
  have hempty : ∀ x : Option String, nonEmpty x = none ↔ ∀ m, x = some m → ¬ m ≠ "" := by
    intro x
    cases x <;> simp [nonEmpty, Option.filter]
  unfold firstText FirstWith
  rw [List.findSome?_eq_some_iff]
  constructor
  · rintro ⟨before, x, after, hsplit, hx, hbefore⟩
    obtain ⟨rfl, hn⟩ := nonEmpty_eq_some.mp hx
    exact ⟨before, after, hsplit, hn, fun m hm => (hempty _).mp (hbefore _ hm) m rfl⟩
  · rintro ⟨before, after, hsplit, hn, hbefore⟩
    refine ⟨before, some n, after, hsplit, nonEmpty_eq_some.mpr ⟨rfl, hn⟩, fun x hx => ?_⟩
    refine (hempty x).mpr fun m hm => ?_
    exact hbefore m (hm ▸ hx)

namespace FirstWith

variable {P Q : String → Prop} {names : List (Option String)} {n : String}

theorem mem (h : FirstWith P names n) : some n ∈ names := by
  obtain ⟨before, after, rfl, -⟩ := h
  exact List.mem_append_right _ List.mem_cons_self

/-- The first name of a wider kind is the first of a narrower one, if it is of that kind. -/
theorem narrow (h : FirstWith P names n) (hn : Q n) (hwider : ∀ m, Q m → P m) :
    FirstWith Q names n := by
  obtain ⟨before, after, hsplit, -, hbefore⟩ := h
  exact ⟨before, after, hsplit, hn, fun m hm hQ => hbefore m hm (hwider m hQ)⟩

end FirstWith

theorem firstWith_unique {names : List (Option String)} {n n' : String}
    (h : FirstWith (· ≠ "") names n) (h' : FirstWith (· ≠ "") names n') : n = n' :=
  Option.some.inj ((firstText_eq_some_iff.mpr h).symm.trans (firstText_eq_some_iff.mpr h'))

/-- Where a name is not empty there is a first one. -/
theorem exists_firstWith_ne_empty {names : List (Option String)} {m : String}
    (hm : some m ∈ names) (hne : m ≠ "") : ∃ n, FirstWith (· ≠ "") names n := by
  cases h : firstText names with
  | some n => exact ⟨n, firstText_eq_some_iff.mp h⟩
  | none =>
    have hnone := List.findSome?_eq_none_iff.mp h _ hm
    rw [nonEmpty_eq_some.mpr ⟨rfl, hne⟩] at hnone
    cases hnone

theorem ne_empty_of_snake {n : String} (h : snake n ≠ "") : n ≠ "" := by
  rintro rfl
  exact h (by decide)

namespace Element

/-- The names that an input may be keyed by, the preferred ones first. -/
def names (e : Element) : List (Option String) :=
  [e.name, e.id, e.stateBinding.map (·.variable_), e.label]

/-- **The key of an input on its own** is made of its first name that is not empty. -/
theorem parameterKey_eq_some_iff {e : Element} {k : String} :
    e.parameterKey = some k ↔
      ∃ n, FirstWith (· ≠ "") e.names n ∧ snake n = k ∧ k ≠ "" := by
  unfold parameterKey
  rw [nonEmpty_eq_some, Option.map_eq_some_iff]
  show (∃ n, firstText e.names = some n ∧ snake n = k) ∧ k ≠ "" ↔ _
  simp only [firstText_eq_some_iff]
  constructor
  · rintro ⟨⟨n, hfirst, hk⟩, hne⟩
    exact ⟨n, hfirst, hk, hne⟩
  · rintro ⟨n, hfirst, hk, hne⟩
    exact ⟨⟨n, hfirst, hk⟩, hne⟩

theorem parameterKey_eq_none_iff {e : Element} :
    e.parameterKey = none ↔ ∀ n, FirstWith (· ≠ "") e.names n → snake n = "" := by
  rw [Option.eq_none_iff_forall_ne_some]
  simp only [Ne, parameterKey_eq_some_iff]
  constructor
  · intro h n hfirst
    exact Classical.byContradiction fun hne => h (snake n) ⟨n, hfirst, rfl, hne⟩
  · rintro h k ⟨n, hfirst, rfl, hne⟩
    exact hne (h n hfirst)

end Element

/-! ## 2. Keys of one pass -/

/-- **An input gets its own key, numbered against the keys before.** -/
theorem keysFrom_at : ∀ (inputs : List Element) (taken : List String) (i : Nat) {e : Element}
    {key : Option String}, inputs[i]? = some e → (keysFrom taken inputs)[i]? = some key →
    key = e.parameterKey.map
      (fresh · (taken ++ ((keysFrom taken inputs).take i).reduceOption))
  | [], _, i, _, _, he, _ => by simp at he
  | d :: rest, taken, 0, e, key, he, hkey => by
    obtain rfl := Option.some.inj he
    rw [keysFrom] at hkey
    rw [List.take_zero, List.reduceOption_nil, List.append_nil]
    cases hown : d.parameterKey with
    | none =>
      rw [hown] at hkey
      exact (Option.some.inj hkey).symm
    | some k =>
      rw [hown] at hkey
      exact (Option.some.inj hkey).symm
  | d :: rest, taken, i + 1, e, key, he, hkey => by
    rw [List.getElem?_cons_succ] at he
    rw [keysFrom] at hkey ⊢
    cases hown : d.parameterKey with
    | none =>
      rw [hown] at hkey
      dsimp only at hkey ⊢
      rw [List.getElem?_cons_succ] at hkey
      rw [List.take_succ_cons, List.reduceOption_cons_of_none]
      exact keysFrom_at rest taken i he hkey
    | some k =>
      rw [hown] at hkey
      dsimp only at hkey ⊢
      rw [List.getElem?_cons_succ] at hkey
      rw [List.take_succ_cons, List.reduceOption_cons_of_some, List.append_cons]
      exact keysFrom_at rest (taken ++ [fresh k taken]) i he hkey

/-! ## 3. What a key is made of -/

namespace Element

variable {e : Element} {taken : List String} {key : Option String}

/-- The key of an input, given the keys before it: the snake case of its first name that is not
    empty, and none if nothing is left of that name. -/
structure KeyedByFirst (e : Element) (taken : List String) (key : Option String) : Prop where
  left_out : key = none ↔ ∀ n, FirstWith (· ≠ "") e.names n → snake n = ""
  named : ∀ k, key = some k →
    ∃ n, FirstWith (· ≠ "") e.names n ∧ snake n ≠ "" ∧ FirstFree (snake n) taken k

/-- The key that an input should have: the snake case of its first name of which anything is left,
    and none only if there is no such name. -/
structure KeyedAsPromised (e : Element) (taken : List String) (key : Option String) : Prop where
  left_out : key = none ↔ ∀ n, some n ∈ e.names → snake n = ""
  named : ∀ k, key = some k →
    ∃ n, FirstWith (snake · ≠ "") e.names n ∧ FirstFree (snake n) taken k

/-- The first name that is not empty leaves nothing in snake case, but another name does. -/
def Shadowed (e : Element) : Prop :=
  (∃ n, FirstWith (· ≠ "") e.names n ∧ snake n = "") ∧ ∃ m, some m ∈ e.names ∧ snake m ≠ ""

theorem keyedByFirst_of_eq (h : key = e.parameterKey.map (fresh · taken)) :
    e.KeyedByFirst taken key := by
  refine ⟨?_, fun k hk => ?_⟩
  · rw [h, Option.map_eq_none_iff, parameterKey_eq_none_iff]
  · rw [h] at hk
    obtain ⟨own, hown, rfl⟩ := Option.map_eq_some_iff.mp hk
    obtain ⟨n, hfirst, rfl, hne⟩ := parameterKey_eq_some_iff.mp hown
    exact ⟨n, hfirst, hne, fresh_firstFree (snake n) taken⟩

/-- **An input is keyed as it should be iff it is not shadowed.** -/
theorem KeyedByFirst.asPromised_iff (h : e.KeyedByFirst taken key) :
    e.KeyedAsPromised taken key ↔ ¬ e.Shadowed := by
  constructor
  · rintro hpromised ⟨⟨n, hfirst, hempty⟩, m, hm, hne⟩
    have hnone : key = none := h.left_out.mpr fun n' hfirst' =>
      firstWith_unique hfirst hfirst' ▸ hempty
    exact hne (hpromised.left_out.mp hnone m hm)
  · intro hclear
    refine ⟨⟨fun hnone m hm => ?_, fun hall => ?_⟩, fun k hk => ?_⟩
    · refine Classical.byContradiction fun hne => ?_
      obtain ⟨n, hfirst⟩ := exists_firstWith_ne_empty hm (ne_empty_of_snake hne)
      exact hclear ⟨⟨n, hfirst, h.left_out.mp hnone n hfirst⟩, m, hm, hne⟩
    · exact h.left_out.mpr fun n hfirst => hall n hfirst.mem
    · obtain ⟨n, hfirst, hne, hfree⟩ := h.named k hk
      exact ⟨n, hfirst.narrow hne fun m => ne_empty_of_snake, hfree⟩

end Element

/-- **Which inputs are keyed as promised**: a tool's parameters are the inputs that have a key of
    their pass. The key of each input is made of its first name that is not empty. So it is that
    of its first usable name, and none only for want of one, iff a first name of which nothing is
    left in snake case does not hide a usable one. -/
theorem fields_keyed_as_promised_iff (inputs : List Element) :
    let keys := parameterKeys inputs
    keys.length = inputs.length ∧
    (InputSchema.of inputs).properties =
      ((inputs.zip keys).filterMap fun (e, key) => key.map (·, e.property)) ∧
    ∀ (i : Nat) (e : Element) (key : Option String), inputs[i]? = some e → keys[i]? = some key →
      e.KeyedByFirst (keys.take i).reduceOption key ∧
      (e.KeyedAsPromised (keys.take i).reduceOption key ↔ ¬ e.Shadowed) := by
  intro keys
  refine ⟨length_keysFrom inputs [], ?_, fun i e key he hkey => ?_⟩
  · rw [InputSchema.of_eq_keyed, InputSchema.ofKeyed, InputSchema.keyed, List.map_filterMap]
    refine List.filterMap_congr fun x _ => ?_
    obtain ⟨e, key⟩ := x
    cases key <;> rfl
  · have hfirst : e.KeyedByFirst (keys.take i).reduceOption key :=
      Element.keyedByFirst_of_eq (keysFrom_at inputs [] i he hkey)
    exact ⟨hfirst, hfirst.asPromised_iff⟩

/-- A field whose name is in foreign letters, with an identifier. -/
def foreignField : Element := { tag := .input, name := some "日本", id := some "ok" }

/-- **A name in foreign letters hides the identifier**: the field is left out. -/
theorem foreign_name_hides_id :
    (InputSchema.of [foreignField]).properties = [] ∧ foreignField.Shadowed ∧
    parameterKeys [foreignField] = [none] ∧ ¬ foreignField.KeyedAsPromised [] none ∧
    foreignField.KeyedAsPromised [] (some "ok") := by
  have hkeys : parameterKeys [foreignField] = [none] := by decide +kernel
  have hshadowed : foreignField.Shadowed := by
    refine ⟨⟨"日本", ⟨[], [some "ok", none, none], rfl, by decide, nofun⟩, by decide +kernel⟩,
      "ok", List.mem_cons_of_mem _ List.mem_cons_self, by decide +kernel⟩
  obtain ⟨-, hproperties, hat⟩ := fields_keyed_as_promised_iff [foreignField]
  rw [hkeys] at hproperties hat
  refine ⟨hproperties, hshadowed, hkeys, ?_, ?_⟩
  · exact fun h => (hat 0 foreignField none rfl rfl).2.mp h hshadowed
  · refine ⟨iff_of_false nofun fun h => ?_, fun k hk => ?_⟩
    · exact absurd (h "ok" (List.mem_cons_of_mem _ List.mem_cons_self)) (by decide +kernel)
    · cases hk
      refine ⟨"ok", ⟨[some "日本"], [none, none], rfl, by decide +kernel, ?_⟩, ?_⟩
      · intro m hm
        cases List.mem_singleton.mp hm
        decide +kernel
      · exact ⟨List.not_mem_nil, .inl (by decide +kernel)⟩

end Affordance
