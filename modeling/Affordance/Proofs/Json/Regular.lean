import Affordance.Proofs.Json.Numeral

/-!
# JSON values as reading gives them

  * `Regular`: whole numbers have few enough digits, objects have different keys.
  * **`regular_of_readValue`**: every value that is read is regular.
-/

namespace Affordance.Json

open Affordance.Number
open Affordance.Text

/-! ## 1. Regular values -/

mutual

/-- A value as reading gives it. -/
def Regular : Json → Prop
  | int i => i.natAbs < 10 ^ mostDigits
  | arr items => RegularItems items
  | obj fields => (fields.map (·.1)).Nodup ∧ RegularFields fields
  | _ => True

/-- All items are regular. -/
def RegularItems : List Json → Prop
  | [] => True
  | v :: rest => v.Regular ∧ RegularItems rest

/-- The values of all fields are regular. -/
def RegularFields : List (String × Json) → Prop
  | [] => True
  | (_, v) :: rest => v.Regular ∧ RegularFields rest

end

theorem regularFields_iff : ∀ {fields : List (String × Json)},
    RegularFields fields ↔ ∀ f ∈ fields, f.2.Regular
  | [] => ⟨fun _ f hf => absurd hf List.not_mem_nil, fun _ => trivial⟩
  | (k, v) :: rest => by
    rw [RegularFields, regularFields_iff, List.forall_mem_cons]

/-- A field that is set keeps an object regular. -/
theorem Regular.put {key : String} {v : Json} {fields : List (String × Json)}
    (hfields : (obj fields).Regular) (hv : v.Regular) : (obj (Keyed.put key v fields)).Regular :=
  ⟨Keyed.nodup_put key v hfields.1,
    regularFields_iff.mpr (Keyed.forall_put hv (regularFields_iff.mp hfields.2))⟩

/-! ## 2. Reading -/

section Reading

variable {src : Source} {i j : Nat} {v : Json}

/-- Digits that are few enough write a whole number that a value may have. -/
theorem regular_int {ds : List Char} (h : longNumber? ds.length = none) (negative : Bool) :
    (int (if negative then -(numberOfDigits 10 ds : Int) else numberOfDigits 10 ds)).Regular := by
  have hlt : numberOfDigits 10 ds < 10 ^ mostDigits :=
    Nat.lt_of_lt_of_le (numberOfDigits_lt ds)
      (Nat.pow_le_pow_right (by decide) (longNumber?_eq_none.mp h))
  show Int.natAbs _ < 10 ^ mostDigits
  cases negative
  · exact hlt
  · rwa [if_pos rfl, Int.natAbs_neg]

theorem regular_of_readNumber (h : readNumber src i = .ok (v, j)) : v.Regular := by
  unfold readNumber at h
  dsimp only at h
  generalize (if src[i]? == some '-' then i + 1 else i) = k at h
  generalize (if src[k]? == some '0' then ['0'] else digitsAt src k) = whole at h
  generalize fractionAt src (k + whole.length) = frac at h
  generalize (if frac.isEmpty then k + whole.length else k + whole.length + 1 + frac.length) = e at h
  split at h
  · cases h
  split at h
  · split at h
    · cases h
    · rename_i hdigits
      cases h
      exact regular_int hdigits _
  · cases h
    trivial

theorem regular_of_wordAt (h : wordAt src i = some (v, j)) : v.Regular := by
  obtain ⟨w, hfind, hw⟩ := Option.map_eq_some_iff.mp h
  have hall : ∀ w ∈ wordValues, w.2.Regular := by
    simp [wordValues, Regular]
  cases hw
  exact hall w (List.mem_of_find?_eq_some hfind)

end Reading

/-- What reading a part yields, if it yields anything, has the property. -/
def Yields {α : Type} (r : Step α) (p : α → Prop) : Prop := ∀ a j, r = .ok (a, j) → p a

theorem Yields.fault {α : Type} {p : α → Prop} (kind : FaultKind) (i : Nat) :
    Yields (Json.fault kind i) p := by
  rintro a j ⟨⟩

theorem Yields.map {α β : Type} {r : Step α} {f : α × Nat → β × Nat} {p : β → Prop}
    (h : ∀ a j, r = .ok (a, j) → p (f (a, j)).1) : Yields (r.map f) p := by
  intro b k hb
  cases r with
  | error e => cases hb
  | ok aj =>
    have hval := h aj.1 aj.2 rfl
    rw [show f aj = (b, k) from Except.ok.inj hb] at hval
    exact hval

section Steps

variable {src : Source} {n : Nat}

theorem yields_value (hitems : ∀ i, Yields (readItems src n i) RegularItems)
    (hfields : ∀ fields i, (obj fields).Regular →
      Yields (readFields src n fields i) fun fs => (obj fs).Regular) (i : Nat) :
    Yields (readValue src (n + 1) i) Regular := by
  rw [readValue]
  split
  · exact .fault _ i
  split
  · exact .map fun _ _ _ => trivial
  split
  · dsimp only
    split
    · rintro v j ⟨⟩
      exact ⟨List.nodup_nil, trivial⟩
    · exact .map fun fs j hread => hfields [] _ ⟨List.nodup_nil, trivial⟩ fs j hread
  split
  · dsimp only
    split
    · rintro v j ⟨⟩
      trivial
    · exact .map fun vs j hread => hitems _ vs j hread
  split
  · rename_i v j hword
    rintro _ _ ⟨⟩
    exact regular_of_wordAt hword
  · exact fun v j hread => regular_of_readNumber hread

theorem yields_items (hvalue : ∀ i, Yields (readValue src n i) Regular)
    (hitems : ∀ i, Yields (readItems src n i) RegularItems) (i : Nat) :
    Yields (readItems src (n + 1) i) RegularItems := by
  rw [readItems]
  split
  · rintro vs j ⟨⟩
  · rename_i v j hread
    dsimp only
    split
    · rintro _ _ ⟨⟩
      exact ⟨hvalue i v j hread, trivial⟩
    split
    · exact .map fun vs k hmore => ⟨hvalue i v j hread, hitems _ vs k hmore⟩
    · exact .fault _ _

theorem yields_fields (hvalue : ∀ i, Yields (readValue src n i) Regular)
    (hfields : ∀ fields i, (obj fields).Regular →
      Yields (readFields src n fields i) fun fs => (obj fs).Regular)
    (fields : List (String × Json)) (i : Nat) (hregular : (obj fields).Regular) :
    Yields (readFields src (n + 1) fields i) fun fs => (obj fs).Regular := by
  rw [readFields]
  split
  · split
    · rintro fs j ⟨⟩
    · rename_i key j _
      dsimp only
      split
      · split
        · rintro fs j ⟨⟩
        · rename_i v k hread
          have hput : (obj (Keyed.put key v fields)).Regular :=
            hregular.put (hvalue _ v k hread)
          split
          · rintro _ _ ⟨⟩
            exact hput
          split
          · exact hfields _ _ hput
          · exact .fault _ _
      · exact .fault _ _
  · exact .fault _ i

end Steps

/-- **Every value that is read is regular.** -/
theorem regular_of_readValue (src : Source) : ∀ n,
    (∀ i, Yields (readValue src n i) Regular) ∧
    (∀ i, Yields (readItems src n i) RegularItems) ∧
    ∀ fields i, (obj fields).Regular → Yields (readFields src n fields i) fun fs => (obj fs).Regular
  | 0 => ⟨fun i => .fault _ i, fun i => .fault _ i, fun _ i _ => .fault _ i⟩
  | n + 1 => by
    obtain ⟨hvalue, hitems, hfields⟩ := regular_of_readValue src n
    exact ⟨yields_value hitems hfields, yields_items hvalue hitems, yields_fields hvalue hfields⟩

/-- A text that is read as a JSON value is read as a regular one. -/
theorem regular_of_read {src : Source} {v : Json} (h : read src = .ok v) : v.Regular := by
  unfold read at h
  split at h
  · cases h
  split at h
  · cases h
  · rename_i w i hread
    dsimp only at h
    split at h
    · cases h
      exact (regular_of_readValue src _).1 _ _ _ hread
    · cases h

end Affordance.Json
