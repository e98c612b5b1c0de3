import Mathlib.Data.Finmap
import Mathlib.Data.List.Dedup
import Affordance.Proofs.Handler.CacheFile
import Affordance.Proofs.Json.Pieces

/-!
# The entries of a cache as a map

  * `BodyMap`: bodies by their keys, without an order and without the other fields.
  * `storedBodies`: the map that a file holds, whatever the file is.
  * `Consistent`: the INVARIANT of entries in memory: their keys are different, and each has its
    body where the next reading will find it.
  * **`storedBodies_save`**: a file that was written with consistent entries holds their bodies.
  * **`storedEntries_spec`**: entries that are loaded are consistent, and they have the bodies
    that the file holds.
-/

namespace Affordance

open Affordance.Text

/-! ## 1. Maps of bodies -/

/-- A map of bodies by their keys. -/
abbrev BodyMap : Type := Finmap fun _ : String => String

/-- The map of a list of bodies. -/
def bodyMap (bodies : List (String × String)) : BodyMap :=
  List.toFinmap (bodies.map fun (k, b) => ⟨k, b⟩)

/-- The body in a JSON value: a text under its key in an object. -/
def bodyOf? : Json → Option String
  | .obj fields =>
    match fields.lookup bodyKey with
    | some (.str body) => some body
    | _ => none
  | _ => none

/-- The bodies in the fields of an object; other fields do not count. -/
def bodiesIn (fields : List (String × Json)) : List (String × String) :=
  fields.filterMap fun (k, v) => (bodyOf? v).map (k, ·)

/-- The map that a file holds: the bodies in its object. What is no readable JSON object holds
    none. -/
def storedBodies (d : Disk) (path : String) : BodyMap :=
  match storedValue d path with
  | .ok (.obj fields) => bodyMap (bodiesIn fields)
  | _ => ∅

theorem lookup_bodyMap (bodies : List (String × String)) (key : String) :
    (bodyMap bodies).lookup key = bodies.lookup key := by
  rw [bodyMap, Finmap.dlookup_list_toFinmap]
  induction bodies with
  | nil => rfl
  | cons f rest ih =>
    obtain ⟨k, b⟩ := f
    rw [List.map_cons, List.lookup_cons]
    by_cases h : key = k
    · subst h
      rw [List.dlookup_cons_eq, beq_self_eq_true]
    · rw [List.dlookup_cons_ne _ _ h, ih, beq_eq_false_iff_ne.mpr h]

theorem card_bodyMap {bodies : List (String × String)} (h : (bodies.map (·.1)).Nodup) :
    (bodyMap bodies).keys.card = bodies.length := by
  have hkeys : (bodyMap bodies).keys = (bodies.map (·.1)).toFinset := by
    ext k
    rw [Finmap.mem_keys, bodyMap, Finmap.mem_list_toFinmap, List.mem_toFinset]
    constructor
    · rintro ⟨b, hb⟩
      obtain ⟨f, hf, hfb⟩ := List.mem_map.mp hb
      exact List.mem_map.mpr ⟨f, hf, congrArg Sigma.fst hfb⟩
    · intro hk
      obtain ⟨f, hf, rfl⟩ := List.mem_map.mp hk
      exact ⟨f.2, List.mem_map.mpr ⟨f, hf, rfl⟩⟩
  rw [hkeys, List.toFinset_card_of_nodup h, List.length_map]

/-! ## 2. Entries -/

/-- The bodies of entries. -/
def bodiesOf (es : CacheEntries) : List (String × String) := es.map fun (k, e) => (k, e.body)

/-- **The invariant of entries in memory**: their keys are different, each entry has its body
    under the key of the body, and its fields are such as reading gives them. -/
structure Consistent (es : CacheEntries) : Prop where
  keys : (es.map (·.1)).Nodup
  body : ∀ f ∈ es, f.2.fields.lookup bodyKey = some (.str f.2.body)
  regular : ∀ f ∈ es, (Json.obj f.2.fields).Regular

theorem lookup_bodiesOf (key : String) : ∀ es : CacheEntries,
    (bodiesOf es).lookup key = (es.lookup key).map (·.body)
  | [] => rfl
  | (k, e) :: rest => by
    show List.lookup key ((k, e.body) :: bodiesOf rest) = _
    rw [List.lookup_cons, List.lookup_cons, lookup_bodiesOf key rest]
    cases key == k <;> rfl

theorem bodyMap_put (key : String) (e : CacheEntry) (es : CacheEntries) :
    bodyMap (bodiesOf (Keyed.put key e es)) = (bodyMap (bodiesOf es)).insert key e.body := by
  refine Finmap.ext_lookup fun k => ?_
  rw [lookup_bodyMap, lookup_bodiesOf]
  by_cases h : k = key
  · rw [h, Keyed.lookup_put_self, Finmap.lookup_insert]
    rfl
  · rw [Keyed.lookup_put_other h, Finmap.lookup_insert_of_ne _ h, lookup_bodyMap, lookup_bodiesOf]

theorem Consistent.card {es : CacheEntries} (h : Consistent es) :
    (bodyMap (bodiesOf es)).keys.card = es.length := by
  have hkeys : (bodiesOf es).map (·.1) = es.map (·.1) := by
    rw [bodiesOf, List.map_map]
    rfl
  rw [card_bodyMap (hkeys ▸ h.keys), bodiesOf, List.length_map]

theorem consistent_nil : Consistent [] :=
  ⟨List.nodup_nil, fun _ hf => absurd hf List.not_mem_nil, fun _ hf => absurd hf List.not_mem_nil⟩

/-- A new entry has its body and a time with few digits. -/
theorem regular_new (body : String) (time : Int64) :
    (Json.obj (CacheEntry.new body time.toInt).fields).Regular := by
  refine ⟨by simp [CacheEntry.new, bodyKey], trivial, ?_, trivial⟩
  have hlow := time.le_toInt
  have hhigh := time.toInt_lt
  show time.toInt.natAbs < 10 ^ Number.mostDigits
  calc time.toInt.natAbs < 10 ^ 19 := by omega
    _ ≤ 10 ^ Number.mostDigits := Nat.pow_le_pow_right (by decide) (by decide)

theorem Consistent.put {es : CacheEntries} (h : Consistent es) (key body : String)
    (time : Int64) : Consistent (Keyed.put key (.new body time.toInt) es) where
  keys := Keyed.nodup_put key _ h.keys
  body := Keyed.forall_put (p := fun e : CacheEntry => e.fields.lookup bodyKey = some (.str e.body))
    rfl h.body
  regular := Keyed.forall_put (p := fun e : CacheEntry => (Json.obj e.fields).Regular)
    (regular_new body time) h.regular

/-- What an entry of a JSON value has. -/
theorem ofJson?_some {v : Json} {e : CacheEntry} (h : CacheEntry.ofJson? v = some e) :
    v = .obj e.fields ∧ e.fields.lookup bodyKey = some (.str e.body) := by
  cases v with
  | obj fields =>
    simp only [CacheEntry.ofJson?] at h
    split at h
    · rename_i body hbody
      cases h
      exact ⟨rfl, hbody⟩
    · cases h
  | _ => cases h

/-- An entry of a JSON value has the body of that value. -/
theorem ofJson?_body (v : Json) : (CacheEntry.ofJson? v).map (·.body) = bodyOf? v := by
  cases v with
  | obj fields =>
    simp only [CacheEntry.ofJson?, bodyOf?]
    cases fields.lookup bodyKey with
    | none => rfl
    | some w => cases w <;> rfl
  | _ => rfl

theorem entriesOf_cons (k : String) (v : Json) (rest : List (String × Json)) :
    entriesOf ((k, v) :: rest) =
      ((CacheEntry.ofJson? v).map (k, ·)).toList ++ entriesOf rest := by
  unfold entriesOf
  rw [List.filterMap_cons]
  cases hentry : CacheEntry.ofJson? v <;> simp only [hentry] <;> rfl

theorem bodiesIn_cons (k : String) (v : Json) (rest : List (String × Json)) :
    bodiesIn ((k, v) :: rest) = ((bodyOf? v).map (k, ·)).toList ++ bodiesIn rest := by
  unfold bodiesIn
  rw [List.filterMap_cons]
  cases hbody : bodyOf? v <;> simp only [hbody] <;> rfl

/-- The entries of an object have its bodies. -/
theorem bodiesOf_entriesOf : ∀ fields : List (String × Json),
    bodiesOf (entriesOf fields) = bodiesIn fields
  | [] => rfl
  | (k, v) :: rest => by
    rw [entriesOf_cons, bodiesIn_cons, ← bodiesOf_entriesOf rest, ← ofJson?_body, bodiesOf,
      List.map_append]
    cases CacheEntry.ofJson? v <;> rfl

/-- The keys of the entries are keys of the object. -/
theorem keys_entriesOf : ∀ fields : List (String × Json),
    ((entriesOf fields).map (·.1)).Sublist (fields.map (·.1))
  | [] => .slnil
  | (k, v) :: rest => by
    rw [entriesOf_cons]
    cases CacheEntry.ofJson? v with
    | none => exact (keys_entriesOf rest).cons _
    | some e => exact (keys_entriesOf rest).cons_cons _

/-- The entries of a regular object are consistent. -/
theorem consistent_entriesOf {fields : List (String × Json)} (h : (Json.obj fields).Regular) :
    Consistent (entriesOf fields) := by
  have hentry : ∀ f ∈ entriesOf fields, ∃ v, (f.1, v) ∈ fields ∧
      CacheEntry.ofJson? v = some f.2 := by
    intro f hf
    obtain ⟨g, hg, hmap⟩ := List.mem_filterMap.mp hf
    obtain ⟨e, he, rfl⟩ := Option.map_eq_some_iff.mp hmap
    exact ⟨g.2, hg, he⟩
  refine ⟨(keys_entriesOf fields).nodup h.1, fun f hf => ?_, fun f hf => ?_⟩
  · obtain ⟨v, -, hv⟩ := hentry f hf
    exact (ofJson?_some hv).2
  · obtain ⟨v, hmem, hv⟩ := hentry f hf
    rw [← (ofJson?_some hv).1]
    exact Json.regularFields_iff.mp h.2 _ hmem

/-! ## 3. The file -/

/-- A value without its measures has the same body. -/
theorem bodyOf?_blind (v : Json) : bodyOf? v.blind = bodyOf? v := by
  cases v with
  | obj fields =>
    rw [Json.blind, bodyOf?, bodyOf?, Json.lookup_blindFields]
    cases fields.lookup bodyKey with
    | none => rfl
    | some w => cases w <;> rfl
  | _ => rfl

/-- Fields without their measures have the same bodies. -/
theorem bodiesIn_blindFields : ∀ fields : List (String × Json),
    bodiesIn (Json.blindFields fields) = bodiesIn fields
  | [] => rfl
  | (k, v) :: rest => by
    rw [Json.blindFields, bodiesIn_cons, bodiesIn_cons, bodyOf?_blind, bodiesIn_blindFields rest]

/-- The bodies of entries as JSON values are those of the entries. -/
theorem bodiesIn_entries : ∀ {es : CacheEntries},
    (∀ f ∈ es, f.2.fields.lookup bodyKey = some (.str f.2.body)) →
      bodiesIn (es.map fun (k, e) => (k, .obj e.fields)) = bodiesOf es
  | [], _ => rfl
  | (k, e) :: rest, h => by
    have hbody : bodyOf? (.obj e.fields) = some e.body := by
      rw [bodyOf?, h (k, e) List.mem_cons_self]
    rw [List.map_cons, bodiesIn_cons, hbody,
      bodiesIn_entries fun f hf => h f (List.mem_cons_of_mem _ hf)]
    rfl

/-- Consistent entries are a regular value. -/
theorem Consistent.regular_json {es : CacheEntries} (h : Consistent es) :
    (entriesJson es).Regular := by
  refine ⟨?_, Json.regularFields_iff.mpr fun f hf => ?_⟩
  · rw [List.map_map]
    exact h.keys
  · obtain ⟨g, hg, rfl⟩ := List.mem_map.mp hf
    exact h.regular g hg

/-- The bodies in a text that was written. -/
theorem read_entriesText {es : CacheEntries} (h : Consistent es) :
    ∃ fields, Json.read (entriesText es).toList.toArray = .ok (.obj fields) ∧
      bodiesIn fields = bodiesOf es := by
  obtain ⟨w, hblind, hread⟩ := Json.read_render h.regular_json
  cases w with
  | obj fields =>
    refine ⟨fields, hread, ?_⟩
    have hfields : Json.blindFields fields =
        Json.blindFields (es.map fun (k, e) => (k, .obj e.fields)) := Json.obj.inj hblind
    rw [← bodiesIn_blindFields, hfields, bodiesIn_blindFields, bodiesIn_entries h.body]
  | _ => cases hblind

/-- **What was written is stored**: a file that was written with consistent entries holds their
    bodies. -/
theorem storedBodies_save {c : BodyCache} {d d' : Disk} {path : String} {es : CacheEntries}
    (hpath : nonEmpty c.path = some path) (hes : Consistent es) (h : c.save d es = .ok d') :
    storedBodies d' path = bodyMap (bodiesOf es) := by
  obtain ⟨made, p, -, hplace, rfl⟩ := save_ok hpath h
  obtain ⟨hlocate, -, hname⟩ := Disk.place_ok hplace
  obtain ⟨fields, hread, hbodies⟩ := read_entriesText hes
  have hoctets : (made.putFile p (encodeUtf8 (entriesText es))).octets? path =
      some (encodeUtf8 (entriesText es)) := by
    rw [Disk.octets?, Disk.locate_putFile, hlocate]
    exact Keyed.lookup_put_self _ _ _
  have htext : (made.putFile p (encodeUtf8 (entriesText es))).read path =
      .ok (entriesText es).toList := by
    rw [Disk.read, hname, if_neg Bool.false_ne_true, hoctets]
    dsimp only
    have hnoReturn : '\r' ∉ (entriesText es).toList := by
      rw [entriesText, Json.render, String.toList_ofList]
      exact fun h => Json.noReturn_rendered _ 0 _ h rfl
    rw [decodeUtf8_encodeUtf8]
    exact congrArg Except.ok (universalLines_eq hnoReturn)
  have hvalue : storedValue (made.putFile p (encodeUtf8 (entriesText es))) path =
      .ok (.obj fields) := by
    rw [storedValue, htext]
    dsimp only
    rw [hread]
    rfl
  rw [storedBodies, hvalue]
  dsimp only
  rw [hbodies]

/-- A stored value is a regular one. -/
theorem regular_of_storedValue {d : Disk} {path : String} {v : Json}
    (h : storedValue d path = .ok v) : v.Regular := by
  unfold storedValue at h
  split at h
  · cases h
  · cases h
  · rename_i s _
    cases hread : Json.read s.toArray with
    | error f =>
      rw [hread] at h
      cases h
    | ok w =>
      rw [hread] at h
      cases h
      exact Json.regular_of_read hread

/-- Where nothing is, no value is stored. -/
theorem storedValue_missing {d : Disk} {path : String} (h : d.isPresent path = false) :
    ∃ f, storedValue d path = .error f := by
  have hoctets : d.octets? path = none := by
    simpa [Disk.isFile] using (Bool.or_eq_false_iff.mp h).1
  refine ⟨.directory, ?_⟩
  have hread : d.read path = .error .noPath ∨ d.read path = .error .noFile := by
    rw [Disk.read, hoctets]
    cases Disk.isNoPath path
    · exact .inr rfl
    · exact .inl rfl
  unfold storedValue
  rcases hread with hread | hread <;> rw [hread]

/-- **Loading**: the entries of a file are consistent, and they have the bodies it holds. -/
theorem storedEntries_spec (d : Disk) (path : String) :
    Consistent (storedEntries d path).value ∧
      bodyMap (bodiesOf (storedEntries d path).value) = storedBodies d path := by
  unfold storedEntries storedBodies
  cases hpresent : d.isPresent path with
  | false =>
    obtain ⟨f, hf⟩ := storedValue_missing hpresent
    rw [hf]
    exact ⟨consistent_nil, rfl⟩
  | true =>
    rw [if_pos rfl]
    cases hv : storedValue d path with
    | error f => exact ⟨consistent_nil, rfl⟩
    | ok v =>
      cases v with
      | obj fields =>
        refine ⟨consistent_entriesOf (regular_of_storedValue hv), ?_⟩
        dsimp only
        rw [bodiesOf_entriesOf]
      | _ => exact ⟨consistent_nil, rfl⟩

end Affordance
