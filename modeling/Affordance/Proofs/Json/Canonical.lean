import Mathlib.Data.List.Forall2
import Mathlib.Data.List.Nodup
import Affordance.Proofs.Json.RoundTrip
import Affordance.Proofs.Text.Pieces

/-!
# Canonical texts of JSON values

  * `Same`: values compared, objects as maps and lists in order.
  * `Textual`: values of words and texts, whose objects have different keys.
  * `sortFields_eq_of_lookup`: equal maps have their fields in one order; `rel_lookup`: fields that
    agree one by one are equal maps.
  * `joined_inj`: joined texts are told apart if each of them is told from what comes behind it.
  * **`renderAt_canonical_inj`**: by induction on the value, a canonical text is told from whatever
    comes behind it, and so is the value.
  * **`render_canonical_eq_iff`**: textual values have one canonical text iff they are the same.
-/

namespace Affordance.Json

open Affordance.Text

/-! ## 1. Values compared -/

/-- The values are the same: objects are compared as maps, lists in order. -/
inductive Same : Json → Json → Prop
  | null : Same null null
  | bool (b : Bool) : Same (bool b) (bool b)
  | int (i : Int) : Same (int i) (int i)
  | num (m : Number.Measure) : Same (num m) (num m)
  | str (s : String) : Same (str s) (str s)
  | arr {xs ys : List Json} : List.Forall₂ Same xs ys → Same (arr xs) (arr ys)
  | obj {fs gs : List (String × Json)} :
      (∀ k, Option.Rel Same (fs.lookup k) (gs.lookup k)) → Same (obj fs) (obj gs)

theorem Same.str_iff {s t : String} : Same (Json.str s) (Json.str t) ↔ s = t := by
  refine ⟨fun h => ?_, fun h => h ▸ .str s⟩
  cases h
  rfl

/-- The same objects have the same fields. -/
theorem Same.value {v w a b : Json} (h : Same v w) (key : String) (ha : v.field? key = some a)
    (hb : w.field? key = some b) : Same a b := by
  cases h with
  | @obj fs gs h =>
    have hkey : Option.Rel Same (some a) (some b) := ha ▸ hb ▸ h key
    cases hkey with
    | some h => exact h
  | null | bool | int | num | str | arr => cases ha

/-- A value of words and texts, whose objects have different keys. -/
inductive Textual : Json → Prop
  | null : Textual null
  | bool (b : Bool) : Textual (bool b)
  | str (s : String) : Textual (str s)
  | arr {items : List Json} : (∀ v ∈ items, Textual v) → Textual (arr items)
  | obj {fields : List (String × Json)} : (fields.map (·.1)).Nodup →
      (∀ f ∈ fields, Textual f.2) → Textual (obj fields)

/-! ## 2. Maps and their fields in order -/

section Maps

variable {α β : Type} {fs gs : List (String × α)}

/-- Where keys are different, a field is what its key stands for. -/
theorem mem_iff_lookup (h : (fs.map (·.1)).Nodup) (k : String) (v : α) :
    (k, v) ∈ fs ↔ fs.lookup k = some v := by
  induction fs with
  | nil => simp
  | cons f fs ih =>
    obtain ⟨l, w⟩ := f
    obtain ⟨hnew, hrest⟩ := List.nodup_cons.mp h
    rw [List.mem_cons, ih hrest, List.lookup_cons]
    by_cases hk : k = l
    · subst hk
      have hnone : fs.lookup k ≠ some v := fun hv =>
        hnew (List.mem_map.mpr ⟨(k, v), (ih hrest).mpr hv, rfl⟩)
      simp [hnone, eq_comm]
    · simp [hk, beq_eq_false_iff_ne.mpr hk]

theorem sortFields_perm (fs : List (String × α)) : (sortFields fs).Perm fs :=
  List.mergeSort_perm _ _

/-- Fields are put in order by their keys alone. -/
theorem sortFields_map (r : α → β) (fs : List (String × α)) :
    sortFields (fs.map fun f => (f.1, r f.2)) = (sortFields fs).map fun f => (f.1, r f.2) := by
  unfold sortFields
  exact (List.map_mergeSort (f := fun f : String × α => (f.1, r f.2)) fun _ _ _ _ => rfl).symm

theorem sortFields_sorted (fs : List (String × α)) :
    (sortFields fs).Pairwise fun f g => f.1 ≤ g.1 := by
  have hle : ∀ f g : String × α, (!decide (g.1 < f.1)) = true ↔ f.1 ≤ g.1 := fun f g => by
    rw [Bool.not_eq_true', decide_eq_false_iff_not]
    exact String.not_lt
  have hsorted : (sortFields fs).Pairwise fun f g => (!decide (g.1 < f.1)) = true := by
    refine List.pairwise_mergeSort ?_ ?_ fs
    · intro a b c hab hbc
      exact (hle a c).mpr (String.le_trans ((hle a b).mp hab) ((hle b c).mp hbc))
    · intro a b
      rw [Bool.or_eq_true, hle, hle]
      exact String.le_total a.1 b.1
  exact hsorted.imp fun h => (hle _ _).mp h

theorem nodup_of_keys (h : (fs.map (·.1)).Nodup) : fs.Nodup := List.Nodup.of_map _ h

/-- The fields of equal maps have one order. -/
theorem sortFields_eq_of_lookup (hf : (fs.map (·.1)).Nodup) (hg : (gs.map (·.1)).Nodup)
    (h : ∀ k, fs.lookup k = gs.lookup k) : sortFields fs = sortFields gs := by
  have hperm : fs.Perm gs := by
    refine (List.perm_ext_iff_of_nodup (nodup_of_keys hf) (nodup_of_keys hg)).mpr fun f => ?_
    rw [mem_iff_lookup hf, mem_iff_lookup hg, h]
  have hsorted : (sortFields fs).Perm (sortFields gs) :=
    (sortFields_perm fs).trans (hperm.trans (sortFields_perm gs).symm)
  refine hsorted.eq_of_pairwise ?_ (sortFields_sorted fs) (sortFields_sorted gs)
  intro a b ha hb hab hba
  have hkey : a.1 = b.1 := String.le_antisymm hab hba
  have ha' := (mem_iff_lookup hf a.1 a.2).mp ((sortFields_perm fs).mem_iff.mp ha)
  have hb' := (mem_iff_lookup hg b.1 b.2).mp ((sortFields_perm gs).mem_iff.mp hb)
  rw [h, hkey, hb'] at ha'
  exact Prod.ext hkey (Option.some.inj ha').symm

/-- Fields keep what their keys stand for when they are put in order. -/
theorem lookup_sortFields (h : (fs.map (·.1)).Nodup) (k : String) :
    (sortFields fs).lookup k = fs.lookup k := by
  have hsorted : ((sortFields fs).map (·.1)).Nodup :=
    ((sortFields_perm fs).map (·.1)).nodup_iff.mpr h
  refine Option.ext fun v => ?_
  rw [← mem_iff_lookup h, ← mem_iff_lookup hsorted]
  exact (sortFields_perm fs).mem_iff

/-- Fields that agree one by one are equal maps. -/
theorem rel_lookup {S : α → α → Prop}
    (h : List.Forall₂ (fun f g => f.1 = g.1 ∧ S f.2 g.2) fs gs) (k : String) :
    Option.Rel S (fs.lookup k) (gs.lookup k) := by
  induction h with
  | nil => exact .none
  | @cons f g fs gs hfg _ ih =>
    rw [show f = (f.1, f.2) from rfl, show g = (g.1, g.2) from rfl, ← hfg.1, List.lookup_cons,
      List.lookup_cons]
    cases k == f.1
    · exact ih
    · exact .some hfg.2

end Maps

/-! ## 3. Texts told apart -/

section Joined

variable {α : Type} {f : α → List Char} {R : α → α → Prop} {s t : List Char}

/-- Joined texts are told apart, and from what comes behind their end, if each of them is told from
    what comes behind it and none begins with the end. -/
theorem joined_inj {cl : Char} (hcl : cl ≠ ',') : ∀ {as bs : List α},
    (∀ a ∈ as, ∀ b ∈ bs, ∀ s t, f a ++ s = f b ++ t → R a b ∧ s = t) →
    (∀ a ∈ as ++ bs, ∃ c rest, f a = c :: rest ∧ c ≠ cl) →
    joinChars [','] (as.map f) ++ cl :: s = joinChars [','] (bs.map f) ++ cl :: t →
    List.Forall₂ R as bs ∧ s = t
  | [], [], _, _, h => ⟨.nil, List.tail_eq_of_cons_eq h⟩
  | [], b :: bs, _, hhead, h => by
    obtain ⟨c, rest, hb, hc⟩ := hhead b List.mem_cons_self
    rw [List.map_cons, joinChars_cons, hb] at h
    exact absurd (List.head_eq_of_cons_eq h).symm hc
  | a :: as, [], _, hhead, h => by
    obtain ⟨c, rest, ha, hc⟩ := hhead a List.mem_cons_self
    rw [List.map_cons, joinChars_cons, ha] at h
    exact absurd (List.head_eq_of_cons_eq h) hc
  | a :: as, b :: bs, hinj, hhead, h => by
    rw [List.map_cons, List.map_cons, joinChars_cons, joinChars_cons, List.append_assoc,
      List.append_assoc] at h
    obtain ⟨hab, htail⟩ := hinj a List.mem_cons_self b List.mem_cons_self _ _ h
    cases as with
    | nil =>
      cases bs with
      | nil => exact ⟨.cons hab .nil, List.tail_eq_of_cons_eq htail⟩
      | cons b' bs => exact absurd (List.head_eq_of_cons_eq htail) hcl
    | cons a' as =>
      cases bs with
      | nil => exact absurd (List.head_eq_of_cons_eq htail).symm hcl
      | cons b' bs =>
        have hsub : (a' :: as ++ b' :: bs).Sublist (a :: a' :: as ++ b :: b' :: bs) :=
          (List.sublist_cons_self a _).append (List.sublist_cons_self b _)
        obtain ⟨hrest, hend⟩ := joined_inj hcl
          (fun a ha b hb => hinj a (List.mem_cons_of_mem _ ha) b (List.mem_cons_of_mem _ hb))
          (fun c hc => hhead c (hsub.subset hc))
          (List.tail_eq_of_cons_eq htail)
        exact ⟨.cons hab hrest, hend⟩

end Joined

/-! ## 4. Canonical texts -/

/-- A bracketed list on one line. -/
theorem bracket_canonical (level : Nat) (op cl : Char) (items : List (List Char)) :
    bracket .canonical level op cl items = op :: (joinChars [','] items ++ [cl]) := by
  cases items with
  | nil => rfl
  | cons x xs =>
    rw [bracket, if_neg (by simp)]
    simp [Style.canonical, Style.newline]

/-- A field whose value is written. -/
def writtenField (f : String × List Char) : List Char := renderText false f.1 ++ ':' :: f.2

/-- A written field. -/
def canonicalField (level : Nat) (f : String × Json) : List Char :=
  writtenField (f.1, renderAt .canonical level f.2)

theorem renderAt_canonical_arr (level : Nat) (items : List Json) :
    renderAt .canonical level (arr items) =
      '[' :: (joinChars [','] (items.map (renderAt .canonical (level + 1))) ++ [']']) := by
  rw [renderAt, bracket_canonical, renderItems_eq]

/-- The fields of an object are written before they are put in order. -/
theorem renderAt_canonical_written (level : Nat) (fields : List (String × Json)) :
    renderAt .canonical level (obj fields) =
      '\x7b' :: (joinChars [','] ((sortFields
        (fields.map fun f => (f.1, renderAt .canonical (level + 1) f.2))).map writtenField) ++
        ['\x7d']) := by
  have hfield : ∀ f : String × List Char,
      renderText Style.canonical.asciiOnly f.1 ++ Style.canonical.keySep.toList ++ f.2 =
        writtenField f := fun f => List.append_assoc ..
  rw [renderAt, bracket_canonical, renderFields_eq]
  exact congrArg (fun items => '\x7b' :: (joinChars [','] items ++ ['\x7d']))
    (List.map_congr_left fun f _ => hfield f)

theorem renderAt_canonical_obj (level : Nat) (fields : List (String × Json)) :
    renderAt .canonical level (obj fields) =
      '\x7b' :: (joinChars [','] ((sortFields fields).map (canonicalField (level + 1))) ++
        ['\x7d']) := by
  rw [renderAt_canonical_written, sortFields_map, List.map_map]
  rfl

/-- The character that a canonical text begins with. -/
def mark : Json → Char
  | null => 'n'
  | bool b => if b then 't' else 'f'
  | str _ => '"'
  | arr _ => '['
  | obj _ => '\x7b'
  | int _ | num _ => '0'

theorem exists_renderAt_eq {v : Json} (h : v.Textual) (level : Nat) :
    ∃ rest, renderAt .canonical level v = v.mark :: rest := by
  cases h with
  | null => exact ⟨_, rfl⟩
  | bool b => cases b <;> exact ⟨_, rfl⟩
  | str s => exact ⟨_, rfl⟩
  | arr _ => exact ⟨_, renderAt_canonical_arr level _⟩
  | obj _ _ => exact ⟨_, renderAt_canonical_obj level _⟩

theorem mark_ne (v : Json) : v.mark ≠ ']' := by
  cases v with
  | bool b => cases b <;> simp [mark]
  | null | int | num | str | arr | obj => simp [mark]

theorem mark_eq {v w : Json} (hv : v.Textual) (hw : w.Textual) {level : Nat} {s t : List Char}
    (h : renderAt .canonical level v ++ s = renderAt .canonical level w ++ t) :
    v.mark = w.mark := by
  obtain ⟨rest, hrest⟩ := exists_renderAt_eq hv level
  obtain ⟨rest', hrest'⟩ := exists_renderAt_eq hw level
  rw [hrest, hrest'] at h
  exact List.head_eq_of_cons_eq h

/-- The canonical text of the value is told from whatever comes behind it, and so is the value. -/
def ToldApart (v : Json) : Prop :=
  ∀ w : Json, w.Textual → ∀ (level : Nat) (s t : List Char),
    renderAt .canonical level v ++ s = renderAt .canonical level w ++ t → Same v w ∧ s = t

theorem told_arr {xs ys : List Json} (hxs : ∀ v ∈ xs, v.Textual) (hys : ∀ v ∈ ys, v.Textual)
    (hapart : ∀ v ∈ xs, v.ToldApart) {level : Nat} {s t : List Char}
    (h : renderAt .canonical level (arr xs) ++ s = renderAt .canonical level (arr ys) ++ t) :
    Same (arr xs) (arr ys) ∧ s = t := by
  rw [renderAt_canonical_arr, renderAt_canonical_arr] at h
  simp only [List.cons_append, List.append_assoc] at h
  have hhead : ∀ v ∈ xs ++ ys,
      ∃ c rest, renderAt .canonical (level + 1) v = c :: rest ∧ c ≠ ']' := by
    intro v hv
    have htextual : v.Textual := (List.mem_append.mp hv).elim (hxs v) (hys v)
    obtain ⟨rest, hrest⟩ := exists_renderAt_eq htextual (level + 1)
    exact ⟨_, rest, hrest, mark_ne v⟩
  obtain ⟨hsame, hrest⟩ := joined_inj (by decide)
    (fun v hv w hw s t => hapart v hv w (hys w hw) (level + 1) s t) hhead
    (List.tail_eq_of_cons_eq h)
  exact ⟨.arr hsame, hrest⟩

/-- A written field is told from whatever comes behind it if its value is. -/
theorem told_field {f g : String × Json} (hapart : f.2.ToldApart) (hg : g.2.Textual) {level : Nat}
    {s t : List Char} (h : canonicalField level f ++ s = canonicalField level g ++ t) :
    (f.1 = g.1 ∧ Same f.2 g.2) ∧ s = t := by
  unfold canonicalField writtenField at h
  rw [List.append_assoc, List.append_assoc] at h
  obtain ⟨hkey, hvalue⟩ := renderText_inj h
  obtain ⟨hsame, hrest⟩ := hapart _ hg level s t (List.tail_eq_of_cons_eq hvalue)
  exact ⟨⟨hkey, hsame⟩, hrest⟩

theorem told_obj {fs gs : List (String × Json)} (hfs : (obj fs).Textual) (hgs : (obj gs).Textual)
    (hapart : ∀ f ∈ fs, f.2.ToldApart) {level : Nat} {s t : List Char}
    (h : renderAt .canonical level (obj fs) ++ s = renderAt .canonical level (obj gs) ++ t) :
    Same (obj fs) (obj gs) ∧ s = t := by
  cases hfs with
  | obj hkeys _ =>
    cases hgs with
    | obj hkeys' hvalues' =>
      rw [renderAt_canonical_obj, renderAt_canonical_obj] at h
      simp only [List.cons_append, List.append_assoc] at h
      have hfields : ∀ f ∈ sortFields fs, ∀ g ∈ sortFields gs, ∀ s t,
          canonicalField (level + 1) f ++ s = canonicalField (level + 1) g ++ t →
            (f.1 = g.1 ∧ Same f.2 g.2) ∧ s = t := fun f hf g hg _ _ =>
        told_field (hapart f ((sortFields_perm fs).mem_iff.mp hf))
          (hvalues' g ((sortFields_perm gs).mem_iff.mp hg))
      obtain ⟨hsame, hrest⟩ := joined_inj (by decide) hfields
        (fun f _ => ⟨'"', _, rfl, by decide⟩) (List.tail_eq_of_cons_eq h)
      refine ⟨.obj fun k => ?_, hrest⟩
      rw [← lookup_sortFields hkeys, ← lookup_sortFields hkeys']
      exact rel_lookup hsame k

/-- **A canonical text is told from whatever comes behind it, and so is its value.** -/
theorem Textual.toldApart {v : Json} (hv : v.Textual) : v.ToldApart := by
  induction hv with
  | null =>
    intro w hw level s t h
    have hmark := mark_eq .null hw h
    cases hw with
    | null => exact ⟨.null, List.append_cancel_left h⟩
    | bool b => cases b <;> simp [mark] at hmark
    | str | arr | obj => simp [mark] at hmark
  | bool b =>
    intro w hw level s t h
    have hmark := mark_eq (.bool b) hw h
    cases hw with
    | bool c =>
      obtain rfl : b = c := by cases b <;> cases c <;> simp [mark] at hmark ⊢
      exact ⟨.bool b, List.append_cancel_left h⟩
    | null | str | arr | obj => cases b <;> simp [mark] at hmark
  | str k =>
    intro w hw level s t h
    have hmark := mark_eq (.str k) hw h
    cases hw with
    | str l =>
      obtain ⟨rfl, hrest⟩ := renderText_inj h
      exact ⟨.str k, hrest⟩
    | bool b => cases b <;> simp [mark] at hmark
    | null | arr | obj => simp [mark] at hmark
  | @arr items hitems ih =>
    intro w hw level s t h
    have hmark := mark_eq (.arr hitems) hw h
    cases hw with
    | arr hothers => exact told_arr hitems hothers ih h
    | bool b => cases b <;> simp [mark] at hmark
    | null | str | obj => simp [mark] at hmark
  | @obj fields hkeys hfields ih =>
    intro w hw level s t h
    have hmark := mark_eq (.obj hkeys hfields) hw h
    cases hw with
    | obj hkeys' hothers => exact told_obj (.obj hkeys hfields) (.obj hkeys' hothers) ih h
    | bool b => cases b <;> simp [mark] at hmark
    | null | str | arr => simp [mark] at hmark

/-! ## 5. One text for one value -/

section Equal

variable {α β : Type} {S : α → α → Prop}

theorem map_eq_of_forall₂ {r : α → β} {xs ys : List α} (h : List.Forall₂ S xs ys)
    (hr : ∀ x ∈ xs, ∀ y ∈ ys, S x y → r x = r y) : xs.map r = ys.map r := by
  induction h with
  | nil => rfl
  | @cons x y xs ys hxy _ ih =>
    rw [List.map_cons, List.map_cons, hr x List.mem_cons_self y List.mem_cons_self hxy,
      ih fun x hx y hy => hr x (List.mem_cons_of_mem _ hx) y (List.mem_cons_of_mem _ hy)]

theorem map_eq_of_rel {r : α → β} {x y : Option α} (h : Option.Rel S x y)
    (hr : ∀ a, x = some a → ∀ b, y = some b → S a b → r a = r b) : x.map r = y.map r := by
  cases h with
  | none => rfl
  | some h => exact congrArg some (hr _ rfl _ rfl h)

theorem lookup_map (r : α → β) (k : String) : ∀ fs : List (String × α),
    (fs.map fun f => (f.1, r f.2)).lookup k = (fs.lookup k).map r
  | [] => rfl
  | (l, v) :: fs => by
    rw [List.map_cons, List.lookup_cons, List.lookup_cons, lookup_map r k fs]
    cases k == l <;> rfl

theorem keys_map (r : α → β) (fs : List (String × α)) :
    (fs.map fun f => (f.1, r f.2)).map (·.1) = fs.map (·.1) := List.map_map ..

end Equal

/-- Values that are the same have one canonical text. -/
theorem renderAt_canonical_eq {v w : Json} (hv : v.Textual) (hw : w.Textual) (h : Same v w)
    (level : Nat) : renderAt .canonical level v = renderAt .canonical level w := by
  induction hv generalizing w level with
  | null | bool | str =>
    cases h
    rfl
  | @arr items hitems ih =>
    cases h with
    | @arr _ others hsame =>
      cases hw with
      | arr hothers =>
        have hmap := map_eq_of_forall₂ hsame fun v hv w hw hvw =>
          ih v hv (hothers w hw) hvw (level + 1)
        rw [renderAt_canonical_arr, renderAt_canonical_arr, hmap]
  | @obj fields hkeys hfields ih =>
    cases h with
    | @obj _ others hsame =>
      cases hw with
      | obj hkeys' hothers =>
        have hlookup : ∀ k, (fields.lookup k).map (renderAt .canonical (level + 1)) =
            (others.lookup k).map (renderAt .canonical (level + 1)) := fun k =>
          map_eq_of_rel (hsame k) fun a ha b hb hab =>
            ih (k, a) ((mem_iff_lookup hkeys k a).mpr ha)
              (hothers (k, b) ((mem_iff_lookup hkeys' k b).mpr hb)) hab (level + 1)
        rw [renderAt_canonical_written, renderAt_canonical_written,
          sortFields_eq_of_lookup (keys_map _ fields ▸ hkeys) (keys_map _ others ▸ hkeys')
            fun k => by rw [lookup_map, lookup_map, hlookup]]

/-- **Values of words and texts have one canonical text iff they are the same.** -/
theorem render_canonical_eq_iff {v w : Json} (hv : v.Textual) (hw : w.Textual) :
    render .canonical v = render .canonical w ↔ Same v w := by
  constructor
  · intro h
    have htext : renderAt .canonical 0 v ++ [] = renderAt .canonical 0 w ++ [] := by
      rw [List.append_nil, List.append_nil]
      exact String.ofList_injective h
    exact (hv.toldApart w hw 0 [] [] htext).1
  · intro h
    rw [render, render, renderAt_canonical_eq hv hw h]

end Affordance.Json
