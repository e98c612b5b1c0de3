import Affordance.Proofs.Markup.Walk

/-!
# Nesting

  * `Spot`: a tag of a tree that is collected, with the places of the collected tags around
    it; `Node.spots` lists them in the order of the source.
  * `spots_split`: what stands around a spot is one of the tags around it and what stands
    around that tag.
  * `Nest`: what an element says about its place; `Collector.nesting`: what a collection
    knows about it.  Only the tag of a form changes the open forms.
  * **`nest_of_collect`**: an element's parent form is the key of the innermost form tag
    around its spot.
-/

namespace Affordance

namespace Markup

open Affordance.Text
open Collector

/-! ## 1. Spots -/

/-- A tag that is collected. -/
structure Spot where
  native : Vocabulary.Native
  attributes : List (String × String)
  /-- The collected tags around it, as their places, the innermost first. -/
  around : List Nat

namespace Spot

/-- The tag is a form. -/
def isForm (s : Spot) : Bool := s.native.1 = .form

/-- The key of the tag as the form of a number. -/
def key (s : Spot) (count : Nat) : String :=
  keyOfForm (literal? s.attributes [] ["id"]) (literal? s.attributes [] ["name"]) count

end Spot

mutual

/-- The spots of a tree, given the collected tags around it and the next place. -/
def Node.spots (d : Dialect) (open_ : List Nat) (next : Nat) : Node → List Spot
  | .text _ => []
  | .tag name attrs children =>
    if name = "script" ∨ name = "style" then []
    else
      match d.native name with
      | some native =>
        ⟨native, attrs.map attributeOf, open_⟩ ::
          Node.spotsAll d (next :: open_) (next + 1) children
      | none => Node.spotsAll d open_ next children

/-- The spots of trees. -/
def Node.spotsAll (d : Dialect) (open_ : List Nat) (next : Nat) : List Node → List Spot
  | [] => []
  | n :: rest =>
    n.spots d open_ next ++
      Node.spotsAll d open_ (next + (n.spots d open_ next).length) rest

end

/-- The keys of the forms among spots, given the number of forms before them. -/
def formKeys : Nat → List Spot → List (Option String)
  | _, [] => []
  | count, s :: rest =>
    if s.isForm then some (s.key (count + 1)) :: formKeys (count + 1) rest
    else none :: formKeys count rest

/-- The places of the spots inside a place. -/
def inside (spots : List Spot) (i : Nat) : List Nat :=
  (spots.zipIdx.filter fun p => p.1.around.contains i).map (·.2)

theorem formKeys_form {s : Spot} (h : s.isForm = true) (count : Nat) (rest : List Spot) :
    formKeys count (s :: rest) = some (s.key (count + 1)) :: formKeys (count + 1) rest := if_pos h

theorem formKeys_other {s : Spot} (h : ¬ s.isForm = true) (count : Nat) (rest : List Spot) :
    formKeys count (s :: rest) = none :: formKeys count rest := if_neg h

theorem length_formKeys : ∀ (count : Nat) (ss : List Spot), (formKeys count ss).length = ss.length
  | _, [] => rfl
  | count, s :: rest => by
    by_cases h : s.isForm
    · rw [formKeys_form h, List.length_cons, length_formKeys, List.length_cons]
    · rw [formKeys_other h, List.length_cons, length_formKeys, List.length_cons]

/-- The number of forms among spots. -/
def formsAmong (ss : List Spot) : Nat := (ss.filter (·.isForm)).length

theorem formsAmong_form {s : Spot} (h : s.isForm = true) (rest : List Spot) :
    formsAmong (s :: rest) = formsAmong rest + 1 := by
  rw [formsAmong, List.filter_cons_of_pos h, List.length_cons, formsAmong]

theorem formsAmong_other {s : Spot} (h : ¬ s.isForm = true) (rest : List Spot) :
    formsAmong (s :: rest) = formsAmong rest := by
  rw [formsAmong, List.filter_cons_of_neg h, formsAmong]

theorem formsAmong_append (ss ts : List Spot) :
    formsAmong (ss ++ ts) = formsAmong ss + formsAmong ts := by
  rw [formsAmong, List.filter_append, List.length_append, formsAmong, formsAmong]

theorem formKeys_append : ∀ (count : Nat) (ss ts : List Spot),
    formKeys count (ss ++ ts) = formKeys count ss ++ formKeys (count + formsAmong ss) ts
  | _, [], _ => rfl
  | count, s :: rest, ts => by
    rw [List.cons_append]
    by_cases h : s.isForm
    · rw [formKeys_form h, formKeys_form h, formKeys_append, formsAmong_form h, List.cons_append,
        Nat.add_assoc, Nat.add_comm 1]
    · rw [formKeys_other h, formKeys_other h, formKeys_append, formsAmong_other h,
        List.cons_append]

/-! ## 2. What stands around a spot -/

mutual

theorem Node.around_first (d : Dialect) : ∀ (n : Node) (open_ : List Nat) (next : Nat) {s : Spot},
    (n.spots d open_ next)[0]? = some s → s.around = open_
  | .text _, _, _, _, h => by simp [Node.spots] at h
  | .tag name attrs children, open_, next, s, h => by
    simp only [Node.spots] at h
    split at h
    · simp at h
    · split at h
      · rw [List.getElem?_cons_zero, Option.some.injEq] at h
        rw [← h]
      · exact Node.around_firstAll d children open_ next h

/-- Nothing more than what is open stands around the first spot. -/
theorem Node.around_firstAll (d : Dialect) :
    ∀ (ns : List Node) (open_ : List Nat) (next : Nat) {s : Spot},
      (Node.spotsAll d open_ next ns)[0]? = some s → s.around = open_
  | [], _, _, _, h => by simp [Node.spotsAll] at h
  | n :: rest, open_, next, s, h => by
    simp only [Node.spotsAll] at h
    cases hn : n.spots d open_ next with
    | nil =>
      rw [hn, List.nil_append] at h
      exact Node.around_firstAll d rest open_ _ h
    | cons t ts =>
      rw [hn, List.cons_append, List.getElem?_cons_zero] at h
      exact Node.around_first d n open_ next (by rw [hn, List.getElem?_cons_zero, h])

end

/-- Where a tag around a spot stands: it is open already, with all that follows it, or it
    is a spot before, with all that follows it around, and the spot right after it is the
    first one inside. -/
def Split (open_ : List Nat) (next : Nat) (ss : List Spot) (t i : Nat) (outer : List Nat) : Prop :=
  (∃ l, open_ = l ++ i :: outer) ∨
  (next ≤ i ∧ i < next + t ∧ (∃ s, ss[i - next]? = some s ∧ s.around = outer) ∧
    ∃ s, ss[i + 1 - next]? = some s ∧ s.around = i :: outer)

mutual

theorem Node.spots_split (d : Dialect) : ∀ (n : Node) (open_ : List Nat) (next : Nat)
    {t i : Nat} {s : Spot} {inner outer : List Nat}, (n.spots d open_ next)[t]? = some s →
      s.around = inner ++ i :: outer → Split open_ next (n.spots d open_ next) t i outer
  | .text _, _, _, _, _, _, _, _, h, _ => by simp [Node.spots] at h
  | .tag name attrs children, open_, next, t, i, s, inner, outer, h, hs => by
    simp only [Node.spots] at h ⊢
    split at h
    · simp at h
    · rename_i hskip
      rw [if_neg hskip]
      cases hnative : d.native name with
      | none =>
        rw [hnative] at h
        exact Node.spotsAll_split d children open_ next h hs
      | some native =>
        rw [hnative] at h
        dsimp only at h ⊢
        cases t with
        | zero =>
          rw [List.getElem?_cons_zero, Option.some.injEq] at h
          subst h
          exact .inl ⟨inner, hs⟩
        | succ t =>
          rw [List.getElem?_cons_succ] at h
          rcases Node.spotsAll_split d children (next :: open_) (next + 1) h hs with
            ⟨l, hl⟩ | ⟨hle, hlt, ⟨u, hu, hua⟩, v, hv, hva⟩
          · cases l with
            | nil =>
              -- the tag itself is the one that the spot is split at
              rw [List.nil_append, List.cons.injEq] at hl
              obtain ⟨rfl, rfl⟩ := hl
              have hne : Node.spotsAll d (next :: open_) (next + 1) children ≠ [] := by
                intro hnil
                rw [hnil] at h
                simp at h
              obtain ⟨v, vs, hvs⟩ := List.exists_cons_of_ne_nil hne
              have hfirst : (Node.spotsAll d (next :: open_) (next + 1) children)[0]? = some v := by
                rw [hvs, List.getElem?_cons_zero]
              refine .inr ⟨Nat.le_refl _, by omega,
                ⟨⟨native, attrs.map attributeOf, open_⟩, ?_, rfl⟩,
                v, ?_, Node.around_firstAll d children _ _ hfirst⟩
              · rw [Nat.sub_self, List.getElem?_cons_zero]
              · rw [Nat.add_sub_cancel_left, List.getElem?_cons_succ, hfirst]
            | cons k l =>
              rw [List.cons_append, List.cons.injEq] at hl
              exact .inl ⟨l, hl.2⟩
          · refine .inr ⟨by omega, by omega, ⟨u, ?_, hua⟩, v, ?_, hva⟩
            · rw [show i - next = i - (next + 1) + 1 by omega, List.getElem?_cons_succ, hu]
            · rw [show i + 1 - next = i + 1 - (next + 1) + 1 by omega, List.getElem?_cons_succ, hv]

/-- **What stands around a spot is one of the tags around it and what stands around that
    tag.** -/
theorem Node.spotsAll_split (d : Dialect) : ∀ (ns : List Node) (open_ : List Nat) (next : Nat)
    {t i : Nat} {s : Spot} {inner outer : List Nat}, (Node.spotsAll d open_ next ns)[t]? = some s →
      s.around = inner ++ i :: outer → Split open_ next (Node.spotsAll d open_ next ns) t i outer
  | [], _, _, _, _, _, _, _, h, _ => by simp [Node.spotsAll] at h
  | n :: rest, open_, next, t, i, s, inner, outer, h, hs => by
    simp only [Node.spotsAll] at h ⊢
    generalize hm : (n.spots d open_ next).length = m at h ⊢
    by_cases ht : t < m
    · rw [List.getElem?_append_left (by omega)] at h
      rcases Node.spots_split d n open_ next h hs with hl | ⟨hle, hlt, ⟨u, hu, hua⟩, v, hv, hva⟩
      · exact .inl hl
      · refine .inr ⟨hle, hlt, ⟨u, ?_, hua⟩, v, ?_, hva⟩
        · rw [List.getElem?_append_left (by omega), hu]
        · rw [List.getElem?_append_left (by omega), hv]
    · rw [List.getElem?_append_right (by omega)] at h
      rcases Node.spotsAll_split d rest open_ (next + m) h hs with
        hl | ⟨hle, hlt, ⟨u, hu, hua⟩, v, hv, hva⟩
      · exact .inl hl
      · refine .inr ⟨by omega, by omega, ⟨u, ?_, hua⟩, v, ?_, hva⟩
        · rw [List.getElem?_append_right (by omega), ← hu]
          congr 1
          omega
        · rw [List.getElem?_append_right (by omega), ← hv]
          congr 1
          omega

end

/-! ## 3. What elements say about their place -/

end Markup

/-- What an element says about its place. -/
structure Nest where
  attributes : List (String × String)
  isForm : Bool
  formKey : Option String
  parentForm : Option String

/-- What an element says about its place. -/
def Element.nest (e : Element) : Nest := ⟨e.attributes, e.tag = .form, e.formKey, e.parentForm⟩

/-- What a collection knows about places. -/
structure Nesting where
  /-- The keys of the open forms, the innermost first. -/
  forms : List String
  formCount : Nat
  hints : Nat
  nests : List Nest

/-- A tag is collected. -/
def Nesting.add (n : Nesting) (isForm : Bool) (attrs : List (String × String)) (key : String) :
    Nesting where
  forms := n.forms
  formCount := if isForm then n.formCount + 1 else n.formCount
  hints := n.hints + 1
  nests := n.nests ++ [⟨attrs, isForm, if isForm then some key else none, n.forms.head?⟩]

namespace Collector

/-- What the collection knows about places. -/
def nesting (c : Collector) : Nesting where
  forms := c.forms
  formCount := c.formCount
  hints := c.hints.length
  nests := c.collected.elements.map (·.nest)

theorem nest_withOption (v : String) (e : Element) : (withOption v e).nest = e.nest := by
  unfold withOption
  split <;> rfl

theorem nesting_giveOption (c : Collector) (v : String) :
    (c.giveOption v).nesting = c.nesting := by
  unfold giveOption
  split
  · rename_i i _
    have hnests : (c.collected.elements.modify i (withOption v)).map (·.nest) =
        (c.collected.elements.map (·.nest)).modify i id :=
      map_modify (nest_withOption v) c.collected.elements i
    simp only [nesting, hnests, List.modify_id]
  · rfl

/-- Closing a frame closes a form only if the frame is a form's. -/
theorem nesting_close (c : Collector) (f : Frame) :
    (c.close f).nesting =
      if f.role = .form then { c.nesting with forms := c.forms.tail } else c.nesting := by
  have h : Unseen nesting := ⟨fun _ _ => rfl, fun _ _ => rfl, fun _ _ => rfl, nesting_giveOption⟩
  have hkeep := h.keepText c f
  have hforms : (c.keepText f).forms = c.forms := congrArg Nesting.forms hkeep
  unfold close
  cases f.role
  case form =>
    rw [if_pos rfl, ← hkeep, ← hforms]
    rfl
  case label => exact (h.keepLabel _ f).trans hkeep
  case option => exact (h.keepOption _ f).trans hkeep
  all_goals exact hkeep

/-- Opening a frame opens a form only if the frame is a form's. -/
theorem nesting_push (c : Collector) (f : Frame) (k : Option String) :
    (c.push f k).nesting =
      if f.role = .form then { c.nesting with forms := k.getD "" :: c.forms } else c.nesting := by
  have hhints : ∀ n (hs : List LabelHints), (withInner n hs).length = hs.length := by
    intro n hs
    exact List.length_modify ..
  simp only [push, nesting]
  by_cases hbutton : f.role = .button
  · rw [if_pos hbutton, hhints, if_neg (by rw [hbutton]; decide),
      if_neg (by rw [hbutton]; decide)]
  · rw [if_neg hbutton]
    split <;> rfl

/-- Only the tag of an input depends on its attributes: it may be a button's. -/
theorem shape_cases (native : Vocabulary.Native) (attrs : List (String × String))
    (dynamic : List String) :
    (shape native attrs dynamic).1 = native.1 ∨
      native.1 = .input ∧ (shape native attrs dynamic).1 = .button := by
  simp only [shape, apply_ite Prod.fst, ite_self]
  split
  · split
    · rename_i h
      exact .inr ⟨by simpa using (Bool.and_eq_true_iff.mp h).1, rfl⟩
    · exact .inl rfl
  · exact .inl rfl

theorem shape_form (native : Vocabulary.Native) (attrs : List (String × String))
    (dynamic : List String) : (shape native attrs dynamic).1 = .form ↔ native.1 = .form := by
  rcases shape_cases native attrs dynamic with h | ⟨hinput, hbutton⟩
  · rw [h]
  · rw [hinput, hbutton]
    decide

theorem roleOf_form (t : ElementTag) : roleOf t = .form ↔ t = .form := by
  cases t <;> decide

theorem plainRole_ne_form (tag : String) : plainRole tag ≠ .form := by
  unfold plainRole
  split
  · decide
  · split <;> decide

variable {d : Dialect} {name : String}

theorem ownRole_form_iff {native : Vocabulary.Native} (h : d.native name = some native)
    (attrs : List (String × String)) :
    ownRole d name attrs = .form ↔ native.1 = .form := by
  simp only [ownRole, h, roleOf_form, shape_form]

theorem ownRole_ne_form (h : d.native name = none) (attrs : List (String × String)) :
    ownRole d name attrs ≠ .form := by
  simp only [ownRole, h]
  exact plainRole_ne_form _

/-- The key of the form that a tag would be. -/
def nextKey (c : Collector) (attrs : List (String × String)) : String :=
  keyOfForm (literal? attrs [] ["id"]) (literal? attrs [] ["name"]) (c.formCount + 1)

theorem nesting_taken_plain (c : Collector) (h : d.native name = none)
    (attrs : List (String × String)) : (c.taken d name attrs).nesting = c.nesting := by
  unfold taken
  rw [h]
  rfl

theorem nesting_taken (c : Collector) {native : Vocabulary.Native}
    (h : d.native name = some native) (attrs : List (String × String)) :
    (c.taken d name attrs).nesting =
      c.nesting.add (native.1 = .form) attrs (c.nextKey attrs) := by
  unfold taken
  rw [h]
  have hform := shape_form native attrs []
  simp only [addElement, addBindings, failing, nesting, Nesting.add, nextKey, List.map_append,
    List.map_cons, List.map_nil, List.length_append, List.length_cons, List.length_nil,
    Element.nest, hform, decide_eq_true_eq]
  by_cases hn : native.1 = .form
  · simp only [hn, if_true]
  · simp only [hn, if_false]

/-- A tag opens that is no form's. -/
theorem nesting_enter (c : Collector) {attrs : List (String × String)}
    (h : ownRole d name attrs ≠ .form) (selfClosing : Bool) :
    (c.enter d name attrs selfClosing).nesting = (c.taken d name attrs).nesting := by
  unfold enter
  cases selfClosing || decide (ownRole d name attrs = .other) with
  | true =>
    rw [openTag_closed]
    cases ownValue d name attrs with
    | none => rfl
    | some v => exact nesting_giveOption _ v
  | false =>
    rw [openTag_open]
    exact (nesting_push ..).trans (if_neg h)

/-- A form's tag opens. -/
theorem nesting_enter_form (c : Collector) {native : Vocabulary.Native}
    (h : d.native name = some native) (hform : native.1 = .form)
    (attrs : List (String × String)) :
    (c.enter d name attrs false).nesting =
      { c.nesting.add true attrs (c.nextKey attrs) with
        forms := c.nextKey attrs :: c.forms } := by
  have hrole : ownRole d name attrs = .form := (ownRole_form_iff h attrs).mpr hform
  have hkey : c.keyOf d name attrs = some (c.nextKey attrs) := by
    simp only [keyOf, h, Option.bind_some, addElement, shape_form, hform, if_true, nextKey]
  have hforms : (c.taken d name attrs).forms = c.forms :=
    congrArg Nesting.forms (nesting_taken c h attrs)
  have hpush := nesting_push (c.taken d name attrs) (c.frameOf d name attrs)
    (c.keyOf d name attrs)
  rw [if_pos (show (c.frameOf d name attrs).role = .form from hrole), hkey, nesting_taken c h,
    hforms, decide_eq_true hform] at hpush
  unfold enter
  rw [hrole, Bool.false_or, decide_eq_false (by decide), openTag_open, hkey]
  exact hpush

/-- A tag closes. -/
theorem nesting_leave {attrs : List (String × String)} {c r : Collector}
    (h : r.stack.map (·.bare) = (c.enter d name attrs false).stack.map (·.bare)) :
    (Markup.leave d name attrs r).nesting =
      if ownRole d name attrs = .form then { r.nesting with forms := r.forms.tail }
      else r.nesting := by
  rcases Markup.leave_cases h with ⟨hother, hr, _⟩ | ⟨f, rest, hrole, _, hr⟩
  · rw [hr, if_neg (by rw [hother]; decide)]
  · rw [hr, nesting_close, hrole]
    rfl

end Collector

namespace Markup

open Collector

/-! ## 4. Trees and the places of their elements -/

/-- A reading of places as form keys agrees with some keys, from a place on. -/
def Reads (K : Nat → Option String) (next : Nat) (keys : List (Option String)) : Prop :=
  ∀ t k, keys[t]? = some k → K (next + t) = k

theorem Reads.head {K : Nat → Option String} {next : Nat} {k : Option String}
    {keys : List (Option String)} (h : Reads K next (k :: keys)) : K next = k := h 0 k rfl

theorem Reads.tail {K : Nat → Option String} {next : Nat} {k : Option String}
    {keys : List (Option String)} (h : Reads K next (k :: keys)) : Reads K (next + 1) keys := by
  intro t k' hk
  rw [Nat.add_assoc, Nat.add_comm 1]
  exact h (t + 1) k' hk

theorem Reads.left {K : Nat → Option String} {next : Nat} {as bs : List (Option String)}
    (h : Reads K next (as ++ bs)) : Reads K next as :=
  fun t k hk => h t k (List.getElem?_append_left (List.getElem?_eq_some_iff.mp hk).1 ▸ hk)

theorem Reads.right {K : Nat → Option String} {next : Nat} {as bs : List (Option String)}
    (h : Reads K next (as ++ bs)) : Reads K (next + as.length) bs := by
  intro t k hk
  rw [Nat.add_assoc]
  refine h (as.length + t) k ?_
  rw [List.getElem?_append_right (by omega), Nat.add_sub_cancel_left, hk]

/-- What the elements of spots say about their place. -/
def nestsFrom (K : Nat → Option String) : Nat → List Spot → List Nest
  | _, [] => []
  | next, s :: rest =>
    ⟨s.attributes, s.isForm, K next, (s.around.filterMap K).head?⟩ :: nestsFrom K (next + 1) rest

theorem nestsFrom_append (K : Nat → Option String) : ∀ (next : Nat) (ss ts : List Spot),
    nestsFrom K next (ss ++ ts) = nestsFrom K next ss ++ nestsFrom K (next + ss.length) ts
  | _, [], _ => rfl
  | next, s :: rest, ts => by
    rw [List.cons_append, nestsFrom, nestsFrom, nestsFrom_append K (next + 1) rest ts,
      List.cons_append, List.length_cons, Nat.add_assoc, Nat.add_comm 1]

theorem length_nestsFrom (K : Nat → Option String) : ∀ (next : Nat) (ss : List Spot),
    (nestsFrom K next ss).length = ss.length
  | _, [] => rfl
  | next, s :: rest => by
    rw [nestsFrom, List.length_cons, length_nestsFrom K (next + 1) rest, List.length_cons]

theorem getElem?_nestsFrom (K : Nat → Option String) : ∀ (next : Nat) (ss : List Spot) (t : Nat),
    (nestsFrom K next ss)[t]? =
      ss[t]?.map fun s => ⟨s.attributes, s.isForm, K (next + t), (s.around.filterMap K).head?⟩
  | _, [], t => by simp [nestsFrom]
  | next, s :: rest, 0 => rfl
  | next, s :: rest, t + 1 => by
    rw [nestsFrom, List.getElem?_cons_succ, List.getElem?_cons_succ,
      getElem?_nestsFrom K (next + 1) rest t, Nat.add_assoc, Nat.add_comm 1]

/-- What is known about places after some spots. -/
def after (K : Nat → Option String) (n : Nesting) (ss : List Spot) : Nesting where
  forms := n.forms
  formCount := n.formCount + formsAmong ss
  hints := n.hints + ss.length
  nests := n.nests ++ nestsFrom K n.nests.length ss

theorem after_append (K : Nat → Option String) (n : Nesting) (ss ts : List Spot) :
    after K (after K n ss) ts = after K n (ss ++ ts) := by
  simp only [after, formsAmong_append, List.length_append, nestsFrom_append, length_nestsFrom,
    Nat.add_assoc, List.append_assoc]

/-- A spot is what the collection adds for its tag. -/
theorem after_cons {K : Nat → Option String} {n : Nesting} {s : Spot} {rest : List Spot}
    (hforms : n.forms = s.around.filterMap K)
    (hreads : Reads K n.nests.length (formKeys n.formCount (s :: rest))) :
    after K (n.add s.isForm s.attributes (s.key (n.formCount + 1))) rest =
      after K n (s :: rest) := by
  have hlength : ∀ a : Nest, (n.nests ++ [a]).length = n.nests.length + 1 := by
    intro a
    rw [List.length_append, List.length_singleton]
  by_cases h : s.isForm
  · rw [formKeys_form h] at hreads
    simp only [after, Nesting.add, nestsFrom, hreads.head, hforms, h, if_true, formsAmong_form h,
      hlength, List.length_cons, List.append_assoc, List.singleton_append, Nat.add_assoc,
      Nat.add_comm 1]
  · rw [formKeys_other h] at hreads
    simp only [after, Nesting.add, nestsFrom, hreads.head, hforms, Bool.of_not_eq_true h,
      Bool.false_eq_true, if_false, formsAmong_other h, hlength, List.length_cons,
      List.append_assoc, List.singleton_append, Nat.add_assoc, Nat.add_comm 1]

theorem after_nil (K : Nat → Option String) (n : Nesting) : after K n [] = n := by
  simp only [after, nestsFrom, formsAmong, List.filter_nil, List.length_nil, Nat.add_zero,
    List.append_nil]

/-- The open forms are those of the places that are open, and the reading gives the next
    spots their keys. -/
structure Fits (K : Nat → Option String) (open_ : List Nat) (n : Nesting) (ss : List Spot) :
    Prop where
  forms : n.forms = open_.filterMap K
  reads : Reads K n.nests.length (formKeys n.formCount ss)

/-- Inside a tag its own place is open, too. -/
theorem Fits.children {K : Nat → Option String} {n : Nesting} {s : Spot} {rest : List Spot}
    (h : Fits K s.around n (s :: rest)) :
    (n.nests.length :: s.around).filterMap K =
        (if s.isForm then s.key (n.formCount + 1) :: n.forms else n.forms) ∧
      Fits K (n.nests.length :: s.around)
        { n.add s.isForm s.attributes (s.key (n.formCount + 1)) with
          forms := (n.nests.length :: s.around).filterMap K } rest := by
  obtain ⟨hforms, hreads⟩ := h
  have hlength : ∀ key, (n.add s.isForm s.attributes key).nests.length = n.nests.length + 1 := by
    intro key
    simp only [Nesting.add, List.length_append, List.length_singleton]
  by_cases hs : s.isForm
  · rw [formKeys_form hs] at hreads
    refine ⟨?_, rfl, ?_⟩
    · rw [List.filterMap_cons_some hreads.head, if_pos hs, hforms]
    · show Reads K (n.add s.isForm s.attributes _).nests.length (formKeys (if _ then _ else _) rest)
      rw [hlength, if_pos hs]
      exact hreads.tail
  · rw [formKeys_other hs] at hreads
    refine ⟨?_, rfl, ?_⟩
    · rw [List.filterMap_cons_none hreads.head, if_neg hs, hforms]
    · show Reads K (n.add s.isForm s.attributes _).nests.length (formKeys (if _ then _ else _) rest)
      rw [hlength, if_neg hs]
      exact hreads.tail

/-- What the contents of a tag add, while its own place is open. -/
theorem after_open {K : Nat → Option String} {n : Nesting} {s : Spot} {rest : List Spot}
    (h : Fits K s.around n (s :: rest)) :
    after K { n.add s.isForm s.attributes (s.key (n.formCount + 1)) with
        forms := (n.nests.length :: s.around).filterMap K } rest =
      { after K n (s :: rest) with forms := (n.nests.length :: s.around).filterMap K } := by
  rw [← after_cons h.forms h.reads]
  rfl

/-- What is known about places before some spots fits the spots that come first. -/
theorem Fits.left {K : Nat → Option String} {open_ : List Nat} {n : Nesting} {ss ts : List Spot}
    (h : Fits K open_ n (ss ++ ts)) : Fits K open_ n ss :=
  ⟨h.forms, (formKeys_append n.formCount ss ts ▸ h.reads).left⟩

/-- What is known about places after some spots fits the spots that follow. -/
theorem Fits.right {K : Nat → Option String} {open_ : List Nat} {n : Nesting} {ss ts : List Spot}
    (h : Fits K open_ n (ss ++ ts)) : Fits K open_ (after K n ss) ts := by
  refine ⟨h.forms, ?_⟩
  have hreads := (formKeys_append n.formCount ss ts ▸ h.reads).right
  rw [length_formKeys] at hreads
  simpa only [after, List.length_append, length_nestsFrom] using hreads

/-- A void tag is no form. -/
theorem void_ne_form {d : Dialect} {name : String} {native : Vocabulary.Native}
    (hvoid : Vocabulary.voidTags.contains name = true) (h : d.native name = some native) :
    native.1 ≠ .form := by
  have hall : ∀ n ∈ Vocabulary.voidTags, (Vocabulary.nativeOfExact n).map (·.1) ≠ some .form ∧
      (Vocabulary.nativeOfAnyCase n).map (·.1) ≠ some .form := by decide +kernel
  obtain ⟨hexact, hany⟩ := hall name (List.contains_iff_mem.mp hvoid)
  unfold Dialect.native at h
  intro hform
  split at h
  · exact hexact (by rw [h, Option.map_some, hform])
  · exact hany (by rw [h, Option.map_some, hform])

section CollectedTag

variable {K : Nat → Option String} {c r : Collector} {d : Dialect} {name : String} {s : Spot}
  {rest : List Spot} {selfClosing : Bool}

/-- A collected tag opens: its element is added, and its place is open. -/
theorem nesting_enter_spot (h : d.native name = some s.native)
    (hvoid : selfClosing = true → s.native.1 ≠ .form)
    (hfits : Fits K s.around c.nesting (s :: rest)) :
    (c.enter d name s.attributes selfClosing).nesting =
      { c.nesting.add s.isForm s.attributes (s.key (c.formCount + 1)) with
        forms := (c.nesting.nests.length :: s.around).filterMap K } := by
  rw [hfits.children.1]
  by_cases hform : s.native.1 = .form
  · cases selfClosing with
    | true => exact absurd hform (hvoid rfl)
    | false =>
      have hs : s.isForm = true := decide_eq_true hform
      rw [nesting_enter_form c h hform, if_pos hs, hs]
      rfl
  · have hs : s.isForm = false := decide_eq_false hform
    rw [nesting_enter c (fun hr => hform ((ownRole_form_iff h _).mp hr)), nesting_taken c h, hs]
    exact congrArg (fun b => c.nesting.add b _ _) (decide_eq_false hform)

theorem length_enter_spot (h : d.native name = some s.native)
    (hvoid : selfClosing = true → s.native.1 ≠ .form)
    (hfits : Fits K s.around c.nesting (s :: rest)) :
    (c.enter d name s.attributes selfClosing).nesting.nests.length =
      c.nesting.nests.length + 1 := by
  rw [nesting_enter_spot h hvoid hfits]
  exact List.length_append

/-- The contents of a collected tag are walked. -/
theorem nesting_contents (h : d.native name = some s.native)
    (hvoid : selfClosing = true → s.native.1 ≠ .form)
    (hfits : Fits K s.around c.nesting (s :: rest))
    (hr : Fits K (c.nesting.nests.length :: s.around)
        (c.enter d name s.attributes selfClosing).nesting rest →
      r.nesting = after K (c.enter d name s.attributes selfClosing).nesting rest) :
    r.nesting = { after K c.nesting (s :: rest) with
      forms := (c.nesting.nests.length :: s.around).filterMap K } := by
  rw [nesting_enter_spot h hvoid hfits] at hr
  exact (hr hfits.children.2).trans (after_open hfits)

/-- The closing tag of a collected tag ends its form, if it is one. -/
theorem nesting_leave_spot (h : d.native name = some s.native)
    (hfits : Fits K s.around c.nesting (s :: rest))
    (hbare : r.stack.map (·.bare) = (c.enter d name s.attributes false).stack.map (·.bare))
    (hr : r.nesting = { after K c.nesting (s :: rest) with
      forms := (c.nesting.nests.length :: s.around).filterMap K }) :
    (leave d name s.attributes r).nesting = after K c.nesting (s :: rest) := by
  rw [hfits.children.1] at hr
  have hforms : r.forms = _ := congrArg Nesting.forms hr
  rw [nesting_leave hbare, hr, hforms]
  by_cases hform : s.native.1 = .form
  · have hs : s.isForm = true := decide_eq_true hform
    rw [if_pos ((ownRole_form_iff h _).mpr hform), if_pos hs]
    rfl
  · have hs : ¬ s.isForm = true := by simpa [Spot.isForm] using hform
    rw [if_neg fun hr => hform ((ownRole_form_iff h _).mp hr), if_neg hs]
    rfl

end CollectedTag

mutual

theorem Node.nesting_effect (d : Dialect) (edit : String → String) (K : Nat → Option String) :
    ∀ (n : Node) (open_ : List Nat) (c : Collector),
      Fits K open_ c.nesting (n.spots d open_ c.nesting.nests.length) →
      (n.effect d edit c).nesting = after K c.nesting (n.spots d open_ c.nesting.nests.length)
  | .text s, open_, c, _ => by
    simp only [Node.spots, after_nil]
    rfl
  | .tag name attrs children, open_, c, hfits => by
    simp only [Node.spots, Node.effect] at hfits ⊢
    by_cases hskip : name = "script" ∨ name = "style"
    · rw [if_pos hskip, if_pos hskip, after_nil]
    · rw [if_neg hskip] at hfits
      rw [if_neg hskip, if_neg hskip]
      have hchildren := fun open_ selfClosing =>
        Node.nesting_effectAll d edit K children open_
          (c.enter d name (attrs.map attributeOf) selfClosing)
      have hbare := Node.bare_effectAll d edit children
        (c.enter d name (attrs.map attributeOf) false)
      cases hnative : d.native name with
      | none =>
        rw [hnative] at hfits
        have hrole := ownRole_ne_form hnative (attrs.map attributeOf)
        have hopen : ∀ selfClosing,
            (c.enter d name (attrs.map attributeOf) selfClosing).nesting = c.nesting :=
          fun selfClosing =>
            (nesting_enter c hrole selfClosing).trans (nesting_taken_plain c hnative _)
        split
        · rw [hchildren open_ true (by rw [hopen]; exact hfits), hopen]
        · rw [nesting_leave hbare, if_neg hrole,
            hchildren open_ false (by rw [hopen]; exact hfits), hopen]
      | some native =>
        rw [hnative] at hfits
        dsimp only at hfits ⊢
        generalize hs : (⟨native, attrs.map attributeOf, open_⟩ : Spot) = s at hfits ⊢
        obtain rfl : native = s.native := by rw [← hs]
        obtain hattrs : attrs.map attributeOf = s.attributes := by rw [← hs]
        obtain rfl : open_ = s.around := by rw [← hs]
        rw [hattrs] at hchildren hbare ⊢
        have hcontents : ∀ selfClosing, (selfClosing = true → s.native.1 ≠ .form) →
            (Node.effectAll d edit children (c.enter d name s.attributes selfClosing)).nesting =
              { after K c.nesting (s :: Node.spotsAll d (c.nesting.nests.length :: s.around)
                  (c.nesting.nests.length + 1) children) with
                forms := (c.nesting.nests.length :: s.around).filterMap K } := by
          intro selfClosing hvoid
          refine nesting_contents hnative hvoid hfits fun h => ?_
          have hrest := hchildren (c.nesting.nests.length :: s.around) selfClosing
          rw [length_enter_spot hnative hvoid hfits] at hrest
          exact hrest h
        split
        · rename_i hvoid
          have hform := void_ne_form hvoid hnative
          rw [hcontents true fun _ => hform, hfits.children.1,
            if_neg (by simpa [Spot.isForm] using hform)]
          rfl
        · exact nesting_leave_spot hnative hfits hbare (hcontents false fun h => by cases h)

/-- **A tree adds what its spots say.** -/
theorem Node.nesting_effectAll (d : Dialect) (edit : String → String) (K : Nat → Option String) :
    ∀ (ns : List Node) (open_ : List Nat) (c : Collector),
      Fits K open_ c.nesting (Node.spotsAll d open_ c.nesting.nests.length ns) →
      (Node.effectAll d edit ns c).nesting =
        after K c.nesting (Node.spotsAll d open_ c.nesting.nests.length ns)
  | [], open_, c, _ => by
    simp only [Node.spotsAll, after_nil]
    rfl
  | n :: rest, open_, c, hfits => by
    simp only [Node.spotsAll, Node.effectAll] at hfits ⊢
    have hn := Node.nesting_effect d edit K n open_ c hfits.left
    have hplace : (after K c.nesting (n.spots d open_ c.nesting.nests.length)).nests.length =
        c.nesting.nests.length + (n.spots d open_ c.nesting.nests.length).length := by
      simp only [after, List.length_append, length_nestsFrom]
    have hrest := Node.nesting_effectAll d edit K rest open_ (n.effect d edit c)
    rw [hn, hplace] at hrest
    rw [hrest hfits.right, after_append]

end

/-! ## 5. Whole collections -/

/-- The key of the form at a place; none if there is no form. -/
def keyAt (ss : List Spot) (i : Nat) : Option String := (formKeys 0 ss)[i]?.join

theorem reads_keyAt (ss : List Spot) : Reads (keyAt ss) 0 (formKeys 0 ss) := by
  intro t k hk
  rw [Nat.zero_add, keyAt, hk, Option.join_some]

/-- Settling the labels moves nothing. -/
theorem nest_settled : ∀ (settle : Element → LabelHints → Option String) (es : List Element)
    (hs : List LabelHints), hs.length = es.length →
      (es.zipWith (fun e h => { e with label := settle e h }) hs).map (·.nest) =
        es.map (·.nest)
  | _, [], _, _ => by rw [List.zipWith_nil_left, List.map_nil]
  | _, e :: es, [], h => by cases h
  | settle, e :: es, k :: hs, h => by
    rw [List.zipWith_cons_cons, List.map_cons, List.map_cons,
      nest_settled settle es hs (Nat.succ.inj h)]
    rfl

/-- **The elements of trees are their spots, in the order of the source; an element's parent
    form is the key of the innermost form around its spot.** -/
theorem nest_of_collect {d : Dialect} {edit : String → String} {ns : List Node} {c : Collected}
    (h : Collector.collect d (Node.eventsAll edit ns) = .ok c) :
    c.elements.map (·.nest) =
      nestsFrom (keyAt (Node.spotsAll d [] 0 ns)) 0 (Node.spotsAll d [] 0 ns) := by
  have hnesting := Node.nesting_effectAll d edit (keyAt (Node.spotsAll d [] 0 ns)) ns [] {}
    ⟨rfl, reads_keyAt _⟩
  have hclosed : (Node.effectAll d edit ns {}).closed = Node.effectAll d edit ns {} := by
    rw [closed, stack_effectAll_empty]
    rfl
  rw [collect_eq] at h
  simp only [finish, hclosed] at h
  generalize Node.effectAll d edit ns {} = r at h hnesting
  have hlength : r.hints.length = r.collected.elements.length := by
    have hhints : r.nesting.hints = r.nesting.nests.length := by
      rw [hnesting]
      simp only [after, List.length_append, length_nestsFrom]
      rfl
    rw [show r.hints.length = _ from hhints]
    exact List.length_map ..
  split at h
  · cases h
  · cases h
    rw [show r.settled.elements.map (·.nest) = r.nesting.nests from
      nest_settled r.settle _ _ hlength, hnesting]
    rfl

end Markup

end Affordance
