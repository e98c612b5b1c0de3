import Mathlib.Data.List.Basic
import Mathlib.Logic.Relation
import Affordance.Proofs.Markup.Walk

/-!
# Restyling

  * `isStyling`, `unstyled`: attributes that only style, and what is left without them.
  * `Dialect.IgnoresStyling`: a dialect that reads nothing in them; pages and templates do.
  * `effect_unstyled`: leaving out the styling of a tree leaves it out of what is collected,
    and nothing else.
  * `Restyle`: a tree is styled differently, or siblings are wrapped in a tag that means
    nothing to the collector.
  * **`collect_restyled`**: restyled trees collect the same, up to the styling attributes.
-/

namespace Affordance

open Affordance.Text

/-! ## 1. Attributes -/

/-- The attribute only styles. -/
def isStyling (name : String) : Bool := toLower name = "class" || toLower name = "style"

/-- The attributes without those that only style. -/
def unstyled (attrs : List (String × String)) : List (String × String) :=
  attrs.filter fun a => !isStyling a.1

theorem lookup_filter {p : String → Bool} {n : String} (hp : p n = true) :
    ∀ l : List (String × String), (l.filter fun a => p a.1).lookup n = l.lookup n
  | [] => rfl
  | (k, v) :: l => by
    by_cases hk : p k = true
    · have hcons : ((k, v) :: l).filter (fun a => p a.1) = (k, v) :: l.filter fun a => p a.1 :=
        List.filter_cons_of_pos hk
      rw [hcons, List.lookup_cons, List.lookup_cons, lookup_filter hp l]
    · have hne : (n == k) = false := by
        rw [beq_eq_false_iff_ne]
        intro h
        exact hk (h ▸ hp)
      have hcons : ((k, v) :: l).filter (fun a => p a.1) = l.filter fun a => p a.1 :=
        List.filter_cons_of_neg hk
      rw [hcons, List.lookup_cons, hne, lookup_filter hp l]

theorem lookup_unstyled {n : String} (h : isStyling n = false) (attrs : List (String × String)) :
    (unstyled attrs).lookup n = attrs.lookup n :=
  lookup_filter (p := fun a => !isStyling a) (by rw [h]; rfl) attrs

theorem findSome?_congr {α β : Type} {f g : α → Option β} : ∀ {l : List α},
    (∀ a ∈ l, f a = g a) → l.findSome? f = l.findSome? g
  | [], _ => rfl
  | a :: l, h => by
    rw [List.findSome?_cons, List.findSome?_cons, h a List.mem_cons_self,
      findSome?_congr fun b hb => h b (List.mem_cons_of_mem a hb)]

/-- Names of attributes that do not style. -/
def Unstyling (names : List String) : Prop := ∀ n ∈ names, isStyling n = false

instance (names : List String) : Decidable (Unstyling names) :=
  inferInstanceAs (Decidable (∀ n ∈ names, isStyling n = false))

namespace Collector

theorem literal?_unstyled {names : List String} (h : Unstyling names)
    (attrs : List (String × String)) (dynamic : List String) :
    literal? (unstyled attrs) dynamic names = literal? attrs dynamic names := by
  unfold literal?
  refine findSome?_congr fun n hn => ?_
  rw [lookup_unstyled (h n hn)]

theorem valueAnyCase_unstyled {names : List String} (h : Unstyling names)
    (attrs : List (String × String)) :
    valueAnyCase (unstyled attrs) names = valueAnyCase attrs names := by
  have hlowered : ((unstyled attrs).reverse.map fun a => (toLower a.1, a.2)) =
      (attrs.reverse.map fun a => (toLower a.1, a.2)).filter fun a =>
        !(a.1 = "class" || a.1 = "style") := by
    rw [unstyled, ← List.filter_reverse, List.filter_map]
    rfl
  unfold valueAnyCase
  refine findSome?_congr fun n hn => ?_
  dsimp only
  rw [lookup_unstyled (h n hn), hlowered]
  congr 1
  funext _
  refine lookup_filter (p := fun k => !(k = "class" || k = "style")) ?_ _
  exact congrArg (!·) (h n hn)

theorem constraints_unstyled (attrs : List (String × String)) (dynamic : List String) :
    constraints (unstyled attrs) dynamic = constraints attrs dynamic := by
  have hbound : ∀ key ∈ ["minLength", "maxLength", "pattern"],
      valueAnyCase (unstyled attrs) [key] = valueAnyCase attrs [key] := fun key hkey =>
    valueAnyCase_unstyled (fun n hn => by
      rw [List.mem_singleton.mp hn]
      exact (by decide +kernel : Unstyling ["minLength", "maxLength", "pattern"]) key hkey) attrs
  simp only [constraints]
  rw [valueAnyCase_unstyled (by decide +kernel)]
  refine congrArg (_ ++ ·) (List.filterMap_congr fun key hkey => ?_)
  rw [hbound key hkey]

theorem explicitTexts_unstyled (attrs : List (String × String)) (dynamic : List String) :
    explicitTexts (unstyled attrs) dynamic = explicitTexts attrs dynamic := by
  unfold explicitTexts
  refine List.filterMap_congr fun a ha => ?_
  refine literal?_unstyled (fun n hn => ?_) attrs dynamic
  rw [List.mem_singleton.mp hn]
  exact (by decide +kernel : Unstyling Vocabulary.labelAttributes) a ha

theorem accessibilityOf_unstyled (attrs : List (String × String)) (dynamic : List String) :
    accessibilityOf (unstyled attrs) dynamic = accessibilityOf attrs dynamic := by
  unfold accessibilityOf
  rw [literal?_unstyled (by decide +kernel), literal?_unstyled (by decide +kernel),
    literal?_unstyled (by decide +kernel)]

theorem shape_unstyled (native : Vocabulary.Native) (attrs : List (String × String))
    (dynamic : List String) :
    shape native (unstyled attrs) dynamic = shape native attrs dynamic := by
  unfold shape
  rw [literal?_unstyled (by decide +kernel), literal?_unstyled (by decide +kernel),
    literal?_unstyled (by decide +kernel)]

theorem optionValue_unstyled (attrs : List (String × String)) (dynamic : List String) :
    optionValue (unstyled attrs) dynamic = optionValue attrs dynamic := by
  unfold optionValue
  refine findSome?_congr fun a ha => ?_
  rw [lookup_unstyled ((by decide +kernel : Unstyling ["value", "label"]) a ha)]

end Collector

/-! ## 2. Dialects -/

/-- The dialect reads nothing in attributes that only style. -/
structure Dialect.IgnoresStyling (d : Dialect) : Prop where
  event : ∀ a, isStyling a = true → d.event a = none
  bindsValue : ∀ a, isStyling a = true → d.bindsValue a = false
  labelFor : Unstyling d.labelFor

/-- An attribute that only styles is one of two, in small letters. -/
theorem toLower_of_isStyling {a : String} (h : isStyling a = true) :
    toLower a = "class" ∨ toLower a = "style" := by
  simpa [isStyling] using h

theorem lower_of_isStyling {a : String} (h : isStyling a = true) :
    lower a.toList = "class".toList ∨ lower a.toList = "style".toList := by
  rcases toLower_of_isStyling h with h | h
  · exact .inl (by simpa [toLower] using congrArg String.toList h)
  · exact .inr (by simpa [toLower] using congrArg String.toList h)

theorem markup_ignoresStyling : Dialect.markup.IgnoresStyling where
  event a h := by
    show Dialect.markupEvent a = none
    unfold Dialect.markupEvent
    rcases toLower_of_isStyling h with h | h <;> rw [h] <;> rfl
  bindsValue _ _ := rfl
  labelFor := by decide +kernel

theorem template_ignoresStyling : Dialect.template.IgnoresStyling where
  event a h := by
    show Dialect.templateEvent a = none
    unfold Dialect.templateEvent
    rcases lower_of_isStyling h with h | h <;> rw [h] <;> decide +kernel
  bindsValue a h := by
    show Dialect.templateValue a = false
    unfold Dialect.templateValue
    rcases lower_of_isStyling h with h | h <;> rw [h] <;> decide +kernel
  labelFor := by decide +kernel

/-! ## 3. Collections -/

/-- The element without the attributes that only style. -/
def Element.unstyled (e : Element) : Element :=
  { e with attributes := Affordance.unstyled e.attributes }

/-- What was collected, without the attributes that only style. -/
def Collected.unstyled (c : Collected) : Collected :=
  { c with elements := c.elements.map Element.unstyled }

namespace Collector

/-- The collection without the attributes that only style. -/
def unstyled (c : Collector) : Collector := { c with collected := c.collected.unstyled }

theorem withOption_unstyled (v : String) (e : Element) :
    (withOption v e).unstyled = withOption v e.unstyled := by
  show _ = if e.options.contains v then e.unstyled else _
  unfold withOption
  split <;> rfl

theorem giveOption_unstyled (c : Collector) (v : String) :
    (c.giveOption v).unstyled = c.unstyled.giveOption v := by
  have hstack : c.unstyled.stack = c.stack := rfl
  unfold giveOption
  rw [hstack]
  cases (c.stack.find? (·.role = .select)).bind (·.element) with
  | none => rfl
  | some i => simp only [unstyled, Collected.unstyled, map_modify (withOption_unstyled v)]

theorem respected_unstyled : Respected unstyled where
  texts _ _ := rfl
  sameTexts _ := rfl
  labels _ _ := rfl
  sameLabels _ := rfl
  forms _ _ := rfl
  sameForms _ := rfl
  muted _ _ := rfl
  sameMuted _ := rfl
  failing _ _ := rfl
  giveOption := giveOption_unstyled

theorem closeMany_unstyled : ∀ (n : Nat) (c : Collector),
    (closeMany n c).unstyled = closeMany n c.unstyled
  | 0, _ => rfl
  | n + 1, c => by
    cases h : c.stack with
    | nil =>
      have hu : c.unstyled.stack = [] := h
      simp only [closeMany, h, hu]
    | cons f rest =>
      have hu : c.unstyled.stack = f :: rest := h
      rw [closeMany_succ n h, closeMany_succ n hu, closeMany_unstyled n,
        respected_unstyled.close]
      rfl

theorem addElement_unstyled (c : Collector) (native : Vocabulary.Native)
    (attrs : List (String × String)) :
    (c.addElement native attrs []).1.unstyled =
        (c.unstyled.addElement native (Affordance.unstyled attrs) []).1 ∧
      (c.addElement native attrs []).2.unstyled =
        (c.unstyled.addElement native (Affordance.unstyled attrs) []).2 := by
  have hid := literal?_unstyled (by decide +kernel : Unstyling ["id"]) attrs []
  have hname := literal?_unstyled (by decide +kernel : Unstyling ["name"]) attrs []
  constructor
  · simp only [addElement, shape_unstyled, hid, hname, constraints_unstyled,
      accessibilityOf_unstyled, explicitTexts_unstyled, unstyled, Collected.unstyled, failing,
      List.map_append, List.map_cons, List.map_nil, Element.unstyled]
  · simp only [addElement, shape_unstyled, hid, hname, constraints_unstyled,
      accessibilityOf_unstyled, Element.unstyled]
    rfl

variable {d : Dialect} (hd : d.IgnoresStyling)

include hd

theorem bindingsOf_unstyled (tag : String) (attrs : List (String × String))
    (element : Option Nat) :
    bindingsOf d tag (Affordance.unstyled attrs) element = bindingsOf d tag attrs element := by
  unfold bindingsOf
  rw [lookup_unstyled (by decide +kernel)]
  conv_lhs => rw [Affordance.unstyled, List.filterMap_filter]
  refine List.filterMap_congr fun a _ => ?_
  by_cases h : isStyling a.1 = true
  · simp [h, hd.event a.1 h]
  · simp [h]

theorem valuesOf_unstyled (attrs : List (String × String)) (element : Nat) :
    valuesOf d (Affordance.unstyled attrs) element = valuesOf d attrs element := by
  unfold valuesOf
  rw [Affordance.unstyled, List.filterMap_filter]
  refine List.filterMap_congr fun a _ => ?_
  by_cases h : isStyling a.1 = true
  · simp [h, hd.bindsValue a.1 h]
  · simp [h]

theorem addBindings_unstyled (c : Collector) (tag : String) (attrs : List (String × String))
    (element : Option Nat) :
    (c.addBindings d tag attrs element).unstyled =
      c.unstyled.addBindings d tag (Affordance.unstyled attrs) element := by
  unfold addBindings
  rw [bindingsOf_unstyled hd]
  cases element with
  | none => rfl
  | some i =>
    dsimp only
    rw [valuesOf_unstyled hd]
    rfl

omit hd in
theorem ownRole_unstyled (name : String) (attrs : List (String × String)) :
    ownRole d name (Affordance.unstyled attrs) = ownRole d name attrs := by
  unfold ownRole
  cases d.native name with
  | none => rfl
  | some native =>
    dsimp only
    rw [shape_unstyled]

omit hd in
theorem ownValue_unstyled (name : String) (attrs : List (String × String)) :
    ownValue d name (Affordance.unstyled attrs) = ownValue d name attrs := by
  unfold ownValue
  rw [ownRole_unstyled, optionValue_unstyled]

theorem taken_unstyled (c : Collector) (name : String) (attrs : List (String × String)) :
    (c.taken d name attrs).unstyled = c.unstyled.taken d name (Affordance.unstyled attrs) := by
  unfold taken
  cases d.native name with
  | none => exact addBindings_unstyled hd c _ attrs none
  | some native =>
    dsimp only
    rw [addBindings_unstyled hd, (addElement_unstyled c native attrs).1, shape_unstyled]
    congr 2
    exact (List.length_map ..).symm

theorem frameOf_unstyled (c : Collector) (name : String) (attrs : List (String × String)) :
    c.unstyled.frameOf d name (Affordance.unstyled attrs) = c.frameOf d name attrs := by
  unfold frameOf
  rw [ownRole_unstyled, ownValue_unstyled, literal?_unstyled hd.labelFor]
  congr 1
  show (d.native name).map (fun _ => (c.collected.elements.map Element.unstyled).length) = _
  rw [List.length_map]

omit hd in
theorem keyOf_unstyled (c : Collector) (name : String) (attrs : List (String × String)) :
    c.unstyled.keyOf d name (Affordance.unstyled attrs) = c.keyOf d name attrs := by
  unfold keyOf
  refine congrArg (d.native name).bind (funext fun native => ?_)
  rw [← (addElement_unstyled c native attrs).2]
  rfl

theorem enter_unstyled (c : Collector) (name : String) (attrs : List (String × String))
    (selfClosing : Bool) :
    (c.enter d name attrs selfClosing).unstyled =
      c.unstyled.enter d name (Affordance.unstyled attrs) selfClosing := by
  unfold enter
  rw [ownRole_unstyled]
  cases selfClosing || decide (ownRole d name attrs = .other) with
  | true =>
    rw [openTag_closed, openTag_closed, ownValue_unstyled, ← taken_unstyled hd]
    cases ownValue d name attrs with
    | none => rfl
    | some v => exact giveOption_unstyled _ v
  | false =>
    rw [openTag_open, openTag_open, frameOf_unstyled hd, keyOf_unstyled, ← taken_unstyled hd]
    rfl

end Collector

namespace Markup

open Collector

/-! ## 4. Trees -/

mutual

/-- The tree without the attributes that only style. -/
def Node.unstyled : Node → Node
  | .text s => .text s
  | .tag name attrs children => .tag name (Affordance.unstyled attrs) (Node.unstyledAll children)

/-- Trees without the attributes that only style. -/
def Node.unstyledAll : List Node → List Node
  | [] => []
  | n :: rest => n.unstyled :: Node.unstyledAll rest

end

theorem unstyledAll_append : ∀ ms ns : List Node,
    Node.unstyledAll (ms ++ ns) = Node.unstyledAll ms ++ Node.unstyledAll ns
  | [], _ => rfl
  | m :: ms, ns => by
    rw [List.cons_append, Node.unstyledAll, unstyledAll_append ms ns, Node.unstyledAll,
      List.cons_append]

/-- The collector changes no names. -/
theorem map_attributeOf_unstyled (attrs : List (String × String)) :
    (Affordance.unstyled attrs).map attributeOf = Affordance.unstyled (attrs.map attributeOf) := by
  have hname : ∀ a, (attributeOf a).1 = a.1 := by
    intro a
    unfold attributeOf
    split <;> rfl
  rw [Affordance.unstyled, Affordance.unstyled, List.filter_map]
  congr 1
  refine List.filter_congr fun a _ => ?_
  rw [Function.comp_apply, hname]

theorem leave_unstyled {d : Dialect} (name : String) (attrs : List (String × String))
    (c : Collector) :
    (leave d name attrs c).unstyled = leave d name (Affordance.unstyled attrs) c.unstyled := by
  unfold leave
  rw [ownRole_unstyled]
  split
  · rfl
  · exact closeMany_unstyled 1 c

mutual

theorem Node.effect_unstyled {d : Dialect} (hd : d.IgnoresStyling) (edit : String → String) :
    ∀ (n : Node) (c : Collector),
      (n.effect d edit c).unstyled = n.unstyled.effect d edit c.unstyled
  | .text s, c => rfl
  | .tag name attrs children, c => by
    rw [Node.unstyled, Node.effect, Node.effect, map_attributeOf_unstyled]
    split
    · rfl
    · split
      · rw [Node.effectAll_unstyled hd edit children, enter_unstyled hd]
      · rw [leave_unstyled, Node.effectAll_unstyled hd edit children, enter_unstyled hd]

/-- **Without their styling, trees have the effect without the styling.** -/
theorem Node.effectAll_unstyled {d : Dialect} (hd : d.IgnoresStyling) (edit : String → String) :
    ∀ (ns : List Node) (c : Collector),
      (Node.effectAll d edit ns c).unstyled =
        Node.effectAll d edit (Node.unstyledAll ns) c.unstyled
  | [], c => rfl
  | n :: rest, c => by
    rw [Node.effectAll, Node.unstyledAll, Node.effectAll,
      Node.effectAll_unstyled hd edit rest, Node.effect_unstyled hd edit n]

end

theorem effectAll_append (d : Dialect) (edit : String → String) : ∀ (ms ns : List Node)
    (c : Collector), Node.effectAll d edit (ms ++ ns) c =
      Node.effectAll d edit ns (Node.effectAll d edit ms c)
  | [], _, _ => rfl
  | m :: ms, ns, c => by
    rw [List.cons_append, Node.effectAll, effectAll_append d edit ms ns, Node.effectAll]

/-! ## 5. The end of a collection -/

theorem zipWith_unstyled (settle : Element → LabelHints → Option String)
    (h : ∀ e k, settle e.unstyled k = settle e k) : ∀ (es : List Element) (ks : List LabelHints),
      (es.zipWith (fun e k => { e with label := settle e k }) ks).map Element.unstyled =
        (es.map Element.unstyled).zipWith (fun e k => { e with label := settle e k }) ks
  | [], _ => by rw [List.zipWith_nil_left, List.map_nil, List.zipWith_nil_left]
  | _ :: _, [] => by rw [List.zipWith_nil_right, List.map_nil, List.zipWith_nil_right]
  | e :: es, k :: ks => by
    rw [List.zipWith_cons_cons, List.map_cons, zipWith_unstyled settle h es ks, List.map_cons,
      List.zipWith_cons_cons, h]
    rfl

theorem findSome?_zip_unstyled (fault : Element → LabelHints → Option Number.LongNumber)
    (h : ∀ e k, fault e.unstyled k = fault e k) : ∀ (es : List Element) (ks : List LabelHints),
      ((es.map Element.unstyled).zip ks).findSome? (fun (e, k) => fault e k) =
        (es.zip ks).findSome? fun (e, k) => fault e k
  | [], _ => rfl
  | _ :: _, [] => rfl
  | e :: es, k :: ks => by
    rw [List.map_cons, List.zip_cons_cons, List.zip_cons_cons, List.findSome?_cons,
      List.findSome?_cons, findSome?_zip_unstyled fault h es ks]
    dsimp only
    rw [h]

/-- Settling the labels reads no attribute that only styles. -/
theorem finish_unstyled (c : Collector) :
    c.unstyled.finish = c.finish.map Collected.unstyled := by
  have hclosed : c.unstyled.closed = c.closed.unstyled := (closeMany_unstyled _ c).symm
  have hfault : c.closed.unstyled.finalFault? = c.closed.finalFault? := by
    show (c.closed.fault <|> _) = (c.closed.fault <|> _)
    congr 1
    funext _
    exact findSome?_zip_unstyled c.closed.unsettled? (fun _ _ => rfl) _ _
  have hsettled : c.closed.unstyled.settled = c.closed.settled.unstyled := by
    have helements := zipWith_unstyled c.closed.settle (fun _ _ => rfl)
      c.closed.collected.elements c.closed.hints
    exact congrArg (fun es => { c.closed.collected with elements := es }) helements.symm
  simp only [finish, hclosed, hfault, hsettled]
  cases c.closed.finalFault? <;> rfl

/-- **Trees without their styling collect the same without the styling.** -/
theorem collect_unstyled {d : Dialect} (hd : d.IgnoresStyling) (edit : String → String)
    (ns : List Node) :
    (Collector.collect d (Node.eventsAll edit ns)).map Collected.unstyled =
      Collector.collect d (Node.eventsAll edit (Node.unstyledAll ns)) := by
  rw [collect_eq, collect_eq, ← finish_unstyled, Node.effectAll_unstyled hd]
  rfl

/-! ## 6. Restyled trees -/

/-- A tag that means nothing to the collector: no element, no label, no option; and neither
    a void tag nor one whose contents are no part of the surface. -/
structure Plain (d : Dialect) (name : String) : Prop where
  native : d.native name = none
  role : plainRole (d.tagName name) = .other
  void : Vocabulary.voidTags.contains name = false
  read : ¬ (name = "script" ∨ name = "style")

/-- One step of restyling trees that stand side by side. -/
inductive Restyle (d : Dialect) : List Node → List Node → Prop
  /-- The styling attributes of a tag are added, changed or removed. -/
  | attributes {name : String} {attrs attrs' : List (String × String)} {children : List Node}
      (h : unstyled attrs = unstyled attrs') :
      Restyle d [.tag name attrs children] [.tag name attrs' children]
  /-- Siblings are wrapped in a tag that has styling attributes at most. -/
  | wrap {name : String} {attrs : List (String × String)} {run : List Node}
      (hname : Plain d name) (hattrs : unstyled attrs = []) :
      Restyle d run [.tag name attrs run]
  /-- Siblings are unwrapped from such a tag. -/
  | unwrap {name : String} {attrs : List (String × String)} {run : List Node}
      (hname : Plain d name) (hattrs : unstyled attrs = []) :
      Restyle d [.tag name attrs run] run
  /-- The contents of a tag are restyled. -/
  | inside {name : String} {attrs : List (String × String)} {children children' : List Node}
      (h : Restyle d children children') :
      Restyle d [.tag name attrs children] [.tag name attrs children']
  /-- Some of the trees are restyled. -/
  | beside {left trees trees' right : List Node} (h : Restyle d trees trees') :
      Restyle d (left ++ trees ++ right) (left ++ trees' ++ right)

/-- A plain tag without attributes is its contents. -/
theorem effect_plain {d : Dialect} {name : String} (h : Plain d name) (edit : String → String)
    (run : List Node) (c : Collector) :
    (Node.tag name [] run).effect d edit c = Node.effectAll d edit run c := by
  have hrole : ownRole d name [] = .other := by
    rw [ownRole, h.native]
    exact h.role
  have hvalue : ownValue d name [] = none := by
    rw [ownValue, hrole, if_neg (by decide)]
  have henter : c.enter d name [] false = c := by
    rw [enter, hrole, Bool.false_or, decide_eq_true rfl, openTag_closed, hvalue, taken, h.native]
    simp only [addBindings, bindingsOf, List.filterMap_nil, List.append_nil]
  rw [Node.effect, if_neg h.read, h.void, if_neg (by decide), List.map_nil, henter, leave,
    if_pos hrole]

/-- A step of restyling changes no effect, apart from the styling. -/
theorem effectAll_restyle {d : Dialect} (edit : String → String) {a b : List Node}
    (h : Restyle d a b) : ∀ c, Node.effectAll d edit (Node.unstyledAll a) c =
      Node.effectAll d edit (Node.unstyledAll b) c := by
  have hwrap : ∀ {name attrs} (run : List Node), Plain d name → unstyled attrs = [] → ∀ c,
      Node.effectAll d edit (Node.unstyledAll [.tag name attrs run]) c =
        Node.effectAll d edit (Node.unstyledAll run) c := by
    intro name attrs run hname hattrs c
    rw [Node.unstyledAll, Node.unstyledAll, Node.unstyled, hattrs, Node.effectAll,
      effect_plain hname, Node.effectAll]
  induction h with
  | attributes hattrs =>
    intro c
    rw [Node.unstyledAll, Node.unstyledAll, Node.unstyled, hattrs, Node.unstyledAll,
      Node.unstyledAll, Node.unstyled]
  | wrap hname hattrs => exact fun c => (hwrap _ hname hattrs c).symm
  | unwrap hname hattrs => exact hwrap _ hname hattrs
  | @inside name attrs children children' _ ih =>
    intro c
    have hfun : Node.effectAll d edit (Node.unstyledAll children) =
        Node.effectAll d edit (Node.unstyledAll children') := funext ih
    simp only [Node.unstyledAll, Node.unstyled, Node.effectAll, Node.effect, hfun]
  | beside _ ih =>
    intro c
    rw [unstyledAll_append, unstyledAll_append, effectAll_append, effectAll_append, ih,
      unstyledAll_append, unstyledAll_append, effectAll_append, effectAll_append]

/-- **Restyled trees collect the same, up to the styling attributes.** -/
theorem collect_restyled {d : Dialect} (hd : d.IgnoresStyling) (edit : String → String)
    {a b : List Node} (h : Relation.ReflTransGen (Restyle d) a b) :
    (Collector.collect d (Node.eventsAll edit a)).map Collected.unstyled =
      (Collector.collect d (Node.eventsAll edit b)).map Collected.unstyled := by
  induction h with
  | refl => rfl
  | tail _ hstep ih =>
    rw [ih, collect_unstyled hd, collect_unstyled hd, collect_eq, collect_eq,
      effectAll_restyle edit hstep]

end Markup

end Affordance
