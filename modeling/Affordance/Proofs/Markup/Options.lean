import Affordance.Proofs.Markup.Labels
import Affordance.Tool.Schema
import Mathlib.Data.List.Forall2

/-!
# Options of collected selections

  * `Choice.taken`: the value that an option is taken to have; `Choice.submitted`: the value that a
    form submits for it.  `taken_eq_submitted_iff` says where they agree.
  * `choices_effect`: the options of a tree go to the innermost open selection, those of its own
    selections to these, each value once.
  * **`options_submitted_iff`**: so the options of a selection, and the values that a tool may
    choose from, are the submitted values iff no option has an empty value.
-/

namespace Affordance

open Affordance.Text

/-! ## 1. Values of options -/

namespace Markup.Choice

/-- The value that an option is taken to have. -/
def taken (o : Choice) : Option String :=
  (Collector.optionValue o.attributes []).or (labelText o.text)

/-- The value that a form submits for the option: what its attribute says, though it be empty, and
    its text without one. -/
def submitted (o : Choice) : Option String :=
  match o.attributes.lookup "value" with
  | some v => some v
  | none => labelText o.text

/-- Another label stands in the place of the option's text. -/
def relabelled (o : Choice) : Prop :=
  o.attributes.lookup "value" = none ∧
    ∃ l, o.attributes.lookup "label" = some l ∧ l ≠ "" ∧ labelText o.text ≠ some l

end Markup.Choice

namespace Collector

theorem optionValue_eq (attrs : List (String × String)) :
    optionValue attrs [] =
      (nonEmpty (attrs.lookup "value")).or (nonEmpty (attrs.lookup "label")) := by
  simp only [optionValue, List.findSome?_cons, List.findSome?_nil, List.contains_nil,
    Bool.false_eq_true, if_false]
  cases nonEmpty (attrs.lookup "value") <;> cases nonEmpty (attrs.lookup "label") <;> rfl

theorem optionValue_ne_empty {attrs : List (String × String)} {v : String}
    (h : optionValue attrs [] = some v) : v ≠ "" := by
  rw [optionValue_eq, Option.or_eq_some_iff] at h
  rcases h with h | ⟨-, h⟩
  · exact (nonEmpty_eq_some.mp h).2
  · exact (nonEmpty_eq_some.mp h).2

end Collector

namespace Markup.Choice

open Collector

/-- No option is taken to have an empty value. -/
theorem taken_ne_empty {o : Choice} {v : String} (h : o.taken = some v) : v ≠ "" := by
  rcases Option.or_eq_some_iff.mp h with h | ⟨-, h⟩
  · exact optionValue_ne_empty h
  · exact labelText_ne_empty h

theorem taken_eq (o : Choice) :
    o.taken = ((nonEmpty (o.attributes.lookup "value")).or
      (nonEmpty (o.attributes.lookup "label"))).or (labelText o.text) := by
  rw [taken, optionValue_eq]

/-- **An option is taken to have the value that is submitted for it iff its value is not empty and
    no other label stands in the place of its text.** -/
theorem taken_eq_submitted_iff (o : Choice) :
    o.taken = o.submitted ↔ o.attributes.lookup "value" ≠ some "" ∧ ¬ o.relabelled := by
  cases hvalue : o.attributes.lookup "value" with
  | some v =>
    have hsubmitted : o.submitted = some v := by rw [submitted, hvalue]
    have hlabel : ¬ o.relabelled := by
      intro h
      rw [h.1] at hvalue
      cases hvalue
    rw [hsubmitted]
    by_cases hempty : v = ""
    · subst hempty
      exact iff_of_false (fun h => taken_ne_empty h rfl) fun h => h.1 rfl
    · have htaken : o.taken = some v := by
        rw [taken_eq, hvalue, nonEmpty_eq_some.mpr ⟨rfl, hempty⟩, Option.some_or, Option.some_or]
      exact iff_of_true htaken ⟨fun h => hempty (Option.some.inj h), hlabel⟩
  | none =>
    have hsubmitted : o.submitted = labelText o.text := by rw [submitted, hvalue]
    have htaken : o.taken = (nonEmpty (o.attributes.lookup "label")).or (labelText o.text) := by
      rw [taken_eq, hvalue, nonEmpty_none, Option.none_or]
    rw [hsubmitted, htaken]
    unfold relabelled
    generalize labelText o.text = t
    cases hlabel : nonEmpty (o.attributes.lookup "label") with
    | none =>
      refine iff_of_true (Option.none_or) ⟨nofun, fun h => ?_⟩
      obtain ⟨-, l, hl, hne, -⟩ := h
      rw [nonEmpty_eq_some.mpr ⟨hl, hne⟩] at hlabel
      cases hlabel
    | some l =>
      obtain ⟨hl, hne⟩ := nonEmpty_eq_some.mp hlabel
      constructor
      · intro h
        refine ⟨nofun, fun hother => ?_⟩
        obtain ⟨-, l', hl', -, hdiffers⟩ := hother
        rw [hl] at hl'
        cases hl'
        exact hdiffers h.symm
      · intro h
        by_cases hsame : t = some l
        · exact hsame.symm
        · exact absurd ⟨hvalue, l, hl, hne, hsame⟩ h.2

end Markup.Choice

/-! ## 2. Options that are given -/

/-- A value among others, unless it is there already. -/
def withValue (values : List String) (v : String) : List String :=
  if values.contains v then values else values ++ [v]

theorem withValue_eraseDups (values : List String) (v : String) :
    withValue values.eraseDups v = (values ++ [v]).eraseDups := by
  unfold withValue
  by_cases h : v ∈ values
  · have hmem : v ∈ values.eraseDups := List.mem_eraseDups.mpr h
    simp [List.eraseDups_append, List.removeAll, h, hmem]
  · have hmem : v ∉ values.eraseDups := fun hv => h (List.mem_eraseDups.mp hv)
    simp [List.eraseDups_append, List.removeAll, h, hmem, List.eraseDups_cons]

/-- Values that are put among others one by one stand there once, in the order of their first. -/
theorem foldl_withValue (values vs : List String) :
    vs.foldl withValue values.eraseDups = (values ++ vs).eraseDups := by
  induction vs generalizing values with
  | nil => rw [List.foldl_nil, List.append_nil]
  | cons v vs ih =>
    rw [List.foldl_cons, withValue_eraseDups, ih, List.append_assoc, List.singleton_append]

/-- Values given to the selection at a place. -/
def given (place : Option Nat) (vs : List String) (options : List (List String)) :
    List (List String) :=
  match place with
  | some i => options.modify i fun values => vs.foldl withValue values
  | none => options

theorem given_nil (place : Option Nat) (options : List (List String)) :
    given place [] options = options := by
  cases place with
  | none => rfl
  | some i => exact List.modify_id i options

theorem given_append (place : Option Nat) (vs ws : List String) (options : List (List String)) :
    given place ws (given place vs options) = given place (vs ++ ws) options := by
  cases place with
  | none => rfl
  | some i =>
    simp only [given, List.modify_modify_eq, List.foldl_append]
    rfl

/-- What is given to a selection leaves the elements that follow as they are. -/
theorem given_before {place : Option Nat} {options : List (List String)}
    (h : ∀ i ∈ place, i < options.length) (vs : List String) (later : List (List String)) :
    given place vs (options ++ later) = given place vs options ++ later := by
  cases place with
  | none => rfl
  | some i =>
    have hi := h i rfl
    simp only [given, List.modify_eq_take_drop]
    rw [List.take_append_of_le_length (Nat.le_of_lt hi), List.drop_append_of_le_length
      (Nat.le_of_lt hi), List.append_assoc]
    congr 1
    cases hdrop : options.drop i with
    | nil => exact absurd (List.drop_eq_nil_iff.mp hdrop) (Nat.not_le.mpr hi)
    | cons values rest => rfl

/-- What is given to the newest element. -/
theorem given_new (options : List (List String)) (vs : List String) :
    given (some options.length) vs (options ++ [[]]) = options ++ [vs.eraseDups] := by
  have hvalues := foldl_withValue [] vs
  rw [List.eraseDups_nil, List.nil_append] at hvalues
  simp [given, List.modify_eq_take_drop, hvalues]

namespace Collector

/-- The options of the elements. -/
def options (c : Collector) : List (List String) := c.collected.elements.map (·.options)

/-- The place of the innermost open selection. -/
def openSelect (stack : List Frame) : Option Nat :=
  (stack.find? (·.role = .select)).bind (·.element)

theorem options_giveOption (c : Collector) (v : String) :
    (c.giveOption v).options = given (openSelect c.stack) [v] c.options := by
  unfold giveOption
  change (match openSelect c.stack with | some i => _ | none => c : Collector).options = _
  cases openSelect c.stack with
  | none => rfl
  | some i =>
    refine map_modify (fun e => ?_) _ _
    show (withOption v e).options = withValue e.options v
    unfold withOption withValue
    rw [apply_ite Element.options]

theorem options_keepText (c : Collector) (f : Frame) : (c.keepText f).options = c.options := by
  unfold keepText
  split <;> rfl

theorem options_keepOption (c : Collector) (f : Frame) : (c.keepOption f).options =
    given (openSelect c.stack) (f.value.or (labelText f.text)).toList c.options := by
  have hfailing : ∀ b : Bool,
      (if b then c.failing (unreadableLabel? [f.text]) else c).options = c.options ∧
      (if b then c.failing (unreadableLabel? [f.text]) else c).stack = c.stack := by
    intro b
    cases b <;> exact ⟨rfl, rfl⟩
  obtain ⟨hoptions, hstack⟩ := hfailing f.value.isNone
  unfold keepOption
  rw [Option.orElse_eq_orElse, Option.orElse_eq_or]
  cases f.value.or (labelText f.text) with
  | none => exact hoptions.trans (given_nil ..).symm
  | some v =>
    dsimp only
    rw [options_giveOption, hoptions, hstack, Option.toList_some]

theorem options_keepLabel (c : Collector) (f : Frame) : (c.keepLabel f).options = c.options := by
  unfold keepLabel withLabel
  repeat' split
  all_goals rfl

/-- Closing an option gives its value to the innermost open selection. -/
theorem options_close (c : Collector) (f : Frame) :
    (c.close f).options = if f.role = .option then
      given (openSelect c.stack) (f.value.or (labelText f.text)).toList c.options
    else c.options := by
  unfold close
  cases f.role
  case option =>
    have hkeep : (c.keepText f).stack = c.stack := by
      unfold keepText
      split <;> rfl
    rw [if_pos rfl, ← hkeep, ← options_keepText c f]
    exact options_keepOption _ f
  case label => exact (options_keepLabel _ f).trans (options_keepText c f)
  all_goals exact options_keepText c f

section Opening

variable {d : Dialect} {name : String} {attrs : List (String × String)}

/-- A tag's element has no options yet. -/
theorem options_taken (c : Collector) : (c.taken d name attrs).options =
    c.options ++ (d.native name).toList.map fun _ => [] := by
  unfold taken
  cases d.native name with
  | none => exact (List.append_nil _).symm
  | some native => exact List.map_append ..

theorem options_opened (c : Collector) : (c.opened d name attrs).options =
    c.options ++ (d.native name).toList.map fun _ => [] := options_taken c

/-- The innermost open selection in a tag. -/
theorem openSelect_opened (c : Collector) : openSelect (c.opened d name attrs).stack =
    if ownRole d name attrs = .select then (d.native name).map fun _ => c.collected.elements.length
    else openSelect c.stack := by
  rw [stack_opened]
  unfold openSelect
  rw [List.find?_cons]
  by_cases hrole : ownRole d name attrs = .select
  · rw [show decide ((c.frameOf d name attrs).role = .select) = true from decide_eq_true hrole,
      if_pos hrole]
    rfl
  · rw [show decide ((c.frameOf d name attrs).role = .select) = false from decide_eq_false hrole,
      if_neg hrole]

end Opening

end Collector

namespace Markup

open Collector

/-! ## 3. Options of trees -/

/-- The options of a sight's element: the values that its options are taken to have, each once. -/
def Sight.options (s : Sight) : List String := (s.choices.filterMap (·.taken)).eraseDups

/-- The innermost open selection is an element that is there. -/
def SelectStands (c : Collector) : Prop := ∀ i ∈ openSelect c.stack, i < c.options.length

/-- Options of a tree's selections have been added, those of no selection have been given. -/
structure Offered (choices : List Choice) (ss : List Sight) (before after : Collector) : Prop where
  options : after.options = given (openSelect before.stack) (choices.filterMap (·.taken))
    before.options ++ ss.map (·.options)
  select : openSelect after.stack = openSelect before.stack

theorem length_given (place : Option Nat) (vs : List String) (options : List (List String)) :
    (given place vs options).length = options.length := by
  cases place with
  | none => rfl
  | some i => exact List.length_modify ..

theorem SelectStands.given {c : Collector} (h : SelectStands c) (vs : List String) :
    ∀ i ∈ openSelect c.stack, i < (given (openSelect c.stack) vs c.options).length := by
  rw [length_given]
  exact h

theorem Offered.trans {os ps : List Choice} {ss ts : List Sight} {a b c : Collector}
    (hstands : SelectStands a) (hab : Offered os ss a b) (hbc : Offered ps ts b c) :
    Offered (os ++ ps) (ss ++ ts) a c where
  select := hbc.select.trans hab.select
  options := by
    rw [hbc.options, hab.select, hab.options, given_before (hstands.given _), given_append,
      List.filterMap_append, List.map_append, List.append_assoc]

theorem openSelect_hear (full heard : String) (stack : List Frame) :
    openSelect (stack.map (·.hear full heard)) = openSelect stack := by
  induction stack with
  | nil => rfl
  | cons f rest ih =>
    have helement : (f.hear full heard).element = f.element := by
      unfold Frame.hear
      split <;> rfl
    unfold openSelect at ih ⊢
    rw [List.map_cons, List.find?_cons, List.find?_cons, Frame.hear_role]
    split
    · rw [Option.bind_some, Option.bind_some, helement]
    · exact ih

theorem Offered.stands {os : List Choice} {ss : List Sight} {a b : Collector}
    (hstands : SelectStands a) (h : Offered os ss a b) : SelectStands b := by
  intro i hi
  rw [h.select] at hi
  have hlength : a.options.length ≤ b.options.length := by
    rw [h.options, List.length_append, length_given]
    exact Nat.le_add_right ..
  exact Nat.lt_of_lt_of_le (hstands i hi) hlength

section Tags

variable {d : Dialect} {edit : String → String} {name : String} {attrs : List (String × String)}
  {children : List Node}

/-- The trees after a tree go on where it has ended. -/
theorem offered_cons {n : Node} {rest : List Node} {c : Collector} {quiet : Bool}
    {around : Option String} (hstands : SelectStands c)
    (hn : Offered (n.choices d edit) (n.sights d edit quiet around) c (n.effect d edit c))
    (hrest : SelectStands (n.effect d edit c) →
      Offered (Node.choicesAll d edit rest) (Node.sightsAll d edit quiet around rest)
        (n.effect d edit c) (Node.effectAll d edit rest (n.effect d edit c))) :
    Offered (Node.choicesAll d edit (n :: rest)) (Node.sightsAll d edit quiet around (n :: rest)) c
      (Node.effectAll d edit (n :: rest) c) := by
  rw [Node.choicesAll, Node.sightsAll, Node.effectAll]
  exact hn.trans hstands (hrest (hn.stands hstands))

/-- The element of a tag that is no selection has no options. -/
theorem options_sightOf (edit : String → String) (around : Option String) (children : List Node)
    (hrole : frameRole d name attrs ≠ .select) :
    (sightOf d edit around name attrs children).toList.map (·.options) =
      (d.native name).toList.map fun _ => [] := by
  unfold sightOf
  cases d.native name with
  | none => rfl
  | some native =>
    simp only [Option.map_some, Option.toList_some, List.map_singleton, Sight.options,
      if_neg hrole, List.filterMap_nil, List.eraseDups_nil]

theorem offered_taken (edit : String → String) (around : Option String) (children : List Node)
    (hrole : frameRole d name attrs ≠ .select) (c : Collector) :
    Offered [] (sightOf d edit around name attrs children).toList c (c.taken d name attrs) where
  select := by rw [stack_taken]
  options := by rw [options_sightOf edit around children hrole, List.filterMap_nil, given_nil,
    options_taken]

theorem offered_opened (edit : String → String) (around : Option String) (children : List Node)
    (hother : frameRole d name attrs ≠ .other) (hrole : frameRole d name attrs ≠ .select)
    (c : Collector) :
    Offered [] (sightOf d edit around name attrs children).toList c (c.opened d name attrs) where
  select := by rw [openSelect_opened, ownRole_of_framed hother, if_neg hrole]
  options := by rw [options_sightOf edit around children hrole, List.filterMap_nil, given_nil,
    options_opened]

/-- What the frame of an option gives when it is closed. -/
theorem value_frame {full heard : String} {c : Collector} (hrole : ownRole d name attrs = .option) :
    ((c.frameOf d name attrs).hear full heard).value.or
      (labelText ((c.frameOf d name attrs).hear full heard).text) =
      Choice.taken ⟨attrs, full⟩ := by
  have hframe : (c.frameOf d name attrs).hear full heard =
      { c.frameOf d name attrs with text := full } := by
    unfold Frame.hear
    rw [show (c.frameOf d name attrs).role = .option from hrole]
    simp [frameOf, hrole]
  rw [hframe]
  show (ownValue d name attrs).or (labelText full) = _
  rw [ownValue, if_pos hrole]
  rfl

/-- A frame is closed, which gives its value to the selection around it, if it is an option's. -/
theorem Offered.close {os : List Choice} {ss : List Sight} {c r : Collector} {stack : List Frame}
    {full heard : String} (hstands : SelectStands c) (h : Offered os ss c r)
    (hstack : openSelect stack = openSelect c.stack) :
    Offered (os ++ if ownRole d name attrs = .option then [⟨attrs, full⟩] else []) ss c
      (Collector.close { r with stack } ((c.frameOf d name attrs).hear full heard)) where
  select := by rw [stack_close]; exact hstack
  options := by
    have hbefore := given_before (hstands.given (os.filterMap (·.taken)))
    rw [options_close, Frame.hear_role]
    show (if ownRole d name attrs = .option then given (openSelect stack) _ r.options
      else r.options) = _
    rw [hstack, h.options]
    by_cases hrole : ownRole d name attrs = .option
    · rw [if_pos hrole, if_pos hrole, value_frame hrole, hbefore, given_append,
        List.filterMap_append]
      rfl
    · rw [if_neg hrole, if_neg hrole, List.append_nil]

/-- A selection takes what is in it. -/
theorem offered_select {ss : List Sight} {c r : Collector} {stack : List Frame}
    (full heard : String) (around : Option String) (hrole : frameRole d name attrs = .select)
    (h : SelectStands (c.opened d name attrs) →
      Offered (Node.choicesAll d edit children) ss (c.opened d name attrs) r)
    (hstack : openSelect stack = openSelect c.stack) :
    Offered [] ((sightOf d edit around name attrs children).toList ++ ss) c
      (Collector.close { r with stack } ((c.frameOf d name attrs).hear full heard)) := by
  have hown : ownRole d name attrs = .select := by
    rw [ownRole_of_framed (by rw [hrole]; decide), hrole]
  obtain ⟨native, hnative⟩ := native_of_ownRole (.inr hown)
  -- the selection is the newest element, so that its options go to the end of the list
  have hopened : (c.opened d name attrs).options = c.options ++ [[]] := by
    rw [options_opened, hnative]
    rfl
  have hselect : openSelect (c.opened d name attrs).stack = some c.options.length := by
    rw [openSelect_opened, if_pos hown, hnative, Option.map_some, options, List.length_map]
  have hinner := (h fun i hi => by
    rw [hselect] at hi
    cases hi
    rw [hopened, List.length_append]
    exact Nat.lt_add_one _).options
  have hsight : (sightOf d edit around name attrs children).toList.map (·.options) =
      [((Node.choicesAll d edit children).filterMap (·.taken)).eraseDups] := by
    unfold sightOf
    simp only [hnative, Option.map_some, Option.toList_some, List.map_singleton, Sight.options,
      if_pos hrole]
  have hclosed :
      (Collector.close { r with stack } ((c.frameOf d name attrs).hear full heard)).options =
        r.options := by
    have hother : ((c.frameOf d name attrs).hear full heard).role ≠ .option := by
      rw [Frame.hear_role]
      exact fun h => absurd (hown.symm.trans h) (by decide)
    rw [options_close, if_neg hother]
    rfl
  have hnew := given_new c.options ((Node.choicesAll d edit children).filterMap (·.taken))
  refine ⟨?_, by rw [stack_close]; exact hstack⟩
  rw [hclosed, hinner, hselect, hopened, hnew, List.filterMap_nil, given_nil, List.map_append,
    hsight, List.append_assoc]

/-- **Trees give their options to the selections that they stand in.** -/
theorem choices_effect (d : Dialect) (edit : String → String) (ns : List Node) (c : Collector)
    (quiet : Bool) (around : Option String) : SelectStands c →
      Offered (Node.choicesAll d edit ns) (Node.sightsAll d edit quiet around ns) c
        (Node.effectAll d edit ns c) := by
  induction ns, c using effect_induction d edit generalizing quiet around with
  | nil c =>
    intro _
    refine ⟨?_, rfl⟩
    show c.options = given _ [] c.options ++ []
    rw [given_nil, List.append_nil]
  | text s rest c hrest =>
    intro hstands
    have hs := Heard.addText c (edit s)
    have hn : Offered [] [] c (c.addText (edit s)) := by
      refine ⟨?_, by rw [hs.stack, openSelect_hear]⟩
      rw [List.filterMap_nil, given_nil, List.map_nil, List.append_nil]
      rfl
    exact offered_cons hstands hn (hrest quiet around)
  | skipped name attrs children rest c hskip hrest =>
    intro hstands
    have hnone : (Node.tag name attrs children).choices d edit = [] := by
      rw [Node.choices, if_pos (hskip.imp_right .inl)]
    rw [Node.choicesAll, hnone, Node.sightsAll, Node.sights, if_pos hskip, Node.effectAll,
      effect_skipped hskip]
    exact hrest quiet around hstands
  | passed name attrs children rest c hskip hrole hchildren hrest =>
    intro hstands
    refine offered_cons hstands ?_ (hrest quiet around)
    have hopen := offered_taken edit around children (by rw [hrole]; decide) c
    have htag := hopen.trans hstands (hchildren quiet around (hopen.stands hstands))
    have hquiet : (quiet || FrameRole.mutes .other) = quiet := Bool.or_false _
    rw [Node.choices, if_neg (by rw [hrole]; simpa using hskip), Node.sights, if_neg hskip, hrole,
      effect_passed hskip hrole, hquiet]
    show Offered (Node.choicesAll d edit children ++ []) _ c _
    rw [List.append_nil]
    exact htag
  | framed name attrs children rest c hskip hrole hchildren hrest =>
    intro hstands
    refine offered_cons hstands ?_ (hrest quiet around)
    obtain ⟨stack, heffect, hheard⟩ := close_framed edit children hskip hrole c
    have hstack : openSelect stack = openSelect c.stack := by
      rw [show stack = _ from hheard.stack, openSelect_hear]
    rw [heffect, Node.sights, if_neg hskip]
    dsimp only
    generalize (quiet || FrameRole.mutes (frameRole d name (attrs.map attributeOf))) = quiet'
    generalize (if frameRole d name (attrs.map attributeOf) = .label then
      some (heardText d edit quiet' children) else around) = around'
    by_cases hselect : frameRole d name (attrs.map attributeOf) = .select
    · rw [Node.choices, if_pos (.inr (.inr hselect))]
      exact offered_select _ _ around hselect (hchildren quiet' around') hstack
    · have hopen := offered_opened edit around children hrole hselect c
      have hinner := hopen.trans hstands (hchildren quiet' around' (hopen.stands hstands))
      rw [Node.choices, if_neg (by simpa [hselect] using hskip), ← ownRole_of_framed hrole]
      exact hinner.close hstands hstack

end Tags

/-! ## 4. Whole collections -/

/-- The values that a form submits for the options of a sight's element, each once. -/
def Sight.submitted (s : Sight) : List String := (s.choices.filterMap (·.submitted)).eraseDups

/-- **Options without other labels have the values that are submitted iff none of these is
    empty.** -/
theorem options_eq_submitted_iff (s : Sight) (hlabels : ∀ o ∈ s.choices, ¬ o.relabelled) :
    s.options = s.submitted ↔ ∀ o ∈ s.choices, o.attributes.lookup "value" ≠ some "" := by
  constructor
  · intro h o ho hempty
    have hsubmitted : "" ∈ s.submitted := by
      refine List.mem_eraseDups.mpr (List.mem_filterMap.mpr ⟨o, ho, ?_⟩)
      rw [Choice.submitted, hempty]
    rw [← h] at hsubmitted
    obtain ⟨o', -, htaken⟩ := List.mem_filterMap.mp (List.mem_eraseDups.mp hsubmitted)
    exact Choice.taken_ne_empty htaken rfl
  · intro h
    have hsame : s.choices.filterMap (·.taken) = s.choices.filterMap (·.submitted) :=
      List.filterMap_congr fun o ho => o.taken_eq_submitted_iff.mpr ⟨h o ho, hlabels o ho⟩
    rw [Sight.options, hsame, Sight.submitted]

/-- The options of the elements are those of the sights, one by one. -/
theorem elements_of_collect {d : Dialect} {edit : String → String} {ns : List Node} {c : Collected}
    (h : Collector.collect d (Node.eventsAll edit ns) = .ok c) :
    c.elements.map (fun e => (head e, e.options)) =
      (Node.sightsAll d edit false none ns).map fun s => (s.head, s.options) := by
  have hsighted := sighted_effect d edit (Node.effectAll d edit ns {}).textOf ns {}
    (kept_effect d edit ns {}).new
  have hoffered := (choices_effect d edit ns {} false none nofun).options
  have hboth : (Node.effectAll d edit ns {}).collected.elements.map (fun e => (head e, e.options)) =
      (Node.sightsAll d edit false none ns).map fun s => (s.head, s.options) := by
    exact List.zip_map'.symm.trans
      ((congrArg₂ List.zip hsighted.heads hoffered).trans List.zip_map')
  rw [eq_settled h]
  unfold settled
  rw [List.map_zipWith]
  exact zipWith_eq_map (fun _ _ _ hsame _ => hsame) hboth hsighted.hints

/-- **Where the options of a selection are the submitted values.**  Elements are collected in the
    order of their tags; each has the values that its options are taken to have, and a tool may
    choose from these.  They are the submitted values iff no option has an empty value, unless
    another label stands in the place of an option's text. -/
theorem options_submitted_iff {d : Dialect} {edit : String → String} {ns : List Node}
    {c : Collected} (h : Collector.collect d (Node.eventsAll edit ns) = .ok c) :
    List.Forall₂ (fun e s => e.tag = s.tag ∧ e.attributes = s.attributes ∧ e.options = s.options ∧
        (e.tag = .select → e.property.choices.getD [] = e.options) ∧
        ((∀ o ∈ s.choices, ¬ o.relabelled) →
          (e.options = s.submitted ↔ ∀ o ∈ s.choices, o.attributes.lookup "value" ≠ some "")))
      c.elements (Node.sightsAll d edit false none ns) := by
  have hsame := elements_of_collect h
  have hall : List.Forall₂ (fun e s => (head e, e.options) = (s.head, s.options)) c.elements
      (Node.sightsAll d edit false none ns) := by
    have heq := List.forall₂_eq_eq_eq.symm ▸ hsame
    exact List.forall₂_map_right_iff.mp (List.forall₂_map_left_iff.mp heq)
  refine hall.imp fun e s hes => ?_
  obtain ⟨hhead, hoptions⟩ := Prod.mk.inj hes
  obtain ⟨htag, hrest⟩ := Prod.mk.inj hhead
  refine ⟨htag, (Prod.mk.inj hrest).2, hoptions, fun hselect => ?_, fun hlabels => ?_⟩
  · unfold Element.property
    rw [decide_eq_true hselect, Bool.true_and]
    cases e.options <;> rfl
  · rw [hoptions]
    exact options_eq_submitted_iff s hlabels

/-- A selection whose first option stands for no choice. -/
def anyOrOne : List Node :=
  [.tag "select" [("name", "c")]
    [.tag "option" [("value", "")] [.text "Any"], .tag "option" [("value", "a")] [.text "One"]]]

/-- What is seen of it. -/
def anyOrOneSight : Sight where
  native := (.select, none)
  attributes := [("name", "c")]
  around := none
  inside := none
  choices := [⟨[("value", "")], "Any"⟩, ⟨[("value", "a")], "One"⟩]

/-- The text of the option stands in the place of its empty value, which is what a form submits. -/
theorem empty_value_is_replaced : ∃ c e,
    Collector.collect .markup (Node.eventsAll id anyOrOne) = .ok c ∧ c.elements = [e] ∧
    Node.sightsAll .markup id false none anyOrOne = [anyOrOneSight] ∧
    (∀ o ∈ anyOrOneSight.choices, ¬ o.relabelled) ∧ e.tag = .select ∧
    e.property.choices.getD [] = ["Any", "a"] ∧ anyOrOneSight.submitted = ["", "a"] ∧
    e.options ≠ anyOrOneSight.submitted := by
  have hsome : (Collector.collect .markup (Node.eventsAll id anyOrOne)).toOption.isSome := by
    decide +kernel
  obtain ⟨c, hc⟩ := Option.isSome_iff_exists.mp hsome
  have hc := toOption_eq_some_iff.mp hc
  have hsights : Node.sightsAll .markup id false none anyOrOne = [anyOrOneSight] := by
    decide +kernel
  have hlabels : ∀ o ∈ anyOrOneSight.choices, ¬ o.relabelled := by
    have hvalues : ∀ o ∈ anyOrOneSight.choices, o.attributes.lookup "value" ≠ none := by decide
    exact fun o ho h => hvalues o ho h.1
  have hall := options_submitted_iff hc
  rw [hsights] at hall
  obtain ⟨e, rest, ⟨htag, -, hoptions, henum, hiff⟩, hrest, helements⟩ :=
    List.forall₂_cons_right_iff.mp hall
  rw [List.forall₂_nil_right_iff.mp hrest] at helements
  have hshown : anyOrOneSight.options = ["Any", "a"] := by decide +kernel
  refine ⟨c, e, hc, helements, hsights, hlabels, htag, ?_, by decide +kernel, fun h => ?_⟩
  · rw [henum htag, hoptions, hshown]
  · exact (hiff hlabels).mp h ⟨[("value", "")], "Any"⟩ List.mem_cons_self rfl

end Markup

end Affordance
