import Affordance.Proofs.Markup.Contents
import Affordance.Proofs.Succeeds

/-!
# Labels of collected elements

  * `Sight.texts`: the texts that may label a tag, read off the tree around it.
  * `Node.kept`: the texts of the labels and buttons of a tree; `kept_effect`: each of them is found
    under the number that its tag was given.
  * `Node.tied`: the texts of the labels that are tied to an identifier; `tied_effect`.
  * `Sighted`: what a collection has added for the tags of a tree, up to the numbers that stand for
    texts; `sighted_effect`.
  * **`labels_of_collect`**: the label of an element is the first one among the texts of its tag.
-/

namespace Affordance

open Affordance.Text

namespace Markup

open Collector

/-! ## 1. The texts of a sight -/

mutual

/-- The texts of the labels that are tied to an identifier, in the order in which they are
    closed. -/
def Node.tied (d : Dialect) (edit : String → String) (quiet : Bool) (id : String) :
    Node → List String
  | .text _ => []
  | .tag name attrs children =>
    let role := frameRole d name (attrs.map attributeOf)
    let inner := quiet || FrameRole.mutes role
    if name = "script" ∨ name = "style" then []
    else
      Node.tiedAll d edit inner id children ++
        if role = .label ∧ literal? (attrs.map attributeOf) [] d.labelFor = some id then
          [heardText d edit inner children]
        else []

/-- The texts of labels in trees. -/
def Node.tiedAll (d : Dialect) (edit : String → String) (quiet : Bool) (id : String) :
    List Node → List String
  | [] => []
  | n :: rest => n.tied d edit quiet id ++ Node.tiedAll d edit quiet id rest

end

namespace Sight

/-- The texts of the attributes that label a tag. -/
def ownTexts (s : Sight) : List String :=
  ["placeholder", "aria-label", "label", "title"].filterMap fun a => s.attributes.lookup a

/-- The texts of the labels that are tied to the tag's identifier, if it has one. -/
def tiedTexts (tied : String → List String) (s : Sight) : List String :=
  match s.attributes.lookup "id" with
  | some id => if id = "" then [] else tied id
  | none => []

/-- The value of an input. -/
def value (s : Sight) : Option String :=
  if s.native.1 = .input then s.attributes.lookup "value" else none

/-- The texts that may label the tag, the strongest first. -/
def texts (tied : String → List String) (s : Sight) : List String :=
  s.ownTexts ++ s.tiedTexts tied ++ s.around.toList ++
    if s.tag = .button then s.inside.toList ++ s.value.toList else []

end Sight

/-! ## 2. Texts of labels and buttons -/

/-- The text that the frame of a label or a button keeps. -/
def keptOf (role : FrameRole) (full heard : String) : List String :=
  if role = .label then [heard] else if role = .button then [full] else []

mutual

/-- The texts of the labels and buttons of a tree, in the order in which they open. -/
def Node.kept (d : Dialect) (edit : String → String) (quiet : Bool) : Node → List String
  | .text _ => []
  | .tag name attrs children =>
    let role := frameRole d name (attrs.map attributeOf)
    let inner := quiet || FrameRole.mutes role
    if name = "script" ∨ name = "style" then []
    else
      keptOf role (fullText d edit children) (heardText d edit inner children) ++
        Node.keptAll d edit inner children

/-- The texts of labels and buttons in trees. -/
def Node.keptAll (d : Dialect) (edit : String → String) (quiet : Bool) : List Node → List String
  | [] => []
  | n :: rest => n.kept d edit quiet ++ Node.keptAll d edit quiet rest

end

end Markup

namespace Collector

theorem texts_keepLabel (c : Collector) (f : Frame) : (c.keepLabel f).texts = c.texts := by
  unfold keepLabel withLabel
  repeat' split
  all_goals rfl

/-- Closing a label or a button keeps its text. -/
theorem textOf_close (c : Collector) (f : Frame) (i : Nat) :
    (c.close f).textOf i =
      if FrameRole.keeps f.role ∧ i = f.serial then some f.text else c.textOf i := by
  have htexts : (c.close f).texts = (c.keepText f).texts := by
    unfold close
    cases f.role
    case label => exact texts_keepLabel _ f
    case option => exact eq_keepOption (fun _ _ => rfl) (fun _ _ => rfl) _ f
    all_goals rfl
  unfold textOf
  rw [htexts]
  unfold keepText
  by_cases hkeeps : FrameRole.keeps f.role = true
  · rw [if_pos hkeeps, List.lookup_cons]
    by_cases hi : i = f.serial
    · simp [hkeeps, hi]
    · simp [hi, beq_eq_false_iff_ne.mpr hi]
  · rw [if_neg hkeeps, if_neg fun h => hkeeps h.1]

/-- What a collection shows but for texts, labels, options and what is open. -/
structure Shown where
  nextSerial : Nat
  hints : List LabelHints
  heads : List (ElementTag × Option String × List (String × String))

/-- What an element shows of its tag. -/
def head (e : Element) : ElementTag × Option String × List (String × String) :=
  (e.tag, e.id, e.attributes)

def shown (c : Collector) : Shown := ⟨c.nextSerial, c.hints, c.collected.elements.map head⟩

theorem shown_giveOption (c : Collector) (v : String) : (c.giveOption v).shown = c.shown := by
  unfold giveOption
  split
  · next i _ =>
    have hheads : (c.collected.elements.modify i (withOption v)).map head =
        (c.collected.elements.map head).modify i id := by
      refine map_modify (fun e => ?_) _ _
      unfold withOption
      split <;> rfl
    simp only [shown, hheads, List.modify_id]
  · rfl

theorem shown_close (c : Collector) (f : Frame) : (c.close f).shown = c.shown :=
  Unseen.close ⟨fun _ _ => rfl, fun _ _ => rfl, fun _ _ => rfl, shown_giveOption⟩
    (fun _ _ => rfl) (fun _ _ => rfl) c f

section Opening

variable (c : Collector) (d : Dialect) (name : String) (attrs : List (String × String))

theorem textOf_taken : (c.taken d name attrs).textOf = c.textOf := by
  unfold taken
  cases d.native name <;> rfl

theorem nextSerial_taken : (c.taken d name attrs).nextSerial = c.nextSerial := by
  unfold taken
  cases d.native name <;> rfl

theorem labels_taken : (c.taken d name attrs).labels = c.labels := by
  unfold taken
  cases d.native name <;> rfl

theorem labels_opened : (c.opened d name attrs).labels = c.labels := labels_taken c d name attrs

theorem textOf_opened : (c.opened d name attrs).textOf = c.textOf := by
  rw [← textOf_taken c d name attrs]
  rfl

theorem nextSerial_opened : (c.opened d name attrs).nextSerial =
    if FrameRole.keeps (ownRole d name attrs) then c.nextSerial + 1 else c.nextSerial := by
  rw [← nextSerial_taken c d name attrs]
  rfl

end Opening

end Collector

namespace Markup

open Collector

/-- Texts have been kept, each under the next number. -/
structure Kept (ks : List String) (before after : Collector) : Prop where
  serial : after.nextSerial = before.nextSerial + ks.length
  old : ∀ i < before.nextSerial, after.textOf i = before.textOf i
  new : Reads after.textOf before.nextSerial (ks.map some)

namespace Kept

variable {ks ls : List String} {a b c : Collector}

theorem refl (c : Collector) : Kept [] c c :=
  ⟨rfl, fun _ _ => rfl, fun _ _ h => by simp at h⟩

theorem trans (hab : Kept ks a b) (hbc : Kept ls b c) : Kept (ks ++ ls) a c where
  serial := by rw [hbc.serial, hab.serial, List.length_append, Nat.add_assoc]
  old := by
    intro i hi
    have hlater : i < b.nextSerial := by rw [hab.serial]; omega
    rw [hbc.old i hlater, hab.old i hi]
  new := by
    intro t k hk
    rw [List.map_append] at hk
    by_cases ht : t < ks.length
    · rw [List.getElem?_append_left (by simpa using ht)] at hk
      have hlater : a.nextSerial + t < b.nextSerial := by rw [hab.serial]; omega
      rw [hbc.old _ hlater, hab.new t k hk]
    · rw [List.getElem?_append_right (by simpa using ht), List.length_map] at hk
      have hnew := hbc.new (t - ks.length) k hk
      rw [hab.serial] at hnew
      rw [← hnew]
      congr 1
      omega

end Kept

section Closing

variable {d : Dialect} {name : String} {attrs : List (String × String)} (full heard : String)

/-- What the frame of a tag keeps is the text that it is closed with. -/
theorem keptOf_frame (c : Collector) : keptOf (ownRole d name attrs) full heard =
    if FrameRole.keeps (ownRole d name attrs) then
      [((c.frameOf d name attrs).hear full heard).text]
    else [] := by
  unfold keptOf Frame.hear frameOf
  dsimp only
  cases ownRole d name attrs <;> simp [FrameRole.keeps]

/-- A frame is opened, texts are kept, and it is closed. -/
theorem kept_close {ks : List String} {c r : Collector} (h : Kept ks (c.opened d name attrs) r)
    (stack : List Frame) :
    Kept (keptOf (ownRole d name attrs) full heard ++ ks) c
      (close { r with stack } ((c.frameOf d name attrs).hear full heard)) := by
  have hserial : ((c.frameOf d name attrs).hear full heard).serial = c.nextSerial := by
    unfold Frame.hear
    split <;> rfl
  have hrole : ((c.frameOf d name attrs).hear full heard).role = ownRole d name attrs :=
    Frame.hear_role full heard _
  have hnext : (close { r with stack } ((c.frameOf d name attrs).hear full heard)).nextSerial =
      r.nextSerial := congrArg Shown.nextSerial (shown_close _ _)
  have htext : ∀ i, (close { r with stack } ((c.frameOf d name attrs).hear full heard)).textOf i =
      if FrameRole.keeps (ownRole d name attrs) ∧ i = c.nextSerial then
        some ((c.frameOf d name attrs).hear full heard).text
      else r.textOf i := by
    intro i
    rw [textOf_close, hserial, hrole]
    rfl
  -- the frame has the next number, and its contents have those after it
  have hopened := h.serial
  have hold := h.old
  have hnew := h.new
  rw [nextSerial_opened] at hopened hold hnew
  rw [textOf_opened] at hold
  rw [keptOf_frame full heard c]
  by_cases hkeeps : FrameRole.keeps (ownRole d name attrs) = true
  · simp only [if_pos hkeeps] at hopened hold hnew ⊢
    refine ⟨by rw [hnext, hopened, List.length_append, List.length_singleton]; omega, ?_, ?_⟩
    · intro i hi
      rw [htext, if_neg (by omega), hold i (by omega)]
    · intro t k hk
      cases t with
      | zero =>
        rw [htext, if_pos ⟨hkeeps, rfl⟩]
        exact Option.some.inj hk
      | succ t =>
        rw [htext, if_neg (by omega), ← hnew t k hk]
        congr 1
        omega
  · simp only [if_neg hkeeps, List.nil_append] at hopened hold hnew ⊢
    have hkept : ∀ i, (close { r with stack } ((c.frameOf d name attrs).hear full heard)).textOf i =
        r.textOf i := fun i => (htext i).trans (if_neg fun hi => hkeeps hi.1)
    refine ⟨hnext.trans hopened, fun i hi => (hkept i).trans (hold i hi), fun t k hk => ?_⟩
    rw [hkept]
    exact hnew t k hk

end Closing

/-- **Each text of a label or a button is found under the number that its tag was given.** -/
theorem kept_effect (d : Dialect) (edit : String → String) (ns : List Node) (c : Collector) :
    Kept (Node.keptAll d edit c.quiet ns) c (Node.effectAll d edit ns c) := by
  induction ns, c using effect_induction d edit with
  | nil c => exact Kept.refl c
  | text s rest c hrest =>
    rw [(Heard.addText c (edit s)).quiet] at hrest
    rw [Node.keptAll, Node.kept, List.nil_append]
    exact ⟨hrest.serial, hrest.old, hrest.new⟩
  | skipped name attrs children rest c hskip hrest =>
    rw [Node.keptAll, Node.kept, if_pos hskip, Node.effectAll, effect_skipped hskip]
    exact hrest
  | passed name attrs children rest c hskip hrole hchildren hrest =>
    rw [quiet_effect] at hrest
    rw [quiet_taken, ← effect_passed hskip hrole] at hchildren
    have htag : Kept (Node.keptAll d edit c.quiet children) c
        ((Node.tag name attrs children).effect d edit c) := by
      obtain ⟨hserial, hold, hnew⟩ := hchildren
      rw [nextSerial_taken] at hserial hold hnew
      rw [textOf_taken] at hold
      exact ⟨hserial, hold, hnew⟩
    rw [Node.keptAll, Node.kept, if_neg hskip, hrole, Node.effectAll]
    show Kept (([] ++ Node.keptAll d edit (c.quiet || false) children) ++ _) _ _
    rw [List.nil_append, Bool.or_false]
    exact htag.trans hrest
  | framed name attrs children rest c hskip hrole hchildren hrest =>
    rw [quiet_effect] at hrest
    obtain ⟨stack, heffect, -⟩ := close_framed edit children hskip hrole c
    have htag := kept_close (fullText d edit children)
      (heardText d edit (c.opened d name (attrs.map attributeOf)).quiet children) hchildren stack
    rw [← heffect, quiet_opened, ownRole_of_framed hrole] at htag
    rw [Node.keptAll, Node.kept, if_neg hskip, Node.effectAll]
    exact htag.trans hrest

end Markup

/-! ## 3. Labels that are tied to an identifier -/

namespace Collector

theorem firstLabel_append (ts us : List String) :
    firstLabel (ts ++ us) = (firstLabel ts).or (firstLabel us) :=
  List.findSome?_append

theorem lookup_withLabel (c : Collector) (id id' : String) (text : Option String) :
    (c.withLabel id text).labels.lookup id' =
      (c.labels.lookup id').or (if id = id' then text else none) := by
  unfold withLabel
  cases text with
  | none => simp
  | some text =>
    dsimp only
    by_cases hid : id = id'
    · subst hid
      cases hfound : c.labels.lookup id with
      | some old => simp [hfound]
      | none => simp [hfound, List.lookup_append]
    · have hother : (id' == id) = false := beq_eq_false_iff_ne.mpr fun h => hid h.symm
      rw [if_neg hid]
      split
      · simp
      · simp [List.lookup_append, List.lookup_cons, hother]

theorem labels_keepText (c : Collector) (f : Frame) : (c.keepText f).labels = c.labels := by
  unfold keepText
  split <;> rfl

/-- Closing a label that is tied to an identifier keeps its text, unless there is one. -/
theorem lookup_close (c : Collector) (f : Frame) {id : String} (hid : id ≠ "") :
    (c.close f).labels.lookup id =
      (c.labels.lookup id).or
        (if f.role = .label ∧ f.labelFor = some id then labelText f.text else none) := by
  rw [← labels_keepText c f]
  unfold close
  cases hrole : f.role
  case label =>
    simp only [true_and]
    unfold keepLabel
    cases hfor : Text.nonEmpty f.labelFor with
    | none =>
      have hnot : f.labelFor ≠ some id := fun h => by
        rw [Text.nonEmpty_eq_some.mpr ⟨h, hid⟩] at hfor
        cases hfor
      simp [hnot]
    | some id' =>
      obtain ⟨hfor, -⟩ := Text.nonEmpty_eq_some.mp hfor
      dsimp only
      rw [lookup_withLabel, hfor]
      simp only [Option.some.injEq]
      rfl
  case option =>
    have hlabels : ((c.keepText f).keepOption f).labels = (c.keepText f).labels :=
      eq_keepOption (fun _ _ => rfl) (fun _ _ => rfl) _ f
    rw [hlabels]
    simp
  all_goals simp

end Collector

namespace Markup

open Collector

/-- What the frame of a tag is closed with as a label of an identifier. -/
theorem tied_frame {d : Dialect} {name : String} {attrs : List (String × String)}
    (full heard id : String) (c : Collector) :
    (if ((c.frameOf d name attrs).hear full heard).role = .label ∧
        ((c.frameOf d name attrs).hear full heard).labelFor = some id then
      labelText ((c.frameOf d name attrs).hear full heard).text else none) =
      firstLabel (if ownRole d name attrs = .label ∧ literal? attrs [] d.labelFor = some id then
        [heard] else []) := by
  by_cases hrole : ownRole d name attrs = .label
  · have hframe : (c.frameOf d name attrs).hear full heard =
        { c.frameOf d name attrs with text := heard } := by
      unfold Frame.hear
      rw [show (c.frameOf d name attrs).role = .label from hrole]
      simp [frameOf, hrole]
    rw [hframe]
    show (if ownRole d name attrs = .label ∧
      (if ownRole d name attrs = .label then literal? attrs [] d.labelFor else none) = some id then
      labelText heard else none) = _
    rw [if_pos hrole]
    split
    · simp [firstLabel]
    · rfl
  · have hframe : ((c.frameOf d name attrs).hear full heard).role ≠ .label := by
      rw [Frame.hear_role]
      exact hrole
    rw [if_neg fun h => hframe h.1, if_neg fun h => hrole h.1]
    rfl

/-- **The labels of trees are kept for the identifiers that they are tied to.** -/
theorem tied_effect (d : Dialect) (edit : String → String) {id : String} (hid : id ≠ "")
    (ns : List Node) (c : Collector) :
    (Node.effectAll d edit ns c).labels.lookup id =
      (c.labels.lookup id).or (firstLabel (Node.tiedAll d edit c.quiet id ns)) := by
  induction ns, c using effect_induction d edit with
  | nil c => simp [Node.effectAll, Node.tiedAll, firstLabel]
  | text s rest c hrest =>
    rw [(Heard.addText c (edit s)).quiet] at hrest
    rw [Node.tiedAll, Node.tied, List.nil_append]
    exact hrest
  | skipped name attrs children rest c hskip hrest =>
    rw [Node.tiedAll, Node.tied, if_pos hskip, Node.effectAll, effect_skipped hskip]
    exact hrest
  | passed name attrs children rest c hskip hrole hchildren hrest =>
    rw [quiet_taken, labels_taken] at hchildren
    rw [quiet_effect, effect_passed hskip hrole, hchildren] at hrest
    rw [Node.tiedAll, Node.tied, if_neg hskip, hrole, Node.effectAll, effect_passed hskip hrole]
    show _ = (c.labels.lookup id).or
      (firstLabel ((Node.tiedAll d edit (c.quiet || false) id children ++ []) ++ _))
    rw [Bool.or_false, List.append_nil, firstLabel_append, ← Option.or_assoc]
    exact hrest
  | framed name attrs children rest c hskip hrole hchildren hrest =>
    obtain ⟨stack, heffect, -⟩ := close_framed edit children hskip hrole c
    have htag := lookup_close
      { Node.effectAll d edit children (c.opened d name (attrs.map attributeOf)) with stack }
      ((c.frameOf d name (attrs.map attributeOf)).hear (fullText d edit children)
        (heardText d edit (c.opened d name (attrs.map attributeOf)).quiet children)) hid
    rw [← heffect, tied_frame] at htag
    dsimp only at htag
    rw [hchildren, labels_opened, quiet_opened, ownRole_of_framed hrole] at htag
    rw [quiet_effect, htag] at hrest
    rw [Node.tiedAll, Node.tied, if_neg hskip, Node.effectAll, firstLabel_append, firstLabel_append,
      ← Option.or_assoc, ← Option.or_assoc]
    exact hrest

/-! ## 4. Hints -/

end Markup

/-- The hints at a label, with the texts that their numbers stand for. -/
structure HintTexts where
  explicit : Option String
  wrapping : Option String
  inner : Option String
  fallback : Option String

/-- The texts that hints stand for. -/
def LabelHints.texts (K : Nat → Option String) (h : LabelHints) : HintTexts :=
  ⟨h.explicit, h.wrapping.bind K, h.inner.bind K, h.fallback⟩

namespace Markup

open Collector

namespace Sight

/-- The hints that a tag gives. -/
def hintTexts (s : Sight) : HintTexts :=
  ⟨firstLabel s.ownTexts, s.around, s.inside, (shape s.native s.attributes []).2.2⟩

/-- What the element of the tag shows of it. -/
def head (s : Sight) : ElementTag × Option String × List (String × String) :=
  (s.tag, s.attributes.lookup "id", s.attributes)

end Sight

/-- Tags have been collected; the numbers stand for the texts that they are read as. -/
structure Sighted (K : Nat → Option String) (ss : List Sight) (before after : Collector) :
    Prop where
  hints : after.hints.map (·.texts K) = before.hints.map (·.texts K) ++ ss.map (·.hintTexts)
  heads : after.collected.elements.map Collector.head =
    before.collected.elements.map Collector.head ++ ss.map (·.head)

theorem Sighted.trans {K : Nat → Option String} {ss ts : List Sight} {a b c : Collector}
    (hab : Sighted K ss a b) (hbc : Sighted K ts b c) : Sighted K (ss ++ ts) a c where
  hints := by rw [hbc.hints, hab.hints, List.map_append, List.append_assoc]
  heads := by rw [hbc.heads, hab.heads, List.map_append, List.append_assoc]

section Opening

variable {K : Nat → Option String} {d : Dialect} {name : String} {attrs : List (String × String)}
  {around : Option String}

theorem openLabel_hear (full heard : String) (stack : List Frame) :
    openLabel (stack.map (·.hear full heard)) = openLabel stack := by
  induction stack with
  | nil => rfl
  | cons f rest ih =>
    have hserial : (f.hear full heard).serial = f.serial := by
      unfold Frame.hear
      split <;> rfl
    unfold openLabel at ih ⊢
    rw [List.map_cons, List.find?_cons, List.find?_cons, Frame.hear_role]
    split
    · rw [Option.map_some, Option.map_some, hserial]
    · exact ih

/-- A literal attribute of one name is looked up. -/
theorem literal?_single (attrs : List (String × String)) (n : String) :
    literal? attrs [] [n] = attrs.lookup n := by
  unfold literal?
  simp only [List.findSome?_cons, List.findSome?_nil, List.contains_nil, Bool.false_eq_true,
    if_false]
  cases attrs.lookup n <;> rfl

theorem ownTexts_eq (s : Sight) : s.ownTexts = explicitTexts s.attributes [] := by
  unfold Sight.ownTexts explicitTexts
  simp only [literal?_single]
  rfl

/-- What a tag's element adds. -/
theorem sighted_added {c c' : Collector} {native : Vocabulary.Native} {inner : Option Nat}
    {s : Sight} (hs : s.native = native) (hattrs : s.attributes = attrs)
    (haround : (openLabel c.stack).bind K = s.around) (hinside : inner.bind K = s.inside)
    (helements : c'.collected.elements = (c.addElement native attrs []).1.collected.elements)
    (hhints : c'.hints = c.hints ++
      [⟨firstLabel (explicitTexts attrs []), openLabel c.stack, inner,
        (shape native attrs []).2.2⟩]) :
    Sighted K [s] c c' := by
  subst hs hattrs
  refine ⟨?_, ?_⟩
  · rw [hhints, List.map_append, List.map_singleton, List.map_singleton, LabelHints.texts,
      haround, hinside, ← ownTexts_eq]
    rfl
  · rw [helements]
    simp only [addElement, List.map_append, List.map_singleton, Collector.head, literal?_single]
    rfl

/-- A tag's element is added. -/
theorem sighted_taken (edit : String → String) (children : List Node) {c : Collector}
    (haround : (openLabel c.stack).bind K = around) (hrole : frameRole d name attrs ≠ .button) :
    Sighted K (sightOf d edit around name attrs children).toList c (c.taken d name attrs) := by
  unfold taken sightOf
  cases d.native name with
  | none => exact ⟨(List.append_nil _).symm, (List.append_nil _).symm⟩
  | some native =>
    exact sighted_added rfl rfl haround (if_neg hrole).symm rfl rfl

/-- A tag's element is added, and its frame is put on the stack. -/
theorem sighted_opened (edit : String → String) (children : List Node) {c : Collector}
    (haround : (openLabel c.stack).bind K = around)
    (hrole : frameRole d name attrs ≠ .other)
    (hinside : frameRole d name attrs = .button →
      K c.nextSerial = some (fullText d edit children)) :
    Sighted K (sightOf d edit around name attrs children).toList c (c.opened d name attrs) := by
  have hown := ownRole_of_framed hrole
  by_cases hbutton : frameRole d name attrs = .button
  · rw [hbutton] at hown
    obtain ⟨native, hnative⟩ := native_of_ownRole (.inl hown)
    have hinner : (some c.nextSerial).bind K =
        if frameRole d name attrs = .button then some (fullText d edit children) else none := by
      rw [if_pos hbutton]
      exact hinside hbutton
    unfold sightOf
    rw [hnative]
    refine sighted_added rfl rfl haround hinner ?_ ?_
    · unfold opened taken
      rw [hnative]
      rfl
    · show (if ownRole d name attrs = .button then
          withInner c.nextSerial (c.taken d name attrs).hints
        else (c.taken d name attrs).hints) = _
      rw [if_pos hown]
      unfold taken withInner
      rw [hnative]
      simp [addElement, addBindings, failing, List.modify_eq_take_drop]
  · obtain ⟨hhints, hheads⟩ := sighted_taken edit children haround hbutton
    refine ⟨?_, hheads⟩
    rw [← hhints]
    show (if ownRole d name attrs = .button then withInner c.nextSerial (c.taken d name attrs).hints
        else (c.taken d name attrs).hints).map _ = _
    rw [if_neg (by rw [hown]; exact hbutton)]

end Opening

/-- A frame is closed. -/
theorem Sighted.close {K : Nat → Option String} {ss : List Sight} {c r : Collector}
    (h : Sighted K ss c r) (stack : List Frame) (f : Frame) :
    Sighted K ss c (Collector.close { r with stack } f) := by
  have hshown := shown_close { r with stack } f
  refine ⟨?_, ?_⟩
  · rw [show (Collector.close { r with stack } f).hints = r.hints from congrArg Shown.hints hshown]
    exact h.hints
  · rw [show (Collector.close { r with stack } f).collected.elements.map Collector.head = _ from
      congrArg Shown.heads hshown]
    exact h.heads

section Trees

variable {d : Dialect} {edit : String → String} {K : Nat → Option String}

/-- The trees after a tree go on where it has ended. -/
theorem sighted_cons {n : Node} {rest : List Node} {c : Collector}
    (hn : Reads K c.nextSerial ((n.kept d edit c.quiet).map some) →
      Sighted K (n.sights d edit c.quiet ((openLabel c.stack).bind K)) c (n.effect d edit c))
    (hrest : Reads K (n.effect d edit c).nextSerial
        ((Node.keptAll d edit (n.effect d edit c).quiet rest).map some) →
      Sighted K (Node.sightsAll d edit (n.effect d edit c).quiet
          ((openLabel (n.effect d edit c).stack).bind K) rest)
        (n.effect d edit c) (Node.effectAll d edit rest (n.effect d edit c)))
    (hreads : Reads K c.nextSerial ((Node.keptAll d edit c.quiet (n :: rest)).map some)) :
    Sighted K (Node.sightsAll d edit c.quiet ((openLabel c.stack).bind K) (n :: rest)) c
      (Node.effectAll d edit (n :: rest) c) := by
  have hserial := (kept_effect d edit [n] c).serial
  have hstack := (heard_effect d edit [n] c).stack
  simp only [Node.effectAll, Node.keptAll, List.append_nil] at hserial hstack
  rw [Node.keptAll, List.map_append] at hreads
  -- after the tree the same label is open, and the numbers go on after those that it has taken
  rw [quiet_effect, hstack, openLabel_hear, hserial] at hrest
  have hlater := hreads.right
  rw [List.length_map] at hlater
  rw [Node.sightsAll, Node.effectAll]
  exact (hn hreads.left).trans (hrest hlater)

end Trees

section Frames

variable {d : Dialect} {name : String} {attrs : List (String × String)} {K : Nat → Option String}
  {full heard : String} {ks : List String} {c : Collector}

/-- The number of a frame stands for what it keeps, and the numbers in it follow. -/
theorem reads_opened
    (h : Reads K c.nextSerial ((keptOf (ownRole d name attrs) full heard ++ ks).map some)) :
    (ownRole d name attrs = .label → K c.nextSerial = some heard) ∧
    (ownRole d name attrs = .button → K c.nextSerial = some full) ∧
    Reads K (c.opened d name attrs).nextSerial (ks.map some) := by
  rw [nextSerial_opened]
  unfold keptOf at h
  cases hrole : ownRole d name attrs
  case label =>
    rw [hrole] at h
    exact ⟨fun _ => h.head, nofun, h.tail⟩
  case button =>
    rw [hrole] at h
    exact ⟨nofun, fun _ => h.head, h.tail⟩
  all_goals
    rw [hrole] at h
    exact ⟨nofun, nofun, h⟩

/-- The innermost label around what is in a tag. -/
theorem openLabel_opened (hlabel : ownRole d name attrs = .label → K c.nextSerial = some heard) :
    (openLabel (c.opened d name attrs).stack).bind K =
      if ownRole d name attrs = .label then some heard else (openLabel c.stack).bind K := by
  rw [stack_opened]
  unfold openLabel
  rw [List.find?_cons]
  by_cases hrole : ownRole d name attrs = .label
  · rw [show decide ((c.frameOf d name attrs).role = .label) = true from decide_eq_true hrole,
      if_pos hrole]
    exact hlabel hrole
  · rw [show decide ((c.frameOf d name attrs).role = .label) = false from decide_eq_false hrole,
      if_neg hrole]

end Frames

/-- **What a collection adds for trees is what is seen of them.** -/
theorem sighted_effect (d : Dialect) (edit : String → String) (K : Nat → Option String)
    (ns : List Node) (c : Collector) :
    Reads K c.nextSerial ((Node.keptAll d edit c.quiet ns).map some) →
      Sighted K (Node.sightsAll d edit c.quiet ((openLabel c.stack).bind K) ns) c
        (Node.effectAll d edit ns c) := by
  induction ns, c using effect_induction d edit with
  | nil c => exact fun _ => ⟨(List.append_nil _).symm, (List.append_nil _).symm⟩
  | text s rest c hrest =>
    intro hreads
    have hs := Heard.addText c (edit s)
    rw [hs.quiet, hs.stack, openLabel_hear] at hrest
    rw [Node.sightsAll, Node.sights, List.nil_append]
    rw [Node.keptAll, Node.kept, List.nil_append] at hreads
    obtain ⟨hhints, hheads⟩ := hrest hreads
    exact ⟨hhints, hheads⟩
  | skipped name attrs children rest c hskip hrest =>
    intro hreads
    rw [Node.keptAll, Node.kept, if_pos hskip] at hreads
    rw [Node.sightsAll, Node.sights, if_pos hskip, Node.effectAll, effect_skipped hskip]
    exact hrest hreads
  | passed name attrs children rest c hskip hrole hchildren hrest =>
    refine sighted_cons (fun hreads => ?_) hrest
    rw [quiet_taken, nextSerial_taken, stack_taken] at hchildren
    rw [Node.kept, if_neg hskip, hrole] at hreads
    rw [Node.sights, if_neg hskip, hrole, effect_passed hskip hrole]
    have hopen := sighted_taken (K := K) edit children (c := c) rfl (by rw [hrole]; decide)
    have hquiet : (c.quiet || FrameRole.mutes .other) = c.quiet := Bool.or_false _
    rw [hquiet] at hreads ⊢
    exact hopen.trans (hchildren hreads)
  | framed name attrs children rest c hskip hrole hchildren hrest =>
    refine sighted_cons (fun hreads => ?_) hrest
    have hown := ownRole_of_framed hrole
    obtain ⟨stack, heffect, -⟩ := close_framed edit children hskip hrole c
    rw [Node.kept, if_neg hskip, ← hown] at hreads
    obtain ⟨hlabel, hbutton, hinner⟩ := reads_opened hreads
    rw [quiet_opened, openLabel_opened hlabel] at hchildren
    rw [Node.sights, if_neg hskip, heffect, ← hown]
    refine Sighted.close ?_ stack _
    rw [hown] at hbutton
    exact (sighted_opened edit children rfl hrole hbutton).trans (hchildren hinner)

/-! ## 5. Whole collections -/

/-- Two lists that show the same of a third one are joined as it says. -/
theorem zipWith_eq_map {α β γ δ ε ζ : Type} {f : α → δ} {g : β → ε} {f' : γ → δ} {g' : γ → ε}
    {F : α → β → ζ} {G : γ → ζ} (hF : ∀ a b c, f a = f' c → g b = g' c → F a b = G c)
    {as : List α} {bs : List β} {cs : List γ} (has : as.map f = cs.map f')
    (hbs : bs.map g = cs.map g') : List.zipWith F as bs = cs.map G := by
  induction cs generalizing as bs with
  | nil =>
    rw [List.map_eq_nil_iff.mp has]
    rfl
  | cons c cs ih =>
    obtain ⟨a, as, rfl, ha, has⟩ := List.map_eq_cons_iff.mp has
    obtain ⟨b, bs, rfl, hb, hbs⟩ := List.map_eq_cons_iff.mp hbs
    rw [List.zipWith_cons_cons, hF a b c ha hb, ih has hbs, List.map_cons]

/-- The text of a button without content is an input's value. -/
theorem fallback_of_button (s : Sight) (h : s.tag = .button) :
    (shape s.native s.attributes []).2.2 = s.value := by
  unfold Sight.tag at h
  unfold Sight.value
  rw [← literal?_single]
  simp only [shape, apply_ite Prod.fst, apply_ite Prod.snd, ite_self] at h ⊢
  generalize (nonEmpty (literal? s.attributes [] ["type"]) <|> s.native.2).map toLower = given
    at h ⊢
  cases given with
  | none =>
    have hnative : s.native.1 = .button := h
    rw [hnative]
    rfl
  | some t =>
    dsimp only at h ⊢
    split at h
    · next hturned =>
      have hinput := of_decide_eq_true (Bool.and_eq_true_iff.mp hturned).1
      rw [if_pos hturned, if_pos hinput]
    · next hturned => rw [if_neg hturned, if_neg (by rw [h]; decide)]

/-- **A label is settled as the texts of its tag say.** -/
theorem settle_eq {r : Collector} {tied : String → List String} {s : Sight} {e : Element}
    {h : LabelHints} (htied : ∀ id, id ≠ "" → r.labels.lookup id = firstLabel (tied id))
    (hhead : Collector.head e = s.head) (htexts : h.texts r.textOf = s.hintTexts) :
    r.settle e h = firstLabel (s.texts tied) := by
  obtain ⟨htag, hrest⟩ := Prod.mk.inj hhead
  have hid : e.id = s.attributes.lookup "id" := (Prod.mk.inj hrest).1
  have hexplicit : h.explicit = firstLabel s.ownTexts := congrArg HintTexts.explicit htexts
  have hwrapping : h.wrapping.bind r.textOf = s.around := congrArg HintTexts.wrapping htexts
  have hinner : h.inner.bind r.textOf = s.inside := congrArg HintTexts.inner htexts
  have hfallback : h.fallback = (shape s.native s.attributes []).2.2 :=
    congrArg HintTexts.fallback htexts
  have hknown : r.knownLabel e h = firstLabel (s.ownTexts ++ s.tiedTexts tied) := by
    rw [firstLabel_append]
    unfold knownLabel Sight.tiedTexts
    rw [hexplicit, hid, Option.orElse_eq_orElse, Option.orElse_eq_or]
    congr 1
    cases s.attributes.lookup "id" with
    | none => rfl
    | some id =>
      by_cases hempty : id = ""
      · subst hempty
        rfl
      · rw [Text.nonEmpty_eq_some.mpr ⟨rfl, hempty⟩, Option.bind_some, htied id hempty]
        dsimp only
        rw [if_neg hempty]
  have hsettled : r.textsFor e h =
      s.around.toList ++ if s.tag = .button then s.inside.toList ++ s.value.toList else [] := by
    unfold textsFor
    rw [hwrapping, hinner, hfallback, htag]
    split
    · next hbutton => rw [fallback_of_button s hbutton]
    · rfl
  unfold settle Sight.texts
  rw [hknown, hsettled, List.append_assoc _ s.around.toList, firstLabel_append _ (_ ++ _),
    Option.orElse_eq_orElse, Option.orElse_eq_or]

/-- **The label of an element is the first one among the texts of its tag.**  Elements are collected
    in the order of their tags. -/
theorem labels_of_collect {d : Dialect} {edit : String → String} {ns : List Node} {c : Collected}
    (h : Collector.collect d (Node.eventsAll edit ns) = .ok c) :
    c.elements.map (fun e => (e.tag, e.attributes, e.label)) =
      (Node.sightsAll d edit false none ns).map fun s =>
        (s.tag, s.attributes, firstLabel (s.texts fun id => Node.tiedAll d edit false id ns)) := by
  have hsighted := sighted_effect d edit (Node.effectAll d edit ns {}).textOf ns {}
    (kept_effect d edit ns {}).new
  have htied : ∀ id, id ≠ "" → (Node.effectAll d edit ns {}).labels.lookup id =
      firstLabel (Node.tiedAll d edit false id ns) := fun id hid => tied_effect d edit hid ns {}
  rw [eq_settled h]
  unfold settled
  rw [List.map_zipWith]
  refine zipWith_eq_map (fun e h s hhead htexts => ?_) hsighted.heads hsighted.hints
  dsimp only
  rw [settle_eq htied hhead htexts]
  obtain ⟨htag, hattrs⟩ := Prod.mk.inj hhead
  rw [htag, (Prod.mk.inj hattrs).2]

/-- A placeholder, a label around a field and a selection, a label after its field, and two
    buttons. -/
def labelledTrees : List Node :=
  [.tag "label" [] [.text "City:", .tag "input" [("placeholder", "Town")] [],
     .tag "select" [] [.tag "option" [] [.text "Any"]]],
   .tag "input" [("id", "q")] [],
   .tag "label" [("for", "q")] [.text " ", .tag "b" [] [.text "Find"]],
   .tag "button" [] [.tag "script" [] [.text "go()"], .text "Go"],
   .tag "input" [("type", "submit"), ("value", "Send")] []]

/-- Each kind of text labels one of the elements. -/
theorem labels_of_labelledTrees : ∃ c,
    Collector.collect .markup (Node.eventsAll id labelledTrees) = .ok c ∧
    c.elements.map (·.label) =
      [some "Town", some "City", some "Find", some "Go", some "Send"] := by
  have hsome : (Collector.collect .markup (Node.eventsAll id labelledTrees)).toOption.isSome := by
    decide +kernel
  obtain ⟨c, hc⟩ := Option.isSome_iff_exists.mp hsome
  have hc := toOption_eq_some_iff.mp hc
  have hlabels := congrArg (List.map (·.2.2)) (labels_of_collect hc)
  rw [List.map_map, List.map_map] at hlabels
  exact ⟨c, hc, hlabels.trans (by decide +kernel)⟩

end Markup

end Affordance
