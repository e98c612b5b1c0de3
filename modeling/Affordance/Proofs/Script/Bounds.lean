import Affordance.Proofs.Script.Brackets
import Affordance.Proofs.Script.ElementEnd
import Affordance.Proofs.Script.Halting
import Affordance.Proofs.Script.ReadBack
import Affordance.Proofs.Surface.Labels

/-!
# Scans end inside the text

  * `Trail.Reads`: what is added to a trail refuses nothing, if the text holds no overlong
    reference.
  * `Kept`: what the answers of all calls have in common: positions inside the text, and trails
    that refuse nothing without need. Each routine keeps it (`keeps_skip` and its like), hence
    every answer has it (`kept_value`).
  * **`scans_end`**: the scanner and the reader end wherever they begin, inside the text and not
    before their beginning (`ScansEnd`).
  * `collect_referenceText`: a text with a reference that is too long is refused, of however many
    digits it is.
-/

namespace Affordance.Script

open Affordance.Text

variable {src : Source} {closers : List Char} {depth i j start : Nat} {c : Char}

/-! ## 1. What is read without a refusal -/

namespace Trail

variable {t t' t'' : Trail}

/-- What was added to a trail refuses nothing, if no reference of the text is too long. -/
def Reads (src : Source) (t t' : Trail) : Prop :=
  longReference? src.toList = none → Legible t.events → Legible t'.events

theorem Reads.refl (t : Trail) : t.Reads src t := fun _ h => h

theorem Reads.trans (h : t.Reads src t') (g : t'.Reads src t'') : t.Reads src t'' :=
  fun hsrc ht => g hsrc (h hsrc ht)

theorem reads_add {e : TagEvent} (he : ∀ n, e ≠ .unreadable n) : t.Reads src (t.add e) := by
  intro _ ht n hn
  rcases List.mem_cons.mp hn with rfl | hn
  · exact he n rfl
  · exact ht n hn

/-- A piece of a text without overlong references holds none. -/
theorem longReference?_slice (h : longReference? src.toList = none) (a b : Nat) :
    longReference? (src.slice a b) = none := by
  obtain ⟨front, back, hcut⟩ : src.slice a b <:+: src.toList := by
    rw [Source.slice_eq]
    exact (List.drop_suffix a _).isInfix.trans (List.take_prefix b _).isInfix
  rw [← hcut] at h
  exact longReference?_right front (longReference?_left h)

theorem reads_addMeant (a b : Nat) : t.Reads src (t.addMeant (src.slice a b)) := by
  intro hsrc ht
  unfold addMeant
  rw [longReference?_slice hsrc a b]
  exact reads_add (fun _ => TagEvent.noConfusion) hsrc ht

theorem reads_checkMeant (a b : Nat) : t.Reads src (t.checkMeant (src.slice a b)) := by
  intro hsrc ht
  unfold checkMeant
  rw [longReference?_slice hsrc a b]
  exact ht

theorem reads_addLiteral (expr : List Char) : t.Reads src (t.addLiteral expr) := by
  unfold addLiteral
  cases literal expr with
  | none => exact .refl t
  | some v => exact reads_add fun _ => TagEvent.noConfusion

theorem reads_addTag (o : OpenTag) (selfClosing : Bool) : t.Reads src (t.addTag o selfClosing) := by
  intro _ ht n hn
  rcases List.mem_cons.mp hn with hn | hn
  · cases hn
  · exact ht n hn

end Trail

/-- A text in quotes inside a tag is a piece of the text. -/
theorem slice_of_quoted {name : String} {v : List Char} {k : Nat}
    (h : tagPart src j = .quoted name v k) : ∃ a b, v = src.slice a b := by
  unfold tagPart valuePart at h
  dsimp only at h
  repeat' split at h
  all_goals cases h
  exact ⟨_, _, rfl⟩

/-! ## 2. What all answers have in common -/

/-- The answer lies inside the text, or at the beginning of an element that is none, and what was
    read refuses nothing without need. -/
def Kept (src : Source) : (c : Call) → Answer c → Prop
  | .skip _ _ _, k | .string _ _, k | .regex _ _, k | .template _, k => k ≤ src.size
  | .element start _ _, k => k ≤ max start src.size
  | .openTag _, tag | .tagRest _, tag => ∀ e ∈ tag, e.1 ≤ src.size
  | .walk _ _ _ t, r | .children _ _ t, r => r.1 ≤ src.size ∧ t.Reads src r.2
  | .read i t, r => r.1 ≤ max i src.size ∧ t.Reads src r.2
  | .attributes start _ _ t, r => r.1 ≤ max start src.size ∧ t.Reads src r.2
  | .rest _ t, t' => t.Reads src t'

/-- The routine keeps the answers of a call inside the text. -/
abbrev KeepsBounds (src : Source) (c : Call) (p : Routine Answer (Answer c)) : Prop :=
  p.Keeps (Kept src) (Kept src c)

theorem keeps_string (quote : Char) (j : Nat) :
    KeepsBounds src (.string quote j) (stringRoutine src quote j) := by
  unfold stringRoutine
  cases hc : src[j]? with
  | none => exact Nat.le_refl _
  | some c =>
    dsimp only
    repeat' split
    all_goals first
      | exact lt_size hc
      | exact fun _ hk => hk

theorem keeps_regex (inClass : Bool) (j : Nat) :
    KeepsBounds src (.regex inClass j) (regexRoutine src inClass j) := by
  unfold regexRoutine
  cases hc : src[j]? with
  | none => exact Nat.le_refl _
  | some c =>
    dsimp only
    repeat' split
    all_goals first
      | exact Nat.le_of_lt (lt_size hc)
      | exact src.passWhile_le isLetter (lt_size hc)
      | exact fun _ hk => hk

theorem keeps_pass {α : Type} {next : Nat → Routine Answer α} {q : α → Prop}
    (hnext : ∀ k, (next k).Keeps (Kept src) q) :
    (passRoutine src i c j next).Keeps (Kept src) q := by
  unfold passRoutine
  repeat' split
  all_goals first
    | exact hnext j
    | exact fun k _ => hnext k

theorem keeps_skip (closers : List Char) (depth i : Nat) :
    KeepsBounds src (.skip closers depth i) (skipRoutine src closers depth i) := by
  unfold skipRoutine
  cases hc : src[i]? with
  | none => exact Nat.le_refl _
  | some c =>
    dsimp only
    cases move src closers depth i c with
    | stop => exact Nat.le_of_lt (lt_size hc)
    | jump j => exact keeps_pass fun _ _ hk => hk
    | template => exact fun _ _ _ hk => hk
    | opens => exact fun _ hk => hk
    | closes => exact fun _ hk => hk
    | tag => exact fun _ _ _ hk => hk
    | plain => exact fun _ hk => hk

theorem keeps_template (j : Nat) : KeepsBounds src (.template j) (templateRoutine src j) := by
  unfold templateRoutine
  cases hc : src[j]? with
  | none => exact Nat.le_refl _
  | some c =>
    dsimp only
    repeat' split
    all_goals first
      | exact lt_size hc
      | exact fun _ hk => hk
      | exact fun _ _ _ hk => hk

theorem keeps_element (start depth j : Nat) :
    KeepsBounds src (.element start depth j) (elementRoutine src start depth j) := by
  have hinside : ∀ {k}, k ≤ src.size → k ≤ max start src.size := fun h =>
    Nat.le_trans h (Nat.le_max_right _ _)
  unfold elementRoutine
  cases hc : src[j]? with
  | none => exact hinside (Nat.le_refl _)
  | some c =>
    have hj := lt_size hc
    dsimp only
    split
    · split
      · cases hf : src.findChar '>' j with
        | none => exact hinside (Nat.le_refl _)
        | some k =>
          have hk : k < src.size := (Source.findChar_some hf).2.1
          dsimp only
          split
          · exact hinside hk
          · exact fun _ hk => hk
      · intro tag htag
        rcases tag with _ | ⟨k, selfClosing⟩
        · dsimp only
          split
          · exact Nat.le_max_left _ _
          · exact fun _ hk => hk
        · have hk : k ≤ src.size := htag _ rfl
          cases selfClosing with
          | false => exact fun _ hk => hk
          | true =>
            dsimp only
            split
            · exact hinside hk
            · exact fun _ hk => hk
    · split
      · exact fun _ _ _ hk => hk
      · split
        · exact hinside (Nat.le_of_lt hj)
        · exact fun _ hk => hk

theorem keeps_openTag (i : Nat) : KeepsBounds src (.openTag i) (openTagRoutine src i) := by
  unfold openTagRoutine
  split
  · rename_i hat
    simp only [Source.at_cons, Bool.and_eq_true, beq_iff_eq] at hat
    intro e he
    obtain rfl := Option.mem_some_iff.mp he
    exact lt_size hat.2.1
  · cases tagNameEnd src (i + 1) with
    | none => exact fun e he => nomatch he
    | some j => exact fun _ htag => htag

theorem keeps_tagRest (j : Nat) : KeepsBounds src (.tagRest j) (tagRestRoutine src j) := by
  unfold tagRestRoutine
  cases hc : src[j]? with
  | none => exact fun e he => nomatch he
  | some c =>
    dsimp only
    split
    · exact fun _ _ _ htag => htag
    · split
      · exact fun _ _ _ htag => htag
      · split
        · rename_i hat
          simp only [Source.at_cons, Bool.and_eq_true, beq_iff_eq] at hat
          intro e he
          obtain rfl := Option.mem_some_iff.mp he
          exact lt_size hat.2.1
        · split
          · intro e he
            obtain rfl := Option.mem_some_iff.mp he
            exact lt_size hc
          · split
            · exact fun e he => nomatch he
            · exact fun _ htag => htag

theorem keeps_walk (closers : List Char) (depth i : Nat) (t : Trail) :
    KeepsBounds src (.walk closers depth i t) (walkRoutine src closers depth i t) := by
  unfold walkRoutine
  cases hc : src[i]? with
  | none => exact ⟨Nat.le_refl _, .refl t⟩
  | some c =>
    dsimp only
    cases move src closers depth i c with
    | stop => exact ⟨Nat.le_of_lt (lt_size hc), .refl t⟩
    | jump j => exact keeps_pass fun _ _ hr => hr
    | template => exact fun _ _ _ hr => hr
    | opens => exact fun _ hr => hr
    | closes => exact fun _ hr => hr
    | tag => exact fun _ helement _ hr => ⟨hr.1, helement.2.trans hr.2⟩
    | plain => exact fun _ hr => hr

theorem keeps_read (i : Nat) (t : Trail) : KeepsBounds src (.read i t) (readRoutine src i t) := by
  unfold readRoutine
  split
  · exact fun _ hr => ⟨Nat.le_trans hr.1 (Nat.le_max_right _ _), hr.2⟩
  · cases tagNameEnd src (i + 1) with
    | none => exact ⟨Nat.le_max_left _ _, .refl t⟩
    | some j => exact fun _ hr => hr

theorem keeps_attributes (start : Nat) (o : OpenTag) (j : Nat) (t : Trail) :
    KeepsBounds src (.attributes start o j t) (attributesRoutine src start o j t) := by
  unfold attributesRoutine
  have hnext : ∀ {k}, (tagPart src j).next? = some k → j < k ∧ k ≤ src.size := lt_tagPart
  cases hp : tagPart src j with
  | broken => exact ⟨Nat.le_max_left _ _, .refl t⟩
  | selfClosing k =>
    have hk := hnext (by rw [hp]; rfl : _ = some k)
    exact ⟨Nat.le_trans hk.2 (Nat.le_max_right _ _), Trail.reads_addTag o true⟩
  | ending k =>
    exact fun _ hr => ⟨Nat.le_trans hr.1 (Nat.le_max_right _ _),
      (Trail.reads_addTag o false).trans hr.2⟩
  | spread k => exact fun _ hwalk _ hr => ⟨hr.1, hwalk.2.trans hr.2⟩
  | quoted name v k =>
    obtain ⟨a, b, rfl⟩ := slice_of_quoted hp
    exact fun _ hr => ⟨hr.1, (Trail.reads_checkMeant a b).trans hr.2⟩
  | expression name k => exact fun _ hwalk _ hr => ⟨hr.1, hwalk.2.trans hr.2⟩
  | flag name k => exact fun _ hr => hr

theorem keeps_children (tag : String) (j : Nat) (t : Trail) :
    KeepsBounds src (.children tag j t) (childrenRoutine src tag j t) := by
  have hclose : t.Reads src (t.add (.close tag)) := Trail.reads_add fun _ => TagEvent.noConfusion
  unfold childrenRoutine
  cases hc : src[j]? with
  | none => exact ⟨Nat.le_refl _, hclose⟩
  | some c =>
    dsimp only
    split
    · split
      · refine ⟨?_, hclose⟩
        cases hf : src.findChar '>' j with
        | none => exact Nat.le_refl _
        | some k =>
          have hk : k < src.size := (Source.findChar_some hf).2.1
          exact hk
      · intro r helement
        dsimp only
        split
        · have hangle : r.2.Reads src (r.2.add (.text "<")) :=
            Trail.reads_add fun _ => TagEvent.noConfusion
          exact fun _ hr => ⟨hr.1, helement.2.trans (hangle.trans hr.2)⟩
        · exact fun _ hr => ⟨hr.1, helement.2.trans hr.2⟩
    · split
      · exact fun _ hwalk _ hr => ⟨hr.1, hwalk.2.trans ((Trail.reads_addLiteral _).trans hr.2)⟩
      · exact fun _ hr => ⟨hr.1, (Trail.reads_addMeant j _).trans hr.2⟩

theorem keeps_rest (i : Nat) (t : Trail) : KeepsBounds src (.rest i t) (restRoutine src i t) := by
  unfold restRoutine
  split
  · exact fun _ hwalk _ hr => hwalk.2.trans hr
  · exact .refl t

theorem keeps_routine (src : Source) (c : Call) : KeepsBounds src c (routine src c) := by
  cases c with
  | skip closers depth i => exact keeps_skip closers depth i
  | string quote j => exact keeps_string quote j
  | regex inClass j => exact keeps_regex inClass j
  | template j => exact keeps_template j
  | element start depth j => exact keeps_element start depth j
  | openTag i => exact keeps_openTag i
  | tagRest j => exact keeps_tagRest j
  | walk closers depth i t => exact keeps_walk closers depth i t
  | read i t => exact keeps_read i t
  | attributes start o j t => exact keeps_attributes start o j t
  | children tag j t => exact keeps_children tag j t
  | rest i t => exact keeps_rest i t

/-- **Every answer lies inside the text.** -/
theorem kept_value (src : Source) (c : Call) : Kept src c (value src c) :=
  (halts src c).keeps (keeps_routine src) (keeps_routine src c)

/-! ## 3. Scans end -/

/-- What the scanner passes as an element does not end before its beginning. -/
theorem le_elementFrom (src : Source) {start : Nat} (hstart : start ≤ src.size) :
    ∀ {fuel depth j : Nat}, start ≤ j → start ≤ elementFrom src start fuel depth j
  | 0, _, _, _ => hstart
  | fuel + 1, depth, j, hj => by
    unfold elementFrom
    cases hc : src[j]? with
    | none => exact hstart
    | some c =>
      have hsize := lt_size hc
      have hnext : start ≤ elementFrom src start fuel depth (j + 1) :=
        le_elementFrom src hstart (by omega)
      dsimp only
      split
      · split
        · cases hf : src.findChar '>' j with
          | none => exact hstart
          | some k =>
            have hk := (Source.findChar_some hf).1
            dsimp only
            split
            · omega
            · exact le_elementFrom src hstart (by omega)
        · rcases ht : openTagFrom src fuel j with _ | ⟨k, _ | _⟩
          · dsimp only
            split
            · exact Nat.le_refl _
            · exact hnext
          · exact le_elementFrom src hstart (Nat.le_trans hj (Nat.le_of_lt (lt_openTagFrom ht)))
          · have hk := lt_openTagFrom ht
            dsimp only
            split
            · omega
            · exact le_elementFrom src hstart (by omega)
      · split
        · have hhole := lt_skipFrom ['\x7d'] fuel 0 hsize
          exact le_elementFrom src hstart (by omega)
        · split
          · exact hj
          · exact hnext

/-- What the scans of a text come to. -/
structure ScansEnd (src : Source) : Prop where
  /-- A search ends at what it looks for, at a closing bracket or at the end of the text. -/
  search : ∀ closers, ∀ i ≤ src.size, Halts src (.skip closers 0 i) (skip src closers i) ∧
    i ≤ skip src closers i ∧ skip src closers i ≤ src.size ∧
    ∀ c, src[skip src closers i]? = some c → c ∈ closers ∨ isCloser c = true
  string : ∀ i < src.size, (∀ q, src[i]? = some q →
      Halts src (.string q (i + 1)) (pastString src i)) ∧
    i < pastString src i ∧ pastString src i ≤ src.size
  template : ∀ i < src.size, Halts src (.template (i + 1)) (pastTemplate src i) ∧
    i < pastTemplate src i ∧ pastTemplate src i ≤ src.size
  regex : ∀ i < src.size, Halts src (.regex false (i + 1)) (pastRegex src i) ∧
    i < pastRegex src i ∧ pastRegex src i ≤ src.size
  /-- What is no element is given back where it begins. -/
  passed : ∀ i < src.size, Halts src (.element i 0 i) (pastElement src i) ∧
    i ≤ pastElement src i ∧ pastElement src i ≤ src.size
  read : ∀ i < src.size, ∀ t, Halts src (.read i t) (element src i t) ∧
    i ≤ (element src i t).1 ∧ (element src i t).1 ≤ src.size
  whole : ∀ t, Halts src (.rest 0 t) (walkAll src (src.size + 1) 0 t)
  /-- Where no reference is too long, reading refuses nothing. -/
  legible : longReference? src.toList = none →
    (∀ i t, Legible t.events → Legible (element src i t).2.events) ∧ Legible (elementEvents src).1
  collected : (∀ e ∈ (elementEvents src).1, e.Literal) →
    Succeeds (Collector.collect .script (elementEvents src).1)

/-- **The scanner and the reader come to an end on every text**, unclosed literals, tags and
    brackets included: inside the text, not before the position they began at, and behind it where
    there is a literal. Only a reference that is too long makes the reader refuse a text. -/
theorem scans_end (src : Source) : ScansEnd src where
  search closers i hi := by
    have hforward : min i src.size ≤ skip src closers i := (le_skipFrom src _).1 closers 0 i
    exact ⟨halts src (.skip closers 0 i), by omega, kept_value src (.skip closers 0 i),
      fun _ => skip_stop⟩
  string i hi := by
    have hc : src[i]? = some src[i] := Array.getElem?_eq_getElem hi
    refine ⟨fun q hq => ?_, lt_pastString hi, ?_⟩
    · rw [pastString_eq hq]
      exact halts src (.string q (i + 1))
    · rw [pastString_eq hc]
      exact kept_value src (.string src[i] (i + 1))
  template i hi := by
    have hforward : min (i + 1) src.size ≤ pastTemplate src i := (le_skipFrom src _).2 (i + 1)
    exact ⟨halts src (.template (i + 1)), by omega, kept_value src (.template (i + 1))⟩
  regex i hi := by
    refine ⟨?_, lt_pastRegex hi, ?_⟩
    · rw [pastRegex_eq]
      exact halts src (.regex false (i + 1))
    · rw [pastRegex_eq]
      exact kept_value src (.regex false (i + 1))
  passed i hi := by
    have hbound : pastElement src i ≤ max i src.size := kept_value src (.element i 0 i)
    exact ⟨halts src (.element i 0 i), le_elementFrom src (Nat.le_of_lt hi) (Nat.le_refl i),
      by omega⟩
  read i hi t := by
    have hforward : min i src.size ≤ (element src i t).1 := (forward src _).element i t
    have hbound : (element src i t).1 ≤ max i src.size := (kept_value src (.read i t)).1
    exact ⟨halts src (.read i t), by omega, by omega⟩
  whole t := halts src (.rest 0 t)
  legible hsrc := by
    refine ⟨fun i t => (kept_value src (.read i t)).2 hsrc, fun n hn => ?_⟩
    have hempty : Legible ({} : Trail).events := fun _ => List.not_mem_nil
    exact kept_value src (.rest 0 {}) hsrc hempty n (List.mem_reverse.mp hn)
  collected := Collector.succeeds_collect .script

/-! ## 4. References that are too long -/

/-- The reference to the character of a number of so many digits. -/
def decimalReference (digits : Nat) : List Char :=
  '&' :: '#' :: (List.replicate digits '1' ++ [';'])

theorem isText_decimalReference (digits : Nat) :
    '<' ∉ decimalReference digits ∧ '\x7b' ∉ decimalReference digits := by
  simp [decimalReference]

/-- A name of one letter goes on with nothing. -/
theorem goesOn_nil : ∀ c ∈ ([] : List Char), isTagNameChar c = true := fun _ hc => nomatch hc

/-- A paragraph with such a reference. -/
def referenceTree (digits : Nat) : Tree :=
  .paired { name := { first := 'p', rest := [], goesOn := goesOn_nil } }
    [.text ⟨decimalReference digits, isText_decimalReference digits⟩] .empty

/-- The text of the paragraph. -/
def referenceText (digits : Nat) : Source := Source.of (String.ofList (referenceTree digits).render)

/-- The reference is too long if its number is. -/
theorem longReference?_digits (digits : Nat) {s : List Char} (hs : '&' ∉ s) :
    longReference? ('&' :: '#' :: (List.replicate digits '1' ++ ';' :: s)) =
      Number.longNumber? digits := by
  have hdigits : (List.replicate digits '1' ++ ';' :: s).takeWhile isDigitAscii =
      List.replicate digits '1' := by
    rw [List.takeWhile_append_of_pos fun c hc => by rw [List.eq_of_mem_replicate hc]; rfl]
    exact List.append_nil _
  have hrest : longReference? (List.replicate digits '1' ++ ';' :: s) = none :=
    longReference?_eq_none (by simp [hs])
  rw [longReference?, hdigits, hrest, List.length_replicate]
  cases Number.longNumber? digits <;> rfl

theorem toList_referenceText (digits : Nat) : (referenceText digits).toList =
    '<' :: 'p' :: '>' :: '&' :: '#' :: (List.replicate digits '1' ++ ';' :: "</p>".toList) := by
  have hrender : (referenceTree digits).render =
      '<' :: 'p' :: '>' :: '&' :: '#' :: (List.replicate digits '1' ++ ';' :: "</p>".toList) := by
    simp [referenceTree, decimalReference, Tree.render, Child.renderAll, Child.render, Head.render,
      Name.chars, renderAttributes, Blank.empty]
  rw [referenceText, Source.of, String.toList_ofList, hrender]

/-- A reference is read if its number is. -/
theorem legible_referenceText {digits : Nat} (h : digits ≤ Number.mostDigits) :
    longReference? (referenceText digits).toList = none := by
  rw [toList_referenceText, longReference?, longReference?, longReference?,
    longReference?_digits digits (by decide), Number.longNumber?_eq_none.mpr h]
  all_goals simp

/-- **A reference that is too long is refused**, and with it the text. -/
theorem collect_referenceText {digits : Nat} (h : Number.mostDigits < digits) :
    Collector.collect .script (elementEvents (referenceText digits)).1 = .error ⟨digits⟩ := by
  have hseen : AllParts Part.Seen (referenceTree digits).parts := by
    intro p hp
    rw [List.mem_singleton.mp hp]
    trivial
  have hopener : (referenceTree digits).opener ≠ '$' := by
    show 'p' ≠ '$'
    decide
  have hlong : Number.longNumber? digits = some ⟨digits⟩ := if_pos h
  have hevents : (referenceTree digits).readEvents =
      [.open_ "p" [] false [] none, .unreadable ⟨digits⟩, .close "p"] := by
    simp [referenceTree, decimalReference, Tree.readEvents, Child.readAll, Child.asRun?, runEvents,
      longReference?_digits, hlong]
    rfl
  rw [referenceText, elementEvents_render _ hopener hseen, hevents]
  rfl

/-- **One digit more than may be read keeps the reader from its end**: a number of 4300 digits is
    read, and one of 4301 is refused, where the scan would have come to its end as well. -/
theorem overlong_reference_refused :
    Legible (elementEvents (referenceText 4300)).1 ∧
    Halts (referenceText 4301) (.rest 0 {})
      (walkAll (referenceText 4301) ((referenceText 4301).size + 1) 0 {}) ∧
    Collector.collect .script (elementEvents (referenceText 4301)).1 = .error ⟨4301⟩ :=
  ⟨((scans_end (referenceText 4300)).legible (legible_referenceText (by decide))).2,
    (scans_end (referenceText 4301)).whole {}, collect_referenceText (by decide)⟩

end Affordance.Script
