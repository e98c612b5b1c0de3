import Affordance.Proofs.Script.TreeReading

/-!
# Where elements end

The scanner passes elements that the reader reads. Both must agree on where one ends.

  * `Part.Scanned`: a string in a tag that the scanner, which takes it for a string literal of
    the script, passes up to its own quote.
  * `inTag_attributes`, `openTag_open`, `openTag_closed`: the tags of a tree.
  * **`scanTree`**: the scanner ends where the text of a tree ends, at every depth; over trees,
    one case for each constructor.
  * `legible_readTree`: a tree without overlong references is read without a refusal.
  * **`element_ends_agree`**: at the beginning of a text the scanner and the reader end at the
    end of the tree.
  * `backslash_hides_quote`: a backslash before the closing quote of an attribute keeps the
    scanner from passing the element.
-/

namespace Affordance.Script

open Affordance.Text
open Affordance.Text.Source (Ahead)

/-! ## 1. Tags -/

/-- A string that the scanner passes up to its own quote, or a tree that it takes for an
    element. -/
def Part.Scanned : Part → Prop
  | .string q => StringBody q.quote q.chars
  | .text _ => True
  | .choice opener => opener ≠ '$'

theorem Part.Scanned.seen : ∀ p : Part, p.Scanned → p.Seen
  | .string _, _ => trivial
  | .text _, _ => trivial
  | .choice _, h => h

/-- The characters that mean something to the scanner inside a tag. -/
def tagSigns : List Char := ['\'', '"', '\x7b', '/', '>', '<']

/-- A character that means nothing to the scanner inside a tag. -/
def isInert (c : Char) : Bool := !tagSigns.contains c

theorem Blank.isInert (gap : Blank) : ∀ c ∈ gap.chars, Script.isInert c = true :=
  fun c hc => free_of_class (gap.isBlank c hc) (by decide)

theorem Name.isInert (n : Name) : ∀ c ∈ n.chars, Script.isInert c = true :=
  fun c hc => free_of_class (n.isTagNameChar_chars c hc) (by decide +kernel)

variable {src : Source}

/-- Inert characters are passed. -/
theorem inTag_inert : ∀ {a s : List Char} {j : Nat}, (∀ c ∈ a, isInert c = true) →
    src.Ahead j (a ++ s) → inTag src j = inTag src (j + a.length)
  | [], _, _, _, _ => rfl
  | c :: a, s, j, ha, h => by
    have hc : c ∉ ['\'', '"', '\x7b', '/', '>', '<'] := by
      simpa [isInert, tagSigns] using ha c List.mem_cons_self
    simp only [List.mem_cons, List.not_mem_nil, or_false, not_or] at hc
    obtain ⟨h1, h2, h3, h4, h5, h6⟩ := hc
    have hat : src.at_ j ['/', '>'] = false := by
      simp [Source.at_cons, h.head, h4]
    have hrest : src.Ahead (j + 1) (a ++ s) := h.tail
    rw [inTag_eq h.head, if_neg (by simp [h1, h2]), if_neg h3, hat, if_neg (by decide), if_neg h5,
      if_neg h6, inTag_inert (fun d hd => ha d (List.mem_cons_of_mem c hd)) hrest,
      List.length_cons]
    congr 1
    omega

/-- A string is passed up to its own quote. -/
theorem inTag_quoted {q : Quoted} {j : Nat} {s : List Char} (hq : StringBody q.quote q.chars)
    (h : src.Ahead j (q.render ++ s)) : inTag src j = inTag src (j + q.render.length) := by
  rw [Quoted.render_append] at h
  rw [inTag_eq h.head, if_pos q.isQuote, pastString_body q.isQuote hq h, Quoted.render]
  simp only [List.length_cons, List.length_append, List.length_nil]
  rfl

/-- An expression in braces is passed. -/
theorem inTag_expression {e : Expression} {j : Nat} {s : List Char}
    (h : src.Ahead j (e.render ++ s)) : inTag src j = inTag src (j + e.render.length) := by
  rw [Expression.render_append] at h
  rw [inTag_eq h.head, if_neg (by decide), if_pos rfl, scan_balanced e.balanced h.tail,
    Expression.render]
  simp only [List.length_cons, List.length_append, List.length_nil]
  congr 1
  omega

/-- The characters of an attribute before its value are inert. -/
theorem isInert_lead (gap : Blank) (name : Name) (before after : Blank) :
    ∀ c ∈ gap.chars ++ (name.chars ++ (before.chars ++ '=' :: after.chars)), isInert c = true := by
  intro c hc
  simp only [List.mem_append, List.mem_cons] at hc
  rcases hc with hc | hc | hc | rfl | hc
  · exact gap.isInert c hc
  · exact name.isInert c hc
  · exact before.isInert c hc
  · decide
  · exact after.isInert c hc

/-- **One attribute is passed.** -/
theorem inTag_attribute {a : Attribute} {j : Nat} {s : List Char}
    (ha : AllParts Part.Scanned a.parts) (h : src.Ahead j (a.render ++ s)) :
    inTag src j = inTag src (j + a.render.length) := by
  obtain ⟨gap, name, value, apart⟩ := a
  cases value with
  | flag =>
    refine inTag_inert (fun c hc => ?_) h
    simp only [Attribute.render, Value.render, List.append_nil, List.mem_append] at hc
    rcases hc with hc | hc
    · exact gap.isInert c hc
    · exact name.isInert c hc
  | quoted before after q =>
    have hlead : src.Ahead j ((gap.chars ++ (name.chars ++ (before.chars ++ '=' :: after.chars))) ++
        (q.render ++ s)) := by
      simpa only [Attribute.render, Value.render, List.append_assoc, List.cons_append] using h
    rw [inTag_inert (isInert_lead gap name before after) hlead, inTag_quoted ha.head hlead.drop]
    simp only [Attribute.render, Value.render, List.length_append, List.length_cons]
    congr 1
    omega
  | expression before after e =>
    have hlead : src.Ahead j ((gap.chars ++ (name.chars ++ (before.chars ++ '=' :: after.chars))) ++
        (e.render ++ s)) := by
      simpa only [Attribute.render, Value.render, List.append_assoc, List.cons_append] using h
    rw [inTag_inert (isInert_lead gap name before after) hlead, inTag_expression hlead.drop]
    simp only [Attribute.render, Value.render, List.length_append, List.length_cons]
    congr 1
    omega

/-- **The attributes of a tag are passed one after the other.** -/
theorem inTag_attributes : ∀ {as : List Attribute} {j : Nat} {s : List Char},
    AllParts Part.Scanned (as.flatMap Attribute.parts) → src.Ahead j (renderAttributes as ++ s) →
      inTag src j = inTag src (j + (renderAttributes as).length)
  | [], _, _, _, _ => rfl
  | a :: as, j, s, has, h => by
    have hone : src.Ahead j (a.render ++ (renderAttributes as ++ s)) := by
      simpa only [renderAttributes, List.flatMap_cons, List.append_assoc] using h
    rw [List.flatMap_cons] at has
    rw [inTag_attribute has.left hone, inTag_attributes has.right hone.drop]
    simp only [renderAttributes, List.flatMap_cons, List.length_append, Nat.add_assoc]

/-- The scanner comes to the end of a head. -/
theorem openTag_head {h : Head} {i : Nat} {d : Char} {s : List Char}
    (hh : AllParts Part.Scanned (h.attributes.flatMap Attribute.parts)) (hd : d = '>' ∨ d = '/')
    (ha : src.Ahead i ('<' :: (h.render ++ d :: s))) :
    openTag src i = inTag src (i + 1 + h.render.length) := by
  have hname : src.Ahead (i + 1)
      (h.name.chars ++ (renderAttributes h.attributes ++ (h.gap.chars ++ d :: s))) := by
    simpa only [Head.render, List.append_assoc] using ha.tail
  have hfragment : src.at_ i ['<', '>'] = false := by
    have hfirst : src[i + 1]? = some h.name.first := hname.head
    have hne : h.name.first ≠ '>' := ne_of_class h.name.starts (by decide)
    simp [Source.at_cons, hfirst, hne]
  have hends := (EndsName.attributes h.attributes h.gap s hd).ends
  rw [openTag_eq, hfragment, if_neg (by decide), tagNameEnd_ahead hname hends]
  dsimp only
  rw [inTag_attributes hh hname.drop, inTag_inert h.gap.isInert hname.drop.drop]
  simp only [Head.render, List.length_append, Nat.add_assoc]

/-- A tag with contents is passed. -/
theorem openTag_open {h : Head} {i : Nat} {s : List Char}
    (hh : AllParts Part.Scanned (h.attributes.flatMap Attribute.parts))
    (ha : src.Ahead i ('<' :: (h.render ++ '>' :: s))) :
    openTag src i = some (i + 1 + h.render.length + 1, false) := by
  have hend := ha.tail.drop
  rw [openTag_head hh (Or.inl rfl) ha, inTag_eq hend.head]
  simp [Source.at_cons, hend.head]

/-- A tag that closes itself is passed. -/
theorem openTag_closed {h : Head} {i : Nat} {s : List Char}
    (hh : AllParts Part.Scanned (h.attributes.flatMap Attribute.parts))
    (ha : src.Ahead i ('<' :: (h.render ++ '/' :: '>' :: s))) :
    openTag src i = some (i + 1 + h.render.length + 2, true) := by
  have hend := ha.tail.drop
  rw [openTag_head hh (Or.inr rfl) ha, inTag_eq hend.head]
  simp [Source.at_cons, hend.head, hend.tail.head]

/-! ## 2. Trees -/

/-- Where the scanner goes on after an element: nowhere, if it is inside no other one. -/
def afterElement (src : Source) (start depth k : Nat) : Nat :=
  if depth = 0 then k else inElement src start depth k

section Contents

variable {start depth : Nat}

/-- A closing tag closes the innermost element. -/
theorem inElement_close {j : Nat} {a s : List Char} (ha : '>' ∉ a)
    (h : src.Ahead j ('<' :: '/' :: (a ++ '>' :: s))) :
    inElement src start (depth + 1) j = afterElement src start depth (j + a.length + 3) := by
  have hfind : src.Ahead j (('<' :: '/' :: a) ++ '>' :: s) := h
  have hmem : '>' ∉ '<' :: '/' :: a := by
    simp [ha]
  rw [inElement_eq h.head, if_pos rfl, if_pos h.tail.head, hfind.findChar hmem]
  dsimp only [List.length_cons]
  unfold afterElement
  cases depth with
  | zero => rfl
  | succ n => rw [if_neg (by omega), if_neg (by omega)]; rfl

/-- A text is passed. -/
theorem inElement_run : ∀ {p s : List Char} {j : Nat}, (∀ c ∈ p, c ≠ '<' ∧ c ≠ '\x7b') →
    src.Ahead j (p ++ s) →
      inElement src start (depth + 1) j = inElement src start (depth + 1) (j + p.length)
  | [], _, _, _, _ => rfl
  | c :: p, s, j, hp, h => by
    have hc := hp c List.mem_cons_self
    have hrest : src.Ahead (j + 1) (p ++ s) := h.tail
    rw [inElement_eq h.head, if_neg hc.1, if_neg (by simp [hc.2]), if_neg (by omega),
      inElement_run (fun d hd => hp d (List.mem_cons_of_mem c hd)) hrest, List.length_cons]
    congr 1
    omega

/-- What stands in braces is passed. -/
theorem inElement_braces {j : Nat} {e s : List Char}
    (h : src.Ahead j ('\x7b' :: (e ++ '\x7d' :: s)))
    (hscan : scan src ['\x7d'] 0 (j + 1) = j + 1 + e.length) :
    inElement src start (depth + 1) j = inElement src start (depth + 1) (j + e.length + 2) := by
  rw [inElement_eq h.head, if_neg (by decide), if_pos ⟨rfl, by omega⟩, hscan]
  congr 1
  omega

/-- The scanner in braces passes the tree after an operator. -/
theorem scan_choice {x : Tree} {lead : List Char} {d : Char} {i : Nat} {s : List Char}
    (hx : x.opener ≠ '$') (hlead : ∀ c ∈ lead, isPlain c = true)
    (hd : d ∈ tagLead ∧ isSpace d = false ∧ isPlain d = true)
    (h : src.Ahead i (lead ++ d :: ' ' :: (x.render ++ s)))
    (hend : ∀ {k : Nat}, src.Ahead k (x.render ++ s) →
      inElement src k 0 k = k + x.render.length) :
    scan src ['\x7d'] 0 i = scan src ['\x7d'] 0 (i + lead.length + 2 + x.render.length) := by
  obtain ⟨hpass, hbracket, hmove, hpos⟩ := passes_choice hx hlead hd h
  have hscan := Passing.scan hpass
  dsimp only at hscan
  rw [hscan, scan_eq hbracket, hmove]
  dsimp only
  rw [hend h.drop.tail.tail, if_pos (by omega)]

end Contents

mutual

/-- **The scanner ends where the text of a tree ends**, at every depth and whatever stands after
    it. -/
theorem scanTree : ∀ (x : Tree), AllParts Part.Scanned x.parts → ∀ (start depth : Nat) {j : Nat}
    {s : List Char}, src.Ahead j (x.render ++ s) →
      inElement src start depth j = afterElement src start depth (j + x.render.length)
  | .paired h cs gap, hx, start, depth, j, s, ha => by
    obtain ⟨hbracket, hslash, -⟩ := ahead_tree _ ha
    rw [Tree.paired_append] at ha
    have hinside := ha.tail.drop.tail
    rw [inElement_eq hbracket, if_pos rfl, if_neg hslash, openTag_open hx.left ha]
    dsimp only
    rw [scanContents cs hx.right start depth hinside,
      inElement_close (not_mem_closing h.name gap) hinside.drop]
    simp only [Tree.render, List.length_cons, List.length_append, List.length_nil]
    congr 1
    omega
  | .single h, hx, start, depth, j, s, ha => by
    obtain ⟨hbracket, hslash, -⟩ := ahead_tree _ ha
    rw [Tree.single_append] at ha
    rw [inElement_eq hbracket, if_pos rfl, if_neg hslash, openTag_closed hx ha]
    dsimp only
    simp only [Tree.render, List.length_cons, List.length_append, List.length_nil]
    unfold afterElement
    rw [show j + 1 + h.render.length + 2 = j + (h.render.length + (0 + 1 + 1) + 1) by omega]
  | .fragment cs gap, hx, start, depth, j, s, ha => by
    obtain ⟨hbracket, hslash, -⟩ := ahead_tree _ ha
    rw [Tree.fragment_append] at ha
    have hinside := ha.tail.tail
    have hopen : openTag src j = some (j + 2, false) := by
      rw [openTag_eq, if_pos (by simp [Source.at_cons, ha.head, ha.tail.head])]
    rw [inElement_eq hbracket, if_pos rfl, if_neg hslash, hopen]
    dsimp only
    rw [scanContents cs hx start depth hinside, inElement_close gap.not_mem hinside.drop]
    simp only [Tree.render, List.length_cons, List.length_append, List.length_nil]
    congr 1
    omega

/-- What stands inside an element is passed. -/
theorem scanChild : ∀ (c : Child), AllParts Part.Scanned c.parts → ∀ (start depth : Nat) {j : Nat}
    {s : List Char}, src.Ahead j (c.render ++ s) →
      inElement src start (depth + 1) j = inElement src start (depth + 1) (j + c.render.length)
  | .tree x, hc, start, depth, j, s, ha => scanTree x hc start (depth + 1) ha
  | .text r, _, start, depth, j, s, ha => inElement_run r.ne ha
  | .expression e, _, start, depth, j, s, ha => by
    rw [Child.render, Expression.render_append] at ha
    rw [inElement_braces ha (scan_balanced e.balanced ha.tail)]
    simp only [Child.render, Expression.render, List.length_cons, List.length_append,
      List.length_nil]
    rfl
  | .shown w x, hc, start, depth, j, s, ha => by
    rw [Child.shown_append] at ha
    have hlead := ha.tail
    rw [shownText_append] at hlead
    have hscan := scan_choice hc.head (w.isPlain_append (List.all_eq_true.mp (by decide))) (by decide) hlead
      fun {k} hx => scanTree x hc.tail k 0 hx
    rw [scan_brace hlead.drop.tail.tail.drop.head, length_shownText] at hscan
    rw [inElement_braces ha hscan]
    simp only [Child.render, shownText, List.length_cons, List.length_append, List.length_nil]
    rfl
  | .either w x y, hc, start, depth, j, s, ha => by
    rw [Child.either_append] at ha
    have hfirst := ha.tail
    rw [eitherText_append] at hfirst
    have hsecond := hfirst.drop.tail.tail.drop
    have hscanFirst := scan_choice hc.head (w.isPlain_append (List.all_eq_true.mp (by decide))) (by decide) hfirst
      fun {k} hx => scanTree x hc.tail.tail.left k 0 hx
    have hscanSecond := scan_choice hc.tail.head (List.all_eq_true.mp (by decide)) (by decide) hsecond
      fun {k} hy => scanTree y hc.tail.tail.right k 0 hy
    rw [hscanSecond, scan_brace hsecond.drop.tail.tail.drop.head, length_eitherText] at hscanFirst
    rw [inElement_braces ha hscanFirst]
    simp only [Child.render, eitherText, List.length_cons, List.length_append, List.length_nil]
    rfl

/-- Everything that stands inside an element is passed. -/
theorem scanContents : ∀ (cs : List Child), AllParts Part.Scanned (Child.partsAll cs) →
    ∀ (start depth : Nat) {j : Nat} {s : List Char}, src.Ahead j (Child.renderAll cs ++ s) →
      inElement src start (depth + 1) j =
        inElement src start (depth + 1) (j + (Child.renderAll cs).length)
  | [], _, _, _, _, _, _ => rfl
  | c :: cs, hcs, start, depth, j, s, ha => by
    rw [Child.renderAll, List.append_assoc] at ha
    rw [scanChild c hcs.left start depth ha, scanContents cs hcs.right start depth ha.drop,
      Child.renderAll, List.length_append, Nat.add_assoc]

end

/-! ## 3. Trees that are read without a refusal -/

/-- What follows a character has no overlong reference, if the text has none. -/
theorem longReference?_tail {c : Char} {s : List Char} (h : longReference? (c :: s) = none) :
    longReference? s = none := by
  unfold longReference? at h
  split at h
  · rename_i heq
    cases heq
  · rename_i r heq
    cases heq
    simp only [Option.orElse_eq_orElse, Option.orElse_eq_or, Option.or_eq_none_iff] at h
    exact h.2
  · rename_i heq
    cases heq
    exact h

theorem longReference?_right : ∀ (a : List Char) {s : List Char}, longReference? (a ++ s) = none →
    longReference? s = none
  | [], _, h => h
  | _ :: a, _, h => longReference?_right a (longReference?_tail h)

/-- A beginning of a text has no overlong reference, if the text has none. -/
theorem longReference?_left {a s : List Char} (h : longReference? (a ++ s) = none) :
    longReference? a = none := by
  fun_induction longReference? a with
  | case1 => rfl
  | case2 a ih =>
    -- The digits of a reference in the beginning are digits in the whole text.
    have hrest : longReference? (a ++ s) = none := longReference?_right ['&', '#'] h
    have hdigits : Number.longNumber? ((a ++ s).takeWhile isDigitAscii).length = none := by
      rw [List.cons_append, List.cons_append, longReference?] at h
      simp only [Option.orElse_eq_orElse, Option.orElse_eq_or, Option.or_eq_none_iff] at h
      exact h.1
    have hle : (a.takeWhile isDigitAscii).length ≤ ((a ++ s).takeWhile isDigitAscii).length := by
      rw [List.takeWhile_append]
      split
      · rw [List.length_append]
        omega
      · exact Nat.le_refl _
    rw [ih hrest, Number.longNumber?_eq_none.mpr
      (Nat.le_trans hle (Number.longNumber?_eq_none.mp hdigits))]
    rfl
  | case3 c a hc ih => exact ih (longReference?_tail h)

/-- No event is a refusal. -/
def Legible (es : List TagEvent) : Prop := ∀ n, TagEvent.unreadable n ∉ es

theorem Legible.append {es fs : List TagEvent} (h : Legible es) (g : Legible fs) :
    Legible (es ++ fs) := by
  intro n hn
  rcases List.mem_append.mp hn with hn | hn
  · exact h n hn
  · exact g n hn

/-- A text between tags without overlong references is read. -/
theorem legible_runEvents {s : List Char} (h : longReference? s = none) : Legible (runEvents s) := by
  unfold runEvents
  split
  · exact fun n hn => by cases hn
  · rw [h]
    intro n hn
    cases List.mem_singleton.mp hn

theorem legible_expression (e : Expression) : Legible e.events := by
  unfold Expression.events
  cases literal e.chars with
  | none => exact fun n hn => by cases hn
  | some v =>
    intro n hn
    cases List.mem_singleton.mp hn

/-- Attributes without overlong references are read. -/
theorem refusals_eq_nil : ∀ {as : List Attribute}, longReference? (renderAttributes as) = none →
    as.flatMap (·.value.refusals) = []
  | [], _ => rfl
  | a :: as, h => by
    rw [renderAttributes, List.flatMap_cons] at h
    rw [List.flatMap_cons, refusals_eq_nil (longReference?_right a.render h), List.append_nil]
    have ha := longReference?_left h
    obtain ⟨gap, name, value, apart⟩ := a
    cases value with
    | flag => rfl
    | expression before after e => rfl
    | quoted before after q =>
      have hvalue := longReference?_right _ (longReference?_tail (longReference?_right _
        (longReference?_right _ (longReference?_right _ ha))))
      have hchars : longReference? q.chars = none :=
        longReference?_left (longReference?_tail hvalue)
      show (longReference? q.chars).toList.map TagEvent.unreadable = []
      rw [hchars]
      rfl

theorem legible_head {h : Head} (selfClosing : Bool) (hh : longReference? h.render = none) :
    Legible (h.readEvents selfClosing) := by
  have hattributes := longReference?_left (longReference?_right h.name.chars hh)
  rw [Head.readEvents, refusals_eq_nil hattributes]
  intro n hn
  cases List.mem_singleton.mp hn

mutual

/-- **A tree without overlong references is read without a refusal.** -/
theorem legible_readTree : ∀ (x : Tree), longReference? x.render = none → Legible x.readEvents
  | .paired h cs gap, hx => by
    have htail := longReference?_tail hx
    have hcontents := longReference?_left
      (longReference?_tail (longReference?_right h.render htail))
    refine (legible_head false (longReference?_left htail)).append
      ((legible_readAll cs [] hcontents).append fun n hn => ?_)
    cases List.mem_singleton.mp hn
  | .single h, hx => legible_head true (longReference?_left (longReference?_tail hx))
  | .fragment cs gap, hx => by
    have hcontents := longReference?_left (longReference?_tail (longReference?_tail hx))
    refine (legible_readAll cs [] hcontents).append fun n hn => ?_
    cases List.mem_singleton.mp hn

theorem legible_readChild : ∀ (c : Child), longReference? c.render = none → Legible c.readEvents
  | .tree x, hc => legible_readTree x hc
  | .text _, hc => legible_runEvents hc
  | .expression e, _ => legible_expression e
  | .shown w x, hc => by
    have hinside := longReference?_left (longReference?_tail hc)
    exact legible_readTree x (longReference?_right _ hinside)
  | .either w x y, hc => by
    have hinside := longReference?_left (longReference?_tail hc)
    have hfirst := longReference?_right _ (longReference?_left (longReference?_left hinside))
    exact (legible_readTree x hfirst).append (legible_readTree y (longReference?_right _ hinside))

theorem legible_readAll : ∀ (cs : List Child) (p : List Char),
    longReference? (p ++ Child.renderAll cs) = none → Legible (Child.readAll p cs)
  | [], p, h => by
    rw [Child.renderAll, List.append_nil] at h
    exact legible_runEvents h
  | c :: cs, p, h => by
    rw [Child.renderAll] at h
    rw [Child.readAll]
    cases hrun : c.asRun? with
    | some r =>
      rw [(Child.render_of_asRun hrun).1, ← List.append_assoc] at h
      exact legible_readAll cs (p ++ r) h
    | none =>
      have hrest := longReference?_right p h
      exact (legible_runEvents (longReference?_left h)).append
        ((legible_readChild c (longReference?_left hrest)).append
          (legible_readAll cs [] (longReference?_right c.render hrest)))

end

/-! ## 4. The two readers -/

/-- The text of a tree, and a text after it. -/
def Tree.before (x : Tree) (rest : List Char) : Source := (x.render ++ rest).toArray

/-- **The scanner and the reader agree on where an element ends**: at the beginning of a text
    both end where the text of the tree ends. The reader has refused nothing then, unless a
    reference of the tree is too long. -/
theorem element_ends_agree (x : Tree) (rest : List Char) (hx : AllParts Part.Scanned x.parts) :
    pastElement (x.before rest) 0 = x.render.length ∧
    (readElement (x.before rest) (fuelFor (x.before rest)) 0 {}).1 = x.render.length ∧
    (longReference? x.render = none → ∀ n, TagEvent.unreadable n ∉
      (readElement (x.before rest) (fuelFor (x.before rest)) 0 {}).2.events) := by
  have hahead : (x.before rest).Ahead 0 (x.render ++ rest) := Source.ahead_toArray _
  have hscan := scanTree x hx 0 0 hahead
  have hread : readElement (x.before rest) (fuelFor (x.before rest)) 0 {} =
      (0 + x.render.length, Trail.read {} x.readEvents) :=
    readTree x (hx.imp Part.Scanned.seen) {} hahead
  rw [Nat.zero_add] at hscan hread
  refine ⟨(pastElement_eq _ 0).trans hscan, by rw [hread], fun hlong n hn => ?_⟩
  rw [hread] at hn
  simp only [Trail.read, List.append_nil, List.mem_reverse] at hn
  exact legible_readTree x hlong n hn

/-- A link with a title and a text. -/
def linkOf (title : List Char) (h : '"' ∉ title) : Tree :=
  .paired {
    name := { first := 'a', rest := [] }
    attributes := [.quoted { first := 't', rest := [] } title h] }
    [.text { chars := ['y'] }] .empty

/-- **A backslash hides the closing quote from the scanner**, which takes the title for a string
    literal of the script: it passes nothing, while the reader reads the whole link. Without
    the backslash both end at the end of the link. -/
theorem backslash_hides_quote :
    (String.ofList (linkOf ['x'] (by decide)).render = "<a t=\"x\">y</a>" ∧
      pastElement ((linkOf ['x'] (by decide)).before "; z".toList) 0 = 14 ∧
      (readElement ((linkOf ['x'] (by decide)).before "; z".toList)
        (fuelFor ((linkOf ['x'] (by decide)).before "; z".toList)) 0 {}).1 = 14) ∧
    (String.ofList (linkOf ['x', '\\'] (by decide)).render = "<a t=\"x\\\">y</a>" ∧
      pastElement ((linkOf ['x', '\\'] (by decide)).before []) 0 = 0 ∧
      (readElement ((linkOf ['x', '\\'] (by decide)).before [])
        (fuelFor ((linkOf ['x', '\\'] (by decide)).before [])) 0 {}).1 = 15) := by
  have hscanned : AllParts Part.Scanned (linkOf ['x'] (by decide)).parts := by
    intro p hp
    rcases List.mem_cons.mp hp with rfl | hp
    · exact .char (by decide) (by decide) (by decide) .nil
    · rw [List.mem_singleton.mp hp]
      trivial
  obtain ⟨hscan, hread, -⟩ := element_ends_agree _ "; z".toList hscanned
  exact ⟨⟨by decide +kernel, hscan, hread⟩, by decide +kernel, by decide +kernel,
    by decide +kernel⟩

end Affordance.Script
