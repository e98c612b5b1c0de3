import Affordance.Proofs.Script.Literal
import Affordance.Proofs.Script.Names
import Affordance.Proofs.Text.Stripped

/-!
# The reader reads trees

What the reader makes of the text of a tree, wherever it stands.

  * `Trail.read`: a trail with more events.
  * `Tree.readEvents`: the events that the reader adds for a tree. Texts that follow each other
    are one text to it, references are replaced or refused, and a fragment is closed like a tag
    without a name.
  * `inAttributes_attributes`: the attributes of a tag, one after the other.
  * **`readTree`**: the reader ends where the text of the tree ends and adds `readEvents`, for
    every text after the tree and every trail before it; over trees, one case for each
    constructor.
-/

namespace Affordance.Script

open Affordance.Text
open Affordance.Text.Source (Ahead)

/-! ## 1. Events of the reader -/

/-- The trail with more events, in the order of the text. -/
def Trail.read (t : Trail) (es : List TagEvent) : Trail :=
  { t with events := es.reverse ++ t.events }

namespace Trail

@[simp] theorem read_nil (t : Trail) : t.read [] = t := rfl

theorem read_read (t : Trail) (es fs : List TagEvent) : (t.read es).read fs = t.read (es ++ fs) := by
  simp only [read, List.reverse_append, List.append_assoc]

theorem add_eq_read (t : Trail) (e : TagEvent) : t.add e = t.read [e] := rfl

end Trail

/-- The event of a text in quotes whose references are refused. -/
def Value.refusals : Value → List TagEvent
  | .quoted _ _ q => (longReference? q.chars).toList.map TagEvent.unreadable
  | _ => []

/-- The event of a text between tags, unless it is empty. -/
def runEvents (s : List Char) : List TagEvent :=
  if s = [] then []
  else
    match longReference? s with
    | some n => [.unreadable n]
    | none => [.text (String.ofList (unescape s))]

/-- The events of a tag. -/
def Head.readEvents (h : Head) (selfClosing : Bool) : List TagEvent :=
  h.attributes.flatMap (·.value.refusals) ++ [h.opening unescape selfClosing]

/-- The characters of a text between tags. -/
def Child.asRun? : Child → Option (List Char)
  | .text s => some s.chars
  | _ => none

mutual

/-- The events that the reader adds for a tree. -/
def Tree.readEvents : Tree → List TagEvent
  | .paired h cs _ => h.readEvents false ++ (Child.readAll [] cs ++ [.close h.name.text])
  | .single h => h.readEvents true
  | .fragment cs _ => Child.readAll [] cs ++ [.close ""]

/-- The events that the reader adds for what stands inside an element. -/
def Child.readEvents : Child → List TagEvent
  | .tree t => t.readEvents
  | .text s => runEvents s.chars
  | .expression e => e.events
  | .shown _ t => t.readEvents
  | .either _ t u => t.readEvents ++ u.readEvents

/-- The events that the reader adds for everything that stands inside an element, after a text
    that is not ended yet. -/
def Child.readAll (pending : List Char) : List Child → List TagEvent
  | [] => runEvents pending
  | c :: cs =>
    match c.asRun? with
    | some s => Child.readAll (pending ++ s) cs
    | none => runEvents pending ++ (c.readEvents ++ Child.readAll [] cs)

end

/-! ## 2. Tags -/

variable {src : Source}

/-- An open tag with an attribute. -/
def OpenTag.withAttribute (o : OpenTag) (a : Attribute) : OpenTag :=
  match a.value with
  | .flag => o.withText a.name.text "true"
  | .quoted _ _ q => o.withText a.name.text (String.ofList (unescape q.chars))
  | .expression _ _ e => o.withExpression a.name.text (strip e.chars)

/-- A walk inside a tag goes on after white space. -/
theorem inAttributes_passSpace (start j : Nat) (o : OpenTag) (t : Trail) :
    inAttributes src start o (src.passSpace j) t = inAttributes src start o j t := by
  have hpart : tagPart src (src.passSpace j) = tagPart src j := by
    unfold tagPart Source.passSpace
    rw [Source.passWhile_passWhile]
  rw [inAttributes_eq, inAttributes_eq src start o j, hpart]

section Parts

variable {n : Name} {j : Nat} {s : List Char}

/-- What stands inside a tag at a name. -/
theorem tagPart_name (h : src.Ahead j (n.chars ++ s)) (hs : ∀ c ∈ s.head?, isTagNameChar c = false) :
    tagPart src j =
      if src[src.passSpace (j + n.chars.length)]? = some '=' then
        valuePart src n.text (src.passSpace (src.passSpace (j + n.chars.length) + 1))
      else .flag n.text (src.passSpace (j + n.chars.length)) := by
  have hfirst : src[j]? = some n.first := h.head
  have hat : src.at_ j ['/', '>'] = false := by
    have hslash : n.first ≠ '/' := ne_of_class n.starts (by decide)
    simp [Source.at_cons, hfirst, hslash]
  unfold tagPart
  rw [passSpace_self hfirst n.isSpace_first]
  dsimp only
  rw [hfirst]
  dsimp only
  rw [hat, if_neg (by decide), if_neg (ne_of_class n.starts (by decide)),
    if_neg (ne_of_class n.starts (by decide)), attributeNameEnd, tagNameEnd_ahead h hs]
  dsimp only
  rw [Source.text, h.slice]
  rfl

/-- A name before the end of a tag or before the next attribute has no value. -/
theorem tagPart_flag (h : src.Ahead j (n.chars ++ s)) (hs : EndsName s) :
    tagPart src j = .flag n.text (src.passSpace (j + n.chars.length)) := by
  obtain ⟨gap, d, r, rfl, hspace, hd⟩ := hs.novalue
  have hnone : src[src.passSpace (j + n.chars.length)]? ≠ some '=' := by
    have hgap : src.Ahead (j + n.chars.length) (gap.chars ++ d :: r) := h.drop
    rw [passSpace_ahead hgap (by rintro c ⟨⟩; exact hspace), hgap.drop.head]
    exact fun e => hd (Option.some.inj e)
  rw [tagPart_name h hs.ends, if_neg hnone]

/-- A name before an equality sign has the value after it. -/
theorem tagPart_value {before after : Blank} {q : Char} {v : List Char} (hq : isSpace q = false)
    (h : src.Ahead j (n.chars ++ (before.chars ++ '=' :: (after.chars ++ q :: v)))) :
    tagPart src j = valuePart src n.text
      (j + n.chars.length + before.chars.length + 1 + after.chars.length) := by
  have hbefore := passSpace_ahead h.drop (by rintro c ⟨⟩; decide)
  have hequal := h.drop.drop
  have hafter := passSpace_ahead hequal.tail (by rintro c ⟨⟩; exact hq)
  rw [tagPart_name h (isTagNameChar_head_blank (by decide +kernel)), hbefore, if_pos hequal.head,
    hafter]

/-- A text in quotes. -/
theorem valuePart_quoted {name : String} {q : Quoted}
    (h : src.Ahead j (q.quote :: (q.chars ++ q.quote :: s))) :
    valuePart src name j = .quoted name q.chars (j + q.render.length) := by
  unfold valuePart
  rw [h.head]
  dsimp only
  rw [if_pos q.isQuote, h.tail.findChar q.finished]
  dsimp only
  rw [h.tail.slice, Quoted.render]
  congr 1
  simp only [List.length_cons, List.length_append, List.length_nil]
  omega

/-- An expression in braces. -/
theorem valuePart_expression {name : String} {v : List Char} (h : src.Ahead j ('\x7b' :: v)) :
    valuePart src name j = .expression name (j + 1) := by
  unfold valuePart
  rw [h.head]
  rfl

end Parts

/-- **One attribute is read.** -/
theorem inAttributes_attribute (start : Nat) (o : OpenTag) (a : Attribute) {j : Nat}
    {s : List Char} (t : Trail) (h : src.Ahead j (a.render ++ s)) (hs : EndsName s) :
    inAttributes src start o j t =
      inAttributes src start (o.withAttribute a) (j + a.render.length)
        (t.read a.value.refusals) := by
  have hname : src.Ahead (j + a.gap.chars.length) (a.name.chars ++ (a.value.render ++ s)) := by
    rw [Attribute.render, List.append_assoc, List.append_assoc] at h
    exact h.drop
  have hgap : src.passSpace j = j + a.gap.chars.length := by
    rw [Attribute.render, List.append_assoc, List.append_assoc] at h
    exact passSpace_ahead h (by rintro c ⟨⟩; exact a.name.isSpace_first)
  rw [← inAttributes_passSpace, hgap]
  obtain ⟨gap, name, value, apart⟩ := a
  cases value with
  | flag =>
    rw [inAttributes_eq, tagPart_flag hname hs]
    dsimp only
    rw [inAttributes_passSpace]
    simp only [OpenTag.withAttribute, Value.refusals, Attribute.render, Value.render, Trail.read_nil,
      List.length_append, List.append_nil, Nat.add_assoc]
  | quoted before after q =>
    have hvalue : src.Ahead (j + gap.chars.length) (name.chars ++ (before.chars ++
        '=' :: (after.chars ++ q.quote :: (q.chars ++ q.quote :: s)))) := by
      simpa only [Value.render, List.append_assoc, List.cons_append, q.render_append] using hname
    have hspace : isSpace q.quote = false := by
      rcases q.isQuote with hq | hq <;> rw [hq] <;> decide
    rw [inAttributes_eq, tagPart_value hspace hvalue,
      valuePart_quoted hvalue.drop.drop.tail.drop]
    have hcheck : t.checkMeant q.chars =
        t.read ((longReference? q.chars).toList.map TagEvent.unreadable) := by
      unfold Trail.checkMeant
      cases longReference? q.chars <;> rfl
    simp only [OpenTag.withAttribute, Value.refusals, Attribute.render, Value.render, hcheck,
      List.length_append, List.length_cons]
    congr 1
    omega
  | expression before after e =>
    have hvalue : src.Ahead (j + gap.chars.length) (name.chars ++ (before.chars ++
        '=' :: (after.chars ++ '\x7b' :: (e.chars ++ '\x7d' :: s)))) := by
      simpa only [Value.render, List.append_assoc, List.cons_append, e.render_append] using hname
    have hbrace := hvalue.drop.drop.tail.drop
    rw [inAttributes_eq, tagPart_value (by decide) hvalue, valuePart_expression hbrace]
    dsimp only
    rw [walk_balanced e.balanced hbrace.tail, hbrace.tail.slice]
    simp only [OpenTag.withAttribute, Value.refusals, Attribute.render, Value.render,
      Expression.render, Trail.read_nil, List.length_append, List.length_cons, List.length_nil]
    congr 1
    omega

/-- **The attributes of a tag are read one after the other.** -/
theorem inAttributes_attributes (start : Nat) {gap : Blank} {d : Char} {s : List Char}
    (hd : d = '>' ∨ d = '/') : ∀ (as : List Attribute) (o : OpenTag) {j : Nat} (t : Trail),
    src.Ahead j (renderAttributes as ++ (gap.chars ++ d :: s)) →
      inAttributes src start o j t =
        inAttributes src start (as.foldl OpenTag.withAttribute o)
          (j + (renderAttributes as).length) (t.read (as.flatMap (·.value.refusals)))
  | [], _, _, _, _ => rfl
  | a :: as, o, j, t, h => by
    have hone : src.Ahead j (a.render ++ (renderAttributes as ++ (gap.chars ++ d :: s))) := by
      simpa only [renderAttributes, List.flatMap_cons, List.append_assoc] using h
    rw [inAttributes_attribute start o a t hone (EndsName.attributes as gap s hd),
      inAttributes_attributes start hd as _ _ hone.drop, Trail.read_read]
    simp only [renderAttributes, List.flatMap_cons, List.foldl_cons, List.length_append,
      Nat.add_assoc]

/-! ## 3. What was read of a tag -/

namespace OpenTag

theorem withAttribute_eq (o : OpenTag) (a : Attribute) :
    o.withAttribute a = { o with
      attributes := Keyed.put (a.entry unescape).1 (a.entry unescape).2 o.attributes
      dynamic := if a.value.isDynamic then a.name.text :: o.dynamic else o.dynamic } := by
  obtain ⟨gap, name, value, apart⟩ := a
  cases value with
  | flag => rfl
  | quoted before after q => rfl
  | expression before after e =>
    rcases Option.eq_none_or_eq_some (literal (strip e.chars)) with hl | ⟨v, hl⟩
    · simp [withAttribute, withExpression, withText, Attribute.entry, Value.text,
        Value.isDynamic, hl]
    · simp [withAttribute, withExpression, withText, Attribute.entry, Value.text,
        Value.isDynamic, hl]

/-- The attributes that were read are those of the tag. -/
theorem foldl_withAttribute : ∀ (as : List Attribute) (o : OpenTag),
    as.foldl withAttribute o = { o with
      attributes := (as.map (Attribute.entry unescape)).foldl (fun fs e => Keyed.put e.1 e.2 fs)
        o.attributes
      dynamic := ((as.filter (·.value.isDynamic)).map (·.name.text)).reverse ++ o.dynamic }
  | [], _ => rfl
  | a :: as, o => by
    rw [List.foldl_cons, foldl_withAttribute as, withAttribute_eq]
    cases hdyn : a.value.isDynamic <;> simp [hdyn]

end OpenTag

/-- A tag that was read up to its end. -/
theorem addTag_head (h : Head) (selfClosing : Bool) (t : Trail) :
    t.addTag (h.attributes.foldl OpenTag.withAttribute { tag := h.name.text }) selfClosing =
      t.add (h.opening unescape selfClosing) := by
  rw [OpenTag.foldl_withAttribute]
  simp [Trail.addTag, Trail.add, Head.opening, Keyed.ofList]

/-- The end of a tag. -/
theorem tagPart_ending {j : Nat} {s : List Char} (h : src.Ahead j ('>' :: s)) :
    tagPart src j = .ending (j + 1) := by
  unfold tagPart
  rw [passSpace_self h.head (by decide)]
  simp [Source.at_cons, h.head]

/-- The end of a tag that closes itself. -/
theorem tagPart_selfClosing {j : Nat} {s : List Char} (h : src.Ahead j ('/' :: '>' :: s)) :
    tagPart src j = .selfClosing (j + 2) := by
  unfold tagPart
  rw [passSpace_self h.head (by decide)]
  simp [Source.at_cons, h.head, h.tail.head]

/-- **The head of a tag is read.** -/
theorem element_head (h : Head) {i : Nat} {d : Char} {s : List Char} (t : Trail)
    (hd : d = '>' ∨ d = '/') (ha : src.Ahead i ('<' :: (h.render ++ d :: s))) :
    element src i t =
      inAttributes src i (h.attributes.foldl OpenTag.withAttribute { tag := h.name.text })
        (i + 1 + h.render.length) (t.read (h.attributes.flatMap (·.value.refusals))) := by
  have hname : src.Ahead (i + 1)
      (h.name.chars ++ (renderAttributes h.attributes ++ (h.gap.chars ++ d :: s))) := by
    simpa only [Head.render, List.append_assoc] using ha.tail
  have hends := EndsName.attributes h.attributes h.gap s hd
  have hfragment : src[i + 1]? ≠ some '>' := by
    rw [show src[i + 1]? = some h.name.first from hname.head]
    exact fun e => ne_of_class h.name.starts (by decide) (Option.some.inj e)
  have hspace : isSpace d = false := by
    rcases hd with rfl | rfl <;> decide
  have hgap := passSpace_ahead hname.drop.drop (by rintro c ⟨⟩; exact hspace)
  rw [element_eq, if_neg hfragment, tagNameEnd_ahead hname hends.ends]
  dsimp only
  rw [Source.text, hname.slice, inAttributes_attributes i hd _ _ t hname.drop,
    ← inAttributes_passSpace, hgap]
  simp only [Head.render, Name.text, List.length_append, Nat.add_assoc]

/-- A tag with contents is read up to them. -/
theorem element_open (h : Head) {i : Nat} {s : List Char} (t : Trail)
    (ha : src.Ahead i ('<' :: (h.render ++ '>' :: s))) :
    element src i t =
      inChildren src h.name.text (i + 1 + h.render.length + 1) (t.read (h.readEvents false)) := by
  have htag : (h.attributes.foldl OpenTag.withAttribute { tag := h.name.text }).tag =
      h.name.text := by
    rw [OpenTag.foldl_withAttribute]
  rw [element_head h t (Or.inl rfl) ha, inAttributes_eq, tagPart_ending ha.tail.drop]
  dsimp only
  rw [htag, addTag_head, Trail.add_eq_read, Trail.read_read]
  rfl

/-- A tag that closes itself is read. -/
theorem element_closed (h : Head) {i : Nat} {s : List Char} (t : Trail)
    (ha : src.Ahead i ('<' :: (h.render ++ '/' :: '>' :: s))) :
    element src i t = (i + 1 + h.render.length + 2, t.read (h.readEvents true)) := by
  rw [element_head h t (Or.inr rfl) ha, inAttributes_eq, tagPart_selfClosing ha.tail.drop]
  dsimp only
  rw [addTag_head, Trail.add_eq_read, Trail.read_read]
  rfl

/-! ## 4. Contents -/

/-- A closing tag ends the contents. -/
theorem inChildren_close (tag : String) {j : Nat} {a s : List Char} (t : Trail) (ha : '>' ∉ a)
    (h : src.Ahead j ('<' :: '/' :: (a ++ '>' :: s))) :
    inChildren src tag j t = (j + a.length + 3, t.read [.close tag]) := by
  have hfind : src.Ahead j (('<' :: '/' :: a) ++ '>' :: s) := h
  have hmem : '>' ∉ '<' :: '/' :: a := by
    simp [ha]
  rw [inChildren_eq h.head, if_pos rfl, if_pos h.tail.head, hfind.findChar hmem]
  rfl

/-- A text is read up to the next bracket or brace. -/
theorem inChildren_run (tag : String) {j : Nat} {p s : List Char} {d : Char} (t : Trail)
    (hp : ∀ c ∈ p, c ≠ '<' ∧ c ≠ '\x7b') (hd : d = '<' ∨ d = '\x7b')
    (h : src.Ahead j (p ++ d :: s)) :
    inChildren src tag j t = inChildren src tag (j + p.length) (t.read (runEvents p)) := by
  cases p with
  | nil => rfl
  | cons c p =>
    have hend : textEnd src j = j + (c :: p).length := by
      refine h.passWhile (fun e he => ?_) ?_
      · simp [hp e he]
      · rintro e ⟨⟩
        rcases hd with rfl | rfl <;> rfl
    have hc := hp c List.mem_cons_self
    rw [inChildren_eq h.head, if_neg hc.1, if_neg hc.2, hend, h.slice]
    congr 1
    unfold Trail.addMeant runEvents
    rw [if_neg (List.cons_ne_nil c p)]
    cases longReference? (c :: p) <;> rfl

/-- What stands in braces is walked over; it is a text if it is a plain value. -/
theorem inChildren_braces (tag : String) {j : Nat} {e s : List Char} {t t' : Trail}
    (h : src.Ahead j ('\x7b' :: (e ++ '\x7d' :: s)))
    (hwalk : walk src ['\x7d'] 0 (j + 1) t = (j + 1 + e.length, t')) :
    inChildren src tag j t = inChildren src tag (j + e.length + 2) (t'.addLiteral e) := by
  rw [inChildren_eq h.head, if_neg (by decide), if_pos rfl, hwalk, h.tail.slice]
  dsimp only
  rw [show j + 1 + e.length + 1 = j + e.length + 2 by omega]

/-- An expression in braces is read. -/
theorem inChildren_expression (tag : String) {j : Nat} {e : Expression} {s : List Char} (t : Trail)
    (h : src.Ahead j ('\x7b' :: (e.chars ++ '\x7d' :: s))) :
    inChildren src tag j t = inChildren src tag (j + e.chars.length + 2) (t.read e.events) := by
  rw [inChildren_braces tag h (walk_balanced e.balanced h.tail t)]
  unfold Trail.addLiteral Expression.events
  cases literal e.chars <;> rfl

/-! ## 5. Trees after conditions -/

/-- A tree begins with an angle bracket and its opener. -/
theorem Tree.exists_render (t : Tree) : ∃ r, t.render = '<' :: t.opener :: r := by
  cases t with
  | paired h cs gap => exact ⟨_, rfl⟩
  | single h => exact ⟨_, rfl⟩
  | fragment cs gap => exact ⟨_, rfl⟩

theorem Tree.opener_cases (t : Tree) : t.opener = '>' ∨ isNameStart t.opener = true := by
  cases t with
  | paired h cs gap => exact Or.inr h.name.starts
  | single h => exact Or.inr h.name.starts
  | fragment cs gap => exact Or.inl rfl

/-- The scanner takes a tree for an element, unless its name begins with a dollar sign. -/
theorem Tree.isOpener_of_ne {t : Tree} (ht : t.opener ≠ '$') :
    (isLetter t.opener || t.opener == '>' || t.opener == '_') = true := by
  rcases t.opener_cases with ho | ho
  · simp [ho]
  · rcases isNameStart_cases ho with ho | ho | ho
    · simp [isLetter_of_isLetterAscii ho]
    · simp [ho]
    · exact absurd ho ht

/-- A tree's text after an operator opens a tag, unless its name begins with a dollar sign. -/
theorem canOpenTag_choice {t : Tree} {d : Char} {i : Nat} {s : List Char} (ht : t.opener ≠ '$')
    (hd : d ∈ tagLead ∧ isSpace d = false) (h : src.Ahead i (d :: ' ' :: (t.render ++ s))) :
    canOpenTag src (i + 2) = true := by
  obtain ⟨r, hr⟩ := t.exists_render
  rw [hr] at h
  have hnext : src[i + 2 + 1]? = some t.opener := h.tail.tail.tail.head
  have hback : src.passBack isSpace (i + 2) = i + 1 := by
    rw [Source.passBack, h.tail.head]
    dsimp only
    rw [if_pos (by decide), Source.passBack, h.head]
    dsimp only
    rw [if_neg (by rw [hd.2]; decide)]
  unfold canOpenTag leads
  rw [hnext]
  dsimp only
  rw [Tree.isOpener_of_ne ht, hback]
  dsimp only
  rw [h.head]
  simp [hd.1]

/-- A walk in braces comes to the tree after an operator, and takes it for an element. -/
theorem passes_choice {x : Tree} {lead : List Char} {d : Char} {i : Nat} {s : List Char}
    (hx : x.opener ≠ '$') (hlead : ∀ c ∈ lead, isPlain c = true)
    (hd : d ∈ tagLead ∧ isSpace d = false ∧ isPlain d = true)
    (h : src.Ahead i (lead ++ d :: ' ' :: (x.render ++ s))) :
    Relation.ReflTransGen (Passing src ['\x7d']) (0, i) (0, i + lead.length + 2) ∧
    src[i + lead.length + 2]? = some '<' ∧
    move src ['\x7d'] 0 (i + lead.length + 2) '<' = .tag ∧ 0 < x.render.length := by
  have hbalanced : Balanced (lead ++ [d, ' ']) := by
    refine balanced_of_plain fun c hc => ?_
    simp only [List.mem_append, List.mem_cons, List.not_mem_nil, or_false] at hc
    rcases hc with hc | rfl | rfl
    · exact hlead c hc
    · exact hd.2.2
    · decide
  have hahead : src.Ahead i ((lead ++ [d, ' ']) ++ (x.render ++ s)) := by
    simpa only [List.append_assoc, List.cons_append, List.nil_append] using h
  have hpass := passes_balanced hbalanced onlyClosers_brace 0 hahead
  rw [List.length_append] at hpass
  obtain ⟨r, hr⟩ := x.exists_render
  have htree := h.drop.tail.tail
  rw [hr] at htree
  have hcan := canOpenTag_choice hx ⟨hd.1, hd.2.1⟩ h.drop
  refine ⟨hpass, htree.head, ?_, ?_⟩
  · simp [move, isOpener, isCloser, hcan]
  · rw [hr]
    exact Nat.succ_pos _

/-- The reader in braces reads the tree after an operator. -/
theorem walk_choice {x : Tree} {lead : List Char} {d : Char} {i : Nat} {s : List Char}
    {t t' : Trail} (hx : x.opener ≠ '$') (hlead : ∀ c ∈ lead, isPlain c = true)
    (hd : d ∈ tagLead ∧ isSpace d = false ∧ isPlain d = true)
    (h : src.Ahead i (lead ++ d :: ' ' :: (x.render ++ s)))
    (hread : element src (i + lead.length + 2) t =
      (i + lead.length + 2 + x.render.length, t')) :
    walk src ['\x7d'] 0 i t = walk src ['\x7d'] 0 (i + lead.length + 2 + x.render.length) t' := by
  obtain ⟨hpass, hbracket, hmove, hpos⟩ := passes_choice hx hlead hd h
  have hwalk := Passing.walk hpass t
  dsimp only at hwalk
  rw [hwalk, walk_eq hbracket, hmove, hread]
  dsimp only
  rw [if_pos (by omega)]

/-- No number begins like an identifier. -/
theorem isNumber_word {c : Char} {s : List Char} (h : isNameStart c = true) :
    isNumber (c :: s) = false := by
  have hdigit : isDigit c = false := by
    rcases isNameStart_cases h with hc | rfl | rfl
    · have := toNat_of_isLetterAscii hc
      rw [isDigit, if_pos (by omega)]
      simp [isDigitAscii]
      omega
    · decide
    · decide
  have hminus : c ≠ '-' := ne_of_class h (by decide)
  have hnumber : isNumber (c :: s) = isUnsigned (c :: s) := by
    unfold isNumber
    split
    · rename_i heq
      exact absurd (List.cons.inj heq).1 hminus
    · rfl
  rw [hnumber, isUnsigned, List.takeWhile_cons, List.dropWhile_cons,
    if_neg (by rw [hdigit]; decide), if_neg (by rw [hdigit]; decide)]
  simp

/-- An expression that begins like an identifier, has a space in it and ends at an angle
    bracket is no plain value. -/
theorem literal_choice (w : Word) (a : List Char) :
    literal (w.chars ++ ' ' :: (a ++ ['>'])) = none := by
  have hshape : w.chars ++ ' ' :: (a ++ ['>']) = w.first :: (w.rest ++ ' ' :: a ++ ['>']) := by
    simp [Word.chars]
  have hspace : isSpace w.first = false :=
    isSpace_of_isTagNameChar (isTagNameChar_of_isNameChar (isNameChar_of_isNameStart w.starts))
  have hquote : ∀ q, isNameStart q = false → between q (w.first :: (w.rest ++ ' ' :: a ++ ['>'])) =
      none := fun q hq => between_eq_none (ne_of_class w.starts hq)
  have hword : ∀ s : List Char, ' ' ∉ s → (w.first :: (w.rest ++ ' ' :: a ++ ['>']) == s) = false := by
    intro s hs
    rw [beq_eq_false_iff_ne]
    rintro rfl
    exact hs (by simp)
  unfold literal
  dsimp only
  rw [hshape, strip_eq_self hspace (by decide), hquote '\'' (by decide), hquote '"' (by decide),
    hquote '`' (by decide), isNumber_word w.starts, hword _ (by decide), hword _ (by decide)]
  rfl

/-- The text of a tree ends with an angle bracket. -/
theorem Tree.exists_render_end (t : Tree) : ∃ a, t.render = a ++ ['>'] := by
  cases t with
  | paired h cs gap =>
    exact ⟨'<' :: (h.render ++ '>' ::
      (Child.renderAll cs ++ '<' :: '/' :: (h.name.chars ++ gap.chars))), by simp [Tree.render]⟩
  | single h => exact ⟨'<' :: (h.render ++ ['/']), by simp [Tree.render]⟩
  | fragment cs gap =>
    exact ⟨'<' :: '>' :: (Child.renderAll cs ++ '<' :: '/' :: gap.chars), by simp [Tree.render]⟩

/-- A tree under a condition is no plain value. -/
theorem literal_shownText (w : Word) (x : Tree) : literal (shownText w x) = none := by
  obtain ⟨a, hx⟩ := x.exists_render_end
  have hnone := literal_choice w ('&' :: '&' :: ' ' :: a)
  simpa [shownText, hx] using hnone

theorem literal_eitherText (w : Word) (x y : Tree) : literal (eitherText w x y) = none := by
  obtain ⟨a, hy⟩ := y.exists_render_end
  have hnone := literal_choice w ('?' :: ' ' :: (x.render ++ ' ' :: ':' :: ' ' :: a))
  simpa [eitherText, hy] using hnone

theorem length_shownText (w : Word) (x : Tree) (i : Nat) :
    i + (w.chars ++ [' ', '&']).length + 2 + x.render.length = i + (shownText w x).length := by
  have hand : " && ".toList.length = 4 := rfl
  simp only [shownText, hand, List.length_append, List.length_cons, List.length_nil]
  omega

theorem length_eitherText (w : Word) (x y : Tree) (i : Nat) :
    i + (w.chars ++ [' ']).length + 2 + x.render.length + [' '].length + 2 + y.render.length =
      i + (eitherText w x y).length := by
  have hif : " ? ".toList.length = 3 := rfl
  have helse : " : ".toList.length = 3 := rfl
  simp only [eitherText, hif, helse, List.length_append, List.length_cons, List.length_nil]
  omega

/-- A tree begins with a bracket that opens no closing tag. -/
theorem ahead_tree (x : Tree) {j : Nat} {s : List Char} (h : src.Ahead j (x.render ++ s)) :
    src[j]? = some '<' ∧ src[j + 1]? ≠ some '/' ∧ 0 < x.render.length := by
  obtain ⟨r, hr⟩ := x.exists_render
  rw [hr] at h ⊢
  refine ⟨h.head, fun hslash => ?_, Nat.succ_pos _⟩
  have ho : x.opener = '/' := Option.some.inj (h.tail.head.symm.trans hslash)
  rcases x.opener_cases with hx | hx
  · rw [ho] at hx
    exact absurd hx (by decide)
  · rw [ho] at hx
    exact absurd hx (by decide)

/-! ## 6. Trees -/

/-- An identifier and more plain characters are plain. -/
theorem Word.isPlain_append (w : Word) {s : List Char} (hs : ∀ c ∈ s, Script.isPlain c = true) :
    ∀ c ∈ w.chars ++ s, Script.isPlain c = true := by
  intro c hc
  rcases List.mem_append.mp hc with hc | hc
  · exact w.isPlain c hc
  · exact hs c hc

/-- A text between tags is its own rendering. -/
theorem Child.render_of_asRun {c : Child} {r : List Char} (h : c.asRun? = some r) :
    c.render = r ∧ ∀ d ∈ r, d ≠ '<' ∧ d ≠ '\x7b' := by
  cases c with
  | text s =>
    cases h
    exact ⟨rfl, s.ne⟩
  | _ => cases h

/-- What is no text begins with a bracket or a brace. -/
theorem Child.exists_render {c : Child} (h : c.asRun? = none) :
    ∃ d r, c.render = d :: r ∧ (d = '<' ∨ d = '\x7b') := by
  cases c with
  | tree t =>
    obtain ⟨r, hr⟩ := t.exists_render
    exact ⟨'<', t.opener :: r, hr, Or.inl rfl⟩
  | text s => cases h
  | expression e => exact ⟨'\x7b', _, rfl, Or.inr rfl⟩
  | shown w t => exact ⟨'\x7b', _, rfl, Or.inr rfl⟩
  | either w t u => exact ⟨'\x7b', _, rfl, Or.inr rfl⟩

mutual

/-- **A tree is read up to the end of its text**, whatever stands after it and was read before. -/
theorem readTree : ∀ (x : Tree), AllParts Part.Seen x.parts → ∀ {i : Nat} {s : List Char}
    (t : Trail), src.Ahead i (x.render ++ s) →
      element src i t = (i + x.render.length, t.read x.readEvents)
  | .paired h cs gap, hx, i, s, t, ha => by
    rw [Tree.paired_append] at ha
    have hinside := ha.tail.drop.tail
    have hcontents := readContents cs hx.right [] (by simp) h.name.text
      (t.read (h.readEvents false)) hinside
    rw [List.length_nil, Nat.add_zero] at hcontents
    rw [element_open h t ha, hcontents, inChildren_close _ _ (not_mem_closing h.name gap)
      hinside.drop, Trail.read_read, Trail.read_read]
    simp only [Tree.render, Tree.readEvents, List.length_cons, List.length_append, List.length_nil,
      Prod.mk.injEq, and_true]
    omega
  | .single h, hx, i, s, t, ha => by
    rw [Tree.single_append] at ha
    rw [element_closed h t ha]
    simp only [Tree.render, Tree.readEvents, List.length_cons, List.length_append, List.length_nil,
      Prod.mk.injEq, and_true]
    omega
  | .fragment cs gap, hx, i, s, t, ha => by
    rw [Tree.fragment_append] at ha
    have hinside := ha.tail.tail
    have hcontents := readContents cs hx [] (by simp) "" t hinside
    rw [List.length_nil, Nat.add_zero] at hcontents
    rw [element_eq, if_pos ha.tail.head, hcontents, inChildren_close _ _ gap.not_mem hinside.drop,
      Trail.read_read]
    simp only [Tree.render, Tree.readEvents, List.length_cons, List.length_append, List.length_nil,
      Prod.mk.injEq, and_true]
    omega

/-- What stands inside an element is read up to its end, unless it is a text. -/
theorem readChild : ∀ (c : Child), AllParts Part.Seen c.parts → c.asRun? = none →
    ∀ (tag : String) {j : Nat} {s : List Char} (t : Trail), src.Ahead j (c.render ++ s) →
      inChildren src tag j t = inChildren src tag (j + c.render.length) (t.read c.readEvents)
  | .tree x, hc, _, tag, j, s, t, ha => by
    have hread := readTree x hc t ha
    obtain ⟨hbracket, hslash, hpos⟩ := ahead_tree x ha
    rw [inChildren_eq hbracket, if_pos rfl, if_neg hslash, hread]
    dsimp only
    rw [if_neg (by omega)]
    rfl
  | .text s, _, hrun, _, _, _, _, _ => by cases hrun
  | .expression e, _, _, tag, j, s, t, ha => by
    rw [Child.render, Expression.render_append] at ha
    rw [inChildren_expression tag t ha]
    simp only [Child.render, Child.readEvents, Expression.render, List.length_cons,
      List.length_append, List.length_nil]
    rfl
  | .shown w x, hc, _, tag, j, s, t, ha => by
    rw [Child.shown_append] at ha
    have hlead := ha.tail
    rw [shownText_append] at hlead
    have hread := readTree x hc.tail t hlead.drop.tail.tail
    have hwalk := walk_choice hc.head (w.isPlain_append (List.all_eq_true.mp (by decide))) (by decide) hlead hread
    rw [walk_brace hlead.drop.tail.tail.drop.head, length_shownText] at hwalk
    rw [inChildren_braces tag ha hwalk, Trail.addLiteral, literal_shownText]
    simp only [Child.render, Child.readEvents, shownText, List.length_cons, List.length_append,
      List.length_nil]
    rfl
  | .either w x y, hc, _, tag, j, s, t, ha => by
    rw [Child.either_append] at ha
    have hfirst := ha.tail
    rw [eitherText_append] at hfirst
    have hsecond := hfirst.drop.tail.tail.drop
    have hreadFirst := readTree x hc.tail.tail.left t hfirst.drop.tail.tail
    have hreadSecond := readTree y hc.tail.tail.right (t.read x.readEvents)
      hsecond.drop.tail.tail
    have hwalkFirst := walk_choice hc.head (w.isPlain_append (List.all_eq_true.mp (by decide))) (by decide) hfirst
      hreadFirst
    have hwalkSecond := walk_choice hc.tail.head (List.all_eq_true.mp (by decide)) (by decide) hsecond hreadSecond
    rw [hwalkSecond, walk_brace hsecond.drop.tail.tail.drop.head, length_eitherText] at hwalkFirst
    rw [inChildren_braces tag ha hwalkFirst, Trail.addLiteral, literal_eitherText, Trail.read_read]
    simp only [Child.render, Child.readEvents, eitherText, List.length_cons, List.length_append,
      List.length_nil]
    rfl

/-- Everything that stands inside an element is read up to the closing tag, after a text that
    is not ended yet. -/
theorem readContents : ∀ (cs : List Child), AllParts Part.Seen (Child.partsAll cs) →
    ∀ (p : List Char), (∀ c ∈ p, c ≠ '<' ∧ c ≠ '\x7b') → ∀ (tag : String) {j : Nat}
    {s : List Char} (t : Trail), src.Ahead j (p ++ (Child.renderAll cs ++ '<' :: s)) →
      inChildren src tag j t =
        inChildren src tag (j + p.length + (Child.renderAll cs).length) (t.read (Child.readAll p cs))
  | [], hcs, p, hp, tag, j, s, t, ha => by
    rw [inChildren_run tag t hp (Or.inl rfl) ha]
    rfl
  | c :: cs, hcs, p, hp, tag, j, s, t, ha => by
    cases hrun : c.asRun? with
    | some r =>
      -- The reader does not see where one text ends and the next begins.
      obtain ⟨hr, htext⟩ := Child.render_of_asRun hrun
      have hahead : src.Ahead j ((p ++ r) ++ (Child.renderAll cs ++ '<' :: s)) := by
        rw [Child.renderAll, hr] at ha
        simpa only [List.append_assoc] using ha
      have hpr : ∀ c ∈ p ++ r, c ≠ '<' ∧ c ≠ '\x7b' := by
        intro c hc
        rcases List.mem_append.mp hc with hc | hc
        · exact hp c hc
        · exact htext c hc
      rw [readContents cs hcs.right (p ++ r) hpr tag t hahead, Child.readAll, hrun,
        Child.renderAll, hr]
      simp only [List.length_append, Nat.add_assoc]
    | none =>
      obtain ⟨d, r, hr, hd⟩ := Child.exists_render hrun
      have hpending : src.Ahead j (p ++ d :: (r ++ (Child.renderAll cs ++ '<' :: s))) := by
        rw [Child.renderAll, hr] at ha
        simpa only [List.append_assoc, List.cons_append] using ha
      have hchild : src.Ahead (j + p.length) (c.render ++ (Child.renderAll cs ++ '<' :: s)) := by
        rw [hr]
        exact hpending.drop
      have hcontents := readContents cs hcs.right [] (by simp) tag
        ((t.read (runEvents p)).read c.readEvents) hchild.drop
      rw [List.length_nil, Nat.add_zero] at hcontents
      rw [inChildren_run tag t hp hd hpending, readChild c hcs.left hrun tag _ hchild, hcontents,
        Child.readAll, hrun, Child.renderAll, Trail.read_read, Trail.read_read]
      simp only [List.length_append, Nat.add_assoc]

end

end Affordance.Script
