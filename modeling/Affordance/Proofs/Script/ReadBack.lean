import Affordance.Proofs.Script.TreeReading
import Affordance.Surface.Collector

/-!
# Trees are read back

  * `Alike`: event sequences that do the same to every collection.
  * `alike_readEvents`: without ampersands in its texts, what the reader makes of a tree is
    alike to the events of the tree. Texts that follow each other may be given as one text, an
    empty text and the end of a fragment do nothing.
  * `elementEvents_render`: reading the text of a tree gives the events of the reader and
    nothing else.
  * **`collect_render`**: reading the text of a tree collects what the events of the tree
    collect, as long as the reader takes the tree, and the trees after conditions, for elements.
  * `dollar_unread`: a name that begins with a dollar sign keeps the reader from doing so,
    although it is a name to it inside another element.
-/

namespace Affordance

open Affordance.Text

/-! ## 1. Events that do the same -/

/-- The events do the same to every collection. -/
def Alike (es fs : List TagEvent) : Prop :=
  ∀ (d : Dialect) (c : Collector), es.foldl (Collector.step d) c = fs.foldl (Collector.step d) c

namespace Alike

variable {es fs gs es' fs' : List TagEvent}

theorem refl (es : List TagEvent) : Alike es es := fun _ _ => rfl

theorem trans (h : Alike es fs) (g : Alike fs gs) : Alike es gs := fun d c => (h d c).trans (g d c)

theorem append (h : Alike es fs) (g : Alike es' fs') : Alike (es ++ es') (fs ++ fs') := by
  intro d c
  rw [List.foldl_append, List.foldl_append, h, g]

theorem collect (h : Alike es fs) (d : Dialect) :
    Collector.collect d es = Collector.collect d fs := by
  rw [Collector.collect, Collector.collect, h]

end Alike

namespace Collector

theorem addText_empty (c : Collector) : c.addText "" = c := by
  have hframe : ∀ (m : Bool) (f : Frame), Frame.addText m "" f = f := by
    intro m f
    unfold Frame.addText
    rw [String.append_empty]
    split
    · split <;> rfl
    all_goals rfl
  unfold addText
  rw [List.map_congr_left fun f _ => hframe _ f, List.map_id']

theorem addText_append (c : Collector) (s u : String) :
    c.addText (s ++ u) = (c.addText s).addText u := by
  have hframe : ∀ (m : Bool) (f : Frame),
      Frame.addText m (s ++ u) f = Frame.addText m u (Frame.addText m s f) := by
    intro m f
    obtain ⟨tag, role, element, labelFor, value, text, serial⟩ := f
    cases role <;> cases m <;> simp [Frame.addText, String.append_assoc]
  unfold addText
  rw [List.map_map]
  congr 1
  exact List.map_congr_left fun f _ => hframe _ f

end Collector

/-- An empty text does nothing. -/
theorem alike_empty : Alike [.text ""] [] := fun _ c => c.addText_empty

/-- Two texts do what they do as one. -/
theorem alike_text (s u : String) : Alike [.text (s ++ u)] [.text s, .text u] :=
  fun _ c => c.addText_append s u

/-- A closing tag without a name does nothing. -/
theorem alike_close : Alike [.close ""] [] := by
  intro d c
  show c.closeTag d "" = c
  rw [Collector.closeTag, if_pos rfl]

namespace Script

/-! ## 2. What the reader makes of a tree -/

/-- A text without ampersands, or a tree that is taken for an element. -/
def Part.Plain : Part → Prop
  | .string q => '&' ∉ q.chars
  | .text s => '&' ∉ s.chars
  | .choice opener => opener ≠ '$'

instance : DecidablePred Part.Plain
  | .string q => inferInstanceAs (Decidable ('&' ∉ q.chars))
  | .text s => inferInstanceAs (Decidable ('&' ∉ s.chars))
  | .choice opener => inferInstanceAs (Decidable (opener ≠ '$'))

theorem Part.Plain.seen : ∀ p : Part, p.Plain → p.Seen
  | .string _, _ => trivial
  | .text _, _ => trivial
  | .choice _, h => h

/-- Attributes without ampersands are read as they stand. -/
theorem Attribute.plain {a : Attribute} (h : AllParts Part.Plain a.parts) :
    a.value.refusals = [] ∧ a.entry unescape = a.entry id := by
  obtain ⟨gap, name, value, apart⟩ := a
  cases value with
  | flag => exact ⟨rfl, rfl⟩
  | expression before after e => exact ⟨rfl, rfl⟩
  | quoted before after q =>
    have hq : '&' ∉ q.chars := h.head
    refine ⟨?_, ?_⟩
    · simp only [Value.refusals, longReference?_eq_none hq]
      rfl
    · simp only [Attribute.entry, Value.text, unescape_eq_self hq, id]

theorem Head.readEvents_plain {h : Head} {selfClosing : Bool}
    (hp : AllParts Part.Plain (h.attributes.flatMap Attribute.parts)) :
    h.readEvents selfClosing = [h.opening id selfClosing] := by
  have hplain : ∀ a ∈ h.attributes, a.value.refusals = [] ∧ a.entry unescape = a.entry id :=
    fun a ha => Attribute.plain fun p hpa => hp p (List.mem_flatMap.mpr ⟨a, ha, hpa⟩)
  have hrefusals : h.attributes.flatMap (·.value.refusals) = [] :=
    List.flatMap_eq_nil_iff.mpr fun a ha => (hplain a ha).1
  have hentries : h.attributes.map (Attribute.entry unescape) =
      h.attributes.map (Attribute.entry id) :=
    List.map_congr_left fun a ha => (hplain a ha).2
  rw [Head.readEvents, hrefusals, Head.opening, hentries]
  rfl

/-- A text without ampersands is read as it stands. -/
theorem alike_runEvents {s : List Char} (h : '&' ∉ s) :
    Alike (runEvents s) [.text (String.ofList s)] := by
  unfold runEvents
  split
  · rename_i hs
    subst hs
    exact fun d c => (alike_empty d c).symm
  · rw [longReference?_eq_none h, unescape_eq_self h]
    exact Alike.refl _

/-- A text between tags has its own event. -/
theorem Child.events_of_asRun {c : Child} {r : List Char} (h : c.asRun? = some r)
    (hp : AllParts Part.Plain c.parts) :
    c.events = [.text (String.ofList r)] ∧ '&' ∉ r := by
  cases c with
  | text s =>
    cases h
    exact ⟨rfl, hp.head⟩
  | _ => cases h

mutual

/-- **Without ampersands the reader makes of a tree what its events make.** -/
theorem alike_readEvents : ∀ (x : Tree), AllParts Part.Plain x.parts → Alike x.readEvents x.events
  | .paired h cs gap, hx => by
    have hcontents := (alike_readAll cs hx.right [] (by simp)).trans
      (alike_empty.append (Alike.refl _))
    rw [Tree.readEvents, Tree.events, Head.readEvents_plain hx.left]
    exact (Alike.refl [_]).append (hcontents.append (Alike.refl _))
  | .single h, hx => by
    rw [Tree.readEvents, Tree.events, Head.readEvents_plain hx]
    exact Alike.refl _
  | .fragment cs gap, hx => by
    have hcontents := (alike_readAll cs hx [] (by simp)).trans
      (alike_empty.append (Alike.refl _))
    have hclose := hcontents.append alike_close
    rwa [List.nil_append, List.append_nil] at hclose

/-- The same for what stands inside an element. -/
theorem alike_readChild : ∀ (c : Child), AllParts Part.Plain c.parts → Alike c.readEvents c.events
  | .tree x, hc => alike_readEvents x hc
  | .text _, hc => alike_runEvents hc.head
  | .expression _, _ => Alike.refl _
  | .shown _ x, hc => alike_readEvents x hc.tail
  | .either _ x y, hc =>
    (alike_readEvents x hc.tail.tail.left).append (alike_readEvents y hc.tail.tail.right)

/-- The same for everything that stands inside an element, after a text that is not ended yet. -/
theorem alike_readAll : ∀ (cs : List Child), AllParts Part.Plain (Child.partsAll cs) →
    ∀ (p : List Char), '&' ∉ p →
      Alike (Child.readAll p cs) (.text (String.ofList p) :: Child.eventsAll cs)
  | [], _, p, hp => alike_runEvents hp
  | c :: cs, hcs, p, hp => by
    rw [Child.readAll, Child.eventsAll]
    cases hrun : c.asRun? with
    | some r =>
      -- Two texts without ampersands hold no reference together either.
      obtain ⟨hevents, hr⟩ := Child.events_of_asRun hrun hcs.left
      have hpr : '&' ∉ p ++ r := by
        intro hmem
        rcases List.mem_append.mp hmem with hmem | hmem
        · exact hp hmem
        · exact hr hmem
      have htexts := alike_text (String.ofList p) (String.ofList r)
      rw [← String.ofList_append] at htexts
      rw [hevents]
      exact (alike_readAll cs hcs.right (p ++ r) hpr).trans (htexts.append (Alike.refl _))
    | none =>
      have hcontents := (alike_readAll cs hcs.right [] (by simp)).trans
        (alike_empty.append (Alike.refl _))
      exact (alike_runEvents hp).append ((alike_readChild c hcs.left).append hcontents)

end

/-! ## 3. Reading a whole text -/

/-- A text that begins with a tree opens a tag, unless its name begins with a dollar sign. -/
theorem canOpenTag_first {src : Source} {x : Tree} {s : List Char} (hx : x.opener ≠ '$')
    (h : src.Ahead 0 (x.render ++ s)) : canOpenTag src 0 = true := by
  obtain ⟨r, hr⟩ := x.exists_render
  rw [hr] at h
  have hnext : src[0 + 1]? = some x.opener := h.tail.head
  unfold canOpenTag
  rw [hnext]
  dsimp only
  rw [Tree.isOpener_of_ne hx]
  rfl

/-- **The text of a tree is read as the tree and nothing else**, if the reader takes the tree,
    and the trees after conditions, for elements. -/
theorem elementEvents_render (x : Tree) (hroot : x.opener ≠ '$')
    (hparts : AllParts Part.Seen x.parts) :
    elementEvents (Source.of (String.ofList x.render)) = (x.readEvents, none) := by
  generalize hsrc : Source.of (String.ofList x.render) = src
  have hahead : src.Ahead 0 (x.render ++ []) := by
    have := Source.ahead_of (String.ofList x.render)
    rwa [hsrc, String.toList_ofList, ← List.append_nil x.render] at this
  have hsize : src.size = x.render.length := by
    rw [← hsrc, Source.size_of, String.toList_ofList]
  have hread := readTree x hparts {} hahead
  obtain ⟨r, hr⟩ := x.exists_render
  have hfirst : src[0]? = some '<' := by
    rw [hr] at hahead
    exact hahead.head
  have hmove : move src [] 0 0 '<' = .tag := by
    simp [move, isOpener, isCloser, canOpenTag_first hroot hahead]
  have hpos : 0 < x.render.length := by
    rw [hr]
    exact Nat.succ_pos _
  have hwalk : walk src [] 0 0 {} = (src.size, Trail.read {} x.readEvents) := by
    rw [walk_eq hfirst, hmove, hread]
    dsimp only
    rw [if_pos (by omega), walk_end hahead.drop.none_of_nil]
  have hstop : ∀ (n : Nat) (t : Trail), walkAll src n (src.size + 1) t = t := by
    intro n t
    cases n with
    | zero => rfl
    | succ n =>
      unfold walkAll
      rw [if_neg (by omega)]
  have hall : walkAll src (src.size + 1) 0 {} = Trail.read {} x.readEvents := by
    unfold walkAll
    rw [if_pos (by omega), show walkFrom src [] (fuelFor src) 0 0 {} = walk src [] 0 0 {} from rfl,
      hwalk]
    exact hstop _ _
  unfold elementEvents
  rw [hall]
  simp [Trail.read]

/-- **Trees are read back**: without ampersands in its texts, reading the text of a tree collects
    what the events of the tree collect, and finds no form library, if the reader takes the
    tree, and the trees after conditions, for elements. -/
theorem collect_render (x : Tree) (hroot : x.opener ≠ '$') (hparts : AllParts Part.Plain x.parts) :
    (∀ d : Dialect, Collector.collect d (elementEvents (Source.of (String.ofList x.render))).1 =
      Collector.collect d x.events) ∧
    (elementEvents (Source.of (String.ofList x.render))).2 = none := by
  rw [elementEvents_render x hroot (hparts.imp Part.Plain.seen)]
  exact ⟨fun d => (alike_readEvents x hparts).collect d, rfl⟩

/-! ## 4. Names that begin with a dollar sign -/

instance {P : Part → Prop} [DecidablePred P] {ps : List Part} : Decidable (AllParts P ps) :=
  inferInstanceAs (Decidable (∀ p ∈ ps, P p))

/-- A tag with a text, and with an input that is shown under a condition. -/
def rowOf (name : Name) : Tree :=
  .paired { name } [
    .text { chars := "it's ".toList },
    .shown { first := 'o', rest := ['k'] } (.single {
      name := { first := 'i', rest := "nput".toList }
      attributes := [.quoted { first := 'n', rest := "ame".toList } ['a'] (by decide)] })] .empty

/-- **A name that begins with a dollar sign is no name at the beginning**: the text of the tag is
    read as code, where its apostrophe begins a string, and the input is not found. Under
    another name the tree is read back. -/
theorem dollar_unread :
    (String.ofList (rowOf { first := 'R', rest := "ow".toList }).render =
        "<Row>it's \x7bok && <input name=\"a\"/>\x7d</Row>" ∧
      Collector.collect .script (elementEvents (Source.of
        (String.ofList (rowOf { first := 'R', rest := "ow".toList }).render))).1 =
        Collector.collect .script (rowOf { first := 'R', rest := "ow".toList }).events) ∧
    (String.ofList (rowOf { first := '$', rest := "Row".toList }).render =
        "<$Row>it's \x7bok && <input name=\"a\"/>\x7d</$Row>" ∧
      (Collector.collect .script (elementEvents (Source.of
        (String.ofList (rowOf { first := '$', rest := "Row".toList }).render))).1).toOption.map
          (·.elements.length) = some 0 ∧
      (Collector.collect .script (rowOf { first := '$', rest := "Row".toList }).events).toOption.map
          (·.elements.length) = some 1) := by
  refine ⟨⟨by decide +kernel, ?_⟩, by decide +kernel, by decide +kernel, by decide +kernel⟩
  exact (collect_render _ (by decide) (by decide)).1 .script

end Script

end Affordance
