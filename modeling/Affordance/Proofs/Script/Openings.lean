import Mathlib.Data.List.Nodup
import Mathlib.Data.List.Perm.Subperm
import Affordance.Proofs.Markup.Walk
import Affordance.Proofs.Script.Reading

/-!
# Which tags are opened, and how often

An element that breaks off inside its tag is given back to the walk, which reads the same text
once more. The elements inside its attributes were opened by then, and stay opened.

  * `Opening`: one tag that was opened, by the position of its angle bracket, and whether it
    was LOST, that is, read inside an element that was then given up.
  * `openings`: the openings of a whole text, along the walks of the reader.
  * `Logged`: the invariant of every walk. The openings are the tags that the reader adds to
    its trail, they stand at angle brackets, and those that are kept stand inside the text that
    the walk passes, at different positions. Walks that follow each other pass different texts,
    so a log is composed of logs (`Logged.append`); giving up keeps nothing (`Logged.giveUp`).
  * **`openings_logged`**: the invariant of the reader, hence of every text; the openings that
    are kept are at most as many as the angle brackets.
  * `comment_opens_twice`: a comment between attributes makes the reader collect more elements
    than there are angle brackets.
-/

namespace Affordance.Script

open Affordance.Text

/-! ## 1. Openings -/

/-- A tag that was opened. -/
structure Opening where
  /-- The position of its angle bracket. -/
  position : Nat
  /-- An element around it was given up, and its text is read once more. -/
  lost : Bool := false
  deriving Repr, DecidableEq

/-- The opening after an element around it was given up. -/
def Opening.giveUp (m : Opening) : Opening := { m with lost := true }

/-- The positions of the openings that are not lost. -/
def kept (ms : List Opening) : List Nat := (ms.filter (!·.lost)).map (·.position)

mutual

/-- The tags that `walkFrom` opens. -/
def walkOpenings (src : Source) (closers : List Char) : Nat → Nat → Nat → Trail → List Opening
  | 0, _, _, _ => []
  | fuel + 1, depth, i, t =>
    match src[i]? with
    | none => []
    | some c =>
      match move src closers depth i c with
      | .stop => []
      | .jump j => walkOpenings src closers fuel depth j t
      | .template => walkOpenings src closers fuel depth (pastTemplate src i) t
      | .opens => walkOpenings src closers fuel (depth + 1) (i + 1) t
      | .closes => walkOpenings src closers fuel (depth - 1) (i + 1) t
      | .tag =>
        let r := readElement src fuel i t
        elementOpenings src fuel i t ++
          walkOpenings src closers fuel depth (if i < r.1 then r.1 else i + 1) r.2
      | .plain => walkOpenings src closers fuel depth (i + 1) t
termination_by structural fuel => fuel

/-- The tags that `readElement` opens; an element that ends where it begins is given up. -/
def elementOpenings (src : Source) : Nat → Nat → Trail → List Opening
  | 0, _, _ => []
  | fuel + 1, i, t =>
    let ms :=
      if src[i + 1]? = some '>' then childrenOpenings src "" fuel (i + 2) t
      else
        match tagNameEnd src (i + 1) with
        | none => []
        | some j => attributeOpenings src i fuel { tag := src.text (i + 1) j } j t
    if (readElement src (fuel + 1) i t).1 = i then ms.map Opening.giveUp else ms
termination_by structural fuel => fuel

/-- The tags that `readAttributes` opens: those inside the attributes, then the tag itself and
    those inside the element. -/
def attributeOpenings (src : Source) (start : Nat) : Nat → OpenTag → Nat → Trail → List Opening
  | 0, _, _, _ => []
  | fuel + 1, o, j, t =>
    match tagPart src j with
    | .broken => []
    | .selfClosing _ => [{ position := start }]
    | .ending k => { position := start } :: childrenOpenings src o.tag fuel k (t.addTag o false)
    | .spread k =>
      let r := walkFrom src ['\x7d'] fuel 0 k t
      walkOpenings src ['\x7d'] fuel 0 k t ++
        attributeOpenings src start fuel (o.withSpread (strip (src.slice k r.1))) (r.1 + 1) r.2
    | .quoted name value k =>
      attributeOpenings src start fuel (o.withText name (String.ofList (unescape value))) k
        (t.checkMeant value)
    | .expression name k =>
      let r := walkFrom src ['\x7d'] fuel 0 k t
      walkOpenings src ['\x7d'] fuel 0 k t ++
        attributeOpenings src start fuel (o.withExpression name (strip (src.slice k r.1)))
          (r.1 + 1) r.2
    | .flag name k => attributeOpenings src start fuel (o.withText name "true") k t
termination_by structural fuel => fuel

/-- The tags that `readChildren` opens. -/
def childrenOpenings (src : Source) (tag : String) : Nat → Nat → Trail → List Opening
  | 0, _, _ => []
  | fuel + 1, j, t =>
    match src[j]? with
    | none => []
    | some c =>
      if c = '<' then
        if src[j + 1]? = some '/' then []
        else
          let r := readElement src fuel j t
          elementOpenings src fuel j t ++
            if r.1 = j then childrenOpenings src tag fuel (j + 1) (r.2.add (.text "<"))
            else childrenOpenings src tag fuel r.1 r.2
      else if c = '\x7b' then
        let r := walkFrom src ['\x7d'] fuel 0 (j + 1) t
        walkOpenings src ['\x7d'] fuel 0 (j + 1) t ++
          childrenOpenings src tag fuel (r.1 + 1) (r.2.addLiteral (src.slice (j + 1) r.1))
      else childrenOpenings src tag fuel (textEnd src j) (t.addMeant (src.slice j (textEnd src j)))
termination_by structural fuel => fuel

end

/-- The openings of a text, along `walkAll`. -/
def openingsFrom (src : Source) : Nat → Nat → Trail → List Opening
  | 0, _, _ => []
  | n + 1, i, t =>
    if i < src.size then
      let r := walkFrom src [] (fuelFor src) 0 i t
      walkOpenings src [] (fuelFor src) 0 i t ++ openingsFrom src n (r.1 + 1) r.2
    else []

/-- The tags that are opened when a text is read. -/
def openings (src : Source) : List Opening := openingsFrom src (src.size + 1) 0 {}

/-! ## 2. Logs -/

/-- The name of the tag whose angle bracket stands at the position. -/
def tagAt (src : Source) (i : Nat) : String :=
  src.text (i + 1) ((tagNameEnd src (i + 1)).getD (i + 1))

/-- The name of the tag that an event opens. -/
def openedBy : TagEvent → Option String
  | .open_ tag _ _ _ _ => some tag
  | _ => none

/-- The names of the tags that a trail opens, in order. -/
def Trail.opened (t : Trail) : List String := t.events.reverse.filterMap openedBy

namespace Trail

theorem opened_add (t : Trail) (e : TagEvent) :
    (t.add e).opened = t.opened ++ (openedBy e).toList := by
  unfold opened add
  rw [List.reverse_cons, List.filterMap_append]
  cases h : openedBy e with
  | none => rw [List.filterMap_cons_none h]; rfl
  | some tag => rw [List.filterMap_cons_some h]; rfl

theorem opened_addMeant (t : Trail) (s : List Char) : (t.addMeant s).opened = t.opened := by
  unfold addMeant
  cases longReference? s <;> simp [opened_add, openedBy]

theorem opened_checkMeant (t : Trail) (s : List Char) : (t.checkMeant s).opened = t.opened := by
  unfold checkMeant
  cases longReference? s <;> simp [opened_add, openedBy]

theorem opened_addLiteral (t : Trail) (expr : List Char) :
    (t.addLiteral expr).opened = t.opened := by
  unfold addLiteral
  cases literal expr <;> simp [opened_add, openedBy]

theorem opened_addTag (t : Trail) (o : OpenTag) (selfClosing : Bool) :
    (t.addTag o selfClosing).opened = t.opened ++ [o.tag] := by
  simp [opened, addTag, openedBy]

end Trail

/-- What a walk from one trail to another opens, where the kept openings stand at positions
    that satisfy `P`. -/
structure Logged (src : Source) (P : Nat → Prop) (t t' : Trail) (ms : List Opening) : Prop where
  opened : t'.opened = t.opened ++ ms.map fun m => tagAt src m.position
  angle : ∀ m ∈ ms, src[m.position]? = some '<'
  within : ∀ p ∈ kept ms, P p
  once : (kept ms).Nodup

namespace Logged

variable {src : Source} {P Q : Nat → Prop} {t t' t'' : Trail} {ms ns : List Opening}

theorem kept_append (ms ns : List Opening) : kept (ms ++ ns) = kept ms ++ kept ns := by
  simp [kept]

theorem kept_giveUp (ms : List Opening) : kept (ms.map Opening.giveUp) = [] := by
  simp [kept, List.filter_map, Function.comp_def, Opening.giveUp]

/-- A kept opening stands inside the text. -/
theorem lt_size (h : Logged src P t t' ms) {p : Nat} (hp : p ∈ kept ms) : p < src.size := by
  obtain ⟨m, hm, rfl⟩ := List.mem_map.mp hp
  exact Script.lt_size (h.angle m (List.mem_filter.mp hm).1)

/-- A walk that opens nothing. -/
theorem nil (h : t'.opened = t.opened) : Logged src P t t' [] := by
  refine ⟨?_, ?_, ?_, ?_⟩
  · rw [h, List.map_nil, List.append_nil]
  · intro m hm
    cases hm
  · intro p hp
    cases hp
  · exact List.nodup_nil

/-- The tag at a position is opened. -/
theorem own {start : Nat} {o : OpenTag} (selfClosing : Bool) (hangle : src[start]? = some '<')
    (ho : o.tag = tagAt src start) :
    Logged src (· = start) t (t.addTag o selfClosing) [{ position := start }] := by
  refine ⟨?_, ?_, ?_, ?_⟩
  · rw [Trail.opened_addTag, ho]
    rfl
  · intro m hm
    rw [List.mem_singleton.mp hm]
    exact hangle
  · intro p hp
    exact List.mem_singleton.mp hp
  · exact List.nodup_singleton start

/-- The log of a walk and of the walk after it, which passes another text. -/
theorem append (h : Logged src P t t' ms) (g : Logged src Q t' t'' ns)
    (apart : ∀ p < src.size, P p → ¬ Q p) :
    Logged src (fun p => P p ∨ Q p) t t'' (ms ++ ns) := by
  refine ⟨?_, ?_, ?_, ?_⟩
  · rw [g.opened, h.opened, List.map_append, List.append_assoc]
  · intro m hm
    rcases List.mem_append.mp hm with hm | hm
    · exact h.angle m hm
    · exact g.angle m hm
  · intro p hp
    rw [kept_append] at hp
    rcases List.mem_append.mp hp with hp | hp
    · exact Or.inl (h.within p hp)
    · exact Or.inr (g.within p hp)
  · rw [kept_append, List.nodup_append]
    refine ⟨h.once, g.once, fun p hp q hq hpq => ?_⟩
    subst hpq
    exact apart p (h.lt_size hp) (h.within p hp) (g.within p hq)

/-- What is known of the positions of a log may be weakened. -/
theorem weaken (h : Logged src P t t' ms) (hPQ : ∀ p < src.size, P p → Q p) :
    Logged src Q t t' ms :=
  ⟨h.opened, h.angle, fun p hp => hPQ p (h.lt_size hp) (h.within p hp), h.once⟩

/-- Before a walk comes a step that opens nothing. -/
theorem after (h : Logged src P t' t'' ms) (ht : t'.opened = t.opened) : Logged src P t t'' ms :=
  ⟨ht ▸ h.opened, h.angle, h.within, h.once⟩

/-- An element that is given up keeps nothing of what was opened inside it. -/
theorem giveUp (h : Logged src P t t' ms) :
    Logged src (fun _ => False) t t' (ms.map Opening.giveUp) := by
  refine ⟨?_, ?_, ?_, ?_⟩
  · rw [h.opened, List.map_map]
    rfl
  · intro m hm
    obtain ⟨n, hn, rfl⟩ := List.mem_map.mp hm
    exact h.angle n hn
  · intro p hp
    rw [kept_giveUp] at hp
    cases hp
  · rw [kept_giveUp]
    exact List.nodup_nil

end Logged

/-! ## 3. The invariant of the reader -/

/-- The log of a walk that begins at `i` and gives `r`: what it keeps stands in the text that it
    passes. -/
abbrev WalkLogged (src : Source) (i : Nat) (t : Trail) (r : Nat × Trail) (ms : List Opening) :
    Prop :=
  Logged src (fun p => i ≤ p ∧ p < r.1) t r.2 ms

/-- The log of the rest of a tag that begins at `start`, from `j` on. The tag is opened after its
    attributes were read, so its own position is among those of the log; and a tag that breaks
    off ends where it begins, which bounds nothing. -/
abbrev TagLogged (src : Source) (start j : Nat) (t : Trail) (r : Nat × Trail) (ms : List Opening) :
    Prop :=
  Logged src (fun p => (p = start ∨ j ≤ p) ∧ (r.1 ≠ start → p < r.1)) t r.2 ms

/-- The logs of the walks of the reader. -/
structure ReaderLogged (src : Source) (fuel : Nat) : Prop where
  walk : ∀ closers depth i t, WalkLogged src i t (walkFrom src closers fuel depth i t)
    (walkOpenings src closers fuel depth i t)
  element : ∀ i t, src[i]? = some '<' →
    WalkLogged src i t (readElement src fuel i t) (elementOpenings src fuel i t)
  attributes : ∀ start o j t, src[start]? = some '<' → o.tag = tagAt src start → start < j →
    TagLogged src start j t (readAttributes src start fuel o j t)
      (attributeOpenings src start fuel o j t)
  children : ∀ tag j t, WalkLogged src j t (readChildren src tag fuel j t)
    (childrenOpenings src tag fuel j t)

theorem eq_of_move_tag {src : Source} {closers : List Char} {depth i : Nat} {c : Char}
    (h : move src closers depth i c = .tag) : c = '<' := by
  unfold move slashMove at h
  grind

namespace OpenTag

theorem tag_withExpression (o : OpenTag) (name : String) (expr : List Char) :
    (o.withExpression name expr).tag = o.tag := by
  unfold withExpression
  cases literal expr <;> rfl

theorem tag_withSpread (o : OpenTag) (expr : List Char) : (o.withSpread expr).tag = o.tag := by
  unfold withSpread
  split <;> rfl

end OpenTag

namespace ReaderLogged

variable {src : Source} {fuel : Nat} (l : ReaderLogged src fuel)

include l

theorem walk_next (closers : List Char) (depth i : Nat) (t : Trail) :
    WalkLogged src i t (walkFrom src closers (fuel + 1) depth i t)
      (walkOpenings src closers (fuel + 1) depth i t) := by
  unfold walkFrom walkOpenings
  cases hc : src[i]? with
  | none => exact Logged.nil rfl
  | some c =>
    have hi := lt_size hc
    dsimp only
    cases hm : move src closers depth i c with
    | stop => exact Logged.nil rfl
    | jump j =>
      have hj := lt_of_jump hc hm
      exact (l.walk closers depth j t).weaken fun p _ hp => ⟨by omega, hp.2⟩
    | template =>
      have hj := (le_skipFrom src (fuelFor src)).2 (i + 1)
      refine (l.walk closers depth (pastTemplate src i) t).weaken fun p hsize hp => ⟨?_, hp.2⟩
      have hle : pastTemplate src i ≤ p := hp.1
      unfold pastTemplate at hle
      omega
    | opens => exact (l.walk closers (depth + 1) (i + 1) t).weaken fun p _ hp => ⟨by omega, hp.2⟩
    | closes => exact (l.walk closers (depth - 1) (i + 1) t).weaken fun p _ hp => ⟨by omega, hp.2⟩
    | tag =>
      -- An element that is given up is walked over once more, but nothing of it was kept.
      obtain rfl := eq_of_move_tag hm
      have helement := l.element i t hc
      have hforward := (forward src fuel).element i t
      dsimp only
      generalize readElement src fuel i t = r at *
      have hnext : i < (if i < r.1 then r.1 else i + 1) ∧
          r.1 ≤ (if i < r.1 then r.1 else i + 1) := by
        split <;> omega
      generalize (if i < r.1 then r.1 else i + 1) = next at *
      have hwalk := l.walk closers depth next r.2
      have hend := (forward src fuel).walk closers depth next r.2
      generalize walkFrom src closers fuel depth next r.2 = w at *
      refine (helement.append hwalk fun p hp h => ?_).weaken fun p hp h => ?_
      · omega
      · omega
    | plain => exact (l.walk closers depth (i + 1) t).weaken fun p _ hp => ⟨by omega, hp.2⟩

theorem element_next (i : Nat) (t : Trail) (hi : src[i]? = some '<') :
    WalkLogged src i t (readElement src (fuel + 1) i t) (elementOpenings src (fuel + 1) i t) := by
  -- Before it is known whether the element is given up, its log is that of a tag.
  have hinside : TagLogged src i i t (readElement src (fuel + 1) i t)
      (if src[i + 1]? = some '>' then childrenOpenings src "" fuel (i + 2) t
        else
          match tagNameEnd src (i + 1) with
          | none => []
          | some j => attributeOpenings src i fuel { tag := src.text (i + 1) j } j t) := by
    unfold readElement
    split
    · exact (l.children "" (i + 2) t).weaken fun p _ hp => by omega
    · cases hn : tagNameEnd src (i + 1) with
      | none => exact Logged.nil rfl
      | some j =>
        have hj := (lt_tagNameEnd hn).1
        have htag : src.text (i + 1) j = tagAt src i := by
          rw [tagAt, hn]
          rfl
        refine (l.attributes i _ j t hi htag (by omega)).weaken fun p _ hp => ?_
        exact ⟨by omega, hp.2⟩
  unfold elementOpenings
  by_cases hgiven : (readElement src (fuel + 1) i t).1 = i
  · dsimp only
    rw [if_pos hgiven]
    exact hinside.giveUp.weaken fun p _ hp => hp.elim
  · dsimp only
    rw [if_neg hgiven]
    exact hinside.weaken fun p _ hp => ⟨by omega, hp.2 hgiven⟩

/-- An expression inside a tag, and the attributes after it. -/
theorem after_expression (start : Nat) (o : OpenTag) (j k : Nat) (t : Trail)
    (hi : src[start]? = some '<') (ho : o.tag = tagAt src start) (hk : start < j ∧ j < k) :
    TagLogged src start j t
      (readAttributes src start fuel o ((walkFrom src ['\x7d'] fuel 0 k t).1 + 1)
        (walkFrom src ['\x7d'] fuel 0 k t).2)
      (walkOpenings src ['\x7d'] fuel 0 k t ++
        attributeOpenings src start fuel o ((walkFrom src ['\x7d'] fuel 0 k t).1 + 1)
          (walkFrom src ['\x7d'] fuel 0 k t).2) := by
  have hwalk := l.walk ['\x7d'] 0 k t
  have hforward := (forward src fuel).walk ['\x7d'] 0 k t
  generalize walkFrom src ['\x7d'] fuel 0 k t = w at *
  have hstart := lt_size hi
  by_cases hw : start < w.1 + 1
  · have hrest := l.attributes start o (w.1 + 1) w.2 hi ho hw
    have hend := (forward src fuel).attributes start o (w.1 + 1) w.2
    generalize readAttributes src start fuel o (w.1 + 1) w.2 = r at *
    refine (hwalk.append hrest fun p hp h => ?_).weaken fun p hp h => ?_
    · omega
    · omega
  · omega

theorem attributes_next (start : Nat) (o : OpenTag) (j : Nat) (t : Trail)
    (hi : src[start]? = some '<') (ho : o.tag = tagAt src start) (hj : start < j) :
    TagLogged src start j t (readAttributes src start (fuel + 1) o j t)
      (attributeOpenings src start (fuel + 1) o j t) := by
  rw [readAttributes_succ]
  unfold attributeOpenings
  cases hp : tagPart src j with
  | broken => exact Logged.nil rfl
  | selfClosing k =>
    have hk := lt_tagPart (by rw [hp]; rfl : (tagPart src j).next? = some k)
    exact (Logged.own true hi ho).weaken fun p _ h => by dsimp only; omega
  | ending k =>
    have hk := lt_tagPart (by rw [hp]; rfl : (tagPart src j).next? = some k)
    have hchildren := l.children o.tag k (t.addTag o false)
    have hend := (forward src fuel).children o.tag k (t.addTag o false)
    refine ((Logged.own false hi ho).append hchildren fun p _ h => ?_).weaken fun p hp h => ?_
    · omega
    · dsimp only
      omega
  | spread k =>
    have hk := lt_tagPart (by rw [hp]; rfl : (tagPart src j).next? = some k)
    exact l.after_expression start _ j k t hi (by rw [OpenTag.tag_withSpread, ho]) ⟨hj, hk.1⟩
  | quoted name value k =>
    have hk := lt_tagPart (by rw [hp]; rfl : (tagPart src j).next? = some k)
    have hrest := l.attributes start (o.withText name (String.ofList (unescape value))) k
      (t.checkMeant value) hi ho (by omega)
    refine (hrest.weaken fun p _ h => ?_).after (t.opened_checkMeant value)
    exact ⟨by omega, h.2⟩
  | expression name k =>
    have hk := lt_tagPart (by rw [hp]; rfl : (tagPart src j).next? = some k)
    exact l.after_expression start _ j k t hi (by rw [OpenTag.tag_withExpression, ho]) ⟨hj, hk.1⟩
  | flag name k =>
    have hk := lt_tagPart (by rw [hp]; rfl : (tagPart src j).next? = some k)
    have hrest := l.attributes start (o.withText name "true") k t hi ho (by omega)
    exact hrest.weaken fun p _ h => ⟨by omega, h.2⟩

theorem children_next (tag : String) (j : Nat) (t : Trail) :
    WalkLogged src j t (readChildren src tag (fuel + 1) j t)
      (childrenOpenings src tag (fuel + 1) j t) := by
  unfold readChildren childrenOpenings
  cases hc : src[j]? with
  | none => exact Logged.nil (by simp [Trail.opened_add, openedBy])
  | some c =>
    have hj := lt_size hc
    dsimp only
    by_cases hlt : c = '<'
    · subst hlt
      rw [if_pos rfl, if_pos rfl]
      split
      · exact Logged.nil (by simp [Trail.opened_add, openedBy])
      · have helement := l.element j t hc
        have hforward := (forward src fuel).element j t
        generalize readElement src fuel j t = r at *
        split
        · have hrest := (l.children tag (j + 1) (r.2.add (.text "<"))).after (t := r.2)
            (by simp [Trail.opened_add, openedBy])
          have hend := (forward src fuel).children tag (j + 1) (r.2.add (.text "<"))
          refine (helement.append hrest fun p _ h => ?_).weaken fun p hp h => ?_ <;> omega
        · have hrest := l.children tag r.1 r.2
          have hend := (forward src fuel).children tag r.1 r.2
          refine (helement.append hrest fun p _ h => ?_).weaken fun p hp h => ?_ <;> omega
    · rw [if_neg hlt, if_neg hlt]
      by_cases hbrace : c = '\x7b'
      · rw [if_pos hbrace, if_pos hbrace]
        have hwalk := l.walk ['\x7d'] 0 (j + 1) t
        have hforward := (forward src fuel).walk ['\x7d'] 0 (j + 1) t
        generalize walkFrom src ['\x7d'] fuel 0 (j + 1) t = w at *
        have hrest := l.children tag (w.1 + 1) (w.2.addLiteral (src.slice (j + 1) w.1))
        have hend := (forward src fuel).children tag (w.1 + 1)
          (w.2.addLiteral (src.slice (j + 1) w.1))
        have hlog := hwalk.append (hrest.after (w.2.opened_addLiteral _)) fun p _ h => by omega
        refine hlog.weaken fun p hp h => ⟨by omega, ?_⟩
        rcases h with h | h
        · exact Nat.lt_of_lt_of_le (by omega : p < min (w.1 + 1) src.size) hend
        · exact h.2
      · rw [if_neg hbrace, if_neg hbrace]
        have hrun := lt_textEnd hc hlt hbrace
        have hrest := l.children tag (textEnd src j) (t.addMeant (src.slice j (textEnd src j)))
        refine (hrest.weaken fun p _ h => ?_).after (t.opened_addMeant _)
        exact ⟨by omega, h.2⟩

end ReaderLogged

/-- **Every walk of the reader is logged**, by induction on the fuel. -/
theorem readerLogged (src : Source) : ∀ fuel, ReaderLogged src fuel
  | 0 => ⟨fun _ _ _ _ => Logged.nil rfl, fun _ _ _ => Logged.nil rfl,
      fun _ _ _ _ _ _ _ => Logged.nil rfl, fun _ _ _ => Logged.nil rfl⟩
  | fuel + 1 =>
    have l := readerLogged src fuel
    ⟨l.walk_next, l.element_next, l.attributes_next, l.children_next⟩

/-- The log of a whole text from a position on. -/
theorem openingsFrom_logged (src : Source) : ∀ (n i : Nat) (t : Trail),
    Logged src (fun p => i ≤ p) t (walkAll src n i t) (openingsFrom src n i t)
  | 0, _, _ => Logged.nil rfl
  | n + 1, i, t => by
    unfold walkAll openingsFrom
    by_cases hi : i < src.size
    · rw [if_pos hi, if_pos hi]
      have hwalk := (readerLogged src (fuelFor src)).walk [] 0 i t
      have hforward := (forward src (fuelFor src)).walk [] 0 i t
      generalize walkFrom src [] (fuelFor src) 0 i t = w at *
      have hrest := openingsFrom_logged src n (w.1 + 1) w.2
      exact (hwalk.append hrest fun p _ h => by omega).weaken fun p _ h => by omega
    · rw [if_neg hi, if_neg hi]
      exact Logged.nil rfl

/-! ## 4. Counting -/

/-- Different positions of one character are at most as many as the character occurs. -/
theorem length_le_count {c : Char} {l : List Char} {ps : List Nat} (hnodup : ps.Nodup)
    (hps : ∀ p ∈ ps, l[p]? = some c) : ps.length ≤ l.count c := by
  have hcount : ∀ l : List Char,
      ((List.range l.length).filter fun p => l[p]? == some c).length = l.count c := by
    intro l
    induction l with
    | nil => rfl
    | cons d l ih =>
      rw [List.length_cons, List.range_succ_eq_map, List.filter_cons, List.filter_map,
        List.count_cons, ← ih]
      by_cases hd : d = c
      · simp [hd, Function.comp_def]
      · simp [hd, Function.comp_def]
  rw [← hcount]
  refine (List.subperm_of_subset hnodup fun p hp => ?_).length_le
  have hp := hps p hp
  rw [List.mem_filter, List.mem_range, hp]
  exact ⟨(List.getElem?_eq_some_iff.mp hp).1, beq_self_eq_true _⟩

theorem length_eq_kept_add_lost (ms : List Opening) :
    ms.length = (kept ms).length + ms.countP (·.lost) := by
  rw [kept, List.length_map, ← List.countP_eq_length_filter, Nat.add_comm]
  simpa using List.length_eq_countP_add_countP fun m : Opening => m.lost

end Affordance.Script

namespace Affordance.Collector

open Affordance.Script (openedBy)

/-- The number of elements is not changed by what closing a frame reads and writes. -/
theorem unseen_length : Unseen fun c => c.collected.elements.length where
  texts _ _ := rfl
  labels _ _ := rfl
  failing _ _ := rfl
  giveOption c v := by
    unfold giveOption
    split
    · exact List.length_modify _ _ _
    · rfl

theorem length_close (c : Collector) (f : Frame) :
    (c.close f).collected.elements.length = c.collected.elements.length := by
  unfold close
  cases f.role
  case label => exact (unseen_length.keepLabel _ f).trans (unseen_length.keepText c f)
  case option => exact (unseen_length.keepOption _ f).trans (unseen_length.keepText c f)
  all_goals exact unseen_length.keepText c f

theorem length_closeMany (n : Nat) (c : Collector) :
    (closeMany n c).collected.elements.length = c.collected.elements.length :=
  closeMany_keeps (P := fun c' => c'.collected.elements.length = c.collected.elements.length)
    (fun _ h => (length_close _ _).trans h) n rfl

theorem length_closeTag (c : Collector) (d : Dialect) (tag : String) :
    (c.closeTag d tag).collected.elements.length = c.collected.elements.length :=
  closeTag_keeps (P := fun c' => c'.collected.elements.length = c.collected.elements.length)
    (fun _ h => (length_close _ _).trans h) d tag rfl

/-- A tag that opens makes at most one element. -/
theorem length_openTag (c : Collector) (d : Dialect) (tag : String)
    (attrs : List (String × String)) (selfClosing : Bool) (dynamic : List String) :
    (c.openTag d tag attrs selfClosing dynamic).collected.elements.length ≤
      c.collected.elements.length + 1 :=
  openTag_keeps (P := fun c' => c'.collected.elements.length ≤ c.collected.elements.length + 1)
    (fun _ => Nat.le_of_eq List.length_append) (fun _ _ h => h)
    (fun _ h => Nat.le_trans (Nat.le_of_eq (unseen_length.giveOption _ _)) h) (fun _ _ h => h) tag
    selfClosing (Nat.le_succ _)

/-- **An event makes an element only if it opens a tag**, and then at most one. -/
theorem length_step (d : Dialect) (c : Collector) (e : TagEvent) :
    (step d c e).collected.elements.length ≤
      c.collected.elements.length + (openedBy e).toList.length := by
  cases e with
  | open_ tag attrs selfClosing dynamic field =>
    have hopen := length_openTag c d tag attrs selfClosing dynamic
    exact step_open_keeps
      (P := fun c' => c'.collected.elements.length ≤ c.collected.elements.length + 1)
      (fun _ _ h => Nat.le_trans (Nat.le_of_eq (List.length_modify _ _ _)) h) field hopen
  | text s => exact Nat.le_refl _
  | close tag => exact Nat.le_of_eq (length_closeTag c d tag)
  | unreadable n => exact Nat.le_refl _

theorem length_foldl_step (d : Dialect) : ∀ (es : List TagEvent) (c : Collector),
    (es.foldl (step d) c).collected.elements.length ≤
      c.collected.elements.length + (es.filterMap openedBy).length
  | [], _ => Nat.le_refl _
  | e :: es, c => by
    have hrest := length_foldl_step d es (step d c e)
    have hstep := length_step d c e
    rw [List.foldl_cons]
    cases he : openedBy e with
    | none =>
      rw [he] at hstep
      rw [List.filterMap_cons_none he]
      exact Nat.le_trans hrest (Nat.add_le_add_right hstep _)
    | some tag =>
      rw [he] at hstep
      rw [List.filterMap_cons_some he, List.length_cons]
      simp only [Option.toList_some, List.length_singleton] at hstep
      omega

/-- **There are at most as many elements as tags were opened.** -/
theorem length_of_collect {d : Dialect} {es : List TagEvent} {got : Collected}
    (h : collect d es = .ok got) : got.elements.length ≤ (es.filterMap openedBy).length := by
  have hclosed : (es.foldl (step d) {}).closed.collected.elements.length =
      (es.foldl (step d) {}).collected.elements.length := length_closeMany _ _
  have hlen := length_foldl_step d es {}
  unfold collect finish at h
  dsimp only at h
  split at h
  · cases h
  · cases h
    unfold settled
    rw [List.length_zipWith]
    simp only [List.length_nil] at hlen
    omega

end Affordance.Collector

namespace Affordance.Script

open Affordance.Text

/-- **Every angle bracket opens at most one tag that is kept**: the tags that are opened when a
    text is read stand at angle brackets, those that are not lost at different ones, and there
    are at most as many elements as angle brackets and lost openings together. -/
theorem openings_logged (src : Source) :
    (elementEvents src).1.filterMap openedBy = (openings src).map (fun m => tagAt src m.position) ∧
    (∀ m ∈ openings src, src[m.position]? = some '<') ∧
    (kept (openings src)).Nodup ∧
    ∀ got, Collector.collect .script (elementEvents src).1 = .ok got →
      got.elements.length ≤ src.toList.count '<' + (openings src).countP (·.lost) := by
  have hlog := openingsFrom_logged src (src.size + 1) 0 {}
  refine ⟨hlog.opened, hlog.angle, hlog.once, fun got hgot => ?_⟩
  have hkept : (kept (openings src)).length ≤ src.toList.count '<' := by
    refine length_le_count hlog.once fun p hp => ?_
    obtain ⟨m, hm, rfl⟩ := List.mem_map.mp hp
    rw [Array.getElem?_toList]
    exact hlog.angle m (List.mem_filter.mp hm).1
  have hlen := Collector.length_of_collect hgot
  have hopened : ((elementEvents src).1.filterMap openedBy).length = (openings src).length :=
    (congrArg List.length hlog.opened).trans (List.length_map _)
  rw [hopened, length_eq_kept_add_lost] at hlen
  omega

/-- A tag that breaks off at a comment, after elements inside its attributes. -/
def withComment : Source :=
  Source.of "<F a=\x7b<button/>\x7d b=\x7b<input/>\x7d c=\x7b<select/>\x7d /* */ />"

/-- **A comment between attributes opens tags twice**: the tag breaks off, what was read inside
    it stays read, and its text is read once more. Of six elements three are lost openings, and
    there are only four angle brackets. -/
theorem comment_opens_twice :
    (openings withComment).map (·.position) = [6, 20, 33, 6, 20, 33] ∧
    (openings withComment).map (·.lost) = [true, true, true, false, false, false] ∧
    withComment.toList.count '<' = 4 ∧
    ∃ got, Collector.collect .script (elementEvents withComment).1 = .ok got ∧
      got.elements.length = 6 ∧
      got.elements.length ≤ withComment.toList.count '<' + (openings withComment).countP (·.lost) := by
  have hsix : (Collector.collect .script (elementEvents withComment).1).map (·.elements.length) =
      .ok 6 := by
    decide +kernel
  refine ⟨by decide +kernel, by decide +kernel, by decide +kernel, ?_⟩
  cases hgot : Collector.collect .script (elementEvents withComment).1 with
  | error n =>
    rw [hgot] at hsix
    cases hsix
  | ok got =>
    rw [hgot] at hsix
    exact ⟨got, rfl, Except.ok.inj hsix, (openings_logged withComment).2.2.2 got hgot⟩

end Affordance.Script
