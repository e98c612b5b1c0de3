import Affordance.Proofs.Script.Scanning
import Affordance.Script.Elements

/-!
# The reader of elements without its fuel

What `Scanning` says of the scanner, for the walks that read elements.

  * `TagPart`, `tagPart`: what stands at a position inside a tag; `readAttributes_succ` reads
    the attributes of a tag part by part.
  * `Forward`: no walk of the reader leads back; an element that is given up ends where it
    begins.
  * `ReaderSettled`: the fuel from which on ONE MORE UNIT changes nothing. A walk and the
    element it meets begin at one position, so two units for each character are enough.
  * `walk`, `element`, `inAttributes`, `inChildren`: the walks with the fuel they are run
    with. **`walk_eq`**, `element_eq`, `inAttributes_eq`, `inChildren_eq`: one step of each.
-/

namespace Affordance.Script

open Affordance.Text

variable {src : Source}

/-! ## 1. The parts of a tag -/

/-- What stands at a position inside a tag, with the position after it; a brace is passed
    without what it holds. -/
inductive TagPart where
  /-- The tag breaks off. -/
  | broken
  /-- The tag ends and closes itself. -/
  | selfClosing (next : Nat)
  /-- The tag ends. -/
  | ending (next : Nat)
  /-- A brace in place of an attribute. -/
  | spread (next : Nat)
  /-- An attribute with a text. -/
  | quoted (name : String) (value : List Char) (next : Nat)
  /-- An attribute with a brace. -/
  | expression (name : String) (next : Nat)
  /-- An attribute without a value. -/
  | flag (name : String) (next : Nat)

/-- The position after a part. -/
def TagPart.next? : TagPart → Option Nat
  | broken => none
  | selfClosing k => some k
  | ending k => some k
  | spread k => some k
  | quoted _ _ k => some k
  | expression _ k => some k
  | flag _ k => some k

/-- The value of an attribute, from the position after its name's equality sign. -/
def valuePart (src : Source) (name : String) (j : Nat) : TagPart :=
  match src[j]? with
  | none => .broken
  | some q =>
    if q = '\'' ∨ q = '"' then
      match src.findChar q (j + 1) with
      | none => .broken
      | some k => .quoted name (src.slice (j + 1) k) (k + 1)
    else if q = '\x7b' then .expression name (j + 1)
    else .broken

/-- What stands at a position inside a tag, white space before it aside. -/
def tagPart (src : Source) (j : Nat) : TagPart :=
  let j := src.passSpace j
  match src[j]? with
  | none => .broken
  | some c =>
    if src.at_ j ['/', '>'] then .selfClosing (j + 2)
    else if c = '>' then .ending (j + 1)
    else if c = '\x7b' then .spread (j + 1)
    else
      match attributeNameEnd src j with
      | none => .broken
      | some e =>
        if src[src.passSpace e]? = some '=' then
          valuePart src (src.text j e) (src.passSpace (src.passSpace e + 1))
        else .flag (src.text j e) (src.passSpace e)

theorem lt_valuePart {name : String} {j k : Nat} (h : (valuePart src name j).next? = some k) :
    j < k ∧ k ≤ src.size := by
  unfold valuePart at h
  cases hq : src[j]? with
  | none => rw [hq] at h; cases h
  | some q =>
    rw [hq] at h
    have hj := lt_size hq
    dsimp only at h
    split at h
    · cases hf : src.findChar q (j + 1) with
      | none => rw [hf] at h; cases h
      | some m =>
        rw [hf] at h
        cases h
        have := Source.findChar_some hf
        omega
    · split at h
      · cases h; omega
      · cases h

/-- **Every part of a tag leads forward.** -/
theorem lt_tagPart {j k : Nat} (h : (tagPart src j).next? = some k) : j < k ∧ k ≤ src.size := by
  have hspace : j ≤ src.passSpace j := src.le_passWhile isSpace j
  unfold tagPart at h
  dsimp only at h
  generalize src.passSpace j = m at h hspace
  cases hc : src[m]? with
  | none => rw [hc] at h; cases h
  | some c =>
    rw [hc] at h
    have hm := lt_size hc
    dsimp only at h
    split at h
    · rename_i hat
      simp only [Source.at_cons, Bool.and_eq_true, beq_iff_eq] at hat
      have := lt_size hat.2.1
      cases h
      omega
    · split at h
      · cases h; omega
      · split at h
        · cases h; omega
        · cases hn : attributeNameEnd src m with
          | none => rw [hn] at h; cases h
          | some e =>
            rw [hn] at h
            have he := lt_tagNameEnd hn
            have hse : e ≤ src.passSpace e := src.le_passWhile isSpace e
            dsimp only at h
            split at h
            · have hsv : src.passSpace e + 1 ≤ src.passSpace (src.passSpace e + 1) :=
                src.le_passWhile isSpace _
              have := lt_valuePart h
              omega
            · cases h
              have hesize : e ≤ src.size := by
                unfold attributeNameEnd tagNameEnd at hn
                rw [hc] at hn
                dsimp only at hn
                split at hn
                · cases hn; exact src.passWhile_le _ hm
                · cases hn
              have := src.passWhile_le isSpace hesize
              unfold Source.passSpace at *
              omega

/-- **The attributes of a tag are read part by part.** -/
theorem readAttributes_succ (src : Source) (start fuel : Nat) (o : OpenTag) (j : Nat)
    (t : Trail) : readAttributes src start (fuel + 1) o j t =
      match tagPart src j with
      | .broken => (start, t)
      | .selfClosing k => (k, t.addTag o true)
      | .ending k => readChildren src o.tag fuel k (t.addTag o false)
      | .spread k =>
        readAttributes src start fuel
          (o.withSpread (strip (src.slice k (walkFrom src ['\x7d'] fuel 0 k t).1)))
          ((walkFrom src ['\x7d'] fuel 0 k t).1 + 1) (walkFrom src ['\x7d'] fuel 0 k t).2
      | .quoted name value k =>
        readAttributes src start fuel (o.withText name (String.ofList (unescape value))) k
          (t.checkMeant value)
      | .expression name k =>
        readAttributes src start fuel
          (o.withExpression name (strip (src.slice k (walkFrom src ['\x7d'] fuel 0 k t).1)))
          ((walkFrom src ['\x7d'] fuel 0 k t).1 + 1) (walkFrom src ['\x7d'] fuel 0 k t).2
      | .flag name k => readAttributes src start fuel (o.withText name "true") k t := by
  rw [readAttributes]
  unfold tagPart
  dsimp only
  cases hc : src[src.passSpace j]? with
  | none => rfl
  | some c =>
    dsimp only
    split
    · rfl
    · split
      · rfl
      · split
        · rfl
        · cases hn : attributeNameEnd src (src.passSpace j) with
          | none => rfl
          | some e =>
            dsimp only
            split
            · unfold valuePart
              cases hq : src[src.passSpace (src.passSpace e + 1)]? with
              | none => rfl
              | some q =>
                dsimp only
                split
                · cases src.findChar q (src.passSpace (src.passSpace e + 1) + 1) <;> rfl
                · split <;> rfl
            · rfl

/-! ## 2. No walk leads back -/

/-- The end of a text between tags. -/
def textEnd (src : Source) (j : Nat) : Nat :=
  src.passWhile (fun c => !(c == '<' || c == '\x7b')) j

theorem lt_textEnd {j : Nat} {c : Char} (h : src[j]? = some c) (hlt : c ≠ '<')
    (hbrace : c ≠ '\x7b') : j < textEnd src j := by
  have hp : (!(c == '<' || c == '\x7b')) = true := by simp [hlt, hbrace]
  have hj := lt_size h
  unfold textEnd Source.passWhile
  rw [show src.size - j = (src.size - j - 1) + 1 by omega, Source.passWithin, h]
  dsimp only
  rw [if_pos hp]
  exact src.le_passWithin _ _ (j + 1)

/-- An expression between tags, which is a text if it is a plain value. -/
def Trail.addLiteral (t : Trail) (expr : List Char) : Trail :=
  match literal expr with
  | some v => t.add (.text (String.ofList v))
  | none => t

/-- The walks end no earlier than they begin, or at the end of the text; only a tag that breaks
    off ends at the beginning of its element. -/
structure Forward (src : Source) (fuel : Nat) : Prop where
  walk : ∀ closers depth i t, min i src.size ≤ (walkFrom src closers fuel depth i t).1
  element : ∀ i t, min i src.size ≤ (readElement src fuel i t).1
  attributes : ∀ start o j t, (readAttributes src start fuel o j t).1 = start ∨
    min j src.size ≤ (readAttributes src start fuel o j t).1
  children : ∀ tag j t, min j src.size ≤ (readChildren src tag fuel j t).1

namespace Forward

variable {fuel : Nat} (f : Forward src fuel)

include f

theorem walk_next (closers : List Char) (depth i : Nat) (t : Trail) :
    min i src.size ≤ (walkFrom src closers (fuel + 1) depth i t).1 := by
  unfold walkFrom
  cases hc : src[i]? with
  | none => dsimp only; omega
  | some c =>
    have hi := lt_size hc
    dsimp only
    cases hm : move src closers depth i c with
    | stop => dsimp only; omega
    | jump j =>
      have hj := lt_of_jump hc hm
      exact Nat.le_trans (by omega) (f.walk closers depth j t)
    | template =>
      have hj := (le_skipFrom src (fuelFor src)).2 (i + 1)
      refine Nat.le_trans ?_ (f.walk closers depth (pastTemplate src i) t)
      unfold pastTemplate
      omega
    | opens => exact Nat.le_trans (by omega) (f.walk closers (depth + 1) (i + 1) t)
    | closes => exact Nat.le_trans (by omega) (f.walk closers (depth - 1) (i + 1) t)
    | tag =>
      refine Nat.le_trans ?_ (f.walk closers depth _ _)
      split <;> omega
    | plain => exact Nat.le_trans (by omega) (f.walk closers depth (i + 1) t)

theorem element_next (i : Nat) (t : Trail) :
    min i src.size ≤ (readElement src (fuel + 1) i t).1 := by
  unfold readElement
  split
  · exact Nat.le_trans (by omega) (f.children "" (i + 2) t)
  · cases hn : tagNameEnd src (i + 1) with
    | none => dsimp only; omega
    | some j =>
      have hj := (lt_tagNameEnd hn).1
      have := f.attributes i { tag := src.text (i + 1) j } j t
      dsimp only
      omega

theorem attributes_next (start : Nat) (o : OpenTag) (j : Nat) (t : Trail) :
    (readAttributes src start (fuel + 1) o j t).1 = start ∨
      min j src.size ≤ (readAttributes src start (fuel + 1) o j t).1 := by
  rw [readAttributes_succ]
  cases hp : tagPart src j with
  | broken => exact Or.inl rfl
  | selfClosing k =>
    have := lt_tagPart (by rw [hp]; rfl : (tagPart src j).next? = some k)
    dsimp only; omega
  | ending k =>
    have := lt_tagPart (by rw [hp]; rfl : (tagPart src j).next? = some k)
    exact Or.inr (Nat.le_trans (by omega) (f.children o.tag k _))
  | spread k =>
    have := lt_tagPart (by rw [hp]; rfl : (tagPart src j).next? = some k)
    have := f.walk ['\x7d'] 0 k t
    exact (f.attributes start _ _ _).imp_right (Nat.le_trans (by omega))
  | quoted name value k =>
    have := lt_tagPart (by rw [hp]; rfl : (tagPart src j).next? = some k)
    exact (f.attributes start _ k _).imp_right (Nat.le_trans (by omega))
  | expression name k =>
    have := lt_tagPart (by rw [hp]; rfl : (tagPart src j).next? = some k)
    have := f.walk ['\x7d'] 0 k t
    exact (f.attributes start _ _ _).imp_right (Nat.le_trans (by omega))
  | flag name k =>
    have := lt_tagPart (by rw [hp]; rfl : (tagPart src j).next? = some k)
    exact (f.attributes start _ k t).imp_right (Nat.le_trans (by omega))

theorem children_next (tag : String) (j : Nat) (t : Trail) :
    min j src.size ≤ (readChildren src tag (fuel + 1) j t).1 := by
  unfold readChildren
  cases hc : src[j]? with
  | none => dsimp only; omega
  | some c =>
    have hlt := lt_size hc
    dsimp only
    split
    · split
      · cases hf : src.findChar '>' j with
        | none => dsimp only; omega
        | some k =>
          have := (Source.findChar_some hf).1
          dsimp only; omega
      · have helement := f.element j t
        split
        · exact Nat.le_trans (by omega) (f.children tag (j + 1) _)
        · exact Nat.le_trans (by omega) (f.children tag _ _)
    · split
      · have hwalk := f.walk ['\x7d'] 0 (j + 1) t
        exact Nat.le_trans (by omega) (f.children tag _ _)
      · have hrun := src.le_passWhile (fun c => !(c == '<' || c == '\x7b')) j
        exact Nat.le_trans (by omega) (f.children tag _ _)

end Forward

/-- **No walk of the reader leads back**, by induction on the fuel. -/
theorem forward (src : Source) : ∀ fuel, Forward src fuel
  | 0 => by
    refine ⟨fun _ _ i _ => ?_, fun i _ => ?_, fun _ _ j _ => Or.inr ?_, fun _ j _ => ?_⟩
    · simp only [walkFrom]; omega
    · simp only [readElement]; omega
    · simp only [readAttributes]; omega
    · simp only [readChildren]; omega
  | fuel + 1 =>
    have f := forward src fuel
    ⟨f.walk_next, f.element_next, f.attributes_next, f.children_next⟩

/-! ## 3. More fuel changes nothing -/

/-- One more unit of fuel changes nothing for a walk that has two units for each character
    that is left, and one for each of the walks that may begin at one position. -/
structure ReaderSettled (src : Source) (fuel : Nat) : Prop where
  walk : ∀ closers depth i t, 2 * (src.size - i) + 2 ≤ fuel →
    walkFrom src closers (fuel + 1) depth i t = walkFrom src closers fuel depth i t
  element : ∀ i t, 2 * (src.size - i) + 1 ≤ fuel →
    readElement src (fuel + 1) i t = readElement src fuel i t
  attributes : ∀ start o j t, 2 * (src.size - j) + 2 ≤ fuel →
    readAttributes src start (fuel + 1) o j t = readAttributes src start fuel o j t
  children : ∀ tag j t, 2 * (src.size - j) + 2 ≤ fuel →
    readChildren src tag (fuel + 1) j t = readChildren src tag fuel j t

namespace ReaderSettled

variable {fuel : Nat} (s : ReaderSettled src fuel)

include s

theorem walk_next (closers : List Char) (depth i : Nat) (t : Trail)
    (h : 2 * (src.size - i) + 2 ≤ fuel + 1) :
    walkFrom src closers (fuel + 2) depth i t = walkFrom src closers (fuel + 1) depth i t := by
  conv => lhs; rw [walkFrom]
  conv => rhs; rw [walkFrom]
  cases hc : src[i]? with
  | none => rfl
  | some c =>
    have hi := lt_size hc
    dsimp only
    cases hm : move src closers depth i c with
    | stop => rfl
    | jump j =>
      have hj := lt_of_jump hc hm
      exact s.walk closers depth j t (by omega)
    | template =>
      have hj := (le_skipFrom src (fuelFor src)).2 (i + 1)
      refine s.walk closers depth (pastTemplate src i) t ?_
      unfold pastTemplate
      omega
    | opens => exact s.walk closers (depth + 1) (i + 1) t (by omega)
    | closes => exact s.walk closers (depth - 1) (i + 1) t (by omega)
    | tag =>
      dsimp only
      rw [s.element i t (by omega)]
      refine s.walk closers depth _ _ ?_
      split <;> omega
    | plain => exact s.walk closers depth (i + 1) t (by omega)

theorem element_next (i : Nat) (t : Trail) (h : 2 * (src.size - i) + 1 ≤ fuel + 1) :
    readElement src (fuel + 2) i t = readElement src (fuel + 1) i t := by
  conv => lhs; rw [readElement]
  conv => rhs; rw [readElement]
  split
  · rename_i hc
    have := lt_size hc
    exact s.children "" (i + 2) t (by omega)
  · cases hn : tagNameEnd src (i + 1) with
    | none => rfl
    | some j =>
      have hj := lt_tagNameEnd hn
      exact s.attributes i _ j t (by omega)

theorem attributes_next (start : Nat) (o : OpenTag) (j : Nat) (t : Trail)
    (h : 2 * (src.size - j) + 2 ≤ fuel + 1) :
    readAttributes src start (fuel + 2) o j t = readAttributes src start (fuel + 1) o j t := by
  rw [readAttributes_succ, readAttributes_succ]
  cases hp : tagPart src j with
  | broken => rfl
  | selfClosing k => rfl
  | ending k =>
    have := lt_tagPart (by rw [hp]; rfl : (tagPart src j).next? = some k)
    exact s.children o.tag k _ (by omega)
  | spread k =>
    have := lt_tagPart (by rw [hp]; rfl : (tagPart src j).next? = some k)
    have := (forward src fuel).walk ['\x7d'] 0 k t
    dsimp only
    rw [s.walk ['\x7d'] 0 k t (by omega)]
    exact s.attributes start _ _ _ (by omega)
  | quoted name value k =>
    have := lt_tagPart (by rw [hp]; rfl : (tagPart src j).next? = some k)
    exact s.attributes start _ k _ (by omega)
  | expression name k =>
    have := lt_tagPart (by rw [hp]; rfl : (tagPart src j).next? = some k)
    have := (forward src fuel).walk ['\x7d'] 0 k t
    dsimp only
    rw [s.walk ['\x7d'] 0 k t (by omega)]
    exact s.attributes start _ _ _ (by omega)
  | flag name k =>
    have := lt_tagPart (by rw [hp]; rfl : (tagPart src j).next? = some k)
    exact s.attributes start _ k t (by omega)

theorem children_next (tag : String) (j : Nat) (t : Trail)
    (h : 2 * (src.size - j) + 2 ≤ fuel + 1) :
    readChildren src tag (fuel + 2) j t = readChildren src tag (fuel + 1) j t := by
  conv => lhs; rw [readChildren]
  conv => rhs; rw [readChildren]
  cases hc : src[j]? with
  | none => rfl
  | some c =>
    have hj := lt_size hc
    dsimp only
    by_cases hlt : c = '<'
    · rw [if_pos hlt, if_pos hlt]
      split
      · rfl
      · have helement := (forward src fuel).element j t
        rw [s.element j t (by omega)]
        split
        · exact s.children tag (j + 1) _ (by omega)
        · exact s.children tag _ _ (by omega)
    · rw [if_neg hlt, if_neg hlt]
      by_cases hbrace : c = '\x7b'
      · rw [if_pos hbrace, if_pos hbrace]
        have hwalk := (forward src fuel).walk ['\x7d'] 0 (j + 1) t
        rw [s.walk ['\x7d'] 0 (j + 1) t (by omega)]
        exact s.children tag _ _ (by omega)
      · rw [if_neg hbrace, if_neg hbrace]
        have hrun := lt_textEnd hc hlt hbrace
        exact s.children tag (textEnd src j) _ (by omega)

end ReaderSettled

/-- **Enough fuel is enough**, by induction on the fuel. -/
theorem readerSettled (src : Source) : ∀ fuel, ReaderSettled src fuel
  | 0 => ⟨by omega, by omega, by omega, by omega⟩
  | fuel + 1 =>
    have s := readerSettled src fuel
    ⟨s.walk_next, s.element_next, s.attributes_next, s.children_next⟩

/-! ## 4. The walks with enough fuel -/

/-- `walkFrom` with the fuel that it is run with. -/
def walk (src : Source) (closers : List Char) (depth i : Nat) (t : Trail) : Nat × Trail :=
  walkFrom src closers (fuelFor src) depth i t

/-- `readElement` with the fuel that walks are run with. -/
def element (src : Source) (i : Nat) (t : Trail) : Nat × Trail :=
  readElement src (fuelFor src) i t

/-- `readAttributes` with the fuel that walks are run with. -/
def inAttributes (src : Source) (start : Nat) (o : OpenTag) (j : Nat) (t : Trail) :
    Nat × Trail :=
  readAttributes src start (fuelFor src) o j t

/-- `readChildren` with the fuel that walks are run with. -/
def inChildren (src : Source) (tag : String) (j : Nat) (t : Trail) : Nat × Trail :=
  readChildren src tag (fuelFor src) j t

theorem walkFrom_step (closers : List Char) (depth i : Nat) (t : Trail) :
    walkFrom src closers (stepFuel src) depth i t = walk src closers depth i t := by
  unfold walk
  rw [fuelFor_eq]
  refine ((readerSettled src (stepFuel src)).walk closers depth i t ?_).symm
  unfold stepFuel
  omega

theorem readElement_step (i : Nat) (t : Trail) :
    readElement src (stepFuel src) i t = element src i t := by
  unfold element
  rw [fuelFor_eq]
  refine ((readerSettled src (stepFuel src)).element i t ?_).symm
  unfold stepFuel
  omega

theorem readAttributes_step (start : Nat) (o : OpenTag) (j : Nat) (t : Trail) :
    readAttributes src start (stepFuel src) o j t = inAttributes src start o j t := by
  unfold inAttributes
  rw [fuelFor_eq]
  refine ((readerSettled src (stepFuel src)).attributes start o j t ?_).symm
  unfold stepFuel
  omega

theorem readChildren_step (tag : String) (j : Nat) (t : Trail) :
    readChildren src tag (stepFuel src) j t = inChildren src tag j t := by
  unfold inChildren
  rw [fuelFor_eq]
  refine ((readerSettled src (stepFuel src)).children tag j t ?_).symm
  unfold stepFuel
  omega

/-! ## 5. Single steps -/

variable {closers : List Char} {depth i j start : Nat} {c : Char} {t : Trail} {o : OpenTag}
  {tag : String}

/-- **One step of a walk.** -/
theorem walk_eq (h : src[i]? = some c) : walk src closers depth i t =
    match move src closers depth i c with
    | .stop => (i, t)
    | .jump j => walk src closers depth j t
    | .template => walk src closers depth (inTemplate src (i + 1)) t
    | .opens => walk src closers (depth + 1) (i + 1) t
    | .closes => walk src closers (depth - 1) (i + 1) t
    | .tag =>
      walk src closers depth (if i < (element src i t).1 then (element src i t).1 else i + 1)
        (element src i t).2
    | .plain => walk src closers depth (i + 1) t := by
  rw [walk, fuelFor_eq, walkFrom, h]
  cases hmove : move src closers depth i c <;>
    simp only [hmove, walkFrom_step, readElement_step, pastTemplate_eq]

theorem walk_end (h : src[i]? = none) : walk src closers depth i t = (src.size, t) := by
  rw [walk, fuelFor_eq, walkFrom, h]

/-- The element at a position. -/
theorem element_eq (src : Source) (i : Nat) (t : Trail) : element src i t =
    if src[i + 1]? = some '>' then inChildren src "" (i + 2) t
    else
      match tagNameEnd src (i + 1) with
      | none => (i, t)
      | some j => inAttributes src i { tag := src.text (i + 1) j } j t := by
  rw [element, fuelFor_eq, readElement]
  cases tagNameEnd src (i + 1) <;> simp only [readAttributes_step, readChildren_step]

/-- The part of a tag at a position, and the rest of the element. -/
theorem inAttributes_eq (src : Source) (start : Nat) (o : OpenTag) (j : Nat) (t : Trail) :
    inAttributes src start o j t =
      match tagPart src j with
      | .broken => (start, t)
      | .selfClosing k => (k, t.addTag o true)
      | .ending k => inChildren src o.tag k (t.addTag o false)
      | .spread k =>
        inAttributes src start
          (o.withSpread (strip (src.slice k (walk src ['\x7d'] 0 k t).1)))
          ((walk src ['\x7d'] 0 k t).1 + 1) (walk src ['\x7d'] 0 k t).2
      | .quoted name value k =>
        inAttributes src start (o.withText name (String.ofList (unescape value))) k
          (t.checkMeant value)
      | .expression name k =>
        inAttributes src start
          (o.withExpression name (strip (src.slice k (walk src ['\x7d'] 0 k t).1)))
          ((walk src ['\x7d'] 0 k t).1 + 1) (walk src ['\x7d'] 0 k t).2
      | .flag name k => inAttributes src start (o.withText name "true") k t := by
  rw [inAttributes, fuelFor_eq, readAttributes_succ]
  simp only [walkFrom_step, readAttributes_step, readChildren_step]

/-- One step inside an element. -/
theorem inChildren_eq (h : src[j]? = some c) : inChildren src tag j t =
    if c = '<' then
      if src[j + 1]? = some '/' then
        ((match src.findChar '>' j with
          | some k => k + 1
          | none => src.size), t.add (.close tag))
      else if (element src j t).1 = j then
        inChildren src tag (j + 1) ((element src j t).2.add (.text "<"))
      else inChildren src tag (element src j t).1 (element src j t).2
    else if c = '\x7b' then
      inChildren src tag ((walk src ['\x7d'] 0 (j + 1) t).1 + 1)
        ((walk src ['\x7d'] 0 (j + 1) t).2.addLiteral
          (src.slice (j + 1) (walk src ['\x7d'] 0 (j + 1) t).1))
    else
      inChildren src tag (textEnd src j) (t.addMeant (src.slice j (textEnd src j))) := by
  rw [inChildren, fuelFor_eq, readChildren, h]
  simp only [walkFrom_step, readElement_step, readChildren_step]
  rfl

end Affordance.Script
