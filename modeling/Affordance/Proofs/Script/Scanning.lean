import Affordance.Script.Scanner

/-!
# The scanner without its fuel

The walks of the scanner count down an amount of fuel.

  * `le_skipFrom`, `lt_openTagFrom`: no walk leads back, and a tag that was read ends after
    its beginning.
  * `Settled`: the fuel from which on ONE MORE UNIT changes nothing, for all five walks at
    once. Three walks in a row may begin at one position (a walk, the element there, the tag
    of the element), so three units for each character that is left are enough.
  * `scan`, `inTemplate`, `inElement`, `openTag`, `inTag`: the walks with the fuel they are
    run with. **`scan_eq`**, `inTemplate_eq`, `inElement_eq`, `openTag_eq`, `inTag_eq`: each of
    them takes one step as its definition says, and no fuel is spent.
  * `inString`, `inRegex`: the same for the loops over strings and regular expressions, which call
    no other walk and need one unit for each character that is left.
-/

namespace Affordance.Script

open Affordance.Text

variable {src : Source}

theorem lt_size {i : Nat} {c : Char} (h : src[i]? = some c) : i < src.size :=
  (Array.getElem?_eq_some_iff.mp h).1

/-! ## 1. Literals and comments end after their beginning -/

theorem le_stringEnd (src : Source) (quote : Char) : ∀ n j : Nat,
    min j src.size ≤ stringEnd src quote n j
  | 0, j => by simp only [stringEnd]; omega
  | n + 1, j => by
    unfold stringEnd
    have h2 := le_stringEnd src quote n (j + 2)
    have h1 := le_stringEnd src quote n (j + 1)
    cases hc : src[j]? with
    | none => dsimp only; omega
    | some c =>
      dsimp only
      split
      · omega
      · split <;> omega

theorem lt_pastString {i : Nat} (h : i < src.size) : i < pastString src i := by
  have hc : src[i]? = some src[i] := Array.getElem?_eq_getElem h
  unfold pastString
  rw [hc]
  have := le_stringEnd src src[i] (src.size - i) (i + 1)
  dsimp only
  omega

theorem le_regexEnd (src : Source) : ∀ (n : Nat) (inClass : Bool) (j : Nat),
    min j src.size ≤ regexEnd src inClass n j
  | 0, _, j => by simp only [regexEnd]; omega
  | n + 1, inClass, j => by
    unfold regexEnd
    have h2 := le_regexEnd src n inClass (j + 2)
    have h1 := fun b => le_regexEnd src n b (j + 1)
    have htrue := h1 true
    have hfalse := h1 false
    have hsame := h1 inClass
    have hflags := src.le_passWhile isLetter (j + 1)
    cases hc : src[j]? with
    | none => dsimp only; omega
    | some c =>
      dsimp only
      split
      · omega
      · split
        · omega
        · split
          · omega
          · split
            · omega
            · split <;> omega

theorem lt_pastRegex {i : Nat} (h : i < src.size) : i < pastRegex src i := by
  have := le_regexEnd src (src.size - i) false (i + 1)
  unfold pastRegex
  omega

theorem lt_lineCommentEnd {i : Nat} (h : src[i]? = some '/') : i < lineCommentEnd src i := by
  have hi := lt_size h
  unfold lineCommentEnd
  cases hf : src.findChar '\n' i with
  | none => exact hi
  | some j =>
    obtain ⟨hle, _, hj⟩ := Source.findChar_some hf
    have hne : i ≠ j := by
      rintro rfl
      rw [h] at hj
      exact absurd hj (by decide)
    show i < j
    omega

theorem lt_blockCommentEnd {i : Nat} (h : i < src.size) : i < blockCommentEnd src i := by
  unfold blockCommentEnd
  cases hf : src.findFragment ['*', '/'] (i + 2) with
  | none => exact h
  | some j =>
    have := (Source.findWithin_some hf).1
    show i < j + 2
    omega

theorem lt_of_slashMove {i j : Nat} (h : src[i]? = some '/') (hm : slashMove src i = .jump j) :
    i < j := by
  have hi := lt_size h
  unfold slashMove at hm
  cases hn : src[i + 1]? with
  | none => rw [hn] at hm; cases hm
  | some next =>
    rw [hn] at hm
    dsimp only at hm
    split at hm
    · cases hm; exact lt_lineCommentEnd h
    · split at hm
      · cases hm; exact lt_blockCommentEnd hi
      · split at hm
        · cases hm; exact lt_pastRegex hi
        · cases hm

/-- **What is passed as a whole is passed forward.** -/
theorem lt_of_jump {closers : List Char} {depth i j : Nat} {c : Char} (h : src[i]? = some c)
    (hm : move src closers depth i c = .jump j) : i < j := by
  have hi := lt_size h
  unfold move at hm
  split at hm
  · cases hm
  · split at hm
    · cases hm; exact lt_pastString hi
    · split at hm
      · cases hm
      · split at hm
        · rename_i hc
          subst hc
          exact lt_of_slashMove h hm
        · split at hm
          · cases hm
          · split at hm
            · split at hm <;> cases hm
            · split at hm <;> cases hm

theorem lt_tagNameEnd {i j : Nat} (h : tagNameEnd src i = some j) : i < j ∧ i < src.size := by
  unfold tagNameEnd at h
  cases hc : src[i]? with
  | none => rw [hc] at h; cases h
  | some c =>
    rw [hc] at h
    dsimp only at h
    split at h
    · cases h
      have := src.le_passWhile isTagNameChar (i + 1)
      exact ⟨by omega, lt_size hc⟩
    · cases h

/-! ## 2. No walk leads back -/

/-- Neither a walk nor the rest of a template ends before its beginning. -/
theorem le_skipFrom (src : Source) : ∀ fuel : Nat,
    (∀ closers depth i, min i src.size ≤ skipFrom src closers fuel depth i) ∧
    (∀ j, min j src.size ≤ templateFrom src fuel j)
  | 0 => by
    refine ⟨fun closers depth i => ?_, fun j => ?_⟩
    · simp only [skipFrom]; omega
    · simp only [templateFrom]; omega
  | fuel + 1 => by
    obtain ⟨hskip, htemplate⟩ := le_skipFrom src fuel
    refine ⟨fun closers depth i => ?_, fun j => ?_⟩
    · unfold skipFrom
      cases hc : src[i]? with
      | none => dsimp only; omega
      | some c =>
        dsimp only
        cases hm : move src closers depth i c with
        | stop => dsimp only; omega
        | jump j =>
          have hj := lt_of_jump hc hm
          have := hskip closers depth j
          dsimp only; omega
        | template =>
          have hj := htemplate (i + 1)
          have := hskip closers depth (templateFrom src fuel (i + 1))
          dsimp only; omega
        | opens =>
          have := hskip closers (depth + 1) (i + 1)
          dsimp only; omega
        | closes =>
          have := hskip closers (depth - 1) (i + 1)
          dsimp only; omega
        | tag =>
          dsimp only
          split
          · have := hskip closers depth (elementFrom src i fuel 0 i)
            omega
          · have := hskip closers depth (i + 1)
            omega
        | plain =>
          have := hskip closers depth (i + 1)
          dsimp only; omega
    · unfold templateFrom
      cases hc : src[j]? with
      | none => dsimp only; omega
      | some c =>
        have h1 := htemplate (j + 1)
        have h2 := htemplate (j + 2)
        have hhole := hskip ['\x7d'] 0 (j + 2)
        have hafter := htemplate (skipFrom src ['\x7d'] fuel 0 (j + 2) + 1)
        dsimp only
        split
        · omega
        · split
          · omega
          · split <;> omega

/-- The walk after an opening bracket does not end before the bracket. -/
theorem lt_skipFrom (closers : List Char) (fuel depth : Nat) {i : Nat} (h : i < src.size) :
    i < skipFrom src closers fuel depth (i + 1) := by
  have := (le_skipFrom src fuel).1 closers depth (i + 1)
  omega

theorem lt_tagRestFrom : ∀ {fuel j k : Nat} {selfClosing : Bool},
    tagRestFrom src fuel j = some (k, selfClosing) → j < k
  | 0, j, k, _, h => by simp [tagRestFrom] at h
  | fuel + 1, j, k, _, h => by
    unfold tagRestFrom at h
    cases hc : src[j]? with
    | none => rw [hc] at h; cases h
    | some c =>
      rw [hc] at h
      have hj := lt_size hc
      dsimp only at h
      split at h
      · have := lt_tagRestFrom h
        have := lt_pastString hj
        omega
      · split at h
        · have := lt_tagRestFrom h
          have := lt_skipFrom ['\x7d'] fuel 0 hj
          omega
        · split at h
          · cases h; omega
          · split at h
            · cases h; omega
            · split at h
              · cases h
              · have := lt_tagRestFrom h
                omega

/-- **A tag that was read ends after its beginning.** -/
theorem lt_openTagFrom {fuel i k : Nat} {selfClosing : Bool}
    (h : openTagFrom src fuel i = some (k, selfClosing)) : i < k := by
  cases fuel with
  | zero => simp [openTagFrom] at h
  | succ fuel =>
    unfold openTagFrom at h
    split at h
    · cases h; omega
    · cases hn : tagNameEnd src (i + 1) with
      | none => rw [hn] at h; cases h
      | some j =>
        rw [hn] at h
        have := lt_tagRestFrom h
        have := (lt_tagNameEnd hn).1
        omega

/-! ## 3. More fuel changes nothing -/

/-- One more unit of fuel changes nothing for a walk that has three units for each character
    that is left, and one for each of the walks that may begin at one position. -/
structure Settled (src : Source) (fuel : Nat) : Prop where
  skip : ∀ closers depth i, 3 * (src.size - i) + 3 ≤ fuel →
    skipFrom src closers (fuel + 1) depth i = skipFrom src closers fuel depth i
  template : ∀ j, 3 * (src.size - j) + 3 ≤ fuel →
    templateFrom src (fuel + 1) j = templateFrom src fuel j
  element : ∀ start depth j, 3 * (src.size - j) + 2 ≤ fuel →
    elementFrom src start (fuel + 1) depth j = elementFrom src start fuel depth j
  openTag : ∀ i, 3 * (src.size - i) + 1 ≤ fuel →
    openTagFrom src (fuel + 1) i = openTagFrom src fuel i
  tagRest : ∀ j, 3 * (src.size - j) + 1 ≤ fuel →
    tagRestFrom src (fuel + 1) j = tagRestFrom src fuel j

namespace Settled

variable {fuel : Nat} (s : Settled src fuel)

include s

theorem skip_next (closers : List Char) (depth i : Nat) (h : 3 * (src.size - i) + 3 ≤ fuel + 1) :
    skipFrom src closers (fuel + 2) depth i = skipFrom src closers (fuel + 1) depth i := by
  conv => lhs; rw [skipFrom]
  conv => rhs; rw [skipFrom]
  cases hc : src[i]? with
  | none => rfl
  | some c =>
    have hi := lt_size hc
    dsimp only
    cases hm : move src closers depth i c with
    | stop => rfl
    | jump j =>
      have hj := lt_of_jump hc hm
      exact s.skip closers depth j (by omega)
    | template =>
      have hj := (le_skipFrom src fuel).2 (i + 1)
      dsimp only
      rw [s.template (i + 1) (by omega)]
      exact s.skip closers depth _ (by omega)
    | opens => exact s.skip closers (depth + 1) (i + 1) (by omega)
    | closes => exact s.skip closers (depth - 1) (i + 1) (by omega)
    | tag =>
      dsimp only
      rw [s.element i 0 i (by omega)]
      refine s.skip closers depth _ ?_
      split <;> omega
    | plain => exact s.skip closers depth (i + 1) (by omega)

theorem template_next (j : Nat) (h : 3 * (src.size - j) + 3 ≤ fuel + 1) :
    templateFrom src (fuel + 2) j = templateFrom src (fuel + 1) j := by
  conv => lhs; rw [templateFrom]
  conv => rhs; rw [templateFrom]
  cases hc : src[j]? with
  | none => rfl
  | some c =>
    have hj := lt_size hc
    have hhole := (le_skipFrom src fuel).1 ['\x7d'] 0 (j + 2)
    dsimp only
    rw [s.template (j + 2) (by omega), s.template (j + 1) (by omega),
      s.skip ['\x7d'] 0 (j + 2) (by omega), s.template _ (by omega)]

theorem element_next (start depth j : Nat) (h : 3 * (src.size - j) + 2 ≤ fuel + 1) :
    elementFrom src start (fuel + 2) depth j = elementFrom src start (fuel + 1) depth j := by
  conv => lhs; rw [elementFrom]
  conv => rhs; rw [elementFrom]
  cases hc : src[j]? with
  | none => rfl
  | some c =>
    have hj := lt_size hc
    have hhole := lt_skipFrom ['\x7d'] fuel 0 hj
    dsimp only
    rw [s.openTag j (by omega), s.skip ['\x7d'] 0 (j + 1) (by omega),
      s.element start depth (j + 1) (by omega), s.element start depth _ (by omega)]
    congr 1
    cases hf : src.findChar '>' j with
    | none =>
      cases ht : openTagFrom src fuel j with
      | none => rfl
      | some kb =>
        obtain ⟨k, selfClosing⟩ := kb
        have := lt_openTagFrom ht
        cases selfClosing <;>
          simp only [s.element start depth k (by omega), s.element start (depth + 1) k (by omega)]
    | some m =>
      have hm := Source.findChar_some hf
      dsimp only
      rw [s.element start (depth - 1) (m + 1) (by omega)]
      cases ht : openTagFrom src fuel j with
      | none => rfl
      | some kb =>
        obtain ⟨k, selfClosing⟩ := kb
        have := lt_openTagFrom ht
        cases selfClosing <;>
          simp only [s.element start depth k (by omega), s.element start (depth + 1) k (by omega)]

theorem openTag_next (i : Nat) (h : 3 * (src.size - i) + 1 ≤ fuel + 1) :
    openTagFrom src (fuel + 2) i = openTagFrom src (fuel + 1) i := by
  conv => lhs; rw [openTagFrom]
  conv => rhs; rw [openTagFrom]
  cases hn : tagNameEnd src (i + 1) with
  | none => rfl
  | some j =>
    have hj := lt_tagNameEnd hn
    dsimp only
    rw [s.tagRest j (by omega)]

theorem tagRest_next (j : Nat) (h : 3 * (src.size - j) + 1 ≤ fuel + 1) :
    tagRestFrom src (fuel + 2) j = tagRestFrom src (fuel + 1) j := by
  conv => lhs; rw [tagRestFrom]
  conv => rhs; rw [tagRestFrom]
  cases hc : src[j]? with
  | none => rfl
  | some c =>
    have hj := lt_size hc
    have hhole := lt_skipFrom ['\x7d'] fuel 0 hj
    have hstring := lt_pastString hj
    dsimp only
    rw [s.skip ['\x7d'] 0 (j + 1) (by omega), s.tagRest _ (by omega), s.tagRest _ (by omega),
      s.tagRest (j + 1) (by omega)]

end Settled

/-- **Enough fuel is enough**, by induction on the fuel. -/
theorem settled (src : Source) : ∀ fuel, Settled src fuel
  | 0 => ⟨by omega, by omega, by omega, by omega, by omega⟩
  | fuel + 1 =>
    have s := settled src fuel
    ⟨s.skip_next, s.template_next, s.element_next, s.openTag_next, s.tagRest_next⟩

/-! ## 4. The walks with enough fuel -/

/-- `skipFrom` with the fuel that it is run with. -/
def scan (src : Source) (closers : List Char) (depth i : Nat) : Nat :=
  skipFrom src closers (fuelFor src) depth i

/-- `templateFrom` with the fuel that it is run with. -/
def inTemplate (src : Source) (j : Nat) : Nat := templateFrom src (fuelFor src) j

/-- `elementFrom` with the fuel that it is run with. -/
def inElement (src : Source) (start depth j : Nat) : Nat :=
  elementFrom src start (fuelFor src) depth j

/-- `openTagFrom` with the fuel that it is run with. -/
def openTag (src : Source) (i : Nat) : Option (Nat × Bool) := openTagFrom src (fuelFor src) i

/-- `tagRestFrom` with the fuel that it is run with. -/
def inTag (src : Source) (j : Nat) : Option (Nat × Bool) := tagRestFrom src (fuelFor src) j

theorem pastTemplate_eq (src : Source) (i : Nat) : pastTemplate src i = inTemplate src (i + 1) := rfl

theorem pastElement_eq (src : Source) (i : Nat) : pastElement src i = inElement src i 0 i := rfl

/-- The fuel that is left after one step. -/
def stepFuel (src : Source) : Nat := 4 * src.size + 7

theorem fuelFor_eq (src : Source) : fuelFor src = stepFuel src + 1 := rfl

theorem skipFrom_step (closers : List Char) (depth i : Nat) :
    skipFrom src closers (stepFuel src) depth i = scan src closers depth i := by
  unfold scan
  rw [fuelFor_eq]
  refine ((settled src (stepFuel src)).skip closers depth i ?_).symm
  unfold stepFuel
  omega

theorem templateFrom_step (j : Nat) : templateFrom src (stepFuel src) j = inTemplate src j := by
  unfold inTemplate
  rw [fuelFor_eq]
  refine ((settled src (stepFuel src)).template j ?_).symm
  unfold stepFuel
  omega

theorem elementFrom_step (start depth j : Nat) :
    elementFrom src start (stepFuel src) depth j = inElement src start depth j := by
  unfold inElement
  rw [fuelFor_eq]
  refine ((settled src (stepFuel src)).element start depth j ?_).symm
  unfold stepFuel
  omega

theorem openTagFrom_step (i : Nat) : openTagFrom src (stepFuel src) i = openTag src i := by
  unfold openTag
  rw [fuelFor_eq]
  refine ((settled src (stepFuel src)).openTag i ?_).symm
  unfold stepFuel
  omega

theorem tagRestFrom_step (j : Nat) : tagRestFrom src (stepFuel src) j = inTag src j := by
  unfold inTag
  rw [fuelFor_eq]
  refine ((settled src (stepFuel src)).tagRest j ?_).symm
  unfold stepFuel
  omega

/-! ## 5. Single steps -/

variable {closers : List Char} {depth i j start : Nat} {c : Char}

/-- **One step of a walk.** -/
theorem scan_eq (h : src[i]? = some c) : scan src closers depth i =
    match move src closers depth i c with
    | .stop => i
    | .jump j => scan src closers depth j
    | .template => scan src closers depth (inTemplate src (i + 1))
    | .opens => scan src closers (depth + 1) (i + 1)
    | .closes => scan src closers (depth - 1) (i + 1)
    | .tag =>
      scan src closers depth
        (if i < inElement src i 0 i then inElement src i 0 i else i + 1)
    | .plain => scan src closers depth (i + 1) := by
  rw [scan, fuelFor_eq, skipFrom, h]
  cases hmove : move src closers depth i c <;>
    simp only [hmove, skipFrom_step, templateFrom_step, elementFrom_step]

/-- One step inside a template. -/
theorem inTemplate_eq (h : src[j]? = some c) : inTemplate src j =
    if c = '\\' then inTemplate src (j + 2)
    else if c = '`' then j + 1
    else if c = '$' ∧ src[j + 1]? = some '\x7b' then
      inTemplate src (scan src ['\x7d'] 0 (j + 2) + 1)
    else inTemplate src (j + 1) := by
  rw [inTemplate, fuelFor_eq, templateFrom, h]
  simp only [skipFrom_step, templateFrom_step]

/-- One step inside an element. -/
theorem inElement_eq (h : src[j]? = some c) : inElement src start depth j =
    if c = '<' then
      if src[j + 1]? = some '/' then
        match src.findChar '>' j with
        | none => src.size
        | some k => if depth ≤ 1 then k + 1 else inElement src start (depth - 1) (k + 1)
      else
        match openTag src j with
        | none => if depth = 0 then start else inElement src start depth (j + 1)
        | some (k, true) => if depth = 0 then k else inElement src start depth k
        | some (k, false) => inElement src start (depth + 1) k
    else if c = '\x7b' ∧ 0 < depth then
      inElement src start depth (scan src ['\x7d'] 0 (j + 1) + 1)
    else if depth = 0 then j
    else inElement src start depth (j + 1) := by
  rw [inElement, fuelFor_eq, elementFrom, h]
  cases src.findChar '>' j <;> rcases hopen : openTag src j with _ | ⟨k, _ | _⟩ <;>
    simp only [hopen, skipFrom_step, elementFrom_step, openTagFrom_step]

/-- The tag at a position. -/
theorem openTag_eq (src : Source) (i : Nat) : openTag src i =
    if src.at_ i ['<', '>'] then some (i + 2, false)
    else
      match tagNameEnd src (i + 1) with
      | none => none
      | some j => inTag src j := by
  rw [openTag, fuelFor_eq, openTagFrom]
  cases tagNameEnd src (i + 1) <;> simp only [tagRestFrom_step]

/-- One step inside a tag. -/
theorem inTag_eq (h : src[j]? = some c) : inTag src j =
    if c = '\'' ∨ c = '"' then inTag src (pastString src j)
    else if c = '\x7b' then inTag src (scan src ['\x7d'] 0 (j + 1) + 1)
    else if src.at_ j ['/', '>'] then some (j + 2, true)
    else if c = '>' then some (j + 1, false)
    else if c = '<' then none
    else inTag src (j + 1) := by
  rw [inTag, fuelFor_eq, tagRestFrom, h]
  simp only [skipFrom_step, tagRestFrom_step]

/-- Where there is nothing left, a walk ends. -/
theorem scan_end (h : src[i]? = none) : scan src closers depth i = src.size := by
  rw [scan, fuelFor_eq, skipFrom, h]

theorem inTemplate_end (h : src[j]? = none) : inTemplate src j = src.size := by
  rw [inTemplate, fuelFor_eq, templateFrom, h]

theorem inElement_end (h : src[j]? = none) : inElement src start depth j = src.size := by
  rw [inElement, fuelFor_eq, elementFrom, h]

theorem inTag_end (h : src[j]? = none) : inTag src j = none := by
  rw [inTag, fuelFor_eq, tagRestFrom, h]

/-! ## 6. Strings and regular expressions -/

theorem stringEnd_enough (src : Source) (quote : Char) : ∀ {n m j : Nat}, src.size ≤ j + n →
    src.size ≤ j + m → stringEnd src quote n j = stringEnd src quote m j
  | 0, 0, _, _, _ => rfl
  | 0, m + 1, j, hn, _ => by
    have hend : src[j]? = none := Array.getElem?_eq_none hn
    rw [stringEnd, stringEnd, hend]
  | n + 1, 0, j, _, hm => by
    have hend : src[j]? = none := Array.getElem?_eq_none hm
    rw [stringEnd, stringEnd, hend]
  | n + 1, m + 1, j, hn, hm => by
    rw [stringEnd, stringEnd,
      stringEnd_enough src quote (n := n) (m := m) (j := j + 2) (by omega) (by omega),
      stringEnd_enough src quote (n := n) (m := m) (j := j + 1) (by omega) (by omega)]

theorem regexEnd_enough (src : Source) : ∀ {n m j : Nat} {inClass : Bool}, src.size ≤ j + n →
    src.size ≤ j + m → regexEnd src inClass n j = regexEnd src inClass m j
  | 0, 0, _, _, _, _ => rfl
  | 0, m + 1, j, _, hn, _ => by
    have hend : src[j]? = none := Array.getElem?_eq_none hn
    rw [regexEnd, regexEnd, hend]
  | n + 1, 0, j, _, _, hm => by
    have hend : src[j]? = none := Array.getElem?_eq_none hm
    rw [regexEnd, regexEnd, hend]
  | n + 1, m + 1, j, inClass, hn, hm => by
    have hnext (b : Bool) : regexEnd src b n (j + 1) = regexEnd src b m (j + 1) :=
      regexEnd_enough src (by omega) (by omega)
    have hescape : regexEnd src inClass n (j + 2) = regexEnd src inClass m (j + 2) :=
      regexEnd_enough src (by omega) (by omega)
    simp only [regexEnd, hnext, hescape]

/-- `stringEnd` with the fuel that the rest of the text needs. -/
def inString (src : Source) (quote : Char) (j : Nat) : Nat := stringEnd src quote (src.size - j) j

/-- `regexEnd` with the fuel that the rest of the text needs. -/
def inRegex (src : Source) (inClass : Bool) (j : Nat) : Nat :=
  regexEnd src inClass (src.size - j) j

theorem pastString_eq (h : src[i]? = some c) : pastString src i = inString src c (i + 1) := by
  rw [pastString, h]
  exact stringEnd_enough src c (by omega) (by omega)

theorem pastRegex_eq (src : Source) (i : Nat) : pastRegex src i = inRegex src false (i + 1) :=
  regexEnd_enough src (by omega) (by omega)

theorem inString_end {quote : Char} (h : src[j]? = none) : inString src quote j = src.size := by
  rw [inString, Nat.sub_eq_zero_of_le (Array.getElem?_eq_none_iff.mp h), stringEnd]

theorem inRegex_end {inClass : Bool} (h : src[j]? = none) : inRegex src inClass j = src.size := by
  rw [inRegex, Nat.sub_eq_zero_of_le (Array.getElem?_eq_none_iff.mp h), regexEnd]

/-- One step inside a string literal. -/
theorem inString_eq {quote : Char} (h : src[j]? = some c) : inString src quote j =
    if c = '\\' then inString src quote (j + 2)
    else if c = quote ∨ c = '\n' then j + 1
    else inString src quote (j + 1) := by
  have hj := lt_size h
  have hescape : stringEnd src quote (src.size - j - 1) (j + 2) = inString src quote (j + 2) :=
    stringEnd_enough src quote (by omega) (by omega)
  have hnext : stringEnd src quote (src.size - j - 1) (j + 1) = inString src quote (j + 1) :=
    stringEnd_enough src quote (by omega) (by omega)
  rw [inString, show src.size - j = src.size - j - 1 + 1 by omega, stringEnd, h, hescape, hnext]
  simp

/-- One step inside a regular expression. -/
theorem inRegex_eq {inClass : Bool} (h : src[j]? = some c) : inRegex src inClass j =
    if c = '\\' then inRegex src inClass (j + 2)
    else if c = '\n' then j
    else if c = '[' then inRegex src true (j + 1)
    else if c = ']' then inRegex src false (j + 1)
    else if c = '/' ∧ inClass = false then src.passWhile isLetter (j + 1)
    else inRegex src inClass (j + 1) := by
  have hj := lt_size h
  have hescape : regexEnd src inClass (src.size - j - 1) (j + 2) = inRegex src inClass (j + 2) :=
    regexEnd_enough src (by omega) (by omega)
  have hnext (b : Bool) : regexEnd src b (src.size - j - 1) (j + 1) = inRegex src b (j + 1) :=
    regexEnd_enough src (by omega) (by omega)
  rw [inRegex, show src.size - j = src.size - j - 1 + 1 by omega, regexEnd, h, hescape, hnext,
    hnext, hnext]
  simp

end Affordance.Script
