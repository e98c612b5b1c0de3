import Affordance.Proofs.Routine
import Affordance.Proofs.Script.Reading

/-!
# Every scan comes to an end

The scanner and the reader as routines that call each other, without any fuel.

  * `Call`, `Answer`: the loops of the scanner and of the reader, and what they answer.
  * `routine`: what each of them does up to its next call.
  * `rank`: what is left of the text counts, and after it which routine calls which at one
    position.
  * **`halts`**: every call ends, with the answer that the walk with its fuel gives; one lemma for
    each routine (`follows_skip` and its like).
-/

namespace Affordance.Script

open Affordance.Text

/-! ## 1. Calls and answers -/

/-- The loops of the scanner and of the reader, each with the position it is at. -/
inductive Call where
  /-- A walk to the first of `closers`. -/
  | skip (closers : List Char) (depth i : Nat)
  /-- Inside a string literal. -/
  | string (quote : Char) (j : Nat)
  /-- Inside a regular expression. -/
  | regex (inClass : Bool) (j : Nat)
  /-- Inside a template literal. -/
  | template (j : Nat)
  /-- Inside an element that the scanner passes. -/
  | element (start depth j : Nat)
  /-- At a tag that the scanner passes. -/
  | openTag (i : Nat)
  /-- Inside a tag that the scanner passes. -/
  | tagRest (j : Nat)
  /-- A walk that reads elements. -/
  | walk (closers : List Char) (depth i : Nat) (t : Trail)
  /-- At an element that is read. -/
  | read (i : Nat) (t : Trail)
  /-- Inside a tag that is read. -/
  | attributes (start : Nat) (o : OpenTag) (j : Nat) (t : Trail)
  /-- Inside an element that is read. -/
  | children (tag : String) (j : Nat) (t : Trail)
  /-- The rest of the whole text. -/
  | rest (i : Nat) (t : Trail)

/-- What a call answers: a position, the end of a tag, or what was read as well. -/
abbrev Answer : Call → Type
  | .skip _ _ _ | .string _ _ | .regex _ _ | .template _ | .element _ _ _ => Nat
  | .openTag _ | .tagRest _ => Option (Nat × Bool)
  | .walk _ _ _ _ | .read _ _ | .attributes _ _ _ _ | .children _ _ _ => Nat × Trail
  | .rest _ _ => Trail

/-! ## 2. Routines

Each of them looks at the character at its position. What is passed by a search, a comment or the
white space in a tag, is passed in one step. -/

section Routines

variable (src : Source)

def stringRoutine (quote : Char) (j : Nat) : Routine Answer Nat :=
  match src[j]? with
  | none => .done src.size
  | some c =>
    if c = '\\' then .ask (.string quote (j + 2)) .done
    else if c = quote ∨ c = '\n' then .done (j + 1)
    else .ask (.string quote (j + 1)) .done

def regexRoutine (inClass : Bool) (j : Nat) : Routine Answer Nat :=
  match src[j]? with
  | none => .done src.size
  | some c =>
    if c = '\\' then .ask (.regex inClass (j + 2)) .done
    else if c = '\n' then .done j
    else if c = '[' then .ask (.regex true (j + 1)) .done
    else if c = ']' then .ask (.regex false (j + 1)) .done
    else if c = '/' ∧ inClass = false then .done (src.passWhile isLetter (j + 1))
    else .ask (.regex inClass (j + 1)) .done

/-- Passes the literal or the comment at a position; a comment ends at `j`. -/
def passRoutine (i : Nat) (c : Char) (j : Nat) {α : Type} (next : Nat → Routine Answer α) :
    Routine Answer α :=
  if c = '/' then
    if src[i + 1]? = some '/' ∨ src[i + 1]? = some '*' then next j
    else .ask (.regex false (i + 1)) next
  else .ask (.string c (i + 1)) next

def skipRoutine (closers : List Char) (depth i : Nat) : Routine Answer Nat :=
  match src[i]? with
  | none => .done src.size
  | some c =>
    match move src closers depth i c with
    | .stop => .done i
    | .jump j => passRoutine src i c j fun k => .ask (.skip closers depth k) .done
    | .template => .ask (.template (i + 1)) fun k => .ask (.skip closers depth k) .done
    | .opens => .ask (.skip closers (depth + 1) (i + 1)) .done
    | .closes => .ask (.skip closers (depth - 1) (i + 1)) .done
    | .tag =>
      .ask (.element i 0 i) fun (k : Nat) =>
        .ask (.skip closers depth (if i < k then k else i + 1)) .done
    | .plain => .ask (.skip closers depth (i + 1)) .done

def templateRoutine (j : Nat) : Routine Answer Nat :=
  match src[j]? with
  | none => .done src.size
  | some c =>
    if c = '\\' then .ask (.template (j + 2)) .done
    else if c = '`' then .done (j + 1)
    else if c = '$' ∧ src[j + 1]? = some '\x7b' then
      .ask (.skip ['\x7d'] 0 (j + 2)) fun k => .ask (.template (k + 1)) .done
    else .ask (.template (j + 1)) .done

def elementRoutine (start depth j : Nat) : Routine Answer Nat :=
  match src[j]? with
  | none => .done src.size
  | some c =>
    if c = '<' then
      if src[j + 1]? = some '/' then
        match src.findChar '>' j with
        | none => .done src.size
        | some k =>
          if depth ≤ 1 then .done (k + 1) else .ask (.element start (depth - 1) (k + 1)) .done
      else
        .ask (.openTag j) fun
          | none => if depth = 0 then .done start else .ask (.element start depth (j + 1)) .done
          | some (k, true) => if depth = 0 then .done k else .ask (.element start depth k) .done
          | some (k, false) => .ask (.element start (depth + 1) k) .done
    else if c = '\x7b' ∧ 0 < depth then
      .ask (.skip ['\x7d'] 0 (j + 1)) fun k => .ask (.element start depth (k + 1)) .done
    else if depth = 0 then .done j
    else .ask (.element start depth (j + 1)) .done

def openTagRoutine (i : Nat) : Routine Answer (Option (Nat × Bool)) :=
  if src.at_ i ['<', '>'] then .done (some (i + 2, false))
  else
    match tagNameEnd src (i + 1) with
    | none => .done none
    | some j => .ask (.tagRest j) .done

def tagRestRoutine (j : Nat) : Routine Answer (Option (Nat × Bool)) :=
  match src[j]? with
  | none => .done none
  | some c =>
    if c = '\'' ∨ c = '"' then .ask (.string c (j + 1)) fun k => .ask (.tagRest k) .done
    else if c = '\x7b' then
      .ask (.skip ['\x7d'] 0 (j + 1)) fun k => .ask (.tagRest (k + 1)) .done
    else if src.at_ j ['/', '>'] then .done (some (j + 2, true))
    else if c = '>' then .done (some (j + 1, false))
    else if c = '<' then .done none
    else .ask (.tagRest (j + 1)) .done

def walkRoutine (closers : List Char) (depth i : Nat) (t : Trail) : Routine Answer (Nat × Trail) :=
  match src[i]? with
  | none => .done (src.size, t)
  | some c =>
    match move src closers depth i c with
    | .stop => .done (i, t)
    | .jump j => passRoutine src i c j fun k => .ask (.walk closers depth k t) .done
    | .template => .ask (.template (i + 1)) fun k => .ask (.walk closers depth k t) .done
    | .opens => .ask (.walk closers (depth + 1) (i + 1) t) .done
    | .closes => .ask (.walk closers (depth - 1) (i + 1) t) .done
    | .tag =>
      .ask (.read i t) fun (r : Nat × Trail) =>
        .ask (.walk closers depth (if i < r.1 then r.1 else i + 1) r.2) .done
    | .plain => .ask (.walk closers depth (i + 1) t) .done

def readRoutine (i : Nat) (t : Trail) : Routine Answer (Nat × Trail) :=
  if src[i + 1]? = some '>' then .ask (.children "" (i + 2) t) .done
  else
    match tagNameEnd src (i + 1) with
    | none => .done (i, t)
    | some j => .ask (.attributes i { tag := src.text (i + 1) j } j t) .done

def attributesRoutine (start : Nat) (o : OpenTag) (j : Nat) (t : Trail) :
    Routine Answer (Nat × Trail) :=
  match tagPart src j with
  | .broken => .done (start, t)
  | .selfClosing k => .done (k, t.addTag o true)
  | .ending k => .ask (.children o.tag k (t.addTag o false)) .done
  | .spread k =>
    .ask (.walk ['\x7d'] 0 k t) fun r =>
      .ask (.attributes start (o.withSpread (strip (src.slice k r.1))) (r.1 + 1) r.2) .done
  | .quoted name value k =>
    .ask (.attributes start (o.withText name (String.ofList (unescape value))) k
      (t.checkMeant value)) .done
  | .expression name k =>
    .ask (.walk ['\x7d'] 0 k t) fun r =>
      .ask (.attributes start (o.withExpression name (strip (src.slice k r.1))) (r.1 + 1) r.2) .done
  | .flag name k => .ask (.attributes start (o.withText name "true") k t) .done

def childrenRoutine (tag : String) (j : Nat) (t : Trail) : Routine Answer (Nat × Trail) :=
  match src[j]? with
  | none => .done (src.size, t.add (.close tag))
  | some c =>
    if c = '<' then
      if src[j + 1]? = some '/' then
        .done ((match src.findChar '>' j with
          | some k => k + 1
          | none => src.size), t.add (.close tag))
      else
        .ask (.read j t) fun (r : Nat × Trail) =>
          if r.1 = j then .ask (.children tag (j + 1) (r.2.add (.text "<"))) .done
          else .ask (.children tag r.1 r.2) .done
    else if c = '\x7b' then
      .ask (.walk ['\x7d'] 0 (j + 1) t) fun r =>
        .ask (.children tag (r.1 + 1) (r.2.addLiteral (src.slice (j + 1) r.1))) .done
    else .ask (.children tag (textEnd src j) (t.addMeant (src.slice j (textEnd src j)))) .done

def restRoutine (i : Nat) (t : Trail) : Routine Answer Trail :=
  if i < src.size then .ask (.walk [] 0 i t) fun r => .ask (.rest (r.1 + 1) r.2) .done
  else .done t

/-- What each call does up to the next one. -/
def routine : (c : Call) → Routine Answer (Answer c)
  | .skip closers depth i => skipRoutine src closers depth i
  | .string quote j => stringRoutine src quote j
  | .regex inClass j => regexRoutine src inClass j
  | .template j => templateRoutine src j
  | .element start depth j => elementRoutine src start depth j
  | .openTag i => openTagRoutine src i
  | .tagRest j => tagRestRoutine src j
  | .walk closers depth i t => walkRoutine src closers depth i t
  | .read i t => readRoutine src i t
  | .attributes start o j t => attributesRoutine src start o j t
  | .children tag j t => childrenRoutine src tag j t
  | .rest i t => restRoutine src i t

/-- The call ends with an answer. -/
def Halts (c : Call) (a : Answer c) : Prop := Ends (routine src) (routine src c) a

/-! ## 3. The answers -/

/-- `walkAll` with the fuel that the rest of the text needs. -/
def inRest (i : Nat) (t : Trail) : Trail := walkAll src (src.size + 1 - i) i t

/-- The answers of the walks with their fuel. -/
def value : (c : Call) → Answer c
  | .skip closers depth i => scan src closers depth i
  | .string quote j => inString src quote j
  | .regex inClass j => inRegex src inClass j
  | .template j => inTemplate src j
  | .element start depth j => inElement src start depth j
  | .openTag i => openTag src i
  | .tagRest j => inTag src j
  | .walk closers depth i t => walk src closers depth i t
  | .read i t => element src i t
  | .attributes start o j t => inAttributes src start o j t
  | .children tag j t => inChildren src tag j t
  | .rest i t => inRest src i t

/-- How much a call has left to do. At one position the rest of the text calls a walk, a walk or
    what is inside an element calls the element, and the element its tag. -/
def rank : Call → Nat
  | .string _ j | .regex _ j => src.size - j
  | .openTag i | .tagRest i => 3 * (src.size - i) + 1
  | .element _ _ j | .read j _ => 3 * (src.size - j) + 2
  | .skip _ _ i | .template i | .walk _ _ i _ | .attributes _ _ i _ | .children _ i _ =>
    3 * (src.size - i) + 3
  | .rest i _ => 3 * (src.size - i) + 4

end Routines

variable {src : Source} {closers : List Char} {depth i j start r : Nat} {c : Char} {t : Trail}

/-! ## 4. The rest of a text -/

theorem inChildren_end {tag : String} (h : src[j]? = none) :
    inChildren src tag j t = (src.size, t.add (.close tag)) := by
  rw [inChildren, fuelFor_eq, readChildren, h]

theorem walkAll_enough : ∀ {n m i : Nat} {t : Trail}, src.size ≤ i + n → src.size ≤ i + m →
    walkAll src n i t = walkAll src m i t
  | 0, 0, _, _, _, _ => rfl
  | 0, m + 1, i, _, hn, _ => by rw [walkAll, walkAll, if_neg (by omega)]
  | n + 1, 0, i, _, _, hm => by rw [walkAll, walkAll, if_neg (by omega)]
  | n + 1, m + 1, i, t, hn, hm => by
    rw [walkAll, walkAll]
    split
    · have hwalk := (forward src (fuelFor src)).walk [] 0 i t
      dsimp only
      exact walkAll_enough (by omega) (by omega)
    · rfl

/-- One step over the rest of a text. -/
theorem inRest_eq (h : i < src.size) :
    inRest src i t = inRest src ((walk src [] 0 i t).1 + 1) (walk src [] 0 i t).2 := by
  have hwalk : min i src.size ≤ (walk src [] 0 i t).1 := (forward src (fuelFor src)).walk [] 0 i t
  have hrest : walkAll src (src.size - i) ((walk src [] 0 i t).1 + 1) (walk src [] 0 i t).2 =
      inRest src ((walk src [] 0 i t).1 + 1) (walk src [] 0 i t).2 :=
    walkAll_enough (by omega) (by omega)
  rw [inRest, show src.size + 1 - i = src.size - i + 1 by omega, walkAll, if_pos h, ← hrest]
  rfl

theorem inRest_end (h : ¬ i < src.size) : inRest src i t = t := by
  rw [inRest]
  cases src.size + 1 - i with
  | zero => rfl
  | succ n => rw [walkAll, if_neg h]

/-! ## 5. Every routine comes to the answer of its call -/

/-- The routine of a call comes to an answer, and its calls have less to do. -/
abbrev Answers (src : Source) (c : Call) {α : Type} (p : Routine Answer α) (a : α) : Prop :=
  p.Follows (value src) (rank src) (rank src c) a

/-- Further on there is less to do. -/
theorem rank_lt (hi : i < src.size) (h : i < j) :
    3 * (src.size - j) + 3 < 3 * (src.size - i) + 3 := by omega

/-- Where a walk goes on behind what may be an element. -/
theorem lt_behind (i j : Nat) : i < if i < j then j else i + 1 := by
  split <;> omega

theorem follows_string (quote : Char) (j : Nat) :
    Answers src (.string quote j) (stringRoutine src quote j) (inString src quote j) := by
  unfold stringRoutine
  cases hc : src[j]? with
  | none => exact (inString_end hc).symm
  | some c =>
    have hj := lt_size hc
    rw [inString_eq hc]
    dsimp only
    split
    · exact ⟨by simp only [rank]; omega, rfl⟩
    · split
      · rfl
      · exact ⟨by simp only [rank]; omega, rfl⟩

theorem follows_regex (inClass : Bool) (j : Nat) :
    Answers src (.regex inClass j) (regexRoutine src inClass j) (inRegex src inClass j) := by
  unfold regexRoutine
  cases hc : src[j]? with
  | none => exact (inRegex_end hc).symm
  | some c =>
    have hj := lt_size hc
    rw [inRegex_eq hc]
    dsimp only
    repeat' split
    all_goals first
      | rfl
      | exact ⟨by simp only [rank]; omega, rfl⟩

/-- What one move passes is a string, or what a slash begins. -/
theorem of_move_jump (hm : move src closers depth i c = .jump j) :
    (c = '/' ∧ slashMove src i = .jump j) ∨ (c ≠ '/' ∧ pastString src i = j) := by
  unfold move at hm
  split at hm
  · cases hm
  · split at hm
    · rename_i hquote
      cases hm
      exact .inr ⟨by rcases hquote with rfl | rfl <;> decide, rfl⟩
    · split at hm
      · cases hm
      · split at hm
        · rename_i hslash
          exact .inl ⟨hslash, hm⟩
        · repeat' split at hm
          all_goals cases hm

/-- What a slash begins is a comment or a regular expression. -/
theorem of_slashMove_jump (hm : slashMove src i = .jump j) :
    (src[i + 1]? = some '/' ∨ src[i + 1]? = some '*') ∨ pastRegex src i = j := by
  unfold slashMove at hm
  cases hn : src[i + 1]? with
  | none => rw [hn] at hm; cases hm
  | some next =>
    rw [hn] at hm
    dsimp only at hm
    split at hm
    · rename_i hline
      exact .inl (.inl (by rw [beq_iff_eq.mp hline]))
    · split at hm
      · rename_i hblock
        exact .inl (.inr (by rw [beq_iff_eq.mp hblock]))
      · split at hm
        · cases hm
          exact .inr rfl
        · cases hm

/-- What is passed in one move is passed by the routine of a literal, or ends with a comment. -/
theorem follows_pass {α : Type} {next : Nat → Routine Answer α} {a : α}
    (hc : src[i]? = some c) (hm : move src closers depth i c = .jump j)
    (hrank : 3 * (src.size - i) + 3 ≤ r) (hnext : (next j).Follows (value src) (rank src) r a) :
    (passRoutine src i c j next).Follows (value src) (rank src) r a := by
  have hi := lt_size hc
  unfold passRoutine
  obtain ⟨hslash, hm⟩ | ⟨hslash, hstring⟩ := of_move_jump hm
  · rw [if_pos hslash]
    split
    · exact hnext
    · rename_i hcomment
      have hregex := (of_slashMove_jump hm).resolve_left hcomment
      refine ⟨by simp only [rank]; omega, ?_⟩
      rwa [value, ← pastRegex_eq, hregex]
  · rw [if_neg hslash]
    refine ⟨by simp only [rank]; omega, ?_⟩
    rwa [value, ← pastString_eq hc, hstring]

theorem follows_skip (closers : List Char) (depth i : Nat) :
    Answers src (.skip closers depth i) (skipRoutine src closers depth i)
      (scan src closers depth i) := by
  unfold skipRoutine
  cases hc : src[i]? with
  | none => exact (scan_end hc).symm
  | some c =>
    have hi := lt_size hc
    rw [scan_eq hc]
    dsimp only
    cases hm : move src closers depth i c with
    | stop => rfl
    | jump j =>
      have hj := lt_of_jump hc hm
      exact follows_pass hc hm (Nat.le_refl _) ⟨by simp only [rank]; omega, rfl⟩
    | template =>
      have hj : min (i + 1) src.size ≤ inTemplate src (i + 1) := (le_skipFrom src _).2 (i + 1)
      exact ⟨by simp only [rank]; omega, by simp only [rank, value]; omega, rfl⟩
    | opens => exact ⟨by simp only [rank]; omega, rfl⟩
    | closes => exact ⟨by simp only [rank]; omega, rfl⟩
    | tag =>
      exact ⟨by simp only [rank]; omega, rank_lt hi (lt_behind i _), rfl⟩
    | plain => exact ⟨by simp only [rank]; omega, rfl⟩

theorem follows_template (j : Nat) :
    Answers src (.template j) (templateRoutine src j) (inTemplate src j) := by
  unfold templateRoutine
  cases hc : src[j]? with
  | none => exact (inTemplate_end hc).symm
  | some c =>
    have hj := lt_size hc
    rw [inTemplate_eq hc]
    dsimp only
    split
    · exact ⟨by simp only [rank]; omega, rfl⟩
    · split
      · rfl
      · split
        · have hhole : min (j + 2) src.size ≤ scan src ['\x7d'] 0 (j + 2) :=
            (le_skipFrom src _).1 ['\x7d'] 0 (j + 2)
          exact ⟨by simp only [rank]; omega, by simp only [rank, value]; omega, rfl⟩
        · exact ⟨by simp only [rank]; omega, rfl⟩

theorem lt_hole (h : j < src.size) : j < scan src ['\x7d'] 0 (j + 1) := lt_skipFrom ['\x7d'] _ 0 h

theorem follows_element (start depth j : Nat) :
    Answers src (.element start depth j) (elementRoutine src start depth j)
      (inElement src start depth j) := by
  unfold elementRoutine
  cases hc : src[j]? with
  | none => exact (inElement_end hc).symm
  | some c =>
    have hj := lt_size hc
    rw [inElement_eq hc]
    dsimp only
    split
    · split
      · cases hf : src.findChar '>' j with
        | none => rfl
        | some k =>
          have hk := (Source.findChar_some hf).1
          dsimp only
          split
          · rfl
          · exact ⟨by simp only [rank]; omega, rfl⟩
      · refine ⟨by simp only [rank]; omega, ?_⟩
        simp only [value]
        rcases ht : openTag src j with _ | ⟨k, selfClosing⟩
        · dsimp only
          split
          · rfl
          · exact ⟨by simp only [rank]; omega, rfl⟩
        · have hk : j < k := lt_openTagFrom ht
          cases selfClosing with
          | false => exact ⟨by simp only [rank]; omega, rfl⟩
          | true =>
            dsimp only
            split
            · rfl
            · exact ⟨by simp only [rank]; omega, rfl⟩
    · split
      · have hhole := lt_hole hj
        exact ⟨by simp only [rank]; omega, by simp only [rank, value]; omega, rfl⟩
      · split
        · rfl
        · exact ⟨by simp only [rank]; omega, rfl⟩

theorem follows_openTag (i : Nat) :
    Answers src (.openTag i) (openTagRoutine src i) (openTag src i) := by
  rw [openTag_eq]
  unfold openTagRoutine
  split
  · rfl
  · cases hn : tagNameEnd src (i + 1) with
    | none => rfl
    | some j =>
      have hj := lt_tagNameEnd hn
      exact ⟨by simp only [rank]; omega, rfl⟩

theorem follows_tagRest (j : Nat) :
    Answers src (.tagRest j) (tagRestRoutine src j) (inTag src j) := by
  unfold tagRestRoutine
  cases hc : src[j]? with
  | none => exact (inTag_end hc).symm
  | some c =>
    have hj := lt_size hc
    rw [inTag_eq hc]
    dsimp only
    split
    · have hstring := lt_pastString hj
      have hvalue : value src (.string c (j + 1)) = pastString src j := (pastString_eq hc).symm
      refine ⟨by simp only [rank]; omega, ?_⟩
      rw [hvalue]
      exact ⟨by simp only [rank]; omega, rfl⟩
    · split
      · have hhole := lt_hole hj
        exact ⟨by simp only [rank]; omega, by simp only [rank, value]; omega, rfl⟩
      · repeat' split
        all_goals first
          | rfl
          | exact ⟨by simp only [rank]; omega, rfl⟩

theorem follows_walk (closers : List Char) (depth i : Nat) (t : Trail) :
    Answers src (.walk closers depth i t) (walkRoutine src closers depth i t)
      (walk src closers depth i t) := by
  unfold walkRoutine
  cases hc : src[i]? with
  | none => exact (walk_end hc).symm
  | some c =>
    have hi := lt_size hc
    rw [walk_eq hc]
    dsimp only
    cases hm : move src closers depth i c with
    | stop => rfl
    | jump j =>
      have hj := lt_of_jump hc hm
      exact follows_pass hc hm (Nat.le_refl _) ⟨by simp only [rank]; omega, rfl⟩
    | template =>
      have hj : min (i + 1) src.size ≤ inTemplate src (i + 1) := (le_skipFrom src _).2 (i + 1)
      exact ⟨by simp only [rank]; omega, by simp only [rank, value]; omega, rfl⟩
    | opens => exact ⟨by simp only [rank]; omega, rfl⟩
    | closes => exact ⟨by simp only [rank]; omega, rfl⟩
    | tag =>
      exact ⟨by simp only [rank]; omega, rank_lt hi (lt_behind i _), rfl⟩
    | plain => exact ⟨by simp only [rank]; omega, rfl⟩

theorem follows_read (i : Nat) (t : Trail) :
    Answers src (.read i t) (readRoutine src i t) (element src i t) := by
  rw [element_eq]
  unfold readRoutine
  split
  · rename_i hc
    have hi := lt_size hc
    exact ⟨by simp only [rank]; omega, rfl⟩
  · cases hn : tagNameEnd src (i + 1) with
    | none => rfl
    | some j =>
      have hj := lt_tagNameEnd hn
      exact ⟨by simp only [rank]; omega, rfl⟩

theorem follows_attributes (start : Nat) (o : OpenTag) (j : Nat) (t : Trail) :
    Answers src (.attributes start o j t) (attributesRoutine src start o j t)
      (inAttributes src start o j t) := by
  rw [inAttributes_eq]
  unfold attributesRoutine
  -- Every part of a tag but a broken one ends behind its beginning.
  have hnext : ∀ {k}, (tagPart src j).next? = some k → j < k ∧ k ≤ src.size := lt_tagPart
  cases hp : tagPart src j with
  | broken => rfl
  | selfClosing k => rfl
  | ending k =>
    have hk := hnext (by rw [hp]; rfl : _ = some k)
    exact ⟨by simp only [rank]; omega, rfl⟩
  | spread k =>
    have hk := hnext (by rw [hp]; rfl : _ = some k)
    have hwalk : min k src.size ≤ (walk src ['\x7d'] 0 k t).1 := (forward src _).walk _ 0 k t
    exact ⟨by simp only [rank]; omega, by simp only [rank, value]; omega, rfl⟩
  | quoted name value k =>
    have hk := hnext (by rw [hp]; rfl : _ = some k)
    exact ⟨by simp only [rank]; omega, rfl⟩
  | expression name k =>
    have hk := hnext (by rw [hp]; rfl : _ = some k)
    have hwalk : min k src.size ≤ (walk src ['\x7d'] 0 k t).1 := (forward src _).walk _ 0 k t
    exact ⟨by simp only [rank]; omega, by simp only [rank, value]; omega, rfl⟩
  | flag name k =>
    have hk := hnext (by rw [hp]; rfl : _ = some k)
    exact ⟨by simp only [rank]; omega, rfl⟩

theorem follows_children (tag : String) (j : Nat) (t : Trail) :
    Answers src (.children tag j t) (childrenRoutine src tag j t) (inChildren src tag j t) := by
  unfold childrenRoutine
  cases hc : src[j]? with
  | none => exact (inChildren_end hc).symm
  | some c =>
    have hj := lt_size hc
    rw [inChildren_eq hc]
    dsimp only
    split
    · split
      · rfl
      · refine ⟨by simp only [rank]; omega, ?_⟩
        have helement : min j src.size ≤ (element src j t).1 := (forward src _).element j t
        change Answers src _ (if (element src j t).1 = j then _ else _) _
        split
        · exact ⟨by simp only [rank]; omega, rfl⟩
        · have hnext : j < (element src j t).1 := by omega
          exact ⟨rank_lt hj hnext, rfl⟩
    · rename_i hangle
      split
      · have hwalk : min (j + 1) src.size ≤ (walk src ['\x7d'] 0 (j + 1) t).1 :=
          (forward src _).walk _ 0 (j + 1) t
        exact ⟨by simp only [rank]; omega, by simp only [rank, value]; omega, rfl⟩
      · rename_i hbrace
        have hrun := lt_textEnd hc hangle hbrace
        exact ⟨by simp only [rank]; omega, rfl⟩

theorem follows_rest (i : Nat) (t : Trail) :
    Answers src (.rest i t) (restRoutine src i t) (inRest src i t) := by
  unfold restRoutine
  split
  · rename_i hi
    have hwalk : min i src.size ≤ (walk src [] 0 i t).1 := (forward src _).walk [] 0 i t
    rw [inRest_eq hi]
    exact ⟨by simp only [rank]; omega, by simp only [rank, value]; omega, rfl⟩
  · rename_i hi
    exact (inRest_end hi).symm

/-- The routine of every call comes to its answer. -/
theorem follows_routine (src : Source) (c : Call) : Answers src c (routine src c) (value src c) := by
  cases c with
  | skip closers depth i => exact follows_skip closers depth i
  | string quote j => exact follows_string quote j
  | regex inClass j => exact follows_regex inClass j
  | template j => exact follows_template j
  | element start depth j => exact follows_element start depth j
  | openTag i => exact follows_openTag i
  | tagRest j => exact follows_tagRest j
  | walk closers depth i t => exact follows_walk closers depth i t
  | read i t => exact follows_read i t
  | attributes start o j t => exact follows_attributes start o j t
  | children tag j t => exact follows_children tag j t
  | rest i t => exact follows_rest i t

/-- **Every call of the scanner and of the reader ends**, with the answer of the walk with its
    fuel. -/
theorem halts (src : Source) (c : Call) : Halts src c (value src c) :=
  ends_of_follows (follows_routine src) c

/-- A call ends with one answer, which is that of the walk with its fuel. -/
theorem halts_iff {c : Call} {a : Answer c} : Halts src c a ↔ a = value src c :=
  ⟨fun h => h.unique (halts src c), fun h => h ▸ halts src c⟩

end Affordance.Script
