import Mathlib.Logic.Relation
import Affordance.Proofs.Script.Reading
import Affordance.Proofs.Text.Ahead

/-!
# Balanced expressions

An expression that a reader passes without looking for elements in it.

  * `Balanced`: brackets are closed by their partners, string literals and templates are
    finished, and outside of them there is neither a slash nor an angle bracket. The holes of a
    template are balanced again (`TemplateBody`).
  * `Code`: the same with comments between the parts. A balanced expression is code without
    comments (`Balanced.code`).
  * `Passing`: a step of a walk that meets no tag. The scanner and the reader take such steps
    alike, whatever they do with tags (`Passing.scan`, `Passing.walk`).
  * `passing_string`, `passing_template`, `passing_lineComment` and their like: what a walk passes
    in one step.
  * **`passes_code`**: code is passed as a whole, at every depth at which the walk does not end at
    one of its characters. So a walk that begins at the first character of an expression in
    braces ends at its closing brace (`scan_balanced`, `walk_balanced`), and the partner of a
    bracket is found behind the code in it (`partner_code`, **`partner_found`**).
-/

namespace Affordance.Script

open Affordance.Text
open Affordance.Text.Source (Ahead)

/-! ## 1. The expressions -/

/-- The characters that mean something to the scanner. -/
def signs : List Char := ['\'', '"', '`', '/', '<', '(', '[', '\x7b', ')', ']', '\x7d']

/-- A character that means nothing to the scanner. -/
def isPlain (c : Char) : Bool := !signs.contains c

/-- What stands between the quotes of a finished string literal: neither the quote nor a line
    break, unless a backslash stands before it. -/
inductive StringBody (quote : Char) : List Char → Prop
  | nil : StringBody quote []
  | char {c : Char} {s : List Char} (hquote : c ≠ quote) (hslash : c ≠ '\\') (hbreak : c ≠ '\n')
      (hs : StringBody quote s) : StringBody quote (c :: s)
  | escape {c : Char} {s : List Char} (hs : StringBody quote s) : StringBody quote ('\\' :: c :: s)

mutual

/-- What stands between the backticks of a finished template. -/
inductive TemplateBody : List Char → Prop
  | nil : TemplateBody []
  | char {c : Char} {s : List Char} (htick : c ≠ '`') (hslash : c ≠ '\\')
      (hhole : c = '$' → s.head? ≠ some '\x7b') (hs : TemplateBody s) : TemplateBody (c :: s)
  | escape {c : Char} {s : List Char} (hs : TemplateBody s) : TemplateBody ('\\' :: c :: s)
  | hole {e s : List Char} (he : Balanced e) (hs : TemplateBody s) :
      TemplateBody ('$' :: '\x7b' :: (e ++ '\x7d' :: s))

/-- An expression with finished literals whose brackets are closed by their partners, without
    a slash or an angle bracket outside of its literals. -/
inductive Balanced : List Char → Prop
  | nil : Balanced []
  | plain {c : Char} {s : List Char} (hc : isPlain c = true) (hs : Balanced s) : Balanced (c :: s)
  | string {q : Char} {b s : List Char} (hq : q = '\'' ∨ q = '"') (hb : StringBody q b)
      (hs : Balanced s) : Balanced (q :: (b ++ q :: s))
  | template {b s : List Char} (hb : TemplateBody b) (hs : Balanced s) :
      Balanced ('`' :: (b ++ '`' :: s))
  | group {o c : Char} {e s : List Char} (ho : closerOf o = some c) (he : Balanced e)
      (hs : Balanced s) : Balanced (o :: (e ++ c :: s))

end

mutual

/-- What stands between the backticks of a finished template, with code in its holes. -/
inductive CodeTemplate : List Char → Prop
  | nil : CodeTemplate []
  | char {c : Char} {s : List Char} (htick : c ≠ '`') (hslash : c ≠ '\\')
      (hhole : c = '$' → s.head? ≠ some '\x7b') (hs : CodeTemplate s) : CodeTemplate (c :: s)
  | escape {c : Char} {s : List Char} (hs : CodeTemplate s) : CodeTemplate ('\\' :: c :: s)
  | hole {e s : List Char} (he : Code e) (hs : CodeTemplate s) :
      CodeTemplate ('$' :: '\x7b' :: (e ++ '\x7d' :: s))

/-- Code with finished literals and comments whose brackets are closed by their partners, without
    a slash or an angle bracket outside of literals and comments. A line comment ends before the
    line feed behind it. -/
inductive Code : List Char → Prop
  | nil : Code []
  | plain {c : Char} {s : List Char} (hc : isPlain c = true) (hs : Code s) : Code (c :: s)
  | string {q : Char} {b s : List Char} (hq : q = '\'' ∨ q = '"') (hb : StringBody q b)
      (hs : Code s) : Code (q :: (b ++ q :: s))
  | template {b s : List Char} (hb : CodeTemplate b) (hs : Code s) :
      Code ('`' :: (b ++ '`' :: s))
  | lineComment {b s : List Char} (hb : '\n' ∉ b) (hs : Code ('\n' :: s)) :
      Code ('/' :: '/' :: (b ++ '\n' :: s))
  | blockComment {b s : List Char} (hb : ¬ ['*', '/'] <:+: b) (hs : Code s) :
      Code ('/' :: '*' :: (b ++ '*' :: '/' :: s))
  | group {o c : Char} {e s : List Char} (ho : closerOf o = some c) (he : Code e)
      (hs : Code s) : Code (o :: (e ++ c :: s))

end

mutual

theorem TemplateBody.code : ∀ {b : List Char}, TemplateBody b → CodeTemplate b
  | _, .nil => .nil
  | _, .char htick hslash hhole hs => .char htick hslash hhole hs.code
  | _, .escape hs => .escape hs.code
  | _, .hole he hs => .hole he.code hs.code

/-- **A balanced expression is code.** -/
theorem Balanced.code : ∀ {e : List Char}, Balanced e → Code e
  | _, .nil => .nil
  | _, .plain hc hs => .plain hc hs.code
  | _, .string hq hb hs => .string hq hb hs.code
  | _, .template hb hs => .template hb.code hs.code
  | _, .group ho he hs => .group ho he.code hs.code

end

/-- Plain characters are a balanced expression. -/
theorem balanced_of_plain : ∀ {s : List Char}, (∀ c ∈ s, isPlain c = true) → Balanced s
  | [], _ => .nil
  | c :: _, h =>
    .plain (h c List.mem_cons_self) (balanced_of_plain fun d hd => h d (List.mem_cons_of_mem c hd))

/-! ## 2. Steps without tags -/

variable {src : Source}

/-- Depth and position after a move that is neither a stop nor a tag. -/
def Move.target? (src : Source) (m : Move) (depth i : Nat) : Option (Nat × Nat) :=
  match m with
  | .stop => none
  | .jump j => some (depth, j)
  | .template => some (depth, inTemplate src (i + 1))
  | .opens => some (depth + 1, i + 1)
  | .closes => some (depth - 1, i + 1)
  | .tag => none
  | .plain => some (depth, i + 1)

/-- A step of a walk, from one depth and position to others, that meets no tag. -/
def Passing (src : Source) (closers : List Char) (s s' : Nat × Nat) : Prop :=
  ∃ c, src[s.2]? = some c ∧ (move src closers s.1 s.2 c).target? src s.1 s.2 = some s'

namespace Passing

open Relation (ReflTransGen)

variable {closers : List Char} {s s' : Nat × Nat}

theorem scan_step (h : Passing src closers s s') :
    scan src closers s.1 s.2 = scan src closers s'.1 s'.2 := by
  obtain ⟨c, hc, hm⟩ := h
  rw [scan_eq hc]
  cases hmove : move src closers s.1 s.2 c <;> rw [hmove] at hm <;> cases hm <;> rfl

theorem walk_step (h : Passing src closers s s') (t : Trail) :
    walk src closers s.1 s.2 t = walk src closers s'.1 s'.2 t := by
  obtain ⟨c, hc, hm⟩ := h
  rw [walk_eq hc]
  cases hmove : move src closers s.1 s.2 c <;> rw [hmove] at hm <;> cases hm <;> rfl

/-- The scanner takes the steps of a walk without tags. -/
theorem scan (h : ReflTransGen (Passing src closers) s s') :
    Script.scan src closers s.1 s.2 = Script.scan src closers s'.1 s'.2 := by
  induction h with
  | refl => rfl
  | tail _ hstep ih => exact ih.trans (scan_step hstep)

/-- The reader takes the steps of a walk without tags. -/
theorem walk (h : ReflTransGen (Passing src closers) s s') (t : Trail) :
    Script.walk src closers s.1 s.2 t = Script.walk src closers s'.1 s'.2 t := by
  induction h with
  | refl => rfl
  | tail _ hstep ih => exact ih.trans (walk_step hstep t)

end Passing

/-! ## 3. What the characters of an expression do -/

/-- A walk ends at closing brackets only. -/
def OnlyClosers (closers : List Char) : Prop := ∀ c ∈ closers, isCloser c = true

theorem onlyClosers_single {c : Char} (hc : isCloser c = true) : OnlyClosers [c] := by
  intro d hd
  rwa [List.mem_singleton.mp hd]

theorem onlyClosers_brace : OnlyClosers ['\x7d'] := onlyClosers_single rfl

/-- A walk ends at the character at this depth. -/
abbrev Stops (closers : List Char) (depth : Nat) (c : Char) : Prop :=
  depth = 0 ∧ closers.contains c = true

/-- At this depth a walk ends at closing brackets only. -/
def Quiet (closers : List Char) (depth : Nat) : Prop :=
  ∀ c, isCloser c = false → ¬ Stops closers depth c

theorem OnlyClosers.quiet {closers : List Char} (h : OnlyClosers closers) (depth : Nat) :
    Quiet closers depth := by
  rintro c hc ⟨-, hmem⟩
  rw [h c (List.contains_iff_mem.mp hmem)] at hc
  cases hc

/-- Inside brackets nothing but closing brackets counts. -/
theorem quiet_succ (closers : List Char) (depth : Nat) : Quiet closers (depth + 1) :=
  fun _ _ h => Nat.succ_ne_zero depth h.1

section Moves

variable {closers : List Char} {depth i : Nat} {c : Char}

theorem isCloser_of_isPlain (hc : isPlain c = true) : isCloser c = false := by
  have hsign : c ∉ signs := by simpa [isPlain] using hc
  simp only [signs, List.mem_cons, List.not_mem_nil, or_false, not_or] at hsign
  simp [isCloser, hsign]

theorem move_plain (hstop : ¬ Stops closers depth c) (hc : isPlain c = true) :
    move src closers depth i c = .plain := by
  have hsign : c ∉ signs := by simpa [isPlain] using hc
  simp only [signs, List.mem_cons, List.not_mem_nil, or_false, not_or] at hsign
  obtain ⟨h1, h2, h3, h4, h5, h6, h7, h8, h9, h10, h11⟩ := hsign
  have hopen : isOpener c = false := by simp [isOpener, h6, h7, h8]
  have hclose : isCloser c = false := by simp [isCloser, h9, h10, h11]
  unfold move
  rw [if_neg hstop, if_neg (by simp [h1, h2]), if_neg h3, if_neg h4,
    if_neg (by rw [hopen]; decide), if_neg (by rw [hclose]; decide), if_neg (by simp [h5])]

theorem move_string (hstop : ¬ Stops closers depth c) (hc : c = '\'' ∨ c = '"') :
    move src closers depth i c = .jump (pastString src i) := by
  unfold move
  rw [if_neg hstop, if_pos hc]

theorem move_template (hstop : ¬ Stops closers depth '`') :
    move src closers depth i '`' = .template := by
  unfold move
  rw [if_neg hstop, if_neg (by decide), if_pos rfl]

theorem move_slash (hstop : ¬ Stops closers depth '/') :
    move src closers depth i '/' = slashMove src i := by
  unfold move
  rw [if_neg hstop, if_neg (by decide), if_neg (by decide), if_pos rfl]

theorem closerOf_cases {o d : Char} (h : closerOf o = some d) :
    (o = '(' ∧ d = ')') ∨ (o = '[' ∧ d = ']') ∨ (o = '\x7b' ∧ d = '\x7d') := by
  unfold closerOf at h
  grind

theorem isCloser_of_closerOf {o d : Char} (h : closerOf o = some d) :
    isCloser o = false ∧ isCloser d = true := by
  rcases closerOf_cases h with ⟨rfl, rfl⟩ | ⟨rfl, rfl⟩ | ⟨rfl, rfl⟩ <;> exact ⟨rfl, rfl⟩

theorem move_opens (hstop : ¬ Stops closers depth c) {d : Char} (hc : closerOf c = some d) :
    move src closers depth i c = .opens := by
  unfold move
  rw [if_neg hstop]
  rcases closerOf_cases hc with ⟨rfl, -⟩ | ⟨rfl, -⟩ | ⟨rfl, -⟩ <;> rfl

theorem move_closes {o : Char} (hc : closerOf o = some c) :
    move src closers (depth + 1) i c = .closes := by
  unfold move
  rw [if_neg (by omega)]
  rcases closerOf_cases hc with ⟨-, rfl⟩ | ⟨-, rfl⟩ | ⟨-, rfl⟩ <;> rfl

theorem move_stop (hc : closers.contains c = true) : move src closers 0 i c = .stop := by
  unfold move
  rw [if_pos ⟨rfl, hc⟩]

end Moves

/-- A walk ends at a character that it looks for. -/
theorem scan_stop {closers : List Char} {i : Nat} {c : Char} (h : src[i]? = some c)
    (hc : closers.contains c = true) : scan src closers 0 i = i := by
  rw [scan_eq h, move_stop hc]

/-- A walk in braces ends at the closing brace. -/
theorem scan_brace {i : Nat} (h : src[i]? = some '\x7d') : scan src ['\x7d'] 0 i = i :=
  scan_stop h rfl

theorem walk_brace {i : Nat} (h : src[i]? = some '\x7d') (t : Trail) :
    walk src ['\x7d'] 0 i t = (i, t) := by
  rw [walk_eq h, move_stop rfl]

/-! ## 4. Literals are passed to their ends -/

theorem stringEnd_body {q : Char} {b : List Char} (hb : StringBody q b) (hq : q ≠ '\\') :
    ∀ {n j : Nat} {s : List Char}, src.Ahead j (b ++ q :: s) → b.length < n →
      stringEnd src q n j = j + b.length + 1 := by
  induction hb with
  | nil =>
    intro n j s h hn
    obtain ⟨n, rfl⟩ := Nat.exists_eq_succ_of_ne_zero (Nat.ne_of_gt hn)
    rw [stringEnd, h.head]
    simp [hq]
  | char hquote hslash hbreak _ ih =>
    intro n j s h hn
    obtain ⟨n, rfl⟩ := Nat.exists_eq_succ_of_ne_zero (Nat.ne_of_gt (Nat.zero_lt_of_lt hn))
    rw [List.length_cons] at hn ⊢
    rw [stringEnd, h.head]
    simp only [beq_iff_eq, hslash, hquote, hbreak, or_self, Bool.or_eq_true, if_false]
    rw [ih h.tail (by omega)]
    omega
  | escape _ ih =>
    intro n j s h hn
    obtain ⟨n, rfl⟩ := Nat.exists_eq_succ_of_ne_zero (Nat.ne_of_gt (Nat.zero_lt_of_lt hn))
    rw [List.length_cons, List.length_cons] at hn ⊢
    rw [stringEnd, h.head]
    simp only [beq_self_eq_true, if_true]
    rw [ih h.tail.tail (by omega)]
    omega

/-- **A finished string literal is passed as a whole.** -/
theorem pastString_body {q : Char} {b s : List Char} {i : Nat} (hq : q = '\'' ∨ q = '"')
    (hb : StringBody q b) (h : src.Ahead i (q :: (b ++ q :: s))) :
    pastString src i = i + b.length + 2 := by
  have hslash : q ≠ '\\' := by
    rcases hq with rfl | rfl <;> decide
  have hsize := h.size (Nat.le_of_lt (lt_size h.head))
  rw [List.length_cons, List.length_append, List.length_cons] at hsize
  rw [pastString, h.head]
  dsimp only
  rw [stringEnd_body hb hslash h.tail (by omega)]
  omega

/-- The line feed behind a line comment. -/
theorem lineCommentEnd_body {b s : List Char} {i : Nat} (hb : '\n' ∉ b)
    (h : src.Ahead i ('/' :: '/' :: (b ++ '\n' :: s))) :
    lineCommentEnd src i = i + (b.length + 2) := by
  have hcomment : '\n' ∉ '/' :: '/' :: b := by simpa using hb
  have hfind : src.findChar '\n' i = some (i + (b.length + 2)) := h.findChar hcomment
  rw [lineCommentEnd, hfind, Option.getD_some]

/-- **A complete block comment is passed as a whole.** -/
theorem blockCommentEnd_body {b s : List Char} {i : Nat} (hb : ¬ ['*', '/'] <:+: b)
    (h : src.Ahead i ('/' :: '*' :: (b ++ '*' :: '/' :: s))) :
    blockCommentEnd src i = i + (b.length + 4) := by
  have hfind : src.findFragment ['*', '/'] (i + 2) = some (i + 2 + b.length) := by
    refine Source.Ahead.findFragment h.tail.tail fun t c rest ht => ?_
    -- A star that ends the body is followed by another star.
    rw [Bool.eq_false_iff]
    intro hstarts
    cases rest with
    | nil => simp [startsWith] at hstarts
    | cons d rest =>
      obtain ⟨rfl, rfl⟩ : c = '*' ∧ d = '/' := by simpa [startsWith] using hstarts
      exact hb ⟨t, rest, by rw [ht]; simp⟩
  rw [blockCommentEnd, hfind]
  dsimp only
  omega

/-! ## 5. What is passed in one step -/

section Steps

variable {closers : List Char} {depth i : Nat} {s : List Char}

theorem passing_plain {c : Char} (hstop : ¬ Stops closers depth c) (hc : isPlain c = true)
    (h : src.Ahead i (c :: s)) : Passing src closers (depth, i) (depth, i + 1) :=
  ⟨c, h.head, by rw [move_plain hstop hc]; rfl⟩

theorem passing_string {q : Char} {b : List Char} (hstop : ¬ Stops closers depth q)
    (hq : q = '\'' ∨ q = '"') (hb : StringBody q b) (h : src.Ahead i (q :: (b ++ q :: s))) :
    Passing src closers (depth, i) (depth, i + (b.length + 2)) :=
  ⟨q, h.head, by rw [move_string hstop hq, pastString_body hq hb h]; rfl⟩

theorem passing_template {b : List Char} (hstop : ¬ Stops closers depth '`')
    (hend : inTemplate src (i + 1) = i + (b.length + 2)) (h : src.Ahead i ('`' :: (b ++ '`' :: s))) :
    Passing src closers (depth, i) (depth, i + (b.length + 2)) :=
  ⟨'`', h.head, by rw [move_template hstop, ← hend]; rfl⟩

theorem passing_lineComment {b : List Char} (hstop : ¬ Stops closers depth '/') (hb : '\n' ∉ b)
    (h : src.Ahead i ('/' :: '/' :: (b ++ '\n' :: s))) :
    Passing src closers (depth, i) (depth, i + (b.length + 2)) := by
  have hslash : slashMove src i = .jump (i + (b.length + 2)) := by
    rw [slashMove, h.tail.head, ← lineCommentEnd_body hb h]
    rfl
  exact ⟨'/', h.head, by rw [move_slash hstop, hslash]; rfl⟩

theorem passing_blockComment {b : List Char} (hstop : ¬ Stops closers depth '/')
    (hb : ¬ ['*', '/'] <:+: b) (h : src.Ahead i ('/' :: '*' :: (b ++ '*' :: '/' :: s))) :
    Passing src closers (depth, i) (depth, i + (b.length + 4)) := by
  have hslash : slashMove src i = .jump (i + (b.length + 4)) := by
    rw [slashMove, h.tail.head, ← blockCommentEnd_body hb h]
    rfl
  exact ⟨'/', h.head, by rw [move_slash hstop, hslash]; rfl⟩

/-- Brackets are passed with what is between them. -/
theorem passes_group {o c : Char} {g : List Char} (hstop : ¬ Stops closers depth o)
    (ho : closerOf o = some c) (h : src.Ahead i (o :: (g ++ c :: s)))
    (inside : Relation.ReflTransGen (Passing src closers) (depth + 1, i + 1)
      (depth + 1, i + 1 + g.length)) :
    Relation.ReflTransGen (Passing src closers) (depth, i) (depth, i + (g.length + 2)) := by
  have hopen : Passing src closers (depth, i) (depth + 1, i + 1) :=
    ⟨o, h.head, by rw [move_opens hstop ho]; rfl⟩
  have hclose : Passing src closers (depth + 1, i + 1 + g.length) (depth, i + 1 + g.length + 1) :=
    ⟨c, h.tail.drop.head, by rw [move_closes ho]; rfl⟩
  rw [show i + (g.length + 2) = i + 1 + g.length + 1 by omega]
  exact .head hopen (inside.tail hclose)

end Steps

/-! ## 6. Code is passed as a whole -/

mutual

/-- **A finished template is passed as a whole**, from its first character on. -/
theorem inTemplate_code : ∀ {b : List Char}, CodeTemplate b → ∀ {j : Nat} {s : List Char},
    src.Ahead j (b ++ '`' :: s) → inTemplate src j = j + b.length + 1
  | _, .nil, j, s, h => by
    rw [inTemplate_eq h.head, if_neg (by decide), if_pos rfl]
    rfl
  | c :: b, .char htick hslash hhole hb, j, s, h => by
    -- What follows a last dollar sign is the backtick, which opens no hole.
    have hnext : ¬(c = '$' ∧ src[j + 1]? = some '\x7b') := by
      rintro ⟨hc, hj⟩
      refine hhole hc ?_
      have htail : src.Ahead (j + 1) (b ++ '`' :: s) := h.tail
      cases b with
      | nil =>
        rw [htail.head] at hj
        cases hj
      | cons d b =>
        rw [htail.head] at hj
        exact hj
    rw [inTemplate_eq h.head, if_neg hslash, if_neg htick, if_neg hnext,
      inTemplate_code hb h.tail, List.length_cons]
    omega
  | _, .escape hb, j, s, h => by
    rw [inTemplate_eq h.head, if_pos rfl, inTemplate_code hb h.tail.tail, List.length_cons,
      List.length_cons]
    omega
  | _, @CodeTemplate.hole e b he hb, j, s, h => by
    simp only [List.cons_append, List.append_assoc] at h
    have hopen : src.Ahead (j + 2) (e ++ '\x7d' :: (b ++ '`' :: s)) := h.tail.tail
    have hpass := passes_code he (onlyClosers_brace.quiet 0) hopen
    have hscan := (Passing.scan hpass).trans (scan_brace hopen.drop.head)
    rw [inTemplate_eq h.head, if_neg (by decide), if_neg (by decide),
      if_pos ⟨rfl, h.tail.head⟩, hscan, inTemplate_code hb hopen.drop.tail]
    simp only [List.length_cons, List.length_append]
    omega

/-- **Code is passed as a whole**, at every depth at which a walk ends at closing brackets only.
    Inside the brackets of a group it ends at none of them. -/
theorem passes_code : ∀ {e : List Char}, Code e → ∀ {closers : List Char} {depth : Nat},
    Quiet closers depth → ∀ {i : Nat} {s : List Char}, src.Ahead i (e ++ s) →
      Relation.ReflTransGen (Passing src closers) (depth, i) (depth, i + e.length)
  | _, .nil, closers, depth, hq, i, s, h => .refl
  | _, @Code.plain c e hc he, closers, depth, hq, i, s, h => by
    have hrest := passes_code he hq h.tail
    rw [show i + (c :: e).length = i + 1 + e.length by rw [List.length_cons]; omega]
    exact .head (passing_plain (hq c (isCloser_of_isPlain hc)) hc h) hrest
  | _, @Code.string q b e hquote hb he, closers, depth, hq, i, s, h => by
    simp only [List.cons_append, List.append_assoc] at h
    have hcloser : isCloser q = false := by
      rcases hquote with rfl | rfl <;> rfl
    have hrest := passes_code he hq h.tail.drop.tail
    rw [show i + 1 + b.length + 1 = i + (b.length + 2) by omega] at hrest
    rw [show i + (q :: (b ++ q :: e)).length = i + (b.length + 2) + e.length by
      simp only [List.length_cons, List.length_append]; omega]
    exact .head (passing_string (hq q hcloser) hquote hb h) hrest
  | _, @Code.template b e hb he, closers, depth, hq, i, s, h => by
    simp only [List.cons_append, List.append_assoc] at h
    have hend : inTemplate src (i + 1) = i + (b.length + 2) := by
      rw [inTemplate_code hb h.tail]
      omega
    have hrest := passes_code he hq h.tail.drop.tail
    rw [show i + 1 + b.length + 1 = i + (b.length + 2) by omega] at hrest
    rw [show i + ('`' :: (b ++ '`' :: e)).length = i + (b.length + 2) + e.length by
      simp only [List.length_cons, List.length_append]; omega]
    exact .head (passing_template (hq '`' rfl) hend h) hrest
  | _, @Code.lineComment b e hb he, closers, depth, hq, i, s, h => by
    simp only [List.cons_append, List.append_assoc] at h
    have hrest := passes_code he hq h.tail.tail.drop
    rw [show i + 1 + 1 + b.length = i + (b.length + 2) by omega] at hrest
    rw [show i + ('/' :: '/' :: (b ++ '\n' :: e)).length = i + (b.length + 2) + ('\n' :: e).length by
      simp only [List.length_cons, List.length_append]; omega]
    exact .head (passing_lineComment (hq '/' rfl) hb h) hrest
  | _, @Code.blockComment b e hb he, closers, depth, hq, i, s, h => by
    simp only [List.cons_append, List.append_assoc] at h
    have hrest := passes_code he hq h.tail.tail.drop.tail.tail
    rw [show i + 1 + 1 + b.length + 1 + 1 = i + (b.length + 4) by omega] at hrest
    rw [show i + ('/' :: '*' :: (b ++ '*' :: '/' :: e)).length = i + (b.length + 4) + e.length by
      simp only [List.length_cons, List.length_append]; omega]
    exact .head (passing_blockComment (hq '/' rfl) hb h) hrest
  | _, @Code.group o c g e ho hg he, closers, depth, hq, i, s, h => by
    simp only [List.cons_append, List.append_assoc] at h
    have hinside := passes_code hg (quiet_succ closers depth) h.tail
    have hgroup := passes_group (hq o (isCloser_of_closerOf ho).1) ho h hinside
    have hrest := passes_code he hq h.tail.drop.tail
    rw [show i + 1 + g.length + 1 = i + (g.length + 2) by omega] at hrest
    rw [show i + (o :: (g ++ c :: e)).length = i + (g.length + 2) + e.length by
      simp only [List.length_cons, List.length_append]; omega]
    exact hgroup.trans hrest

end

/-- **A balanced expression is passed as a whole**, at every depth. -/
theorem passes_balanced {e : List Char} (he : Balanced e) {closers : List Char}
    (hcl : OnlyClosers closers) (depth : Nat) {i : Nat} {s : List Char}
    (h : src.Ahead i (e ++ s)) :
    Relation.ReflTransGen (Passing src closers) (depth, i) (depth, i + e.length) :=
  passes_code he.code (hcl.quiet depth) h

/-! ## 7. Expressions in brackets -/

variable {e s : List Char} {i : Nat}

/-- The scanner ends at the brace that closes an expression. -/
theorem scan_balanced (he : Balanced e) (h : src.Ahead i (e ++ '\x7d' :: s)) :
    scan src ['\x7d'] 0 i = i + e.length :=
  (Passing.scan (passes_balanced he onlyClosers_brace 0 h)).trans (scan_brace h.drop.head)

/-- The reader ends at the brace that closes an expression, and has read nothing. -/
theorem walk_balanced (he : Balanced e) (h : src.Ahead i (e ++ '\x7d' :: s)) (t : Trail) :
    walk src ['\x7d'] 0 i t = (i + e.length, t) :=
  (Passing.walk (passes_balanced he onlyClosers_brace 0 h) t).trans (walk_brace h.drop.head t)

/-- **The partner of a bracket stands behind the code between them.** -/
theorem partner_code {o c : Char} (ho : closerOf o = some c) (he : Code e)
    (h : src.Ahead i (o :: (e ++ c :: s))) : partner src i = .ok (i + 1 + e.length) := by
  have honly : OnlyClosers [c] := onlyClosers_single (isCloser_of_closerOf ho).2
  have hscan : skip src [c] (i + 1) = i + 1 + e.length :=
    (Passing.scan (passes_code he (honly.quiet 0) h.tail)).trans
      (scan_stop h.tail.drop.head (by simp))
  rw [partner_of_opener h.head ho, hscan]

/-- **The partner of a bracket is the one that closes it**, whatever stands before the bracket and
    behind its partner, if there is code between them. -/
theorem partner_found {p t : List Char} {o c : Char} (ho : closerOf o = some c) (ht : Code t)
    (h : src.toList = p ++ o :: (t ++ c :: s)) :
    partner src p.length = .ok (p.length + 1 + t.length) :=
  partner_code ho ht (Source.ahead_of_cut h)

/-- Brackets in strings, templates and comments close nothing, neither behind a quote that a
    backslash takes nor behind a hole with brackets of its own. -/
theorem partner_found_amid_literals :
    Code "'\\')'`$\x7b[x]\x7d)`//)\n/*)*/\x7b\x7d".toList ∧
      partner (Source.of "\x7d)('\\')'`$\x7b[x]\x7d)`//)\n/*)*/\x7b\x7d)`") 2 = .ok 28 := by
  have hhole : Code "[x]".toList := .group (e := ['x']) rfl (.plain (by decide) .nil) .nil
  have htemplate : CodeTemplate "$\x7b[x]\x7d)".toList :=
    .hole hhole (.char (by decide) (by decide) (by decide) .nil)
  have hquoted : StringBody '\'' "\\')".toList :=
    .escape (.char (by decide) (by decide) (by decide) .nil)
  have hgroup : Code "\x7b\x7d".toList := .group (e := []) rfl .nil .nil
  have hcomments : Code "//)\n/*)*/\x7b\x7d".toList :=
    .lineComment (b := [')']) (by decide)
      (.plain (by decide) (.blockComment (b := [')']) (by decide) hgroup))
  have hcode : Code "'\\')'`$\x7b[x]\x7d)`//)\n/*)*/\x7b\x7d".toList :=
    .string (.inl rfl) hquoted (.template htemplate hcomments)
  refine ⟨hcode, ?_⟩
  exact partner_found (p := ['\x7d', ')']) (o := '(') (c := ')') (s := ['`']) rfl hcode (by decide)

end Affordance.Script
