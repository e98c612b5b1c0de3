import Affordance.Proofs.Script.Expression

/-!
# Trees of elements

  * `Tree`: an element with its contents, an element that closes itself, or a fragment, with the
    white space in its tags; `Child`: what stands inside one, a tree, a text, an expression, or
    trees that a condition chooses from.
  * `Tree.render`: the text of a tree.
  * `Tree.events`: the tag events of a tree, in the order of the text.
  * `Tree.parts`: the strings, the texts and the chosen trees of a tree. What is required of a
    tree is required of its parts (`Tree.All`).
-/

namespace Affordance.Script

open Affordance.Text

/-! ## 1. Pieces of tags -/

/-- A run of white space. -/
structure Blank where
  chars : List Char := []
  isBlank : ∀ c ∈ chars, isSpace c = true := by exact List.all_eq_true.mp (by decide)

/-- No white space. -/
def Blank.empty : Blank := {}

/-- The name of a tag or of an attribute. -/
structure Name where
  first : Char
  rest : List Char
  starts : isNameStart first = true := by decide
  goesOn : ∀ c ∈ rest, isTagNameChar c = true := by exact List.all_eq_true.mp (by decide)

/-- The characters of a name. -/
def Name.chars (n : Name) : List Char := n.first :: n.rest

/-- The name as tags and attributes have it. -/
def Name.text (n : Name) : String := String.ofList n.chars

/-- An identifier. -/
structure Word where
  first : Char
  rest : List Char
  starts : isNameStart first = true := by decide
  goesOn : ∀ c ∈ rest, isNameChar c = true := by exact List.all_eq_true.mp (by decide)

/-- The characters of an identifier. -/
def Word.chars (w : Word) : List Char := w.first :: w.rest

/-- An expression that is passed as a whole. -/
structure Expression where
  chars : List Char
  balanced : Balanced chars

/-- A text in quotes, which holds its own quote nowhere. -/
structure Quoted where
  quote : Char
  chars : List Char
  isQuote : quote = '\'' ∨ quote = '"' := by decide
  finished : quote ∉ chars := by decide

/-- The quoted text with its quotes. -/
def Quoted.render (q : Quoted) : List Char := q.quote :: (q.chars ++ [q.quote])

/-- The expression in braces. -/
def Expression.render (e : Expression) : List Char := '\x7b' :: (e.chars ++ ['\x7d'])

/-! ## 2. Attributes -/

/-- What an attribute holds, with the white space around its equality sign. -/
inductive Value where
  | flag
  | quoted (before after : Blank) (q : Quoted)
  | expression (before after : Blank) (e : Expression)

/-- The text of a value, from the end of the attribute's name on. -/
def Value.render : Value → List Char
  | .flag => []
  | .quoted before after q => before.chars ++ '=' :: (after.chars ++ q.render)
  | .expression before after e => before.chars ++ '=' :: (after.chars ++ e.render)

/-- An attribute, with the white space before it. -/
structure Attribute where
  gap : Blank
  name : Name
  value : Value := .flag
  apart : gap.chars ≠ [] := by decide

/-- An attribute after one space, with a text in double quotes. -/
def Attribute.quoted (name : Name) (s : List Char) (h : '"' ∉ s) : Attribute where
  gap := { chars := [' '] }
  name := name
  value := .quoted .empty .empty { quote := '"', chars := s, finished := h }

/-- The text of an attribute. -/
def Attribute.render (a : Attribute) : List Char := a.gap.chars ++ (a.name.chars ++ a.value.render)

/-- The text of attributes. -/
def renderAttributes (as : List Attribute) : List Char := as.flatMap Attribute.render

/-- The name and the attributes of a tag, with the white space after them. -/
structure Head where
  name : Name
  attributes : List Attribute := []
  gap : Blank := .empty

/-- The text of a head. -/
def Head.render (h : Head) : List Char :=
  h.name.chars ++ (renderAttributes h.attributes ++ h.gap.chars)

/-! ## 3. Trees -/

/-- A text between tags. -/
structure Run where
  chars : List Char
  isText : '<' ∉ chars ∧ '\x7b' ∉ chars := by decide

/-- No character of a text begins a tag or an expression. -/
theorem Run.ne (s : Run) : ∀ c ∈ s.chars, c ≠ '<' ∧ c ≠ '\x7b' :=
  fun _ hc => ⟨fun h => s.isText.1 (h ▸ hc), fun h => s.isText.2 (h ▸ hc)⟩

mutual

/-- An element with its contents, an element that closes itself, or a fragment, with the white
    space at the end of the closing tag. -/
inductive Tree where
  | paired (head : Head) (children : List Child) (gap : Blank)
  | single (head : Head)
  | fragment (children : List Child) (gap : Blank)

/-- What stands inside an element: a tree, a text, an expression in braces, a tree that is
    shown under a condition, or one of two trees. -/
inductive Child where
  | tree (t : Tree)
  | text (s : Run)
  | expression (e : Expression)
  | shown (w : Word) (t : Tree)
  | either (w : Word) (t u : Tree)

end

mutual

/-- The text of a tree. -/
def Tree.render : Tree → List Char
  | .paired h cs gap =>
    '<' :: (h.render ++ '>' ::
      (Child.renderAll cs ++ '<' :: '/' :: (h.name.chars ++ (gap.chars ++ ['>']))))
  | .single h => '<' :: (h.render ++ ['/', '>'])
  | .fragment cs gap => '<' :: '>' :: (Child.renderAll cs ++ '<' :: '/' :: (gap.chars ++ ['>']))

/-- The text of what stands inside an element. -/
def Child.render : Child → List Char
  | .tree t => t.render
  | .text s => s.chars
  | .expression e => e.render
  | .shown w t => '\x7b' :: ((w.chars ++ " && ".toList ++ t.render) ++ ['\x7d'])
  | .either w t u =>
    '\x7b' :: ((w.chars ++ " ? ".toList ++ t.render ++ " : ".toList ++ u.render) ++ ['\x7d'])

/-- The text of everything that stands inside an element. -/
def Child.renderAll : List Child → List Char
  | [] => []
  | c :: cs => c.render ++ Child.renderAll cs

end

section Shapes

variable (h : Head) (cs : List Child) (gap : Blank) (w : Word) (x y : Tree) (s : List Char)

/-- An element with its contents, and a text after it. -/
theorem Tree.paired_append : (Tree.paired h cs gap).render ++ s =
    '<' :: (h.render ++ '>' :: (Child.renderAll cs ++
      '<' :: '/' :: ((h.name.chars ++ gap.chars) ++ '>' :: s))) := by
  simp [Tree.render]

/-- An element that closes itself, and a text after it. -/
theorem Tree.single_append : (Tree.single h).render ++ s = '<' :: (h.render ++ '/' :: '>' :: s) := by
  simp [Tree.render]

/-- A fragment, and a text after it. -/
theorem Tree.fragment_append : (Tree.fragment cs gap).render ++ s =
    '<' :: '>' :: (Child.renderAll cs ++ '<' :: '/' :: (gap.chars ++ '>' :: s)) := by
  simp [Tree.render]

/-- An expression in braces, and a text after it. -/
theorem Expression.render_append (e : Expression) :
    e.render ++ s = '\x7b' :: (e.chars ++ '\x7d' :: s) := by
  simp [Expression.render]

/-- A string in quotes, and a text after it. -/
theorem Quoted.render_append (q : Quoted) :
    q.render ++ s = q.quote :: (q.chars ++ q.quote :: s) := by
  simp [Quoted.render]

/-- What is in braces around a tree that is shown under a condition. -/
def shownText : List Char := w.chars ++ " && ".toList ++ x.render

/-- What is in braces around two trees that a condition chooses from. -/
def eitherText : List Char := w.chars ++ " ? ".toList ++ x.render ++ " : ".toList ++ y.render

theorem Child.shown_append :
    (Child.shown w x).render ++ s = '\x7b' :: (shownText w x ++ '\x7d' :: s) := by
  simp [Child.render, shownText]

theorem Child.either_append :
    (Child.either w x y).render ++ s = '\x7b' :: (eitherText w x y ++ '\x7d' :: s) := by
  simp [Child.render, eitherText]

/-- The operator before a tree that is shown under a condition. -/
theorem shownText_append :
    shownText w x ++ s = (w.chars ++ [' ', '&']) ++ '&' :: ' ' :: (x.render ++ s) := by
  simp [shownText]

/-- The operators before two trees that a condition chooses from. -/
theorem eitherText_append : eitherText w x y ++ s = (w.chars ++ [' ']) ++ '?' :: ' ' ::
    (x.render ++ ([' '] ++ ':' :: ' ' :: (y.render ++ s))) := by
  simp [eitherText]

end Shapes

/-! ## 4. Events -/

/-- The text of a value; a text in quotes is read by `read`. -/
def Value.text (read : List Char → List Char) : Value → List Char
  | .flag => "true".toList
  | .quoted _ _ q => read q.chars
  | .expression _ _ e => (literal (strip e.chars)).getD (strip e.chars)

/-- The value is an expression that is no plain value. -/
def Value.isDynamic : Value → Bool
  | .expression _ _ e => (literal (strip e.chars)).isNone
  | _ => false

/-- The name of an attribute and the text of its value. -/
def Attribute.entry (read : List Char → List Char) (a : Attribute) : String × String :=
  (a.name.text, String.ofList (a.value.text read))

/-- The event that opens a tag: a map of its attributes, and the names of those that hold an
    expression, the latest first. -/
def Head.opening (read : List Char → List Char) (h : Head) (selfClosing : Bool) : TagEvent :=
  .open_ h.name.text (Keyed.ofList (h.attributes.map (Attribute.entry read))) selfClosing
    ((h.attributes.filter (·.value.isDynamic)).map (·.name.text)).reverse none

/-- The event of an expression, if it is a plain value. -/
def Expression.events (e : Expression) : List TagEvent :=
  match literal e.chars with
  | some v => [.text (String.ofList v)]
  | none => []

mutual

/-- The events of a tree. -/
def Tree.events : Tree → List TagEvent
  | .paired h cs _ => h.opening id false :: (Child.eventsAll cs ++ [.close h.name.text])
  | .single h => [h.opening id true]
  | .fragment cs _ => Child.eventsAll cs

/-- The events of what stands inside an element. -/
def Child.events : Child → List TagEvent
  | .tree t => t.events
  | .text s => [.text (String.ofList s.chars)]
  | .expression e => e.events
  | .shown _ t => t.events
  | .either _ t u => t.events ++ u.events

/-- The events of everything that stands inside an element. -/
def Child.eventsAll : List Child → List TagEvent
  | [] => []
  | c :: cs => c.events ++ Child.eventsAll cs

end

/-! ## 5. Parts -/

/-- The character after the angle bracket with which a tree begins. -/
def Tree.opener : Tree → Char
  | .paired h _ _ => h.name.first
  | .single h => h.name.first
  | .fragment _ _ => '>'

/-- A part of a tree of which something may be required. -/
inductive Part where
  /-- An attribute's text. -/
  | string (q : Quoted)
  /-- A text between tags. -/
  | text (s : Run)
  /-- A tree after a condition, by its opener. -/
  | choice (opener : Char)

/-- The text in quotes of an attribute, if it has one. -/
def Attribute.parts (a : Attribute) : List Part :=
  match a.value with
  | .quoted _ _ q => [.string q]
  | _ => []

mutual

/-- The parts of a tree. -/
def Tree.parts : Tree → List Part
  | .paired h cs _ => h.attributes.flatMap Attribute.parts ++ Child.partsAll cs
  | .single h => h.attributes.flatMap Attribute.parts
  | .fragment cs _ => Child.partsAll cs

/-- The parts of what stands inside an element. -/
def Child.parts : Child → List Part
  | .tree t => t.parts
  | .text s => [.text s]
  | .expression _ => []
  | .shown _ t => .choice t.opener :: t.parts
  | .either _ t u => .choice t.opener :: .choice u.opener :: (t.parts ++ u.parts)

/-- The parts of everything that stands inside an element. -/
def Child.partsAll : List Child → List Part
  | [] => []
  | c :: cs => c.parts ++ Child.partsAll cs

end

/-- All parts satisfy `P`. -/
def AllParts (P : Part → Prop) (ps : List Part) : Prop := ∀ p ∈ ps, P p

namespace AllParts

variable {P Q : Part → Prop} {p : Part} {ps qs : List Part}

theorem left (h : AllParts P (ps ++ qs)) : AllParts P ps :=
  fun p hp => h p (List.mem_append_left qs hp)

theorem right (h : AllParts P (ps ++ qs)) : AllParts P qs :=
  fun p hp => h p (List.mem_append_right ps hp)

theorem head (h : AllParts P (p :: ps)) : P p := h p List.mem_cons_self

theorem tail (h : AllParts P (p :: ps)) : AllParts P ps := fun q hq => h q (List.mem_cons_of_mem p hq)

theorem imp (h : AllParts P ps) (hPQ : ∀ p, P p → Q p) : AllParts Q ps := fun p hp => hPQ p (h p hp)

end AllParts

/-- No tree after a condition has a name that begins with a dollar sign. The scanner takes such
    a tree for no element. -/
def Part.Seen : Part → Prop
  | .choice opener => opener ≠ '$'
  | _ => True

end Affordance.Script
