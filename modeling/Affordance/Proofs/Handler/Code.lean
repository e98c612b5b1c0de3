import Affordance.Handler.Selectors
import Affordance.Proofs.Json.Text

/-!
# Reading generated code

How the code of a handler reads, as far as its words, its signs and its quoted texts go.

  * `lexemes`: code as lexemes. What stands between quotes is one text, whatever is in it.
  * `Reads`: a piece of code gives lexemes and leads from one mode of reading to another one.
    Pieces are read one after the other (`Reads.append`), lines joined by breaks line by line
    (`lexemes_lines`).
  * `reads_renderText`, `reads_codeList`: a written text is read as one text, however it is
    escaped, and a written list as its texts.
  * `parametersRead`: what code reads of the object of its parameters.
-/

namespace Affordance.Code

open Affordance.Text

/-! ## 1. Lexemes -/

/-- A lexeme of code. -/
inductive Lexeme where
  | word (letters : List Char)
  | sign (c : Char)
  /-- What stands between two quotes, escapes as they are written. -/
  | text (body : List Char)
  deriving Repr, DecidableEq

/-- Where a reader of code stands; what was read of a lexeme comes latest first. -/
inductive Mode where
  | code (word : List Char)
  | text (quote : Char) (body : List Char)
  /-- Behind a backslash in a text. -/
  | escape (quote : Char) (body : List Char)
  deriving Repr, DecidableEq

/-- A character of words in code. -/
def isWordChar (c : Char) : Bool := isWord c || c == '$'

/-- A word that was read backwards, if there is one. -/
def endWord (word : List Char) : List Lexeme := if word.isEmpty then [] else [.word word.reverse]

namespace Mode

/-- The mode after a character. -/
def next : Mode → Char → Mode
  | code word, c =>
    if c = '"' ∨ c = '\'' then text c [] else if isWordChar c then code (c :: word) else code []
  | text quote body, c =>
    if c = '\\' then escape quote (c :: body) else if c = quote then code []
    else text quote (c :: body)
  | escape quote body, c => text quote (c :: body)

/-- The lexemes that a character ends; white space is none itself. -/
def ends : Mode → Char → List Lexeme
  | code word, c =>
    if isWordChar c then []
    else endWord word ++ if c = '"' ∨ c = '\'' ∨ isSpace c then [] else [.sign c]
  | text quote body, c => if c = quote then [.text body.reverse] else []
  | escape _ _, _ => []

/-- The lexemes that the end of the code ends. -/
def last : Mode → List Lexeme
  | code word => endWord word
  | text _ body | escape _ body => [.text body.reverse]

end Mode

/-- The lexemes that end in a piece of code, and the mode after it. -/
def scan : Mode → List Char → List Lexeme × Mode
  | m, [] => ([], m)
  | m, c :: rest => (m.ends c ++ (scan (m.next c) rest).1, (scan (m.next c) rest).2)

/-- The lexemes of code. -/
def lexemes (s : List Char) : List Lexeme :=
  (scan (.code []) s).1 ++ (scan (.code []) s).2.last

/-! ## 2. Pieces -/

/-- A piece of code gives the lexemes and leads from one mode to the other. -/
def Reads (m : Mode) (s : List Char) (ls : List Lexeme) (n : Mode) : Prop := scan m s = (ls, n)

instance (m : Mode) (s : List Char) (ls : List Lexeme) (n : Mode) : Decidable (Reads m s ls n) :=
  inferInstanceAs (Decidable (scan m s = (ls, n)))

namespace Reads

variable {m n k : Mode} {a b s : List Char} {ls ms : List Lexeme}

theorem nil (m : Mode) : Reads m [] [] m := rfl

theorem cons {c : Char} (h : Reads (m.next c) s ls n) : Reads m (c :: s) (m.ends c ++ ls) n := by
  unfold Reads at h ⊢
  rw [scan, h]

/-- Pieces are read one after the other. -/
theorem append (ha : Reads m a ls n) (hb : Reads n b ms k) : Reads m (a ++ b) (ls ++ ms) k := by
  induction a generalizing m ls with
  | nil =>
    obtain ⟨rfl, rfl⟩ := Prod.mk.inj (show (([] : List Lexeme), m) = (ls, n) from ha)
    exact hb
  | cons c a ih =>
    obtain ⟨hls, hn⟩ := Prod.mk.inj (show (m.ends c ++ (scan (m.next c) a).1,
      (scan (m.next c) a).2) = (ls, n) from ha)
    have htail : Reads (m.next c) a (scan (m.next c) a).1 n := Prod.ext rfl hn
    rw [← hls, List.append_assoc, List.cons_append]
    exact (ih htail).cons

/-- Code that ends outside of words and texts gives the lexemes that end in it. -/
theorem lexemes (h : Reads (.code []) s ls (.code [])) : Code.lexemes s = ls := by
  unfold Reads at h
  rw [Code.lexemes, h]
  exact List.append_nil ls

end Reads

/-- Lines that end outside of words and texts are read line by line. -/
theorem reads_lines : ∀ {lines : List (List Char)},
    (∀ s ∈ lines, Reads (.code []) s (lexemes s) (.code [])) →
      Reads (.code []) (joinChars ['\n'] lines) (lines.flatMap lexemes) (.code [])
  | [], _ => .nil _
  | [s], h => by
    rw [joinChars, List.flatMap_singleton]
    exact h s (List.mem_singleton_self s)
  | s :: t :: rest, h => by
    have hbreak : Reads (.code []) ['\n'] [] (.code []) := by decide
    have hrest : Reads (.code []) (joinChars ['\n'] (t :: rest)) _ (.code []) :=
      reads_lines fun u hu => h u (List.mem_cons_of_mem s hu)
    rw [joinChars, List.flatMap_cons]
    have hline := ((h s List.mem_cons_self).append hbreak).append hrest
    rwa [List.append_nil] at hline

/-! ## 3. Written texts -/

/-- What a written text has between its quotes. -/
def written (asciiOnly : Bool) (s : String) : List Char :=
  s.toList.flatMap (Json.renderChar asciiOnly)

/-- A piece that leaves the text open in which it stands. -/
def StaysInText (s : List Char) : Prop :=
  ∀ body, Reads (.text '"' body) s [] (.text '"' (s.reverse ++ body))

/-- An escaped text leaves the text open in which it stands. -/
theorem staysInText_of_escaped {s : List Char} (h : Escaped s) : StaysInText s := by
  induction h with
  | nil => exact fun body => .nil _
  | @plain c s hslash hquote _ ih =>
    intro body
    have hrest := ih (c :: body)
    have hnext : (Mode.text '"' body).next c = .text '"' (c :: body) := by
      rw [Mode.next, if_neg hslash, if_neg hquote]
    have hends : (Mode.text '"' body).ends c = [] := by rw [Mode.ends, if_neg hquote]
    rw [← hnext] at hrest
    have hread := hrest.cons
    rwa [hends, List.append_cons, ← List.reverse_cons] at hread
  | @escape e s _ ih =>
    intro body
    have hslash : Reads (.text '"' body) ['\\', e] [] (.text '"' (e :: '\\' :: body)) := rfl
    have hread := hslash.append (ih (e :: '\\' :: body))
    simpa using hread

theorem escaped_written (asciiOnly : Bool) (s : String) : Escaped (written asciiOnly s) :=
  .flatMap (Json.escaped_renderChar asciiOnly) s.toList

/-- **A written text is read as one text**, however it is escaped. -/
theorem reads_renderText (asciiOnly : Bool) (s : String) :
    Reads (.code []) (Json.renderText asciiOnly s) [.text (written asciiOnly s)] (.code []) := by
  have hopen : Reads (.code []) ['"'] [] (.text '"' []) := by decide
  have hbody := staysInText_of_escaped (escaped_written asciiOnly s) []
  have hclose : Reads (.text '"' ((written asciiOnly s).reverse ++ [])) ['"']
      [.text (written asciiOnly s)] (.code []) := by
    simp [Reads, scan, Mode.ends, Mode.next]
  exact (hopen.append hbody).append hclose

/-! ## 4. Written lists -/

/-- The texts of a written list, with the commas between them. -/
def listLexemes (xs : List String) : List Lexeme :=
  (xs.map fun s => .text (written false s)).intersperse (.sign ',')

theorem reads_joined : ∀ xs : List String,
    Reads (.code []) (joinChars ", ".toList (xs.map (Json.renderText false))) (listLexemes xs)
      (.code [])
  | [] => .nil _
  | [s] => reads_renderText false s
  | s :: t :: rest => by
    have hcomma : Reads (.code []) ", ".toList [.sign ','] (.code []) := by decide
    exact ((reads_renderText false s).append hcomma).append (reads_joined (t :: rest))

theorem renderItems_texts (xs : List String) :
    Json.renderItems .spaced 1 (xs.map .str) = xs.map (Json.renderText false) := by
  induction xs with
  | nil => rfl
  | cons s rest ih =>
    rw [List.map_cons, Json.renderItems, ih]
    rfl

/-- A written list is its texts between brackets, with commas. -/
theorem toList_codeList (xs : List String) :
    (codeList xs).toList =
      '[' :: joinChars ", ".toList (xs.map (Json.renderText false)) ++ [']'] := by
  rw [codeList, Json.render, String.toList_ofList, Json.texts, Json.renderAt, renderItems_texts]
  cases xs with
  | nil => rfl
  | cons s rest => simp [Json.bracket, Json.Style.newline, Json.Style.spaced]

/-- **A written list is read as its texts.** -/
theorem reads_codeList (xs : List String) :
    Reads (.code []) (codeList xs).toList (.sign '[' :: listLexemes xs ++ [.sign ']'])
      (.code []) := by
  have hopen : Reads (.code []) ['['] [.sign '['] (.code []) := by decide
  have hclose : Reads (.code []) [']'] [.sign ']'] (.code []) := by decide
  rw [toList_codeList]
  exact (hopen.append (reads_joined xs)).append hclose

theorem word_not_mem_listLexemes (w : List Char) (xs : List String) :
    .word w ∉ listLexemes xs := by
  induction xs with
  | nil => exact List.not_mem_nil
  | cons s rest ih =>
    cases rest with
    | nil => simp [listLexemes]
    | cons t rest => simpa [listLexemes] using ih

/-! ## 5. What is read of the parameters -/

/-- The name of the object of the parameters. -/
def parametersName : List Char := "params".toList

/-- The key that is asked for right after the object; none if it is used in another way. -/
def keyAsked : List Lexeme → Option (List Char)
  | .sign '[' :: .text key :: .sign ']' :: _ => some key
  | _ => none

/-- What code reads of the object of its parameters, in order. -/
def parametersRead : List Lexeme → List (Option (List Char))
  | [] => []
  | l :: rest =>
    if l = .word parametersName then keyAsked rest :: parametersRead rest else parametersRead rest

/-- Code without the name of the object reads nothing of it. -/
theorem parametersRead_append {a : List Lexeme} (h : .word parametersName ∉ a)
    (b : List Lexeme) : parametersRead (a ++ b) = parametersRead b := by
  induction a with
  | nil => rfl
  | cons l a ih =>
    have hl : l ≠ .word parametersName := fun e => h (e ▸ List.mem_cons_self)
    rw [List.cons_append, parametersRead, if_neg hl]
    exact ih fun hmem => h (List.mem_cons_of_mem l hmem)

end Affordance.Code
