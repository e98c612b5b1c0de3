import Affordance.Text.Entity
import Affordance.Text.Pattern
import Affordance.Text.Quoted

/-!
# Markup tokens

  * A markup text is cut into tokens: tags that open or close, text, and gaps, which
    are comments and declarations.  Damaged markup is cut as well as it can be; only
    a marked section of an unknown kind and a number that is too long are refused.
  * The text is cut twice.  The first pass stops at the first construct that may be
    incomplete; the second takes up there and treats what is incomplete as text.
  * The contents of `script` and `style` are taken as they stand up to their closing
    tag, and are lost without one.
-/

namespace Affordance.Markup

open Affordance.Number (LongNumber longNumber?)
open Affordance.Text
open Affordance.Text.Pattern

/-! ## 1. Tokens -/

/-- A piece of markup. -/
inductive Token where
  /-- A tag opens, and closes at once if it says so. -/
  | open_ (name : String) (attributes : List (String × String)) (selfClosed : Bool)
  /-- A tag closes. -/
  | close (name : String)
  /-- Text. -/
  | text (s : List Char)
  /-- A comment or a declaration, which separates texts. -/
  | gap
  deriving Repr, DecidableEq

/-- Why a markup text is refused. -/
inductive Rejection where
  /-- A marked section of a kind that is not known. -/
  | unknownSection (keyword : String)
  /-- A marked section without a kind. -/
  | unnamedSection (found : String)
  /-- A reference by a number with too many digits. -/
  | longNumber (n : LongNumber)
  deriving Repr, DecidableEq

/-- The wording of a refusal for what is wrong with a marked section. -/
def sectionMessage (cause : String) : String :=
  "The markup you provided was rejected by the parser. Trying a different parser or a " ++
    "different encoding may help.\n\nOriginal exception(s) from parser:\n AssertionError: " ++ cause

/-- The wording of a refusal. -/
def Rejection.message : Rejection → String
  | unknownSection k =>
    sectionMessage ("unknown status keyword " ++ quoted k ++ " in marked section")
  | unnamedSection f => sectionMessage ("expected name token at " ++ quoted f)
  | longNumber n => n.message

/-! ## 2. Tags -/

/-- A character of a tag name. -/
def isNameChar (c : Char) : Bool :=
  !(c == '\t' || c == '\n' || c == '\r' || c == '\x0c' || c == ' ' || c == '/' || c == '>' ||
    c == '\x00')

/-- A tag name. -/
def tagName : Pattern := group "name" (one isLetterAscii ++ run isNameChar)

/-- White space and slashes that end no tag. -/
def filler : Pattern := many (alt (one isSpace) (char '/' ++ notAhead (char '>')))

/-- The name of an attribute, after a quote, white space or a slash. -/
def attributeName : Pattern :=
  after (fun c => c == '\'' || c == '"' || c == '/' || isSpace c) ++
  one (fun c => !(isSpace c || c == '/' || c == '>')) ++
  run fun c => !(isSpace c || c == '/' || c == '=' || c == '>')

/-- The value of an attribute, quoted or bare. -/
def attributeValue : Pattern :=
  alt (char '\'' ++ run (· ≠ '\'') ++ char '\'')
    (alt (char '"' ++ run (· ≠ '"') ++ char '"')
      (notAhead (one fun c => c == '\'' || c == '"') ++ run fun c => !(isSpace c || c == '>')))

/-- The sign between an attribute and its value. -/
def equals : Pattern := space ++ runs (· == '=') ++ space

/-- An opening tag up to its end or to where it is damaged. -/
def wholeTag : Pattern :=
  char '<' ++ tagName ++
  opt (run (fun c => isSpace c || c == '/') ++
    many (attributeName ++ opt (equals ++ attributeValue ++ space) ++ filler)) ++
  space

/-- One attribute with what fills the space after it. -/
def oneAttribute : Pattern :=
  group "name" attributeName ++
    opt (group "rest" (equals ++ group "value" attributeValue)) ++ filler

/-- The value of an attribute without its quotes. -/
def unquote (s : List Char) : List Char :=
  match s with
  | [] => []
  | c :: rest =>
    match rest.reverse with
    | [] => s
    | d :: inner => if (c == '\'' || c == '"') && d == c then inner.reverse else s

/-- Names in small letters. -/
def lowerText (s : List Char) : String := String.ofList (lower s)

/-- The value of an attribute as it is meant, without its quotes and references. -/
def readValue (s : List Char) : Except Rejection String :=
  let s := unquote s
  match longReference? s with
  | some n => .error (.longNumber n)
  | none => .ok (String.ofList (unescape s))

/-- The attributes from a position on, up to the end of the tag, and the position after
    them. -/
def attributesFrom (src : Source) (stop : Nat) :
    Nat → Nat → Except Rejection (List (String × String) × Nat)
  | 0, k => .ok ([], k)
  | n + 1, k =>
    if k < stop then
      match oneAttribute.matchAt src k with
      | none => .ok ([], k)
      | some m => do
        let value ← readValue ((m.chars? "value").getD [])
        let (more, e) ← attributesFrom src stop n m.stop
        return ((lowerText ((m.chars? "name").getD []), value) :: more, e)
    else .ok ([], k)

/-- Where the opening tag at the position ends; nothing if it may be incomplete. -/
def tagEnd (src : Source) (i : Nat) : Option Nat :=
  match wholeTag.matchAt src i with
  | none => some (i + 1)
  | some m =>
    match src[m.stop]? with
    | none => none
    | some c =>
      if c == '>' then some (m.stop + 1)
      else if c == '/' then (if src[m.stop + 1]? == some '>' then some (m.stop + 2) else none)
      else if c == '=' || isLetterAscii c then none
      else some m.stop

/-- The token of the opening tag between two positions; a damaged tag is text. -/
def openToken (src : Source) (i stop : Nat) : Except Rejection Token :=
  match (tagName ++ filler).matchAt src (i + 1) with
  | none => .ok (.text (src.slice i stop))
  | some m => do
    let (attrs, k) ← attributesFrom src stop (stop - m.stop) m.stop
    let name := lowerText ((m.chars? "name").getD [])
    let rest := strip (src.slice k stop)
    return if rest == ['>'] then .open_ name attrs false
      else if rest == ['/', '>'] then .open_ name attrs true
      else .text (src.slice i stop)

/-! ## 3. Closing tags -/

/-- A closing tag that is written as it should be. -/
def closingTag : Pattern :=
  lit "</" ++ space ++
  group "name" (one isLetterAscii ++
    run fun c => isAlnumAscii c || c == '-' || c == '.' || c == ':' || c == '_') ++
  space ++ char '>'

/-- The closing tag that ends raw content, letter case ignored. -/
def rawEnd (name : String) : Pattern :=
  lit "</" ++ space ++ litAnyCase name ++ space ++ char '>'

/-- What one construct yields: its tokens, the position after it and the tag whose raw
    content follows. -/
structure Cut where
  tokens : List Token
  stop : Nat
  raw : Option String
  deriving Repr

/-- The construct that `</` begins; nothing if it may be incomplete. -/
def closeCut (src : Source) (raw : Option String) (i : Nat) : Option Cut :=
  match src.findChar '>' (i + 1) with
  | none => none
  | some gt =>
    match closingTag.matchAt src i, raw with
    | some m, none => some ⟨[.close (lowerText ((m.chars? "name").getD []))], m.stop, none⟩
    | some m, some r =>
      let name := lowerText ((m.chars? "name").getD [])
      if name = r then some ⟨[.close name], m.stop, none⟩
      else some ⟨[.text (src.slice i (gt + 1))], gt + 1, raw⟩
    | none, some _ => some ⟨[.text (src.slice i (gt + 1))], gt + 1, raw⟩
    | none, none =>
      match (tagName ++ filler).matchAt src (i + 2) with
      | some m =>
        (src.findChar '>' m.stop).map fun k =>
          ⟨[.close (lowerText ((m.chars? "name").getD []))], k + 1, none⟩
      | none =>
        if src[i + 2]? == some '>' then some ⟨[], i + 3, none⟩
        else (src.findChar '>' (i + 2)).map fun k => ⟨[.gap], k + 1, none⟩

/-! ## 4. Comments and declarations -/

/-- The end of a comment. -/
def commentEnd : Pattern := lit "--" ++ space ++ char '>'

/-- The end of a marked section. -/
def sectionEnd : Pattern := char ']' ++ space ++ char ']' ++ space ++ char '>'

/-- The end of a conditional section. -/
def conditionalEnd : Pattern := char ']' ++ space ++ char '>'

/-- The kind of a marked section. -/
def sectionName : Pattern :=
  group "name" (one isLetterAscii ++
    run fun c => isAlnumAscii c || c == '-' || c == '_' || c == '.') ++ space

/-- A gap up to the end of a pattern; nothing if it may be incomplete. -/
def gapTo (p : Pattern) (src : Source) (i : Nat) : Option Cut :=
  (p.search src i).map fun m => ⟨[.gap], m.stop, none⟩

/-- The marked section at the position; nothing if it may be incomplete. -/
def sectionCut (src : Source) (i : Nat) : Except Rejection (Option Cut) :=
  if i + 3 = src.size then .ok none
  else
    match sectionName.matchAt src (i + 3) with
    | none => .error (.unnamedSection (src.text i (i + 20)))
    | some m =>
      let name := lowerText ((m.chars? "name").getD [])
      if m.stop = src.size then .ok none
      else if ["temp", "cdata", "ignore", "include", "rcdata"].contains name then
        .ok (gapTo sectionEnd src (i + 3))
      else if ["if", "else", "endif"].contains name then .ok (gapTo conditionalEnd src (i + 3))
      else .error (.unknownSection m.whole)

/-- The construct that `<!` begins; nothing if it may be incomplete. -/
def declarationCut (src : Source) (i : Nat) : Except Rejection (Option Cut) :=
  if src.at_ i "<!--".toList then .ok (gapTo commentEnd src (i + 4))
  else if src.at_ i "<![".toList then sectionCut src i
  else if lower (src.slice i (i + 9)) == "<!doctype".toList then .ok (gapTo (char '>') src (i + 9))
  else .ok (gapTo (char '>') src (i + 2))

/-! ## 5. Constructs -/

/-- Elements with raw content. -/
def rawElements : List String := ["script", "style"]

/-- The opening tag at the position; nothing if it may be incomplete. -/
def openCut (src : Source) (raw : Option String) (i : Nat) : Except Rejection (Option Cut) :=
  match tagEnd src i with
  | none => .ok none
  | some stop => do
    let token ← openToken src i stop
    let raw := match token with
      | .open_ name _ false => if rawElements.contains name then some name else raw
      | _ => raw
    return some ⟨[token], stop, raw⟩

/-- The construct that `<` begins, outside raw content; nothing if it may be incomplete. -/
def angleCut (src : Source) (raw : Option String) (i : Nat) : Except Rejection (Option Cut) :=
  match src[i + 1]? with
  | none => .ok none
  | some c =>
    if isLetterAscii c then openCut src raw i
    else if c == '/' then .ok (closeCut src raw i)
    else if c == '!' then
      (declarationCut src i).map fun o => o.map fun (cut : Cut) => { cut with raw }
    else if c == '?' then .ok ((gapTo (char '>') src (i + 2)).map fun cut => { cut with raw })
    else .ok (some ⟨[.text ['<']], i + 1, raw⟩)

/-- An incomplete construct taken as text: up to its end, or to the next one. -/
def incompleteCut (src : Source) (raw : Option String) (i : Nat) : Cut :=
  let k := match src.findChar '>' (i + 1) with
    | some k => k + 1
    | none => (src.findChar '<' (i + 1)).getD (i + 1)
  ⟨[.text (src.slice i k)], k, raw⟩

/-- A numeric reference with the character after it. -/
def numberReference : Pattern :=
  lit "&#" ++
  alt (group "decimal" (runs isDigitAscii))
    (one (fun c => c == 'x' || c == 'X') ++ group "hex" (runs fun c => (digitValue 16 c).isSome)) ++
  group "end" (one fun c => (digitValue 16 c).isNone)

/-- A named reference with the character after it. -/
def nameReference : Pattern :=
  char '&' ++
  group "name" (one isLetterAscii ++ run fun c => isAlnumAscii c || c == '-' || c == '.') ++
  group "end" (one fun c => !isAlnumAscii c)

/-- The position after a reference: behind its semicolon, or before the other character
    that ends it. -/
def referenceStop (m : Match) : Nat := if m.text "end" = ";" then m.stop else m.stop - 1

/-- What a pass does at an ampersand. -/
inductive Reference where
  /-- The reference is read. -/
  | read (cut : Cut)
  /-- The pass ends, after the text up to the position. -/
  | stop (tokens : List Token) (at_ : Nat)
  /-- The reference is refused. -/
  | refused (r : Rejection)

/-- The character that a numeric reference stands for, or that it has too many digits. -/
def numberMeant (m : Match) : Except Rejection Char :=
  match m.chars? "decimal" with
  | none => .ok (markupNumber (numberOfDigits 16 ((m.chars? "hex").getD [])))
  | some ds =>
    match longNumber? ds.length with
    | some n => .error (.longNumber n)
    | none => .ok (markupNumber (numberOfDigits 10 ds))

/-- The reference that an ampersand begins, in the last pass or not. -/
def referenceAt (src : Source) (last : Bool) (i : Nat) : Reference :=
  if src[i + 1]? == some '#' then
    match numberReference.matchAt src i with
    | some m =>
      match numberMeant m with
      | .ok c => .read ⟨[.text [c]], referenceStop m, none⟩
      | .error r => .refused r
    | none =>
      if (src.findChar ';' i).isSome then .stop [.text ['&', '#']] (i + 2) else .stop [] i
  else
    match nameReference.matchAt src i with
    | some m => .read ⟨[.text (markupName ((m.chars? "name").getD []))], referenceStop m, none⟩
    | none =>
      match src[i + 1]? with
      | none => .stop [] i
      | some c =>
        if isLetterAscii c then
          (if last && i + 2 == src.size then .stop [] (i + 1) else .stop [] i)
        else .read ⟨[.text ['&']], i + 1, none⟩

/-! ## 6. Passes -/

/-- Where a pass stopped: its tokens, latest first, the position and the tag whose raw
    content follows. -/
structure Pass where
  tokens : List Token
  stop : Nat
  raw : Option String

/-- The next position that text does not simply run over: a construct, or the closing
    tag of raw content. -/
def nextConstruct (src : Source) (raw : Option String) (i : Nat) : Option Nat :=
  match raw with
  | some name => ((rawEnd name).search src i).map (·.start)
  | none => some (src.passWhile (fun c => !(c == '<' || c == '&')) i)

/-- A pass from a position on, given the tokens so far, latest first. -/
def passFrom (src : Source) (last : Bool) :
    Nat → List Token → Option String → Nat → Except Rejection Pass
  | 0, acc, raw, i => .ok ⟨acc, i, raw⟩
  | n + 1, acc, raw, i =>
    match nextConstruct src raw i with
    | none => .ok ⟨acc, i, raw⟩
    | some j =>
      let acc := if i < j then .text (src.slice i j) :: acc else acc
      match src[j]? with
      | none => .ok ⟨acc, j, raw⟩
      | some c =>
        if c == '<' then
          match angleCut src raw j with
          | .error e => .error e
          | .ok (some cut) => passFrom src last n (cut.tokens.reverse ++ acc) cut.raw cut.stop
          | .ok none =>
            if last && j + 1 < src.size then
              let cut := incompleteCut src raw j
              passFrom src last n (cut.tokens.reverse ++ acc) cut.raw cut.stop
            else .ok ⟨acc, j, raw⟩
        else
          match referenceAt src last j with
          | .read cut => passFrom src last n (cut.tokens.reverse ++ acc) raw cut.stop
          | .stop tokens k => .ok ⟨tokens.reverse ++ acc, k, raw⟩
          | .refused r => .error r

/-- The tokens of a markup text. -/
def tokens (src : Source) : Except Rejection (List Token) := do
  let first ← passFrom src false (src.size + 1) [] none 0
  let second ← passFrom src true (src.size + 1) first.tokens first.raw first.stop
  let rest :=
    if second.stop < src.size && second.raw.isNone then
      .text (src.slice second.stop src.size) :: second.tokens
    else second.tokens
  return rest.reverse

end Affordance.Markup
