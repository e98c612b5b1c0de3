import Affordance.Disk
import Affordance.Keyed
import Affordance.Text.Case

/-!
# Environments

  * `Environment`: variables with their values.
  * `assignments`: the variables that a text assigns, one a line.  A value may stand in
    quotes, which keep blanks, comment marks and line breaks; a line that is no assignment
    is passed over.
  * `Environment.extended`: an environment with the variables of a text.  What is set
    already stays; a value may mention variables.
  * `Environment.withFile`: an environment with the variables of its file, unless a variable
    says that the file is not to be read.
-/

namespace Affordance

open Affordance.Text

/-- Variables with their values. -/
abbrev Environment := List (String × String)

/-! ## 1. Blanks and lines -/

/-- White space within a line. -/
def isBlank (c : Char) : Bool := isSpace c && c ≠ '\n' && c ≠ '\r'

/-- A character that does not end its line. -/
def staysOnLine (c : Char) : Bool := c ≠ '\n' && c ≠ '\r'

/-- What follows the line break at the beginning of a text, if there is one. -/
def passBreak : List Char → List Char
  | '\r' :: '\n' :: s => s
  | '\n' :: s => s
  | '\r' :: s => s
  | s => s

/-- What follows the rest of a line. -/
def passLine (s : List Char) : List Char := passBreak (s.dropWhile staysOnLine)

/-- What follows a comment, if there is one, and the end of the line; none where the line
    has something else. -/
def endLine (s : List Char) : Option (List Char) :=
  let s := s.dropWhile isBlank
  let s := match s with
    | '#' :: _ => s.dropWhile staysOnLine
    | _ => s
  match s with
  | [] => some []
  | c :: _ => if staysOnLine c then none else some (passBreak s)

/-! ## 2. Values -/

/-- The text before the quote that ends it, and what follows that quote.  A backslash takes
    the character after it along. -/
def quotedText (quote : Char) : List Char → Option (List Char × List Char)
  | [] => none
  | ['\\'] => none
  | '\\' :: c :: s => (quotedText quote s).map fun (v, rest) => ('\\' :: c :: v, rest)
  | c :: s =>
    if c = quote then some ([], s) else (quotedText quote s).map fun (v, rest) => (c :: v, rest)

/-- What escapes in double quotes mean. -/
def doubleEscapes : List (Char × Char) := [
  ('\\', '\\'), ('\'', '\''), ('"', '"'), ('a', '\x07'), ('b', '\x08'), ('f', '\x0c'),
  ('n', '\n'), ('r', '\r'), ('t', '\t'), ('v', '\x0b')]

/-- What escapes in single quotes mean. -/
def singleEscapes : List (Char × Char) := [('\\', '\\'), ('\'', '\'')]

/-- A text with its escapes read; others stay. -/
def readEscapes (escapes : List (Char × Char)) : List Char → List Char
  | '\\' :: c :: s =>
    match escapes.lookup c with
    | some d => d :: readEscapes escapes s
    | none => '\\' :: readEscapes escapes (c :: s)
  | c :: s => c :: readEscapes escapes s
  | [] => []
termination_by s => s.length

/-- A text before the first comment mark that white space precedes. -/
def uncommented : List Char → List Char
  | [] => []
  | c :: s =>
    if isSpace c && (s.dropWhile isSpace).head? = some '#' then [] else c :: uncommented s

/-- The bare value at the beginning of a text, and what follows it. -/
def bareValue (s : List Char) : List Char × List Char :=
  (strip (uncommented (s.takeWhile staysOnLine)), s.dropWhile staysOnLine)

/-- The value after an equality sign, blanks before it passed, and what follows it. -/
def valueAt (s : List Char) : Option (List Char × List Char) :=
  match s.dropWhile isBlank with
  | '\'' :: s => (quotedText '\'' s).map fun (v, rest) => (readEscapes singleEscapes v, rest)
  | '"' :: s => (quotedText '"' s).map fun (v, rest) => (readEscapes doubleEscapes v, rest)
  | _ => some (bareValue s)

/-! ## 3. Assignments -/

/-- A variable with the value that is assigned to it, if there is one. -/
abbrev Assignment := String × Option String

/-- A character of a variable's name. -/
def isNameChar (c : Char) : Bool := c ≠ '=' && c ≠ '#' && !isSpace c

/-- The word that may stand before an assignment, passed. -/
def passExport (s : List Char) : List Char :=
  let rest := s.drop 6
  if startsWith s "export".toList && (rest.head?.map isBlank).getD false then
    rest.dropWhile isBlank
  else s

/-- The name of a variable, and what follows it. -/
def nameAt : List Char → Option (List Char × List Char)
  | '\'' :: s =>
    match s.dropWhile (· ≠ '\'') with
    | _ :: rest => if s.head? = some '\'' then none else some (s.takeWhile (· ≠ '\''), rest)
    | [] => none
  | s =>
    let name := s.takeWhile isNameChar
    if name.isEmpty then none else some (name, s.drop name.length)

/-- The assignment of a variable at the beginning of a text, and what follows its line. -/
def assignmentAt (s : List Char) : Option (Assignment × List Char) := do
  let (name, s) ← nameAt s
  match s.dropWhile isBlank with
  | '=' :: s =>
    let (v, s) ← valueAt s
    return ((String.ofList name, some (String.ofList v)), ← endLine s)
  | s => return ((String.ofList name, none), ← endLine s)

/-- What is left where an assignment cannot be read. -/
def faultRest (s : List Char) : List Char :=
  match nameAt s with
  | none => s
  | some (_, s) =>
    match s.dropWhile isBlank with
    | '=' :: s => ((valueAt s).map (·.2)).getD (s.dropWhile isBlank)
    | s => s

/-- The assignment at the beginning of a text that is no white space, if there is one, and
    what follows its line. -/
def entryAt (s : List Char) : Option Assignment × List Char :=
  let s := passExport s
  match s with
  | '#' :: _ => (none, passLine s)
  | _ =>
    match assignmentAt s with
    | some (a, rest) => (some a, rest)
    | none => (none, passLine (faultRest s))

/-- The assignments of a text, in order. -/
def assignments (s : List Char) : List Assignment :=
  match s.dropWhile isSpace with
  | [] => []
  | c :: rest =>
    let entry := entryAt (c :: rest)
    if entry.2.length < s.length then entry.1.toList ++ assignments entry.2 else entry.1.toList
termination_by s.length

/-! ## 4. Mentions -/

/-- What a mention of a variable stands for. -/
def mentioned (env : Environment) (known : List Assignment) (name default_ : String) : String :=
  match env.lookup name, known.lookup name with
  | some v, _ => v
  | none, some v => v.getD ""
  | none, none => default_

/-- The mention of a variable that follows a dollar sign: its name and the default value,
    and what follows it. -/
def mentionAt : List Char → Option ((List Char × List Char) × List Char)
  | '\x7b' :: s =>
    let name := s.takeWhile fun c => c ≠ '\x7d' && c ≠ ':'
    match s.drop name.length with
    | '\x7d' :: rest => some ((name, []), rest)
    | ':' :: '-' :: s =>
      let default_ := s.takeWhile (· ≠ '\x7d')
      match s.drop default_.length with
      | _ :: rest => some ((name, default_), rest)
      | [] => none
    | _ => none
  | _ => none

/-- A value with every mention replaced. -/
def resolveFrom (env : Environment) (known : List Assignment) : Nat → List Char → List Char
  | _, [] => []
  | skip + 1, _ :: s => resolveFrom env known skip s
  | 0, c :: s =>
    match if c = '$' then mentionAt s else none with
    | some ((name, default_), rest) =>
      (mentioned env known (String.ofList name) (String.ofList default_)).toList ++
        resolveFrom env known (s.length - rest.length) s
    | none => c :: resolveFrom env known 0 s

/-- A value with every mention replaced. -/
def resolved (env : Environment) (known : List Assignment) (value : String) : String :=
  String.ofList (resolveFrom env known 0 value.toList)

/-- Assignments with the mentions in their values replaced, given the earlier ones. -/
def resolvedAll (env : Environment) : List Assignment → List Assignment → List Assignment
  | known, [] => known
  | known, (name, value) :: rest =>
    resolvedAll env (Keyed.put name (value.map (resolved env known)) known) rest

/-! ## 5. Environments -/

/-- Why a file of variables cannot be used. -/
inductive VariableFault where
  /-- The file is no text. -/
  | noText (f : OctetFault)
  /-- A name or a value has a null character. -/
  | nullCharacter
  /-- A name has an equality sign. -/
  | illegalName
  deriving Repr, DecidableEq

/-- The wording of a fault. -/
def VariableFault.message : VariableFault → String
  | noText f => f.message
  | nullCharacter => Disk.noPathMessage
  | illegalName => "illegal environment variable name"

/-- What is wrong with a variable. -/
def variableFault? (name value : String) : Option VariableFault :=
  if name.toList.contains '\x00' || value.toList.contains '\x00' then some .nullCharacter
  else if name.toList.contains '=' then some .illegalName
  else none

namespace Environment

/-- An environment with an assignment that does not change what is set. -/
def withAssignment (env : Environment) : Assignment → Except VariableFault Environment
  | (_, none) => .ok env
  | (name, some value) =>
    if (env.lookup name).isSome then .ok env
    else
      match variableFault? name value with
      | some f => .error f
      | none => .ok (Keyed.put name value env)

/-- A text without the mark of its byte order. -/
def withoutMark : List Char → List Char
  | '\ufeff' :: s => s
  | s => s

/-- An environment with the variables that a text assigns. -/
def extended (env : Environment) (s : List Char) : Except VariableFault Environment :=
  (resolvedAll env [] (assignments (withoutMark s))).foldlM withAssignment env

/-- The variable that names the file of variables. -/
def fileVariable : String := "AFC_ENV_FILE"

/-- The value of a variable. -/
def valueOr (env : Environment) (name d : String) : String := (env.lookup name).getD d

/-- The path of the file of variables. -/
def filePath (env : Environment) : String :=
  let path := trim (env.valueOr fileVariable "")
  if path = "" then ".env" else path

/-- The variable that says that no file of variables is to be read. -/
def disablingVariable : String := "PYTHON_DOTENV_DISABLED"

/-- The words for saying so. -/
def disablingWords : List String := ["1", "true", "t", "yes", "y"]

/-- The text is the word when case is ignored. -/
def isWord (word text : List Char) : Bool :=
  word.length = text.length && (word.zip text).all fun (w, c) => sameLetter w c

/-- No file of variables is to be read. -/
def ignoresFile (env : Environment) : Bool :=
  let value := (env.valueOr disablingVariable "").toList
  disablingWords.any fun word => isWord word.toList value

/-- An environment with the variables of its file, if there is one. -/
def withFile (env : Environment) (d : Disk) : Except VariableFault Environment :=
  if env.ignoresFile then .ok env
  else
    match d.read env.filePath with
    | .ok s => env.extended s
    | .error (.noText f) => .error (.noText f)
    | .error _ => .ok env

end Environment

end Affordance
