import Affordance.Number.Measure
import Affordance.Number.Whole
import Affordance.Text.Basic

/-!
# Arguments of a command

  * `Grammar`: the options that a command knows, and whether it takes one operand or many.
  * `Grammar.read`: the options and operands of a list of arguments, or that help is asked
    for, or that the list is misused.
  * A long option may be cut short where no other begins the same way.  Its value follows
    it, or stands behind an equality sign.  Operands stand together; after two dashes
    everything is an operand.
-/

namespace Affordance

open Affordance.Number
open Affordance.Text

/-! ## 1. Grammars -/

/-- What an option takes. -/
inductive OptionKind where
  | help
  | flag
  | text
  | whole
  deriving Repr, DecidableEq

/-- The value of an option. -/
inductive OptionValue where
  | on
  | text (s : String)
  | whole (i : Int)
  deriving Repr, DecidableEq

/-- How many operands a command takes. -/
inductive Operands where
  | one
  | oneOrMore
  deriving Repr, DecidableEq

/-- What a command understands. -/
structure Grammar where
  options : List (String × OptionKind)
  operands : Operands

/-- What is read from arguments. -/
structure Arguments where
  options : List (String × OptionValue) := []
  operands : List String := []
  deriving Repr, DecidableEq

/-- What comes of reading arguments. -/
inductive Reading where
  | help
  | misuse
  | arguments (a : Arguments)
  deriving Repr, DecidableEq

namespace Arguments

/-- The last value of an option. -/
def value? (a : Arguments) (name : String) : Option OptionValue := a.options.reverse.lookup name

/-- The option is given. -/
def has (a : Arguments) (name : String) : Bool := (a.value? name).isSome

/-- The text of an option. -/
def text? (a : Arguments) (name : String) : Option String :=
  match a.value? name with
  | some (.text s) => some s
  | _ => none

/-- The number of an option. -/
def wholeOr (a : Arguments) (name : String) (d : Int) : Int :=
  match a.value? name with
  | some (.whole i) => i
  | _ => d

end Arguments

/-! ## 2. Words -/

/-- What an argument is by its form. -/
inductive Word where
  | operand (s : String)
  /-- The two dashes after which everything is an operand. -/
  | dashes
  /-- An option, and the value that stands in the same argument. -/
  | option (name : String) (kind : OptionKind) (value : Option String)
  /-- An option that the command does not know. -/
  | unknown
  deriving Repr, DecidableEq

/-- A text without one line break at its end. -/
def dropLastBreak (s : List Char) : List Char :=
  if s.getLast? = some '\n' then s.dropLast else s

/-- A negative number, perhaps with a line break behind it. -/
def isNegativeNumber : List Char → Bool
  | '-' :: s =>
    let s := dropLastBreak s
    let whole := s.takeWhile isDigit
    match s.drop whole.length with
    | [] => !whole.isEmpty
    | '.' :: frac => !frac.isEmpty && frac.all isDigit
    | _ => false
  | _ => false

/-- An argument before an equality sign, and the value behind it. -/
def splitValue (s : String) : String × Option String :=
  let name := s.toList.takeWhile (· ≠ '=')
  match s.toList.drop name.length with
  | _ :: value => (String.ofList name, some (String.ofList value))
  | [] => (s, none)

/-- The options that an argument may stand for: those that begin like it, or the short one
    that it begins with. -/
def Grammar.matching (g : Grammar) (s : String) : List Word :=
  if startsWith s.toList ['-', '-'] then
    let (start, value) := splitValue s
    (g.options.filter fun o => startsWith o.1.toList start.toList).map fun o =>
      .option o.1 o.2 value
  else g.options.filterMap fun o =>
    if o.1.toList = s.toList.take 2 then
      some (.option o.1 o.2 (some (String.ofList (s.toList.drop 2))))
    else if startsWith o.1.toList s.toList then some (.option o.1 o.2 none)
    else none

/-- An argument that begins with a dash and is no option as it stands. -/
def Grammar.abbreviated (g : Grammar) (s : String) : Option Word :=
  match g.matching s with
  | [w] => some w
  | [] =>
    if isNegativeNumber s.toList || s.toList.contains ' ' then some (.operand s)
    else some .unknown
  | _ => none

/-- An argument before the two dashes; none where it may stand for several options. -/
def Grammar.word (g : Grammar) (s : String) : Option Word :=
  if s.toList.head? ≠ some '-' then some (.operand s)
  else
    match g.options.lookup s, splitValue s with
    | some kind, _ => some (.option s kind none)
    | none, (name, value) =>
      if s = "-" then some (.operand s)
      else
        match value, g.options.lookup name with
        | some _, some kind => some (.option name kind value)
        | _, _ => g.abbreviated s

/-- The words of arguments; none where one of them may stand for several options. -/
def Grammar.words (g : Grammar) : List String → Option (List Word)
  | [] => some []
  | s :: rest =>
    if s = "--" then some (.dashes :: rest.map .operand)
    else do return (← g.word s) :: (← g.words rest)

/-! ## 3. Reading -/

/-- A whole number as a text writes it. -/
def readWhole (s : String) : Option Int :=
  let (negative, digits) := Measure.readSign (strip s.toList)
  let (ds, rest) := Measure.readDigits false digits
  if ds.isEmpty || !rest.isEmpty || (longNumber? ds.length).isSome then none
  else some (if negative then -(Measure.ofDigits ds : Int) else Measure.ofDigits ds)

/-- What has been read so far. -/
structure ReadingState where
  found : Arguments := {}
  /-- The operands have been read. -/
  closed : Bool := false
  /-- There is something that does not belong here. -/
  surplus : Bool := false

namespace ReadingState

/-- An option is found. -/
def found_ (st : ReadingState) (name : String) (v : OptionValue) : ReadingState :=
  { st with found := { st.found with options := st.found.options ++ [(name, v)] } }

/-- Operands are found, and perhaps more than there is room for. -/
def close (st : ReadingState) (operands : List String) (surplus : Bool) : ReadingState :=
  { found := { st.found with operands }, closed := true, surplus := st.surplus || surplus }

end ReadingState

/-- The operands among words. -/
def operandsOf (ws : List Word) : List String := ws.filterMap fun
  | .operand s => some s
  | _ => none

/-- The word is no option. -/
def Word.isPlain : Word → Bool
  | .operand _ => true
  | .dashes => true
  | _ => false

/-- A run of words that are no options. -/
def Grammar.takeRun (g : Grammar) (st : ReadingState) (run : List Word) : ReadingState :=
  let operands := operandsOf run
  if st.closed || operands.isEmpty then { st with surplus := true }
  else
    match g.operands with
    | .oneOrMore => st.close operands false
    | .one => st.close (operands.take 1) (1 < operands.length)

/-- The value of an option that takes one. -/
def OptionKind.value (kind : OptionKind) (s : String) : Option OptionValue :=
  match kind with
  | .whole => (readWhole s).map .whole
  | _ => some (.text s)

/-- The reading when all words have been taken. -/
def ReadingState.finish (st : ReadingState) : Reading :=
  if st.closed && !st.surplus then .arguments st.found else .misuse

/-- What stands in the same argument as a short request for help: more of the same. -/
def isMoreHelp (name : String) (s : String) : Bool :=
  name = "-h" && s ≠ "" && s.toList.all (· = 'h')

/-- The reading of words. -/
def Grammar.readFrom (g : Grammar) : ReadingState → List Word → Reading
  | st, [] => st.finish
  | st, .unknown :: rest => g.readFrom { st with surplus := true } rest
  | _, .option name .help value :: _ =>
    match value with
    | none => .help
    | some s => if isMoreHelp name s then .help else .misuse
  | st, .option name .flag value :: rest =>
    match value with
    | none => g.readFrom (st.found_ name .on) rest
    | some _ => .misuse
  | st, .option name kind (some s) :: rest =>
    match kind.value s with
    | some v => g.readFrom (st.found_ name v) rest
    | none => .misuse
  | st, .option name kind none :: .operand s :: rest =>
    match kind.value s with
    | some v => g.readFrom (st.found_ name v) rest
    | none => .misuse
  | _, .option _ _ none :: _ => .misuse
  | st, w :: rest =>
    have : (rest.dropWhile Word.isPlain).length ≤ rest.length :=
      (List.dropWhile_suffix _).sublist.length_le
    g.readFrom (g.takeRun st (w :: rest.takeWhile Word.isPlain)) (rest.dropWhile Word.isPlain)
termination_by _ ws => ws.length

/-- The reading of arguments. -/
def Grammar.read (g : Grammar) (args : List String) : Reading :=
  match g.words args with
  | some ws => g.readFrom {} ws
  | none => .misuse

end Affordance
