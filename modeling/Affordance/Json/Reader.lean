import Affordance.Json.Basic
import Affordance.Number.Whole
import Affordance.Text.Entity
import Affordance.Text.Half
import Affordance.Text.Source

/-!
# Reading JSON

  * `Json.read` reads a text as one JSON value.
  * `ReadFault` says why a text is no JSON value, and where: each fault has a wording
    and the line of its position.
  * A key that stands twice in an object keeps its first place and its last value.
-/

namespace Affordance.Json

open Affordance.Text
open Affordance.Number

/-! ## 1. Faults -/

/-- Why a text is no JSON value. -/
inductive FaultKind where
  | byteOrderMark
  | value
  | propertyName
  | colon
  | comma
  | extraData
  | unterminatedString
  | controlCharacter
  | escape
  | unicodeEscape
  /-- A whole number has too many digits. -/
  | longNumber (n : LongNumber)
  deriving Repr, DecidableEq

/-- Why a text is no JSON value, and the position where that shows. -/
structure ReadFault where
  kind : FaultKind
  position : Nat
  deriving Repr, DecidableEq

/-- The wording of a fault. -/
def FaultKind.message : FaultKind → String
  | byteOrderMark => "Unexpected UTF-8 BOM (decode using utf-8-sig)"
  | value => "Expecting value"
  | propertyName => "Expecting property name enclosed in double quotes"
  | colon => "Expecting ':' delimiter"
  | comma => "Expecting ',' delimiter"
  | extraData => "Extra data"
  | unterminatedString => "Unterminated string starting at"
  | controlCharacter => "Invalid control character at"
  | escape => "Invalid \\escape"
  | unicodeEscape => "Invalid \\uXXXX escape"
  | longNumber n => n.message

/-- The number with too many digits that a fault is about. -/
def ReadFault.longNumber? (f : ReadFault) : Option LongNumber :=
  match f.kind with
  | .longNumber n => some n
  | _ => none

/-- The line of a fault, counted from one. -/
def ReadFault.line (f : ReadFault) (src : Source) : Nat :=
  (src.slice 0 f.position).count '\n' + 1

/-- What reading a part yields: the part and the position after it. -/
abbrev Step (α : Type) := Except ReadFault (α × Nat)

/-- A fault at a position. -/
def fault {α : Type} (kind : FaultKind) (i : Nat) : Except ReadFault α := .error ⟨kind, i⟩

/-! ## 2. Texts -/

/-- The white space of JSON. -/
def isJsonSpace (c : Char) : Bool := c == ' ' || c == '\t' || c == '\n' || c == '\r'

/-- The position after white space. -/
def passJsonSpace (src : Source) (i : Nat) : Nat := src.passWhile isJsonSpace i

/-- Four hexadecimal digits at a position. -/
def readHex (src : Source) (i : Nat) : Option Nat :=
  let ds := src.slice i (i + 4)
  if ds.length == 4 && ds.all (fun c => (digitValue 16 c).isSome) then some (numberOfDigits 16 ds)
  else none

/-- The character of a one-letter escape. -/
def simpleEscape (c : Char) : Option Char :=
  match c with
  | '"' => some '"'
  | '\\' => some '\\'
  | '/' => some '/'
  | 'b' => some '\x08'
  | 'f' => some '\x0c'
  | 'n' => some '\n'
  | 'r' => some '\r'
  | 't' => some '\t'
  | _ => none

/-- The character of an escape of hexadecimal digits whose first digit is at the
    position, a pair of surrogates taken together; a half alone stays a half. -/
def readUnicode (src : Source) (i : Nat) : Step Char :=
  if src.size ≤ i + 4 then fault .unicodeEscape (i - 1)
  else match readHex src i with
    | none => fault .unicodeEscape (i - 1)
    | some hi =>
      let single := .ok (charOfUnit hi, i + 4)
      if 0xd800 ≤ hi && hi ≤ 0xdbff && src.at_ (i + 4) ['\\', 'u'] && i + 10 < src.size then
        match readHex src (i + 6) with
        | none => fault .unicodeEscape (i + 5)
        | some lo =>
          if 0xdc00 ≤ lo && lo ≤ 0xdfff then
            .ok (Char.ofNat (0x10000 + (hi - 0xd800) * 0x400 + (lo - 0xdc00)), i + 10)
          else single
      else single

/-- The rest of a text that began at `start`, given what was read so far, latest
    character first. -/
def readStringFrom (src : Source) (start : Nat) : Nat → List Char → Nat → Step String
  | 0, _, _ => fault .unterminatedString start
  | n + 1, acc, i =>
    match src[i]? with
    | none => fault .unterminatedString start
    | some c =>
      if c == '"' then .ok (String.ofList acc.reverse, i + 1)
      else if c == '\\' then
        match src[i + 1]? with
        | none => fault .unterminatedString start
        | some e =>
          if e == 'u' then
            match readUnicode src (i + 2) with
            | .ok (d, j) => readStringFrom src start n (d :: acc) j
            | .error f => .error f
          else match simpleEscape e with
            | some d => readStringFrom src start n (d :: acc) (i + 2)
            | none => fault .escape i
      else if c.toNat < 32 then fault .controlCharacter i
      else readStringFrom src start n (c :: acc) (i + 1)

/-- The text whose opening quote is at the position. -/
def readString (src : Source) (i : Nat) : Step String :=
  readStringFrom src i (src.size + 1) [] (i + 1)

/-! ## 3. Numbers -/

/-- The digits at a position. -/
def digitsAt (src : Source) (i : Nat) : List Char := src.slice i (src.passWhile isDigitAscii i)

/-- The fraction at a position, without its point. -/
def fractionAt (src : Source) (i : Nat) : List Char :=
  if src[i]? == some '.' then digitsAt src (i + 1) else []

/-- The exponent at a position: its value and its length. -/
def exponentAt (src : Source) (i : Nat) : Option (Int × Nat) :=
  match src[i]? with
  | some c =>
    if c == 'e' || c == 'E' then
      let (negative, skip) := match src[i + 1]? with
        | some '-' => (true, 1)
        | some '+' => (false, 1)
        | _ => (false, 0)
      let ds := digitsAt src (i + 1 + skip)
      if ds.isEmpty then none
      else
        let e : Int := numberOfDigits 10 ds
        some (if negative then -e else e, 1 + skip + ds.length)
    else none
  | none => none

/-- The number at a position. -/
def readNumber (src : Source) (start : Nat) : Step Json :=
  let negative := src[start]? == some '-'
  let i := if negative then start + 1 else start
  let whole := if src[i]? == some '0' then ['0'] else digitsAt src i
  if whole.isEmpty then fault .value start
  else
    let i := i + whole.length
    let frac := fractionAt src i
    let i := if frac.isEmpty then i else i + 1 + frac.length
    let exp := exponentAt src i
    if frac.isEmpty && exp.isNone then
      match longNumber? whole.length with
      | some n => fault (.longNumber n) start
      | none =>
        let n : Int := numberOfDigits 10 whole
        .ok (.int (if negative then -n else n), i)
    else
      let (e, len) := exp.getD (0, 0)
      .ok (.num (Measure.ofDecimal negative (numberOfDigits 10 (whole ++ frac)) (e - frac.length)),
        i + len)

/-! ## 4. Values -/

/-- Words that are values. -/
def wordValues : List (String × Json) := [
  ("null", .null), ("true", .bool true), ("false", .bool false), ("NaN", .num .undefined),
  ("Infinity", .num (.infinity false)), ("-Infinity", .num (.infinity true))]

/-- The word at a position. -/
def wordAt (src : Source) (i : Nat) : Option (Json × Nat) :=
  (wordValues.find? fun w => src.at_ i w.1.toList).map fun w => (w.2, i + w.1.length)

mutual

/-- The value at a position. -/
def readValue (src : Source) : Nat → Nat → Step Json
  | 0, i => fault .value i
  | n + 1, i =>
    match src[i]? with
    | none => fault .value i
    | some c =>
      if c = '"' then (readString src i).map fun (s, j) => (.str s, j)
      else if c = '\x7b' then
        let j := passJsonSpace src (i + 1)
        if src[j]? = some '\x7d' then .ok (.obj [], j + 1)
        else (readFields src n [] j).map fun (fs, k) => (.obj fs, k)
      else if c = '[' then
        let j := passJsonSpace src (i + 1)
        if src[j]? = some ']' then .ok (.arr [], j + 1)
        else (readItems src n j).map fun (xs, k) => (.arr xs, k)
      else match wordAt src i with
        | some (v, j) => .ok (v, j)
        | none => readNumber src i
termination_by structural n => n

/-- The items of a list from the next one on. -/
def readItems (src : Source) : Nat → Nat → Step (List Json)
  | 0, i => fault .value i
  | n + 1, i =>
    match readValue src n i with
    | .error f => .error f
    | .ok (v, j) =>
      let j := passJsonSpace src j
      if src[j]? = some ']' then .ok ([v], j + 1)
      else if src[j]? = some ',' then
        (readItems src n (passJsonSpace src (j + 1))).map fun (vs, k) => (v :: vs, k)
      else fault .comma j
termination_by structural n => n

/-- The fields of an object from the next one on, put into those read so far. -/
def readFields (src : Source) : Nat → List (String × Json) → Nat → Step (List (String × Json))
  | 0, _, i => fault .value i
  | n + 1, fields, i =>
    if src[i]? = some '"' then
      match readString src i with
      | .error f => .error f
      | .ok (key, j) =>
        let j := passJsonSpace src j
        if src[j]? = some ':' then
          match readValue src n (passJsonSpace src (j + 1)) with
          | .error f => .error f
          | .ok (v, k) =>
            let k := passJsonSpace src k
            let fields := Keyed.put key v fields
            if src[k]? = some '\x7d' then .ok (fields, k + 1)
            else if src[k]? = some ',' then
              readFields src n fields (passJsonSpace src (k + 1))
            else fault .comma k
        else fault .colon j
    else fault .propertyName i
termination_by structural n => n

end

/-- The JSON value that a text is. -/
def read (src : Source) : Except ReadFault Json :=
  if src[0]? = some (Char.ofNat 0xfeff) then fault .byteOrderMark 0
  else
    match readValue src (2 * src.size + 2) (passJsonSpace src 0) with
    | .error f => .error f
    | .ok (v, i) =>
      let i := passJsonSpace src i
      if i = src.size then .ok v else fault .extraData i

end Affordance.Json
