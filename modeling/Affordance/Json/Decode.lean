import Affordance.Json.Basic
import Affordance.Text.Utf8

/-!
# Decoding JSON values

  * `Decoded`: the value that a JSON value stands for, or every misfit in it, in the
    order of the expected fields.
  * A decoder is lenient where nothing can be misread: a number may be written as a
    whole number, a truth value or a text, a truth value as a word or as zero or one.
    A whole number beyond all measures and one of more than 63 binary digits do not fit.
    A text is a text only.  One with halves of surrogate pairs is a text, but it is
    never read as something else.
-/

namespace Affordance.Json

open Affordance.Number
open Affordance.Text

/-! ## 1. Misfits -/

/-- A part of a JSON value that does not fit, with its place. -/
structure Misfit where
  place : List String
  message : String
  deriving Repr, DecidableEq

/-- The place as one text. -/
def Misfit.at_ (m : Misfit) : String := join "." m.place

/-- A decoded value, or the misfits that were found. -/
inductive Decoded (α : Type) where
  | fits (a : α)
  | misfits (first : Misfit) (more : List Misfit)

namespace Decoded

/-- A single misfit at the place itself. -/
def misfit {α : Type} (message : String) : Decoded α := misfits ⟨[], message⟩ []

/-- The decoded value changed. -/
def map {α β : Type} (f : α → β) : Decoded α → Decoded β
  | fits a => fits (f a)
  | misfits m ms => misfits m ms

/-- Two parts together; the misfits of both are kept. -/
def apply {α β : Type} : Decoded (α → β) → Decoded α → Decoded β
  | fits f, x => x.map f
  | misfits m ms, fits _ => misfits m ms
  | misfits m ms, misfits m' ms' => misfits m (ms ++ m' :: ms')

instance : Applicative Decoded where
  pure := fits
  seq f x := apply f (x ())

/-- The misfits moved below a key or a position. -/
def below {α : Type} (key : String) : Decoded α → Decoded α
  | fits a => fits a
  | misfits m ms =>
    let deeper (m : Misfit) : Misfit := { m with place := key :: m.place }
    misfits (deeper m) (ms.map deeper)

/-- The value, or the first misfit. -/
def firstMisfit {α : Type} : Decoded α → Except Misfit α
  | fits a => .ok a
  | misfits m _ => .error m

/-- The value, or all misfits. -/
def allMisfits {α : Type} : Decoded α → Except (List Misfit) α
  | fits a => .ok a
  | misfits m ms => .error (m :: ms)

end Decoded

/-! ## 2. Plain values -/

/-- A text. -/
def decodeText : Json → Decoded String
  | str s => .fits s
  | _ => .misfit "Input should be a valid string"

/-- A text or null. -/
def decodeText? : Json → Decoded (Option String)
  | null => .fits none
  | v => (decodeText v).map some

/-- A text read as something else. -/
def readText {α : Type} (s : String) (read : String → Decoded α) : Decoded α :=
  if (halfFault? s).isSome then
    .misfit "Input should be a valid string, unable to parse raw data as a unicode string"
  else read s

/-- The wording for a value that is no number. -/
def notNumber : String := "Input should be a valid number"

/-- A number. -/
def decodeMeasure : Json → Decoded Measure
  | int i =>
    match Measure.ofInt i with
    | .infinity _ => .misfit notNumber
    | m => .fits m
  | num m => .fits m
  | bool b => .fits (.value (if b then 1 else 0))
  | str s => readText s fun s =>
    match Measure.readField? s.toList with
    | some m => .fits m
    | none => .misfit (notNumber ++ ", unable to parse string as a number")
  | _ => .misfit notNumber

/-- Words for a truth value. -/
def truthWords : List (String × Bool) := [
  ("0", false), ("f", false), ("n", false), ("no", false), ("off", false), ("false", false),
  ("1", true), ("t", true), ("y", true), ("on", true), ("yes", true), ("true", true)]

/-- A word in small letters; letters above ASCII stay as they are. -/
def smallLetters (s : String) : String :=
  String.ofList (s.toList.map fun c => if isUpperAscii c then Char.ofNat (c.toNat + 32) else c)

/-- The wording for a value that is no truth value. -/
def notTruth : String := "Input should be a valid boolean"

/-- The wording for a value that is no truth value but might have been one. -/
def unclearTruth : String := notTruth ++ ", unable to interpret input"

/-- The first whole number that is too large for 64 binary digits with a sign. -/
def wordLimit : Int := 9223372036854775808

/-- The truth value of a whole number; one that 64 binary digits do not hold is of another
    kind. -/
def truthOfInt (i : Int) : Decoded Bool :=
  if i = 0 then .fits false
  else if i = 1 then .fits true
  else if -wordLimit ≤ i ∧ i < wordLimit then .misfit unclearTruth
  else .misfit notTruth

/-- The truth value of a measure without a fraction. -/
def truthOfMeasure : Measure → Decoded Bool
  | .value q => if q.den = 1 ∧ q.num ≠ -wordLimit then truthOfInt q.num else .misfit notTruth
  | .minusZero => .fits false
  | _ => .misfit notTruth

/-- A truth value. -/
def decodeTruth : Json → Decoded Bool
  | bool b => .fits b
  | int i => truthOfInt i
  | num m => truthOfMeasure m
  | str s => readText s fun s =>
    match truthWords.lookup (smallLetters s) with
    | some b => .fits b
    | none => .misfit unclearTruth
  | _ => .misfit notTruth

/-- Choices as a message lists them. -/
def choiceList : List String → String
  | [] => ""
  | [a] => "'" ++ a ++ "'"
  | [a, b] => "'" ++ a ++ "' or '" ++ b ++ "'"
  | a :: rest => "'" ++ a ++ "', " ++ choiceList rest

/-- One of some words. -/
def decodeChoice {α : Type} (choices : List (String × α)) (v : Json) : Decoded α :=
  match v with
  | str s => readText s fun s =>
    match choices.lookup s with
    | some a => .fits a
    | none => .misfit ("Input should be " ++ choiceList (choices.map (·.1)))
  | _ => .misfit ("Input should be " ++ choiceList (choices.map (·.1)))

/-! ## 3. Lists, maps and records -/

/-- The items of a list from a position on. -/
def decodeItems {α : Type} (item : Json → Decoded α) : Nat → List Json → Decoded (List α)
  | _, [] => .fits []
  | i, v :: rest =>
    ((item v).below (toString i)).map List.cons |>.apply (decodeItems item (i + 1) rest)

/-- A list. -/
def decodeList {α : Type} (item : Json → Decoded α) : Json → Decoded (List α)
  | arr vs => decodeItems item 0 vs
  | _ => .misfit "Input should be a valid list"

/-- The entries of a map of texts. -/
def decodeEntries : List (String × Json) → Decoded (List (String × String))
  | [] => .fits []
  | (k, v) :: rest =>
    (((decodeText v).below k).map fun s es => (k, s) :: es).apply (decodeEntries rest)

/-- A map of texts. -/
def decodeTextMap : Json → Decoded (List (String × String))
  | obj fields => decodeEntries fields
  | _ => .misfit "Input should be a valid dictionary"

/-- A record, which has a name. -/
def decodeRecord {α : Type} (name : String) (record : List (String × Json) → Decoded α) :
    Json → Decoded α
  | obj fields => record fields
  | _ => .misfit ("Input should be a valid dictionary or instance of " ++ name)

/-- A field under the first of its keys that is there; a field that is missing has its
    default. -/
def fieldOr {α : Type} (keys : List String) (d : α) (value : Json → Decoded α)
    (fields : List (String × Json)) : Decoded α :=
  match keys.findSome? fun k => (fields.lookup k).map (k, ·) with
  | some (k, v) => (value v).below k
  | none => .fits d

/-- A field that has to be there. -/
def field {α : Type} (key : String) (value : Json → Decoded α) (fields : List (String × Json)) :
    Decoded α :=
  match fields.lookup key with
  | some v => (value v).below key
  | none => .misfits ⟨[key], "Field required"⟩ []

end Affordance.Json
