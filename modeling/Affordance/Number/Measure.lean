import Affordance.Text.Basic

/-!
# Measured numbers

  * A `Measure` is a number of 53 binary digits as settings, scores and
    coordinates hold it: an exact rational, a negative zero, an infinity or no
    number at all.
  * `nearest` rounds a rational to such a number, a tie going to the even
    neighbour.
  * `Measure.read?` reads a number as settings write it, `Measure.readField?` as a field of
    a JSON value does.
  * `Measure.fixed` writes a given count of decimal places, `Measure.shortest` the
    fewest digits that read back.
-/

namespace Affordance.Number

open Affordance.Text

/-! ## 1. Rounding -/

/-- The quotient rounded to a whole number; a half goes to the even neighbour. -/
def roundQuotient (n d : Nat) : Nat :=
  let q := n / d
  let r := n % d
  if 2 * r > d || (2 * r == d && q % 2 == 1) then q + 1 else q

/-- Numerator and denominator of a quotient divided by a power of two. -/
def shiftDown (n d : Nat) (e : Int) : Nat × Nat :=
  if 0 ≤ e then (n, d * Nat.pow 2 e.toNat) else (n * Nat.pow 2 (-e).toNat, d)

/-- The largest power of two, as an exponent, that is not above the quotient. -/
def floorLog2 (n d : Nat) : Int :=
  let l : Int := (Nat.log2 n : Int) - (Nat.log2 d : Int)
  let (a, b) := shiftDown n d l
  if b ≤ a then l else l - 1

/-- The exponent of the last of 53 binary digits of a quotient, not below the smallest
    one there is. -/
def lastExponent (n d : Nat) : Int :=
  let e := floorLog2 n d - 52
  if e ≤ -1074 then -1074 else e

/-- The nearest number of 53 binary digits, not below the smallest positive step. -/
def nearestPositive (n d : Nat) : Rat :=
  let e := lastExponent n d
  let (a, b) := shiftDown n d e
  let m := roundQuotient a b
  if 0 ≤ e then mkRat (m * Nat.pow 2 e.toNat) 1 else mkRat m (Nat.pow 2 (-e).toNat)

/-- The nearest number of 53 binary digits. -/
def nearest (q : Rat) : Rat :=
  if q.num = 0 then 0
  else if q.num < 0 then -(nearestPositive q.num.natAbs q.den)
  else nearestPositive q.num.natAbs q.den

/-! ## 2. Measures -/

/-- A number of 53 binary digits. -/
inductive Measure where
  /-- An exact value. -/
  | value (q : Rat)
  /-- Zero with a negative sign. -/
  | minusZero
  /-- Beyond all values. -/
  | infinity (negative : Bool)
  /-- No number. -/
  | undefined
  deriving DecidableEq

namespace Measure

/-- The exact value, zero where there is none. -/
def toRat : Measure → Rat
  | value q => q
  | _ => 0

/-- The measure nearest to a rational. -/
def ofRat (q : Rat) : Measure :=
  let v := nearest q
  if Nat.pow 2 1024 ≤ v.num.natAbs / v.den then infinity (q.num < 0) else value v

/-- The measure of a whole number. -/
def ofInt (i : Int) : Measure := ofRat i

/-- The measure nearest to `digits` times ten to the power `exponent`. -/
def ofDecimal (negative : Bool) (digits : Nat) (exponent : Int) : Measure :=
  let zero := if negative then minusZero else value 0
  if digits = 0 then zero
  else if 400 < exponent then infinity negative
  else if exponent + ((Nat.log2 digits : Int) / 3 + 1) < -400 then zero
  else
    let q := if 0 ≤ exponent then mkRat (digits * Nat.pow 10 exponent.toNat) 1
      else mkRat digits (Nat.pow 10 (-exponent).toNat)
    match ofRat (if negative then -q else q) with
    | value v => if v = 0 then zero else value v
    | m => m

/-- The first number is smaller; nothing is smaller or larger than no number. -/
def lt : Measure → Measure → Bool
  | undefined, _ => false
  | _, undefined => false
  | infinity a, infinity b => a && !b
  | infinity a, _ => a
  | _, infinity b => !b
  | a, b => a.toRat < b.toRat

@[simp] theorem lt_value (p q : Rat) : (value p).lt (value q) = decide (p < q) := rfl

/-! ## 3. Reading -/

/-- The value of a decimal digit of any script. -/
def digitOf (c : Char) : Option Nat :=
  if c.toNat < 128 then (if isDigitAscii c then some (c.toNat - 48) else none)
  else (digitRanges.find? fun r => r.1 ≤ c.toNat && c.toNat ≤ r.2).map
    fun r => (c.toNat - r.1) % 10

/-- Digits with single underscores between them: their values and the rest. -/
def readDigits : Bool → List Char → List Nat × List Char
  | _, [] => ([], [])
  | afterDigit, c :: s =>
    match digitOf c with
    | some d => let (ds, rest) := readDigits true s; (d :: ds, rest)
    | none =>
      match s with
      | d :: _ =>
        if c == '_' && afterDigit && (digitOf d).isSome then readDigits false s else ([], c :: s)
      | [] => ([], [c])

/-- The number that digits write. -/
def ofDigits (ds : List Nat) : Nat := ds.foldl (fun n d => n * 10 + d) 0

/-- A sign and the rest. -/
def readSign : List Char → Bool × List Char
  | '-' :: s => (true, s)
  | '+' :: s => (false, s)
  | s => (false, s)

/-- An exponent that ends the text; a text without one has exponent zero. -/
def readExponent : List Char → Option Int
  | [] => some 0
  | c :: s =>
    if c == 'e' || c == 'E' then
      let (negative, s) := readSign s
      let (ds, rest) := readDigits false s
      if ds.isEmpty || !rest.isEmpty then none
      else some (if negative then -(ofDigits ds : Int) else ofDigits ds)
    else none

/-- An unsigned decimal number that takes the whole text. -/
def readDecimal (negative : Bool) (s : List Char) : Option Measure :=
  let (whole, rest) := readDigits false s
  let (frac, rest) := match rest with
    | '.' :: r => readDigits false r
    | r => ([], r)
  if whole.isEmpty && frac.isEmpty then none
  else (readExponent rest).map fun e =>
    ofDecimal negative (ofDigits (whole ++ frac)) (e - frac.length)

/-- Letters in their small form, those above ASCII as they are. -/
def small (s : List Char) : List Char :=
  s.map fun c => if isUpperAscii c then Char.ofNat (c.toNat + 32) else c

/-- A number by its name: an infinity, or no number. -/
def readName (negative : Bool) (s : List Char) : Option Measure :=
  if small s == "inf".toList || small s == "infinity".toList then some (infinity negative)
  else if small s == "nan".toList then some undefined
  else none

/-- A number as settings write it: white space around it, a sign, single underscores
    between digits, and the names of the infinity and of no number are allowed. -/
def read? (s : List Char) : Option Measure :=
  let (negative, s) := readSign (strip s)
  readName negative s <|> readDecimal negative s

/-- A number in ASCII digits alone, with its sign or its name. -/
def readPlain? (s : List Char) : Option Measure :=
  let (negative, s) := readSign s
  readName negative s <|>
    if s.all fun c => c.toNat < 128 && c ≠ '_' then readDecimal negative s else none

/-- White space around a field: the separators of files, groups, records and units are
    none. -/
def isFieldSpace (c : Char) : Bool := isSpace c && !(0x1c ≤ c.toNat && c.toNat ≤ 0x1f)

/-- A text without its underscores, if it has any and each has a neighbour on both sides
    that is none. -/
def withoutUnderscores (s : List Char) : Option (List Char) :=
  if s.contains '_' && s.head? ≠ some '_' && s.getLast? ≠ some '_' && !isInfix ['_', '_'] s
  then some (s.filter (· ≠ '_')) else none

/-- A number as a field of a JSON value writes it: with white space around it, or with
    single underscores anywhere inside. -/
def readField? (s : List Char) : Option Measure :=
  readPlain? (stripBy isFieldSpace s) <|> (withoutUnderscores s).bind readPlain?

/-! ## 4. Writing -/

/-- The decimal digits of a number. -/
def decimal (n : Nat) : List Char := Nat.toDigits 10 n

/-- A number below `10 ^ width` with exactly `width` digits. -/
def padded (width n : Nat) : List Char :=
  let ds := decimal n
  List.replicate (width - ds.length) '0' ++ ds

/-- A text with a sign in front. -/
def signed (negative : Bool) (s : List Char) : String :=
  String.ofList (if negative then '-' :: s else s)

/-- A non-negative quotient with a fixed count of decimal places. -/
def fixedPositive (places n d : Nat) : List Char :=
  let scaled := roundQuotient (n * Nat.pow 10 places) d
  if places = 0 then decimal scaled
  else decimal (scaled / Nat.pow 10 places) ++ '.' :: padded places (scaled % Nat.pow 10 places)

/-- A rational with a fixed count of decimal places; the sign stays even where all
    digits are zero. -/
def fixedRat (places : Nat) (q : Rat) : String :=
  signed (q.num < 0) (fixedPositive places q.num.natAbs q.den)

/-- The number with a fixed count of decimal places. -/
def fixed (places : Nat) : Measure → String
  | value q => fixedRat places q
  | minusZero => signed true (fixedPositive places 0 1)
  | infinity negative => if negative then "-inf" else "inf"
  | undefined => "nan"

/-- A power of ten. -/
def powerOfTen (e : Int) : Rat :=
  if 0 ≤ e then mkRat (Nat.pow 10 e.toNat) 1 else mkRat 1 (Nat.pow 10 (-e).toNat)

/-- The least power of ten, as an exponent, above the quotient, found from a guess
    that is at most `n` too low. -/
def ceilLog10 (q : Rat) : Nat → Int → Int
  | 0, k => k
  | n + 1, k =>
    let bound := powerOfTen k
    if q < bound then k else ceilLog10 q n (k + 1)

/-- A rational times a power of ten. -/
def timesTen (q : Rat) (e : Int) : Rat := q * powerOfTen e

/-- Of the two neighbours on the decimal grid of `10 ^ e` the nearer one that reads back as
    the value; where both are as near, the even one. -/
def gridHit (q : Rat) (e : Int) : Option Nat :=
  let scaled := timesTen q (-e)
  let lo := scaled.floor.toNat
  let okBelow := nearest (timesTen (mkRat lo 1) e) == q
  let okAbove := nearest (timesTen (mkRat (lo + 1) 1) e) == q
  if okBelow && okAbove then some (roundQuotient scaled.num.natAbs scaled.den)
  else if okBelow then some lo
  else if okAbove then some (lo + 1)
  else none

/-- The fewest digits that read back as a positive value whose decimal exponent is
    `k`, tried from `17 - n` digits on: the digits and the exponent of the last one. No value
    has no digits. -/
def fewestDigits (q : Rat) (k : Int) : Nat → Nat × Int
  | 0 => (max 1 (timesTen q (17 - k)).floor.toNat, k - 17)
  | n + 1 =>
    let e := k - (17 - n : Nat)
    match gridHit q e with
    | some m => (m, e)
    | none => fewestDigits q k n

/-- Digits without zeros at their end, and the exponent of the last one. -/
def dropZeros (ds : List Char) (e : Int) : List Char × Int :=
  let kept := stripEndBy (· == '0') ds
  (kept, e + ((ds.length - kept.length : Nat) : Int))

/-- Digits with the point behind the first `point` of them, or as a power of ten where
    the point lies far off. -/
def placePoint (ds : List Char) (point : Int) : List Char :=
  if point ≤ -4 || 16 < point then
    let e := point - 1
    let mantissa := match ds with
      | [d] => [d]
      | d :: rest => d :: '.' :: rest
      | [] => []
    let sign := if e < 0 then '-' else '+'
    mantissa ++ 'e' :: sign :: padded 2 e.natAbs
  else if point ≤ 0 then '0' :: '.' :: List.replicate (-point).toNat '0' ++ ds
  else if (ds.length : Int) ≤ point then
    ds ++ List.replicate (point.toNat - ds.length) '0' ++ ['.', '0']
  else ds.take point.toNat ++ '.' :: ds.drop point.toNat

/-- The fewest digits that read back as a positive value. -/
def shortestPositive (q : Rat) : List Char :=
  let guess : Int := floorLog2 q.num.natAbs q.den * 3 / 10 - 1
  let k := ceilLog10 q 400 guess
  let (m, e) := fewestDigits q k 17
  let (ds, e) := dropZeros (decimal m) e
  placePoint ds (e + ds.length)

/-- The number with the fewest digits that read back. -/
def shortest : Measure → String
  | value q =>
    if q = 0 then "0.0"
    else signed (q.num < 0) (shortestPositive (if q.num < 0 then -q else q))
  | minusZero => "-0.0"
  | infinity negative => if negative then "-inf" else "inf"
  | undefined => "nan"

end Measure

end Affordance.Number
