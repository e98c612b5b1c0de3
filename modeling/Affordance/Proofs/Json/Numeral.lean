import Affordance.Json.Printer
import Affordance.Json.Reader
import Affordance.Proofs.Number.Shortest
import Affordance.Proofs.Text.Ahead

/-!
# Numerals

  * `Numeral`: a number as JSON writes it: a sign, digits without zeros in front, a fraction
    and an exponent. A numeral carries the proof of its form.
  * `readNumber_numeral`: a numeral is read up to its end (`Delimits`): one without fraction
    and exponent as a whole number, any other as a measure.
  * `intNumeral`: a whole number is written as a numeral.
  * `exists_numeral`: so is every measure that is one, with a fraction or an exponent.
-/

namespace Affordance.Json

open Affordance.Number
open Affordance.Text

/-! ## 1. Numerals -/

/-- The character may belong to a number. -/
def isNumberChar (c : Char) : Bool := isDigitAscii c || c == '.' || c == 'e' || c == 'E'

/-- No number goes on in the text. -/
def Delimits (s : List Char) : Prop := ∀ c ∈ s.head?, isNumberChar c = false

/-- A number as JSON writes it. -/
structure Numeral where
  negative : Bool
  whole : List Char
  /-- The digits behind the point; none without a point. -/
  fraction : List Char := []
  /-- The sign and the digits of the exponent. -/
  exponent : Option (Bool × List Char) := none
  whole_digits : ∀ c ∈ whole, isDigitAscii c = true
  /-- Only zero itself begins with a zero. -/
  whole_lead : whole = ['0'] ∨ ∃ c rest, whole = c :: rest ∧ c ≠ '0'
  fraction_digits : ∀ c ∈ fraction, isDigitAscii c = true
  exponent_digits : ∀ e ∈ exponent, e.2 ≠ [] ∧ ∀ c ∈ e.2, isDigitAscii c = true

namespace Numeral

/-- The fraction with its point. -/
def fractionText (n : Numeral) : List Char :=
  if n.fraction.isEmpty then [] else '.' :: n.fraction

/-- The exponent with its letter. -/
def exponentText (n : Numeral) : List Char :=
  match n.exponent with
  | none => []
  | some (negative, ds) => 'e' :: (if negative then '-' else '+') :: ds

/-- What is behind the whole part. -/
def after (n : Numeral) : List Char := n.fractionText ++ n.exponentText

/-- The numeral without its sign. -/
def unsigned (n : Numeral) : List Char := n.whole ++ n.after

/-- The written numeral. -/
def text (n : Numeral) : List Char := if n.negative then '-' :: n.unsigned else n.unsigned

/-- The whole number that a numeral without fraction and exponent is. -/
def toInt (n : Numeral) : Int :=
  if n.negative then -(numberOfDigits 10 n.whole : Int) else numberOfDigits 10 n.whole

end Numeral

/-! ## 2. Reading -/

section Reading

variable {src : Source} {i : Nat} {ds s : List Char}

theorem exponentAt_delimits (h : src.Ahead i s) (hs : Delimits s) : exponentAt src i = none := by
  unfold exponentAt
  cases s with
  | nil => rw [h.none_of_nil]
  | cons c s =>
    have hc := hs c rfl
    simp only [isNumberChar, Bool.or_eq_false_iff] at hc
    rw [h.head]
    dsimp only
    rw [hc.1.2, hc.2]
    rfl

/-- A run of digits is read up to its end. -/
theorem digitsAt_ahead (h : src.Ahead i (ds ++ s)) (hds : ∀ c ∈ ds, isDigitAscii c = true)
    (hs : ∀ c ∈ s.head?, isDigitAscii c = false) : digitsAt src i = ds := by
  rw [digitsAt, h.passWhile hds hs, h.slice]

theorem Delimits.noDigit (h : Delimits s) : ∀ c ∈ s.head?, isDigitAscii c = false := by
  intro c hc
  have := h c hc
  simp only [isNumberChar, Bool.or_eq_false_iff] at this
  exact this.1.1.1

theorem fractionAt_ahead {n : Numeral} (h : src.Ahead i (n.after ++ s)) (hs : Delimits s) :
    fractionAt src i = n.fraction := by
  have hexponent : ∀ c ∈ (n.exponentText ++ s).head?, isDigitAscii c = false ∧ c ≠ '.' := by
    unfold Numeral.exponentText
    cases n.exponent with
    | some e => simp [isDigitAscii]
    | none =>
      intro c hc
      exact ⟨hs.noDigit c hc, fun hpoint => by simpa [hpoint, isNumberChar] using hs c hc⟩
  rw [Numeral.after, Numeral.fractionText, List.append_assoc] at h
  unfold fractionAt
  cases hfraction : n.fraction with
  | nil =>
    rw [hfraction, List.isEmpty_nil, if_pos rfl, List.nil_append] at h
    cases hnext : n.exponentText ++ s with
    | nil =>
      rw [hnext] at h
      rw [h.none_of_nil]
      rfl
    | cons c t =>
      rw [hnext] at h hexponent
      rw [h.head, if_neg (by simpa using (hexponent c rfl).2)]
  | cons d ds =>
    rw [hfraction, List.isEmpty_cons, if_neg Bool.false_ne_true] at h
    rw [h.head, if_pos (beq_self_eq_true _)]
    exact digitsAt_ahead h.tail (hfraction ▸ n.fraction_digits) fun c hc => (hexponent c hc).1

/-- The exponent that is read, with its length. -/
def Numeral.exponentRead (n : Numeral) : Option (Int × Nat) :=
  n.exponent.map fun (negative, ds) =>
    let e : Int := numberOfDigits 10 ds
    (if negative then -e else e, n.exponentText.length)

theorem exponentAt_ahead {n : Numeral} (h : src.Ahead i (n.exponentText ++ s))
    (hs : Delimits s) : exponentAt src i = n.exponentRead := by
  unfold Numeral.exponentRead
  unfold Numeral.exponentText at *
  cases hexponent : n.exponent with
  | none =>
    rw [hexponent] at h
    exact exponentAt_delimits h hs
  | some e =>
    obtain ⟨negative, ds⟩ := e
    obtain ⟨hne, hds⟩ := n.exponent_digits _ hexponent
    rw [hexponent] at h
    have hdigits : digitsAt src (i + 1 + 1) = ds := digitsAt_ahead h.tail.tail hds hs.noDigit
    unfold exponentAt
    rw [h.head]
    dsimp only
    rw [if_pos (by decide), h.tail.head]
    cases negative <;> simp [hdigits, hne] <;> omega

/-- The whole part is read up to the point, the exponent or the end. -/
theorem wholeAt_ahead {n : Numeral} (h : src.Ahead i (n.unsigned ++ s)) (hs : Delimits s) :
    (if src[i]? == some '0' then ['0'] else digitsAt src i) = n.whole := by
  have hafter : ∀ c ∈ (n.after ++ s).head?, isDigitAscii c = false := by
    unfold Numeral.after Numeral.fractionText Numeral.exponentText
    cases n.fraction with
    | cons d ds => simp [isDigitAscii]
    | nil =>
      cases n.exponent with
      | some e => simp [isDigitAscii]
      | none => exact hs.noDigit
  rw [Numeral.unsigned, List.append_assoc] at h
  rcases n.whole_lead with hzero | ⟨c, rest, hwhole, hc⟩
  · rw [hzero] at h ⊢
    rw [h.head, if_pos (beq_self_eq_true _)]
  · have hdigits := digitsAt_ahead h n.whole_digits hafter
    rw [hwhole] at h
    rw [h.head, if_neg (by simpa using hc), hdigits]

/-- The first character of a numeral without its sign is a digit. -/
theorem Numeral.head_unsigned (n : Numeral) :
    ∃ c rest, n.unsigned = c :: rest ∧ isDigitAscii c = true := by
  unfold unsigned
  rcases n.whole_lead with hzero | ⟨c, rest, hwhole, hc⟩
  · exact ⟨'0', n.after, by rw [hzero]; rfl, by decide⟩
  · exact ⟨c, rest ++ n.after, by rw [hwhole]; rfl, n.whole_digits c (hwhole ▸ List.mem_cons_self)⟩

/-- A numeral begins with its sign or with a digit. -/
theorem Numeral.head_text (n : Numeral) :
    ∃ c rest, n.text = c :: rest ∧ (c = '-' ∨ isDigitAscii c = true) := by
  obtain ⟨c, rest, hc, hdigit⟩ := n.head_unsigned
  unfold text
  cases n.negative with
  | true => exact ⟨'-', n.unsigned, rfl, .inl rfl⟩
  | false => exact ⟨c, rest, hc, .inr hdigit⟩

/-- The number that is read where a numeral begins. -/
def Numeral.read (n : Numeral) (i : Nat) : Step Json :=
  if n.fraction.isEmpty && n.exponent.isNone then
    match longNumber? n.whole.length with
    | some l => fault (.longNumber l) i
    | none => .ok (.int n.toInt, i + n.text.length)
  else
    .ok (.num (Measure.ofDecimal n.negative (numberOfDigits 10 (n.whole ++ n.fraction))
      ((n.exponentRead.getD (0, 0)).1 - n.fraction.length)), i + n.text.length)

theorem sign_ahead {n : Numeral} (h : src.Ahead i (n.text ++ s)) :
    (src[i]? == some '-') = n.negative ∧
      src.Ahead (if n.negative then i + 1 else i) (n.unsigned ++ s) := by
  unfold Numeral.text at h
  cases hn : n.negative with
  | true =>
    rw [hn, if_pos rfl] at h
    exact ⟨by rw [h.head]; rfl, h.tail⟩
  | false =>
    rw [hn, if_neg Bool.false_ne_true] at h
    refine ⟨?_, h⟩
    obtain ⟨c, rest, hc, hdigit⟩ := n.head_unsigned
    rw [hc] at h
    rw [h.head]
    simpa using fun e : c = '-' => by simp [e, isDigitAscii] at hdigit

/-- **A numeral is read up to its end.** -/
theorem readNumber_numeral {n : Numeral} (h : src.Ahead i (n.text ++ s)) (hs : Delimits s) :
    readNumber src i = n.read i := by
  obtain ⟨hsign, hunsigned⟩ := sign_ahead h
  have hwhole := wholeAt_ahead hunsigned hs
  rw [Numeral.unsigned, List.append_assoc] at hunsigned
  have hafter := hunsigned.drop
  have hfraction := fractionAt_ahead hafter hs
  rw [Numeral.after, List.append_assoc] at hafter
  have hexponent := exponentAt_ahead hafter.drop hs
  have hne : n.whole.isEmpty = false := by
    rcases n.whole_lead with hzero | ⟨c, rest, hcons, -⟩
    · rw [hzero]
      rfl
    · rw [hcons]
      rfl
  have hpoint : ∀ k, (if n.fraction.isEmpty then k else k + 1 + n.fraction.length) =
      k + n.fractionText.length := by
    intro k
    unfold Numeral.fractionText
    cases n.fraction with
    | nil => rfl
    | cons d ds =>
      simp only [List.isEmpty_cons, Bool.false_eq_true, if_false, List.length_cons]
      omega
  have hend : (if n.negative then i + 1 else i) + n.whole.length + n.fractionText.length +
      n.exponentText.length = i + n.text.length := by
    unfold Numeral.text Numeral.unsigned Numeral.after
    cases n.negative <;> simp <;> omega
  unfold readNumber Numeral.read
  simp only [hsign, hwhole, hne, hfraction, hpoint, hexponent]
  rw [← hend]
  unfold Numeral.exponentRead Numeral.exponentText Numeral.toInt Numeral.fractionText
  cases n.fraction <;> cases n.exponent <;> cases longNumber? n.whole.length <;> simp

end Reading

/-! ## 3. Whole numbers -/

/-- A whole number as it is written. -/
def intNumeral (i : Int) : Numeral where
  negative := i < 0
  whole := Nat.toDigits 10 i.natAbs
  whole_digits := digits_toDigits i.natAbs
  whole_lead := by
    rcases Nat.eq_zero_or_pos i.natAbs with hzero | hpos
    · exact .inl (by rw [hzero, Nat.toDigits_zero])
    · exact .inr (head_toDigits hpos)
  fraction_digits := fun _ h => absurd h List.not_mem_nil
  exponent_digits := fun _ h => absurd h (by simp)

theorem text_intNumeral (i : Int) : (intNumeral i).text = (toString i).toList := by
  have hwhole : (intNumeral i).unsigned = Nat.toDigits 10 i.natAbs := List.append_nil _
  cases i with
  | ofNat n =>
    have hsign : (intNumeral (Int.ofNat n)).negative = false := rfl
    rw [Numeral.text, hwhole, hsign, if_neg Bool.false_ne_true]
    exact Nat.toList_repr.symm
  | negSucc n =>
    have hsign : (intNumeral (Int.negSucc n)).negative = true :=
      decide_eq_true (Int.negSucc_lt_zero n)
    have htext : toString (Int.negSucc n) = "-" ++ (n + 1).repr := rfl
    rw [Numeral.text, hwhole, hsign, if_pos rfl, htext, String.toList_append, Nat.toList_repr]
    rfl

/-- A whole number with few enough digits is read as itself. -/
theorem read_intNumeral {v : Int} (h : v.natAbs < 10 ^ mostDigits) (i : Nat) :
    (intNumeral v).read i = .ok (.int v, i + (toString v).toList.length) := by
  have hdigits : longNumber? (intNumeral v).whole.length = none :=
    longNumber?_eq_none.mpr ((Nat.length_toDigits_le_iff (by decide) (by decide)).mpr h)
  have hvalue : (intNumeral v).toInt = v := by
    have hwhole : numberOfDigits 10 (intNumeral v).whole = v.natAbs :=
      numberOfDigits_toDigits v.natAbs
    rw [Numeral.toInt, hwhole]
    have hnegative : (intNumeral v).negative = decide (v < 0) := rfl
    by_cases hsign : v < 0
    · rw [hnegative, decide_eq_true hsign, if_pos rfl]
      omega
    · rw [hnegative, decide_eq_false hsign, if_neg Bool.false_ne_true]
      omega
  have hplain : ((intNumeral v).fraction.isEmpty && (intNumeral v).exponent.isNone) = true := rfl
  rw [Numeral.read, hplain, if_pos rfl, hdigits, hvalue, text_intNumeral]

/-! ## 4. Measures -/

/-- The numeral is read as a measure. -/
def Numeral.IsMeasure (n : Numeral) : Prop := (n.fraction.isEmpty && n.exponent.isNone) = false

theorem digits_padded (width n : Nat) :
    Measure.padded width n ≠ [] ∧ ∀ c ∈ Measure.padded width n, isDigitAscii c = true := by
  refine ⟨fun hnil => Nat.toDigits_ne_nil (List.append_eq_nil_iff.mp hnil).2, fun c hc => ?_⟩
  rcases List.mem_append.mp hc with hc | hc
  · rw [List.eq_of_mem_replicate hc]
    decide
  · exact digits_toDigits n c hc

theorem digits_replicate_zero (k : Nat) : ∀ c ∈ List.replicate k '0', isDigitAscii c = true := by
  intro c hc
  rw [List.eq_of_mem_replicate hc]
  decide

/-- Digits on both sides of a point are a numeral. -/
theorem exists_pointed (negative : Bool) {whole fraction : List Char}
    (hwhole : ∀ c ∈ whole, isDigitAscii c = true)
    (hlead : whole = ['0'] ∨ ∃ c rest, whole = c :: rest ∧ c ≠ '0')
    (hsome : fraction ≠ []) (hfraction : ∀ c ∈ fraction, isDigitAscii c = true) :
    ∃ n : Numeral, n.negative = negative ∧ n.unsigned = whole ++ '.' :: fraction ∧
      n.IsMeasure := by
  let n : Numeral := {
    negative := negative
    whole := whole
    fraction := fraction
    whole_digits := hwhole
    whole_lead := hlead
    fraction_digits := hfraction
    exponent_digits := fun _ h => absurd h (by simp) }
  have htext : n.fractionText = '.' :: fraction := if_neg (by simpa [n] using hsome)
  refine ⟨n, rfl, ?_, by simpa [Numeral.IsMeasure, n] using hsome⟩
  rw [Numeral.unsigned, Numeral.after, htext]
  exact congrArg (whole ++ ·) (List.append_nil _)

/-- **Digits with a point among them, or with a power of ten behind them, are a numeral.** -/
theorem exists_placePoint {ds : List Char} (h : Measure.Leads ds) (point : Int)
    (negative : Bool) : ∃ n : Numeral, n.negative = negative ∧
      n.unsigned = Measure.placePoint ds point ∧ n.IsMeasure := by
  obtain ⟨hdigits, c, rest, rfl, hc⟩ := h
  unfold Measure.placePoint
  split
  · -- a power of ten: one digit in front of the point
    let n : Numeral := {
      negative := negative
      whole := [c]
      fraction := rest
      exponent := some (decide (point - 1 < 0), Measure.padded 2 (point - 1).natAbs)
      whole_digits := by simpa using hdigits c List.mem_cons_self
      whole_lead := .inr ⟨c, [], rfl, hc⟩
      fraction_digits := fun d hd => hdigits d (List.mem_cons_of_mem c hd)
      exponent_digits := by
        rintro e ⟨rfl⟩
        exact digits_padded 2 _ }
    refine ⟨n, rfl, ?_, by simp [Numeral.IsMeasure, n]⟩
    cases rest with
    | nil => simp [n, Numeral.unsigned, Numeral.after, Numeral.fractionText, Numeral.exponentText]
    | cons d rest =>
      simp [n, Numeral.unsigned, Numeral.after, Numeral.fractionText, Numeral.exponentText]
  split
  · -- zeros behind the point, before the digits
    refine exists_pointed negative (List.all_eq_true.mp rfl) (.inl rfl) (by simp) fun d hd => ?_
    rcases List.mem_append.mp hd with hd | hd
    · exact digits_replicate_zero _ d hd
    · exact hdigits d hd
  split
  · -- zeros between the digits and the point
    refine exists_pointed negative (fun d hd => ?_) (.inr ⟨c, _, rfl, hc⟩)
      (List.cons_ne_nil '0' []) (List.all_eq_true.mp rfl)
    rcases List.mem_append.mp hd with hd | hd
    · exact hdigits d hd
    · exact digits_replicate_zero _ d hd
  · -- the point among the digits
    rename_i hfar hlow hhigh
    obtain ⟨k, hk⟩ : ∃ k, point.toNat = k + 1 := ⟨point.toNat - 1, by omega⟩
    have hsome : (c :: rest).drop point.toNat ≠ [] := by
      intro hnil
      have := List.drop_eq_nil_iff.mp hnil
      omega
    exact exists_pointed negative (fun d hd => hdigits d (List.mem_of_mem_take hd))
      (.inr ⟨c, rest.take k, by rw [hk, List.take_succ_cons], hc⟩) hsome
      fun d hd => hdigits d (List.mem_of_mem_drop hd)

/-- A measure that is a number is written as a numeral with a fraction or an exponent. -/
theorem exists_numeral {m : Measure} (h : m ≠ .undefined) (h' : ∀ negative, m ≠ .infinity negative) :
    ∃ n : Numeral, n.text = renderMeasure m ∧ n.IsMeasure := by
  have hzero : ∀ negative, ∃ n : Numeral, n.negative = negative ∧ n.unsigned = "0.0".toList ∧
      n.IsMeasure := fun negative =>
    exists_pointed negative (List.all_eq_true.mp rfl) (.inl rfl) (List.cons_ne_nil '0' [])
      (List.all_eq_true.mp rfl)
  cases m with
  | undefined => exact absurd rfl h
  | infinity negative => exact absurd rfl (h' negative)
  | minusZero =>
    obtain ⟨n, hsign, hunsigned, hmeasure⟩ := hzero true
    refine ⟨n, ?_, hmeasure⟩
    rw [Numeral.text, hsign, if_pos rfl, hunsigned]
    rfl
  | value q =>
    by_cases hq : q = 0
    · obtain ⟨n, hsign, hunsigned, hmeasure⟩ := hzero false
      refine ⟨n, ?_, hmeasure⟩
      rw [Numeral.text, hsign, if_neg Bool.false_ne_true, hunsigned, hq]
      rfl
    · have habs : (if q.num < 0 then -q else q) ≠ 0 := by
        split
        · exact fun hneg => hq (by rw [← Rat.neg_neg q, hneg, Rat.neg_zero])
        · exact hq
      obtain ⟨ds, point, hlead, hshortest⟩ := Measure.exists_leads habs
      obtain ⟨n, hsign, hunsigned, hmeasure⟩ := exists_placePoint hlead point (decide (q.num < 0))
      refine ⟨n, ?_, hmeasure⟩
      rw [Numeral.text, hsign, hunsigned, ← hshortest]
      show _ = (Measure.shortest (.value q)).toList
      rw [Measure.shortest, if_neg hq, Measure.signed, String.toList_ofList]

end Affordance.Json
