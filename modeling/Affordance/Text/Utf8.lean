import Affordance.Text.Basic
import Affordance.Text.Quoted

/-!
# UTF-8

  * `decodeUtf8`: the characters that octets write, or the first sequence that is
    malformed: an octet that cannot begin a character, a sequence that breaks off, or
    one that the text's end cuts short.
  * `encodeUtf8`: the octets of a text.
  * `halfFault?`: why a text has no octets: a half of a surrogate pair in it has none.
    In a path some halves stand for an octet each (`pathFault?`).
-/

namespace Affordance.Text

/-! ## 1. Faults -/

/-- Why octets are no text. -/
inductive OctetFaultKind where
  | start
  | continuation
  | truncated
  deriving Repr, DecidableEq

/-- The first malformed sequence of octets. -/
structure OctetFault where
  kind : OctetFaultKind
  position : Nat
  /-- How many octets belong to the sequence. -/
  count : Nat
  octet : Nat
  deriving Repr, DecidableEq

/-- The wording of a fault. -/
def OctetFaultKind.message : OctetFaultKind → String
  | start => "invalid start byte"
  | continuation => "invalid continuation byte"
  | truncated => "unexpected end of data"

/-- The wording of a fault with its place. -/
def OctetFault.message (f : OctetFault) : String :=
  let place :=
    if f.count = 1 then
      "byte 0x" ++ String.ofList (hexFixed 2 f.octet) ++ " in position " ++ toString f.position
    else
      "bytes in position " ++ toString f.position ++ "-" ++ toString (f.position + f.count - 1)
  "'utf-8' codec can't decode " ++ place ++ ": " ++ f.kind.message

/-! ## 2. Decoding -/

/-- The form of a sequence: how many octets follow the first one, and the least and the
    greatest second octet. -/
structure SequenceForm where
  more : Nat
  least : Nat
  greatest : Nat

/-- The form that a first octet announces. -/
def formOf (b : Nat) : Option SequenceForm :=
  if b < 0xc2 then none
  else if b < 0xe0 then some ⟨1, 0x80, 0xbf⟩
  else if b = 0xe0 then some ⟨2, 0xa0, 0xbf⟩
  else if b = 0xed then some ⟨2, 0x80, 0x9f⟩
  else if b < 0xf0 then some ⟨2, 0x80, 0xbf⟩
  else if b = 0xf0 then some ⟨3, 0x90, 0xbf⟩
  else if b < 0xf4 then some ⟨3, 0x80, 0xbf⟩
  else if b = 0xf4 then some ⟨3, 0x80, 0x8f⟩
  else none

/-- How many of the octets continue a sequence of the form. -/
def continuing (form : SequenceForm) (rest : List UInt8) : Nat :=
  match rest with
  | [] => 0
  | b :: rest =>
    if form.least ≤ b.toNat && b.toNat ≤ form.greatest then
      1 + ((rest.take (form.more - 1)).takeWhile fun c =>
        0x80 ≤ c.toNat && c.toNat ≤ 0xbf).length
    else 0

/-- The code point that a first octet and the octets after it write. -/
def codePoint (form : SequenceForm) (b : Nat) (rest : List UInt8) : Nat :=
  rest.foldl (fun n c => n * 64 + c.toNat % 64) (b % Nat.pow 2 (6 - form.more))

/-- The characters of octets from a position on, where `skip` octets belong to the
    character before. -/
def decodeFrom : Nat → Nat → List UInt8 → Except OctetFault (List Char)
  | _, _, [] => .ok []
  | skip + 1, i, _ :: rest => decodeFrom skip (i + 1) rest
  | 0, i, b :: rest =>
    if b.toNat < 0x80 then (decodeFrom 0 (i + 1) rest).map (Char.ofNat b.toNat :: ·)
    else
      match formOf b.toNat with
      | none => .error ⟨.start, i, 1, b.toNat⟩
      | some form =>
        let n := continuing form rest
        if n = form.more then
          (decodeFrom n (i + 1) rest).map (Char.ofNat (codePoint form b.toNat (rest.take n)) :: ·)
        else if n = rest.length then .error ⟨.truncated, i, n + 1, b.toNat⟩
        else .error ⟨.continuation, i, n + 1, b.toNat⟩

/-- The characters that octets write. -/
def decodeUtf8 (bs : List UInt8) : Except OctetFault (List Char) := decodeFrom 0 0 bs

/-! ## 3. Encoding -/

/-- The octets of a text. -/
def encodeUtf8 (s : String) : List UInt8 := s.toUTF8.data.toList

/-- The halves of surrogate pairs for which a text has no octets. -/
structure HalfFault where
  /-- The first of them. -/
  half : Nat
  position : Nat
  /-- How many halves follow one another. -/
  count : Nat
  deriving Repr, DecidableEq

/-- The wording of a fault with its place. -/
def HalfFault.message (f : HalfFault) : String :=
  let place :=
    if f.count = 1 then
      "character '\\u" ++ String.ofList (hexFixed 4 f.half) ++ "' in position " ++
        toString f.position
    else
      "characters in position " ++ toString f.position ++ "-" ++
        toString (f.position + f.count - 1)
  "'utf-8' codec can't encode " ++ place ++ ": surrogates not allowed"

/-- The first halves from a position on, those passed over that have octets. -/
def halfFaultFrom (hasOctets : Nat → Bool) : Nat → List Char → Option HalfFault
  | _, [] => none
  | i, c :: rest =>
    match half? c with
    | some h =>
      if hasOctets h then halfFaultFrom hasOctets (i + 1) rest
      else some ⟨h, i, 1 + (rest.takeWhile fun d => (half? d).isSome).length⟩
    | none => halfFaultFrom hasOctets (i + 1) rest

/-- Why a text has no octets: it holds a half, as `half?` tells halves. -/
def halfFault? (s : String) : Option HalfFault := halfFaultFrom (fun _ => false) 0 s.toList

/-- Why a path has no octets: a half stands for an octet if that begins no text. -/
def pathFault? (s : String) : Option HalfFault :=
  halfFaultFrom (fun h => 0xdc80 ≤ h && h ≤ 0xdcff) 0 s.toList

theorem halfFaultFrom_eq_none {i : Nat} {s : List Char} :
    halfFaultFrom (fun _ => false) i s = none ↔ ∀ c ∈ s, half? c = none := by
  induction s generalizing i with
  | nil => simp [halfFaultFrom]
  | cons c rest ih => cases h : half? c <;> simp [halfFaultFrom, h, ih]

/-- A text has octets iff no character of it is read as a half; so one without characters of the
    last plane always has (`half?_eq_none`). -/
theorem halfFault?_eq_none {s : String} :
    halfFault? s = none ↔ ∀ c ∈ s.toList, half? c = none :=
  halfFaultFrom_eq_none

end Affordance.Text
