import Affordance.Text.Quoted
import Affordance.Text.Utf8

/-!
# Digests

  * `sha256`: the SHA-256 digest of octets, as its eight words.
  * `digest`: the digest of a text's UTF-8 octets in hexadecimal digits.
-/

namespace Affordance.Text

/-! ## 1. Constants -/

/-- The words that the rounds add. -/
def roundConstants : List UInt32 := [
  0x428a2f98, 0x71374491, 0xb5c0fbcf, 0xe9b5dba5, 0x3956c25b, 0x59f111f1, 0x923f82a4, 0xab1c5ed5,
  0xd807aa98, 0x12835b01, 0x243185be, 0x550c7dc3, 0x72be5d74, 0x80deb1fe, 0x9bdc06a7, 0xc19bf174,
  0xe49b69c1, 0xefbe4786, 0x0fc19dc6, 0x240ca1cc, 0x2de92c6f, 0x4a7484aa, 0x5cb0a9dc, 0x76f988da,
  0x983e5152, 0xa831c66d, 0xb00327c8, 0xbf597fc7, 0xc6e00bf3, 0xd5a79147, 0x06ca6351, 0x14292967,
  0x27b70a85, 0x2e1b2138, 0x4d2c6dfc, 0x53380d13, 0x650a7354, 0x766a0abb, 0x81c2c92e, 0x92722c85,
  0xa2bfe8a1, 0xa81a664b, 0xc24b8b70, 0xc76c51a3, 0xd192e819, 0xd6990624, 0xf40e3585, 0x106aa070,
  0x19a4c116, 0x1e376c08, 0x2748774c, 0x34b0bcb5, 0x391c0cb3, 0x4ed8aa4a, 0x5b9cca4f, 0x682e6ff3,
  0x748f82ee, 0x78a5636f, 0x84c87814, 0x8cc70208, 0x90befffa, 0xa4506ceb, 0xbef9a3f7, 0xc67178f2]

/-- The eight words of a state. -/
structure DigestState where
  a : UInt32
  b : UInt32
  c : UInt32
  d : UInt32
  e : UInt32
  f : UInt32
  g : UInt32
  h : UInt32
  deriving Repr, DecidableEq

/-- The state before the first block. -/
def DigestState.initial : DigestState :=
  ⟨0x6a09e667, 0xbb67ae85, 0x3c6ef372, 0xa54ff53a, 0x510e527f, 0x9b05688c, 0x1f83d9ab, 0x5be0cd19⟩

/-! ## 2. Padding -/

/-- A number in a count of octets, the greatest first. -/
def bigEndian : Nat → Nat → List UInt8
  | 0, _ => []
  | n + 1, v => bigEndian n (v / 256) ++ [UInt8.ofNat v]

/-- Octets filled up to whole blocks: a mark, zeros, and the count of bits. -/
def padOctets (bs : List UInt8) : List UInt8 :=
  bs ++ 0x80 :: List.replicate ((119 - bs.length % 64) % 64) 0 ++ bigEndian 8 (8 * bs.length)

/-- The word that four octets write. -/
def wordOf (bs : List UInt8) : UInt32 := bs.foldl (fun w b => (w <<< 8) ||| b.toUInt32) 0

/-- A list cut into pieces of a size; `n` bounds the pieces. -/
def chunks {α : Type} (size : Nat) : Nat → List α → List (List α)
  | 0, _ => []
  | _, [] => []
  | n + 1, xs => xs.take size :: chunks size n (xs.drop size)

/-! ## 3. Rounds -/

/-- A word rotated to the right. -/
def rotate (w : UInt32) (n : UInt32) : UInt32 := (w >>> n) ||| (w <<< (32 - n))

/-- The next word of a schedule, whose words so far are given latest first. -/
def nextWord (latest : List UInt32) : UInt32 :=
  let at_ (k : Nat) := (latest[k]?).getD 0
  let w15 := at_ 14
  let w2 := at_ 1
  let s0 := rotate w15 7 ^^^ rotate w15 18 ^^^ (w15 >>> 3)
  let s1 := rotate w2 17 ^^^ rotate w2 19 ^^^ (w2 >>> 10)
  at_ 15 + s0 + at_ 6 + s1

/-- A schedule with more words, latest first. -/
def extendWords : Nat → List UInt32 → List UInt32
  | 0, ws => ws
  | n + 1, ws => extendWords n (nextWord ws :: ws)

/-- The words of the rounds of a block. -/
def scheduleOf (block : List UInt8) : List UInt32 :=
  (extendWords 48 ((chunks 4 16 block).map wordOf).reverse).reverse

/-- One round with its constant and its word. -/
def DigestState.round (s : DigestState) (kw : UInt32 × UInt32) : DigestState :=
  let s1 := rotate s.e 6 ^^^ rotate s.e 11 ^^^ rotate s.e 25
  let choice := (s.e &&& s.f) ^^^ ((~~~ s.e) &&& s.g)
  let t1 := s.h + s1 + choice + kw.1 + kw.2
  let s0 := rotate s.a 2 ^^^ rotate s.a 13 ^^^ rotate s.a 22
  let majority := (s.a &&& s.b) ^^^ (s.a &&& s.c) ^^^ (s.b &&& s.c)
  ⟨t1 + (s0 + majority), s.a, s.b, s.c, s.d + t1, s.e, s.f, s.g⟩

/-- The state after a block. -/
def DigestState.compress (s : DigestState) (block : List UInt8) : DigestState :=
  let t := (roundConstants.zip (scheduleOf block)).foldl DigestState.round s
  ⟨s.a + t.a, s.b + t.b, s.c + t.c, s.d + t.d, s.e + t.e, s.f + t.f, s.g + t.g, s.h + t.h⟩

/-! ## 4. Digests -/

/-- The SHA-256 digest of octets. -/
def sha256 (bs : List UInt8) : List UInt32 :=
  let padded := padOctets bs
  let s := (chunks 64 padded.length padded).foldl DigestState.compress .initial
  [s.a, s.b, s.c, s.d, s.e, s.f, s.g, s.h]

/-- The digest of a text in hexadecimal digits. -/
def digest (s : String) : String :=
  String.ofList ((sha256 (encodeUtf8 s)).flatMap fun w => hexFixed 8 w.toNat)

end Affordance.Text
