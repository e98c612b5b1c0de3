import Mathlib.Data.List.TakeWhile
import Affordance.Text.Utf8

/-!
# Octets of texts

  * `SequenceForm.Fits`: octets that continue a sequence of a form. `decodeFrom_sequence` reads
    a first octet with those that fit it as one character.
  * `decodeFrom_char`: the octets of a character are one sequence, whatever follows.
  * **`decodeUtf8_encodeUtf8`**: the octets of a text read back as the text.
  * `universalLines_eq`: a text without carriage returns has no line breaks to change.
-/

namespace Affordance.Text

/-! ## 1. Sequences -/

/-- The octets continue a sequence of the form. -/
inductive SequenceForm.Fits (form : SequenceForm) : List UInt8 → Prop
  | intro {second : UInt8} {more : List UInt8} (count : form.more = more.length + 1)
      (least : form.least ≤ second.toNat) (greatest : second.toNat ≤ form.greatest)
      (later : ∀ c ∈ more, 0x80 ≤ c.toNat ∧ c.toNat ≤ 0xbf) : form.Fits (second :: more)

theorem continuing_of_fits {form : SequenceForm} {tail : List UInt8} (h : form.Fits tail)
    (rest : List UInt8) : continuing form (tail ++ rest) = form.more ∧ tail.length = form.more := by
  obtain ⟨count, least, greatest, later⟩ := h
  rename_i second more
  have htake : (more ++ rest).take (form.more - 1) = more := by
    rw [count, Nat.add_sub_cancel, List.take_left]
  have hall : more.takeWhile (fun c => 0x80 ≤ c.toNat && c.toNat ≤ 0xbf) = more :=
    List.takeWhile_eq_self_iff.mpr fun c hc => by simpa using later c hc
  refine ⟨?_, by rw [count, List.length_cons]⟩
  rw [List.cons_append, continuing, if_pos (by simp [least, greatest]), htake, hall, count,
    Nat.add_comm]

theorem decodeFrom_skip : ∀ (tail : List UInt8) (i : Nat) (rest : List UInt8),
    decodeFrom tail.length i (tail ++ rest) = decodeFrom 0 (i + tail.length) rest
  | [], _, _ => rfl
  | b :: tail, i, rest => by
    rw [List.length_cons, List.cons_append, decodeFrom, decodeFrom_skip tail (i + 1) rest]
    congr 1
    omega

/-- A first octet and the octets that fit it are one character. -/
theorem decodeFrom_sequence {form : SequenceForm} {b : UInt8} {tail : List UInt8}
    (high : 0x80 ≤ b.toNat) (announced : formOf b.toNat = some form) (fits : form.Fits tail)
    (i : Nat) (rest : List UInt8) :
    decodeFrom 0 i (b :: tail ++ rest) = (decodeFrom 0 (i + 1 + tail.length) rest).map
      (Char.ofNat (codePoint form b.toNat tail) :: ·) := by
  obtain ⟨hcount, hlength⟩ := continuing_of_fits fits rest
  rw [List.cons_append, decodeFrom, if_neg (Nat.not_lt.mpr high), announced]
  dsimp only
  rw [if_pos hcount, hcount, ← hlength, List.take_left, decodeFrom_skip]

/-! ## 2. Characters -/

theorem toNat_valid (c : Char) : c.toNat < 0xd800 ∨ 0xdfff < c.toNat ∧ c.toNat < 0x110000 :=
  c.valid

section Characters

variable {c : Char} (i : Nat) (rest : List UInt8)

/-- An octet that continues a sequence holds six binary digits. -/
theorem toNat_tail (n : Nat) : (UInt8.ofNat (n % 64 + 128)).toNat = n % 64 + 128 := by
  rw [UInt8.toNat_ofNat']
  omega

theorem decodeFrom_one (h : c.toNat ≤ 0x7f) :
    decodeFrom 0 i ([UInt8.ofNat c.toNat] ++ rest) =
      (decodeFrom 0 (i + 1) rest).map (c :: ·) := by
  have hoctet : (UInt8.ofNat c.toNat).toNat = c.toNat := by
    rw [UInt8.toNat_ofNat']
    omega
  rw [List.singleton_append, decodeFrom, hoctet, if_pos (by omega), Char.ofNat_toNat]

theorem decodeFrom_two (lo : 0x7f < c.toNat) (hi : c.toNat ≤ 0x7ff) :
    decodeFrom 0 i ([UInt8.ofNat (c.toNat / 64 % 32 + 192), UInt8.ofNat (c.toNat % 64 + 128)] ++
      rest) = (decodeFrom 0 (i + 2) rest).map (c :: ·) := by
  have hfirst : (UInt8.ofNat (c.toNat / 64 % 32 + 192)).toNat = c.toNat / 64 + 192 := by
    rw [UInt8.toNat_ofNat']
    omega
  have hform : formOf (c.toNat / 64 + 192) = some ⟨1, 0x80, 0xbf⟩ := by
    unfold formOf
    rw [if_neg (by omega), if_pos (by omega)]
  have hpoint : codePoint ⟨1, 0x80, 0xbf⟩ (c.toNat / 64 + 192) [UInt8.ofNat (c.toNat % 64 + 128)] =
      c.toNat := by
    simp only [codePoint, List.foldl_cons, List.foldl_nil, toNat_tail,
      show Nat.pow 2 (6 - 1) = 32 from rfl]
    omega
  rw [decodeFrom_sequence (by omega) (hfirst ▸ hform)
    (.intro rfl (by rw [toNat_tail]; dsimp only; omega) (by rw [toNat_tail]; dsimp only; omega)
      (by simp)), hfirst, hpoint, Char.ofNat_toNat]
  rfl

theorem decodeFrom_three (lo : 0x7ff < c.toNat) (hi : c.toNat ≤ 0xffff) :
    decodeFrom 0 i ([UInt8.ofNat (c.toNat / 4096 % 16 + 224),
      UInt8.ofNat (c.toNat / 64 % 64 + 128), UInt8.ofNat (c.toNat % 64 + 128)] ++ rest) =
      (decodeFrom 0 (i + 3) rest).map (c :: ·) := by
  have hfirst : (UInt8.ofNat (c.toNat / 4096 % 16 + 224)).toNat = c.toNat / 4096 + 224 := by
    rw [UInt8.toNat_ofNat']
    omega
  have hvalid := toNat_valid c
  -- no character of three octets is a surrogate, none would fit into two octets
  obtain ⟨form, hform, hmore, hleast, hgreatest⟩ : ∃ form : SequenceForm,
      formOf (c.toNat / 4096 + 224) = some form ∧ form.more = 2 ∧
        form.least ≤ c.toNat / 64 % 64 + 128 ∧ c.toNat / 64 % 64 + 128 ≤ form.greatest := by
    unfold formOf
    rw [if_neg (by omega), if_neg (by omega)]
    by_cases h0 : c.toNat / 4096 = 0
    · exact ⟨_, if_pos (by omega), rfl, by dsimp only; omega, by dsimp only; omega⟩
    by_cases hd : c.toNat / 4096 = 13
    · rw [if_neg (by omega), if_pos (by omega)]
      exact ⟨_, rfl, rfl, by dsimp only; omega, by dsimp only; omega⟩
    · rw [if_neg (by omega), if_neg (by omega), if_pos (by omega)]
      exact ⟨_, rfl, rfl, by dsimp only; omega, by dsimp only; omega⟩
  have hpoint : codePoint form (c.toNat / 4096 + 224)
      [UInt8.ofNat (c.toNat / 64 % 64 + 128), UInt8.ofNat (c.toNat % 64 + 128)] = c.toNat := by
    simp only [codePoint, List.foldl_cons, List.foldl_nil, toNat_tail, hmore,
      show Nat.pow 2 (6 - 2) = 16 from rfl]
    omega
  rw [decodeFrom_sequence (by omega) (hfirst ▸ hform)
    (.intro hmore (by rwa [toNat_tail]) (by rwa [toNat_tail])
      (by simp only [List.mem_singleton, forall_eq, toNat_tail]; omega)),
    hfirst, hpoint, Char.ofNat_toNat]
  rfl

theorem decodeFrom_four (lo : 0xffff < c.toNat) :
    decodeFrom 0 i ([UInt8.ofNat (c.toNat / 262144 % 8 + 240),
      UInt8.ofNat (c.toNat / 4096 % 64 + 128), UInt8.ofNat (c.toNat / 64 % 64 + 128),
      UInt8.ofNat (c.toNat % 64 + 128)] ++ rest) =
      (decodeFrom 0 (i + 4) rest).map (c :: ·) := by
  have hvalid := toNat_valid c
  have hfirst : (UInt8.ofNat (c.toNat / 262144 % 8 + 240)).toNat = c.toNat / 262144 + 240 := by
    rw [UInt8.toNat_ofNat']
    omega
  -- the last code point bounds what follows the greatest first octet
  obtain ⟨form, hform, hmore, hleast, hgreatest⟩ : ∃ form : SequenceForm,
      formOf (c.toNat / 262144 + 240) = some form ∧ form.more = 3 ∧
        form.least ≤ c.toNat / 4096 % 64 + 128 ∧ c.toNat / 4096 % 64 + 128 ≤ form.greatest := by
    unfold formOf
    rw [if_neg (by omega), if_neg (by omega), if_neg (by omega), if_neg (by omega),
      if_neg (by omega)]
    by_cases h0 : c.toNat / 262144 = 0
    · exact ⟨_, if_pos (by omega), rfl, by dsimp only; omega, by dsimp only; omega⟩
    by_cases h4 : c.toNat / 262144 = 4
    · rw [if_neg (by omega), if_neg (by omega), if_pos (by omega)]
      exact ⟨_, rfl, rfl, by dsimp only; omega, by dsimp only; omega⟩
    · rw [if_neg (by omega), if_pos (by omega)]
      exact ⟨_, rfl, rfl, by dsimp only; omega, by dsimp only; omega⟩
  have hpoint : codePoint form (c.toNat / 262144 + 240)
      [UInt8.ofNat (c.toNat / 4096 % 64 + 128), UInt8.ofNat (c.toNat / 64 % 64 + 128),
        UInt8.ofNat (c.toNat % 64 + 128)] = c.toNat := by
    simp only [codePoint, List.foldl_cons, List.foldl_nil, toNat_tail, hmore,
      show Nat.pow 2 (6 - 3) = 8 from rfl]
    omega
  rw [decodeFrom_sequence (by omega) (hfirst ▸ hform)
    (.intro hmore (by rwa [toNat_tail]) (by rwa [toNat_tail])
      (by simp only [List.mem_cons, List.not_mem_nil, or_false, forall_eq_or_imp, forall_eq,
        toNat_tail]; omega)),
    hfirst, hpoint, Char.ofNat_toNat]
  rfl

/-- The octets of a character are read as that character. -/
theorem decodeFrom_char (c : Char) :
    decodeFrom 0 i (String.utf8EncodeChar c ++ rest) =
      (decodeFrom 0 (i + (String.utf8EncodeChar c).length) rest).map (c :: ·) := by
  have hval : c.val.toNat = c.toNat := rfl
  simp only [String.utf8EncodeChar, hval]
  by_cases h1 : c.toNat ≤ 0x7f
  · rw [if_pos h1]
    exact decodeFrom_one i rest h1
  by_cases h2 : c.toNat ≤ 0x7ff
  · rw [if_neg h1, if_pos h2]
    exact decodeFrom_two i rest (by omega) h2
  by_cases h3 : c.toNat ≤ 0xffff
  · rw [if_neg h1, if_neg h2, if_pos h3]
    exact decodeFrom_three i rest (by omega) h3
  · rw [if_neg h1, if_neg h2, if_neg h3]
    exact decodeFrom_four i rest (by omega)

end Characters

/-! ## 3. Texts -/

theorem encodeUtf8_eq (s : String) : encodeUtf8 s = s.toList.flatMap String.utf8EncodeChar := by
  have hchars : s.toByteArray = s.toList.utf8Encode := by
    rw [← String.toByteArray_ofList, String.ofList_toList]
  rw [encodeUtf8, String.toUTF8_eq_toByteArray, hchars, List.utf8Encode,
    List.toList_data_toByteArray]

theorem decodeFrom_chars : ∀ (s : List Char) (i : Nat),
    decodeFrom 0 i (s.flatMap String.utf8EncodeChar) = .ok s
  | [], _ => rfl
  | c :: s, i => by
    rw [List.flatMap_cons, decodeFrom_char, decodeFrom_chars s]
    rfl

/-- **The octets of a text read back as the text.** -/
theorem decodeUtf8_encodeUtf8 (s : String) : decodeUtf8 (encodeUtf8 s) = .ok s.toList := by
  rw [decodeUtf8, encodeUtf8_eq, decodeFrom_chars]

/-- A text without carriage returns has its line breaks as they are read. -/
theorem universalLines_eq : ∀ {s : List Char}, '\r' ∉ s → universalLines s = s
  | [], _ => rfl
  | c :: s, h => by
    have hc : c ≠ '\r' := fun e => h (e ▸ List.mem_cons_self)
    rw [universalLines.eq_4 c s (fun _ e _ => hc e) hc,
      universalLines_eq fun hs => h (List.mem_cons_of_mem c hs)]

end Affordance.Text
