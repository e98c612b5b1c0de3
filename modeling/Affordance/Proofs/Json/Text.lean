import Mathlib.Algebra.Group.Nat.Defs
import Affordance.Json.Printer
import Affordance.Json.Reader
import Affordance.Proofs.Text.Ahead
import Affordance.Proofs.Text.Escaped

/-!
# Texts of JSON

  * `readStringFrom_char`: the written form of a character is read as that character.
  * **`readString_renderText`**: a written text is read as that text, up to its closing quote.
  * `renderText_noControl`: a written text has no control characters; `renderText_ascii`: nor has
    one that is written in ASCII any character above it.
  * `escaped_renderChar`: between its quotes a written text is escaped, so it is told from whatever
    comes behind it (`renderText_inj`).
-/

namespace Affordance.Json

open Affordance.Text

/-! ## 1. Hexadecimal digits -/

theorem digitValue_hexDigit : ∀ k < 16, digitValue 16 (hexDigit k) = some k := by decide

theorem length_hexFixed : ∀ width n, (hexFixed width n).length = width
  | 0, _ => rfl
  | width + 1, n => by
    rw [hexFixed, List.length_append, length_hexFixed width]
    rfl

theorem hexFixed_digits (width n : Nat) :
    ∀ c ∈ hexFixed width n, (digitValue 16 c).isSome = true :=
  forall_hexFixed (fun k hk => by rw [digitValue_hexDigit k hk]; rfl) width n

/-- Enough hexadecimal digits read back as the number. -/
theorem numberOfDigits_hexFixed : ∀ (width n : Nat), n < 16 ^ width →
    numberOfDigits 16 (hexFixed width n) = n
  | 0, n, h => by
    have hn : n = 0 := by simpa using h
    rw [hn]
    rfl
  | width + 1, n, h => by
    have hhigh : numberOfDigits 16 (hexFixed width (n / 16)) = n / 16 :=
      numberOfDigits_hexFixed width (n / 16) (Nat.div_lt_of_lt_mul (by rwa [← Nat.pow_succ']))
    unfold numberOfDigits at hhigh ⊢
    have hlow := digitValue_hexDigit (n % 16) (Nat.mod_lt n (by decide))
    rw [hexFixed, List.foldl_append, hhigh, List.foldl_cons, List.foldl_nil, hlow]
    exact Nat.div_add_mod' n 16

/-! ## 2. Characters -/

/-- How a character is written: with a letter behind a backslash, with numbers, or as it is. -/
theorem renderChar_forms (asciiOnly : Bool) (c : Char) :
    (∃ e, renderChar asciiOnly c = ['\\', e] ∧ e ≠ 'u' ∧ simpleEscape e = some c) ∨
    (∃ ns : List Nat, renderChar asciiOnly c = ns.flatMap unicodeEscape ∧
      (asciiOnly = false → ns = [c.toNat] ∧ c.toNat < 32)) ∨
    (c ≠ '"' ∧ c ≠ '\\' ∧ ¬ c.toNat < 32 ∧ (asciiOnly = true → c.toNat < 127) ∧
      renderChar asciiOnly c = [c]) := by
  unfold renderChar
  by_cases hquote : c = '"'
  · exact .inl ⟨'"', if_pos hquote, by decide, by rw [hquote]; rfl⟩
  by_cases hback : c = '\\'
  · exact .inl ⟨'\\', by rw [if_neg hquote, if_pos hback], by decide, by rw [hback]; rfl⟩
  rw [if_neg hquote, if_neg hback]
  by_cases hfeed : c = '\n'
  · exact .inl ⟨'n', if_pos hfeed, by decide, by rw [hfeed]; rfl⟩
  by_cases hreturn : c = '\r'
  · exact .inl ⟨'r', by rw [if_neg hfeed, if_pos hreturn], by decide, by rw [hreturn]; rfl⟩
  rw [if_neg hfeed, if_neg hreturn]
  by_cases htab : c = '\t'
  · exact .inl ⟨'t', if_pos htab, by decide, by rw [htab]; rfl⟩
  by_cases hform : c = '\x0c'
  · exact .inl ⟨'f', by rw [if_neg htab, if_pos hform], by decide, by rw [hform]; rfl⟩
  rw [if_neg htab, if_neg hform]
  by_cases hbs : c = '\x08'
  · exact .inl ⟨'b', if_pos hbs, by decide, by rw [hbs]; rfl⟩
  rw [if_neg hbs]
  by_cases hcontrol : c.toNat < 32
  · rw [if_pos hcontrol]
    exact .inr (.inl ⟨[c.toNat], (List.append_nil _).symm, fun _ => ⟨rfl, hcontrol⟩⟩)
  rw [if_neg hcontrol]
  cases asciiOnly with
  | false => exact .inr (.inr ⟨hquote, hback, hcontrol, nofun, rfl⟩)
  | true =>
    by_cases hlow : c.toNat < 127
    · exact .inr (.inr ⟨hquote, hback, hcontrol, fun _ => hlow, if_neg (by simpa using hlow)⟩)
    · rw [if_pos (by simpa using hlow)]
      refine .inr (.inl ?_)
      by_cases hunit : c.toNat < 0x10000
      · exact ⟨[c.toNat], by rw [if_pos hunit]; exact (List.append_nil _).symm, nofun⟩
      rw [if_neg hunit]
      cases half? c with
      | some h => exact ⟨[h], (List.append_nil _).symm, nofun⟩
      | none =>
        refine ⟨[0xd800 + (c.toNat - 0x10000) / 0x400, 0xdc00 + (c.toNat - 0x10000) % 0x400], ?_,
          nofun⟩
        rw [List.flatMap_cons, List.flatMap_singleton]

/-- How a character is written where all characters stay as they are if they can. -/
theorem renderChar_cases (c : Char) :
    (∃ e, renderChar false c = ['\\', e] ∧ e ≠ 'u' ∧ simpleEscape e = some c) ∨
    (c.toNat < 32 ∧ renderChar false c = unicodeEscape c.toNat) ∨
    (c ≠ '"' ∧ c ≠ '\\' ∧ ¬ c.toNat < 32 ∧ renderChar false c = [c]) := by
  obtain hletter | ⟨ns, htext, hns⟩ | ⟨hquote, hback, hcontrol, -, htext⟩ :=
    renderChar_forms false c
  · exact .inl hletter
  · obtain ⟨rfl, hlow⟩ := hns rfl
    exact .inr (.inl ⟨hlow, htext.trans (List.append_nil _)⟩)
  · exact .inr (.inr ⟨hquote, hback, hcontrol, htext⟩)

/-- The letters of escapes are printable, and what they stand for is in ASCII. -/
theorem simpleEscape_ascii {c e : Char} (h : simpleEscape e = some c) :
    (32 ≤ e.toNat ∧ e.toNat < 127) ∧ c.toNat < 128 := by
  revert h
  fun_cases simpleEscape e <;> intro h <;> cases h <;> decide

section Reading

variable {src : Source} {i : Nat} {s : List Char} (start n : Nat) (acc : List Char)

theorem readStringFrom_escape {e d : Char} (he : e ≠ 'u') (hd : simpleEscape e = some d)
    (h : src.Ahead i (['\\', e] ++ s)) :
    readStringFrom src start (n + 1) acc i = readStringFrom src start n (d :: acc) (i + 2) := by
  rw [readStringFrom, h.head]
  dsimp only
  rw [if_neg (by decide), if_pos (by decide), h.tail.head]
  dsimp only
  rw [if_neg (by simpa using he), hd]

/-- Four hexadecimal digits are read as their number. -/
theorem readHex_hexFixed {k : Nat} (hk : k < 0x10000) (h : src.Ahead i (hexFixed 4 k ++ s)) :
    readHex src i = some k := by
  have hslice : src.slice i (i + 4) = hexFixed 4 k := by
    have hcut := h.slice
    rwa [length_hexFixed] at hcut
  have hall : (hexFixed 4 k).all (fun c => (digitValue 16 c).isSome) = true :=
    List.all_eq_true.mpr (hexFixed_digits 4 k)
  rw [readHex, hslice, length_hexFixed, hall, numberOfDigits_hexFixed 4 k hk]
  rfl

/-- An escape of digits is read as its character, unless that is half of a pair. -/
theorem readStringFrom_unicode {k : Nat} (hk : k < 0xd800) (hs : s ≠ [])
    (h : src.Ahead i (unicodeEscape k ++ s)) :
    readStringFrom src start (n + 1) acc i =
      readStringFrom src start n (Char.ofNat k :: acc) (i + 6) := by
  have hdigits : src.Ahead (i + 2) (hexFixed 4 k ++ s) := h.tail.tail
  have hsize : ¬ src.size ≤ i + 2 + 4 := by
    intro hle
    have hrest := hdigits.drop
    rw [length_hexFixed] at hrest
    refine hs ((show src.toList.drop (i + 2 + 4) = s from hrest).symm.trans ?_)
    exact List.drop_eq_nil_of_le (by rwa [Array.length_toList])
  have hchar : readUnicode src (i + 2) = .ok (Char.ofNat k, i + 2 + 4) := by
    have hhalf : isHalf k = false := by
      simp only [isHalf, Bool.and_eq_false_iff, decide_eq_false_iff_not]
      omega
    rw [readUnicode, if_neg hsize, readHex_hexFixed (by omega) hdigits]
    dsimp only
    rw [if_neg (by simp; omega), charOfUnit, hhalf]
    rfl
  rw [readStringFrom, h.head]
  dsimp only
  rw [if_neg (by decide), if_pos (by decide), h.tail.head]
  dsimp only
  rw [if_pos (by decide), hchar]

theorem readStringFrom_plain {c : Char} (hquote : c ≠ '"') (hback : c ≠ '\\')
    (hcontrol : ¬ c.toNat < 32) (h : src.Ahead i ([c] ++ s)) :
    readStringFrom src start (n + 1) acc i = readStringFrom src start n (c :: acc) (i + 1) := by
  rw [readStringFrom, h.head]
  dsimp only
  rw [if_neg (by simpa using hquote), if_neg (by simpa using hback), if_neg hcontrol]

/-- The written form of a character is read as that character. -/
theorem readStringFrom_char {c : Char} (hs : s ≠ [])
    (h : src.Ahead i (renderChar false c ++ s)) :
    readStringFrom src start (n + 1) acc i =
      readStringFrom src start n (c :: acc) (i + (renderChar false c).length) := by
  rcases renderChar_cases c with ⟨e, htext, he, hescape⟩ | ⟨hcontrol, htext⟩ | hplain
  · rw [htext] at h ⊢
    exact readStringFrom_escape start n acc he hescape h
  · rw [htext] at h ⊢
    rw [readStringFrom_unicode start n acc (by omega) hs h, Char.ofNat_toNat]
    rfl
  · obtain ⟨hquote, hback, hcontrol, htext⟩ := hplain
    rw [htext] at h ⊢
    exact readStringFrom_plain start n acc hquote hback hcontrol h

/-! ## 3. Texts -/

theorem readStringFrom_chars : ∀ (text : List Char) {i n : Nat} {acc : List Char},
    src.Ahead i (text.flatMap (renderChar false) ++ '"' :: s) → text.length < n →
      readStringFrom src start n acc i = .ok (String.ofList (acc.reverse ++ text),
        i + (text.flatMap (renderChar false)).length + 1)
  | [], i, n + 1, acc, h, _ => by
    rw [List.flatMap_nil, List.nil_append] at h
    rw [readStringFrom, h.head]
    dsimp only
    rw [if_pos (beq_self_eq_true _), List.append_nil]
    rfl
  | c :: text, i, n + 1, acc, h, hn => by
    rw [List.flatMap_cons, List.append_assoc] at h
    rw [readStringFrom_char start n acc (by simp) h,
      readStringFrom_chars text h.drop (Nat.lt_of_succ_lt_succ hn), List.flatMap_cons,
      List.length_append, List.reverse_cons, List.append_assoc, List.singleton_append,
      ← Nat.add_assoc]

/-- The text is at most as long as it is written. -/
theorem length_le_rendered (text : List Char) :
    text.length ≤ (text.flatMap (renderChar false)).length := by
  induction text with
  | nil => exact Nat.le_refl 0
  | cons c text ih =>
    have hc : 1 ≤ (renderChar false c).length := by
      rcases renderChar_cases c with ⟨e, htext, -⟩ | ⟨-, htext⟩ | ⟨-, -, -, htext⟩ <;>
        rw [htext] <;> exact Nat.succ_le_succ (Nat.zero_le _)
    rw [List.flatMap_cons, List.length_append, List.length_cons]
    omega

/-- **A written text is read as that text**, up to its closing quote. -/
theorem readString_renderText {t : String} (h : src.Ahead i (renderText false t ++ s)) :
    readString src i = .ok (t, i + (renderText false t).length) := by
  unfold renderText at h ⊢
  rw [List.cons_append, List.cons_append, List.append_assoc, List.singleton_append] at h
  have hfuel : t.toList.length < src.size + 1 := by
    have hlen := congrArg List.length (show src.toList.drop i = _ from h)
    rw [List.length_drop, Array.length_toList, List.length_cons, List.length_append] at hlen
    have := length_le_rendered t.toList
    omega
  rw [readString, readStringFrom_chars i t.toList h.tail hfuel, List.reverse_nil, List.nil_append,
    String.ofList_toList, List.length_append, List.length_cons]
  simp only [List.length_singleton]
  congr 2
  omega

end Reading

/-! ## 4. No control characters -/

theorem hexFixed_noControl (width n : Nat) : ∀ c ∈ hexFixed width n, 32 ≤ c.toNat :=
  forall_hexFixed (by decide) width n

theorem renderChar_noControl (d : Char) : ∀ c ∈ renderChar false d, 32 ≤ c.toNat := by
  obtain ⟨e, htext, -, he⟩ | ⟨-, htext⟩ | ⟨-, -, hcontrol, htext⟩ := renderChar_cases d <;>
    rw [htext]
  · exact List.forall_mem_cons.mpr ⟨by decide,
      List.forall_mem_singleton.mpr (simpleEscape_ascii he).1.1⟩
  · exact List.forall_mem_cons.mpr ⟨by decide,
      List.forall_mem_cons.mpr ⟨by decide, hexFixed_noControl 4 d.toNat⟩⟩
  · exact List.forall_mem_singleton.mpr (Nat.not_lt.mp hcontrol)

/-- **A written text has no control characters.** -/
theorem renderText_noControl (t : String) : ∀ c ∈ renderText false t, 32 ≤ c.toNat := by
  intro c hc
  rcases List.mem_append.mp hc with hc | hc
  · rcases List.mem_cons.mp hc with rfl | hc
    · decide
    · obtain ⟨d, -, hd⟩ := List.mem_flatMap.mp hc
      exact renderChar_noControl d c hd
  · rw [List.mem_singleton.mp hc]
    decide

theorem renderChar_ascii (d : Char) :
    ∀ c ∈ renderChar true d, 32 ≤ c.toNat ∧ c.toNat < 127 := by
  obtain ⟨e, htext, -, he⟩ | ⟨ns, htext, -⟩ | ⟨-, -, hcontrol, hlow, htext⟩ :=
    renderChar_forms true d <;> rw [htext]
  · exact List.forall_mem_cons.mpr ⟨by decide,
      List.forall_mem_singleton.mpr (simpleEscape_ascii he).1⟩
  · intro c hc
    obtain ⟨n, -, hn⟩ := List.mem_flatMap.mp hc
    have hescape : ∀ c ∈ unicodeEscape n, 32 ≤ c.toNat ∧ c.toNat < 127 :=
      List.forall_mem_cons.mpr ⟨by decide, List.forall_mem_cons.mpr ⟨by decide,
        forall_hexFixed (by decide) 4 n⟩⟩
    exact hescape c hn
  · exact List.forall_mem_singleton.mpr ⟨Nat.not_lt.mp hcontrol, hlow rfl⟩

/-- **A text that is written in ASCII has printable ASCII characters alone.** -/
theorem renderText_ascii (t : String) :
    ∀ c ∈ renderText true t, 32 ≤ c.toNat ∧ c.toNat < 127 := by
  unfold renderText
  refine List.forall_mem_append.mpr ⟨List.forall_mem_cons.mpr ⟨by decide, ?_⟩,
    List.forall_mem_singleton.mpr (by decide)⟩
  intro c hc
  obtain ⟨d, -, hd⟩ := List.mem_flatMap.mp hc
  exact renderChar_ascii d c hd

/-! ## 5. Escapes -/

theorem escaped_unicodeEscape (n : Nat) : Escaped (unicodeEscape n) :=
  .escape 'u' (.of_plain (forall_hexFixed (by decide) 4 n))

/-- A written character is escaped where it has to be. -/
theorem escaped_renderChar (asciiOnly : Bool) (c : Char) : Escaped (renderChar asciiOnly c) := by
  obtain ⟨e, htext, -⟩ | ⟨ns, htext, -⟩ | ⟨hquote, hback, -, -, htext⟩ :=
    renderChar_forms asciiOnly c <;> rw [htext]
  · exact .escape e .nil
  · exact .flatMap escaped_unicodeEscape ns
  · exact .plain hback hquote .nil

theorem renderText_injective {k l : String} (h : renderText false k = renderText false l) :
    k = l := by
  have hread : ∀ t : String, renderText false t = renderText false k →
      readString (renderText false k).toArray 0 = .ok (t, (renderText false k).length) := by
    intro t ht
    have hahead : Source.Ahead (renderText false k).toArray 0 (renderText false t ++ []) := by
      rw [List.append_nil, ht]
      exact Source.ahead_toArray _
    rw [readString_renderText hahead, ht, Nat.zero_add]
  have hboth := (hread k rfl).symm.trans (hread l h.symm)
  exact (Prod.mk.inj (Except.ok.inj hboth)).1

/-- **A written text is told from what comes behind it.** -/
theorem renderText_inj {k l : String} {s t : List Char}
    (h : renderText false k ++ s = renderText false l ++ t) : k = l ∧ s = t := by
  have hbody : ∀ u : String, Escaped (u.toList.flatMap (renderChar false)) := fun u =>
    .flatMap (escaped_renderChar false) u.toList
  have hcut : ∀ (u : String) (r : List Char), renderText false u ++ r =
      '"' :: (u.toList.flatMap (renderChar false) ++ '"' :: r) := by
    intro u r
    simp [renderText]
  rw [hcut, hcut] at h
  obtain ⟨hsame, hrest⟩ := (hbody k).closing_inj (hbody l) (List.tail_eq_of_cons_eq h)
  refine ⟨renderText_injective ?_, hrest⟩
  rw [renderText, renderText, hsame]

end Affordance.Json
