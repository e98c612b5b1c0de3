import Affordance.Proofs.Json.RoundTrip
import Affordance.Proofs.Text.Pieces

/-!
# Characters of written JSON values

Besides the texts of a value only printable ASCII is written, and the line breaks of the style.

  * `Json.pieces`: the texts of a value, the keys of its fields among them.
  * `forall_renderAt`: what holds of the characters that a style writes itself and of those of the
    written texts holds of all; `piece_infix_renderAt`: each written text stands in the whole.
  * `noReturn_rendered`: so there is no carriage return; `noControl_rendered`: nor is there any
    control character in a value that is written on one line.
  * **`wide_mem_renderAt_iff`**: where a style keeps characters above ASCII, such a character stands
    in a written value iff it stands in one of the value's texts.
  * `halfFault?_render_iff`: a written value has octets iff each of its texts has, since halves of
    surrogate pairs are held far above ASCII.
-/

namespace Affordance.Json

open Affordance.Text

/-! ## 1. Texts of a value -/

mutual

/-- The texts of a value, the keys of its fields among them. -/
def pieces : Json → List String
  | str s => [s]
  | arr items => itemPieces items
  | obj fields => fieldPieces fields
  | _ => []

/-- The texts of the items of a list. -/
def itemPieces : List Json → List String
  | [] => []
  | v :: rest => pieces v ++ itemPieces rest

/-- The texts of the fields of an object. -/
def fieldPieces : List (String × Json) → List String
  | [] => []
  | (k, v) :: rest => k :: (pieces v ++ fieldPieces rest)

end

/-! ## 2. What a style writes itself -/

/-- The property holds of every character that a style may write outside of texts. -/
structure Style.Marks (st : Style) (P : Char → Prop) : Prop where
  printable : ∀ d : Char, 32 ≤ d.toNat → d.toNat < 128 → P d
  newline : ∀ level, ∀ d ∈ st.newline level, P d
  itemSep : ∀ d ∈ st.itemSep.toList, P d
  keySep : ∀ d ∈ st.keySep.toList, P d

/-- The fields of an object as a style orders them. -/
theorem mem_ordered {α : Type} (st : Style) {f : String × α} {written : List (String × α)} :
    f ∈ (if st.sortKeys then sortFields written else written) ↔ f ∈ written := by
  split
  · exact (List.mergeSort_perm _ _).mem_iff
  · exact Iff.rfl

/-- A numeral has digits, signs, a point and the letter of the exponent, and nothing else. -/
theorem printable_numeral (n : Numeral) : ∀ c ∈ n.text, 32 ≤ c.toNat ∧ c.toNat < 128 := by
  have hdigit : ∀ c, isDigitAscii c = true → 32 ≤ c.toNat ∧ c.toNat < 128 := by
    intro c hc
    simp only [isDigitAscii, Bool.and_eq_true, decide_eq_true_eq] at hc
    exact ⟨Nat.le_trans (by decide) hc.1, Nat.lt_of_le_of_lt hc.2 (by decide)⟩
  have hfraction : ∀ c ∈ n.fractionText, 32 ≤ c.toNat ∧ c.toNat < 128 := by
    unfold Numeral.fractionText
    split
    · exact fun c hc => absurd hc List.not_mem_nil
    · exact List.forall_mem_cons.mpr ⟨by decide, fun c hc => hdigit c (n.fraction_digits c hc)⟩
  have hexponent : ∀ c ∈ n.exponentText, 32 ≤ c.toNat ∧ c.toNat < 128 := by
    unfold Numeral.exponentText
    cases he : n.exponent with
    | none => exact fun c hc => absurd hc List.not_mem_nil
    | some e =>
      refine List.forall_mem_cons.mpr ⟨by decide, List.forall_mem_cons.mpr ⟨?_, ?_⟩⟩
      · split <;> decide
      · exact fun c hc => hdigit c ((n.exponent_digits e he).2 c hc)
  have hunsigned : ∀ c ∈ n.unsigned, 32 ≤ c.toNat ∧ c.toNat < 128 := by
    unfold Numeral.unsigned Numeral.after
    exact List.forall_mem_append.mpr ⟨fun c hc => hdigit c (n.whole_digits c hc),
      List.forall_mem_append.mpr ⟨hfraction, hexponent⟩⟩
  unfold Numeral.text
  split
  · exact List.forall_mem_cons.mpr ⟨by decide, hunsigned⟩
  · exact hunsigned

theorem printable_word {w : String} {v : Json} (h : (w, v) ∈ wordValues) :
    ∀ c ∈ w.toList, 32 ≤ c.toNat ∧ c.toNat < 128 := by
  have hall : wordValues.all (fun u => u.1.toList.all fun d => 32 ≤ d.toNat ∧ d.toNat < 128) =
      true := rfl
  exact fun c hc => of_decide_eq_true (List.all_eq_true.mp (List.all_eq_true.mp hall _ h) c hc)

/-! ## 3. Characters of written values -/

section Characters

variable {P : Char → Prop} {st : Style}

theorem forall_bracket (hst : st.Marks P) {op cl : Char} (hop : P op) (hcl : P cl)
    {items : List (List Char)} (hitems : ∀ item ∈ items, ∀ c ∈ item, P c) (level : Nat) :
    ∀ c ∈ bracket st level op cl items, P c := by
  have hsep : ∀ c ∈ st.itemSep.toList ++ st.newline (level + 1), P c :=
    List.forall_mem_append.mpr ⟨hst.itemSep, hst.newline (level + 1)⟩
  have hjoined : ∀ c ∈ joinChars (st.itemSep.toList ++ st.newline (level + 1)) items, P c := by
    intro c hc
    obtain h | ⟨item, hitem, h⟩ := mem_joinChars hc
    · exact hsep c h
    · exact hitems item hitem c h
  unfold bracket
  split
  · exact List.forall_mem_cons.mpr ⟨hop, List.forall_mem_singleton.mpr hcl⟩
  · refine List.forall_mem_cons.mpr ⟨hop, List.forall_mem_append.mpr ⟨?_,
      List.forall_mem_singleton.mpr hcl⟩⟩
    exact List.forall_mem_append.mpr ⟨List.forall_mem_append.mpr ⟨hst.newline (level + 1), hjoined⟩,
      hst.newline level⟩

mutual

/-- **What holds of all that a style writes and of the written texts holds of the whole.** -/
theorem forall_renderAt (hst : st.Marks P) : ∀ (v : Json) (level : Nat),
    (∀ s ∈ v.pieces, ∀ c ∈ renderText st.asciiOnly s, P c) → ∀ c ∈ renderAt st level v, P c
  | .null, _, _ => by
    intro c hc
    have hmark := printable_word (v := .null) (by simp [wordValues]) c hc
    exact hst.printable c hmark.1 hmark.2
  | .bool b, _, _ => by
    intro c hc
    have hmark : 32 ≤ c.toNat ∧ c.toNat < 128 := by
      cases b
      · exact printable_word (v := .bool false) (by simp [wordValues]) c hc
      · exact printable_word (v := .bool true) (by simp [wordValues]) c hc
    exact hst.printable c hmark.1 hmark.2
  | .int i, _, _ => by
    rw [renderAt, ← text_intNumeral]
    exact fun c hc => hst.printable c (printable_numeral _ c hc).1 (printable_numeral _ c hc).2
  | .num m, _, _ => by
    rw [renderAt]
    obtain ⟨w, hw, htext⟩ | ⟨n, htext, -⟩ := renderMeasure_cases m
    · rw [htext]
      exact fun c hc => hst.printable c (printable_word hw c hc).1 (printable_word hw c hc).2
    · rw [← htext]
      exact fun c hc => hst.printable c (printable_numeral n c hc).1 (printable_numeral n c hc).2
  | .str t, _, h => by
    rw [renderAt]
    exact h t (List.mem_singleton_self t)
  | .arr items, level, h => by
    rw [renderAt]
    exact forall_bracket hst (hst.printable _ (by decide) (by decide))
      (hst.printable _ (by decide) (by decide)) (forall_renderItems hst items (level + 1) h) level
  | .obj fields, level, h => by
    rw [renderAt]
    refine forall_bracket hst (hst.printable _ (by decide) (by decide))
      (hst.printable _ (by decide) (by decide)) ?_ level
    intro item hitem
    obtain ⟨f, hf, rfl⟩ := List.mem_map.mp hitem
    obtain ⟨hkey, hvalue⟩ :=
      forall_renderFields hst fields (level + 1) h f ((mem_ordered st).mp hf)
    exact List.forall_mem_append.mpr ⟨List.forall_mem_append.mpr ⟨hkey, hst.keySep⟩, hvalue⟩

theorem forall_renderItems (hst : st.Marks P) : ∀ (items : List Json) (level : Nat),
    (∀ s ∈ itemPieces items, ∀ c ∈ renderText st.asciiOnly s, P c) →
      ∀ item ∈ renderItems st level items, ∀ c ∈ item, P c
  | [], _, _ => fun _ hitem => absurd hitem List.not_mem_nil
  | v :: rest, level, h => by
    rw [itemPieces, List.forall_mem_append] at h
    rw [renderItems, List.forall_mem_cons]
    exact ⟨forall_renderAt hst v level h.1, forall_renderItems hst rest level h.2⟩

theorem forall_renderFields (hst : st.Marks P) : ∀ (fields : List (String × Json)) (level : Nat),
    (∀ s ∈ fieldPieces fields, ∀ c ∈ renderText st.asciiOnly s, P c) →
      ∀ f ∈ renderFields st level fields,
        (∀ c ∈ renderText st.asciiOnly f.1, P c) ∧ ∀ c ∈ f.2, P c
  | [], _, _ => fun _ hf => absurd hf List.not_mem_nil
  | (k, v) :: rest, level, h => by
    rw [fieldPieces, List.forall_mem_cons, List.forall_mem_append] at h
    rw [renderFields, List.forall_mem_cons]
    exact ⟨⟨h.1, forall_renderAt hst v level h.2.1⟩, forall_renderFields hst rest level h.2.2⟩

end

end Characters

/-! ## 4. Texts in written values -/

section Infix

variable {st : Style}

theorem item_infix_bracket {item : List Char} {items : List (List Char)} (h : item ∈ items)
    (level : Nat) (op cl : Char) : item <:+: bracket st level op cl items := by
  have hne : ¬ items.isEmpty = true := by
    rw [List.isEmpty_iff]
    exact List.ne_nil_of_mem h
  have hjoined : item <:+: joinChars (st.itemSep.toList ++ st.newline (level + 1)) items :=
    infix_joinChars h
  rw [bracket, if_neg hne]
  refine hjoined.trans ⟨op :: st.newline (level + 1), st.newline level ++ [cl], ?_⟩
  simp only [List.cons_append, List.append_assoc]

mutual

/-- Each text of a value stands in the written value in one piece. -/
theorem piece_infix_renderAt {s : String} : ∀ (v : Json) (level : Nat), s ∈ v.pieces →
    renderText st.asciiOnly s <:+: renderAt st level v
  | .null, _, h | .bool _, _, h | .int _, _, h | .num _, _, h => absurd h List.not_mem_nil
  | .str t, _, h => by
    rw [List.mem_singleton.mp h]
    exact List.infix_rfl
  | .arr items, level, h => by
    obtain ⟨item, hitem, hin⟩ := piece_infix_items items (level + 1) h
    rw [renderAt]
    exact hin.trans (item_infix_bracket hitem level _ _)
  | .obj fields, level, h => by
    obtain ⟨f, hf, hin⟩ := piece_infix_fields fields (level + 1) h
    have hfield : renderText st.asciiOnly s <:+:
        renderText st.asciiOnly f.1 ++ st.keySep.toList ++ f.2 := by
      obtain rfl | hin := hin
      · exact ((List.prefix_append _ _).trans (List.prefix_append _ _)).isInfix
      · exact hin.trans (List.suffix_append _ _).isInfix
    rw [renderAt]
    refine hfield.trans (item_infix_bracket ?_ level _ _)
    exact List.mem_map.mpr ⟨f, (mem_ordered st).mpr hf, rfl⟩

theorem piece_infix_items {s : String} : ∀ (items : List Json) (level : Nat),
    s ∈ itemPieces items → ∃ item ∈ renderItems st level items,
      renderText st.asciiOnly s <:+: item
  | [], _, h => absurd h List.not_mem_nil
  | v :: rest, level, h => by
    rw [renderItems, List.exists_mem_cons_iff]
    rcases List.mem_append.mp h with h | h
    · exact .inl (piece_infix_renderAt v level h)
    · exact .inr (piece_infix_items rest level h)

theorem piece_infix_fields {s : String} : ∀ (fields : List (String × Json)) (level : Nat),
    s ∈ fieldPieces fields → ∃ f ∈ renderFields st level fields,
      s = f.1 ∨ renderText st.asciiOnly s <:+: f.2
  | [], _, h => absurd h List.not_mem_nil
  | (k, v) :: rest, level, h => by
    rw [renderFields, List.exists_mem_cons_iff]
    rcases List.mem_cons.mp h with h | h
    · exact .inl (.inl h)
    · rcases List.mem_append.mp h with h | h
      · exact .inl (.inr (piece_infix_renderAt v level h))
      · exact .inr (piece_infix_fields rest level h)

end

end Infix

/-! ## 5. No control characters -/

theorem newline_indented (level : Nat) :
    ∀ c ∈ Style.indented.newline level, c = '\n' ∨ c = ' ' :=
  List.forall_mem_cons.mpr ⟨.inl rfl, fun _ hc => .inr (List.eq_of_mem_replicate hc)⟩

/-- **A written value has no carriage return**, so its line breaks are read as they are. -/
theorem noReturn_rendered (v : Json) (level : Nat) :
    ∀ c ∈ renderAt .indented level v, c ≠ '\r' := by
  have hmarks : Style.indented.Marks (· ≠ '\r') := by
    refine ⟨fun d hd _ e => ?_, fun l d hd => ?_, forall_of_all rfl, forall_of_all rfl⟩
    · rw [e] at hd
      exact absurd hd (by decide)
    · rcases newline_indented l d hd with rfl | rfl <;> decide
  refine forall_renderAt hmarks v level fun s _ c hc e => ?_
  have hprintable := renderText_noControl s c hc
  rw [e] at hprintable
  exact absurd hprintable (by decide)

/-- **A value that is written on one line has no control characters.** -/
theorem noControl_rendered (v : Json) : ∀ c ∈ (render .spaced v).toList, 32 ≤ c.toNat := by
  have hmarks : Style.spaced.Marks (32 ≤ ·.toNat) :=
    ⟨fun d hd _ => hd, fun _ d hd => absurd hd List.not_mem_nil, forall_of_all rfl,
      forall_of_all rfl⟩
  rw [render, String.toList_ofList]
  exact forall_renderAt hmarks v 0 fun s _ => renderText_noControl s

/-! ## 6. Characters above ASCII -/

/-- The style keeps characters above ASCII and writes none itself. -/
structure Style.KeepsWide (st : Style) : Prop where
  kept : st.asciiOnly = false
  itemSep : ∀ d ∈ st.itemSep.toList, d.toNat < 128
  keySep : ∀ d ∈ st.keySep.toList, d.toNat < 128

theorem keepsWide_canonical : Style.canonical.KeepsWide :=
  ⟨rfl, forall_of_all rfl, forall_of_all rfl⟩

theorem keepsWide_spaced : Style.spaced.KeepsWide :=
  ⟨rfl, forall_of_all rfl, forall_of_all rfl⟩

theorem newline_ascii (st : Style) (level : Nat) : ∀ d ∈ st.newline level, d.toNat < 128 := by
  unfold Style.newline
  cases st.indent with
  | none => exact fun d hd => absurd hd List.not_mem_nil
  | some n =>
    refine List.forall_mem_cons.mpr ⟨by decide, fun d hd => ?_⟩
    rw [List.eq_of_mem_replicate hd]
    decide

section Wide

variable {c : Char} (hc : 128 ≤ c.toNat)

include hc

theorem wide_ne {d : Char} (hd : d.toNat < 128) : c ≠ d := by
  intro e
  rw [e] at hc
  exact Nat.not_lt.mpr hc hd

/-- A character above ASCII is written as it is, and no other character becomes it. -/
theorem wide_mem_renderChar_iff (d : Char) : c ∈ renderChar false d ↔ c = d := by
  obtain ⟨e, htext, -, he⟩ | ⟨hlow, htext⟩ | ⟨-, -, -, htext⟩ := renderChar_cases d <;> rw [htext]
  · obtain ⟨⟨-, he⟩, hd⟩ := simpleEscape_ascii he
    simp [wide_ne hc hd, wide_ne hc (Nat.lt_succ_of_lt he), wide_ne hc (d := '\\') (by decide)]
  · have hd : c ≠ d := wide_ne hc (Nat.lt_trans hlow (by decide))
    have hascii : ∀ e ∈ hexFixed 4 d.toNat, e.toNat < 128 :=
      forall_hexFixed (by decide) 4 d.toNat
    have hdigits : c ∉ hexFixed 4 d.toNat := fun h => wide_ne hc (hascii c h) rfl
    simp [unicodeEscape, hd, hdigits, wide_ne hc (d := '\\') (by decide),
      wide_ne hc (d := 'u') (by decide)]
  · exact List.mem_singleton

theorem wide_mem_renderText_iff (t : String) : c ∈ renderText false t ↔ c ∈ t.toList := by
  have hquote : c ≠ '"' := wide_ne hc (by decide)
  simp [renderText, hquote, List.mem_flatMap, wide_mem_renderChar_iff hc]

/-- **A character above ASCII stands in a written value iff it stands in one of its texts.** -/
theorem wide_mem_renderAt_iff {st : Style} (hst : st.KeepsWide) (v : Json) (level : Nat) :
    c ∈ renderAt st level v ↔ ∃ s ∈ v.pieces, c ∈ s.toList := by
  have hmarks : st.Marks (c ≠ ·) :=
    ⟨fun _ _ hd => wide_ne hc hd, fun l d hd => wide_ne hc (newline_ascii st l d hd),
      fun d hd => wide_ne hc (hst.itemSep d hd), fun d hd => wide_ne hc (hst.keySep d hd)⟩
  constructor
  · intro h
    by_contra hnone
    refine forall_renderAt hmarks v level ?_ c h rfl
    intro s hs d hd e
    rw [hst.kept, ← e, wide_mem_renderText_iff hc] at hd
    exact hnone ⟨s, hs, hd⟩
  · intro h
    obtain ⟨s, hs, hin⟩ := h
    refine (piece_infix_renderAt v level hs).subset ?_
    rwa [hst.kept, wide_mem_renderText_iff hc]

end Wide

/-- A half of a surrogate pair is held above ASCII. -/
theorem wide_of_half {c : Char} (h : half? c ≠ none) : 128 ≤ c.toNat := by
  refine Nat.not_lt.mp fun hlow => h (half?_eq_none ?_)
  exact Nat.lt_trans hlow (by decide)

/-- **A written value has octets iff every text of it has**, halves told as `half?` does. -/
theorem halfFault?_render_iff (v : Json) :
    halfFault? (render .canonical v) = none ↔ ∀ s ∈ v.pieces, halfFault? s = none := by
  simp only [halfFault?_eq_none, render, String.toList_ofList]
  constructor
  · intro h s hs c hmem
    by_contra hhalf
    have hwide := wide_mem_renderAt_iff (wide_of_half hhalf) keepsWide_canonical v 0
    exact hhalf (h c (hwide.mpr ⟨s, hs, hmem⟩))
  · intro h c hmem
    by_contra hhalf
    have hwide := wide_mem_renderAt_iff (wide_of_half hhalf) keepsWide_canonical v 0
    obtain ⟨s, hs, hin⟩ := hwide.mp hmem
    exact hhalf (h s hs c hin)

end Affordance.Json
