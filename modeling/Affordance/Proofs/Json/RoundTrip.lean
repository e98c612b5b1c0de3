import Affordance.Proofs.Json.Regular
import Affordance.Proofs.Json.Text

/-!
# JSON values read back

  * `blind`: a value without its measures. A measure is read back from its digits; nothing is
    said here about which one that is.
  * **`readValue_rendered`**: a regular value that is written with a line for each item is read
    up to its end, as the same value but for its measures.
  * **`read_render`**: so is a whole text; `read_renderText`: one text is read as itself.
-/

namespace Affordance.Json

open Affordance.Number
open Affordance.Text

/-! ## 1. Values -/

mutual

/-- A value without its measures. -/
def blind : Json → Json
  | num _ => num .undefined
  | arr items => arr (blindItems items)
  | obj fields => obj (blindFields fields)
  | v => v

/-- Items without their measures. -/
def blindItems : List Json → List Json
  | [] => []
  | v :: rest => v.blind :: blindItems rest

/-- Fields without their measures. -/
def blindFields : List (String × Json) → List (String × Json)
  | [] => []
  | (k, v) :: rest => (k, v.blind) :: blindFields rest

end

theorem lookup_blindFields (key : String) : ∀ fields : List (String × Json),
    (blindFields fields).lookup key = (fields.lookup key).map blind
  | [] => rfl
  | (k, v) :: rest => by
    rw [blindFields, List.lookup_cons, List.lookup_cons, lookup_blindFields key rest]
    cases key == k <;> rfl

/-! ## 2. Single values -/

section Reading

variable {src : Source} {i : Nat} {s : List Char}

/-- What is read where a word stands. -/
theorem wordAt_ahead (h : src.Ahead i s) : wordAt src i =
    (wordValues.find? fun w => startsWith s w.1.toList).map fun w => (w.2, i + w.1.length) := by
  unfold wordAt
  simp only [h.at_eq]

/-- A numeral is no word. -/
theorem wordAt_numeral {n : Numeral} (h : src.Ahead i (n.text ++ s)) : wordAt src i = none := by
  obtain ⟨c, rest, hc, hdigit⟩ := n.head_unsigned
  have hne : ∀ d, isDigitAscii d = false → c ≠ d := by
    rintro d hd rfl
    rw [hdigit] at hd
    cases hd
  rw [wordAt_ahead h, Numeral.text, hc]
  cases n.negative <;> simp [wordValues, startsWith, hne 'n' rfl, hne 't' rfl, hne 'f' rfl,
    hne 'N' rfl, hne 'I' rfl, hne '-' rfl]

/-- No word is found where another one stands. -/
theorem find_word {w : String} {v : Json} (h : (w, v) ∈ wordValues) (s : List Char) :
    (wordValues.find? fun u => startsWith (w.toList ++ s) u.1.toList) = some (w, v) ∧
      ∃ c rest, w.toList = c :: rest ∧ c ≠ '"' ∧ c ≠ '\x7b' ∧ c ≠ '[' := by
  simp only [wordValues, List.mem_cons, List.not_mem_nil, or_false] at h
  have hfirst : ∀ {c d : Char} {s frag : List Char}, c ≠ d →
      startsWith (c :: s) (d :: frag) = false := fun h => by
    rw [startsWith, beq_eq_false_iff_ne.mpr h, Bool.false_and]
  have hself : startsWith (w.toList ++ s) w.toList = true := (startsWith_iff _ _).mpr ⟨s, rfl⟩
  rcases h with h | h | h | h | h | h <;> cases h <;>
    refine ⟨?_, _, _, rfl, by decide⟩ <;>
    simp only [wordValues, List.find?_cons, hself] <;>
    simp only [String.reduceToList, List.cons_append, hfirst, ne_eq, Char.reduceEq,
      not_false_eq_true]

/-- A word is read as its value. -/
theorem readValue_word {w : String} {v : Json} (fuel : Nat) (hw : (w, v) ∈ wordValues)
    (h : src.Ahead i (w.toList ++ s)) :
    readValue src (fuel + 1) i = .ok (v, i + w.toList.length) := by
  obtain ⟨hfind, c, rest, hc, hsyntax⟩ := find_word hw s
  have hword := wordAt_ahead h
  rw [hfind] at hword
  rw [hc] at h
  rw [readValue, h.head]
  dsimp only
  rw [if_neg hsyntax.1, if_neg hsyntax.2.1, if_neg hsyntax.2.2, hword]
  rfl

/-- A number is read as a number. -/
theorem readValue_numeral {n : Numeral} (fuel : Nat) (h : src.Ahead i (n.text ++ s))
    (hs : Delimits s) : readValue src (fuel + 1) i = n.read i := by
  have hword := wordAt_numeral h
  have hnumber := readNumber_numeral h hs
  obtain ⟨c, rest, hc, hsyntax⟩ :
      ∃ c rest, n.text = c :: rest ∧ c ≠ '"' ∧ c ≠ '\x7b' ∧ c ≠ '[' := by
    obtain ⟨c, rest, hc, rfl | hdigit⟩ := n.head_text
    · exact ⟨'-', rest, hc, by decide⟩
    · refine ⟨c, rest, hc, ?_, ?_, ?_⟩ <;> rintro rfl <;> exact absurd hdigit (by decide)
  rw [hc] at h
  rw [readValue, h.head]
  dsimp only
  rw [if_neg hsyntax.1, if_neg hsyntax.2.1, if_neg hsyntax.2.2, hword]
  exact hnumber

/-- A text is read as a text. -/
theorem readValue_text {t : String} (fuel : Nat) (h : src.Ahead i (renderText false t ++ s)) :
    readValue src (fuel + 1) i = .ok (.str t, i + (renderText false t).length) := by
  have hstring := readString_renderText h
  rw [readValue, (show src.Ahead i ('"' :: _) from h).head]
  dsimp only
  rw [if_pos rfl, hstring]
  rfl

/-! ## 3. Measures -/

/-- A measure is written as a word or as a numeral. -/
theorem renderMeasure_cases (m : Measure) :
    (∃ w, (w, .num m) ∈ wordValues ∧ renderMeasure m = w.toList) ∨
      ∃ n : Numeral, n.text = renderMeasure m ∧ n.IsMeasure := by
  cases m with
  | undefined => exact .inl ⟨"NaN", by simp [wordValues], rfl⟩
  | infinity negative =>
    refine .inl ⟨if negative then "-Infinity" else "Infinity", ?_, rfl⟩
    cases negative <;> simp [wordValues]
  | minusZero => exact .inr (exists_numeral (by simp) (by simp))
  | value q => exact .inr (exists_numeral (by simp) (by simp))

/-- Every measure is read as some measure. -/
theorem readValue_measure {m : Measure} (fuel : Nat) (h : src.Ahead i (renderMeasure m ++ s))
    (hs : Delimits s) :
    ∃ m', readValue src (fuel + 1) i = .ok (.num m', i + (renderMeasure m).length) := by
  rcases renderMeasure_cases m with ⟨w, hw, htext⟩ | ⟨n, htext, hmeasure⟩
  · rw [htext] at h ⊢
    exact ⟨m, readValue_word fuel hw h⟩
  · rw [← htext] at h ⊢
    have hread := readValue_numeral fuel h hs
    rw [Numeral.read, hmeasure, if_neg Bool.false_ne_true] at hread
    exact ⟨_, hread⟩

/-! ## 4. White space -/

theorem passJsonSpace_none {c : Char} (h : src.Ahead i (c :: s)) (hc : isJsonSpace c = false) :
    passJsonSpace src i = i := by
  have hpass : src.passWhile isJsonSpace i = i + ([] : List Char).length :=
    h.passWhile (by simp) (by simpa using hc)
  exact hpass

/-- A line break with its blanks is passed. -/
theorem passJsonSpace_newline {level : Nat} {c : Char}
    (h : src.Ahead i (Style.indented.newline level ++ c :: s)) (hc : isJsonSpace c = false) :
    passJsonSpace src i = i + (Style.indented.newline level).length := by
  refine h.passWhile (fun d hd => ?_) (by simpa using hc)
  rcases List.mem_cons.mp hd with rfl | hd
  · decide
  · rw [List.eq_of_mem_replicate hd]
    decide

end Reading

/-- A character that may begin a value but is no white space, no bracket that ends a list and
    no mark of the octets' order. -/
def Begins (c : Char) : Prop := isJsonSpace c = false ∧ c ≠ ']' ∧ c.toNat < 128

instance (c : Char) : Decidable (Begins c) := inferInstanceAs (Decidable (_ ∧ _ ∧ _))

theorem begins_digit {c : Char} (h : isDigitAscii c = true) : Begins c := by
  have hall : ∀ n < 58, 48 ≤ n → Begins (Char.ofNat n) := by decide
  simp only [isDigitAscii, Bool.and_eq_true, decide_eq_true_eq] at h
  have hc := hall c.toNat (by omega) h.1
  rwa [Char.ofNat_toNat] at hc

/-- How written values begin. -/
theorem head_rendered (level : Nat) (v : Json) :
    ∃ c rest, renderAt .indented level v = c :: rest ∧ Begins c := by
  have hnumeral : ∀ n : Numeral, ∃ c rest, n.text = c :: rest ∧ Begins c := by
    intro n
    obtain ⟨c, rest, hc, rfl | hdigit⟩ := n.head_text
    · exact ⟨'-', rest, hc, by decide⟩
    · exact ⟨c, rest, hc, begins_digit hdigit⟩
  have hbracket : ∀ open_ close items, Begins open_ →
      ∃ c rest, bracket .indented level open_ close items = c :: rest ∧ Begins c := by
    intro open_ close items hopen
    unfold bracket
    split <;> exact ⟨open_, _, rfl, hopen⟩
  cases v with
  | null => exact ⟨'n', _, rfl, by decide⟩
  | bool b => cases b <;> exact ⟨_, _, rfl, by decide⟩
  | int i =>
    rw [renderAt, ← text_intNumeral]
    exact hnumeral _
  | num m =>
    rw [renderAt]
    rcases renderMeasure_cases m with ⟨w, hw, htext⟩ | ⟨n, htext, -⟩
    · have hall : ∀ u ∈ wordValues, ∃ c rest, u.1.toList = c :: rest ∧ Begins c := by
        simp only [wordValues, List.forall_mem_cons]
        exact ⟨⟨_, _, rfl, by decide⟩, ⟨_, _, rfl, by decide⟩, ⟨_, _, rfl, by decide⟩,
          ⟨_, _, rfl, by decide⟩, ⟨_, _, rfl, by decide⟩, ⟨_, _, rfl, by decide⟩, by simp⟩
      rw [htext]
      exact hall _ hw
    · rw [← htext]
      exact hnumeral n
  | str t => exact ⟨'"', _, rfl, by decide⟩
  | arr items =>
    rw [renderAt]
    exact hbracket _ _ _ (by decide)
  | obj fields =>
    rw [renderAt]
    exact hbracket _ _ _ (by decide)

/-! ## 5. Nested values -/

/-- Between two items: a comma and a line break. -/
def betweenItems (level : Nat) : List Char :=
  Style.indented.itemSep.toList ++ Style.indented.newline level

/-- A written field. -/
def fieldText (level : Nat) (f : String × Json) : List Char :=
  renderText false f.1 ++ Style.indented.keySep.toList ++ renderAt .indented level f.2

theorem renderItems_eq (st : Style) (level : Nat) : ∀ items : List Json,
    renderItems st level items = items.map (renderAt st level)
  | [] => rfl
  | v :: rest => by
    rw [renderItems, renderItems_eq st level rest]
    rfl

theorem renderFields_eq (st : Style) (level : Nat) : ∀ fields : List (String × Json),
    renderFields st level fields = fields.map fun f => (f.1, renderAt st level f.2)
  | [] => rfl
  | (k, v) :: rest => by
    rw [renderFields, renderFields_eq st level rest]
    rfl

/-- Items, each on a line of its own, up to the bracket that closes them. -/
def lined (level : Nat) (close : Char) (items : List (List Char)) : List Char :=
  joinChars (betweenItems (level + 1)) items ++ (Style.indented.newline level ++ [close])

theorem bracket_cons (level : Nat) (open_ close : Char) (x : List Char) (xs : List (List Char)) :
    bracket .indented level open_ close (x :: xs) =
      open_ :: (Style.indented.newline (level + 1) ++ lined level close (x :: xs)) := by
  simp [bracket, lined, betweenItems]

theorem renderAt_arr (level : Nat) (items : List Json) : renderAt .indented level (.arr items) =
    bracket .indented level '[' ']' (items.map (renderAt .indented (level + 1))) := by
  rw [renderAt, renderItems_eq]

theorem renderAt_obj (level : Nat) (fields : List (String × Json)) :
    renderAt .indented level (.obj fields) =
      bracket .indented level '\x7b' '\x7d' (fields.map (fieldText (level + 1))) := by
  rw [renderAt, renderFields_eq]
  show bracket _ _ _ _ (List.map _ (List.map _ fields)) = _
  rw [List.map_map]
  rfl

theorem lined_cons_cons (level : Nat) (close : Char) (x y : List Char) (rest : List (List Char)) :
    lined level close (x :: y :: rest) =
      x ++ ',' :: (Style.indented.newline (level + 1) ++ lined level close (y :: rest)) := by
  simp [lined, joinChars, betweenItems, Style.indented]

theorem lined_singleton (level : Nat) (close : Char) (x : List Char) :
    lined level close [x] = x ++ (Style.indented.newline level ++ [close]) := rfl

theorem delimits_newline (level : Nat) (s : List Char) :
    Delimits (Style.indented.newline level ++ s) := by
  rintro c ⟨rfl⟩
  decide

theorem delimits_comma (s : List Char) : Delimits (',' :: s) := by
  rintro c ⟨rfl⟩
  decide

/-- Lines begin as their first item does. -/
theorem head_lined {level : Nat} {close c : Char} {t : List Char} (xs : List (List Char)) :
    ∃ rest, lined level close ((c :: t) :: xs) = c :: rest := by
  cases xs with
  | nil => exact ⟨_, rfl⟩
  | cons y xs => exact ⟨_, lined_cons_cons level close (c :: t) y xs⟩

theorem head_items (level : Nat) {items : List Json} (hne : items ≠ []) : ∃ c rest,
    lined level ']' (items.map (renderAt .indented (level + 1))) = c :: rest ∧
      Begins c := by
  obtain ⟨v, items, rfl⟩ := List.exists_cons_of_ne_nil hne
  obtain ⟨c, t, hc, hbegins⟩ := head_rendered (level + 1) v
  rw [List.map_cons, hc]
  obtain ⟨rest, hrest⟩ := head_lined (items.map (renderAt .indented (level + 1)))
  exact ⟨c, rest, hrest, hbegins⟩

theorem head_fields (level : Nat) {fields : List (String × Json)} (hne : fields ≠ []) :
    ∃ rest, lined level '\x7d' (fields.map (fieldText (level + 1))) = '"' :: rest := by
  obtain ⟨f, fields, rfl⟩ := List.exists_cons_of_ne_nil hne
  exact head_lined (fields.map (fieldText (level + 1)))

section Lines

variable {src : Source} {i level : Nat} {first c : Char} {s : List Char}

/-- From an opening bracket or a comma to the next line. -/
theorem nextLine (h : src.Ahead i (first :: (Style.indented.newline level ++ c :: s)))
    (hc : isJsonSpace c = false) :
    passJsonSpace src (i + 1) = i + 1 + (Style.indented.newline level).length ∧
      src.Ahead (i + 1 + (Style.indented.newline level).length) (c :: s) :=
  ⟨passJsonSpace_newline h.tail hc, h.tail.drop⟩

/-- From the last item to the bracket that closes the list. -/
theorem lastLine (h : src.Ahead i (Style.indented.newline level ++ c :: s))
    (hc : isJsonSpace c = false) :
    passJsonSpace src i = i + (Style.indented.newline level).length ∧
      src[i + (Style.indented.newline level).length]? = some c :=
  ⟨passJsonSpace_newline h hc, h.drop.head⟩

/-- From a key to its value. -/
theorem afterKey (h : src.Ahead i (':' :: ' ' :: c :: s)) (hc : isJsonSpace c = false) :
    passJsonSpace src i = i ∧ src[i]? = some ':' ∧ passJsonSpace src (i + 1) = i + 2 := by
  refine ⟨passJsonSpace_none h (by decide), h.head, ?_⟩
  have hblank : src.Ahead (i + 1) ([' '] ++ c :: s) := h.tail
  exact hblank.passWhile (List.all_eq_true.mp rfl) (by simpa using hc)

/-- A list is read as the items on its lines are. -/
theorem readValue_list {fuel j : Nat} {vs : List Json}
    (h : src.Ahead i ('[' :: (Style.indented.newline level ++ c :: s)))
    (hc : isJsonSpace c = false) (hend : c ≠ ']')
    (hread : readItems src fuel (i + 1 + (Style.indented.newline level).length) = .ok (vs, j)) :
    readValue src (fuel + 1) i = .ok (.arr vs, j) := by
  obtain ⟨hpass, hfirst⟩ := nextLine h hc
  rw [readValue, h.head]
  dsimp only
  rw [if_neg (by decide), if_neg (by decide), if_pos rfl, hpass, hfirst.head,
    if_neg (by simpa using hend), hread]
  rfl

/-- An object is read as the fields on its lines are. -/
theorem readValue_object {fuel j : Nat} {vs : List (String × Json)}
    (h : src.Ahead i ('\x7b' :: (Style.indented.newline level ++ '"' :: s)))
    (hread : readFields src fuel [] (i + 1 + (Style.indented.newline level).length) =
      .ok (vs, j)) :
    readValue src (fuel + 1) i = .ok (.obj vs, j) := by
  obtain ⟨hpass, hfirst⟩ := nextLine h (by decide)
  rw [readValue, h.head]
  dsimp only
  rw [if_neg (by decide), if_pos rfl, hpass, hfirst.head, if_neg (by decide), hread]
  rfl

/-- A field is read with its key and its value; what comes next decides how it goes on. -/
theorem readFields_field {fuel j : Nat} {k : String} {v w : Json} {acc : List (String × Json)}
    (h : src.Ahead i (fieldText level (k, v) ++ s))
    (hread : readValue src fuel (i + (renderText false k).length + 2) = .ok (w, j)) :
    readFields src (fuel + 1) acc i =
      if src[passJsonSpace src j]? = some '\x7d' then
        .ok (Keyed.put k w acc, passJsonSpace src j + 1)
      else if src[passJsonSpace src j]? = some ',' then
        readFields src fuel (Keyed.put k w acc) (passJsonSpace src (passJsonSpace src j + 1))
      else fault .comma (passJsonSpace src j) := by
  obtain ⟨c, t, hc, hspace, -⟩ := head_rendered level v
  rw [fieldText, List.append_assoc, List.append_assoc] at h
  have hvalue := h.drop
  rw [hc] at hvalue
  obtain ⟨hnone, hcolon, hblank⟩ := afterKey hvalue hspace
  rw [readFields, (show src.Ahead i ('"' :: _) from h).head, if_pos rfl, readString_renderText h]
  dsimp only
  rw [hnone, hcolon, if_pos rfl, hblank, hread]

theorem ahead_value {k : String} {v : Json} (h : src.Ahead i (fieldText level (k, v) ++ s)) :
    src.Ahead (i + (renderText false k).length + 2) (renderAt .indented level v ++ s) := by
  rw [fieldText, List.append_assoc, List.append_assoc] at h
  exact h.drop.drop

theorem length_fieldText (level : Nat) (k : String) (v : Json) :
    (fieldText level (k, v)).length =
      (renderText false k).length + 2 + (renderAt .indented level v).length := by
  rw [fieldText, List.length_append, List.length_append]
  rfl

end Lines

/-- A new key comes behind the ones before it. -/
theorem put_of_nodup {k : String} {v w : Json} {acc rest : List (String × Json)}
    (h : ((acc ++ (k, v) :: rest).map (·.1)).Nodup) : Keyed.put k w acc = acc ++ [(k, w)] := by
  refine Keyed.put_of_new fun hk => ?_
  rw [List.map_append, List.nodup_append] at h
  exact h.2.2 k hk k List.mem_cons_self rfl

mutual

/-- **A written value is read up to its end**, as the same value but for its measures. -/
theorem readValue_rendered {src : Source} : ∀ (v : Json) {i fuel level : Nat} {s : List Char},
    v.Regular → src.Ahead i (renderAt .indented level v ++ s) → Delimits s →
      (renderAt .indented level v).length ≤ fuel →
      ∃ w, w.blind = v.blind ∧
        readValue src fuel i = .ok (w, i + (renderAt .indented level v).length)
  | v, i, 0, level, s, _, _, _, hfuel => by
    obtain ⟨c, rest, hc, -⟩ := head_rendered level v
    rw [hc] at hfuel
    exact absurd hfuel (Nat.not_succ_le_zero _)
  | .null, i, fuel + 1, level, s, _, h, _, _ =>
    ⟨.null, rfl, readValue_word fuel (w := "null") (by simp [wordValues]) h⟩
  | .bool b, i, fuel + 1, level, s, _, h, _, _ => by
    refine ⟨.bool b, rfl, ?_⟩
    rw [renderAt] at h ⊢
    cases b <;> exact readValue_word fuel (by simp [wordValues]) h
  | .int v, i, fuel + 1, level, s, hv, h, hs, _ => by
    rw [renderAt, ← text_intNumeral] at h
    refine ⟨.int v, rfl, (readValue_numeral fuel h hs).trans ?_⟩
    rw [renderAt]
    exact read_intNumeral hv i
  | .num m, i, fuel + 1, level, s, _, h, hs, _ => by
    rw [renderAt] at h ⊢
    obtain ⟨m', hread⟩ := readValue_measure fuel h hs
    exact ⟨.num m', rfl, hread⟩
  | .str t, i, fuel + 1, level, s, _, h, _, _ => by
    rw [renderAt] at h ⊢
    exact ⟨.str t, rfl, readValue_text fuel h⟩
  | .arr [], i, fuel + 1, level, s, _, h, _, _ => by
    refine ⟨.arr [], rfl, ?_⟩
    have hopen : src.Ahead i ('[' :: ']' :: s) := h
    rw [readValue, hopen.head]
    dsimp only
    rw [if_neg (by decide), if_neg (by decide), if_pos rfl,
      passJsonSpace_none hopen.tail (by decide), hopen.tail.head, if_pos rfl]
    rfl
  | .arr (v :: rest), i, fuel + 1, level, s, hv, h, _, hfuel => by
    rw [renderAt_arr, List.map_cons, bracket_cons, ← List.map_cons, List.length_cons,
      List.length_append] at hfuel ⊢
    rw [renderAt_arr, List.map_cons, bracket_cons, ← List.map_cons, List.cons_append,
      List.append_assoc] at h
    obtain ⟨c, t, hc, hspace, hend, -⟩ := head_items level (List.cons_ne_nil v rest)
    obtain ⟨ws, hws, hread⟩ := readItems_rendered (v :: rest) (List.cons_ne_nil v rest) hv
      h.tail.drop (Nat.le_of_add_left_le (Nat.le_of_succ_le_succ hfuel))
    rw [hc, List.cons_append] at h
    refine ⟨.arr ws, by rw [blind, blind, hws], ?_⟩
    rw [readValue_list h hspace hend hread]
    congr 2
    omega
  | .obj [], i, fuel + 1, level, s, _, h, _, _ => by
    refine ⟨.obj [], rfl, ?_⟩
    have hopen : src.Ahead i ('\x7b' :: '\x7d' :: s) := h
    rw [readValue, hopen.head]
    dsimp only
    rw [if_neg (by decide), if_pos rfl, passJsonSpace_none hopen.tail (by decide),
      hopen.tail.head, if_pos rfl]
    rfl
  | .obj (f :: rest), i, fuel + 1, level, s, hv, h, _, hfuel => by
    rw [renderAt_obj, List.map_cons, bracket_cons, ← List.map_cons, List.length_cons,
      List.length_append] at hfuel ⊢
    rw [renderAt_obj, List.map_cons, bracket_cons, ← List.map_cons, List.cons_append,
      List.append_assoc] at h
    obtain ⟨t, hc⟩ := head_fields level (List.cons_ne_nil f rest)
    have hkeys : (([] ++ f :: rest).map fun g : String × Json => g.1).Nodup := hv.1
    obtain ⟨ws, hws, hread⟩ := readFields_rendered (f :: rest) (List.cons_ne_nil f rest) hv.2
      hkeys h.tail.drop (Nat.le_of_add_left_le (Nat.le_of_succ_le_succ hfuel))
    rw [hc, List.cons_append] at h
    refine ⟨.obj ws, by rw [blind, blind, hws], ?_⟩
    rw [readValue_object h hread]
    congr 2
    omega

/-- Written items are read up to the end of their list. -/
theorem readItems_rendered {src : Source} : ∀ (items : List Json) {i fuel level : Nat}
    {s : List Char}, items ≠ [] → RegularItems items →
    src.Ahead i (lined level ']' (items.map (renderAt .indented (level + 1))) ++ s) →
    (lined level ']' (items.map (renderAt .indented (level + 1)))).length ≤ fuel →
    ∃ ws, blindItems ws = blindItems items ∧ readItems src fuel i =
      .ok (ws, i + (lined level ']' (items.map (renderAt .indented (level + 1)))).length)
  | [], _, _, _, _, hne, _, _, _ => absurd rfl hne
  | v :: rest, i, 0, level, s, hne, _, _, hfuel => by
    obtain ⟨c, t, hc, -⟩ := head_items level hne
    rw [hc] at hfuel
    exact absurd hfuel (Nat.not_succ_le_zero _)
  | [v], i, fuel + 1, level, s, _, hv, h, hfuel => by
    rw [List.map_singleton, lined_singleton] at h hfuel ⊢
    rw [List.append_assoc, List.append_assoc, List.singleton_append] at h
    rw [List.length_append, List.length_append, List.length_singleton] at hfuel ⊢
    have hvalue : (renderAt .indented (level + 1) v).length ≤ fuel := by omega
    obtain ⟨w, hw, hread⟩ := readValue_rendered v hv.1 h (delimits_newline level _) hvalue
    obtain ⟨hpass, hclose⟩ := lastLine h.drop (by decide)
    refine ⟨[w], congrArg (· :: []) hw, ?_⟩
    rw [readItems, hread]
    dsimp only
    rw [hpass, hclose, if_pos rfl]
    simp only [Nat.add_assoc]
  | v :: u :: rest, i, fuel + 1, level, s, _, hv, h, hfuel => by
    rw [List.map_cons, List.map_cons, lined_cons_cons, ← List.map_cons] at h hfuel ⊢
    rw [List.append_assoc, List.cons_append, List.append_assoc] at h
    rw [List.length_append, List.length_cons, List.length_append] at hfuel ⊢
    obtain ⟨c, t, hc, hspace, -⟩ := head_items level (List.cons_ne_nil u rest)
    have hvalue : (renderAt .indented (level + 1) v).length ≤ fuel := by omega
    obtain ⟨w, hw, hread⟩ := readValue_rendered v hv.1 h (delimits_comma _) hvalue
    have hcomma := h.drop
    have hmore : (lined level ']' ((u :: rest).map (renderAt .indented (level + 1)))).length ≤
        fuel := by omega
    obtain ⟨ws, hws, hreads⟩ := readItems_rendered (u :: rest) (List.cons_ne_nil u rest) hv.2
      hcomma.tail.drop hmore
    have hnext := hcomma
    rw [hc, List.cons_append] at hnext
    refine ⟨w :: ws, by rw [blindItems, hw, hws]; rfl, ?_⟩
    rw [readItems, hread]
    dsimp only
    rw [passJsonSpace_none hcomma (by decide), hcomma.head, if_neg (by decide), if_pos rfl,
      (nextLine hnext hspace).1, hreads]
    simp only [Except.map]
    congr 2
    omega

/-- Written fields are read up to the end of their object, behind those read so far. -/
theorem readFields_rendered {src : Source} : ∀ (fields : List (String × Json))
    {i fuel level : Nat} {s : List Char} {acc : List (String × Json)}, fields ≠ [] →
    RegularFields fields → ((acc ++ fields).map (·.1)).Nodup →
    src.Ahead i (lined level '\x7d' (fields.map (fieldText (level + 1))) ++ s) →
    (lined level '\x7d' (fields.map (fieldText (level + 1)))).length ≤ fuel →
    ∃ ws, blindFields ws = blindFields fields ∧ readFields src fuel acc i =
      .ok (acc ++ ws, i + (lined level '\x7d' (fields.map (fieldText (level + 1)))).length)
  | [], _, _, _, _, _, hne, _, _, _, _ => absurd rfl hne
  | f :: rest, i, 0, level, s, acc, hne, _, _, _, hfuel => by
    obtain ⟨t, hc⟩ := head_fields level hne
    rw [hc] at hfuel
    exact absurd hfuel (Nat.not_succ_le_zero _)
  | [(k, v)], i, fuel + 1, level, s, acc, _, hv, hkeys, h, hfuel => by
    rw [List.map_singleton, lined_singleton] at h hfuel ⊢
    rw [List.append_assoc, List.append_assoc, List.singleton_append] at h
    rw [List.length_append, List.length_append, length_fieldText, List.length_singleton] at hfuel ⊢
    have hvalue : (renderAt .indented (level + 1) v).length ≤ fuel := by omega
    obtain ⟨w, hw, hread⟩ := readValue_rendered v hv.1 (ahead_value h) (delimits_newline level _)
      hvalue
    obtain ⟨hpass, hclose⟩ := lastLine (ahead_value h).drop (by decide)
    refine ⟨[(k, w)], congrArg (fun u => [(k, u)]) hw, ?_⟩
    rw [readFields_field h hread, hpass, hclose, if_pos rfl, put_of_nodup hkeys]
    simp only [Nat.add_assoc]
  | (k, v) :: g :: rest, i, fuel + 1, level, s, acc, _, hv, hkeys, h, hfuel => by
    rw [List.map_cons, List.map_cons, lined_cons_cons, ← List.map_cons] at h hfuel ⊢
    rw [List.append_assoc, List.cons_append, List.append_assoc] at h
    rw [List.length_append, List.length_cons, List.length_append, length_fieldText] at hfuel ⊢
    obtain ⟨t, hc⟩ := head_fields level (List.cons_ne_nil g rest)
    have hvalue : (renderAt .indented (level + 1) v).length ≤ fuel := by omega
    obtain ⟨w, hw, hread⟩ := readValue_rendered v hv.1 (ahead_value h) (delimits_comma _) hvalue
    have hcomma := (ahead_value h).drop
    have hmore : (lined level '\x7d' ((g :: rest).map (fieldText (level + 1)))).length ≤
        fuel := by omega
    have hkeys' : (((acc ++ [(k, w)]) ++ g :: rest).map (·.1)).Nodup := by
      rw [List.append_assoc, List.map_append]
      rwa [List.map_append] at hkeys
    obtain ⟨ws, hws, hreads⟩ := readFields_rendered (g :: rest) (List.cons_ne_nil g rest) hv.2
      hkeys' hcomma.tail.drop hmore
    have hnext := hcomma
    rw [hc, List.cons_append] at hnext
    refine ⟨(k, w) :: ws, by rw [blindFields, hw, hws]; rfl, ?_⟩
    rw [readFields_field h hread, passJsonSpace_none hcomma (by decide), hcomma.head,
      if_neg (by decide), if_pos rfl, (nextLine hnext (by decide)).1, put_of_nodup hkeys, hreads,
      List.append_assoc, List.singleton_append]
    congr 2
    omega

end

/-! ## 6. Whole texts -/

/-- **A regular value is read back from its text**, but for its measures. -/
theorem read_render {v : Json} (hv : v.Regular) :
    ∃ w, w.blind = v.blind ∧ read (render .indented v).toList.toArray = .ok w := by
  rw [render, String.toList_ofList]
  obtain ⟨c, rest, hc, hspace, -, hascii⟩ := head_rendered 0 v
  have h : Source.Ahead (renderAt .indented 0 v).toArray 0 (renderAt .indented 0 v ++ []) := by
    rw [List.append_nil]
    exact Source.ahead_toArray _
  have hsize : (renderAt .indented 0 v).toArray.size = (renderAt .indented 0 v).length :=
    List.size_toArray
  generalize (renderAt .indented 0 v).toArray = src at h hsize ⊢
  obtain ⟨w, hw, hread⟩ := readValue_rendered v hv h (by simp [Delimits])
    (show _ ≤ 2 * src.size + 2 by omega)
  have hend : passJsonSpace src (0 + (renderAt .indented 0 v).length) =
      0 + (renderAt .indented 0 v).length + ([] : List Char).length :=
    h.drop.passWhile (by simp) (by simp)
  rw [hc, List.cons_append] at h
  have hmark : ¬ src[0]? = some (Char.ofNat 0xfeff) := by
    rw [h.head]
    rintro ⟨rfl⟩
    exact absurd hascii (by decide)
  refine ⟨w, hw, ?_⟩
  rw [read, if_neg hmark, passJsonSpace_none h hspace, hread]
  dsimp only
  rw [hend, if_pos (by rw [hsize, Nat.zero_add]; rfl)]

/-- **A text is read back from its text.** -/
theorem read_renderText (t : String) : read (renderText false t).toArray = .ok (.str t) := by
  obtain ⟨w, hw, hread⟩ := read_render (v := .str t) trivial
  rw [render, String.toList_ofList, renderAt] at hread
  cases w with
  | str u => rwa [show u = t from Json.str.inj hw] at hread
  | null | bool | int | num | arr | obj => cases hw

end Affordance.Json
