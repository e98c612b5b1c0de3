import Mathlib.Data.List.TakeWhile
import Affordance.Proofs.Succeeds
import Affordance.Proofs.Text.Spelling
import Affordance.Script.Triviality

/-!
# What trivial bodies are

  * `Framed`: a text stands in another one, and only characters of two classes stand around it;
    `framed_strip`, `framed_stripEndBy`, **`framed_unwrap`**: so does what is left of a text that is
    stripped or unwrapped.
  * `SetterCall`: a text is one call of a setter, with its name and its arguments.
  * **`trivial_cases`**: a statement that only stores a value is one call of a setter, or no
    parenthesis opens in it.
-/

namespace Affordance.Script

open Affordance.Text
open Affordance.Text.Pattern

/-! ## 1. Frames -/

/-- A part of a text has characters of one class in front of it and of another behind it. -/
def Framed (front back : Char → Bool) (whole part : List Char) : Prop :=
  ∃ u v, whole = u ++ part ++ v ∧ (∀ c ∈ u, front c = true) ∧ ∀ c ∈ v, back c = true

section Frames

variable {front back front' back' : Char → Bool} {r s t : List Char}

theorem Framed.refl (s : List Char) : Framed front back s s := ⟨[], [], by simp, by simp, by simp⟩

theorem Framed.mono (h : Framed front back s t) (hfront : ∀ c, front c = true → front' c = true)
    (hback : ∀ c, back c = true → back' c = true) : Framed front' back' s t := by
  obtain ⟨u, v, hs, hu, hv⟩ := h
  exact ⟨u, v, hs, fun c hc => hfront c (hu c hc), fun c hc => hback c (hv c hc)⟩

theorem Framed.trans (h : Framed front back r s) (h' : Framed front back s t) :
    Framed front back r t := by
  obtain ⟨u, v, rfl, hu, hv⟩ := h
  obtain ⟨u', v', rfl, hu', hv'⟩ := h'
  exact ⟨u ++ u', v' ++ v, by simp, List.forall_mem_append.mpr ⟨hu, hu'⟩,
    List.forall_mem_append.mpr ⟨hv', hv⟩⟩

theorem framed_stripEndBy (front p : Char → Bool) (s : List Char) :
    Framed front p s (stripEndBy p s) := by
  refine ⟨[], (s.reverse.takeWhile p).reverse, ?_, by simp, fun c hc => ?_⟩
  · rw [List.nil_append, stripEndBy, ← List.reverse_append, List.takeWhile_append_dropWhile,
      List.reverse_reverse]
  · exact List.mem_takeWhile_imp (List.mem_reverse.mp hc)

theorem framed_strip (s : List Char) : Framed isSpace isSpace s (strip s) := by
  refine Framed.trans ?_ (framed_stripEndBy isSpace isSpace (s.dropWhile isSpace))
  refine ⟨s.takeWhile isSpace, [], ?_, fun c hc => List.mem_takeWhile_imp hc, by simp⟩
  rw [List.append_nil, List.takeWhile_append_dropWhile]

/-- A text that is stripped of a class ends with no character of it. -/
theorem stripEndBy_ne {p : Char → Bool} {c : Char} (hc : p c = true) (s t : List Char) :
    stripEndBy p s ≠ t ++ [c] := by
  intro h
  have hfirst : s.reverse.dropWhile p = c :: t.reverse := by
    rw [← List.reverse_reverse (s.reverse.dropWhile p)]
    exact (congrArg List.reverse h).trans (by simp)
  have hnot := List.head?_dropWhile_not p s.reverse
  rw [hfirst] at hnot
  simp [hc] at hnot

end Frames

/-! ## 2. Unwrapped bodies -/

/-- What may stand in front of an unwrapped body. -/
def opensFrame (c : Char) : Bool := isSpace c || c == '{' || c == '('

/-- What may stand behind an unwrapped body. -/
def closesFrame (c : Char) : Bool := isSpace c || c == '}' || c == ')' || c == ';'

theorem opensFrame_of_isSpace (c : Char) (h : isSpace c = true) : opensFrame c = true := by
  simp [opensFrame, h]

theorem closesFrame_of_isSpace (c : Char) (h : isSpace c = true) : closesFrame c = true := by
  simp [closesFrame, h]

theorem framed_strip' (s : List Char) : Framed opensFrame closesFrame s (strip s) :=
  (framed_strip s).mono opensFrame_of_isSpace closesFrame_of_isSpace

/-- The text between its first and its last character, if these differ. -/
theorem eq_of_startsWith_endsWith {s : List Char} {c d : Char} (hc : startsWith s [c] = true)
    (hd : endsWith s [d] = true) (hne : c ≠ d) : s = c :: (inner s ++ [d]) := by
  obtain ⟨rest, rfl⟩ := (startsWith_iff _ _).mp hc
  obtain ⟨rest', hreverse⟩ := (startsWith_iff _ _).mp hd
  rcases List.eq_nil_or_concat rest with rfl | ⟨t, e, rfl⟩
  · exact absurd (by simpa using hreverse) fun h : c = d ∧ _ => hne h.1
  · obtain rfl : e = d := by
      have := congrArg List.head? hreverse
      simpa using this
    simp [inner]

theorem framed_unbrace : ∀ (n : Nat) (s : List Char), Framed opensFrame closesFrame s (unbrace n s)
  | 0, s => .refl s
  | n + 1, s => by
    rw [unbrace]
    split
    · next hbraces =>
      obtain ⟨hopen, hclose⟩ := Bool.and_eq_true_iff.mp hbraces
      have hinner : Framed opensFrame closesFrame s (inner s) :=
        ⟨['{'], ['}'], by simpa using eq_of_startsWith_endsWith hopen hclose (by decide),
          List.forall_mem_singleton.mpr rfl, List.forall_mem_singleton.mpr rfl⟩
      exact (hinner.trans (framed_strip' _)).trans (framed_unbrace n _)
    · exact .refl s

theorem framed_unparen : ∀ (n : Nat) {s t : List Char}, unparen n s = .ok t →
    Framed opensFrame closesFrame s t
  | 0, s, t, h => by
    cases h
    exact .refl s
  | n + 1, s, t, h => by
    rw [unparen] at h
    split at h
    · next hparens =>
      obtain ⟨hopen, hclose⟩ := Bool.and_eq_true_iff.mp hparens
      obtain ⟨close, -, h⟩ := bind_eq_ok_iff.mp h
      split at h
      · have hinner : Framed opensFrame closesFrame s (inner s) :=
          ⟨['('], [')'], by simpa using eq_of_startsWith_endsWith hopen hclose (by decide),
            List.forall_mem_singleton.mpr rfl, List.forall_mem_singleton.mpr rfl⟩
        exact (hinner.trans (framed_strip' _)).trans (framed_unparen n h)
      · cases h
        exact .refl s
    · cases h
      exact .refl s

/-- **An unwrapped body stands in the body.** -/
theorem framed_unwrap {body : String} {stmt : List Char} (h : unwrap body = .ok stmt) :
    Framed opensFrame closesFrame body.toList stmt := by
  obtain ⟨s, hs, h⟩ := bind_eq_ok_iff.mp h
  obtain rfl : strip (stripEndBy (· == ';') s) = stmt := Except.ok.inj h
  have hend : Framed opensFrame closesFrame s (stripEndBy (· == ';') s) :=
    (framed_stripEndBy isSpace _ s).mono opensFrame_of_isSpace (by simp [closesFrame])
  exact ((((framed_strip' _).trans (framed_unbrace _ _)).trans (framed_unparen _ hs)).trans
    hend).trans (framed_strip' _)

/-- An unwrapped body does not end in white space. -/
theorem unwrap_ne {body : String} {stmt : List Char} (h : unwrap body = .ok stmt) {c : Char}
    (hc : isSpace c = true) (t : List Char) : stmt ≠ t ++ [c] := by
  obtain ⟨s, -, h⟩ := bind_eq_ok_iff.mp h
  rw [← Except.ok.inj h]
  exact stripEndBy_ne hc _ t

/-! ## 3. Statements -/

/-- The name of a setter with the white space behind it. -/
def setterName : Pattern :=
  opt (lit "this.") ++ lit "set" ++ one isUpperAscii ++ run isNameChar ++ space

/-- The statement is one call of a setter. -/
structure SetterCall (stmt name args : List Char) : Prop where
  split : stmt = name ++ '(' :: (args ++ [')'])
  spelled : setterName.Spells name
  /-- The parenthesis behind the name is closed at the end of the statement. -/
  closed : skip stmt.toArray [')'] (name.length + 1) = name.length + 1 + args.length

theorem setterCall_of_match {s : List Char} {m : Match} (hm : setterCall.matchStart s = some m)
    (hend : ∀ t, s ≠ t ++ ['\n'])
    (hclose : skip s.toArray [')'] ((Source.findChar s.toArray '(' 0).getD 0 + 1) + 1 = s.length) :
    ∃ name args, SetterCall s name args := by
  have hm : (setterName ++ char '(' ++ run (fun _ => true) ++ char ')' ++ atEnd).matchStart s =
    some m := hm
  obtain ⟨t, rest, hs, ⟨_, close, rfl, ⟨_, args, rfl, ⟨name, op, rfl, hname, hop⟩, -⟩, hcl⟩,
    hrest⟩ := matchStart_atEnd rfl hm
  obtain rfl : rest = [] := hrest.resolve_right fun h => hend _ (h ▸ hs)
  rw [(spells_char_iff '(').mp hop, (spells_char_iff ')').mp hcl] at hs
  have hsplit : s = name ++ '(' :: (args ++ [')']) := by simpa using hs
  have hparen : '(' ∉ name := not_mem_of_avoids (p := setterName) rfl hname
  have hfind : Source.findChar s.toArray '(' 0 = some (0 + name.length) :=
    Source.Ahead.findChar (by rw [← hsplit]; exact Source.ahead_toArray s) hparen
  have hlength := congrArg List.length hsplit
  rw [hfind] at hclose
  simp only [Option.getD_some, List.length_append, List.length_cons, List.length_nil, Nat.zero_add]
    at hclose hlength
  exact ⟨name, args, hsplit, hname, by omega⟩

/-- **A trivial statement is one call of a setter, or no parenthesis opens in it.** -/
theorem trivial_cases {s : List Char} (h : isTrivialStatement s = true)
    (hend : ∀ t, s ≠ t ++ ['\n']) : (∃ name args, SetterCall s name args) ∨ '(' ∉ s := by
  unfold isTrivialStatement at h
  split at h
  · next hempty =>
    rw [List.isEmpty_iff.mp hempty]
    exact .inr List.not_mem_nil
  · dsimp only at h
    split at h
    · cases h
    · rcases Bool.or_eq_true_iff.mp h with hsetter | hassign
      · left
        obtain ⟨hmatch, hclose⟩ := Bool.and_eq_true_iff.mp hsetter
        obtain ⟨m, hm⟩ := Option.isSome_iff_exists.mp hmatch
        exact setterCall_of_match hm hend (by simpa using hclose)
      · right
        obtain ⟨m, hm⟩ := Option.isSome_iff_exists.mp hassign
        obtain ⟨t, rest, rfl, ht, hrest⟩ := matchStart_atEnd (by rfl) hm
        have hparen : '(' ∉ t := not_mem_of_avoids (by decide) ht
        rcases hrest with rfl | rfl <;> simp [hparen]

end Affordance.Script
