import Mathlib.Data.List.Forall2
import Affordance.Proofs.Text.Ahead
import Affordance.Proofs.Text.Matches

/-!
# The texts that patterns pass

  * `Pattern.Spells`: the texts that a pattern can pass, whatever stands around them: looks to
    either side pass nothing.
  * **`attempt_spells`**: what leads to a match passes a text of the pattern. One case for each kind
    of pattern; a repetition by the number of steps it has left.
  * `spells_lit_iff`, `spells_words_iff` and their like: the texts of the patterns that are built
    from others.
  * `not_mem_of_avoids`: a character that no text of a pattern holds.
  * `matchAt_spells`, `matchStart_spells`, `matchStart_atEnd`, `matchStart_group`: what a match, and
    one from the beginning of a text, tells of the text.
  * `attempt_group`: what a group before white space holds, whatever comes after it.
-/

namespace Affordance.Text.Pattern

/-! ## 1. Texts of a pattern -/

/-- Texts of a kind, one after the other. -/
inductive Star (kind : List Char → Prop) : List Char → Prop where
  | nil : Star kind []
  | cons {t u : List Char} (head : kind t) (tail : Star kind u) : Star kind (t ++ u)

/-- What holds of all characters of texts holds of the texts one after the other. -/
theorem Star.forall {kind : List Char → Prop} {p : Char → Prop}
    (h : ∀ t, kind t → ∀ c ∈ t, p c) {t : List Char} (ht : Star kind t) : ∀ c ∈ t, p c := by
  induction ht with
  | nil => exact fun _ hc => absurd hc List.not_mem_nil
  | cons head _ ih => exact List.forall_mem_append.mpr ⟨h _ head, ih⟩

/-- The texts that a pattern can pass. -/
def Spells : Pattern → List Char → Prop
  | empty, t => t = []
  | one p, t => ∃ c, t = [c] ∧ p c = true
  | seq a b, t => ∃ u v, t = u ++ v ∧ Spells a u ∧ Spells b v
  | alt a b, t => Spells a t ∨ Spells b t
  | run p, t => ∀ c ∈ t, p c = true
  | fewest p, t => ∀ c ∈ t, p c = true
  | many a, t => Star (Spells a) t
  | group _ a, t => Spells a t
  | again _, _ => True
  | ahead _, t => t = []
  | notAhead _, t => t = []
  | after _, t => t = []
  | notAfter _, t => t = []
  | wordEdge, t => t = []
  | lineStart, t => t = []
  | atEnd, t => t = []

/-- No part of the pattern repeats what a group holds. -/
def isPlain : Pattern → Bool
  | seq a b => isPlain a && isPlain b
  | alt a b => isPlain a && isPlain b
  | many a => isPlain a
  | group _ a => isPlain a
  | again _ => false
  | _ => true

/-! ## 2. Passing -/

/-- The text stands between two positions. -/
structure Between (src : Source) (i : Nat) (t : List Char) (j : Nat) : Prop where
  ahead : src.toList.drop i = t ++ src.toList.drop j
  length : j = i + t.length

namespace Between

variable {src : Source} {i j k : Nat} {t u : List Char} {c : Char}

protected theorem nil : Between src i [] i := ⟨rfl, rfl⟩

theorem append (h : Between src i t j) (h' : Between src j u k) : Between src i (t ++ u) k where
  ahead := by rw [h.ahead, h'.ahead, List.append_assoc]
  length := by rw [h'.length, h.length, List.length_append, Nat.add_assoc]

theorem single (h : src[i]? = some c) : Between src i [c] (i + 1) where
  ahead := by
    have hlist : src.toList[i]? = some c := by rw [Array.getElem?_toList]; exact h
    obtain ⟨hi, hc⟩ := List.getElem?_eq_some_iff.mp hlist
    rw [List.drop_eq_getElem_cons hi, hc]
    rfl
  length := rfl

end Between

variable {src : Source}

theorem passWithin_between (p : Char → Bool) : ∀ (n : Nat) {i j : Nat}, i ≤ j →
    j ≤ src.passWithin p n i → ∃ t, Between src i t j ∧ ∀ c ∈ t, p c = true
  | 0, i, j, hij, hj => by
    obtain rfl : i = j := Nat.le_antisymm hij hj
    exact ⟨[], .nil, by simp⟩
  | n + 1, i, j, hij, hj => by
    rw [Source.passWithin] at hj
    rcases Nat.eq_or_lt_of_le hij with rfl | hlt
    · exact ⟨[], .nil, by simp⟩
    split at hj
    · next c hc =>
      split at hj
      · next hp =>
        obtain ⟨t, ht, hall⟩ := passWithin_between p n hlt hj
        exact ⟨c :: t, (Between.single hc).append ht, List.forall_mem_cons.mpr ⟨hp, hall⟩⟩
      · omega
    · omega

theorem tryDown_within {k : Nat → Option Reached} {r : Reached} : ∀ {n i : Nat},
    tryDown k i n = some r → ∃ j, i ≤ j ∧ j ≤ i + n ∧ k j = some r
  | 0, i, h => ⟨i, Nat.le_refl i, Nat.le_refl i, h⟩
  | n + 1, i, h => by
    rw [tryDown] at h
    cases hk : k (i + (n + 1)) with
    | none =>
      rw [hk] at h
      obtain ⟨j, hij, hj, hkj⟩ := tryDown_within h
      exact ⟨j, hij, Nat.le_succ_of_le hj, hkj⟩
    | some r' =>
      rw [hk] at h
      exact ⟨_, Nat.le_add_right i _, Nat.le_refl _, hk.trans h⟩

theorem tryUp_within {k : Nat → Option Reached} {r : Reached} : ∀ {n i : Nat},
    tryUp k n i = some r → ∃ j, i ≤ j ∧ j ≤ i + n ∧ k j = some r
  | 0, i, h => ⟨i, Nat.le_refl i, Nat.le_refl i, h⟩
  | n + 1, i, h => by
    rw [tryUp] at h
    cases hk : k i with
    | none =>
      rw [hk] at h
      obtain ⟨j, hij, hj, hkj⟩ := tryUp_within h
      exact ⟨j, by omega, by omega, hkj⟩
    | some r' =>
      rw [hk] at h
      exact ⟨i, Nat.le_refl i, Nat.le_add_right i _, hk.trans h⟩

/-- Some characters of a class are passed by a repetition of it. -/
theorem run_between (p : Char → Bool) {i j : Nat} (hij : i ≤ j)
    (hj : j ≤ i + (src.passWhile p i - i)) :
    ∃ t, Between src i t j ∧ ∀ c ∈ t, p c = true := by
  have hle := src.le_passWhile p i
  exact passWithin_between p (src.size - i) hij (by unfold Source.passWhile at *; omega)

theorem repeatMost_spells {kind : List Char → Prop} {step : Nat → Groups → Cont → Option Reached}
    {k : Cont} {r : Reached}
    (hstep : ∀ {i g k}, step i g k = some r →
      ∃ t j g', kind t ∧ Between src i t j ∧ k j g' = some r) :
    ∀ {n i : Nat} {g : Groups}, repeatMost step k n i g = some r →
      ∃ t j g', Star kind t ∧ Between src i t j ∧ k j g' = some r
  | 0, i, g, h => ⟨[], i, g, .nil, .nil, h⟩
  | n + 1, i, g, h => by
    rw [repeatMost] at h
    cases hs : step i g (fun j g' => if i < j then repeatMost step k n j g' else none) with
    | none =>
      rw [hs] at h
      exact ⟨[], i, g, .nil, .nil, h⟩
    | some r' =>
      rw [hs] at h
      obtain ⟨t, j, g', ht, hbetween, hj⟩ := hstep (hs.trans h)
      split at hj
      · obtain ⟨u, l, g'', hu, hbetween', hl⟩ := repeatMost_spells hstep hj
        exact ⟨t ++ u, l, g'', .cons ht hu, hbetween.append hbetween', hl⟩
      · cases hj

/-- **What leads to a match passes a text of the pattern.** -/
theorem attempt_spells {r : Reached} (p : Pattern) (hp : p.isPlain = true) :
    ∀ {i : Nat} {g : Groups} {k : Cont}, attempt src p i g k = some r →
      ∃ t j g', p.Spells t ∧ Between src i t j ∧ k j g' = some r := by
  induction p with
  | empty => exact fun h => ⟨[], _, _, rfl, .nil, h⟩
  | one p =>
    intro i g k h
    simp only [attempt] at h
    split at h
    · next c hc =>
      split at h
      · next htest => exact ⟨[c], _, _, ⟨c, rfl, htest⟩, .single hc, h⟩
      · cases h
    · cases h
  | seq a b iha ihb =>
    obtain ⟨ha, hb⟩ := Bool.and_eq_true_iff.mp hp
    intro i g k h
    obtain ⟨t, j, g', ht, hbetween, hj⟩ := iha ha h
    obtain ⟨u, l, g'', hu, hbetween', hl⟩ := ihb hb hj
    exact ⟨t ++ u, l, g'', ⟨t, u, rfl, ht, hu⟩, hbetween.append hbetween', hl⟩
  | alt a b iha ihb =>
    obtain ⟨ha, hb⟩ := Bool.and_eq_true_iff.mp hp
    intro i g k h
    simp only [attempt] at h
    split at h
    · next hattempt =>
      obtain ⟨t, j, g', ht, hrest⟩ := iha ha (hattempt.trans h)
      exact ⟨t, j, g', .inl ht, hrest⟩
    · obtain ⟨t, j, g', ht, hrest⟩ := ihb hb h
      exact ⟨t, j, g', .inr ht, hrest⟩
  | run p =>
    intro i g k h
    obtain ⟨j, hij, hj, hk⟩ := tryDown_within h
    obtain ⟨t, hbetween, ht⟩ := run_between p hij hj
    exact ⟨t, j, g, ht, hbetween, hk⟩
  | fewest p =>
    intro i g k h
    obtain ⟨j, hij, hj, hk⟩ := tryUp_within h
    obtain ⟨t, hbetween, ht⟩ := run_between p hij hj
    exact ⟨t, j, g, ht, hbetween, hk⟩
  | many a ih => exact fun h => repeatMost_spells (ih hp) h
  | group name a ih =>
    intro i g k h
    obtain ⟨t, j, g', ht, hbetween, hj⟩ := ih hp h
    exact ⟨t, j, _, ht, hbetween, hj⟩
  | again name => cases hp
  | ahead | notAhead | after | notAfter | wordEdge | lineStart | atEnd =>
    -- These pass nothing: they go on at the same position, or fail.
    intro i g k h
    simp only [attempt] at h
    repeat' split at h
    all_goals first | exact ⟨[], _, _, rfl, .nil, h⟩ | cases h

/-! ## 3. Patterns built from others -/

section Built

variable {a b : Pattern} {p : Char → Bool} {t : List Char}

theorem spells_append_iff : (a ++ b).Spells t ↔ ∃ u v, t = u ++ v ∧ a.Spells u ∧ b.Spells v :=
  Iff.rfl

theorem spells_opt_iff : (opt a).Spells t ↔ a.Spells t ∨ t = [] := Iff.rfl

theorem spells_char_iff (c : Char) : (char c).Spells t ↔ t = [c] := by
  simp [char, Spells]

theorem spells_chars_iff : ∀ (cs : List Char) {t : List Char}, (chars cs).Spells t ↔ t = cs
  | [], _ => Iff.rfl
  | [c], _ => spells_char_iff c
  | c :: d :: rest, t => by
    have hrest : ∀ v, (chars (d :: rest)).Spells v ↔ v = d :: rest :=
      fun _ => spells_chars_iff (d :: rest)
    rw [chars, spells_append_iff]
    · simp only [spells_char_iff, hrest]
      exact ⟨fun ⟨_, _, h, hu, hv⟩ => by rw [h, hu, hv]; rfl, fun h => ⟨[c], _, h, rfl, rfl⟩⟩
    · simp

theorem spells_lit_iff (w : String) : (lit w).Spells t ↔ t = w.toList := spells_chars_iff w.toList

theorem isPlain_lit (w : String) : (lit w).isPlain = true := by
  have hchars : ∀ cs : List Char, (chars cs).isPlain = true := by
    intro cs
    induction cs with
    | nil => rfl
    | cons c rest ih =>
      cases rest with
      | nil => rfl
      | cons d rest => exact ih
  exact hchars w.toList

theorem spells_words_iff : ∀ {ws : List String}, (words ws).Spells t ↔ ∃ w ∈ ws, t = w.toList
  | [] => by simp [words, Spells]
  | [w] => by simp [words, spells_lit_iff]
  | w :: v :: rest => by
    have halt : (words (w :: v :: rest)).Spells t ↔
        (lit w).Spells t ∨ (words (v :: rest)).Spells t := Iff.rfl
    rw [halt, spells_words_iff, spells_lit_iff]
    simp only [List.exists_mem_cons_iff]

theorem spells_litAnyCase_iff (w : String) : (litAnyCase w).Spells t ↔
    List.Forall₂ (fun l c => sameLetter l c = true) w.toList t := by
  unfold litAnyCase
  induction w.toList generalizing t with
  | nil => exact List.forall₂_nil_left_iff.symm
  | cons l rest ih =>
    rw [List.map_cons, List.foldr_cons, List.forall₂_cons_left_iff]
    constructor
    · rintro ⟨_, v, rfl, ⟨c, rfl, hc⟩, hv⟩
      exact ⟨c, v, hc, ih.mp hv, rfl⟩
    · rintro ⟨c, v, hc, hv, rfl⟩
      exact ⟨[c], v, rfl, ⟨c, rfl, hc⟩, ih.mpr hv⟩

end Built

/-- No text of the pattern holds the character. -/
def avoids (c : Char) : Pattern → Bool
  | one p => !p c
  | seq a b => avoids c a && avoids c b
  | alt a b => avoids c a && avoids c b
  | run p => !p c
  | fewest p => !p c
  | many a => avoids c a
  | group _ a => avoids c a
  | again _ => false
  | _ => true

theorem not_mem_of_avoids {c : Char} {p : Pattern} (hp : p.avoids c = true) {t : List Char}
    (ht : p.Spells t) : c ∉ t := by
  have hclass : ∀ {test : Char → Bool} {t : List Char}, (!test c) = true →
      (∀ d ∈ t, test d = true) → c ∉ t := by
    intro test t hc hall hmem
    rw [hall c hmem] at hc
    cases hc
  induction p generalizing t with
  | one test =>
    obtain ⟨d, rfl, hd⟩ := ht
    exact hclass hp (by simpa using hd)
  | seq a b iha ihb =>
    obtain ⟨ha, hb⟩ := Bool.and_eq_true_iff.mp hp
    obtain ⟨u, v, rfl, hu, hv⟩ := ht
    exact List.not_mem_append (iha ha hu) (ihb hb hv)
  | alt a b iha ihb =>
    obtain ⟨ha, hb⟩ := Bool.and_eq_true_iff.mp hp
    rcases ht with ht | ht
    · exact iha ha ht
    · exact ihb hb ht
  | run test | fewest test => exact hclass hp ht
  | many a ih =>
    have hother : ∀ d ∈ t, d ≠ c := by
      refine Star.forall (fun u hu d hd e => ?_) ht
      rw [e] at hd
      exact ih hp hu hd
    exact fun hmem => hother c hmem rfl
  | group name a ih => exact ih hp ht
  | again name => cases hp
  | empty | ahead | notAhead | after | notAfter | wordEdge | lineStart | atEnd =>
    obtain rfl : t = [] := ht
    exact List.not_mem_nil

/-! ## 4. Matches -/

/-- A match passes a text of the pattern. -/
theorem matchAt_spells {p : Pattern} {i : Nat} {m : Match} (hp : p.isPlain = true)
    (h : p.matchAt src i = some m) : ∃ t, p.Spells t ∧ Between src m.start t m.stop := by
  obtain ⟨hattempt, -, rfl⟩ := matchAt_eq_some.mp h
  obtain ⟨t, j, g, ht, hbetween, hj⟩ := attempt_spells p hp hattempt
  obtain rfl : j = m.stop := congrArg Prod.fst (Option.some.inj hj)
  exact ⟨t, ht, hbetween⟩

theorem start_le_stop {p : Pattern} {i : Nat} {m : Match} (hp : p.isPlain = true)
    (h : p.matchAt src i = some m) : m.start ≤ m.stop := by
  obtain ⟨t, -, hbetween⟩ := matchAt_spells hp h
  have := hbetween.length
  omega

/-! ## 5. Matches from the beginning -/

section Start

variable {p q : Pattern} {s : List Char} {m : Match}

theorem between_start {t : List Char} {j : Nat} (h : Between s.toArray 0 t j) :
    s = t ++ s.drop j ∧ j = t.length := by
  refine ⟨?_, by rw [h.length, Nat.zero_add]⟩
  have hahead := h.ahead
  rwa [List.toList_toArray, List.drop_zero] at hahead

/-- What is left of a text where it may end. -/
theorem drop_atEnd {src : Source} {j : Nat}
    (h : (j == src.size || (j + 1 == src.size && src[j]? == some '\n')) = true) :
    src.toList.drop j = [] ∨ src.toList.drop j = ['\n'] := by
  simp only [Bool.or_eq_true, Bool.and_eq_true, beq_iff_eq] at h
  rcases h with rfl | ⟨hsize, hc⟩
  · left
    exact List.drop_eq_nil_iff.mpr (Nat.le_of_eq Array.length_toList)
  · right
    obtain ⟨hahead, -⟩ := Between.single hc
    have hnil : src.toList.drop (j + 1) = [] :=
      List.drop_eq_nil_iff.mpr (Nat.le_of_eq (Array.length_toList.trans hsize.symm))
    rw [hahead, hnil]
    rfl

/-- A match is the beginning of the text. -/
theorem matchStart_spells (hp : p.isPlain = true) (h : p.matchStart s = some m) :
    ∃ t rest, s = t ++ rest ∧ p.Spells t ∧ m.stop = t.length := by
  obtain ⟨t, ht, hbetween⟩ := matchAt_spells hp h
  rw [(matchAt_eq_some.mp h).2.2] at hbetween
  obtain ⟨hs, hlength⟩ := between_start hbetween
  exact ⟨t, _, hs, ht, hlength⟩

/-- A match of the whole text is a text of the pattern. -/
theorem fullMatch_spells (hp : p.isPlain = true) (h : p.fullMatch s = some m) : p.Spells s := by
  obtain ⟨⟨stop, g⟩, hattempt, -⟩ := Option.map_eq_some_iff.mp h
  obtain ⟨t, j, g', ht, hbetween, hj⟩ := attempt_spells p hp hattempt
  obtain ⟨hs, -⟩ := between_start hbetween
  split at hj
  · next hend =>
    have hnil : s.drop j = [] := by
      rw [beq_iff_eq] at hend
      rw [List.drop_eq_nil_iff, hend]
      simp
    rw [hnil, List.append_nil] at hs
    rwa [hs]
  · cases hj

/-- A match up to the end is the text, but for a line feed. -/
theorem matchStart_atEnd (hp : p.isPlain = true) (h : (p ++ atEnd).matchStart s = some m) :
    ∃ t rest, s = t ++ rest ∧ p.Spells t ∧ (rest = [] ∨ rest = ['\n']) := by
  obtain ⟨t, j, g, ht, hbetween, hj⟩ := attempt_spells p hp (matchAt_eq_some.mp h).1
  obtain ⟨hs, -⟩ := between_start hbetween
  simp only [attempt] at hj
  split at hj
  · next hend =>
    have hrest := drop_atEnd hend
    rw [List.toList_toArray] at hrest
    exact ⟨t, _, hs, ht, hrest⟩
  · cases hj

/-- A last group up to the end holds what follows a beginning of the text. -/
theorem matchStart_group {name : String} (hp : p.isPlain = true) (hq : q.isPlain = true)
    (h : (p ++ group name q ++ atEnd).matchStart s = some m) :
    ∃ t u rest, s = t ++ (u ++ rest) ∧ p.Spells t ∧ q.Spells u ∧ (rest = [] ∨ rest = ['\n']) ∧
      m.chars? name = some u := by
  obtain ⟨hattempt, hsource, -⟩ := matchAt_eq_some.mp h
  obtain ⟨t, j, g, ht, hbetween, hj⟩ := attempt_spells p hp hattempt
  obtain ⟨u, l, g', hu, hbetween', hl⟩ := attempt_spells q hq hj
  obtain ⟨hs, -⟩ := between_start hbetween
  simp only [attempt] at hl
  split at hl
  · next hend =>
    have hrest := drop_atEnd hend
    have hahead := hbetween'.ahead
    rw [List.toList_toArray] at hrest hahead
    refine ⟨t, u, _, by rw [← hahead]; exact hs, ht, hu, hrest, ?_⟩
    have hgroups : m.groups = (name, j, l) :: g' := (congrArg Prod.snd (Option.some.inj hl)).symm
    have hslice : Source.slice s.toArray j l = u := by
      rw [hbetween'.length]
      exact Source.Ahead.slice hbetween'.ahead
    rw [Match.chars?, hgroups, hsource]
    simp [hslice]
  · cases hl

end Start

/-! ## 6. Groups -/

/-- A group before white space holds a text of its pattern. -/
theorem attempt_group {p q : Pattern} {name : String} {i : Nat} {g : Groups} {k : Cont}
    {r : Reached} (hq : q.isPlain = true)
    (h : attempt src (p ++ group name q ++ space) i g k = some r) :
    ∃ t a b g' j, q.Spells t ∧ Between src a t b ∧ k j ((name, a, b) :: g') = some r := by
  obtain ⟨a, g', hgroup⟩ := attempt_accepted p h
  obtain ⟨t, b, g'', ht, hbetween, hspace⟩ := attempt_spells q hq hgroup
  obtain ⟨j, hj⟩ := tryDown_accepted hspace
  exact ⟨t, a, b, g'', j, ht, hbetween, hj⟩

/-- The text of the latest group. -/
theorem text_latest {m : Match} {name : String} {a b : Nat} {g : Groups} {t : List Char}
    (hgroups : m.groups = (name, a, b) :: g) (h : Between m.source a t b) :
    m.text name = String.ofList t := by
  have hslice : m.source.slice a b = t := by
    rw [h.length]
    exact Source.Ahead.slice h.ahead
  rw [Match.text, Match.text?, Match.chars?, hgroups]
  simp [hslice]

end Affordance.Text.Pattern
