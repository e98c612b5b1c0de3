import Affordance.Tool.Candidate
import Affordance.Proofs.Text.Pieces

/-!
# What the identity of a tool tells apart

A tool's identity is the digest of one text, in which bars stand between what the tool means.

  * `Candidate.meaning`: the component, the kind, the trigger and the inputs of a tool as a
    user sees them, letter case aside.
  * `joinChars_inj`: texts joined by a separator are told apart by the joined text and by HOW
    OFTEN the separator occurs in each of them. Nothing is escaped, so the joined text alone
    does not do it.
  * `count_lower`: small letters neither make nor lose a bar.
  * **`meaning_eq_iff`**: two tools mean the same exactly if their identity texts are the same
    and bars occur equally often in each of their parts; without bars in the parts the text
    alone tells the meaning.
  * `bar_hides_change`: a bar that moves from a label to a name changes the meaning of a tool
    and leaves its identity as it was.
-/

namespace Affordance

open Affordance.Text

/-! ## 1. Meanings -/

/-- What an input means to a user, letter case aside. -/
structure InputMeaning where
  key : String
  label : String
  type : String
  deriving Repr, DecidableEq

/-- What a tool means to a user, letter case aside. -/
structure Meaning where
  component : String
  kind : String
  tag : String
  label : String
  name : String
  inputs : List InputMeaning
  deriving Repr, DecidableEq

/-- The meaning of an input: its key, its label, and its type or else its tag. -/
def Element.meaning (e : Element) : InputMeaning where
  key := toLower (e.parameterKey.getD "")
  label := toLower ((firstText [e.label, e.ariaLabel]).getD "")
  type := toLower ((nonEmpty e.inputType).getD e.tag.text)

/-- The meaning of a tool. -/
def Candidate.meaning (c : Candidate) : Meaning where
  component := toLower c.componentName
  kind := toLower c.kind.text
  tag := toLower ((c.trigger.map (·.tag.text)).getD "")
  label := toLower ((c.trigger.bind (·.label)).getD "")
  name := toLower ((c.trigger.bind (·.name)).getD "")
  inputs := c.inputs.map Element.meaning

/-- The meaning of an input as texts. -/
def InputMeaning.parts (m : InputMeaning) : List String := [m.key, m.label, m.type]

/-- A meaning as texts. -/
def Meaning.parts (m : Meaning) : List String :=
  [m.component, m.kind, m.tag, m.label, m.name] ++ m.inputs.flatMap InputMeaning.parts

/-- The meanings of inputs can be told from their texts, since each has three. -/
theorem inputParts_inj : ∀ {ms ns : List InputMeaning},
    ms.flatMap InputMeaning.parts = ns.flatMap InputMeaning.parts → ms = ns
  | [], [], _ => rfl
  | [], n :: ns, h => by simp [InputMeaning.parts] at h
  | m :: ms, [], h => by simp [InputMeaning.parts] at h
  | m :: ms, n :: ns, h => by
    simp only [List.flatMap_cons, InputMeaning.parts, List.cons_append, List.nil_append,
      List.cons.injEq] at h
    obtain ⟨hkey, hlabel, htype, hrest⟩ := h
    have hmn : m = n := by
      cases m
      cases n
      simp_all
    rw [hmn, inputParts_inj hrest]

theorem Meaning.parts_inj {m n : Meaning} (h : m.parts = n.parts) : m = n := by
  simp only [Meaning.parts, List.cons_append, List.nil_append, List.cons.injEq] at h
  obtain ⟨hcomponent, hkind, htag, hlabel, hname, hinputs⟩ := h
  have := inputParts_inj hinputs
  cases m
  cases n
  simp_all

/-- What is joined to the identity text is the meaning. -/
theorem map_toLower_identityParts (c : Candidate) :
    c.identityParts.map toLower = c.meaning.parts := by
  have hinputs : ∀ es : List Element,
      (es.flatMap Candidate.inputParts).map toLower =
        (es.map Element.meaning).flatMap InputMeaning.parts := by
    intro es
    rw [List.map_flatMap, List.flatMap_map]
    rfl
  simp only [Candidate.identityParts, Meaning.parts, List.map_append, hinputs]
  rfl

/-! ## 2. Bars in small letters -/

/-- A code point that no run maps to, and that is not the given one, does not come out. -/
theorem mapRuns_ne {m n : Nat} : ∀ {runs : List CaseRun},
    (∀ r ∈ runs, (m : Int) < r.first + r.shift ∨ r.last + r.shift < m) → 0 < m → n ≠ m →
      mapRuns n runs ≠ m
  | [], _, _, hn => hn
  | r :: rest, h, hm, hn => by
    unfold mapRuns
    by_cases hc : r.covers n = true
    · rw [if_pos hc]
      simp only [CaseRun.covers, Bool.and_eq_true, decide_eq_true_eq] at hc
      have hr := h r List.mem_cons_self
      omega
    · rw [if_neg hc]
      exact mapRuns_ne (fun q hq => h q (List.mem_cons_of_mem r hq)) hm hn

theorem ofNat_eq_bar {n : Nat} (h : Char.ofNat n = '|') : n = 124 := by
  by_cases hv : n.isValidChar
  · rw [Char.ofNat, dif_pos hv] at h
    exact congrArg Char.toNat h
  · rw [Char.ofNat, dif_neg hv] at h
    exact absurd (congrArg Char.toNat h) (by decide)

/-- Only the bar has the bar as its small form. -/
theorem lowerChar_eq_bar {c : Char} : lowerChar c = '|' ↔ c = '|' := by
  constructor
  · intro h
    refine Decidable.byContradiction fun hc => ?_
    have hne : c.toNat ≠ 124 := fun e => hc (Char.toNat_inj.mp e)
    unfold lowerChar at h
    by_cases hascii : c.toNat < 128
    · rw [if_pos hascii] at h
      by_cases hup : isUpperAscii c = true
      · rw [if_pos hup] at h
        simp only [isUpperAscii, Bool.and_eq_true, decide_eq_true_eq] at hup
        have := ofNat_eq_bar h
        omega
      · rw [if_neg hup] at h
        exact hc h
    · rw [if_neg hascii] at h
      exact mapRuns_ne (by decide +kernel) (by omega) hne (ofNat_eq_bar h)
  · rintro rfl
    decide

/-- The small form of a character has a bar if it is one. -/
theorem count_lowerFrom (s : List Char) : ∀ before : List Char,
    (lowerFrom before s).count '|' = s.count '|' := by
  induction s with
  | nil => exact fun _ => rfl
  | cons c s ih =>
    intro before
    unfold lowerFrom
    dsimp only
    by_cases hsigma : c.toNat = 0x3a3
    · have hc : c ≠ '|' := by rintro rfl; simp at hsigma
      have hfinal : ∀ b : Bool, (if b then Char.ofNat 0x3c2 else Char.ofNat 0x3c3) ≠ '|' := by
        decide
      rw [if_pos hsigma, List.count_cons_of_ne (hfinal _), List.count_cons_of_ne hc, ih]
    · rw [if_neg hsigma]
      by_cases hdotted : c.toNat = 0x130
      · have hc : c ≠ '|' := by rintro rfl; simp at hdotted
        rw [if_pos hdotted, List.count_cons_of_ne (by decide), List.count_cons_of_ne (by decide),
          List.count_cons_of_ne hc, ih]
      · rw [if_neg hdotted, List.count_cons, List.count_cons, ih]
        simp only [beq_iff_eq, lowerChar_eq_bar]

/-- **Small letters neither make nor lose a bar.** -/
theorem count_lower (s : List Char) : (lower s).count '|' = s.count '|' := count_lowerFrom s []

/-! ## 3. Joined texts -/

section Joined

variable {sep : Char}

/-- **Joined texts are told apart by how often each holds the separator.** -/
theorem joinChars_inj : ∀ {xs ys : List (List Char)}, joinChars [sep] xs = joinChars [sep] ys →
    xs.map (·.count sep) = ys.map (·.count sep) → xs = ys
  | [], [], _, _ => rfl
  | [], _ :: _, _, hcount => by simp at hcount
  | _ :: _, [], _, hcount => by simp at hcount
  | [x], [y], h, _ => congrArg (fun z => [z]) h
  | [_], _ :: _ :: _, _, hcount => by simp at hcount
  | _ :: _ :: _, [_], _, hcount => by simp at hcount
  | x :: x' :: xs, y :: y' :: ys, h, hcount => by
    simp only [joinChars, List.append_assoc, List.singleton_append] at h
    obtain ⟨hxy, hcounts⟩ := List.cons.inj hcount
    obtain ⟨rfl, hrest⟩ := append_sep_inj h hxy
    rw [joinChars_inj hrest hcounts]

/-- A joined text holds the separators of its pieces and those between them. -/
theorem count_joinChars : ∀ {xs : List (List Char)}, xs ≠ [] →
    (joinChars [sep] xs).count sep + 1 = xs.flatten.count sep + xs.length
  | [], h => absurd rfl h
  | [x], _ => by simp [joinChars]
  | x :: y :: xs, _ => by
    have ih := count_joinChars (List.cons_ne_nil y xs)
    simp only [joinChars, List.count_append, List.count_singleton_self, List.flatten_cons,
      List.length_cons] at ih ⊢
    omega

end Joined

/-! ## 4. Identities -/

namespace Candidate

/-- How often a bar occurs in each of the parts of an identity. -/
def bars (c : Candidate) : List Nat := c.identityParts.map fun p => p.toList.count '|'

/-- No part of the identity holds a bar. -/
def BarFree (c : Candidate) : Prop := ∀ p ∈ c.identityParts, '|' ∉ p.toList

/-- The parts in small letters, as they are joined. -/
def loweredParts (c : Candidate) : List (List Char) :=
  (c.identityParts.map toLower).map String.toList

theorem identityText_eq (c : Candidate) :
    c.identityText = String.ofList (joinChars ['|'] c.loweredParts) := rfl

theorem count_loweredParts (c : Candidate) : c.loweredParts.map (·.count '|') = c.bars := by
  simp only [loweredParts, bars, List.map_map]
  refine List.map_congr_left fun p _ => ?_
  simp only [Function.comp, toLower, String.toList_ofList]
  exact count_lower p.toList

theorem loweredParts_ne_nil (c : Candidate) : c.loweredParts ≠ [] := by
  simp [loweredParts, identityParts]

/-- Texts without bars that are joined to the same text are equally many. -/
theorem bars_eq_of_barFree {c d : Candidate} (hc : c.BarFree) (hd : d.BarFree)
    (h : c.identityText = d.identityText) : c.bars = d.bars := by
  have zeros : ∀ e : Candidate, e.BarFree → e.bars = List.replicate e.identityParts.length 0 := by
    intro e he
    rw [List.eq_replicate_iff]
    refine ⟨List.length_map _, fun n hn => ?_⟩
    obtain ⟨p, hp, rfl⟩ := List.mem_map.mp hn
    exact List.count_eq_zero.mpr (he p hp)
  have length : ∀ e : Candidate, e.loweredParts.length = e.identityParts.length := by
    intro e
    simp [loweredParts]
  have hjoined : joinChars ['|'] c.loweredParts = joinChars ['|'] d.loweredParts :=
    String.ofList_injective h
  have hcountc := @count_joinChars '|' _ c.loweredParts_ne_nil
  have hcountd := @count_joinChars '|' _ d.loweredParts_ne_nil
  rw [List.count_flatten, count_loweredParts, zeros c hc, length] at hcountc
  rw [List.count_flatten, count_loweredParts, zeros d hd, length] at hcountd
  rw [hjoined] at hcountc
  simp only [List.sum_replicate_nat, Nat.mul_zero, Nat.zero_add] at hcountc hcountd
  rw [zeros c hc, zeros d hd, ← hcountc, ← hcountd]

/-- Tools with one identity text and the same bars mean the same. -/
theorem meaning_of_identityText {c d : Candidate} (h : c.identityText = d.identityText)
    (hbars : c.bars = d.bars) : c.meaning = d.meaning := by
  have hjoined : joinChars ['|'] c.loweredParts = joinChars ['|'] d.loweredParts :=
    String.ofList_injective h
  have hparts : c.loweredParts = d.loweredParts := by
    refine joinChars_inj hjoined ?_
    rw [count_loweredParts, count_loweredParts, hbars]
  have hlower : c.identityParts.map toLower = d.identityParts.map toLower :=
    (List.map_inj_right fun _ _ => String.toList_inj.mp).mp hparts
  rw [map_toLower_identityParts, map_toLower_identityParts] at hlower
  exact Meaning.parts_inj hlower

/-- **What identities tell apart**: tools mean the same exactly if they have one identity text
    and hold bars equally often in each of their parts; where no part holds a bar, the
    identity text tells the whole meaning. -/
theorem meaning_eq_iff (c d : Candidate) :
    (c.meaning = d.meaning ↔ c.identityText = d.identityText ∧ c.bars = d.bars) ∧
    (c.BarFree → d.BarFree → c.identityText = d.identityText → c.meaning = d.meaning) := by
  refine ⟨⟨fun h => ?_, fun ⟨htext, hbars⟩ => meaning_of_identityText htext hbars⟩,
    fun hc hd htext => meaning_of_identityText htext (bars_eq_of_barFree hc hd htext)⟩
  have hparts : c.loweredParts = d.loweredParts := by
    unfold loweredParts
    rw [map_toLower_identityParts, map_toLower_identityParts, h]
  refine ⟨?_, ?_⟩
  · rw [identityText_eq, identityText_eq, hparts]
  · rw [← count_loweredParts, ← count_loweredParts, hparts]

/-! ## 5. A bar that moves -/

/-- The tool of a button with a label and a name. -/
def ofButton (label name : String) : Candidate where
  kind := .action
  componentName := "page"
  trigger := some { tag := .button, name := some name, label := some label }

/-- **The identity text alone does not tell the meaning**: a bar that moves from the label of a
    button into its name leaves the identity as it was. Letter case makes no difference, and
    without bars nothing else goes unseen. -/
theorem bar_hides_change :
    ((ofButton "open|save" "file").identityText = (ofButton "open" "save|file").identityText ∧
      (ofButton "open|save" "file").meaning ≠ (ofButton "open" "save|file").meaning ∧
      (ofButton "open|save" "file").bars ≠ (ofButton "open" "save|file").bars) ∧
    ((ofButton "Open" "file").BarFree ∧ (ofButton "OPEN" "File").BarFree ∧
      (ofButton "Open" "file").identityText = (ofButton "OPEN" "File").identityText ∧
      (ofButton "Open" "file").meaning = (ofButton "OPEN" "File").meaning) := by
  have hmeaning : (ofButton "open|save" "file").meaning ≠
      (ofButton "open" "save|file").meaning := by
    decide +kernel
  have htext : (ofButton "open|save" "file").identityText =
      (ofButton "open" "save|file").identityText := by
    decide +kernel
  have hfree : (ofButton "Open" "file").BarFree ∧ (ofButton "OPEN" "File").BarFree := by
    unfold BarFree
    decide +kernel
  have hparts : (ofButton "Open" "file").loweredParts = (ofButton "OPEN" "File").loweredParts := by
    decide +kernel
  have hcase : (ofButton "Open" "file").identityText = (ofButton "OPEN" "File").identityText := by
    rw [identityText_eq, identityText_eq, hparts]
  refine ⟨⟨htext, hmeaning, fun hbars => hmeaning ?_⟩, hfree.1, hfree.2, hcase, ?_⟩
  · exact (meaning_eq_iff _ _).1.mpr ⟨htext, hbars⟩
  · exact (meaning_eq_iff _ _).2 hfree.1 hfree.2 hcase

end Candidate

end Affordance
