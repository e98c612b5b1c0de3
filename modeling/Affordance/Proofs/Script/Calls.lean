import Affordance.Proofs.Text.Forward
import Affordance.Script.Request

/-!
# Where the calls to a server stand

  * `requestStarts`: the places where the calls of a text begin; `requests_eq_nil_iff`: there are
    requests iff there are such places.
  * `opensCall`: the characters that the name of what is called can begin with.
  * `Callee`: what is called, up to the opening parenthesis.
  * **`call_of_mem_requestStarts`**: what is called stands at each such place, with its parenthesis
    behind it and the end of no other name in front of it.
  * `CallAt.outside`, `CallAt.before`, `CallAt.paren`, `CallAt.boundary`: where a call cannot
    stand.
-/

namespace Affordance.Script

open Affordance.Text
open Affordance.Text.Pattern

/-! ## 1. Places -/

/-- The places where the calls to a server in a function body begin. -/
def requestStarts (body : String) : List Nat :=
  (fetchCall.findAll (Source.of body)).map (·.start) ++
  (verbCall.findAll (Source.of body)).map (·.start)

theorem requests_eq_nil_iff (body : String) : requests body = [] ↔ requestStarts body = [] := by
  simp [requests, inOrder, requestStarts, ← List.length_eq_zero_iff, List.length_mergeSort]

/-! ## 2. Names of what is called -/

/-- A call to a server can begin with the character. -/
def opensCall (c : Char) : Bool := "f$oahckr".toList.any (sameLetter · c)

/-- Besides ASCII letters and the dollar sign this is the Kelvin sign alone. -/
theorem opensCall_cases {c : Char} (h : opensCall c = true) :
    c ∈ "fF$oOaAhHcCkKrR\u212a".toList := by
  by_cases hascii : c.toNat < 128
  · have hall : ∀ n < 128, opensCall (Char.ofNat n) = true →
        Char.ofNat n ∈ "fF$oOaAhHcCkKrR\u212a".toList := by decide +kernel
    have := hall c.toNat hascii
    rw [Char.ofNat_toNat] at this
    exact this h
  · have hkelvin : ∀ l ∈ "f$oahckr".toList, sameLetter l c = true → c = '\u212a' := by
      intro l hl hsame
      simp only [sameLetter, if_neg hascii] at hsame
      have hall : "f$oahckr".toList.all (fun l => lowerChar l == l && l.toNat < 128) = true := rfl
      obtain ⟨hlower, hsmall⟩ : lowerChar l = l ∧ l.toNat < 128 := by
        simpa using List.all_eq_true.mp hall l hl
      rw [hlower] at hsame
      split at hsame
      · exact absurd hl (by decide)
      · exact absurd hl (by decide)
      · rw [← Char.ofNat_toNat c, beq_iff_eq.mp hsame]
      · rw [← beq_iff_eq.mp hsame] at hascii
        exact absurd hsmall hascii
    obtain ⟨l, hl, hsame⟩ := List.any_eq_true.mp h
    rw [hkelvin l hl hsame]
    decide

/-- What is called, up to the opening parenthesis. -/
inductive Callee : List Char → Prop where
  | fetch {w : String} {blanks : List Char} (word : w ∈ ["fetch", "$fetch", "ofetch"])
      (space : ∀ c ∈ blanks, isSpace c = true) : Callee (w.toList ++ blanks)
  | verb {client method rest : List Char} {w v : String}
      (client_name : w ∈ clientNames)
      (client_letters : List.Forall₂ (fun l c => sameLetter l c = true) w.toList client)
      (method_name : v ∈ verbNames)
      (method_letters : List.Forall₂ (fun l c => sameLetter l c = true) v.toList method)
      (generic : (∀ c ∈ rest, isSpace c = true) ∨
        ∃ front blanks, rest = front ++ '>' :: blanks ∧ ∀ c ∈ blanks, isSpace c = true) :
      Callee (client ++ '.' :: (method ++ rest))

theorem exists_of_forall₂ {α β : Type} {r : α → β → Prop} {xs : List α} {ys : List β} {y : β}
    (h : List.Forall₂ r xs ys) (hy : y ∈ ys) : ∃ x ∈ xs, r x y := by
  induction h with
  | nil => cases hy
  | @cons a b xs ys hab _ ih =>
    rcases List.mem_cons.mp hy with rfl | hy
    · exact ⟨a, List.mem_cons_self, hab⟩
    · obtain ⟨x, hx, hxy⟩ := ih hy
      exact ⟨x, List.mem_cons_of_mem a hx, hxy⟩

/-- A letter in any case is no white space. -/
theorem isSpace_of_sameLetter {l c : Char} (hl : isLowerAscii l = true)
    (h : sameLetter l c = true) : isSpace c = false := by
  simp only [isLowerAscii, Bool.and_eq_true, decide_eq_true_eq] at hl
  have hlower : ∀ n < 128, 97 ≤ n ∧ n ≤ 122 → lowerChar (Char.ofNat n) = Char.ofNat n := by decide
  have hsmall := hlower l.toNat (by omega) hl
  rw [Char.ofNat_toNat] at hsmall
  rw [sameLetter, hsmall] at h
  split at h
  · next hascii =>
    have hspace : ∀ n < 128, 97 ≤ (lowerChar (Char.ofNat n)).toNat →
        isSpace (Char.ofNat n) = false := by decide
    have hc := hspace c.toNat hascii
    rw [Char.ofNat_toNat, ← beq_iff_eq.mp h] at hc
    exact hc hl.1
  · next hascii =>
    have hone : ∀ n, (c.toNat == n) = true → c = Char.ofNat n := by
      intro n hn
      rw [← beq_iff_eq.mp hn, Char.ofNat_toNat]
    split at h
    · rcases Bool.or_eq_true_iff.mp h with h | h <;> rw [hone _ h] <;> decide
    · rw [hone _ h]
      decide
    · rw [hone _ h]
      decide
    · rw [← beq_iff_eq.mp h] at hascii
      omega

section Callees

variable {callee : List Char}

/-- What is called begins with a character that a call can begin with. -/
theorem Callee.head (h : Callee callee) : ∃ c rest, callee = c :: rest ∧ opensCall c = true := by
  cases h with
  | @fetch w blanks word space =>
    have hwords : ∀ w ∈ ["fetch", "$fetch", "ofetch"],
        w.toList = w.toList.headD ' ' :: w.toList.tail ∧ opensCall (w.toList.headD ' ') = true := by
      decide
    obtain ⟨hw, hc⟩ := hwords w word
    exact ⟨_, w.toList.tail ++ blanks, by rw [← List.cons_append, ← hw], hc⟩
  | @verb client method rest w v hw hclient _ _ _ =>
    have hnames : ∀ w ∈ clientNames,
        w.toList = w.toList.headD ' ' :: w.toList.tail ∧
          w.toList.headD ' ' ∈ "f$oahckr".toList := by decide
    obtain ⟨hsplit, hfirst⟩ := hnames w hw
    rw [hsplit, List.forall₂_cons_left_iff] at hclient
    obtain ⟨c, tail, hc, -, rfl⟩ := hclient
    exact ⟨c, _, rfl, List.any_eq_true.mpr ⟨_, hfirst, hc⟩⟩

/-- White space at the end aside, equal texts end with the same character. -/
theorem append_last_eq {a b u v : List Char} {x y : Char} (h : a ++ [x] ++ u = b ++ [y] ++ v)
    (hx : isSpace x = false) (hy : isSpace y = false) (hu : ∀ c ∈ u, isSpace c = true)
    (hv : ∀ c ∈ v, isSpace c = true) : a ++ [x] = b ++ [y] :=
  (trailing_eq h (endsApart_append_cons a hx) (endsApart_append_cons b hy) hu hv).1

/-- What is called is no form library's submit wrapper. -/
theorem Callee.noWrapper (h : Callee callee) {front back blanks : List Char}
    (hblanks : ∀ c ∈ blanks, isSpace c = true) :
    front ++ "handleSubmit".toList ++ blanks ≠ back ++ callee := by
  intro heq
  have hsplit : front ++ "handleSubmit".toList = front ++ "handleSubmi".toList ++ ['t'] := by
    rw [List.append_assoc]
    rfl
  rw [hsplit] at heq
  cases h with
  | @fetch w blanks' word space =>
    have hwords : ∀ w ∈ ["fetch", "$fetch", "ofetch"], w.toList = w.toList.dropLast ++ ['h'] := by
      decide
    rw [hwords w word, ← List.append_assoc, ← List.append_assoc] at heq
    have hends := append_last_eq heq (by decide) (by decide) hblanks space
    exact absurd (List.append_inj_right' hends rfl) (by decide)
  | @verb client method rest w v hw hclient hv hmethod generic =>
    rcases generic with hspace | ⟨params, blanks', rfl, hspace⟩
    · -- The method is shorter than the wrapper's name, which has no point in it.
      have hverbs : ∀ v ∈ verbNames, 0 < v.toList.length ∧ v.toList.length < 7 ∧
          v.toList.all isLowerAscii = true := by decide
      obtain ⟨hpos, hshort, hsmall⟩ := hverbs v hv
      rw [hmethod.length_eq] at hpos hshort
      obtain ⟨method', y, rfl⟩ := (List.eq_nil_or_concat method).resolve_left
        (List.ne_nil_of_length_pos hpos)
      rw [List.concat_eq_append] at hmethod hshort heq
      have hy : isSpace y = false := by
        obtain ⟨l, hl, hsame⟩ := exists_of_forall₂ hmethod (List.mem_append_right method'
          (List.mem_singleton_self y))
        exact isSpace_of_sameLetter (List.all_eq_true.mp hsmall l hl) hsame
      have hends : front ++ "handleSubmi".toList ++ ['t'] =
          back ++ client ++ '.' :: method' ++ [y] := by
        refine append_last_eq (u := blanks) (v := rest) ?_ (by decide) hy hblanks hspace
        rw [heq]
        simp
      have hwhole : front ++ "handleSubmit".toList = back ++ client ++ '.' :: (method' ++ [y]) := by
        rw [hsplit, hends]
        simp
      rcases List.append_eq_append_iff.mp hwhole with ⟨u, -, hu⟩ | ⟨u, -, hu⟩
      · have hpoint : '.' ∈ "handleSubmit".toList := by
          rw [hu]
          simp
        exact absurd hpoint (by decide)
      · have hlength := congrArg List.length hu
        have hname : "handleSubmit".toList.length = 12 := by decide
        simp only [List.length_append, List.length_cons, List.length_nil, hname] at hlength hshort
        omega
    · have hends := append_last_eq (a := front ++ "handleSubmi".toList) (x := 't') (u := blanks)
        (b := back ++ (client ++ '.' :: (method ++ params))) (y := '>') (v := blanks')
        (by rw [heq]; simp) (by decide) (by decide) hblanks hspace
      exact absurd (List.append_inj_right' hends rfl) (by decide)

end Callees

/-! ## 3. Calls -/

section Calls

variable {src : Source} {i : Nat} {g : Groups} {k : Cont} {r : Reached}

theorem spells_anyOf_iff {t : List Char} : ∀ {ws : List String}, (anyOf ws).Spells t ↔
    ∃ w ∈ ws, List.Forall₂ (fun l c => sameLetter l c = true) w.toList t
  | [] => by simp [anyOf, Spells]
  | [w] => by simp [anyOf, spells_litAnyCase_iff]
  | w :: v :: rest => by
    have halt : (anyOf (w :: v :: rest)).Spells t ↔
        (litAnyCase w).Spells t ∨ (anyOf (v :: rest)).Spells t := Iff.rfl
    rw [halt, spells_anyOf_iff, spells_litAnyCase_iff]
    simp only [List.exists_mem_cons_iff]

/-- A call to a server stands at a place of a text. -/
def CallAt (s : List Char) (i : Nat) : Prop :=
  (∃ callee rest, s.drop i = callee ++ '(' :: rest ∧ Callee callee) ∧
  ∀ c, 0 < i → s[i - 1]? = some c → isNameChar c = false ∧ c ≠ '.'

/-- No name ends in front of a call. -/
def noNameEnds : Pattern := notAfter fun c => isNameChar c || c == '.'

/-- A call stands where no name ends and what is called follows with its parenthesis. -/
theorem callAt_of_attempt {p : Pattern} {s : List Char} (hplain : p.isPlain = true)
    (hcallee : ∀ t, p.Spells t → ∃ callee, t = callee ++ ['('] ∧ Callee callee)
    (h : attempt s.toArray noNameEnds i g (fun j g => attempt s.toArray p j g k) = some r) :
    CallAt s i := by
  obtain ⟨hbefore, hrest⟩ := attempt_notAfter_iff.mp h
  obtain ⟨t, j, g, ht, hbetween, -⟩ := attempt_spells p hplain hrest
  obtain ⟨callee, rfl, hc⟩ := hcallee t ht
  refine ⟨⟨callee, s.drop j, ?_, hc⟩, fun c hi hget => ?_⟩
  · have hahead := hbetween.ahead
    rwa [List.append_assoc] at hahead
  · have := hbefore c hi (by rw [List.getElem?_toArray]; exact hget)
    simpa using this

theorem callAt_of_fetch {s : List Char} {m : Match} (h : fetchCall.matchAt s.toArray i = some m) :
    CallAt s i := by
  have hattempt : attempt s.toArray noNameEnds i [] (fun j g =>
      attempt s.toArray (words ["fetch", "$fetch", "ofetch"] ++ space ++ char '(') j g (fun j g =>
        attempt s.toArray (space ++ quotedAddress) j g fun j g => some (j, g))) =
      some (m.stop, m.groups) := (matchAt_eq_some.mp h).1
  refine callAt_of_attempt rfl (fun t ht => ?_) hattempt
  obtain ⟨u, v, rfl, ⟨w, blanks, rfl, hw, hblanks⟩, hv⟩ := ht
  obtain ⟨word, hword, rfl⟩ := spells_words_iff.mp hw
  rw [(spells_char_iff '(').mp hv]
  exact ⟨_, rfl, .fetch hword hblanks⟩

theorem callAt_of_verb {s : List Char} {m : Match} (h : verbCall.matchAt s.toArray i = some m) :
    CallAt s i := by
  have hattempt : attempt s.toArray noNameEnds i [] (fun j g =>
      attempt s.toArray (anyOf clientNames ++ char '.' ++ group "method" (anyOf verbNames) ++
        space ++ opt (char '<' ++ run (fun c => !(c == '>' || c == '(' || c == ')')) ++ char '>') ++
        space ++ char '(') j g (fun j g =>
        attempt s.toArray (space ++ quotedAddress) j g fun j g => some (j, g))) =
      some (m.stop, m.groups) := (matchAt_eq_some.mp h).1
  refine callAt_of_attempt rfl (fun t ht => ?_) hattempt
  obtain ⟨_, paren, rfl, ⟨_, blanks', rfl, ⟨_, gen, rfl, ⟨_, blanks, rfl, ⟨_, method, rfl,
    ⟨client, dot, rfl, hclient, hdot⟩, hmethod⟩, hblanks⟩, hgen⟩, hblanks'⟩, hparen⟩ := ht
  obtain ⟨w, hw, hclient⟩ := spells_anyOf_iff.mp hclient
  obtain ⟨v, hv, hmethod⟩ := spells_anyOf_iff.mp hmethod
  rw [(spells_char_iff '(').mp hparen, (spells_char_iff '.').mp hdot]
  refine ⟨client ++ '.' :: (method ++ (blanks ++ gen ++ blanks')), by simp, ?_⟩
  refine .verb hw hclient hv hmethod ?_
  rcases hgen with ⟨_, close, rfl, ⟨op, params, rfl, hop, -⟩, hclose⟩ | rfl
  · rw [(spells_char_iff '<').mp hop, (spells_char_iff '>').mp hclose]
    exact .inr ⟨blanks ++ '<' :: params, blanks', by simp, hblanks'⟩
  · rw [List.append_nil]
    exact .inl (List.forall_mem_append.mpr ⟨hblanks, hblanks'⟩)

/-- **What is called stands at each place where a call begins.** -/
theorem call_of_mem_requestStarts {body : String} (h : i ∈ requestStarts body) :
    CallAt body.toList i := by
  rcases List.mem_append.mp h with h | h
  · obtain ⟨m, hm, rfl⟩ := List.mem_map.mp h
    exact callAt_of_fetch (matchAt_of_mem_findAll hm)
  · obtain ⟨m, hm, rfl⟩ := List.mem_map.mp h
    exact callAt_of_verb (matchAt_of_mem_findAll hm)

end Calls

/-! ## 4. Where no call stands -/

section Places

variable {s a t b : List Char} {i : Nat}

theorem CallAt.opens (h : CallAt s i) : ∃ c, s[i]? = some c ∧ opensCall c = true := by
  obtain ⟨⟨callee, rest, hs, hcallee⟩, -⟩ := h
  obtain ⟨c, tail, rfl, hc⟩ := hcallee.head
  refine ⟨c, ?_, hc⟩
  have hfirst := congrArg (·[0]?) hs
  simpa using hfirst

/-- A call stands in front of a text that it cannot begin in, or behind it. -/
theorem CallAt.outside (h : CallAt (a ++ t ++ b) i) (ht : ∀ c ∈ t, opensCall c = false) :
    i < a.length ∨ a.length + t.length ≤ i := by
  by_contra hinside
  obtain ⟨c, hget, hc⟩ := h.opens
  rw [List.append_assoc, List.getElem?_append_right (by omega),
    List.getElem?_append_left (by omega)] at hget
  rw [ht c (List.mem_of_getElem? hget)] at hc
  cases hc

/-- A call stands in front of a rest that it cannot begin in. -/
theorem CallAt.before (h : CallAt (a ++ t) i) (ht : ∀ c ∈ t, opensCall c = false) :
    i < a.length := by
  obtain ⟨c, hget, -⟩ := h.opens
  have hlength := (List.getElem?_eq_some_iff.mp hget).1
  rw [List.length_append] at hlength
  rw [← List.append_nil (a ++ t)] at h
  have := h.outside ht
  omega

/-- The parenthesis of a call stands behind its place. -/
theorem CallAt.paren (h : CallAt (a ++ t) i) (hi : a.length ≤ i) : '(' ∈ t := by
  obtain ⟨⟨callee, rest, hs, -⟩, -⟩ := h
  rw [List.drop_append, List.drop_eq_nil_of_le hi, List.nil_append] at hs
  have hmem : '(' ∈ t.drop (i - a.length) := by
    rw [hs]
    simp
  exact List.mem_of_mem_drop hmem

/-- No name and no member path ends in front of a call. -/
theorem CallAt.boundary (h : CallAt (a ++ t ++ b) i)
    (ht : ∀ c ∈ t, (isNameChar c || c == '.') = true) :
    i ≤ a.length ∨ a.length + t.length < i := by
  by_contra hinside
  obtain ⟨-, hbefore⟩ := h
  have hlt : i - 1 - a.length < t.length := by omega
  have hget : (a ++ t ++ b)[i - 1]? = some t[i - 1 - a.length] := by
    rw [List.append_assoc, List.getElem?_append_right (by omega), List.getElem?_append_left hlt,
      List.getElem?_eq_getElem hlt]
  obtain ⟨hname, hpoint⟩ := hbefore _ (by omega) hget
  rcases Bool.or_eq_true_iff.mp (ht _ (List.getElem_mem hlt)) with h | h
  · rw [hname] at h
    cases h
  · exact hpoint (beq_iff_eq.mp h)

end Places

end Affordance.Script
