import Affordance.Proofs.Script.FunctionBodies
import Affordance.Proofs.Script.Separated

/-!
# Arrow functions whose body is an expression

What a function of a given name is found to be in a text that declares it as an arrow function
whose body has no braces.

  * `Chain`: an expression without separators outside of brackets and literals, which breaks its
    lines there before a point of a member chain only, or nowhere (`OneLine`).
  * `Chain.firstLine`: the first line of a chain, up to such a break.
  * `OneLine.apart`: nothing separates the parts of one line, so the scanner passes it as a whole
    (`skip_oneLine`).
  * `fieldHead_nowhere`, `propertyHead_nowhere`, `methodHead_nowhere`: what the heads of the last
    three forms find in such a text.
  * **`expression_body_whole_iff`**: the body is found whole iff the expression stands on one line.
    Otherwise its first line is all that is found.
-/

namespace Affordance.Script

open Affordance.Text
open Affordance.Text.Pattern
open Affordance.Text.Source (Ahead)

/-! ## 1. Expressions in lines -/

/-- What ends the body of an arrow function without braces. -/
def separators : List Char := [';', ',', '\n']

/-- An expression with code in its brackets and no separator outside of brackets and literals. If
    it may break its lines, it does so before white space and a point. -/
inductive Chain (breaks : Bool) : List Char → Prop
  | nil : Chain breaks []
  | plain {c : Char} {s : List Char} (hc : isPlain c = true) (hsep : c ∉ separators)
      (hs : Chain breaks s) : Chain breaks (c :: s)
  | string {q : Char} {b s : List Char} (hq : q = '\'' ∨ q = '"') (hb : StringBody q b)
      (hs : Chain breaks s) : Chain breaks (q :: (b ++ q :: s))
  | template {b s : List Char} (hb : CodeTemplate b) (hs : Chain breaks s) :
      Chain breaks ('`' :: (b ++ '`' :: s))
  | group {o c : Char} {e s : List Char} (ho : closerOf o = some c) (he : Code e)
      (hs : Chain breaks s) : Chain breaks (o :: (e ++ c :: s))
  | line {w s : List Char} (hbreaks : breaks = true) (hw : ∀ c ∈ w, isSpace c = true)
      (hs : Chain breaks ('.' :: s)) : Chain breaks ('\n' :: (w ++ '.' :: s))

/-- An expression on one line. -/
abbrev OneLine : List Char → Prop := Chain false

/-- The text goes on in a new line, with a point. -/
def NextLine (rest : List Char) : Prop := ∃ w s, rest = '\n' :: (w ++ '.' :: s)

/-- **A chain has a first line**, and is that line or goes on in a new one. -/
theorem Chain.firstLine {e : List Char} (h : Chain true e) :
    ∃ first rest, e = first ++ rest ∧ OneLine first ∧ (rest = [] ∨ NextLine rest) := by
  induction h with
  | nil => exact ⟨[], [], rfl, .nil, .inl rfl⟩
  | @plain c s hc hsep hs ih =>
    obtain ⟨first, rest, rfl, hfirst, hrest⟩ := ih
    exact ⟨c :: first, rest, rfl, .plain hc hsep hfirst, hrest⟩
  | @string q b s hq hb hs ih =>
    obtain ⟨first, rest, rfl, hfirst, hrest⟩ := ih
    exact ⟨q :: (b ++ q :: first), rest, by simp, .string hq hb hfirst, hrest⟩
  | @template b s hb hs ih =>
    obtain ⟨first, rest, rfl, hfirst, hrest⟩ := ih
    exact ⟨'`' :: (b ++ '`' :: first), rest, by simp, .template hb hfirst, hrest⟩
  | @group o c e s ho he hs ih =>
    obtain ⟨first, rest, rfl, hfirst, hrest⟩ := ih
    exact ⟨o :: (e ++ c :: first), rest, by simp, .group ho he hfirst, hrest⟩
  | @line w s hbreaks hw hs ih =>
    exact ⟨[], '\n' :: (w ++ '.' :: s), rfl, .nil, .inr ⟨w, s, rfl⟩⟩

/-- A plain character begins nothing else. -/
theorem Chain.tail {breaks : Bool} {c : Char} {s : List Char} (h : Chain breaks (c :: s))
    (hc : isPlain c = true) (hbreak : c ≠ '\n') : Chain breaks s := by
  cases h with
  | plain _ _ hs => exact hs
  | string hq => rcases hq with rfl | rfl <;> cases hc
  | template => cases hc
  | group ho => rcases closerOf_cases ho with ⟨rfl, -⟩ | ⟨rfl, -⟩ | ⟨rfl, -⟩ <;> cases hc
  | line => exact absurd rfl hbreak

/-- No chain begins with an angle bracket behind plain characters. -/
theorem Chain.no_angle {breaks : Bool} {s : List Char} : ∀ {w : List Char},
    Chain breaks (w ++ '<' :: s) → ¬ ∀ c ∈ w, isPlain c = true ∧ c ≠ '\n'
  | [], h => by
    cases h with
    | plain hc => cases hc
    | string hq => rcases hq with hq | hq <;> cases hq
    | group ho => cases ho
  | _ :: _, h => by
    intro hw
    obtain ⟨⟨hc, hbreak⟩, hw⟩ := List.forall_mem_cons.mp hw
    exact (h.tail hc hbreak).no_angle hw

/-! ## 2. One line is passed as a whole -/

section Lines

variable {src : Source}

/-- Nothing separates the parts of one line. -/
theorem OneLine.apart {e : List Char} (h : OneLine e) : Apart separators e := by
  induction h with
  | nil => exact .nil
  | plain hc hsep _ ih => exact .plain hc hsep ih
  | string hq hb _ ih => exact .string hq hb ih
  | template hb _ ih => exact .template hb ih
  | group ho he _ ih => exact .group ho he ih
  | line hbreaks => cases hbreaks

/-- The scanner ends at the separator behind a line. -/
theorem skip_oneLine {e s : List Char} {c : Char} {i : Nat} (he : OneLine e)
    (hc : c ∈ separators) (h : src.Ahead i (e ++ c :: s)) :
    skip src separators i = i + e.length :=
  skip_apart (forall_of_all rfl) hc he.apart h

/-- An arrow function without braces has the line as its body, without white space around it. -/
theorem arrowBody_oneLine {e s : List Char} {c : Char} {i : Nat} (he : OneLine e)
    (hfirst : '\x7b' ∉ (e ++ c :: s).head?) (hc : c ∈ separators) (h : src.Ahead i (e ++ c :: s)) :
    arrowBody src false i = .ok (some ⟨String.ofList (strip e), false, i + e.length⟩) := by
  have hbrace : (src[i]? == some '\x7b') = false := by
    rw [beq_eq_false_iff_ne]
    intro hb
    obtain ⟨t, ht⟩ := h.cons_of_head hb
    exact hfirst (by rw [ht]; rfl)
  have hskip : skip src [';', ',', '\n'] i = i + e.length := skip_oneLine he hc h
  rw [arrowBody, hbrace, if_neg (by decide), hskip]
  dsimp only
  rw [h.slice]
  rfl

end Lines

/-! ## 3. The last three forms -/

section Nowhere

variable {src : Source} {name : String} {rest : List Char}

/-- A field's name does not stand behind `const`. -/
theorem not_fieldFront_const : ¬ fieldFront.Spells "const ".toList := by
  rintro ⟨blanks, words, h, hblanks, hwords⟩
  cases blanks with
  | cons c blanks =>
    obtain ⟨rfl, -⟩ := List.cons.inj h
    exact absurd (hblanks 'c' List.mem_cons_self) (by decide)
  | nil =>
    rw [List.nil_append] at h
    cases hwords with
    | nil => cases h
    | cons head _ =>
      obtain ⟨_, _, rfl, hword, -⟩ := head
      obtain ⟨w, hmem, rfl⟩ := spells_words_iff.mp hword
      have hfirst : ∀ w ∈ ["public", "private", "protected", "static", "readonly"],
          ¬ w.toList <+: "const ".toList := by decide
      refine hfirst w hmem ?_
      rw [h, List.append_assoc]
      exact List.prefix_append _ _

theorem fieldHead_nowhere (hname : IsIdentifier name) (hrest : Lacks name rest)
    (hs : src.toList = [] ++ ("const ".toList ++ name.toList ++ [' ']) ++ '=' :: rest) :
    (fieldHead name).findAll src = [] := by
  refine findAll_eq_nil fun i m hm => ?_
  obtain ⟨hline, pre, c, hcut, hpre, hc⟩ := fieldHead_cut hname hm
  have hmark : followsName c = true := by
    rcases hc with rfl | rfl <;> rfl
  obtain ⟨-, u, rfl, hu⟩ := hcut.declared hname hs (forall_of_all rfl) rfl (not_mem_of_avoids rfl hpre)
    hmark (not_mem_const hmark) (.nil hname) hrest
  rw [List.nil_append] at hu
  have htext : src.toList = u ++ (pre ++ name.toList ++ [' '] ++ '=' :: rest) := by
    rw [hs, ← hu]
    simp
  -- No line begins inside `const`.
  obtain rfl : u = [] := by
    rw [← List.getLast?_eq_none_iff, Option.eq_none_iff_forall_ne_some]
    intro d hd
    obtain rfl := (atLineStart_iff htext).mp hline d hd
    have hmem : '\n' ∈ "const ".toList := hu ▸ List.mem_append_left pre (List.mem_of_getLast? hd)
    exact absurd hmem (by decide)
  rw [List.nil_append] at hu
  rw [hu] at hpre
  exact not_fieldFront_const hpre

theorem propertyHead_nowhere (hname : IsIdentifier name) (hrest : Lacks name rest)
    (hs : src.toList = [] ++ ("const ".toList ++ name.toList ++ [' ']) ++ '=' :: rest) :
    (propertyHead name).findAll src = [] := by
  refine findAll_eq_nil fun i m hm => ?_
  cases ((propertyHead_cut hname hm).declared hname hs (forall_of_all rfl) rfl (by simp) rfl (by decide)
    (.nil hname) hrest).1

theorem methodHead_nowhere (hname : IsIdentifier name) (hrest : Lacks name rest)
    (hs : src.toList = [] ++ ("const ".toList ++ name.toList ++ [' ']) ++ '=' :: rest) :
    (methodHead name).findAll src = [] := by
  refine findAll_eq_nil fun i m hm => ?_
  obtain ⟨pre, hcut, hpre⟩ := methodHead_cut hname hm
  cases (hcut.declared hname hs (forall_of_all rfl) rfl (not_mem_of_avoids rfl hpre) rfl (by decide)
    (.nil hname) hrest).1

end Nowhere

/-! ## 4. Whole bodies -/

/-- The declaration of an arrow function whose body is an expression. -/
def arrowConstant (name : String) (params gap e : List Char) : List Char :=
  "const ".toList ++ (name.toList ++ (" = ".toList ++
    (parens params ++ (" =>".toList ++ (gap ++ (e ++ [';']))))))

/-- What is asked of the parts of the declaration: the expression begins with its first character,
    is no word for a type, and the name stands nowhere else. -/
structure IsArrowConstant (name : String) (params gap e : List Char) : Prop where
  isIdentifier : IsIdentifier name
  params_code : Code params
  params_lack : Lacks name params
  gap_space : ∀ c ∈ gap, isSpace c = true
  chain : Chain true e
  lacks : Lacks name e
  first : ∀ c ∈ e.head?, isSpace c = false ∧ c ≠ '\x7b'
  noType : ∀ w ∈ typeWords, strip e ≠ w.toList

section Whole

variable {name : String} {params gap e first rest : List Char}

/-- Behind its parameters the function has the first line of the expression for a body. -/
theorem functionAt_firstLine (h : IsArrowConstant name params gap e) (he : e = first ++ rest)
    (hfirst : OneLine first) (hrest : rest = [] ∨ NextLine rest) {src : Source} {i : Nat}
    (hahead : src.Ahead i (parens params ++ (" =>".toList ++ (gap ++ (e ++ [';']))))) :
    ∃ stop, functionAt src i false = .ok (some ⟨String.ofList (strip first), false, stop⟩) := by
  obtain ⟨c, s, hsep, hcut⟩ : ∃ c s, c ∈ separators ∧ e ++ [';'] = first ++ c :: s := by
    rcases hrest with rfl | ⟨w, s, rfl⟩
    · exact ⟨';', [], by decide, by rw [he, List.append_nil]⟩
    · exact ⟨'\n', w ++ '.' :: (s ++ [';']), by decide, by rw [he]; simp⟩
  have hstart : ∀ c ∈ (e ++ [';']).head?, isSpace c = false ∧ c ≠ '\x7b' := by
    cases e with
    | nil => exact fun c hc => by cases hc; decide
    | cons d e => exact h.first
  have hplain : src.Ahead i (asyncText false ++
      (parens params ++ (" =>".toList ++ (gap ++ (e ++ [';']))))) := hahead
  obtain ⟨j, hj, hread⟩ := functionAt_arrowBody h.params_code h.gap_space
    (fun c hc => (hstart c hc).1) hplain
  rw [hcut] at hj hstart
  exact ⟨_, hread.trans (arrowBody_oneLine hfirst (fun hb => (hstart _ hb).2 rfl) hsep hj)⟩

/-- The name stands nowhere behind the equals sign. -/
theorem IsArrowConstant.lacks_rest (h : IsArrowConstant name params gap e) :
    Lacks name (' ' :: (parens params ++ (" =>".toList ++ (gap ++ (e ++ [';']))))) := by
  have hname := h.isIdentifier
  have hend : Lacks name (e ++ [';']) := h.lacks.append_cons hname rfl (.nil hname)
  have hgap : ∀ w : List Char, (∀ c ∈ w, isSpace c = true) → Lacks name (w ++ (e ++ [';'])) := by
    intro w hw
    induction w with
    | nil => exact hend
    | cons c w ih =>
      obtain ⟨hc, hw⟩ := List.forall_mem_cons.mp hw
      have hc' : isIdentifierChar c = false := by
        rw [Bool.eq_false_iff]
        intro hid
        rw [isSpace_of_isIdentifierChar hid] at hc
        cases hc
      exact .cons hname hc' (ih hw)
  have harrow : Lacks name (" =>".toList ++ (gap ++ (e ++ [';']))) :=
    .cons hname rfl (.cons hname rfl (.cons hname rfl (hgap gap h.gap_space)))
  simpa [parens] using Lacks.cons hname rfl (.cons hname rfl
    (h.params_lack.append_cons hname rfl harrow))

theorem toList_arrowConstant (name : String) (params gap e : List Char) :
    (arrowConstant name params gap e).toArray.toList =
      [] ++ ("const ".toList ++ name.toList ++ [' ']) ++
        '=' :: ([] ++ (' ' :: (parens params ++ (" =>".toList ++ (gap ++ (e ++ [';'])))))) := by
  unfold arrowConstant
  rw [List.nil_append, List.append_assoc, List.append_assoc]
  rfl

/-- **The constant is declared once**: only the second form finds it, and finds it once. -/
theorem constantHead_single (h : IsArrowConstant name params gap e) {src : Source}
    (hsrc : src = (arrowConstant name params gap e).toArray) :
    ∃ m, (constantHead name).findAll src = [m] ∧ m.has "async" = false ∧
      src.Ahead m.stop (parens params ++ (" =>".toList ++ (gap ++ (e ++ [';'])))) := by
  have hname := h.isIdentifier
  have htext := toList_arrowConstant name params gap e
  rw [← hsrc] at htext
  have hahead : src.Ahead 0 ("const ".toList ++ (name.toList ++ (" = ".toList ++
      (parens params ++ (" =>".toList ++ (gap ++ (e ++ [';']))))))) := by
    rw [hsrc]
    exact Source.ahead_toArray _
  obtain ⟨stop, hm, hstop⟩ := constantHead_arrow hname (fun _ hi => absurd hi (Nat.lt_irrefl 0))
    (off_cons rfl) rfl rfl hahead
  have hpassed : 0 < stop := by
    rw [Nat.pos_iff_ne_zero]
    rintro rfl
    cases hahead.head.symm.trans hstop.head
  refine ⟨_, findAll_eq_single hm (Nat.zero_le _) hpassed fun l m hm => ?_, rfl, hstop⟩
  refine (constant_place hname (.nil hname) htext hm).resolve_right ?_
  rintro ⟨-, hinfix⟩
  exact hinfix h.lacks_rest

/-- What is found under the name is the function with the first line of the expression for a body,
    unless that line is a mere type. -/
theorem firstLine_found (h : IsArrowConstant name params gap e) (he : e = first ++ rest)
    (hfirst : OneLine first) (hrest : rest = [] ∨ NextLine rest) :
    ∃ stop, definitionOf (String.ofList (arrowConstant name params gap e)) name =
      .ok (if isDefinition ⟨String.ofList (strip first), false, stop⟩ = true
        then some ⟨name, String.ofList (strip first), false⟩ else none) := by
  have hname := h.isIdentifier
  obtain ⟨m, hm, hasync, hahead⟩ := constantHead_single h rfl
  obtain ⟨stop, hread⟩ := functionAt_firstLine h he hfirst hrest hahead
  have hamong := definitionAmong_single name hread
  have htext := toList_arrowConstant name params gap e
  have hrest' := h.lacks_rest
  have hscope : arrowConstant name params gap e ≠ [] := List.cons_ne_nil _ _
  refine ⟨stop, ?_⟩
  rw [definitionOf_eq hscope hname, declarationForms_eq,
    definitionIn_skip (keyword_nowhere hname (.nil hname) (by decide) hrest' htext)]
  by_cases hdef : isDefinition ⟨String.ofList (strip first), false, stop⟩ = true
  · rw [if_pos hdef]
    refine definitionIn_first ?_
    rw [hm, hamong, if_pos hdef, hasync]
    rfl
  · have hnone : definitionAmong (arrowConstant name params gap e).toArray name false
        ((constantHead name).findAll (arrowConstant name params gap e).toArray) = .ok none := by
      rw [hm, hamong, if_neg hdef]
    rw [if_neg hdef, definitionIn_next hnone,
      definitionIn_skip (fieldHead_nowhere hname hrest' htext),
      definitionIn_skip (propertyHead_nowhere hname hrest' htext),
      definitionIn_skip (methodHead_nowhere hname hrest' htext)]
    rfl

/-- Behind a line break there is more than white space. -/
theorem strip_firstLine_ne (hfirst : ∀ c ∈ e.head?, isSpace c = false) (he : e = first ++ rest)
    (hrest : NextLine rest) : strip first ≠ strip e := by
  obtain ⟨w, s, rfl⟩ := hrest
  have hdrop : e.dropWhile isSpace = e := dropWhile_of_head hfirst
  have hstrip : strip e = first ++ '\n' :: w ++ '.' :: stripEndBy isSpace s := by
    rw [strip, stripBy, hdrop, he, ← stripEndBy_append_cons rfl]
    simp
  intro hsame
  have hshort : (strip first).length ≤ first.length :=
    (strip_isPrefix first).length_le.trans (List.dropWhile_suffix isSpace).length_le
  have hlong := congrArg List.length hsame
  rw [hstrip] at hlong
  simp only [List.length_append, List.length_cons] at hlong
  omega

/-- A chain is no type, if it is no word for one. -/
theorem isDefinition_chain (h : IsArrowConstant name params gap e) (stop : Nat) :
    isDefinition ⟨String.ofList (strip e), false, stop⟩ = true := by
  have hstrip : strip (String.ofList (strip e)).toList = strip e := by
    rw [String.toList_ofList, strip_strip]
  refine isDefinition_of _ (fun w hw hsame => ?_) fun hpromise => ?_
  · exact h.noType w hw (hstrip.symm.trans hsame)
  · have hprefix : "Promise<".toList <+: strip e := by
      rwa [← hstrip]
    have hdrop : e.dropWhile isSpace = e := dropWhile_of_head fun c hc => (h.first c hc).1
    obtain ⟨t, ht⟩ := hprefix.trans (hdrop ▸ strip_isPrefix e)
    have hchain : Chain true ("Promise".toList ++ '<' :: t) := by
      have he : "Promise".toList ++ '<' :: t = e := ht
      rw [he]
      exact h.chain
    exact hchain.no_angle (forall_of_all rfl)

/-- **The body of an arrow function without braces is found whole iff it stands on one line**, in a
    text that is its declaration. Only the first line of a longer one is found. -/
theorem expression_body_whole_iff (h : IsArrowConstant name params gap e) :
    definitionOf (String.ofList (arrowConstant name params gap e)) name =
      .ok (some ⟨name, String.ofList (strip e), false⟩) ↔ OneLine e := by
  constructor
  · intro hfound
    obtain ⟨first, rest, he, hline, hrest⟩ := h.chain.firstLine
    obtain ⟨stop, hfirst⟩ := firstLine_found h he hline hrest
    rcases hrest with rfl | hrest
    · rwa [he, List.append_nil]
    · rw [hfound] at hfirst
      split at hfirst
      · have hbody := congrArg Definition.body (Option.some.inj (Except.ok.inj hfirst))
        have hsame : strip e = strip first := String.ofList_inj.mp hbody
        exact absurd hsame.symm (strip_firstLine_ne (fun c hc => (h.first c hc).1) he hrest)
      · cases hfirst
  · intro hline
    obtain ⟨stop, hfirst⟩ := firstLine_found h (List.append_nil e).symm hline (.inl rfl)
    rw [hfirst, if_pos (isDefinition_chain h stop)]

/-- Plain characters that separate nothing may stand before a chain. -/
theorem Chain.of_plain {breaks : Bool} {s : List Char} (hs : Chain breaks s) : ∀ {w : List Char},
    (∀ c ∈ w, isPlain c = true ∧ c ∉ separators) → Chain breaks (w ++ s)
  | [], _ => hs
  | _ :: _, hw =>
    .plain (hw _ List.mem_cons_self).1 (hw _ List.mem_cons_self).2
      (hs.of_plain fun c hc => hw c (List.mem_cons_of_mem _ hc))

/-- **A call on the next line is lost**: the body ends before the line break. -/
theorem next_line_lost :
    IsArrowConstant "load" "url".toList [' '] "fetch(url)\n  .json()".toList ∧
      ¬ OneLine "fetch(url)\n  .json()".toList ∧
      definitionOf "const load = (url) => fetch(url)\n  .json();" "load" =
        .ok (some ⟨"load", "fetch(url)", false⟩) := by
  have hurl : Code "url".toList := (balanced_of_plain (forall_of_all rfl)).code
  have hcall : Chain true ('.' :: ("json".toList ++ ['(', ')'])) :=
    .of_plain (w := ".json".toList) (.group (e := []) rfl .nil .nil) (forall_of_all rfl)
  have hchain : Chain true "fetch(url)\n  .json()".toList :=
    .of_plain (w := "fetch".toList)
      (.group rfl hurl (.line (w := [' ', ' ']) rfl (forall_of_all rfl) hcall)) (forall_of_all rfl)
  have hconstant : IsArrowConstant "load" "url".toList [' '] "fetch(url)\n  .json()".toList :=
    { isIdentifier := ⟨by decide, forall_of_all rfl⟩
      params_code := hurl
      params_lack := by unfold Lacks; decide
      gap_space := forall_of_all rfl
      chain := hchain
      lacks := by unfold Lacks; decide
      first := by rintro c ⟨⟩; exact ⟨rfl, by decide⟩
      noType := by decide }
  have hfound : definitionOf "const load = (url) => fetch(url)\n  .json();" "load" =
      .ok (some ⟨"load", "fetch(url)", false⟩) := by rfl
  refine ⟨hconstant, fun hline => ?_, hfound⟩
  have hwhole := (expression_body_whole_iff hconstant).mpr hline
  have hbody : "fetch(url)" = String.ofList (strip "fetch(url)\n  .json()".toList) :=
    congrArg Definition.body (Option.some.inj (Except.ok.inj (hfound.symm.trans hwhole)))
  exact absurd hbody (by decide)

end Whole

end Affordance.Script
