import Affordance.Proofs.Script.Names
import Affordance.Proofs.Text.Cuts
import Affordance.Proofs.Text.Forward
import Affordance.Proofs.Text.Pieces
import Affordance.Script.Function

/-!
# Where a function can be declared

The five heads that a declaration can begin with, and where they match in a text.

  * `IsIdentifier`: names of functions. None of their characters stands for anything in a head
    (`IsIdentifier.not_mem`).
  * `keywordHead`, `constantHead`, `fieldHead`, `propertyHead`, `methodHead`: the heads, in order of
    preference (`declarationForms_eq`).
  * `keywordHead_plain`, `keywordHead_async`, `constantHead_arrow`, `constantHead_callback`: the match
    of a head where a declaration of its form stands.
  * `keywordHead_cut`, `constantHead_cut` and their like: how a match of a head cuts a text around
    the name.
  * **`CutAt.place`**: in a text that declares the name once, such a cut is at the declaration or
    behind it. `CutAt.declared`: it is at the declaration if the name does not stand behind it.
  * `constant_place`, `keyword_nowhere`: where the heads of the first two forms match in a text
    that declares a constant of the name.
-/

namespace Affordance.Script

open Affordance.Text
open Affordance.Text.Pattern
open Affordance.Text.Source (Ahead)

/-! ## 1. Identifiers -/

/-- A character of an identifier: an ASCII letter or digit, an underscore, a dollar sign, or any
    character beyond ASCII that is no white space. -/
def isIdentifierChar (c : Char) : Bool :=
  if c.toNat < 128 then isAlnumAscii c || c == '_' || c == '$' else !isSpace c

/-- The name that a function can have. -/
structure IsIdentifier (name : String) : Prop where
  nonempty : name.toList ≠ []
  chars : ∀ c ∈ name.toList, isIdentifierChar c = true

theorem isSpace_of_isIdentifierChar {c : Char} (h : isIdentifierChar c = true) :
    isSpace c = false := by
  rw [Bool.eq_false_iff]
  intro hspace
  have hcodes : ∀ n ∈ spaceCodes, isIdentifierChar (Char.ofNat n) = false := by decide +kernel
  have := hcodes c.toNat (mem_spaceCodes hspace)
  rw [Char.ofNat_toNat, h] at this
  cases this

namespace IsIdentifier

variable {name : String} {c : Char}

theorem not_mem (h : IsIdentifier name) (hc : isIdentifierChar c = false) : c ∉ name.toList := by
  intro hmem
  rw [h.chars c hmem] at hc
  cases hc

theorem isSpace_head (h : IsIdentifier name) (s : List Char) :
    ∀ c ∈ (name.toList ++ s).head?, isSpace c = false := by
  intro c hc
  rw [List.head?_append_of_ne_nil _ h.nonempty] at hc
  exact isSpace_of_isIdentifierChar (h.chars c (List.mem_of_mem_head? hc))

theorem endsApart (h : IsIdentifier name) : EndsApart isSpace name.toList :=
  endsApart_of_forall fun c hc => isSpace_of_isIdentifierChar (h.chars c hc)

end IsIdentifier

/-- The text does not hold the name. -/
def Lacks (name : String) (s : List Char) : Prop := ¬ name.toList <:+: s

namespace Lacks

variable {name : String} {s t : List Char} {c : Char}

protected theorem nil (hname : IsIdentifier name) : Lacks name [] :=
  fun h => hname.nonempty (List.infix_nil.mp h)

/-- A character of no identifier keeps two texts without the name apart. -/
theorem append_cons (hname : IsIdentifier name) (hs : Lacks name s)
    (hc : isIdentifierChar c = false) (ht : Lacks name t) : Lacks name (s ++ c :: t) := by
  intro h
  rcases infix_of_infix_cut (hname.not_mem hc) h with h | h
  · exact hs h
  · exact ht h

protected theorem cons (hname : IsIdentifier name) (hc : isIdentifierChar c = false)
    (ht : Lacks name t) : Lacks name (c :: t) :=
  append_cons hname (.nil hname) hc ht

end Lacks

/-! ## 2. The heads -/

/-- A character that belongs to a name or a member access. -/
def isMemberChar (c : Char) : Bool := isNameChar c || c == '.'

/-- `async` and the keyword that follows. -/
def asyncWord : Pattern := opt (group "async" (lit "async" ++ space1))

/-- `function name(` -/
def keywordHead (name : String) : Pattern :=
  notInName ++ asyncWord ++ lit "function" ++ space ++ opt (char '*') ++ space ++ lit name ++
    space ++ ahead (one fun c => c == '(' || c == '<')

/-- The callback hook that a function can be wrapped in. -/
def hookCall : Pattern := opt (lit "React.") ++ lit "useCallback" ++ space ++ char '(' ++ space

/-- `const name =`, perhaps with a callback hook. -/
def constantHead (name : String) : Pattern :=
  wordEdge ++ words ["const", "let", "var"] ++ space1 ++ lit name ++ space ++ annotation ++
    char '=' ++ space ++ opt hookCall

/-- A class field. -/
def fieldHead (name : String) : Pattern :=
  indent ++ modifiers ["public", "private", "protected", "static", "readonly"] ++ lit name ++
    space ++ annotation ++ char '=' ++ notAhead (one fun c => c == '=' || c == '>') ++ space

/-- A property of an object. -/
def propertyHead (name : String) : Pattern :=
  notInName ++ lit name ++ space ++ char ':' ++ space ++
    ahead (alt (lit "async" ++ wordEdge) (alt (lit "function" ++ wordEdge)
      (alt (char '(') (runs isNameChar ++ space ++ lit "=>"))))

/-- A method. -/
def methodHead (name : String) : Pattern :=
  indent ++ modifiers ["public", "private", "protected", "static"] ++ asyncWord ++ lit name ++
    space ++ ahead (char '(')

theorem declarationForms_eq (name : String) : declarationForms name =
    [⟨keywordHead name, true⟩, ⟨constantHead name, false⟩, ⟨fieldHead name, false⟩,
      ⟨propertyHead name, false⟩, ⟨methodHead name, true⟩] := rfl

/-! ## 3. Heads on the declarations of their forms -/

section Forward

variable {src : Source} {i : Nat} {g : Groups} {k : Cont} {r : Reached} {name : String}
  {s w : List Char}

/-- The rest of a keyword head behind `async`. -/
def keywordRest (name : String) : Pattern :=
  lit "function" ++ space ++ opt (char '*') ++ space ++ lit name ++ space ++
    ahead (one fun c => c == '(' || c == '<')

theorem attempt_keywordRest (hname : IsIdentifier name)
    (h : src.Ahead i ("function ".toList ++ (name.toList ++ '(' :: s)))
    (hk : k (i + 9 + name.toList.length) g = some r) :
    attempt src (keywordRest name) i g k = some r := by
  have hword : src.Ahead i ("function".toList ++ ([' '] ++ (name.toList ++ '(' :: s))) := h
  have hrest := hword.drop.drop
  have hparen := hrest.drop
  have hstar : '*' ∉ (name.toList ++ '(' :: s).head? := by
    rw [List.head?_append_of_ne_nil _ hname.nonempty]
    exact fun hc => hname.not_mem rfl (List.mem_of_mem_head? hc)
  simp only [keywordRest, attempt_append]
  rw [attempt_lit "function" hword]
  refine attempt_run hword.drop (forall_of_all rfl) (hname.isSpace_head _) ?_
  rw [attempt_opt_of_none (attempt_char_off hrest hstar)]
  rw [attempt_space_nil hrest (hname.isSpace_head _), attempt_lit name hrest,
    attempt_space_nil hparen (off_cons rfl), attempt_ahead_one hparen (by decide)]
  exact hk

theorem attempt_keywordHead (name : String) : attempt src (keywordHead name) i g k =
    attempt src notInName i g fun j g => attempt src asyncWord j g fun j g =>
      attempt src (keywordRest name) j g k := rfl

/-- A function with the keyword. -/
theorem keywordHead_plain (hname : IsIdentifier name) (hbefore : NotAfter src isMemberChar i)
    (h : src.Ahead i ("function ".toList ++ (name.toList ++ '(' :: s))) :
    ∃ stop, (keywordHead name).matchAt src i = some ⟨src, i, stop, []⟩ ∧
      src.Ahead stop ('(' :: s) := by
  refine ⟨_, matchAt_eq_some.mpr ⟨?_, rfl, rfl⟩, h.drop.drop⟩
  rw [attempt_keywordHead]
  refine attempt_notAfter_iff.mpr ⟨hbefore, ?_⟩
  have hasync : ∀ k, attempt src (group "async" (lit "async" ++ space1)) i [] k = none := by
    intro k
    rw [attempt_named, attempt_append]
    exact attempt_lit_off "async" h rfl
  rw [asyncWord, attempt_opt_of_none (hasync _)]
  exact attempt_keywordRest hname h rfl

/-- An asynchronous function with the keyword. -/
theorem keywordHead_async (hname : IsIdentifier name) (hbefore : NotAfter src isMemberChar i)
    (hne : w ≠ []) (hw : ∀ c ∈ w, isSpace c = true)
    (h : src.Ahead i ("async".toList ++ (w ++ ("function ".toList ++ (name.toList ++ '(' :: s))))) :
    ∃ stop, (keywordHead name).matchAt src i =
        some ⟨src, i, stop, [("async", i, i + 5 + w.length)]⟩ ∧
      src.Ahead stop ('(' :: s) := by
  refine ⟨_, matchAt_eq_some.mpr ⟨?_, rfl, rfl⟩, h.drop.drop.drop.drop⟩
  rw [attempt_keywordHead]
  refine attempt_notAfter_iff.mpr ⟨hbefore, ?_⟩
  refine attempt_opt_of_some ?_
  rw [attempt_named, attempt_append, attempt_lit "async" h]
  refine attempt_runs h.drop hne hw (off_cons rfl) ?_
  exact attempt_keywordRest hname h.drop.drop rfl

/-- Before an equals sign there is no annotation. -/
theorem attempt_no_type (h : src.Ahead i ('=' :: s)) :
    attempt src annotation i g k = k i g := by
  refine attempt_opt_of_none ?_
  rw [attempt_append]
  exact attempt_char_off h (by simp)

/-- A constant head up to what the constant is. -/
def constantStart (name : String) : Pattern :=
  wordEdge ++ words ["const", "let", "var"] ++ space1 ++ lit name ++ space ++ annotation ++
    char '=' ++ space

theorem attempt_constantStart (hname : IsIdentifier name) (hbefore : NotAfter src isWord i)
    (hs : ∀ c ∈ s.head?, isSpace c = false)
    (h : src.Ahead i ("const ".toList ++ (name.toList ++ (" = ".toList ++ s))))
    (hk : k (i + (9 + name.toList.length)) g = some r) :
    attempt src (constantStart name) i g k = some r := by
  have hword : src.Ahead i ("const".toList ++ ([' '] ++ (name.toList ++ (" = ".toList ++ s)))) := h
  have hhead := hword.drop.drop
  have hafter : src.Ahead _ ([' '] ++ '=' :: ([' '] ++ s)) := hhead.drop
  have hequals := hafter.drop
  simp only [constantStart, attempt_append]
  rw [attempt_wordEdge_start hbefore hword rfl]
  refine attempt_alt_of_some ?_
  rw [attempt_lit "const" hword]
  refine attempt_runs hword.drop (by decide) (forall_of_all rfl) (hname.isSpace_head _) ?_
  rw [attempt_lit name hhead]
  refine attempt_run hafter (forall_of_all rfl) (off_cons rfl) ?_
  rw [attempt_no_type hequals, attempt_char hequals]
  refine attempt_run hequals.tail (forall_of_all rfl) hs ?_
  rw [show 9 + name.toList.length = 5 + 1 + name.toList.length + 1 + 1 + 1 by omega] at hk
  simp only [← Nat.add_assoc] at hk
  exact hk

/-- What the constant is. -/
theorem ahead_constant
    (h : src.Ahead i ("const ".toList ++ (name.toList ++ (" = ".toList ++ s)))) :
    src.Ahead (i + (9 + name.toList.length)) s := by
  have hvalue := h.drop.drop.drop
  rw [show i + (9 + name.toList.length) = i + 6 + name.toList.length + 3 by omega]
  exact hvalue

theorem attempt_constantHead (name : String) : attempt src (constantHead name) i g k =
    attempt src (constantStart name) i g fun j g => attempt src (opt hookCall) j g k := rfl

/-- A constant that no callback hook wraps. -/
theorem constantHead_arrow (hname : IsIdentifier name) (hbefore : NotAfter src isWord i)
    (hs : ∀ c ∈ s.head?, isSpace c = false) (hreact : startsWith s "React.".toList = false)
    (hhook : startsWith s "useCallback".toList = false)
    (h : src.Ahead i ("const ".toList ++ (name.toList ++ (" = ".toList ++ s)))) :
    ∃ stop, (constantHead name).matchAt src i = some ⟨src, i, stop, []⟩ ∧ src.Ahead stop s := by
  refine ⟨_, matchAt_eq_some.mpr ⟨?_, rfl, rfl⟩, ahead_constant h⟩
  rw [attempt_constantHead]
  refine attempt_constantStart hname hbefore hs h ?_
  have hvalue : src.Ahead (i + (9 + name.toList.length)) s := ahead_constant h
  have hnone : ∀ k, attempt src hookCall (i + (9 + name.toList.length)) [] k = none := by
    intro k
    simp only [hookCall, attempt_append]
    rw [attempt_opt_of_none (attempt_lit_off "React." hvalue hreact)]
    exact attempt_lit_off "useCallback" hvalue hhook
  rw [attempt_opt_of_none (hnone _)]

/-- A constant that a callback hook wraps. -/
theorem constantHead_callback (hname : IsIdentifier name) (hbefore : NotAfter src isWord i)
    (hs : ∀ c ∈ s.head?, isSpace c = false)
    (h : src.Ahead i ("const ".toList ++ (name.toList ++ (" = useCallback(".toList ++ s)))) :
    ∃ stop, (constantHead name).matchAt src i = some ⟨src, i, stop, []⟩ ∧ src.Ahead stop s := by
  have hstart : src.Ahead i ("const ".toList ++ (name.toList ++
      (" = ".toList ++ ("useCallback".toList ++ '(' :: s)))) := h
  have hvalue := ahead_constant hstart
  refine ⟨_, matchAt_eq_some.mpr ⟨?_, rfl, rfl⟩, hvalue.drop.tail⟩
  rw [attempt_constantHead]
  refine attempt_constantStart hname hbefore (off_cons rfl) hstart (attempt_opt_of_some ?_)
  simp only [hookCall, attempt_append]
  rw [attempt_opt_of_none (attempt_lit_off "React." hvalue rfl), attempt_lit "useCallback" hvalue,
    attempt_space_nil hvalue.drop (off_cons rfl), attempt_char hvalue.drop,
    attempt_space_nil hvalue.drop.tail hs]

end Forward

/-! ## 4. How a match cuts a text -/

section Cuts

variable {src : Source} {i j : Nat} {g : Groups} {k : Cont} {r : Reached} {m : Match}
  {name : String} {c : Char} {pre v : List Char}

/-- The text is cut at the name: the text `pre` begins at the position, the name and white space
    follow, then the character. -/
def CutAt (src : Source) (i : Nat) (name : String) (pre : List Char) (c : Char) : Prop :=
  ∃ u ws v, src.toList = u ++ (pre ++ name.toList ++ ws) ++ c :: v ∧ u.length = i ∧
    ∀ d ∈ ws, isSpace d = true

/-- What stands between the beginning of a keyword head and the name. -/
def keywordFront : Pattern :=
  asyncWord ++ lit "function" ++ space ++ opt (char '*') ++ space

/-- What stands between the beginning of a constant head and the name. -/
def constantFront : Pattern := words ["const", "let", "var"] ++ space1

/-- What stands between the beginning of a line and the name of a field. -/
def fieldFront : Pattern :=
  (run fun c => c == ' ' || c == '\t') ++
    modifiers ["public", "private", "protected", "static", "readonly"]

/-- What stands between the beginning of a line and the name of a method. -/
def methodFront : Pattern :=
  indent ++ modifiers ["public", "private", "protected", "static"] ++ asyncWord

/-- What matches with the name inside cuts the text at the name. -/
theorem cut_of_attempt {front : Pattern} (hname : IsIdentifier name)
    (hplain : front.isPlain = true)
    (h : attempt src (front ++ lit name ++ space) i g k = some r) :
    ∃ pre j g', front.Spells pre ∧ k j g' = some r ∧
      ∀ c, src[j]? = some c → CutAt src i name pre c := by
  have hall : (front ++ lit name ++ space).isPlain = true := by
    change ((front.isPlain && (lit name).isPlain) && true) = true
    rw [hplain, isPlain_lit]
    rfl
  obtain ⟨t, j, g', ⟨_, ws, rfl, ⟨pre, n, rfl, hpre, hn⟩, hws⟩, hbetween, hj⟩ :=
    attempt_spells _ hall h
  obtain rfl : n = name.toList := (spells_lit_iff name).mp hn
  refine ⟨pre, j, g', hpre, hj, fun c hc => ?_⟩
  obtain ⟨u, v, hs, hu, hv⟩ := hbetween.cut (by simp [hname.nonempty])
  obtain ⟨v, rfl⟩ := hv.cons_of_head hc
  exact ⟨u, ws, v, hs, hu, hws⟩

/-- A match of a keyword head begins behind no part of a name, and a parenthesis or a type
    parameter follows the name. -/
theorem keywordHead_cut (hname : IsIdentifier name)
    (h : (keywordHead name).matchAt src i = some m) :
    NotAfter src isMemberChar i ∧
      ∃ pre c, CutAt src i name pre c ∧ keywordFront.Spells pre ∧ (c = '(' ∨ c = '<') := by
  have hplain : keywordFront.isPlain = true := rfl
  have hattempt : attempt src notInName i [] (fun j g =>
      attempt src (keywordFront ++ lit name ++ space) j g fun j g =>
        attempt src (ahead (one fun c => c == '(' || c == '<')) j g fun j g => some (j, g)) =
      some (m.stop, m.groups) := (matchAt_eq_some.mp h).1
  obtain ⟨hbefore, hrest⟩ := attempt_notAfter_iff.mp hattempt
  obtain ⟨pre, j, g', hpre, hj, hcut⟩ := cut_of_attempt hname hplain hrest
  obtain ⟨⟨c, hc, hmark⟩, -⟩ := attempt_ahead_one_iff.mp hj
  exact ⟨hbefore, pre, c, hcut c hc, hpre, by simpa using hmark⟩

/-- Behind the name of a constant or a field stands an annotation or the equals sign. -/
theorem equals_of_attempt (h : attempt src ( annotation ++ char '=') j g k = some r) :
    ∃ c, src[j]? = some c ∧ (c = ':' ∨ c = '=') := by
  obtain ⟨_, l, g', ⟨a, e, rfl, ha, he⟩, hbetween, -⟩ := attempt_spells _ rfl h
  obtain rfl : e = ['='] := (spells_char_iff '=').mp he
  have hahead : src.Ahead j (a ++ ['='] ++ src.toList.drop l) := hbetween.ahead
  rcases ha with ⟨t, u, rfl, ht, -⟩ | rfl
  · obtain rfl : t = [':'] := (spells_char_iff ':').mp ht
    exact ⟨':', hahead.head, .inl rfl⟩
  · exact ⟨'=', hahead.head, .inr rfl⟩

theorem constantHead_cut (hname : IsIdentifier name)
    (h : (constantHead name).matchAt src i = some m) :
    ∃ pre c, CutAt src i name pre c ∧ constantFront.Spells pre ∧ (c = ':' ∨ c = '=') := by
  have hplain : (wordEdge ++ constantFront).isPlain = true := rfl
  have hattempt : attempt src (wordEdge ++ constantFront ++ lit name ++ space) i [] (fun j g =>
      attempt src ( annotation ++ char '=') j g fun j g =>
        attempt src (space ++ opt hookCall) j g fun j g => some (j, g)) =
      some (m.stop, m.groups) := (matchAt_eq_some.mp h).1
  obtain ⟨pre, j, g', ⟨_, pre', rfl, rfl, hpre⟩, hj, hcut⟩ := cut_of_attempt hname hplain hattempt
  obtain ⟨c, hc, hmark⟩ := equals_of_attempt hj
  exact ⟨pre', c, hcut c hc, hpre, hmark⟩

theorem fieldHead_cut (hname : IsIdentifier name)
    (h : (fieldHead name).matchAt src i = some m) :
    AtLineStart src i ∧
      ∃ pre c, CutAt src i name pre c ∧ fieldFront.Spells pre ∧ (c = ':' ∨ c = '=') := by
  have hplain : fieldFront.isPlain = true := rfl
  have hattempt : attempt src lineStart i [] (fun j g =>
      attempt src (fieldFront ++ lit name ++ space) j g fun j g =>
        attempt src ( annotation ++ char '=') j g fun j g =>
          attempt src (notAhead (one fun c => c == '=' || c == '>') ++ space) j g
            fun j g => some (j, g)) =
      some (m.stop, m.groups) := (matchAt_eq_some.mp h).1
  obtain ⟨hline, hrest⟩ := attempt_lineStart_iff.mp hattempt
  obtain ⟨pre, j, g', hpre, hj, hcut⟩ := cut_of_attempt hname hplain hrest
  obtain ⟨c, hc, hmark⟩ := equals_of_attempt hj
  exact ⟨hline, pre, c, hcut c hc, hpre, hmark⟩

theorem propertyHead_cut (hname : IsIdentifier name)
    (h : (propertyHead name).matchAt src i = some m) : CutAt src i name [] ':' := by
  have hplain : notInName.isPlain = true := rfl
  have hattempt : attempt src (notInName ++ lit name ++ space) i [] (fun j g =>
      attempt src (char ':') j g fun j g => attempt src (space ++
        ahead (alt (lit "async" ++ wordEdge) (alt (lit "function" ++ wordEdge)
          (alt (char '(') (runs isNameChar ++ space ++ lit "=>"))))) j g fun j g => some (j, g)) =
      some (m.stop, m.groups) := (matchAt_eq_some.mp h).1
  obtain ⟨_, j, g', rfl, hj, hcut⟩ := cut_of_attempt hname hplain hattempt
  obtain ⟨t, l, g'', ht, hbetween, -⟩ := attempt_spells _ rfl hj
  obtain rfl : t = [':'] := (spells_char_iff ':').mp ht
  have hahead : src.Ahead j (':' :: src.toList.drop l) := hbetween.ahead
  exact hcut ':' hahead.head

theorem methodHead_cut (hname : IsIdentifier name)
    (h : (methodHead name).matchAt src i = some m) :
    ∃ pre, CutAt src i name pre '(' ∧ methodFront.Spells pre := by
  have hplain : methodFront.isPlain = true := rfl
  have hattempt : attempt src (methodFront ++ lit name ++ space) i [] (fun j g =>
      attempt src (ahead (char '(')) j g fun j g => some (j, g)) =
      some (m.stop, m.groups) := (matchAt_eq_some.mp h).1
  obtain ⟨pre, j, g', hpre, hj, hcut⟩ := cut_of_attempt hname hplain hattempt
  obtain ⟨⟨c, hc, hmark⟩, -⟩ := attempt_ahead_one_iff.mp hj
  obtain rfl : c = '(' := beq_iff_eq.mp hmark
  exact ⟨pre, hcut '(' hc, hpre⟩

/-! ## 5. Texts with one declaration -/

/-- A character that can follow the name in a head. -/
def followsName (c : Char) : Bool := c == '(' || c == '<' || c == ':' || c == '='

theorem followsName_cases (hc : followsName c = true) :
    isIdentifierChar c = false ∧ isSpace c = false := by
  simp only [followsName, Bool.or_eq_true, beq_iff_eq, or_assoc] at hc
  rcases hc with rfl | rfl | rfl | rfl <;> decide

theorem not_mem_const (hc : followsName c = true) : c ∉ "const ".toList := by
  simp only [followsName, Bool.or_eq_true, beq_iff_eq, or_assoc] at hc
  rcases hc with rfl | rfl | rfl | rfl <;> decide

theorem not_mem_of_isSpace {ws : List Char} (hc : isSpace c = false)
    (hws : ∀ d ∈ ws, isSpace d = true) : c ∉ ws := by
  intro hmem
  rw [hws c hmem] at hc
  cases hc

/-- **Where a head can match**: in a text that declares the name once, either at the declaration,
    or behind it. In the first case the character behind the name is the declaration's own. -/
theorem CutAt.place {before lead tail rest : List Char} {sep : Char} (hname : IsIdentifier name)
    (hs : src.toList = before ++ (lead ++ name.toList ++ tail) ++ sep :: rest)
    (htail : ∀ d ∈ tail, isSpace d = true) (hsep : followsName sep = true) (hpre : sep ∉ pre)
    (hc : followsName c = true) (hlead : c ∉ lead) (hbefore : Lacks name before)
    (h : CutAt src i name pre c) :
    (c = sep ∧ ∃ u, u.length = i ∧ u ++ pre = before ++ lead) ∨
      (before.length < i ∧ pre ++ name.toList <:+: rest) := by
  obtain ⟨u, ws, v, htext, rfl, hws⟩ := h
  obtain ⟨hsepname, hsepspace⟩ := followsName_cases hsep
  obtain ⟨hcname, hcspace⟩ := followsName_cases hc
  have hpiece : sep ∉ pre ++ name.toList ++ ws := by
    simp [hpre, hname.not_mem hsepname, not_mem_of_isSpace hsepspace hws]
  rw [htext] at hs
  rcases within_of_cut hs hpiece with ⟨w, hx, hv⟩ | ⟨w, hy, hu⟩
  · refine .inl ?_
    cases w with
    | nil =>
      obtain ⟨rfl, -⟩ := List.cons.inj hv
      refine ⟨rfl, u, rfl, ?_⟩
      -- What stands before the name is what is left when the name and white space are cut off.
      have hends : ∀ a, EndsApart isSpace (a ++ name.toList) :=
        fun a => hname.endsApart.append hname.nonempty a
      have hcut : (u ++ pre ++ name.toList) ++ ws = (before ++ lead ++ name.toList) ++ tail := by
        simpa using hx.symm
      exact List.append_cancel_right (trailing_eq hcut (hends _) (hends _) hws htail).1
    | cons d w =>
      obtain ⟨rfl, -⟩ := List.cons.inj hv
      -- The character stands neither in the declaration nor, behind the name, before it.
      have hdecl : c ∉ lead ++ name.toList ++ tail := by
        simp [hlead, hname.not_mem hcname, not_mem_of_isSpace hcspace htail]
      obtain ⟨w', hw'⟩ := behind_of_cut hx hdecl
      refine absurd ⟨u ++ pre, ws ++ c :: w', ?_⟩ hbefore
      rw [hw']
      simp
  · refine .inr ⟨?_, w, ws ++ c :: v, ?_⟩
    · rw [hu]
      simp only [List.length_append, List.length_cons]
      omega
    · rw [hy]
      simp

/-- A text that holds the name in its declaration only is cut there. -/
theorem CutAt.declared {before lead tail rest : List Char} {sep : Char} (hname : IsIdentifier name)
    (hs : src.toList = before ++ (lead ++ name.toList ++ tail) ++ sep :: rest)
    (htail : ∀ d ∈ tail, isSpace d = true) (hsep : followsName sep = true) (hpre : sep ∉ pre)
    (hc : followsName c = true) (hlead : c ∉ lead) (hbefore : Lacks name before)
    (hrest : Lacks name rest) (h : CutAt src i name pre c) :
    c = sep ∧ ∃ u, u.length = i ∧ u ++ pre = before ++ lead := by
  refine (h.place hname hs htail hsep hpre hc hlead hbefore).resolve_right ?_
  rintro ⟨-, hinfix⟩
  exact hrest ((List.suffix_append pre name.toList).isInfix.trans hinfix)

/-- A constant head whose beginning ends with `const` begins there. -/
theorem constantFront_place {before u : List Char} (hpre : constantFront.Spells pre)
    (h : u ++ pre = before ++ "const ".toList) : u = before := by
  obtain ⟨_, _, rfl, hword, _, ws, rfl, ⟨e, rfl, he⟩, hws⟩ := hpre
  obtain ⟨keyword, hmem, rfl⟩ := spells_words_iff.mp hword
  have hends : ∀ w ∈ ["const", "let", "var"], EndsApart isSpace w.toList ∧ w.toList ≠ [] := by
    simp only [List.forall_mem_cons]
    exact ⟨⟨endsApart_of_forall (forall_of_all rfl), by decide⟩,
      ⟨endsApart_of_forall (forall_of_all rfl), by decide⟩,
      ⟨endsApart_of_forall (forall_of_all rfl), by decide⟩, fun _ h => nomatch h⟩
  have hcut : u ++ keyword.toList ++ e :: ws = before ++ "const".toList ++ [' '] := by
    simpa using h
  have hkeyword : u ++ keyword.toList = before ++ "const".toList :=
    (trailing_eq hcut ((hends _ hmem).1.append (hends _ hmem).2 u)
      ((hends "const" (by decide)).1.append (by decide) before)
      (List.forall_mem_cons.mpr ⟨he, hws⟩) (forall_of_all rfl)).1
  have hother : u ++ keyword.toList = before ++ "co".toList ++ "nst".toList := by
    simpa using hkeyword
  simp only [List.mem_cons, List.not_mem_nil, or_false] at hmem
  rcases hmem with rfl | rfl | rfl
  · exact List.append_cancel_right hkeyword
  · exact absurd (List.append_inj_right' hother rfl) (by decide)
  · exact absurd (List.append_inj_right' hother rfl) (by decide)

/-- A constant head matches at the constant, or behind its equals sign. -/
theorem constant_place {before rest : List Char} (hname : IsIdentifier name)
    (hbefore : Lacks name before)
    (hs : src.toList = before ++ ("const ".toList ++ name.toList ++ [' ']) ++ '=' :: rest)
    (h : (constantHead name).matchAt src i = some m) :
    i = before.length ∨ (before.length < i ∧ ¬ Lacks name rest) := by
  obtain ⟨pre, c, hcut, hpre, hc⟩ := constantHead_cut hname h
  have hmark : followsName c = true := by
    rcases hc with rfl | rfl <;> rfl
  have hequals : '=' ∉ pre := not_mem_of_avoids rfl hpre
  rcases hcut.place hname hs (forall_of_all rfl) rfl hequals hmark (not_mem_const hmark)
    hbefore with
    ⟨-, u, rfl, hu⟩ | ⟨hi, hinfix⟩
  · exact .inl (congrArg List.length (constantFront_place hpre hu))
  · exact .inr ⟨hi, not_not.mpr ((List.suffix_append pre name.toList).isInfix.trans hinfix)⟩

/-- No keyword head matches in a text that declares a constant of the name. What stands between
    the constant and the rest without the name holds no `f`. -/
theorem keyword_nowhere {before between rest : List Char} (hname : IsIdentifier name)
    (hbefore : Lacks name before) (hbetween : 'f' ∉ between) (hrest : Lacks name rest)
    (hs : src.toList =
      before ++ ("const ".toList ++ name.toList ++ [' ']) ++ '=' :: (between ++ rest)) :
    (keywordHead name).findAll src = [] := by
  refine findAll_eq_nil fun i m hm => ?_
  obtain ⟨-, pre, c, hcut, hpre, hc⟩ := keywordHead_cut hname hm
  have hmark : followsName c = true := by
    rcases hc with rfl | rfl <;> rfl
  have hequals : '=' ∉ pre := not_mem_of_avoids rfl hpre
  rcases hcut.place hname hs (forall_of_all rfl) rfl hequals hmark (not_mem_const hmark)
    hbefore with
    ⟨rfl, -⟩ | ⟨-, w, v, hinfix⟩
  · rcases hc with hc | hc <;> cases hc
  · -- The keyword stands in the rest, and the name behind it.
    obtain ⟨a, b, hab⟩ : ∃ a b, pre = a ++ 'f' :: b := by
      obtain ⟨_, _, rfl, ⟨_, _, rfl, ⟨_, _, rfl, ⟨a, f, rfl, -, hf⟩, -⟩, -⟩, -⟩ := hpre
      rw [(spells_lit_iff _).mp hf]
      exact ⟨a, _, by simp; rfl⟩
    have hcutf : between ++ rest = (w ++ a) ++ 'f' :: (b ++ name.toList ++ v) := by
      rw [← hinfix, hab]
      simp
    obtain ⟨z, hz⟩ := beyond_of_cut hcutf hbetween
    exact hrest ⟨z ++ 'f' :: b, v, by rw [hz]; simp⟩

end Cuts

end Affordance.Script
