import Affordance.Proofs.Script.FunctionBodies
import Affordance.Proofs.Text.Pieces

/-!
# Functions with a block are found whole

What a function of a given name is found to be in a text that declares it once, with a block for
its body.

  * `BlockFunction`: a function with a block, with the keyword, as an arrow, or as an arrow in a
    callback hook (`BlockFunction.render`). Parameters and body are code.
  * `OwnLine`: what stands before a declaration ends with the beginning of a line.
    `AsyncBefore`: but for white space and line breaks it ends with the word `async`.
  * `keyword_first`: what a keyword head finds first in such a text. `constant_body_whole`: what a
    constant head finds.
  * **`block_body_whole`**: the body is found whole, whatever stands around the declaration. The
    function is found to be asynchronous iff it is declared so, or is declared by the keyword
    behind the word `async` on an earlier line.
-/

namespace Affordance.Script

open Affordance.Text
open Affordance.Text.Pattern
open Affordance.Text.Source (Ahead)

/-! ## 1. Declarations -/

/-- How a function with a block is declared. -/
inductive BlockForm where
  /-- By the keyword. -/
  | keyword
  /-- As a constant. -/
  | arrow
  /-- As a constant that is a callback, with what it depends on. -/
  | callback (deps : List Char)

/-- A function with a block. -/
structure BlockFunction where
  form : BlockForm
  isAsync : Bool
  params : List Char
  body : List Char
  params_code : Code params
  body_code : Code body

namespace BlockFunction

variable (f : BlockFunction)

/-- The parameters and the body of an arrow function. -/
def arrow : List Char :=
  asyncText f.isAsync ++ (parens f.params ++ (" =>".toList ++ ([' '] ++ block f.body)))

/-- The declaration of the function under a name. -/
def render (name : String) : List Char :=
  match f.form with
  | .keyword => asyncText f.isAsync ++ ("function ".toList ++ (name.toList ++
      (parens f.params ++ ' ' :: block f.body)))
  | .arrow => "const ".toList ++ (name.toList ++ (" = ".toList ++ f.arrow))
  | .callback deps => "const ".toList ++ (name.toList ++ (" = useCallback(".toList ++ (f.arrow ++
      (", ".toList ++ (deps ++ [')'])))))

/-- The texts of the declaration that are no keywords of it. -/
def texts : List (List Char) :=
  match f.form with
  | .callback deps => [f.params, f.body, deps]
  | _ => [f.params, f.body]

end BlockFunction

/-- The text is empty or ends with the indentation of a line. -/
def OwnLine (before : List Char) : Prop :=
  before = [] ∨ ∃ u blanks, before = u ++ '\n' :: blanks ∧ ∀ c ∈ blanks, c = ' ' ∨ c = '\t'

/-- Behind the word `async` the text has nothing but white space. -/
def AsyncBefore (before : List Char) : Prop :=
  ∃ u ws, before = u ++ ("async".toList ++ ws) ∧ (∀ c ∈ ws, isSpace c = true) ∧
    EndsApart isMemberChar u

theorem OwnLine.endsApart {p : Char → Bool} {before : List Char} (h : OwnLine before)
    (hp : ∀ c ∈ ['\n', ' ', '\t'], p c = false) : EndsApart p before := by
  rcases h with rfl | ⟨u, blanks, rfl, hblanks⟩
  · exact endsApart_nil
  · refine EndsApart.append (endsApart_of_forall fun c hc => ?_) (by simp) u
    rcases List.mem_cons.mp hc with rfl | hc
    · exact hp '\n' (by decide)
    · rcases hblanks c hc with rfl | rfl
      · exact hp ' ' (by decide)
      · exact hp '\t' (by decide)

/-! ## 2. Functions with the keyword -/

section Keyword

variable {src : Source} {name : String} {before rest : List Char} {isAsync : Bool} {i : Nat}
  {m : Match}

theorem endsApart_async (u : List Char) : EndsApart isSpace (u ++ "async".toList) :=
  (endsApart_of_forall (forall_of_all rfl)).append (by decide) u

/-- White space or the sign of a generator. -/
def isGap (c : Char) : Bool := isSpace c || c == '*'

/-- A keyword head whose beginning ends with the declaration's `function` has its own `async`
    before that, or none. -/
theorem keywordFront_place {u pre : List Char} (hpre : keywordFront.Spells pre)
    (h : u ++ pre = before ++ (asyncText isAsync ++ "function ".toList)) :
    u = before ++ asyncText isAsync ∨
      ∃ ws, ws ≠ [] ∧ (∀ c ∈ ws, isSpace c = true) ∧
        u ++ ("async".toList ++ ws) = before ++ asyncText isAsync := by
  obtain ⟨_, b₃, rfl, ⟨_, b₂, rfl, ⟨_, b₁, rfl, ⟨a, f, rfl, ha, hf⟩, h₁⟩, h₂⟩, h₃⟩ := hpre
  obtain rfl : f = "function".toList := (spells_lit_iff _).mp hf
  have hgap : ∀ c ∈ b₁ ++ b₂ ++ b₃, isGap c = true := by
    have hspace : ∀ c, isSpace c = true → isGap c = true := fun c hc => by simp [isGap, hc]
    have hstar : ∀ c ∈ b₂, isGap c = true := by
      rcases h₂ with h₂ | rfl
      · rw [(spells_char_iff '*').mp h₂]
        exact forall_of_all rfl
      · exact fun c hc => nomatch hc
    refine List.forall_mem_append.mpr ⟨List.forall_mem_append.mpr ⟨fun c hc => ?_, hstar⟩, ?_⟩
    · exact hspace c (h₁ c hc)
    · exact fun c hc => hspace c (h₃ c hc)
  have hends : ∀ x, EndsApart isGap (x ++ "function".toList) :=
    fun x => (endsApart_of_forall (forall_of_all rfl)).append (by decide) x
  have hcut : u ++ a ++ "function".toList ++ (b₁ ++ b₂ ++ b₃) =
      before ++ asyncText isAsync ++ "function".toList ++ [' '] := by
    simpa using h
  have hfront : u ++ a = before ++ asyncText isAsync :=
    List.append_cancel_right (trailing_eq hcut (hends _) (hends _) hgap (forall_of_all rfl)).1
  rcases ha with ⟨_, ws, rfl, hasync, c, ws', rfl, ⟨d, rfl, hd⟩, hws⟩ | rfl
  · rw [(spells_lit_iff _).mp hasync] at hfront
    exact .inr ⟨d :: ws', by simp, List.forall_mem_cons.mpr ⟨hd, hws⟩, hfront⟩
  · exact .inl (by simpa using hfront)

/-- A keyword head that matches before the declaration begins with `async` and goes on with the
    declaration's keyword. -/
theorem keyword_early (hname : IsIdentifier name) (hbefore : Lacks name before)
    (hs : src.toList =
      before ++ (asyncText isAsync ++ "function ".toList ++ name.toList ++ []) ++ '(' :: rest)
    (h : (keywordHead name).matchAt src i = some m) (hi : i < before.length) :
    isAsync = false ∧ ∃ u ws, u.length = i ∧ before = u ++ ("async".toList ++ ws) ∧
      (∀ c ∈ ws, isSpace c = true) ∧ EndsApart isMemberChar u := by
  obtain ⟨hstart, pre, c, hcut, hpre, hc⟩ := keywordHead_cut hname h
  have hmark : followsName c = true := by
    rcases hc with rfl | rfl <;> rfl
  have hlead : c ∉ asyncText isAsync ++ "function ".toList := by
    rcases hc with rfl | rfl <;> cases isAsync <;> decide
  have hparen : '(' ∉ pre := not_mem_of_avoids rfl hpre
  rcases hcut.place hname hs (by simp) rfl hparen hmark hlead hbefore with ⟨-, u, rfl, hu⟩ | ⟨hlt, -⟩
  · rcases keywordFront_place hpre hu with rfl | ⟨ws, -, hws, hfront⟩
    · rw [List.length_append] at hi
      omega
    · cases isAsync with
      | true =>
        -- The head's `async` is the declaration's own.
        have hsame : u ++ "async".toList ++ ws = before ++ "async".toList ++ [' '] := by
          simpa [asyncText] using hfront
        have hu' : u = before := List.append_cancel_right
          (trailing_eq hsame (endsApart_async u) (endsApart_async before) hws (forall_of_all rfl)).1
        rw [hu'] at hi
        omega
      | false =>
        obtain rfl : u ++ ("async".toList ++ ws) = before := by simpa [asyncText] using hfront
        have htext : src.toList = u ++ ("async".toList ++ ws ++
            (asyncText false ++ "function ".toList ++ name.toList ++ []) ++ '(' :: rest) := by
          rw [hs]
          simp only [List.append_assoc]
        exact ⟨rfl, u, ws, rfl, rfl, hws, (notAfter_iff_endsApart htext).mp hstart⟩
  · omega

/-- Without `async` before the declaration no keyword head matches before it. -/
theorem keyword_not_early (hname : IsIdentifier name) (hbefore : Lacks name before)
    (hs : src.toList = before ++
      (asyncText isAsync ++ ("function ".toList ++ (name.toList ++ '(' :: rest))))
    (hplain : isAsync = true ∨ ¬ AsyncBefore before) :
    ∀ l < before.length, ∀ m, (keywordHead name).matchAt src l ≠ some m := by
  intro l hl m hm
  obtain ⟨rfl, u, ws, -, hu, hws, hends⟩ := keyword_early hname hbefore (by simpa using hs) hm hl
  rcases hplain with hplain | hplain
  · cases hplain
  · exact hplain ⟨u, ws, hu, hws, hends⟩

/-- The head of a function that is asynchronous by a word at the end of `u` is found first, if no
    head matches before. -/
theorem keyword_first_async {u w : List Char} (hname : IsIdentifier name)
    (hu : EndsApart isMemberChar u) (hne : w ≠ []) (hw : ∀ c ∈ w, isSpace c = true)
    (hs : src.toList =
      u ++ ("async".toList ++ (w ++ ("function ".toList ++ (name.toList ++ '(' :: rest)))))
    (hfirst : ∀ l < u.length, ∀ m, (keywordHead name).matchAt src l ≠ some m) :
    ∃ m ms, (keywordHead name).findAll src = m :: ms ∧ src.Ahead m.stop ('(' :: rest) ∧
      m.has "async" = true := by
  obtain ⟨stop, hm, hahead⟩ := keywordHead_async hname ((notAfter_iff_endsApart hs).mpr hu) hne hw
    (Source.ahead_of_cut hs)
  obtain ⟨ms, hms⟩ := findAll_eq_cons hm (by simp [← Array.length_toList, hs]) hfirst
  exact ⟨_, ms, hms, hahead, by simp [Match.has]; omega⟩

/-- The word `async` before the line of a function without it is found with the function. -/
theorem keyword_first_before (hname : IsIdentifier name) (hline : OwnLine before)
    (hbefore : Lacks name before) (hasync : AsyncBefore before)
    (hs : src.toList = before ++ ("function ".toList ++ (name.toList ++ '(' :: rest))) :
    ∃ m ms, (keywordHead name).findAll src = m :: ms ∧ src.Ahead m.stop ('(' :: rest) ∧
      m.has "async" = true := by
  obtain ⟨u, ws, rfl, hws, hends⟩ := hasync
  have hne : ws ≠ [] := by
    -- The beginning of a line does not end with a letter.
    rintro rfl
    have hmember : EndsApart isMemberChar (u ++ ("async".toList ++ [])) :=
      hline.endsApart (forall_of_all rfl)
    exact absurd (hmember 'c' (by simp)) (by decide)
  refine keyword_first_async hname hends hne hws (by rw [hs]; simp) fun l hl m hm => ?_
  have hplain : src.toList = u ++ ("async".toList ++ ws) ++
      (asyncText false ++ "function ".toList ++ name.toList ++ []) ++ '(' :: rest := by
    simpa [asyncText] using hs
  obtain ⟨-, u', ws', rfl, hu', hws', -⟩ :=
    keyword_early hname hbefore hplain hm (by rw [List.length_append]; omega)
  have hsame : u ++ "async".toList ++ ws = u' ++ "async".toList ++ ws' := by
    simpa using hu'
  have hu : u = u' := List.append_cancel_right
    (trailing_eq hsame (endsApart_async u) (endsApart_async u') hws hws').1
  rw [hu] at hl
  omega

/-- **What a keyword head finds first** where a function is declared by the keyword. -/
theorem keyword_first (hname : IsIdentifier name) (hline : OwnLine before)
    (hbefore : Lacks name before)
    (hs : src.toList = before ++
      (asyncText isAsync ++ ("function ".toList ++ (name.toList ++ '(' :: rest)))) :
    ∃ m ms, (keywordHead name).findAll src = m :: ms ∧ src.Ahead m.stop ('(' :: rest) ∧
      (m.has "async" = true ↔ isAsync = true ∨ AsyncBefore before) := by
  have hmember : EndsApart isMemberChar before := hline.endsApart (forall_of_all rfl)
  cases isAsync with
  | true =>
    obtain ⟨m, ms, hms, hahead, hasync⟩ := keyword_first_async (w := [' ']) hname hmember (by simp)
      (forall_of_all rfl) hs (keyword_not_early hname hbefore hs (.inl rfl))
    exact ⟨m, ms, hms, hahead, by simp [hasync]⟩
  | false =>
    by_cases hab : AsyncBefore before
    · obtain ⟨m, ms, hms, hahead, hasync⟩ := keyword_first_before hname hline hbefore hab hs
      exact ⟨m, ms, hms, hahead, by simp [hasync, hab]⟩
    · obtain ⟨stop, hm, hahead⟩ := keywordHead_plain hname
        ((notAfter_iff_endsApart hs).mpr hmember) (Source.ahead_of_cut hs)
      obtain ⟨ms, hms⟩ := findAll_eq_cons hm (by simp [← Array.length_toList, hs])
        (keyword_not_early hname hbefore hs (.inr hab))
      exact ⟨_, ms, hms, hahead, by simp [Match.has, hab]⟩

end Keyword

/-! ## 3. Whole bodies -/

/-- The text declares the function under the name, on its own line, and holds the name nowhere
    else. -/
structure DeclaredOnce (f : BlockFunction) (name : String) (before after : List Char) : Prop where
  isIdentifier : IsIdentifier name
  line : OwnLine before
  before : Lacks name before
  texts : ∀ t ∈ f.texts, Lacks name t
  after : Lacks name after

/-- What a function by the name is found to be. -/
def FoundWhole (f : BlockFunction) (name : String) (scope : List Char) (isAsync : Bool) : Prop :=
  definitionOf (String.ofList scope) name =
    .ok (some ⟨name, String.ofList (block f.body), isAsync⟩)

section Whole

variable {f : BlockFunction} {name : String} {before after : List Char}

theorem keyword_body_whole (h : DeclaredOnce f name before after) (hform : f.form = .keyword) :
    ∃ isAsync, FoundWhole f name (before ++ (f.render name ++ after)) isAsync ∧
      (isAsync = true ↔ f.isAsync = true ∨ AsyncBefore before) := by
  have hs : (before ++ (f.render name ++ after)).toArray.toList = before ++
      (asyncText f.isAsync ++ ("function ".toList ++ (name.toList ++ '(' ::
        (f.params ++ ')' :: ' ' :: (block f.body ++ after))))) := by
    simp [BlockFunction.render, hform, parens]
  obtain ⟨m, ms, hms, hahead, hasync⟩ := keyword_first h.isIdentifier h.line h.before hs
  have hread := methodAt_block (s := after) f.params_code f.body_code (by simpa [parens] using hahead)
  refine ⟨m.has "async", ?_, hasync⟩
  rw [FoundWhole, definitionOf_eq (by simp [BlockFunction.render, hform]) h.isIdentifier,
    declarationForms_eq]
  refine definitionIn_first ?_
  rw [hms]
  exact definitionAmong_method hread isDefinition_block

/-- What stands behind `async` in an arrow function. -/
def BlockFunction.arrowRest (f : BlockFunction) : List Char :=
  parens f.params ++ (" =>".toList ++ ([' '] ++ block f.body))

/-- An arrow function lacks the name if its parameters and its body do. -/
theorem lacks_arrowRest {tail : List Char} (hname : IsIdentifier name)
    (hparams : Lacks name f.params) (hbody : Lacks name f.body) (htail : Lacks name tail) :
    Lacks name (f.arrowRest ++ tail) := by
  have hblock : Lacks name (block f.body ++ tail) := by
    simpa [block] using Lacks.cons hname rfl (hbody.append_cons hname rfl htail)
  have hbehind : Lacks name (" => ".toList ++ (block f.body ++ tail)) :=
    .cons hname rfl (.cons hname rfl (.cons hname rfl (.cons hname rfl hblock)))
  simpa [BlockFunction.arrowRest, parens] using
    Lacks.cons hname rfl (hparams.append_cons hname rfl hbehind)

/-- A constant is found to be the arrow function behind the match of its head. What stands between
    the equals sign and the function holds no `f`. -/
theorem constant_body_whole {scope w tail : List Char} {stop : Nat} (hname : IsIdentifier name)
    (hbefore : Lacks name before) (htail : Lacks name (f.arrowRest ++ tail))
    (hw : 'f' ∉ w ++ asyncText f.isAsync)
    (hs : scope = before ++ ("const ".toList ++ name.toList ++ [' ']) ++
      '=' :: (w ++ asyncText f.isAsync ++ (f.arrowRest ++ tail)))
    (hm : (constantHead name).matchAt scope.toArray before.length =
      some ⟨scope.toArray, before.length, stop, []⟩)
    (hahead : Source.Ahead scope.toArray stop (f.arrow ++ tail)) :
    FoundWhole f name scope f.isAsync := by
  have hnone : ∀ l < before.length, ∀ m, (constantHead name).matchAt scope.toArray l ≠ some m := by
    intro l hl m hm
    rcases constant_place hname hbefore (by rw [hs]) hm with hplace | ⟨hplace, -⟩ <;> omega
  obtain ⟨ms, hms⟩ := findAll_eq_cons hm (by simp [hs]) hnone
  have harrow : Source.Ahead scope.toArray stop (asyncText f.isAsync ++
      (parens f.params ++ (" =>".toList ++ ([' '] ++ (block f.body ++ tail))))) := by
    simpa [BlockFunction.arrow] using hahead
  obtain ⟨j, hj, hread⟩ :=
    functionAt_arrowBody f.params_code (forall_of_all rfl) (by exact off_cons rfl) harrow
  obtain ⟨last, hbody⟩ := arrowBody_block f.body_code hj
  rw [FoundWhole, definitionOf_eq (by simp [hs]) hname, declarationForms_eq,
    definitionIn_skip (keyword_nowhere hname hbefore hw htail (by rw [hs]))]
  refine definitionIn_first ?_
  rw [hms, definitionAmong_function (hread.trans (hbody f.isAsync)) isDefinition_block]
  simp [Match.has]

/-- An arrow function begins with a parenthesis or with `async`. -/
theorem arrow_start (f : BlockFunction) (s : List Char) :
    (∀ c ∈ (f.arrow ++ s).head?, isSpace c = false) ∧
      startsWith (f.arrow ++ s) "React.".toList = false ∧
      startsWith (f.arrow ++ s) "useCallback".toList = false := by
  rw [BlockFunction.arrow]
  cases f.isAsync with
  | false => exact ⟨off_cons rfl, rfl, rfl⟩
  | true => exact ⟨off_cons rfl, rfl, rfl⟩

theorem DeclaredOnce.lacks_parts (h : DeclaredOnce f name before after) :
    Lacks name f.params ∧ Lacks name f.body := by
  have hparts : f.params ∈ f.texts ∧ f.body ∈ f.texts := by
    unfold BlockFunction.texts
    cases f.form <;> simp
  exact ⟨h.texts _ hparts.1, h.texts _ hparts.2⟩

theorem arrow_body_whole (h : DeclaredOnce f name before after) (hform : f.form = .arrow) :
    FoundWhole f name (before ++ (f.render name ++ after)) f.isAsync := by
  have hword : EndsApart isWord before := h.line.endsApart (forall_of_all rfl)
  have htext : (before ++ (f.render name ++ after)).toArray.toList =
      before ++ ("const ".toList ++ (name.toList ++ (" = ".toList ++ (f.arrow ++ after)))) := by
    simp [BlockFunction.render, hform]
  obtain ⟨hfirst, hreact, hhook⟩ := arrow_start f after
  obtain ⟨stop, hm, hahead⟩ := constantHead_arrow h.isIdentifier
    ((notAfter_iff_endsApart htext).mpr hword) hfirst hreact hhook (Source.ahead_of_cut htext)
  have htail := lacks_arrowRest h.isIdentifier h.lacks_parts.1 h.lacks_parts.2 h.after
  refine constant_body_whole (w := [' ']) h.isIdentifier h.before htail ?_ ?_ hm hahead
  · cases f.isAsync <;> decide
  · simp [BlockFunction.render, hform, BlockFunction.arrow, BlockFunction.arrowRest]

theorem callback_body_whole {deps : List Char} (h : DeclaredOnce f name before after)
    (hform : f.form = .callback deps) :
    FoundWhole f name (before ++ (f.render name ++ after)) f.isAsync := by
  have hword : EndsApart isWord before := h.line.endsApart (forall_of_all rfl)
  have hdeps : Lacks name deps := h.texts _ (by simp [BlockFunction.texts, hform])
  have hbehind : Lacks name (", ".toList ++ (deps ++ ')' :: after)) :=
    .cons h.isIdentifier rfl (.cons h.isIdentifier rfl
      (hdeps.append_cons h.isIdentifier rfl h.after))
  have htext : (before ++ (f.render name ++ after)).toArray.toList =
      before ++ ("const ".toList ++ (name.toList ++ (" = useCallback(".toList ++
        (f.arrow ++ (", ".toList ++ (deps ++ ')' :: after)))))) := by
    simp [BlockFunction.render, hform]
  obtain ⟨hfirst, -⟩ := arrow_start f (", ".toList ++ (deps ++ ')' :: after))
  obtain ⟨stop, hm, hahead⟩ := constantHead_callback h.isIdentifier
    ((notAfter_iff_endsApart htext).mpr hword) hfirst (Source.ahead_of_cut htext)
  have htail := lacks_arrowRest h.isIdentifier h.lacks_parts.1 h.lacks_parts.2 hbehind
  refine constant_body_whole (w := " useCallback(".toList) h.isIdentifier h.before htail ?_ ?_ hm
    hahead
  · cases f.isAsync <;> decide
  · simp [BlockFunction.render, hform, BlockFunction.arrow, BlockFunction.arrowRest]

/-- **A body in braces is found whole**, in every text that declares the function once and on its
    own line, whatever brackets the literals and comments of the body hold. The function is found
    to be asynchronous iff it is declared so, or the keyword declares it and what stands before
    its line ends with the word `async`. -/
theorem block_body_whole (h : DeclaredOnce f name before after) :
    ∃ isAsync, FoundWhole f name (before ++ (f.render name ++ after)) isAsync ∧
      (isAsync = true ↔ f.isAsync = true ∨ (f.form = .keyword ∧ AsyncBefore before)) := by
  cases hform : f.form with
  | keyword =>
    obtain ⟨isAsync, hfound, hasync⟩ := keyword_body_whole h hform
    exact ⟨isAsync, hfound, by simpa using hasync⟩
  | arrow => exact ⟨f.isAsync, arrow_body_whole h hform, by simp⟩
  | callback deps => exact ⟨f.isAsync, callback_body_whole h hform, by simp⟩

/-- A function that saves. -/
def saving : BlockFunction where
  form := .keyword
  isAsync := false
  params := []
  body := " save(); ".toList
  params_code := .nil
  body_code := .plain rfl (.plain rfl (.plain rfl (.plain rfl (.plain rfl
    (.group (o := '(') (e := []) rfl .nil (.plain rfl (.plain rfl .nil)))))))

/-- **A comment makes a function asynchronous**: its last word is taken for the function's own. -/
theorem comment_makes_async :
    DeclaredOnce saving "go" "// not async\n".toList [] ∧ saving.isAsync = false ∧
      definitionOf "// not async\nfunction go() \x7b save(); \x7d" "go" =
        .ok (some ⟨"go", "\x7b save(); \x7d", true⟩) := by
  have hdeclared : DeclaredOnce saving "go" "// not async\n".toList [] :=
    { isIdentifier := ⟨by decide, forall_of_all rfl⟩
      line := .inr ⟨"// not async".toList, [], rfl, by simp⟩
      before := by unfold Lacks; decide
      texts := by unfold Lacks; decide
      after := by unfold Lacks; decide }
  have hasync : AsyncBefore "// not async\n".toList :=
    ⟨"// not ".toList, ['\n'], rfl, forall_of_all rfl, endsApart_append_cons "// not".toList rfl⟩
  obtain ⟨isAsync, hfound, hiff⟩ := block_body_whole hdeclared
  obtain rfl : isAsync = true := hiff.mpr (.inr ⟨rfl, hasync⟩)
  exact ⟨hdeclared, rfl, hfound⟩

end Whole

end Affordance.Script
