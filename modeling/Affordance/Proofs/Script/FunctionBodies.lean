import Affordance.Proofs.Script.Declarations
import Affordance.Proofs.Succeeds
import Affordance.Proofs.Text.Stripped

/-!
# The bodies of functions

What the readers of functions give where the text of one stands, whatever follows it.

  * `ParametersAt`: where the parameters of a function stand, with code between their parentheses.
  * **`methodAt_block`**, **`functionAt_block`**: a body in braces is read up to the brace that closes
    it, whatever brackets its literals and comments hold.
  * **`functionAt_expression`**: any other body of an arrow function is read up to the position where
    the scanner ends.
  * `isDefinition_block`, `isDefinition_iff`: which bodies are no mere types.
-/

namespace Affordance.Script

open Affordance.Text
open Affordance.Text.Pattern
open Affordance.Text.Source (Ahead)

variable {src : Source} {i : Nat} {params body s t : List Char}

/-! ## 1. Parameters and blocks -/

/-- The text of a block. -/
def block (body : List Char) : List Char := '\x7b' :: (body ++ ['\x7d'])

/-- Parameters in their parentheses. -/
def parens (params : List Char) : List Char := '(' :: (params ++ [')'])

theorem partner_parens (hparams : Code params) (h : src.Ahead i (parens params ++ s)) :
    partner src i = .ok (i + 1 + params.length) := by
  have hopen : src.Ahead i ('(' :: (params ++ ')' :: s)) := by simpa [parens] using h
  exact partner_code rfl hparams hopen

theorem partner_block (hbody : Code body) (h : src.Ahead i (block body ++ s)) :
    partner src i = .ok (i + 1 + body.length) := by
  have hopen : src.Ahead i ('\x7b' :: (body ++ '\x7d' :: s)) := by simpa [block] using h
  exact partner_code rfl hbody hopen

theorem text_block (h : src.Ahead i (block body ++ s)) :
    src.text i (i + 1 + body.length + 1) = String.ofList (block body) := by
  have hlength : i + 1 + body.length + 1 = i + (block body).length := by
    simp only [block, List.length_cons, List.length_append, List.length_nil]
    omega
  rw [Source.text, hlength, h.slice]

/-- What stands behind parameters. -/
theorem ahead_parens (h : src.Ahead i (parens params ++ s)) :
    src.Ahead (i + 1 + params.length + 1) s := by
  have hlength : i + 1 + params.length + 1 = i + (parens params).length := by
    simp only [parens, List.length_cons, List.length_append, List.length_nil]
    omega
  rw [hlength]
  exact h.drop

theorem passSpace_one {c : Char} (hc : isSpace c = false) (h : src.Ahead i (' ' :: c :: s)) :
    src.passSpace i = i + 1 := by
  have hgap : src.Ahead i ([' '] ++ (c :: s)) := h
  exact hgap.passWhile (forall_of_all rfl) (off_cons hc)

/-! ## 2. Functions with a block -/

/-- **A method's body** is read up to the brace that closes it. -/
theorem methodAt_block (hparams : Code params) (hbody : Code body)
    (h : src.Ahead i (parens params ++ ' ' :: (block body ++ s))) :
    methodAt src i = .ok (some ⟨String.ofList (block body), false,
      i + (parens params ++ ' ' :: block body).length⟩) := by
  have hopen : src[i]? = some '(' := h.head
  have hbehind := ahead_parens h
  have hbrace : src.Ahead (i + 1 + params.length + 1 + 1) (block body ++ s) := hbehind.tail
  have hfirst : src[i + 1 + params.length + 1 + 1]? = some '\x7b' := hbrace.head
  have hstop : i + (parens params ++ ' ' :: block body).length =
      i + 1 + params.length + 1 + 1 + 1 + body.length + 1 := by
    simp only [parens, block, List.length_append, List.length_cons, List.length_nil]
    omega
  rw [hstop]
  simp [methodAt, passSpace_self hopen rfl, hopen, partner_parens hparams h,
    passSpace_one rfl hbehind, hfirst, partner_block hbody hbrace, text_block hbrace]

/-! ## 3. Arrow functions -/

section Arrows

variable {g : Groups} {k : Cont} {m : Match} {isAsync : Bool}

/-- `async` in front of parameters. -/
def asyncHead : Pattern := group "async" (lit "async" ++ wordEdge ++ space)

/-- The keyword in front of parameters. -/
def keywordGroup : Pattern :=
  group "keyword"
    (lit "function" ++ wordEdge ++ space ++ opt (char '*') ++ space ++ run isNameChar ++ space)

/-- Type parameters. -/
def typeParameters : Pattern :=
  char '<' ++ run (fun c => !(c == '<' || c == '>' || c == '(' || c == ')')) ++ char '>'

theorem attempt_functionHead : attempt src functionHead i g k =
    attempt src space i g fun j g => attempt src (opt asyncHead) j g fun j g =>
      attempt src (opt keywordGroup ++ opt typeParameters ++ space) j g k := rfl

/-- Nothing else stands before a parenthesis. -/
theorem attempt_headRest (h : src.Ahead i ('(' :: s)) :
    attempt src (opt keywordGroup ++ opt typeParameters ++ space) i g k = k i g := by
  have hkeyword : ∀ k, attempt src keywordGroup i g k = none :=
    fun k => attempt_lit_off "function" h rfl
  have htype : ∀ k, attempt src typeParameters i g k = none := fun k =>
    attempt_append_of_none fun k => attempt_append_of_none fun k => attempt_char_off h (by simp)
  rw [attempt_append, attempt_append, attempt_opt_of_none (hkeyword _),
    attempt_opt_of_none (htype _), attempt_space_nil h (off_cons rfl)]

/-- The head of an arrow function. -/
theorem functionHead_plain (h : src.Ahead i ('(' :: s)) :
    functionHead.matchAt src i = some ⟨src, i, i, []⟩ := by
  refine matchAt_eq_some.mpr ⟨?_, rfl, rfl⟩
  have hasync : ∀ k, attempt src asyncHead i [] k = none := fun k => attempt_lit_off "async" h rfl
  rw [attempt_functionHead, attempt_space_nil h (off_cons rfl), attempt_opt_of_none (hasync _),
    attempt_headRest h]

/-- The head of an asynchronous arrow function. -/
theorem functionHead_async (h : src.Ahead i ("async ".toList ++ '(' :: s)) :
    functionHead.matchAt src i = some ⟨src, i, i + 6, [("async", i, i + 6)]⟩ := by
  refine matchAt_eq_some.mpr ⟨?_, rfl, rfl⟩
  have hword : src.Ahead i ("async".toList ++ ([' '] ++ '(' :: s)) := h
  have hedge : ∀ k, attempt src wordEdge (i + "async".toList.length) [] k = k (i + 5) [] :=
    fun k => attempt_wordEdge_end (i := i + 4) hword.tail.tail.tail.tail.head rfl hword.drop rfl
  rw [attempt_functionHead, attempt_space_nil hword (off_cons rfl)]
  refine attempt_opt_of_some ?_
  rw [asyncHead, attempt_named, attempt_append, attempt_append, attempt_lit "async" hword, hedge]
  refine attempt_run hword.drop (forall_of_all rfl) (off_cons rfl) ?_
  exact attempt_headRest hword.drop.drop

/-- The body of an arrow function, read from a position on. -/
def arrowBody (src : Source) (isAsync : Bool) (j : Nat) :
    Except BracketFault (Option FunctionText) :=
  if src[j]? == some '\x7b' then do
    let close ← partner src j
    return some ⟨src.text j (close + 1), isAsync, min (close + 1) src.size⟩
  else
    let stop := skip src [';', ',', '\n'] j
    return some ⟨String.ofList (strip (src.slice j stop)), isAsync, stop⟩

/-- An arrow function has the body behind its arrow. -/
theorem functionAt_arrow (hm : functionHead.matchAt src i = some m)
    (hkeyword : m.has "keyword" = false) (hparams : Code params)
    (h : src.Ahead m.stop (parens params ++ (" =>".toList ++ s))) :
    functionAt src i false =
      arrowBody src (m.has "async") (src.passSpace (m.stop + (parens params).length + 3)) := by
  have hopen : src[m.stop]? = some '(' := h.head
  have hbehind : src.Ahead (m.stop + 1 + params.length + 1) (' ' :: '=' :: '>' :: s) :=
    ahead_parens h
  have harrow := hbehind.tail
  have hafter : afterParameters src (m.stop + 1 + params.length + 1) =
      m.stop + 1 + params.length + 1 + 1 := by
    simp [afterParameters, passSpace_one rfl hbehind, harrow.head, passSpace_self harrow.head rfl]
  have hat : src.at_ (m.stop + 1 + params.length + 1 + 1) ['=', '>'] = true :=
    Ahead.at_ (s := s) harrow
  have hstop : m.stop + (parens params).length + 3 = m.stop + 1 + params.length + 1 + 1 + 2 := by
    simp only [parens, List.length_append, List.length_cons, List.length_nil]
    omega
  rw [hstop]
  simp [functionAt, hm, hkeyword, passParameters, hopen, partner_parens hparams h, hafter, hat,
    arrowBody]

/-- What stands before the parameters of an asynchronous function. -/
def asyncText (isAsync : Bool) : List Char := if isAsync then "async ".toList else []

theorem functionHead_at (isAsync : Bool)
    (h : src.Ahead i (asyncText isAsync ++ (parens params ++ s))) :
    ∃ m, functionHead.matchAt src i = some m ∧ m.stop = i + (asyncText isAsync).length ∧
      m.has "async" = isAsync ∧ m.has "keyword" = false := by
  cases isAsync with
  | false => exact ⟨_, functionHead_plain h, rfl, rfl, rfl⟩
  | true =>
    refine ⟨_, functionHead_async h, rfl, ?_, rfl⟩
    simp [Match.has]

/-- **The body of an arrow function** begins behind its arrow and white space. -/
theorem functionAt_arrowBody {gap : List Char} (hparams : Code params)
    (hgap : ∀ c ∈ gap, isSpace c = true) (hs : ∀ c ∈ s.head?, isSpace c = false)
    (h : src.Ahead i (asyncText isAsync ++ (parens params ++ (" =>".toList ++ (gap ++ s))))) :
    ∃ j, src.Ahead j s ∧ functionAt src i false = arrowBody src isAsync j := by
  obtain ⟨m, hm, hstop, hasync, hkeyword⟩ := functionHead_at isAsync h
  have hopen := h.drop
  rw [← hstop] at hopen
  have hread := functionAt_arrow hm hkeyword hparams hopen
  have hbehind : src.Ahead (m.stop + (parens params).length + 3) (gap ++ s) := hopen.drop.drop
  have hpass : src.passSpace (m.stop + (parens params).length + 3) =
      m.stop + (parens params).length + 3 + gap.length := hbehind.passWhile hgap hs
  rw [hpass, hasync] at hread
  exact ⟨_, hbehind.drop, hread⟩

theorem arrowBody_block (hbody : Code body) (h : src.Ahead i (block body ++ s)) :
    ∃ stop, ∀ isAsync,
      arrowBody src isAsync i = .ok (some ⟨String.ofList (block body), isAsync, stop⟩) := by
  have hfirst : src[i]? = some '\x7b' := h.head
  refine ⟨min (i + 1 + body.length + 1) src.size, fun isAsync => ?_⟩
  simp [arrowBody, hfirst, partner_block hbody h, text_block h]

end Arrows

/-! ## 4. Bodies that are no mere types -/

/-- The type words that a body of a function type can be. -/
def typeWords : List String := ["void", "any", "unknown", "never", "boolean", "string", "number"]

/-- A body that is neither a word for a type nor begins like a promise is a definition. -/
theorem isDefinition_of (f : FunctionText)
    (hword : ∀ w ∈ typeWords, strip f.body.toList ≠ w.toList)
    (hpromise : ¬ "Promise<".toList <+: strip f.body.toList) : isDefinition f = true := by
  rw [isDefinition, Option.isNone_iff_eq_none, Option.eq_none_iff_forall_ne_some]
  intro m hm
  rcases fullMatch_spells rfl hm with hw | ⟨_, _, ht, ⟨_, _, rfl, ⟨_, _, rfl, hp, -⟩, -⟩, -⟩
  · obtain ⟨w, hmem, ht⟩ := spells_words_iff.mp hw
    exact hword w hmem ht
  · rw [(spells_lit_iff _).mp hp] at ht
    refine hpromise ?_
    rw [ht]
    simp only [List.append_assoc]
    exact List.prefix_append _ _

/-- A block is no type. -/
theorem isDefinition_block {body : List Char} {isAsync : Bool} {stop : Nat} :
    isDefinition ⟨String.ofList (block body), isAsync, stop⟩ = true := by
  have hstrip : strip (String.ofList (block body)).toList = block body := by
    rw [String.toList_ofList]
    exact strip_eq_self rfl rfl
  refine isDefinition_of _ (fun w hw h => ?_) fun h => ?_
  · have hwords : ∀ w ∈ typeWords, w.toList.head? ≠ some '\x7b' := by decide
    exact hwords w hw (by rw [h.symm.trans hstrip]; rfl)
  · obtain ⟨t, ht⟩ := h
    cases ht.trans hstrip

/-! ## 5. Definitions among the declarations -/

section Found

variable {name : String} {m : Match} {ms : List Match} {f : FunctionText} {head : Pattern}
  {isMethod : Bool} {forms : List DeclarationForm} {d : Definition}

theorem definitionAmong_method (h : methodAt src m.stop = .ok (some f))
    (hf : isDefinition f = true) : definitionAmong src name true (m :: ms) =
      .ok (some ⟨name, f.body, f.isAsync || m.has "async"⟩) := by
  simp only [definitionAmong, h, hf, if_true, ok_bind]
  rfl

theorem definitionAmong_function (h : functionAt src m.stop false = .ok (some f))
    (hf : isDefinition f = true) : definitionAmong src name false (m :: ms) =
      .ok (some ⟨name, f.body, f.isAsync || m.has "async"⟩) := by
  simp only [definitionAmong, h, hf, if_true, ok_bind]
  rfl

theorem definitionAmong_single (name : String)
    (h : functionAt src m.stop false = .ok (some f)) :
    definitionAmong src name false [m] = .ok (if isDefinition f = true
      then some ⟨name, f.body, f.isAsync || m.has "async"⟩ else none) := by
  by_cases hf : isDefinition f = true
  · rw [definitionAmong_function h hf, if_pos hf]
  · simp only [definitionAmong, h, hf, ok_bind]
    rfl

theorem definitionIn_first
    (h : definitionAmong src name isMethod (head.findAll src) = .ok (some d)) :
    definitionIn src name (⟨head, isMethod⟩ :: forms) = .ok (some d) := by
  simp only [definitionIn, h, ok_bind]
  rfl

theorem definitionIn_next
    (h : definitionAmong src name isMethod (head.findAll src) = .ok none) :
    definitionIn src name (⟨head, isMethod⟩ :: forms) = definitionIn src name forms := by
  simp [definitionIn, h]

/-- A form whose head is found nowhere defines nothing. -/
theorem definitionIn_skip (h : head.findAll src = []) :
    definitionIn src name (⟨head, isMethod⟩ :: forms) = definitionIn src name forms := by
  refine definitionIn_next ?_
  rw [h, definitionAmong]

theorem definitionOf_eq {scope : List Char} (hscope : scope ≠ []) (hname : IsIdentifier name) :
    definitionOf (String.ofList scope) name =
      definitionIn scope.toArray name (declarationForms name) := by
  have hname' : name.isEmpty = false := by
    have := hname.nonempty
    simpa using this
  have hscope' : (String.ofList scope).isEmpty = false := by
    simpa using hscope
  rw [definitionOf, hscope', hname', Source.of, String.toList_ofList]
  rfl

end Found

end Affordance.Script
