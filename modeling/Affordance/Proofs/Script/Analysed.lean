import Affordance.Proofs.Script.Brackets
import Affordance.Proofs.Surface.Labels
import Affordance.Proofs.Text.Stripped
import Affordance.SourceFile
import Mathlib.Tactic.Choose

/-!
# Scripts that are analysed

Script text that no grammar accepts should be analysed all the same.

  * `succeeds_stateOf`, `succeeds_propsOf`: state and props are read without a fault, since every
    pattern that leads to a look-up of a bracket ends at one.
  * `Bodiless`: a declared function with a name, behind whose parameters a bracket closes before
    any body opens.
  * `succeeds_functionSpan_iff`: the only declaration that is not read.
  * `Regular`: a script without such a function, the labels of whose elements are read; they are
    where their texts hold no references (`labelsRead_of_literal`).
  * **`script_analysed_iff`**: a script is analysed iff it is regular; what is reported otherwise is
    that bracket or an overlong reference.
-/

namespace Affordance.Script

open Affordance.Text
open Affordance.Text.Pattern

variable {src : Source} {m : Match}

/-! ## 1. State -/

theorem succeeds_argumentsAt {open_ : Nat} (h : Succeeds (partner src open_)) :
    Succeeds (argumentsAt src open_) :=
  h.bind fun _ _ => succeeds_pure _

theorem succeeds_stateVariable (h : m ∈ stateHook.findAll src) : Succeeds (stateVariable src m) :=
  (succeeds_argumentsAt (partner_of_last rfl (matchAt_of_mem_findAll h))).bind
    fun _ _ => succeeds_pure _

theorem succeeds_refVariable (h : m ∈ refHook.findAll src) : Succeeds (refVariable src m) :=
  (succeeds_argumentsAt (partner_of_last rfl (matchAt_of_mem_findAll h))).bind
    fun _ _ => succeeds_pure _

theorem succeeds_reducerVariable (h : m ∈ reducerHook.findAll src) :
    Succeeds (reducerVariable src m) :=
  (succeeds_argumentsAt (partner_of_last rfl (matchAt_of_mem_findAll h))).bind
    fun _ _ => succeeds_pure _

theorem succeeds_classVariables (src : Source) : Succeeds (classVariables src) := by
  unfold classVariables
  cases hm : classState.search src 0 with
  | none => exact succeeds_ok _
  | some m => exact (partner_of_next rfl (matchAt_of_search hm)).bind fun _ _ => succeeds_pure _

/-- **State is read without a fault.** -/
theorem succeeds_stateOf (src : Source) : Succeeds (stateOf src) :=
  (succeeds_mapM_iff.mpr fun _ h => succeeds_stateVariable h).bind fun _ _ =>
    (succeeds_mapM_iff.mpr fun _ h => succeeds_refVariable h).bind fun _ _ =>
      (succeeds_mapM_iff.mpr fun _ h => succeeds_reducerVariable h).bind fun _ _ =>
        (succeeds_classVariables src).bind fun _ _ => succeeds_pure _

/-! ## 2. Props -/

theorem succeeds_namedMembers (src : Source) (name : String) : Succeeds (namedMembers src name) := by
  unfold namedMembers
  cases hi : (interfaceHead name).search src 0 with
  | some m => exact (partner_of_next rfl (matchAt_of_search hi)).bind fun _ _ => succeeds_pure _
  | none =>
    cases ht : (typeHead name).search src 0 with
    | some m => exact (partner_of_next rfl (matchAt_of_search ht)).bind fun _ _ => succeeds_pure _
    | none => exact succeeds_ok _

theorem succeeds_typedProps (src : Source) (type : List Char) : Succeeds (typedProps src type) := by
  unfold typedProps
  split
  · exact succeeds_ok _
  · split
    · exact succeeds_ok _
    · split
      · exact succeeds_namedMembers _ _
      · exact succeeds_ok _

section Stripped

variable {s t : List Char} {c : Char}

theorem dropWhile_of_strip (h : strip s = c :: t) : ∃ u, s.dropWhile isSpace = c :: u := by
  obtain ⟨u, hu⟩ := strip_isPrefix s
  exact ⟨t ++ u, by rw [← hu, h, List.cons_append]⟩

/-- A beginning of a stripped text begins with the same character once it is stripped. -/
theorem head?_of_strip_take {k : Nat} (h : strip ((strip s).take k) = c :: t) :
    (strip s).head? = some c := by
  obtain ⟨u, hu⟩ := dropWhile_of_strip h
  cases hs : strip s with
  | nil =>
    rw [hs] at hu
    simp at hu
  | cons d r =>
    obtain ⟨v, hv⟩ := dropWhile_of_strip hs
    have hd : isSpace d = false := by
      have := List.head?_dropWhile_not isSpace s
      rw [hv] at this
      simpa using this
    rw [hs] at hu
    cases k with
    | zero => cases hu
    | succ k =>
      rw [List.take_succ_cons, List.dropWhile_cons_of_neg (by simp [hd])] at hu
      cases hu
      rfl

end Stripped

/-- A pattern in braces is the beginning of the parameters. -/
theorem succeeds_firstParameter (params : List Char) : Succeeds (firstParameter params) := by
  unfold firstParameter
  dsimp only
  split
  · exact succeeds_pure _
  · split
    · rename_i rest hfirst
      rw [Source.slice_eq, List.drop_zero] at hfirst
      have hhead := head?_of_strip_take hfirst
      rw [List.head?_eq_getElem?, ← List.getElem?_toArray] at hhead
      exact (succeeds_partner hhead rfl).bind fun _ _ => succeeds_pure _
    · split <;> exact succeeds_pure _

/-- **Props are read without a fault.** -/
theorem succeeds_propsOf (params : List Char) (src : Source) : Succeeds (propsOf params src) := by
  refine (succeeds_firstParameter params).bind fun parameter _ => ?_
  cases parameter with
  | none => exact succeeds_pure _
  | some p => exact (succeeds_typedProps _ _).bind fun _ _ => succeeds_pure _

/-! ## 3. Declarations -/

theorem succeeds_parametersOf (src : Source) (start stop : Nat) :
    Succeeds (parametersOf src start stop) := by
  unfold parametersOf
  cases hopen : src.findChar '(' start with
  | none => exact succeeds_ok _
  | some open_ =>
    dsimp only
    split
    · exact (succeeds_partner (Source.findChar_some hopen).2.2 rfl).bind fun _ _ => succeeds_pure _
    · exact succeeds_ok _

theorem succeeds_constantSpan (src : Source) (m : Match) : Succeeds (constantSpan src m) := by
  refine (succeeds_functionAt _ _ _).bind fun f _ => ?_
  cases f with
  | none => exact succeeds_pure _
  | some f => exact (succeeds_parametersOf _ _ _).bind fun _ _ => succeeds_pure _

theorem succeeds_classSpan (src : Source) (m : Match) : Succeeds (classSpan src m) := by
  unfold classSpan
  split
  · rename_i hbrace
    exact (succeeds_partner hbrace rfl).bind fun _ _ => succeeds_pure _
  · exact succeeds_ok _

/-- Where a declared function is expected to have its body: at the first opening brace behind
    its parameters, or at a closing bracket before that. -/
def bodyPlace (src : Source) (m : Match) : Nat :=
  skip src ['\x7b'] (skip src [')'] (m.stop + 1) + 1)

/-- A declared function with a name, behind whose parameters a bracket closes before any body
    opens. -/
def Bodiless (src : Source) (fileName : String) (m : Match) : Prop :=
  functionName m fileName ≠ none ∧ ∃ c, src[bodyPlace src m]? = some c ∧ isCloser c = true

instance (src : Source) (fileName : String) (m : Match) : Decidable (Bodiless src fileName m) :=
  decidable_of_iff
    (functionName m fileName ≠ none ∧ src[bodyPlace src m]?.any isCloser = true) (by
      unfold Bodiless
      cases src[bodyPlace src m]? <;> simp)

section Declarations

variable {fileName : String}

theorem functionSpan_eq (h : m ∈ functionDeclaration.findAll src) :
    functionSpan src fileName m =
      match functionName m fileName with
      | none => .ok none
      | some name =>
        if src.size ≤ bodyPlace src m then .ok none
        else (partner src (bodyPlace src m)).map fun last =>
          some ⟨name, m.start, last + 1, src.text (m.stop + 1) (skip src [')'] (m.stop + 1)),
            bodyPlace src m⟩ := by
  obtain ⟨c, hc, htest⟩ := matchAt_next (matchAt_of_mem_findAll h)
  cases beq_iff_eq.mp htest
  unfold functionSpan
  rw [partner_of_opener hc (d := ')') rfl]
  cases functionName m fileName <;> rfl

/-- What stops the walk to a body: the end of the text, the brace that opens it, or a closing
    bracket. -/
theorem bodyPlace_cases (src : Source) (m : Match) :
    src.size ≤ bodyPlace src m ∨ src[bodyPlace src m]? = some '\x7b' ∨
      ∃ c, src[bodyPlace src m]? = some c ∧ isCloser c = true := by
  by_cases hsize : src.size ≤ bodyPlace src m
  · exact .inl hsize
  · have hc := Array.getElem?_eq_getElem (Nat.lt_of_not_le hsize)
    rcases skip_stop hc with hbrace | hcloser
    · exact .inr (.inl (List.mem_singleton.mp hbrace ▸ hc))
    · exact .inr (.inr ⟨_, hc, hcloser⟩)

theorem isOpener_of_isCloser {c : Char} (h : isCloser c = true) : isOpener c = false := by
  unfold isCloser at h
  unfold isOpener
  grind

/-- **A declared function is read iff it is not bodiless.** -/
theorem succeeds_functionSpan_iff (h : m ∈ functionDeclaration.findAll src) :
    Succeeds (functionSpan src fileName m) ↔ ¬ Bodiless src fileName m := by
  rw [functionSpan_eq h, Bodiless]
  cases functionName m fileName with
  | none => simp
  | some name =>
    dsimp only
    rcases bodyPlace_cases src m with hsize | hbrace | ⟨c, hc, hcloser⟩
    · rw [if_pos hsize, Array.getElem?_eq_none hsize]
      simp
    · rw [if_neg (Nat.not_le.mpr (lt_size hbrace)), succeeds_map_iff, succeeds_partner_iff, hbrace]
      refine iff_of_true ⟨_, rfl, rfl⟩ ?_
      rintro ⟨-, c, hc, hcloser⟩
      cases hc
      cases hcloser
    · rw [if_neg (Nat.not_le.mpr (lt_size hc)), succeeds_map_iff, succeeds_partner_iff, hc]
      simp [hcloser, isOpener_of_isCloser hcloser]

theorem functionSpan_error (h : m ∈ functionDeclaration.findAll src) {f : BracketFault}
    (hf : functionSpan src fileName m = .error f) : ∃ c, isCloser c = true ∧ f = .noBracket c := by
  rw [functionSpan_eq h] at hf
  split at hf
  · cases hf
  · rcases bodyPlace_cases src m with hsize | hbrace | ⟨c, hc, hcloser⟩
    · rw [if_pos hsize] at hf
      cases hf
    · rw [if_neg (Nat.not_le.mpr (lt_size hbrace))] at hf
      exact absurd hf ((succeeds_map_iff.mpr (succeeds_partner hbrace rfl)).ne_error f)
    · rw [if_neg (Nat.not_le.mpr (lt_size hc)), partner, hc] at hf
      exact ⟨c, hcloser, partnerFrom_some_eq_error (map_eq_error_iff.mp hf)⟩

/-- Constants and classes are found in any case. -/
theorem componentSpans_eq (src : Source) (fileName : String) : ∃ g, componentSpans src fileName =
    ((functionDeclaration.findAll src).mapM (functionSpan src fileName)).map g := by
  obtain ⟨constants, hconstants⟩ : Succeeds
      ((constantDeclaration.findAll src).mapM (constantSpan src)) :=
    succeeds_mapM_iff.mpr fun m _ => succeeds_constantSpan src m
  obtain ⟨classes, hclasses⟩ : Succeeds ((classDeclaration.findAll src).mapM (classSpan src)) :=
    succeeds_mapM_iff.mpr fun m _ => succeeds_classSpan src m
  refine ⟨fun functions => disjointFrom 0 (inOrder
    (((functions ++ constants ++ classes).filterMap id).map fun s => (s.start, s))), ?_⟩
  unfold componentSpans
  rw [hconstants, hclasses]
  cases (functionDeclaration.findAll src).mapM (functionSpan src fileName) <;> rfl

/-- **The components of a script are found iff no declared function is bodiless.** -/
theorem succeeds_componentSpans_iff : Succeeds (componentSpans src fileName) ↔
    ∀ m ∈ functionDeclaration.findAll src, ¬ Bodiless src fileName m := by
  obtain ⟨g, hg⟩ := componentSpans_eq src fileName
  rw [hg, succeeds_map_iff, succeeds_mapM_iff]
  exact forall₂_congr fun m h => succeeds_functionSpan_iff h

theorem componentSpans_error {f : BracketFault} (h : componentSpans src fileName = .error f) :
    ∃ c, isCloser c = true ∧ f = .noBracket c := by
  obtain ⟨g, hg⟩ := componentSpans_eq src fileName
  rw [hg, map_eq_error_iff] at h
  obtain ⟨m, hm, hf⟩ := error_of_mapM h
  exact functionSpan_error hm hf

end Declarations

/-! ## 4. Analyses -/

theorem orFault_ok {α : Type} (a : α) : orFault (.ok a) = .ok a := rfl

theorem orFault_error {α : Type} (f : BracketFault) :
    (orFault (.error f) : Except SourceFault α) = .error (.bracket f) := rfl

/-- The labels of a component's elements are read. -/
def LabelsRead (src : Source) (s : Span) : Prop :=
  Succeeds (Collector.collect .script (elementEvents (src.extract s.bodyStart s.stop)).1)

/-- Labels without references are read. -/
theorem labelsRead_of_literal {s : Span}
    (h : ∀ e ∈ (elementEvents (src.extract s.bodyStart s.stop)).1, e.Literal) : LabelsRead src s :=
  Collector.succeeds_collect .script h

theorem component_eq (src : Source) (source : String) (s : Span) : ∃ g,
    component src source s =
      ((Collector.collect .script (elementEvents (src.extract s.bodyStart s.stop)).1).map g).mapError
        .longNumber := by
  obtain ⟨states, hstates⟩ := succeeds_stateOf (Source.of (src.text s.start s.stop))
  obtain ⟨props, hprops⟩ := succeeds_propsOf s.params.toList src
  have hassemble := fun c => Handling.succeeds_assemble s.name c [src.text s.start s.stop, source]
    states.1 props (states.2 <|> (elementEvents (src.extract s.bodyStart s.stop)).2) []
  choose g hg using hassemble
  refine ⟨g, ?_⟩
  unfold component
  dsimp only
  cases Collector.collect .script (elementEvents (src.extract s.bodyStart s.stop)).1 with
  | error n => rfl
  | ok c =>
    rw [hstates, hprops]
    exact congrArg orFault (hg c)

theorem succeeds_component_iff {source : String} {s : Span} :
    Succeeds (component src source s) ↔ LabelsRead src s := by
  obtain ⟨g, hg⟩ := component_eq src source s
  rw [hg, succeeds_mapError_iff, succeeds_map_iff, LabelsRead]

section Analyses

variable {source fileName : String}

/-- What stands behind the parameters of every declared function is its body, and the labels of
    every component's elements are read. -/
structure Regular (src : Source) (fileName : String) : Prop where
  bodies : ∀ m ∈ functionDeclaration.findAll src, ¬ Bodiless src fileName m
  labels : ∀ spans, componentSpans src fileName = .ok spans → ∀ s ∈ spans, LabelsRead src s

theorem succeeds_analyze_iff :
    Succeeds (analyze source fileName) ↔ Regular (Source.of source) fileName := by
  have hspans : Succeeds (orFault (componentSpans (Source.of source) fileName)) ↔ _ :=
    succeeds_mapError_iff.trans succeeds_componentSpans_iff
  have hcomponents (spans : List Span) :
      Succeeds (spans.mapM (component (Source.of source) source)) ↔
        ∀ s ∈ spans, LabelsRead (Source.of source) s :=
    succeeds_mapM_iff.trans (forall₂_congr fun s _ => succeeds_component_iff)
  unfold analyze
  dsimp only
  constructor
  · intro h
    obtain ⟨spans, hok, h⟩ := succeeds_bind_iff.mp h
    refine ⟨hspans.mp ⟨spans, hok⟩, fun spans' hok' => ?_⟩
    rw [hok'] at hok
    cases hok
    obtain ⟨components, hok, -⟩ := succeeds_bind_iff.mp h
    exact (hcomponents spans).mp ⟨components, hok⟩
  · intro h
    obtain ⟨spans, hok⟩ := succeeds_componentSpans_iff.mpr h.bodies
    rw [hok]
    exact (((hcomponents spans).mpr (h.labels spans hok)).bind fun _ _ => succeeds_pure _)

theorem analyze_error {e : SourceFault} (h : analyze source fileName = .error e) :
    (∃ c, isCloser c = true ∧ e = .bracket (.noBracket c)) ∨ ∃ n, e = .longNumber n := by
  rcases bind_eq_error_iff.mp h with hspans | ⟨spans, -, h⟩
  · obtain ⟨f, hf, rfl⟩ := mapError_eq_error_iff.mp hspans
    obtain ⟨c, hcloser, rfl⟩ := componentSpans_error hf
    exact .inl ⟨c, hcloser, rfl⟩
  · rcases bind_eq_error_iff.mp h with hcomponents | ⟨components, -, h⟩
    · obtain ⟨s, -, hs⟩ := error_of_mapM hcomponents
      obtain ⟨g, hg⟩ := component_eq (Source.of source) source s
      rw [hg] at hs
      obtain ⟨n, -, rfl⟩ := mapError_eq_error_iff.mp hs
      exact .inr ⟨n, rfl⟩
    · cases h

end Analyses

end Affordance.Script

/-! ## 5. Script files -/

namespace Affordance.SourceFile

open Affordance.Text
open Affordance.Script

variable {source fileName : String}

/-- A text is left to the reader of its dialect. -/
theorem analyze_text {framework : Framework} (hext : frameworkOf fileName = .ok framework)
    (hnul : '\x00' ∉ source.toList) :
    analyze source fileName = (readerOf framework source fileName).mapError (failureOf fileName) := by
  have hcontains : source.toList.contains '\x00' = false := by simpa using hnul
  unfold analyze
  rw [hext, hcontains]
  rfl

theorem frameworkOf_script (hext : extensionOf fileName = ".tsx" ∨ extensionOf fileName = ".jsx") :
    frameworkOf fileName = .ok .react := by
  unfold frameworkOf
  rcases hext with h | h <;> rw [h] <;> rfl

/-- **A script is analysed iff it is regular**, and nothing else is reported than a closing bracket
    where a body was looked for, or a reference with too many digits. -/
theorem script_analysed_iff
    (hext : extensionOf fileName = ".tsx" ∨ extensionOf fileName = ".jsx")
    (hnul : '\x00' ∉ source.toList) :
    (Succeeds (analyze source fileName) ↔ Regular (Source.of source) fileName) ∧
      ∀ f, analyze source fileName = .error f →
        (∃ c, isCloser c = true ∧
          f = .problem (.parseFailed fileName ("KeyError: " ++ quoted (String.singleton c)))) ∨
        ∃ n : Number.LongNumber, f = .problem (.parseFailed fileName ("ValueError: " ++ n.message)) := by
  rw [analyze_text (frameworkOf_script hext) hnul]
  refine ⟨succeeds_mapError_iff.trans succeeds_analyze_iff, fun f h => ?_⟩
  obtain ⟨e, he, rfl⟩ := mapError_eq_error_iff.mp h
  rcases analyze_error he with ⟨c, hcloser, rfl⟩ | ⟨n, rfl⟩
  · exact .inl ⟨c, hcloser, rfl⟩
  · exact .inr ⟨n, rfl⟩

/-- A function of an ambient namespace has no body: the brace that closes the namespace stands
    where it is looked for. -/
theorem ambient_function_refused :
    ¬ Succeeds (analyze "declare namespace N \x7b\n  function Open(a: string): void;\n\x7d\n"
      "x.tsx") :=
  fun h => absurd ((script_analysed_iff (.inl (by decide +kernel)) (by decide)).1.mp h).bodies
    (by decide +kernel)

end Affordance.SourceFile
