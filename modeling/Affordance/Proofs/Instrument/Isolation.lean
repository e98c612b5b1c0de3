import Affordance.Instrument.Files
import Affordance.Proofs.SingleFile.Analysed
import Affordance.Proofs.Surface.Sources

/-!
# Batches that isolate their files

A file that cannot be read or analysed should spoil no other file of its batch.

  * `markupOf?`, `Markup.Refused`: the markup that a source is read as, and markup that is refused
    as a whole. `reader_rejected_iff`: no reader refuses a source for any other reason.
  * `BreaksIff`: a step breaks off with a failure that no batch reports iff a condition holds.
    `breaksIff_analyzeFile`: the analysis of a file does iff its path can name no file or its
    markup is refused (`Unreported`).
  * `Halts`: what is reported of no file, so that it ends the batch instead.
    `succeeds_fileResult_iff`: a file of a batch has a result iff it does not halt.
  * **`batch_isolated_iff`**: so a batch gives every file the result that it has on its own iff no
    file halts. `refused_markup_halts`: one page with a marked section of an unknown kind is enough
    to lose the results of all.
-/

namespace Affordance

open Affordance.Text

/-! ## 1. Refused markup -/

/-- The markup is refused as a whole: it has a marked section of an unknown kind, or of none. -/
def Markup.Refused (markup : String) : Prop :=
  (∃ k, tokens (Source.of markup) = .error (.unknownSection k)) ∨
    ∃ found, tokens (Source.of markup) = .error (.unnamedSection found)

/-- The markup that a source is read as: a page is markup, a single-file component has its
    template, and a script has none. -/
def markupOf? (source : String) : Framework → Option String
  | .html => some source
  | .vue => (SingleFile.blocks source).template
  | .react => none

theorem nodesOf_rejected_iff {markup : String} :
    (∃ r, Markup.nodesOf markup = .error (.rejected r)) ↔ Markup.Refused markup := by
  unfold Markup.nodesOf Markup.read Markup.Refused
  cases Markup.tokens (Source.of markup) with
  | ok ts => simp [Except.map, Except.mapError]
  | error r => cases r <;> simp [Except.map, Except.mapError]

theorem page_rejected_iff {source fileName : String} {r : Markup.Rejection} :
    Markup.analyze source fileName = .error (.rejected r) ↔
      Markup.nodesOf source = .error (.rejected r) := by
  unfold Markup.analyze
  constructor
  · intro h
    rcases bind_eq_error_iff.mp h with h | ⟨nodes, -, h⟩
    · exact h
    · rcases bind_eq_error_iff.mp h with h | ⟨c, -, h⟩
      · rcases bind_eq_error_iff.mp h with h | ⟨collected, -, h⟩
        · exact absurd h (mapError_ne_error nofun)
        · exact absurd h (mapError_ne_error nofun)
      · cases h
  · intro h
    rw [h, error_bind]

theorem component_rejected_iff {source fileName : String} {r : Markup.Rejection} :
    SingleFile.analyze source fileName = .error (.rejected r) ↔
      ∃ t, (SingleFile.blocks source).template = some t ∧
        Markup.nodesOf t = .error (.rejected r) := by
  obtain ⟨g, hg⟩ := SingleFile.analyze_eq source fileName
  rw [hg]
  cases htemplate : (SingleFile.blocks source).template with
  | none =>
    refine iff_of_false ?_ (by simp)
    split
    · exact nofun
    · intro h
      rcases bind_eq_error_iff.mp h with h | ⟨collected, -, h⟩
      · cases h
      · rcases bind_eq_error_iff.mp h with h | ⟨props, -, h⟩
        · exact absurd h (mapError_ne_error nofun)
        · cases h
  | some t =>
    rw [if_neg (by simp)]
    constructor
    · intro h
      rcases bind_eq_error_iff.mp h with h | ⟨collected, -, h⟩
      · rcases bind_eq_error_iff.mp h with h | ⟨nodes, -, h⟩
        · exact ⟨t, rfl, h⟩
        · exact absurd h (mapError_ne_error nofun)
      · rcases bind_eq_error_iff.mp h with h | ⟨props, -, h⟩
        · exact absurd h (mapError_ne_error nofun)
        · cases h
    · rintro ⟨_, ht, h⟩
      cases ht
      rw [SingleFile.collectTemplate, h, error_bind, error_bind]

/-- **No reader refuses a source but for its markup.** -/
theorem reader_rejected_iff {framework : Framework} {source fileName : String} :
    (∃ r, SourceFile.readerOf framework source fileName = .error (.rejected r)) ↔
      ∃ markup, markupOf? source framework = some markup ∧ Markup.Refused markup := by
  simp only [← nodesOf_rejected_iff]
  cases framework with
  | html => simp [SourceFile.readerOf, markupOf?, page_rejected_iff]
  | vue =>
    simp only [SourceFile.readerOf, markupOf?, component_rejected_iff]
    exact ⟨fun ⟨r, t, ht, h⟩ => ⟨t, ht, r, h⟩, fun ⟨t, ht, r, h⟩ => ⟨r, t, ht, h⟩⟩
  | react =>
    refine iff_of_false (fun ⟨r, h⟩ => ?_) (by simp [markupOf?])
    rcases Script.analyze_error h with ⟨c, -, hc⟩ | ⟨n, hn⟩
    · cases hc
    · cases hn

/-! ## 2. Files that are not analysed -/

/-- What stops the reading of a source is a problem that a batch reports. -/
def Failure.IsReported (f : Failure) : Prop :=
  ∃ p, f = .problem p ∧ (Stop.source f).reported = some p

/-- A step breaks off with a failure that no batch reports iff the condition holds. Otherwise it
    succeeds, or its problem is reported. -/
structure BreaksIff {α : Type} (x : Except Failure α) (condition : Prop) : Prop where
  breaks : condition → ∃ f, x = .error f ∧ (Stop.source f).reported = none
  otherwise : ¬ condition → Succeeds x ∨ ∃ f, x = .error f ∧ f.IsReported

/-- Two steps break off if the first does, or if it succeeds and the second does. -/
theorem BreaksIff.bind {α β : Type} {x : Except Failure α} {g : α → Except Failure β} {p : Prop}
    {q : α → Prop} (hx : BreaksIff x p) (hg : ∀ a, x = .ok a → BreaksIff (g a) (q a)) :
    BreaksIff (x >>= g) (p ∨ ∃ a, x = .ok a ∧ q a) where
  breaks := by
    rintro (hp | ⟨a, rfl, hq⟩)
    · obtain ⟨f, rfl, hnone⟩ := hx.breaks hp
      exact ⟨f, rfl, hnone⟩
    · exact (hg a rfl).breaks hq
  otherwise := by
    intro hnot
    rcases hx.otherwise fun hp => hnot (.inl hp) with ⟨a, rfl⟩ | ⟨f, rfl, hreported⟩
    · exact (hg a rfl).otherwise fun hq => hnot (.inr ⟨a, rfl, hq⟩)
    · exact .inr ⟨f, rfl, hreported⟩

/-- The path can name no file: it has no octets, or a null character. -/
def Unnameable (path : String) : Prop := pathFault? path ≠ none ∨ Disk.isNoPath path = true

theorem breaksIff_sourceText (d : Disk) (path : String) :
    BreaksIff (sourceText d path) (Unnameable path) where
  breaks := by
    unfold sourceText Disk.read
    intro h
    cases hoctets : pathFault? path with
    | some f => exact ⟨_, rfl, rfl⟩
    | none =>
      dsimp only
      rw [if_pos (h.resolve_left (not_not_intro hoctets))]
      exact ⟨_, rfl, rfl⟩
  otherwise := by
    unfold sourceText Disk.read
    intro h
    obtain ⟨hoctets, hpath⟩ := not_or.mp h
    rw [not_not.mp hoctets]
    dsimp only
    rw [if_neg hpath]
    cases d.octets? path with
    | none => exact .inr ⟨_, rfl, _, rfl, rfl⟩
    | some octets =>
      dsimp only
      cases (decodeUtf8 octets).map universalLines with
      | error f => exact .inr ⟨_, rfl, _, rfl, rfl⟩
      | ok s => exact .inl ⟨_, rfl⟩

/-- The source is a text whose markup is refused. -/
def RefusedAs (framework : Framework) (source : String) : Prop :=
  '\x00' ∉ source.toList ∧
    ∃ markup, markupOf? source framework = some markup ∧ Markup.Refused markup

/-- What a reader finds wrong is reported by a batch, unless it is the markup that is refused. -/
theorem failureOf_reported {path : String} {e : SourceFault} (h : ∀ r, e ≠ .rejected r) :
    (SourceFile.failureOf path e).IsReported := by
  cases e with
  | rejected r => exact absurd rfl (h r)
  | bracket f => exact ⟨_, rfl, rfl⟩
  | noBlocks => exact ⟨_, rfl, rfl⟩
  | longNumber n => exact ⟨_, rfl, rfl⟩

theorem breaksIff_analyze {path : String} {framework : Framework}
    (hsupported : SourceFile.frameworkOf path = .ok framework) (source : String) :
    BreaksIff (SourceFile.analyze source path) (RefusedAs framework source) where
  breaks := by
    rintro ⟨hnul, hrefused⟩
    obtain ⟨r, hr⟩ := reader_rejected_iff.mpr hrefused
    rw [SourceFile.analyze_text hsupported hnul, hr]
    exact ⟨_, rfl, rfl⟩
  otherwise := by
    intro h
    by_cases hnul : '\x00' ∈ source.toList
    · refine .inr ⟨.problem (.parseFailed path "file looks binary (NUL bytes)"), ?_, _, rfl, rfl⟩
      unfold SourceFile.analyze
      rw [hsupported, List.contains_iff_mem.mpr hnul]
      rfl
    · rw [SourceFile.analyze_text hsupported hnul]
      cases hread : SourceFile.readerOf framework source path with
      | ok a => exact .inl ⟨a, rfl⟩
      | error e =>
        refine .inr ⟨_, rfl, failureOf_reported fun r hr => h ⟨hnul, ?_⟩⟩
        exact reader_rejected_iff.mp ⟨r, hr ▸ hread⟩

/-- The path names no file, or a file whose markup is refused. -/
def Unreported (d : Disk) (path : String) : Prop :=
  Unnameable path ∨ ∃ source, sourceText d path = .ok source ∧
    ∃ framework, SourceFile.frameworkOf path = .ok framework ∧ RefusedAs framework source

/-- **What is wrong with a file of a supported type is reported**, unless its path names no file or
    its markup is refused. -/
theorem breaksIff_analyzeFile (d : Disk) {path : String}
    (hsupported : Succeeds (SourceFile.frameworkOf path)) :
    BreaksIff (analyzeFile d path) (Unreported d path) := by
  obtain ⟨framework, hframework⟩ := hsupported
  have hrefused : ∀ source, RefusedAs framework source ↔
      ∃ framework, SourceFile.frameworkOf path = .ok framework ∧ RefusedAs framework source := by
    intro source
    rw [hframework]
    simp
  have hsteps : analyzeFile d path = sourceText d path >>= fun s => SourceFile.analyze s path := by
    unfold analyzeFile
    rw [hframework]
    rfl
  rw [hsteps, Unreported]
  simp only [← hrefused]
  exact (breaksIff_sourceText d path).bind fun source _ => breaksIff_analyze hframework source

/-- An analysis bears the name of its file. -/
theorem fileName_of_analyzeFile {d : Disk} {path : String} {a : Analysis}
    (h : analyzeFile d path = .ok a) : a.fileName = path := by
  obtain ⟨-, -, h⟩ := bind_eq_ok_iff.mp h
  obtain ⟨source, -, h⟩ := bind_eq_ok_iff.mp h
  obtain ⟨framework, -, h⟩ := bind_eq_ok_iff.mp h
  dsimp only at h
  split at h
  · cases h
  · exact fileName_of_reader (mapError_eq_ok_iff.mp h)

/-! ## 3. Files of a batch -/

/-- What becomes of a file of a batch: its tools or its problem, or what is reported of no file. -/
def fileResult (d : Disk) (config : Config) (path : String) : Except Stop Instrumentation :=
  match analyzeFile d path with
  | .error f =>
    match (Stop.source f).reported with
    | some p => .ok ⟨path, .failed p, none⟩
    | none => .error (.source f)
  | .ok a =>
    match (propose (some config) false a.components).findSome? (·.candidate.idFault?) with
    | some f => .error (.identity f)
    | none => .ok (a.instrumented (some config) {})

theorem eq_problem_of_reported {f : Failure} {p : Problem}
    (h : (Stop.source f).reported = some p) : f = .problem p := by
  unfold Stop.reported at h
  split at h
  · next hf =>
    cases hf
    cases h
    rfl
  · next hf =>
    cases hf
    cases h
    rfl
  · cases h

/-- A result is the problem that stopped the analysis, or the tools of what was analysed. -/
theorem fileResult_cases {d : Disk} {config : Config} {path : String} {r : Instrumentation}
    (h : fileResult d config path = .ok r) :
    (∃ p, analyzeFile d path = .error (.problem p) ∧ r = ⟨path, .failed p, none⟩) ∨
      ∃ a, analyzeFile d path = .ok a ∧ r = a.instrumented (some config) {} := by
  unfold fileResult at h
  cases ha : analyzeFile d path with
  | error f =>
    rw [ha] at h
    dsimp only at h
    split at h
    · next hreported =>
      cases h
      exact .inl ⟨_, by rw [eq_problem_of_reported hreported], rfl⟩
    · cases h
  | ok a =>
    rw [ha] at h
    dsimp only at h
    split at h
    · cases h
    · cases h
      exact .inr ⟨a, rfl, rfl⟩

/-- What is reported of no file: its path names none, its markup is refused, or a tool that it
    offers has no identity, since its texts hold a half (told as `half?` does). -/
def Halts (d : Disk) (config : Config) (path : String) : Prop :=
  Unreported d path ∨ ∃ a, analyzeFile d path = .ok a ∧
    ∃ p ∈ propose (some config) false a.components, p.candidate.idFault? ≠ none

/-- **A file has a result iff it does not halt.** -/
theorem succeeds_fileResult_iff (d : Disk) (config : Config) {path : String}
    (hsupported : Succeeds (SourceFile.frameworkOf path)) :
    Succeeds (fileResult d config path) ↔ ¬ Halts d config path := by
  have hbreaks := breaksIff_analyzeFile d hsupported
  unfold fileResult Halts
  by_cases hunreported : Unreported d path
  · obtain ⟨f, hf, hnone⟩ := hbreaks.breaks hunreported
    rw [hf]
    dsimp only
    rw [hnone]
    exact iff_of_false (not_succeeds_error _) (not_not_intro (.inl hunreported))
  · rw [or_iff_right hunreported]
    rcases hbreaks.otherwise hunreported with ⟨a, ha⟩ | ⟨f, hf, p, -, hreported⟩
    · rw [ha]
      simp only [Except.ok.injEq, exists_eq_left']
      cases hfault : (propose (some config) false a.components).findSome?
          (·.candidate.idFault?) with
      | some f =>
        obtain ⟨p, hp, hpf⟩ := List.exists_of_findSome?_eq_some hfault
        exact iff_of_false (not_succeeds_error _) (not_not_intro ⟨p, hp, by simp [hpf]⟩)
      | none =>
        refine iff_of_true (succeeds_ok _) ?_
        rintro ⟨p, hp, hpf⟩
        exact hpf (List.findSome?_eq_none_iff.mp hfault p hp)
    · rw [hf]
      dsimp only
      rw [hreported]
      exact iff_of_true (succeeds_ok _) (by simp)

/-! ## 4. Batches -/

/-- Steps taken in turn give what the steps give, up to the first that fails. -/
theorem Told.inTurn_value {α β ε : Type} (step : α → Told (Except ε β)) : ∀ xs : List α,
    (inTurn step xs).value = xs.mapM fun x => (step x).value
  | [] => rfl
  | x :: xs => by
    rw [List.mapM_cons, ← inTurn_value step xs, inTurn]
    cases (step x).value with
    | error e => rfl
    | ok y =>
      rw [ok_bind]
      dsimp only [Told.after, Told.map]
      cases (inTurn step xs).value with
      | error e => rfl
      | ok ys => rfl

theorem unsupported?_eq_none {paths : List String}
    (h : ∀ p ∈ paths, Succeeds (SourceFile.frameworkOf p)) : unsupported? paths = none := by
  refine List.findSome?_eq_none_iff.mpr fun p hp => ?_
  obtain ⟨framework, hframework⟩ := h p hp
  rw [hframework]

section Batches

variable {w : Workbench} {config : Config} (hconfig : w.config = some config) (hurl : w.url = none)

include hconfig hurl

/-- With settings for all files and no page, a file's result depends on the file alone. -/
theorem instrumentMember_value {path : String}
    (hsupported : Succeeds (SourceFile.frameworkOf path)) :
    (instrumentMember w path).value = fileResult w.disk config path := by
  obtain ⟨framework, hframework⟩ := hsupported
  unfold instrumentMember instrumentAt openSource fileResult analyzeFile settingsFor
  rw [hframework, hconfig, hurl]
  cases hsource : sourceText w.disk path with
  | error f =>
    dsimp only [Except.mapError, Bind.bind, Except.bind, Told.silent]
    cases (Stop.source f).reported with
    | none => rfl
    | some p => rfl
  | ok source =>
    dsimp only [Except.mapError, Bind.bind, Except.bind, Pure.pure, Except.pure, instrument]
    cases SourceFile.analyze source path with
    | error f =>
      dsimp only [Told.silent]
      cases (Stop.source f).reported with
      | none => rfl
      | some p => rfl
    | ok a =>
      have hview : (PageView.of w.prober none).value = .ok {} := rfl
      have htools : a.proposals (some config) {} = propose (some config) false a.components := rfl
      dsimp only
      rw [hview]
      dsimp only
      rw [htools]
      cases (propose (some config) false a.components).findSome? (·.candidate.idFault?) with
      | none => rfl
      | some f => rfl

/-- A batch of files of supported types has the results of its files. -/
theorem instrumentBatch_value {paths : List String}
    (hsupported : ∀ p ∈ paths, Succeeds (SourceFile.frameworkOf p)) :
    (instrumentBatch w paths).value = paths.mapM (fileResult w.disk config) := by
  rw [instrumentBatch, unsupported?_eq_none hsupported]
  dsimp only
  rw [instrumentAll, Told.inTurn_value]
  exact mapM_congr fun p hp => instrumentMember_value hconfig hurl (hsupported p hp)

/-- The result that a file has on its own: its tools, or the problem that is reported of it. -/
structure ResultOf (w : Workbench) (config : Config) (path : String) (r : Instrumentation) :
    Prop where
  alone : (instrumentBatch w [path]).value = .ok [r]
  fileName : r.fileName = path
  problem : ∀ f, analyzeFile w.disk path = .error f → ∃ p, f = .problem p ∧ r.outcome = .failed p
  tools : ∀ a, analyzeFile w.disk path = .ok a → r = a.instrumented (some config) {}

theorem resultOf_fileResult {path : String} {r : Instrumentation}
    (hsupported : Succeeds (SourceFile.frameworkOf path))
    (h : fileResult w.disk config path = .ok r) : ResultOf w config path r := by
  have halone : (instrumentBatch w [path]).value = .ok [r] := by
    rw [instrumentBatch_value hconfig hurl (List.forall_mem_singleton.mpr hsupported),
      mapM_eq_ok_iff]
    exact .cons h .nil
  rcases fileResult_cases h with ⟨p, hp, rfl⟩ | ⟨a, ha, rfl⟩
  · refine ⟨halone, rfl, fun f hf => ⟨p, ?_, rfl⟩, fun a ha => ?_⟩
    · rw [hp] at hf
      exact (Except.error.inj hf).symm
    · rw [hp] at ha
      cases ha
  · refine ⟨halone, fileName_of_analyzeFile ha, fun f hf => ?_, fun b hb => ?_⟩
    · rw [ha] at hf
      cases hf
    · rw [ha] at hb
      cases hb
      rfl

/-- **A batch gives every file the result that it has on its own iff no file of it halts.** -/
theorem batch_isolated_iff {paths : List String}
    (hsupported : ∀ p ∈ paths, Succeeds (SourceFile.frameworkOf p)) :
    (∃ rs, (instrumentBatch w paths).value = .ok rs ∧
        List.Forall₂ (ResultOf w config) paths rs) ↔
      ∀ p ∈ paths, ¬ Halts w.disk config p := by
  rw [instrumentBatch_value hconfig hurl hsupported]
  constructor
  · rintro ⟨rs, hrs, -⟩ p hp
    refine (succeeds_fileResult_iff w.disk config (hsupported p hp)).mp ?_
    exact succeeds_mapM_iff.mp ⟨rs, hrs⟩ p hp
  · intro hnot
    obtain ⟨rs, hrs⟩ : Succeeds (paths.mapM (fileResult w.disk config)) :=
      succeeds_mapM_iff.mpr fun p hp =>
        (succeeds_fileResult_iff w.disk config (hsupported p hp)).mpr (hnot p hp)
    refine ⟨rs, hrs, ?_⟩
    have hresults := mapM_eq_ok_iff.mp hrs
    rw [List.forall₂_iff_zip] at hresults ⊢
    refine ⟨hresults.1, fun {p r} hpr => ?_⟩
    exact resultOf_fileResult hconfig hurl (hsupported p (List.of_mem_zip hpr).1) (hresults.2 hpr)

end Batches

/-- A page with a button, and a page with a marked section that has no known kind. -/
def unevenBench : Workbench where
  disk := { files := [("/a.html", "<button>Save</button>".toUTF8.toList),
    ("/b.html", "<![x]>".toUTF8.toList)] }
  config := some {}
  prober := fun _ => ⟨[], "", .ok []⟩

theorem refused_markup_halts :
    let both := ["a.html", "b.html"]
    (∀ p ∈ both, Succeeds (SourceFile.frameworkOf p)) ∧
    (∃ rs, (instrumentBatch unevenBench ["a.html"]).value = .ok rs ∧
      List.Forall₂ (ResultOf unevenBench {}) ["a.html"] rs) ∧
    Halts unevenBench.disk {} "b.html" ∧
    ¬ ∃ rs, (instrumentBatch unevenBench both).value = .ok rs ∧
      List.Forall₂ (ResultOf unevenBench {}) both rs := by
  have ha : Succeeds (SourceFile.frameworkOf "a.html") := ⟨.html, by decide +kernel⟩
  have hb : Succeeds (SourceFile.frameworkOf "b.html") := ⟨.html, by decide +kernel⟩
  have hgood : ¬ Halts unevenBench.disk {} "a.html" := by
    refine (succeeds_fileResult_iff unevenBench.disk {} ha).mp ?_
    have hok : (fileResult unevenBench.disk {} "a.html").isOk = true := by decide +kernel
    cases h : fileResult unevenBench.disk {} "a.html" with
    | ok r => exact succeeds_ok r
    | error e => rw [h] at hok; cases hok
  have hbad : Halts unevenBench.disk {} "b.html" := by
    have hrefused : Markup.Refused "<![x]>" := .inl ⟨"x", by decide +kernel⟩
    exact .inl (.inr ⟨"<![x]>", by decide +kernel, .html, by decide +kernel, by decide +kernel,
      "<![x]>", rfl, hrefused⟩)
  have hsupported : ∀ p ∈ ["a.html", "b.html"], Succeeds (SourceFile.frameworkOf p) :=
    List.forall_mem_cons.mpr ⟨ha, List.forall_mem_singleton.mpr hb⟩
  refine ⟨hsupported, ?_, hbad, fun h => ?_⟩
  · exact (batch_isolated_iff rfl rfl (List.forall_mem_singleton.mpr ha)).mpr
      (List.forall_mem_singleton.mpr hgood)
  · exact (batch_isolated_iff rfl rfl hsupported).mp h "b.html" (by simp) hbad

end Affordance
