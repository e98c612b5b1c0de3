import Affordance.Proofs.Script.Analysed

/-!
# Single-file components that are analysed

A single-file component should be analysed whatever its script holds.

  * `succeeds_stateOf`, `succeeds_nameOf`: state and name are read without a fault.
  * `Unapplied`: the script names the macro that defines props, but no bracket follows that could
    hold its arguments, and the script does not end with an opening one.
  * `succeeds_propsOf_iff`: the only script whose props are not read.
  * `Regular`: a component that has a block, whose template is read and whose script does not
    leave the macro without arguments.
  * **`component_analysed_iff`**: a single-file component is analysed iff it is regular; what is
    reported otherwise tells which of the three it is.
-/

namespace Affordance.SingleFile

open Affordance.Text
open Affordance.Text.Pattern
open Affordance.Script

variable {src : Source} {m : Match}

/-! ## 1. State -/

theorem succeeds_objectAt {i : Nat} (h : Succeeds (partner src i)) : Succeeds (objectAt src i) :=
  h.bind fun _ _ => succeeds_pure _

/-- A match in the beginning of a text ends at the same character of the text. -/
theorem partner_of_searchIn {p : Pattern} {o : Char} (ho : isOpener o = true) {from_ to_ : Nat}
    (h : (p ++ ahead (char o)).searchIn src from_ to_ = some m) :
    Succeeds (partner src m.stop) := by
  obtain ⟨c, hc, htest⟩ := matchAt_next (matchAt_of_search h)
  cases beq_iff_eq.mp htest
  rw [Array.getElem?_extract] at hc
  split at hc
  · exact succeeds_partner (by simpa using hc) ho
  · cases hc

theorem succeeds_dataObject (src : Source) : Succeeds (dataObject src) := by
  unfold dataObject
  cases hf : dataFunction.search src 0 with
  | some m =>
    refine (partner_of_last rfl (matchAt_of_search hf)).bind fun close _ => ?_
    cases hr : returnObject.searchIn src (m.stop - 1) close with
    | some r => exact succeeds_objectAt (partner_of_searchIn rfl hr)
    | none => exact succeeds_pure _
  | none =>
    cases ha : dataArrow.search src 0 with
    | some m => exact succeeds_objectAt (partner_of_next rfl (matchAt_of_search ha))
    | none => exact succeeds_ok _

/-- **State is read without a fault.** -/
theorem succeeds_stateOf (src : Source) : Succeeds (stateOf src) :=
  (succeeds_dataObject src).bind fun _ _ => succeeds_pure _

/-! ## 2. The name -/

theorem succeeds_nameFrom : ∀ {ms : List Match}, (∀ m ∈ ms, Succeeds (partner src m.stop)) →
    Succeeds (nameFrom src ms)
  | [], _ => succeeds_ok _
  | m :: rest, h => by
    obtain ⟨hm, hrest⟩ := List.forall_mem_cons.mp h
    unfold nameFrom
    refine (succeeds_objectAt hm).bind fun object _ => ?_
    split
    · exact succeeds_pure _
    · exact succeeds_nameFrom hrest

/-- **The name is read without a fault.** -/
theorem succeeds_nameOf (src : Source) : Succeeds (nameOf src) :=
  succeeds_nameFrom fun _ h => partner_of_next rfl (matchAt_of_mem_findAll h)

/-! ## 3. Props -/

theorem succeeds_genericProps (src : Source) (i : Nat) : Succeeds (genericProps src i) := by
  unfold genericProps
  dsimp only
  split
  · exact succeeds_ok _
  · exact succeeds_namedMembers _ _

theorem succeeds_defaultEntries (src : Source) : Succeeds (defaultEntries src) := by
  unfold defaultEntries
  cases hm : withDefaults.search src 0 with
  | none => exact succeeds_ok _
  | some m => exact (partner_of_last rfl (matchAt_of_search hm)).bind fun _ _ => succeeds_pure _

/-- Arguments are read iff a bracket follows that opens them, or the last character, which is
    taken for one otherwise, is an opening one. -/
theorem succeeds_argumentProps_iff {i : Nat} : Succeeds (argumentProps src i) ↔
    src.findChar '(' i ≠ none ∨ ∃ c, src.back? = some c ∧ isOpener c = true := by
  unfold argumentProps
  cases hopen : src.findChar '(' i with
  | some open_ =>
    refine iff_of_true ?_ (.inl (by simp))
    exact (succeeds_partner (Source.findChar_some hopen).2.2 rfl).bind fun _ _ => succeeds_pure _
  | none =>
    dsimp only
    rw [succeeds_bind_iff, ← @succeeds_partnerFrom_iff src 0]
    constructor
    · rintro ⟨close, h, -⟩
      exact .inr ⟨close, h⟩
    · rintro (h | ⟨close, h⟩)
      · exact absurd rfl h
      · exact ⟨close, h, succeeds_pure _⟩

/-- The script names the macro that defines props, but no bracket follows that could hold its
    arguments, and the last character of the script is no opening one either. -/
def Unapplied (src : Source) : Prop :=
  ∃ m, defineProps.search src 0 = some m ∧ m.has "generic" = false ∧
    src.findChar '(' (m.stop - 1) = none ∧ ∀ c, src.back? = some c → isOpener c = false

instance (src : Source) : Decidable (Unapplied src) :=
  decidable_of_iff
    ((defineProps.search src 0).any (fun m => !m.has "generic" &&
      (src.findChar '(' (m.stop - 1)).isNone && src.back?.all (!isOpener ·)) = true) (by
    unfold Unapplied
    cases defineProps.search src 0 <;> cases src.back? <;> simp [and_assoc])

/-- Props are read from the arguments of the macro, if they are. -/
theorem propsOf_cases (src : Source) :
    (Succeeds (propsOf src) ∧ ¬ Unapplied src) ∨
      ∃ m g, defineProps.search src 0 = some m ∧ m.has "generic" = false ∧
        propsOf src = (argumentProps src (m.stop - 1)).map g := by
  obtain ⟨entries, hentries⟩ := succeeds_defaultEntries src
  unfold propsOf
  rw [hentries]
  cases hm : defineProps.search src 0 with
  | none =>
    refine .inl ⟨?_, fun ⟨m, h, _⟩ => nomatch hm.symm.trans h⟩
    cases ho : propsOption.search src 0 with
    | none => exact succeeds_ok _
    | some m =>
      obtain ⟨c, hc, htest⟩ := matchAt_next (matchAt_of_search ho)
      have hopener : isOpener c = true := by
        unfold isOpener
        grind
      exact (succeeds_objectAt (succeeds_partner hc hopener)).bind fun _ _ => succeeds_pure _
  | some m =>
    dsimp only
    by_cases hgeneric : m.has "generic" = true
    · rw [if_pos hgeneric]
      refine .inl ⟨(succeeds_genericProps _ _).bind fun _ _ => succeeds_pure _, ?_⟩
      rintro ⟨m', h, hnot, -⟩
      cases hm.symm.trans h
      cases hgeneric.symm.trans hnot
    · rw [if_neg hgeneric]
      refine .inr ⟨m, fun props => props.map (withDefault entries), rfl,
        Bool.eq_false_iff.mpr hgeneric, ?_⟩
      cases argumentProps src (m.stop - 1) <;> rfl

/-- **Props are read iff the macro that defines them is not left without arguments.** -/
theorem succeeds_propsOf_iff : Succeeds (propsOf src) ↔ ¬ Unapplied src := by
  rcases propsOf_cases src with ⟨hread, happlied⟩ | ⟨m, g, hm, hgeneric, heq⟩
  · exact iff_of_true hread happlied
  · rw [heq, succeeds_map_iff, succeeds_argumentProps_iff]
    constructor
    · rintro h ⟨m', hm', -, hopen, hlast⟩
      cases hm.symm.trans hm'
      rcases h with h | ⟨c, hc, hopener⟩
      · exact h hopen
      · cases hopener.symm.trans (hlast c hc)
    · intro h
      by_cases hopen : src.findChar '(' (m.stop - 1) = none
      · refine .inr (Classical.by_contradiction fun hnone => h ⟨m, hm, hgeneric, hopen, ?_⟩)
        exact fun c hc => Bool.eq_false_iff.mpr fun hopener => hnone ⟨c, hc, hopener⟩
      · exact .inl hopen

/-- What is reported is the last character of the script. -/
theorem propsOf_error {f : BracketFault} (h : propsOf src = .error f) :
    ∃ c, src.back? = some c ∧ f = .noBracket c := by
  rcases propsOf_cases src with ⟨hread, -⟩ | ⟨m, g, hm, -, heq⟩
  · exact absurd h (hread.ne_error f)
  · rw [heq, map_eq_error_iff] at h
    unfold argumentProps at h
    cases hopen : src.findChar '(' (m.stop - 1) with
    | some open_ =>
      rw [hopen] at h
      have hread : Succeeds (partner src open_) :=
        succeeds_partner (Source.findChar_some hopen).2.2 rfl
      exact absurd h ((hread.bind fun _ _ => succeeds_pure _).ne_error f)
    | none =>
      rw [hopen] at h
      rcases bind_eq_error_iff.mp h with h | ⟨close, -, h⟩
      · cases hlast : src.back? with
        | some c =>
          rw [hlast] at h
          exact ⟨c, rfl, partnerFrom_some_eq_error h⟩
        | none =>
          -- In an empty text the macro is not named.
          have hempty : src = #[] := Array.back?_eq_none_iff.mp hlast
          subst hempty
          cases hm
      · cases h

/-! ## 4. Analyses -/

/-- The markup of a template is accepted and the labels of its elements are read. -/
def TemplateRead (t : String) : Prop :=
  ∃ nodes, Markup.nodesOf t = .ok nodes ∧
    Succeeds (Markup.collect .template dropInterpolations nodes)

/-- Accepted markup is read where its texts hold no references. -/
theorem templateRead_of_literal {t : String} {nodes : List Markup.Node}
    (hnodes : Markup.nodesOf t = .ok nodes)
    (h : ∀ e ∈ Markup.Node.eventsAll dropInterpolations nodes, e.Literal) : TemplateRead t :=
  ⟨nodes, hnodes, succeeds_mapError_iff.mpr (Collector.succeeds_collect .template h)⟩

theorem succeeds_collectTemplate_iff {template : Option String} :
    Succeeds (collectTemplate template) ↔ ∀ t, template = some t → TemplateRead t := by
  cases template with
  | none => exact iff_of_true (succeeds_pure _) (by simp)
  | some t =>
    simp only [Option.some.injEq, forall_eq']
    exact succeeds_bind_iff

/-- The script of a single-file component: its script blocks, a line break between each two. -/
def scriptOf (source : String) : Source := Source.of (join "\n" (blocks source).scripts)

/-- A block is there, the template is read, and the script does not leave the macro that defines
    props without arguments. -/
structure Regular (source : String) : Prop where
  block : (blocks source).template ≠ none ∨ (blocks source).scripts ≠ []
  template : ∀ t, (blocks source).template = some t → TemplateRead t
  props : ¬ Unapplied (scriptOf source)

section Analyses

variable {source fileName : String}

theorem analyze_eq (source fileName : String) :
    ∃ g : Collected → List ComponentProp → Analysis, analyze source fileName =
    if (blocks source).template = none ∧ (blocks source).scripts = [] then .error .noBlocks
    else do
      let collected ← collectTemplate (blocks source).template
      let props ← orFault (propsOf (scriptOf source))
      return g collected props := by
  obtain ⟨name, hname⟩ := succeeds_nameOf (scriptOf source)
  obtain ⟨states, hstates⟩ := succeeds_stateOf (scriptOf source)
  have hassemble := fun collected props =>
    Handling.succeeds_assemble (name.getD (pascal (Path.stem fileName))) collected
      [join "\n" (blocks source).scripts] states props
      ((validationImport.search (scriptOf source) 0).map fun _ => "vee-validate") []
  choose component hcomponent using hassemble
  refine ⟨fun collected props => ⟨fileName, .vue, nonEmptyComponents [component collected props]⟩, ?_⟩
  unfold analyze
  dsimp only
  by_cases hnone : (blocks source).template = none ∧ (blocks source).scripts = []
  · rw [if_pos hnone, if_pos (by simp [hnone])]
    rfl
  · rw [if_neg hnone, if_neg (by simpa using hnone),
      show Source.of (join "\n" (blocks source).scripts) = scriptOf source from rfl, hname, hstates]
    cases collectTemplate (blocks source).template with
    | error e => rw [error_bind, error_bind]
    | ok collected =>
      rw [ok_bind, ok_bind, orFault_ok, ok_bind, orFault_ok, ok_bind]
      cases propsOf (scriptOf source) with
      | error f => rw [orFault_error, error_bind, error_bind]
      | ok props => rw [orFault_ok, ok_bind, ok_bind, hcomponent, orFault_ok, ok_bind]

theorem succeeds_analyze_iff : Succeeds (analyze source fileName) ↔ Regular source := by
  obtain ⟨g, hg⟩ := analyze_eq source fileName
  rw [hg]
  split
  · rename_i hnone
    refine iff_of_false (not_succeeds_error _) fun h => ?_
    rcases h.block with htemplate | hscripts
    · exact htemplate hnone.1
    · exact hscripts hnone.2
  · rename_i hblock
    constructor
    · intro h
      obtain ⟨collected, htemplate, h⟩ := succeeds_bind_iff.mp h
      obtain ⟨props, hprops, -⟩ := succeeds_bind_iff.mp h
      exact ⟨Decidable.not_and_iff_or_not.mp hblock,
        succeeds_collectTemplate_iff.mp ⟨collected, htemplate⟩,
        succeeds_propsOf_iff.mp (succeeds_mapError_iff.mp ⟨props, hprops⟩)⟩
    · intro h
      exact (succeeds_collectTemplate_iff.mpr h.template).bind fun _ _ =>
        (succeeds_mapError_iff.mpr (succeeds_propsOf_iff.mpr h.props)).bind fun _ _ =>
          succeeds_pure _

/-- What is wrong with a template: its markup is refused, or a reference has too many digits. -/
theorem collectTemplate_error {template : Option String} {e : SourceFault}
    (h : collectTemplate template = .error e) :
    (∃ r, e = .rejected r) ∨ ∃ n, e = .longNumber n := by
  cases template with
  | none => cases h
  | some t =>
    rcases bind_eq_error_iff.mp h with h | ⟨nodes, -, h⟩
    · obtain ⟨r, -, rfl⟩ := mapError_eq_error_iff.mp h
      split
      · exact .inr ⟨_, rfl⟩
      · exact .inl ⟨_, rfl⟩
    · obtain ⟨n, -, rfl⟩ := mapError_eq_error_iff.mp h
      exact .inr ⟨n, rfl⟩

theorem analyze_error {e : SourceFault} (h : analyze source fileName = .error e) :
    ((blocks source).template = none ∧ (blocks source).scripts = [] ∧ e = .noBlocks) ∨
    ((¬ ∀ t, (blocks source).template = some t → TemplateRead t) ∧
      ((∃ r, e = .rejected r) ∨ ∃ n, e = .longNumber n)) ∨
    (Unapplied (scriptOf source) ∧
      ∃ c, (scriptOf source).back? = some c ∧ e = .bracket (.noBracket c)) := by
  obtain ⟨g, hg⟩ := analyze_eq source fileName
  rw [hg] at h
  split at h
  · rename_i hnone
    cases h
    exact .inl ⟨hnone.1, hnone.2, rfl⟩
  · rcases bind_eq_error_iff.mp h with htemplate | ⟨collected, -, h⟩
    · refine .inr (.inl ⟨fun hread => ?_, collectTemplate_error htemplate⟩)
      exact (succeeds_collectTemplate_iff.mpr hread).ne_error e htemplate
    · rcases bind_eq_error_iff.mp h with hprops | ⟨props, -, h⟩
      · obtain ⟨f, hf, rfl⟩ := mapError_eq_error_iff.mp hprops
        obtain ⟨c, hc, rfl⟩ := propsOf_error hf
        refine .inr (.inr ⟨Classical.by_contradiction fun happlied => ?_, c, hc, rfl⟩)
        exact (succeeds_propsOf_iff.mpr happlied).ne_error _ hf
      · cases h

end Analyses

end Affordance.SingleFile

/-! ## 5. Files -/

namespace Affordance.SourceFile

open Affordance.Text
open Affordance.SingleFile

variable {source fileName : String}

/-- **A single-file component is analysed iff it is regular.** Otherwise it has no block, and that
    is reported; or its template is not read; or its script names the macro that defines props
    without arguments, and the last character of the script is reported as a bracket. -/
theorem component_analysed_iff (hext : extensionOf fileName = ".vue")
    (hnul : '\x00' ∉ source.toList) :
    (Succeeds (analyze source fileName) ↔ Regular source) ∧
      ∀ f, analyze source fileName = .error f →
        ((blocks source).template = none ∧ (blocks source).scripts = [] ∧
          f = .problem (.parseFailed fileName "no <template> or <script> block found")) ∨
        ((¬ ∀ t, (blocks source).template = some t → TemplateRead t) ∧
          ((∃ r, f = .rejected r) ∨
            ∃ n : Number.LongNumber,
              f = .problem (.parseFailed fileName ("ValueError: " ++ n.message)))) ∨
        (Unapplied (scriptOf source) ∧ ∃ c, (scriptOf source).back? = some c ∧
          f = .problem (.parseFailed fileName ("KeyError: " ++ quoted (String.singleton c)))) := by
  have hframework : frameworkOf fileName = .ok .vue := by
    unfold frameworkOf
    rw [hext]
    rfl
  rw [analyze_text hframework hnul]
  refine ⟨succeeds_mapError_iff.trans succeeds_analyze_iff, fun f h => ?_⟩
  obtain ⟨e, he, rfl⟩ := mapError_eq_error_iff.mp h
  rcases analyze_error he with ⟨htemplate, hscripts, rfl⟩ | ⟨hread, ⟨r, rfl⟩ | ⟨n, rfl⟩⟩ |
      ⟨happlied, c, hc, rfl⟩
  · exact .inl ⟨htemplate, hscripts, rfl⟩
  · exact .inr (.inl ⟨hread, .inl ⟨r, rfl⟩⟩)
  · exact .inr (.inl ⟨hread, .inr ⟨n, rfl⟩⟩)
  · exact .inr (.inr ⟨happlied, c, hc, rfl⟩)

/-- A script that is not written to its end: the macro is named and nothing follows. -/
theorem unfinished_macro_refused :
    ¬ Succeeds (analyze "<script>defineProps</script>" "A.vue") := by
  have hscripts : (blocks "<script>defineProps</script>").scripts = ["defineProps"] := by
    decide +kernel
  have happlied : Unapplied (scriptOf "<script>defineProps</script>") := by
    rw [scriptOf, hscripts]
    decide +kernel
  exact fun h => ((component_analysed_iff (by decide +kernel) (by decide)).1.mp h).props happlied

end Affordance.SourceFile
