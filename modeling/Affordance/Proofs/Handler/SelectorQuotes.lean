import Affordance.Handler.Selectors
import Affordance.Proofs.Live.Ranking
import Affordance.Proofs.Text.Escaped
import Affordance.Proofs.Text.Pieces

/-!
# Attribute values in selectors

A selector that tests an attribute holds the value between double quotes.

  * `TestsAttribute`: the form of such a selector. The attribute and what stands between the quotes
    are told from the text (`TestsAttribute.unique`).
  * `escaped_quoteValue`, `unslash_quoteValue`: a quoted value is escaped and stands for the value.
  * `Element.Shows`: the two ways to write a value, quoted or, for the type of last resort, bare.
    `shows_of_writes`: every selector of the source that tests an attribute is written in one of
    them.
  * **`selectors_quoted_iff`**: hence the selectors quote their values unless nothing but the type
    is there and it has a quote or a backslash; and in any case a selector that two elements share
    stands for the same value in both.
-/

namespace Affordance

open Affordance.Text
open Affordance.Vocabulary (toolMarks testMarks)

/-! ## 1. Tests of attributes -/

/-- The selector tests an attribute; the text stands between its quotes. -/
structure TestsAttribute (s name : String) (body : List Char) : Prop where
  text : ∃ lead, s.toList = lead ++ '[' :: (name.toList ++ '=' :: '"' :: (body ++ ['"', ']'])) ∧
    '[' ∉ lead
  plain : '=' ∉ name.toList

namespace TestsAttribute

variable {s name name' : String} {body body' : List Char}

/-- The first bracket and the first equality sign behind it divide the text. -/
theorem unique (h : TestsAttribute s name body) (h' : TestsAttribute s name' body') :
    name = name' ∧ body = body' := by
  obtain ⟨lead, htext, hlead⟩ := h.text
  obtain ⟨lead', htext', hlead'⟩ := h'.text
  obtain ⟨-, htest⟩ := cut_unique hlead hlead' (htext.symm.trans htext')
  obtain ⟨hname, hvalue⟩ := cut_unique h.plain h'.plain htest
  exact ⟨String.toList_injective hname, List.append_cancel_right (List.tail_eq_of_cons_eq hvalue)⟩

theorem mem_bracket (h : TestsAttribute s name body) : '[' ∈ s.toList := by
  obtain ⟨lead, htext, -⟩ := h.text
  rw [htext]
  exact List.mem_append_right lead List.mem_cons_self

theorem of_attributeSelector (hname : '=' ∉ name.toList) {lead : String}
    (hlead : '[' ∉ lead.toList) (value : String) :
    TestsAttribute (lead ++ attributeSelector name value) name (quoteValue value).toList :=
  ⟨⟨lead.toList, by simp [attributeSelector], hlead⟩, hname⟩

end TestsAttribute

/-! ## 2. Quoted values -/

/-- A quoted character has a backslash if it needs one. -/
theorem quoteChar_cases (c : Char) :
    (if c = '\\' || c = '"' then ['\\', c] else [c]) = ['\\', c] ∨
      c ≠ '\\' ∧ c ≠ '"' ∧ (if c = '\\' || c = '"' then ['\\', c] else [c]) = [c] := by
  by_cases h : c = '\\' ∨ c = '"'
  · exact .inl (if_pos (by simpa using h))
  · obtain ⟨hslash, hquote⟩ := not_or.mp h
    exact .inr ⟨hslash, hquote, if_neg (by simpa using h)⟩

theorem escaped_quoteValue (v : String) : Escaped (quoteValue v).toList := by
  rw [quoteValue, String.toList_ofList]
  refine .flatMap (fun c => ?_) v.toList
  obtain hescape | ⟨hslash, hquote, hplain⟩ := quoteChar_cases c
  · rw [hescape]
    exact .escape c .nil
  · rw [hplain]
    exact .plain hslash hquote .nil

/-- A quoted value stands for the value. -/
theorem unslash_quoteValue (v : String) : unslash (quoteValue v).toList = v.toList := by
  rw [quoteValue, String.toList_ofList]
  induction v.toList with
  | nil => rfl
  | cons c s ih =>
    rw [List.flatMap_cons]
    obtain hescape | ⟨hslash, -, hplain⟩ := quoteChar_cases c
    · rw [hescape]
      exact congrArg (c :: ·) ih
    · rw [hplain]
      exact (unslash_plain hslash _).trans (congrArg (c :: ·) ih)

theorem quoteValue_injective {v w : String} (h : quoteValue v = quoteValue w) : v = w := by
  refine String.toList_injective ?_
  rw [← unslash_quoteValue v, h, unslash_quoteValue]

namespace Element

/-- The element has a value of an attribute that selectors test. -/
inductive Carries (e : Element) : String → String → Prop
  | id {v : String} : e.id = some v → Carries e "id" v
  | name {v : String} : e.name = some v → Carries e "name" v
  | type {v : String} : e.inputType = some v → Carries e "type" v
  | label {v : String} : e.ariaLabel = some v → Carries e "aria-label" v
  | mark {n v : String} : n ∈ testMarks ++ toolMarks → e.attribute? n = some v → Carries e n v

/-- The selector tests an attribute of the element: what stands between its quotes is escaped and
    stands for the value. -/
def Quotes (e : Element) (s : String) : Prop :=
  ∃ name value body, TestsAttribute s name body ∧ e.Carries name value ∧
    Escaped body ∧ unslash body = value.toList

/-- How a selector shows the value of an attribute. -/
inductive Shows (e : Element) (s name value : String) : Prop
  | quoted : name ≠ "type" → e.Carries name value →
      TestsAttribute s name (quoteValue value).toList → Shows e s name value
  | bare : name = "type" → e.inputType = some value →
      TestsAttribute s name value.toList → Shows e s name value

variable {e e' : Element} {s name value name' value' : String}

theorem Shows.tests (h : e.Shows s name value) : ∃ body, TestsAttribute s name body := by
  cases h with
  | quoted _ _ htest => exact ⟨_, htest⟩
  | bare _ _ htest => exact ⟨_, htest⟩

theorem Shows.mem_bracket (h : e.Shows s name value) : '[' ∈ s.toList := by
  obtain ⟨body, htest⟩ := h.tests
  exact htest.mem_bracket

theorem Shows.carries (h : e.Shows s name value) : e.Carries name value := by
  cases h with
  | quoted _ hcarries _ => exact hcarries
  | bare hname htype _ => exact hname ▸ .type htype

/-- The text tells which value of which attribute is shown. -/
theorem Shows.unique (h : e.Shows s name value) (h' : e'.Shows s name' value') :
    name = name' ∧ value = value' := by
  cases h with
  | quoted hname _ htest =>
    cases h' with
    | quoted _ _ htest' =>
      obtain ⟨hsame, hbody⟩ := htest.unique htest'
      exact ⟨hsame, quoteValue_injective (String.toList_injective hbody)⟩
    | bare hname' _ htest' => exact absurd ((htest.unique htest').1.trans hname') hname
  | bare hname _ htest =>
    cases h' with
    | quoted hname' _ htest' => exact absurd ((htest.unique htest').1.symm.trans hname) hname'
    | bare _ _ htest' =>
      obtain ⟨hsame, hbody⟩ := htest.unique htest'
      exact ⟨hsame, String.toList_injective hbody⟩

theorem Carries.type_iff : e.Carries "type" value ↔ e.inputType = some value := by
  refine ⟨fun h => ?_, .type⟩
  generalize hname : "type" = name at h
  cases h with
  | type h => exact h
  | id | name | label => exact absurd hname (by decide)
  | mark hmark _ =>
    rw [← hname] at hmark
    exact absurd hmark (by decide)

/-- A value that is shown is quoted, unless it is a bare one with a quote or a backslash. -/
theorem Shows.quotes_iff (h : e.Shows s name value) :
    e.Quotes s ↔ (name = "type" → ∀ c ∈ value.toList, c ≠ '\\' ∧ c ≠ '"') := by
  cases h with
  | quoted hname hcarries htest =>
    refine iff_of_true ⟨name, value, _, htest, hcarries, ?_⟩ fun h => absurd h hname
    exact ⟨escaped_quoteValue value, unslash_quoteValue value⟩
  | bare hname htype htest =>
    subst hname
    constructor
    · intro h _
      obtain ⟨name', value', body, htest', hcarries, hescaped, hvalue⟩ := h
      obtain ⟨rfl, rfl⟩ := htest.unique htest'
      have hsame := htype.symm.trans (Carries.type_iff.mp hcarries)
      rw [← Option.some.inj hsame] at hvalue
      exact hescaped.plain_of_unslash hvalue
    · intro h
      refine ⟨"type", value, value.toList, htest, .type htype, .of_plain (h rfl), ?_⟩
      exact unslash_of_plain fun c hc => (h rfl c hc).1

/-! ## 3. Selectors of the source -/

theorem mark_plain : ∀ n ∈ testMarks ++ toolMarks, '=' ∉ n.toList ∧ n ≠ "type" := by decide

theorem tag_plain (t : ElementTag) : '[' ∉ t.text.toList := by
  cases t <;> decide

theorem plainIdentifier_plain {i : String} (h : isPlainIdentifier i = true) : '[' ∉ i.toList := by
  have hchar : isIdentifierChar '[' = false := rfl
  unfold isPlainIdentifier at h
  cases hi : i.toList with
  | nil => exact List.not_mem_nil
  | cons c rest =>
    rw [hi] at h
    obtain ⟨hletter, hrest⟩ := Bool.and_eq_true_iff.mp h
    intro hmem
    rcases List.mem_cons.mp hmem with rfl | hmem
    · exact absurd hletter (by decide)
    split at hrest
    · next hlast =>
      -- only a line break is left out at the end
      rw [← List.dropLast_append_getLast? '\n' hlast] at hmem
      rcases List.mem_append.mp hmem with hmem | hmem
      · exact absurd (List.all_eq_true.mp hrest _ hmem) (by rw [hchar]; decide)
      · exact absurd (List.mem_singleton.mp hmem) (by decide)
    · exact absurd (List.all_eq_true.mp hrest _ hmem) (by rw [hchar]; decide)

theorem firstMark_eq_some {attributes : List (String × String)} {names : List String}
    (h : firstMark attributes names = some (name, value)) :
    name ∈ names ∧ attributes.lookup name = some value := by
  obtain ⟨n, hn, hvalue⟩ := List.exists_of_findSome?_eq_some h
  obtain ⟨v, hv, hpair⟩ := Option.map_eq_some_iff.mp hvalue
  obtain ⟨rfl, rfl⟩ := Prod.mk.inj hpair
  exact ⟨hn, (nonEmpty_eq_some.mp hv).1⟩

theorem shows_prefixed (h : e.Carries name value) (hplain : '=' ∉ name.toList ∧ name ≠ "type")
    (lead : String) (hlead : '[' ∉ lead.toList) :
    e.Shows (lead ++ attributeSelector name value) name value :=
  .quoted hplain.2 h (.of_attributeSelector hplain.1 hlead value)

theorem shows_alone (h : e.Carries name value) (hplain : '=' ∉ name.toList ∧ name ≠ "type") :
    e.Shows (attributeSelector name value) name value := by
  have hshows := shows_prefixed h hplain "" (by decide)
  rwa [String.empty_append] at hshows

/-- The selectors that are tried first quote their values. -/
theorem shows_of_sourceTries (h : s ∈ e.sourceTries) :
    ∃ name value, name ≠ "type" ∧ e.Shows s name value := by
  simp only [sourceTries, List.mem_append, List.mem_map, Option.mem_toList, Option.map_eq_some_iff,
    nonEmpty_eq_some] at h
  rcases h with (((⟨v, ⟨hv, -⟩, rfl⟩ | ⟨v, ⟨hv, -⟩, rfl⟩) | ⟨v, ⟨hv, -⟩, rfl⟩) |
    ⟨_, ⟨v, ⟨hv, -⟩, rfl⟩, rfl⟩) | ⟨v, ⟨hv, -⟩, rfl⟩
  · exact ⟨"id", v, by decide, shows_alone (.id hv) (by decide)⟩
  · exact ⟨"data-testid", v, by decide, shows_alone (.mark (by decide) hv) (by decide)⟩
  · exact ⟨"data-mcp", v, by decide, shows_alone (.mark (by decide) hv) (by decide)⟩
  · exact ⟨"name", v, by decide, shows_prefixed (.name hv) (by decide) _ (tag_plain e.tag)⟩
  · exact ⟨"aria-label", v, by decide, shows_alone (.label hv) (by decide)⟩

/-- The ranked selectors that test an attribute quote its value. -/
theorem shows_of_fromSource {round : Rounding} {t : Selector} (h : FromSource round e t)
    (hbracket : '[' ∈ t.value.toList) :
    ∃ name value, name ≠ "type" ∧ e.Shows t.value name value := by
  cases h with
  | @testHook n v hmark =>
    obtain ⟨hn, hv⟩ := firstMark_eq_some hmark
    have hmem : n ∈ testMarks ++ toolMarks := List.mem_append_left _ hn
    exact ⟨n, v, (mark_plain n hmem).2, shows_alone (.mark hmem hv) (mark_plain n hmem)⟩
  | @id i hid =>
    dsimp only at hbracket ⊢
    by_cases hplain : isPlainIdentifier i = true
    · rw [if_pos hplain, String.toList_append] at hbracket
      rcases List.mem_append.mp hbracket with h | h
      · exact absurd h (by decide)
      · exact absurd h (plainIdentifier_plain hplain)
    · rw [if_neg hplain]
      exact ⟨"id", i, by decide, shows_alone (.id (nonEmpty_eq_some.mp hid).1) (by decide)⟩
  | @name n hname =>
    exact ⟨"name", n, by decide,
      shows_prefixed (.name (nonEmpty_eq_some.mp hname).1) (by decide) _ (tag_plain e.tag)⟩
  | tag => exact absurd hbracket (tag_plain e.tag)

/-- The selector of last resort shows the type as it is. -/
theorem shows_lastTry {t : String} (h : nonEmpty e.inputType = some t) :
    e.Shows e.lastTry "type" t := by
  refine .bare rfl (nonEmpty_eq_some.mp h).1 ⟨⟨e.tag.text.toList, ?_, tag_plain e.tag⟩, by decide⟩
  rw [lastTry, h]
  simp

theorem type_of_lastTry (hbracket : '[' ∈ e.lastTry.toList) :
    ∃ t, nonEmpty e.inputType = some t := by
  cases h : nonEmpty e.inputType with
  | some t => exact ⟨t, rfl⟩
  | none =>
    rw [lastTry, h] at hbracket
    exact absurd hbracket (tag_plain e.tag)

theorem mem_selectorsTried (h : e.selectors.getD [] = []) :
    s ∈ e.selectorsTried ↔ s ∈ e.sourceTries ∨ e.sourceTries = [] ∧ s = e.lastTry := by
  have htries : e.selectorsTried =
      if e.sourceTries.isEmpty then [e.lastTry] else e.sourceTries.eraseDups := by
    unfold selectorsTried
    cases hselectors : e.selectors with
    | none => rfl
    | some ss =>
      rw [hselectors] at h
      rw [show ss = [] from h]
  rw [htries]
  cases e.sourceTries <;> simp [List.mem_eraseDups]

/-- The selector is written for the element, to be tried by a handler or to be ranked. -/
def Writes (e : Element) (round : Rounding) (s : String) : Prop :=
  s ∈ e.selectorsTried ∨ ∃ t ∈ sourceSelectors round e, t.value = s

/-- **Every selector of the source that tests an attribute shows its value.** -/
theorem shows_of_writes {round : Rounding} (h : e.selectors.getD [] = []) (hs : e.Writes round s)
    (hbracket : '[' ∈ s.toList) : ∃ name value, e.Shows s name value := by
  obtain htried | ⟨t, ht, rfl⟩ := hs
  · obtain htries | ⟨-, rfl⟩ := (mem_selectorsTried h).mp htried
    · obtain ⟨name, value, -, hshows⟩ := shows_of_sourceTries htries
      exact ⟨name, value, hshows⟩
    · obtain ⟨t, ht⟩ := type_of_lastTry hbracket
      exact ⟨"type", t, shows_lastTry ht⟩
  · obtain ⟨name, value, -, hshows⟩ := shows_of_fromSource (mem_sourceSelectors.mp ht) hbracket
    exact ⟨name, value, hshows⟩

/-- The selectors that handlers try quote their values unless nothing but the type is there and it
    has a quote or a backslash. -/
theorem quotes_selectorsTried_iff (h : e.selectors.getD [] = []) :
    (∀ s ∈ e.selectorsTried, '[' ∈ s.toList → e.Quotes s) ↔
      (e.sourceTries = [] → ∀ t, e.inputType = some t → ∀ c ∈ t.toList, c ≠ '\\' ∧ c ≠ '"') := by
  constructor
  · intro hquotes hnone t htype
    by_cases hempty : t = ""
    · rw [hempty]
      exact fun c hc => absurd hc List.not_mem_nil
    have hshows : e.Shows e.lastTry "type" t := shows_lastTry (nonEmpty_eq_some.mpr ⟨htype, hempty⟩)
    have htried := (mem_selectorsTried h).mpr (.inr ⟨hnone, rfl⟩)
    exact hshows.quotes_iff.mp (hquotes _ htried hshows.mem_bracket) rfl
  · intro hplain s hs hbracket
    obtain htries | ⟨hnone, rfl⟩ := (mem_selectorsTried h).mp hs
    · obtain ⟨name, value, hname, hshows⟩ := shows_of_sourceTries htries
      exact hshows.quotes_iff.mpr fun htype => absurd htype hname
    · obtain ⟨t, ht⟩ := type_of_lastTry hbracket
      exact (shows_lastTry ht).quotes_iff.mpr fun _ =>
        hplain hnone t (nonEmpty_eq_some.mp ht).1

end Element

/-- **Selectors of the source quote the values of attributes**, but for the type that a handler
falls back on, which is quoted iff it has no quotes and no backslashes. Whether it is or not, a
selector that two elements share stands for one value of one attribute. -/
theorem selectors_quoted_iff (round : Rounding) {e : Element} (h : e.selectors.getD [] = []) :
    (∀ t ∈ sourceSelectors round e, '[' ∈ t.value.toList → e.Quotes t.value) ∧
    ((∀ s ∈ e.selectorsTried, '[' ∈ s.toList → e.Quotes s) ↔
      (e.sourceTries = [] → ∀ t, e.inputType = some t →
        ∀ c ∈ t.toList, c ≠ '\\' ∧ c ≠ '"')) ∧
    ∀ e' : Element, e'.selectors.getD [] = [] →
      ∀ s, e.Writes round s → e'.Writes round s → '[' ∈ s.toList →
        ∃ name value body, TestsAttribute s name body ∧ e.Carries name value ∧
          e'.Carries name value := by
  refine ⟨?_, Element.quotes_selectorsTried_iff h, ?_⟩
  · intro t ht hbracket
    obtain ⟨name, value, hname, hshows⟩ :=
      Element.shows_of_fromSource (mem_sourceSelectors.mp ht) hbracket
    exact hshows.quotes_iff.mpr fun htype => absurd htype hname
  · intro e' h' s hs hs' hbracket
    obtain ⟨name, value, hshows⟩ := Element.shows_of_writes h hs hbracket
    obtain ⟨name', value', hshows'⟩ := Element.shows_of_writes h' hs' hbracket
    obtain ⟨rfl, rfl⟩ := hshows.unique hshows'
    obtain ⟨body, htest⟩ := hshows.tests
    exact ⟨name, value, body, htest, hshows.carries, hshows'.carries⟩

/-- An input with nothing but a type, which has a quote. -/
def quotedType : Element := { tag := .input, inputType := some "a\"b" }

/-- The quote in the type ends the value in the selector. -/
theorem quotedType_unquoted :
    ¬ ∀ s ∈ quotedType.selectorsTried, '[' ∈ s.toList → quotedType.Quotes s := by
  intro hquotes
  have hplain := (selectors_quoted_iff .binary (e := quotedType) rfl).2.1.mp hquotes rfl _ rfl
  exact (hplain '"' (by decide)).2 rfl

end Affordance
