import Mathlib.Data.List.Pairwise
import Affordance.Proofs.Script.Scanning
import Affordance.Proofs.Succeeds
import Affordance.Proofs.Text.Pieces
import Affordance.Proofs.Text.Spelling
import Affordance.Script.Components

/-!
# Spans of components

  * `lt_partner`, `functionAt_bounds`: what is read at a position lies in the text and ends behind
    the position.
  * `Declares`: what the declaration at a match is read as; **`Declares.placed`**: its span begins in
    the text and holds the beginning of its body.
  * `disjointFrom_pairwise`, `disjointFrom_covers`: of spans in order, those that are kept lie one
    behind the other, and those that are left out begin inside one that is kept.
  * **`components_divide_text`**: so the components that a script declares divide its text
    (`Division`): no position belongs to two of them, and no declaration is lost that begins
    outside.
-/

namespace Affordance.Script

open Affordance.Text
open Affordance.Text.Pattern

variable {src : Source} {fileName : String} {i j k : Nat} {m : Match} {s t : Span}
  {spans : List Span}

/-! ## 1. Where what is read ends -/

theorem le_skip (src : Source) (closers : List Char) (i : Nat) :
    min i src.size ≤ skip src closers i :=
  (le_skipFrom src _).1 closers 0 i

/-- The partner of a bracket stands behind it. -/
theorem lt_partner (h : partner src i = .ok k) : i < src.size ∧ i < k := by
  unfold partner partnerFrom at h
  split at h
  · cases h
  · rename_i c hc
    split at h
    · cases h
    · rename_i d _
      cases h
      have hi := lt_size hc
      have := le_skip src [d] (i + 1)
      omega

theorem le_passReturnType (src : Source) : ∀ n k : Nat, k ≤ passReturnType src n k
  | 0, _ => Nat.le_refl _
  | n + 1, k => by
    unfold passReturnType
    split
    · have hskip := le_skip src ['\x7b', '='] k
      have hnext := le_passReturnType src n (skip src ['\x7b', '='] k + 1)
      dsimp only
      split <;> omega
    · exact Nat.le_refl k

theorem le_afterParameters (src : Source) (i : Nat) : i ≤ afterParameters src i := by
  have hspace : ∀ j, j ≤ src.passSpace j := src.le_passWhile isSpace
  have hfirst := hspace i
  unfold afterParameters
  dsimp only
  split
  · have htype := le_passReturnType src (src.size + 1) (src.passSpace i + 1)
    have hbehind := hspace (passReturnType src (src.size + 1) (src.passSpace i + 1))
    omega
  · exact Nat.le_trans hfirst (hspace _)

/-- Parameters take up some of the text. -/
theorem lt_passParameters {needsParens : Bool}
    (h : passParameters src j needsParens = .ok (some k)) : j < src.size ∧ j < k := by
  unfold passParameters at h
  split at h
  · obtain ⟨close, hclose, h⟩ := bind_eq_ok_iff.mp h
    cases h
    have := lt_partner hclose
    omega
  · split at h
    · cases h
    · split at h
      · rename_i c hc
        have hname := src.le_passWhile isNameChar (j + 1)
        split at h <;> cases h
        exact ⟨lt_size hc, by omega⟩
      · cases h

/-- **A function takes up some of the text.** -/
theorem functionAt_bounds {allowMethod : Bool} {f : FunctionText}
    (h : functionAt src i allowMethod = .ok (some f)) : i < src.size ∧ i < f.stop := by
  unfold functionAt at h
  split at h
  · cases h
  · rename_i head hhead
    have hstart : i ≤ head.stop := by
      rw [← (matchAt_eq_some.mp hhead).2.2]
      exact start_le_stop rfl hhead
    obtain ⟨j, hj, h⟩ := bind_eq_ok_iff.mp h
    cases j with
    | none => cases h
    | some j =>
      obtain ⟨hsize, hlt⟩ := lt_passParameters hj
      have hbehind := le_afterParameters src j
      dsimp only at h
      split at h
      · cases h
      · generalize afterParameters src j = k at h hbehind
        generalize hbody : (if src.at_ k ['=', '>'] = true then src.passSpace (k + 2) else k) = b
          at h
        have hkb : k ≤ b := by
          have := src.le_passWhile isSpace (k + 2)
          rw [← hbody]
          unfold Source.passSpace
          split <;> omega
        split at h
        · obtain ⟨close, hclose, h⟩ := bind_eq_ok_iff.mp h
          cases h
          have := lt_partner hclose
          dsimp only
          omega
        · split at h
          · cases h
          · cases h
            have := le_skip src [';', ',', '\n'] b
            dsimp only
            omega

/-! ## 2. Declarations -/

/-- What the declaration at a match is read as. -/
inductive Declares (src : Source) (fileName : String) : Match → Span → Prop
  | function {m : Match} {s : Span} (hm : m ∈ functionDeclaration.findAll src)
      (hs : functionSpan src fileName m = .ok (some s)) : Declares src fileName m s
  | constant {m : Match} {s : Span} (hm : m ∈ constantDeclaration.findAll src)
      (hs : constantSpan src m = .ok (some s)) : Declares src fileName m s
  | class_ {m : Match} {s : Span} (hm : m ∈ classDeclaration.findAll src)
      (hs : classSpan src m = .ok (some s)) : Declares src fileName m s

/-- The span begins in the text and holds the beginning of its body. -/
structure Span.Placed (src : Source) (s : Span) : Prop where
  start_lt : s.start < src.size
  start_le : s.start ≤ s.bodyStart
  body_lt : s.bodyStart < s.stop

theorem Span.Placed.nonempty (h : s.Placed src) : s.start < s.stop :=
  Nat.lt_of_le_of_lt h.start_le h.body_lt

theorem placed_functionSpan (hm : m ∈ functionDeclaration.findAll src)
    (h : functionSpan src fileName m = .ok (some s)) : s.start = m.start ∧ s.Placed src := by
  have hmatch : m.start ≤ m.stop := start_le_stop rfl (matchAt_of_mem_findAll hm)
  unfold functionSpan at h
  split at h
  · cases h
  · obtain ⟨close, hclose, h⟩ := bind_eq_ok_iff.mp h
    obtain ⟨hopen, hpassed⟩ := lt_partner hclose
    have hbody := le_skip src ['\x7b'] (close + 1)
    dsimp only at h
    split at h
    · cases h
    · obtain ⟨last, hlast, h⟩ := bind_eq_ok_iff.mp h
      have hblock := lt_partner hlast
      cases h
      exact ⟨rfl, by dsimp only; omega, by dsimp only; omega, by dsimp only; omega⟩

theorem placed_constantSpan (hm : m ∈ constantDeclaration.findAll src)
    (h : constantSpan src m = .ok (some s)) : s.start = m.start ∧ s.Placed src := by
  have hmatch : m.start ≤ m.stop := start_le_stop rfl (matchAt_of_mem_findAll hm)
  obtain ⟨f, hf, h⟩ := bind_eq_ok_iff.mp h
  cases f with
  | none => cases h
  | some f =>
    obtain ⟨params, -, h⟩ := bind_eq_ok_iff.mp h
    obtain ⟨hsize, hstop⟩ := functionAt_bounds hf
    cases h
    exact ⟨rfl, Nat.lt_of_le_of_lt hmatch hsize, hmatch, hstop⟩

theorem placed_classSpan (hm : m ∈ classDeclaration.findAll src)
    (h : classSpan src m = .ok (some s)) : s.start = m.start ∧ s.Placed src := by
  have hmatch : m.start ≤ m.stop := start_le_stop rfl (matchAt_of_mem_findAll hm)
  unfold classSpan at h
  split at h
  · obtain ⟨close, hclose, h⟩ := bind_eq_ok_iff.mp h
    obtain ⟨hsize, hstop⟩ := lt_partner hclose
    cases h
    exact ⟨rfl, Nat.lt_of_le_of_lt hmatch hsize, hmatch, Nat.lt_succ_of_lt hstop⟩
  · cases h

/-- **A declaration is read as a span that begins where it does**, in the text, and that holds the
    beginning of its body. -/
theorem Declares.placed (h : Declares src fileName m s) : s.start = m.start ∧ s.Placed src := by
  cases h with
  | function hm hs => exact placed_functionSpan hm hs
  | constant hm hs => exact placed_constantSpan hm hs
  | class_ hm hs => exact placed_classSpan hm hs

/-- The spans of all declarations, the nested ones included. -/
def declaredSpans (src : Source) (fileName : String) : Except BracketFault (List Span) := do
  let functions ← (functionDeclaration.findAll src).mapM (functionSpan src fileName)
  let constants ← (constantDeclaration.findAll src).mapM (constantSpan src)
  let classes ← (classDeclaration.findAll src).mapM (classSpan src)
  return (functions ++ constants ++ classes).filterMap id

/-- A span is declared iff a declaration is read as it. -/
theorem mem_declaredSpans (h : declaredSpans src fileName = .ok spans) :
    s ∈ spans ↔ ∃ m, Declares src fileName m s := by
  obtain ⟨functions, hfunctions, h⟩ := bind_eq_ok_iff.mp h
  obtain ⟨constants, hconstants, h⟩ := bind_eq_ok_iff.mp h
  obtain ⟨classes, hclasses, h⟩ := bind_eq_ok_iff.mp h
  cases h
  have hmem : s ∈ (functions ++ constants ++ classes).filterMap id ↔
      (some s ∈ functions ∨ some s ∈ constants) ∨ some s ∈ classes := by
    simp [or_assoc]
  rw [hmem, mem_mapM_iff hfunctions, mem_mapM_iff hconstants, mem_mapM_iff hclasses]
  constructor
  · rintro ((⟨m, hm, hs⟩ | ⟨m, hm, hs⟩) | ⟨m, hm, hs⟩)
    · exact ⟨m, .function hm hs⟩
    · exact ⟨m, .constant hm hs⟩
    · exact ⟨m, .class_ hm hs⟩
  · rintro ⟨m, hm | hm | hm⟩
    · exact .inl (.inl ⟨m, ‹_›, ‹_›⟩)
    · exact .inl (.inr ⟨m, ‹_›, ‹_›⟩)
    · exact .inr ⟨m, ‹_›, ‹_›⟩

/-! ## 3. The spans that are kept -/

theorem disjointFrom_sublist : ∀ (n : Nat) (spans : List Span),
    (disjointFrom n spans).Sublist spans
  | _, [] => .slnil
  | n, s :: rest => by
    unfold disjointFrom
    split
    · exact (disjointFrom_sublist n rest).cons s
    · exact (disjointFrom_sublist s.stop rest).cons_cons s

/-- Nothing is kept that begins before the end of what was kept last. -/
theorem le_start_of_mem_disjointFrom : ∀ {n : Nat} {spans : List Span},
    (∀ s ∈ spans, s.start < s.stop) → ∀ s ∈ disjointFrom n spans, n ≤ s.start
  | _, [], _, _, hs => absurd hs List.not_mem_nil
  | n, s :: rest, hne, t, ht => by
    have hrest : ∀ t ∈ rest, t.start < t.stop := fun t ht => hne t (List.mem_cons_of_mem s ht)
    have hs := hne s List.mem_cons_self
    unfold disjointFrom at ht
    split at ht
    · exact le_start_of_mem_disjointFrom hrest t ht
    · rcases List.mem_cons.mp ht with rfl | ht
      · omega
      · have := le_start_of_mem_disjointFrom hrest t ht
        omega

/-- **What is kept lies one behind the other.** -/
theorem disjointFrom_pairwise : ∀ {n : Nat} {spans : List Span},
    (∀ s ∈ spans, s.start < s.stop) →
      (disjointFrom n spans).Pairwise fun s t => s.stop ≤ t.start
  | _, [], _ => .nil
  | n, s :: rest, hne => by
    have hrest : ∀ t ∈ rest, t.start < t.stop := fun t ht => hne t (List.mem_cons_of_mem s ht)
    unfold disjointFrom
    split
    · exact disjointFrom_pairwise hrest
    · exact .cons (le_start_of_mem_disjointFrom hrest) (disjointFrom_pairwise hrest)

/-- **What is left out begins inside what is kept**, or before the end of what was kept last. -/
theorem disjointFrom_covers : ∀ {n : Nat} {spans : List Span},
    spans.Pairwise (fun s t => s.start ≤ t.start) → ∀ s ∈ spans,
      s ∈ disjointFrom n spans ∨ s.start < n ∨
        ∃ t ∈ disjointFrom n spans, t.start ≤ s.start ∧ s.start < t.stop
  | _, [], _, _, hs => absurd hs List.not_mem_nil
  | n, s :: rest, hsorted, t, ht => by
    obtain ⟨hfirst, hrest⟩ := List.pairwise_cons.mp hsorted
    unfold disjointFrom
    split
    · rename_i hbefore
      rcases List.mem_cons.mp ht with rfl | ht
      · exact .inr (.inl hbefore)
      · exact disjointFrom_covers hrest t ht
    · rcases List.mem_cons.mp ht with rfl | ht
      · exact .inl List.mem_cons_self
      · -- What begins before the end of the first span begins inside it, as the spans are in order.
        rcases disjointFrom_covers (n := s.stop) hrest t ht with hkept | hbefore | ⟨u, hu, hin⟩
        · exact .inl (List.mem_cons_of_mem s hkept)
        · exact .inr (.inr ⟨s, List.mem_cons_self, hfirst t ht, hbefore⟩)
        · exact .inr (.inr ⟨u, List.mem_cons_of_mem s hu, hin⟩)

/-- The spans in the order in which they begin. -/
def byStart (spans : List Span) : List Span := spans.mergeSort fun s t => s.start ≤ t.start

theorem byStart_pairwise (spans : List Span) :
    (byStart spans).Pairwise fun s t => s.start ≤ t.start := by
  have hsorted : (byStart spans).Pairwise fun s t => decide (s.start ≤ t.start) = true := by
    refine List.pairwise_mergeSort (fun a b c hab hbc => ?_) (fun a b => ?_) spans
    · exact decide_eq_true ((of_decide_eq_true hab).trans (of_decide_eq_true hbc))
    · simpa using Nat.le_total a.start b.start
  exact hsorted.imp fun h => of_decide_eq_true h

theorem inOrder_start (spans : List Span) :
    inOrder (spans.map fun s => (s.start, s)) = byStart spans := by
  have hkeyed : (byStart spans).map (fun s => (s.start, s)) =
      (spans.map fun s => (s.start, s)).mergeSort fun a b => a.1 ≤ b.1 :=
    List.map_mergeSort fun _ _ _ _ => rfl
  rw [inOrder, ← hkeyed, List.map_map]
  exact List.map_id _

theorem componentSpans_eq_kept (src : Source) (fileName : String) :
    componentSpans src fileName = do
      let all ← declaredSpans src fileName
      return disjointFrom 0 (byStart all) := by
  simp only [componentSpans, declaredSpans, inOrder_start, bind_assoc, pure_bind]

/-! ## 4. The division of the text -/

/-- The position belongs to the span. -/
def Span.holds (i : Nat) (s : Span) : Bool := decide (s.start ≤ i ∧ i < s.stop)

/-- **The spans divide the text among the declarations.** -/
structure Division (src : Source) (fileName : String) (spans : List Span) : Prop where
  /-- Each span is what a declaration is read as. -/
  declared : ∀ s ∈ spans, ∃ m, Declares src fileName m s
  /-- It begins in the text and holds the beginning of its body. -/
  placed : ∀ s ∈ spans, s.Placed src
  /-- It is not empty. -/
  nonempty : ∀ s ∈ spans, s.start < s.stop
  /-- The spans stand in the order of the text, -/
  increasing : spans.Pairwise fun s t => s.start < t.start
  /-- each behind the one before. -/
  disjoint : spans.Pairwise fun s t => s.stop ≤ t.start
  /-- So no position belongs to two of them, -/
  apart : ∀ i, spans.countP (·.holds i) ≤ 1
  /-- and what the components are read from are pieces of the text, one behind the other. -/
  pieces : InOrder (spans.map fun s => src.slice s.start s.stop) src.toList
  /-- A declaration that is read is one of the spans, or it begins inside one. -/
  covered : ∀ m s, Declares src fileName m s →
    s ∈ spans ∨ ∃ t ∈ spans, t.holds m.start = true

theorem countP_holds_le_one (i : Nat) : ∀ {spans : List Span},
    (spans.Pairwise fun s t => s.stop ≤ t.start) → spans.countP (·.holds i) ≤ 1
  | [], _ => Nat.zero_le 1
  | s :: rest, h => by
    obtain ⟨hbehind, hrest⟩ := List.pairwise_cons.mp h
    rw [List.countP_cons]
    split
    · rename_i hs
      obtain ⟨-, hstop⟩ := of_decide_eq_true hs
      have hnone : rest.countP (·.holds i) = 0 := by
        refine List.countP_eq_zero.mpr fun t ht hholds => ?_
        obtain ⟨hstart, -⟩ := of_decide_eq_true hholds
        have := hbehind t ht
        omega
      omega
    · exact countP_holds_le_one i hrest

theorem drop_eq_slice_append (src : Source) {n k : Nat} (h : n ≤ k) :
    src.toList.drop n = src.slice n k ++ src.toList.drop k := by
  rw [Source.slice_eq]
  conv_lhs => rw [← List.take_append_drop k src.toList, List.drop_append]
  by_cases hk : k ≤ src.toList.length
  · rw [List.length_take, Nat.min_eq_left hk, Nat.sub_eq_zero_of_le h, List.drop_zero]
  · rw [List.drop_eq_nil_of_le (Nat.le_of_not_le hk), List.drop_nil]

/-- Spans that lie one behind the other are pieces of the text in order. -/
theorem inOrder_slices : ∀ {n : Nat} {spans : List Span}, (∀ s ∈ spans, n ≤ s.start) →
    (∀ s ∈ spans, s.start < s.stop) → (spans.Pairwise fun s t => s.stop ≤ t.start) →
      InOrder (spans.map fun s => src.slice s.start s.stop) (src.toList.drop n)
  | _, [], _, _, _ => .nil _
  | n, s :: rest, hbound, hne, h => by
    obtain ⟨hbehind, hrest⟩ := List.pairwise_cons.mp h
    have hback := inOrder_slices hbehind (fun t ht => hne t (List.mem_cons_of_mem s ht)) hrest
    have hcut : src.toList.drop n = src.slice n s.start ++
        (src.slice s.start s.stop ++ src.toList.drop s.stop) := by
      rw [← drop_eq_slice_append src (Nat.le_of_lt (hne s List.mem_cons_self)),
        ← drop_eq_slice_append src (hbound s List.mem_cons_self)]
    rw [hcut]
    exact .cons _ _ hback

/-- **The components that a script declares divide its text**, whenever they are found. -/
theorem components_divide_text (h : componentSpans src fileName = .ok spans) :
    Division src fileName spans := by
  rw [componentSpans_eq_kept] at h
  obtain ⟨all, hall, h⟩ := bind_eq_ok_iff.mp h
  cases h
  have hdeclared : ∀ s ∈ byStart all, ∃ m, Declares src fileName m s := fun s hs =>
    (mem_declaredSpans hall).mp (List.mem_mergeSort.mp hs)
  have hplaced : ∀ s ∈ byStart all, s.Placed src := fun s hs => by
    obtain ⟨m, hm⟩ := hdeclared s hs
    exact hm.placed.2
  have hne : ∀ s ∈ byStart all, s.start < s.stop := fun s hs => (hplaced s hs).nonempty
  have hkept : ∀ s ∈ disjointFrom 0 (byStart all), s ∈ byStart all :=
    (disjointFrom_sublist 0 _).subset
  have hdisjoint := disjointFrom_pairwise (n := 0) hne
  exact {
    declared := fun s hs => hdeclared s (hkept s hs)
    placed := fun s hs => hplaced s (hkept s hs)
    nonempty := fun s hs => hne s (hkept s hs)
    increasing := hdisjoint.imp_of_mem fun hs _ hst =>
      Nat.lt_of_lt_of_le (hne _ (hkept _ hs)) hst
    disjoint := hdisjoint
    apart := fun i => countP_holds_le_one i hdisjoint
    pieces := inOrder_slices (fun s _ => Nat.zero_le _) (fun s hs => hne s (hkept s hs)) hdisjoint
    covered := fun m s hm => by
      have hs : s ∈ byStart all := List.mem_mergeSort.mpr ((mem_declaredSpans hall).mpr ⟨m, hm⟩)
      rcases disjointFrom_covers (n := 0) (byStart_pairwise all) s hs with hs | hs | ⟨t, ht, hin⟩
      · exact .inl hs
      · exact absurd hs (Nat.not_lt_zero _)
      · rw [hm.placed.1] at hin
        exact .inr ⟨t, ht, decide_eq_true hin⟩ }

/-- A component in which a function is declared, and one behind it. -/
theorem components_divide_nested :
    let src := Source.of "function A() \x7b\n  const B = () => 1\n\x7d\nconst C = () => 2"
    let spans := [⟨"A", 0, 36, "", 13⟩, ⟨"C", 37, 54, "", 47⟩]
    componentSpans src "x.jsx" = .ok spans ∧ Division src "x.jsx" spans := by
  intro src spans
  let inner : Span := ⟨"B", 15, 34, "", 27⟩
  have hall : (declaredSpans src "x.jsx").toOption =
      some [⟨"A", 0, 36, "", 13⟩, inner, ⟨"C", 37, 54, "", 47⟩] := by
    decide +kernel
  have hspans : componentSpans src "x.jsx" = .ok spans := by
    rw [componentSpans_eq_kept, toOption_eq_some_iff.mp hall, ok_bind, byStart,
      List.mergeSort_of_pairwise (by decide)]
    rfl
  exact ⟨hspans, components_divide_text hspans⟩

end Affordance.Script
