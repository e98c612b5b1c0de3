import Affordance.Proofs.Instrument.Probing
import Affordance.Proofs.Live.Release

/-!
# Failures of a session that no caller expects

A session without elements should end with a fault, which its caller passes over.

  * `Escapes`: a session ends with a failure of another kind.
  * `probe_escapes_iff`: that is so iff the address cannot be read, or every step is done, the driver
    is left and the page yields a single value that is not nothing.
  * **`unexpected_failures_iff`**: a source whose page is named stops iff it does so without a page
    or the session escapes.
-/

namespace Affordance

open Affordance.Json

/-! ## 1. Faults and other failures -/

/-- The answer is a failure that is no fault. -/
def Escapes {α : Type} (answer : Except ProbeFailure α) : Prop :=
  ∃ e, answer = .error e ∧ ∀ f, e ≠ .fault f

section Answers

variable {α : Type}

@[simp] theorem not_escapes_ok (a : α) : ¬ Escapes (.ok a : Except ProbeFailure α) := by
  rintro ⟨e, he, -⟩
  cases he

@[simp] theorem not_escapes_fault (f : ProbeFault) :
    ¬ Escapes (.error (.fault f) : Except ProbeFailure α) := by
  rintro ⟨e, he, hne⟩
  cases he
  exact hne f rfl

@[simp] theorem escapes_address (f : AddressFault) :
    Escapes (.error (.address f) : Except ProbeFailure α) :=
  ⟨_, rfl, fun _ h => nomatch h⟩

@[simp] theorem escapes_noList (payload : Json) :
    Escapes (.error (.noList payload) : Except ProbeFailure α) :=
  ⟨_, rfl, fun _ h => nomatch h⟩

end Answers

/-! ## 2. What a page yields -/

/-- A value that is neither nothing nor a collection: truth, or a number other than zero. -/
def Json.isSingle : Json → Bool
  | .bool b => b
  | .int i => i ≠ 0
  | .num m => m ≠ .value 0 ∧ m ≠ .minusZero
  | _ => false

/-- Only a single value holds no items. -/
theorem payloadItems_eq_none_iff (payload : Json) :
    payloadItems payload = none ↔ payload.isSingle = true := by
  cases payload with
  | bool b => cases b <;> simp [payloadItems, Json.isSingle]
  | int i => by_cases h : i = 0 <;> simp [payloadItems, Json.isSingle, h]
  | num m =>
    by_cases h : m = .value 0 <;> by_cases h' : m = .minusZero <;>
      simp [payloadItems, Json.isSingle, h, h']
  | _ => simp [payloadItems, Json.isSingle]

/-- What a page yields escapes iff it is a single value: items that are no elements are a fault. -/
theorem elementsOf_escapes_iff (url : String) (payload : Json) :
    Escapes (elementsOf url payload) ↔ payload.isSingle = true := by
  rw [← payloadItems_eq_none_iff]
  unfold elementsOf
  cases payloadItems payload with
  | none => simp
  | some items =>
    dsimp only
    cases liveElements items with
    | ok es => exact iff_of_false (not_escapes_ok es) (by simp)
    | error ms => exact iff_of_false (not_escapes_fault _) (by simp)

/-! ## 3. Sessions -/

/-- The check of an address escapes iff the address cannot be read. -/
theorem checkUrl_escapes_iff (url : String) :
    Escapes (checkUrl url) ↔ ∃ f, Address.read url = .error f := by
  unfold checkUrl
  cases Address.read url with
  | error f => exact iff_of_true (escapes_address f) ⟨f, rfl⟩
  | ok a =>
    refine iff_of_false ?_ (by simp)
    show ¬ Escapes (if a.isPage then .ok () else .error _)
    split
    · exact not_escapes_ok ()
    · exact not_escapes_fault _

section Sessions

variable (b : Browser) (url : String) (o : VisitOptions)

/-- A visit escapes iff it is done, the browser closes, and the page yields a single value. -/
theorem visit_escapes_iff :
    Escapes (visit b url o).answer ↔
      (∀ s ∈ visiting url o, b.fault s = none) ∧ b.fault .close = none ∧
        b.payload.isSingle = true := by
  rw [← b.perform_eq_none_iff, ← elementsOf_escapes_iff url]
  unfold visit
  dsimp only
  cases b.fault .close with
  | some f => simp
  | none => cases (b.perform (visiting url o)).2 <;> simp

/-- A session escapes as before its driver is left, if that does not fail. -/
theorem leaving_escapes_iff (run : ProbeRun) :
    Escapes (run.leaving b url).answer ↔ Escapes run.answer ∧ b.exit = none := by
  unfold ProbeRun.leaving
  cases b.exit with
  | none => simp
  | some f => simp

/-- **A session escapes** iff its address cannot be read, or every step is done, the driver is left
    and the page yields a single value. -/
theorem probe_escapes_iff :
    Escapes (probe b url o).answer ↔
      (∃ f, Address.read url = .error f) ∨
      (checkUrl url = .ok () ∧
        (∀ s ∈ launching o ++ visiting url o ++ [.close], b.fault s = none) ∧ b.exit = none ∧
        b.payload.isSingle = true) := by
  rw [← checkUrl_escapes_iff]
  unfold probe
  cases hurl : checkUrl url with
  | error e => simp [Escapes]
  | ok u =>
    have hcalm := b.perform_eq_none_iff (launching o)
    simp only [not_escapes_ok, false_or, true_and, List.forall_mem_append,
      List.forall_mem_singleton]
    split
    · rename_i s f hlaunch
      rw [hlaunch] at hcalm
      refine iff_of_false ?_ fun h => nomatch hcalm.mpr h.1.1.1
      split
      · exact not_escapes_fault _
      · exact fun h => not_escapes_fault _ ((leaving_escapes_iff b url _).mp h).1
    · rename_i hlaunch
      rw [hlaunch] at hcalm
      rw [leaving_escapes_iff, visit_escapes_iff, and_iff_right (hcalm.mp rfl)]
      tauto

end Sessions

/-! ## 4. Sources -/

section Sources

variable {config : Option Config} {prober : String → ProbeRun} {url : Option String}
  {source fileName : String} {a : Analysis}

/-- A source that cannot be analysed stops for that reason, with a page and without. -/
theorem instrument_of_failure {f : Failure} (ha : SourceFile.analyze source fileName = .error f) :
    (instrument config prober url source fileName).value = .error (.source f) := by
  unfold instrument
  simp only [ha, Told.silent]

/-- A source whose page cannot even be viewed stops for that reason. -/
theorem instrument_of_view_error {e : Stop} (ha : SourceFile.analyze source fileName = .ok a)
    (hview : (PageView.of prober url).value = .error e) :
    (instrument config prober url source fileName).value = .error e := by
  unfold instrument
  simp only [ha, hview]

/-- A source whose page is viewed stops iff a tool has no identity. -/
theorem instrument_stops_iff {view : PageView} (ha : SourceFile.analyze source fileName = .ok a)
    (hview : (PageView.of prober url).value = .ok view) :
    (∃ e, (instrument config prober url source fileName).value = .error e) ↔
      (a.proposals config view).findSome? (·.candidate.idFault?) ≠ none := by
  unfold instrument
  simp only [ha, hview]
  cases (a.proposals config view).findSome? (·.candidate.idFault?) with
  | some f => simp
  | none => simp

/-- A session that escapes is no view of a page. -/
theorem PageView.of_eq_error {url : String} (hurl : url ≠ "")
    (hescapes : Escapes (prober url).answer) :
    ∃ e, (PageView.of prober (some url)).value = .error (.session e) := by
  obtain ⟨e, hanswer, hne⟩ := hescapes
  refine ⟨e, ?_⟩
  unfold of
  dsimp only
  rw [if_neg hurl, ofRun, hanswer]
  cases e with
  | fault f => exact absurd rfl (hne f)
  | address f => rfl
  | noList payload => rfl

end Sources

/-- The empty address can be read, but no page stands there. -/
theorem not_escapes_empty (b : Browser) (o : VisitOptions) : ¬ Escapes (probe b "" o).answer := by
  rw [probe_escapes_iff]
  rintro (⟨f, hf⟩ | ⟨hvalid, -, -⟩)
  · cases hf
  · cases hvalid

/-- **Probing fails in ways that nobody expects**: a session escapes iff its address cannot be
    read, or every step is done, the driver is left and the page yields a single value; and a source
    whose page is named stops iff it does so without a page or the session escapes. -/
theorem unexpected_failures_iff (b : Browser) (url : String) (o : VisitOptions)
    (config : Option Config) (source fileName : String) :
    let prober := fun url => probe b url o
    (Escapes (probe b url o).answer ↔
      (∃ f, Address.read url = .error f) ∨
      (checkUrl url = .ok () ∧
        (∀ s ∈ launching o ++ visiting url o ++ [.close], b.fault s = none) ∧ b.exit = none ∧
        b.payload.isSingle = true)) ∧
    ((∃ e, (instrument config prober (some url) source fileName).value = .error e) ↔
      (∃ e, (instrument config prober none source fileName).value = .error e) ∨
      Escapes (probe b url o).answer) := by
  intro prober
  refine ⟨probe_escapes_iff b url o, ?_⟩
  cases ha : SourceFile.analyze source fileName with
  | error f =>
    exact iff_of_true ⟨_, instrument_of_failure ha⟩ (.inl ⟨_, instrument_of_failure ha⟩)
  | ok a =>
    by_cases hescapes : Escapes (probe b url o).answer
    · have hurl : url ≠ "" := fun e => not_escapes_empty b o (e ▸ hescapes)
      obtain ⟨e, hview⟩ :
          ∃ e, (PageView.of prober (some url)).value = .error (.session e) :=
        PageView.of_eq_error hurl hescapes
      exact iff_of_true ⟨_, instrument_of_view_error ha hview⟩ (.inr hescapes)
    · have hfault : ∀ e, (prober url).answer = .error e → ∃ f, e = .fault f := fun e he =>
        Classical.byContradiction fun h => hescapes ⟨e, he, fun f hf => h ⟨f, hf⟩⟩
      obtain ⟨view, hview⟩ := PageView.of_eq_ok hfault
      have hplain : (PageView.of prober none).value = .ok {} := rfl
      rw [instrument_stops_iff ha hview, instrument_stops_iff ha hplain,
        findSome?_idFault? (a.proposals_sameTool config view), or_iff_left hescapes]

/-- A browser in which nothing fails and whose pages yield truth. -/
def agreeable : Browser := { fault := fun _ => none, payload := .bool true }

/-- **Neither an unclosed bracket in the host nor a page that yields truth ends in a fault**, and
    both stop the work on a source that offers a tool. -/
theorem lone_bracket_escapes :
    let prober := fun url => probe agreeable url {}
    let source := "<button>Save</button>"
    (prober "http://[").answer = .error (.address .loneBracket) ∧
    (prober "http://localhost").answer = .error (.noList (.bool true)) ∧
    toolNames (instrument none prober none source "page.html").value = some (["save"], none) ∧
    ∀ url ∈ ["http://[", "http://localhost"],
      ∃ e, (instrument none prober (some url) source "page.html").value = .error e := by
  intro prober source
  have hbracket : (prober "http://[").answer = .error (.address .loneBracket) := by rfl
  have htruth : (prober "http://localhost").answer = .error (.noList (.bool true)) := by rfl
  refine ⟨hbracket, htruth, by decide +kernel, fun url hurl => ?_⟩
  refine (unexpected_failures_iff agreeable url {} none source "page.html").2.mpr (.inr ?_)
  rcases List.mem_pair.mp hurl with rfl | rfl
  · exact hbracket ▸ escapes_address _
  · exact htruth ▸ escapes_noList _

end Affordance
