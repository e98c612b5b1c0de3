import Affordance.Proofs.Live.Release

/-!
# Faults and the step that failed first

Several steps of a session may fail; the fault that the session ends with should be that of the
first one.

  * `Step.place`: the code and the stage that the fault of a failing step has.
  * `firstFailure`: the first of some steps that fails. `perform_failed`, `firstFailure_performed`:
    steps are done up to that one.
  * `firstFailure_calls`: what fails first in a session.
  * `visit_answer_of_first`: the fault that a visit with a failing step ends with. A close that fails
    takes the place of everything before it; `leaving_answer_of_fault`: so does leaving the driver
    if that fails.
  * **`first_failure_named_iff`**: a session ends with the fault of the step that failed first,
    unless that step has a stage of its own and what ends the session fails as well: the close, for
    a step of the visit, or leaving the driver.
-/

namespace Affordance

open Affordance.Text

/-! ## 1. The faults of steps -/

/-- The code and the stage of what fails without a stage of its own. -/
def sessionPlace : String × String := ("SESSION_ERROR", "session")

/-- The code and the stage of what a failing step is reported as. -/
def Step.place (f : StepFault) : Step → String × String
  | launch _ => ("LAUNCH_ERROR", "launch")
  | goto .. =>
    match f with
    | .timeout _ => ("NAV_TIMEOUT", "navigate")
    | .error _ => ("NAV_ERROR", "navigate")
  | setup _ => ("SETUP_SCRIPT_ERROR", "setup")
  | extract => ("EXTRACT_ERROR", "extract")
  | start | newContext | newPage | setTimeout _ | wait _ | waitAgain _ | close => sessionPlace

/-- The code and the stage of a fault. -/
def ProbeFault.place (r : ProbeFault) : String × String := (r.code, r.stage)

/-- The fault of a failing step has the code and the stage of the step. -/
theorem Step.fault_place (url : String) (f : StepFault) (s : Step) :
    (s.fault url f).place = s.place f := by
  cases s
  case goto => cases f <;> rfl
  all_goals rfl

/-- The step has a stage of its own in the visit to a page. -/
def Step.isStaged : Step → Bool
  | goto .. | setup _ | extract => true
  | _ => false

/-- But for the launch, a step is reported as one of the session iff it has no stage of its own. -/
theorem Step.place_eq_session_iff {s : Step} (f : StepFault) (hs : ∀ h, s ≠ .launch h) :
    s.place f = sessionPlace ↔ s.isStaged = false := by
  cases s
  case launch h => exact absurd rfl (hs h)
  case goto => cases f <;> simp [place, sessionPlace, isStaged]
  all_goals simp [place, sessionPlace, isStaged]

/-- A step with a stage of its own in the visit is not reported as one of the session. -/
theorem Step.place_ne_session {s : Step} (f : StepFault) (h : s.isStaged = true) :
    s.place f ≠ sessionPlace := by
  rw [Ne, s.place_eq_session_iff f (by rintro _ rfl; cases h), h]
  exact Bool.noConfusion

namespace Browser

variable (b : Browser)

/-! ## 2. The first failure -/

/-- The first of the steps that fails, and how it does. -/
def firstFailure (steps : List Step) : Option (Step × StepFault) :=
  steps.findSome? fun s => (b.fault s).map (s, ·)

theorem firstFailure_append (steps later : List Step) :
    b.firstFailure (steps ++ later) = (b.firstFailure steps).or (b.firstFailure later) :=
  List.findSome?_append

theorem firstFailure_eq_none_iff {steps : List Step} :
    b.firstFailure steps = none ↔ ∀ s ∈ steps, b.fault s = none := by
  simp [firstFailure]

variable {b} in
/-- What fails first is one of the steps and does fail. -/
theorem of_firstFailure {steps : List Step} {s : Step} {f : StepFault}
    (h : b.firstFailure steps = some (s, f)) : s ∈ steps ∧ b.fault s = some f := by
  obtain ⟨t, ht, hfault⟩ := List.exists_of_findSome?_eq_some h
  obtain ⟨g, hg, heq⟩ := Option.map_eq_some_iff.mp hfault
  cases heq
  exact ⟨ht, hg⟩

/-- What stops a plan is its first failure. -/
theorem perform_failed (plan : List Step) : (b.perform plan).2 = b.firstFailure plan := by
  induction plan with
  | nil => rfl
  | cons s rest ih =>
    unfold perform firstFailure
    rw [List.findSome?_cons]
    cases b.fault s with
    | some f => rfl
    | none => exact ih

/-- Of the steps that are done the same one fails first as of the whole plan. -/
theorem firstFailure_performed (plan : List Step) :
    b.firstFailure (b.perform plan).1 = b.firstFailure plan := by
  induction plan with
  | nil => rfl
  | cons s rest ih =>
    unfold perform firstFailure
    rw [List.findSome?_cons]
    cases hs : b.fault s with
    | some f => simp [hs]
    | none =>
      rw [List.findSome?_cons, hs]
      exact ih

/-! ## 3. Sessions in which steps fail -/

section Valid

variable {url : String} (o : VisitOptions) (valid : checkUrl url = .ok ())

include valid

/-- What fails first in a session: a step on the way to a browser, else one of the visit, else
    the close. -/
theorem firstFailure_calls :
    b.firstFailure (probe b url o).calls =
      (b.firstFailure (launching o)).or
        ((b.firstFailure (visiting url o)).or (b.firstFailure [.close])) := by
  rw [probe_calls b o valid, firstFailure_append, firstFailure_performed, perform_failed]
  cases b.firstFailure (launching o) with
  | some sf => rfl
  | none => rw [if_pos rfl, firstFailure_append, firstFailure_performed]

/-- A session without a driver ends with the fault of the start. -/
theorem probe_answer_of_start {f : StepFault} (h : b.fault .start = some f) :
    (probe b url o).answer = .error (.fault (Step.start.fault url f)) := by
  simp [probe, valid, launching, perform, h]

/-- A session without a browser ends with the fault of the launch, if the driver can be left. -/
theorem probe_answer_of_launch {f : StepFault} (hstart : b.fault .start = none)
    (h : b.fault (.launch o.headless) = some f) :
    (probe b url o).answer =
      (ProbeRun.leaving ⟨launching o, "",
        .error (.fault ((Step.launch o.headless).fault url f))⟩ b url).answer := by
  simp [probe, valid, launching, perform, hstart, h]

/-- With a browser a session ends as the visit does, if the driver can be left. -/
theorem probe_answer_of_launched (h : b.firstFailure (launching o) = none) :
    (probe b url o).answer = ((visit b url o).leaving b url).answer := by
  rw [← perform_failed] at h
  unfold probe ProbeRun.leaving
  rw [valid]
  dsimp only
  split
  · rename_i hlaunch
    rw [hlaunch] at h
    cases h
  · cases b.exit <;> rfl

omit valid in
/-- A visit whose close fails ends with the fault of the close, whatever was before. -/
theorem visit_answer_of_close {f : StepFault} (h : b.fault .close = some f) :
    (visit b url o).answer = .error (.fault (Step.close.fault url f)) := by
  unfold visit
  rw [h]

omit valid in
/-- A visit whose close succeeds ends with the fault of the step that failed. -/
theorem visit_answer_of_failure (h : b.fault .close = none) {s : Step} {f : StepFault}
    (hs : b.firstFailure (visiting url o) = some (s, f)) :
    (visit b url o).answer = .error (.fault (s.fault url f)) := by
  rw [← perform_failed] at hs
  unfold visit
  rw [h]
  dsimp only
  rw [hs]

omit valid in
theorem launch_not_mem_visiting (headless : Bool) : Step.launch headless ∉ visiting url o := by
  unfold visiting
  cases nonEmpty o.script <;> simp

omit valid in
/-- The fault that a visit ends with: that of the first failure, or that of the close if it fails. -/
theorem visit_answer_of_first {s : Step} {f : StepFault}
    (first : (b.firstFailure (visiting url o)).or (b.firstFailure [.close]) = some (s, f)) :
    ∃ r, (visit b url o).answer = .error (.fault r) ∧
      (r.place = s.place f ↔ ¬(s.isStaged = true ∧ b.fault .close ≠ none)) := by
  cases hvisit : b.firstFailure (visiting url o) with
  | none =>
    rw [hvisit, Option.none_or] at first
    obtain ⟨hs, hclose⟩ := of_firstFailure first
    cases List.mem_singleton.mp hs
    exact ⟨_, b.visit_answer_of_close o hclose,
      iff_of_true (Step.fault_place ..) (by simp [Step.isStaged])⟩
  | some sf =>
    rw [hvisit] at first
    cases first
    cases hclose : b.fault .close with
    | none =>
      exact ⟨_, b.visit_answer_of_failure o hclose hvisit,
        iff_of_true (Step.fault_place ..) (by simp)⟩
    | some f' =>
      have hs : ∀ h, s ≠ .launch h := fun h e =>
        launch_not_mem_visiting o h (e ▸ (of_firstFailure hvisit).1)
      refine ⟨_, b.visit_answer_of_close o hclose, ?_⟩
      rw [Step.fault_place, eq_comm]
      exact (Step.place_eq_session_iff f hs).trans (by simp)

omit valid in
/-- If the driver cannot be left, a session that fails ends with an error of the session. -/
theorem leaving_answer_of_fault {run : ProbeRun} {r : ProbeFault} {s : Step} {f : StepFault}
    (answer : run.answer = .error (.fault r))
    (place : r.place = s.place f ↔ ¬(s.isStaged = true ∧ b.fault .close ≠ none)) :
    ∃ r, (run.leaving b url).answer = .error (.fault r) ∧
      (r.place = s.place f ↔ ¬(s.isStaged = true ∧ b.fault .close ≠ none) ∧
        ¬(s.place f ≠ sessionPlace ∧ b.exit ≠ none)) := by
  unfold ProbeRun.leaving
  cases hexit : b.exit with
  | none => exact ⟨r, answer, place.trans (by simp)⟩
  | some f' =>
    have hsession : (sessionFault url f').place = sessionPlace := rfl
    refine ⟨_, rfl, ?_⟩
    rw [hsession]
    constructor
    · exact fun h => ⟨fun hs => Step.place_ne_session f hs.1 h.symm, fun hs => hs.1 h.symm⟩
    · exact fun h => Classical.byContradiction fun hne => h.2 ⟨Ne.symm hne, by simp⟩

/-- The fault that a session ends with: that of the first failure, unless what ends the session
    fails as well. -/
theorem probe_answer_of_failure {s : Step} {f : StepFault}
    (first : b.firstFailure (probe b url o).calls = some (s, f)) :
    ∃ r, (probe b url o).answer = .error (.fault r) ∧
      (r.place = s.place f ↔ ¬(s.isStaged = true ∧ b.fault .close ≠ none) ∧
        ¬(s.place f ≠ sessionPlace ∧ b.exit ≠ none)) := by
  rw [b.firstFailure_calls o valid] at first
  cases hstart : b.fault .start with
  | some f' =>
    have hfirst : b.firstFailure (launching o) = some (.start, f') := by
      simp [firstFailure, launching, hstart]
    rw [hfirst] at first
    cases first
    exact ⟨_, b.probe_answer_of_start o valid hstart,
      iff_of_true (Step.fault_place ..) (by simp [Step.isStaged, Step.place])⟩
  | none =>
    cases hlaunch : b.fault (.launch o.headless) with
    | some f' =>
      have hfirst : b.firstFailure (launching o) = some (.launch o.headless, f') := by
        simp [firstFailure, launching, hstart, hlaunch]
      rw [hfirst] at first
      cases first
      rw [b.probe_answer_of_launch o valid hstart hlaunch]
      exact b.leaving_answer_of_fault rfl
        (iff_of_true (Step.fault_place ..) (by simp [Step.isStaged]))
    | none =>
      have hfirst : b.firstFailure (launching o) = none := by
        simp [firstFailure, launching, hstart, hlaunch]
      rw [hfirst, Option.none_or] at first
      rw [b.probe_answer_of_launched o valid hfirst]
      obtain ⟨r, answer, place⟩ := b.visit_answer_of_first o first
      exact b.leaving_answer_of_fault answer place

end Valid

/-- **A session ends with the fault of the step that failed first**, with its code and its stage,
    unless that step is the navigation, the script or the extraction and the close fails as well, or
    the step has a stage of its own and the driver cannot be left: the session ends with an error of
    the session then. -/
theorem first_failure_named_iff (b : Browser) {url : String} (o : VisitOptions)
    (valid : checkUrl url = .ok ()) (fails : ∃ s ∈ (probe b url o).calls, b.fault s ≠ none) :
    ∃ s f r, b.firstFailure (probe b url o).calls = some (s, f) ∧
      (probe b url o).answer = .error (.fault r) ∧
      (r.place = s.place f ↔ ¬(s.isStaged = true ∧ b.fault .close ≠ none) ∧
        ¬(s.place f ≠ sessionPlace ∧ b.exit ≠ none)) := by
  cases hfirst : b.firstFailure (probe b url o).calls with
  | none =>
    obtain ⟨s, hs, hfault⟩ := fails
    exact absurd (b.firstFailure_eq_none_iff.mp hfirst s hs) hfault
  | some sf =>
    obtain ⟨s, f⟩ := sf
    obtain ⟨r, hanswer, hplace⟩ := b.probe_answer_of_failure o valid hfirst
    exact ⟨s, f, r, rfl, hanswer, hplace⟩

/-- **A close that fails hides a navigation that took too long**: the session ends with an error of
    the session. -/
theorem stuck_close_hides_timeout :
    let run := probe stuck "http://localhost:5173" {}
    let goto := Step.goto "http://localhost:5173" 10000
    checkUrl "http://localhost:5173" = .ok () ∧
    stuck.firstFailure run.calls = some (goto, .timeout "Timeout 10000ms exceeded") ∧
    goto.place (.timeout "Timeout 10000ms exceeded") = ("NAV_TIMEOUT", "navigate") ∧
    ∃ r, run.answer = .error (.fault r) ∧ r.place = ("SESSION_ERROR", "session") ∧
      r.place ≠ goto.place (.timeout "Timeout 10000ms exceeded") := by
  intro run goto
  have valid : checkUrl "http://localhost:5173" = .ok () := by rfl
  have hcalled : goto ∈ run.calls ∧ stuck.fault goto ≠ none := by decide +kernel
  obtain ⟨s, f, r, hfirst, hanswer, hplace⟩ :=
    stuck.first_failure_named_iff {} valid ⟨goto, hcalled⟩
  have hgoto : stuck.firstFailure run.calls = some (goto, .timeout "Timeout 10000ms exceeded") := by
    decide +kernel
  cases hgoto.symm.trans hfirst
  have hother : r.place ≠ goto.place (.timeout "Timeout 10000ms exceeded") := fun e =>
    (hplace.mp e).1 ⟨rfl, by decide⟩
  have hsession : run.answer = .error (.fault (Step.close.fault "http://localhost:5173"
      (.error "Target closed"))) := by rfl
  cases hsession.symm.trans hanswer
  exact ⟨valid, hgoto, rfl, _, rfl, rfl, hother⟩

end Browser

end Affordance
