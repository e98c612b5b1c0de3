import Affordance.Live.Session

/-!
# Sessions release their browser

Any step of a session may fail, and several may.

  * `perform_pairwise`: of the steps that are done none but the last fails.
  * `probe_calls`: what a session calls: the steps up to a browser, and if that was launched those
    of the visit and a close.
  * **`browser_released`**: a browser that was launched is closed once and last, whatever fails,
    and nothing else is called after a step that fails.
-/

namespace Affordance.Browser

open Affordance.Text

variable (b : Browser)

/-! ## 1. Steps that are done -/

/-- The steps that are done are the first ones of the plan. -/
theorem perform_prefix (plan : List Step) : (b.perform plan).1 <+: plan := by
  induction plan with
  | nil => exact List.prefix_rfl
  | cons s rest ih =>
    unfold perform
    cases b.fault s with
    | some f => exact List.prefix_append [s] rest
    | none => exact (List.prefix_cons_inj s).mpr ih

/-- **Of the steps that are done none but the last fails.** -/
theorem perform_pairwise (plan : List Step) :
    (b.perform plan).1.Pairwise fun s _ => b.fault s = none := by
  induction plan with
  | nil => exact .nil
  | cons s rest ih =>
    unfold perform
    cases hs : b.fault s with
    | some f => exact List.pairwise_singleton _ s
    | none => exact .cons (fun _ _ => hs) ih

/-- A plan is done without a failure iff none of its steps fails. -/
theorem perform_eq_none_iff (plan : List Step) :
    (b.perform plan).2 = none ↔ ∀ s ∈ plan, b.fault s = none := by
  induction plan with
  | nil => simp [perform]
  | cons s rest ih =>
    unfold perform
    cases hs : b.fault s with
    | some f => simp [hs]
    | none => simpa [hs] using ih

/-- A plan of which no step fails is done to its end. -/
theorem perform_of_calm {plan : List Step} (calm : ∀ s ∈ plan, b.fault s = none) :
    (b.perform plan).1 = plan := by
  induction plan with
  | nil => rfl
  | cons s rest ih =>
    rw [perform, calm s List.mem_cons_self]
    exact congrArg (s :: ·) (ih fun t ht => calm t (List.mem_cons_of_mem s ht))

/-! ## 2. The calls of a session -/

variable (url : String) (o : VisitOptions)

theorem close_not_mem_launching : Step.close ∉ launching o := by simp [launching]

theorem close_not_mem_visiting : Step.close ∉ visiting url o := by
  unfold visiting
  cases nonEmpty o.script <;> simp

/-- A browser was launched in a session with these calls. -/
def LaunchedIn (calls : List Step) : Prop :=
  .launch o.headless ∈ calls ∧ b.fault (.launch o.headless) = none

instance (calls : List Step) : Decidable (b.LaunchedIn o calls) :=
  inferInstanceAs (Decidable (_ ∧ _))

theorem visit_calls : (visit b url o).calls = (b.perform (visiting url o)).1 ++ [.close] := by
  unfold visit
  dsimp only
  split <;> rfl

/-- Leaving the driver calls nothing. -/
theorem leaving_calls (run : ProbeRun) : (run.leaving b url).calls = run.calls := by
  unfold ProbeRun.leaving
  split <;> rfl

section Valid

variable {url} (valid : checkUrl url = .ok ())

include valid

/-- What a session calls. -/
theorem probe_calls :
    (probe b url o).calls = (b.perform (launching o)).1 ++
      if (b.perform (launching o)).2 = none then (b.perform (visiting url o)).1 ++ [.close]
      else [] := by
  unfold probe
  rw [valid]
  dsimp only
  split
  · rename_i hlaunch
    rw [apply_ite ProbeRun.calls, leaving_calls, ite_self, hlaunch, if_neg (by simp),
      List.append_nil]
  · rename_i hlaunch
    rw [leaving_calls, hlaunch, if_pos rfl, ← visit_calls]

/-- A browser was launched iff neither the start nor the launch failed. -/
theorem launchedIn_iff :
    b.LaunchedIn o (probe b url o).calls ↔ (b.perform (launching o)).2 = none := by
  rw [b.perform_eq_none_iff, probe_calls b o valid, LaunchedIn]
  constructor
  · rintro ⟨hcalled, hlaunch⟩
    cases hstart : b.fault .start with
    | none => simp [launching, hstart, hlaunch]
    | some f => simp [launching, perform, hstart] at hcalled
  · intro calm
    have hlaunch : Step.launch o.headless ∈ launching o := by simp [launching]
    rw [b.perform_of_calm calm]
    exact ⟨List.mem_append_left _ hlaunch, calm _ hlaunch⟩

end Valid

/-- **The browser is always released**: whichever steps fail, a browser that was launched is
    closed exactly once and no other is closed, nothing follows a close, and nothing but a close
    follows a step that failed. If nothing fails, the calls are those of a whole visit. -/
theorem browser_released (b : Browser) {url : String} (o : VisitOptions)
    (valid : checkUrl url = .ok ()) :
    let calls := (probe b url o).calls
    calls.count .close = (if b.LaunchedIn o calls then 1 else 0) ∧
    (calls.Pairwise fun s t => s ≠ .close ∧ (b.fault s ≠ none → t = .close)) ∧
    ((∀ s, b.fault s = none) → calls =
      [.start, .launch o.headless, .newContext, .newPage, .setTimeout o.limit, .goto url o.limit,
        .wait o.pause] ++
      (match nonEmpty o.script with
        | some script => [.setup script, .waitAgain o.pause]
        | none => []) ++
      [.extract, .close]) := by
  have hfirst : ∀ s ∈ (b.perform (launching o)).1, s ≠ .close := fun s hs e =>
    close_not_mem_launching o (e ▸ (b.perform_prefix _).subset hs)
  have hthen : ∀ s ∈ (b.perform (visiting url o)).1, s ≠ .close := fun s hs e =>
    close_not_mem_visiting url o (e ▸ (b.perform_prefix _).subset hs)
  have hnone : ∀ steps : List Step, (∀ s ∈ steps, s ≠ .close) → steps.count .close = 0 :=
    fun steps h => List.count_eq_zero.mpr fun hs => h _ hs rfl
  have hquiet : ∀ plan, (∀ s ∈ (b.perform plan).1, s ≠ .close) →
      (b.perform plan).1.Pairwise fun s t => s ≠ .close ∧ (b.fault s ≠ none → t = .close) :=
    fun plan h => (b.perform_pairwise plan).imp_of_mem fun hs _ hcalm =>
      ⟨h _ hs, fun hfault => absurd hcalm hfault⟩
  intro calls
  have hlaunched : b.LaunchedIn o calls ↔ _ := b.launchedIn_iff o valid
  have hcalls : calls = _ := b.probe_calls o valid
  by_cases hlaunch : (b.perform (launching o)).2 = none
  · have hcalm := (b.perform_eq_none_iff _).mp hlaunch
    rw [if_pos hlaunch] at hcalls
    rw [if_pos (hlaunched.mpr hlaunch), hcalls]
    refine ⟨?_, ?_, fun calm => ?_⟩
    · rw [List.count_append, List.count_append, hnone _ hfirst, hnone _ hthen]
      rfl
    · have hvisit : ((b.perform (visiting url o)).1 ++ [Step.close]).Pairwise
          fun s t => s ≠ .close ∧ (b.fault s ≠ none → t = .close) :=
        List.pairwise_append.mpr ⟨hquiet _ hthen, List.pairwise_singleton _ _,
          fun s hs t ht => ⟨hthen s hs, fun _ => List.mem_singleton.mp ht⟩⟩
      refine List.pairwise_append.mpr ⟨hquiet _ hfirst, hvisit, fun s hs _ _ => ⟨hfirst s hs, ?_⟩⟩
      exact fun hfault => absurd (hcalm s ((b.perform_prefix _).subset hs)) hfault
    · rw [b.perform_of_calm hcalm, b.perform_of_calm fun s _ => calm s, launching, visiting]
      cases nonEmpty o.script <;> rfl
  · rw [if_neg hlaunch, List.append_nil] at hcalls
    rw [if_neg (mt hlaunched.mp hlaunch), hcalls]
    refine ⟨hnone _ hfirst, hquiet _ hfirst, fun calm => ?_⟩
    exact absurd ((b.perform_eq_none_iff _).mpr fun s _ => calm s) hlaunch

/-- A browser whose pages never load and that refuses to close. -/
def stuck : Browser where
  fault
    | .goto .. => some (.timeout "Timeout 10000ms exceeded")
    | .close => some (.error "Target closed")
    | _ => none
  payload := .null

theorem browser_released_stuck :
    let calls := (probe stuck "http://localhost:5173" { script := some "open()" }).calls
    checkUrl "http://localhost:5173" = .ok () ∧
    calls = [.start, .launch true, .newContext, .newPage, .setTimeout 10000,
      .goto "http://localhost:5173" 10000, .close] ∧
    calls.count .close = 1 ∧
    calls.Pairwise fun s t => s ≠ .close ∧ (stuck.fault s ≠ none → t = .close) := by
  have valid : checkUrl "http://localhost:5173" = .ok () := by rfl
  obtain ⟨hcount, horder, -⟩ := stuck.browser_released { script := some "open()" } valid
  exact ⟨valid, by rfl, hcount.trans (if_pos (by decide +kernel)), horder⟩

end Affordance.Browser
