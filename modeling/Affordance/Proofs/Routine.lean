/-!
# Routines that call each other

A routine is told by what it does up to its next call: it is done, or it asks for the answer of a
call and goes on with it. Nothing bounds how often it asks, or how deep the calls are nested.

  * `Routine`: what a routine still does. `Ends`: it ends, since every call it makes ends;
    `Ends.unique`: with one result only.
  * `Routine.Follows`: the routine, given answers for all calls, comes to a result, and calls only
    what ranks below a bound.
  * **`ends_of_follows`**: if the routine of every call comes to the answer of the call, calling
    only what ranks below the call, then every call ends with its answer.
  * `Routine.Keeps`, **`Ends.keeps`**: what every routine keeps, if the calls it makes keep it,
    holds of every call that ends.
-/

namespace Affordance

variable {Call : Type} {Answer : Call → Type} {α : Type}

/-- What a routine still does: nothing, or it asks for the answer of a call and goes on. -/
inductive Routine (Answer : Call → Type) (α : Type) : Type
  | done (a : α) : Routine Answer α
  | ask (c : Call) (next : Answer c → Routine Answer α) : Routine Answer α

/-- The routine ends with a result, where a call does what its own routine says. -/
inductive Ends (body : (c : Call) → Routine Answer (Answer c)) :
    {α : Type} → Routine Answer α → α → Prop
  | done {α : Type} (a : α) : Ends body (.done a) a
  | ask {α : Type} {c : Call} {next : Answer c → Routine Answer α} {b : Answer c} {a : α}
      (called : Ends body (body c) b) (rest : Ends body (next b) a) : Ends body (.ask c next) a

variable {body : (c : Call) → Routine Answer (Answer c)} {p : Routine Answer α} {a b : α}

/-- **A routine ends with one result only.** -/
theorem Ends.unique (h : Ends body p a) (g : Ends body p b) : a = b := by
  induction h with
  | done a => cases g; rfl
  | ask called rest ihcalled ihrest =>
    cases g with
    | ask called' rest' =>
      cases ihcalled called'
      exact ihrest rest'

/-! ## 1. Routines that end -/

section Rank

variable {value : (c : Call) → Answer c} {rank : Call → Nat} {r : Nat}

/-- With `value` for the answers of its calls the routine comes to a result, and it makes only
    calls that rank below `r`. -/
def Routine.Follows (value : (c : Call) → Answer c) (rank : Call → Nat) (r : Nat) :
    Routine Answer α → α → Prop
  | .done b, a => b = a
  | .ask c next, a => rank c < r ∧ (next (value c)).Follows value rank r a

theorem Routine.Follows.ends (hbelow : ∀ c, rank c < r → Ends body (body c) (value c)) :
    ∀ {p : Routine Answer α}, p.Follows value rank r a → Ends body p a
  | .done _, h => by
    cases h
    exact .done _
  | .ask c _, h => .ask (hbelow c h.1) (ends hbelow h.2)

/-- **Calls that rank lower and lower come to an end**, by induction on the rank. -/
theorem ends_of_follows (h : ∀ c, (body c).Follows value rank (rank c) (value c)) (c : Call) :
    Ends body (body c) (value c) :=
  (h c).ends fun d _ => ends_of_follows h d
termination_by rank c

end Rank

/-! ## 2. What routines keep -/

section Keeps

variable {good : (c : Call) → Answer c → Prop} {q : α → Prop}

/-- Whatever good answers its calls get, the result of the routine satisfies `q`. -/
def Routine.Keeps (good : (c : Call) → Answer c → Prop) (q : α → Prop) :
    Routine Answer α → Prop
  | .done a => q a
  | .ask c next => ∀ b, good c b → (next b).Keeps good q

/-- **If all routines keep the answers good, the answers are good**, by induction on the run. -/
theorem Ends.keeps (hbody : ∀ c, (body c).Keeps good (good c)) (h : Ends body p a)
    (hp : p.Keeps good q) : q a := by
  induction h with
  | done a => exact hp
  | ask called rest ihcalled ihrest => exact ihrest (hp _ (ihcalled (hbody _)))

end Keeps

end Affordance
