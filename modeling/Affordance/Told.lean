/-!
# Telling

  * `Told`: a value with what was told on the way to it.  Nobody has to listen: what is told
    never changes the value.
  * `Told.inTurn`: steps for items one after another, up to the first that fails.
-/

namespace Affordance

/-- A value with what was told on the way to it. -/
structure Told (α : Type) where
  log : String
  value : α

namespace Told

/-- A value that was come by in silence. -/
def silent {α : Type} (a : α) : Told α := ⟨"", a⟩

/-- A value with more told before it. -/
def after {α : Type} (log : String) (t : Told α) : Told α := { t with log := log ++ t.log }

/-- The value changed, what is told kept. -/
def map {α β : Type} (f : α → β) (t : Told α) : Told β := ⟨t.log, f t.value⟩

/-- Steps for items one after another, up to the first that fails. -/
def inTurn {α β ε : Type} (step : α → Told (Except ε β)) : List α → Told (Except ε (List β))
  | [] => .silent (.ok [])
  | a :: rest =>
    let first := step a
    match first.value with
    | .error e => ⟨first.log, .error e⟩
    | .ok b => ((inTurn step rest).map fun bs => bs.map (b :: ·)).after first.log

end Told

end Affordance
