import Affordance.Number.Whole

/-!
# Tag events

  * A source of any dialect is read as a sequence of tag events.  The readers of
    sources produce them, the collector consumes them.
  * `TagEvent.unreadable` stands where the source cannot be read; nothing after it counts.
-/

namespace Affordance

/-- One step of reading a source. -/
inductive TagEvent where
  /-- A tag opens with its attributes.  `dynamic` names the attributes that hold an
      expression and no text; `field` is the form field that a library registers. -/
  | open_ (tag : String) (attributes : List (String × String)) (selfClosing : Bool)
      (dynamic : List String) (field : Option String)
  /-- Text stands between tags. -/
  | text (s : String)
  /-- A tag closes. -/
  | close (tag : String)
  /-- A text has a reference by a number with too many digits. -/
  | unreadable (n : Number.LongNumber)
  deriving Repr, DecidableEq

end Affordance
