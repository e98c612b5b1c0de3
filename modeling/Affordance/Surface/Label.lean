import Affordance.Text.Entity

/-!
# Labels

  * `labelText`: a text as a label shows it, with references replaced, white space
    collapsed and the markers at its end dropped.  Nothing is left of an empty label.
  * `firstLabel`: the first label that one of some texts gives; `unreadableLabel?`: what is
    wrong with the texts that are read on the way to it.
-/

namespace Affordance

open Affordance.Text

/-- The characters of a label. -/
def labelChars (s : List Char) : List Char :=
  strip (stripEndBy (fun c => c == ':' || c == '*') (strip (collapse false (unescape s))))

/-- A text as a label shows it. -/
def labelText (s : String) : Option String :=
  match labelChars s.toList with
  | [] => none
  | cs => some (String.ofList cs)

theorem labelText_eq (s : String) :
    labelText s =
      if labelChars s.toList = [] then none else some (String.ofList (labelChars s.toList)) := by
  unfold labelText
  generalize labelChars s.toList = cs
  cases cs <;> rfl

theorem labelText_ne_empty {s t : String} (h : labelText s = some t) : t ≠ "" := by
  rw [labelText_eq] at h
  generalize labelChars s.toList = cs at h
  split at h
  · cases h
  · rename_i hne
    cases h
    intro e
    exact hne (by simpa using congrArg String.toList e)

/-- The first label that one of the texts gives. -/
def firstLabel (ts : List String) : Option String := ts.findSome? labelText

/-- The texts that are read on the way to the first label. -/
def readForLabel : List String → List String
  | [] => []
  | t :: ts => if (labelText t).isSome then [t] else t :: readForLabel ts

/-- What is wrong with the texts that are read on the way to the first label. -/
def unreadableLabel? (ts : List String) : Option Number.LongNumber :=
  (readForLabel ts).findSome? fun t => longReference? t.toList

theorem mem_of_mem_readForLabel {t : String} {ts : List String} (h : t ∈ readForLabel ts) :
    t ∈ ts := by
  fun_induction readForLabel ts with
  | case1 => exact h
  | case2 => exact List.mem_cons.2 (Or.inl (List.mem_singleton.1 h))
  | case3 _ _ _ ih =>
    rcases List.mem_cons.1 h with rfl | h
    · exact List.mem_cons_self
    · exact List.mem_cons_of_mem _ (ih h)

/-- Texts without ampersands can be read. -/
theorem unreadableLabel?_eq_none {ts : List String} (h : ∀ t ∈ ts, '&' ∉ t.toList) :
    unreadableLabel? ts = none := by
  rw [unreadableLabel?, List.findSome?_eq_none_iff]
  exact fun t m => longReference?_eq_none (h t (mem_of_mem_readForLabel m))

end Affordance
