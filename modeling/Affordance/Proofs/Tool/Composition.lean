import Mathlib.Data.List.Forall2
import Affordance.Proofs.Tool.Naming

/-!
# Proposals of components in two parts

  * `proposalsFrom_append`: a run over two lists of candidates is a run over the first and then one
    over the second, which knows the names of the first and counts on.
  * `Proposal.Moved`: a candidate is proposed in two runs.  Only its place and the number at the
    end of its name may differ.
  * `proposalsFrom_moved`: two runs over the same candidates propose the same tools, whatever names
    are taken and wherever they begin to count.
  * **`proposals_compose`**: so the proposals of components in two parts are those of the first
    part, unchanged, and those of the second part, moved behind them.
-/

namespace Affordance

open Affordance.Text

/-! ## 1. Names -/

/-- The name is the wanted one, or that name with a number from two on. -/
def FormOf (wanted name : String) : Prop :=
  name = wanted ∨ ∃ n, 2 ≤ n ∧ name = numbered wanted n

theorem formOf_fresh (wanted : String) (taken : List String) :
    FormOf wanted (fresh wanted taken) := by
  by_cases htaken : wanted ∈ taken
  · exact .inr (fresh_of_mem htaken)
  · exact .inl (fresh_of_not_mem htaken)

/-! ## 2. Runs -/

/-- A run over two lists: the names of the first are taken in the second, and its indices are
    passed over. -/
theorem proposalsFrom_append (assessStability : Bool) (bs : List Assessed) :
    ∀ (as : List Assessed) (taken : List String) (index : Nat),
      proposalsFrom assessStability taken index (as ++ bs) =
        proposalsFrom assessStability taken index as ++
          proposalsFrom assessStability
            (taken ++ (proposalsFrom assessStability taken index as).map (·.name))
            (index + (proposalsFrom assessStability taken index as).length) bs
  | [], taken, index => by
    simp only [List.nil_append, proposalsFrom, List.map_nil, List.append_nil, List.length_nil,
      Nat.add_zero]
  | a :: as, taken, index => by
    rw [List.cons_append, proposalsFrom, proposalsFrom]
    split
    · exact proposalsFrom_append assessStability bs as taken index
    · -- the name of the first proposal moves from what is proposed to what was taken
      have hname : ∀ i name, (a.proposal assessStability i name).name = name := fun _ _ => rfl
      dsimp only
      rw [proposalsFrom_append assessStability bs as, List.cons_append, List.map_cons,
        List.length_cons, List.append_assoc, hname, Nat.add_assoc, Nat.add_comm 1]
      rfl

/-- A candidate is proposed twice, the second time a number of places further on: the proposals
    agree in all but the place and the name, and both names are forms of the candidate's own. -/
structure Proposal.Moved (places : Nat) (p q : Proposal) : Prop where
  index : q.index = p.index + places
  id : q.id = p.id
  description : q.description = p.description
  risk : q.risk = p.risk
  riskReason : q.riskReason = p.riskReason
  isStable : q.isStable = p.isStable
  stabilityReason : q.stabilityReason = p.stabilityReason
  selected : q.selected = p.selected
  schema : q.schema = p.schema
  candidate : q.candidate = p.candidate
  name : FormOf p.candidate.name p.name
  movedName : FormOf p.candidate.name q.name

/-- The step: what is proposed of a candidate does not depend on the names taken but for its
    name. -/
theorem Candidate.proposal_moved (config : Option Config) (assessStability : Bool) (c : Candidate)
    (index places : Nat) (taken taken' : List String) :
    ((c.assess config).proposal assessStability index (fresh c.name taken)).Moved places
      ((c.assess config).proposal assessStability (index + places) (fresh c.name taken')) where
  index := rfl
  id := rfl
  description := rfl
  risk := rfl
  riskReason := rfl
  isStable := rfl
  stabilityReason := rfl
  selected := rfl
  schema := rfl
  candidate := rfl
  name := formOf_fresh c.name taken
  movedName := formOf_fresh c.name taken'

/-- The run: other names taken and another place to begin at move the proposals and change nothing
    else. -/
theorem proposalsFrom_moved (config : Option Config) (assessStability : Bool) (places : Nat) :
    ∀ (cs : List Candidate) (taken taken' : List String) (index : Nat),
      List.Forall₂ (Proposal.Moved places)
        (proposalsFrom assessStability taken index (cs.map (Candidate.assess config)))
        (proposalsFrom assessStability taken' (index + places)
          (cs.map (Candidate.assess config)))
  | [], _, _, _ => .nil
  | c :: cs, taken, taken', index => by
    rw [List.map_cons, proposalsFrom, proposalsFrom]
    split
    · exact proposalsFrom_moved config assessStability places cs taken taken' index
    · refine .cons (c.proposal_moved config assessStability index places taken taken') ?_
      rw [Nat.add_right_comm]
      exact proposalsFrom_moved config assessStability places cs _ _ (index + 1)

/-- Tools that are proposed for the same candidates have no identity for the same first reason. -/
theorem findSome?_idFault?_moved {places : Nat} {ps qs : List Proposal}
    (h : List.Forall₂ (Proposal.Moved places) ps qs) :
    qs.findSome? (·.candidate.idFault?) = ps.findSome? (·.candidate.idFault?) := by
  induction h with
  | nil => rfl
  | cons hpq _ ih => rw [List.findSome?_cons, List.findSome?_cons, hpq.candidate, ih]

/-! ## 3. Components -/

theorem assessedOf_append (config : Option Config) (first second : List Component) :
    assessedOf config (first ++ second) = assessedOf config first ++ assessedOf config second := by
  rw [assessedOf, List.flatMap_append, List.map_append]
  rfl

/-- **Proposals are compositional**: the proposals of components in two parts are those of the first
    part, unchanged, followed by those of the second part, each moved by the number of the first
    ones, under a form of its own name that no proposal of the first part has. The first tool
    without an identity is the first of the first part, or else of the second. -/
theorem proposals_compose (config : Option Config) (assessStability : Bool)
    (first second : List Component) :
    ∃ later,
      propose config assessStability (first ++ second) =
        propose config assessStability first ++ later ∧
      List.Forall₂ (Proposal.Moved (propose config assessStability first).length)
        (propose config assessStability second) later ∧
      (∀ q ∈ later, q.name ∉ (propose config assessStability first).map (·.name)) ∧
      (propose config assessStability (first ++ second)).findSome? (·.candidate.idFault?) =
        ((propose config assessStability first).findSome? (·.candidate.idFault?)).or
          ((propose config assessStability second).findSome? (·.candidate.idFault?)) := by
  have hsplit : propose config assessStability (first ++ second) =
      propose config assessStability first ++
        proposalsFrom assessStability ((propose config assessStability first).map (·.name))
          (1 + (propose config assessStability first).length) (assessedOf config second) := by
    rw [propose, assessedOf_append, proposalsFrom_append, List.nil_append]
    rfl
  have hmoved := proposalsFrom_moved config assessStability
    (propose config assessStability first).length (second.flatMap candidates) []
    ((propose config assessStability first).map (·.name)) 1
  refine ⟨_, hsplit, hmoved, fun q hq => ?_, ?_⟩
  · obtain ⟨before, after, hq⟩ := List.append_of_mem hq
    obtain ⟨a, -, -, rfl⟩ := proposalsFrom_split assessStability _ _ _ before hq
    exact fun hmem => fresh_not_mem a.name _ (List.mem_append_left _ hmem)
  · rw [hsplit, List.findSome?_append]
    exact congrArg _ (findSome?_idFault?_moved hmoved)

/-- A component with a button of each of the labels. -/
def buttonsLabelled (labels : List String) : Component where
  name := "Page"
  kind := .action
  elements := labels.map fun label => { tag := .button, label := some label }

/-- An own name that ends with a number gets another one where a proposal before has that name. -/
example :
    (propose none false [buttonsLabelled ["Save 2"]]).map (·.name) = ["save_2"] ∧
    (propose none false ([buttonsLabelled ["Save", "Save"]] ++ [buttonsLabelled ["Save 2"]])).map
      (·.name) = ["save", "save_2", "save_2_2"] := by
  decide +kernel

end Affordance
