import Affordance.Proofs.Text.SnakeCase
import Affordance.Proofs.Tool.Naming

/-!
# The list of proposals

  * `snakeName_ownName`: whatever labels, identifiers and handlers are called, a candidate's own
    name is in snake case.
  * `proposalsFrom_kept`: a run over assessed candidates keeps those that are not excluded, in
    their order; `proposalsFrom_indices` and `proposalsFrom_names`: its indices count on from the
    first one, and its names are new and all different.
  * **`proposals_well_formed`**: so the proposals of any components under any settings are the
    candidates that are not excluded, counted from one, under different names in snake case, each
    the first free form of the candidate's own name.
-/

namespace Affordance

open Affordance.Text

/-! ## 1. Own names -/

namespace Candidate

theorem snakeName_slug (c : Candidate) : SnakeName c.slug.toList := by
  unfold slug
  dsimp only
  by_cases hnone : snake c.componentName = ""
  · rw [if_pos hnone]
    exact .word (by decide)
  · rw [if_neg hnone]
    exact snakeName_snake hnone

/-- The component's part after a name. -/
theorem snakeName_withSlug {verb : String} (h : SnakeName verb.toList) (c : Candidate) :
    SnakeName (verb ++ "_" ++ c.slug).toList := by
  rw [String.toList_append, String.toList_append, List.append_assoc]
  exact h.append c.snakeName_slug

/-- **The own name of a candidate is in snake case.** -/
theorem snakeName_ownName (c : Candidate) : SnakeName c.name.toList := by
  unfold name
  cases c.kind with
  | form =>
    dsimp only
    split
    · have hsubmit : SnakeName "submit".toList := .word (by decide)
      exact snakeName_withSlug hsubmit c
    · rename_i hverb
      exact snakeName_withSlug (snakeName_snake hverb) c
  | action =>
    dsimp only
    cases hfirst : firstText ([c.label, c.trigger.bind (·.id), c.verb].map (Option.map snake)) with
    | none =>
      have haction : SnakeName "action".toList := .word (by decide)
      have hin : SnakeName "action_in".toList := haction.append (.word (by decide))
      exact snakeName_withSlug hin c
    | some s =>
      obtain ⟨x, hx, hsome⟩ := List.exists_of_findSome?_eq_some hfirst
      obtain ⟨rfl, hne⟩ := nonEmpty_eq_some.mp hsome
      obtain ⟨raw, -, hraw⟩ := List.mem_map.mp hx
      cases raw with
      | none => cases hraw
      | some t =>
        obtain rfl : snake t = s := Option.some.inj hraw
        exact snakeName_snake hne

end Candidate

/-! ## 2. Runs -/

/-- A run keeps the candidates that are not excluded, in their order. -/
theorem proposalsFrom_kept (assessStability : Bool) :
    ∀ (as : List Assessed) (taken : List String) (index : Nat),
      (proposalsFrom assessStability taken index as).map (·.candidate) =
        (as.filter fun a => a.assessment.risk ≠ .excluded).map (·.candidate)
  | [], _, _ => rfl
  | a :: rest, taken, index => by
    rw [proposalsFrom]
    by_cases hrisk : a.assessment.risk = .excluded
    · rw [if_pos hrisk, List.filter_cons_of_neg (by simp [hrisk])]
      exact proposalsFrom_kept assessStability rest taken index
    · rw [if_neg hrisk, List.filter_cons_of_pos (by simp [hrisk]), List.map_cons, List.map_cons,
        proposalsFrom_kept assessStability rest]
      rfl

/-- The indices count on from the first one. -/
theorem proposalsFrom_indices (assessStability : Bool) :
    ∀ (as : List Assessed) (taken : List String) (index : Nat),
      (proposalsFrom assessStability taken index as).map (·.index) =
        List.range' index (proposalsFrom assessStability taken index as).length
  | [], _, _ => rfl
  | a :: rest, taken, index => by
    rw [proposalsFrom]
    split
    · exact proposalsFrom_indices assessStability rest taken index
    · rw [List.map_cons, proposalsFrom_indices assessStability rest, List.length_cons,
        List.range'_succ]
      rfl

/-- The names are all different, and none of them was taken. -/
theorem proposalsFrom_names (assessStability : Bool) :
    ∀ (as : List Assessed) (taken : List String) (index : Nat),
      ((proposalsFrom assessStability taken index as).map (·.name)).Nodup ∧
        ∀ p ∈ proposalsFrom assessStability taken index as, p.name ∉ taken
  | [], _, _ => ⟨List.nodup_nil, fun p hp => absurd hp List.not_mem_nil⟩
  | a :: rest, taken, index => by
    rw [proposalsFrom]
    split
    · exact proposalsFrom_names assessStability rest taken index
    · obtain ⟨hnodup, hnew⟩ := proposalsFrom_names assessStability rest
        (taken ++ [fresh a.name taken]) (index + 1)
      constructor
      · refine List.nodup_cons.mpr ⟨fun hmem => ?_, hnodup⟩
        obtain ⟨q, hq, hsame⟩ := List.mem_map.mp hmem
        refine hnew q hq (List.mem_append_right taken ?_)
        rw [hsame]
        exact List.mem_singleton_self _
      · intro p hp
        rcases List.mem_cons.mp hp with rfl | hp
        · exact fresh_not_mem a.name taken
        · exact fun hmem => hnew p hp (List.mem_append_left _ hmem)

/-! ## 3. Proposals -/

/-- **The proposals of components**: the candidates that are not excluded, in their order, counted
    from one, under different names in snake case. Each name is the first free one: the
    candidate's own name, or that name with the least number from two on that no proposal before
    it has. The list is the one that is given where each proposal has an identity (`propose`). -/
theorem proposals_well_formed (config : Option Config) (assessStability : Bool)
    (components : List Component) :
    let proposals := propose config assessStability components
    let kept (c : Candidate) : Bool := (c.assess config).assessment.risk ≠ .excluded
    proposals.map (·.candidate) = (components.flatMap candidates).filter kept ∧
    (proposals.map (·.candidate)).Sublist (components.flatMap candidates) ∧
    (∀ p ∈ proposals, p.risk ≠ .excluded) ∧
    proposals.map (·.index) = List.range' 1 proposals.length ∧
    (proposals.map (·.name)).Nodup ∧
    (∀ p ∈ proposals, SnakeName p.name.toList) ∧
    ∀ before p after, proposals = before ++ p :: after →
      FirstFree p.candidate.name (before.map (·.name)) p.name := by
  intro proposals kept
  have hkept : proposals.map (·.candidate) = (components.flatMap candidates).filter kept := by
    have hrun := proposalsFrom_kept assessStability (assessedOf config components) [] 1
    rw [assessedOf, List.filter_map, List.map_map] at hrun
    exact hrun.trans (List.map_id _)
  have hfirst : ∀ before p after, proposals = before ++ p :: after →
      FirstFree p.candidate.name (before.map (·.name)) p.name := by
    intro before p after hsplit
    rw [(propose_split hsplit).2.2]
    exact fresh_firstFree _ _
  have hrisk : ∀ p ∈ proposals, p.risk ≠ .excluded := by
    intro p hp
    obtain ⟨before, after, hsplit⟩ := List.append_of_mem hp
    obtain ⟨a, -, hkeeps, rfl⟩ := proposalsFrom_split assessStability _ [] 1 before hsplit
    exact hkeeps
  have hsnake : ∀ p ∈ proposals, SnakeName p.name.toList := by
    intro p hp
    obtain ⟨before, after, hsplit⟩ := List.append_of_mem hp
    rw [(propose_split hsplit).2.2]
    exact snakeName_fresh p.candidate.snakeName_ownName _
  refine ⟨hkept, ?_, hrisk, proposalsFrom_indices assessStability _ [] 1,
    (proposalsFrom_names assessStability _ [] 1).1, hsnake, hfirst⟩
  rw [hkept]
  exact List.filter_sublist

theorem proposals_well_formed_twoSaves :
    (propose none false [twoSaves]).map (·.name) = ["save", "save_2"] ∧
    ((propose none false [twoSaves]).map (·.name)).Nodup ∧
    (∀ p ∈ propose none false [twoSaves], SnakeName p.name.toList) ∧
    (propose none false [twoSaves]).map (·.index) = [1, 2] := by
  have hnames : (propose none false [twoSaves]).map (·.name) = ["save", "save_2"] := by
    decide +kernel
  have hlength : (propose none false [twoSaves]).length = 2 := by
    rw [← List.length_map (f := (·.name)), hnames]
    rfl
  obtain ⟨-, -, -, hindices, hnodup, hsnake, -⟩ := proposals_well_formed none false [twoSaves]
  rw [hlength] at hindices
  exact ⟨hnames, hnodup, hsnake, hindices⟩

end Affordance
