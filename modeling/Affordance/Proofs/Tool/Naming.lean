import Affordance.Proofs.Text.Fresh
import Affordance.Tool.Proposal

/-!
# Names of proposed tools

  * `proposalsFrom_split`: the invariant of a run over assessed candidates.  Each proposal is
    made of a candidate that is not excluded; its index counts the proposals before it, and
    their names are the ones that were taken.
  * `globMatches_ownName`: the name of such a candidate is matched by no excluding pattern.
  * **`excluded_names_absent_iff`**: so no proposed name is matched, unless it is a number that
    makes it match.  `numbered_name_escapes`: such a name is not excluded.
-/

namespace Affordance

open Affordance.Text

/-! ## 1. Runs -/

/-- The invariant of a run: what a proposal is made of, given the proposals before it. -/
theorem proposalsFrom_split (assessStability : Bool) {p : Proposal} {after : List Proposal} :
    ∀ (as : List Assessed) (taken : List String) (index : Nat) (before : List Proposal),
      proposalsFrom assessStability taken index as = before ++ p :: after →
      ∃ a ∈ as, a.assessment.risk ≠ .excluded ∧
        p = a.proposal assessStability (index + before.length)
          (fresh a.name (taken ++ before.map (·.name)))
  | [], _, _, before, h => by cases before <;> cases h
  | a :: rest, taken, index, before, h => by
    rw [proposalsFrom] at h
    split at h
    · obtain ⟨b, hb, hmade⟩ := proposalsFrom_split assessStability rest taken index before h
      exact ⟨b, List.mem_cons_of_mem a hb, hmade⟩
    · rename_i hkept
      cases before with
      | nil =>
        obtain ⟨rfl, -⟩ := List.cons.inj h
        exact ⟨a, List.mem_cons_self, hkept, by simp⟩
      | cons q before =>
        obtain ⟨rfl, htail⟩ := List.cons.inj h
        obtain ⟨b, hb, hrisk, rfl⟩ :=
          proposalsFrom_split assessStability rest _ _ before htail
        refine ⟨b, List.mem_cons_of_mem a hb, hrisk, ?_⟩
        rw [List.length_cons, List.map_cons, List.append_assoc, Nat.add_assoc,
          Nat.add_comm 1 before.length]
        rfl

section Proposed

variable {config : Option Config} {assessStability : Bool} {components : List Component}
  {before after : List Proposal} {p : Proposal}

/-- What a proposed tool is made of. -/
theorem propose_split
    (h : propose config assessStability components = before ++ p :: after) :
    (p.candidate.assess config).assessment.risk ≠ .excluded ∧ p.index = before.length + 1 ∧
      p.name = fresh p.candidate.name (before.map (·.name)) := by
  obtain ⟨a, ha, hrisk, rfl⟩ := proposalsFrom_split assessStability _ [] 1 before h
  obtain ⟨c, -, rfl⟩ := List.mem_map.mp ha
  exact ⟨hrisk, Nat.add_comm 1 before.length, rfl⟩

/-- The tool keeps its own name, or a tool before it has that name. -/
theorem name_of_propose_split
    (h : propose config assessStability components = before ++ p :: after) :
    p.name = p.candidate.name ∨
      ∃ q ∈ propose config assessStability components, q.index < p.index ∧
        q.name = p.candidate.name ∧ ∃ n, 2 ≤ n ∧ p.name = numbered p.candidate.name n := by
  obtain ⟨-, hindex, hname⟩ := propose_split h
  by_cases htaken : p.candidate.name ∈ before.map (·.name)
  · right
    obtain ⟨q, hq, hsame⟩ := List.mem_map.mp htaken
    obtain ⟨first, second, rfl⟩ := List.append_of_mem hq
    have hqindex : q.index = first.length + 1 := by
      rw [List.append_assoc, List.cons_append] at h
      exact (propose_split h).2.1
    refine ⟨q, h ▸ List.mem_append_left _ hq, ?_, hsame, hname ▸ fresh_of_mem htaken⟩
    rw [hindex, hqindex, List.length_append, List.length_cons]
    omega
  · left
    rw [hname, fresh_of_not_mem htaken]

end Proposed

/-! ## 2. Excluded names -/

theorem globMatches_empty {text : String} (h : text ≠ "") : globMatches "" text = false := by
  have hchars : text.toList ≠ [] := fun hnil => h (String.toList_inj.mp hnil)
  show text.toList.isEmpty = false
  exact List.isEmpty_eq_false_iff.mpr hchars

/-- No pattern hits a name exactly if none matches it. -/
theorem patternHit_eq_none {name : String} (h : name ≠ "") {patterns : List String} :
    patternHit name patterns = none ↔ ∀ p ∈ patterns, globMatches p name = false := by
  have hfound : patternHit name patterns = patterns.find? fun p => globMatches p name := by
    unfold patternHit nonEmpty
    cases hp : patterns.find? fun p => globMatches p name with
    | none => rfl
    | some p =>
      -- the empty pattern matches the empty name alone
      have hne : p ≠ "" := by
        rintro rfl
        exact absurd (List.find?_some hp) (by simp [globMatches_empty h])
      exact nonEmpty_eq_some.mpr ⟨rfl, hne⟩
  rw [hfound, List.find?_eq_none]
  simp only [Bool.not_eq_true]

theorem firstText_ne_empty {xs : List (Option String)} {s : String} (h : firstText xs = some s) :
    s ≠ "" := by
  obtain ⟨x, -, hx⟩ := List.exists_of_findSome?_eq_some h
  exact (nonEmpty_eq_some.mp hx).2

/-- Every tool has a name. -/
theorem Candidate.name_ne_empty (c : Candidate) : c.name ≠ "" := by
  unfold Candidate.name
  cases c.kind with
  | form =>
    dsimp only
    split <;> simp
  | action =>
    dsimp only
    cases hfirst : firstText ([c.label, c.trigger.bind (·.id), c.verb].map (Option.map snake)) with
    | some s => exact firstText_ne_empty hfirst
    | none => simp

/-- **No excluding pattern matches the own name of a tool that is not excluded.** -/
theorem globMatches_ownName {c : Config} {candidate : Candidate}
    (h : (candidate.assess (some c)).assessment.risk ≠ .excluded) :
    ∀ g ∈ c.tools.exclude, globMatches g candidate.name = false := by
  refine (patternHit_eq_none candidate.name_ne_empty).mp ?_
  cases hhit : patternHit candidate.name c.tools.exclude with
  | none => rfl
  | some g =>
    refine absurd ?_ h
    show (Assessment.under c.tools candidate.name _).risk = _
    simp only [Assessment.under, hhit]

/-- **Which excluded names appear**: the own names of proposed tools are matched by no excluding
    pattern. So no proposed name is matched at all exactly if no number makes it match, where a
    tool before it has its own name already. The proposals are those that are given where each
    has an identity (`propose`). -/
theorem excluded_names_absent_iff (c : Config) (assessStability : Bool)
    (components : List Component) :
    (∀ p ∈ propose (some c) assessStability components, ∀ g ∈ c.tools.exclude,
      globMatches g p.candidate.name = false) ∧
    ((∀ p ∈ propose (some c) assessStability components, ∀ g ∈ c.tools.exclude,
        globMatches g p.name = false) ↔
      ∀ p ∈ propose (some c) assessStability components,
        ∀ q ∈ propose (some c) assessStability components,
          q.index < p.index → q.name = p.candidate.name →
          ∀ n, 2 ≤ n → p.name = numbered p.candidate.name n →
          ∀ g ∈ c.tools.exclude, globMatches g (numbered p.candidate.name n) = false) := by
  have hown : ∀ p ∈ propose (some c) assessStability components, ∀ g ∈ c.tools.exclude,
      globMatches g p.candidate.name = false := by
    intro p hp
    obtain ⟨before, after, hsplit⟩ := List.append_of_mem hp
    exact globMatches_ownName (propose_split hsplit).1
  refine ⟨hown, fun h p hp _ _ _ _ n _ hname g hg => ?_, fun h p hp g hg => ?_⟩
  · rw [← hname]
    exact h p hp g hg
  · obtain ⟨before, after, hsplit⟩ := List.append_of_mem hp
    rcases name_of_propose_split hsplit with hname | ⟨q, hq, hindex, hsame, n, hn, hname⟩
    · rw [hname]
      exact hown p hp g hg
    · rw [hname]
      exact h p hp q hq hindex hsame n hn hname g hg

/-- A component of two buttons of one label. -/
def twoSaves : Component where
  name := "Page"
  kind := .action
  elements := [{ tag := .button, label := some "Save" }, { tag := .button, label := some "Save" }]

/-- Settings that leave out the second of two tools to save with. -/
def secondSaveExcluded : Config where
  tools := { exclude := ["save_2"] }

/-- **A name that a number makes match is proposed all the same**: two buttons to save with are
    proposed as `save` and `save_2`, and a pattern excludes the second of these names. -/
theorem numbered_name_escapes :
    (propose (some secondSaveExcluded) false [twoSaves]).map (·.name) = ["save", "save_2"] ∧
    ¬(∀ p ∈ propose (some secondSaveExcluded) false [twoSaves],
      ∀ g ∈ secondSaveExcluded.tools.exclude, globMatches g p.name = false) ∧
    ¬(∀ p ∈ propose (some secondSaveExcluded) false [twoSaves],
      ∀ q ∈ propose (some secondSaveExcluded) false [twoSaves],
        q.index < p.index → q.name = p.candidate.name →
        ∀ n, 2 ≤ n → p.name = numbered p.candidate.name n →
        ∀ g ∈ secondSaveExcluded.tools.exclude,
          globMatches g (numbered p.candidate.name n) = false) := by
  have hnames : (propose (some secondSaveExcluded) false [twoSaves]).map (·.name) =
      ["save", "save_2"] := by
    decide +kernel
  have hescapes : ¬∀ p ∈ propose (some secondSaveExcluded) false [twoSaves],
      ∀ g ∈ secondSaveExcluded.tools.exclude, globMatches g p.name = false := by
    intro h
    have hmem : "save_2" ∈
        (propose (some secondSaveExcluded) false [twoSaves]).map (·.name) := by
      rw [hnames]
      decide
    obtain ⟨p, hp, hname⟩ := List.mem_map.mp hmem
    have habsent := h p hp "save_2" (List.mem_singleton.mpr rfl)
    rw [hname] at habsent
    exact absurd habsent (by decide +kernel)
  exact ⟨hnames, hescapes,
    fun h => hescapes ((excluded_names_absent_iff secondSaveExcluded false [twoSaves]).2.mpr h)⟩

end Affordance
