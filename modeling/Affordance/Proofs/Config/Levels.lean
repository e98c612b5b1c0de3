import Mathlib.Data.List.Forall2
import Affordance.Proofs.Tool.Severity
import Affordance.Tool.Proposal

/-!
# What settings do to levels

  * `severity_le_under`: without custom rules, including patterns and allowed navigation, no
    level gets milder under settings.
  * `Proposal.Restricts`, `proposalsFrom_restricts`: the step from levels to proposals.  What
    survives under harder levels is part of what survives under milder ones.
  * **`restrictive_settings_restrict`**: restrictive settings only take tools away and only make
    levels more severe.
  * `risk_lifted`: allowed navigation gives caution to everything that mentions navigation, and
    leaves all else to the other rules.
  * **`lifting_keeps_rest_iff`**: so the other rules still hold exactly for what does not mention
    navigation, or is no worse than caution by them.  `upload_link_is_lifted`: a link that
    uploads a file is not among these.
-/

namespace Affordance

open Affordance.Text

/-! ## 1. Levels under restrictive settings -/

/-- Settings that lift no level: there is no custom rule and no including pattern, and
    navigation stays excluded. -/
structure ToolSettings.Restrictive (t : ToolSettings) : Prop where
  customRules : t.customRules = []
  include_ : t.include_ = []
  navigation : t.navigation = .exclude

namespace Assessment

variable (a : Assessment)

theorem risk_afterDestructive (mode : DestructiveMode) :
    (a.afterDestructive mode).risk =
      if mode = .exclude ∧ a.risk = .destructive then .excluded else a.risk := by
  by_cases h : mode = .exclude ∧ a.risk = .destructive <;> simp [afterDestructive, h]

theorem severity_le_afterDestructive (mode : DestructiveMode) :
    a.risk.severity ≤ (a.afterDestructive mode).risk.severity := by
  rw [risk_afterDestructive]
  split
  · exact a.risk.severity_le_excluded
  · exact Nat.le_refl _

theorem wordRule_nil (name : String) : a.wordRule [] name = none := rfl

/-- No level gets milder where there is nothing that lifts one. -/
theorem severity_le_under {t : ToolSettings} (h : t.Restrictive) (name : String) :
    a.risk.severity ≤ (a.under t name).risk.severity := by
  have hkept : ∀ byRules, ((a.afterInclude [] name byRules).afterNavigation .exclude) = a :=
    fun _ => rfl
  simp only [under, afterRules, h.customRules, wordRule_nil, h.include_, h.navigation, hkept]
  split
  · exact a.risk.severity_le_excluded
  · exact a.severity_le_afterDestructive t.destructive

end Assessment

/-- Candidates are assessed no milder under restrictive settings. -/
theorem Candidate.severity_le_assess {c : Config} (h : c.tools.Restrictive)
    (candidate : Candidate) :
    (candidate.assess none).assessment.risk.severity ≤
      (candidate.assess (some c)).assessment.risk.severity := by
  have hwithin : RiskKeywords.standard.Within c.rules := RiskKeywords.standard.within_extended ..
  exact Nat.le_trans (Risk.severity_classify_le hwithin candidate.trigger candidate.handler)
    (Assessment.severity_le_under _ h candidate.name)

/-! ## 2. Proposals under harder levels -/

/-- The proposal stands for the same candidate as the other one, at a level no milder. -/
structure Proposal.Restricts (p q : Proposal) : Prop where
  candidate : p.candidate = q.candidate
  severity : q.risk.severity ≤ p.risk.severity

/-- The run: candidates that are assessed no milder survive only where they survived before. -/
theorem proposalsFrom_restricts {config config' : Option Config} (assessStability : Bool)
    (hle : ∀ c : Candidate, (c.assess config).assessment.risk.severity ≤
      (c.assess config').assessment.risk.severity) :
    ∀ (cs : List Candidate) (taken taken' : List String) (index index' : Nat),
      List.SublistForall₂ Proposal.Restricts
        (proposalsFrom assessStability taken' index' (cs.map (Candidate.assess config')))
        (proposalsFrom assessStability taken index (cs.map (Candidate.assess config)))
  | [], _, _, _, _ => .nil
  | c :: rest, taken, taken', index, index' => by
    have ih := proposalsFrom_restricts assessStability hle rest
    simp only [List.map_cons, proposalsFrom]
    by_cases hharder : (c.assess config').assessment.risk = .excluded
    · rw [if_pos hharder]
      split
      · exact ih _ _ _ _
      · exact .cons_right (ih _ _ _ _)
    · -- what is no exclusion under the harder level is none under the milder one
      have hmilder : (c.assess config).assessment.risk ≠ .excluded :=
        fun h => hharder (Risk.eq_excluded_of_le (h ▸ hle c))
      rw [if_neg hharder, if_neg hmilder]
      exact .cons ⟨rfl, hle c⟩ (ih _ _ _ _)

/-- **Restrictive settings only restrict**: the tools that are proposed under them stand, in
    order, for candidates that are proposed without settings, each at a level no milder. The
    proposals are those that are given where each has an identity (`propose`). -/
theorem restrictive_settings_restrict {c : Config} (h : c.tools.Restrictive)
    (assessStability : Bool) (components : List Component) :
    List.SublistForall₂ Proposal.Restricts (propose (some c) assessStability components)
      (propose none assessStability components) :=
  proposalsFrom_restricts assessStability (Candidate.severity_le_assess h) _ [] [] 1 1

/-- A component of three buttons. -/
def threeButtons : Component where
  name := "Panel"
  kind := .action
  elements := ["Search", "Help", "Delete"].map fun label => { tag := .button, label := some label }

/-- Settings that leave out help and all that is destructive, and are careful with searches. -/
def carefulSettings : Config where
  tools := {
    exclude := ["help*"]
    destructive := .exclude
    keywords := { caution := ["Search"] } }

theorem restrictive_settings_restrict_threeButtons :
    carefulSettings.tools.Restrictive ∧
    List.SublistForall₂ Proposal.Restricts (propose (some carefulSettings) false [threeButtons])
      (propose none false [threeButtons]) ∧
    (propose (some carefulSettings) false [threeButtons]).map (fun p => (p.name, p.risk)) =
      [("search", .caution)] ∧
    (propose none false [threeButtons]).map (fun p => (p.name, p.risk)) =
      [("search", .safe), ("help", .safe), ("delete", .destructive)] := by
  have h : carefulSettings.tools.Restrictive := ⟨rfl, rfl, rfl⟩
  exact ⟨h, restrictive_settings_restrict h false [threeButtons], by decide +kernel,
    by decide +kernel⟩

/-! ## 3. Allowed navigation -/

/-- The risk rules but for the navigation keywords that are built in. -/
def Config.rulesBeyondNavigation (c : Config) : RiskKeywords :=
  { c.rules with navigation := RiskKeywords.keywords c.tools.keywords.excluded }

/-- The level of a tool by the rules that remain when navigation is no reason to exclude it. -/
def Config.levelBeyondNavigation (c : Config) (trigger : Option Element)
    (handler : Option Handler) : Assessment :=
  (Risk.classify c.rulesBeyondNavigation trigger handler).afterDestructive c.tools.destructive

/-- A navigation keyword, built in or added, occurs in what the trigger and the handler say. -/
def Config.mentionsNavigation (c : Config) (trigger : Option Element) (handler : Option Handler) :
    Bool :=
  Risk.mentions (join " " (Risk.signals trigger handler)) c.rules.navigation

namespace Assessment

theorem risk_afterNavigation {a : Assessment} (hrisk : a.risk = .excluded)
    (hsource : a.source = .navigation) : (a.afterNavigation .include_).risk = .caution := by
  simp [afterNavigation, hrisk, hsource]

theorem afterNavigation_of_source {a : Assessment} {mode : NavigationMode}
    (hsource : a.source ≠ .navigation) : a.afterNavigation mode = a := by
  simp [afterNavigation, hsource]

theorem override_some (c : Config) (name : String) (a : Assessment) :
    a.override (some c) name = a.under c.tools name := rfl

end Assessment

/-- No custom rule and no pattern of the settings applies to a tool of the name. -/
structure ToolSettings.Silent (t : ToolSettings) (name : String) (a : Assessment) : Prop where
  customRules : a.wordRule t.customRules name = none
  include_ : patternHit name t.include_ = none
  exclude : patternHit name t.exclude = none

/-- Where no rule and no pattern applies, the two modes do. -/
theorem ToolSettings.Silent.under {t : ToolSettings} {name : String} {a : Assessment}
    (h : t.Silent name a) :
    a.under t name = (a.afterNavigation t.navigation).afterDestructive t.destructive := by
  simp only [Assessment.under, Assessment.afterRules, Assessment.afterInclude, h.customRules,
    h.include_, h.exclude]

theorem rulesOf_some (c : Config) : rulesOf (some c) = c.rules := rfl

/-- Without a navigation keyword in it, a tool has its level by the other rules. -/
theorem Config.risk_beyondNavigation (c : Config) {trigger : Option Element}
    {handler : Option Handler} (h : ¬c.mentionsNavigation trigger handler = true) :
    (Risk.classify c.rules trigger handler).risk =
      (Risk.classify c.rulesBeyondNavigation trigger handler).risk := by
  have hall := Bool.eq_false_iff.mpr h
  have hadded : Risk.mentions (join " " (Risk.signals trigger handler))
      c.rulesBeyondNavigation.navigation = false :=
    Bool.eq_false_iff.mpr fun hfound =>
      h (Risk.mentions_mono (List.subset_append_right _ _) hfound)
  unfold mentionsNavigation at hall
  rw [Risk.risk_classify, Risk.risk_classify, Risk.risk_cascade, Risk.risk_cascade, hall, hadded]
  rfl

/-- **Allowed navigation gives caution to all that mentions it**, and leaves everything else to
    the other rules. -/
theorem risk_lifted {c : Config} {trigger : Option Element} {handler : Option Handler}
    {name : String} (hmode : c.tools.navigation = .include_)
    (hsilent : c.tools.Silent name (Risk.classify (rulesOf (some c)) trigger handler)) :
    ((Risk.classify (rulesOf (some c)) trigger handler).override (some c) name).risk =
      if c.mentionsNavigation trigger handler then .caution
      else (c.levelBeyondNavigation trigger handler).risk := by
  rw [Assessment.override_some, hsilent.under, hmode, rulesOf_some]
  by_cases hmentions : c.mentionsNavigation trigger handler = true
  · rw [if_pos hmentions, Assessment.risk_afterDestructive,
      Assessment.risk_afterNavigation (Risk.risk_classify_of_navigation hmentions)
        (Risk.source_classify.mpr hmentions)]
    exact if_neg fun h => absurd h.2 (by decide)
  · rw [if_neg hmentions,
      Assessment.afterNavigation_of_source fun h => hmentions (Risk.source_classify.mp h),
      Config.levelBeyondNavigation, Assessment.risk_afterDestructive,
      Assessment.risk_afterDestructive, c.risk_beyondNavigation hmentions]

/-- **What allowed navigation lifts**: where navigation is allowed and no custom rule and no
    pattern applies, a tool is at least as severe as the other rules make it exactly if it
    mentions no navigation or is no worse than caution by the other rules. -/
theorem lifting_keeps_rest_iff {c : Config} {trigger : Option Element} {handler : Option Handler}
    {name : String} (hmode : c.tools.navigation = .include_)
    (hsilent : c.tools.Silent name (Risk.classify (rulesOf (some c)) trigger handler)) :
    (c.levelBeyondNavigation trigger handler).risk.severity ≤
        ((Risk.classify (rulesOf (some c)) trigger handler).override (some c)
          name).risk.severity ↔
      c.mentionsNavigation trigger handler = false ∨
        (c.levelBeyondNavigation trigger handler).risk.severity ≤ Risk.caution.severity := by
  rw [risk_lifted hmode hsilent]
  cases c.mentionsNavigation trigger handler with
  | true => exact ⟨Or.inr, fun h => h.resolve_left Bool.noConfusion⟩
  | false => exact iff_of_true (Nat.le_refl _) (.inl rfl)

/-- Settings that allow navigation. -/
def navigationAllowed : Config where
  tools := { navigation := .include_ }

/-- A button that says what it is for. -/
def labelled (label : String) (id : Option String) : Element :=
  { tag := .button, id, label := some label }

/-- **The other rules do not hold for all that allowed navigation lifts**: a button that uploads
    a file is excluded, unless it says that it is a link. A link that does nothing else is lifted
    to caution, which is more than the other rules ask for. -/
theorem upload_link_is_lifted :
    let level (e : Element) := (navigationAllowed.levelBeyondNavigation (some e) none).risk
    let lifted (e : Element) (name : String) :=
      ((Risk.classify (rulesOf (some navigationAllowed)) (some e) none).override
        (some navigationAllowed) name).risk
    let upload := labelled "Upload link" (some "upload-file")
    let docs := labelled "Docs link" none
    (level upload = .excluded ∧ lifted upload "upload_link" = .caution ∧
      ¬(level upload).severity ≤ (lifted upload "upload_link").severity) ∧
    (level docs = .safe ∧ (level docs).severity ≤ (lifted docs "docs_link").severity) := by
  intro level lifted upload docs
  have hsilent : ∀ name a, navigationAllowed.tools.Silent name a := fun _ _ => ⟨rfl, rfl, rfl⟩
  have hlevel : (navigationAllowed.levelBeyondNavigation (some upload) none).risk = .excluded := by
    decide +kernel
  have hsafe : (navigationAllowed.levelBeyondNavigation (some docs) none).risk = .safe := by
    decide +kernel
  refine ⟨⟨hlevel, by decide +kernel, fun h => ?_⟩, hsafe, ?_⟩
  · rcases (lifting_keeps_rest_iff rfl (hsilent _ _)).mp h with hunsaid | hmild
    · exact absurd hunsaid (by decide +kernel)
    · rw [hlevel] at hmild
      exact absurd hmild (by decide)
  · refine (lifting_keeps_rest_iff rfl (hsilent _ _)).mpr (.inr ?_)
    rw [hsafe]
    decide

end Affordance
