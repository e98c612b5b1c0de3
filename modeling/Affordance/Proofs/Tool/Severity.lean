import Affordance.Tool.Risk

/-!
# How severe the rules are

  * `mentions`: some keyword occurs in a text.
  * `risk_cascade`: the level that the rules give is told by three findings, which are asked in
    the order of severity (`Risk.ofFindings`).
  * `severity_ofFindings_le`, **`severity_classify_le`**: with more findings the level is no
    milder, and so with more keywords.
  * `source_classify`: it is navigation that decides exactly if a navigation keyword is
    mentioned.
-/

namespace Affordance

open Affordance.Text

namespace Risk

/-! ## 1. Levels -/

theorem severity_le_excluded (r : Risk) : r.severity ≤ excluded.severity := by
  cases r <;> decide

/-- Nothing but an exclusion is as severe as an exclusion. -/
theorem eq_excluded_of_le {r : Risk} (h : excluded.severity ≤ r.severity) : r = excluded := by
  cases r with
  | excluded => rfl
  | safe | caution | destructive => exact absurd h (by decide)

/-! ## 2. Findings -/

/-- Some keyword occurs in the text. -/
def mentions (text : String) (keywords : List String) : Bool :=
  (firstKeyword text keywords).isSome

theorem mentions_iff {text : String} {keywords : List String} :
    mentions text keywords = true ↔ ∃ k ∈ keywords, k ≠ "" ∧ contains text k = true := by
  simp only [mentions, firstKeyword, List.find?_isSome, Bool.and_eq_true, decide_eq_true_eq]

theorem mentions_mono {text : String} {ks ls : List String} (h : ks ⊆ ls)
    (hks : mentions text ks = true) : mentions text ls = true := by
  obtain ⟨k, hk, hfound⟩ := mentions_iff.mp hks
  exact mentions_iff.mpr ⟨k, h hk, hfound⟩

/-- The level that findings for an exclusion, for destruction and for caution give. -/
def ofFindings (excludes destroys cautions : Bool) : Risk :=
  if excludes then .excluded
  else if destroys then .destructive
  else if cautions then .caution
  else .safe

/-- More findings never make a level milder. -/
theorem severity_ofFindings_le {e d c e' d' c' : Bool} (he : e = true → e' = true)
    (hd : d = true → d' = true) (hc : c = true → c' = true) :
    (ofFindings e d c).severity ≤ (ofFindings e' d' c').severity := by
  revert he hd hc
  revert e d c e' d' c'
  decide

/-! ## 3. The cascade -/

section Cascade

variable (rules : RiskKeywords) (text : String) (methods : List String)

/-- **The level of the rules is told by what they find.** -/
theorem risk_cascade : (cascade rules text methods).risk =
    ofFindings (mentions text rules.navigation || mentions text rules.fileUpload)
      (mentions text rules.destructive || methods.contains "DELETE")
      (mentions text rules.caution || methods.any writingMethods.contains) := by
  unfold cascade mentions
  cases firstKeyword text rules.navigation with
  | some k => rfl
  | none =>
  cases firstKeyword text rules.fileUpload with
  | some k => rfl
  | none =>
  cases firstKeyword text rules.destructive with
  | some k => rfl
  | none =>
  cases methods.contains "DELETE" with
  | true => rfl
  | false =>
  cases firstKeyword text rules.caution with
  | some k => rfl
  | none => cases methods.any writingMethods.contains <;> rfl

/-- Navigation decides exactly if one of its keywords is mentioned. -/
theorem source_cascade :
    (cascade rules text methods).source = .navigation ↔
      mentions text rules.navigation = true := by
  unfold cascade mentions
  cases firstKeyword text rules.navigation with
  | some k => exact iff_of_true rfl rfl
  | none =>
    refine iff_of_false ?_ Bool.false_ne_true
    dsimp only
    split
    · exact RiskSource.noConfusion
    split
    · exact RiskSource.noConfusion
    split
    · exact RiskSource.noConfusion
    split
    · exact RiskSource.noConfusion
    split <;> exact RiskSource.noConfusion

end Cascade

section Classified

variable {rules : RiskKeywords} {trigger : Option Element} {handler : Option Handler}

theorem risk_classify : (classify rules trigger handler).risk =
    (cascade rules (join " " (signals trigger handler)) (methods handler)).risk := rfl

/-- What mentions navigation is excluded. -/
theorem risk_classify_of_navigation
    (h : mentions (join " " (signals trigger handler)) rules.navigation = true) :
    (classify rules trigger handler).risk = .excluded := by
  rw [risk_classify, risk_cascade, h]
  rfl

theorem source_classify : (classify rules trigger handler).source = .navigation ↔
    mentions (join " " (signals trigger handler)) rules.navigation = true :=
  source_cascade ..

end Classified

end Risk

/-! ## 4. More keywords -/

/-- Every keyword of the first rules is one of the second, in the same place. -/
structure RiskKeywords.Within (r s : RiskKeywords) : Prop where
  navigation : r.navigation ⊆ s.navigation
  fileUpload : r.fileUpload ⊆ s.fileUpload
  destructive : r.destructive ⊆ s.destructive
  caution : r.caution ⊆ s.caution

/-- Rules hold on to their keywords when they get more. -/
theorem RiskKeywords.within_extended (r : RiskKeywords)
    (excluded destructive caution : List String) :
    r.Within (r.extended excluded destructive caution) where
  navigation := List.subset_append_left _ _
  fileUpload := List.Subset.refl _
  destructive := List.subset_append_left _ _
  caution := List.subset_append_left _ _

namespace Risk

theorem severity_cascade_le {r s : RiskKeywords} (h : r.Within s) (text : String)
    (methods : List String) :
    (cascade r text methods).risk.severity ≤ (cascade s text methods).risk.severity := by
  rw [risk_cascade, risk_cascade]
  refine severity_ofFindings_le ?_ ?_ ?_ <;> simp only [Bool.or_eq_true]
  · exact Or.imp (mentions_mono h.navigation) (mentions_mono h.fileUpload)
  · exact Or.imp_left (mentions_mono h.destructive)
  · exact Or.imp_left (mentions_mono h.caution)

/-- **More keywords never make a tool milder.** -/
theorem severity_classify_le {r s : RiskKeywords} (h : r.Within s) (trigger : Option Element)
    (handler : Option Handler) :
    (classify r trigger handler).risk.severity ≤ (classify s trigger handler).risk.severity :=
  severity_cascade_le h _ _

end Risk

end Affordance
