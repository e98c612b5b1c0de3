import Affordance.Proofs.Text.Pieces
import Affordance.Proofs.Tool.Severity

/-!
# Evidence about a tool

A tool is judged by what its trigger says, by what its handler says and does, and by the rules.

  * `mentions_front`, `mentions_back`: joined signals mention what some of them mention.
    `mentions_joined`: keywords without blanks are never found across the joint of two signals, so
    signals mention together what they mention apart.
  * **`more_evidence_no_milder`**: a trigger with its handler is never milder than the more severe
    of the two, and just as severe if no keyword holds a blank; and more keywords make nothing
    milder.
-/

namespace Affordance

open Affordance.Text

/-! ## 1. What signals mention -/

namespace Risk

section Mentions

variable {keywords : List String}

/-- A text mentions what a piece of it mentions. -/
theorem mentions_of_piece {s t : String} (h : s.toList <:+: t.toList)
    (hs : mentions s keywords = true) : mentions t keywords = true := by
  obtain ⟨k, hk, hne, hin⟩ := mentions_iff.mp hs
  exact mentions_iff.mpr ⟨k, hk, hne, contains_iff_piece.mpr ((contains_iff_piece.mp hin).trans h)⟩

variable (front back : List String)

/-- Joined signals mention what the first of them mention. -/
theorem mentions_front (h : mentions (join " " front) keywords = true) :
    mentions (join " " (front ++ back)) keywords = true := by
  refine mentions_of_piece ?_ h
  rw [toList_join, toList_join, List.map_append]
  exact (joinChars_prefix_append _ _).isInfix

/-- Joined signals mention what the last of them mention. -/
theorem mentions_back (h : mentions (join " " back) keywords = true) :
    mentions (join " " (front ++ back)) keywords = true := by
  refine mentions_of_piece ?_ h
  rw [toList_join, toList_join, List.map_append]
  exact (joinChars_suffix_append _ _).isInfix

/-- Without blanks in the keywords, joined signals mention what one of them mentions. -/
theorem mentions_join_iff (hplain : ∀ k ∈ keywords, ' ' ∉ k.toList) (xs : List String) :
    mentions (join " " xs) keywords = true ↔ ∃ x ∈ xs, mentions x keywords = true := by
  have hword : ∀ k ∈ keywords, k ≠ "" →
      (contains (join " " xs) k = true ↔ ∃ x ∈ xs, contains x k = true) := by
    intro k hk hne
    have hne' : k.toList ≠ [] := fun e => hne (String.toList_eq_nil_iff.mp e)
    rw [contains_iff_piece, toList_join]
    refine (infix_joinChars_iff (hplain k hk) hne').trans ?_
    simp only [List.mem_map, exists_exists_and_eq_and, contains_iff_piece]
  simp only [mentions_iff]
  constructor
  · rintro ⟨k, hk, hne, hin⟩
    obtain ⟨x, hx, hin⟩ := (hword k hk hne).mp hin
    exact ⟨x, hx, k, hk, hne, hin⟩
  · rintro ⟨x, hx, k, hk, hne, hin⟩
    exact ⟨k, hk, hne, (hword k hk hne).mpr ⟨x, hx, hin⟩⟩

/-- **Without blanks in the keywords, signals mention together what they mention apart.** -/
theorem mentions_joined (hplain : ∀ k ∈ keywords, ' ' ∉ k.toList) :
    mentions (join " " (front ++ back)) keywords =
      (mentions (join " " front) keywords || mentions (join " " back) keywords) := by
  rw [Bool.eq_iff_iff, Bool.or_eq_true, mentions_join_iff hplain, mentions_join_iff hplain,
    mentions_join_iff hplain]
  simp only [List.mem_append, or_and_right, exists_or]

end Mentions

/-! ## 2. Triggers and handlers -/

/-- What is found here or there gives the more severe of the two levels. -/
theorem severity_ofFindings_or (e d c e' d' c' : Bool) :
    (ofFindings (e || e') (d || d') (c || c')).severity =
      max (ofFindings e d c).severity (ofFindings e' d' c').severity := by
  revert e d c e' d' c'
  decide

section Together

variable (rules : RiskKeywords) (trigger : Option Element) (handler : Option Handler)

theorem signals_eq : signals trigger handler = signals trigger none ++ signals none handler := by
  simp [signals]

/-- A handler never makes its trigger milder. -/
theorem severity_trigger_le :
    (classify rules trigger none).risk.severity ≤
      (classify rules trigger handler).risk.severity := by
  rw [risk_classify, risk_classify, risk_cascade, risk_cascade, signals_eq trigger handler]
  refine severity_ofFindings_le ?_ ?_ ?_ <;> simp only [Bool.or_eq_true]
  · exact Or.imp (mentions_front _ _) (mentions_front _ _)
  · exact Or.imp (mentions_front _ _) fun h => nomatch h
  · exact Or.imp (mentions_front _ _) fun h => nomatch h

/-- A trigger never makes its handler milder. -/
theorem severity_handler_le :
    (classify rules none handler).risk.severity ≤
      (classify rules trigger handler).risk.severity := by
  rw [risk_classify, risk_classify, risk_cascade, risk_cascade, signals_eq trigger handler]
  refine severity_ofFindings_le ?_ ?_ ?_ <;> simp only [Bool.or_eq_true]
  · exact Or.imp (mentions_back _ _) (mentions_back _ _)
  · exact Or.imp_left (mentions_back _ _)
  · exact Or.imp_left (mentions_back _ _)

end Together

end Risk

/-! ## 3. Keywords without blanks -/

/-- No keyword holds a blank, the one character that stands between signals. -/
structure RiskKeywords.Unbroken (r : RiskKeywords) : Prop where
  navigation : ∀ k ∈ r.navigation, ' ' ∉ k.toList
  fileUpload : ∀ k ∈ r.fileUpload, ' ' ∉ k.toList
  destructive : ∀ k ∈ r.destructive, ' ' ∉ k.toList
  caution : ∀ k ∈ r.caution, ' ' ∉ k.toList

/-- The rules without any settings have no blanks in their keywords. -/
theorem RiskKeywords.unbroken_standard : standard.Unbroken where
  navigation := by decide
  fileUpload := by decide
  destructive := by decide
  caution := by decide

namespace Risk

/-- **Without blanks in the keywords** a trigger with its handler is as severe as the more severe
    of the two. -/
theorem severity_classify_eq_max {rules : RiskKeywords} (h : rules.Unbroken)
    (trigger : Option Element) (handler : Option Handler) :
    (classify rules trigger handler).risk.severity =
      max (classify rules trigger none).risk.severity
        (classify rules none handler).risk.severity := by
  rw [risk_classify, risk_classify, risk_classify, risk_cascade, risk_cascade, risk_cascade,
    ← severity_ofFindings_or, signals_eq trigger handler, mentions_joined _ _ h.navigation,
    mentions_joined _ _ h.fileUpload, mentions_joined _ _ h.destructive,
    mentions_joined _ _ h.caution]
  have hexclusion : ∀ t t' h h' : Bool, (t || t' || (h || h')) = (t || h || (t' || h')) := by
    decide
  -- A trigger makes no requests, so the requests are the handler's alone.
  have hrequests : ∀ t h m : Bool, (t || h || m) = (t || false || (h || m)) := by decide
  congr 2
  · exact hexclusion _ _ _ _
  · exact hrequests _ _ _
  · exact hrequests _ _ _

/-- **More evidence never makes a tool milder**: neither what a handler adds to its trigger, nor
    what a trigger adds to its handler, nor keywords that are added to the rules. Together the two
    are no more severe than apart, as long as no keyword can be found across their joint. -/
theorem more_evidence_no_milder (rules : RiskKeywords) (trigger : Option Element)
    (handler : Option Handler) (excluded destructive caution : List String) :
    let together := (classify rules trigger handler).risk.severity
    let apart := max (classify rules trigger none).risk.severity
      (classify rules none handler).risk.severity
    apart ≤ together ∧ (rules.Unbroken → together = apart) ∧
      together ≤ (classify (rules.extended excluded destructive caution) trigger
        handler).risk.severity := by
  intro together apart
  have happart : apart ≤ together :=
    max_le (severity_trigger_le rules trigger handler) (severity_handler_le rules trigger handler)
  have hmore : rules.Within (rules.extended excluded destructive caution) :=
    rules.within_extended excluded destructive caution
  exact ⟨happart, fun h => severity_classify_eq_max h trigger handler,
    severity_classify_le hmore trigger handler⟩

/-- A handler that deletes, whatever its name says. -/
def deletingHandler (name : String) : Handler where
  name := name
  event := .click
  requests := [⟨"delete", "/api/items"⟩]

theorem more_evidence_no_milder_saveButton :
    let save : Element := { tag := .button, label := some "Save" }
    let together := (classify .standard (some save) (some (deletingHandler "run"))).risk.severity
    RiskKeywords.standard.Unbroken ∧
    together = max (classify .standard (some save) none).risk.severity
      (classify .standard none (some (deletingHandler "run"))).risk.severity ∧
    (classify .standard (some save) none).risk = .caution ∧ together = destructive.severity ∧
    together ≤ (classify (RiskKeywords.standard.extended ["RUN"] [] []) (some save)
      (some (deletingHandler "run"))).risk.severity := by
  intro save together
  have hplain := RiskKeywords.unbroken_standard
  obtain ⟨-, heq, hmore⟩ := more_evidence_no_milder .standard (some save)
    (some (deletingHandler "run")) ["RUN"] [] []
  exact ⟨hplain, heq hplain, by decide +kernel, by decide +kernel, hmore⟩

/-- A keyword with a blank in it is found across the joint, where neither of the two has it. -/
example :
    let rules : RiskKeywords := ⟨[], [], ["delete all"], []⟩
    let trigger : Element := { tag := .button, label := some "Delete" }
    let handler : Handler := { name := "all", event := .click }
    (classify rules (some trigger) none).risk = .safe ∧
    (classify rules none (some handler)).risk = .safe ∧
    (classify rules (some trigger) (some handler)).risk = .destructive := by decide +kernel

end Risk

end Affordance
