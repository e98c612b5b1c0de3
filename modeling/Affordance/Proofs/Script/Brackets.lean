import Affordance.Proofs.Script.Scanning
import Affordance.Proofs.Succeeds
import Affordance.Proofs.Text.Matches
import Affordance.Surface.Assembly

/-!
# Brackets that are looked for

A reader that looks for the partner of a bracket fails where there is no opening bracket.

  * `skip_stop`: a walk ends at a character that it looks for, or at a closing bracket.
  * `succeeds_partner_iff`: a look-up succeeds iff it begins at an opening bracket.
  * `partner_of_last`, `partner_of_next`: so it does where a pattern ends with such a bracket, or
    looks ahead for one.
  * `succeeds_functionAt`, `succeeds_methodAt`, `succeeds_definitionOf`: functions are read
    without a fault, wherever they are looked for.
  * **`succeeds_assemble`**: a component is assembled without a fault, whatever its events hold;
    over the bindings, one step each (`succeeds_step`).
-/

namespace Affordance.Script

open Affordance.Text
open Affordance.Text.Pattern

variable {src : Source} {i j : Nat} {c : Char}

/-! ## 1. Where a walk ends -/

theorem of_move_stop {closers : List Char} {depth : Nat}
    (h : move src closers depth i c = .stop) : c ∈ closers ∨ isCloser c = true := by
  unfold move at h
  split at h
  · rename_i hcloser
    exact .inl (List.contains_iff_mem.mp hcloser.2)
  · refine .inr ?_
    -- A slash is passed in one way or another.
    have hslash : slashMove src i ≠ .stop := by
      unfold slashMove
      repeat' split
      all_goals exact Move.noConfusion
    grind

theorem skipFrom_stop {closers : List Char} : ∀ {fuel depth i : Nat},
    src[skipFrom src closers fuel depth i]? = some c → c ∈ closers ∨ isCloser c = true
  | 0, _, _, h => by simp [skipFrom] at h
  | fuel + 1, depth, i, h => by
    unfold skipFrom at h
    cases hc : src[i]? with
    | none =>
      rw [hc] at h
      simp at h
    | some d =>
      rw [hc] at h
      dsimp only at h
      cases hm : move src closers depth i d <;> rw [hm] at h
      case stop =>
        cases hc.symm.trans h
        exact of_move_stop hm
      all_goals exact skipFrom_stop h

/-- **A walk ends at a character that it looks for, or at a closing bracket.** -/
theorem skip_stop {closers : List Char} (h : src[skip src closers i]? = some c) :
    c ∈ closers ∨ isCloser c = true :=
  skipFrom_stop h

/-! ## 2. Partners -/

theorem isSome_closerOf (c : Char) : (closerOf c).isSome = isOpener c := by
  unfold closerOf isOpener
  grind

/-- A look-up of a partner succeeds iff it begins with an opening bracket. -/
theorem succeeds_partnerFrom_iff {opener : Option Char} :
    Succeeds (partnerFrom src opener i) ↔ ∃ c, opener = some c ∧ isOpener c = true := by
  unfold partnerFrom
  cases opener with
  | none => simp
  | some c =>
    simp only [Option.some.injEq, exists_eq_left', ← isSome_closerOf]
    cases closerOf c <;> simp

theorem succeeds_partner_iff :
    Succeeds (partner src i) ↔ ∃ c, src[i]? = some c ∧ isOpener c = true :=
  succeeds_partnerFrom_iff

theorem succeeds_partner (h : src[i]? = some c) (hc : isOpener c = true) :
    Succeeds (partner src i) :=
  succeeds_partner_iff.mpr ⟨c, h, hc⟩

/-- What is looked for at a character that opens no bracket. -/
theorem partnerFrom_some_eq_error {f : BracketFault}
    (h : partnerFrom src (some c) i = .error f) : f = .noBracket c := by
  unfold partnerFrom at h
  dsimp only at h
  cases hc : closerOf c with
  | none =>
    rw [hc] at h
    cases h
    rfl
  | some d =>
    rw [hc] at h
    cases h

/-! ## 3. Places that patterns lead to -/

variable {p : Pattern} {m : Match}

/-- The bracket that a match ends with. -/
theorem partner_of_last {o : Char} (ho : isOpener o = true) {i : Nat}
    (h : (p ++ char o).matchAt src i = some m) : Succeeds (partner src (m.stop - 1)) := by
  obtain ⟨c, -, hc, htest⟩ := matchAt_last h
  cases beq_iff_eq.mp htest
  exact succeeds_partner hc ho

/-- The bracket that a match ends before. -/
theorem partner_of_next {o : Char} (ho : isOpener o = true) {i : Nat}
    (h : (p ++ ahead (char o)).matchAt src i = some m) : Succeeds (partner src m.stop) := by
  obtain ⟨c, hc, htest⟩ := matchAt_next h
  cases beq_iff_eq.mp htest
  exact succeeds_partner hc ho

/-! ## 4. Functions -/

theorem succeeds_passParameters (src : Source) (j : Nat) (needsParens : Bool) :
    Succeeds (passParameters src j needsParens) := by
  unfold passParameters
  split
  · rename_i hopen
    exact (succeeds_partner (beq_iff_eq.mp hopen) rfl).bind fun _ _ => succeeds_pure _
  · split
    · exact succeeds_ok _
    · split <;> exact succeeds_ok _

theorem succeeds_functionAt (src : Source) (i : Nat) (allowMethod : Bool) :
    Succeeds (functionAt src i allowMethod) := by
  unfold functionAt
  split
  · exact succeeds_pure _
  · refine (succeeds_passParameters _ _ _).bind fun j _ => ?_
    split
    · exact succeeds_pure _
    · dsimp only
      -- Wherever the body begins, its bracket is looked at first.
      generalize afterParameters src _ = k
      generalize (if src.at_ k ['=', '>'] = true then _ else k) = body
      split
      · exact succeeds_pure _
      · split
        · rename_i hopen
          exact (succeeds_partner (beq_iff_eq.mp hopen) rfl).bind fun _ _ => succeeds_pure _
        · split <;> exact succeeds_pure _

theorem succeeds_methodAt (src : Source) (i : Nat) : Succeeds (methodAt src i) := by
  unfold methodAt
  dsimp only
  generalize (if src[src.passSpace i]? == some '<' then _ else _ : Nat) = j
  split
  · rename_i hopen
    refine (succeeds_partner (beq_iff_eq.mp hopen) rfl).bind fun close _ => ?_
    generalize (if src[src.passSpace (close + 1)]? == some ':' then _ else _ : Nat) = body
    split
    · rename_i hblock
      exact (succeeds_partner (beq_iff_eq.mp hblock) rfl).bind fun _ _ => succeeds_pure _
    · exact succeeds_pure _
  · exact succeeds_pure _

theorem succeeds_definitionAmong (src : Source) (name : String) (isMethod : Bool) :
    ∀ ms : List Match, Succeeds (definitionAmong src name isMethod ms)
  | [] => succeeds_ok _
  | m :: rest => by
    have hrest := succeeds_definitionAmong src name isMethod rest
    unfold definitionAmong
    -- Methods are read apart from other functions; what was read is treated alike.
    cases isMethod
    case' true => refine (succeeds_methodAt _ _).bind fun f _ => ?_
    case' false => refine (succeeds_functionAt _ _ _).bind fun f _ => ?_
    all_goals
      cases f with
      | none => exact hrest
      | some f =>
        dsimp only
        split
        · exact succeeds_pure _
        · exact hrest

theorem succeeds_definitionIn (src : Source) (name : String) :
    ∀ forms : List DeclarationForm, Succeeds (definitionIn src name forms)
  | [] => succeeds_ok _
  | form :: rest => by
    unfold definitionIn
    refine (succeeds_definitionAmong _ _ _ _).bind fun d _ => ?_
    split
    · exact succeeds_pure _
    · exact succeeds_definitionIn src name rest

/-- **A function is looked up by its name without a fault**, whatever the text holds. -/
theorem succeeds_definitionOf (scope name : String) : Succeeds (definitionOf scope name) := by
  unfold definitionOf
  split
  · exact succeeds_ok _
  · exact succeeds_definitionIn _ _ _

end Affordance.Script

/-! ## 5. Handlers -/

namespace Affordance.Handling

open Affordance.Text
open Affordance.Text.Pattern
open Affordance.Script

/-- Functions are found without a fault. -/
def Total (find : Finder) : Prop := ∀ name, Succeeds (find name)

theorem total_inScopes : ∀ scopes : List String, Total (inScopes scopes)
  | [], _ => succeeds_ok _
  | scope :: rest, name => by
    unfold inScopes
    refine (succeeds_definitionOf scope name).bind fun d _ => ?_
    split
    · exact succeeds_pure _
    · exact total_inScopes rest name

theorem getElem?_zero_of_startsWith {s : List Char} {c : Char} (h : startsWith s [c] = true) :
    s.toArray[0]? = some c := by
  cases s with
  | nil => cases h
  | cons d s =>
    have hd : d = c := by simpa [startsWith] using h
    simp [hd]

theorem succeeds_unparen : ∀ (n : Nat) (s : List Char), Succeeds (unparen n s)
  | 0, _ => succeeds_ok _
  | n + 1, s => by
    unfold unparen
    split
    · rename_i hparens
      have hopen := getElem?_zero_of_startsWith (Bool.and_eq_true_iff.mp hparens).1
      refine (succeeds_partner hopen rfl).bind fun close _ => ?_
      split
      · exact succeeds_unparen n _
      · exact succeeds_pure _
    · exact succeeds_pure _

theorem succeeds_unwrap (body : String) : Succeeds (unwrap body) :=
  (succeeds_unparen _ _).bind fun _ _ => succeeds_pure _

theorem succeeds_isTrivial (body : String) : Succeeds (isTrivial body) :=
  (succeeds_unwrap body).bind fun _ _ => succeeds_pure _

/-- The pattern of a call ends with its opening bracket. -/
theorem succeeds_onlyCall (stmt : List Char) : Succeeds (onlyCall stmt) := by
  unfold onlyCall
  split
  · exact succeeds_ok _
  · rename_i m hm
    have hcall : plainCall.matchAt stmt.toArray 0 = some m := hm
    exact (partner_of_last rfl hcall).bind fun _ _ => succeeds_pure _

section Resolving

variable {find : Finder} (htotal : Total find)

include htotal

theorem succeeds_named (name : String) : Succeeds (named find name) :=
  (htotal name).bind fun _ _ => succeeds_pure _

theorem succeeds_resolveInline (s : List Char) (kind : EventKind) (counts : InlineCounts) :
    Succeeds (resolveInline s kind find counts) := by
  unfold resolveInline
  obtain ⟨body, isAsync⟩ := inlineBody s
  dsimp only
  refine (succeeds_unwrap _).bind fun stmt _ => (succeeds_onlyCall stmt).bind fun called _ => ?_
  cases called
  case' some name =>
    dsimp only
    split
  -- A function is looked for or is not; what was found is treated alike.
  all_goals
    refine Succeeds.bind (by first | exact succeeds_pure _ | exact htotal _) fun found _ => ?_
    cases found with
    | some r => exact succeeds_pure _
    | none =>
      refine (succeeds_isTrivial _).bind fun trivial _ => ?_
      split <;> exact succeeds_pure _

theorem succeeds_resolve (expr : String) (kind : EventKind) (counts : InlineCounts) :
    Succeeds (resolve expr kind find counts) := by
  unfold resolve
  dsimp only
  split
  · exact succeeds_ok _
  · split
    · exact succeeds_map_iff.mpr (succeeds_named htotal _)
    · split
      · split
        · exact succeeds_map_iff.mpr (succeeds_named htotal _)
        · exact succeeds_resolveInline htotal _ _ _
      · exact succeeds_resolveInline htotal _ _ _

/-- One binding is resolved without a fault. -/
theorem succeeds_step (s : State) (b : Binding) : Succeeds (s.step find b) :=
  (succeeds_resolve htotal _ _ _).bind fun _ _ => succeeds_pure _

theorem succeeds_build : ∀ (bs : List Binding) (s : State), Succeeds (build find bs s)
  | [], _ => succeeds_ok _
  | b :: rest, s => (succeeds_step htotal s b).bind fun s' _ => succeeds_build rest s'

end Resolving

/-- **A component is assembled without a fault**, whatever its events hold. -/
theorem succeeds_assemble (name : String) (c : Collected) (scopes : List String)
    (states : List StateVariable) (props : List ComponentProp) (library : Option String)
    (extra : List Binding) :
    Succeeds (Assembly.assemble name c (inScopes scopes) states props library extra) :=
  (succeeds_build (total_inScopes scopes) _ _).bind fun _ _ => succeeds_pure _

end Affordance.Handling
