import Affordance.Proofs.Script.Expression
import Affordance.Proofs.Text.Pieces
import Affordance.Script.Literal

/-!
# Expressions between separators

  * `Apart`: an expression with separators inside of its brackets and literals only.
  * **`passes_apart`**: a walk that ends at separators passes such an expression as a whole, by
    induction on the expression. So it ends at the separator behind it (`skip_apart`).
  * **`splitTop_joined`**: joined expressions are cut where they were joined, by induction on the
    list; `splitTop_listed`: with a blank behind each separator.
-/

namespace Affordance.Script

open Affordance.Text
open Affordance.Text.Source (Ahead)

/-! ## 1. The expressions -/

/-- An expression with code in its brackets, and no separator outside of brackets and literals. -/
inductive Apart (seps : List Char) : List Char → Prop
  | nil : Apart seps []
  | plain {c : Char} {s : List Char} (hc : isPlain c = true) (hsep : c ∉ seps)
      (hs : Apart seps s) : Apart seps (c :: s)
  | string {q : Char} {b s : List Char} (hq : q = '\'' ∨ q = '"') (hb : StringBody q b)
      (hs : Apart seps s) : Apart seps (q :: (b ++ q :: s))
  | template {b s : List Char} (hb : CodeTemplate b) (hs : Apart seps s) :
      Apart seps ('`' :: (b ++ '`' :: s))
  | group {o c : Char} {e s : List Char} (ho : closerOf o = some c) (he : Code e)
      (hs : Apart seps s) : Apart seps (o :: (e ++ c :: s))

namespace Apart

variable {seps e s : List Char}

/-- Plain characters that separate nothing may stand before an expression. -/
theorem of_plain (hs : Apart seps s) : ∀ {w : List Char},
    (∀ c ∈ w, isPlain c = true ∧ c ∉ seps) → Apart seps (w ++ s)
  | [], _ => hs
  | _ :: _, hw =>
    .plain (hw _ List.mem_cons_self).1 (hw _ List.mem_cons_self).2
      (hs.of_plain fun c hc => hw c (List.mem_cons_of_mem _ hc))

end Apart

/-! ## 2. They are passed as a whole -/

section Passes

variable {src : Source} {seps e s : List Char} {i : Nat}

/-- A walk that ends at plain characters only ends at no other. -/
theorem not_stops (hseps : ∀ c ∈ seps, isPlain c = true) {c : Char} (hc : isPlain c = false) :
    ¬ Stops seps 0 c := by
  intro hs
  rw [hseps c (List.contains_iff_mem.mp hs.2)] at hc
  cases hc

/-- **An expression between separators is passed as a whole**: outside of its brackets and literals
    nothing ends the walk. -/
theorem passes_apart (hseps : ∀ c ∈ seps, isPlain c = true) (he : Apart seps e)
    (h : src.Ahead i (e ++ s)) :
    Relation.ReflTransGen (Passing src seps) (0, i) (0, i + e.length) := by
  induction he generalizing i with
  | nil => exact .refl
  | @plain c e hc hsep he ih =>
    have hstop : ¬ Stops seps 0 c := fun hs => hsep (List.contains_iff_mem.mp hs.2)
    rw [show i + (c :: e).length = i + 1 + e.length by rw [List.length_cons]; omega]
    exact .head (passing_plain hstop hc h) (ih h.tail)
  | @string q b e hq hb he ih =>
    simp only [List.cons_append, List.append_assoc] at h
    have hstop : ¬ Stops seps 0 q := not_stops hseps (by rcases hq with rfl | rfl <;> rfl)
    have hrest := ih h.tail.drop.tail
    rw [show i + 1 + b.length + 1 = i + (b.length + 2) by omega] at hrest
    rw [show i + (q :: (b ++ q :: e)).length = i + (b.length + 2) + e.length by
      simp only [List.length_cons, List.length_append]; omega]
    exact .head (passing_string hstop hq hb h) hrest
  | @template b e hb he ih =>
    simp only [List.cons_append, List.append_assoc] at h
    have hend : inTemplate src (i + 1) = i + (b.length + 2) := by
      rw [inTemplate_code hb h.tail]
      omega
    have hrest := ih h.tail.drop.tail
    rw [show i + 1 + b.length + 1 = i + (b.length + 2) by omega] at hrest
    rw [show i + ('`' :: (b ++ '`' :: e)).length = i + (b.length + 2) + e.length by
      simp only [List.length_cons, List.length_append]; omega]
    exact .head (passing_template (not_stops hseps rfl) hend h) hrest
  | @group o c g e ho hg he ih =>
    simp only [List.cons_append, List.append_assoc] at h
    have hstop : ¬ Stops seps 0 o :=
      not_stops hseps (by rcases closerOf_cases ho with ⟨rfl, -⟩ | ⟨rfl, -⟩ | ⟨rfl, -⟩ <;> rfl)
    have hgroup := passes_group hstop ho h (passes_code hg (quiet_succ seps 0) h.tail)
    have hrest := ih h.tail.drop.tail
    rw [show i + 1 + g.length + 1 = i + (g.length + 2) by omega] at hrest
    rw [show i + (o :: (g ++ c :: e)).length = i + (g.length + 2) + e.length by
      simp only [List.length_cons, List.length_append]; omega]
    exact hgroup.trans hrest

/-- The scanner ends at the separator behind an expression. -/
theorem skip_apart {sep : Char} (hseps : ∀ c ∈ seps, isPlain c = true) (hsep : sep ∈ seps)
    (he : Apart seps e) (h : src.Ahead i (e ++ sep :: s)) : skip src seps i = i + e.length :=
  (Passing.scan (passes_apart hseps he h)).trans
    (scan_stop h.drop.head (List.contains_iff_mem.mpr hsep))

/-- The scanner ends with the text behind its last expression. -/
theorem skip_apart_end (hseps : ∀ c ∈ seps, isPlain c = true) (he : Apart seps e)
    (h : src.Ahead i (e ++ [])) : skip src seps i = src.size :=
  (Passing.scan (passes_apart hseps he h)).trans (scan_end h.drop.none_of_nil)

end Passes

/-! ## 3. Joined expressions are cut where they were joined -/

section Joined

variable {src : Source} {seps : List Char} {sep : Char}

theorem piecesFrom_end {n i : Nat} (h : src.size ≤ i) : piecesFrom src seps n i = [] := by
  cases n with
  | zero => rfl
  | succ n => rw [piecesFrom, if_neg (Nat.not_lt_of_le h)]

/-- The pieces of joined expressions, by induction on the list. -/
theorem piecesFrom_joined (hseps : ∀ c ∈ seps, isPlain c = true) (hsep : sep ∈ seps) :
    ∀ {es : List (List Char)} {n i : Nat}, (∀ e ∈ es, Apart seps e ∧ e ≠ []) → es.length ≤ n →
      src.Ahead i (joinChars [sep] es) → piecesFrom src seps n i = es.map strip
  | [], n, i, _, _, h => piecesFrom_end (Array.getElem?_eq_none_iff.mp h.none_of_nil)
  | [e], 0, _, _, hn, _ => absurd hn (by simp)
  | [e], n + 1, i, hes, _, h => by
    obtain ⟨he, hne⟩ := hes e (List.mem_singleton_self e)
    have hahead : src.Ahead i (e ++ []) := by rwa [List.append_nil]
    obtain ⟨c, t, rfl⟩ := List.exists_cons_of_ne_nil hne
    have hi : i < src.size := lt_size h.head
    have hsize : src.size = i + (c :: t).length := h.size (Nat.le_of_lt hi)
    rw [piecesFrom, if_pos hi, skip_apart_end hseps he hahead]
    dsimp only
    rw [piecesFrom_end (Nat.le_succ _), hsize, hahead.slice]
    rfl
  | e :: e' :: es, 0, _, _, hn, _ => absurd hn (by simp)
  | e :: e' :: es, n + 1, i, hes, hn, h => by
    obtain ⟨he, hne⟩ := hes e List.mem_cons_self
    have hahead : src.Ahead i (e ++ sep :: joinChars [sep] (e' :: es)) := by
      rw [joinChars, List.append_assoc] at h
      exact h
    have hi : i < src.size := by
      obtain ⟨c, t, rfl⟩ := List.exists_cons_of_ne_nil hne
      exact lt_size hahead.head
    have hrest : piecesFrom src seps n (i + e.length + 1) = (e' :: es).map strip :=
      piecesFrom_joined hseps hsep (fun x hx => hes x (List.mem_cons_of_mem e hx))
        (Nat.le_of_succ_le_succ hn) hahead.drop.tail
    rw [piecesFrom, if_pos hi, skip_apart hseps hsep he hahead]
    dsimp only
    rw [hahead.slice, hrest]
    rfl

theorem length_le_joinChars (c : Char) : ∀ xs : List (List Char),
    xs.length ≤ (joinChars [c] xs).length + 1
  | [] => Nat.zero_le _
  | [x] => Nat.le_add_left 1 _
  | x :: y :: rest => by
    have := length_le_joinChars c (y :: rest)
    rw [joinChars, List.length_append, List.length_append]
    simp only [List.length_cons, List.length_nil] at this ⊢
    omega

/-- **Joined expressions are cut where they were joined.** -/
theorem splitTop_joined (hseps : ∀ c ∈ seps, isPlain c = true) (hsep : sep ∈ seps)
    {es : List (List Char)} (hes : ∀ e ∈ es, Apart seps e ∧ e ≠ []) :
    splitTop seps (joinChars [sep] es) = es.map strip :=
  piecesFrom_joined hseps hsep hes (length_le_joinChars sep es) (Source.ahead_toArray _)

/-- What stands behind a separator may as well stand before the next text. -/
theorem joinChars_gap (sep gap x : List Char) : ∀ xs : List (List Char),
    joinChars (sep ++ gap) (x :: xs) = joinChars sep (x :: xs.map (gap ++ ·))
  | [] => rfl
  | y :: rest => by
    have hrest := joinChars_gap sep gap y rest
    have hgap : joinChars sep ((gap ++ y) :: rest.map (gap ++ ·)) =
        gap ++ joinChars sep (y :: rest.map (gap ++ ·)) := by
      cases rest with
      | nil => rfl
      | cons z rest => simp [joinChars]
    rw [joinChars, hrest, List.map_cons, joinChars, hgap]
    simp

/-- **Joined expressions with a blank behind each separator.** -/
theorem splitTop_listed (hseps : ∀ c ∈ seps, isPlain c = true) (hsep : sep ∈ seps)
    (hblank : ' ' ∉ seps) {es : List (List Char)} (hes : ∀ e ∈ es, Apart seps e ∧ e ≠ []) :
    splitTop seps (joinChars [sep, ' '] es) = es.map strip := by
  cases es with
  | nil => rfl
  | cons x xs =>
    obtain ⟨hx, hxs⟩ := List.forall_mem_cons.mp hes
    have hgap : ∀ e ∈ x :: xs.map ([' '] ++ ·), Apart seps e ∧ e ≠ [] := by
      refine List.forall_mem_cons.mpr ⟨hx, fun e he => ?_⟩
      obtain ⟨y, hy, rfl⟩ := List.mem_map.mp he
      exact ⟨.plain rfl hblank (hxs y hy).1, List.cons_ne_nil _ _⟩
    rw [show [sep, ' '] = [sep] ++ [' '] from rfl, joinChars_gap, splitTop_joined hseps hsep hgap,
      List.map_cons, List.map_cons, List.map_map]
    rfl

end Joined

end Affordance.Script
