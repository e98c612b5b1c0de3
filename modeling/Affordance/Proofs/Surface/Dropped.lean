import Affordance.Proofs.Script.Calls
import Affordance.Proofs.Script.Names
import Affordance.Proofs.Script.Trivial
import Affordance.Surface.Handling

/-!
# Dropped handlers

  * `InlineHead`: how an inline function begins, up to its body.
  * `InFunctionHead`, `InSetterCall`: a place is in the head of an inline function, or among the
    arguments of a setter that nothing follows.
  * `place_of_trivial`: a call in a trivial inline handler stands at one of these places;
    `no_call_in_wrapper`: none stands in a form library's submit wrapper.
  * **`dropped_requests_iff`**: an event attribute that nothing is bound for makes no request iff
    none of its calls stands at one of these places.
-/

namespace Affordance.Handling

open Affordance.Text
open Affordance.Text.Pattern
open Affordance.Script

/-! ## 1. Heads of inline functions -/

/-- The parameters of an arrow function and its arrow. -/
def arrowHead : Pattern :=
  opt (group "async" (lit "async" ++ space)) ++
  alt (char '(' ++ run (fun c => !(c == '(' || c == ')')) ++ char ')') identifier ++
  space ++ opt (char ':' ++ runs (· ≠ '=')) ++ lit "=>" ++ space

/-- An inline function begins with the head, and the body follows. -/
inductive InlineHead : List Char → List Char → Prop where
  | arrow {head body : List Char} (spelled : arrowHead.Spells head) : InlineHead head body
  | keyword {head body t : List Char} (spelled : functionExpression.Spells t)
      (begins : t <+: head ++ '{' :: body) (first : '{' ∉ head) : InlineHead head ('{' :: body)

/-- What follows the body does not matter. -/
theorem InlineHead.append {head body : List Char} (h : InlineHead head body) (back : List Char) :
    InlineHead head (body ++ back) := by
  cases h with
  | arrow spelled => exact .arrow spelled
  | @keyword body _ spelled begins first =>
    have hfollows := List.prefix_append (head ++ '{' :: body) back
    rw [List.append_assoc, List.cons_append] at hfollows
    exact .keyword spelled (begins.trans hfollows) first

theorem takeWhile_ne_not_mem (c : Char) (s : List Char) : c ∉ s.takeWhile (· ≠ c) := by
  intro h
  have := List.mem_takeWhile_imp h
  simp at this

/-- The body of an inline handler stands behind the head of a function, if there is one. -/
theorem inlineBody_split (s : List Char) : ∃ head rest, s = head ++ rest ∧
    (head = [] ∨ InlineHead head rest) ∧ Framed isSpace isSpace rest (inlineBody s).1 := by
  unfold inlineBody
  split
  · next m hm =>
    have hm : (arrowHead ++ group "body" (run fun _ => true) ++ atEnd).matchStart s = some m := hm
    obtain ⟨head, body, rest, hs, hhead, -, hrest, hgroup⟩ := matchStart_group rfl rfl hm
    refine ⟨head, body ++ rest, hs, .inr (.arrow hhead), ?_⟩
    have hend : Framed isSpace isSpace (body ++ rest) body := by
      refine ⟨[], rest, by simp, by simp, ?_⟩
      rcases hrest with rfl | rfl
      · exact List.forall_mem_nil _
      · exact List.forall_mem_singleton.mpr rfl
    rw [hgroup]
    exact hend.trans (framed_strip body)
  · split
    · next m hm =>
      dsimp only
      split
      · exact ⟨[], s, rfl, .inl rfl, .refl s⟩
      · next hbody =>
        refine ⟨s.takeWhile (· ≠ '{'), s.dropWhile (· ≠ '{'), ?_, .inr ?_, .refl _⟩
        · exact List.takeWhile_append_dropWhile.symm
        · obtain ⟨t, rest, hs, ht, -⟩ := matchStart_spells rfl hm
          cases hdrop : s.dropWhile (· ≠ '{') with
          | nil => exact absurd (List.isEmpty_iff.mpr hdrop) hbody
          | cons c body =>
            obtain rfl : c = '{' := by
              have := List.head?_dropWhile_not (· ≠ '{') s
              rw [hdrop] at this
              simpa using this
            refine .keyword ht ?_ (takeWhile_ne_not_mem '{' s)
            rw [← hdrop, List.takeWhile_append_dropWhile]
            exact ⟨rest, hs.symm⟩
    · exact ⟨[], s, rfl, .inl rfl, .refl s⟩

/-! ## 2. Places -/

/-- The place is in the head of an inline function. -/
def InFunctionHead (s : List Char) (i : Nat) : Prop :=
  ∃ blanks head body, s = blanks ++ head ++ body ∧ (∀ c ∈ blanks, isSpace c = true) ∧
    InlineHead head body ∧ blanks.length ≤ i ∧ i < blanks.length + head.length

/-- The place is among the arguments of a setter, and only ends of brackets follow the call. -/
def InSetterCall (s : List Char) (i : Nat) : Prop :=
  ∃ front stmt back name args, s = front ++ stmt ++ back ∧ SetterCall stmt name args ∧
    (∀ c ∈ back, closesFrame c = true) ∧
    front.length + name.length < i ∧ i ≤ front.length + name.length + args.length

section Places

variable {a b s stmt name args : List Char} {i : Nat}

/-- A call begins with no character of a class that has none of those it can begin with. -/
theorem not_opensCall {p : Char → Bool} {t : List Char}
    (hp : "fF$oOaAhHcCkKrR\u212a".toList.all (!p ·) = true) (ht : ∀ c ∈ t, p c = true) :
    ∀ c ∈ t, opensCall c = false := by
  intro c hc
  refine Bool.eq_false_iff.mpr fun hopens => ?_
  have hother := List.all_eq_true.mp hp c (opensCall_cases hopens)
  rw [ht c hc] at hother
  cases hother

/-- The name of a setter: a word that begins like no call, and white space. -/
theorem setterName_split (h : setterName.Spells name) : ∃ c word blanks,
    name = [c] ++ word ++ blanks ∧ opensCall c = false ∧
    (∀ d ∈ [c] ++ word, (isNameChar d || d == '.') = true) ∧ ∀ d ∈ blanks, isSpace d = true := by
  obtain ⟨_, blanks, rfl, ⟨_, tail, rfl, ⟨_, _, rfl, ⟨this, set, rfl, hthis, hset⟩,
    ⟨upper, rfl, hupper⟩⟩, htail⟩, hblanks⟩ := h
  obtain rfl : set = "set".toList := (spells_lit_iff _).mp hset
  have hstart : isNameStart upper = true := by simp [isNameStart, isLetterAscii, hupper]
  have hrest : ∀ d ∈ [upper] ++ tail, (isNameChar d || d == '.') = true := by
    refine fun d hd => Bool.or_eq_true_iff.mpr (.inl ?_)
    rcases List.mem_append.mp hd with hd | hd
    · rw [List.mem_singleton.mp hd]
      exact isNameChar_of_isNameStart hstart
    · exact htail d hd
  rcases spells_opt_iff.mp hthis with hthis | rfl
  · obtain rfl : this = "this.".toList := (spells_lit_iff _).mp hthis
    refine ⟨'t', "his.set".toList ++ ([upper] ++ tail), blanks, by simp, by decide, ?_, hblanks⟩
    rw [← List.append_assoc]
    exact List.forall_mem_append.mpr ⟨List.all_eq_true.mp (by decide +kernel), hrest⟩
  · refine ⟨'s', "et".toList ++ ([upper] ++ tail), blanks, by simp, by decide, ?_, hblanks⟩
    rw [← List.append_assoc]
    exact List.forall_mem_append.mpr ⟨List.all_eq_true.mp (by decide +kernel), hrest⟩

/-- No call stands in the name of a setter. -/
theorem outside_setterName (h : CallAt (a ++ name ++ b) i) (hname : setterName.Spells name) :
    i < a.length ∨ a.length + name.length ≤ i := by
  obtain ⟨c, word, blanks, rfl, hc, hword, hblanks⟩ := setterName_split hname
  have hfirst := CallAt.outside (a := a) (t := [c]) (b := word ++ blanks ++ b) (by simpa using h)
    (by simpa using hc)
  have hinside := CallAt.boundary (a := a) (t := [c] ++ word) (b := blanks ++ b) (by simpa using h)
    hword
  have hspace := CallAt.outside (a := a ++ ([c] ++ word)) (t := blanks) (b := b) (by simpa using h)
    (not_opensCall (by decide) hblanks)
  simp only [List.length_append, List.length_cons, List.length_nil] at *
  omega

/-- A call in a setter's statement stands among the arguments. -/
theorem inSetterCall_of_call {front back : List Char} (h : CallAt (front ++ stmt ++ back) i)
    (hfront : front.length ≤ i) (hstmt : SetterCall stmt name args)
    (hback : ∀ c ∈ back, closesFrame c = true) : InSetterCall (front ++ stmt ++ back) i := by
  refine ⟨front, stmt, back, name, args, rfl, hstmt, hback, ?_⟩
  obtain ⟨rfl, hname, -⟩ := hstmt
  have hbefore : i < front.length ∨ front.length + name.length ≤ i :=
    outside_setterName (b := '(' :: (args ++ [')'] ++ back)) (by simpa using h) hname
  have hopen := CallAt.outside (a := front ++ name) (t := ['(']) (b := args ++ [')'] ++ back)
    (by simpa using h) (List.forall_mem_singleton.mpr rfl)
  have hclose := CallAt.before (a := front ++ name ++ '(' :: args) (t := [')'] ++ back)
    (by simpa using h) (not_opensCall (p := closesFrame) (by decide)
      (List.forall_mem_append.mpr ⟨List.forall_mem_singleton.mpr rfl, hback⟩))
  simp only [List.length_append, List.length_cons, List.length_nil] at *
  omega

/-- **A call in a trivial inline handler stands in the head of a function or among the arguments of
    a setter.** -/
theorem place_of_trivial {blanks back : List Char} (hcall : CallAt (blanks ++ s ++ back) i)
    (hblanks : ∀ c ∈ blanks, isSpace c = true) (hback : ∀ c ∈ back, closesFrame c = true)
    (htrivial : isTrivial (String.ofList (inlineBody s).1) = .ok true) :
    InFunctionHead (blanks ++ s ++ back) i ∨ InSetterCall (blanks ++ s ++ back) i := by
  obtain ⟨stmt, hunwrap, hstmt⟩ := bind_eq_ok_iff.mp htrivial
  obtain ⟨head, rest, rfl, hhead, hbody⟩ := inlineBody_split s
  have hframe := framed_unwrap hunwrap
  rw [String.toList_ofList] at hframe
  obtain ⟨front, back', rfl, hfront, hback'⟩ :=
    (hbody.mono opensFrame_of_isSpace closesFrame_of_isSpace).trans hframe
  have hends := List.forall_mem_append.mpr ⟨hback', hback⟩
  have hshape : blanks ++ (head ++ (front ++ stmt ++ back')) ++ back =
      blanks ++ head ++ front ++ stmt ++ (back' ++ back) := by simp
  have hbefore := CallAt.outside (a := []) (t := blanks) (by simpa using hcall)
    (not_opensCall (by decide) hblanks)
  have hinner := CallAt.outside (a := blanks ++ head) (t := front) (by simpa using hcall)
    (not_opensCall (by decide) hfront)
  simp only [List.length_append, List.length_nil, Nat.not_lt_zero, false_or, Nat.zero_add]
    at hbefore hinner
  by_cases hi : i < blanks.length + head.length
  · left
    refine ⟨blanks, head, front ++ stmt ++ back' ++ back, by simp, hblanks, ?_, hbefore, hi⟩
    rcases hhead with rfl | hhead
    · simp only [List.length_nil] at hi
      omega
    · exact hhead.append back
  · right
    rw [hshape] at hcall ⊢
    have hpast : (blanks ++ head ++ front).length ≤ i := by
      simp only [List.length_append]
      omega
    rcases trivial_cases (Except.ok.inj hstmt) (unwrap_ne hunwrap rfl) with
      ⟨name, args, hsetter⟩ | hplain
    · exact inSetterCall_of_call hcall hpast hsetter hends
    · rw [List.append_assoc] at hcall
      rcases List.mem_append.mp (hcall.paren hpast) with hmem | hmem
      · exact absurd hmem hplain
      · exact absurd (hends _ hmem) (by decide)

theorem noParen_of_space {t : List Char} (h : ∀ c ∈ t, isSpace c = true) : '(' ∉ t :=
  fun hmem => absurd (h _ hmem) (by decide)

/-- One parenthesis opens in a form library's submit wrapper, behind its name. -/
theorem submitWrapper_split {m : Match} (hm : submitWrapper.matchStart s = some m) :
    ∃ path blanks rest, s = path ++ "handleSubmit".toList ++ blanks ++ '(' :: rest ∧
      '(' ∉ path ∧ (∀ c ∈ blanks, isSpace c = true) ∧ '(' ∉ rest := by
  obtain ⟨_, last, hs, ⟨_, close, rfl, ⟨_, more, rfl, ⟨_, blanks'', rfl, ⟨_, arg, rfl,
    ⟨_, blanks', rfl, ⟨_, op, rfl, ⟨_, blanks, rfl, ⟨path, wrapper, rfl, hpath, hwrapper⟩,
    hblanks⟩, hop⟩, hblanks'⟩, harg⟩, hblanks''⟩, hmore⟩, hclose⟩, hlast⟩ :=
    matchStart_atEnd (by rfl) hm
  rw [(spells_lit_iff _).mp hwrapper, (spells_char_iff '(').mp hop] at hs
  refine ⟨path, blanks, blanks' ++ arg ++ blanks'' ++ more ++ close ++ last, by simp [hs],
    not_mem_of_avoids (by decide +kernel) hpath, hblanks, ?_⟩
  have harg : '(' ∉ arg := not_mem_of_avoids (by decide) harg
  have hmore : '(' ∉ more := not_mem_of_avoids (by decide) hmore
  have hclose : '(' ∉ close := not_mem_of_avoids (by decide) hclose
  have hlast : '(' ∉ last := by rcases hlast with rfl | rfl <;> decide
  simp [noParen_of_space hblanks', harg, noParen_of_space hblanks'', hmore, hclose, hlast]

/-- **No call stands in a form library's submit wrapper.** -/
theorem no_call_in_wrapper {m : Match} (hm : submitWrapper.matchStart s = some m) (ha : '(' ∉ a)
    (hb : '(' ∉ b) : ¬ CallAt (a ++ s ++ b) i := by
  rintro ⟨⟨callee, follows, hdrop, hcallee⟩, -⟩
  obtain ⟨path, blanks, rest, rfl, hpath, hblanks, hrest⟩ := submitWrapper_split hm
  have hbefore : '(' ∉ a ++ path ++ "handleSubmit".toList ++ blanks := by
    simp [ha, hpath, noParen_of_space hblanks]
  have hwhole := List.take_append_drop i
    (a ++ (path ++ "handleSubmit".toList ++ blanks ++ '(' :: rest) ++ b)
  generalize List.take i _ = front at hwhole
  have hsame : a ++ path ++ "handleSubmit".toList ++ blanks ++ '(' :: (rest ++ b) =
      front ++ callee ++ '(' :: follows := by
    rw [hdrop] at hwhole
    rw [List.append_assoc front, hwhole]
    simp
  have hcalled := (List.append_cons_inj_of_notMem hbefore (List.not_mem_append hrest hb)).mp hsame
  exact hcallee.noWrapper hblanks hcalled.1

end Places

/-! ## 3. Dropped handlers -/

section Dropped

variable {expr : String} {kind : EventKind} {find : Finder} {counts later : InlineCounts} {i : Nat}

/-- The expression of an event attribute stands between white space, with semicolons behind it. -/
theorem framed_bareExpression (expr : String) :
    Framed isSpace closesFrame expr.toList (bareExpression expr) := by
  have hspace : ∀ s, Framed isSpace closesFrame s (strip s) :=
    fun s => (framed_strip s).mono (fun _ h => h) closesFrame_of_isSpace
  have hend : Framed isSpace closesFrame (strip expr.toList)
      (stripEndBy (· == ';') (strip expr.toList)) :=
    (framed_stripEndBy isSpace _ _).mono (fun _ h => h) (by simp [closesFrame])
  exact ((hspace _).trans hend).trans (hspace _)

/-- An inline handler that nothing is bound for is trivial. -/
theorem trivial_of_resolveInline {s : List Char}
    (h : resolveInline s kind find counts = .ok (none, later)) :
    isTrivial (String.ofList (inlineBody s).1) = .ok true := by
  unfold resolveInline at h
  generalize inlineBody s = inline at h ⊢
  dsimp only at h
  obtain ⟨stmt, -, h⟩ := bind_eq_ok_iff.mp h
  obtain ⟨called, -, h⟩ := bind_eq_ok_iff.mp h
  cases called
  case' some name =>
    dsimp only at h
    split at h
  -- A function is looked for or is not; what was found is treated alike.
  all_goals
    obtain ⟨found, -, h⟩ := bind_eq_ok_iff.mp h
    cases found with
    | some r => cases h
    | none =>
      obtain ⟨trivial, htrivial, h⟩ := bind_eq_ok_iff.mp h
      cases trivial with
      | true => exact htrivial
      | false => cases h

/-- A name is bound to something. -/
theorem named_ne_none {name : String} :
    ((named find name).map fun r => (some r, counts)) ≠ .ok (none, later) := by
  cases named find name <;> nofun

/-- **A call of a dropped handler stands in the head of a function or among the arguments of a
    setter.** -/
theorem place_of_dropped (h : resolve expr kind find counts = .ok (none, later))
    (hcall : CallAt expr.toList i) :
    InFunctionHead expr.toList i ∨ InSetterCall expr.toList i := by
  obtain ⟨blanks, back, hexpr, hblanks, hback⟩ := framed_bareExpression expr
  rw [hexpr] at hcall ⊢
  unfold resolve at h
  dsimp only at h
  split at h
  · next hempty =>
    rw [List.isEmpty_iff.mp hempty, List.append_nil] at hcall
    have hahead := hcall.before (not_opensCall (by decide) hback)
    have hpast := CallAt.outside (a := []) hcall (not_opensCall (by decide) hblanks)
    simp only [List.length_nil, Nat.zero_add] at hpast
    omega
  · split at h
    · exact absurd h named_ne_none
    · split at h
      · next m hm =>
        have hparen : '(' ∉ back := fun hmem => absurd (hback _ hmem) (by decide)
        exact absurd hcall (no_call_in_wrapper hm (noParen_of_space hblanks) hparen)
      · exact place_of_trivial hcall hblanks hback (trivial_of_resolveInline h)

/-- **A dropped handler makes no request iff none of its calls stands in the head of a function or
    among the arguments of a setter.** -/
theorem dropped_requests_iff (h : resolve expr kind find counts = .ok (none, later)) :
    requests expr = [] ↔ ∀ i ∈ requestStarts expr,
      ¬ InFunctionHead expr.toList i ∧ ¬ InSetterCall expr.toList i := by
  rw [requests_eq_nil_iff]
  constructor
  · intro hnone i hi
    rw [hnone] at hi
    cases hi
  · intro hplaces
    refine List.eq_nil_iff_forall_not_mem.mpr fun i hi => ?_
    obtain ⟨hhead, hsetter⟩ := hplaces i hi
    rcases place_of_dropped h (call_of_mem_requestStarts hi) with hin | hin
    · exact hhead hin
    · exact hsetter hin

theorem dropped_requests_iff_storesName :
    resolve "setName(this.value)" .change (inScopes []) [] = .ok (none, []) ∧
      requests "setName(this.value)" = [] := by
  have hdropped : resolve "setName(this.value)" .change (inScopes []) [] = .ok (none, []) := by
    decide +kernel
  have hstarts : requestStarts "setName(this.value)" = [] := by decide +kernel
  refine ⟨hdropped, (dropped_requests_iff hdropped).mpr fun i hi => ?_⟩
  rw [hstarts] at hi
  cases hi

/-- The setter is called with what a request returns. -/
example :
    resolve "() => setItems(fetch('/api/items', \x7bmethod: 'DELETE'\x7d))" .click (inScopes [])
      [] = .ok (none, []) ∧
    requestStarts "() => setItems(fetch('/api/items', \x7bmethod: 'DELETE'\x7d))" = [15] :=
  ⟨by decide +kernel, by decide +kernel⟩

end Dropped

end Affordance.Handling
