import Affordance.Handler.Module
import Affordance.Proofs.Json.Pieces

/-!
# Literals of written modules

The entries of a module are moved to the right after their names, descriptions and parameters have
been written into them. Every line break that a reader of lines knows is one for this, though JSON
writes three of them as they are.

  * `shift`: a text moved to the right character by character; `indent_eq_shift`: that is what
    moving its lines comes to.
  * `inOrder_shift`: texts on one line stay in one piece and in order.
  * `feedsOnly_moduleText`: no line break but the line feed is left.
  * **`literals_intact_iff`**: so exactly the literals without such line breaks are intact, and all
    of them iff no description and no text of a schema has one.
  * `separator_splits_literal`: a line separator in a value to choose from splits the parameters.
-/

namespace Affordance

open Affordance.Text

/-! ## 1. Moving to the right -/

/-- The text has no line break. -/
def Unbroken (s : List Char) : Prop := ∀ c ∈ s, isLineBreak c = false

instance (s : List Char) : Decidable (Unbroken s) :=
  List.decidableBAll (isLineBreak · = false) s

/-- The text has no line break but the line feed. -/
def FeedsOnly (s : List Char) : Prop := ∀ c ∈ s, isLineBreak c = true → c = '\n'

/-- A literal is checked by its characters, before it is packed. -/
theorem FeedsOnly.of_literal {s : List Char}
    (h : (s.all fun c => !isLineBreak c || c == '\n') = true) :
    FeedsOnly (String.ofList s).toList := by
  rw [String.toList_ofList]
  intro c hc hbreak
  have hchar := List.all_eq_true.mp h c hc
  rw [hbreak] at hchar
  exact beq_iff_eq.mp hchar

theorem FeedsOnly.append {s t : List Char} (hs : FeedsOnly s) (ht : FeedsOnly t) :
    FeedsOnly (s ++ t) := List.forall_mem_append.mpr ⟨hs, ht⟩

/-- Joined texts have no line break but the line feed if neither they nor the separator have. -/
theorem FeedsOnly.joinChars {sep : List Char} (hsep : FeedsOnly sep) {xs : List (List Char)}
    (hxs : ∀ x ∈ xs, FeedsOnly x) : FeedsOnly (Text.joinChars sep xs) := by
  intro c hc
  rcases mem_joinChars hc with hc | ⟨x, hx, hc⟩
  · exact hsep c hc
  · exact hxs x hx c hc

/-- A line moved to the right, unless it is empty. -/
def padLine (pad line : List Char) : List Char := if line.isEmpty then line else pad ++ line

/-- A text moved to the right, from inside of a line or from its beginning. -/
def shift (pad : List Char) : Bool → List Char → List Char
  | _, [] => []
  | _, '\r' :: '\n' :: s => if s.isEmpty then [] else '\n' :: shift pad false s
  | inside, c :: s =>
    if isLineBreak c then (if s.isEmpty then [] else '\n' :: shift pad false s)
    else (if inside then [] else pad) ++ c :: shift pad true s

theorem linesFrom_ne_nil {s : List Char} (h : s ≠ []) (cur : List Char) : linesFrom cur s ≠ [] := by
  fun_induction linesFrom cur s with
  | case1 | case2 => exact absurd rfl h
  | case3 | case4 => exact List.cons_ne_nil _ _
  | case5 cur c s _ _ ih =>
    cases s with
    | nil => simp [linesFrom]
    | cons d s => exact ih (List.cons_ne_nil d s)

/-- What stands behind a line that has ended. -/
theorem joinChars_line (line : List Char) {s : List Char} {f : List Char → List Char} :
    joinChars ['\n'] (line :: (linesFrom [] s).map f) =
      line ++ if s.isEmpty then [] else '\n' :: joinChars ['\n'] ((linesFrom [] s).map f) := by
  rw [joinChars_cons]
  cases s with
  | nil => rfl
  | cons c s =>
    have hne : ¬ ((linesFrom [] (c :: s)).map f).isEmpty := by
      simpa using linesFrom_ne_nil (List.cons_ne_nil c s) []
    rw [if_neg hne, if_neg (by simp)]
    rfl

theorem joinChars_padLines (pad cur s : List Char) :
    joinChars ['\n'] ((linesFrom cur s).map (padLine pad)) =
      padLine pad cur.reverse ++ shift pad (!cur.isEmpty) s := by
  fun_induction linesFrom cur s with
  | case1 cur h =>
    rw [List.isEmpty_iff.mp h]
    rfl
  | case2 cur h =>
    rw [shift, List.append_nil]
    rfl
  | case3 cur s ih =>
    rw [List.map_cons, joinChars_line, ih, shift]
    rfl
  | case4 cur c s hpair hbreak ih =>
    rw [List.map_cons, joinChars_line, ih, shift, if_pos hbreak]
    · rfl
    · exact hpair
  | case5 cur c s hpair hbreak ih =>
    rw [ih, shift, if_neg hbreak]
    · cases cur <;> simp [padLine]
    · exact hpair

/-- Moving the lines of a text is moving the text. -/
theorem indent_eq_shift (pad s : List Char) : indent pad s = shift pad false s :=
  joinChars_padLines pad [] s

/-! ## 2. What stays in one piece -/

/-- A text on one line that does not begin with white space. -/
structure OneLine (x : List Char) : Prop where
  head : ∃ c rest, x = c :: rest ∧ isSpace c = false
  unbroken : Unbroken x

section Shift

variable {pad : List Char}

theorem shift_plain {c : Char} (hc : isLineBreak c = false) (inside : Bool) (s : List Char) :
    shift pad inside (c :: s) = (if inside then [] else pad) ++ c :: shift pad true s := by
  rw [shift, if_neg (by simp [hc])]
  intro _ hreturn _
  rw [hreturn] at hc
  exact absurd hc (by decide)

theorem shift_inside {x : List Char} (hx : Unbroken x) (back : List Char) :
    shift pad true (x ++ back) = x ++ shift pad true back := by
  induction x with
  | nil => rfl
  | cons c x ih =>
    rw [List.cons_append, shift_plain (hx c List.mem_cons_self),
      ih fun d hd => hx d (List.mem_cons_of_mem c hd)]
    rfl

theorem suffix_of_break {c d : Char} (hc : isLineBreak c = false) (hd : isLineBreak d = true)
    {s rest : List Char} (h : c :: rest <:+ d :: s) : c :: rest <:+ s := by
  refine (List.suffix_cons_iff.mp h).resolve_left fun e => ?_
  rw [(List.cons.inj e).1, hd] at hc
  cases hc

/-- The rest of a text from a character that ends no line on is moved on its own. -/
theorem exists_shift_suffix {c : Char} (hc : isLineBreak c = false) (rest : List Char)
    {s : List Char} (inside : Bool) (h : c :: rest <:+ s) :
    ∃ inside', shift pad inside' (c :: rest) <:+ shift pad inside s := by
  have hne : ¬ c :: rest <:+ [] := fun h => List.cons_ne_nil c rest (List.suffix_nil.mp h)
  fun_induction shift pad inside s with
  | case1 => exact absurd h hne
  | case2 inside s hempty =>
    rw [List.isEmpty_iff.mp hempty] at h
    exact absurd (suffix_of_break hc (by decide) (suffix_of_break hc (by decide) h)) hne
  | case3 inside s _ ih =>
    obtain ⟨inside', hin⟩ :=
      ih (suffix_of_break hc (by decide) (suffix_of_break hc (by decide) h))
    exact ⟨inside', hin.trans (List.suffix_cons _ _)⟩
  | case4 inside d s _ hbreak hempty =>
    rw [List.isEmpty_iff.mp hempty] at h
    exact absurd (suffix_of_break hc hbreak h) hne
  | case5 inside d s _ hbreak _ ih =>
    obtain ⟨inside', hin⟩ := ih (suffix_of_break hc hbreak h)
    exact ⟨inside', hin.trans (List.suffix_cons _ _)⟩
  | case6 inside d s _ hbreak ih =>
    rcases List.suffix_cons_iff.mp h with h | h
    · refine ⟨inside, ?_⟩
      rw [h, shift_plain (Bool.not_eq_true _ ▸ hbreak)]
    · obtain ⟨inside', hin⟩ := ih h
      exact ⟨inside', hin.trans ((List.suffix_cons _ _).trans (List.suffix_append _ _))⟩

/-- **Texts on one line stay in one piece and in order** where a text is moved to the right. -/
theorem inOrder_shift {xs : List (List Char)} (hxs : ∀ x ∈ xs, OneLine x) {s : List Char}
    (inside : Bool) (h : InOrder xs s) : InOrder xs (shift pad inside s) := by
  induction h generalizing inside with
  | nil s => exact .nil _
  | @cons front x xs back _ ih =>
    obtain ⟨hx, hrests⟩ := List.forall_mem_cons.mp hxs
    obtain ⟨c, rest, rfl, -⟩ := hx.head
    obtain ⟨hc, hrest⟩ := List.forall_mem_cons.mp hx.unbroken
    obtain ⟨inside', hin⟩ :=
      exists_shift_suffix hc (rest ++ back) inside (List.suffix_append front _)
    refine InOrder.of_suffix ?_ hin
    rw [shift_plain hc, shift_inside hrest]
    exact .cons _ (c :: rest) (ih hrests true)

/-- No line break but the line feed is left. -/
theorem feedsOnly_shift (hpad : Unbroken pad) (inside : Bool) (s : List Char) :
    FeedsOnly (shift pad inside s) := by
  have hlead : ∀ inside : Bool, FeedsOnly (if inside then [] else pad) := by
    intro inside c hc hbreak
    split at hc
    · cases hc
    · rw [hpad c hc] at hbreak
      cases hbreak
  fun_induction shift pad inside s with
  | case1 | case2 | case4 => exact fun c hc => absurd hc List.not_mem_nil
  | case3 inside s _ ih | case5 inside d s _ _ _ ih =>
    exact List.forall_mem_cons.mpr ⟨fun _ => rfl, ih⟩
  | case6 inside d s _ hbreak ih =>
    exact List.forall_mem_append.mpr ⟨hlead inside,
      List.forall_mem_cons.mpr ⟨fun h => absurd h hbreak, ih⟩⟩

end Shift

theorem inOrder_indent {xs : List (List Char)} (hxs : ∀ x ∈ xs, OneLine x) (pad : List Char)
    {s : List Char} (h : InOrder xs s) : InOrder xs (indent pad s) := by
  rw [indent_eq_shift]
  exact inOrder_shift hxs false h

theorem feedsOnly_indent {pad : List Char} (hpad : Unbroken pad) (s : List Char) :
    FeedsOnly (indent pad s) := by
  rw [indent_eq_shift]
  exact feedsOnly_shift hpad false s

theorem inOrder_dropLead {xs : List (List Char)} (hxs : ∀ x ∈ xs, OneLine x) {s : List Char}
    (h : InOrder xs s) : InOrder xs (dropLead s) := by
  cases h with
  | nil => exact .nil _
  | @cons front x xs back hback =>
    obtain ⟨c, rest, rfl, hspace⟩ := (hxs x List.mem_cons_self).head
    have hkept : (c :: rest ++ back).dropWhile isSpace = c :: rest ++ back := by
      rw [List.cons_append, List.dropWhile_cons, hspace]
      rfl
    rw [dropLead, List.dropWhile_append, hkept]
    split
    · exact .cons [] (c :: rest) hback
    · exact .cons _ (c :: rest) hback

/-! ## 3. Literals -/

/-- The line breaks that JSON writes as they are. -/
def rawBreaks : List Char := ['\u0085', '\u2028', '\u2029']

/-- The literals that a proposal has in a module: its name, its description and its parameters. -/
def Proposal.moduleLiterals (p : Proposal) : List (List Char) :=
  [(Json.quoteAscii p.name).toList, (Json.quote p.description).toList,
    (Json.render .spaced p.schema.toJson).toList]

/-- The texts of a proposal that are written with all characters as they are. -/
def Proposal.rawTexts (p : Proposal) : List String := p.description :: p.schema.toJson.pieces

theorem isLineBreak_iff {c : Char} (hc : 32 ≤ c.toNat) : isLineBreak c = true ↔ c ∈ rawBreaks := by
  have hsame : ∀ d : Char, c.toNat = d.toNat ↔ c = d := fun d =>
    ⟨fun h => Char.toNat_inj.mp h, fun h => h ▸ rfl⟩
  have hbreak : isLineBreak c = true ↔ c.toNat = 133 ∨ c.toNat = 0x2028 ∨ c.toNat = 0x2029 := by
    simp only [isLineBreak, Bool.or_eq_true, Bool.and_eq_true, decide_eq_true_eq, beq_iff_eq]
    omega
  rw [hbreak]
  simp only [rawBreaks, List.mem_cons, List.not_mem_nil, or_false, ← hsame]
  rfl

/-- A text without control characters is on one line iff it has none of these. -/
theorem unbroken_iff {s : List Char} (hs : ∀ c ∈ s, 32 ≤ c.toNat) :
    Unbroken s ↔ ∀ c ∈ rawBreaks, c ∉ s := by
  constructor
  · intro h c hraw hc
    have hbreak := (isLineBreak_iff (hs c hc)).mpr hraw
    rw [h c hc] at hbreak
    cases hbreak
  · intro h c hc
    rw [Bool.eq_false_iff, Ne, isLineBreak_iff (hs c hc)]
    exact fun hraw => h c hraw hc

theorem wide_rawBreaks : ∀ c ∈ rawBreaks, 128 ≤ c.toNat := forall_of_all rfl

theorem unbroken_quote_iff (t : String) :
    Unbroken (Json.quote t).toList ↔ ∀ c ∈ rawBreaks, c ∉ t.toList := by
  rw [Json.quote, String.toList_ofList, unbroken_iff (Json.renderText_noControl t)]
  refine forall₂_congr fun c hc => ?_
  rw [Json.wide_mem_renderText_iff (wide_rawBreaks c hc)]

theorem unbroken_render_iff (v : Json) :
    Unbroken (Json.render .spaced v).toList ↔ ∀ s ∈ v.pieces, ∀ c ∈ rawBreaks, c ∉ s.toList := by
  have hwide : ∀ c ∈ rawBreaks,
      (c ∉ (Json.render .spaced v).toList ↔ ∀ s ∈ v.pieces, c ∉ s.toList) := by
    intro c hc
    rw [Json.render, String.toList_ofList,
      Json.wide_mem_renderAt_iff (wide_rawBreaks c hc) Json.keepsWide_spaced]
    simp only [not_exists, not_and]
  rw [unbroken_iff (Json.noControl_rendered v), forall₂_congr hwide]
  exact ⟨fun h s hs c hc => h c hc s hs, fun h c hc s hs => h s hs c hc⟩

theorem unbroken_quoteAscii (t : String) : Unbroken (Json.quoteAscii t).toList := by
  have hascii := Json.renderText_ascii t
  rw [Json.quoteAscii, String.toList_ofList, unbroken_iff fun c hc => (hascii c hc).1]
  intro c hraw hc
  have hwide := wide_rawBreaks c hraw
  have hlow := (hascii c hc).2
  omega

namespace Proposal

variable {p : Proposal}

theorem unbroken_moduleLiterals_iff :
    (∀ x ∈ p.moduleLiterals, Unbroken x) ↔ ∀ s ∈ p.rawTexts, ∀ c ∈ rawBreaks, c ∉ s.toList := by
  simp only [moduleLiterals, rawTexts, List.forall_mem_cons, unbroken_quoteAscii, true_and,
    unbroken_quote_iff, unbroken_render_iff, List.not_mem_nil, false_imp_iff, implies_true,
    and_true]

theorem noControl_moduleLiterals : ∀ x ∈ p.moduleLiterals, ∀ c ∈ x, 32 ≤ c.toNat := by
  unfold moduleLiterals Json.quoteAscii Json.quote
  simp only [String.toList_ofList, List.forall_mem_cons]
  exact ⟨fun c hc => (Json.renderText_ascii p.name c hc).1, Json.renderText_noControl p.description,
    Json.noControl_rendered _, fun x hx => absurd hx List.not_mem_nil⟩

theorem oneLine_of_unbroken {x : List Char} (hx : x ∈ p.moduleLiterals) (h : Unbroken x) :
    OneLine x := by
  refine ⟨?_, h⟩
  simp only [moduleLiterals, List.mem_cons, List.not_mem_nil, or_false] at hx
  rcases hx with hx | hx | hx
  · exact ⟨'"', _, hx.trans String.toList_ofList, by decide⟩
  · exact ⟨'"', _, hx.trans String.toList_ofList, by decide⟩
  · exact ⟨'\x7b', _, hx.trans String.toList_ofList, by decide⟩

/-- The entry of a tool has its literals in order. -/
theorem inOrder_toolEntry (p : Proposal) (body : String) :
    InOrder p.moduleLiterals (toolEntry p body) := by
  have hname := (InOrder.whole (Json.quoteAscii p.name).toList).behind
    ("\x7b\n".toList ++ "  name: ".toList)
  have hdescription := ((hname.before ",\n".toList).before "  description: ".toList).append
    (.whole (Json.quote p.description).toList)
  have hschema := ((hdescription.before ",\n".toList).before "  inputSchema: ".toList).append
    (.whole (Json.render .spaced p.schema.toJson).toList)
  unfold toolEntry
  exact .before _ (.before _ (.before _ (.before _ (.before _ (.before _ hschema)))))

end Proposal

/-! ## 4. Modules -/

section Module

variable (format : ModuleFormat) (bodies : List (String × String)) (ps : List Proposal)

/-- The literals of a module that have no line break. -/
def intactLiterals : List (List Char) :=
  (ps.flatMap Proposal.moduleLiterals).filter fun x => Unbroken x

theorem oneLine_intactLiterals : ∀ x ∈ intactLiterals ps, OneLine x := by
  intro x hx
  obtain ⟨hmem, hunbroken⟩ := List.mem_filter.mp hx
  obtain ⟨p, -, hin⟩ := List.mem_flatMap.mp hmem
  exact Proposal.oneLine_of_unbroken hin (of_decide_eq_true hunbroken)

theorem inOrder_toolList : InOrder (intactLiterals ps) (toolList bodies ps) := by
  rw [intactLiterals, List.filter_flatMap]
  have hentry : ∀ p ∈ ps, InOrder (p.moduleLiterals.filter fun x => Unbroken x)
      (indent "  ".toList (toolEntry p (bodyOf bodies p))) := by
    intro p _
    have hall : InOrder (p.moduleLiterals.filter fun x => Unbroken x)
        (toolEntry p (bodyOf bodies p)) :=
      (p.inOrder_toolEntry (bodyOf bodies p)).sublist List.filter_sublist
    have hlines : ∀ x ∈ p.moduleLiterals.filter fun x => Unbroken x, OneLine x := by
      intro x hx
      obtain ⟨hin, hunbroken⟩ := List.mem_filter.mp hx
      exact p.oneLine_of_unbroken hin (of_decide_eq_true hunbroken)
    exact inOrder_indent hlines "  ".toList hall
  have hjoined := InOrder.joinChars ",\n".toList hentry
  exact (hjoined.behind "[\n".toList).before "\n]".toList

theorem moduleText_esm : (moduleText .esm bodies ps).toList =
    "\n".toList ++ (join "\n" helperLines).toList ++ "\n\nexport const tools = ".toList ++
      toolList bodies ps ++ ";\n".toList := String.toList_ofList

theorem moduleText_iife : (moduleText .iife bodies ps).toList =
    "(function () \x7b\n".toList ++
      indent "  ".toList (join "\n" helperLines).toList ++ "\n\n".toList ++
      "  const tools = ".toList ++ dropLead (indent "  ".toList (toolList bodies ps)) ++
      ";\n".toList ++
      "  if (window.mcp && typeof window.mcp.registerTool === 'function') \x7b\n".toList ++
      "    tools.forEach((t) => window.mcp.registerTool(t));\n".toList ++
      "  \x7d\n".toList ++ "\x7d)();\n".toList := String.toList_ofList

/-- **Literals without such line breaks stand in the module** in one piece and in order. -/
theorem inOrder_moduleText :
    InOrder (intactLiterals ps) (moduleText format bodies ps).toList := by
  have hlist := inOrder_toolList bodies ps
  cases format with
  | esm =>
    rw [moduleText_esm]
    exact (hlist.behind _).before _
  | iife =>
    have hmoved := inOrder_dropLead (oneLine_intactLiterals ps)
      (inOrder_indent (oneLine_intactLiterals ps) "  ".toList hlist)
    rw [moduleText_iife]
    exact (((((hmoved.behind _).before _).before _).before _).before _).before _

theorem feedsOnly_toolList : FeedsOnly (toolList bodies ps) := by
  have hentries : ∀ x ∈ ps.map fun p => indent "  ".toList (toolEntry p (bodyOf bodies p)),
      FeedsOnly x :=
    List.forall_mem_map.mpr fun p _ => feedsOnly_indent (by decide) _
  exact .append (.append (.of_literal rfl) (.joinChars (.of_literal rfl) hentries))
    (.of_literal rfl)

theorem feedsOnly_helpers : FeedsOnly (join "\n" helperLines).toList := by
  have hlines : ∀ line ∈ helperLines, FeedsOnly line.toList := by
    simp only [helperLines, List.forall_mem_cons, List.not_mem_nil, false_imp_iff, implies_true,
      and_true]
    and_intros <;> exact .of_literal rfl
  rw [toList_join]
  exact .joinChars (.of_literal rfl) (List.forall_mem_map.mpr hlines)

/-- A module has no line break but the line feed. -/
theorem feedsOnly_moduleText : FeedsOnly (moduleText format bodies ps).toList := by
  have hlist := feedsOnly_toolList bodies ps
  have hpad : Unbroken "  ".toList := by decide
  cases format with
  | esm =>
    rw [moduleText_esm]
    exact .append (.append (.append (.append (.of_literal rfl) feedsOnly_helpers)
      (.of_literal rfl)) hlist) (.of_literal rfl)
  | iife =>
    have hhelpers := feedsOnly_indent hpad (join "\n" helperLines).toList
    have hmoved : FeedsOnly (dropLead (indent "  ".toList (toolList bodies ps))) := fun c hc =>
      feedsOnly_indent hpad _ c ((List.dropWhile_sublist _).subset hc)
    rw [moduleText_iife]
    refine .append (.append (.append (.append (.append ?_ (.of_literal rfl)) (.of_literal rfl))
      (.of_literal rfl)) (.of_literal rfl)) (.of_literal rfl)
    exact .append (.append (.append (.append (.of_literal rfl) hhelpers) (.of_literal rfl))
      (.of_literal rfl)) hmoved

/-- **The literals of a module are intact iff no description and no text of a schema has a line
break that JSON writes as it is.** Those on one line are intact in any case. -/
theorem literals_intact_iff :
    InOrder (intactLiterals ps) (moduleText format bodies ps).toList ∧
    (InOrder (ps.flatMap Proposal.moduleLiterals) (moduleText format bodies ps).toList ↔
      ∀ p ∈ ps, ∀ s ∈ p.rawTexts, ∀ c ∈ rawBreaks, c ∉ s.toList) := by
  refine ⟨inOrder_moduleText format bodies ps, ?_⟩
  have hunbroken : (∀ p ∈ ps, ∀ s ∈ p.rawTexts, ∀ c ∈ rawBreaks, c ∉ s.toList) ↔
      ∀ x ∈ ps.flatMap Proposal.moduleLiterals, Unbroken x := by
    simp only [← Proposal.unbroken_moduleLiterals_iff, List.mem_flatMap]
    exact ⟨fun h x ⟨p, hp, hx⟩ => h p hp x hx, fun h p hp x hx => h x ⟨p, hp, hx⟩⟩
  rw [hunbroken]
  constructor
  · intro h x hx c hc
    obtain ⟨p, -, hin⟩ := List.mem_flatMap.mp hx
    have hcontrol := p.noControl_moduleLiterals x hin c hc
    rw [Bool.eq_false_iff]
    intro hbreak
    -- The only break of a module is a control character, and a literal has none.
    rw [feedsOnly_moduleText format bodies ps c ((h.piece hx).subset hc) hbreak] at hcontrol
    exact absurd hcontrol (by decide)
  · intro h
    have hall : intactLiterals ps = ps.flatMap Proposal.moduleLiterals :=
      List.filter_eq_self.mpr fun x hx => decide_eq_true (h x hx)
    rw [← hall]
    exact inOrder_moduleText format bodies ps

end Module

/-- The tool of a form with a choice whose value has a line separator. -/
def separatorTool : Proposal :=
  ((Candidate.assess none {
      kind := .form, componentName := "page"
      inputs := [{ tag := .select, name := some "plan", options := ["a\u2028b"] }] }).proposal
    false 1 "go_page")

/-- The value is split in the module. -/
theorem separator_splits_literal :
    ¬ InOrder separatorTool.moduleLiterals (moduleText .esm [] [separatorTool]).toList := by
  have hpiece : "a\u2028b" ∈ separatorTool.rawTexts := by decide
  intro h
  have hall : InOrder ([separatorTool].flatMap Proposal.moduleLiterals)
      (moduleText .esm [] [separatorTool]).toList := by
    rwa [List.flatMap_singleton]
  exact (literals_intact_iff .esm [] [separatorTool]).2.mp hall separatorTool
    (List.mem_singleton_self _) _ hpiece '\u2028' (by decide) (by decide)

end Affordance
