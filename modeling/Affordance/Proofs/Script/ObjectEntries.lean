import Affordance.Proofs.Script.Names
import Affordance.Proofs.Script.Separated
import Affordance.Proofs.Text.Forward
import Affordance.Proofs.Text.Pieces
import Affordance.Proofs.Text.Stripped
import Affordance.Script.Entries

/-!
# Object literals are read back

  * `Entry`: an entry of an object literal, a bare key or a key with a value behind a colon or an
    equals sign; `objectText`: the literal.
  * `attempt_modifier_off`: a key is not taken for one of the words that can stand before a key,
    although it may be that word. So the pattern of an entry finds the key and the value
    (`matchStart_entryPattern`), and the pattern of a default does (`matchStart_defaultPattern`).
  * `entryOf_render`, `defaultOf_render`: an entry is read back by itself, whichever of the two
    patterns reads it.
  * **`entries_objectText`**: an object literal is read back as its entries, and as a destructuring
    pattern if it has no colons.
-/

namespace Affordance.Script

open Affordance.Text
open Affordance.Text.Pattern
open Affordance.Text.Source (Ahead)

/-! ## 1. Entries -/

/-- The name of an entry. -/
structure Key where
  chars : List Char
  nonempty : chars ≠ []
  isName : ∀ c ∈ chars, isNameChar c = true

/-- The value of an entry: an expression without white space around it, and with commas inside of
    its brackets and literals only. -/
structure EntryValue where
  chars : List Char
  nonempty : chars ≠ []
  stripped : strip chars = chars
  apart : Apart [','] chars

/-- An entry of an object literal or of a destructuring pattern. -/
inductive Entry where
  | bare (k : Key)
  | colon (k : Key) (v : EntryValue)
  | equals (k : Key) (v : EntryValue)

namespace Entry

/-- The key. -/
def key : Entry → Key
  | bare k | colon k _ | equals k _ => k

/-- The value, if there is one. -/
def value? : Entry → Option EntryValue
  | bare _ => none
  | colon _ v | equals _ v => some v

/-- The white space behind the key. -/
def gap : Entry → List Char
  | bare _ | colon _ _ => []
  | equals _ _ => [' ']

/-- What stands behind that white space: nothing, or a sign and the value. -/
def tail : Entry → List Char
  | bare _ => []
  | colon _ v => ':' :: ' ' :: v.chars
  | equals _ v => '=' :: ' ' :: v.chars

/-- The text of an entry. -/
def render (x : Entry) : List Char := x.key.chars ++ (x.gap ++ x.tail)

/-- What an entry declares. -/
def pair (x : Entry) : String × Option String :=
  (String.ofList x.key.chars, x.value?.map fun v => String.ofList v.chars)

/-- The span of the value, if there is one, under a name. -/
def valueSpan (x : Entry) (name : String) : Groups :=
  match x.value? with
  | none => []
  | some v =>
    let start := x.key.chars.length + x.gap.length + 2
    [(name, start, start + v.chars.length)]

/-- The value stands behind a colon. -/
def IsColon : Entry → Prop
  | colon _ _ => True
  | _ => False

end Entry

/-- What stands between the braces of an object literal. -/
def innerText (es : List Entry) : List Char := joinChars [',', ' '] (es.map Entry.render)

/-- The text of an object literal. -/
def objectText (es : List Entry) : List Char := '\x7b' :: (innerText es ++ ['\x7d'])

/-! ## 2. What the text of an entry consists of -/

theorem EntryValue.isSpace_head (v : EntryValue) : ∀ c ∈ v.chars.head?, isSpace c = false := by
  rw [← v.stripped]
  exact isSpace_head_strip v.chars

/-- What ends with the value ends without white space. -/
theorem EntryValue.endsApart (v : EntryValue) (front : List Char) :
    EndsApart isSpace (front ++ v.chars) := by
  refine EndsApart.append ?_ v.nonempty front
  rw [← v.stripped]
  exact isSpace_last_strip v.chars

namespace Key

variable (k : Key)

theorem isSpace_of_mem : ∀ c ∈ k.chars, isSpace c = false := fun c hc =>
  isSpace_of_isTagNameChar (isTagNameChar_of_isNameChar (k.isName c hc))

/-- A key separates nothing. -/
theorem apart {s : List Char} (hs : Apart [','] s) : Apart [','] (k.chars ++ s) :=
  hs.of_plain fun c hc => ⟨isPlain_of_isNameChar (k.isName c hc),
    fun hcomma => ne_of_class (k.isName c hc) (by decide) (List.mem_singleton.mp hcomma)⟩

/-- What begins with a key begins with a character of the key. -/
theorem head_append {s : List Char} {c : Char} (hc : c ∈ (k.chars ++ s).head?) : c ∈ k.chars := by
  rw [List.head?_append_of_ne_nil _ k.nonempty] at hc
  exact List.mem_of_mem_head? hc

end Key

namespace Entry

variable (x : Entry)

theorem gap_cases : x.gap = [] ∨ x.gap = [' '] := by
  cases x with
  | bare => exact .inl rfl
  | colon => exact .inl rfl
  | equals => exact .inr rfl

theorem gap_isSpace : ∀ c ∈ x.gap, isSpace c = true := by
  rcases x.gap_cases with hgap | hgap <;> rw [hgap]
  · exact fun c hc => nomatch hc
  · exact forall_of_all rfl

/-- Behind the key and the white space nothing stands, or a sign that belongs to neither. -/
theorem tail_head : ∀ c ∈ x.tail.head?, c = ':' ∨ c = '=' := by
  cases x with
  | bare => exact fun c hc => nomatch hc
  | colon => exact fun c hc => .inl (by cases hc; rfl)
  | equals => exact fun c hc => .inr (by cases hc; rfl)

/-- A class of characters ends where the white space or the sign is. -/
theorem head_off {p : Char → Bool} (hcolon : p ':' = false) (hequals : p '=' = false) :
    ∀ c ∈ x.tail.head?, p c = false := by
  intro c hc
  rcases x.tail_head c hc with rfl | rfl
  · exact hcolon
  · exact hequals

theorem gap_tail_head {p : Char → Bool} (hblank : p ' ' = false) (hcolon : p ':' = false)
    (hequals : p '=' = false) : ∀ c ∈ (x.gap ++ x.tail).head?, p c = false := by
  rcases x.gap_cases with hgap | hgap <;> rw [hgap]
  · exact x.head_off hcolon hequals
  · rintro c ⟨⟩
    exact hblank

theorem apart : Apart [','] x.render := by
  cases x with
  | bare k => exact k.apart .nil
  | colon k v => exact k.apart (.plain rfl (by decide) (.plain rfl (by decide) v.apart))
  | equals k v =>
    exact k.apart (.plain rfl (by decide) (.plain rfl (by decide) (.plain rfl (by decide) v.apart)))

/-- What is ahead of the key. -/
theorem ahead_gap {src : Source} (h : src.Ahead 0 x.render) :
    src.Ahead x.key.chars.length (x.gap ++ x.tail) := by
  simpa using h.drop

theorem ahead_tail {src : Source} (h : src.Ahead 0 x.render) :
    src.Ahead (x.key.chars.length + x.gap.length) x.tail :=
  (x.ahead_gap h).drop

theorem render_ne_nil : x.render ≠ [] := fun h =>
  x.key.nonempty (List.append_eq_nil_iff.mp h).1

/-- An entry has no white space around it. -/
theorem strip_render : strip x.render = x.render := by
  have hends : EndsApart isSpace x.render := by
    cases x with
    | bare k => simpa [render, key, gap, tail] using endsApart_of_forall k.isSpace_of_mem
    | colon k v => simpa [render, key, gap, tail] using v.endsApart (k.chars ++ [':', ' '])
    | equals k v => simpa [render, key, gap, tail] using v.endsApart (k.chars ++ [' ', '=', ' '])
  exact strip_of_ends (fun c hc => x.key.isSpace_of_mem c (x.key.head_append hc)) hends

end Entry

/-! ## 3. The patterns of entries -/

section Patterns

variable {src : Source} {g : Groups} {k : Cont} {r : Reached} {x : Entry}

/-- **A key is not taken for a word before a key.** Where it is that word, no key follows. -/
theorem attempt_modifier_off {w : String} (hw : ∀ c ∈ w.toList, isNameChar c = true)
    (h : src.Ahead 0 x.render) (hk : ∀ j g, src.Ahead j x.tail → k j g = none) :
    attempt src (lit w ++ space1) 0 g k = none := by
  cases hstarts : startsWith x.render w.toList with
  | false => exact attempt_append_of_none fun _ => attempt_lit_off w h hstarts
  | true =>
    obtain ⟨rest, hcut⟩ := (startsWith_iff _ _).mp hstarts
    rw [hcut] at h
    rw [attempt_append, attempt_lit w h, space1, runs, attempt_append]
    by_cases hspace : ∀ c ∈ rest.head?, isSpace c = false
    · exact attempt_one_off h.drop hspace
    · -- White space ends the word, so the word is the key.
      have hrest : ∀ c ∈ rest.head?, isNameChar c = false := by
        intro c hc
        cases hname : isNameChar c with
        | false => rfl
        | true =>
          refine absurd (fun d hd => ?_) hspace
          obtain rfl : c = d := Option.some.inj (hc.symm.trans hd)
          exact isSpace_of_isTagNameChar (isTagNameChar_of_isNameChar hname)
      obtain ⟨-, hsame⟩ := leading_eq hcut x.key.isName hw
        (x.gap_tail_head (by decide) (by decide) (by decide)) hrest
      rcases x.gap_cases with hgap | hgap
      · rw [hgap, List.nil_append] at hsame
        rw [← hsame] at hspace
        exact absurd (x.head_off (by decide) (by decide)) hspace
      · rw [hgap] at hsame
        obtain rfl := hsame
        have htail : src.Ahead (0 + w.toList.length) (' ' :: x.tail) := h.drop
        rw [attempt_one htail rfl, attempt_run_nil htail.tail (x.head_off (by decide) (by decide))]
        exact hk _ _ htail.tail

/-- None of the words before a key is read, neither one nor two of them. -/
theorem attempt_modifiers_off (h : src.Ahead 0 x.render)
    (hk : ∀ j g, src.Ahead j x.tail → k j g = none) :
    attempt src (opt (lit "async" ++ space1) ++
      opt (alt (lit "get" ++ space1) (lit "set" ++ space1))) 0 g k = k 0 g := by
  have hword : ∀ {w : String} {j : Nat} {g}, src.Ahead j x.tail →
      startsWith x.tail w.toList = false → attempt src (lit w ++ space1) j g k = none :=
    fun hj hw => attempt_append_of_none fun _ => attempt_lit_off _ hj hw
  have hsecond : ∀ j g, src.Ahead j x.tail →
      attempt src (opt (alt (lit "get" ++ space1) (lit "set" ++ space1))) j g k = none := by
    intro j g hj
    have hget := hword (w := "get") (g := g) hj (by cases x <;> rfl)
    have hset := hword (w := "set") (g := g) hj (by cases x <;> rfl)
    rw [attempt_opt_of_none ((attempt_alt_of_none hget).trans hset)]
    exact hk j g hj
  have hget := attempt_modifier_off (g := g) (w := "get") (forall_of_all rfl) h hk
  have hset := attempt_modifier_off (g := g) (w := "set") (forall_of_all rfl) h hk
  rw [attempt_append, attempt_opt_of_none (attempt_modifier_off (forall_of_all rfl) h hsecond),
    attempt_opt_of_none ((attempt_alt_of_none hget).trans hset)]

/-- The pattern of an entry passes the key and the white space behind it. -/
theorem attempt_entryPattern (h : src.Ahead 0 x.render)
    (hrest : attempt src (opt (one (fun c => c == ':' || c == '=') ++ space ++
        group "value" (run fun _ => true)) ++ atEnd) (x.key.chars.length + x.gap.length)
      [("key", 0, x.key.chars.length), ("quote", 0, 0)] k = some r) :
    attempt src entryPattern 0 [] k = some r := by
  have hkey : ∀ c ∈ x.key.chars, (isNameChar c || c == '-') = true := fun c hc => by
    rw [x.key.isName c hc, Bool.true_or]
  have hquote : ∀ c ∈ x.render.head?, (c == '\'' || c == '"') = false := fun c hc => by
    have hc := x.key.isName c (x.key.head_append hc)
    simp [ne_of_class hc (d := '\'') (by decide), ne_of_class hc (d := '"') (by decide)]
  have hempty : src.at_ x.key.chars.length (src.slice 0 0) = true := by
    simp [Source.slice]
  change attempt src (opt (lit "async" ++ space1) ++
    opt (alt (lit "get" ++ space1) (lit "set" ++ space1))) 0 [] _ = some r
  rw [attempt_modifiers_off h fun j g hj => ?nokey]
  · rw [attempt_named, attempt_opt_of_none (attempt_one_off h hquote), attempt_named]
    refine attempt_runs h x.key.nonempty hkey
      (x.gap_tail_head (by decide) (by decide) (by decide)) ?_
    rw [Nat.zero_add, attempt_again rfl hempty, Nat.sub_self, Nat.add_zero]
    -- The white space behind the key is passed at once, so nothing is left before the sign.
    refine attempt_run (x.ahead_gap h) x.gap_isSpace (x.head_off (by decide) (by decide)) ?_
    rw [attempt_opt_of_none (attempt_char_off (x.ahead_tail h) ?_),
      attempt_space_nil (x.ahead_tail h) (x.head_off (by decide) (by decide))]
    · exact hrest
    · intro hc
      rcases x.tail_head _ hc with hc | hc <;> exact absurd hc (by decide)
  case nokey =>
    have hoff : ∀ {p g k}, p ':' = false → p '=' = false → attempt src (one p) j g k = none :=
      fun hcolon hequals => attempt_one_off hj (x.head_off hcolon hequals)
    rw [attempt_named, attempt_opt_of_none (hoff (by decide) (by decide)), attempt_named, runs]
    exact attempt_append_of_none fun _ => hoff (by decide) (by decide)

/-- The pattern of a value passes the sign and all that is left behind the blank. -/
theorem attempt_signed {p : Char → Bool} {a : Pattern} {name : String} {sign : Char} {i : Nat}
    {v : EntryValue} (h : src.Ahead i (sign :: ' ' :: v.chars)) (hp : p sign = true)
    (ha : ∀ {s : List Char} {j : Nat} {g k}, src.Ahead j (s ++ []) → s ≠ [] →
      k (j + s.length) g = some r → attempt src a j g k = some r)
    (hk : k src.size ((name, i + 2, i + 2 + v.chars.length) :: g) = some r) :
    attempt src (opt (one p ++ space ++ group name a) ++ atEnd) i g k = some r := by
  have hend : i + 2 + v.chars.length = src.size := by
    rw [h.size (Nat.le_of_lt (lt_size h.head)), List.length_cons, List.length_cons]
    omega
  rw [attempt_append]
  refine attempt_opt_of_some ?_
  rw [attempt_append, attempt_append, attempt_one h hp]
  refine attempt_run (a := [' ']) h.tail (forall_of_all rfl) v.isSpace_head ?_
  rw [attempt_named]
  refine ha (by rw [List.append_nil]; exact h.tail.tail) v.nonempty ?_
  rw [List.length_singleton, attempt_atEnd hend, hend]
  rwa [hend] at hk

/-- The pattern of a value passes all that is left of an entry behind its key. -/
theorem attempt_value {p : Char → Bool} {a : Pattern} {name : String}
    (h : src.Ahead 0 x.render) (hp : ∀ c ∈ x.tail.head?, p c = true)
    (ha : ∀ {s : List Char} {j : Nat} {g k}, src.Ahead j (s ++ []) → s ≠ [] →
      k (j + s.length) g = some r → attempt src a j g k = some r)
    (hk : k src.size (x.valueSpan name ++ g) = some r) :
    attempt src (opt (one p ++ space ++ group name a) ++ atEnd)
      (x.key.chars.length + x.gap.length) g k = some r := by
  have htail := x.ahead_tail h
  have hsize : x.key.chars.length + x.gap.length + x.tail.length = src.size := by
    rw [h.size (Nat.zero_le _), Entry.render, List.length_append, List.length_append]
    omega
  cases x with
  | bare key =>
    have hend : (Entry.bare key).key.chars.length + (Entry.bare key).gap.length = src.size := hsize
    rw [attempt_append, attempt_opt_of_none, attempt_atEnd hend, hend]
    · exact hk
    · rw [attempt_append, attempt_append]
      exact attempt_one_off htail fun _ hc => nomatch hc
  | colon key v => exact attempt_signed htail (hp ':' rfl) ha hk
  | equals key v => exact attempt_signed htail (hp '=' rfl) ha hk

end Patterns

/-! ## 4. Entries are read back -/

namespace Entry

variable (x : Entry)

/-- The pattern of an entry finds the key and the value. -/
theorem matchStart_entryPattern : entryPattern.matchStart x.render =
    some ⟨x.render.toArray, 0, x.render.toArray.size,
      x.valueSpan "value" ++ [("key", 0, x.key.chars.length), ("quote", 0, 0)]⟩ := by
  have h : Source.Ahead x.render.toArray 0 x.render := Source.ahead_toArray _
  have hmatch : attempt x.render.toArray entryPattern 0 [] (fun j g => some (j, g)) =
      some (x.render.toArray.size,
        x.valueSpan "value" ++ [("key", 0, x.key.chars.length), ("quote", 0, 0)]) := by
    refine attempt_entryPattern h (attempt_value h ?_ ?_ rfl)
    · intro c hc
      rcases x.tail_head c hc with rfl | rfl <;> rfl
    · intro s j g k hs _ hk
      exact attempt_run hs (fun _ _ => rfl) (fun _ hc => nomatch hc) hk
  rw [matchStart, matchAt, hmatch]
  rfl

/-- The pattern of a default finds them as well, if no colon stands between them. -/
theorem matchStart_defaultPattern (hx : ¬ x.IsColon) : defaultPattern.matchStart x.render =
    some ⟨x.render.toArray, 0, x.render.toArray.size,
      x.valueSpan "default" ++ [("key", 0, x.key.chars.length)]⟩ := by
  have h : Source.Ahead x.render.toArray 0 x.render := Source.ahead_toArray _
  have hequals : ∀ c ∈ x.tail.head?, c = '=' := by
    intro c hc
    cases x with
    | bare => cases hc
    | colon => exact absurd trivial hx
    | equals => exact (Option.some.inj hc).symm
  have hmatch : attempt x.render.toArray defaultPattern 0 [] (fun j g => some (j, g)) =
      some (x.render.toArray.size, x.valueSpan "default" ++ [("key", 0, x.key.chars.length)]) := by
    rw [defaultPattern, attempt_append, attempt_append, attempt_append, attempt_append,
      attempt_named]
    refine attempt_runs h x.key.nonempty x.key.isName
      (x.gap_tail_head (by decide) (by decide) (by decide)) ?_
    rw [Nat.zero_add]
    refine attempt_run (x.ahead_gap h) x.gap_isSpace (x.head_off (by decide) (by decide)) ?_
    rw [attempt_opt_of_none]
    · rw [← attempt_append]
      refine attempt_value h ?_ ?_ rfl
      · intro c hc
        rw [hequals c hc]
        rfl
      · intro s j g k hs hne hk
        exact attempt_runs hs hne (fun _ _ => rfl) (fun _ hc => nomatch hc) hk
    · rw [attempt_append, attempt_append, attempt_append]
      refine attempt_char_off (x.ahead_tail h) fun hc => ?_
      exact absurd (hequals _ hc) (by decide)
  rw [matchStart, matchAt, hmatch]
  rfl

theorem slice_key : Source.slice x.render.toArray 0 x.key.chars.length = x.key.chars := by
  have h : Source.Ahead x.render.toArray 0 x.render := Source.ahead_toArray _
  simpa using h.slice

theorem slice_value {v : EntryValue} (hv : x.value? = some v) :
    Source.slice x.render.toArray (x.key.chars.length + x.gap.length + 2)
      (x.key.chars.length + x.gap.length + 2 + v.chars.length) = v.chars := by
  have htail := x.ahead_tail (Source.ahead_toArray _)
  have hcut : ∃ sign, x.tail = sign :: ' ' :: (v.chars ++ []) := by
    rw [List.append_nil]
    cases x <;> cases hv <;> exact ⟨_, rfl⟩
  obtain ⟨sign, hcut⟩ := hcut
  rw [hcut] at htail
  exact htail.tail.tail.slice

/-- What an entry declares is told by the spans of its key and its value. -/
theorem pair_of_spans {name : String} {spans : Groups} {stop : Nat} (hname : name ≠ "key")
    (hspans : spans.lookup name = none) {m : Match} (hm : m = ⟨x.render.toArray, 0, stop,
      x.valueSpan name ++ ("key", 0, x.key.chars.length) :: spans⟩) :
    (m.text "key", (m.chars? name).map fun v => String.ofList (strip v)) = x.pair := by
  have hkey : ("key" == name) = false := beq_false_of_ne hname.symm
  have hvalue : (name == "key") = false := beq_false_of_ne hname
  subst hm
  cases hv : x.value? with
  | none =>
    simp only [Match.text, Match.text?, Match.chars?, valueSpan, pair, hv, List.nil_append,
      List.lookup_cons, beq_self_eq_true, hvalue, hspans, Option.map_some, Option.map_none,
      Option.getD_some, x.slice_key]
  | some v =>
    simp only [Match.text, Match.text?, Match.chars?, valueSpan, pair, hv, List.cons_append,
      List.nil_append, List.lookup_cons, beq_self_eq_true, hkey, Option.map_some, Option.getD_some,
      x.slice_key, x.slice_value hv, v.stripped]

/-- **An entry of an object literal is read back.** -/
theorem entryOf_render : entryOf x.render = some x.pair := by
  have hdots : startsWith x.render "...".toList = false := by
    obtain ⟨c, s, hs⟩ := List.exists_cons_of_ne_nil x.render_ne_nil
    have hc := x.key.isName c (x.key.head_append (s := x.gap ++ x.tail) (by rw [← render, hs]; rfl))
    rw [hs]
    simp [startsWith, ne_of_class hc (d := '.') (by decide)]
  rw [entryOf, hdots, List.isEmpty_eq_false_iff.mpr x.render_ne_nil, x.matchStart_entryPattern]
  exact congrArg some (x.pair_of_spans (by decide) rfl rfl)

/-- **An entry of a destructuring pattern is read back.** -/
theorem defaultOf_render (hx : ¬ x.IsColon) : defaultOf x.render = some x.pair := by
  rw [defaultOf, x.matchStart_defaultPattern hx]
  exact congrArg some (x.pair_of_spans (by decide) rfl rfl)

end Entry

/-! ## 5. Literals are read back -/

theorem strip_objectText (es : List Entry) : strip (objectText es) = objectText es :=
  strip_eq_self (by decide) (by decide)

theorem insideBraces_objectText (es : List Entry) :
    insideBraces (objectText es) = innerText es := by
  have hend : stripEnd (innerText es ++ ['\x7d']) = innerText es ++ ['\x7d'] :=
    stripEndBy_append_cons (by decide) _ []
  rw [insideBraces, strip_objectText, objectText]
  simp only [hend, List.reverse_append, List.reverse_singleton, List.singleton_append,
    List.reverse_reverse]

theorem insidePattern_objectText (es : List Entry) :
    insidePattern (objectText es) = innerText es := by
  rw [insidePattern, strip_objectText, objectText]
  exact List.dropLast_concat

/-- Entries behind each other are cut where one ends. -/
theorem splitTop_innerText (es : List Entry) :
    splitTop [','] (innerText es) = es.map Entry.render := by
  have hes : ∀ e ∈ es.map Entry.render, Apart [','] e ∧ e ≠ [] := by
    intro e he
    obtain ⟨x, -, rfl⟩ := List.mem_map.mp he
    exact ⟨x.apart, x.render_ne_nil⟩
  rw [innerText, splitTop_listed (forall_of_all rfl) (List.mem_singleton_self ',') (by decide) hes,
    List.map_map]
  exact List.map_congr_left fun x _ => x.strip_render

theorem filterMap_render {f : List Char → Option (String × Option String)} {es : List Entry}
    (hf : ∀ x ∈ es, f x.render = some x.pair) :
    (es.map Entry.render).filterMap f = es.map Entry.pair := by
  rw [List.filterMap_map, ← List.filterMap_eq_map]
  exact List.filterMap_congr hf

/-- **Object literals are read back**: a literal is cut into its entries, with their values as they
    stand. Without colons it is read back as a destructuring pattern as well. -/
theorem entries_objectText (es : List Entry) :
    entries (objectText es) = es.map Entry.pair ∧
      ((∀ x ∈ es, ¬ x.IsColon) → defaults (objectText es) = es.map Entry.pair) := by
  constructor
  · rw [entries, insideBraces_objectText, splitTop_innerText]
    exact filterMap_render fun x _ => x.entryOf_render
  · intro hes
    rw [defaults, insidePattern_objectText, splitTop_innerText]
    exact filterMap_render fun x hx => x.defaultOf_render (hes x hx)

/-- Values with commas, quotes and braces in them are read back, and keys that are words which can
    stand before a key. -/
theorem nested_entries_read_back :
    entries "\x7bget, set = f(x, `$\x7by\x7d,`), async = \x7bb: [1, ',']\x7d\x7d".toList =
      [("get", none), ("set", some "f(x, `$\x7by\x7d,`)"), ("async", some "\x7bb: [1, ',']\x7d")] ∧
    defaults "\x7bget, set = f(x, `$\x7by\x7d,`), async = \x7bb: [1, ',']\x7d\x7d".toList =
      [("get", none), ("set", some "f(x, `$\x7by\x7d,`)"),
        ("async", some "\x7bb: [1, ',']\x7d")] := by
  have htemplate : CodeTemplate "$\x7by\x7d,".toList :=
    .hole (e := ['y']) (.plain (by decide) .nil) (.char (by decide) (by decide) (by decide) .nil)
  have harguments : Code "x, `$\x7by\x7d,`".toList :=
    .plain (by decide) (.plain (by decide) (.plain (by decide) (.template htemplate .nil)))
  have hcall : Apart [','] "f(x, `$\x7by\x7d,`)".toList :=
    .plain (by decide) (by decide) (.group rfl harguments .nil)
  have hstring : Code "','".toList :=
    .string (b := [',']) (.inl rfl) (.char (by decide) (by decide) (by decide) .nil) .nil
  have harray : Code "[1, ',']".toList :=
    .group (e := "1, ','".toList) rfl
      (.plain (by decide) (.plain (by decide) (.plain (by decide) hstring))) .nil
  have hobject : Apart [','] "\x7bb: [1, ',']\x7d".toList :=
    .group (e := "b: [1, ',']".toList) rfl
      (.plain (by decide) (.plain (by decide) (.plain (by decide) harray))) .nil
  have h := entries_objectText [.bare ⟨"get".toList, by decide, forall_of_all rfl⟩,
    .equals ⟨"set".toList, by decide, forall_of_all rfl⟩ ⟨_, by decide, by decide, hcall⟩,
    .equals ⟨"async".toList, by decide, forall_of_all rfl⟩ ⟨_, by decide, by decide, hobject⟩]
  exact ⟨h.1, h.2 (by simp [Entry.IsColon])⟩

end Affordance.Script
