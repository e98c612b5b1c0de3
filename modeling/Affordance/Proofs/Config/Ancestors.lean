import Mathlib.Data.List.Basic
import Affordance.Config.Lookup

/-!
# The directories above a directory

  * `Ascends`: a list of directories begins with a directory, goes on with the parent of each, and
    ends with one that is its own parent.
  * `place`: an absolute directory by its parts, the latest first.  `parent_place`: the directory
    above it lacks the latest part.
  * `splitOn_joinChars`: the parts of a path are found again.  `baseName_join`: so is the name of a
    file in a directory.
  * **`searched_ascends`**: the search for settings goes from its directory up to the top.
-/

namespace Affordance

open Affordance.Text

/-! ## 1. Pieces of a text -/

section Pieces

variable {sep : Char}

theorem not_mem_of_mem_splitOn : ∀ {s piece : List Char}, piece ∈ splitOn sep s → sep ∉ piece
  | [], piece, h => by
    rw [splitOn, List.mem_singleton] at h
    simp [h]
  | c :: s, piece, h => by
    rw [splitOn] at h
    split at h
    · rcases List.mem_cons.mp h with rfl | h
      · simp
      · exact not_mem_of_mem_splitOn h
    · next hc =>
      have hc : sep ≠ c := fun heq => hc (beq_iff_eq.mpr heq.symm)
      split at h
      · rw [List.mem_singleton] at h
        simp [h, hc]
      · next first rest hs =>
        rcases List.mem_cons.mp h with rfl | h
        · have hfirst : sep ∉ first :=
            not_mem_of_mem_splitOn (by rw [hs]; exact List.mem_cons_self)
          simp [hc, hfirst]
        · exact not_mem_of_mem_splitOn (by rw [hs]; exact List.mem_cons_of_mem _ h)

theorem splitOn_of_not_mem : ∀ {piece : List Char}, sep ∉ piece → splitOn sep piece = [piece]
  | [], _ => rfl
  | c :: piece, h => by
    obtain ⟨hc, hpiece⟩ := not_or.mp (mt List.mem_cons.mpr h)
    rw [splitOn, if_neg (by simpa using Ne.symm hc), splitOn_of_not_mem hpiece]

theorem splitOn_append (s : List Char) : ∀ {piece : List Char}, sep ∉ piece →
    splitOn sep (piece ++ sep :: s) = piece :: splitOn sep s
  | [], _ => by simp [splitOn]
  | c :: piece, h => by
    obtain ⟨hc, hpiece⟩ := not_or.mp (mt List.mem_cons.mpr h)
    rw [List.cons_append, splitOn, if_neg (by simpa using Ne.symm hc), splitOn_append s hpiece]

/-- Pieces that are joined by a separator are found again. -/
theorem splitOn_joinChars : ∀ {pieces : List (List Char)}, pieces ≠ [] →
    (∀ p ∈ pieces, sep ∉ p) → splitOn sep (joinChars [sep] pieces) = pieces
  | [p], _, h => splitOn_of_not_mem (h p (by simp))
  | p :: q :: rest, _, h => by
    obtain ⟨hp, hrest⟩ := List.forall_mem_cons.mp h
    rw [joinChars, List.append_assoc, List.singleton_append, splitOn_append _ hp,
      splitOn_joinChars (List.cons_ne_nil q rest) hrest]

theorem joinChars_concat (p : List Char) : ∀ {pieces : List (List Char)}, pieces ≠ [] →
    joinChars [sep] (pieces ++ [p]) = joinChars [sep] pieces ++ sep :: p
  | [q], _ => by simp [joinChars]
  | q :: r :: rest, _ => by
    have ih := joinChars_concat p (List.cons_ne_nil r rest)
    rw [List.cons_append] at ih
    rw [List.cons_append, List.cons_append, joinChars, ih, joinChars]
    simp

end Pieces

namespace ConfigFile

/-! ## 2. Directories -/

/-- A part of a path: it is not empty, and has no slash. -/
def IsPart (p : List Char) : Prop := p ≠ [] ∧ '/' ∉ p

/-- What stands at the beginning of an absolute path. -/
def IsTop (top : List Char) : Prop := top = ['/'] ∨ top = ['/', '/']

/-- The directory of parts below a top, latest part first. -/
def place (top : List Char) (parts : List (List Char)) : String :=
  String.ofList (top ++ joinChars ['/'] parts.reverse)

/-- Parts end with another character than a slash. -/
theorem joinChars_parts {parts : List (List Char)} (hne : parts ≠ []) (h : ∀ p ∈ parts, IsPart p) :
    ∃ front c, joinChars ['/'] parts = front ++ [c] ∧ c ≠ '/' := by
  obtain ⟨init, last, rfl⟩ := List.eq_nil_or_concat parts |>.resolve_left hne
  obtain ⟨hlast, hslash⟩ := h last (by simp)
  obtain ⟨front, c, rfl⟩ := List.eq_nil_or_concat last |>.resolve_left hlast
  have hc : c ≠ '/' := by
    rintro rfl
    simp at hslash
  by_cases hinit : init = []
  · exact ⟨front, c, by simp [hinit, joinChars], hc⟩
  · rw [List.concat_eq_append, joinChars_concat _ hinit]
    exact ⟨joinChars ['/'] init ++ '/' :: front, c, by simp, hc⟩

theorem forall_ne_slash {part : List Char} (h : '/' ∉ part) :
    ∀ c ∈ part.reverse, decide (c ≠ '/') = true := by
  intro c hc
  refine decide_eq_true fun hslash => h ?_
  rwa [hslash, List.mem_reverse] at hc

theorem parent_of_slash {front part : List Char} (hpart : '/' ∉ part) :
    Path.parent (String.ofList (front ++ '/' :: part)) =
      String.ofList (if (stripEndBy (· == '/') front).isEmpty then front ++ ['/']
        else stripEndBy (· == '/') front) := by
  have hhead : ((front ++ '/' :: part).reverse.dropWhile (· ≠ '/')).reverse = front ++ ['/'] := by
    rw [List.reverse_append, List.reverse_cons, List.append_assoc,
      List.dropWhile_append_of_pos (forall_ne_slash hpart)]
    simp
  have hbare : stripEndBy (· == '/') (front ++ ['/']) = stripEndBy (· == '/') front := by
    simp [stripEndBy]
  unfold Path.parent
  rw [String.toList_ofList, hhead]
  dsimp only
  rw [hbare]

/-- The last part of a path below a directory is the name that was put there. -/
theorem baseName_join (dir : String) {name : String} (h : '/' ∉ name.toList) :
    Path.baseName (Path.join dir name) = name := by
  have hnot : startsWith name.toList ['/'] = false := by
    rw [Bool.eq_false_iff, Ne, startsWith_iff]
    rintro ⟨rest, hrest⟩
    simp [hrest] at h
  obtain ⟨front, hjoin, hfront⟩ : ∃ front, (Path.join dir name).toList = front ++ name.toList ∧
      front.reverse.takeWhile (· ≠ '/') = [] := by
    unfold Path.join
    rw [hnot, if_neg (by simp)]
    split
    · next hdir =>
      rcases Bool.or_eq_true_iff.mp hdir with hdir | hdir
      · exact ⟨[], by simp [of_decide_eq_true hdir], rfl⟩
      · obtain ⟨rest, hrest⟩ := (startsWith_iff _ _).mp hdir
        refine ⟨dir.toList, by simp, ?_⟩
        rw [hrest]
        rfl
    · exact ⟨dir.toList ++ ['/'], by simp, by simp⟩
  rw [Path.baseName, hjoin, List.reverse_append,
    List.takeWhile_append_of_pos (forall_ne_slash h), hfront, List.append_nil,
    List.reverse_reverse, String.ofList_toList]

/-- The directory above one lacks its latest part; the top is above itself. -/
theorem parent_place {top : List Char} (htop : IsTop top) : ∀ {parts : List (List Char)},
    (∀ p ∈ parts, IsPart p) → Path.parent (place top parts) = place top parts.tail
  | [], _ => by rcases htop with rfl | rfl <;> decide
  | part :: above, h => by
    obtain ⟨hpart, habove⟩ := List.forall_mem_cons.mp h
    unfold place
    rw [List.reverse_cons, List.tail_cons]
    by_cases hne : above.reverse = []
    · rw [hne, List.nil_append]
      rcases htop with rfl | rfl
      · exact @parent_of_slash [] part hpart.2
      · exact @parent_of_slash ['/'] part hpart.2
    · obtain ⟨front, c, hfront, hc⟩ := joinChars_parts hne
        fun p hp => habove p (List.mem_reverse.mp hp)
      have hstrip : stripEndBy (· == '/') (top ++ (front ++ [c])) = top ++ (front ++ [c]) := by
        simp [stripEndBy, hc]
      rw [joinChars_concat part hne, ← List.append_assoc, parent_of_slash hpart.2, hfront, hstrip,
        if_neg (by simp)]

/-! ## 3. Directories from one upwards -/

/-- The directories go from one upwards: the parent of each is the next, and the last is its own. -/
structure Ascends (dir : String) (dirs : List String) : Prop where
  first : dirs.head? = some dir
  next : dirs.IsChain fun below above => Path.parent below = above
  last : ∀ top, dirs.getLast? = some top → Path.parent top = top

theorem upwards_eq_cons (top : List Char) : ∀ parts : List (List Char),
    ∃ rest, upwards top parts = place top parts :: rest
  | [] => ⟨[], by simp [upwards, place, joinChars]⟩
  | part :: above => ⟨upwards top above, rfl⟩

theorem upwards_ascends {top : List Char} (htop : IsTop top) : ∀ {parts : List (List Char)},
    (∀ p ∈ parts, IsPart p) → Ascends (place top parts) (upwards top parts)
  | [], h => by
    have hsame : upwards top [] = [place top []] := by simp [upwards, place, joinChars]
    rw [hsame]
    exact ⟨rfl, .singleton _, fun dir hdir => by cases hdir; exact parent_place htop h⟩
  | part :: above, h => by
    obtain ⟨rest, hrest⟩ := upwards_eq_cons top above
    have ih := upwards_ascends htop (List.forall_mem_cons.mp h).2
    have hsame : upwards top (part :: above) = place top (part :: above) :: upwards top above := rfl
    rw [hrest] at hsame ih
    rw [hsame]
    exact ⟨rfl, .cons_cons (parent_place htop h) ih.next, ih.last⟩

/-- Parts that are joined do not begin with a slash. -/
theorem joinChars_ne_slash {parts : List (List Char)} (h : ∀ p ∈ parts, IsPart p)
    (rest : List Char) : joinChars ['/'] parts ≠ '/' :: rest := by
  intro hslash
  by_cases hne : parts = []
  · rw [hne] at hslash
    cases hslash
  · have hparts := splitOn_joinChars hne fun p hp => (h p hp).2
    rw [hslash, splitOn, if_pos (by rfl)] at hparts
    exact (h [] (by simp [← hparts])).1 rfl

/-- The directories above one are found by its parts. -/
theorem ancestors_place {top : List Char} (htop : IsTop top) {parts : List (List Char)}
    (h : ∀ p ∈ parts, IsPart p) : ancestors (place top parts) = upwards top parts := by
  have hrev : ∀ p ∈ parts.reverse, IsPart p := fun p hp => h p (List.mem_reverse.mp hp)
  have hpieces : (splitOn '/' (joinChars ['/'] parts.reverse)).filter (fun p => !p.isEmpty) =
      parts.reverse := by
    by_cases hne : parts.reverse = []
    · rw [hne]
      rfl
    · rw [splitOn_joinChars hne fun p hp => (hrev p hp).2, List.filter_eq_self]
      intro p hp
      simp [(hrev p hp).1]
  have hstart : startsWith (joinChars ['/'] parts.reverse) ['/'] = false := by
    rw [Bool.eq_false_iff, Ne, startsWith_iff]
    exact fun ⟨rest, hrest⟩ => joinChars_ne_slash hrev rest hrest
  unfold ancestors place
  rw [String.toList_ofList]
  rcases htop with rfl | rfl
  · simp [startsWith, splitOn, hstart, hpieces]
  · simp [startsWith, splitOn, hpieces]

/-! ## 4. Searches -/

theorem isPart_of_kept {piece : List Char} {pieces : List (List Char)}
    (hkept : ¬ (piece.isEmpty || piece == ['.']) = true) (h : ∀ p ∈ piece :: pieces, '/' ∉ p) :
    IsPart piece :=
  ⟨fun heq => hkept (by simp [heq]), h piece List.mem_cons_self⟩

/-- What is left of pieces without slashes are parts. -/
theorem resolveParts_isPart {absolute_ : Bool} {acc pieces : List (List Char)}
    (hacc : ∀ p ∈ acc, IsPart p) (h : ∀ p ∈ pieces, '/' ∉ p) :
    ∀ p ∈ Path.resolveParts absolute_ acc pieces, IsPart p := by
  fun_induction Path.resolveParts absolute_ acc pieces with
  | case1 acc => exact fun p hp => hacc p (List.mem_reverse.mp hp)
  | case2 acc piece rest hskip ih => exact ih hacc (List.forall_mem_cons.mp h).2
  | case3 piece rest hkept hdots ih =>
    refine ih ?_ (List.forall_mem_cons.mp h).2
    split
    · simp
    · exact List.forall_mem_singleton.mpr (isPart_of_kept hkept h)
  | case4 piece rest hkept hdots first below ih =>
    refine ih ?_ (List.forall_mem_cons.mp h).2
    split
    · exact List.forall_mem_cons.mpr ⟨isPart_of_kept hkept h, hacc⟩
    · exact (List.forall_mem_cons.mp hacc).2
  | case5 acc piece rest hkept hdots ih =>
    refine ih ?_ (List.forall_mem_cons.mp h).2
    exact List.forall_mem_cons.mpr ⟨isPart_of_kept hkept h, hacc⟩

/-- An absolute path leads to a place. -/
theorem absolute_eq_place {home : String} (hhome : startsWith home.toList ['/'] = true)
    (start : String) : ∃ top parts, IsTop top ∧ (∀ p ∈ parts, IsPart p) ∧
      Path.absolute home start = place top parts := by
  obtain ⟨rest, hjoin⟩ : ∃ rest, (Path.join home start).toList = '/' :: rest := by
    obtain ⟨rest, hrest⟩ := (startsWith_iff _ _).mp hhome
    unfold Path.join
    split
    · next hstart => exact (startsWith_iff _ _).mp hstart
    · split
      · exact ⟨rest ++ start.toList, by simp [hrest]⟩
      · exact ⟨rest ++ '/' :: start.toList, by simp [hrest]⟩
  have hpieces : ∀ p ∈ Path.resolveParts true [] (splitOn '/' ('/' :: rest)), IsPart p :=
    resolveParts_isPart (by simp) fun p hp => not_mem_of_mem_splitOn hp
  obtain ⟨n, hslashes⟩ : ∃ n, (('/' :: rest).takeWhile (· == '/')).length = n + 1 :=
    ⟨_, List.length_cons⟩
  have hnormal : Path.absolute home start = place (if n = 1 then ['/', '/'] else ['/'])
      (Path.resolveParts true [] (splitOn '/' ('/' :: rest))).reverse := by
    unfold Path.absolute Path.normal place
    rw [hjoin]
    dsimp only
    rw [hslashes, List.reverse_reverse]
    by_cases hn : n = 1
    · simp [hn]
    · simp [hn]
  refine ⟨_, _, ?_, fun p hp => hpieces p (List.mem_reverse.mp hp), hnormal⟩
  split
  · exact .inr rfl
  · exact .inl rfl

/-- **A search for settings goes from its directory up to the top**: the directory of the path if a
    file is there, else the path itself. -/
theorem searched_ascends {d : Disk} (hhome : startsWith d.home.toList ['/'] = true)
    (start : String) :
    let p := Path.absolute d.home start
    Ascends (if d.isFile p then Path.parent p else p) (searched d start) := by
  obtain ⟨top, parts, htop, hparts, hp⟩ := absolute_eq_place hhome start
  unfold searched
  dsimp only
  rw [hp]
  split
  · have htail : ∀ p ∈ parts.tail, IsPart p := fun p hp => hparts p (List.mem_of_mem_tail hp)
    rw [parent_place htop hparts, ancestors_place htop htail]
    exact upwards_ascends htop htail
  · rw [ancestors_place htop hparts]
    exact upwards_ascends htop hparts

end ConfigFile

end Affordance
