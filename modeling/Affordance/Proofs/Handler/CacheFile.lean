import Affordance.Handler.Cache
import Affordance.Proofs.Json.RoundTrip
import Affordance.Proofs.Text.Fresh
import Affordance.Proofs.Text.Octets

/-!
# The file of a cache

  * `place_ok`: where a file can be written. Another file makes no difference to it.
  * `save_ok`: a write that succeeds puts the text of the entries at that place and changes no
    other file: the draft is gone.
  * `save_error`: a write that fails leaves all files as they were, but for a draft if the fault
    is no refusal of the system.
-/

namespace Affordance

open Affordance.Text

namespace Disk

/-! ## 1. Places -/

section Places

variable (d : Disk) (q : String) (bs : List UInt8)

theorem follow_putFile : ∀ (parts : List (List Char)) (here : String),
    (d.putFile q bs).follow here parts = d.follow here parts
  | [], _ => rfl
  | part :: rest, here => by
    have hdirectory : (d.putFile q bs).hasDirectory here = d.hasDirectory here := rfl
    rw [follow, follow, hdirectory, follow_putFile rest, follow_putFile rest, follow_putFile rest]

/-- Files are no part of the ways on a disk. -/
theorem locate_putFile (path : String) : (d.putFile q bs).locate path = d.locate path := by
  have hparts : (d.putFile q bs).partsOf path = d.partsOf path := rfl
  unfold locate
  rw [hparts, follow_putFile]

end Places

variable {d : Disk} {path p : String}

theorem withoutEndSlashes_eq (h : endsWith path.toList ['/'] = false) :
    withoutEndSlashes path = path := by
  have hstrip : stripEndBy (· == '/') path.toList = path.toList := by
    unfold stripEndBy endsWith at *
    cases hs : path.toList.reverse with
    | nil => rw [List.dropWhile_nil, ← hs, List.reverse_reverse]
    | cons c rest =>
      rw [hs] at h
      have hc : (c == '/') = false := by simpa [startsWith] using h
      rw [List.dropWhile_cons_of_neg (by simp [hc]), ← hs, List.reverse_reverse]
  rw [withoutEndSlashes, hstrip, String.ofList_toList]

/-- **Where a file can be written**: the path leads there, and no directory is there. -/
theorem place_ok (h : d.place path = .ok p) :
    d.locate path = some p ∧ d.hasDirectory p = false ∧ isNoPath path = false := by
  unfold place at h
  split at h
  · cases h
  split at h
  · cases h
  rename_i hnul
  split at h
  · cases h
  split at h
  · cases h
  rename_i q hlocate
  split at h
  · cases h
  rename_i hplain
  simp only [Bool.or_eq_true, not_or, Bool.not_eq_true] at hplain
  split at h
  · cases h
  split at h
  · cases h
    rw [withoutEndSlashes_eq hplain.1] at hlocate
    exact ⟨hlocate, hplain.2, Bool.eq_false_iff.mpr hnul⟩
  · cases h

/-- Another file makes no difference to where a file can be written. -/
theorem place_putFile (d : Disk) (q : String) (bs : List UInt8) (path p : String) :
    (d.putFile q bs).place path = .ok p ↔ d.place path = .ok p := by
  have hdirectory : ∀ r, (d.putFile q bs).hasDirectory r = d.hasDirectory r := fun _ => rfl
  unfold place
  simp only [locate_putFile, hdirectory]
  split
  · rfl
  split
  · rfl
  split
  · rfl
  split
  · simp
  · rfl

/-! ## 2. Directories -/

theorem makeBelow_keeps : ∀ (parts : List (List Char)) (d : Disk) (here : String),
    (left (d.makeBelow here parts)).files = d.files ∧ (left (d.makeBelow here parts)).home = d.home
  | [], _, _ => ⟨rfl, rfl⟩
  | part :: rest, d, here => by
    unfold makeBelow
    dsimp only
    split
    · exact ⟨rfl, rfl⟩
    split
    · exact ⟨rfl, rfl⟩
    split
    · exact makeBelow_keeps rest d _
    split
    · split <;> exact ⟨rfl, rfl⟩
    · exact makeBelow_keeps rest _ _

/-- To make directories changes no file, whether it fails or not. -/
theorem makeDirectories_keeps (d : Disk) (path : String) :
    (left (d.makeDirectories path)).files = d.files ∧
      (left (d.makeDirectories path)).home = d.home := by
  unfold makeDirectories
  split
  · exact ⟨rfl, rfl⟩
  · exact makeBelow_keeps _ d "/"

/-! ## 3. Moving -/

/-- A new file that is taken away again was never there. -/
theorem remove_putFile {q : String} (h : q ∉ d.files.map (·.1)) (bs : List UInt8) :
    (d.putFile q bs).remove q = d := by
  have hfilter : (d.files ++ [(q, bs)]).filter (·.1 ≠ q) = d.files := by
    rw [List.filter_append, List.filter_eq_self.mpr, List.filter_cons_of_neg (by simp),
      List.filter_nil, List.append_nil]
    intro f hf
    simpa using fun e : f.1 = q => h (e ▸ List.mem_map_of_mem hf)
  show { d with files := (Keyed.put q bs d.files).filter (·.1 ≠ q) } = d
  rw [Keyed.put_of_new h, hfilter]

/-- A new file moved to a place is a file put there. -/
theorem move_putFile {q : String} (h : q ∉ d.files.map (·.1)) (bs : List UInt8)
    (hp : d.place path = .ok p) : (d.putFile q bs).move q path = .ok (d.putFile p bs) := by
  have hlookup : (d.putFile q bs).files.lookup q = some bs := Keyed.lookup_put_self q bs d.files
  rw [move, (place_putFile d q bs path p).mpr hp]
  dsimp only
  rw [remove_putFile h, hlookup]
  rfl

end Disk

/-! ## 4. Drafts -/

/-- Different numbers make different drafts. -/
theorem draftAt_injective (dir : String) : Function.Injective (draftAt dir) := by
  intro a b h
  have htext : ∀ n, (draftAt dir n).toList = (if dir = "/" then "/" else dir ++ "/").toList ++
      ".cache-".toList ++ Nat.toDigits 10 n ++ ".json".toList := by
    intro n
    unfold draftAt Disk.below
    split <;> simp
  have hdigits : Nat.toDigits 10 a = Nat.toDigits 10 b :=
    List.append_cancel_left (List.append_cancel_right (by rw [← htext, ← htext, h]))
  have hread := congrArg (fun ds => Nat.ofDigitChars 10 ds 0) hdigits
  simpa using hread

/-- The draft of a file is at a place where nothing is, and not where the file is. -/
theorem draftPlace_new (d : Disk) (path : String) :
    draftPlace d path ∉ d.files.map (·.1) ∧ d.locate path ≠ some (draftPlace d path) := by
  obtain ⟨n, -, heq, hfree, -⟩ := freshFrom_first
    (draftAt_injective ((d.locate (cacheDir d path)).getD (cacheDir d path)))
    (d.files.map (·.1) ++ d.directories ++ (d.locate path).toList) 0
  have hplace : draftPlace d path = draftAt ((d.locate (cacheDir d path)).getD (cacheDir d path)) n :=
    heq
  rw [← hplace, List.mem_append, List.mem_append, not_or, not_or, Option.mem_toList] at hfree
  exact ⟨hfree.1.1, hfree.2⟩

/-! ## 5. Writing -/

section Writing

variable {c : BodyCache} {d d' : Disk} {path draft : String} {es : CacheEntries}
  {f : Disk.FailedWrite}

theorem replaceFile_ok (hnew : draft ∉ d.files.map (·.1))
    (h : replaceFile d draft path es = .ok d') :
    ∃ p, d.place path = .ok p ∧ d' = d.putFile p (encodeUtf8 (entriesText es)) := by
  unfold replaceFile at h
  dsimp only at h
  split at h
  · cases h
  cases hp : d.place path with
  | ok p =>
    rw [Disk.move_putFile hnew _ hp] at h
    exact ⟨p, rfl, (Except.ok.inj h).symm⟩
  | error g =>
    cases hq : (d.putFile draft (encodeUtf8 (entriesText es))).place path with
    | ok p =>
      rw [(Disk.place_putFile d draft _ path p).mp hq] at hp
      cases hp
    | error g' =>
      rw [Disk.move, hq] at h
      cases h

/-- A refusal of the system leaves nothing behind, any other fault the draft. -/
theorem replaceFile_error (hnew : draft ∉ d.files.map (·.1))
    (h : replaceFile d draft path es = .error f) :
    if f.fault.isRefusal then f.disk = d else ∃ bs, f.disk = d.putFile draft bs := by
  unfold replaceFile at h
  dsimp only at h
  split at h
  · cases h
    exact ⟨_, rfl⟩
  cases hm : (d.putFile draft (encodeUtf8 (entriesText es))).move draft path with
  | ok d' =>
    rw [hm] at h
    cases h
  | error g =>
    rw [hm] at h
    cases h
    dsimp only
    split
    · exact Disk.remove_putFile hnew _
    · exact ⟨_, rfl⟩

/-- **A write that succeeds** puts the text of the entries where the path leads and changes
    nothing else. -/
theorem save_ok (hpath : nonEmpty c.path = some path) (h : c.save d es = .ok d') :
    ∃ (made : Disk) (p : String), made.files = d.files ∧ made.place path = .ok p ∧
      d' = made.putFile p (encodeUtf8 (entriesText es)) := by
  unfold BodyCache.save at h
  rw [hpath] at h
  dsimp only at h
  have hkeeps := Disk.makeDirectories_keeps d (cacheDir d path)
  cases hmade : d.makeDirectories (cacheDir d path) with
  | error g =>
    rw [hmade] at h
    cases h
  | ok made =>
    rw [hmade] at h hkeeps
    obtain ⟨p, hp, hd⟩ := replaceFile_ok (draftPlace_new made path).1 h
    exact ⟨made, p, hkeeps.1, hp, hd⟩

/-- **A write that fails** leaves all files as they were. Only a fault that is no refusal of the
    system, in a directory that could be made, leaves the draft beside them. -/
theorem save_error (hpath : nonEmpty c.path = some path) (h : c.save d es = .error f) :
    if f.fault.isRefusal ∨ (d.makeDirectories (cacheDir d path)).isOk = false then
      f.disk.files = d.files
    else ∃ draft bs, f.disk.files = d.files ++ [(draft, bs)] ∧
      f.disk.locate path ≠ some draft := by
  unfold BodyCache.save at h
  rw [hpath] at h
  dsimp only at h
  have hkeeps := Disk.makeDirectories_keeps d (cacheDir d path)
  cases hmade : d.makeDirectories (cacheDir d path) with
  | error g =>
    rw [hmade] at h hkeeps
    cases h
    rw [if_pos (.inr rfl)]
    exact hkeeps.1
  | ok made =>
    rw [hmade] at h hkeeps
    obtain ⟨hnew, hother⟩ := draftPlace_new made path
    have hleaves := replaceFile_error hnew h
    by_cases hrefusal : f.fault.isRefusal
    · rw [if_pos hrefusal] at hleaves
      rw [if_pos (.inl hrefusal), hleaves]
      exact hkeeps.1
    · rw [if_neg hrefusal] at hleaves
      obtain ⟨bs, hdisk⟩ := hleaves
      rw [if_neg (by simp [hrefusal, Except.isOk, Except.toBool]), hdisk]
      refine ⟨draftPlace made path, bs, ?_, ?_⟩
      · rw [← hkeeps.1]
        exact Keyed.put_of_new hnew
      · rwa [Disk.locate_putFile]

end Writing

end Affordance
