import Affordance.Proofs.Handler.CacheFile

/-!
# Disks that only grow

  * `Disk.target`: where a path leads if nothing is in the way, from the directory that the run
    works in alone. `locate_eq_target`: a path that leads somewhere leads there.
  * `Disk.Grows`: what a run may do to a disk: directories are only added, and all files but those at
    some places stay as they are.
  * **`grows_save`**: to write a cache changes no file but the cache's own, whether the write
    succeeds or not.
  * `attempt_refused`, `attempt_put`: what an attempt to write a text leaves.
-/

namespace Affordance

open Affordance.Text

namespace Disk

/-! ## 1. Where paths lead -/

/-- Where parts lead from a directory if nothing is in the way. -/
def leadsTo : String → List (List Char) → String
  | here, [] => here
  | here, part :: rest =>
    if part.isEmpty || part == ['.'] then leadsTo here rest
    else if part == ['.', '.'] then leadsTo (Path.parent here) rest
    else leadsTo (below here (String.ofList part)) rest

/-- Where a path leads if nothing is in the way. -/
def target (d : Disk) (path : String) : String := leadsTo "/" (d.partsOf path)

section Places

variable {d d' : Disk} {path q : String}

theorem follow_eq : ∀ {parts : List (List Char)} {here : String},
    d.follow here parts = some q → leadsTo here parts = q
  | [], _, h => Option.some.inj h
  | part :: rest, here, h => by
    rw [follow] at h
    rw [leadsTo]
    split at h
    · cases h
    split at h
    · next hpart => rw [if_pos hpart]; exact follow_eq h
    · next hpart =>
      rw [if_neg hpart]
      split at h
      · next hup => rw [if_pos hup]; exact follow_eq h
      · next hup => rw [if_neg hup]; exact follow_eq h

/-- **A path that leads somewhere leads to its target.** -/
theorem locate_eq_target (h : d.locate path = some q) : d.target path = q := by
  unfold locate at h
  split at h
  · cases h
  · exact follow_eq h

/-- A way on a disk is one on every disk with the same directories and more. -/
theorem follow_mono (hdirs : ∀ x, d.hasDirectory x = true → d'.hasDirectory x = true) :
    ∀ {parts : List (List Char)} {here : String},
      d.follow here parts = some q → d'.follow here parts = some q
  | [], _, h => h
  | part :: rest, here, h => by
    rw [follow] at h ⊢
    split at h
    · cases h
    next hhere =>
    rw [if_neg (by simpa using hdirs here (by simpa using hhere))]
    split at h
    · next hpart => rw [if_pos hpart]; exact follow_mono hdirs h
    · next hpart =>
      rw [if_neg hpart]
      split at h
      · next hup => rw [if_pos hup]; exact follow_mono hdirs h
      · next hup => rw [if_neg hup]; exact follow_mono hdirs h

end Places

/-! ## 2. Growing -/

/-- **What a run may do to a disk**: directories are only added, and all files but those at some
    places stay as they are. -/
structure Grows (changed : String → Prop) (d d' : Disk) : Prop where
  home : d'.home = d.home
  directories : ∀ x, d.hasDirectory x = true → d'.hasDirectory x = true
  files : ∀ {q bs}, ¬ changed q → d.files.lookup q = some bs → d'.files.lookup q = some bs

namespace Grows

variable {changed more : String → Prop} {d d' d'' : Disk} {path q : String}

protected theorem refl : Grows changed d d := ⟨rfl, fun _ h => h, fun _ h => h⟩

theorem trans (h : Grows changed d d') (h' : Grows changed d' d'') : Grows changed d d'' where
  home := h'.home.trans h.home
  directories x hx := h'.directories x (h.directories x hx)
  files hq hbs := h'.files hq (h.files hq hbs)

theorem weaken (h : Grows changed d d') (hmore : ∀ q, changed q → more q) : Grows more d d' where
  home := h.home
  directories := h.directories
  files hq := h.files fun hc => hq (hmore _ hc)

/-- Targets depend on the directory that the run works in alone. -/
theorem target (h : Grows changed d d') (path : String) : d'.target path = d.target path := by
  unfold Disk.target partsOf
  rw [h.home]

/-- A path leads where it led. -/
theorem locate (h : Grows changed d d') (hq : d.locate path = some q) :
    d'.locate path = some q := by
  unfold Disk.locate at hq ⊢
  split at hq
  · cases hq
  next hpath =>
  rw [if_neg hpath]
  have hparts : d'.partsOf path = d.partsOf path := by
    unfold partsOf
    rw [h.home]
  rw [hparts]
  exact follow_mono h.directories hq

end Grows

section Steps

variable {d : Disk} {path p q : String}

/-- To put a file somewhere changes no other file. -/
theorem grows_putFile (d : Disk) (p : String) (bs : List UInt8) :
    Grows (· = p) d (d.putFile p bs) where
  home := rfl
  directories _ h := h
  files hq hbs := (Keyed.lookup_put_other hq _ _).trans hbs

theorem lookup_putFile (d : Disk) (p : String) (bs : List UInt8) :
    (d.putFile p bs).files.lookup p = some bs := Keyed.lookup_put_self p bs d.files

/-- To put a new file somewhere changes no file. -/
theorem grows_putFile_new (hnew : p ∉ d.files.map (·.1)) (bs : List UInt8)
    (changed : String → Prop) :
    Grows changed d (d.putFile p bs) where
  home := rfl
  directories _ h := h
  files {q} bs' _ hbs := by
    have hq : q ≠ p := by
      rintro rfl
      obtain ⟨front, back, hfiles, -⟩ := List.lookup_eq_some_iff.mp hbs
      exact hnew (by simp [hfiles])
    exact (Keyed.lookup_put_other hq _ _).trans hbs

theorem makeBelow_directories : ∀ (parts : List (List Char)) (d : Disk) (here : String),
    ∀ x ∈ d.directories, x ∈ (left (d.makeBelow here parts)).directories
  | [], _, _, _, h => h
  | part :: rest, d, here, x, h => by
    unfold makeBelow
    dsimp only
    split
    · exact h
    split
    · exact h
    split
    · exact makeBelow_directories rest d _ x h
    split
    · split <;> exact h
    · exact makeBelow_directories rest _ _ x (List.mem_append_left _ h)

/-- To make directories changes no file, whether it fails or not. -/
theorem grows_makeDirectories (d : Disk) (path : String) (changed : String → Prop) :
    Grows changed d (left (d.makeDirectories path)) where
  home := (makeDirectories_keeps d path).2
  directories x hx := by
    have hsubset : ∀ x ∈ d.directories, x ∈ (left (d.makeDirectories path)).directories := by
      unfold makeDirectories
      split
      · exact fun _ h => h
      · exact makeBelow_directories _ d "/"
    simp only [hasDirectory, Bool.or_eq_true, decide_eq_true_eq, List.contains_iff_mem] at hx ⊢
    exact hx.imp_right (hsubset x)
  files _ hbs := by
    rw [(makeDirectories_keeps d path).1]
    exact hbs

end Steps

end Disk

/-! ## 3. Caches -/

open Disk

/-- To replace a file by way of a new draft changes no other file, whether it fails or not. -/
theorem grows_replaceFile {d : Disk} {draft path : String} {es : CacheEntries}
    (hnew : draft ∉ d.files.map (·.1)) :
    Grows (· = d.target path) d (left (replaceFile d draft path es)) := by
  cases h : replaceFile d draft path es with
  | ok d' =>
    obtain ⟨p, hp, rfl⟩ := replaceFile_ok hnew h
    have hplace : d.target path = p := locate_eq_target (place_ok hp).1
    rw [hplace]
    exact grows_putFile d p _
  | error f =>
    have hleaves := replaceFile_error hnew h
    split at hleaves
    · rw [left, hleaves]
      exact .refl
    · obtain ⟨bs, hdisk⟩ := hleaves
      rw [left, hdisk]
      exact grows_putFile_new hnew bs _

/-- **To write a cache changes no file but the cache's own**, whether it fails or not. -/
theorem grows_save (c : BodyCache) (d : Disk) (es : CacheEntries) :
    Grows (fun q => ∃ path, c.path = some path ∧ q = d.target path) d (left (c.save d es)) := by
  unfold BodyCache.save
  cases hpath : nonEmpty c.path with
  | none => exact .refl
  | some path =>
    have hc : c.path = some path := (nonEmpty_eq_some.mp hpath).1
    dsimp only
    have hmade := grows_makeDirectories d (cacheDir d path)
      (fun q => ∃ path, c.path = some path ∧ q = d.target path)
    cases hm : d.makeDirectories (cacheDir d path) with
    | error f =>
      rw [hm] at hmade
      exact hmade
    | ok made =>
      rw [hm] at hmade
      refine hmade.trans ((grows_replaceFile (draftPlace_new made path).1).weaken ?_)
      rintro q rfl
      exact ⟨path, hc, hmade.target path⟩

/-! ## 4. Texts -/

/-- What an attempt to write a text puts into the file: nothing of a text that has no octets. -/
def attempted (text : String) : String := if (halfFault? text).isSome then "" else text

/-- An attempt to write where no file can stand changes nothing. -/
theorem attempt_refused {d : Disk} {path text : String} {f : WriteFault}
    (h : d.place path = .error f) : d.attempt path text = (d, .error f) := by
  unfold Disk.attempt Disk.write
  rw [h]
  rfl

/-- An attempt to write puts the text where the path leads, if it succeeds. -/
theorem attempt_put {d : Disk} {path text p : String} (h : d.place path = .ok p) :
    (d.attempt path text).1 = d.putFile p (encodeUtf8 (attempted text)) ∧
      ((d.attempt path text).2 = .ok () → attempted text = text) := by
  unfold Disk.attempt Disk.write attempted
  rw [h]
  cases halfFault? text with
  | none => exact ⟨rfl, fun _ => rfl⟩
  | some f => exact ⟨rfl, fun hdone => by cases hdone⟩

end Affordance
