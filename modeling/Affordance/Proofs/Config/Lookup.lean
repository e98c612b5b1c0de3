import Affordance.Proofs.Config.Ancestors
import Affordance.Proofs.Succeeds

/-!
# The settings that are found

The settings of a path are those of the nearest directory that holds some.  A package description
holds settings if it is an object with their key, and any other one is passed over.

  * `holding?`: the settings that a directory holds.  `Promised`: the nearest of some directories
    that holds settings gives them, and a file that is no JSON is a fault of the settings.
  * `packageHasSettings_eq`: the finder tells readable files from others as the loader does.
  * `Misread`: a directory with a file that is no text or has an overlong number, or with a package
    description that mentions the key without being an object.
  * `nearest_promised_iff`: a search keeps the promise iff it reaches no misread directory, by
    recursion on the directories.  `inDirectory_of_not_misread` and `not_promised_of_misread` are
    its steps.
  * **`lookup_promised_iff`**: so it is for the search from a path upwards, the directories of which
    are told by `searched_ascends`.  `unreadable_package_ends_search`: a package description that is
    no text ends it.
-/

namespace Affordance

open Affordance.Text

namespace ConfigFile

/-! ## 1. Files -/

/-- The JSON value in a file. -/
def fileValue? (d : Disk) (path : String) : Option Json :=
  (d.read path).toOption.bind fun s => (Json.read s.toArray).toOption

/-- The file is no text, or it has a whole number with too many digits. -/
def Garbled (d : Disk) (path : String) : Prop :=
  (∃ f, d.read path = .error (.noText f)) ∨
    ∃ s f, d.read path = .ok s ∧ Json.read s.toArray = .error f ∧ f.longNumber? ≠ none

/-- A fault of the settings in a file, of the kind that a user is told of. -/
def IsInvalid (path : String) (e : ConfigFault) : Prop :=
  ∃ detail, e = .problem (.configInvalid path detail)

/-- What a file is read as. -/
inductive ReadAs (d : Disk) (path : String) : Except ConfigFault Json → Prop where
  /-- The file is JSON. -/
  | value {v : Json} (hv : fileValue? d path = some v) (h : ¬ Garbled d path) :
    ReadAs d path (.ok v)
  /-- There is no file, or it is a text but no JSON. -/
  | invalid {detail : String} (hv : fileValue? d path = none) (h : ¬ Garbled d path) :
    ReadAs d path (.error (.problem (.configInvalid path detail)))
  /-- The fault is none of the settings. -/
  | garbled {e : ConfigFault} (hv : fileValue? d path = none) (h : Garbled d path)
    (he : ∀ p, e ≠ .problem p) : ReadAs d path (.error e)

theorem jsonIn_readAs (d : Disk) (path : String) : ReadAs d path (jsonIn d path) := by
  unfold jsonIn
  cases hread : d.read path with
  | error f =>
    have hv : fileValue? d path = none := by simp [fileValue?, hread, Except.toOption]
    have hgarbled : Garbled d path ↔ ∃ g, f = .noText g := by simp [Garbled, hread]
    cases f with
    | noText g => exact .garbled hv (hgarbled.mpr ⟨g, rfl⟩) (by simp)
    | noPath => exact .invalid hv (by simp [hgarbled])
    | noFile => exact .invalid hv (by simp [hgarbled])
  | ok s =>
    have hv : fileValue? d path = (Json.read s.toArray).toOption := by
      simp [fileValue?, hread, Except.toOption]
    have hgarbled : Garbled d path ↔ ∃ f, Json.read s.toArray = .error f ∧
        f.longNumber? ≠ none := by simp [Garbled, hread]
    dsimp only
    cases hjson : Json.read s.toArray with
    | ok v =>
      rw [hjson] at hv hgarbled
      exact .value hv (by simp [hgarbled])
    | error f =>
      rw [hjson] at hv hgarbled
      have hfault : Except.mapError (jsonFault path s.toArray) (.error f : Except _ Json) =
        .error (jsonFault path s.toArray f) := rfl
      rw [hfault, jsonFault]
      cases hlong : f.longNumber? with
      | some n => exact .garbled hv (by simp [hgarbled, hlong]) (by simp)
      | none => exact .invalid hv (by simp [hgarbled, hlong])

/-- **The finder sorts package descriptions as the loader does**: one that is a value has settings
    if it mentions them, an invalid one has none, and any other fault ends the search. -/
theorem packageHasSettings_eq (d : Disk) (path : String) :
    packageHasSettings d path =
      match jsonIn d path with
      | .ok v => .ok (mentions packageKey v)
      | .error (.problem _) => .ok false
      | .error e => .error e := by
  unfold packageHasSettings jsonIn
  cases d.read path with
  | error f => cases f <;> rfl
  | ok s =>
    dsimp only
    cases Json.read s.toArray with
    | ok v => rfl
    | error f =>
      dsimp only [Except.mapError, jsonFault]
      cases f.longNumber? <;> rfl

/-! ## 2. What a directory holds -/

/-- Settings that a directory holds: the file that they are in, and their value, which a file that
    is no JSON does not have. -/
structure Holding where
  path : String
  value : Option Json

/-- The file of settings alone in a directory. -/
def ownFile? (d : Disk) (dir : String) : Option String :=
  (ownNames.map (Path.join dir)).find? d.isFile

/-- The settings in a package description that is an object with their key. -/
def packageValue? (d : Disk) (path : String) : Option Json :=
  (fileValue? d path).bind fun v => v.field? packageKey

/-- The settings that a directory holds: a file of settings alone goes before a package
    description. -/
def holding? (d : Disk) (dir : String) : Option Holding :=
  match ownFile? d dir with
  | some p => some ⟨p, fileValue? d p⟩
  | none =>
    (packageValue? d (Path.join dir packageName)).map fun v =>
      ⟨Path.join dir packageName, some v⟩

/-- What comes of a holding: the settings of its value, and no fault but one of its settings. -/
structure Holding.Gives (h : Holding) (r : Except ConfigFault Config) : Prop where
  settings : ∀ v, h.value = some v → r = (Config.ofJson h.path v).mapError .problem
  fails : h.value = none → ¬ Succeeds r
  invalid : ∀ e, r = .error e → IsInvalid h.path e

/-- A package description that is no object mentions the key of settings. -/
def Decoyed (d : Disk) (path : String) : Prop :=
  ∃ v, fileValue? d path = some v ∧ v.field? packageKey = none ∧ mentions packageKey v = true

/-- The file that decides on the settings of a directory is garbled, or it is a package description
    that only mentions them. -/
def Misread (d : Disk) (dir : String) : Prop :=
  match ownFile? d dir with
  | some p => Garbled d p
  | none => Garbled d (Path.join dir packageName) ∨ Decoyed d (Path.join dir packageName)

theorem mentions_of_field? {v w : Json} {key : String} (h : v.field? key = some w) :
    mentions key v = true := by
  cases v with
  | obj fields => simp [mentions, Keyed.has, show fields.lookup key = some w from h]
  | _ => cases h

/-- A package description is told by its name from files of settings alone. -/
theorem ownFile?_not_package {d : Disk} {dir p : String} (h : ownFile? d dir = some p) :
    Path.baseName p ≠ packageName ∧ ∀ dir', p ≠ Path.join dir' packageName := by
  obtain ⟨name, hname, rfl⟩ := List.mem_map.mp (List.mem_of_find?_eq_some h)
  have hbase : Path.baseName (Path.join dir name) ≠ packageName := by
    have hnames : ∀ n ∈ ownNames, '/' ∉ n.toList ∧ n ≠ packageName := by decide
    rw [baseName_join dir (hnames name hname).1]
    exact (hnames name hname).2
  refine ⟨hbase, fun dir' hp => hbase ?_⟩
  rw [hp]
  exact baseName_join dir' (by decide)

/-- Only a package description that is an object with the key has the path of one. -/
theorem path_ne_of_packageValue?_eq_none {d : Disk} {dir dir' : String} {h : Holding}
    (hh : holding? d dir = some h) (hnone : packageValue? d (Path.join dir' packageName) = none) :
    h.path ≠ Path.join dir' packageName := by
  unfold holding? at hh
  split at hh
  · next p hp =>
    cases hh
    exact (ownFile?_not_package hp).2 dir'
  · obtain ⟨v, hv, rfl⟩ := Option.map_eq_some_iff.mp hh
    intro heq
    dsimp only at heq
    rw [heq, hnone] at hv
    cases hv

/-! ## 3. One directory -/

theorem load_own {d : Disk} {path : String} (h : Path.baseName path ≠ packageName) :
    load d path = jsonIn d path >>= fun v => (Config.ofJson path v).mapError .problem := by
  unfold load
  simp only [if_neg h]

theorem load_package {d : Disk} {path : String} (h : Path.baseName path = packageName) :
    load d path =
      jsonIn d path >>= fun v => (Config.ofJson path (packageSettings v)).mapError .problem := by
  unfold load
  simp only [if_pos h]

/-- The settings of a value are reported as invalid or given. -/
theorem isInvalid_of_ofJson {path : String} {v : Json} {e : ConfigFault}
    (h : (Config.ofJson path v).mapError .problem = .error e) : IsInvalid path e := by
  obtain ⟨p, hp, rfl⟩ := mapError_eq_error_iff.mp h
  unfold Config.ofJson at hp
  split at hp
  · cases hp
  · obtain ⟨m, -, rfl⟩ := mapError_eq_error_iff.mp hp
    exact ⟨_, rfl⟩
  · cases hp
    exact ⟨_, rfl⟩

theorem gives_value (path : String) (v : Json) :
    Holding.Gives ⟨path, some v⟩ ((Config.ofJson path v).mapError .problem) where
  settings := by
    rintro _ ⟨⟩
    rfl
  fails := nofun
  invalid _ := isInvalid_of_ofJson

/-- A file of settings alone gives its settings iff it is not garbled. -/
theorem gives_own_iff {d : Disk} {path : String} (h : Path.baseName path ≠ packageName) :
    Holding.Gives ⟨path, fileValue? d path⟩ (load d path) ↔ ¬ Garbled d path := by
  have hread := jsonIn_readAs d path
  rw [load_own h]
  generalize jsonIn d path = x at hread
  cases hread with
  | @value v hv hnot =>
    rw [hv]
    exact iff_of_true (gives_value path v) hnot
  | @invalid detail hv hnot =>
    rw [hv]
    refine iff_of_true ⟨nofun, fun _ => not_succeeds_error _, fun e he => ⟨detail, ?_⟩⟩ hnot
    exact (Except.error.inj he).symm
  | garbled hv hgarbled he =>
    refine iff_of_false (fun hgives => ?_) (not_not_intro hgarbled)
    obtain ⟨detail, hdetail⟩ := hgives.invalid _ (error_bind _ _)
    exact he _ hdetail

/-- A package description that holds settings gives them. -/
theorem gives_package {d : Disk} {path : String} {v : Json}
    (h : Path.baseName path = packageName) (hv : packageValue? d path = some v) :
    Holding.Gives ⟨path, some v⟩ (load d path) := by
  have hread := jsonIn_readAs d path
  obtain ⟨whole, hwhole, hfield⟩ := Option.bind_eq_some_iff.mp hv
  rw [load_package h]
  generalize jsonIn d path = x at hread
  cases hread with
  | value hvalue _ =>
    cases hwhole.symm.trans hvalue
    rw [ok_bind, packageSettings, hfield]
    exact gives_value path v
  | invalid hvalue _ => cases hwhole.symm.trans hvalue
  | garbled hvalue _ _ => cases hwhole.symm.trans hvalue

/-- What is found of a package description: whether it holds settings, unless it is misread. -/
theorem packageHasSettings_of_not {d : Disk} {path : String} (hgarbled : ¬ Garbled d path)
    (hdecoyed : ¬ Decoyed d path) :
    packageHasSettings d path = .ok (packageValue? d path).isSome := by
  have hread := jsonIn_readAs d path
  rw [packageHasSettings_eq]
  generalize jsonIn d path = x at hread
  cases hread with
  | @value v hv _ =>
    have hpackage : packageValue? d path = v.field? packageKey := by simp [packageValue?, hv]
    rw [hpackage]
    cases hfield : v.field? packageKey with
    | some w => simp [mentions_of_field? hfield]
    | none =>
      have hmentions : mentions packageKey v = false :=
        Bool.eq_false_iff.mpr fun hm => hdecoyed ⟨v, hv, hfield, hm⟩
      simp [hmentions]
  | invalid hv _ => simp [packageValue?, hv]
  | garbled _ h _ => exact absurd h hgarbled

theorem packageHasSettings_garbled {d : Disk} {path : String} (h : Garbled d path) :
    ∃ e, packageHasSettings d path = .error e := by
  have hread := jsonIn_readAs d path
  rw [packageHasSettings_eq]
  generalize jsonIn d path = x at hread
  cases hread with
  | value _ hnot => exact absurd h hnot
  | invalid _ hnot => exact absurd h hnot
  | @garbled e _ _ he =>
    cases e with
    | problem p => exact absurd rfl (he p)
    | noText f => exact ⟨_, rfl⟩
    | longNumber n => exact ⟨_, rfl⟩

theorem packageHasSettings_decoyed {d : Disk} {path : String} (h : Decoyed d path) :
    packageHasSettings d path = .ok true ∧ packageValue? d path = none := by
  obtain ⟨v, hv, hfield, hmentions⟩ := h
  have hread := jsonIn_readAs d path
  refine ⟨?_, by simp [packageValue?, hv, hfield]⟩
  rw [packageHasSettings_eq]
  generalize jsonIn d path = x at hread
  cases hread with
  | value hvalue _ =>
    cases hv.symm.trans hvalue
    simp [hmentions]
  | invalid hvalue _ => cases hv.symm.trans hvalue
  | garbled hvalue _ _ => cases hv.symm.trans hvalue

theorem inDirectory_own {d : Disk} {dir p : String} (h : ownFile? d dir = some p) :
    inDirectory d dir = .ok (some p) := by
  unfold inDirectory
  rw [show (ownNames.map (Path.join dir)).find? d.isFile = some p from h]
  rfl

theorem inDirectory_package {d : Disk} {dir : String} (h : ownFile? d dir = none) :
    inDirectory d dir = (packageHasSettings d (Path.join dir packageName)).map fun b =>
      if b then some (Path.join dir packageName) else none := by
  unfold inDirectory
  rw [show (ownNames.map (Path.join dir)).find? d.isFile = none from h]
  rfl

/-- **In a directory that is not misread the settings that it holds are found, and loaded.** -/
theorem inDirectory_of_not_misread {d : Disk} {dir : String} (h : ¬ Misread d dir) :
    inDirectory d dir = .ok ((holding? d dir).map (·.path)) ∧
      ∀ held, holding? d dir = some held → held.Gives (load d held.path) := by
  unfold Misread at h
  unfold holding?
  cases hown : ownFile? d dir with
  | some p =>
    rw [hown] at h
    refine ⟨inDirectory_own hown, ?_⟩
    rintro _ ⟨⟩
    exact (gives_own_iff (ownFile?_not_package hown).1).mpr h
  | none =>
    rw [hown] at h
    obtain ⟨hgarbled, hdecoyed⟩ := not_or.mp h
    rw [inDirectory_package hown, packageHasSettings_of_not hgarbled hdecoyed]
    dsimp only
    cases hv : packageValue? d (Path.join dir packageName) with
    | none => exact ⟨rfl, by simp⟩
    | some v =>
      refine ⟨rfl, ?_⟩
      rintro _ ⟨⟩
      exact gives_package (baseName_join dir (by decide)) hv

/-! ## 4. The directories that are searched -/

/-- The settings of the nearest directory that holds some: its file is found, and gives them.
    Without any nothing is found, and the settings are the defaults. -/
def Promised (d : Disk) (dirs : List String) (found : Except ConfigFault (Option String))
    (r : Except ConfigFault Config) : Prop :=
  match dirs.findSome? (holding? d) with
  | some h => found = .ok (some h.path) ∧ h.Gives r
  | none => found = .ok none ∧ r = .ok {}

/-- The directories up to the nearest one that holds settings. -/
def reached (d : Disk) : List String → List String
  | [] => []
  | dir :: rest => dir :: if (holding? d dir).isSome then [] else reached d rest

/-- The settings of what was found. -/
def settle (d : Disk) (found : Except ConfigFault (Option String)) : Except ConfigFault Config := do
  match ← found with
  | some p => load d p
  | none => return {}

theorem loadNearest_eq (d : Disk) (start : String) :
    loadNearest d start = settle d (find d start) :=
  rfl

theorem nearest_of_found {d : Disk} {dir p : String} {rest : List String}
    (h : inDirectory d dir = .ok (some p)) : nearest d (dir :: rest) = .ok (some p) := by
  rw [nearest, h]
  rfl

theorem nearest_of_none {d : Disk} {dir : String} {rest : List String}
    (h : inDirectory d dir = .ok none) : nearest d (dir :: rest) = nearest d rest := by
  rw [nearest, h]
  rfl

/-- A misread directory that is searched breaks the promise. -/
theorem not_promised_of_misread {d : Disk} {dir : String} {rest : List String}
    (h : Misread d dir) :
    ¬ Promised d (dir :: rest) (nearest d (dir :: rest)) (settle d (nearest d (dir :: rest))) := by
  unfold Misread at h
  cases hown : ownFile? d dir with
  | some p =>
    -- The file is found, and its fault is none of the settings.
    rw [hown] at h
    have hheld : holding? d dir = some ⟨p, fileValue? d p⟩ := by simp [holding?, hown]
    rw [nearest_of_found (inDirectory_own hown), Promised, List.findSome?_cons, hheld]
    exact fun hp => (gives_own_iff (ownFile?_not_package hown).1).mp hp.2 h
  | none =>
    rw [hown] at h
    rcases h with hgarbled | hdecoyed
    · -- The search ends with a fault.
      obtain ⟨e, he⟩ := packageHasSettings_garbled hgarbled
      have hnearest : nearest d (dir :: rest) = .error e := by
        rw [nearest, inDirectory_package hown, he]
        rfl
      rw [hnearest]
      unfold Promised
      split
      · exact fun hp => nomatch hp.1
      · exact fun hp => nomatch hp.1
    · -- The package description is found, and no directory holds it.
      obtain ⟨hhas, hvalue⟩ := packageHasSettings_decoyed hdecoyed
      have hin : inDirectory d dir = .ok (some (Path.join dir packageName)) := by
        rw [inDirectory_package hown, hhas]
        rfl
      rw [nearest_of_found hin]
      unfold Promised
      split
      · next held hheld =>
        rintro ⟨hfound, -⟩
        obtain ⟨dir', -, hdir'⟩ := List.exists_of_findSome?_eq_some hheld
        refine path_ne_of_packageValue?_eq_none hdir' hvalue ?_
        exact (Option.some.inj (Except.ok.inj hfound)).symm
      · rintro ⟨hfound, -⟩
        cases hfound

/-- **A search through directories keeps the promise iff it comes to no misread one.** -/
theorem nearest_promised_iff (d : Disk) : ∀ dirs : List String,
    Promised d dirs (nearest d dirs) (settle d (nearest d dirs)) ↔
      ∀ dir ∈ reached d dirs, ¬ Misread d dir
  | [] => iff_of_true ⟨rfl, rfl⟩ (by simp [reached])
  | dir :: rest => by
    rw [reached, List.forall_mem_cons]
    by_cases hmisread : Misread d dir
    · exact iff_of_false (not_promised_of_misread hmisread) fun h => h.1 hmisread
    · rw [and_iff_right hmisread]
      obtain ⟨hin, hgives⟩ := inDirectory_of_not_misread hmisread
      cases hheld : holding? d dir with
      | some held =>
        rw [hheld] at hin
        refine iff_of_true ?_ (by simp)
        rw [nearest_of_found hin, Promised, List.findSome?_cons, hheld]
        exact ⟨rfl, hgives held hheld⟩
      | none =>
        rw [hheld] at hin
        rw [nearest_of_none hin, Promised, List.findSome?_cons, hheld]
        exact nearest_promised_iff d rest

/-- **The settings that are loaded from a path are those of the nearest directory that holds some,
    iff no directory up to there is misread.** -/
theorem lookup_promised_iff (d : Disk) (start : String) :
    Promised d (searched d start) (find d start) (loadNearest d start) ↔
      ∀ dir ∈ reached d (searched d start), ¬ Misread d dir := by
  rw [loadNearest_eq]
  exact nearest_promised_iff d (searched d start)

/-- A package description of one octet that is no text, at the top. -/
def octetDisk : Disk where
  files := [("/package.json", [0xff])]
  directories := ["/app"]

theorem unreadable_package_ends_search :
    searched octetDisk "app" = ["/app", "/"] ∧
      (∀ dir ∈ searched octetDisk "app", holding? octetDisk dir = none) ∧
      ¬ Promised octetDisk (searched octetDisk "app") (find octetDisk "app")
        (loadNearest octetDisk "app") ∧
      loadNearest octetDisk "app" = .error (.noText ⟨.start, 0, 1, 0xff⟩) := by
  have hsearched : searched octetDisk "app" = ["/app", "/"] := by decide +kernel
  have hnone : ∀ dir ∈ ["/app", "/"], (holding? octetDisk dir).isNone := by decide +kernel
  have hown : ownFile? octetDisk "/" = none := by decide +kernel
  have hmisread : Misread octetDisk "/" := by
    rw [Misread, hown]
    exact .inl (.inl ⟨⟨.start, 0, 1, 0xff⟩, by decide +kernel⟩)
  rw [hsearched]
  refine ⟨rfl, fun dir hdir => Option.isNone_iff_eq_none.mp (hnone dir hdir), fun h => ?_,
    by decide +kernel⟩
  have hreached : reached octetDisk ["/app", "/"] = ["/app", "/"] := by decide +kernel
  have hsound := (lookup_promised_iff octetDisk "app").mp (hsearched ▸ h)
  rw [hsearched, hreached] at hsound
  exact hsound "/" (by simp) hmisread

end ConfigFile

end Affordance
