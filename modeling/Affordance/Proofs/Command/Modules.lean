import Affordance.Command.Instrument
import Affordance.Proofs.Disk
import Affordance.Proofs.Handler.Asking
import Affordance.Proofs.Succeeds

/-!
# Modules beside their sources

  * `PutModule`: a module as it is put on the disk; `modulesPut`: those of a run, in order.
  * `WorkOn`: what the work on one source does; **`writeOne_work`**: it does that.
  * `Holds`: the INVARIANT of a run: every file holds what was put into it last, or what it held at
    first.
  * **`modules_kept_iff`**: so all modules and all sources are kept iff no two modules with different
    texts lead to one place, and none leads to the place of a source with a different text.
  * `modulePath_eq_iff`: under the same settings this is so for sources that differ in their
    extensions alone.
-/

namespace Affordance

open Affordance.Text Disk

/-! ## 1. Modules -/

/-- A module as it is put on the disk. -/
structure PutModule where
  source : String
  settings : Config
  text : String

namespace PutModule

/-- The path of the module. -/
def path (m : PutModule) : String := modulePath m.settings m.source

/-- What the file of the module holds. -/
def octets (m : PutModule) : List UInt8 := encodeUtf8 m.text

end PutModule

/-- **Two sources share the path of their modules iff they differ in their extensions alone.** -/
theorem modulePath_eq_iff (c : Config) (p q : String) :
    modulePath c p = modulePath c q ↔ (Path.splitExtension p).1 = (Path.splitExtension q).1 := by
  unfold modulePath
  constructor
  · intro h
    have hlists := congrArg String.toList h
    simp only [String.toList_append] at hlists
    exact String.toList_inj.mp (List.append_cancel_right hlists)
  · intro h
    rw [h]

/-! ## 2. Generating -/

section Generating

/-- Where the cache of a store keeps its file. -/
def HandlerStore.CachePlace (store : HandlerStore) (q : String) : Prop :=
  ∃ path, store.cache.path = some path ∧ q = store.disk.target path

/-- **What generating may do to a store**: no file changes but that of the cache. -/
structure HandlerStore.Generates (store store' : HandlerStore) : Prop where
  path : store'.cache.path = store.cache.path
  disk : Grows store.CachePlace store.disk store'.disk

theorem HandlerStore.Generates.place {store store' : HandlerStore} (h : store.Generates store')
    (q : String) : store'.CachePlace q ↔ store.CachePlace q := by
  unfold CachePlace
  rw [h.path]
  simp only [h.disk.target]

theorem HandlerStore.Generates.trans {store store' store'' : HandlerStore}
    (h : store.Generates store') (h' : store'.Generates store'') : store.Generates store'' where
  path := h'.path.trans h.path
  disk := h.disk.trans (h'.disk.weaken fun q hq => (h.place q).mp hq)

/-- A request for a handler changes no file but that of the cache. -/
theorem HandlerRequest.Comes.generates {r : HandlerRequest} {store : HandlerStore} {g : Generation}
    (h : r.Comes store g) : store.Generates g.store := by
  refine ⟨h.path, ?_⟩
  cases h with
  | refused fault => exact .refl
  | held digest found => exact .refl
  | new digest missing =>
    have hleft : (Generation.store ⟨r.kept store, (r.saved store).map (r.written, ·),
        r.writer.map fun _ => r.inquiry⟩).disk = left (r.saved store) := by
      cases r.saved store <;> rfl
    rw [hleft]
    exact grows_save store.cache store.disk _

theorem generates_all (writer : Option Writer) (temperature : Temperature) (time : Int) :
    ∀ (tools : List Proposal) (store : HandlerStore),
      store.Generates (generateAll writer temperature time store tools).value.1
  | [], _ => ⟨rfl, .refl⟩
  | p :: rest, store => by
    have first : store.Generates
        (generateHandler store.disk store.cache p writer none temperature time).value.store :=
      (HandlerRequest.comes ⟨p, writer, none, temperature, time⟩ store).generates
    rw [generateAll]
    dsimp only
    cases h :
        (generateHandler store.disk store.cache p writer none temperature time).value.answer with
    | error f =>
      rw [Generation.store, h] at first
      exact first
    | ok a =>
      obtain ⟨body, d⟩ := a
      rw [Generation.store, h] at first
      exact first.trans (generates_all writer temperature time rest _)

end Generating

/-- The bodies that are generated are those of the tools, by their names. -/
theorem generateAll_names (writer : Option Writer) (temperature : Temperature) (time : Int) :
    ∀ {tools : List Proposal} {store : HandlerStore} {bodies : List (String × String)},
      (generateAll writer temperature time store tools).value.2 = .ok bodies →
      bodies.map (·.1) = tools.map (·.name)
  | [], _, _, h => by
    cases h
    rfl
  | p :: rest, store, bodies, h => by
    rw [generateAll] at h
    dsimp only at h
    split at h
    · cases h
    · next body d _ =>
      dsimp only [Told.after, Told.map] at h
      cases hrest : (generateAll writer temperature time ⟨d, _⟩ rest).value.2 with
      | error f =>
        rw [hrest] at h
        cases h
      | ok later =>
        rw [hrest] at h
        cases h
        rw [List.map_cons, List.map_cons, generateAll_names writer temperature time hrest]

/-! ## 3. One source -/

section Writing

variable (s : Surroundings) (a : Arguments) (config : Option Config)

/-- The module that is ready to be put beside a source, with the store after its handlers were
    generated. -/
def readyModule (store : HandlerStore) (r : Instrumentation) : Option (HandlerStore × PutModule) :=
  match r.outcome with
  | .tools _ =>
    match writingTools s a store.disk config r with
    | .error _ => none
    | .ok (c, writer) =>
      let tools := chosenTools (a.has "--all") r
      if tools.isEmpty then none
      else
        match (generateAll writer (.measure c.llm.temperature) s.time store tools).value with
        | (_, .error _) => none
        | (store, .ok bodies) =>
          some (store, ⟨r.fileName, c, moduleText c.output.format bodies tools⟩)
  | _ => none

/-- The module that is put beside a source, as it is put there. -/
def putModule? (store : HandlerStore) (r : Instrumentation) : Option PutModule :=
  (readyModule s a config store r).bind fun (store, m) =>
    match store.disk.place m.path with
    | .ok _ => some { m with text := attempted m.text }
    | .error _ => none

/-- The modules that are put beside sources, one after the other, until something stops it. -/
def modulesPut : HandlerStore → List Instrumentation → List PutModule
  | _, [] => []
  | store, r :: rest =>
    let first := (putModule? s a config store r).toList
    match (writeOne s a config store r).value with
    | (_, .error _) => first
    | (store, .ok ()) => first ++ modulesPut store rest

/-- What was put last at a place. -/
def lastAt (target : String → String) : List PutModule → String → Option (List UInt8)
  | [], _ => none
  | m :: rest, q => lastAt target rest q <|> if target m.path = q then some m.octets else none

/-- **The invariant of a run**: every file but that of the cache holds what was put into it last, or
    what it held at first, and the path of every module leads to it. -/
structure HandlerStore.Holds (ms : List PutModule) (store store' : HandlerStore) : Prop where
  path : store'.cache.path = store.cache.path
  disk : Grows (fun _ => True) store.disk store'.disk
  files : ∀ {q bs}, ¬ store.CachePlace q →
    (lastAt store.disk.target ms q <|> store.disk.files.lookup q) = some bs →
      store'.disk.files.lookup q = some bs
  located : ∀ m ∈ ms, store'.disk.locate m.path = some (store.disk.target m.path)

variable {s a config} {store store' store'' : HandlerStore} {ms ms' : List PutModule}

theorem lastAt_append (target : String → String) (ms' : List PutModule) (q : String) :
    ∀ ms : List PutModule,
      lastAt target (ms ++ ms') q = (lastAt target ms' q <|> lastAt target ms q)
  | [] => by simp [lastAt]
  | m :: rest => by
    rw [List.cons_append, lastAt, lastAt, lastAt_append target ms' q rest]
    cases lastAt target ms' q <;> rfl

/-- To generate handlers puts no module anywhere. -/
theorem HandlerStore.Generates.holds (h : store.Generates store') : store.Holds [] store' where
  path := h.path
  disk := h.disk.weaken fun _ _ => trivial
  files hq hbs := h.disk.files hq hbs
  located _ hm := absurd hm List.not_mem_nil

/-- **Two parts of a run put the modules of both**, and those of the second one last. -/
theorem HandlerStore.Holds.trans (h : store.Holds ms store') (h' : store'.Holds ms' store'') :
    store.Holds (ms ++ ms') store'' := by
  have htarget : store'.disk.target = store.disk.target := funext h.disk.target
  refine ⟨h'.path.trans h.path, h.disk.trans h'.disk, fun {q bs} hq hbs => ?_, fun m hm => ?_⟩
  · have hq' : ¬ store'.CachePlace q := by
      unfold CachePlace
      rw [h.path, htarget]
      exact hq
    refine h'.files hq' ?_
    rw [lastAt_append] at hbs
    rw [htarget]
    cases hlast : lastAt store.disk.target ms' q with
    | some bs' =>
      rw [hlast] at hbs
      exact hbs
    | none =>
      rw [hlast] at hbs
      exact h.files hq hbs
  · rcases List.mem_append.mp hm with hm | hm
    · exact h'.disk.locate (h.located m hm)
    · rw [← htarget]
      exact h'.located m hm

/-- To put a module somewhere changes no other file. -/
theorem holds_putFile {m : PutModule} {p : String} (hp : store.disk.place m.path = .ok p) :
    store.Holds [m] { store with disk := store.disk.putFile p m.octets } := by
  have hlocate := (place_ok hp).1
  have htarget : store.disk.target m.path = p := locate_eq_target hlocate
  refine ⟨rfl, (grows_putFile _ _ _).weaken fun _ _ => trivial, fun {q bs} _ hbs => ?_,
    fun m' hm => ?_⟩
  · rw [lastAt, lastAt, htarget] at hbs
    by_cases hq : p = q
    · subst hq
      rw [if_pos rfl] at hbs
      rw [← hbs]
      exact lookup_putFile _ _ _
    · rw [if_neg hq] at hbs
      exact (grows_putFile _ _ _).files (Ne.symm hq) hbs
  · rw [List.mem_singleton.mp hm, htarget]
    exact (locate_putFile _ _ _ _).trans hlocate

theorem writeModule_value (c : Config) (tools : List Proposal) (bodies : List (String × String))
    (path : String) (store : HandlerStore) :
    (writeModule c tools bodies path store).value =
      let done := store.disk.attempt path (moduleText c.output.format bodies tools)
      ({ store with disk := done.1 }, done.2) := by
  unfold writeModule
  split
  · next h =>
    rw [h]
    rfl
  · next h => rw [h]

/-- The settings that are given are those of every module. -/
theorem settings_of_writingTools {d : Disk} {r : Instrumentation} {c : Config}
    {writer : Option Writer} (h : writingTools s a d config r = .ok (c, writer)) :
    ∀ c', config = some c' → c = c' := by
  rintro c' rfl
  unfold writingTools settingsFor at h
  obtain ⟨c₁, hc₁, h⟩ := bind_eq_ok_iff.mp h
  obtain ⟨w, -, h⟩ := bind_eq_ok_iff.mp h
  cases hc₁
  cases h
  rfl

/-- **What the work on one source does**: nothing if the source has no chosen tools, else it
    generates handlers, and puts a module beside the source unless it stops before that. -/
inductive WorkOn (config : Option Config) (all : Bool) (store : HandlerStore)
    (r : Instrumentation) : Option PutModule → HandlerStore × Except Halt Unit → Prop where
  | idle (chosen : (chosenTools all r).isEmpty = true) :
      WorkOn config all store r none (store, .ok ())
  | halted {store₁ : HandlerStore} {h : Halt} (generates : store.Generates store₁) :
      WorkOn config all store r none (store₁, .error h)
  | put {store₁ : HandlerStore} {m : PutModule} {p : String} {done : Except Halt Unit}
      (chosen : (chosenTools all r).isEmpty = false) (generates : store.Generates store₁)
      (source : m.source = r.fileName) (settings : ∀ c, config = some c → m.settings = c)
      (text : done = .ok () → ∃ bodies : List (String × String),
        bodies.map (·.1) = (chosenTools all r).map (·.name) ∧
          m.text = moduleText m.settings.output.format bodies (chosenTools all r))
      (place : store₁.disk.place m.path = .ok p) :
      WorkOn config all store r (some m)
        ({ store₁ with disk := store₁.disk.putFile p m.octets }, done)

/-- **The work on one source does that and no more.** -/
theorem writeOne_work (store : HandlerStore) (r : Instrumentation) :
    WorkOn config (a.has "--all") store r (putModule? s a config store r)
      (writeOne s a config store r).value := by
  unfold putModule? readyModule writeOne
  cases houtcome : r.outcome with
  | nothing => exact .idle (by simp [chosenTools, houtcome, Outcome.proposals])
  | failed p => exact .idle (by simp [chosenTools, houtcome, Outcome.proposals])
  | tools ps =>
    dsimp only
    cases htools : writingTools s a store.disk config r with
    | error h => exact .halted ⟨rfl, .refl⟩
    | ok found =>
      obtain ⟨c, writer⟩ := found
      dsimp only [writeBeside]
      cases hempty : (chosenTools (a.has "--all") r).isEmpty with
      | true => exact .idle hempty
      | false =>
        have hgen := generates_all writer (.measure c.llm.temperature) s.time
          (chosenTools (a.has "--all") r) store
        simp only [Bool.false_eq_true, if_false]
        cases hvalue : (generateAll writer (.measure c.llm.temperature) s.time store
            (chosenTools (a.has "--all") r)).value with
        | mk store₁ generated =>
          rw [hvalue] at hgen
          cases generated with
          | error f => exact .halted hgen
          | ok bodies =>
            have hnames : bodies.map (·.1) = (chosenTools (a.has "--all") r).map (·.name) :=
              generateAll_names writer (.measure c.llm.temperature) s.time (by rw [hvalue])
            simp only [Option.bind_some, PutModule.path, Told.map, Told.after, writeModule_value]
            cases hp : store₁.disk.place (modulePath c r.fileName) with
            | error f =>
              rw [attempt_refused hp]
              exact .halted hgen
            | ok p =>
              let text := moduleText c.output.format bodies (chosenTools (a.has "--all") r)
              obtain ⟨hdisk, hwhole⟩ : (store₁.disk.attempt _ text).1 = _ ∧ _ := attempt_put hp
              rw [hdisk]
              refine .put hempty hgen rfl (settings_of_writingTools htools) (fun hdone => ?_) hp
              exact ⟨bodies, hnames, hwhole (mapError_eq_ok_iff.mp hdone)⟩

/-- The work on one source leaves its module, and changes no other file but that of the cache. -/
theorem WorkOn.holds {all : Bool} {r : Instrumentation} {found : Option PutModule}
    {left : HandlerStore × Except Halt Unit} (h : WorkOn config all store r found left) :
    store.Holds found.toList left.1 := by
  cases h with
  | idle _ => exact HandlerStore.Generates.holds ⟨rfl, .refl⟩
  | halted generates => exact generates.holds
  | put _ generates _ _ _ place => exact generates.holds.trans (holds_putFile place)

/-- **What a run leaves**: every file holds what was put into it last, or what it held at first. -/
theorem writeEach_holds : ∀ (rs : List Instrumentation) (store : HandlerStore),
    store.Holds (modulesPut s a config store rs) (writeEach s a config store rs).value.1
  | [], _ => HandlerStore.Generates.holds ⟨rfl, .refl⟩
  | r :: rest, store => by
    have work : WorkOn config (a.has "--all") store r (putModule? s a config store r)
        (writeOne s a config store r).value := writeOne_work store r
    have first := work.holds
    rw [modulesPut, writeEach]
    cases h : (writeOne s a config store r).value with
    | mk store' done =>
      rw [h] at first
      cases done with
      | error f => exact first
      | ok u => exact first.trans (writeEach_holds rest store')

/-! ## 4. What was put -/

theorem mem_of_lastAt {target : String → String} {q : String} {bs : List UInt8} :
    ∀ {ms : List PutModule}, lastAt target ms q = some bs →
      ∃ m ∈ ms, target m.path = q ∧ m.octets = bs
  | m :: rest, h => by
    rw [lastAt] at h
    cases hrest : lastAt target rest q with
    | some bs' =>
      rw [hrest] at h
      obtain ⟨m', hm', hat⟩ := mem_of_lastAt hrest
      cases h
      exact ⟨m', List.mem_cons_of_mem m hm', hat⟩
    | none =>
      rw [hrest] at h
      by_cases hq : target m.path = q
      · rw [if_pos hq] at h
        exact ⟨m, List.mem_cons_self, hq, Option.some.inj h⟩
      · rw [if_neg hq] at h
        cases h

theorem lastAt_isSome (target : String → String) {m : PutModule} :
    ∀ {ms : List PutModule}, m ∈ ms → (lastAt target ms (target m.path)).isSome = true
  | m' :: rest, h => by
    rw [lastAt]
    rcases List.mem_cons.mp h with rfl | h
    · cases lastAt target rest (target m.path) <;> simp
    · obtain ⟨bs, hbs⟩ := Option.isSome_iff_exists.mp (lastAt_isSome target h)
      rw [hbs]
      rfl

/-- All modules are where they were put, and all sources are as they were. -/
structure ModulesKept (ms : List PutModule) (sources : List String) (d d' : Disk) : Prop where
  modules : ∀ m ∈ ms, d'.octets? m.path = some m.octets
  sources : ∀ p ∈ sources, ∀ bs, d.octets? p = some bs → d'.octets? p = some bs

/-- **No module stands in the way of another file**: two modules at one place are the same, and a
    module at the place of a source is that source. -/
structure ModulesApart (ms : List PutModule) (sources : List String) (d : Disk) : Prop where
  modules : ∀ m ∈ ms, ∀ m' ∈ ms, d.target m.path = d.target m'.path → m.octets = m'.octets
  sources : ∀ m ∈ ms, ∀ p ∈ sources, ∀ bs, d.octets? p = some bs →
    d.target p = d.target m.path → m.octets = bs

/-- The contents of a file are at the target of its path. -/
theorem octets?_eq_some {d : Disk} {path : String} {bs : List UInt8} :
    d.octets? path = some bs ↔
      d.locate path = some (d.target path) ∧ d.files.lookup (d.target path) = some bs := by
  unfold Disk.octets?
  rw [Option.bind_eq_some_iff]
  constructor
  · rintro ⟨q, hq, hbs⟩
    rw [locate_eq_target hq]
    exact ⟨hq, hbs⟩
  · rintro ⟨hq, hbs⟩
    exact ⟨_, hq, hbs⟩

section Keeping

variable {sources : List String}

theorem HandlerStore.Holds.apart (h : store.Holds ms store')
    (hkept : ModulesKept ms sources store.disk store'.disk) :
    ModulesApart ms sources store.disk := by
  have htarget : store'.disk.target = store.disk.target := funext h.disk.target
  have hat : ∀ m ∈ ms, store'.disk.files.lookup (store.disk.target m.path) = some m.octets := by
    intro m hm
    rw [← htarget]
    exact (octets?_eq_some.mp (hkept.modules m hm)).2
  refine ⟨fun m hm m' hm' hsame => ?_, fun m hm p hp bs hbs hsame => ?_⟩
  · have hboth := hat m hm
    rw [hsame, hat m' hm'] at hboth
    exact (Option.some.inj hboth).symm
  · have hsource := (octets?_eq_some.mp (hkept.sources p hp bs hbs)).2
    rw [htarget, hsame, hat m hm] at hsource
    exact Option.some.inj hsource

theorem HandlerStore.Holds.kept (h : store.Holds ms store')
    (hms : ∀ m ∈ ms, ¬ store.CachePlace (store.disk.target m.path))
    (hsources : ∀ p ∈ sources, ¬ store.CachePlace (store.disk.target p))
    (hapart : ModulesApart ms sources store.disk) :
    ModulesKept ms sources store.disk store'.disk := by
  have htarget : store'.disk.target = store.disk.target := funext h.disk.target
  refine ⟨fun m hm => ?_, fun p hp bs hbs => ?_⟩
  · obtain ⟨bs, hlast⟩ := Option.isSome_iff_exists.mp
      (lastAt_isSome store.disk.target hm)
    obtain ⟨m', hm', hplace, rfl⟩ := mem_of_lastAt hlast
    have hfile : store'.disk.files.lookup (store.disk.target m.path) = some m'.octets :=
      h.files (hms m hm) (by rw [hlast]; rfl)
    rw [octets?_eq_some, htarget, hapart.modules m hm m' hm' hplace.symm]
    exact ⟨h.located m hm, hfile⟩
  · obtain ⟨hlocate, hlookup⟩ := octets?_eq_some.mp hbs
    rw [octets?_eq_some, htarget]
    refine ⟨h.disk.locate hlocate, h.files (hsources p hp) ?_⟩
    cases hlast : lastAt store.disk.target ms (store.disk.target p) with
    | none => exact hlookup
    | some bs' =>
      obtain ⟨m, hm, hplace, rfl⟩ := mem_of_lastAt hlast
      rw [hapart.sources m hm p hp bs hbs hplace.symm]
      rfl

/-- **Modules of sources that differ in their extensions alone are not both kept**, unless they are
    the same. -/
theorem not_kept_of_same_stem (h : store.Holds ms store') {m m' : PutModule} (hm : m ∈ ms)
    (hm' : m' ∈ ms) (hsettings : m.settings = m'.settings)
    (hstem : (Path.splitExtension m.source).1 = (Path.splitExtension m'.source).1)
    (hdiffer : m.octets ≠ m'.octets) : ¬ ModulesKept ms sources store.disk store'.disk := by
  intro hkept
  have hpath : m.path = m'.path := by
    unfold PutModule.path
    rw [hsettings]
    exact (modulePath_eq_iff _ _ _).mpr hstem
  exact hdiffer ((h.apart hkept).modules m hm m' hm' (congrArg _ hpath))

end Keeping

/-! ## 5. Runs that end -/

/-- The module of a source: it has the chosen tools with a body for each of them. -/
structure ModuleOf (config : Option Config) (all : Bool) (r : Instrumentation) (m : PutModule) :
    Prop where
  source : m.source = r.fileName
  settings : ∀ c, config = some c → m.settings = c
  text : ∃ bodies : List (String × String),
    bodies.map (·.1) = (chosenTools all r).map (·.name) ∧
      m.text = moduleText m.settings.output.format bodies (chosenTools all r)

/-- A source whose work ends has a module iff it has chosen tools. -/
theorem WorkOn.module {all : Bool} {r : Instrumentation} {found : Option PutModule}
    (h : WorkOn config all store r found (store', .ok ())) :
    List.Forall₂ (ModuleOf config all) ([r].filter fun r => !(chosenTools all r).isEmpty)
      found.toList := by
  cases h with
  | idle chosen =>
    rw [List.filter_cons_of_neg (by simp [chosen])]
    exact .nil
  | put chosen _ source settings text _ =>
    rw [List.filter_cons_of_pos (by simp [chosen])]
    exact .cons ⟨source, settings, text rfl⟩ .nil

theorem modulesPut_of_ok : ∀ {rs : List Instrumentation} {store : HandlerStore},
    (writeEach s a config store rs).value.2 = .ok () →
    List.Forall₂ (ModuleOf config (a.has "--all"))
      (rs.filter fun r => !(chosenTools (a.has "--all") r).isEmpty)
      (modulesPut s a config store rs)
  | [], _, _ => .nil
  | r :: rest, store, h => by
    rw [writeEach] at h
    rw [modulesPut]
    cases hone : (writeOne s a config store r).value with
    | mk store' done =>
      rw [hone] at h
      cases done with
      | error f => cases h
      | ok u =>
        have hrest : (writeEach s a config store' rest).value.2 = .ok () := h
        have work : WorkOn config (a.has "--all") store r (putModule? s a config store r)
            (store', .ok ()) := hone ▸ writeOne_work store r
        have first := work.module
        have later := modulesPut_of_ok hrest
        have hfilter : (r :: rest).filter (fun r => !(chosenTools (a.has "--all") r).isEmpty) =
            [r].filter (fun r => !(chosenTools (a.has "--all") r).isEmpty) ++
              rest.filter (fun r => !(chosenTools (a.has "--all") r).isEmpty) :=
          List.filter_append [r] rest
        rw [hfilter]
        exact List.rel_append first later

/-- A module that is put somewhere is that of the source, also if the work breaks off. -/
theorem WorkOn.source {all : Bool} {r : Instrumentation} {m : PutModule}
    {left : HandlerStore × Except Halt Unit} (h : WorkOn config all store r (some m) left) :
    m.source = r.fileName ∧ ∀ c, config = some c → m.settings = c := by
  cases h with
  | put _ _ source settings _ _ => exact ⟨source, settings⟩

theorem source_of_modulesPut {m : PutModule} : ∀ {rs : List Instrumentation} {store : HandlerStore},
    m ∈ modulesPut s a config store rs →
      ∃ r ∈ rs, m.source = r.fileName ∧ ∀ c, config = some c → m.settings = c
  | r :: rest, store, h => by
    have here : m ∈ (putModule? s a config store r).toList →
        ∃ r' ∈ r :: rest, m.source = r'.fileName ∧ ∀ c, config = some c → m.settings = c :=
      fun hm => by
        have work : WorkOn config (a.has "--all") store r (putModule? s a config store r)
            (writeOne s a config store r).value := writeOne_work store r
        rw [Option.mem_toList.mp hm] at work
        exact ⟨r, List.mem_cons_self, work.source⟩
    rw [modulesPut] at h
    split at h
    · exact here h
    · rcases List.mem_append.mp h with h | h
      · exact here h
      · obtain ⟨r', hr', hm⟩ := source_of_modulesPut h
        exact ⟨r', List.mem_cons_of_mem r hr', hm⟩

end Writing

/-! ## 6. The command -/

/-- The disk and the cache that a command starts to write on. -/
def Surroundings.store (s : Surroundings) : HandlerStore := ⟨s.disk, homeCache s.disk⟩

theorem instrumentWork_disk {s : Surroundings} {a : Arguments} {config : Option Config}
    {rs : List Instrumentation} (named : namedConfig s a = .ok config)
    (batch : (instrumentBatch (workbench s a config) a.operands).value = .ok rs) :
    (instrumentWork s a).disk = (writePhase s a config rs).value.1.disk := by
  unfold instrumentWork
  rw [named]
  dsimp only
  rw [batch]
  dsimp only [finishInstrument]
  split <;> next h => rw [h]

/-- **A command keeps all the modules it writes and all its sources iff its modules stand in the way
    of no other file**, where none of them is where the cache keeps its file. If nothing stops it,
    it writes a module for every source with chosen tools, with a body for each of these. -/
theorem modules_kept_iff {s : Surroundings} {a : Arguments} {config : Option Config}
    {rs : List Instrumentation} (write : a.has "--write" = true)
    (named : namedConfig s a = .ok config)
    (batch : (instrumentBatch (workbench s a config) a.operands).value = .ok rs)
    (clear : ∀ p ∈ (modulesPut s a config s.store rs).map PutModule.path ++ a.operands,
      ¬ s.store.CachePlace (s.disk.target p)) :
    ((writePhase s a config rs).value.2 = .ok () →
      List.Forall₂ (ModuleOf config (a.has "--all"))
        (rs.filter fun r => !(chosenTools (a.has "--all") r).isEmpty)
        (modulesPut s a config s.store rs)) ∧
    (ModulesKept (modulesPut s a config s.store rs) a.operands s.disk (instrumentWork s a).disk ↔
      ModulesApart (modulesPut s a config s.store rs) a.operands s.disk) := by
  have hphase : writePhase s a config rs = writeEach s a config s.store rs := if_pos write
  have hholds : s.store.Holds (modulesPut s a config s.store rs)
      (writePhase s a config rs).value.1 := by
    rw [hphase]
    exact writeEach_holds rs s.store
  rw [instrumentWork_disk named batch]
  refine ⟨fun finished => ?_, fun hkept => hholds.apart hkept, fun hapart => ?_⟩
  · rw [hphase] at finished
    exact modulesPut_of_ok finished
  · refine hholds.kept (fun m hm => ?_) (fun p hp => ?_) hapart
    · exact clear m.path (List.mem_append_left _ (List.mem_map_of_mem hm))
    · exact clear p (List.mem_append_right _ hp)

/-- Two pages, and settings for them. -/
def twoPages : Surroundings where
  disk := { files := [("/a.html", "<button>Save</button>".toUTF8.toList),
    ("/b.html", "<button>Open</button>".toUTF8.toList), ("/c.json", "\x7b\x7d".toUTF8.toList)] }
  browser := { fault := fun _ => none, payload := .null }

/-- The arguments that have modules written for both pages. -/
def writePages : Arguments where
  options := [("--write", .on), ("--config", .text "c.json")]
  operands := ["a.html", "b.html"]

theorem modules_kept_iff_twoPages : ∃ rs,
    writePages.has "--write" = true ∧
    namedConfig twoPages writePages = .ok (some {}) ∧
    (instrumentBatch (workbench twoPages writePages (some {})) ["a.html", "b.html"]).value = .ok rs ∧
    rs.map (·.fileName) = ["a.html", "b.html"] ∧
    (∀ p ∈ (modulesPut twoPages writePages (some {}) twoPages.store rs).map PutModule.path ++
      ["a.html", "b.html"], ¬ twoPages.store.CachePlace (twoPages.disk.target p)) ∧
    (ModulesKept (modulesPut twoPages writePages (some {}) twoPages.store rs) ["a.html", "b.html"]
        twoPages.disk (instrumentWork twoPages writePages).disk ↔
      ModulesApart (modulesPut twoPages writePages (some {}) twoPages.store rs)
        ["a.html", "b.html"] twoPages.disk) := by
  have write : writePages.has "--write" = true := by decide +kernel
  have named : namedConfig twoPages writePages = .ok (some {}) := by
    have hsome : (namedConfig twoPages writePages).toOption = some (some {}) := by decide +kernel
    cases h : namedConfig twoPages writePages with
    | error e => rw [h] at hsome; cases hsome
    | ok c => rw [h] at hsome; exact congrArg Except.ok (Option.some.inj hsome)
  have hnames : ((instrumentBatch (workbench twoPages writePages (some {}))
      ["a.html", "b.html"]).value.toOption.map fun rs => rs.map (·.fileName)) =
        some ["a.html", "b.html"] := by decide +kernel
  cases batch : (instrumentBatch (workbench twoPages writePages (some {}))
      ["a.html", "b.html"]).value with
  | error e => rw [batch] at hnames; cases hnames
  | ok rs =>
    rw [batch] at hnames
    have hfiles : rs.map (·.fileName) = ["a.html", "b.html"] := Option.some.inj hnames
    have hsources : ∀ f ∈ ["a.html", "b.html"],
        ¬ twoPages.store.CachePlace (twoPages.disk.target f) ∧
        ¬ twoPages.store.CachePlace (twoPages.disk.target (modulePath {} f)) := by
      have hcache : ∀ q, twoPages.store.CachePlace q ↔ q = "/.afc_instrument/cache.json" := by
        intro q
        have htarget : twoPages.disk.target
            (Path.join (Path.join twoPages.disk.home ".afc_instrument") "cache.json") =
              "/.afc_instrument/cache.json" := by decide +kernel
        constructor
        · rintro ⟨path, ⟨⟩, rfl⟩
          exact htarget
        · rintro rfl
          exact ⟨_, rfl, htarget.symm⟩
      simp only [hcache]
      decide +kernel
    have clear : ∀ p ∈ (modulesPut twoPages writePages (some {}) twoPages.store rs).map
        PutModule.path ++ ["a.html", "b.html"],
        ¬ twoPages.store.CachePlace (twoPages.disk.target p) := by
      intro p hp
      rcases List.mem_append.mp hp with hp | hp
      · obtain ⟨m, hm, rfl⟩ := List.mem_map.mp hp
        obtain ⟨r, hr, hsource, hsettings⟩ := source_of_modulesPut hm
        have hmem : r.fileName ∈ ["a.html", "b.html"] := hfiles ▸ List.mem_map_of_mem hr
        rw [PutModule.path, hsettings {} rfl, hsource]
        exact (hsources _ hmem).2
      · exact (hsources p hp).1
    exact ⟨rs, write, named, rfl, hfiles, clear, (modules_kept_iff write named batch clear).2⟩

end Affordance
