import Mathlib.Data.List.Forall2
import Affordance.Instrument.Files
import Affordance.Proofs.Json.Pieces

/-!
# Sessions of generated handlers

Handlers are asked for one after the other, and all requests share one cache.

  * `Proposal.surfaceFault?_eq_none_iff`: a surface has a digest iff every text of it has octets.
  * `HandlerRequest.Comes`: what comes of a request: it is refused, its body is in the cache, or one
    is written. **`HandlerRequest.comes`**: nothing else does.
  * `Kept`: the INVARIANT of a session. Under every key the cache holds what was written for the
    first request with that digest, and nothing under any other key. `kept_step`: every request
    keeps it, also one that is refused and one whose file cannot be written.
  * **`results_plain`**: so in a session without writers a tool whose surface has a digest is given
    the template of the FIRST tool with that digest, whatever else was asked before; a tool whose
    surface has none is refused, and no other is as long as the cache can be written.
  * `own_template_not_given`: two buttons that differ in their identifiers alone have one surface,
    so the second one is given the handler that presses the first; and half of a surrogate pair in
    an option is refused.
-/

namespace Affordance

open Affordance.Text

/-! ## 1. Surfaces without a digest -/

/-- **A tool's surface has a digest iff every text of it has octets.** Halves of surrogate pairs
    have none; they are told from other characters as `half?` does, which reads the private
    characters U+10D800 to U+10DFFF as halves. -/
theorem Proposal.surfaceFault?_eq_none_iff (p : Proposal) :
    p.surfaceFault? = none ↔ ∀ s ∈ p.surface.pieces, halfFault? s = none :=
  Json.halfFault?_render_iff p.surface

/-! ## 2. Requests -/

/-- A request for a tool's handler. -/
structure HandlerRequest where
  tool : Proposal
  writer : Option Writer := none
  excerpt : Option String := none
  temperature : Temperature := .standard
  time : Int := 0

/-- The body that was generated, if the request did not fail. -/
def Generation.body? (g : Generation) : Option String := g.answer.toOption.map (·.1)

/-- The disk and the cache that a generation leaves. -/
def Generation.store (g : Generation) : HandlerStore where
  disk :=
    match g.answer with
    | .ok (_, d) => d
    | .error f => f.disk
  cache := g.cache

/-- The body under a key, as the next request will find it. -/
def HandlerStore.body? (store : HandlerStore) (key : String) : Option String :=
  ((store.cache.load store.disk).value.lookup key).map (·.body)

namespace HandlerRequest

/-- The key of the tool's surface. -/
def key (r : HandlerRequest) : String := r.tool.surfaceKey

/-- The surface of the tool has a digest: no text of it holds a half, as `half?` tells them. -/
def hasDigest (r : HandlerRequest) : Bool := r.tool.surfaceFault?.isNone

/-- What the writer of a request is asked, if it is asked. -/
def inquiry (r : HandlerRequest) : Inquiry := handlerInquiry r.tool r.excerpt r.temperature

/-- The body that is written for a request, if there is none in the cache. -/
def written (r : HandlerRequest) : String :=
  (writeBody r.tool r.writer (handlerInquiry r.tool r.excerpt r.temperature)).value

/-- What comes of a request. -/
def result (r : HandlerRequest) (store : HandlerStore) : Generation :=
  (generateHandler store.disk store.cache r.tool r.writer r.excerpt r.temperature r.time).value

/-- The cache with what is written for a request. -/
def kept (r : HandlerRequest) (store : HandlerStore) : BodyCache :=
  (store.cache.set store.disk r.key r.written r.time).value.1

/-- The disk with what is written for a request. -/
def saved (r : HandlerRequest) (store : HandlerStore) : Except Disk.FailedWrite Disk :=
  (store.cache.set store.disk r.key r.written r.time).value.2

/-- The write that a request makes, if it makes one, does not fail. -/
def WriteOk (r : HandlerRequest) (store : HandlerStore) : Prop :=
  r.hasDigest = true → store.body? r.key = none → ∃ d, r.saved store = .ok d

variable {r : HandlerRequest} {store : HandlerStore}

/-- Without a writer the template is written. -/
theorem written_of_plain (h : r.writer = none) : r.written = templateHandler r.tool := by
  unfold written
  rw [h]
  rfl

/-! ## 3. What comes of a request -/

/-- What comes of a request to a store. -/
inductive Comes (r : HandlerRequest) (store : HandlerStore) : Generation → Prop
  /-- The tool's surface has no digest: nothing is asked and nothing changes. -/
  | refused {f : HalfFault} (fault : r.tool.surfaceFault? = some f) :
      Comes r store ⟨store.cache, .error ⟨.noOctets f, store.disk⟩, none⟩
  /-- The body is in the cache: nothing is asked, and what the cache holds stays. -/
  | held {body : String} (digest : r.hasDigest = true) (found : store.body? r.key = some body) :
      Comes r store
        ⟨store.cache.holding (store.cache.load store.disk).value, .ok (body, store.disk), none⟩
  /-- No body is in the cache: the one that is written is put there, whether the file can be
      written or not. -/
  | new (digest : r.hasDigest = true) (missing : store.body? r.key = none) :
      Comes r store
        ⟨r.kept store, (r.saved store).map (r.written, ·), r.writer.map fun _ => r.inquiry⟩

/-- **Nothing else comes of a request.** -/
theorem comes (r : HandlerRequest) (store : HandlerStore) : r.Comes store (r.result store) := by
  have hget : (store.cache.get store.disk r.key).value =
      (store.cache.holding (store.cache.load store.disk).value, store.body? r.key) := rfl
  unfold result generateHandler
  cases fault : r.tool.surfaceFault? with
  | some f => exact .refused fault
  | none =>
    have digest : r.hasDigest = true := Option.isNone_iff_eq_none.mpr fault
    rw [key] at hget
    simp only [bodyFor, hget]
    cases found : store.body? r.tool.surfaceKey with
    | some body => exact .held digest found
    | none => exact .new digest found

/-- What was written is found under its key, all else as before. -/
theorem body?_kept (d : Disk) (key : String) :
    HandlerStore.body? ⟨d, r.kept store⟩ key =
      if key = r.key then some r.written else store.body? key := by
  have hlookup : HandlerStore.body? ⟨d, r.kept store⟩ key =
      ((Keyed.put r.key (CacheEntry.new r.written r.time)
        (store.cache.load store.disk).value).lookup key).map (·.body) := rfl
  rw [hlookup]
  split
  · next h =>
    rw [h, Keyed.lookup_put_self]
    rfl
  · next h =>
    rw [Keyed.lookup_put_other h]
    rfl

theorem hasDigest_eq_false {f : HalfFault} (fault : r.tool.surfaceFault? = some f) :
    r.hasDigest = false := by
  simp [hasDigest, fault]

/-- A surface with a digest has no fault. -/
theorem surfaceFault?_ne_some (digest : r.hasDigest = true) (f : HalfFault) :
    r.tool.surfaceFault? ≠ some f := fun fault =>
  Bool.false_ne_true ((hasDigest_eq_false fault).symm.trans digest)

variable {g : Generation}

/-- A request leaves the path of the cache. -/
theorem Comes.path (h : r.Comes store g) : g.cache.path = store.cache.path := by
  cases h <;> rfl

/-- A request whose write does not fail is refused iff the tool's surface has no digest. -/
theorem Comes.given_iff (h : r.Comes store g) (ok : r.WriteOk store) :
    g.body?.isSome = true ↔ r.hasDigest = true := by
  cases h with
  | refused fault => simp [Generation.body?, Except.toOption, hasDigest_eq_false fault]
  | held digest found => simp [Generation.body?, Except.toOption, digest]
  | new digest missing =>
    obtain ⟨d, hd⟩ := ok digest missing
    simp [Generation.body?, hd, Except.map, Except.toOption, digest]

end HandlerRequest

/-! ## 4. What a cache keeps -/

/-- The first of the requests with a digest. -/
def firstRequest (requests : List HandlerRequest) (key : String) : Option HandlerRequest :=
  requests.find? fun r => r.hasDigest && r.key = key

theorem firstRequest_append (requests later : List HandlerRequest) (key : String) :
    firstRequest (requests ++ later) key =
      (firstRequest requests key <|> firstRequest later key) := by
  simp [firstRequest, List.find?_append]

theorem firstRequest_self {r : HandlerRequest} (h : r.hasDigest = true) :
    firstRequest [r] r.key = some r := by
  simp [firstRequest, h]

theorem firstRequest_refused {r : HandlerRequest} (h : r.hasDigest = false) (key : String) :
    firstRequest [r] key = none := by
  simp [firstRequest, h]

theorem firstRequest_other {r : HandlerRequest} {key : String} (h : key ≠ r.key) :
    firstRequest [r] key = none := by
  simp [firstRequest, Ne.symm h]

/-- **The invariant of a session**: the cache holds what was written for the requests so far, under
    each key what was written for the first one with it. -/
def Kept (store : HandlerStore) (done : List HandlerRequest) : Prop :=
  ∀ key, store.body? key = (firstRequest done key).map (·.written)

theorem kept_nil {store : HandlerStore} (h : (store.cache.load store.disk).value = []) :
    Kept store [] := by
  intro key
  simp [HandlerStore.body?, h, firstRequest]

/-- What comes of a request is right: it is refused if the tool's surface has no digest, and the
    body that it is given was written for the first request with the same digest. -/
structure Answered (requests : List HandlerRequest) (r : HandlerRequest) (g : Generation) :
    Prop where
  refused : ∀ f, r.tool.surfaceFault? = some f → ∃ d, g.answer = .error ⟨.noOctets f, d⟩
  first : ∀ {body}, g.body? = some body →
    (firstRequest requests r.key).map (·.written) = some body

/-- Later requests change nothing for a request. -/
theorem Answered.append {done later : List HandlerRequest} {r : HandlerRequest} {g : Generation}
    (h : Answered (done ++ [r]) r g) : Answered (done ++ r :: later) r g where
  refused := h.refused
  first hbody := by
    obtain ⟨q, hq, hwritten⟩ := Option.map_eq_some_iff.mp (h.first hbody)
    rw [List.append_cons, firstRequest_append, hq]
    exact congrArg some hwritten

section Step

variable {store : HandlerStore} {done : List HandlerRequest} {r : HandlerRequest} {g : Generation}

/-- **What comes of a request is right** if the cache keeps what was written for those before. -/
theorem answered_step (hk : Kept store done) (h : r.Comes store g) :
    Answered (done ++ [r]) r g := by
  cases h with
  | refused fault =>
    refine ⟨fun f hf => ⟨store.disk, ?_⟩, nofun⟩
    cases fault.symm.trans hf
    rfl
  | held digest found =>
    refine ⟨fun f hf => absurd hf (r.surfaceFault?_ne_some digest f), fun hbody => ?_⟩
    cases hbody
    rw [hk] at found
    obtain ⟨q, hq, hwritten⟩ := Option.map_eq_some_iff.mp found
    rw [firstRequest_append, hq]
    exact congrArg some hwritten
  | new digest missing =>
    refine ⟨fun f hf => absurd hf (r.surfaceFault?_ne_some digest f), fun hbody => ?_⟩
    -- No request before had the digest, so this one is the first.
    rw [hk, Option.map_eq_none_iff] at missing
    rw [firstRequest_append, missing, firstRequest_self digest]
    cases hs : r.saved store with
    | error f =>
      rw [hs] at hbody
      cases hbody
    | ok d =>
      rw [hs] at hbody
      exact hbody

/-- **A request keeps the invariant**, whatever comes of it. -/
theorem kept_step (hk : Kept store done) (h : r.Comes store g) : Kept g.store (done ++ [r]) := by
  intro key
  rw [firstRequest_append]
  cases h with
  | refused fault =>
    rw [firstRequest_refused (r.hasDigest_eq_false fault)]
    refine (hk key).trans ?_
    cases firstRequest done key <;> rfl
  | held digest found =>
    refine (hk key).trans ?_
    by_cases hkey : key = r.key
    · rw [hk, ← hkey] at found
      obtain ⟨q, hq, -⟩ := Option.map_eq_some_iff.mp found
      rw [hq]
      rfl
    · rw [firstRequest_other hkey]
      cases firstRequest done key <;> rfl
  | new digest missing =>
    refine (HandlerRequest.body?_kept _ key).trans ?_
    by_cases hkey : key = r.key
    · rw [hk, Option.map_eq_none_iff] at missing
      rw [if_pos hkey, hkey, missing, firstRequest_self digest]
      rfl
    · rw [if_neg hkey, hk key, firstRequest_other hkey]
      cases firstRequest done key <;> rfl

end Step

/-! ## 5. Whole sessions -/

/-- What comes of requests, one after the other. -/
def results : HandlerStore → List HandlerRequest → List Generation
  | _, [] => []
  | store, r :: rest =>
    let g := r.result store
    g :: results g.store rest

/-- No write of a session fails. -/
def WritesOk : HandlerStore → List HandlerRequest → Prop
  | _, [] => True
  | store, r :: rest => r.WriteOk store ∧ WritesOk (r.result store).store rest

/-- From a cache that keeps some requests on, what comes of every request is right. -/
theorem answered_run : ∀ {requests done : List HandlerRequest} {store : HandlerStore},
    Kept store done → List.Forall₂ (Answered (done ++ requests)) requests (results store requests)
  | [], _, _, _ => .nil
  | r :: rest, done, store, hk => by
    have later : List.Forall₂ (Answered (done ++ [r] ++ rest)) rest
        (results (r.result store).store rest) := answered_run (kept_step hk (r.comes store))
    rw [← List.append_cons] at later
    exact .cons (answered_step hk (r.comes store)).append later

/-- If no write fails, a request is refused iff the tool's surface has no digest. -/
theorem given_run : ∀ {requests : List HandlerRequest} {store : HandlerStore},
    WritesOk store requests →
      List.Forall₂ (fun r g => g.body?.isSome = true ↔ r.hasDigest = true) requests
        (results store requests)
  | [], _, _ => .nil
  | r :: _, store, ok => .cons ((r.comes store).given_iff ok.1) (given_run ok.2)

/-- In memory alone no write fails. -/
theorem writesOk_of_memory : ∀ {requests : List HandlerRequest} {store : HandlerStore},
    nonEmpty store.cache.path = none → WritesOk store requests
  | [], _, _ => trivial
  | r :: rest, store, hm => by
    have ok : r.WriteOk store := by
      intro _ _
      refine ⟨store.disk, ?_⟩
      simp only [HandlerRequest.saved, BodyCache.set, Told.map, BodyCache.save, hm]
    have hrest : nonEmpty (r.result store).store.cache.path = none :=
      (congrArg nonEmpty (r.comes store).path).trans hm
    exact ⟨ok, writesOk_of_memory hrest⟩

/-! ## 6. Sessions without writers -/

/-- The first of the requests with the digest of a request, itself if it is none of them. -/
def firstAlike (requests : List HandlerRequest) (r : HandlerRequest) : HandlerRequest :=
  (firstRequest requests r.key).getD r

/-- If no request has a writer, the body of a request is the template of the first tool with the
    same digest. -/
theorem Answered.template {requests : List HandlerRequest} {r : HandlerRequest} {g : Generation}
    (h : Answered requests r g) (plain : ∀ r ∈ requests, r.writer = none) {body : String}
    (hbody : g.body? = some body) : body = templateHandler (firstAlike requests r).tool := by
  obtain ⟨q, hq, hwritten⟩ := Option.map_eq_some_iff.mp (h.first hbody)
  have hplain : q.writer = none := plain q (List.mem_of_find?_eq_some hq)
  rw [firstAlike, hq, ← hwritten, HandlerRequest.written_of_plain hplain]
  rfl

/-- So if it is not refused where the tool's surface has a digest, it is given that template. -/
theorem Answered.body?_eq {requests : List HandlerRequest} {r : HandlerRequest} {g : Generation}
    (h : Answered requests r g) (given : g.body?.isSome = true ↔ r.hasDigest = true)
    (plain : ∀ r ∈ requests, r.writer = none) :
    g.body? =
      if r.hasDigest then some (templateHandler (firstAlike requests r).tool) else none := by
  cases hbody : g.body? with
  | some body =>
    have digest : r.hasDigest = true := given.mp (by rw [hbody]; rfl)
    rw [if_pos digest, h.template plain hbody]
  | none =>
    have refused : ¬ r.hasDigest = true := by
      rw [← given, hbody]
      exact Bool.false_ne_true
    rw [if_neg refused]

section Plain

variable {store : HandlerStore} {requests : List HandlerRequest}

theorem answered_all (empty : (store.cache.load store.disk).value = []) :
    List.Forall₂ (Answered requests) requests (results store requests) := by
  have run : List.Forall₂ (Answered ([] ++ requests)) requests (results store requests) :=
    answered_run (kept_nil empty)
  rwa [List.nil_append] at run

/-- The bodies of a session without writers whose writes succeed. -/
theorem bodies_plain (empty : (store.cache.load store.disk).value = [])
    (plain : ∀ r ∈ requests, r.writer = none) (writes : WritesOk store requests) :
    (results store requests).map (·.body?) = requests.map fun r =>
      if r.hasDigest then some (templateHandler (firstAlike requests r).tool) else none := by
  have each : List.Forall₂ (fun r g =>
      (if r.hasDigest then some (templateHandler (firstAlike requests r).tool) else none) =
        Generation.body? g) requests (results store requests) :=
    List.Forall₂.mp (fun r g h given => (h.body?_eq given plain).symm) (answered_all empty)
      (given_run writes)
  rw [← List.forall₂_map_right_iff, ← List.forall₂_map_left_iff, List.forall₂_eq_eq_eq] at each
  exact each.symm

end Plain

/-- **A session without writers over one cache that is empty at first.** A tool whose surface has no
    digest (some text of it holds a half, as `half?` tells them) is refused for that. The body that
    any other tool is given is the template of the first tool of the session with the same digest;
    and if no write fails, as in memory alone, it is given one. -/
theorem results_plain (store : HandlerStore) (requests : List HandlerRequest)
    (empty : (store.cache.load store.disk).value = []) (plain : ∀ r ∈ requests, r.writer = none) :
    List.Forall₂ (fun r g =>
        (∀ f, r.tool.surfaceFault? = some f → ∃ d, g.answer = .error ⟨.noOctets f, d⟩) ∧
        ∀ body, g.body? = some body → body = templateHandler (firstAlike requests r).tool)
      requests (results store requests) ∧
    (WritesOk store requests → (results store requests).map (·.body?) =
      requests.map fun r =>
        if r.hasDigest then some (templateHandler (firstAlike requests r).tool) else none) ∧
    (nonEmpty store.cache.path = none → WritesOk store requests) :=
  ⟨(answered_all empty).imp fun _ _ h => ⟨h.refused, fun _ hbody => h.template plain hbody⟩,
    bodies_plain empty plain, writesOk_of_memory⟩

/-- The tool of a button with a label and an identifier. -/
def buttonTool (label id : String) : Proposal :=
  ((Candidate.assess none {
      kind := .action, componentName := "page"
      trigger := some { tag := .button, id := some id, label := some label } }).proposal
    false 1 "button")

/-- The identifier of a button leaves no trace in its surface. -/
theorem surfaceKey_buttonTool (label id id' : String) :
    (buttonTool label id).surfaceKey = (buttonTool label id').surfaceKey := by
  have h : (buttonTool label id).surface = (buttonTool label id').surface := by
    simp only [Proposal.surface, buttonTool, Assessed.proposal, Candidate.assess, orNull,
      triggerSurface]
  unfold Proposal.surfaceKey Proposal.surfaceText
  rw [h]

/-- A selection with an option that is half of a surrogate pair. -/
def halvedTool : Proposal :=
  (Candidate.assess none {
      kind := .form, componentName := "page"
      trigger := some { tag := .button, label := some "Go" }
      inputs := [{ tag := .select, name := some "a"
                   options := [String.ofList [charOfHalf 0xd800]] }] }).proposal false 1 "go"

/-- Two buttons of one label. -/
def twoButtons : List HandlerRequest :=
  [{ tool := buttonTool "Refresh" "a" }, { tool := buttonTool "Refresh" "b" }]

theorem hasDigest_twoButtons : ∀ r ∈ twoButtons, r.hasDigest = true := by
  simp only [HandlerRequest.hasDigest, Option.isNone_iff_eq_none,
    Proposal.surfaceFault?_eq_none_iff]
  decide +kernel

theorem hasDigest_halvedTool : HandlerRequest.hasDigest { tool := halvedTool } = false := by
  have fault : halvedTool.surfaceFault? ≠ none := by
    rw [Ne, Proposal.surfaceFault?_eq_none_iff]
    decide +kernel
  exact Option.isNone_eq_false_iff.mpr (Option.isSome_iff_ne_none.mpr fault)

/-- The first of two buttons of one label is alike to both. -/
theorem firstAlike_twoButtons (later : List HandlerRequest) :
    ∀ r ∈ twoButtons, (firstAlike (twoButtons ++ later) r).tool = buttonTool "Refresh" "a" := by
  intro r hr
  have digest : HandlerRequest.hasDigest { tool := buttonTool "Refresh" "a" } = true :=
    hasDigest_twoButtons _ List.mem_cons_self
  have key : HandlerRequest.key { tool := buttonTool "Refresh" "a" } = r.key := by
    simp only [twoButtons, List.mem_cons, List.not_mem_nil, or_false] at hr
    obtain rfl | rfl := hr
    · rfl
    · exact surfaceKey_buttonTool "Refresh" "a" "b"
  simp [firstAlike, firstRequest, twoButtons, digest, key]

/-- The second of two buttons of one label is given the template of the first, and a selection
    without a digest none. -/
theorem results_plain_twoButtons :
    (({} : BodyCache).load {}).value = [] ∧
    (∀ r ∈ twoButtons ++ [{ tool := halvedTool }], r.writer = none) ∧
    WritesOk ⟨{}, {}⟩ (twoButtons ++ [{ tool := halvedTool }]) ∧
    (results ⟨{}, {}⟩ (twoButtons ++ [{ tool := halvedTool }])).map (·.body?) =
      [some (templateHandler (buttonTool "Refresh" "a")),
        some (templateHandler (buttonTool "Refresh" "a")), none] := by
  have plain : ∀ r ∈ twoButtons ++ [{ tool := halvedTool }], r.writer = none := by
    simp [twoButtons]
  obtain ⟨-, bodies, memory⟩ := results_plain ⟨{}, {}⟩ (twoButtons ++ [{ tool := halvedTool }])
    rfl plain
  refine ⟨rfl, plain, memory rfl, (bodies (memory rfl)).trans ?_⟩
  have digests := hasDigest_twoButtons
  have alike := firstAlike_twoButtons [{ tool := halvedTool }]
  simp only [twoButtons, List.mem_cons, List.not_mem_nil, or_false, forall_eq_or_imp,
    forall_eq] at digests alike
  simp only [List.cons_append, List.nil_append] at alike
  simp only [twoButtons, List.cons_append, List.nil_append, List.map_cons, List.map_nil, digests,
    alike, hasDigest_halvedTool, if_true, Bool.false_eq_true, if_false]

/-- **Not every tool is given its own template**: of two buttons of one label the second one is
    given the handler of the first, and a selection without a digest is given none. -/
theorem own_template_not_given :
    ¬ (∀ requests : List HandlerRequest, (∀ r ∈ requests, r.writer = none) →
      (∀ r ∈ requests, r.hasDigest = true) →
      (results ⟨{}, {}⟩ requests).map (·.body?) =
        requests.map fun r => some (templateHandler r.tool)) ∧
    (results ⟨{}, {}⟩ [{ tool := halvedTool }]).map (·.body?) = [none] := by
  have bodies {requests : List HandlerRequest} (plain : ∀ r ∈ requests, r.writer = none) :
      (results ⟨{}, {}⟩ requests).map (·.body?) = requests.map fun r =>
        if r.hasDigest then some (templateHandler (firstAlike requests r).tool) else none :=
    bodies_plain rfl plain (writesOk_of_memory rfl)
  refine ⟨fun own => ?_, ?_⟩
  · have plain : ∀ r ∈ twoButtons, r.writer = none := by simp [twoButtons]
    have second : ({ tool := buttonTool "Refresh" "b" } : HandlerRequest) ∈ twoButtons := by
      simp [twoButtons]
    have same := (bodies plain).symm.trans (own twoButtons plain hasDigest_twoButtons)
    have shared := List.map_inj_left.mp same _ second
    have first := firstAlike_twoButtons [] _ second
    rw [List.append_nil] at first
    rw [if_pos (hasDigest_twoButtons _ second), first, Option.some.injEq] at shared
    have differ : templateHandler (buttonTool "Refresh" "a") ≠
        templateHandler (buttonTool "Refresh" "b") := by decide +kernel
    exact differ shared
  · have plain : ∀ r ∈ [({ tool := halvedTool } : HandlerRequest)], r.writer = none := by simp
    rw [bodies plain]
    simp only [List.map_cons, List.map_nil, hasDigest_halvedTool, Bool.false_eq_true, if_false]

end Affordance
