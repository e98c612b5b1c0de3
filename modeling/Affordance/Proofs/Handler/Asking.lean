import Affordance.Proofs.Handler.Session

/-!
# Sessions with writers

Handlers are asked for one after the other over one cache, each request with a writer of its own
that answers or fails as it likes.

  * `written_returns`: whatever a writer answers, the body that is written returns something.
  * `result_of_unasked`: a writer that is not asked has no part in what comes of a request.
  * `Served`: what is promised of a request. `served_step`: from a cache that keeps what was written
    before (`Kept`), a request whose write succeeds is served; `served_run`: so are those of a
    session. `asked_run`: no writer is asked for a digest that one of the requests before had.
  * **`writer_asked_once`**: so at most one writer is asked for each digest, and every later
    request with it is given the same body.
  * `lone_half_is_refused`: some request is refused.
-/

namespace Affordance

open Affordance.Text

/-! ## 1. What is written -/

/-- A template returns something. -/
theorem templateHandler_returns (p : Proposal) : contains (templateHandler p) "return" = true := by
  obtain ⟨line, hline, word⟩ :
      ∃ line ∈ templateLines p.candidate.inputs p.candidate.trigger p.description,
        "return".toList <:+: line.toList := by
    refine ⟨"  return \x7b success: false, " ++
      "message: err instanceof Error ? err.message : String(err) \x7d;", ?_, by decide +kernel⟩
    simp [templateLines]
  rw [contains_iff_piece, templateHandler, toList_join]
  exact word.trans (infix_joinChars (List.mem_map_of_mem hline))

/-- So does the body that is made of an answer: one that returns nothing is not used. -/
theorem bodyOfAnswer_returns (p : Proposal) (answer : Except WriterFault String) :
    contains (bodyOfAnswer p answer).value "return" = true := by
  cases answer with
  | error f => exact templateHandler_returns p
  | ok text =>
    rw [bodyOfAnswer]
    split
    · assumption
    · exact templateHandler_returns p

namespace HandlerRequest

theorem written_returns (r : HandlerRequest) : contains r.written "return" = true := by
  unfold written
  cases r.writer with
  | none => exact templateHandler_returns r.tool
  | some w => exact bodyOfAnswer_returns r.tool _

/-- A writer that is not asked has no part in what comes of a request. -/
theorem result_of_unasked {r : HandlerRequest} {store : HandlerStore} {w w' : Writer}
    (h : (HandlerRequest.result { r with writer := some w } store).asked = none) :
    HandlerRequest.result { r with writer := some w' } store =
      HandlerRequest.result { r with writer := some w } store := by
  simp only [result, generateHandler, bodyFor] at h ⊢
  split at h
  · rfl
  · split at h
    · simp only
    · cases h

end HandlerRequest

/-! ## 2. What is promised of a request -/

/-- **What is promised of a request in a session.** -/
structure Served (requests : List HandlerRequest) (r : HandlerRequest) (g : Generation) : Prop where
  /-- It is refused iff the tool's surface has no digest: some text of it holds a half, as `half?`
      tells them (`Proposal.surfaceFault?_eq_none_iff`). -/
  given : g.body?.isSome = true ↔ r.hasDigest = true
  /-- No writer is asked for a request that is refused. -/
  unasked : r.hasDigest = false → g.asked = none
  /-- It is given what was written for the first request with the same digest. -/
  first : ∀ {body}, g.body? = some body →
    (firstRequest requests r.key).map (·.written) = some body
  returns : ∀ {body}, g.body? = some body → contains body "return" = true

/-- Later requests change nothing for a request. -/
theorem Served.append {done later : List HandlerRequest} {r : HandlerRequest} {g : Generation}
    (h : Served (done ++ [r]) r g) : Served (done ++ r :: later) r g where
  given := h.given
  unasked := h.unasked
  first hbody := by
    obtain ⟨q, hq, hwritten⟩ := Option.map_eq_some_iff.mp (h.first hbody)
    rw [List.append_cons, firstRequest_append, hq]
    exact congrArg some hwritten
  returns := h.returns

/-- Requests with one digest are given one body. -/
theorem Served.alike {requests : List HandlerRequest} {r r' : HandlerRequest} {g g' : Generation}
    (h : Served requests r g) (h' : Served requests r' g') (hkey : r.key = r'.key)
    (hd : r.hasDigest = r'.hasDigest) : g.body? = g'.body? := by
  cases hbody : g.body? with
  | some body =>
    have hd' : r'.hasDigest = true := by
      rw [← hd, ← h.given, hbody]
      rfl
    obtain ⟨body', hbody'⟩ := Option.isSome_iff_exists.mp (h'.given.mpr hd')
    rw [hbody', ← h.first hbody, ← h'.first hbody', hkey]
  | none =>
    have hd' : ¬ r'.hasDigest = true := by
      rw [← hd, ← h.given, hbody]
      exact Bool.false_ne_true
    rw [← h'.given, Option.isSome_iff_ne_none, not_not] at hd'
    exact hd'.symm

section Step

variable {store : HandlerStore} {done : List HandlerRequest} {r : HandlerRequest} {g : Generation}

/-- **A request is served as promised.** -/
theorem served_step (hk : Kept store done) (ok : r.WriteOk store) (h : r.Comes store g) :
    Served (done ++ [r]) r g where
  given := h.given_iff ok
  unasked hd := by
    cases h with
    | refused fault => rfl
    | held digest found => rfl
    | new digest missing => cases hd.symm.trans digest
  first := (answered_step hk h).first
  returns hbody := by
    -- What it is given was written for a request, this one or one before.
    obtain ⟨q, -, hwritten⟩ := Option.map_eq_some_iff.mp ((answered_step hk h).first hbody)
    rw [← hwritten]
    exact q.written_returns

/-- A writer is asked for nothing but the first request with a digest. -/
theorem first_of_asked (hk : Kept store done) (h : r.Comes store g) (asked : g.asked.isSome = true) :
    r.hasDigest = true ∧ firstRequest done r.key = none := by
  cases h with
  | refused fault => cases asked
  | held digest found => cases asked
  | new digest missing =>
    rw [hk, Option.map_eq_none_iff] at missing
    exact ⟨digest, missing⟩

end Step

/-! ## 3. Whole sessions -/

/-- A writer was asked for the tool with a key. -/
def askedFor (key : String) (o : HandlerRequest × Generation) : Bool :=
  o.1.key = key && o.2.asked.isSome

/-- From a cache that keeps some requests on, every request is served as promised. -/
theorem served_run : ∀ {requests done : List HandlerRequest} {store : HandlerStore},
    Kept store done → WritesOk store requests →
    List.Forall₂ (Served (done ++ requests)) requests (results store requests)
  | [], _, _, _, _ => .nil
  | r :: rest, done, store, hk, ok => by
    have later := served_run (kept_step hk (r.comes store)) ok.2
    rw [← List.append_cons] at later
    exact .cons (served_step hk ok.1 (r.comes store)).append later

/-- From a cache that keeps some requests on, no writer is asked for a digest that one of them had,
    and at most one for any other. -/
theorem asked_run (key : String) : ∀ {requests done : List HandlerRequest} {store : HandlerStore},
    Kept store done → WritesOk store requests →
    (requests.zip (results store requests)).countP (askedFor key) ≤
      if (firstRequest done key).isSome then 0 else 1
  | [], _, _, _, _ => Nat.zero_le _
  | r :: rest, done, store, hk, ok => by
    have later := asked_run key (kept_step hk (r.comes store)) ok.2
    rw [firstRequest_append] at later
    rw [results, List.zip_cons_cons, List.countP_cons]
    cases hasked : askedFor key (r, r.result store) with
    | false =>
      cases hf : firstRequest done key with
      | some q =>
        rw [hf] at later
        simpa using later
      | none =>
        refine Nat.le_trans later ?_
        split <;> simp
    | true =>
      obtain ⟨hkey, hsome⟩ : r.key = key ∧ (r.result store).asked.isSome = true := by
        simpa [askedFor] using hasked
      obtain ⟨hd, hf⟩ := first_of_asked hk (r.comes store) hsome
      rw [hkey] at hf
      have hself : firstRequest [r] key = some r := by rw [← hkey, firstRequest_self hd]
      rw [hf, hself] at later
      rw [hf]
      simpa using later

/-- **A writer is asked at most once for each digest.** In a session over one cache that is empty at
    first and whose writes succeed, a request is refused iff its tool's surface has no digest; every
    other one is given what was written for the first request with the same digest, which returns
    something, and so all requests with one digest are given one body. -/
theorem writer_asked_once (store : HandlerStore) (requests : List HandlerRequest)
    (empty : (store.cache.load store.disk).value = []) (writes : WritesOk store requests) :
    (∀ key, (requests.zip (results store requests)).countP (askedFor key) ≤ 1) ∧
    List.Forall₂ (Served requests) requests (results store requests) ∧
    ∀ o ∈ requests.zip (results store requests), ∀ o' ∈ requests.zip (results store requests),
      o.1.key = o'.1.key → o.1.hasDigest = o'.1.hasDigest → o.2.body? = o'.2.body? := by
  have start : Kept store [] := kept_nil empty
  have served : List.Forall₂ (Served requests) requests (results store requests) := by
    have := served_run start writes
    rwa [List.nil_append] at this
  refine ⟨fun key => ?_, served, ?_⟩
  · have hcount := asked_run key start writes
    have hfirst : firstRequest [] key = none := rfl
    rwa [hfirst] at hcount
  · intro o ho o' ho' hkey hd
    have each := List.forall₂_iff_zip.mp served
    exact (each.2 ho).alike (each.2 ho') hkey hd

/-- Two buttons of one label, the first with a writer that fails, the second with one that
    answers. -/
def failingThenAnswering : List HandlerRequest :=
  [⟨buttonTool "Refresh" "a", some fun _ => .silent (.error ⟨"RuntimeError", "offline"⟩), none,
      .standard, 0⟩,
   ⟨buttonTool "Refresh" "b", some fun _ => .silent (.ok "return 1;"), none, .standard, 0⟩]

theorem writer_asked_once_failingThenAnswering :
    (({} : BodyCache).load {}).value = [] ∧ WritesOk ⟨{}, {}⟩ failingThenAnswering ∧
    (∀ r ∈ failingThenAnswering, r.hasDigest = true) ∧
    (∀ key, (failingThenAnswering.zip (results ⟨{}, {}⟩ failingThenAnswering)).countP
      (askedFor key) ≤ 1) ∧
    List.Forall₂ (Served failingThenAnswering) failingThenAnswering
      (results ⟨{}, {}⟩ failingThenAnswering) := by
  have writes : WritesOk ⟨{}, {}⟩ failingThenAnswering := writesOk_of_memory rfl
  have digests : ∀ r ∈ failingThenAnswering, r.hasDigest = true := by
    simp only [HandlerRequest.hasDigest, Option.isNone_iff_eq_none,
      Proposal.surfaceFault?_eq_none_iff]
    decide +kernel
  obtain ⟨once, served, -⟩ := writer_asked_once ⟨{}, {}⟩ failingThenAnswering rfl writes
  exact ⟨rfl, writes, digests, once, served⟩

/-- **Not every request is served**: a text with half of a surrogate pair (told as `half?` does) has
    no octets, so a surface that holds one has no digest. -/
theorem lone_half_is_refused :
    ¬ ∀ requests : List HandlerRequest, WritesOk ⟨{}, {}⟩ requests →
      ∀ g ∈ results ⟨{}, {}⟩ requests, g.body?.isSome = true := by
  intro all
  have writes : WritesOk ⟨{}, {}⟩ [{ tool := halvedTool }] := writesOk_of_memory rfl
  have given := all [{ tool := halvedTool }] writes _ List.mem_cons_self
  rw [(HandlerRequest.comes _ _).given_iff writes.1, hasDigest_halvedTool] at given
  cases given

end Affordance
