import Affordance.Proofs.Handler.CacheMap

/-!
# Writes of a cache that fail

A cache with a file is used in any way, and anything else may change the disk in between. Then a
change is refused or stopped while it is written.

  * `HandlerStore.Reachable`: the states of such a cache. All of them are coherent.
  * `outcomes_questions`: questions are answered from the map that the cache holds.
  * **`failed_write_effects`**: a change that fails is made in memory all the same, so later
    questions are answered as before only if it was to change nothing. The file keeps its octets.
    A draft is left if the fault is no refusal of the system, unless the directory could not be
    made.
-/

namespace Affordance

open Affordance.Text

/-! ## 1. Reachable states -/

/-- The states that requests to a cache with a file lead to; anything else may change the disk in
    between. -/
inductive HandlerStore.Reachable (path : String) : HandlerStore → Prop
  | new (d : Disk) (tells : Bool) : path ≠ "" → Reachable path ⟨d, ⟨some path, none, tells⟩⟩
  | request {store : HandlerStore} (r : CacheRequest) : Reachable path store →
      Reachable path (r.perform store).1
  | outside {store : HandlerStore} (d : Disk) : Reachable path store →
      Reachable path { store with disk := d }

/-- Every request leaves the cache on its file. -/
theorem CacheRequest.perform_path (r : CacheRequest) (store : HandlerStore) :
    (r.perform store).1.cache.path = store.cache.path := by
  cases r with
  | set | clear => exact congrArg (·.cache.path) (written_store _ _)
  | _ => rfl

/-- **Every reachable state** is that of a cache on the file, and coherent. -/
theorem HandlerStore.Reachable.coherent {path : String} {store : HandlerStore}
    (h : store.Reachable path) : nonEmpty store.cache.path = some path ∧ store.Coherent := by
  induction h with
  | new d tells hpath =>
    refine ⟨?_, fun _ h => nomatch h⟩
    simp [nonEmpty, hpath]
  | request r _ ih => exact ⟨by rw [r.perform_path, ih.1], r.perform_coherent ih.2⟩
  | outside d _ ih => exact ih

/-! ## 2. Questions -/

section Questions

variable {store : HandlerStore} {questions : List CacheRequest}

/-- Questions are answered from the map that the cache holds. -/
theorem outcomes_questions : ∀ {questions : List CacheRequest} {store : HandlerStore},
    store.Coherent → (∀ q ∈ questions, q.asks = true) →
    outcomes store questions = (answers store.held questions).map .ok
  | [], _, _, _ => rfl
  | q :: rest, store, h, hasks => by
    have hq := hasks q List.mem_cons_self
    have hlater := outcomes_questions (HandlerStore.coherent_holding h.loaded store.disk store.cache)
      fun r hr => hasks r (List.mem_cons_of_mem _ hr)
    rw [outcomes, answers, CacheRequest.perform_asks h hq, CacheRequest.onMap_asks hq]
    exact congrArg (_ :: ·) hlater

/-- Two caches answer all questions alike iff they hold the same map. -/
theorem same_answers_iff {store' : HandlerStore} (h : store.Coherent) (h' : store'.Coherent) :
    (∀ questions : List CacheRequest, (∀ q ∈ questions, q.asks = true) →
      outcomes store' questions = outcomes store questions) ↔ store'.held = store.held := by
  constructor
  · intro hsame
    refine Finmap.ext_lookup fun key => ?_
    have hkey := hsame [.get key] (by simp [CacheRequest.asks])
    rw [outcomes_questions h (by simp [CacheRequest.asks]),
      outcomes_questions h' (by simp [CacheRequest.asks])] at hkey
    simpa [answers, CacheRequest.onMap] using hkey
  · intro hheld questions hasks
    rw [outcomes_questions h hasks, outcomes_questions h' hasks, hheld]

end Questions

/-! ## 3. Changes that fail -/

section Failing

variable {path : String} {store : HandlerStore} {r : CacheRequest} {fault : Disk.WriteFault}

/-- Only a change can fail: it is made in memory, and its writing fails. -/
theorem perform_error (h : store.Coherent) (hfail : (r.perform store).2 = .error fault) :
    ∃ es disk, store.cache.save store.disk es = .error ⟨fault, disk⟩ ∧
      (r.perform store).1.disk = disk ∧ (r.perform store).1.held = (r.onMap store.held).1 := by
  rcases r.kinds with hasks | hwrites | rfl
  · rw [CacheRequest.perform_asks h hasks] at hfail
    cases hfail
  · obtain ⟨es, -, hmap, hperform⟩ := CacheRequest.perform_writes h hwrites
    rw [hperform] at hfail ⊢
    cases hsave : store.cache.save store.disk es with
    | ok d =>
      rw [hsave] at hfail
      cases hfail
    | error f =>
      rw [hsave] at hfail
      cases hfail
      exact ⟨es, f.disk, hsave, rfl, hmap⟩
  · cases hfail

/-- **What a failed change leaves**, whatever the cache was used for before: later questions are
    answered as before iff the change was to change nothing, the file at the path keeps its
    octets, and there is no draft iff the system refused the write or the directory could not be
    made. The other writes that fail are of texts that hold a half, as `half?` tells them. -/
theorem failed_write_effects (reached : store.Reachable path)
    (failed : (r.perform store).2 = .error fault) :
    let after := (r.perform store).1
    ((∀ questions : List CacheRequest, (∀ q ∈ questions, q.asks = true) →
        outcomes after questions = outcomes store questions) ↔
      (r.onMap store.held).1 = store.held) ∧
    (∀ p, after.disk.locate path = some p →
      after.disk.files.lookup p = store.disk.files.lookup p) ∧
    ∃ drafts : List (String × List UInt8), drafts.length ≤ 1 ∧
      after.disk.files = store.disk.files ++ drafts ∧
      (drafts = [] ↔ fault.isRefusal = true ∨
        (store.disk.makeDirectories (cacheDir store.disk path)).isOk = false) := by
  obtain ⟨hpath, hcoherent⟩ := reached.coherent
  obtain ⟨es, disk, hsave, hdisk, hheld⟩ := perform_error hcoherent failed
  have hleft := save_error hpath hsave
  intro after
  refine ⟨?_, ?_⟩
  · rw [← hheld]
    exact same_answers_iff hcoherent (r.perform_coherent hcoherent)
  dsimp only at hleft
  rw [← hdisk] at hleft
  split at hleft
  · rename_i hclean
    exact ⟨fun p _ => by rw [hleft], [], Nat.zero_le 1, by rw [hleft, List.append_nil],
      iff_of_true rfl hclean⟩
  · rename_i hdraft
    obtain ⟨draft, bs, hfiles, hother⟩ := hleft
    refine ⟨fun p hp => ?_, [(draft, bs)], Nat.le_refl 1, hfiles,
      iff_of_false (List.cons_ne_nil _ _) hdraft⟩
    have hne : p ≠ draft := fun e => hother (e ▸ hp)
    rw [hfiles, List.lookup_append, List.lookup_cons, beq_eq_false_iff_ne.mpr hne]
    exact Option.or_none

end Failing

/-- A file where the directory of the cache's file should be. -/
def blockedDisk : Disk := { files := [("/d", [])] }

theorem failed_write_effects_blockedDisk :
    let store : HandlerStore := ⟨blockedDisk, ⟨some "d/c.json", none, false⟩⟩
    let request := CacheRequest.set "k" "v" 0
    store.Reachable "d/c.json" ∧
    (request.perform store).2 = .error (.refused .fileExists "/d") ∧
    ¬ (∀ questions : List CacheRequest, (∀ q ∈ questions, q.asks = true) →
      outcomes (request.perform store).1 questions = outcomes store questions) ∧
    (request.perform store).1.disk.files = blockedDisk.files := by
  intro store request
  have reached : store.Reachable "d/c.json" := .new blockedDisk false (by decide)
  have failed : (request.perform store).2 = .error (.refused .fileExists "/d") := by decide +kernel
  obtain ⟨hanswers, -, drafts, -, hfiles, hdrafts⟩ := failed_write_effects reached failed
  refine ⟨reached, failed, fun hsame => ?_, ?_⟩
  · have hnone : (bodiesOf store.loaded).lookup "k" = none := by decide +kernel
    have hlookup := congrArg (Finmap.lookup "k") (hanswers.mp hsame)
    rw [CacheRequest.onMap, Finmap.lookup_insert, HandlerStore.held, lookup_bodyMap, hnone]
      at hlookup
    cases hlookup
  · rw [hfiles, hdrafts.mpr (.inl rfl), List.append_nil]

end Affordance
