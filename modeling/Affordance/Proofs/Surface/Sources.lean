import Affordance.Proofs.Surface.Untouched
import Affordance.SourceFile

/-!
# What the readers of sources have in common

  * `Component.Assembled`: the component is assembled from elements that were collected.
  * **`assembled_of_reader`**: in every dialect an analysis bears the name of its file and holds
    such components, those without elements left out.
  * `uniform_of_analyze`: so what collecting leaves alone is as it was in every element of an
    analysed source. `selectors_of_analyze`: none has selectors.
-/

namespace Affordance

/-- The component is assembled from elements that were collected. -/
def Component.Assembled (c : Component) : Prop :=
  ∃ d events collected, Collector.collect d events = .ok collected ∧
    ∃ name find states props library extra,
      Assembly.assemble name collected find states props library extra = .ok c

/-- What a template holds was collected; without a template, from nothing. -/
theorem collected_of_template {template : Option String} {collected : Collected}
    (h : SingleFile.collectTemplate template = .ok collected) :
    ∃ d events, Collector.collect d events = .ok collected := by
  cases template with
  | none =>
    cases h
    exact ⟨.template, [], rfl⟩
  | some t =>
    obtain ⟨nodes, -, h⟩ := bind_eq_ok_iff.mp h
    exact ⟨_, _, mapError_eq_ok_iff.mp h⟩

/-- **The components of an analysis are assembled from collected elements**, in every dialect. -/
theorem assembled_of_reader {framework : Framework} {source path : String} {a : Analysis}
    (h : SourceFile.readerOf framework source path = .ok a) :
    ∃ cs, a = ⟨path, framework, nonEmptyComponents cs⟩ ∧ ∀ c ∈ cs, c.Assembled := by
  cases framework with
  | html =>
    obtain ⟨nodes, -, h⟩ := bind_eq_ok_iff.mp h
    obtain ⟨c, hc, h⟩ := bind_eq_ok_iff.mp h
    cases h
    obtain ⟨collected, hcollected, hc⟩ := bind_eq_ok_iff.mp hc
    refine ⟨[c], rfl, List.forall_mem_singleton.mpr ?_⟩
    exact ⟨_, _, collected, mapError_eq_ok_iff.mp hcollected, _, _, _, _, _, _,
      mapError_eq_ok_iff.mp hc⟩
  | react =>
    obtain ⟨spans, -, h⟩ := bind_eq_ok_iff.mp h
    obtain ⟨cs, hcs, h⟩ := bind_eq_ok_iff.mp h
    cases h
    refine ⟨cs, rfl, fun c hc => ?_⟩
    obtain ⟨span, -, hc⟩ := exists_of_mem_mapM hcs hc
    obtain ⟨collected, hcollected, hc⟩ := bind_eq_ok_iff.mp hc
    obtain ⟨states, -, hc⟩ := bind_eq_ok_iff.mp hc
    obtain ⟨props, -, hc⟩ := bind_eq_ok_iff.mp hc
    exact ⟨_, _, collected, mapError_eq_ok_iff.mp hcollected, _, _, _, _, _, _,
      mapError_eq_ok_iff.mp hc⟩
  | vue =>
    change SingleFile.analyze source path = .ok a at h
    unfold SingleFile.analyze at h
    dsimp only at h
    split at h
    · cases h
    · obtain ⟨collected, hcollected, h⟩ := bind_eq_ok_iff.mp h
      obtain ⟨name, -, h⟩ := bind_eq_ok_iff.mp h
      obtain ⟨states, -, h⟩ := bind_eq_ok_iff.mp h
      obtain ⟨props, -, h⟩ := bind_eq_ok_iff.mp h
      obtain ⟨c, hc, h⟩ := bind_eq_ok_iff.mp h
      cases h
      obtain ⟨d, events, hcollected⟩ := collected_of_template hcollected
      refine ⟨[c], rfl, List.forall_mem_singleton.mpr ?_⟩
      exact ⟨d, events, collected, hcollected, _, _, _, _, _, _, mapError_eq_ok_iff.mp hc⟩

/-- An analysis bears the name of its file. -/
theorem fileName_of_reader {framework : Framework} {source path : String} {a : Analysis}
    (h : SourceFile.readerOf framework source path = .ok a) : a.fileName = path := by
  obtain ⟨cs, rfl, -⟩ := assembled_of_reader h
  rfl

section Readings

variable {α : Type} {get : Element → α} {x : α} (h : Element.Untouched get x)
  (hkept : Handling.KeptByHandlers get)

include h hkept

theorem Component.Assembled.uniform {c : Component} (hc : c.Assembled) :
    ∀ e ∈ c.elements, get e = x := by
  obtain ⟨d, events, collected, hcollected, name, find, states, props, library, extra, hc⟩ := hc
  exact Handling.uniform_assemble h hkept (Collector.uniform_collect h hcollected) hc

/-- **The elements of an analysed source read as they were opened.** -/
theorem uniform_of_analyze {source fileName : String} {a : Analysis}
    (ha : SourceFile.analyze source fileName = .ok a) : ∀ e ∈ a.elements, get e = x := by
  obtain ⟨framework, -, ha⟩ := bind_eq_ok_iff.mp ha
  dsimp only at ha
  split at ha
  · cases ha
  · obtain ⟨cs, rfl, hcs⟩ := assembled_of_reader (mapError_eq_ok_iff.mp ha)
    intro e he
    obtain ⟨c, hc, he⟩ := List.mem_flatMap.mp he
    exact (hcs c (List.mem_of_mem_filter hc)).uniform h hkept e he

end Readings

/-- An element is opened without selectors. -/
theorem Element.untouched_selectors : Element.Untouched (·.selectors) none :=
  ⟨fun _ _ _ _ => rfl, fun _ _ => rfl, fun _ _ => rfl, fun _ _ => rfl⟩

theorem Handling.keptByHandlers_selectors : KeptByHandlers (·.selectors) := by
  intro kind name e
  unfold bindHandler
  split <;> rfl

/-- No element of an analysed source has selectors. -/
theorem selectors_of_analyze {source fileName : String} {a : Analysis}
    (h : SourceFile.analyze source fileName = .ok a) : ∀ e ∈ a.elements, e.selectors = none :=
  uniform_of_analyze Element.untouched_selectors Handling.keptByHandlers_selectors h

end Affordance
