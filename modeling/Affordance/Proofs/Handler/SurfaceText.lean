import Affordance.Handler.Surface
import Affordance.Proofs.Json.Canonical
import Affordance.Proofs.Tool.Parameters

/-!
# Surfaces and their texts

  * `Proposal.textual_surface`: a surface has words and texts alone, and its objects have different
    keys if the parameters have; those of proposed tools have (`InputSchema.nodup_keys`).
  * **`Proposal.surfaceText_eq_iff`**: so two tools have one text iff their surfaces are the same as
    JSON values.
-/

namespace Affordance

open Affordance.Text

/-! ## 1. Parts of surfaces -/

namespace Json

theorem textual_ofText? (s : Option String) : (ofText? s).Textual := by
  cases s with
  | none => exact .null
  | some s => exact .str s

theorem textual_texts (xs : List String) : (texts xs).Textual :=
  .arr (List.forall_mem_map.mpr fun x _ => .str x)

theorem keys_compact_sublist : ∀ fields : List (String × Option Json),
    ((fields.filterMap fun (k, v) => v.map (k, ·)).map (·.1)).Sublist (fields.map (·.1))
  | [] => .slnil
  | (k, none) :: rest => (keys_compact_sublist rest).cons k
  | (k, some _) :: rest => (keys_compact_sublist rest).cons_cons k

theorem textual_compactObj {fields : List (String × Option Json)} (hkeys : (fields.map (·.1)).Nodup)
    (hvalues : ∀ f ∈ fields, ∀ v, f.2 = some v → v.Textual) : (compactObj fields).Textual := by
  refine .obj (hkeys.sublist (keys_compact_sublist fields)) fun f hf => ?_
  obtain ⟨field, hfield, hmap⟩ := List.mem_filterMap.mp hf
  obtain ⟨v, hv, rfl⟩ := Option.map_eq_some_iff.mp hmap
  exact hvalues field hfield v hv

end Json

theorem textual_orNull {α : Type} {f : α → Json} (h : ∀ a, (f a).Textual) (o : Option α) :
    (orNull f o).Textual := by
  cases o with
  | none => exact .null
  | some a => exact h a

theorem textual_inputSurface (e : Element) : (inputSurface e).Textual := by
  refine .obj (by simp) ?_
  simp only [List.forall_mem_cons]
  exact ⟨.str _, Json.textual_ofText? _, Json.textual_ofText? _, Json.textual_ofText? _, .bool _,
    fun _ h => absurd h List.not_mem_nil⟩

theorem textual_triggerSurface (e : Element) : (triggerSurface e).Textual := by
  refine .obj (by simp) ?_
  simp only [List.forall_mem_cons]
  exact ⟨.str _, Json.textual_ofText? _, Json.textual_ofText? _,
    fun _ h => absurd h List.not_mem_nil⟩

theorem textual_handlerSurface (h : Handler) : (handlerSurface h).Textual := by
  refine .obj (by simp) ?_
  simp only [List.forall_mem_cons]
  exact ⟨.str _, .str _, fun _ h => absurd h List.not_mem_nil⟩

theorem Property.textual_toJson (p : Property) : p.toJson.Textual := by
  refine Json.textual_compactObj (by simp) ?_
  simp only [List.forall_mem_cons, Option.some.injEq, forall_eq']
  refine ⟨.str _, .str _, fun v hv => ?_, fun _ h => absurd h List.not_mem_nil⟩
  obtain ⟨choices, -, rfl⟩ := Option.map_eq_some_iff.mp hv
  exact Json.textual_texts choices

namespace InputSchema

/-- The keys of parameters that are put together are all different. -/
theorem nodup_keys (inputs : List Element) : ((of inputs).properties.map (·.1)).Nodup := by
  rw [properties_keys]
  exact (keysFrom_new inputs []).1

theorem textual_toJson {s : InputSchema} (h : (s.properties.map (·.1)).Nodup) :
    s.toJson.Textual := by
  have hproperties : (Json.obj (s.properties.map fun f => (f.1, f.2.toJson))).Textual := by
    refine .obj (by rwa [List.map_map]) (List.forall_mem_map.mpr fun f _ => ?_)
    exact f.2.textual_toJson
  refine .obj (by simp) ?_
  simp only [List.forall_mem_cons]
  exact ⟨.str _, hproperties, Json.textual_texts _, fun _ h => absurd h List.not_mem_nil⟩

end InputSchema

/-! ## 2. One text for one surface -/

namespace Proposal

/-- A surface has words and texts alone, and its objects have different keys. -/
theorem textual_surface {p : Proposal} (h : (p.schema.properties.map (·.1)).Nodup) :
    p.surface.Textual := by
  have hinputs : (Json.arr (p.candidate.inputs.map inputSurface)).Textual :=
    .arr (List.forall_mem_map.mpr fun e _ => textual_inputSurface e)
  refine .obj (by simp) ?_
  simp only [List.forall_mem_cons]
  exact ⟨.str _, hinputs, textual_orNull textual_triggerSurface _,
    textual_orNull textual_handlerSurface _, InputSchema.textual_toJson h,
    fun _ h => absurd h List.not_mem_nil⟩

/-- **Two tools have one text for their surfaces iff these are the same as JSON values**, objects
being compared as maps and lists in order. -/
theorem surfaceText_eq_iff {p q : Proposal} (hp : (p.schema.properties.map (·.1)).Nodup)
    (hq : (q.schema.properties.map (·.1)).Nodup) :
    p.surfaceText = q.surfaceText ↔ Json.Same p.surface q.surface :=
  Json.render_canonical_eq_iff (textual_surface hp) (textual_surface hq)

end Proposal

/-- The tool of a button with a label. -/
def labelledTool (label : String) : Proposal :=
  ((Candidate.assess none {
      kind := .action, componentName := "page"
      trigger := some { tag := .button, label := some label } }).proposal false 1 "button")

/-- Labels are told apart in the texts. -/
theorem labels_told_apart :
    (labelledTool "Save").surfaceText ≠ (labelledTool "Send").surfaceText := by
  intro h
  have hsame := (Proposal.surfaceText_eq_iff (p := labelledTool "Save") (q := labelledTool "Send")
    (InputSchema.nodup_keys []) (InputSchema.nodup_keys [])).mp h
  have htrigger : Json.Same (triggerSurface { tag := .button, label := some "Save" })
      (triggerSurface { tag := .button, label := some "Send" }) := hsame.value "t" rfl rfl
  have hlabel : Json.Same (.str "Save") (.str "Send") := htrigger.value "l" rfl rfl
  exact absurd (Json.Same.str_iff.mp hlabel) (by decide)

end Affordance
