import Mathlib.Data.List.Basic
import Affordance.Tool.Proposal

/-!
# What tools read of their elements

  * `Element.SameSurface`: two elements may differ in their selectors, and in attributes that
    make no button submit.
  * `groups_map`, `candidates_map`: elements are grouped by their surfaces.  The same elements
    are meant by the groups when each is replaced by one of the same surface.
  * `schema_map`, `Candidate.name_map`, `Candidate.description_map`,
    `Candidate.identityText_map`, `Candidate.assess_map`: so is everything that a tool shows.
  * **`assessedOf_map`**: the assessed candidates of such components are the same, but for the
    elements that were replaced.
-/

namespace Affordance

open Affordance.Text

/-! ## 1. Surfaces -/

/-- No tool tells the elements apart, unless it looks for their selectors. -/
structure Element.SameSurface (a b : Element) : Prop where
  tag : a.tag = b.tag
  id : a.id = b.id
  name : a.name = b.name
  label : a.label = b.label
  inputType : a.inputType = b.inputType
  submits : a.submitsForm = b.submitsForm
  stateBinding : a.stateBinding = b.stateBinding
  validation : a.validation = b.validation
  accessibility : a.accessibility = b.accessibility
  parentForm : a.parentForm = b.parentForm
  formKey : a.formKey = b.formKey
  handlers : a.handlers = b.handlers
  options : a.options = b.options

namespace Element.SameSurface

variable {a b : Element} (h : a.SameSurface b)

include h

theorem canBeFilled : a.canBeFilled = b.canBeFilled := by
  simp only [Element.canBeFilled, h.tag, h.inputType]

theorem handler? (kind : EventKind) : a.handler? kind = b.handler? kind :=
  congrArg (·.lookup kind) h.handlers

theorem ariaLabel : a.ariaLabel = b.ariaLabel :=
  congrArg (·.bind (·.ariaLabel)) h.accessibility

theorem parameterKey : a.parameterKey = b.parameterKey := by
  simp only [Element.parameterKey, rawName, h.name, h.id, h.stateBinding, h.label]

theorem reference : a.reference = b.reference := by
  simp only [Element.reference, h.label, h.name, h.id, h.tag]

theorem property : a.property = b.property := by
  simp only [Element.property, valueType, fieldDescription, h.inputType, h.label, h.ariaLabel,
    h.tag, h.options]

theorem isRequired : a.isRequired = b.isRequired := congrArg (·.contains "required") h.validation

theorem inputParts : Candidate.inputParts a = Candidate.inputParts b := by
  simp only [Candidate.inputParts, h.parameterKey, h.label, h.ariaLabel, h.inputType, h.tag]

theorem handlerOfClick (handlers : List Handler) (bound : List String) :
    Affordance.handlerOfClick handlers bound a = Affordance.handlerOfClick handlers bound b := by
  simp only [Affordance.handlerOfClick, h.handler?, h.id]

end Element.SameSurface

section Tests

variable {α : Type} {f : α → α} {p : α → Bool} (h : ∀ a, p (f a) = p a) (l : List α)

include h

theorem any_map_same : (l.map f).any p = l.any p := by
  rw [List.any_map]
  congr 1
  exact funext h

theorem filter_map_same : (l.map f).filter p = (l.filter p).map f := by
  rw [List.filter_map]
  congr 2
  exact funext h

theorem find?_map_same : (l.map f).find? p = (l.find? p).map f := by
  rw [List.find?_map]
  congr 2
  exact funext h

end Tests

/-! ## 2. Replacing elements -/

/-- The component with each element replaced. -/
def Component.mapElements (f : Element → Element) (c : Component) : Component :=
  { c with elements := c.elements.map f }

/-- The candidate with each element replaced. -/
def Candidate.mapElements (f : Element → Element) (c : Candidate) : Candidate :=
  { c with trigger := c.trigger.map f, inputs := c.inputs.map f }

/-- The assessed candidate with each element replaced. -/
def Assessed.mapElements (f : Element → Element) (a : Assessed) : Assessed :=
  { a with candidate := a.candidate.mapElements f }

theorem Component.mapElements_elements (f : Element → Element) (c : Component) :
    (c.mapElements f).elements = c.elements.map f := rfl

theorem Component.mapElements_id (c : Component) : c.mapElements id = c := by
  simp [Component.mapElements]

section Replaced

variable {f : Element → Element} (hf : ∀ e, (f e).SameSurface e)

include hf

/-! ## 3. Grouping -/

theorem triggerAmong_map (scope : List Placed) :
    triggerAmong (scope.map (Prod.map f id)) = (triggerAmong scope).map (Prod.map f id) := by
  have hbuttons : (scope.map (Prod.map f id)).filter (fun p => p.1.tag = .button) =
      (scope.filter fun p => p.1.tag = .button).map (Prod.map f id) :=
    filter_map_same (fun p => by simp only [Prod.map_fst, (hf p.1).tag]) scope
  simp only [triggerAmong, hbuttons]
  rw [find?_map_same (fun p => (hf p.1).submits), List.head?_map]
  cases (scope.filter fun p => p.1.tag = .button).find? fun p => p.1.submitsForm <;> rfl

theorem enclosingKey_map (es : List Element) (key : String) :
    enclosingKey (es.map f) key = enclosingKey es key := by
  unfold enclosingKey
  rw [← List.map_reverse,
    find?_map_same (fun e => by simp only [(hf e).tag, (hf e).formKey])]
  cases es.reverse.find? fun e => e.tag = .form && e.formKey = some key && key ≠ "" with
  | none => rfl
  | some e => exact (hf e).parentForm

theorem reaches_map (es : List Element) (target : Option String) :
    ∀ (n : Nat) (key : Option String),
      reaches (es.map f) target n key = reaches es target n key
  | 0, _ => rfl
  | _ + 1, none => rfl
  | n + 1, some key => by
    rw [reaches, reaches, enclosingKey_map hf, reaches_map es target n]

theorem elementsOfForm_map (es : List Element) (form : Element) :
    elementsOfForm (es.map f) (f form) = (elementsOfForm es form).map (Prod.map f id) := by
  have hinside : ∀ e : Element,
      isInside (es.map f) (f form).formKey (f e) = isInside es form.formKey e := by
    intro e
    rw [isInside, isInside, reaches_map hf, List.length_map, (hf form).formKey,
      (hf e).parentForm]
  unfold elementsOfForm
  rw [List.zipIdx_map, List.filter_map]
  congr 2
  exact funext fun p => hinside p.1

theorem placesToFill_map (scope : List Placed) :
    placesToFill (scope.map (Prod.map f id)) = placesToFill scope := by
  unfold placesToFill
  rw [filter_map_same (fun p => (hf p.1).canBeFilled), List.map_map]
  rfl

theorem boundNames_map (es : List Element) : boundNames (es.map f) = boundNames es := by
  unfold boundNames
  rw [List.flatMap_map]
  congr 1
  exact funext fun e => congrArg (List.map Prod.snd) (hf e).handlers

theorem plainScopes_map (es : List Element) :
    plainScopes (es.map f) = (plainScopes es).map (·.map (Prod.map f id)) := by
  have hfill : ∀ scope : List Placed,
      (scope.map (Prod.map f id)).any (·.1.canBeFilled) = scope.any (·.1.canBeFilled) :=
    any_map_same (fun p => (hf p.1).canBeFilled)
  have hbutton : ∀ scope : List Placed,
      (scope.map (Prod.map f id)).any (·.1.tag = .button) = scope.any (·.1.tag = .button) :=
    any_map_same (fun p => by simp only [Prod.map_fst, (hf p.1).tag])
  have hfree : freeElements (es.map f) = (freeElements es).map (Prod.map f id) := by
    unfold freeElements
    rw [List.zipIdx_map]
    exact filter_map_same
      (fun p => by simp only [Prod.map_fst, (hf p.1).tag, (hf p.1).parentForm]) es.zipIdx
  have hscopes : ((es.map f).filter (·.tag = .form)).map (elementsOfForm (es.map f)) =
      ((es.filter (·.tag = .form)).map (elementsOfForm es)).map (·.map (Prod.map f id)) := by
    rw [filter_map_same (fun e => by simp only [(hf e).tag]), List.map_map, List.map_map]
    exact List.map_congr_left fun form _ => elementsOfForm_map hf es form
  simp only [plainScopes, hscopes, hfree, List.map_append, hfill, hbutton]
  congr 1
  · rw [List.filter_map]
    congr 2
    exact funext hfill
  · split <;> rfl

section Groups

variable (c : Component)

theorem formGroup_map (scope : List Placed) (handler : Option Handler) :
    formGroup (c.mapElements f) (scope.map (Prod.map f id)) handler =
      formGroup c scope handler := by
  simp only [formGroup, triggerAmong_map hf, placesToFill_map hf, Component.mapElements,
    boundNames_map hf]
  cases triggerAmong scope with
  | none => rfl
  | some t => simp only [Option.map_some, Option.bind_some, Prod.map_fst, Prod.map_snd, id_eq,
      (hf t.1).handlerOfClick]

theorem submitGroups_map (h : Handler) :
    submitGroups (c.mapElements f) h = submitGroups c h := by
  have hforms : ((c.elements.map f).filter fun e =>
      e.tag = .form && e.handler? .submit = some h.name) =
      (c.elements.filter fun e => e.tag = .form && e.handler? .submit = some h.name).map f :=
    filter_map_same (fun e => by simp only [(hf e).tag, (hf e).handler?]) c.elements
  simp only [submitGroups, Component.mapElements_elements, hforms, List.isEmpty_map]
  split
  · rw [List.zipIdx_map, formGroup_map hf]
  · rw [List.map_map]
    refine List.map_congr_left fun form _ => ?_
    rw [Function.comp_apply, elementsOfForm_map hf, formGroup_map hf]

theorem plainGroups_map : plainGroups (c.mapElements f) = plainGroups c := by
  unfold plainGroups
  rw [Component.mapElements_elements, plainScopes_map hf, List.map_map]
  exact List.map_congr_left fun scope _ => formGroup_map hf c scope none

theorem formGroups_map : formGroups (c.mapElements f) = formGroups c := by
  have hsubmit : submitGroups (c.mapElements f) = submitGroups c :=
    funext (submitGroups_map hf c)
  simp only [formGroups, plainGroups_map hf, hsubmit]
  rfl

theorem actionGroups_map (claimed : List Nat) :
    actionGroups (c.mapElements f) claimed = actionGroups c claimed := by
  unfold actionGroups
  rw [Component.mapElements_elements, boundNames_map hf, List.zipIdx_map,
    filter_map_same (fun p => by simp only [Prod.map_fst, Prod.map_snd, id_eq, (hf p.1).tag]),
    List.map_map]
  refine List.map_congr_left fun p _ => ?_
  simp only [Function.comp_apply, Prod.map_fst, Prod.map_snd, id_eq, (hf p.1).handlerOfClick]
  rfl

/-- **Elements are grouped by their surfaces.** -/
theorem groups_map : groups (c.mapElements f) = groups c := by
  simp only [groups, formGroups_map hf, actionGroups_map hf]

/-- **The candidates of a component mean the elements that stand in the old places.** -/
theorem candidates_map :
    candidates (c.mapElements f) = (candidates c).map (Candidate.mapElements f) := by
  unfold candidates
  rw [groups_map hf, List.map_map]
  refine List.map_congr_left fun g _ => ?_
  have hat : ∀ i, (c.mapElements f).elements[i]? = c.elements[i]?.map f :=
    fun i => List.getElem?_map
  simp only [Function.comp_apply, Group.candidate, Candidate.mapElements, hat,
    List.map_filterMap]
  congr 1
  cases g.trigger <;> rfl

end Groups

/-! ## 4. What a tool shows -/

theorem keysFrom_map : ∀ (taken : List String) (es : List Element),
    keysFrom taken (es.map f) = keysFrom taken es
  | _, [] => rfl
  | taken, e :: rest => by
    rw [List.map_cons, keysFrom, keysFrom, (hf e).parameterKey]
    cases e.parameterKey with
    | none => exact congrArg _ (keysFrom_map taken rest)
    | some k => exact congrArg _ (keysFrom_map _ rest)

theorem keyed_map (es : List Element) :
    InputSchema.keyed (es.map f) = (InputSchema.keyed es).map fun p => (p.1, f p.2) := by
  unfold InputSchema.keyed parameterKeys
  rw [keysFrom_map hf, List.zip_map_left, List.filterMap_map, List.map_filterMap]
  refine List.filterMap_congr fun p _ => ?_
  obtain ⟨e, key⟩ := p
  cases key <;> rfl

theorem schema_map (es : List Element) : InputSchema.of (es.map f) = InputSchema.of es := by
  have hput : ∀ s e, InputSchema.put s (f e) = InputSchema.put s e := by
    intro s e
    simp only [InputSchema.put, (hf e).parameterKey, (hf e).property, (hf e).isRequired]
  simp only [InputSchema.of, List.foldl_map, hput]

namespace Candidate

variable (c : Candidate)

theorem label_map : (c.mapElements f).label = c.label := by
  show (c.trigger.map f).bind (·.label) = c.trigger.bind (·.label)
  cases c.trigger with
  | none => rfl
  | some t => exact (hf t).label

theorem name_map : (c.mapElements f).name = c.name := by
  have hid : (c.mapElements f).trigger.bind (·.id) = c.trigger.bind (·.id) := by
    show (c.trigger.map f).bind (·.id) = _
    cases c.trigger with
    | none => rfl
    | some t => exact (hf t).id
  unfold Candidate.name
  rw [label_map hf, hid]
  rfl

theorem description_map : (c.mapElements f).description = c.description := by
  have hfields : (c.mapElements f).inputs.map Element.reference =
      c.inputs.map Element.reference := by
    show (c.inputs.map f).map Element.reference = _
    rw [List.map_map]
    exact List.map_congr_left fun e _ => (hf e).reference
  unfold Candidate.description
  rw [label_map hf, hfields]
  rfl

theorem identityText_map : (c.mapElements f).identityText = c.identityText := by
  have hinputs : (c.inputs.map f).flatMap inputParts = c.inputs.flatMap inputParts := by
    rw [List.flatMap_map]
    congr 1
    exact funext fun e => (hf e).inputParts
  have hparts : (c.mapElements f).identityParts = c.identityParts := by
    show [_, _, ((c.trigger.map f).map (·.tag.text)).getD "",
      ((c.trigger.map f).bind (·.label)).getD "",
      ((c.trigger.map f).bind (·.name)).getD ""] ++ (c.inputs.map f).flatMap inputParts = _
    rw [hinputs]
    unfold identityParts
    cases c.trigger with
    | none => rfl
    | some t => simp only [Option.map_some, Option.bind_some, (hf t).tag, (hf t).label, (hf t).name,
        mapElements]
  unfold identityText
  rw [hparts]

theorem id_map : (c.mapElements f).id = c.id := by
  unfold Candidate.id
  rw [identityText_map hf]

theorem assess_map (config : Option Config) :
    (c.mapElements f).assess config = (c.assess config).mapElements f := by
  have hsignals : Risk.signals (c.trigger.map f) c.handler =
      Risk.signals c.trigger c.handler := by
    unfold Risk.signals
    cases c.trigger with
    | none => rfl
    | some t => simp only [Option.map_some, (hf t).label, (hf t).name, (hf t).id]
  have hlevel : Risk.classify (rulesOf config) (c.mapElements f).trigger
      (c.mapElements f).handler = Risk.classify (rulesOf config) c.trigger c.handler := by
    show Risk.classify _ (c.trigger.map f) c.handler = _
    simp only [Risk.classify, hsignals]
  simp only [Candidate.assess, Assessed.mapElements, name_map hf, hlevel]

end Candidate

/-- **Candidates are assessed by the surfaces of their elements.** -/
theorem assessedOf_map (config : Option Config) (cs : List Component) :
    assessedOf config (cs.map (Component.mapElements f)) =
      (assessedOf config cs).map (Assessed.mapElements f) := by
  have hcandidates : (cs.flatMap fun c => candidates (c.mapElements f)) =
      (cs.flatMap candidates).map (Candidate.mapElements f) := by
    rw [List.map_flatMap]
    congr 1
    exact funext (candidates_map hf)
  unfold assessedOf
  rw [List.flatMap_map, hcandidates, List.map_map, List.map_map]
  exact List.map_congr_left fun c _ => c.assess_map hf config

end Replaced

end Affordance
