import Mathlib.Control.Monad.Basic
import Affordance.Handler.Template
import Affordance.Markup.Page
import Affordance.Proofs.Markup.Restyling
import Affordance.Proofs.Tool.Surface

/-!
# Tools of restyled trees

  * `assemble_unstyled`: assembling reads no attribute that only styles.
  * `Element.unstyled_sameSurface`: nor does a tool, which looks for the buttons that submit.
  * `propose_unstyled`: the proposals are the same, up to the styling of their elements.
  * `ToolFace`: what a tool shows to an agent, with the handler that it runs and the code
    written for it.
  * **`tools_restyled`**: restyled trees give tools of the same faces, in the same order.
-/

namespace Affordance

open Affordance.Text

/-! ## 1. Elements -/

namespace Element

variable (e : Element)

/-- Only attributes that style are lost. -/
theorem unstyled_attribute? {name : String} (h : isStyling name = false) :
    e.unstyled.attribute? name = e.attribute? name := lookup_unstyled h e.attributes

theorem unstyled_submitsForm : e.unstyled.submitsForm = e.submitsForm := by
  show (decide (e.tag = .button) && (decide (e.inputType = some "submit") ||
    decide (toLower ((e.unstyled.attribute? "type").getD "") = "submit"))) = e.submitsForm
  rw [unstyled_attribute? e (by decide +kernel)]
  rfl

theorem unstyled_sameSurface : e.unstyled.SameSurface e where
  tag := rfl
  id := rfl
  name := rfl
  label := rfl
  inputType := rfl
  submits := e.unstyled_submitsForm
  stateBinding := rfl
  validation := rfl
  accessibility := rfl
  parentForm := rfl
  formKey := rfl
  handlers := rfl
  options := rfl

theorem unstyled_selectorsTried : e.unstyled.selectorsTried = e.selectorsTried := by
  have htries : e.unstyled.sourceTries = e.sourceTries := by
    unfold sourceTries
    rw [unstyled_attribute? e (by decide +kernel), unstyled_attribute? e (by decide +kernel)]
    rfl
  unfold selectorsTried
  rw [htries]
  rfl

end Element

/-! ## 2. Assembling -/

/-- The component without the attributes that only style. -/
def Component.unstyled (c : Component) : Component :=
  { c with elements := c.elements.map Element.unstyled }

namespace Assembly

theorem bindValue_unstyled (states : List StateVariable) (es : List Element) (v : Nat × String) :
    (bindValue states es v).map Element.unstyled =
      bindValue states (es.map Element.unstyled) v := by
  unfold bindValue
  cases bindingOf states v.2 with
  | none => rfl
  | some b =>
    show (es.modify v.1 _).map Element.unstyled = (es.map Element.unstyled).modify v.1 _
    refine map_modify (fun e => ?_) es v.1
    rfl

theorem bindValues_unstyled (states : List StateVariable) : ∀ (values : List (Nat × String))
    (es : List Element), (bindValues states values es).map Element.unstyled =
      bindValues states values (es.map Element.unstyled)
  | [], _ => rfl
  | v :: values, es => by
    show (bindValues states values (bindValue states es v)).map Element.unstyled = _
    rw [bindValues_unstyled states values, bindValue_unstyled]
    rfl

theorem classify_unstyled (es : List Element) (handlers : List Handler) :
    classify (es.map Element.unstyled) handlers = classify es handlers := by
  unfold classify
  rw [any_map_same (fun _ => by rfl), any_map_same (fun _ => by rfl),
    any_map_same (fun _ => by rfl)]

end Assembly

namespace Handling

/-- The handlers resolved so far, without the attributes that only style. -/
def State.unstyled (s : State) : State := { s with elements := s.elements.map Element.unstyled }

theorem bindHandler_unstyled (kind : EventKind) (name : String) (e : Element) :
    (bindHandler kind name e).unstyled = bindHandler kind name e.unstyled := by
  show _ = if (e.handlers.lookup kind).isSome then e.unstyled else _
  unfold bindHandler
  split <;> rfl

theorem add_unstyled (s : State) (b : Binding) (r : Resolved) :
    (s.add b r).unstyled = s.unstyled.add b r := by
  have hhandlers : s.unstyled.handlers = s.handlers := rfl
  unfold State.add
  rw [hhandlers]
  cases b.element with
  | none =>
    dsimp only
    split <;> rfl
  | some i =>
    have helements := map_modify (bindHandler_unstyled b.kind r.name) s.elements i
    dsimp only
    split
    · exact congrArg (fun es => { s with elements := es }) helements
    · exact congrArg (fun es => { s with elements := es, handlers := s.handlers ++ [r.handler b] })
        helements

theorem step_unstyled (find : Finder) (s : State) (b : Binding) :
    s.unstyled.step find b = (s.step find b).map State.unstyled := by
  unfold State.step
  show (resolve b.expr b.kind find s.counts >>= _) = _
  cases resolve b.expr b.kind find s.counts with
  | error e => rfl
  | ok rc =>
    obtain ⟨r, counts⟩ := rc
    cases r with
    | none => rfl
    | some r => exact congrArg Except.ok (add_unstyled { s with counts } b r).symm

theorem build_unstyled (find : Finder) : ∀ (bs : List Binding) (s : State),
    build find bs s.unstyled = (build find bs s).map State.unstyled
  | [], _ => rfl
  | b :: rest, s => by
    unfold build
    rw [step_unstyled]
    cases s.step find b with
    | error e => rfl
    | ok s' => exact build_unstyled find rest s'

end Handling

/-- **Assembling reads no attribute that only styles.** -/
theorem assemble_unstyled (name : String) (c : Collected) (find : Handling.Finder)
    (states : List StateVariable) (props : List ComponentProp) (library : Option String)
    (extra : List Binding) :
    Assembly.assemble name c.unstyled find states props library extra =
      (Assembly.assemble name c find states props library extra).map Component.unstyled := by
  have hvalues : Assembly.bindValues states c.unstyled.valueBindings c.unstyled.elements =
      (Assembly.bindValues states c.valueBindings c.elements).map Element.unstyled :=
    (Assembly.bindValues_unstyled states c.valueBindings c.elements).symm
  simp only [Assembly.assemble, hvalues]
  generalize Assembly.bindValues states c.valueBindings c.elements = es
  have hbuild := Handling.build_unstyled find (c.bindings ++ extra) { elements := es }
  show (Handling.build find (c.bindings ++ extra) { elements := es.map Element.unstyled } >>= _) =
    Except.map _ (Handling.build find (c.bindings ++ extra) { elements := es } >>= _)
  rw [show Handling.build find (c.bindings ++ extra) { elements := es.map Element.unstyled } = _
    from hbuild]
  cases Handling.build find (c.bindings ++ extra) { elements := es } with
  | error e => rfl
  | ok s =>
    have hkind := Assembly.classify_unstyled s.elements s.handlers
    refine congrArg Except.ok ?_
    simp only [Component.unstyled, Handling.State.unstyled, hkind]

/-! ## 3. Places -/

/-- A placed element without the attributes that only style. -/
def unstyledPlaced (p : Placed) : Placed := (p.1.unstyled, p.2)

theorem zipIdx_unstyled (es : List Element) :
    (es.map Element.unstyled).zipIdx = es.zipIdx.map unstyledPlaced := by
  rw [List.zipIdx_map]
  rfl

/-! ## 4. Proposals -/

/-- The candidate without the attributes that only style. -/
def Candidate.unstyled (c : Candidate) : Candidate :=
  { c with trigger := c.trigger.map Element.unstyled, inputs := c.inputs.map Element.unstyled }

/-- The proposal without the attributes that only style. -/
def Proposal.unstyled (p : Proposal) : Proposal := { p with candidate := p.candidate.unstyled }

/-- The assessed candidate without the attributes that only style. -/
def Assessed.unstyled (a : Assessed) : Assessed := { a with candidate := a.candidate.unstyled }

theorem Candidate.instability_unstyled (c : Candidate) (threshold : RequiredScore) :
    c.unstyled.instability threshold = c.instability threshold := by
  have hinputs : c.unstyled.inputs.findSome? (Element.instability threshold "Field") =
      c.inputs.findSome? (Element.instability threshold "Field") := by
    show (c.inputs.map Element.unstyled).findSome? _ = _
    rw [List.findSome?_map]
    rfl
  unfold Candidate.instability
  rw [hinputs]
  congr 1
  funext _
  show (c.trigger.map Element.unstyled).bind _ = _
  cases c.trigger <;> rfl

theorem proposal_unstyled (a : Assessed) (assessStability : Bool) (index : Nat) (name : String) :
    a.unstyled.proposal assessStability index name =
      (a.proposal assessStability index name).unstyled := by
  have hid : a.unstyled.candidate.id = a.candidate.id :=
    Candidate.id_map Element.unstyled_sameSurface a.candidate
  have hdescription : a.unstyled.candidate.description = a.candidate.description :=
    Candidate.description_map Element.unstyled_sameSurface a.candidate
  have hinstability : a.unstyled.candidate.instability .standard =
      a.candidate.instability .standard := Candidate.instability_unstyled a.candidate _
  have hschema : InputSchema.of a.unstyled.candidate.inputs = InputSchema.of a.candidate.inputs :=
    schema_map Element.unstyled_sameSurface a.candidate.inputs
  simp only [Assessed.proposal, Proposal.unstyled, hid, hdescription, hinstability, hschema]
  rfl

theorem proposalsFrom_unstyled (assessStability : Bool) :
    ∀ (as : List Assessed) (taken : List String) (index : Nat),
      proposalsFrom assessStability taken index (as.map Assessed.unstyled) =
        (proposalsFrom assessStability taken index as).map Proposal.unstyled
  | [], _, _ => rfl
  | a :: rest, taken, index => by
    simp only [List.map_cons, proposalsFrom]
    rw [show a.unstyled.assessment = a.assessment from rfl,
      show a.unstyled.name = a.name from rfl]
    split
    · exact proposalsFrom_unstyled assessStability rest taken index
    · rw [List.map_cons, proposal_unstyled, proposalsFrom_unstyled assessStability rest]

/-- **The proposals of components are the same, up to the styling of their elements.** -/
theorem propose_unstyled (config : Option Config) (assessStability : Bool)
    (cs : List Component) :
    propose config assessStability (cs.map Component.unstyled) =
      (propose config assessStability cs).map Proposal.unstyled := by
  have hassessed : assessedOf config (cs.map Component.unstyled) =
      (assessedOf config cs).map Assessed.unstyled :=
    assessedOf_map Element.unstyled_sameSurface config cs
  unfold propose
  rw [hassessed, proposalsFrom_unstyled]

/-! ## 5. Tools -/

/-- What a tool shows to an agent, with the handler that it runs and the code that is written
    for it. -/
structure ToolFace where
  index : Nat
  id : String
  name : String
  description : String
  risk : Risk
  riskReason : String
  isStable : Option Bool
  stabilityReason : Option String
  selected : Bool
  handler : Option Handler
  schema : InputSchema
  body : String

/-- What the tool shows. -/
def Proposal.face (p : Proposal) : ToolFace where
  index := p.index
  id := p.id
  name := p.name
  description := p.description
  risk := p.risk
  riskReason := p.riskReason
  isStable := p.isStable
  stabilityReason := p.stabilityReason
  selected := p.selected
  handler := p.candidate.handler
  schema := p.schema
  body := templateHandler p

theorem templateHandler_unstyled (p : Proposal) :
    templateHandler p.unstyled = templateHandler p := by
  have hset : ∀ e : Element, setCall e.unstyled = setCall e := by
    intro e
    unfold setCall
    rw [Element.unstyled_selectorsTried]
    rfl
  have hsubmit : ∀ e : Element, submitCall e.unstyled = submitCall e := by
    intro e
    unfold submitCall Element.pressList
    rw [Element.unstyled_selectorsTried]
    rfl
  have hfill : ∀ es : List Element,
      (InputSchema.keyed (es.map Element.unstyled)).map (fun p => fillLine p.1 p.2) =
        (InputSchema.keyed es).map fun p => fillLine p.1 p.2 := by
    intro es
    rw [keyed_map Element.unstyled_sameSurface, List.map_map]
    refine List.map_congr_left fun p _ => ?_
    show fillLine p.1 p.2.unstyled = fillLine p.1 p.2
    unfold fillLine
    rw [hset]
  have hpress : ∀ (es : List Element) (t : Option Element),
      pressLines (es.map Element.unstyled) (t.map Element.unstyled) = pressLines es t := by
    intro es t
    cases t with
    | none => rfl
    | some t => simp only [pressLines, Option.map_some, hsubmit, List.isEmpty_map]
  show join "\n" (_ ++
    (InputSchema.keyed (p.candidate.inputs.map Element.unstyled)).map
      (fun p => fillLine p.1 p.2) ++
    pressLines (p.candidate.inputs.map Element.unstyled)
      (p.candidate.trigger.map Element.unstyled) ++ _) = _
  rw [hfill, hpress]
  rfl

theorem face_unstyled (p : Proposal) : p.unstyled.face = p.face := by
  unfold Proposal.face
  rw [templateHandler_unstyled]
  rfl

/-- What the trees of a component are assembled with. -/
structure TreeContext where
  name : String
  find : Handling.Finder
  states : List StateVariable := []
  props : List ComponentProp := []
  library : Option String := none
  /-- Scripts that may add listeners. -/
  scripts : List String := []

namespace TreeContext

variable (s : TreeContext) (d : Dialect) (edit : String → String)

/-- The component of trees. -/
def component (ns : List Markup.Node) : Except SourceFault Component := do
  let collected ← Markup.collect d edit ns
  orFault (Assembly.assemble s.name collected s.find s.states s.props s.library
    (s.scripts.flatMap fun script => Markup.listeners script collected.elements))

/-- The tools of trees. -/
def tools (config : Option Config) (assessStability : Bool) (ns : List Markup.Node) :
    Except SourceFault (List Proposal) :=
  (s.component d edit ns).map fun c => propose config assessStability (nonEmptyComponents [c])

end TreeContext

theorem listeners_unstyled (script : String) (es : List Element) :
    Markup.listeners script (es.map Element.unstyled) = Markup.listeners script es := by
  have hplace : Markup.placeOf (es.map Element.unstyled) = Markup.placeOf es := by
    funext id
    unfold Markup.placeOf
    rw [zipIdx_unstyled, ← List.map_reverse, find?_map_same (fun _ => by rfl)]
    cases es.zipIdx.reverse.find? fun p => p.1.id = some id <;> rfl
  have hbinding : Markup.listenerBinding (Source.of script) (es.map Element.unstyled) =
      Markup.listenerBinding (Source.of script) es := by
    funext m id
    have htags : ∀ place : Option Nat,
        (place.bind fun i => (es.map Element.unstyled)[i]?).map (fun e => e.tag.text) =
          (place.bind fun i => es[i]?).map fun e => e.tag.text := by
      intro place
      cases place with
      | none => rfl
      | some i =>
        rw [Option.bind_some, Option.bind_some, List.getElem?_map, Option.map_map]
        rfl
    simp only [Markup.listenerBinding, hplace, htags]
  simp only [Markup.listeners, hbinding]

theorem component_unstyled (s : TreeContext) (d : Dialect) (edit : String → String)
    (ns : List Markup.Node) :
    (s.component d edit ns).map Component.unstyled =
      ((Markup.collect d edit ns).map Collected.unstyled >>= fun c =>
        orFault (Assembly.assemble s.name c s.find s.states s.props s.library
          (s.scripts.flatMap fun script => Markup.listeners script c.elements))) := by
  unfold TreeContext.component
  cases Markup.collect d edit ns with
  | error e => rfl
  | ok c =>
    have hextra : (s.scripts.flatMap fun script =>
        Markup.listeners script c.unstyled.elements) =
        s.scripts.flatMap fun script => Markup.listeners script c.elements := by
      congr 1
      exact funext fun script => listeners_unstyled script c.elements
    show Except.map _ (orFault _) = orFault _
    rw [hextra, assemble_unstyled]
    cases Assembly.assemble s.name c s.find s.states s.props s.library _ <;> rfl

/-- **Restyled trees give the same component, up to the styling attributes.** -/
theorem component_restyled {d : Dialect} (hd : d.IgnoresStyling) (edit : String → String)
    (s : TreeContext) {a b : List Markup.Node}
    (h : Relation.ReflTransGen (Markup.Restyle d) a b) :
    (s.component d edit a).map Component.unstyled =
      (s.component d edit b).map Component.unstyled := by
  have hcollect : ∀ ns, (Markup.collect d edit ns).map Collected.unstyled =
      ((Collector.collect d (Markup.Node.eventsAll edit ns)).map Collected.unstyled).mapError
        .longNumber := by
    intro ns
    unfold Markup.collect
    cases Collector.collect d (Markup.Node.eventsAll edit ns) <;> rfl
  rw [component_unstyled, component_unstyled, hcollect, hcollect,
    Markup.collect_restyled hd edit h]

/-- What a page of some scripts is assembled with. -/
def pageContext (name : String) (scripts : List String) : TreeContext where
  name := name
  find := Handling.inScopes [join "\n" scripts]
  scripts := [join "\n" scripts]

theorem component_eq (name : String) (ns : List Markup.Node) :
    Markup.component name ns =
      (pageContext name (Markup.Node.scriptsAll ns)).component .markup id ns := by
  simp only [Markup.component, TreeContext.component, pageContext, List.flatMap_cons,
    List.flatMap_nil, List.append_nil]

/-- Restyling a page that keeps its scripts keeps its component, up to the styling
    attributes. -/
theorem page_restyled (name : String) {a b : List Markup.Node}
    (h : Relation.ReflTransGen (Markup.Restyle .markup) a b)
    (hscripts : Markup.Node.scriptsAll a = Markup.Node.scriptsAll b) :
    (Markup.component name a).map Component.unstyled =
      (Markup.component name b).map Component.unstyled := by
  rw [component_eq, component_eq, hscripts]
  exact component_restyled markup_ignoresStyling id _ h

/-- Components that are the same up to their styling offer tools of the same faces. -/
theorem faces_unstyled (config : Option Config) (assessStability : Bool) (c : Component) :
    (propose config assessStability (nonEmptyComponents [c.unstyled])).map Proposal.face =
      (propose config assessStability (nonEmptyComponents [c])).map Proposal.face := by
  have hempty : c.unstyled.isEmpty = c.isEmpty := by
    show ((c.elements.map Element.unstyled).isEmpty && c.handlers.isEmpty) = _
    rw [List.isEmpty_map]
    rfl
  have hcomponents : nonEmptyComponents [c.unstyled] =
      (nonEmptyComponents [c]).map Component.unstyled := by
    simp only [nonEmptyComponents, List.filter_cons, hempty]
    split <;> rfl
  rw [hcomponents, propose_unstyled, List.map_map]
  exact List.map_congr_left fun p _ => face_unstyled p

/-- **Restyling never changes a tool**: restyled trees fail alike or give tools of the same
    faces, in the same order. -/
theorem tools_restyled {d : Dialect} (hd : d = .markup ∨ d = .template)
    (edit : String → String) (s : TreeContext) (config : Option Config) (assessStability : Bool)
    {a b : List Markup.Node} (h : Relation.ReflTransGen (Markup.Restyle d) a b) :
    (s.tools d edit config assessStability a).map (·.map Proposal.face) =
      (s.tools d edit config assessStability b).map (·.map Proposal.face) := by
  have hignores : d.IgnoresStyling := by
    rcases hd with rfl | rfl
    · exact markup_ignoresStyling
    · exact template_ignoresStyling
  have hfaces : ∀ ns, (s.tools d edit config assessStability ns).map (·.map Proposal.face) =
      ((s.component d edit ns).map Component.unstyled).map fun c =>
        (propose config assessStability (nonEmptyComponents [c])).map Proposal.face := by
    intro ns
    unfold TreeContext.tools
    cases s.component d edit ns with
    | error e => rfl
    | ok c => exact congrArg Except.ok (faces_unstyled config assessStability c).symm
  rw [hfaces, hfaces, component_restyled hignores edit s h]

/-- A form to search with. -/
def searchForm : List Markup.Node := [
  .tag "form" [("id", "f")] [
    .tag "input" [("name", "q")] [], .tag "button" [] [.text "Search"]]]

/-- The same form with a style of its own, in a row. -/
def searchRow : List Markup.Node := [
  .tag "div" [("class", "row")] [
    .tag "form" [("id", "f"), ("style", "color: red")] [
      .tag "input" [("name", "q")] [], .tag "button" [] [.text "Search"]]]]

theorem tools_restyled_searchRow :
    Relation.ReflTransGen (Markup.Restyle .markup) searchForm searchRow ∧
    ((pageContext "page" []).tools .markup id none true searchForm).map
        (·.map Proposal.face) =
      ((pageContext "page" []).tools .markup id none true searchRow).map
        (·.map Proposal.face) ∧
    ((pageContext "page" []).tools .markup id none true searchRow).map (·.map (·.name)) =
      .ok ["search_page"] := by
  have hplain : Markup.Plain .markup "div" :=
    ⟨by decide +kernel, by decide +kernel, by decide +kernel, by decide +kernel⟩
  have h : Relation.ReflTransGen (Markup.Restyle .markup) searchForm searchRow :=
    .tail (.single (.attributes (by decide +kernel))) (.wrap hplain (by decide +kernel))
  exact ⟨h, tools_restyled (.inl rfl) id (pageContext "page" []) none true h,
    by decide +kernel⟩

end Affordance
