import Netdisk2Blob.Flows.Binding

/-!
# Closed Plans

A catalog that is validated has no reference to something it does not have, and binding keeps
this: whatever a step of a plan refers to is in the plan, as the catalog has it with its
templates filled in.

## Contents

- `collectUniqueIds_ok`: the ids are distinct, and are those that are known afterwards
- `BrowserFlowCatalog.Closed`, `validate_closed`
- `bindFlow_closed`: what the steps of a plan refer to is in the plan
-/

namespace Netdisk2Blob.Flows

open Blob ControlPlane Library Text

/-! ## Section 1: Checks that passed -/

@[simp] theorem ensure_ok_iff {condition : Prop} [Decidable condition] {message : String}
    {value : Unit} : ensure condition message = .ok value ↔ condition := by
  unfold ensure
  split_ifs with h <;> simp [h]

/-- Two checks, one after the other. -/
theorem checks_ok_iff {first second : Except BlobError Unit} {value : Unit} :
    (first >>= fun _ => second) = .ok value ↔ first = .ok () ∧ second = .ok value := by
  rw [except_bind_ok]
  constructor
  · rintro ⟨_, hfirst, hsecond⟩
    exact ⟨hfirst, hsecond⟩
  · intro h
    exact ⟨(), h.1, h.2⟩

theorem collectUniqueIdsFrom_ok {kind : String} {seen ids result : List String}
    (h : collectUniqueIdsFrom kind seen ids = .ok result) :
    ids.Nodup ∧ (∀ id ∈ ids, id ∉ seen) ∧ ∀ id, id ∈ result ↔ id ∈ seen ∨ id ∈ ids := by
  induction ids generalizing seen with
  | nil =>
      cases h
      simp
  | cons id ids ih =>
      obtain ⟨_, -, h⟩ := except_bind_ok.mp h
      split_ifs at h with hseen
      obtain ⟨hnodup, hfresh, hmem⟩ := ih h
      have hid : id ∉ ids := by
        intro hin
        exact hfresh id hin List.mem_cons_self
      refine ⟨List.nodup_cons.mpr ⟨hid, hnodup⟩, ?_, ?_⟩
      · intro other hother
        rcases List.mem_cons.mp hother with rfl | hother
        · exact hseen
        · exact fun hin => hfresh other hother (List.mem_cons_of_mem _ hin)
      · intro other
        rw [hmem, List.mem_cons, List.mem_cons]
        tauto

theorem collectUniqueIds_ok {kind : String} {ids result : List String}
    (h : collectUniqueIds kind ids = .ok result) :
    ids.Nodup ∧ ∀ id, id ∈ result ↔ id ∈ ids := by
  obtain ⟨hnodup, -, hmem⟩ := collectUniqueIdsFrom_ok h
  refine ⟨hnodup, fun id => ?_⟩
  rw [hmem]
  simp

/-! ## Section 2: Closed catalogs -/

/-- What a step refers to is known. -/
structure StepKnown (known : KnownIds) (step : BrowserFlowStep) : Prop where
  pages : ∀ id ∈ step.pages, id ∈ known.pages
  elements : ∀ id ∈ step.elements, id ∈ known.elements
  requests : ∀ id ∈ step.requests, id ∈ known.requests
  operations : ∀ id ∈ step.operations, id ∈ known.operations

/-- The ids of a catalog. -/
def BrowserFlowCatalog.ids (catalog : BrowserFlowCatalog) : KnownIds where
  pages := catalog.pages.map (·.id)
  elements := catalog.elements.map (·.id)
  requests := catalog.requests.map (·.id)
  operations := catalog.operations.map (·.id)
  flows := catalog.flows.map (·.id)

/-- Ids are distinct, and nothing refers to an id that the catalog does not have. -/
structure BrowserFlowCatalog.Closed (catalog : BrowserFlowCatalog) : Prop where
  pageIds : catalog.ids.pages.Nodup
  elementIds : catalog.ids.elements.Nodup
  requestIds : catalog.ids.requests.Nodup
  operationIds : catalog.ids.operations.Nodup
  flowIds : catalog.ids.flows.Nodup
  steps : ∀ flow ∈ catalog.flows, ∀ step ∈ flow.steps, StepKnown catalog.ids step
  startPages : ∀ flow ∈ catalog.flows, flow.startPage ∈ catalog.ids.pages
  elementPages : ∀ element ∈ catalog.elements, element.page ∈ catalog.ids.pages
  prerequisites : ∀ flow ∈ catalog.flows, ∀ id ∈ flow.prerequisiteFlowId, id ∈ catalog.ids.flows
  acyclic : ∀ flow ∈ catalog.flows,
    prerequisiteCycle catalog.flows [] flow.prerequisiteFlowId = none

/-- The two lists of ids have the same ids. -/
structure KnownIds.Same (known ids : KnownIds) : Prop where
  pages : ∀ id, id ∈ known.pages ↔ id ∈ ids.pages
  elements : ∀ id, id ∈ known.elements ↔ id ∈ ids.elements
  requests : ∀ id, id ∈ known.requests ↔ id ∈ ids.requests
  operations : ∀ id, id ∈ known.operations ↔ id ∈ ids.operations
  flows : ∀ id, id ∈ known.flows ↔ id ∈ ids.flows

theorem StepKnown.of_same {known ids : KnownIds} {step : BrowserFlowStep} (hsame : known.Same ids)
    (h : StepKnown known step) : StepKnown ids step where
  pages id hid := (hsame.pages id).mp (h.pages id hid)
  elements id hid := (hsame.elements id).mp (h.elements id hid)
  requests id hid := (hsame.requests id).mp (h.requests id hid)
  operations id hid := (hsame.operations id).mp (h.operations id hid)

/-- The first `match` over a step checks what the step refers to. -/
theorem validateStepReferences_known {known : KnownIds} {flow : BrowserFlow}
    {step : BrowserFlowStep} (h : validateStepReferences known flow step = .ok ()) :
    StepKnown known step := by
  have hnone : ∀ {ids : List String}, ∀ id ∈ ([] : List String), id ∈ ids := by
    intro ids id hid
    cases hid
  have hoption : ∀ {what : String} {ids : List String} {value : Option String},
      ensureKnownIfPresent flow step what ids value = .ok () → ∀ id ∈ value.toList, id ∈ ids := by
    intro what ids value hvalue id hid
    cases value with
    | none => cases hid
    | some known =>
        rw [List.mem_singleton.mp hid]
        exact ensure_ok_iff.mp hvalue
  have hone : ∀ {ids : List String} {known : String}, known ∈ ids → ∀ id ∈ [known], id ∈ ids := by
    intro ids known hknown id hid
    rwa [List.mem_singleton.mp hid]
  cases step with
  | navigate id url awaited =>
      obtain ⟨-, h⟩ := checks_ok_iff.mp h
      exact ⟨hoption h, hnone, hnone, hnone⟩
  | click id element optional => exact ⟨hnone, hone (ensure_ok_iff.mp h), hnone, hnone⟩
  | setInput id element value events =>
      exact ⟨hnone, hone (ensure_ok_iff.mp h), hnone, hnone⟩
  | invokeOperation id operation => exact ⟨hnone, hnone, hnone, hone (ensure_ok_iff.mp h)⟩
  | setFiles id element inputRef => exact ⟨hnone, hone (ensure_ok_iff.mp h), hnone, hnone⟩
  | dispatchEvents id element events => exact ⟨hnone, hone (ensure_ok_iff.mp h), hnone, hnone⟩
  | validateVisualLayout id targets instruction rules optional =>
      obtain ⟨-, h⟩ := checks_ok_iff.mp h
      refine ⟨hnone, ?_, hnone, hnone⟩
      intro element helement
      obtain ⟨target, htarget, rfl⟩ := List.mem_map.mp helement
      have hchecks := forM_ok_iff.mp h target htarget
      exact ensure_ok_iff.mp (checks_ok_iff.mp (checks_ok_iff.mp hchecks).2).2
  | solveVisualCaptcha id captcha =>
      obtain ⟨-, h⟩ := checks_ok_iff.mp h
      obtain ⟨-, h⟩ := checks_ok_iff.mp h
      obtain ⟨-, h⟩ := checks_ok_iff.mp h
      obtain ⟨himage, h⟩ := checks_ok_iff.mp h
      obtain ⟨hinput, h⟩ := checks_ok_iff.mp h
      obtain ⟨hrefresh, -⟩ := checks_ok_iff.mp h
      refine ⟨hnone, ?_, hnone, hnone⟩
      intro element helement
      rcases List.mem_cons.mp helement with rfl | helement
      · exact ensure_ok_iff.mp himage
      rcases List.mem_cons.mp helement with rfl | helement
      · exact ensure_ok_iff.mp hinput
      exact hoption hrefresh element helement
  | waitForRequest id request timeout optional =>
      exact ⟨hnone, hnone, hone (ensure_ok_iff.mp h), hnone⟩
  | waitForPage id page timeout => exact ⟨hone (ensure_ok_iff.mp h), hnone, hnone, hnone⟩
  | wait id duration => exact ⟨hnone, hnone, hnone, hnone⟩

/-- What the check of a flow says of its references. -/
theorem validateFlow_known {presets : ValueMap} {known : KnownIds} {flow : BrowserFlow}
    (h : validateFlow presets known flow = .ok ()) :
    (∀ step ∈ flow.steps, StepKnown known step) ∧ flow.startPage ∈ known.pages ∧
      ∀ id ∈ flow.prerequisiteFlowId, id ∈ known.flows := by
  obtain ⟨-, h⟩ := checks_ok_iff.mp h
  obtain ⟨-, h⟩ := checks_ok_iff.mp h
  obtain ⟨-, h⟩ := checks_ok_iff.mp h
  obtain ⟨hstart, h⟩ := checks_ok_iff.mp h
  obtain ⟨hprerequisite, h⟩ := checks_ok_iff.mp h
  obtain ⟨-, h⟩ := checks_ok_iff.mp h
  obtain ⟨inputIds, -, h⟩ := except_bind_ok.mp h
  obtain ⟨-, h⟩ := checks_ok_iff.mp h
  obtain ⟨-, h⟩ := checks_ok_iff.mp h
  obtain ⟨_, -, h⟩ := except_bind_ok.mp h
  obtain ⟨-, h⟩ := checks_ok_iff.mp h
  obtain ⟨_, -, h⟩ := except_bind_ok.mp h
  obtain ⟨hsteps, -⟩ := checks_ok_iff.mp h
  refine ⟨?_, ensure_ok_iff.mp hstart, ?_⟩
  · intro step hstep
    have hchecks := forM_ok_iff.mp hsteps step hstep
    exact validateStepReferences_known (checks_ok_iff.mp hchecks).1
  · intro id hid
    rw [validateFlowPrerequisite] at hprerequisite
    rw [Option.mem_def] at hid
    rw [hid] at hprerequisite
    obtain ⟨-, hprerequisite⟩ := checks_ok_iff.mp hprerequisite
    exact ensure_ok_iff.mp (checks_ok_iff.mp hprerequisite).2

theorem validateElement_page {pageIds : List String} {element : BrowserFlowElement}
    (h : validateElement pageIds element = .ok ()) : element.page ∈ pageIds := by
  obtain ⟨-, h⟩ := checks_ok_iff.mp h
  obtain ⟨-, h⟩ := checks_ok_iff.mp h
  obtain ⟨-, h⟩ := checks_ok_iff.mp h
  obtain ⟨-, h⟩ := checks_ok_iff.mp h
  exact ensure_ok_iff.mp (checks_ok_iff.mp h).1

theorem checkPrerequisites_ok {flows : List BrowserFlow} {flow : BrowserFlow}
    (h : checkPrerequisites flows flow = .ok ()) :
    prerequisiteCycle flows [] flow.prerequisiteFlowId = none := by
  unfold checkPrerequisites at h
  split at h
  · assumption
  · cases h

/-- **A validated catalog is closed.** -/
theorem validate_closed {catalog : BrowserFlowCatalog} (h : catalog.validate = .ok ()) :
    catalog.Closed := by
  obtain ⟨-, h⟩ := checks_ok_iff.mp h
  obtain ⟨-, h⟩ := checks_ok_iff.mp h
  obtain ⟨-, h⟩ := checks_ok_iff.mp h
  obtain ⟨-, h⟩ := checks_ok_iff.mp h
  obtain ⟨-, h⟩ := checks_ok_iff.mp h
  obtain ⟨-, h⟩ := checks_ok_iff.mp h
  obtain ⟨-, h⟩ := checks_ok_iff.mp h
  obtain ⟨pageIds, hpages, h⟩ := except_bind_ok.mp h
  obtain ⟨-, h⟩ := checks_ok_iff.mp h
  obtain ⟨-, h⟩ := checks_ok_iff.mp h
  obtain ⟨elementIds, helements, h⟩ := except_bind_ok.mp h
  obtain ⟨helementChecks, h⟩ := checks_ok_iff.mp h
  obtain ⟨requestIds, hrequests, h⟩ := except_bind_ok.mp h
  obtain ⟨-, h⟩ := checks_ok_iff.mp h
  obtain ⟨operationIds, hoperations, h⟩ := except_bind_ok.mp h
  obtain ⟨-, h⟩ := checks_ok_iff.mp h
  obtain ⟨flowIds, hflows, h⟩ := except_bind_ok.mp h
  obtain ⟨hflowChecks, hacyclic⟩ := checks_ok_iff.mp h
  obtain ⟨hpageNodup, hpageMem⟩ := collectUniqueIds_ok hpages
  obtain ⟨helementNodup, helementMem⟩ := collectUniqueIds_ok helements
  obtain ⟨hrequestNodup, hrequestMem⟩ := collectUniqueIds_ok hrequests
  obtain ⟨hoperationNodup, hoperationMem⟩ := collectUniqueIds_ok hoperations
  obtain ⟨hflowNodup, hflowMem⟩ := collectUniqueIds_ok hflows
  have hsame : KnownIds.Same
      { pages := pageIds, elements := elementIds, requests := requestIds
        operations := operationIds, flows := flowIds } catalog.ids :=
    ⟨hpageMem, helementMem, hrequestMem, hoperationMem, hflowMem⟩
  have hknown : ∀ flow ∈ catalog.flows, _ := fun flow hflow =>
    validateFlow_known (forM_ok_iff.mp hflowChecks flow hflow)
  refine ⟨hpageNodup, helementNodup, hrequestNodup, hoperationNodup, hflowNodup, ?_, ?_, ?_, ?_, ?_⟩
  · intro flow hflow step hstep
    exact ((hknown flow hflow).1 step hstep).of_same hsame
  · intro flow hflow
    exact (hpageMem _).mp (hknown flow hflow).2.1
  · intro element helement
    exact (hpageMem _).mp (validateElement_page (forM_ok_iff.mp helementChecks element helement))
  · intro flow hflow id hid
    exact (hflowMem id).mp ((hknown flow hflow).2.2 id hid)
  · intro flow hflow
    exact checkPrerequisites_ok (forM_ok_iff.mp hacyclic flow hflow)

/-! ## Section 3: Closed plans -/

/-- A search by a key that the step leaves as it is finds what the step makes of the element
that has the key. -/
theorem find?_of_forall₂ {α : Type} {f : α → Except BlobError α} {key : α → String}
    (hkey : ∀ a b, f a = .ok b → key b = key a) {l l' : List α}
    (h : List.Forall₂ (fun a b => f a = .ok b) l l') {id : String} (hid : id ∈ l.map key) :
    ∃ a ∈ l, ∃ b, key a = id ∧ f a = .ok b ∧
      l'.find? (fun b => decide (key b = id)) = some b := by
  induction h with
  | nil => cases hid
  | @cons a b l l' hab _ ih =>
      by_cases heq : key a = id
      · refine ⟨a, List.mem_cons_self, b, heq, hab, ?_⟩
        rw [List.find?_cons_of_pos]
        simpa [hkey a b hab] using heq
      · have htail : id ∈ l.map key := by
          rw [List.map_cons, List.mem_cons] at hid
          exact hid.resolve_left (Ne.symm heq)
        obtain ⟨c, hc, d, hcid, hcd, hfind⟩ := ih htail
        refine ⟨c, List.mem_cons_of_mem _ hc, d, hcid, hcd, ?_⟩
        rw [List.find?_cons_of_neg]
        · exact hfind
        · simpa [hkey a b hab] using heq

theorem find?_bound {α : Type} {f : α → Except BlobError α} {key : α → String}
    (hkey : ∀ a b, f a = .ok b → key b = key a) {l l' : List α} {ids : List String}
    (h : (l.filter (fun a => decide (key a ∈ ids))).mapM f = .ok l') {id : String}
    (hid : id ∈ ids) (hmem : id ∈ l.map key) :
    ∃ a ∈ l, ∃ b, key a = id ∧ f a = .ok b ∧
      l'.find? (fun b => decide (key b = id)) = some b := by
  have hfiltered : id ∈ (l.filter (fun a => decide (key a ∈ ids))).map key := by
    obtain ⟨a, ha, rfl⟩ := List.mem_map.mp hmem
    exact List.mem_map_of_mem (List.mem_filter.mpr ⟨ha, by simpa using hid⟩)
  obtain ⟨a, ha, b, hab⟩ := find?_of_forall₂ hkey (mapM_ok h) hfiltered
  exact ⟨a, (List.mem_filter.mp ha).1, b, hab⟩

/-- The steps of the plan refer to what the plan has, and the plan has it from the catalog. -/
structure PlanClosed (catalog : BrowserFlowCatalog) (context : BrowserFlowBindingContext)
    (plan : BoundBrowserFlowPlan) : Prop where
  pages : ∀ step ∈ plan.flow.steps, ∀ id ∈ step.pages, ∃ page ∈ catalog.pages, ∃ bound,
    page.id = id ∧ bindPage context page = .ok bound ∧ plan.findPage id = some bound
  elements : ∀ step ∈ plan.flow.steps, ∀ id ∈ step.elements, ∃ element ∈ catalog.elements,
    ∃ bound, element.id = id ∧ bindElement context element = .ok bound ∧
      plan.findElement id = some bound
  requests : ∀ step ∈ plan.flow.steps, ∀ id ∈ step.requests, ∃ request ∈ catalog.requests,
    ∃ bound, request.id = id ∧ bindRequest context request = .ok bound ∧
      plan.findRequest id = some bound
  operations : ∀ step ∈ plan.flow.steps, ∀ id ∈ step.operations,
    ∃ operation ∈ catalog.operations, ∃ bound, operation.id = id ∧
      bindOperation context operation = .ok bound ∧ plan.findOperation id = some bound

section Plans

variable {catalog : BrowserFlowCatalog} {flowId : String} {context : BrowserFlowBindingContext}
  {plan : BoundBrowserFlowPlan}

/-- Of a list of the catalog a plan has the entries that its steps name, bound. -/
def BoundFor {α : Type} (plan : BoundBrowserFlowPlan) (names : BrowserFlowStep → List String)
    (key : α → String) (bind : α → Except BlobError α) (entries bound : List α) : Prop :=
  ∃ ids : List String, (∀ step ∈ plan.flow.steps, ∀ id ∈ names step, id ∈ ids) ∧
    (entries.filter (fun entry => decide (key entry ∈ ids))).mapM bind = .ok bound

/-- What a plan is made of. -/
structure BoundFrom (catalog : BrowserFlowCatalog) (flowId : String)
    (context : BrowserFlowBindingContext) (plan : BoundBrowserFlowPlan) : Prop where
  flow : ∃ flow, catalog.findFlow flowId = some flow ∧
    bindFlowTemplates context flow = .ok plan.flow
  context_eq : plan.context = context
  pages : BoundFor plan (·.pages) (·.id) (bindPage context) catalog.pages plan.pages
  elements : BoundFor plan (·.elements) (·.id) (bindElement context) catalog.elements plan.elements
  requests : BoundFor plan (·.requests) (·.id) (bindRequest context) catalog.requests plan.requests
  operations : BoundFor plan (·.operations) (·.id) (bindOperation context) catalog.operations
    plan.operations

theorem bindFlow_spec (h : catalog.bindFlow flowId context = .ok plan) :
    BoundFrom catalog flowId context plan := by
  unfold BrowserFlowCatalog.bindFlow at h
  split at h
  · cases h
  · rename_i flow hfind
    obtain ⟨_, -, h⟩ := except_bind_ok.mp h
    obtain ⟨boundFlow, hflow, h⟩ := except_bind_ok.mp h
    obtain ⟨presets, -, h⟩ := except_bind_ok.mp h
    obtain ⟨elements, helements, h⟩ := except_bind_ok.mp h
    obtain ⟨operations, hoperations, h⟩ := except_bind_ok.mp h
    obtain ⟨requests, hrequests, h⟩ := except_bind_ok.mp h
    obtain ⟨pages, hpages, h⟩ := except_bind_ok.mp h
    cases h
    refine ⟨⟨flow, hfind, hflow⟩, rfl, ⟨_, ?_, hpages⟩, ⟨_, ?_, helements⟩, ⟨_, ?_, hrequests⟩,
      ⟨_, ?_, hoperations⟩⟩
    · intro step hstep id hid
      apply List.mem_append_left
      apply List.mem_append_left
      exact List.mem_cons_of_mem _ (List.mem_flatMap.mpr ⟨step, hstep, hid⟩)
    · intro step hstep id hid
      exact List.mem_flatMap.mpr ⟨step, hstep, hid⟩
    · intro step hstep id hid
      apply List.mem_append_left
      exact List.mem_append_left _ (List.mem_flatMap.mpr ⟨step, hstep, hid⟩)
    · intro step hstep id hid
      exact List.mem_flatMap.mpr ⟨step, hstep, hid⟩

/-- The steps of the bound flow are the steps of a flow of the catalog, bound one by one. -/
theorem BoundFrom.steps (h : BoundFrom catalog flowId context plan) :
    ∃ flow ∈ catalog.flows, flow.id = flowId ∧ plan.flow.id = flowId ∧
      List.Forall₂ (fun step bound => bindStep context step = .ok bound) flow.steps
        plan.flow.steps := by
  obtain ⟨flow, hfind, hflow⟩ := h.flow
  have hid : flow.id = flowId := by simpa using List.find?_some hfind
  obtain ⟨steps, hsteps, hflow⟩ := except_bind_ok.mp hflow
  obtain ⟨outputs, -, hflow⟩ := except_bind_ok.mp hflow
  rw [← Except.ok.inj hflow]
  exact ⟨flow, List.mem_of_find?_eq_some hfind, hid, hid, mapM_ok hsteps⟩

/-- The steps of a plan are known where those of the catalog are. -/
theorem BoundFrom.known (hclosed : catalog.Closed) (h : BoundFrom catalog flowId context plan) :
    ∀ step ∈ plan.flow.steps, StepKnown catalog.ids step := by
  obtain ⟨flow, hflow, -, -, hsteps⟩ := h.steps
  intro bound hbound
  obtain ⟨step, hstep, hbind⟩ := exists_of_mem_forall₂ hsteps bound hbound
  obtain ⟨-, -, hpages, helements, hrequests, hoperations⟩ := bindStep_references hbind
  have hknown := hclosed.steps flow hflow step hstep
  constructor
  · rw [hpages]
    exact hknown.pages
  · rw [helements]
    exact hknown.elements
  · rw [hrequests]
    exact hknown.requests
  · rw [hoperations]
    exact hknown.operations

/-- **Binding keeps closedness.** -/
theorem bindFlow_closed (hclosed : catalog.Closed)
    (h : catalog.bindFlow flowId context = .ok plan) : PlanClosed catalog context plan := by
  have hfrom := bindFlow_spec h
  have hknown := hfrom.known hclosed
  constructor
  · intro step hstep id hid
    obtain ⟨ids, hids, hpages⟩ := hfrom.pages
    exact find?_bound (fun _ _ => bindPage_id) hpages (hids step hstep id hid)
      ((hknown step hstep).pages id hid)
  · intro step hstep id hid
    obtain ⟨ids, hids, helements⟩ := hfrom.elements
    exact find?_bound (fun _ _ hbound => (bindElement_id hbound).1) helements
      (hids step hstep id hid) ((hknown step hstep).elements id hid)
  · intro step hstep id hid
    obtain ⟨ids, hids, hrequests⟩ := hfrom.requests
    exact find?_bound (fun _ _ => bindRequest_id) hrequests (hids step hstep id hid)
      ((hknown step hstep).requests id hid)
  · intro step hstep id hid
    obtain ⟨ids, hids, hoperations⟩ := hfrom.operations
    exact find?_bound (fun _ _ => bindOperation_id) hoperations (hids step hstep id hid)
      ((hknown step hstep).operations id hid)

end Plans

end Netdisk2Blob.Flows
