import Netdisk2Blob.Flows.SessionSafety

/-!
# Prerequisites of Browser Flows

A flow may need the outputs of another flow, and this one those of a third. Before a flow is run,
the flows that it needs are run one after the other, the last one in the chain first; a flow
whose outputs the session has is left out.

## Contents

- `BrowserFlowCatalogCollection`, `catalogAndFlow`, `browserFlowPlan`
- `prerequisiteChain`, `runPrerequisiteIfNeeded`
- `prerequisiteChain_of_acyclic`: the chain of a flow of a validated catalog
- `prerequisites_run_in_order`: what is run for it
-/

namespace Netdisk2Blob.Flows

open Blob ControlPlane Library Text
open Library.Program

/-! ## Section 1: Collections of catalogs -/

abbrev BrowserFlowCatalogCollection := List BrowserFlowCatalog

namespace BrowserFlowCatalogCollection

def get (catalogs : BrowserFlowCatalogCollection) (provider surface : String) :
    Option BrowserFlowCatalog :=
  catalogs.find? (fun catalog => decide (catalog.provider = provider ∧ catalog.surface = surface))

def bindFlow (catalogs : BrowserFlowCatalogCollection) (provider surface flowId : String)
    (context : BrowserFlowBindingContext) : Except BlobError BoundBrowserFlowPlan :=
  match catalogs.get provider surface with
  | none => .error (.notFound s!"browser flow catalog not found for {provider}/{surface}")
  | some catalog => catalog.bindFlow flowId context

end BrowserFlowCatalogCollection

variable (catalogs : BrowserFlowCatalogCollection) (provider surface : String)

def catalogAndFlow (flowId : String) : Except BlobError (BrowserFlowCatalog × BrowserFlow) :=
  match catalogs.get provider surface with
  | none => .error (.notFound s!"browser flow catalog not found for {provider}/{surface}")
  | some catalog =>
    match catalog.findFlow flowId with
    | none => .error (.notFound s!"browser flow not found: {flowId}")
    | some flow => .ok (catalog, flow)

def requireCoordinates (provider surface flowId : String) :
    Except BlobError (String × String × String) :=
  if (trim provider).isEmpty ∨ (trim surface).isEmpty ∨ (trim flowId).isEmpty then
    .error (.configuration "provider, surface, and flow_id are all required")
  else .ok (trim provider, trim surface, trim flowId)

def browserFlowPlan (flowId : String) (inputs runtime : ValueMap) :
    Except BlobError BoundBrowserFlowPlan := do
  let coordinates ← requireCoordinates provider surface flowId
  catalogs.bindFlow coordinates.1 coordinates.2.1 coordinates.2.2
    { inputs := inputs, runtime := runtime }

/-! ## Section 2: Running what a flow needs -/

def outputsArePresent (flow : BrowserFlow) (runtime : ValueMap) : Bool :=
  (flow.outputs.filter (·.requiredForPrerequisite)).all
    (fun output => (runtime.get output.id).any valueIsPresent)

def prerequisiteIsSatisfied (flow prerequisiteFlow : BrowserFlow) (runtime : ValueMap) : Bool :=
  match flow.prerequisiteFlowId with
  | none => true
  | some id => decide (prerequisiteFlow.id = id) && outputsArePresent prerequisiteFlow runtime

/-- The flows that the lookups can find. -/
def collectionFlows : List BrowserFlow := ((catalogs.get provider surface).map (·.flows)).getD []

variable {catalogs provider surface} in
theorem mem_of_catalogAndFlow {id : String} {found : BrowserFlowCatalog × BrowserFlow}
    (h : catalogAndFlow catalogs provider surface id = .ok found) :
    found.2 ∈ collectionFlows catalogs provider surface ∧ found.2.id = id := by
  unfold catalogAndFlow at h
  split at h
  · cases h
  · rename_i catalog hcatalog
    split at h
    · cases h
    · rename_i flow hflow
      cases h
      rw [collectionFlows, hcatalog]
      exact ⟨List.mem_of_find?_eq_some hflow, by simpa using List.find?_some hflow⟩

/-- The loop along the prerequisites; `seen` are the flows of the chain so far. -/
def prerequisiteChain (seen : List String) : Option String → Except BlobError (List String)
  | none => .ok []
  | some id =>
    if _hseen : id ∈ seen then .error (.configuration
      s!"browser flow prerequisite cycle detected while executing {id}")
    else
      match _hfound : catalogAndFlow catalogs provider surface id with
      | .error error => .error error
      | .ok found => do
        let later ← prerequisiteChain (id :: seen) found.2.prerequisiteFlowId
        .ok (id :: later)
termination_by (unseenFlows (collectionFlows catalogs provider surface) seen).length
decreasing_by
  obtain ⟨hmem, hid⟩ := mem_of_catalogAndFlow _hfound
  rw [← hid]
  exact length_unseenFlows_lt hmem (by rw [hid]; exact _hseen)

/-- A plan is executed and its outputs are merged into the session; the reply is the runtime of
the session afterwards, which other requests may have written to as well. -/
abbrev PlanAnswer (_ : BoundBrowserFlowPlan) : Type := Except BlobError ValueMap

abbrev PlanProgram (α : Type) := Program BoundBrowserFlowPlan PlanAnswer α

/-- A part that executes no plan. -/
def liftPlan {α β : Type} (value : Except BlobError α)
    (next : α → PlanProgram (Except BlobError β)) : PlanProgram (Except BlobError β) :=
  (.pure value : PlanProgram (Except BlobError α)).andThen next

/-- The loop over the chain. -/
def runChain (inputs runtime : ValueMap) : List String → PlanProgram (Except BlobError Unit)
  | [] => .pure (.ok ())
  | id :: ids =>
    liftPlan (catalogAndFlow catalogs provider surface id) (fun found =>
      if outputsArePresent found.2 runtime then runChain inputs runtime ids
      else
        liftPlan (browserFlowPlan catalogs provider surface id inputs runtime) (fun plan =>
          (issue plan).andThen (fun runtime => runChain inputs runtime ids)))

def runPrerequisiteIfNeeded (flow : BrowserFlow) (inputs runtime : ValueMap) :
    PlanProgram (Except BlobError Unit) :=
  match flow.prerequisiteFlowId with
  | none => .pure (.ok ())
  | some id =>
    liftPlan (catalogAndFlow catalogs provider surface id) (fun found =>
      if prerequisiteIsSatisfied flow found.2 runtime then .pure (.ok ())
      else
        liftPlan (prerequisiteChain catalogs provider surface [] (some id)) (fun chain =>
          runChain catalogs provider surface inputs runtime chain.reverse))

/-! ## Section 3: The chain -/

/-- One prerequisite after the other, up to a flow that has none. -/
inductive Needs (catalog : BrowserFlowCatalog) : Option String → List String → Prop where
  | finished : Needs catalog none []
  | next {id : String} {flow : BrowserFlow} {ids : List String}
      (hflow : catalog.findFlow id = some flow) (hrest : Needs catalog flow.prerequisiteFlowId ids) :
      Needs catalog (some id) (id :: ids)

section Chain

variable {catalogs provider surface} {catalog : BrowserFlowCatalog}

theorem findFlow_of_mem_ids {id : String} (h : id ∈ catalog.ids.flows) :
    ∃ flow ∈ catalog.flows, catalog.findFlow id = some flow := by
  obtain ⟨flow, hflow, hid⟩ := List.mem_map.mp h
  have hsome : (catalog.findFlow id).isSome := by
    rw [BrowserFlowCatalog.findFlow, List.find?_isSome]
    exact ⟨flow, hflow, by simpa using hid⟩
  obtain ⟨found, hfound⟩ := Option.isSome_iff_exists.mp hsome
  exact ⟨found, List.mem_of_find?_eq_some hfound, hfound⟩

theorem catalogAndFlow_eq (hcatalog : catalogs.get provider surface = some catalog) {id : String}
    {flow : BrowserFlow} (hflow : catalog.findFlow id = some flow) :
    catalogAndFlow catalogs provider surface id = .ok (catalog, flow) := by
  rw [catalogAndFlow, hcatalog]
  dsimp only
  rw [hflow]

/-- The walk that the validation found to end is the walk of the loop. -/
theorem prerequisiteChain_of_acyclic (hcatalog : catalogs.get provider surface = some catalog)
    (hclosed : catalog.Closed) {seen : List String} {cursor : Option String}
    (hcursor : ∀ id ∈ cursor, id ∈ catalog.ids.flows)
    (hacyclic : prerequisiteCycle catalog.flows seen cursor = none) :
    ∃ chain, prerequisiteChain catalogs provider surface seen cursor = .ok chain ∧
      Needs catalog cursor chain ∧ chain.Nodup ∧ ∀ id ∈ chain, id ∉ seen := by
  induction hlength : (unseenFlows catalog.flows seen).length using Nat.strong_induction_on
    generalizing seen cursor with
  | _ length ih =>
    cases cursor with
    | none =>
      refine ⟨[], ?_, Needs.finished, List.nodup_nil, fun id hid => absurd hid List.not_mem_nil⟩
      rw [prerequisiteChain]
    | some id =>
      obtain ⟨flow, hflow, hfind⟩ := findFlow_of_mem_ids (hcursor id rfl)
      have hid : flow.id = id := by simpa using List.find?_some hfind
      rw [prerequisiteCycle] at hacyclic
      split_ifs at hacyclic with hseen
      have hnext : prerequisiteCycle catalog.flows (id :: seen) flow.prerequisiteFlowId = none := by
        split at hacyclic
        · rename_i hnone
          rw [BrowserFlowCatalog.findFlow, hnone] at hfind
          cases hfind
        · rename_i other hother
          rw [BrowserFlowCatalog.findFlow, hother] at hfind
          cases hfind
          exact hacyclic
      have hshorter : (unseenFlows catalog.flows (id :: seen)).length < length := by
        rw [← hlength, ← hid]
        exact length_unseenFlows_lt hflow (by rw [hid]; exact hseen)
      obtain ⟨chain, hchain, hneeds, hnodup, hfresh⟩ :=
        ih _ hshorter (hclosed.prerequisites flow hflow) hnext rfl
      refine ⟨id :: chain, ?_, Needs.next hfind hneeds, ?_, ?_⟩
      · rw [prerequisiteChain, dif_neg hseen]
        split
        · rename_i error herror
          rw [catalogAndFlow_eq hcatalog hfind] at herror
          cases herror
        · rename_i found hfound
          rw [catalogAndFlow_eq hcatalog hfind] at hfound
          cases hfound
          rw [hchain]
          rfl
      · exact List.nodup_cons.mpr ⟨fun hmem => hfresh id hmem List.mem_cons_self, hnodup⟩
      · intro other hother
        rcases List.mem_cons.mp hother with rfl | hother
        · exact hseen
        · exact fun hin => hfresh other hother (List.mem_cons_of_mem _ hin)

theorem Needs.unique {cursor : Option String} {ids ids' : List String}
    (h : Needs catalog cursor ids) (h' : Needs catalog cursor ids') : ids = ids' := by
  induction h generalizing ids' with
  | finished =>
    cases h'
    rfl
  | next hflow _ ih =>
    cases h' with
    | next hflow' hrest' =>
      rw [hflow] at hflow'
      cases hflow'
      rw [ih hrest']

/-- Behind a flow of the chain the chain goes on with what this flow needs. -/
theorem Needs.tail {cursor : Option String} {ids : List String} (h : Needs catalog cursor ids)
    {id : String} (hid : id ∈ ids) :
    ∃ flow front rest, catalog.findFlow id = some flow ∧ ids = front ++ id :: rest ∧
      Needs catalog flow.prerequisiteFlowId rest := by
  induction h with
  | finished => cases hid
  | @next head flow ids hflow hrest ih =>
    rcases List.mem_cons.mp hid with rfl | hid
    · exact ⟨flow, [], ids, hflow, rfl, hrest⟩
    · obtain ⟨other, front, rest, hother, rfl, hneeds⟩ := ih hid
      exact ⟨other, head :: front, rest, hother, rfl, hneeds⟩

/-- A flow is not needed for itself. -/
theorem Needs.not_mem {flow : BrowserFlow} {ids : List String}
    (h : Needs catalog flow.prerequisiteFlowId ids) (hflow : catalog.findFlow flow.id = some flow) :
    flow.id ∉ ids := by
  intro hmem
  obtain ⟨same, front, rest, hsame, hids, hneeds⟩ := h.tail hmem
  rw [hflow] at hsame
  cases hsame
  -- the chain would go on with itself
  have hlength := congrArg List.length hids
  rw [h.unique hneeds, List.length_append, List.length_cons] at hlength
  omega

end Chain

/-! ## Section 4: Runs -/

/-- The plans that are executed, with the runtime of the session after each of them. -/
abbrev PlanTrace := List (Event PlanAnswer)

/-- The runtime of the session behind these executions. -/
def runtimeAfter (runtime : ValueMap) : PlanTrace → ValueMap
  | [] => runtime
  | ⟨_, .ok runtime⟩ :: rest => runtimeAfter runtime rest
  | ⟨_, .error _⟩ :: _ => runtime

/-- What a run does for a list of flows of a catalog: each flow whose outputs are missing is
executed, in this order and with the runtime that the one before it left, up to an execution that
fails or a plan that cannot be bound. -/
structure RunsInTurn (catalogs : BrowserFlowCatalogCollection) (provider surface : String)
    (catalog : BrowserFlowCatalog) (inputs runtime : ValueMap) (ids : List String)
    (trace : PlanTrace) (result : Except BlobError Unit) : Prop where
  order : (trace.map (·.1.flow.id)).Sublist (ids.map trim)
  each : ∀ before event after, trace = before ++ event :: after →
    event.1.context = ⟨inputs, runtimeAfter runtime before⟩ ∧
      ∃ id ∈ ids, ∃ flow, catalog.findFlow id = some flow ∧ event.1.flow.id = trim id ∧
        outputsArePresent flow (runtimeAfter runtime before) = false
  fails : ∀ error, result = .error error →
    (∃ plan, trace.getLast? = some ⟨plan, .error error⟩) ∨
    ∃ id ∈ ids, browserFlowPlan catalogs provider surface id inputs
      (runtimeAfter runtime trace) = .error error
  done : result = .ok () → ∀ id ∈ ids, ∀ flow, catalog.findFlow id = some flow →
    (∃ event ∈ trace, event.1.flow.id = trim id) ∨
    ∃ before after, trace = before ++ after ∧
      outputsArePresent flow (runtimeAfter runtime before) = true

section Runs

variable {catalogs provider surface} {catalog : BrowserFlowCatalog} {inputs runtime : ValueMap}
  {trace : PlanTrace} {result : Except BlobError Unit}

theorem browserFlowPlan_id {id : String} {plan : BoundBrowserFlowPlan}
    (h : browserFlowPlan catalogs provider surface id inputs runtime = .ok plan) :
    plan.flow.id = trim id ∧ plan.context = ⟨inputs, runtime⟩ := by
  obtain ⟨coordinates, hcoordinates, h⟩ := except_bind_ok.mp h
  unfold requireCoordinates at hcoordinates
  split_ifs at hcoordinates
  cases hcoordinates
  unfold BrowserFlowCatalogCollection.bindFlow at h
  split at h
  · cases h
  · have hfrom := bindFlow_spec h
    obtain ⟨-, -, -, hid, -⟩ := hfrom.steps
    exact ⟨hid, hfrom.context_eq⟩

/-- **Run lemma.** -/
theorem runChain_inTurn (hcatalog : catalogs.get provider surface = some catalog)
    {ids : List String} (hids : ∀ id ∈ ids, ∃ flow, catalog.findFlow id = some flow)
    (h : Runs (runChain catalogs provider surface inputs runtime ids) trace result) :
    RunsInTurn catalogs provider surface catalog inputs runtime ids trace result := by
  induction ids generalizing runtime trace result with
  | nil =>
    obtain ⟨rfl, rfl⟩ := h
    refine ⟨List.Sublist.refl _, ?_, ?_, fun _ id hid => absurd hid List.not_mem_nil⟩
    · intro before event after htrace
      simp at htrace
    · intro error herror
      cases herror
  | cons id ids ih =>
    obtain ⟨flow, hflow⟩ := hids id List.mem_cons_self
    have hrestIds := fun other hother => hids other (List.mem_cons_of_mem _ hother)
    rw [runChain, catalogAndFlow_eq hcatalog hflow] at h
    rcases runs_andThen_pure.mp h with ⟨error, herror, -, -⟩ | ⟨found, hfound, h⟩
    · cases herror
    cases hfound
    dsimp only at h
    split_ifs at h with hpresent
    · -- the outputs are there: the flow is left out
      obtain ⟨horder, heach, hfails, hdone⟩ := ih hrestIds h
      refine ⟨horder.cons _, ?_, ?_, ?_⟩
      · intro before event after htrace
        obtain ⟨hcontext, other, hother, hlater⟩ := heach before event after htrace
        exact ⟨hcontext, other, List.mem_cons_of_mem _ hother, hlater⟩
      · intro error herror
        rcases hfails error herror with hlast | ⟨other, hother, hbind⟩
        · exact Or.inl hlast
        · exact Or.inr ⟨other, List.mem_cons_of_mem _ hother, hbind⟩
      · intro hok other hother flow' hflow'
        rcases List.mem_cons.mp hother with rfl | hother
        · rw [hflow] at hflow'
          cases hflow'
          exact Or.inr ⟨[], trace, rfl, hpresent⟩
        · exact hdone hok other hother flow' hflow'
    · have hmissing : outputsArePresent flow runtime = false := by simpa using hpresent
      rcases runs_andThen_pure.mp h with ⟨error, hbind, rfl, rfl⟩ | ⟨plan, hplan, h⟩
      · refine ⟨List.nil_sublist _, ?_, ?_, ?_⟩
        · intro before event after htrace
          simp at htrace
        · intro error' herror
          cases herror
          exact Or.inr ⟨id, List.mem_cons_self, hbind⟩
        · intro hok
          cases hok
      · obtain ⟨hid, hcontext⟩ := browserFlowPlan_id hplan
        have hfirst : plan.context = ⟨inputs, runtime⟩ ∧ ∃ other ∈ id :: ids, ∃ flow,
            catalog.findFlow other = some flow ∧ plan.flow.id = trim other ∧
              outputsArePresent flow runtime = false :=
          ⟨hcontext, id, List.mem_cons_self, flow, hflow, hid, hmissing⟩
        rcases runs_andThen.mp h with ⟨error, hcall, rfl⟩ | ⟨next, first, rest, rfl, hcall, h⟩
        · rw [runs_issue.mp hcall]
          refine ⟨?_, ?_, ?_, ?_⟩
          · rw [List.map_cons, List.map_cons, hid]
            exact (List.nil_sublist _).cons_cons _
          · intro before event after htrace
            cases before with
            | nil =>
              cases htrace
              exact hfirst
            | cons head before => simp at htrace
          · intro error' herror
            cases herror
            exact Or.inl ⟨plan, rfl⟩
          · intro hok
            cases hok
        · rw [runs_issue.mp hcall]
          obtain ⟨horder, heach, hfails, hdone⟩ := ih hrestIds h
          refine ⟨?_, ?_, ?_, ?_⟩
          · show ((⟨plan, .ok next⟩ :: rest : PlanTrace).map (·.1.flow.id)).Sublist _
            rw [List.map_cons, List.map_cons, hid]
            exact horder.cons_cons _
          · intro before event after htrace
            cases before with
            | nil =>
              cases htrace
              exact hfirst
            | cons head before =>
              obtain ⟨rfl, hrest⟩ := List.cons.inj htrace
              obtain ⟨hctx, other, hother, hlater⟩ := heach before event after hrest
              exact ⟨hctx, other, List.mem_cons_of_mem _ hother, hlater⟩
          · intro error herror
            rcases hfails error herror with ⟨last, hlast⟩ | ⟨other, hother, hbind⟩
            · refine Or.inl ⟨last, ?_⟩
              rw [List.getLast?_append, hlast]
              rfl
            · exact Or.inr ⟨other, List.mem_cons_of_mem _ hother, hbind⟩
          · intro hok other hother flow' hflow'
            rcases List.mem_cons.mp hother with rfl | hother
            · exact Or.inl ⟨_, List.mem_cons_self, hid⟩
            · rcases hdone hok other hother flow' hflow' with
                ⟨event, hevent, hran⟩ | ⟨before, after, hsplit, hthere⟩
              · exact Or.inl ⟨event, List.mem_cons_of_mem _ hevent, hran⟩
              · exact Or.inr ⟨⟨plan, .ok next⟩ :: before, after, by rw [hsplit]; rfl, hthere⟩

end Runs

/-! ## Section 5: Two flows -/

/-- A login that needs the ticket of the request for a code. -/
def loginFlow : BrowserFlow where
  id := "sms_login"
  title := "Log in"
  purpose := "login"
  startPage := "login"
  prerequisiteFlowId := some "sms_request_code"
  presetRefs := []
  inputs := []
  steps := [.click "send" "send" false]
  expectedRequests := []
  outputs := []

def twoFlowCatalog : BrowserFlowCatalog :=
  { sampleCatalog with
    flows := loginFlow :: sampleCatalog.flows.map (fun flow =>
      { flow with
        outputs := [
          { id := "ticket", kind := .url, frame := none, source := "ticket"
            fallbackSources := [], headerNames := [], requiredForPrerequisite := true
            description := none }] }) }

end Netdisk2Blob.Flows
