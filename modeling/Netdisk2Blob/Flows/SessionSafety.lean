import Netdisk2Blob.Flows.ClosedPlans
import Netdisk2Blob.Flows.SessionSteps

/-!
# Safety of Sessions

A plan that is bound from a validated catalog runs without a missing reference, whatever the
session answers: an execution fails only where the session fails a call or where an input does
not name files. Every call hands the session what its step refers to, as the catalog has it.

## Contents

- `BoundElement`, `BoundPage`, ...; `Carries`: the calls that a step stands for
- `lastCall_of_closed`: in a closed plan a step finds what it refers to
- `execution_is_safe`: the executions of a validated catalog
-/

namespace Netdisk2Blob.Flows

open Blob ControlPlane Library Text
open Library.Program

/-! ## Section 1: The calls that a step stands for -/

section Bound

variable (catalog : BrowserFlowCatalog) (context : BrowserFlowBindingContext)

/-- The element of the catalog with this id, its templates filled in. -/
def BoundElement (id : String) (element : BrowserFlowElement) : Prop :=
  ∃ original ∈ catalog.elements, original.id = id ∧ bindElement context original = .ok element

def BoundPage (id : String) (page : BrowserFlowPage) : Prop :=
  ∃ original ∈ catalog.pages, original.id = id ∧ bindPage context original = .ok page

def BoundRequest (id : String) (request : BrowserFlowRequest) : Prop :=
  ∃ original ∈ catalog.requests, original.id = id ∧ bindRequest context original = .ok request

def BoundOperation (id : String) (operation : BrowserFlowOperation) : Prop :=
  ∃ original ∈ catalog.operations, original.id = id ∧
    bindOperation context original = .ok operation

/-- What a step asks of a session. -/
inductive Carries : BrowserFlowStep → SessionCall → Prop where
  | navigate {id url : String} {awaited : Option String} :
      Carries (.navigate id url awaited) (.navigate url)
  | awaited {id url pageId : String} {page : BrowserFlowPage}
      (hpage : BoundPage catalog context pageId page) :
      Carries (.navigate id url (some pageId)) (.waitForPage page none)
  | click {id elementId : String} {optional : Bool} {element : BrowserFlowElement}
      (helement : BoundElement catalog context elementId element) :
      Carries (.click id elementId optional) (.click element)
  | setInput {id elementId value : String} {events : List String} {element : BrowserFlowElement}
      (helement : BoundElement catalog context elementId element) :
      Carries (.setInput id elementId value events) (.setInput element value events)
  | invokeOperation {id operationId : String} {operation : BrowserFlowOperation}
      (hoperation : BoundOperation catalog context operationId operation) :
      Carries (.invokeOperation id operationId) (.invokeOperation operation)
  | setFiles {id elementId inputRef : String} {paths : List String} {element : BrowserFlowElement}
      (helement : BoundElement catalog context elementId element) :
      Carries (.setFiles id elementId inputRef) (.setFiles element paths)
  | dispatchEvents {id elementId : String} {events : List String} {element : BrowserFlowElement}
      (helement : BoundElement catalog context elementId element) :
      Carries (.dispatchEvents id elementId events) (.dispatchEvents element events)
  | validateVisualLayout {id : String} {targets : List BrowserFlowVisualLayoutTarget}
      {instruction : Option String} {rules : List String} {optional : Bool}
      {bound : List BrowserFlowVisualLayoutValidationTargetRequest}
      (htargets : List.Forall₂ (fun target shown =>
        BoundElement catalog context target.element shown.element ∧ shown.role = target.role ∧
          shown.required = target.required) targets bound) :
      Carries (.validateVisualLayout id targets instruction rules optional)
        (.validateVisualLayout ⟨bound, instruction, rules, optional⟩)
  | solveVisualCaptcha {id : String} {captcha : BrowserFlowVisualCaptcha}
      {asked : BrowserFlowVisualCaptchaRequest}
      (himage : BoundElement catalog context captcha.imageElement asked.imageElement)
      (hinput : BoundElement catalog context captcha.inputElement asked.inputElement)
      (hrefresh : Option.Rel (BoundElement catalog context) captcha.refreshElement
        asked.refreshElement) (hid : asked.inputId = captcha.inputId) :
      Carries (.solveVisualCaptcha id captcha) (.solveVisualCaptcha asked)
  | waitForRequest {id requestId : String} {timeoutMs : Option Nat} {optional : Bool}
      {awaited : BrowserFlowRequest} (hrequest : BoundRequest catalog context requestId awaited) :
      Carries (.waitForRequest id requestId timeoutMs optional) (.waitForRequest awaited timeoutMs)
  | waitForPage {id pageId : String} {timeoutMs : Option Nat} {page : BrowserFlowPage}
      (hpage : BoundPage catalog context pageId page) :
      Carries (.waitForPage id pageId timeoutMs) (.waitForPage page timeoutMs)
  | wait {id : String} {durationMs : Nat} : Carries (.wait id durationMs) (.wait durationMs)

end Bound

/-! ## Section 2: Steps of a closed plan -/

section Closed

variable {catalog : BrowserFlowCatalog} {context : BrowserFlowBindingContext}
  {plan : BoundBrowserFlowPlan} {consumed : List String} {step : BrowserFlowStep}

/-- Only the files of a step can make its dry run fail. -/
theorem dryRunStepReport_error {error : BlobError} (h : dryRunStepReport plan step = .error error) :
    ∃ id elementId inputRef, step = .setFiles id elementId inputRef ∧
      plan.inputFilePaths inputRef = .error error := by
  cases step with
  | setFiles id elementId inputRef =>
      refine ⟨id, elementId, inputRef, rfl, ?_⟩
      rw [dryRunStepReport, dryRunDetail] at h
      cases hpaths : plan.inputFilePaths inputRef with
      | error error' =>
          rw [hpaths] at h
          cases h
          rfl
      | ok paths =>
          rw [hpaths] at h
          cases h
  | invokeOperation id operationId =>
      rw [dryRunStepReport, dryRunDetail] at h
      cases hfind : plan.findOperation operationId with
      | none =>
          rw [hfind] at h
          cases h
      | some operation =>
          rw [hfind] at h
          cases h
  | _ => cases h

/-- A step whose dry run succeeds has its files. -/
theorem inputFilePaths_of_report {id elementId inputRef : String}
    {report : BrowserFlowExecutionStepReport}
    (h : dryRunStepReport plan (.setFiles id elementId inputRef) = .ok report) :
    ∃ paths, plan.inputFilePaths inputRef = .ok paths := by
  rw [dryRunStepReport, dryRunDetail] at h
  cases hpaths : plan.inputFilePaths inputRef with
  | error error =>
      rw [hpaths] at h
      cases h
  | ok paths => exact ⟨paths, rfl⟩

theorem findElement_bound (hclosed : PlanClosed catalog context plan)
    (hstep : step ∈ plan.flow.steps) {id : String} (hid : id ∈ step.elements) :
    ∃ element, plan.findElement id = some element ∧ BoundElement catalog context id element := by
  obtain ⟨original, horiginal, element, hsame, hbind, hfind⟩ :=
    hclosed.elements step hstep id hid
  exact ⟨element, hfind, original, horiginal, hsame, hbind⟩

theorem findPage_bound (hclosed : PlanClosed catalog context plan)
    (hstep : step ∈ plan.flow.steps) {id : String} (hid : id ∈ step.pages) :
    ∃ page, plan.findPage id = some page ∧ BoundPage catalog context id page := by
  obtain ⟨original, horiginal, page, hsame, hbind, hfind⟩ := hclosed.pages step hstep id hid
  exact ⟨page, hfind, original, horiginal, hsame, hbind⟩

/-- The targets of a layout are found, each in its place. -/
theorem boundTargets (hclosed : PlanClosed catalog context plan)
    (hstep : step ∈ plan.flow.steps) {targets : List BrowserFlowVisualLayoutTarget}
    (htargets : ∀ target ∈ targets, target.element ∈ step.elements) :
    ∃ bound, targets.mapM (boundTarget plan) = .ok bound ∧
      List.Forall₂ (fun target shown =>
        BoundElement catalog context target.element shown.element ∧ shown.role = target.role ∧
          shown.required = target.required) targets bound := by
  induction targets with
  | nil => exact ⟨[], rfl, List.Forall₂.nil⟩
  | cons target targets ih =>
      obtain ⟨element, hfind, hbound⟩ :=
        findElement_bound hclosed hstep (htargets target List.mem_cons_self)
      obtain ⟨bound, hmap, hall⟩ :=
        ih (fun other hother => htargets other (List.mem_cons_of_mem _ hother))
      have hhead : boundTarget plan target =
          .ok ⟨element, target.role, target.required⟩ := by
        rw [boundTarget, hfind]
        rfl
      refine ⟨⟨element, target.role, target.required⟩ :: bound, ?_, ?_⟩
      · rw [List.mapM_cons, hhead, hmap]
        rfl
      · exact List.Forall₂.cons ⟨hbound, rfl, rfl⟩ hall

/-- A captcha is asked for with the elements of its step. -/
theorem captchaRequest_bound (hclosed : PlanClosed catalog context plan) {id : String}
    {captcha : BrowserFlowVisualCaptcha} (hstep : .solveVisualCaptcha id captcha ∈ plan.flow.steps) :
    ∃ asked, captchaRequest plan consumed captcha = .ok asked ∧
      Carries catalog context (.solveVisualCaptcha id captcha) (.solveVisualCaptcha asked) := by
  obtain ⟨image, himage, hboundImage⟩ := @findElement_bound _ _ _ _ hclosed hstep
    captcha.imageElement (by simp [BrowserFlowStep.elements])
  obtain ⟨input, hinput, hboundInput⟩ := @findElement_bound _ _ _ _ hclosed hstep
    captcha.inputElement (by simp [BrowserFlowStep.elements])
  rw [captchaRequest, himage, hinput]
  cases hrefresh : captcha.refreshElement with
  | none =>
      refine ⟨_, rfl, Carries.solveVisualCaptcha hboundImage hboundInput ?_ rfl⟩
      rw [hrefresh]
      exact Option.Rel.none
  | some refresh =>
      obtain ⟨element, helement, hboundRefresh⟩ := @findElement_bound _ _ _ _ hclosed hstep
        refresh (by simp [BrowserFlowStep.elements, hrefresh])
      simp only [boundRefresh, helement]
      refine ⟨_, rfl, Carries.solveVisualCaptcha hboundImage hboundInput ?_ rfl⟩
      rw [hrefresh]
      exact Option.Rel.some hboundRefresh

/-- The last call is made, and it is one that the step stands for. -/
theorem found_of_lastCall {call : SessionCall}
    (hlast : lastCall plan consumed step = .ok (some call))
    (hcarries : Carries catalog context step call) :
    ∃ call, lastCall plan consumed step = .ok call ∧
      ∀ last, call = some last → Carries catalog context step last := by
  refine ⟨some call, hlast, ?_⟩
  intro last hsome
  rwa [← Option.some.inj hsome]

/-- **A closed plan has what its steps ask for.** -/
theorem lastCall_of_closed (hclosed : PlanClosed catalog context plan)
    (hstep : step ∈ plan.flow.steps) {report : BrowserFlowExecutionStepReport}
    (hreport : dryRunStepReport plan step = .ok report) :
    ∃ call, lastCall plan consumed step = .ok call ∧
      ∀ last, call = some last → Carries catalog context step last := by
  have hpages := @findPage_bound _ _ _ _ hclosed hstep
  have helements := @findElement_bound _ _ _ _ hclosed hstep
  cases step with
  | navigate id url awaited =>
      cases awaited with
      | none =>
          exact found_of_lastCall rfl Carries.navigate
      | some pageId =>
          obtain ⟨page, hfind, hbound⟩ := hpages (List.mem_singleton.mpr rfl)
          exact found_of_lastCall (by rw [lastCall, hfind]; rfl) (Carries.awaited hbound)
  | click id elementId optional =>
      obtain ⟨element, hfind, hbound⟩ := helements (List.mem_singleton.mpr rfl)
      exact found_of_lastCall (by rw [lastCall, hfind]; rfl) (Carries.click hbound)
  | setInput id elementId value events =>
      obtain ⟨element, hfind, hbound⟩ := helements (List.mem_singleton.mpr rfl)
      exact found_of_lastCall (by rw [lastCall, hfind]; rfl) (Carries.setInput hbound)
  | invokeOperation id operationId =>
      obtain ⟨original, horiginal, operation, hsame, hbind, hfind⟩ :=
        hclosed.operations _ hstep operationId (List.mem_singleton.mpr rfl)
      exact found_of_lastCall (by rw [lastCall, hfind]; rfl)
        (Carries.invokeOperation ⟨original, horiginal, hsame, hbind⟩)
  | setFiles id elementId inputRef =>
      obtain ⟨element, hfind, hbound⟩ := helements (List.mem_singleton.mpr rfl)
      obtain ⟨paths, hpaths⟩ := inputFilePaths_of_report hreport
      cases paths with
      | none =>
          refine ⟨none, by rw [lastCall, hpaths]; rfl, ?_⟩
          intro last hlast
          cases hlast
      | some paths =>
          exact found_of_lastCall (by rw [lastCall, hpaths, hfind]; rfl) (Carries.setFiles hbound)
  | dispatchEvents id elementId events =>
      obtain ⟨element, hfind, hbound⟩ := helements (List.mem_singleton.mpr rfl)
      exact found_of_lastCall (by rw [lastCall, hfind]; rfl) (Carries.dispatchEvents hbound)
  | validateVisualLayout id targets instruction rules optional =>
      obtain ⟨bound, hmap, hall⟩ := @boundTargets _ _ _ _ hclosed hstep targets
        (fun target htarget => List.mem_map_of_mem htarget)
      exact found_of_lastCall (by rw [lastCall, hmap]; rfl) (Carries.validateVisualLayout hall)
  | solveVisualCaptcha id captcha =>
      obtain ⟨asked, hasked, hcarries⟩ := @captchaRequest_bound _ _ _ consumed hclosed _ _ hstep
      exact found_of_lastCall (by rw [lastCall, hasked]; rfl) hcarries
  | waitForRequest id requestId timeoutMs optional =>
      obtain ⟨original, horiginal, bound, hsame, hbind, hfind⟩ :=
        hclosed.requests _ hstep requestId (List.mem_singleton.mpr rfl)
      exact found_of_lastCall (by rw [lastCall, hfind]; rfl)
        (Carries.waitForRequest ⟨original, horiginal, hsame, hbind⟩)
  | waitForPage id pageId timeoutMs =>
      obtain ⟨page, hfind, hbound⟩ := hpages (List.mem_singleton.mpr rfl)
      exact found_of_lastCall (by rw [lastCall, hfind]; rfl) (Carries.waitForPage hbound)
  | wait id durationMs =>
      exact found_of_lastCall rfl Carries.wait

/-! ## Section 3: Executions -/

/-- What the end of a step and its calls have to do with the session. -/
structure StepSafe (catalog : BrowserFlowCatalog) (context : BrowserFlowBindingContext)
    (plan : BoundBrowserFlowPlan) (step : BrowserFlowStep) (trace : SessionTrace)
    (result : StepResult) : Prop where
  calls : ∀ event ∈ trace, Carries catalog context step event.1
  fails : ∀ error, result = .error error →
    (∃ call, trace.getLast? = some ⟨call, .error error⟩) ∨
    ∃ id elementId inputRef, step = .setFiles id elementId inputRef ∧
      plan.inputFilePaths inputRef = .error error

theorem leadCall_carries {call : SessionCall} (h : leadCall step = some call) :
    Carries catalog context step call := by
  cases step with
  | navigate id url awaited =>
      cases awaited with
      | none => cases h
      | some pageId =>
          cases h
          exact Carries.navigate
  | _ => cases h

theorem leadTrace_carries {event : Event Answer} (h : event ∈ leadTrace step) :
    Carries catalog context step event.1 := by
  obtain ⟨call, hcall, rfl⟩ := List.mem_map.mp h
  exact leadCall_carries (Option.mem_toList.mp hcall)

/-- A step that is answered fails only with the error of its answer. -/
theorem settle_error {report : BrowserFlowExecutionStepReport} {skips : BlobError → Option String}
    {answer : Except BlobError Unit} {error : BlobError}
    (h : settle report consumed skips answer = .error error) : answer = .error error := by
  cases answer with
  | ok value => cases h
  | error error' =>
      rw [settle] at h
      split at h
      · cases h
      · cases h
        rfl

/-- **Step lemma.** -/
theorem StepRuns.safe {trace : SessionTrace} {result : StepResult}
    (hclosed : PlanClosed catalog context plan) (hstep : step ∈ plan.flow.steps)
    (h : StepRuns plan consumed step trace result) :
    StepSafe catalog context plan step trace result := by
  cases h with
  | refused hreport =>
      constructor
      · intro event hevent
        cases hevent
      · intro error herror
        cases herror
        exact Or.inr (dryRunStepReport_error hreport)
  | leadFailed hreport hlead =>
      constructor
      · intro event hevent
        rw [List.mem_singleton.mp hevent]
        exact leadCall_carries hlead
      · intro error herror
        cases herror
        exact Or.inl ⟨_, rfl⟩
  | unresolved hreport hlast =>
      -- a closed plan resolves the last call of its steps
      obtain ⟨call, hcall, -⟩ := @lastCall_of_closed _ _ _ consumed _ hclosed hstep _ hreport
      rw [hcall] at hlast
      cases hlast
  | withoutFiles hreport hlast =>
      constructor
      · exact fun event hevent => leadTrace_carries hevent
      · intro error herror
        cases herror
  | @answered report call answer hreport hlast =>
      obtain ⟨last, hcall, hcarries⟩ :=
        @lastCall_of_closed _ _ _ consumed _ hclosed hstep _ hreport
      rw [hcall] at hlast
      cases hlast
      constructor
      · intro event hevent
        rcases List.mem_append.mp hevent with hlead | hlast
        · exact leadTrace_carries hlead
        · rw [List.mem_singleton.mp hlast]
          exact hcarries call rfl
      · intro error herror
        refine Or.inl ⟨call, ?_⟩
        rw [settle_error herror]
        simp

/-- **Run lemma.** -/
theorem StepsRun.safe {steps : List BrowserFlowStep} {trace : SessionTrace}
    {result : Except BlobError (List BrowserFlowExecutionStepReport)}
    (hclosed : PlanClosed catalog context plan) (hsteps : ∀ step ∈ steps, step ∈ plan.flow.steps)
    (h : StepsRun plan consumed steps trace result) :
    (∀ event ∈ trace, ∃ step ∈ steps, Carries catalog context step event.1) ∧
      ∀ error, result = .error error →
        (∃ call, trace.getLast? = some ⟨call, .error error⟩) ∨
        ∃ id elementId inputRef, .setFiles id elementId inputRef ∈ steps ∧
          plan.inputFilePaths inputRef = .error error := by
  induction h with
  | done =>
      constructor
      · intro event hevent
        cases hevent
      · intro error herror
        cases herror
  | @stopped consumed step steps trace error hstep =>
      have hsafe := hstep.safe hclosed (hsteps step List.mem_cons_self)
      constructor
      · intro event hevent
        exact ⟨step, List.mem_cons_self, hsafe.calls event hevent⟩
      · intro error' herror
        rcases hsafe.fails error' (by rw [Except.error.inj herror]) with
          hcall | ⟨id, elementId, inputRef, rfl, hpaths⟩
        · exact Or.inl hcall
        · exact Or.inr ⟨id, elementId, inputRef, List.mem_cons_self, hpaths⟩
  | @next consumed consumed' step steps first rest report result hstep hrest ih =>
      have hsafe := hstep.safe hclosed (hsteps step List.mem_cons_self)
      obtain ⟨hcalls, hfails⟩ := ih (fun other hother => hsteps other (List.mem_cons_of_mem _ hother))
      constructor
      · intro event hevent
        rcases List.mem_append.mp hevent with hfirst | hrest
        · exact ⟨step, List.mem_cons_self, hsafe.calls event hfirst⟩
        · obtain ⟨other, hother, hcarries⟩ := hcalls event hrest
          exact ⟨other, List.mem_cons_of_mem _ hother, hcarries⟩
      · intro error herror
        have hresult : result = .error error := by
          cases result with
          | error error' => exact herror
          | ok reports => cases herror
        rcases hfails error hresult with ⟨call, hlast⟩ | ⟨id, elementId, inputRef, hmem, hpaths⟩
        · refine Or.inl ⟨call, ?_⟩
          rw [List.getLast?_append, hlast]
          rfl
        · exact Or.inr ⟨id, elementId, inputRef, List.mem_cons_of_mem _ hmem, hpaths⟩

/-- **Safety of sessions.** For a flow of a validated catalog that binds, and whatever a session
answers: every call is one that a step of the flow stands for, with the elements, pages,
requests and operations of the catalog as they are bound; and an execution that fails ends with
the error of its last call, or with the one of an input that does not name files. -/
theorem execution_is_safe {flowId : String} {trace : SessionTrace}
    {result : Except BlobError BrowserFlowExecutionReport} (hvalid : catalog.validate = .ok ())
    (hbind : catalog.bindFlow flowId context = .ok plan)
    (hrun : Runs (execute plan) trace result) :
    (∀ event ∈ trace, ∃ step ∈ plan.flow.steps, Carries catalog context step event.1) ∧
      ∀ error, result = .error error →
        (∃ call, trace.getLast? = some ⟨call, .error error⟩) ∨
        ∃ id elementId inputRef, .setFiles id elementId inputRef ∈ plan.flow.steps ∧
          plan.inputFilePaths inputRef = .error error := by
  have hclosed := bindFlow_closed (validate_closed hvalid) hbind
  obtain ⟨steps, hsteps, rfl⟩ := stepsRun_of_execute hrun
  obtain ⟨hcalls, hfails⟩ := hsteps.safe hclosed (fun _ h => h)
  refine ⟨hcalls, ?_⟩
  intro error herror
  apply hfails error
  cases steps with
  | error error' =>
      cases herror
      rfl
  | ok reports => cases herror

end Closed

/-! ## Section 4: A catalog -/

/-- A login page with a field for a phone number, a button and a request for a code. -/
def sampleCatalog : BrowserFlowCatalog where
  schemaVersion := 1
  provider := "mobile"
  surface := "carrier-web"
  baseUrl := "https://yun.139.com"
  presets := ∅
  pages := [{ id := "login", title := "Login", urlPatterns := ["https://yun.139.com/login*"] }]
  elements := [
    { id := "phone", page := "login", role := "input", required := true, frame := none
      selectors := [⟨.css, "#phone", none, true⟩] },
    { id := "send", page := "login", role := "button", required := true, frame := none
      selectors := [⟨.css, "#send", none, true⟩] }]
  requests := [
    { id := "sms", method := "POST", urlPattern := "/sms/send", requiredHeaders := []
      requiredFields := ["mobile"], successCodes := [200] }]
  operations := []
  flows := [
    { id := "sms_request_code", title := "Request a code", purpose := "login"
      startPage := "login", prerequisiteFlowId := none, presetRefs := []
      inputs := [{ id := "phone", label := "Phone", required := true, transient := false
                   description := none }]
      steps := [
        .navigate "open" "https://yun.139.com/login" (some "login"),
        .setInput "type" "phone" "\x7b\x7binputs.phone\x7d\x7d" ["input"],
        .click "send" "send" false,
        .waitForRequest "wait" "sms" (some 5000) true]
      expectedRequests := ["sms"], outputs := [] }]

def sampleContext : BrowserFlowBindingContext where
  inputs := ValueMap.insert ∅ "phone" (.string "13800000000")
  runtime := ∅

theorem sampleCatalog_valid : sampleCatalog.validate = .ok () := by decide +kernel

theorem exists_ok_of_isOk {α : Type} {result : Except BlobError α} (h : result.isOk = true) :
    ∃ value, result = .ok value := by
  cases result with
  | error error => cases h
  | ok value => exact ⟨value, rfl⟩

theorem sampleCatalog_binds :
    ∃ plan, sampleCatalog.bindFlow "sms_request_code" sampleContext = .ok plan :=
  exists_ok_of_isOk (by decide +kernel)

/-- The calls of a session that accepts everything. -/
theorem sample_execution_is_safe :
    ∃ plan, sampleCatalog.bindFlow "sms_request_code" sampleContext = .ok plan ∧
      ∀ event ∈ (answered (fun _ => Except.ok ()) (execute plan)).1,
        ∃ step ∈ plan.flow.steps, Carries sampleCatalog sampleContext step event.1 := by
  obtain ⟨plan, hplan⟩ := sampleCatalog_binds
  exact ⟨plan, hplan, (execution_is_safe sampleCatalog_valid hplan (runs_answered _ _)).1⟩

end Netdisk2Blob.Flows
