import Netdisk2Blob.Flows.Execution

/-!
# Steps of a Session

What a step of an execution can do, said once: it is refused by its dry run, it ends before its
last call, or its last call is answered.

## Contents

- `leadCall`, `lastCall`, `skipsOf`, `consumedBy`: a step by its parts
- `StepRuns`, `stepRuns_of_runs`: what a step can do
- `StepsRun`, `stepsRun_of_runs`: the steps of an execution, one after the other
-/

namespace Netdisk2Blob.Flows

open Blob ControlPlane Library Text
open Library.Program

/-! ## Section 1: The parts of a step -/

/-- The call before the last one: a page that is awaited is navigated to first. -/
def leadCall : BrowserFlowStep → Option SessionCall
  | .navigate _ url (some _) => some (.navigate url)
  | _ => none

/-- The last call of a step; files that are not there are not set. -/
def lastCall (plan : BoundBrowserFlowPlan) (consumed : List String) :
    BrowserFlowStep → Except BlobError (Option SessionCall)
  | .navigate _ url none => .ok (some (.navigate url))
  | .navigate _ _ (some pageId) => do
    let page ← boundReference plan "page" pageId (plan.findPage pageId)
    .ok (some (.waitForPage page none))
  | .click _ elementId _ => do
    let element ← boundReference plan "element" elementId (plan.findElement elementId)
    .ok (some (.click element))
  | .setInput _ elementId value events => do
    let element ← boundReference plan "element" elementId (plan.findElement elementId)
    .ok (some (.setInput element value events))
  | .invokeOperation _ operationId => do
    let operation ← boundReference plan "operation" operationId (plan.findOperation operationId)
    .ok (some (.invokeOperation operation))
  | .setFiles _ elementId inputRef => do
    match ← plan.inputFilePaths inputRef with
    | none => .ok none
    | some paths =>
      let element ← boundReference plan "element" elementId (plan.findElement elementId)
      .ok (some (.setFiles element paths))
  | .dispatchEvents _ elementId events => do
    let element ← boundReference plan "element" elementId (plan.findElement elementId)
    .ok (some (.dispatchEvents element events))
  | .validateVisualLayout _ targets instruction relationshipRules optional => do
    let targets ← targets.mapM (boundTarget plan)
    .ok (some (.validateVisualLayout
      { targets := targets, instruction := instruction
        relationshipRules := relationshipRules, optional := optional }))
  | .solveVisualCaptcha _ captcha => do
    let request ← captchaRequest plan consumed captcha
    .ok (some (.solveVisualCaptcha request))
  | .waitForRequest _ requestId timeoutMs _ => do
    let request ← boundReference plan "request" requestId (plan.findRequest requestId)
    .ok (some (.waitForRequest request timeoutMs))
  | .waitForPage _ pageId timeoutMs => do
    let page ← boundReference plan "page" pageId (plan.findPage pageId)
    .ok (some (.waitForPage page timeoutMs))
  | .wait _ durationMs => .ok (some (.wait durationMs))

/-- The failures of the last call that skip the step, with their reasons. -/
def skipsOf : BrowserFlowStep → BlobError → Option String
  | .click _ _ optional => skipsNotFound optional "optional_element_not_found"
  | .validateVisualLayout _ _ _ _ optional =>
    skipsNotImplemented optional "visual_validation_unavailable"
  | .solveVisualCaptcha _ captcha => skipsNotFound captcha.optional "optional_captcha_not_found"
  | .waitForRequest _ _ _ optional => skipsUpstream optional "optional_request_not_observed"
  | _ => skipsNever

/-- The inputs that are used up behind a call. -/
def consumedBy (plan : BoundBrowserFlowPlan) (consumed : List String) :
    SessionCall → Except BlobError Unit → List String
  | .solveVisualCaptcha asked, .ok () => consumedAfter plan consumed asked
  | _, _ => consumed

/-! ## Section 2: What a step can do -/

/-- The calls of an execution with their answers. -/
abbrev SessionTrace := List (Event Answer)

/-- The call before the last one, when it succeeded. -/
def leadTrace (step : BrowserFlowStep) : SessionTrace :=
  (leadCall step).toList.map (fun call => ⟨call, .ok ()⟩)

inductive StepRuns (plan : BoundBrowserFlowPlan) (consumed : List String)
    (step : BrowserFlowStep) : SessionTrace → StepResult → Prop where
  | refused {error : BlobError} (hreport : dryRunStepReport plan step = .error error) :
      StepRuns plan consumed step [] (.error error)
  | leadFailed {report : BrowserFlowExecutionStepReport} {call : SessionCall} {error : BlobError}
      (hreport : dryRunStepReport plan step = .ok report) (hlead : leadCall step = some call) :
      StepRuns plan consumed step [⟨call, .error error⟩] (.error error)
  | unresolved {report : BrowserFlowExecutionStepReport} {error : BlobError}
      (hreport : dryRunStepReport plan step = .ok report)
      (hlast : lastCall plan consumed step = .error error) :
      StepRuns plan consumed step (leadTrace step) (.error error)
  | withoutFiles {report : BrowserFlowExecutionStepReport}
      (hreport : dryRunStepReport plan step = .ok report)
      (hlast : lastCall plan consumed step = .ok none) :
      StepRuns plan consumed step (leadTrace step)
        (.ok (skipped report "missing_input", consumed))
  | answered {report : BrowserFlowExecutionStepReport} {call : SessionCall}
      {answer : Except BlobError Unit} (hreport : dryRunStepReport plan step = .ok report)
      (hlast : lastCall plan consumed step = .ok (some call)) :
      StepRuns plan consumed step (leadTrace step ++ [⟨call, answer⟩])
        (settle report (consumedBy plan consumed call answer) (skipsOf step) answer)

section Runs

variable {plan : BoundBrowserFlowPlan} {consumed : List String} {step : BrowserFlowStep}
  {trace : SessionTrace} {result : StepResult} {report : BrowserFlowExecutionStepReport}

theorem runs_perform {call : SessionCall} {skips : BlobError → Option String} :
    Runs (perform call report consumed skips) trace result ↔
      ∃ answer, trace = [⟨call, answer⟩] ∧ result = settle report consumed skips answer := by
  rw [perform, runs_bind]
  constructor
  · rintro ⟨answer, first, rest, rfl, hcall, rfl, rfl⟩
    rw [runs_issue.mp hcall]
    exact ⟨answer, rfl, rfl⟩
  · rintro ⟨answer, rfl, rfl⟩
    exact ⟨answer, [_], [], rfl, runs_issue.mpr rfl, rfl, rfl⟩

/-- A step whose only call needs one part that the plan may have. -/
theorem stepRuns_of_single {α : Type} {value : Except BlobError α} {call : α → SessionCall}
    (hreport : dryRunStepReport plan step = .ok report) (hlead : leadCall step = none)
    (hlast : lastCall plan consumed step = (value >>= fun a => .ok (some (call a))))
    (hconsumed : ∀ a answer, consumedBy plan consumed (call a) answer = consumed)
    (h : Runs (lift value (fun a => perform (call a) report consumed (skipsOf step))) trace
      result) : StepRuns plan consumed step trace result := by
  have hnil : leadTrace step = [] := by rw [leadTrace, hlead]; rfl
  rcases runs_andThen_pure.mp h with ⟨error, rfl, rfl, rfl⟩ | ⟨a, rfl, h⟩
  · rw [← hnil]
    exact StepRuns.unresolved hreport hlast
  · obtain ⟨answer, rfl, rfl⟩ := runs_perform.mp h
    have hanswered := @StepRuns.answered plan consumed step report (call a) answer hreport hlast
    rwa [hnil, hconsumed] at hanswered

/-- **Inversion of a step.** -/
theorem stepRuns_of_runs (h : Runs (executeSessionStep plan consumed step) trace result) :
    StepRuns plan consumed step trace result := by
  rcases runs_andThen_pure.mp h with ⟨error, hreport, rfl, rfl⟩ | ⟨report, hreport, h⟩
  · exact StepRuns.refused hreport
  cases step with
  | navigate id url awaited =>
      cases awaited with
      | none =>
          obtain ⟨answer, rfl, rfl⟩ := runs_perform.mp h
          exact @StepRuns.answered _ _ _ _ (.navigate url) _ hreport rfl
      | some pageId =>
          rcases runs_andThen.mp h with
            ⟨error, hcall, rfl⟩ | ⟨_, first, rest, rfl, hcall, h⟩
          · rw [runs_issue.mp hcall]
            exact StepRuns.leadFailed hreport rfl
          · rw [runs_issue.mp hcall]
            -- the page is looked up behind the navigation
            rcases runs_andThen_pure.mp h with ⟨error, hpage, rfl, rfl⟩ | ⟨page, hpage, h⟩
            · refine StepRuns.unresolved hreport ?_
              rw [lastCall, hpage]
              rfl
            · obtain ⟨answer, rfl, rfl⟩ := runs_perform.mp h
              refine @StepRuns.answered _ _ _ _ (.waitForPage page none) _ hreport ?_
              rw [lastCall, hpage]
              rfl
  | click id elementId optional =>
      exact stepRuns_of_single hreport rfl rfl (fun _ _ => rfl) h
  | setInput id elementId value events =>
      exact stepRuns_of_single hreport rfl rfl (fun _ _ => rfl) h
  | invokeOperation id operationId =>
      exact stepRuns_of_single hreport rfl rfl (fun _ _ => rfl) h
  | setFiles id elementId inputRef =>
      rcases runs_andThen_pure.mp h with ⟨error, hpaths, rfl, rfl⟩ | ⟨paths, hpaths, h⟩
      · have hlast : lastCall plan consumed (.setFiles id elementId inputRef) = .error error := by
          rw [lastCall, hpaths]
          rfl
        exact StepRuns.unresolved hreport hlast
      · cases paths with
        | none =>
            obtain ⟨rfl, rfl⟩ := h
            refine StepRuns.withoutFiles hreport ?_
            rw [lastCall, hpaths]
            rfl
        | some paths =>
            refine stepRuns_of_single hreport rfl ?_ (fun _ _ => rfl) h
            rw [lastCall, hpaths]
            rfl
  | dispatchEvents id elementId events =>
      exact stepRuns_of_single hreport rfl rfl (fun _ _ => rfl) h
  | validateVisualLayout id targets instruction rules optional =>
      exact stepRuns_of_single hreport rfl rfl (fun _ _ => rfl) h
  | solveVisualCaptcha id captcha =>
      rcases runs_andThen_pure.mp h with ⟨error, hrequest, rfl, rfl⟩ | ⟨request, hrequest, h⟩
      · refine StepRuns.unresolved hreport ?_
        rw [lastCall, hrequest]
        rfl
      · obtain ⟨answer, first, rest, rfl, hcall, rfl, rfl⟩ := runs_bind.mp h
        rw [runs_issue.mp hcall]
        have hlast : lastCall plan consumed (.solveVisualCaptcha id captcha) =
            .ok (some (.solveVisualCaptcha request)) := by
          rw [lastCall, hrequest]
          rfl
        have hanswered := @StepRuns.answered _ _ _ _ _ answer hreport hlast
        cases answer with
        | ok value => exact hanswered
        | error error => exact hanswered
  | waitForRequest id requestId timeoutMs optional =>
      exact stepRuns_of_single hreport rfl rfl (fun _ _ => rfl) h
  | waitForPage id pageId timeoutMs =>
      exact stepRuns_of_single hreport rfl rfl (fun _ _ => rfl) h
  | wait id durationMs =>
      obtain ⟨answer, rfl, rfl⟩ := runs_perform.mp h
      exact @StepRuns.answered _ _ _ _ (.wait durationMs) _ hreport rfl

end Runs

/-! ## Section 3: The steps of an execution -/

/-- One step after the other; a step that fails is the last one. -/
inductive StepsRun (plan : BoundBrowserFlowPlan) : List String → List BrowserFlowStep →
    SessionTrace → Except BlobError (List BrowserFlowExecutionStepReport) → Prop where
  | done {consumed : List String} : StepsRun plan consumed [] [] (.ok [])
  | stopped {consumed : List String} {step : BrowserFlowStep} {steps : List BrowserFlowStep}
      {trace : SessionTrace} {error : BlobError}
      (hstep : StepRuns plan consumed step trace (.error error)) :
      StepsRun plan consumed (step :: steps) trace (.error error)
  | next {consumed consumed' : List String} {step : BrowserFlowStep}
      {steps : List BrowserFlowStep} {first rest : SessionTrace}
      {report : BrowserFlowExecutionStepReport}
      {result : Except BlobError (List BrowserFlowExecutionStepReport)}
      (hstep : StepRuns plan consumed step first (.ok (report, consumed')))
      (hrest : StepsRun plan consumed' steps rest result) :
      StepsRun plan consumed (step :: steps) (first ++ rest) (result.map (report :: ·))

theorem stepsRun_of_runs {plan : BoundBrowserFlowPlan} {consumed : List String}
    {steps : List BrowserFlowStep} {trace : SessionTrace}
    {result : Except BlobError (List BrowserFlowExecutionStepReport)}
    (h : Runs (executeSteps plan consumed steps) trace result) :
    StepsRun plan consumed steps trace result := by
  induction steps generalizing consumed trace result with
  | nil =>
      obtain ⟨rfl, rfl⟩ := h
      exact StepsRun.done
  | cons step steps ih =>
      rcases runs_andThen.mp h with ⟨error, hstep, rfl⟩ | ⟨done, first, rest, rfl, hstep, h⟩
      · exact StepsRun.stopped (stepRuns_of_runs hstep)
      · have hdone := stepRuns_of_runs hstep
        rcases runs_andThen.mp h with
          ⟨error, hrest, rfl⟩ | ⟨reports, second, last, rfl, hrest, rfl, rfl⟩
        · exact StepsRun.next hdone (ih hrest)
        · rw [List.append_nil]
          exact StepsRun.next hdone (ih hrest)

/-- **Inversion of an execution.** -/
theorem stepsRun_of_execute {plan : BoundBrowserFlowPlan} {trace : SessionTrace}
    {result : Except BlobError BrowserFlowExecutionReport} (h : Runs (execute plan) trace result) :
    ∃ steps, StepsRun plan [] plan.flow.steps trace steps ∧
      result = steps.map (executionReport .session plan) := by
  rcases runs_andThen.mp h with ⟨error, hsteps, rfl⟩ | ⟨steps, first, rest, rfl, hsteps, rfl, rfl⟩
  · exact ⟨.error error, stepsRun_of_runs hsteps, rfl⟩
  · rw [List.append_nil]
    exact ⟨.ok steps, stepsRun_of_runs hsteps, rfl⟩

end Netdisk2Blob.Flows
