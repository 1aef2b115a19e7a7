import Netdisk2Blob.Flows.Binding
import Netdisk2Blob.Library.Traces

/-!
# Execution of Browser Flows

A plan is executed step by step, either as a dry run, which only reports, or against a session
with a browser. A session step starts from the report of the dry run and then makes its calls.

## Contents

- `dryRunStepReport`, `dryRun`
- `SessionCall`: what a session is asked to do
- `executeSessionStep`, `execute`
-/

namespace Netdisk2Blob.Flows

open Blob ControlPlane Library Text
open Library.Program

/-! ## Section 1: Reports -/

inductive BrowserFlowExecutionMode where
  | dryRun
  | session
  deriving DecidableEq, Repr

inductive BrowserFlowExecutionStepStatus where
  | planned
  | succeeded
  | failed
  | skipped
  deriving DecidableEq, Repr

structure BrowserFlowExecutionStepReport where
  stepId : String
  stepKind : String
  status : BrowserFlowExecutionStepStatus
  detail : ValueMap

structure BrowserFlowExecutionReport where
  mode : BrowserFlowExecutionMode
  provider : String
  surface : String
  flowId : String
  stepCount : Nat
  expectedRequests : List String
  steps : List BrowserFlowExecutionStepReport

/-! ## Section 2: The dry run -/

def strings (values : List String) : JsonValue := .array (values.map .string)

def number (value : Nat) : JsonValue := .number (toString value)

/-- The entry for a value that may be missing. -/
def ValueMap.insertIfPresent (map : ValueMap) (key : String) (value : Option JsonValue) : ValueMap :=
  match value with
  | none => map
  | some value => map.insert key value

def visualTargetValue (target : BrowserFlowVisualLayoutTarget) : JsonValue :=
  .object [("element", .string target.element), ("required", .bool target.required),
    ("role", .string target.role)]

def captchaDetail (plan : BoundBrowserFlowPlan) (captcha : BrowserFlowVisualCaptcha) : ValueMap :=
  let detail : ValueMap := ∅
  let detail := detail.insert "image_element" (.string captcha.imageElement)
  let detail := detail.insert "input_element" (.string captcha.inputElement)
  let detail := detail.insert "input_id" (.string captcha.inputId)
  let detail := detail.insert "optional" (.bool captcha.optional)
  let detail := detail.insert "dispatch_events" (strings captcha.dispatchEvents)
  let detail := detail.insert "manual_value_present"
    (.bool ((plan.inputValue captcha.inputId).any valueIsPresent))
  let detail := detail.insertIfPresent "field_label" (captcha.fieldLabel.map .string)
  let detail := detail.insertIfPresent "placeholder" (captcha.placeholder.map .string)
  let detail := detail.insertIfPresent "instruction" (captcha.instruction.map .string)
  let detail := detail.insertIfPresent "llm_system_prompt" (captcha.llmSystemPrompt.map .string)
  let detail := detail.insertIfPresent "llm_prompt_template"
    (captcha.llmPromptTemplate.map .string)
  let detail := detail.insertIfPresent "expected_length" (captcha.expectedLength.map number)
  let detail := detail.insertIfPresent "refresh_element" (captcha.refreshElement.map .string)
  detail.insertIfPresent "max_attempts" (captcha.maxAttempts.map number)

def operationDetail (operation : BrowserFlowOperation) (detail : ValueMap) : ValueMap :=
  let detail := detail.insert "operation_kind" (.string "javascript")
  let detail := detail.insertIfPresent "page" (operation.page.map .string)
  detail.insert "source_present" (.bool (!(trim operation.source).isEmpty))

def requestDetail (request : BrowserFlowRequest) (detail : ValueMap) : ValueMap :=
  let detail := detail.insert "request_method" (.string request.method)
  detail.insert "request_url_pattern" (.string request.urlPattern)

def dryRunDetail (plan : BoundBrowserFlowPlan) (step : BrowserFlowStep) :
    Except BlobError ValueMap :=
  let detail : ValueMap := ∅
  match step with
  | .navigate _ url awaited =>
    let detail := detail.insert "url" (.string url)
    .ok (detail.insertIfPresent "wait_for_page" (awaited.map .string))
  | .click _ element optional =>
    let detail := detail.insert "element" (.string element)
    .ok (detail.insert "optional" (.bool optional))
  | .setInput _ element valueTemplate events =>
    let detail := detail.insert "element" (.string element)
    let detail := detail.insert "value_present" (.bool (valueIsPresent (.string valueTemplate)))
    .ok (detail.insert "dispatch_events" (strings events))
  | .invokeOperation _ operation =>
    let detail := detail.insert "operation" (.string operation)
    match plan.findOperation operation with
    | none => .ok detail
    | some bound => .ok (operationDetail bound detail)
  | .setFiles _ element inputRef => do
    let filePaths ← plan.inputFilePaths inputRef
    let detail := detail.insert "element" (.string element)
    let detail := detail.insert "input_ref" (.string inputRef)
    let detail := detail.insert "input_present" (.bool filePaths.isSome)
    .ok (detail.insertIfPresent "file_count" (filePaths.map (fun paths => number paths.length)))
  | .dispatchEvents _ element events =>
    let detail := detail.insert "element" (.string element)
    .ok (detail.insert "events" (strings events))
  | .validateVisualLayout _ targets instruction relationshipRules optional =>
    let detail := detail.insert "optional" (.bool optional)
    let detail := detail.insert "targets" (.array (targets.map visualTargetValue))
    let detail := detail.insertIfPresent "instruction" (instruction.map .string)
    .ok (if relationshipRules.isEmpty then detail
      else detail.insert "relationship_rules" (strings relationshipRules))
  | .solveVisualCaptcha _ captcha => .ok (captchaDetail plan captcha)
  | .waitForRequest _ requestId timeoutMs optional =>
    let detail := detail.insert "request" (.string requestId)
    let detail := match plan.findRequest requestId with
      | none => detail
      | some bound => requestDetail bound detail
    let detail := detail.insertIfPresent "timeout_ms" (timeoutMs.map number)
    .ok (detail.insert "optional" (.bool optional))
  | .waitForPage _ page timeoutMs =>
    let detail := detail.insert "page" (.string page)
    .ok (detail.insertIfPresent "timeout_ms" (timeoutMs.map number))
  | .wait _ durationMs => .ok (detail.insert "duration_ms" (number durationMs))

def dryRunStepReport (plan : BoundBrowserFlowPlan) (step : BrowserFlowStep) :
    Except BlobError BrowserFlowExecutionStepReport := do
  let detail ← dryRunDetail plan step
  .ok { stepId := step.id, stepKind := step.kindName, status := .planned, detail := detail }

/-- The report of an execution with the given reports of its steps. -/
def executionReport (mode : BrowserFlowExecutionMode) (plan : BoundBrowserFlowPlan)
    (steps : List BrowserFlowExecutionStepReport) : BrowserFlowExecutionReport where
  mode := mode
  provider := plan.provider
  surface := plan.surface
  flowId := plan.flow.id
  stepCount := steps.length
  expectedRequests := plan.flow.expectedRequests
  steps := steps

/-- `DryRunBrowserFlowExecutor::execute`. -/
def dryRun (plan : BoundBrowserFlowPlan) : Except BlobError BrowserFlowExecutionReport := do
  let steps ← plan.flow.steps.mapM (dryRunStepReport plan)
  .ok (executionReport .dryRun plan steps)

/-! ## Section 3: Sessions -/

structure BrowserFlowVisualLayoutValidationTargetRequest where
  element : BrowserFlowElement
  role : String
  required : Bool
  deriving DecidableEq, Repr

structure BrowserFlowVisualLayoutValidationRequest where
  targets : List BrowserFlowVisualLayoutValidationTargetRequest
  instruction : Option String
  relationshipRules : List String
  optional : Bool
  deriving DecidableEq, Repr

structure BrowserFlowVisualCaptchaRequest where
  imageElement : BrowserFlowElement
  inputElement : BrowserFlowElement
  refreshElement : Option BrowserFlowElement
  inputId : String
  manualValue : Option String
  fieldLabel : Option String
  placeholder : Option String
  dispatchEvents : List String
  instruction : Option String
  expectedLength : Option Nat
  llmSystemPrompt : Option String
  llmPromptTemplate : Option String
  optional : Bool
  maxAttempts : Option Nat
  deriving DecidableEq, Repr

/-- The calls of `BrowserFlowSession`. -/
inductive SessionCall where
  | navigate (url : String)
  | click (element : BrowserFlowElement)
  | setInput (element : BrowserFlowElement) (value : String) (dispatchEvents : List String)
  | invokeOperation (operation : BrowserFlowOperation)
  | setFiles (element : BrowserFlowElement) (paths : List String)
  | dispatchEvents (element : BrowserFlowElement) (events : List String)
  | validateVisualLayout (request : BrowserFlowVisualLayoutValidationRequest)
  | solveVisualCaptcha (request : BrowserFlowVisualCaptchaRequest)
  | waitForRequest (request : BrowserFlowRequest) (timeoutMs : Option Nat)
  | waitForPage (page : BrowserFlowPage) (timeoutMs : Option Nat)
  | wait (durationMs : Nat)
  deriving DecidableEq, Repr

/-- Every call succeeds or fails. -/
abbrev Answer (_ : SessionCall) : Type := Except BlobError Unit

abbrev SessionProgram (α : Type) := Program SessionCall Answer α

def missingBoundReference (kind id flowId : String) : BlobError :=
  .configuration s!"bound browser flow {flowId} is missing referenced {kind} {id}"

/-- What a step refers to, or the error that it is missing. -/
def boundReference {α : Type} (plan : BoundBrowserFlowPlan) (kind id : String)
    (found : Option α) : Except BlobError α :=
  match found with
  | none => .error (missingBoundReference kind id plan.flow.id)
  | some value => .ok value

/-- The report and the inputs that are used up. -/
abbrev StepResult := Except BlobError (BrowserFlowExecutionStepReport × List String)

def succeeded (report : BrowserFlowExecutionStepReport) : BrowserFlowExecutionStepReport :=
  { report with status := .succeeded }

def skipped (report : BrowserFlowExecutionStepReport) (reason : String) :
    BrowserFlowExecutionStepReport :=
  { report with status := .skipped
                detail := report.detail.insert "skip_reason" (.string reason) }

/-- The end of a step by the answer to its call: a failure may be a reason to skip the step. -/
def settle (report : BrowserFlowExecutionStepReport) (consumed : List String)
    (skips : BlobError → Option String) : Except BlobError Unit → StepResult
  | .ok () => .ok (succeeded report, consumed)
  | .error error =>
    match skips error with
    | some reason => .ok (skipped report reason, consumed)
    | none => .error error

/-- The last call of a step. -/
def perform (call : SessionCall) (report : BrowserFlowExecutionStepReport)
    (consumed : List String) (skips : BlobError → Option String) : SessionProgram StepResult :=
  (issue call).bind (fun answer => .pure (settle report consumed skips answer))

/-- A failure ends the execution. -/
def skipsNever (_ : BlobError) : Option String := none

def skipsNotFound (optional : Bool) (reason : String) : BlobError → Option String
  | .notFound _ => if optional then some reason else none
  | _ => none

def skipsNotImplemented (optional : Bool) (reason : String) : BlobError → Option String
  | .notImplemented _ => if optional then some reason else none
  | _ => none

def skipsUpstream (optional : Bool) (reason : String) : BlobError → Option String
  | .upstream _ => if optional then some reason else none
  | _ => none

def boundTarget (plan : BoundBrowserFlowPlan) (target : BrowserFlowVisualLayoutTarget) :
    Except BlobError BrowserFlowVisualLayoutValidationTargetRequest := do
  let element ← boundReference plan "element" target.element (plan.findElement target.element)
  .ok { element := element, role := target.role, required := target.required }

def inputIsTransient (plan : BoundBrowserFlowPlan) (inputId : String) : Bool :=
  (plan.findInput inputId).any (·.transient)

/-- The value that is given for a captcha; a transient one is not given again. -/
def manualValue (plan : BoundBrowserFlowPlan) (consumed : List String) (inputId : String) :
    Option String :=
  if inputIsTransient plan inputId = true ∧ inputId ∈ consumed then none
  else
    match plan.inputValue inputId with
    | some (.string value) => if (trim value).isEmpty then none else some (trim value)
    | _ => none

/-- The element that a captcha may be refreshed with. -/
def boundRefresh (plan : BoundBrowserFlowPlan) :
    Option String → Except BlobError (Option BrowserFlowElement)
  | none => .ok none
  | some id => (boundReference plan "element" id (plan.findElement id)).map some

def captchaRequest (plan : BoundBrowserFlowPlan) (consumed : List String)
    (captcha : BrowserFlowVisualCaptcha) : Except BlobError BrowserFlowVisualCaptchaRequest := do
  let imageElement ← boundReference plan "element" captcha.imageElement
    (plan.findElement captcha.imageElement)
  let inputElement ← boundReference plan "element" captcha.inputElement
    (plan.findElement captcha.inputElement)
  let refreshElement ← boundRefresh plan captcha.refreshElement
  .ok { imageElement := imageElement, inputElement := inputElement
        refreshElement := refreshElement, inputId := captcha.inputId
        manualValue := manualValue plan consumed captcha.inputId
        fieldLabel := captcha.fieldLabel, placeholder := captcha.placeholder
        dispatchEvents := captcha.dispatchEvents, instruction := captcha.instruction
        expectedLength := captcha.expectedLength, llmSystemPrompt := captcha.llmSystemPrompt
        llmPromptTemplate := captcha.llmPromptTemplate, optional := captcha.optional
        maxAttempts := captcha.maxAttempts }

/-- The inputs that are used up behind a captcha that was solved. -/
def consumedAfter (plan : BoundBrowserFlowPlan) (consumed : List String)
    (request : BrowserFlowVisualCaptchaRequest) : List String :=
  if inputIsTransient plan request.inputId = true ∧ request.manualValue.isSome = true then
    request.inputId :: consumed
  else consumed

/-- A part of a step that makes no call. -/
def lift {α β : Type} (value : Except BlobError α)
    (next : α → SessionProgram (Except BlobError β)) : SessionProgram (Except BlobError β) :=
  (.pure value : SessionProgram (Except BlobError α)).andThen next

/-- The `match` of `execute_session_step`. -/
def sessionStep (plan : BoundBrowserFlowPlan) (consumed : List String)
    (report : BrowserFlowExecutionStepReport) : BrowserFlowStep → SessionProgram StepResult
  | .navigate _ url awaited =>
    match awaited with
    | none => perform (.navigate url) report consumed skipsNever
    | some pageId =>
      (issue (.navigate url)).andThen (fun _ =>
        lift (boundReference plan "page" pageId (plan.findPage pageId)) (fun page =>
          perform (.waitForPage page none) report consumed skipsNever))
  | .click _ elementId optional =>
    lift (boundReference plan "element" elementId (plan.findElement elementId)) (fun element =>
      perform (.click element) report consumed
        (skipsNotFound optional "optional_element_not_found"))
  | .setInput _ elementId value events =>
    lift (boundReference plan "element" elementId (plan.findElement elementId)) (fun element =>
      perform (.setInput element value events) report consumed skipsNever)
  | .invokeOperation _ operationId =>
    lift (boundReference plan "operation" operationId (plan.findOperation operationId))
      (fun operation => perform (.invokeOperation operation) report consumed skipsNever)
  | .setFiles _ elementId inputRef =>
    lift (plan.inputFilePaths inputRef) (fun
      | none => .pure (.ok (skipped report "missing_input", consumed))
      | some paths =>
        lift (boundReference plan "element" elementId (plan.findElement elementId))
          (fun element => perform (.setFiles element paths) report consumed skipsNever))
  | .dispatchEvents _ elementId events =>
    lift (boundReference plan "element" elementId (plan.findElement elementId)) (fun element =>
      perform (.dispatchEvents element events) report consumed skipsNever)
  | .validateVisualLayout _ targets instruction relationshipRules optional =>
    lift (targets.mapM (boundTarget plan)) (fun targets =>
      perform (.validateVisualLayout
          { targets := targets, instruction := instruction
            relationshipRules := relationshipRules, optional := optional }) report consumed
        (skipsNotImplemented optional "visual_validation_unavailable"))
  | .solveVisualCaptcha _ captcha =>
    lift (captchaRequest plan consumed captcha) (fun request =>
      (issue (.solveVisualCaptcha request)).bind (fun answer =>
        .pure (settle report
          (if answer.isOk then consumedAfter plan consumed request else consumed)
          (skipsNotFound captcha.optional "optional_captcha_not_found") answer)))
  | .waitForRequest _ requestId timeoutMs optional =>
    lift (boundReference plan "request" requestId (plan.findRequest requestId)) (fun request =>
      perform (.waitForRequest request timeoutMs) report consumed
        (skipsUpstream optional "optional_request_not_observed"))
  | .waitForPage _ pageId timeoutMs =>
    lift (boundReference plan "page" pageId (plan.findPage pageId)) (fun page =>
      perform (.waitForPage page timeoutMs) report consumed skipsNever)
  | .wait _ durationMs => perform (.wait durationMs) report consumed skipsNever

def executeSessionStep (plan : BoundBrowserFlowPlan) (consumed : List String)
    (step : BrowserFlowStep) : SessionProgram StepResult :=
  lift (dryRunStepReport plan step) (fun report => sessionStep plan consumed report step)

/-- The loop over the steps. -/
def executeSteps (plan : BoundBrowserFlowPlan) (consumed : List String) :
    List BrowserFlowStep → SessionProgram (Except BlobError (List BrowserFlowExecutionStepReport))
  | [] => .pure (.ok [])
  | step :: steps =>
    (executeSessionStep plan consumed step).andThen (fun done =>
      (executeSteps plan done.2 steps).andThen (fun reports => .pure (.ok (done.1 :: reports))))

/-- `BrowserFlowSessionExecutor::execute`. -/
def execute (plan : BoundBrowserFlowPlan) :
    SessionProgram (Except BlobError BrowserFlowExecutionReport) :=
  (executeSteps plan [] plan.flow.steps).andThen (fun steps =>
    .pure (.ok (executionReport .session plan steps)))

end Netdisk2Blob.Flows
