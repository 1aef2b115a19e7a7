import Netdisk2Blob.Flows.Catalog

/-!
# Binding of Browser Flows

A flow is bound to the inputs and the runtime values of a run: the templates of the flow and of
everything it refers to are filled in, and what it refers to is put together in a plan.

## Contents

- `validateRequiredInputValues`, `bindFlowTemplates`, `bindElement`, `bindRequest`, ...
- `BrowserFlowStep.pages`, `.elements`, `.requests`, `.operations`: what a step refers to
- `BrowserFlowCatalog.bindFlow`: the plan
- `bindStep_references`: binding a step changes nothing of what it refers to
-/

namespace Netdisk2Blob.Flows

open Blob ControlPlane Library Text

/-! ## Section 1: Required inputs -/

def valueIsPresent : JsonValue → Bool
  | .null => false
  | .string value => !(trim value).isEmpty
  | .array values => !values.isEmpty
  | .object values => !values.isEmpty
  | .bool _ | .number _ => true

def validateRequiredInput (flow : BrowserFlow) (inputs : ValueMap) (input : BrowserFlowInput) :
    Except BlobError Unit :=
  if !input.required then .ok ()
  else
    match inputs.get input.id with
    | none => .error (.configuration
        s!"missing required browser flow input {input.id} for flow {flow.id}")
    | some value => ensure (valueIsPresent value = true)
        s!"required browser flow input {input.id} for flow {flow.id} must not be empty"

def validateRequiredInputValues (flow : BrowserFlow) (inputs : ValueMap) :
    Except BlobError Unit :=
  flow.inputs.forM (validateRequiredInput flow inputs)

/-! ## Section 2: Templates of the parts -/

/-- The template of a text that may be missing. -/
def bindOptionalTemplate (context : BrowserFlowBindingContext) :
    Option String → Except BlobError (Option String)
  | none => .ok none
  | some raw => do
    let text ← bindStringTemplate raw context
    .ok (some text)

def bindTemplates (context : BrowserFlowBindingContext) (raws : List String) :
    Except BlobError (List String) :=
  raws.mapM (fun raw => bindStringTemplate raw context)

def bindStep (context : BrowserFlowBindingContext) :
    BrowserFlowStep → Except BlobError BrowserFlowStep
  | .navigate id url waitForPage => do
    let url ← bindStringTemplate url context
    .ok (.navigate id url waitForPage)
  | .setInput id element valueTemplate events => do
    let valueTemplate ← bindStringTemplate valueTemplate context
    .ok (.setInput id element valueTemplate events)
  | .validateVisualLayout id targets instruction relationshipRules optional => do
    let instruction ← bindOptionalTemplate context instruction
    let relationshipRules ← bindTemplates context relationshipRules
    .ok (.validateVisualLayout id targets instruction relationshipRules optional)
  | .solveVisualCaptcha id captcha => do
    let fieldLabel ← bindOptionalTemplate context captcha.fieldLabel
    let placeholder ← bindOptionalTemplate context captcha.placeholder
    let instruction ← bindOptionalTemplate context captcha.instruction
    let llmSystemPrompt ← bindOptionalTemplate context captcha.llmSystemPrompt
    let llmPromptTemplate ← bindOptionalTemplate context captcha.llmPromptTemplate
    .ok (.solveVisualCaptcha id
      { captcha with fieldLabel := fieldLabel, placeholder := placeholder
                     instruction := instruction, llmSystemPrompt := llmSystemPrompt
                     llmPromptTemplate := llmPromptTemplate })
  | step => .ok step

/-- The frame and the source of an output; its fallback sources are not bound. -/
def bindOutput (context : BrowserFlowBindingContext) (output : BrowserFlowOutput) :
    Except BlobError BrowserFlowOutput := do
  let frame ← bindOptionalTemplate context output.frame
  let source ← bindStringTemplate output.source context
  .ok { output with frame := frame, source := source }

def bindFlowTemplates (context : BrowserFlowBindingContext) (flow : BrowserFlow) :
    Except BlobError BrowserFlow := do
  let steps ← flow.steps.mapM (bindStep context)
  let outputs ← flow.outputs.mapM (bindOutput context)
  .ok { flow with steps := steps, outputs := outputs }

def bindPage (context : BrowserFlowBindingContext) (page : BrowserFlowPage) :
    Except BlobError BrowserFlowPage := do
  let urlPatterns ← bindTemplates context page.urlPatterns
  .ok { page with urlPatterns := urlPatterns }

def bindSelector (context : BrowserFlowBindingContext) (selector : BrowserFlowSelector) :
    Except BlobError BrowserFlowSelector := do
  let value ← bindStringTemplate selector.value context
  let textContains ← bindOptionalTemplate context selector.textContains
  .ok { selector with value := value, textContains := textContains }

def bindElement (context : BrowserFlowBindingContext) (element : BrowserFlowElement) :
    Except BlobError BrowserFlowElement := do
  let frame ← bindOptionalTemplate context element.frame
  let selectors ← element.selectors.mapM (bindSelector context)
  .ok { element with frame := frame, selectors := selectors }

def bindHeader (context : BrowserFlowBindingContext) (header : BrowserFlowHeaderMatcher) :
    Except BlobError BrowserFlowHeaderMatcher := do
  let valueTemplate ← bindOptionalTemplate context header.valueTemplate
  .ok { header with valueTemplate := valueTemplate }

def bindRequest (context : BrowserFlowBindingContext) (request : BrowserFlowRequest) :
    Except BlobError BrowserFlowRequest := do
  let urlPattern ← bindStringTemplate request.urlPattern context
  let requiredHeaders ← request.requiredHeaders.mapM (bindHeader context)
  let requiredFields ← bindTemplates context request.requiredFields
  .ok { request with urlPattern := urlPattern, requiredHeaders := requiredHeaders
                     requiredFields := requiredFields }

def bindOperation (context : BrowserFlowBindingContext) (operation : BrowserFlowOperation) :
    Except BlobError BrowserFlowOperation := do
  let frame ← bindOptionalTemplate context operation.frame
  let source ← bindStringTemplate operation.source context
  .ok { operation with frame := frame, source := source }

/-! ## Section 3: What a flow refers to -/

def BrowserFlowStep.pages : BrowserFlowStep → List String
  | .navigate _ _ awaited => awaited.toList
  | .waitForPage _ page _ => [page]
  | _ => []

def BrowserFlowStep.elements : BrowserFlowStep → List String
  | .click _ element _ | .setInput _ element _ _ | .setFiles _ element _
  | .dispatchEvents _ element _ => [element]
  | .validateVisualLayout _ targets _ _ _ => targets.map (·.element)
  | .solveVisualCaptcha _ captcha =>
    captcha.imageElement :: captcha.inputElement :: captcha.refreshElement.toList
  | _ => []

def BrowserFlowStep.requests : BrowserFlowStep → List String
  | .waitForRequest _ request _ _ => [request]
  | _ => []

def BrowserFlowStep.operations : BrowserFlowStep → List String
  | .invokeOperation _ operation => [operation]
  | _ => []

/-- The request that a source of an output names; only `request_headers` may name it alone. -/
def sourceRequest (kind : BrowserFlowOutputKind) (source : String) : List String :=
  match splitOnce ':' source with
  | some (request, _) => if (trim request).isEmpty then [] else [trim request]
  | none =>
    if kind = .requestHeaders then if (trim source).isEmpty then [] else [trim source]
    else []

def BrowserFlowOutput.requests (output : BrowserFlowOutput) : List String :=
  match output.kind with
  | .requestHeader | .requestHeaders | .requestField =>
    (output.source :: output.fallbackSources).flatMap (sourceRequest output.kind)
  | _ => []

/-! ## Section 4: The plan -/

structure BoundBrowserFlowPlan where
  provider : String
  surface : String
  flow : BrowserFlow
  context : BrowserFlowBindingContext
  presets : ValueMap
  pages : List BrowserFlowPage
  elements : List BrowserFlowElement
  requests : List BrowserFlowRequest
  operations : List BrowserFlowOperation

/-- The loop over the preset references. -/
def bindPresets (catalog : BrowserFlowCatalog) (context : BrowserFlowBindingContext)
    (flow : BrowserFlow) (bound : ValueMap) : List String → Except BlobError ValueMap
  | [] => .ok bound
  | presetRef :: presetRefs =>
    match catalog.presets.get presetRef with
    | none => .error (.configuration s!"flow {flow.id} references unknown preset {presetRef}")
    | some value => do
      let value ← bindJsonValue context value
      bindPresets catalog context flow (bound.insert presetRef value) presetRefs

def BrowserFlowCatalog.bindFlow (catalog : BrowserFlowCatalog) (flowId : String)
    (context : BrowserFlowBindingContext) : Except BlobError BoundBrowserFlowPlan :=
  match catalog.findFlow flowId with
  | none => .error (.notFound s!"browser flow not found: {flowId}")
  | some flow => do
    validateRequiredInputValues flow context.inputs
    let boundFlow ← bindFlowTemplates context flow
    let elementIds := boundFlow.steps.flatMap (·.elements)
    let operationIds := boundFlow.steps.flatMap (·.operations)
    let requestIds := boundFlow.steps.flatMap (·.requests) ++ boundFlow.expectedRequests ++
      boundFlow.outputs.flatMap (·.requests)
    let presets ← bindPresets catalog context boundFlow ∅ boundFlow.presetRefs
    let elements ← (catalog.elements.filter (fun element => decide (element.id ∈ elementIds))).mapM
      (bindElement context)
    let operations ← (catalog.operations.filter
      (fun operation => decide (operation.id ∈ operationIds))).mapM (bindOperation context)
    let requests ← (catalog.requests.filter (fun request => decide (request.id ∈ requestIds))).mapM
      (bindRequest context)
    let pageIds := boundFlow.startPage :: boundFlow.steps.flatMap (·.pages) ++
      elements.map (·.page) ++ operations.flatMap (·.page.toList)
    let pages ← (catalog.pages.filter (fun page => decide (page.id ∈ pageIds))).mapM
      (bindPage context)
    .ok { provider := catalog.provider, surface := catalog.surface, flow := boundFlow
          context := context, presets := presets, pages := pages, elements := elements
          requests := requests, operations := operations }

namespace BoundBrowserFlowPlan

def findPage (plan : BoundBrowserFlowPlan) (pageId : String) : Option BrowserFlowPage :=
  plan.pages.find? (fun page => decide (page.id = pageId))

def findElement (plan : BoundBrowserFlowPlan) (elementId : String) : Option BrowserFlowElement :=
  plan.elements.find? (fun element => decide (element.id = elementId))

def findRequest (plan : BoundBrowserFlowPlan) (requestId : String) : Option BrowserFlowRequest :=
  plan.requests.find? (fun request => decide (request.id = requestId))

def findOperation (plan : BoundBrowserFlowPlan) (operationId : String) :
    Option BrowserFlowOperation :=
  plan.operations.find? (fun operation => decide (operation.id = operationId))

def findInput (plan : BoundBrowserFlowPlan) (inputId : String) : Option BrowserFlowInput :=
  plan.flow.inputs.find? (fun input => decide (input.id = inputId))

def inputValue (plan : BoundBrowserFlowPlan) (inputId : String) : Option JsonValue :=
  plan.context.inputs.get inputId

end BoundBrowserFlowPlan

/-- The paths of an array of them; blank ones are left out. -/
def arrayFilePaths (inputId : String) : List JsonValue → Except BlobError (List String)
  | [] => .ok []
  | .string path :: items => do
    let paths ← arrayFilePaths inputId items
    .ok (if (trim path).isEmpty then paths else path :: paths)
  | _ :: _ => .error (.configuration
      s!"browser flow file input {inputId} must contain only string paths")

def browserFlowFilePaths (inputId : String) : JsonValue → Except BlobError (Option (List String))
  | .null => .ok none
  | .string path => .ok (if (trim path).isEmpty then none else some [path])
  | .array items => do
    let paths ← arrayFilePaths inputId items
    .ok (if paths.isEmpty then none else some paths)
  | _ => .error (.configuration (s!"browser flow file input {inputId} must resolve to a " ++
      "string path or array of string paths"))

def BoundBrowserFlowPlan.inputFilePaths (plan : BoundBrowserFlowPlan) (inputId : String) :
    Except BlobError (Option (List String)) :=
  match plan.inputValue inputId with
  | none => .ok none
  | some value => browserFlowFilePaths inputId value

/-! ## Section 5: What binding leaves as it is -/

/-- A step keeps its id and kind, and refers to what it referred to. -/
theorem bindStep_references {context : BrowserFlowBindingContext} {step bound : BrowserFlowStep}
    (h : bindStep context step = .ok bound) :
    bound.id = step.id ∧ bound.kindName = step.kindName ∧ bound.pages = step.pages ∧
      bound.elements = step.elements ∧ bound.requests = step.requests ∧
      bound.operations = step.operations := by
  cases step with
  | navigate id url waitForPage =>
      obtain ⟨url, -, h⟩ := except_bind_ok.mp h
      cases h
      exact ⟨rfl, rfl, rfl, rfl, rfl, rfl⟩
  | setInput id element valueTemplate events =>
      obtain ⟨value, -, h⟩ := except_bind_ok.mp h
      cases h
      exact ⟨rfl, rfl, rfl, rfl, rfl, rfl⟩
  | validateVisualLayout id targets instruction rules optional =>
      obtain ⟨instruction, -, h⟩ := except_bind_ok.mp h
      obtain ⟨rules, -, h⟩ := except_bind_ok.mp h
      cases h
      exact ⟨rfl, rfl, rfl, rfl, rfl, rfl⟩
  | solveVisualCaptcha id captcha =>
      obtain ⟨label, -, h⟩ := except_bind_ok.mp h
      obtain ⟨placeholder, -, h⟩ := except_bind_ok.mp h
      obtain ⟨instruction, -, h⟩ := except_bind_ok.mp h
      obtain ⟨system, -, h⟩ := except_bind_ok.mp h
      obtain ⟨prompt, -, h⟩ := except_bind_ok.mp h
      cases h
      exact ⟨rfl, rfl, rfl, rfl, rfl, rfl⟩
  | _ =>
      cases h
      exact ⟨rfl, rfl, rfl, rfl, rfl, rfl⟩

section Keys

variable {context : BrowserFlowBindingContext}

theorem bindPage_id {page bound : BrowserFlowPage} (h : bindPage context page = .ok bound) :
    bound.id = page.id := by
  obtain ⟨patterns, -, h⟩ := except_bind_ok.mp h
  cases h
  rfl

theorem bindElement_id {element bound : BrowserFlowElement}
    (h : bindElement context element = .ok bound) :
    bound.id = element.id ∧ bound.page = element.page := by
  obtain ⟨frame, -, h⟩ := except_bind_ok.mp h
  obtain ⟨selectors, -, h⟩ := except_bind_ok.mp h
  cases h
  exact ⟨rfl, rfl⟩

theorem bindRequest_id {request bound : BrowserFlowRequest}
    (h : bindRequest context request = .ok bound) : bound.id = request.id := by
  obtain ⟨pattern, -, h⟩ := except_bind_ok.mp h
  obtain ⟨headers, -, h⟩ := except_bind_ok.mp h
  obtain ⟨fields, -, h⟩ := except_bind_ok.mp h
  cases h
  rfl

theorem bindOperation_id {operation bound : BrowserFlowOperation}
    (h : bindOperation context operation = .ok bound) : bound.id = operation.id := by
  obtain ⟨frame, -, h⟩ := except_bind_ok.mp h
  obtain ⟨source, -, h⟩ := except_bind_ok.mp h
  cases h
  rfl

end Keys

end Netdisk2Blob.Flows
