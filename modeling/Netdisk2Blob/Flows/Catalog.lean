import Netdisk2Blob.Flows.Templates

/-!
# Browser Flow Catalogs

A catalog describes the web surface of a provider: its pages, the elements on them, the requests
it makes, the operations that are carried out on it, and the flows that are run against it. Flows
refer to all of these by their ids, and to other flows that must have run before.

## Contents

- `BrowserFlowCatalog` and what it is made of
- `ensureNonEmpty`, `collectUniqueIds`: the checks that recur
- `checkPrerequisites`: the walk along the prerequisites of a flow
- `BrowserFlowCatalog.validate`
-/

namespace Netdisk2Blob.Flows

open Blob ControlPlane Library Text

/-! ## Section 1: Catalogs -/

structure BrowserFlowPage where
  id : String
  title : String
  urlPatterns : List String
  deriving DecidableEq, Repr

inductive BrowserFlowSelectorEngine where
  | css
  | xpath
  | javascript
  deriving DecidableEq, Repr

structure BrowserFlowSelector where
  engine : BrowserFlowSelectorEngine
  value : String
  textContains : Option String
  visible : Bool
  deriving DecidableEq, Repr

structure BrowserFlowElement where
  id : String
  page : String
  role : String
  required : Bool
  frame : Option String
  selectors : List BrowserFlowSelector
  deriving DecidableEq, Repr

structure BrowserFlowHeaderMatcher where
  name : String
  valueTemplate : Option String
  required : Bool
  deriving DecidableEq, Repr

structure BrowserFlowRequest where
  id : String
  method : String
  urlPattern : String
  requiredHeaders : List BrowserFlowHeaderMatcher
  requiredFields : List String
  successCodes : List Nat
  deriving DecidableEq, Repr

/-- An operation; its kind is always `javascript`. -/
structure BrowserFlowOperation where
  id : String
  page : Option String
  frame : Option String
  source : String
  deriving DecidableEq, Repr

structure BrowserFlowInput where
  id : String
  label : String
  required : Bool
  transient : Bool
  description : Option String
  deriving DecidableEq, Repr

inductive BrowserFlowOutputKind where
  | requestHeader
  | requestHeaders
  | requestField
  | responseField
  | scriptValue
  | url
  | domText
  deriving DecidableEq, Repr

structure BrowserFlowOutput where
  id : String
  kind : BrowserFlowOutputKind
  frame : Option String
  source : String
  fallbackSources : List String
  headerNames : List String
  requiredForPrerequisite : Bool
  description : Option String
  deriving DecidableEq, Repr

structure BrowserFlowVisualLayoutTarget where
  element : String
  role : String
  required : Bool
  deriving DecidableEq, Repr

/-- The fields of a `SolveVisualCaptcha` step. -/
structure BrowserFlowVisualCaptcha where
  imageElement : String
  inputElement : String
  inputId : String
  fieldLabel : Option String
  placeholder : Option String
  dispatchEvents : List String
  instruction : Option String
  expectedLength : Option Nat
  llmSystemPrompt : Option String
  llmPromptTemplate : Option String
  refreshElement : Option String
  optional : Bool
  maxAttempts : Option Nat
  deriving DecidableEq, Repr

inductive BrowserFlowStep where
  | navigate (id url : String) (waitForPage : Option String)
  | click (id element : String) (optional : Bool)
  | setInput (id element valueTemplate : String) (dispatchEvents : List String)
  | invokeOperation (id operation : String)
  | setFiles (id element inputRef : String)
  | dispatchEvents (id element : String) (events : List String)
  | validateVisualLayout (id : String) (targets : List BrowserFlowVisualLayoutTarget)
      (instruction : Option String) (relationshipRules : List String) (optional : Bool)
  | solveVisualCaptcha (id : String) (captcha : BrowserFlowVisualCaptcha)
  | waitForRequest (id request : String) (timeoutMs : Option Nat) (optional : Bool)
  | waitForPage (id page : String) (timeoutMs : Option Nat)
  | wait (id : String) (durationMs : Nat)
  deriving DecidableEq, Repr

def BrowserFlowStep.id : BrowserFlowStep → String
  | .navigate id _ _ | .click id _ _ | .setInput id _ _ _ | .invokeOperation id _
  | .setFiles id _ _ | .dispatchEvents id _ _ | .validateVisualLayout id _ _ _ _
  | .solveVisualCaptcha id _ | .waitForRequest id _ _ _ | .waitForPage id _ _ | .wait id _ => id

def BrowserFlowStep.kindName : BrowserFlowStep → String
  | .navigate .. => "navigate"
  | .click .. => "click"
  | .setInput .. => "set_input"
  | .invokeOperation .. => "invoke_operation"
  | .setFiles .. => "set_files"
  | .dispatchEvents .. => "dispatch_events"
  | .validateVisualLayout .. => "validate_visual_layout"
  | .solveVisualCaptcha .. => "solve_visual_captcha"
  | .waitForRequest .. => "wait_for_request"
  | .waitForPage .. => "wait_for_page"
  | .wait .. => "wait"

structure BrowserFlow where
  id : String
  title : String
  purpose : String
  startPage : String
  prerequisiteFlowId : Option String
  presetRefs : List String
  inputs : List BrowserFlowInput
  steps : List BrowserFlowStep
  expectedRequests : List String
  outputs : List BrowserFlowOutput
  deriving DecidableEq, Repr

structure BrowserFlowCatalog where
  schemaVersion : Nat
  provider : String
  surface : String
  baseUrl : String
  presets : ValueMap
  pages : List BrowserFlowPage
  elements : List BrowserFlowElement
  requests : List BrowserFlowRequest
  operations : List BrowserFlowOperation
  flows : List BrowserFlow

def BrowserFlowCatalog.findFlow (catalog : BrowserFlowCatalog) (flowId : String) :
    Option BrowserFlow :=
  catalog.flows.find? (fun flow => decide (flow.id = flowId))

/-! ## Section 2: Checks -/

/-- `Ok` where the condition holds, a configuration error elsewhere. -/
def ensure (condition : Prop) [Decidable condition] (message : String) : Except BlobError Unit :=
  if condition then .ok () else .error (.configuration message)

def ensureNonEmpty (field value : String) : Except BlobError Unit :=
  if (trim value).isEmpty then .error (.configuration s!"{field} must not be empty") else .ok ()

/-- The check of a value that may be missing. -/
def ensureNonEmptyIfPresent (field : String) : Option String → Except BlobError Unit
  | none => .ok ()
  | some value => ensureNonEmpty field value

/-- The loop of `collect_unique_ids`; `seen` are the ids so far. -/
def collectUniqueIdsFrom (kind : String) (seen : List String) :
    List String → Except BlobError (List String)
  | [] => .ok seen
  | id :: ids => do
    ensureNonEmpty kind id
    if id ∈ seen then .error (.configuration s!"duplicate {kind} id detected: {id}")
    else collectUniqueIdsFrom kind (id :: seen) ids

def collectUniqueIds (kind : String) (ids : List String) : Except BlobError (List String) :=
  collectUniqueIdsFrom kind [] ids

/-- The flows that are not in a list. -/
def unseenFlows (flows : List BrowserFlow) (seen : List String) : List BrowserFlow :=
  flows.filter (fun flow => decide (flow.id ∉ seen))

theorem length_unseenFlows_lt {flows : List BrowserFlow} {seen : List String} {flow : BrowserFlow}
    (hflow : flow ∈ flows) (hunseen : flow.id ∉ seen) :
    (unseenFlows flows (flow.id :: seen)).length < (unseenFlows flows seen).length := by
  have hfewer : unseenFlows flows (flow.id :: seen) =
      (unseenFlows flows seen).filter (fun other => decide (other.id ≠ flow.id)) := by
    unfold unseenFlows
    rw [List.filter_filter]
    apply List.filter_congr
    intro other _
    simp
  rw [hfewer]
  apply List.length_filter_lt_length_iff_exists.mpr
  exact ⟨flow, by simpa [unseenFlows] using ⟨hflow, hunseen⟩, by simp⟩

/-- The walk from a prerequisite to its own: the id that is met for the second time, if any. -/
def prerequisiteCycle (flows : List BrowserFlow) (seen : List String) :
    Option String → Option String
  | none => none
  | some id =>
    if _hseen : id ∈ seen then some id
    else
      match _hflow : flows.find? (fun flow => decide (flow.id = id)) with
      | none => none
      | some flow => prerequisiteCycle flows (id :: seen) flow.prerequisiteFlowId
termination_by (unseenFlows flows seen).length
decreasing_by
  have hid : flow.id = id := by simpa using List.find?_some _hflow
  rw [← hid]
  exact length_unseenFlows_lt (List.mem_of_find?_eq_some _hflow) (by rw [hid]; exact _hseen)

def checkPrerequisites (flows : List BrowserFlow) (flow : BrowserFlow) : Except BlobError Unit :=
  match prerequisiteCycle flows [] flow.prerequisiteFlowId with
  | none => .ok ()
  | some id => .error (.configuration
      s!"flow {flow.id} participates in a prerequisite cycle at {id}")

/-! ## Section 3: Validation -/

/-- The ids that a flow may refer to. -/
structure KnownIds where
  pages : List String
  elements : List String
  requests : List String
  operations : List String
  flows : List String

def validatePage (page : BrowserFlowPage) : Except BlobError Unit := do
  ensureNonEmpty "page.id" page.id
  ensureNonEmpty "page.title" page.title
  ensure (page.urlPatterns ≠ []) s!"page {page.id} must contain at least one url pattern"
  page.urlPatterns.forM (ensureNonEmpty "page.url_patterns[]")

def validateSelector (selector : BrowserFlowSelector) : Except BlobError Unit := do
  ensureNonEmpty "element.selector.value" selector.value
  ensureNonEmptyIfPresent "element.selector.text_contains" selector.textContains

def validateElement (pageIds : List String) (element : BrowserFlowElement) :
    Except BlobError Unit := do
  ensureNonEmpty "element.id" element.id
  ensureNonEmpty "element.page" element.page
  ensureNonEmpty "element.role" element.role
  ensureNonEmptyIfPresent "element.frame" element.frame
  ensure (element.page ∈ pageIds) s!"element {element.id} references unknown page {element.page}"
  ensure (element.selectors ≠ []) s!"element {element.id} must contain at least one selector"
  element.selectors.forM validateSelector

def validateHeader (header : BrowserFlowHeaderMatcher) : Except BlobError Unit := do
  ensureNonEmpty "request.required_headers[].name" header.name
  ensureNonEmptyIfPresent "request.required_headers[].value_template" header.valueTemplate

def validateRequest (request : BrowserFlowRequest) : Except BlobError Unit := do
  ensureNonEmpty "request.id" request.id
  ensureNonEmpty "request.method" request.method
  ensureNonEmpty "request.url_pattern" request.urlPattern
  ensure (request.successCodes ≠ [])
    s!"request {request.id} must contain at least one success code"
  request.requiredHeaders.forM validateHeader
  request.requiredFields.forM (ensureNonEmpty "request.required_fields[]")

def validateOperation (pageIds : List String) (operation : BrowserFlowOperation) :
    Except BlobError Unit := do
  ensureNonEmpty "operation.id" operation.id
  ensureNonEmpty "operation.source" operation.source
  ensureNonEmptyIfPresent "operation.frame" operation.frame
  match operation.page with
  | none => .ok ()
  | some page =>
    ensure (page ∈ pageIds) s!"operation {operation.id} references unknown page {page}"

def validateFlowPrerequisite (known : KnownIds) (flow : BrowserFlow) : Except BlobError Unit :=
  match flow.prerequisiteFlowId with
  | none => .ok ()
  | some id => do
    ensureNonEmpty "flow.prerequisite_flow_id" id
    ensure (id ≠ flow.id) s!"flow {flow.id} must not reference itself as prerequisite_flow_id"
    ensure (id ∈ known.flows) s!"flow {flow.id} references unknown prerequisite flow {id}"

def validateInput (input : BrowserFlowInput) : Except BlobError Unit := do
  ensureNonEmpty "flow.input.id" input.id
  ensureNonEmpty "flow.input.label" input.label
  ensureNonEmptyIfPresent "flow.input.description" input.description

def validatePresetRef (presets : ValueMap) (flow : BrowserFlow) (presetRef : String) :
    Except BlobError Unit := do
  ensureNonEmpty "flow.preset_refs[]" presetRef
  ensure ((presets.get presetRef).isSome = true)
    s!"flow {flow.id} references unknown preset {presetRef}"

def validateHeaderNames (output : BrowserFlowOutput) : Except BlobError Unit :=
  if output.kind = .requestHeaders then do
    ensure (output.headerNames ≠ [])
      s!"flow output {output.id} requires at least one header_names entry"
    output.headerNames.forM (ensureNonEmpty "flow.output.header_names[]")
  else .ok ()

def validateOutput (output : BrowserFlowOutput) : Except BlobError Unit := do
  ensureNonEmpty "flow.output.id" output.id
  ensureNonEmpty "flow.output.source" output.source
  output.fallbackSources.forM (ensureNonEmpty "flow.output.fallback_sources[]")
  validateHeaderNames output
  ensureNonEmptyIfPresent "flow.output.frame" output.frame
  ensureNonEmptyIfPresent "flow.output.description" output.description

/-- An id that a step refers to; `what` are the words for it in the message. -/
def ensureKnown (flow : BrowserFlow) (step : BrowserFlowStep) (what : String)
    (ids : List String) (id : String) : Except BlobError Unit :=
  ensure (id ∈ ids) s!"flow {flow.id} step {step.id} references unknown {what} {id}"

/-- An id that a step may refer to. -/
def ensureKnownIfPresent (flow : BrowserFlow) (step : BrowserFlowStep) (what : String)
    (ids : List String) : Option String → Except BlobError Unit
  | none => .ok ()
  | some id => ensureKnown flow step what ids id

def validateVisualTarget (known : KnownIds) (flow : BrowserFlow) (step : BrowserFlowStep)
    (target : BrowserFlowVisualLayoutTarget) : Except BlobError Unit := do
  ensureNonEmpty "flow.step.visual_target.element" target.element
  ensureNonEmpty "flow.step.visual_target.role" target.role
  ensureKnown flow step "visual validation element" known.elements target.element

/-- The first `match` over a step: what it refers to. -/
def validateStepReferences (known : KnownIds) (flow : BrowserFlow) (step : BrowserFlowStep) :
    Except BlobError Unit :=
  match step with
  | .navigate _ url waitForPage => do
    ensureNonEmpty "flow.step.url" url
    ensureKnownIfPresent flow step "page" known.pages waitForPage
  | .click _ element _ | .setInput _ element _ _ | .setFiles _ element _
  | .dispatchEvents _ element _ => ensureKnown flow step "element" known.elements element
  | .validateVisualLayout _ targets _ _ _ => do
    ensure (targets ≠ [])
      s!"flow {flow.id} step {step.id} must contain at least one visual validation target"
    targets.forM (validateVisualTarget known flow step)
  | .solveVisualCaptcha _ captcha => do
    ensureNonEmpty "flow.step.image_element" captcha.imageElement
    ensureNonEmpty "flow.step.input_element" captcha.inputElement
    ensureNonEmpty "flow.step.input_id" captcha.inputId
    ensureKnown flow step "image element" known.elements captcha.imageElement
    ensureKnown flow step "input element" known.elements captcha.inputElement
    ensureKnownIfPresent flow step "refresh element" known.elements captcha.refreshElement
    ensure (captcha.expectedLength ≠ some 0)
      s!"flow {flow.id} step {step.id} expected_length must be at least 1"
    ensure (captcha.maxAttempts ≠ some 0)
      s!"flow {flow.id} step {step.id} max_attempts must be at least 1"
  | .invokeOperation _ operation => ensureKnown flow step "operation" known.operations operation
  | .waitForRequest _ request _ _ => ensureKnown flow step "request" known.requests request
  | .waitForPage _ page _ => ensureKnown flow step "page" known.pages page
  | .wait _ durationMs =>
    ensure (durationMs ≠ 0) s!"flow {flow.id} step {step.id} must wait for at least 1 ms"

/-- The second `match` over a step: its own texts. -/
def validateStepTexts (inputIds : List String) (flow : BrowserFlow) (step : BrowserFlowStep) :
    Except BlobError Unit :=
  match step with
  | .setInput _ _ valueTemplate _ => ensureNonEmpty "flow.step.value_template" valueTemplate
  | .setFiles _ _ inputRef => do
    ensureNonEmpty "flow.step.input_ref" inputRef
    ensureKnown flow step "input" inputIds inputRef
  | .dispatchEvents _ _ events => do
    ensure (events ≠ []) s!"flow {flow.id} step {step.id} must contain at least one event"
    events.forM (ensureNonEmpty "flow.step.events[]")
  | .validateVisualLayout _ _ instruction relationshipRules _ => do
    ensureNonEmptyIfPresent "flow.step.instruction" instruction
    relationshipRules.forM (ensureNonEmpty "flow.step.relationship_rules[]")
  | .solveVisualCaptcha _ captcha => do
    ensure (captcha.dispatchEvents ≠ [])
      s!"flow {flow.id} step {step.id} must contain at least one dispatch event"
    captcha.dispatchEvents.forM (ensureNonEmpty "flow.step.dispatch_events[]")
    ensureNonEmptyIfPresent "flow.step.llm_system_prompt" captcha.llmSystemPrompt
    ensureNonEmptyIfPresent "flow.step.llm_prompt_template" captcha.llmPromptTemplate
  | _ => .ok ()

def validateStep (known : KnownIds) (inputIds : List String) (flow : BrowserFlow)
    (step : BrowserFlowStep) : Except BlobError Unit := do
  validateStepReferences known flow step
  validateStepTexts inputIds flow step

/-- The loop over the expected requests; `seen` are those before. -/
def validateExpectedRequests (known : KnownIds) (flow : BrowserFlow) (seen : List String) :
    List String → Except BlobError Unit
  | [] => .ok ()
  | request :: requests => do
    ensureNonEmpty "flow.expected_requests[]" request
    ensure (request ∈ known.requests)
      s!"flow {flow.id} references unknown expected request {request}"
    ensure (request ∉ seen) s!"flow {flow.id} references duplicate expected request {request}"
    validateExpectedRequests known flow (request :: seen) requests

def validateFlow (presets : ValueMap) (known : KnownIds) (flow : BrowserFlow) :
    Except BlobError Unit := do
  ensureNonEmpty "flow.id" flow.id
  ensureNonEmpty "flow.title" flow.title
  ensureNonEmpty "flow.purpose" flow.purpose
  ensure (flow.startPage ∈ known.pages)
    s!"flow {flow.id} references unknown start page {flow.startPage}"
  validateFlowPrerequisite known flow
  ensure (flow.steps ≠ []) s!"flow {flow.id} must contain at least one step"
  let inputIds ← collectUniqueIds "flow input" (flow.inputs.map (·.id))
  flow.inputs.forM validateInput
  flow.presetRefs.forM (validatePresetRef presets flow)
  let _ ← collectUniqueIds "flow output" (flow.outputs.map (·.id))
  flow.outputs.forM validateOutput
  let _ ← collectUniqueIds "flow step" (flow.steps.map (·.id))
  flow.steps.forM (validateStep known inputIds flow)
  validateExpectedRequests known flow [] flow.expectedRequests

def BrowserFlowCatalog.validate (catalog : BrowserFlowCatalog) : Except BlobError Unit := do
  ensure (catalog.schemaVersion = 1)
    s!"unsupported browser flow schema version {catalog.schemaVersion}; expected 1"
  ensureNonEmpty "provider" catalog.provider
  ensureNonEmpty "surface" catalog.surface
  ensureNonEmpty "base_url" catalog.baseUrl
  ensure (catalog.pages ≠ []) "browser flow catalog must contain at least one page"
  ensure (catalog.elements ≠ []) "browser flow catalog must contain at least one element"
  ensure (catalog.flows ≠ []) "browser flow catalog must contain at least one flow"
  let pageIds ← collectUniqueIds "page" (catalog.pages.map (·.id))
  catalog.pages.forM validatePage
  catalog.presets.rows.forM (fun preset => ensureNonEmpty "preset id" preset.1)
  let elementIds ← collectUniqueIds "element" (catalog.elements.map (·.id))
  catalog.elements.forM (validateElement pageIds)
  let requestIds ← collectUniqueIds "request" (catalog.requests.map (·.id))
  catalog.requests.forM validateRequest
  let operationIds ← collectUniqueIds "operation" (catalog.operations.map (·.id))
  catalog.operations.forM (validateOperation pageIds)
  let flowIds ← collectUniqueIds "flow" (catalog.flows.map (·.id))
  catalog.flows.forM (validateFlow catalog.presets
    { pages := pageIds, elements := elementIds, requests := requestIds
      operations := operationIds, flows := flowIds })
  catalog.flows.forM (checkPrerequisites catalog.flows)

end Netdisk2Blob.Flows
