import Netdisk2Blob.Flows.SessionSafety

/-!
# Transient Inputs

The value of a transient input, such as a code that was sent to a phone, is handed to the session
with every captcha until one of them is solved with it, and with none behind that. The value of
any other input is handed over every time.

## Contents

- `Accepts`: a captcha was solved with the value of an input
- `StepRuns.hands`, `StepRuns.consumes`: what a step does with the value
- `transient_value_is_handed_once`: the value in a whole execution
-/

namespace Netdisk2Blob.Flows

open Blob ControlPlane Library Text
open Library.Program

/-- A captcha was solved with the value that was handed over for the input. -/
def Accepts (trace : SessionTrace) (inputId : String) : Prop :=
  ∃ accepted, (⟨.solveVisualCaptcha accepted, .ok ()⟩ : Event Answer) ∈ trace ∧
    accepted.inputId = inputId ∧ accepted.manualValue.isSome = true

section Handing

variable {plan : BoundBrowserFlowPlan} {consumed : List String} {step : BrowserFlowStep}
  {trace : SessionTrace}

theorem manualValue_eq (inputId : String) :
    manualValue plan consumed inputId =
      if inputIsTransient plan inputId = true ∧ inputId ∈ consumed then none
      else manualValue plan [] inputId := by
  unfold manualValue
  split_ifs <;> simp_all

theorem accepts_append {first rest : SessionTrace} {inputId : String} :
    Accepts (first ++ rest) inputId ↔ Accepts first inputId ∨ Accepts rest inputId := by
  simp only [Accepts, List.mem_append, or_and_right, exists_or]

/-- The call before the last one opens a page. -/
theorem leadCall_eq {call : SessionCall} (h : leadCall step = some call) :
    ∃ url, call = .navigate url := by
  cases step with
  | navigate id url awaited =>
      cases awaited with
      | none => cases h
      | some pageId => exact ⟨url, (Option.some.inj h).symm⟩
  | _ => cases h

theorem not_captcha_of_mem_leadTrace {event : Event Answer} (h : event ∈ leadTrace step)
    (asked : BrowserFlowVisualCaptchaRequest) : event.1 ≠ .solveVisualCaptcha asked := by
  obtain ⟨call, hcall, rfl⟩ := List.mem_map.mp h
  obtain ⟨url, rfl⟩ := leadCall_eq (Option.mem_toList.mp hcall)
  intro hcaptcha
  cases hcaptcha

theorem not_accepts_leadTrace {inputId : String} : ¬ Accepts (leadTrace step) inputId := by
  rintro ⟨accepted, hmem, -, -⟩
  exact not_captcha_of_mem_leadTrace hmem accepted rfl

/-- A captcha is asked for with the value that is left for its input. -/
theorem lastCall_captcha {asked : BrowserFlowVisualCaptchaRequest}
    (h : lastCall plan consumed step = .ok (some (.solveVisualCaptcha asked))) :
    asked.manualValue = manualValue plan consumed asked.inputId := by
  have hother : ∀ {α : Type} {value : Except BlobError α} {call : α → SessionCall},
      (value >>= fun a => .ok (some (call a))) = .ok (some (.solveVisualCaptcha asked)) →
        ∃ a, call a = .solveVisualCaptcha asked := by
    intro α value call hsome
    obtain ⟨a, -, hcall⟩ := except_bind_ok.mp hsome
    exact ⟨a, Option.some.inj (Except.ok.inj hcall)⟩
  cases step with
  | navigate id url awaited =>
      cases awaited with
      | none => cases h
      | some pageId =>
          obtain ⟨a, ha⟩ := hother h
          cases ha
  | setFiles id elementId inputRef =>
      obtain ⟨paths, -, h⟩ := except_bind_ok.mp h
      cases paths with
      | none => cases h
      | some paths =>
          obtain ⟨a, ha⟩ := hother h
          cases ha
  | solveVisualCaptcha id captcha =>
      obtain ⟨made, hmade, h⟩ := except_bind_ok.mp h
      cases h
      obtain ⟨image, -, hmade⟩ := except_bind_ok.mp hmade
      obtain ⟨input, -, hmade⟩ := except_bind_ok.mp hmade
      obtain ⟨refresh, -, hmade⟩ := except_bind_ok.mp hmade
      cases hmade
      rfl
  | wait id durationMs => cases h
  | _ =>
      obtain ⟨a, ha⟩ := hother h
      cases ha

/-- A step hands over what is left, before it has accepted anything itself. -/
theorem StepRuns.hands {result : StepResult} (h : StepRuns plan consumed step trace result)
    {before after : SessionTrace} {event : Event Answer} {asked : BrowserFlowVisualCaptchaRequest}
    (htrace : trace = before ++ event :: after) (hevent : event.1 = .solveVisualCaptcha asked) :
    asked.manualValue = manualValue plan consumed asked.inputId ∧
      ∀ inputId, ¬ Accepts before inputId := by
  have hlead : event ∉ leadTrace step :=
    fun hmem => not_captcha_of_mem_leadTrace hmem asked hevent
  have hmem : event ∈ trace := by
    rw [htrace]
    exact List.mem_append_right _ List.mem_cons_self
  cases h with
  | refused hreport => cases hmem
  | @leadFailed report call error hreport hcall =>
      obtain ⟨url, rfl⟩ := leadCall_eq hcall
      rw [List.mem_singleton.mp hmem] at hevent
      cases hevent
  | unresolved hreport hlast => exact absurd hmem hlead
  | withoutFiles hreport hlast => exact absurd hmem hlead
  | @answered report call answer hreport hlast =>
      rcases List.mem_append.mp hmem with hfirst | hsecond
      · exact absurd hfirst hlead
      · obtain rfl := List.mem_singleton.mp hsecond
        obtain rfl : call = .solveVisualCaptcha asked := hevent
        refine ⟨lastCall_captcha hlast, ?_⟩
        -- what comes before it is part of the lead
        have hstarts : before <+: leadTrace step := by
          refine ⟨(⟨.solveVisualCaptcha asked, answer⟩ :: after).dropLast, ?_⟩
          rw [← List.dropLast_append_of_ne_nil (List.cons_ne_nil _ _), ← htrace,
            List.dropLast_concat]
        rintro inputId ⟨accepted, haccepted, hid, hvalue⟩
        exact not_accepts_leadTrace ⟨accepted, hstarts.subset haccepted, hid, hvalue⟩

/-- Behind a step the inputs are used up with which it solved a captcha. -/
theorem StepRuns.consumes {report : BrowserFlowExecutionStepReport} {consumed' : List String}
    (h : StepRuns plan consumed step trace (.ok (report, consumed'))) {inputId : String}
    (htransient : inputIsTransient plan inputId = true) :
    inputId ∈ consumed' ↔ inputId ∈ consumed ∨ Accepts trace inputId := by
  generalize hresult : (Except.ok (report, consumed') : StepResult) = result at h
  cases h with
  | refused hreport => cases hresult
  | leadFailed hreport hlead => cases hresult
  | unresolved hreport hlast => cases hresult
  | withoutFiles hreport hlast =>
      cases hresult
      rw [or_iff_left not_accepts_leadTrace]
  | @answered planned call answer hreport hlast =>
      have hconsumed : consumed' = consumedBy plan consumed call answer := by
        cases answer with
        | ok value =>
            cases hresult
            rfl
        | error error =>
            rw [settle] at hresult
            split at hresult <;> cases hresult
            rfl
      rw [hconsumed, accepts_append, or_iff_right not_accepts_leadTrace]
      have hnone : consumedBy plan consumed call answer = consumed →
          ¬ Accepts [⟨call, answer⟩] inputId →
          (inputId ∈ consumedBy plan consumed call answer ↔
            inputId ∈ consumed ∨ Accepts [⟨call, answer⟩] inputId) := by
        intro hsame hnot
        rw [hsame, or_iff_left hnot]
      cases call with
      | solveVisualCaptcha asked =>
          cases answer with
          | error error =>
              apply hnone rfl
              rintro ⟨accepted, haccepted, -, -⟩
              cases List.mem_singleton.mp haccepted
          | ok value =>
              rw [consumedBy, consumedAfter]
              split_ifs with hused
              · rw [List.mem_cons]
                constructor
                · rintro (rfl | hin)
                  · exact Or.inr ⟨asked, List.mem_singleton.mpr rfl, rfl, hused.2⟩
                  · exact Or.inl hin
                · rintro (hin | ⟨accepted, haccepted, rfl, -⟩)
                  · exact Or.inr hin
                  · cases List.mem_singleton.mp haccepted
                    exact Or.inl rfl
              · rw [or_iff_left]
                rintro ⟨accepted, haccepted, rfl, hvalue⟩
                cases List.mem_singleton.mp haccepted
                exact hused ⟨htransient, hvalue⟩
      | _ =>
          apply hnone
          · cases answer <;> rfl
          · rintro ⟨accepted, haccepted, -, -⟩
            cases List.mem_singleton.mp haccepted

/-- The value of an input at a captcha, by what was used up before. -/
def Hands (plan : BoundBrowserFlowPlan) (consumed : List String) (before : SessionTrace)
    (asked : BrowserFlowVisualCaptchaRequest) : Prop :=
  (inputIsTransient plan asked.inputId = true ∧
      (asked.inputId ∈ consumed ∨ Accepts before asked.inputId) → asked.manualValue = none) ∧
  (¬ (inputIsTransient plan asked.inputId = true ∧
      (asked.inputId ∈ consumed ∨ Accepts before asked.inputId)) →
    asked.manualValue = manualValue plan [] asked.inputId)

/-- The step comes first, so nothing is used up but what was before it. -/
theorem StepRuns.handsFirst {result : StepResult} (h : StepRuns plan consumed step trace result)
    {before after : SessionTrace} {event : Event Answer} {asked : BrowserFlowVisualCaptchaRequest}
    (htrace : trace = before ++ event :: after) (hevent : event.1 = .solveVisualCaptcha asked) :
    Hands plan consumed before asked := by
  obtain ⟨hvalue, hnot⟩ := h.hands htrace hevent
  rw [Hands, or_iff_left (hnot asked.inputId), hvalue, manualValue_eq]
  constructor
  · intro hused
    rw [if_pos hused]
  · intro hfree
    rw [if_neg hfree]

/-- **Run lemma.** -/
theorem StepsRun.hands {steps : List BrowserFlowStep}
    {result : Except BlobError (List BrowserFlowExecutionStepReport)}
    (h : StepsRun plan consumed steps trace result) :
    ∀ {before after : SessionTrace} {event : Event Answer}
      {asked : BrowserFlowVisualCaptchaRequest}, trace = before ++ event :: after →
      event.1 = .solveVisualCaptcha asked → Hands plan consumed before asked := by
  induction h with
  | done =>
      intro before after event asked htrace
      simp at htrace
  | stopped hstep =>
      intro before after event asked htrace hevent
      exact hstep.handsFirst htrace hevent
  | @next consumed consumed' step steps first rest report result hstep hrest ih =>
      intro before after event asked htrace hevent
      -- the captcha belongs to the first step or to those behind it
      have hlater : ∀ {between : SessionTrace}, before = first ++ between →
          rest = between ++ event :: after → Hands plan consumed before asked := by
        intro between hbefore hsplit
        obtain ⟨hused, hfree⟩ := ih hsplit hevent
        rw [Hands, hbefore, accepts_append, ← or_assoc]
        constructor
        · rintro ⟨htransient, hsome⟩
          apply hused
          rw [hstep.consumes htransient]
          exact ⟨htransient, hsome⟩
        · intro hnone
          apply hfree
          rintro ⟨htransient, hsome⟩
          rw [hstep.consumes htransient] at hsome
          exact hnone ⟨htransient, hsome⟩
      rcases List.append_eq_append_iff.mp htrace with ⟨between, hbefore, hsplit⟩ | ⟨tail, hfirst, hsplit⟩
      · exact hlater hbefore hsplit
      · cases tail with
        | nil =>
            rw [List.append_nil] at hfirst
            exact @hlater [] (by rw [hfirst, List.append_nil]) hsplit.symm
        | cons head tail =>
            obtain ⟨rfl, -⟩ := List.cons.inj hsplit
            exact hstep.handsFirst hfirst hevent

end Handing

/-- **Transient values are handed over until they are accepted.** In every execution of every
plan, whatever the session answers: a captcha is asked for without a value when its input is
transient and an earlier captcha was solved with the value; and with the value of the input, if
it has one, in all other cases. -/
theorem transient_value_is_handed_once {plan : BoundBrowserFlowPlan} {trace : SessionTrace}
    {result : Except BlobError BrowserFlowExecutionReport} (hrun : Runs (execute plan) trace result)
    (before after : SessionTrace) (event : Event Answer) (asked : BrowserFlowVisualCaptchaRequest)
    (htrace : trace = before ++ event :: after) (hevent : event.1 = .solveVisualCaptcha asked) :
    (inputIsTransient plan asked.inputId = true ∧ Accepts before asked.inputId →
      asked.manualValue = none) ∧
    (¬ (inputIsTransient plan asked.inputId = true ∧ Accepts before asked.inputId) →
      asked.manualValue = manualValue plan [] asked.inputId) := by
  obtain ⟨steps, hsteps, -⟩ := stepsRun_of_execute hrun
  have hhands := hsteps.hands htrace hevent
  rw [Hands] at hhands
  simpa using hhands

/-- The field for a code, which is its own picture here. -/
def sampleCodeElement : BrowserFlowElement :=
  { id := "code", page := "login", role := "input", required := true, frame := none
    selectors := [⟨.css, "#code", none, true⟩] }

def sampleCaptcha : BrowserFlowVisualCaptcha :=
  { imageElement := "code", inputElement := "code", inputId := "sms_code", fieldLabel := none
    placeholder := none, dispatchEvents := ["input"], instruction := none
    expectedLength := none, llmSystemPrompt := none, llmPromptTemplate := none
    refreshElement := none, optional := false, maxAttempts := none }

/-- A plan that asks for the code twice. -/
def sampleCaptchaPlan : BoundBrowserFlowPlan where
  provider := "mobile"
  surface := "carrier-web"
  flow :=
    { id := "sms_login", title := "Log in", purpose := "login", startPage := "login"
      prerequisiteFlowId := none, presetRefs := []
      inputs := [{ id := "sms_code", label := "Code", required := true, transient := true
                   description := none }]
      steps := [.solveVisualCaptcha "first" sampleCaptcha,
        .solveVisualCaptcha "second" sampleCaptcha]
      expectedRequests := [], outputs := [] }
  context := { inputs := ValueMap.insert ∅ "sms_code" (.string "123456"), runtime := ∅ }
  presets := ∅
  pages := []
  elements := [sampleCodeElement]
  requests := []
  operations := []

def sampleCaptchaRequest (value : Option String) : BrowserFlowVisualCaptchaRequest :=
  { imageElement := sampleCodeElement, inputElement := sampleCodeElement
    refreshElement := none, inputId := "sms_code", manualValue := value, fieldLabel := none
    placeholder := none, dispatchEvents := ["input"], instruction := none
    expectedLength := none, llmSystemPrompt := none, llmPromptTemplate := none
    optional := false, maxAttempts := none }

/-- The trace of a session that accepts everything: the code is handed over once. -/
theorem sampleCaptchaPlan_trace :
    (answered (fun _ => Except.ok ()) (execute sampleCaptchaPlan)).1 =
      [⟨.solveVisualCaptcha (sampleCaptchaRequest (some "123456")), .ok ()⟩] ++
        ⟨.solveVisualCaptcha (sampleCaptchaRequest none), .ok ()⟩ :: [] := by
  decide +kernel

theorem sample_value_is_handed_once :
    inputIsTransient sampleCaptchaPlan "sms_code" = true ∧
      Accepts [⟨.solveVisualCaptcha (sampleCaptchaRequest (some "123456")), .ok ()⟩] "sms_code" ∧
      (sampleCaptchaRequest none).manualValue = none := by
  have htransient : inputIsTransient sampleCaptchaPlan "sms_code" = true := by decide +kernel
  have haccepts :
      Accepts [⟨.solveVisualCaptcha (sampleCaptchaRequest (some "123456")), .ok ()⟩] "sms_code" :=
    ⟨_, List.mem_cons_self, rfl, rfl⟩
  refine ⟨htransient, haccepts, ?_⟩
  exact (transient_value_is_handed_once
    (runs_answered (fun _ => Except.ok ()) (execute sampleCaptchaPlan)) _ _ _
    (sampleCaptchaRequest none) sampleCaptchaPlan_trace rfl).1 ⟨htransient, haccepts⟩

end Netdisk2Blob.Flows
