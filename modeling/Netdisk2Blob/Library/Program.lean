import Mathlib.Tactic.SplitIfs

/-!
# Programs of Requests

A program issues requests one at a time and continues with the reply to each. What a
request does to the state is up to a handler, which also gets an answer chosen by the
environment (a failure, a clock reading). Nothing here depends on what the requests are.

## Contents

- `Program`: a tree of typed requests, and `bind`
- `attempt`: a step that may fail, with what is done when it does
- `Ends`: the program runs to its end, every answer permitted
- `exec`: the run under a given list of answers, and `ends_of_exec`
- `Issues`: every request of the program has a property; `eval_congr`, that states which
  answer these requests alike give the same result
- `Looks`: a step that changes nothing when it succeeds
- `resultOf`: the result when requests are answered by a function
-/

namespace Netdisk2Blob.Library

inductive Program (ε : Type) (ρ : ε → Type) (α : Type) where
  | pure (value : α)
  | request (operation : ε) (next : ρ operation → Program ε ρ α)

namespace Program

variable {ε : Type} {ρ : ε → Type} {α β ζ ξ σ ω : Type}

/-! ## Section 1: Sequencing -/

def bind : Program ε ρ α → (α → Program ε ρ β) → Program ε ρ β
  | .pure value, f => f value
  | .request operation next, f => .request operation (fun reply => bind (next reply) f)

/-- A single request. -/
def issue (operation : ε) : Program ε ρ (ρ operation) := .request operation .pure

/-- A step that may fail: go on with its value, or end with what `recover` makes of the
error. -/
def attempt (step : Program ε ρ (Except ζ α)) (recover : ζ → Program ε ρ ξ)
    (next : α → Program ε ρ (Except ξ β)) : Program ε ρ (Except ξ β) :=
  step.bind (fun
    | .ok value => next value
    | .error error => (recover error).bind (fun failure => .pure (.error failure)))

/-- The step with its error turned into another one. -/
def mapError (step : Program ε ρ (Except ζ α)) (f : ζ → ξ) : Program ε ρ (Except ξ α) :=
  step.bind (fun
    | .ok value => .pure (.ok value)
    | .error error => .pure (.error (f error)))

/-! ## Section 2: Runs to the end -/

/-- What a request does under an answer of the environment. -/
abbrev Handler (ε : Type) (ρ : ε → Type) (ω σ : Type) :=
  (operation : ε) → ω → σ → ρ operation × σ

variable (handle : Handler ε ρ ω σ) (permitted : ε → ω → Prop)

/-- From one state the program ends with a value in another, under permitted answers. -/
def Ends : Program ε ρ α → σ → α → σ → Prop
  | .pure value, s, a, t => value = a ∧ s = t
  | .request operation next, s, a, t =>
    ∃ answer, permitted operation answer ∧
      Ends (next (handle operation answer s).1) (handle operation answer s).2 a t

variable {handle permitted} {s t : σ} {a : α} {b : β}

@[simp] theorem ends_pure {value : α} :
    Ends handle permitted (.pure value) s a t ↔ value = a ∧ s = t := Iff.rfl

theorem ends_request {operation : ε} {next : ρ operation → Program ε ρ α} :
    Ends handle permitted (.request operation next) s a t ↔
      ∃ answer, permitted operation answer ∧
        Ends handle permitted (next (handle operation answer s).1)
          (handle operation answer s).2 a t := Iff.rfl

theorem ends_issue {operation : ε} {reply : ρ operation} :
    Ends handle permitted (issue operation) s reply t ↔
      ∃ answer, permitted operation answer ∧ handle operation answer s = (reply, t) := by
  simp only [issue, ends_request, ends_pure, Prod.ext_iff]

/-- **Sequencing rule.** -/
theorem ends_bind {p : Program ε ρ α} {f : α → Program ε ρ β} :
    Ends handle permitted (p.bind f) s b t ↔
      ∃ a m, Ends handle permitted p s a m ∧ Ends handle permitted (f a) m b t := by
  induction p generalizing s with
  | pure value =>
    constructor
    · intro h
      exact ⟨value, s, ⟨rfl, rfl⟩, h⟩
    · rintro ⟨_, _, ⟨rfl, rfl⟩, h⟩
      exact h
  | request operation next ih =>
    constructor
    · rintro ⟨answer, hanswer, h⟩
      obtain ⟨a, m, hp, hf⟩ := (ih _).mp h
      exact ⟨a, m, ⟨answer, hanswer, hp⟩, hf⟩
    · rintro ⟨a, m, ⟨answer, hanswer, hp⟩, hf⟩
      exact ⟨answer, hanswer, (ih _).mpr ⟨a, m, hp, hf⟩⟩

/-- **Rule for a step that may fail.** -/
theorem ends_attempt {step : Program ε ρ (Except ζ α)} {recover : ζ → Program ε ρ ξ}
    {next : α → Program ε ρ (Except ξ β)} {result : Except ξ β} :
    Ends handle permitted (attempt step recover next) s result t ↔
      (∃ value m, Ends handle permitted step s (.ok value) m ∧
        Ends handle permitted (next value) m result t) ∨
      (∃ error m failure, Ends handle permitted step s (.error error) m ∧
        Ends handle permitted (recover error) m failure t ∧ result = .error failure) := by
  rw [attempt, ends_bind]
  constructor
  · rintro ⟨outcome, m, hstep, hrest⟩
    cases outcome with
    | ok value => exact Or.inl ⟨value, m, hstep, hrest⟩
    | error error =>
      obtain ⟨failure, m', hrecover, rfl, rfl⟩ := ends_bind.mp hrest
      exact Or.inr ⟨error, m, failure, hstep, hrecover, rfl⟩
  · rintro (⟨value, m, hstep, hnext⟩ | ⟨error, m, failure, hstep, hrecover, rfl⟩)
    · exact ⟨.ok value, m, hstep, hnext⟩
    · exact ⟨.error error, m, hstep, ends_bind.mpr ⟨failure, t, hrecover, rfl, rfl⟩⟩

theorem ends_attempt_ok {step : Program ε ρ (Except ζ α)} {recover : ζ → Program ε ρ ξ}
    {next : α → Program ε ρ (Except ξ β)} {result : β} :
    Ends handle permitted (attempt step recover next) s (.ok result) t ↔
      ∃ value m, Ends handle permitted step s (.ok value) m ∧
        Ends handle permitted (next value) m (.ok result) t := by
  rw [ends_attempt]
  constructor
  · rintro (h | ⟨_, _, _, -, -, herror⟩)
    · exact h
    · exact absurd herror (by simp)
  · exact Or.inl

theorem ends_attempt_error {step : Program ε ρ (Except ζ α)} {recover : ζ → Program ε ρ ξ}
    {next : α → Program ε ρ (Except ξ β)} {failure : ξ} :
    Ends handle permitted (attempt step recover next) s (.error failure) t ↔
      (∃ error m, Ends handle permitted step s (.error error) m ∧
        Ends handle permitted (recover error) m failure t) ∨
      (∃ value m, Ends handle permitted step s (.ok value) m ∧
        Ends handle permitted (next value) m (.error failure) t) := by
  rw [ends_attempt]
  constructor
  · rintro (h | ⟨error, m, _, hstep, hrecover, herror⟩)
    · exact Or.inr h
    · cases herror
      exact Or.inl ⟨error, m, hstep, hrecover⟩
  · rintro (⟨error, m, hstep, hrecover⟩ | h)
    · exact Or.inr ⟨error, m, failure, hstep, hrecover, rfl⟩
    · exact Or.inl h

theorem ends_mapError_ok {step : Program ε ρ (Except ζ α)} {f : ζ → ξ} {value : α} :
    Ends handle permitted (step.mapError f) s (.ok value) t ↔
      Ends handle permitted step s (.ok value) t := by
  rw [mapError, ends_bind]
  constructor
  · rintro ⟨outcome, m, hstep, hrest⟩
    cases outcome with
    | ok other =>
      obtain ⟨hvalue, rfl⟩ := hrest
      cases hvalue
      exact hstep
    | error error => exact absurd hrest.1 (by simp)
  · intro h
    exact ⟨_, _, h, rfl, rfl⟩

theorem ends_mapError_error {step : Program ε ρ (Except ζ α)} {f : ζ → ξ} {failure : ξ} :
    Ends handle permitted (step.mapError f) s (.error failure) t ↔
      ∃ error, f error = failure ∧ Ends handle permitted step s (.error error) t := by
  rw [mapError, ends_bind]
  constructor
  · rintro ⟨outcome, m, hstep, hrest⟩
    cases outcome with
    | ok value => exact absurd hrest.1 (by simp)
    | error error =>
      obtain ⟨hfailure, rfl⟩ := hrest
      exact ⟨error, by simpa using hfailure, hstep⟩
  · rintro ⟨error, rfl, h⟩
    exact ⟨_, _, h, rfl, rfl⟩

/-! ## Section 3: Runs under given answers -/

/-- The run under a list of answers; `none` when one is not permitted or they run out. -/
def exec (handle : Handler ε ρ ω σ) (permitted : ε → ω → Prop)
    [∀ operation answer, Decidable (permitted operation answer)] :
    Program ε ρ α → σ → List ω → Option (α × σ)
  | .pure value, s, _ => some (value, s)
  | .request _ _, _, [] => none
  | .request operation next, s, answer :: answers =>
    if permitted operation answer then
      exec handle permitted (next (handle operation answer s).1)
        (handle operation answer s).2 answers
    else none

theorem ends_of_exec [∀ operation answer, Decidable (permitted operation answer)]
    {p : Program ε ρ α} {answers : List ω}
    (h : exec handle permitted p s answers = some (a, t)) : Ends handle permitted p s a t := by
  induction p generalizing s answers with
  | pure value =>
    simpa [exec] using h
  | request operation next ih =>
    cases answers with
    | nil => exact absurd h (by simp [exec])
    | cons answer answers =>
      rw [exec] at h
      split_ifs at h with hanswer
      exact ⟨answer, hanswer, ih _ h⟩

/-- The run in which every request gets the same answer. -/
def eval (handle : Handler ε ρ ω σ) (answer : ω) : Program ε ρ α → σ → α × σ
  | .pure value, s => (value, s)
  | .request operation next, s =>
    eval handle answer (next (handle operation answer s).1) (handle operation answer s).2

/-! ## Section 4: Which requests a program issues -/

/-- Whatever the replies are, every request of the program has the property. -/
def Issues (P : ε → Prop) : Program ε ρ α → Prop
  | .pure _ => True
  | .request operation next => P operation ∧ ∀ reply, Issues P (next reply)

section Issues

variable {P : ε → Prop}

theorem issues_pure {value : α} : Issues P (.pure value : Program ε ρ α) := trivial

theorem issues_issue {operation : ε} (h : P operation) :
    Issues P (issue operation : Program ε ρ (ρ operation)) :=
  ⟨h, fun _ => trivial⟩

theorem issues_bind {p : Program ε ρ α} {f : α → Program ε ρ β} (hp : Issues P p)
    (hf : ∀ a, Issues P (f a)) : Issues P (p.bind f) := by
  induction p with
  | pure value => exact hf value
  | request operation next ih => exact ⟨hp.1, fun reply => ih reply (hp.2 reply)⟩

theorem issues_mapError {step : Program ε ρ (Except ζ α)} {f : ζ → ξ} (h : Issues P step) :
    Issues P (step.mapError f) := by
  apply issues_bind h
  intro outcome
  cases outcome <;> trivial

theorem issues_attempt {step : Program ε ρ (Except ζ α)} {recover : ζ → Program ε ρ ξ}
    {next : α → Program ε ρ (Except ξ β)} (hstep : Issues P step)
    (hrecover : ∀ error, Issues P (recover error)) (hnext : ∀ value, Issues P (next value)) :
    Issues P (attempt step recover next) := by
  apply issues_bind hstep
  intro outcome
  cases outcome with
  | ok value => exact hnext value
  | error error => exact issues_bind (hrecover error) (fun _ => trivial)

/-- What no request of the program changes, the program does not change. -/
theorem Ends.keeps {κ : Type} {view : σ → κ} {p : Program ε ρ α} (hp : Issues P p)
    (hkeep : ∀ operation answer s, P operation → view (handle operation answer s).2 = view s)
    (h : Ends handle permitted p s a t) : view t = view s := by
  induction p generalizing s with
  | pure value => rw [h.2]
  | request operation next ih =>
    obtain ⟨answer, -, hrest⟩ := h
    rw [ih _ (hp.2 _) hrest, hkeep operation answer s hp.1]

theorem Ends.unchanged {p : Program ε ρ α} (hp : Issues P p)
    (hkeep : ∀ operation answer s, P operation → (handle operation answer s).2 = s)
    (h : Ends handle permitted p s a t) : t = s := by
  show id t = id s
  exact h.keeps hp hkeep

/-- Two states that answer every request of the program alike give the same result. -/
theorem eval_congr {R : σ → σ → Prop} {answer : ω}
    (hrel : ∀ operation s t, P operation → R s t →
      (handle operation answer s).1 = (handle operation answer t).1 ∧
        R (handle operation answer s).2 (handle operation answer t).2)
    {p : Program ε ρ α} (hp : Issues P p) (h : R s t) :
    (eval handle answer p s).1 = (eval handle answer p t).1 := by
  induction p generalizing s t with
  | pure value => rfl
  | request operation next ih =>
    obtain ⟨hreply, hnext⟩ := hrel operation s t hp.1 h
    rw [eval, eval, ← hreply]
    exact ih _ (hp.2 _) hnext

end Issues

/-! ## Section 5: Steps that only look -/

/-- The step changes nothing, and when it succeeds it gives what the fixed answer gives. -/
def Looks (handle : Handler ε ρ ω σ) (permitted : ε → ω → Prop) (answer : ω)
    (step : Program ε ρ (Except ζ α)) : Prop :=
  ∀ s result t, Ends handle permitted step s result t →
    t = s ∧ ∀ value, result = .ok value → eval handle answer step s = (.ok value, s)

section Looks

variable {answer : ω}

theorem Looks.unchanged {step : Program ε ρ (Except ζ α)} {result : Except ζ α}
    (h : Looks handle permitted answer step) (hends : Ends handle permitted step s result t) :
    t = s :=
  (h s result t hends).1

theorem looks_pure {outcome : Except ζ α} :
    Looks handle permitted answer (.pure outcome : Program ε ρ (Except ζ α)) := by
  rintro s result t ⟨rfl, rfl⟩
  refine ⟨rfl, ?_⟩
  rintro value rfl
  rfl

theorem eval_bind {p : Program ε ρ α} {f : α → Program ε ρ β} {s : σ} :
    eval handle answer (p.bind f) s =
      eval handle answer (f (eval handle answer p s).1) (eval handle answer p s).2 := by
  induction p generalizing s with
  | pure value => rfl
  | request operation next ih => exact ih _

theorem looks_attempt {step : Program ε ρ (Except ζ α)} {f : ζ → ξ}
    {next : α → Program ε ρ (Except ξ β)} (hstep : Looks handle permitted answer step)
    (hnext : ∀ value, Looks handle permitted answer (next value)) :
    Looks handle permitted answer (attempt step (fun error => .pure (f error)) next) := by
  intro s result t h
  rcases ends_attempt.mp h with ⟨value, m, hfirst, hrest⟩ | ⟨error, m, failure, hfirst, hend, herror⟩
  · obtain ⟨rfl, heval⟩ := hstep s _ m hfirst
    obtain ⟨rfl, heval'⟩ := hnext value m result t hrest
    refine ⟨rfl, ?_⟩
    intro outcome houtcome
    rw [attempt, eval_bind, heval value rfl]
    exact heval' outcome houtcome
  · obtain ⟨rfl, -⟩ := hstep s _ m hfirst
    obtain ⟨-, rfl⟩ := hend
    refine ⟨rfl, ?_⟩
    intro outcome houtcome
    rw [herror] at houtcome
    exact absurd houtcome (by simp)

theorem looks_mapError {step : Program ε ρ (Except ζ α)} {f : ζ → ξ}
    (hstep : Looks handle permitted answer step) :
    Looks handle permitted answer (step.mapError f) := by
  intro s result t h
  cases result with
  | ok value =>
    obtain ⟨rfl, heval⟩ := hstep s _ t (ends_mapError_ok.mp h)
    refine ⟨rfl, ?_⟩
    rintro _ ⟨rfl⟩
    rw [mapError, eval_bind, heval value rfl]
    rfl
  | error failure =>
    obtain ⟨error, -, hfirst⟩ := ends_mapError_error.mp h
    exact ⟨hstep.unchanged hfirst, fun _ houtcome => absurd houtcome (by simp)⟩

end Looks

/-! ## Section 6: Fixed replies -/

/-- The result of the program when a function answers its requests. -/
def resultOf (reply : (operation : ε) → ρ operation) : Program ε ρ α → α
  | .pure value => value
  | .request operation next => resultOf reply (next (reply operation))

section ResultOf

variable {reply : (operation : ε) → ρ operation}

@[simp] theorem resultOf_pure {value : α} :
    resultOf reply (.pure value : Program ε ρ α) = value := rfl

@[simp] theorem resultOf_issue {operation : ε} :
    resultOf reply (issue operation : Program ε ρ (ρ operation)) = reply operation := rfl

@[simp] theorem resultOf_bind {p : Program ε ρ α} {f : α → Program ε ρ β} :
    resultOf reply (p.bind f) = resultOf reply (f (resultOf reply p)) := by
  induction p with
  | pure value => rfl
  | request operation next ih => exact ih _

theorem resultOf_attempt {step : Program ε ρ (Except ζ α)} {recover : ζ → Program ε ρ ξ}
    {next : α → Program ε ρ (Except ξ β)} :
    resultOf reply (attempt step recover next) =
      match resultOf reply step with
      | .ok value => resultOf reply (next value)
      | .error error => .error (resultOf reply (recover error)) := by
  rw [attempt, resultOf_bind]
  cases resultOf reply step with
  | ok value => rfl
  | error error => exact resultOf_bind

/-- Where requests leave the state as it is and get these replies, the program ends with this
result. -/
theorem ends_resultOf {P : ε → Prop} {answers : ε → ω}
    (hreply : ∀ operation, P operation → handle operation (answers operation) s =
      (reply operation, s))
    {p : Program ε ρ α} (hp : Issues P p) :
    Ends handle (fun operation answer => answer = answers operation) p s (resultOf reply p) s := by
  induction p with
  | pure value => exact ⟨rfl, rfl⟩
  | request operation next ih =>
    refine ⟨answers operation, rfl, ?_⟩
    rw [hreply operation hp.1]
    exact ih _ (hp.2 _)

end ResultOf

end Program

end Netdisk2Blob.Library
