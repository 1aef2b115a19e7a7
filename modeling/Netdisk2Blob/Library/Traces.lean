import Netdisk2Blob.Library.Program

/-!
# Traces of Programs

What a program asks and is answered, when nothing but the answers decides how it goes on. A
trace lists the requests with their replies; every reply of the right type is possible.

## Contents

- `Runs`: the program asks and is answered so, and ends with this value
- `runs_bind`, `andThen`: traces of a sequence, and of a step that may end the program
- `runs_answered`: the run under replies that are given beforehand
-/

namespace Netdisk2Blob.Library.Program

variable {ε : Type} {ρ : ε → Type} {α β ζ : Type}

/-- A request and its reply. -/
abbrev Event (ρ : ε → Type) := (operation : ε) × ρ operation

/-! ## Section 1: Runs -/

def Runs : Program ε ρ α → List (Event ρ) → α → Prop
  | .pure value, trace, a => trace = [] ∧ value = a
  | .request operation next, trace, a =>
    ∃ reply rest, trace = ⟨operation, reply⟩ :: rest ∧ Runs (next reply) rest a

section Runs

variable {trace : List (Event ρ)} {a : α} {b : β}

@[simp] theorem runs_pure {value : α} :
    Runs (.pure value : Program ε ρ α) trace a ↔ trace = [] ∧ value = a := Iff.rfl

theorem runs_request {operation : ε} {next : ρ operation → Program ε ρ α} :
    Runs (.request operation next) trace a ↔
      ∃ reply rest, trace = ⟨operation, reply⟩ :: rest ∧ Runs (next reply) rest a := Iff.rfl

@[simp] theorem runs_issue {operation : ε} {reply : ρ operation} :
    Runs (issue operation) trace reply ↔ trace = [⟨operation, reply⟩] := by
  rw [issue, runs_request]
  constructor
  · rintro ⟨other, rest, rfl, rfl, rfl⟩
    rfl
  · rintro rfl
    exact ⟨reply, [], rfl, rfl, rfl⟩

/-- **Sequencing rule.** The traces of a sequence are those of its parts, joined. -/
theorem runs_bind {p : Program ε ρ α} {f : α → Program ε ρ β} :
    Runs (p.bind f) trace b ↔
      ∃ a first rest, trace = first ++ rest ∧ Runs p first a ∧ Runs (f a) rest b := by
  induction p generalizing trace with
  | pure value =>
      constructor
      · intro h
        exact ⟨value, [], trace, rfl, ⟨rfl, rfl⟩, h⟩
      · rintro ⟨_, _, rest, rfl, ⟨rfl, rfl⟩, h⟩
        exact h
  | request operation next ih =>
      constructor
      · rintro ⟨reply, rest, rfl, h⟩
        obtain ⟨a, first, last, rfl, hp, hf⟩ := (ih reply).mp h
        exact ⟨a, _ :: first, last, rfl, ⟨reply, first, rfl, hp⟩, hf⟩
      · rintro ⟨a, _, last, rfl, ⟨reply, first, rfl, hp⟩, hf⟩
        exact ⟨reply, first ++ last, rfl, (ih reply).mpr ⟨a, first, last, rfl, hp, hf⟩⟩

/-- The requests of a run are among those that the program issues. -/
theorem Runs.issued {P : ε → Prop} {p : Program ε ρ α} (h : Runs p trace a) (hp : Issues P p) :
    ∀ event ∈ trace, P event.1 := by
  induction p generalizing trace with
  | pure value =>
      obtain ⟨rfl, -⟩ := h
      exact fun _ hevent => absurd hevent List.not_mem_nil
  | request operation next ih =>
      obtain ⟨reply, rest, rfl, hrest⟩ := h
      intro event hevent
      rcases List.mem_cons.mp hevent with rfl | hevent
      · exact hp.1
      · exact ih reply hrest (hp.2 reply) event hevent

end Runs

/-! ## Section 2: Steps that may end the program -/

/-- The step, and what follows when it succeeds; its error is the program's error. -/
def andThen (step : Program ε ρ (Except ζ α)) (next : α → Program ε ρ (Except ζ β)) :
    Program ε ρ (Except ζ β) :=
  attempt step .pure next

section AndThen

variable {step : Program ε ρ (Except ζ α)} {next : α → Program ε ρ (Except ζ β)}
  {trace : List (Event ρ)} {result : Except ζ β}

theorem runs_andThen :
    Runs (step.andThen next) trace result ↔
      (∃ error, Runs step trace (.error error) ∧ result = .error error) ∨
      (∃ value first rest, trace = first ++ rest ∧ Runs step first (.ok value) ∧
        Runs (next value) rest result) := by
  rw [andThen, attempt, runs_bind]
  constructor
  · rintro ⟨outcome, first, rest, rfl, hstep, hrest⟩
    cases outcome with
    | ok value => exact Or.inr ⟨value, first, rest, rfl, hstep, hrest⟩
    | error error =>
        obtain ⟨rfl, rfl⟩ := hrest
        left
        exact ⟨error, by rwa [List.append_nil], rfl⟩
  · rintro (⟨error, hstep, rfl⟩ | ⟨value, first, rest, rfl, hstep, hrest⟩)
    · exact ⟨.error error, trace, [], by rw [List.append_nil], hstep, rfl, rfl⟩
    · exact ⟨.ok value, first, rest, rfl, hstep, hrest⟩

/-- A step without a request. -/
@[simp] theorem runs_andThen_pure {outcome : Except ζ α} :
    Runs ((.pure outcome : Program ε ρ (Except ζ α)).andThen next) trace result ↔
      (∃ error, outcome = .error error ∧ trace = [] ∧ result = .error error) ∨
      (∃ value, outcome = .ok value ∧ Runs (next value) trace result) := by
  cases outcome with
  | ok value => simp [andThen, attempt, bind]
  | error error => simp [andThen, attempt, bind, eq_comm]

theorem issues_andThen {P : ε → Prop} (hstep : Issues P step)
    (hnext : ∀ value, Issues P (next value)) : Issues P (step.andThen next) :=
  issues_attempt hstep (fun _ => issues_pure) hnext

end AndThen

/-! ## Section 3: Replies given beforehand -/

/-- The trace and the value when a function answers the requests. -/
def answered (reply : (operation : ε) → ρ operation) :
    Program ε ρ α → List (Event ρ) × α
  | .pure value => ([], value)
  | .request operation next =>
    let rest := answered reply (next (reply operation))
    (⟨operation, reply operation⟩ :: rest.1, rest.2)

theorem runs_answered (reply : (operation : ε) → ρ operation) (p : Program ε ρ α) :
    Runs p (answered reply p).1 (answered reply p).2 := by
  induction p with
  | pure value => exact ⟨rfl, rfl⟩
  | request operation next ih => exact ⟨reply operation, _, rfl, ih _⟩

end Netdisk2Blob.Library.Program
