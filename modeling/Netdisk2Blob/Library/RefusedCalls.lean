import Netdisk2Blob.Library.Traces

/-!
# Calls That May Be Refused

A program calls a service step by step, and any call may be refused. A call that is refused
changes nothing; one that is carried out does what the service does with it. The session keeps a
log of the calls with what became of them.

## Contents

- `Service`, `Session`, `Calls`: the runs of a program under any refusals
- `calls_ask`, `calls_andThen`: the rules for one call and for a sequence
- `Makes`: which calls a program makes; `calls_log`: the log only grows, by such calls
- `calls_keep`: what none of them changes
- `carryOut`: the run under given refusals
-/

namespace Netdisk2Blob.Library.Program

variable {κ ε σ α β : Type} {Value : κ → Type}

/-! ## Section 1: Sessions -/

/-- What a service does with a call in a state; it may refuse a call by itself. -/
abbrev Service (κ : Type) (Value : κ → Type) (ε σ : Type) :=
  (call : κ) → σ → Except ε (Value call × σ)

/-- The state of the service, and the calls so far with whether they were carried out. -/
structure Session (κ σ : Type) where
  state : σ
  log : List (κ × Bool)

/-- The answer to a call, which the environment may refuse with an error. -/
def respond (perform : Service κ Value ε σ) :
    Handler κ (fun call => Except ε (Value call)) (Option ε) (Session κ σ) :=
  fun call refusal s =>
    match refusal with
    | some error => (.error error, ⟨s.state, s.log ++ [(call, false)]⟩)
    | none =>
      match perform call s.state with
      | .ok (value, state) => (.ok value, ⟨state, s.log ++ [(call, true)]⟩)
      | .error error => (.error error, ⟨s.state, s.log ++ [(call, false)]⟩)

/-- The program can end so, whichever calls are refused. Only the rules below look into it. -/
@[irreducible] def Calls (perform : Service κ Value ε σ)
    (p : Program κ (fun call => Except ε (Value call)) α) (s : Session κ σ) (a : α)
    (t : Session κ σ) : Prop :=
  Ends (respond perform) (fun _ _ => True) p s a t

variable {perform : Service κ Value ε σ} {s t : Session κ σ}

/-! ## Section 2: Rules -/

@[simp] theorem calls_pure {value a : α} :
    Calls perform (.pure value) s a t ↔ value = a ∧ s = t := by
  rw [Calls, ends_pure]

/-- One call: it is refused, or carried out. -/
theorem calls_ask {call : κ} {result : Except ε (Value call)} :
    Calls perform (issue call) s result t ↔
      (∃ error, result = .error error ∧ t = ⟨s.state, s.log ++ [(call, false)]⟩) ∨
      (∃ value state, perform call s.state = .ok (value, state) ∧ result = .ok value ∧
        t = ⟨state, s.log ++ [(call, true)]⟩) := by
  rw [Calls, ends_issue]
  constructor
  · intro h
    obtain ⟨refusal, -, h⟩ := h
    cases refusal with
    | some error =>
        obtain ⟨rfl, rfl⟩ := Prod.mk.inj h
        exact Or.inl ⟨error, rfl, rfl⟩
    | none =>
        rw [respond] at h
        cases hperform : perform call s.state with
        | error error =>
            rw [hperform] at h
            obtain ⟨rfl, rfl⟩ := Prod.mk.inj h
            exact Or.inl ⟨error, rfl, rfl⟩
        | ok done =>
            rw [hperform] at h
            obtain ⟨rfl, rfl⟩ := Prod.mk.inj h
            exact Or.inr ⟨done.1, done.2, rfl, rfl, rfl⟩
  · intro h
    rcases h with ⟨error, rfl, rfl⟩ | ⟨value, state, hperform, rfl, rfl⟩
    · exact ⟨some error, trivial, rfl⟩
    · refine ⟨none, trivial, ?_⟩
      rw [respond, hperform]

/-- A sequence ends with the error of its first step, or with what follows it. -/
theorem calls_andThen {step : Program κ (fun call => Except ε (Value call)) (Except ε α)}
    {next : α → Program κ (fun call => Except ε (Value call)) (Except ε β)}
    {result : Except ε β} :
    Calls perform (step.andThen next) s result t ↔
      (∃ error, Calls perform step s (.error error) t ∧ result = .error error) ∨
      (∃ value m, Calls perform step s (.ok value) m ∧ Calls perform (next value) m result t) := by
  unfold Calls
  rw [andThen, ends_attempt]
  constructor
  · intro h
    rcases h with ⟨value, m, hstep, hnext⟩ | ⟨error, m, failure, hstep, ⟨rfl, rfl⟩, rfl⟩
    · exact Or.inr ⟨value, m, hstep, hnext⟩
    · exact Or.inl ⟨error, hstep, rfl⟩
  · intro h
    rcases h with ⟨error, hstep, rfl⟩ | ⟨value, m, hstep, hnext⟩
    · exact Or.inr ⟨error, t, error, hstep, ⟨rfl, rfl⟩, rfl⟩
    · exact Or.inl ⟨value, m, hstep, hnext⟩

theorem calls_andThen_ok {step : Program κ (fun call => Except ε (Value call)) (Except ε α)}
    {next : α → Program κ (fun call => Except ε (Value call)) (Except ε β)} {value : β} :
    Calls perform (step.andThen next) s (.ok value) t ↔
      ∃ a m, Calls perform step s (.ok a) m ∧ Calls perform (next a) m (.ok value) t := by
  rw [calls_andThen]
  constructor
  · intro h
    rcases h with ⟨error, -, herror⟩ | h
    · cases herror
    · exact h
  · exact Or.inr

/-- A step without a call. -/
@[simp] theorem calls_andThen_pure {outcome : Except ε α}
    {next : α → Program κ (fun call => Except ε (Value call)) (Except ε β)}
    {result : Except ε β} :
    Calls perform ((.pure outcome : Program κ _ (Except ε α)).andThen next) s result t ↔
      (∃ error, outcome = .error error ∧ result = .error error ∧ s = t) ∨
      (∃ value, outcome = .ok value ∧ Calls perform (next value) s result t) := by
  rw [calls_andThen]
  simp only [calls_pure]
  constructor
  · intro h
    rcases h with ⟨error, ⟨rfl, rfl⟩, rfl⟩ | ⟨value, m, ⟨rfl, rfl⟩, hnext⟩
    · exact Or.inl ⟨error, rfl, rfl, rfl⟩
    · exact Or.inr ⟨value, rfl, hnext⟩
  · intro h
    rcases h with ⟨error, rfl, rfl, rfl⟩ | ⟨value, rfl, hnext⟩
    · exact Or.inl ⟨error, ⟨rfl, rfl⟩, rfl⟩
    · exact Or.inr ⟨value, s, ⟨rfl, rfl⟩, hnext⟩

theorem calls_bind {p : Program κ (fun call => Except ε (Value call)) α}
    {f : α → Program κ (fun call => Except ε (Value call)) β} {b : β} :
    Calls perform (p.bind f) s b t ↔
      ∃ a m, Calls perform p s a m ∧ Calls perform (f a) m b t := by
  unfold Calls
  exact ends_bind

theorem calls_attempt {ζ : Type}
    {step : Program κ (fun call => Except ε (Value call)) (Except ζ α)}
    {recover : ζ → Program κ (fun call => Except ε (Value call)) ζ}
    {next : α → Program κ (fun call => Except ε (Value call)) (Except ζ β)}
    {result : Except ζ β} :
    Calls perform (attempt step recover next) s result t ↔
      (∃ value m, Calls perform step s (.ok value) m ∧ Calls perform (next value) m result t) ∨
      (∃ error m failure, Calls perform step s (.error error) m ∧
        Calls perform (recover error) m failure t ∧ result = .error failure) := by
  unfold Calls
  exact ends_attempt

/-! ## Section 3: Which calls a program makes -/

/-- Whatever the answers are, every call of the program has the property. -/
@[irreducible] def Makes (P : κ → Prop) (p : Program κ (fun call => Except ε (Value call)) α) :
    Prop :=
  Issues P p

section Makes

variable {P Q : κ → Prop} {p : Program κ (fun call => Except ε (Value call)) α}

theorem makes_pure {value : α} :
    Makes P (.pure value : Program κ (fun call => Except ε (Value call)) α) := by
  unfold Makes
  exact issues_pure

theorem makes_ask {call : κ} (h : P call) :
    Makes P (issue call : Program κ (fun call => Except ε (Value call)) _) := by
  unfold Makes
  exact issues_issue h

theorem makes_attempt {ζ : Type}
    {step : Program κ (fun call => Except ε (Value call)) (Except ζ α)}
    {recover : ζ → Program κ (fun call => Except ε (Value call)) ζ}
    {next : α → Program κ (fun call => Except ε (Value call)) (Except ζ β)}
    (hstep : Makes P step) (hrecover : ∀ error, Makes P (recover error))
    (hnext : ∀ value, Makes P (next value)) : Makes P (attempt step recover next) := by
  unfold Makes at hstep hrecover hnext ⊢
  exact issues_attempt hstep hrecover hnext

theorem makes_andThen {step : Program κ (fun call => Except ε (Value call)) (Except ε α)}
    {next : α → Program κ (fun call => Except ε (Value call)) (Except ε β)}
    (hstep : Makes P step) (hnext : ∀ value, Makes P (next value)) : Makes P (step.andThen next) :=
  makes_attempt hstep (fun _ => makes_pure) hnext

theorem makes_true (p : Program κ (fun call => Except ε (Value call)) α) :
    Makes (fun _ => True) p := by
  unfold Makes
  induction p with
  | pure value => trivial
  | request call next ih => exact ⟨trivial, ih⟩

end Makes

/-- The log grows by calls that the program makes. -/
theorem calls_log {P : κ → Prop} {p : Program κ (fun call => Except ε (Value call)) α} {a : α}
    (hp : Makes P p) (h : Calls perform p s a t) :
    ∃ new, t.log = s.log ++ new ∧ ∀ entry ∈ new, P entry.1 := by
  unfold Makes at hp
  unfold Calls at h
  induction p generalizing s with
  | pure value =>
      obtain ⟨-, rfl⟩ := h
      exact ⟨[], (List.append_nil _).symm, fun _ hmem => absurd hmem List.not_mem_nil⟩
  | request call next ih =>
      obtain ⟨refusal, -, hrest⟩ := h
      obtain ⟨new, hlog, hnew⟩ := ih _ (hp.2 _) hrest
      have hstep : ∃ done, (respond perform call refusal s).2.log = s.log ++ [(call, done)] := by
        rw [respond.eq_def]
        cases refusal with
        | some error => exact ⟨false, rfl⟩
        | none =>
            cases perform call s.state with
            | ok done => exact ⟨true, rfl⟩
            | error error => exact ⟨false, rfl⟩
      obtain ⟨done, hdone⟩ := hstep
      refine ⟨(call, done) :: new, ?_, ?_⟩
      · rw [hlog, hdone, List.append_assoc]
        rfl
      · intro entry hentry
        rcases List.mem_cons.mp hentry with rfl | hentry
        · exact hp.1
        · exact hnew entry hentry

/-- What no call of the program changes when it is carried out, the program keeps. -/
theorem calls_keep {P : κ → Prop} {p : Program κ (fun call => Except ε (Value call)) α} {a : α}
    (hp : Makes P p)
    (hkeep : ∀ call state value state', P call → perform call state = .ok (value, state') →
      state' = state)
    (h : Calls perform p s a t) : t.state = s.state := by
  unfold Makes at hp
  unfold Calls at h
  apply h.keeps hp
  intro call refusal s hcall
  rw [respond.eq_def]
  cases refusal with
  | some error => rfl
  | none =>
      cases hperform : perform call s.state with
      | ok done => exact hkeep call s.state done.1 done.2 hcall hperform
      | error error => rfl

/-! ## Section 4: A run under given refusals -/

/-- The run in which each call is refused as the list says, and no call after the list. -/
def carryOut (perform : Service κ Value ε σ) :
    List (Option ε) → Program κ (fun call => Except ε (Value call)) α → Session κ σ →
      α × Session κ σ
  | _, .pure value, s => (value, s)
  | refusals, .request call next, s =>
    let answered := respond perform call (refusals.head?.getD none) s
    carryOut perform refusals.tail (next answered.1) answered.2

theorem calls_carryOut (refusals : List (Option ε))
    (p : Program κ (fun call => Except ε (Value call)) α) (s : Session κ σ) :
    Calls perform p s (carryOut perform refusals p s).1 (carryOut perform refusals p s).2 := by
  unfold Calls
  induction p generalizing refusals s with
  | pure value => exact ⟨rfl, rfl⟩
  | request call next ih => exact ⟨_, trivial, ih _ refusals.tail _⟩

end Netdisk2Blob.Library.Program
