import Mathlib.Data.Option.Basic

/-!
# Runs of a Partial Step Function

A system is a state type with a partial step function over actions; a run is a list
of actions. Nothing here depends on what the states or the actions are.

## Contents

- `run`: the state after a list of actions, if every one of them is enabled
- `Guarded`: every step of a run is taken where a guard holds
- `Always`: a property of every state a run visits
- `run_preserves`, `always_of_guarded`: the run rules for a guarded invariant, and
  `always_of_forall` for an invariant without a guard
- `always_iff_guarded`: a guard that decides a property step by step decides it for
  whole runs
-/

namespace Netdisk2Blob.Library

variable {σ α : Type*}

/-- The state after a list of actions; `none` when one of them is not enabled. -/
def run (step : σ → α → Option σ) : σ → List α → Option σ
  | s, [] => some s
  | s, a :: as => (step s a).bind (fun s' => run step s' as)

/-- Every step that is taken is taken in a state that meets the guard. -/
def Guarded (step : σ → α → Option σ) (guard : σ → α → Prop) : σ → List α → Prop
  | _, [] => True
  | s, a :: as => ∀ s', step s a = some s' → guard s a ∧ Guarded step guard s' as

/-- The property holds in every state that is visited, the first one included. -/
def Always (step : σ → α → Option σ) (P : σ → Prop) : σ → List α → Prop
  | s, [] => P s
  | s, a :: as => P s ∧ ∀ s', step s a = some s' → Always step P s' as

variable {step : σ → α → Option σ} {guard : σ → α → Prop} {Inv P : σ → Prop}

@[simp] theorem run_nil (s : σ) : run step s [] = some s := rfl

theorem run_cons {s t : σ} {a : α} {as : List α} :
    run step s (a :: as) = some t ↔ ∃ s', step s a = some s' ∧ run step s' as = some t := by
  simp only [run, Option.bind_eq_some_iff]

theorem run_append {s t : σ} {as bs : List α} :
    run step s (as ++ bs) = some t ↔
      ∃ m, run step s as = some m ∧ run step m bs = some t := by
  induction as generalizing s with
  | nil => simp
  | cons a as ih =>
    rw [List.cons_append, run_cons]
    constructor
    · rintro ⟨s', hs', hrun⟩
      obtain ⟨m, hm, hbs⟩ := ih.mp hrun
      exact ⟨m, run_cons.mpr ⟨s', hs', hm⟩, hbs⟩
    · rintro ⟨m, hm, hbs⟩
      obtain ⟨s', hs', hm'⟩ := run_cons.mp hm
      exact ⟨s', hs', ih.mpr ⟨m, hm', hbs⟩⟩

theorem guarded_cons {s s' : σ} {a : α} {as : List α} (hs' : step s a = some s')
    (hguard : guard s a) (hrest : Guarded step guard s' as) :
    Guarded step guard s (a :: as) := by
  intro t ht
  rw [hs'] at ht
  cases ht
  exact ⟨hguard, hrest⟩

theorem Always.of_run {s t : σ} {as : List α} (h : Always step P s as)
    (hrun : run step s as = some t) : P t := by
  induction as generalizing s with
  | nil =>
    obtain rfl : s = t := by simpa using hrun
    exact h
  | cons a as ih =>
    obtain ⟨s', hs', hrest⟩ := run_cons.mp hrun
    exact ih (h.2 s' hs') hrest

/-- **Run rule.** An invariant that every guarded step preserves holds after every
guarded run. -/
theorem run_preserves
    (hstep : ∀ s a s', Inv s → guard s a → step s a = some s' → Inv s')
    {s t : σ} {as : List α} (hs : Inv s) (hg : Guarded step guard s as)
    (hrun : run step s as = some t) : Inv t := by
  induction as generalizing s with
  | nil =>
    obtain rfl : s = t := by simpa using hrun
    exact hs
  | cons a as ih =>
    obtain ⟨s', hs', hrest⟩ := run_cons.mp hrun
    obtain ⟨hguard, hgrest⟩ := hg s' hs'
    exact ih (hstep s a s' hs hguard hs') hgrest hrest

/-- The run rule without a guard. -/
theorem run_preserves_of_forall (hstep : ∀ s a s', Inv s → step s a = some s' → Inv s')
    {s t : σ} {as : List α} (hs : Inv s) (hrun : run step s as = some t) : Inv t := by
  -- every run is guarded by the guard that holds everywhere
  have hg : Guarded step (fun _ _ => True) s as := by
    clear hrun hs
    induction as generalizing s with
    | nil => trivial
    | cons a as ih => exact fun s' _ => ⟨trivial, ih⟩
  exact run_preserves (fun s a s' h _ => hstep s a s' h) hs hg hrun

/-- A run that is guarded by one guard is guarded by another that follows from it under an
invariant. -/
theorem Guarded.of_invariant {guard' : σ → α → Prop}
    (hstep : ∀ s a s', Inv s → guard s a → step s a = some s' → Inv s')
    (himp : ∀ s a, Inv s → guard s a → guard' s a) {s : σ} {as : List α} (hs : Inv s)
    (hg : Guarded step guard s as) : Guarded step guard' s as := by
  induction as generalizing s with
  | nil => trivial
  | cons a as ih =>
    intro s' hs'
    obtain ⟨hguard, hrest⟩ := hg s' hs'
    exact ⟨himp s a hs hguard, ih (hstep s a s' hs hguard hs') hrest⟩

/-- The run rule, read over every state that is visited. -/
theorem always_of_guarded
    (hstep : ∀ s a s', Inv s → guard s a → step s a = some s' → Inv s')
    (hP : ∀ s, Inv s → P s) {s : σ} {as : List α} (hs : Inv s)
    (hg : Guarded step guard s as) : Always step P s as := by
  induction as generalizing s with
  | nil => exact hP s hs
  | cons a as ih =>
    refine ⟨hP s hs, ?_⟩
    intro s' hs'
    obtain ⟨hguard, hrest⟩ := hg s' hs'
    exact ih (hstep s a s' hs hguard hs') hrest

/-- The same without a guard. -/
theorem always_of_forall (hstep : ∀ s a s', Inv s → step s a = some s' → Inv s')
    (hP : ∀ s, Inv s → P s) {s : σ} {as : List α} (hs : Inv s) : Always step P s as := by
  induction as generalizing s with
  | nil => exact hP s hs
  | cons a as ih => exact ⟨hP s hs, fun s' hs' => ih (hstep s a s' hs hs')⟩

/-- If, from a state with the property, a step keeps the property exactly when the guard
holds there, then a run keeps it throughout exactly when all its steps are guarded. -/
theorem always_iff_guarded
    (hstep : ∀ s a s', Inv s → step s a = some s' → Inv s')
    (hiff : ∀ s a s', Inv s → P s → step s a = some s' → (P s' ↔ guard s a))
    {s : σ} {as : List α} (hs : Inv s) (hPs : P s) :
    Always step P s as ↔ Guarded step guard s as := by
  induction as generalizing s with
  | nil => exact ⟨fun _ => trivial, fun _ => hPs⟩
  | cons a as ih =>
    constructor
    · rintro ⟨-, hrest⟩ s' hs'
      have hPs' : P s' := by
        have := hrest s' hs'
        cases as with
        | nil => exact this
        | cons b bs => exact this.1
      exact ⟨(hiff s a s' hs hPs hs').mp hPs',
        (ih (hstep s a s' hs hs') hPs').mp (hrest s' hs')⟩
    · intro hg
      refine ⟨hPs, ?_⟩
      intro s' hs'
      obtain ⟨hguard, hrest⟩ := hg s' hs'
      have hPs' : P s' := (hiff s a s' hs hPs hs').mpr hguard
      exact (ih (hstep s a s' hs hs') hPs').mpr hrest

end Netdisk2Blob.Library
