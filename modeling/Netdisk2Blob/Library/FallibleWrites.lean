import Mathlib.Data.List.Basic
import Mathlib.Logic.Function.Basic

/-!
# Sequences of Fallible Writes

Writes to named locations, made one after another until one of them fails. A write that
fails may have changed its location, and what was written before it stays.

## Contents

- `Write`, `runWrites`: the sequence with its early return
- `performed`: the writes up to the first that fails
- `runWrites_apply`, `runWrites_of_not_performed`: what a location holds afterwards
- `runWrites_unchanged_iff`: with one write for each location, nothing has changed exactly
  when every performed write left its location as it was
-/

namespace Netdisk2Blob.Library

variable {ι ε : Type} {α : ι → Type}

/-- A write to one location: its error if it fails, and what the location holds after it. -/
structure Write (ι ε : Type) (α : ι → Type) where
  location : ι
  write : α location → Option ε × α location

namespace Write

/-- The error of the write in a state. -/
def error (w : Write ι ε α) (s : (i : ι) → α i) : Option ε := (w.write (s w.location)).1

/-- The write leaves its location as it is. -/
def Keeps (w : Write ι ε α) (s : (i : ι) → α i) : Prop :=
  (w.write (s w.location)).2 = s w.location

section Perform

variable [DecidableEq ι]

def perform (w : Write ι ε α) (s : (i : ι) → α i) : (i : ι) → α i :=
  Function.update s w.location (w.write (s w.location)).2

theorem perform_of_ne (w : Write ι ε α) (s : (i : ι) → α i) {i : ι} (h : i ≠ w.location) :
    w.perform s i = s i :=
  Function.update_of_ne h _ _

theorem perform_self (w : Write ι ε α) (s : (i : ι) → α i) :
    w.perform s w.location = (w.write (s w.location)).2 :=
  Function.update_self _ _ _

/-- What a write does depends on its location only. -/
theorem error_perform {w v : Write ι ε α} (s : (i : ι) → α i) (h : v.location ≠ w.location) :
    v.error (w.perform s) = v.error s := by
  rw [error, perform_of_ne w s h, error]

end Perform

end Write

/-- The writes up to the first that fails in the state, that one included. -/
def performed : List (Write ι ε α) → ((i : ι) → α i) → List (Write ι ε α)
  | [], _ => []
  | w :: ws, s => if (w.error s).isSome then [w] else w :: performed ws s

/-- One write for each location. -/
def Separate (ws : List (Write ι ε α)) : Prop := (ws.map Write.location).Nodup

section Performed

variable {s : (i : ι) → α i} {ws : List (Write ι ε α)}

theorem Separate.tail {w : Write ι ε α} (h : Separate (w :: ws)) :
    (∀ v ∈ ws, v.location ≠ w.location) ∧ Separate ws := by
  obtain ⟨hnew, hrest⟩ := List.nodup_cons.mp h
  exact ⟨fun v hv heq => hnew (heq ▸ List.mem_map_of_mem hv), hrest⟩

theorem performed_subset {w : Write ι ε α} (h : w ∈ performed ws s) : w ∈ ws := by
  induction ws with
  | nil => exact h
  | cons v ws ih =>
    rw [performed] at h
    split_ifs at h
    · rw [List.mem_singleton.mp h]
      exact List.mem_cons_self
    · rcases List.mem_cons.mp h with rfl | hrest
      · exact List.mem_cons_self
      · exact List.mem_cons_of_mem _ (ih hrest)

/-- When no write fails, all of them are performed. -/
theorem performed_eq_self (h : ∀ w ∈ ws, w.error s = none) : performed ws s = ws := by
  induction ws with
  | nil => rfl
  | cons v ws ih =>
    rw [performed, h v List.mem_cons_self, ih fun w hw => h w (List.mem_cons_of_mem _ hw)]
    rfl

end Performed

section Run

variable [DecidableEq ι]

/-- The writes in order; the first that fails is the last that is made. -/
def runWrites : List (Write ι ε α) → ((i : ι) → α i) → Option ε × ((i : ι) → α i)
  | [], s => (none, s)
  | w :: ws, s =>
    match w.error s with
    | some error => (some error, w.perform s)
    | none => runWrites ws (w.perform s)

variable {s : (i : ι) → α i} {ws : List (Write ι ε α)}

/-- A write to another location does not change which writes are performed. -/
theorem performed_perform {w : Write ι ε α} (h : ∀ v ∈ ws, v.location ≠ w.location) :
    performed ws (w.perform s) = performed ws s := by
  induction ws with
  | nil => rfl
  | cons v ws ih =>
    have hv := h v List.mem_cons_self
    rw [performed, performed, Write.error_perform s hv,
      ih fun u hu => h u (List.mem_cons_of_mem _ hu)]

/-- A location that no write is for keeps what it holds. -/
theorem runWrites_of_not_mem {i : ι} (h : ∀ w ∈ ws, i ≠ w.location) :
    (runWrites ws s).2 i = s i := by
  induction ws generalizing s with
  | nil => rfl
  | cons w ws ih =>
    rw [runWrites]
    have hw := Write.perform_of_ne w s (h w List.mem_cons_self)
    split
    · exact hw
    · rw [ih fun v hv => h v (List.mem_cons_of_mem _ hv), hw]

/-- A location holds what its performed write left there. -/
theorem runWrites_apply (hseparate : Separate ws) {w : Write ι ε α} (h : w ∈ performed ws s) :
    (runWrites ws s).2 w.location = (w.write (s w.location)).2 := by
  induction ws generalizing s with
  | nil => cases h
  | cons v ws ih =>
    obtain ⟨hne, hrest⟩ := hseparate.tail
    rw [performed] at h
    rw [runWrites]
    cases herror : v.error s with
    | some error =>
      rw [herror] at h
      rw [List.mem_singleton.mp h]
      exact Write.perform_self v s
    | none =>
      rw [herror] at h
      rcases List.mem_cons.mp h with rfl | hmem
      · -- the later writes are for other locations
        rw [runWrites_of_not_mem fun u hu => (hne u hu).symm]
        exact Write.perform_self w s
      · have hw := hne w (performed_subset hmem)
        rw [ih hrest (by rwa [performed_perform hne]), Write.perform_of_ne v s hw]

/-- A location holds what it held when its write was not performed. -/
theorem runWrites_of_not_performed (hseparate : Separate ws) {i : ι}
    (h : ∀ w ∈ performed ws s, i ≠ w.location) : (runWrites ws s).2 i = s i := by
  induction ws generalizing s with
  | nil => rfl
  | cons v ws ih =>
    obtain ⟨hne, hrest⟩ := hseparate.tail
    rw [performed] at h
    rw [runWrites]
    cases herror : v.error s with
    | some error =>
      rw [herror] at h
      exact Write.perform_of_ne v s (h v List.mem_cons_self)
    | none =>
      rw [herror] at h
      have hv := Write.perform_of_ne v s (h v List.mem_cons_self)
      rw [ih hrest, hv]
      intro w hw
      rw [performed_perform hne] at hw
      exact h w (List.mem_cons_of_mem _ hw)

/-- The error is that of the last write that was performed. -/
theorem runWrites_error_iff (hseparate : Separate ws) :
    (runWrites ws s).1 = none ↔ ∀ w ∈ ws, w.error s = none := by
  induction ws generalizing s with
  | nil => simp [runWrites]
  | cons v ws ih =>
    obtain ⟨hne, hrest⟩ := hseparate.tail
    rw [runWrites]
    cases herror : v.error s with
    | some error => simp [herror]
    | none =>
      simp only [List.mem_cons, forall_eq_or_imp, herror, true_and]
      rw [ih hrest]
      apply forall₂_congr
      intro w hw
      rw [Write.error_perform s (hne w hw)]

/-- Nothing has changed exactly when every write that was made left its location as it
was. -/
theorem runWrites_unchanged_iff (hseparate : Separate ws) :
    (runWrites ws s).2 = s ↔ ∀ w ∈ performed ws s, w.Keeps s := by
  constructor
  · intro hsame w hw
    have hleft := runWrites_apply hseparate hw
    rw [hsame] at hleft
    exact hleft.symm
  · intro hkeeps
    funext i
    by_cases hmem : ∃ w ∈ performed ws s, w.location = i
    · obtain ⟨w, hw, rfl⟩ := hmem
      rw [runWrites_apply hseparate hw]
      exact hkeeps w hw
    · apply runWrites_of_not_performed hseparate
      intro w hw heq
      exact hmem ⟨w, hw, heq.symm⟩

end Run

end Netdisk2Blob.Library
