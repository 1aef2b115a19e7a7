import Mathlib.Data.List.Forall2
import Mathlib.Logic.Basic

/-!
# Results

What a chain of fallible steps that succeeded says of its steps.

## Contents

- `except_bind_ok`: a step and what follows it
- `mapM_ok`: a step for every element of a list
- `forM_ok_iff`: a check of every element of a list
-/

namespace Netdisk2Blob.Library

theorem except_bind_ok {ε α β : Type} {x : Except ε α} {f : α → Except ε β} {b : β} :
    (x >>= f) = .ok b ↔ ∃ a, x = .ok a ∧ f a = .ok b := by
  cases x with
  | error error =>
    constructor
    · intro h
      cases h
    · rintro ⟨a, ha, -⟩
      cases ha
  | ok a =>
    constructor
    · exact fun h => ⟨a, rfl, h⟩
    · rintro ⟨a', ha, h⟩
      cases ha
      exact h

/-- What a check of every element gives, element by element. -/
theorem mapM_ok {α β ε : Type} {f : α → Except ε β} {l : List α} {l' : List β}
    (h : l.mapM f = .ok l') : List.Forall₂ (fun a b => f a = .ok b) l l' := by
  induction l generalizing l' with
  | nil =>
    cases h
    exact .nil
  | cons a l ih =>
    rw [List.mapM_cons] at h
    obtain ⟨b, hb, h1⟩ := except_bind_ok.mp h
    obtain ⟨bs, hbs, h2⟩ := except_bind_ok.mp h1
    cases h2
    exact .cons hb (ih hbs)

/-- A loop of checks ends without an error when every check does. -/
theorem forM_ok_iff {α ε : Type} {f : α → Except ε Unit} {l : List α} {value : Unit} :
    l.forM f = .ok value ↔ ∀ a ∈ l, f a = .ok () := by
  induction l with
  | nil => simp [pure, Except.pure]
  | cons a l ih =>
    change (f a >>= fun _ => l.forM f) = .ok value ↔ _
    rw [except_bind_ok]
    simp only [List.mem_cons, forall_eq_or_imp, ih]
    constructor
    · rintro ⟨_, ha, hrest⟩
      exact ⟨ha, hrest⟩
    · intro ⟨ha, hrest⟩
      exact ⟨(), ha, hrest⟩

theorem exists_of_mem_forall₂ {α β : Type} {R : α → β → Prop} {l : List α} {l' : List β}
    (h : List.Forall₂ R l l') : ∀ b ∈ l', ∃ a ∈ l, R a b := by
  induction h with
  | nil => exact fun b hb => absurd hb List.not_mem_nil
  | @cons a b l l' hab _ ih =>
    intro b' hb'
    rcases List.mem_cons.mp hb' with rfl | hrest
    · exact ⟨a, List.mem_cons_self, hab⟩
    · obtain ⟨a', ha', hab'⟩ := ih b' hrest
      exact ⟨a', List.mem_cons_of_mem a ha', hab'⟩

end Netdisk2Blob.Library
