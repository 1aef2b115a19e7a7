import Mathlib.Data.List.Basic
import Mathlib.Data.List.Nodup

/-!
# First Occurrences

The loop that copies a list and skips what it has copied before.

## Contents

- `firstOccurrences`: the loop, with what it has copied so far
- `mem_firstOccurrences`, `nodup_firstOccurrences`, `firstOccurrences_of_nodup`
- `head?_firstOccurrencesFrom`: what stands first
-/

namespace Netdisk2Blob.Library

variable {α : Type*} [DecidableEq α]

/-- The loop, from what it has copied so far. -/
def firstOccurrencesFrom (unique : List α) (l : List α) : List α :=
  l.foldl (fun unique a => if a ∈ unique then unique else unique ++ [a]) unique

def firstOccurrences (l : List α) : List α := firstOccurrencesFrom [] l

theorem mem_firstOccurrencesFrom {unique l : List α} {a : α} :
    a ∈ firstOccurrencesFrom unique l ↔ a ∈ unique ∨ a ∈ l := by
  induction l generalizing unique with
  | nil => simp [firstOccurrencesFrom]
  | cons b l ih =>
    change a ∈ firstOccurrencesFrom (if b ∈ unique then unique else unique ++ [b]) l ↔ _
    rw [ih]
    split
    · rename_i hb
      simp only [List.mem_cons]
      constructor
      · exact fun h => h.imp_right Or.inr
      · rintro (h | rfl | h)
        · exact Or.inl h
        · exact Or.inl hb
        · exact Or.inr h
    · simp [or_assoc]

theorem nodup_firstOccurrencesFrom {unique l : List α} (h : unique.Nodup) :
    (firstOccurrencesFrom unique l).Nodup := by
  induction l generalizing unique with
  | nil => exact h
  | cons b l ih =>
    have hnext : (if b ∈ unique then unique else unique ++ [b]).Nodup := by
      split
      · exact h
      · rename_i hb
        apply List.nodup_append.mpr
        refine ⟨h, List.nodup_singleton b, ?_⟩
        intro a ha c hc heq
        rw [List.mem_singleton.mp hc] at heq
        exact hb (heq ▸ ha)
    exact ih hnext

/-- A list without repetitions is copied as it is. -/
theorem firstOccurrencesFrom_of_nodup {unique l : List α} (h : (unique ++ l).Nodup) :
    firstOccurrencesFrom unique l = unique ++ l := by
  induction l generalizing unique with
  | nil => simp [firstOccurrencesFrom]
  | cons b l ih =>
    have hb : b ∉ unique := by
      intro hmem
      exact (List.nodup_append.mp h).2.2 b hmem b List.mem_cons_self rfl
    change firstOccurrencesFrom (if b ∈ unique then unique else unique ++ [b]) l = _
    rw [if_neg hb, ih (by simpa using h), List.append_assoc, List.singleton_append]

/-- What was copied before stays in front. -/
theorem head?_firstOccurrencesFrom {unique l : List α} :
    (firstOccurrencesFrom unique l).head? = unique.head?.or l.head? := by
  induction l generalizing unique with
  | nil => simp [firstOccurrencesFrom]
  | cons b l ih =>
    change (firstOccurrencesFrom (if b ∈ unique then unique else unique ++ [b]) l).head? = _
    rw [ih]
    cases unique with
    | nil => rfl
    | cons a unique => split <;> rfl

@[simp] theorem mem_firstOccurrences {l : List α} {a : α} : a ∈ firstOccurrences l ↔ a ∈ l := by
  simp [firstOccurrences, mem_firstOccurrencesFrom]

theorem nodup_firstOccurrences (l : List α) : (firstOccurrences l).Nodup :=
  nodup_firstOccurrencesFrom List.nodup_nil

theorem firstOccurrences_of_nodup {l : List α} (h : l.Nodup) : firstOccurrences l = l :=
  firstOccurrencesFrom_of_nodup h

end Netdisk2Blob.Library
