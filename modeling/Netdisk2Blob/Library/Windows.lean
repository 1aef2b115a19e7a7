import Mathlib.Data.List.Basic
import Mathlib.Data.List.TakeDrop

/-!
# Windows of a List

The elements of a list at the positions of an interval, when the list is the part of a
longer one that begins at some offset. A list that comes in fragments is cut fragment by
fragment, with the offset moved on by the length of each.

## Contents

- `window first last l`: the elements at the positions `first` to `last`
- `windowAt offset first last l`: the same, for a list whose first position is `offset`
- `windowAt_append`, `flatten_windows`: cutting a list in fragments
-/

namespace Netdisk2Blob.Library

variable {α : Type*} {offset first last : Nat}

/-- The elements of the list at the positions `first` to `last`, both included. -/
def window (first last : Nat) (l : List α) : List α := (l.take (last + 1)).drop first

/-- The elements at the positions `first` to `last` of the list that has `l` at `offset`. -/
def windowAt (offset first last : Nat) (l : List α) : List α :=
  (l.take (last + 1 - offset)).drop (first - offset)

@[simp] theorem windowAt_zero (l : List α) : windowAt 0 first last l = window first last l := by
  simp [windowAt, window]

@[simp] theorem windowAt_nil : windowAt offset first last ([] : List α) = [] := by
  simp [windowAt]

/-- What follows a list begins at the offset behind it. -/
theorem windowAt_append (l m : List α) :
    windowAt offset first last (l ++ m) =
      windowAt offset first last l ++ windowAt (offset + l.length) first last m := by
  have htake : last + 1 - offset - l.length = last + 1 - (offset + l.length) := by omega
  simp only [windowAt, List.take_append, htake, List.drop_append, List.length_take]
  -- either the first list is not cut at its end, or nothing of the second one is left
  rcases Nat.le_total l.length (last + 1 - offset) with hshort | hlong
  · have hdrop : first - offset - min (last + 1 - offset) l.length =
        first - (offset + l.length) := by omega
    rw [hdrop]
  · have hnone : last + 1 - (offset + l.length) = 0 := by omega
    simp [hnone]

theorem windowAt_eq_nil_of_lt {l : List α} (h : offset + l.length ≤ first) :
    windowAt offset first last l = [] := by
  apply List.drop_eq_nil_of_le
  rw [List.length_take]
  omega

theorem windowAt_eq_nil_of_gt {l : List α} (h : last < offset) :
    windowAt offset first last l = [] := by
  have hnone : last + 1 - offset = 0 := by omega
  simp [windowAt, hnone]

/-- A list that ends before the window does is only cut at its beginning. -/
theorem window_of_le {l : List α} (h : l.length ≤ last + 1) : window first last l = l.drop first := by
  rw [window, List.take_of_length_le h]

theorem length_window {l : List α} (hfirst : first ≤ last) (hlast : last < l.length) :
    (window first last l).length = last - first + 1 := by
  rw [window, List.length_drop, List.length_take]
  omega

/-- The windows of the fragments of a list, one by one. -/
def windows (first last : Nat) : Nat → List (List α) → List (List α)
  | _, [] => []
  | offset, fragment :: fragments =>
    windowAt offset first last fragment :: windows first last (offset + fragment.length) fragments

/-- The windows of the fragments join to the window of the list. -/
theorem flatten_windows (fragments : List (List α)) :
    (windows first last offset fragments).flatten =
      windowAt offset first last fragments.flatten := by
  induction fragments generalizing offset with
  | nil => simp [windows]
  | cons fragment fragments ih => simp only [windows, List.flatten_cons, ih, windowAt_append]

end Netdisk2Blob.Library
