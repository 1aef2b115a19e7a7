import Netdisk2Blob.Library.SortedLists
import Mathlib.Data.List.Nodup
import Mathlib.Order.OrderDual
import Mathlib.Order.Nat

/-!
# The Greatest Keys of a List

A list with distinct keys, cut behind the `n` elements with the greatest keys. What is kept are
the elements with fewer than `n` greater keys. That these are also the newest by another measure
is a matter of the pairs of elements on the two sides of the cut.

## Contents

- `descending`, `keysAbove`
- `mem_take_descending`, `mem_drop_descending`: the two sides of the cut
- `KeepsNewest`, `InOrder`, `keepsNewest_iff`
-/

namespace Netdisk2Blob.Library

variable {α κ τ : Type*} [LinearOrder κ] {key : α → κ} {l : List α} {n : Nat}

/-- The elements with the greatest key first. -/
def descending (key : α → κ) (l : List α) : List α :=
  l.insertionSort (fun left right => key right ≤ key left)

/-- How many elements have a greater key. -/
def keysAbove (key : α → κ) (l : List α) (a : α) : Nat :=
  (l.filter (fun b => decide (key a < key b))).length

theorem perm_descending (key : α → κ) (l : List α) : (descending key l).Perm l :=
  List.perm_insertionSort _ _

theorem mem_descending {a : α} : a ∈ descending key l ↔ a ∈ l := (perm_descending key l).mem_iff

/-- The greatest key first: the dual keys increase. -/
theorem sortedBy_descending (h : (l.map key).Nodup) :
    SortedBy (fun a => OrderDual.toDual (key a)) (descending key l) :=
  @sortedBy_insertionSort α κᵒᵈ _ (fun a => OrderDual.toDual (key a)) l h

/-- The order in which a list is given does not matter. -/
theorem descending_eq_of_perm {l' : List α} (h : (l.map key).Nodup) (hperm : l.Perm l') :
    descending key l = descending key l' := by
  have h' : (l'.map key).Nodup := (hperm.map key).nodup_iff.mp h
  refine (sortedBy_descending h).eq_of_mem_iff (sortedBy_descending h') ?_
  intro a
  rw [mem_descending, mem_descending, hperm.mem_iff]

theorem mem_take_descending (h : (l.map key).Nodup) {a : α} :
    a ∈ (descending key l).take n ↔ a ∈ l ∧ keysAbove key l a < n := by
  rw [(sortedBy_descending h).mem_take_iff, mem_descending]
  have hlength := ((perm_descending key l).filter
    (fun b => decide (OrderDual.toDual (key b) < OrderDual.toDual (key a)))).length_eq
  rw [hlength]
  rfl

theorem mem_drop_descending (h : (l.map key).Nodup) {a : α} :
    a ∈ (descending key l).drop n ↔ a ∈ l ∧ n ≤ keysAbove key l a := by
  have hnodup := (sortedBy_descending h).nodup
  rw [← List.take_append_drop n (descending key l)] at hnodup
  have hdisjoint := List.disjoint_of_nodup_append hnodup
  have hmem : a ∈ l ↔ a ∈ (descending key l).take n ∨ a ∈ (descending key l).drop n := by
    rw [← List.mem_append, List.take_append_drop, mem_descending]
  constructor
  · intro hdrop
    refine ⟨hmem.mpr (Or.inr hdrop), ?_⟩
    by_contra hlt
    exact hdisjoint ((mem_take_descending h).mpr ⟨hmem.mpr (Or.inr hdrop), by omega⟩) hdrop
  · rintro ⟨ha, hle⟩
    rcases hmem.mp ha with htake | hdrop
    · have hlt := ((mem_take_descending h).mp htake).2
      omega
    · exact hdrop

/-- What remains when everything behind the cut is removed. -/
theorem perm_filter_not_mem_drop [DecidableEq α] (h : (l.map key).Nodup) :
    (l.filter (fun a => decide (a ∉ (descending key l).drop n))).Perm
      ((descending key l).take n) := by
  refine (List.perm_ext_iff_of_nodup (h.of_map.filter _) ?_).mpr ?_
  · exact (sortedBy_descending h).nodup.sublist (List.take_sublist _ _)
  · intro a
    rw [List.mem_filter, decide_eq_true_eq, mem_drop_descending h, mem_take_descending h]
    constructor
    · rintro ⟨ha, hnot⟩
      exact ⟨ha, by by_contra hle; exact hnot ⟨ha, by omega⟩⟩
    · rintro ⟨ha, hlt⟩
      exact ⟨ha, fun hdrop => by omega⟩

/-! ## The newest elements -/

/-- Of the elements of `before`, the `n` newest remain, and `current` is one of them. -/
structure KeepsNewest [LE τ] (age : α → τ) (n : Nat) (before after : List α) (current : α) :
    Prop where
  subset : ∀ a ∈ after, a ∈ before
  length_eq : after.length = min n before.length
  newest : ∀ a ∈ after, ∀ b ∈ before, b ∉ after → age b ≤ age a
  current_mem : current ∈ after

/-- No element with fewer than `n` greater keys is older than one that has at least `n` of them,
and `current` has fewer. -/
structure InOrder [LE τ] (key : α → κ) (age : α → τ) (n : Nat) (l : List α) (current : α) :
    Prop where
  newest : ∀ a ∈ l, ∀ b ∈ l, keysAbove key l a < n → n ≤ keysAbove key l b → age b ≤ age a
  current_lt : keysAbove key l current < n

theorem keepsNewest_iff [LE τ] {age : α → τ} {after : List α} {current : α}
    (h : (l.map key).Nodup) (hcurrent : current ∈ l)
    (hafter : after.Perm ((descending key l).take n)) :
    KeepsNewest age n l after current ↔ InOrder key age n l current := by
  have hmem : ∀ a, a ∈ after ↔ a ∈ l ∧ keysAbove key l a < n :=
    fun a => hafter.mem_iff.trans (mem_take_descending h)
  constructor
  · intro hkeeps
    refine ⟨?_, ((hmem current).mp hkeeps.current_mem).2⟩
    intro a ha b hb hlt hle
    refine hkeeps.newest a ((hmem a).mpr ⟨ha, hlt⟩) b hb ?_
    intro hkept
    have hlt' := ((hmem b).mp hkept).2
    omega
  · intro horder
    refine ⟨fun a ha => ((hmem a).mp ha).1, ?_, ?_, (hmem current).mpr ⟨hcurrent, horder.current_lt⟩⟩
    · rw [hafter.length_eq, List.length_take, (perm_descending key l).length_eq]
    · intro a ha b hb hdropped
      obtain ⟨ha, hlt⟩ := (hmem a).mp ha
      refine horder.newest a ha b hb hlt ?_
      by_contra hlt'
      exact hdropped ((hmem b).mpr ⟨hb, by omega⟩)

end Netdisk2Blob.Library
