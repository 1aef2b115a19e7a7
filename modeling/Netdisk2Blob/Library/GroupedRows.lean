import Netdisk2Blob.Library.Table
import Mathlib

/-!
# Rows Grouped Into a Table

A pass over rows keeps one entry per group in a keyed table: the first row of a group opens the
entry, and every row of the group, the first one included, is added to it.

## Contents

- `groupRows`: the pass
- `find?_groupRows`: the entry of a group is made of the rows of that group alone
- `sum_groupRows`: a count over all entries is the count over all rows
-/

namespace Netdisk2Blob.Library

variable {α β κ : Type*} [LinearOrder κ] {key : α → κ}

/-- One entry per group: `opened` for its first row, and `add` for every row. -/
def groupRows (group : β → κ) (opened : β → α) (add : α → β → α) (rows : List β)
    (t : Table α key) : Table α key :=
  rows.foldl
    (fun grouped b =>
      let entry := (grouped.find? (group b)).getD (opened b)
      grouped.upsert (add entry b)) t

section GroupRows

variable {group : β → κ} {opened : β → α} {add : α → β → α}
  (hopened : ∀ b, key (opened b) = group b) (hadd : ∀ a b, key (add a b) = key a)

include hopened hadd

/-- The entry that a row is added to is the entry of its group. -/
theorem key_added (t : Table α key) (b : β) :
    key (add ((t.find? (group b)).getD (opened b)) b) = group b := by
  rw [hadd]
  cases hfind : t.find? (group b) with
  | none => exact hopened b
  | some a => exact (Table.find?_eq_some.mp hfind).2

/-- **The entry of a group** is what the rows of that group make of it. -/
theorem find?_groupRows (rows : List β) (t : Table α key) (c : κ) :
    (groupRows group opened add rows t).find? c =
      (rows.filter fun b => decide (group b = c)).foldl
        (fun entry b => some (add (entry.getD (opened b)) b)) (t.find? c) := by
  -- the induction is on the rows, for every table that is there already
  induction rows generalizing t with
  | nil => rfl
  | cons b rows ih =>
      have hkey := key_added hopened hadd t b
      show (groupRows group opened add rows _).find? c = _
      rw [ih, Table.find?_upsert, hkey]
      by_cases hgroup : group b = c
      · subst hgroup
        rw [if_pos rfl, List.filter_cons_of_pos (by simp), List.foldl_cons]
      · rw [if_neg hgroup, List.filter_cons_of_neg (by simpa using hgroup)]

/-- **A count over all entries.** If adding a row adds its weight, and an entry opens without
weight, the entries weigh together what the rows do. -/
theorem sum_groupRows {weight : α → ℕ} {rowWeight : β → ℕ}
    (hweight : ∀ a b, weight (add a b) = weight a + rowWeight b)
    (hzero : ∀ b, weight (opened b) = 0) (rows : List β) (t : Table α key) :
    ((groupRows group opened add rows t).rows.map weight).sum =
      (t.rows.map weight).sum + (rows.map rowWeight).sum := by
  induction rows generalizing t with
  | nil => simp [groupRows]
  | cons b rows ih =>
      have hkey := key_added hopened hadd t b
      -- the old entry of the group, or an entry without weight, is replaced by the new one
      have hold : (t.rows.map weight).sum = weight ((t.find? (group b)).getD (opened b)) +
          ((t.rows.filter fun a => decide (key a ≠ group b)).map weight).sum := by
        rw [((t.rows_perm_filter (group b)).map weight).sum_nat, List.map_append, List.sum_append]
        cases t.find? (group b) with
        | none => simp [hzero]
        | some a => simp
      have hnew : (((t.upsert (add ((t.find? (group b)).getD (opened b)) b))).rows.map weight).sum =
          (t.rows.map weight).sum + rowWeight b := by
        rw [((t.upsert_perm _).map weight).sum_nat, List.map_cons, List.sum_cons, hkey, hweight,
          hold]
        omega
      show ((groupRows group opened add rows _).rows.map weight).sum = _
      rw [ih, hnew, List.map_cons, List.sum_cons, Nat.add_assoc]

end GroupRows

/-- The entry of a group that has rows: opened by the first one. -/
theorem foldl_group_cons (opened : β → α) (add : α → β → α) (b : β) (rows : List β) :
    (b :: rows).foldl (fun entry b => some (add (entry.getD (opened b)) b)) none =
      some ((b :: rows).foldl add (opened b)) := by
  have hsome : ∀ (rows : List β) (a : α),
      rows.foldl (fun entry b => some (add (entry.getD (opened b)) b)) (some a) =
        some (rows.foldl add a) := by
    intro rows
    induction rows with
    | nil => exact fun _ => rfl
    | cons c rows ih => exact fun a => ih (add a c)
  exact hsome rows (add (opened b) b)

end Netdisk2Blob.Library
