import Netdisk2Blob.Library.Table
import Netdisk2Blob.Library.SortedLists

/-!
# Joining Tables Key by Key

A map filled by one loop after another, each of which finds the entry of its row or makes
one. What the map holds at a key is decided by the rows with this key alone, and its first
rows are those of another table exactly when the two part late enough.

## Contents

- `Table.entry`: the entry of a key, made if it is missing, and changed
- `Table.find?_foldl_of_step`: a loop over rows with distinct keys, read at one key
- `Table.tabulate`: the table of a partial function
- `Table.take_rows_eq_iff`: when two tables start with the same rows
-/

namespace Netdisk2Blob.Library

variable {α ρ κ : Type*} [LinearOrder κ] {key : α → κ}

/-! ## Section 1: Loops that fill a table -/

/-- The one element of a key in a list of distinct keys. -/
theorem find?_eq_some_of_nodup {rows : List ρ} {keyOf : ρ → κ}
    (hnodup : (rows.map keyOf).Nodup) {k : κ} {row : ρ} :
    rows.find? (fun other => decide (keyOf other = k)) = some row ↔ row ∈ rows ∧ keyOf row = k := by
  constructor
  · intro hfind
    exact ⟨List.mem_of_find?_eq_some hfind, by simpa using List.find?_some hfind⟩
  · rintro ⟨hmem, hkey⟩
    have hsome : (rows.find? (fun other => decide (keyOf other = k))).isSome := by
      rw [List.find?_isSome]
      exact ⟨row, hmem, by simpa using hkey⟩
    obtain ⟨other, hother⟩ := Option.isSome_iff_exists.mp hsome
    have hkey' : keyOf other = k := by simpa using List.find?_some hother
    rw [hother, List.inj_on_of_nodup_map hnodup (List.mem_of_find?_eq_some hother) hmem
      (hkey'.trans hkey.symm)]

namespace Table

/-- The entry of a key, the default one if there is none, is changed. -/
def entry (t : Table α key) (default : α) (change : α → α) : Table α key :=
  t.upsert (change ((t.find? (key default)).getD default))

theorem key_find?_getD (t : Table α key) (default : α) :
    key ((t.find? (key default)).getD default) = key default := by
  cases hfind : t.find? (key default) with
  | none => rfl
  | some a => exact (find?_eq_some.mp hfind).2

theorem find?_entry {t : Table α key} {default : α} {change : α → α}
    (hchange : ∀ a, key (change a) = key a) {k : κ} :
    (t.entry default change).find? k =
      if key default = k then some (change ((t.find? k).getD default)) else t.find? k := by
  have hkey : key (change ((t.find? (key default)).getD default)) = key default :=
    (hchange _).trans (key_find?_getD t default)
  rw [entry, find?_upsert, hkey]
  by_cases hk : key default = k
  · rw [if_pos hk, if_pos hk, hk]
  · rw [if_neg hk, if_neg hk]

/-- A loop whose steps change only the row of their own key, at one key: the one row of the
list with this key is all that counts. -/
theorem find?_foldl_of_step {step : Table α key → ρ → Table α key} {keyOf : ρ → κ}
    {put : ρ → Option α → Option α}
    (hstep : ∀ t row k, (step t row).find? k =
      if keyOf row = k then put row (t.find? k) else t.find? k)
    {rows : List ρ} (hnodup : (rows.map keyOf).Nodup) (t : Table α key) (k : κ) :
    (rows.foldl step t).find? k =
      (rows.find? (fun row => decide (keyOf row = k))).elim (t.find? k)
        (fun row => put row (t.find? k)) := by
  induction rows generalizing t with
  | nil => rfl
  | cons row rows ih =>
    rw [List.map_cons, List.nodup_cons] at hnodup
    rw [List.foldl_cons, ih hnodup.2, hstep]
    by_cases hkey : keyOf row = k
    · -- no later row has this key
      have hnone : rows.find? (fun row => decide (keyOf row = k)) = none := by
        rw [List.find?_eq_none]
        intro other hother
        simp only [decide_eq_true_eq]
        intro heq
        exact hnodup.1 (hkey.trans heq.symm ▸ List.mem_map_of_mem hother)
      rw [hnone, List.find?_cons_of_pos (by simpa using hkey), if_pos hkey]
      rfl
    · rw [List.find?_cons_of_neg (by simpa using hkey), if_neg hkey]

/-- The table of a partial function on the keys of a list. -/
def tabulate (f : κ → Option α) : List κ → Table α key
  | [] => ∅
  | k :: keys => (f k).elim (tabulate f keys) (tabulate f keys).upsert

theorem find?_tabulate {f : κ → Option α} (hf : ∀ k a, f k = some a → key a = k)
    (keys : List κ) (k : κ) :
    (tabulate f keys : Table α key).find? k = if k ∈ keys then f k else none := by
  induction keys with
  | nil => rfl
  | cons k' keys ih =>
    rw [tabulate]
    cases hrow : f k' with
    | none =>
      rw [Option.elim_none, ih]
      by_cases hkey : k = k'
      · subst hkey
        simp [hrow]
      · simp [hkey]
    | some a =>
      rw [Option.elim_some, find?_upsert, hf k' a hrow, ih]
      by_cases hkey : k = k'
      · subst hkey
        simp [hrow]
      · rw [if_neg (Ne.symm hkey)]
        simp [hkey]

/-- Two tables start with the same rows exactly when each key at which they differ has enough
rows of the second before it. -/
theorem take_rows_eq_iff {t u : Table α key} {n : Nat} :
    t.rows.take n = u.rows.take n ↔
      ∀ k, t.find? k ≠ u.find? k → n ≤ (u.rows.filter (fun b => decide (key b < k))).length := by
  rw [SortedBy.take_eq_take_iff t.sorted u.sorted]
  constructor
  · intro hall k hdiff
    -- the row that only one of the tables has at this key
    cases hrow : t.find? k with
    | some a =>
      obtain ⟨ha, rfl⟩ := find?_eq_some.mp hrow
      apply hall a
      intro hiff
      exact hdiff (hrow.trans (find?_eq_some.mpr ⟨hiff.mp ha, rfl⟩).symm)
    | none =>
      cases hrow' : u.find? k with
      | none => exact absurd (hrow.trans hrow'.symm) hdiff
      | some a =>
        obtain ⟨ha, rfl⟩ := find?_eq_some.mp hrow'
        apply hall a
        intro hiff
        exact find?_eq_none.mp hrow a (hiff.mpr ha) rfl
  · intro hall a hdiff
    apply hall (key a)
    intro hsame
    apply hdiff
    have hiff : t.find? (key a) = some a ↔ u.find? (key a) = some a := by rw [hsame]
    simp only [find?_eq_some, and_true] at hiff
    exact hiff

end Table

end Netdisk2Blob.Library
