import Mathlib.Data.List.Sort
import Mathlib.Data.List.Basic
import Mathlib.Data.List.Pairwise
import Mathlib.Order.Lattice
import Mathlib.Order.Defs.LinearOrder

/-!
# Keyed Tables

A relational table scanned in primary-key order: rows with strictly increasing
keys. The invariant is a field, so an insert, update or delete that would leave two
rows with one key cannot be written down.

## Contents

- `Table`, membership and lookup by key
- `upsert`, `modify`, `delete`: the three write statements
- `latest`, `isLast`, `lastRows`: `ORDER BY key DESC LIMIT 1` and the
  `MAX(key) ... GROUP BY` self-join
- `lastRows_delete`: deleting rows that are not last of their group leaves the last
  rows of every group as they were
- `insertAll`: plain inserts, which fail on a key that is taken
- `upsertAll`: row after row placed; what it leaves of a table is what has other keys
  (`upsertAll_eq_upsertAll_iff`)
-/

namespace Netdisk2Blob.Library

/-! ## Section 1: Tables -/

/-- A table: rows in strictly increasing order of their primary key. -/
structure Table (α : Type*) {κ : Type*} [LinearOrder κ] (key : α → κ) where
  rows : List α
  sorted : rows.Pairwise (fun a b => key a < key b)

namespace Table

variable {α κ γ : Type*} [LinearOrder κ] {key : α → κ}

/-- The table without rows. -/
def empty : Table α key := ⟨[], List.Pairwise.nil⟩

instance : EmptyCollection (Table α key) := ⟨empty⟩

instance : Membership α (Table α key) := ⟨fun t a => a ∈ t.rows⟩

@[simp] theorem mem_rows {t : Table α key} {a : α} : a ∈ t.rows ↔ a ∈ t := Iff.rfl

@[simp] theorem rows_empty : (∅ : Table α key).rows = [] := rfl

@[simp] theorem not_mem_empty (a : α) : a ∉ (∅ : Table α key) := List.not_mem_nil

/-- Two rows of a table with the same key are the same row. -/
theorem eq_of_key_eq {t : Table α key} {a b : α} (ha : a ∈ t) (hb : b ∈ t)
    (hkey : key a = key b) : a = b := by
  have hinj : t.rows.Pairwise (fun x y => key x ≠ key y) :=
    t.sorted.imp (fun h => ne_of_lt h)
  have : Std.Symm (fun x y : α => key x ≠ key y) := ⟨fun _ _ h => Ne.symm h⟩
  by_contra hne
  exact hinj.forall ha hb hne hkey

/-- A table is determined by its rows. -/
@[ext] theorem ext {t u : Table α key} (h : t.rows = u.rows) : t = u := by
  cases t
  cases u
  simpa using h

/-- Lookup by primary key. -/
def find? (t : Table α key) (k : κ) : Option α :=
  t.rows.find? (fun a => decide (key a = k))

theorem find?_eq_some {t : Table α key} {k : κ} {a : α} :
    t.find? k = some a ↔ a ∈ t ∧ key a = k := by
  constructor
  · intro h
    exact ⟨List.mem_of_find?_eq_some h, by simpa using List.find?_some h⟩
  · rintro ⟨hmem, hkey⟩
    have hsome : (t.find? k).isSome := by
      rw [find?, List.find?_isSome]
      exact ⟨a, hmem, by simpa using hkey⟩
    obtain ⟨b, hb⟩ := Option.isSome_iff_exists.mp hsome
    have hbmem : b ∈ t := List.mem_of_find?_eq_some hb
    have hbkey : key b = k := by simpa using List.find?_some hb
    rw [hb, eq_of_key_eq hbmem hmem (hbkey.trans hkey.symm)]

theorem find?_eq_none {t : Table α key} {k : κ} :
    t.find? k = none ↔ ∀ a ∈ t, key a ≠ k := by
  simp [find?, List.find?_eq_none]

/-! ## Section 2: Write statements -/

/-- Place a row at its key, replacing the row that has this key. -/
def insertRow (key : α → κ) (a : α) : List α → List α
  | [] => [a]
  | b :: bs =>
    if key a < key b then a :: b :: bs
    else if key b < key a then b :: insertRow key a bs
    else a :: bs

theorem mem_insertRow {a b : α} {l : List α}
    (hl : l.Pairwise (fun x y => key x < key y)) :
    b ∈ insertRow key a l ↔ b = a ∨ (b ∈ l ∧ key b ≠ key a) := by
  induction l with
  | nil => simp [insertRow]
  | cons c cs ih =>
    obtain ⟨hc, hcs⟩ := List.pairwise_cons.mp hl
    -- every row of the tail lies above the head
    have habove : ∀ x ∈ cs, key c < key x := hc
    rw [insertRow]
    split_ifs with hac hca
    · -- the new row goes in front: no old row has its key
      have hne : ∀ x ∈ c :: cs, key x ≠ key a := by
        intro x hx
        rcases List.mem_cons.mp hx with rfl | hx
        · exact ne_of_gt hac
        · exact ne_of_gt (hac.trans (habove x hx))
      constructor
      · intro hb
        rcases List.mem_cons.mp hb with rfl | hb
        · exact Or.inl rfl
        · exact Or.inr ⟨hb, hne b hb⟩
      · rintro (rfl | ⟨hb, -⟩)
        · exact List.mem_cons_self
        · exact List.mem_cons_of_mem _ hb
    · rw [List.mem_cons, List.mem_cons, ih hcs]
      have hcne : key c ≠ key a := ne_of_lt hca
      constructor
      · rintro (rfl | rfl | ⟨hb, hbne⟩)
        · exact Or.inr ⟨Or.inl rfl, hcne⟩
        · exact Or.inl rfl
        · exact Or.inr ⟨Or.inr hb, hbne⟩
      · rintro (rfl | ⟨rfl | hb, hbne⟩)
        · exact Or.inr (Or.inl rfl)
        · exact Or.inl rfl
        · exact Or.inr (Or.inr ⟨hb, hbne⟩)
    · -- equal keys: the head is replaced and the tail lies above
      have heq : key c = key a := le_antisymm (not_lt.mp hac) (not_lt.mp hca)
      constructor
      · intro hb
        rcases List.mem_cons.mp hb with rfl | hb
        · exact Or.inl rfl
        · exact Or.inr ⟨List.mem_cons_of_mem _ hb, heq ▸ ne_of_gt (habove b hb)⟩
      · rintro (rfl | ⟨hb, hbne⟩)
        · exact List.mem_cons_self
        · rcases List.mem_cons.mp hb with rfl | hb
          · exact absurd heq hbne
          · exact List.mem_cons_of_mem _ hb

theorem sorted_insertRow {a : α} {l : List α}
    (hl : l.Pairwise (fun x y => key x < key y)) :
    (insertRow key a l).Pairwise (fun x y => key x < key y) := by
  induction l with
  | nil => simp [insertRow]
  | cons c cs ih =>
    obtain ⟨hc, hcs⟩ := List.pairwise_cons.mp hl
    rw [insertRow]
    split_ifs with hac hca
    · refine List.pairwise_cons.mpr ⟨?_, hl⟩
      intro x hx
      rcases List.mem_cons.mp hx with rfl | hx
      · exact hac
      · exact hac.trans (hc x hx)
    · refine List.pairwise_cons.mpr ⟨?_, ih hcs⟩
      intro x hx
      rcases (mem_insertRow hcs).mp hx with rfl | ⟨hx, -⟩
      · exact hca
      · exact hc x hx
    · have heq : key c = key a := le_antisymm (not_lt.mp hac) (not_lt.mp hca)
      exact List.pairwise_cons.mpr ⟨fun x hx => heq ▸ hc x hx, hcs⟩

/-- `INSERT ... ON CONFLICT(key) DO UPDATE` of a whole row. -/
def upsert (t : Table α key) (a : α) : Table α key :=
  ⟨insertRow key a t.rows, sorted_insertRow t.sorted⟩

@[simp] theorem mem_upsert {t : Table α key} {a b : α} :
    b ∈ t.upsert a ↔ b = a ∨ (b ∈ t ∧ key b ≠ key a) :=
  mem_insertRow t.sorted

theorem insertRow_of_forall_lt {a : α} {l : List α} (h : ∀ b ∈ l, key b < key a) :
    insertRow key a l = l ++ [a] := by
  induction l with
  | nil => rfl
  | cons b bs ih =>
    have hb : key b < key a := h b List.mem_cons_self
    rw [insertRow, if_neg (not_lt_of_gt hb), if_pos hb, List.cons_append,
      ih (fun c hc => h c (List.mem_cons_of_mem _ hc))]

/-- A row above every other row is appended. -/
theorem upsert_rows_of_forall_lt {t : Table α key} {a : α} (h : ∀ b ∈ t, key b < key a) :
    (t.upsert a).rows = t.rows ++ [a] :=
  insertRow_of_forall_lt h

/-- Placing a row is dropping the row of its key and adding it, in some order. -/
theorem insertRow_perm {a : α} {l : List α} (hl : l.Pairwise (fun x y => key x < key y)) :
    (insertRow key a l).Perm (a :: l.filter (fun b => decide (key b ≠ key a))) := by
  induction l with
  | nil => exact List.Perm.refl _
  | cons c cs ih =>
    obtain ⟨hc, hcs⟩ := List.pairwise_cons.mp hl
    have hall : key a ≤ key c →
        cs.filter (fun b => decide (key b ≠ key a)) = cs := by
      intro hle
      rw [List.filter_eq_self]
      intro b hb
      simpa using (lt_of_le_of_lt hle (hc b hb)).ne'
    rw [insertRow]
    split_ifs with hac hca
    · rw [List.filter_cons_of_pos (by simpa using hac.ne'), hall hac.le]
    · rw [List.filter_cons_of_pos (by simpa using hca.ne)]
      exact ((ih hcs).cons c).trans (List.Perm.swap a c _)
    · have heq : key c = key a := le_antisymm (not_lt.mp hac) (not_lt.mp hca)
      rw [List.filter_cons_of_neg (by simpa using heq), hall heq.ge]

theorem upsert_perm (t : Table α key) (a : α) :
    (t.upsert a).rows.Perm (a :: t.rows.filter (fun b => decide (key b ≠ key a))) :=
  insertRow_perm t.sorted

theorem nodup_rows (t : Table α key) : t.rows.Nodup :=
  t.sorted.imp (fun hlt => ne_of_apply_ne key hlt.ne)

/-- The rows are the row of a key and the rows of the other keys, in some order. -/
theorem rows_perm_filter (t : Table α key) (k : κ) :
    t.rows.Perm ((t.find? k).toList ++ t.rows.filter (fun b => decide (key b ≠ k))) := by
  cases hfind : t.find? k with
  | none =>
    rw [Option.toList_none, List.nil_append, List.filter_eq_self.mpr]
    intro b hb
    simpa using find?_eq_none.mp hfind b hb
  | some a =>
    obtain ⟨ha, rfl⟩ := find?_eq_some.mp hfind
    have hnodup := (upsert_perm t a).nodup_iff.mp (nodup_rows _)
    apply (List.perm_ext_iff_of_nodup t.nodup_rows hnodup).mpr
    intro b
    rw [List.mem_cons, List.mem_filter]
    constructor
    · intro hb
      by_cases hkey : key b = key a
      · exact Or.inl (eq_of_key_eq hb ha hkey)
      · exact Or.inr ⟨hb, by simpa using hkey⟩
    · rintro (rfl | ⟨hb, -⟩)
      · exact ha
      · exact hb

/-- `UPDATE ... SET ... WHERE p` with an update that keeps the primary key. -/
def modify (t : Table α key) (p : α → Bool) (f : α → α) (hf : ∀ a, key (f a) = key a) :
    Table α key where
  rows := t.rows.map (fun a => if p a then f a else a)
  sorted := by
    refine List.pairwise_map.mpr (t.sorted.imp ?_)
    intro a b hab
    have hkey : ∀ x, key (if p x then f x else x) = key x := by
      intro x
      split <;> simp [hf]
    rwa [hkey, hkey]

theorem mem_modify {t : Table α key} {p : α → Bool} {f : α → α}
    {hf : ∀ a, key (f a) = key a} {b : α} :
    b ∈ t.modify p f hf ↔ ∃ a ∈ t, (if p a then f a else a) = b :=
  List.mem_map

/-- The row at a key after an update. -/
theorem find?_modify {t : Table α key} {p : α → Bool} {f : α → α} {hf : ∀ a, key (f a) = key a}
    {k : κ} : (t.modify p f hf).find? k = (t.find? k).map (fun a => if p a then f a else a) := by
  have hkey : ∀ a, key (if p a then f a else a) = key a := by
    intro a
    split
    · exact hf a
    · rfl
  cases hfind : t.find? k with
  | none =>
    apply find?_eq_none.mpr
    intro b hb
    obtain ⟨a, ha, rfl⟩ := mem_modify.mp hb
    rw [hkey]
    exact find?_eq_none.mp hfind a ha
  | some a =>
    obtain ⟨ha, rfl⟩ := find?_eq_some.mp hfind
    exact find?_eq_some.mpr ⟨mem_modify.mpr ⟨a, ha, rfl⟩, hkey a⟩

/-- `DELETE FROM ... WHERE p`. -/
def delete (t : Table α key) (p : α → Bool) : Table α key where
  rows := t.rows.filter (fun a => !p a)
  sorted := t.sorted.filter _

@[simp] theorem mem_delete {t : Table α key} {p : α → Bool} {a : α} :
    a ∈ t.delete p ↔ a ∈ t ∧ p a = false := by
  change a ∈ t.rows.filter (fun a => !p a) ↔ _
  simp

theorem delete_delete (t : Table α key) (p q : α → Bool) :
    (t.delete p).delete q = t.delete (fun a => p a || q a) := by
  refine ext ?_
  simp only [delete, List.filter_filter]
  exact List.filter_congr (fun a _ => by cases p a <;> cases q a <;> rfl)

theorem delete_of_forall_not {t : Table α key} {p : α → Bool}
    (h : ∀ a ∈ t, p a = false) : t.delete p = t := by
  refine ext ?_
  exact List.filter_eq_self.mpr (fun a ha => by simp [h a ha])

/-! ## Section 3: Last rows -/

/-- `SELECT ... WHERE p ORDER BY key DESC LIMIT 1`. -/
def latest (t : Table α key) (p : α → Bool) : Option α :=
  (t.rows.filter p).getLast?

theorem le_getLast {l : List α} (hl : l.Pairwise (fun x y => key x < key y))
    {a : α} (ha : l.getLast? = some a) : ∀ b ∈ l, key b ≤ key a := by
  obtain ⟨init, rfl⟩ := List.getLast?_eq_some_iff.mp ha
  intro b hb
  rcases List.mem_append.mp hb with hb | hb
  · exact le_of_lt ((List.pairwise_append.mp hl).2.2 b hb a (List.mem_singleton_self a))
  · rw [List.mem_singleton.mp hb]

/-- The last row of a sorted list is the one with the largest key. -/
theorem getLast?_eq_some_iff {l : List α} (hl : l.Pairwise (fun x y => key x < key y))
    {a : α} : l.getLast? = some a ↔ a ∈ l ∧ ∀ b ∈ l, key b ≤ key a := by
  constructor
  · intro h
    exact ⟨List.mem_of_getLast? h, le_getLast hl h⟩
  · rintro ⟨ha, hmax⟩
    obtain ⟨c, hc⟩ : ∃ c, l.getLast? = some c :=
      ⟨_, List.getLast?_eq_some_getLast (List.ne_nil_of_mem ha)⟩
    have hcmem : c ∈ l := List.mem_of_getLast? hc
    have hkey : key a = key c := le_antisymm (le_getLast hl hc a ha) (hmax c hcmem)
    -- the list itself is a table, in which a key has one row
    have hsame : a = c := @eq_of_key_eq _ _ _ key ⟨l, hl⟩ a c ha hcmem hkey
    rw [hc, hsame]

theorem latest_eq_some {t : Table α key} {p : α → Bool} {a : α} :
    t.latest p = some a ↔ a ∈ t ∧ p a = true ∧ ∀ b ∈ t, p b = true → key b ≤ key a := by
  have hsorted : (t.rows.filter p).Pairwise (fun x y => key x < key y) := t.sorted.filter p
  unfold latest
  rw [getLast?_eq_some_iff hsorted]
  simp only [List.mem_filter, mem_rows, and_imp, and_assoc]

theorem latest_eq_none {t : Table α key} {p : α → Bool} :
    t.latest p = none ↔ ∀ b ∈ t, p b = false := by
  simp [latest]

/-- Deleting rows other than the latest leaves the latest. -/
theorem latest_delete {t : Table α key} {p q : α → Bool}
    (h : ∀ a, t.latest p = some a → q a = false) : (t.delete q).latest p = t.latest p := by
  cases hlatest : t.latest p with
  | none =>
    apply latest_eq_none.mpr
    intro b hb
    exact latest_eq_none.mp hlatest b (mem_delete.mp hb).1
  | some a =>
    obtain ⟨ha, hpa, hmax⟩ := latest_eq_some.mp hlatest
    apply latest_eq_some.mpr
    refine ⟨mem_delete.mpr ⟨ha, h a hlatest⟩, hpa, ?_⟩
    intro b hb hpb
    exact hmax b (mem_delete.mp hb).1 hpb

/-- The row at a key after a row is placed. -/
theorem find?_upsert {t : Table α key} {a : α} {k : κ} :
    (t.upsert a).find? k = if key a = k then some a else t.find? k := by
  split
  · exact find?_eq_some.mpr ⟨mem_upsert.mpr (Or.inl rfl), ‹_›⟩
  · rename_i hne
    cases hfind : t.find? k with
    | none =>
      apply find?_eq_none.mpr
      intro b hb
      rcases mem_upsert.mp hb with rfl | ⟨hb, -⟩
      · exact hne
      · exact find?_eq_none.mp hfind b hb
    | some b =>
      obtain ⟨hb, rfl⟩ := find?_eq_some.mp hfind
      exact find?_eq_some.mpr ⟨mem_upsert.mpr (Or.inr ⟨hb, fun h => hne h.symm⟩), rfl⟩

/-- Deleting the row of a key. -/
theorem find?_delete_self {t : Table α key} {p : α → Bool} {k : κ}
    (h : ∀ a, key a = k → p a = true) : (t.delete p).find? k = none := by
  apply find?_eq_none.mpr
  intro a ha hkey
  have hkept := (mem_delete.mp ha).2
  rw [h a hkey] at hkept
  exact absurd hkept (by simp)

/-- Deleting rows of other keys leaves the row of a key. -/
theorem find?_delete {t : Table α key} {p : α → Bool} {k : κ}
    (h : ∀ a ∈ t, key a = k → p a = false) : (t.delete p).find? k = t.find? k := by
  cases hfind : t.find? k with
  | none =>
    apply find?_eq_none.mpr
    intro a ha
    exact find?_eq_none.mp hfind a (mem_delete.mp ha).1
  | some a =>
    obtain ⟨ha, hkey⟩ := find?_eq_some.mp hfind
    exact find?_eq_some.mpr ⟨mem_delete.mpr ⟨ha, h a ha hkey⟩, hkey⟩

variable [DecidableEq γ]

/-- The row has the largest key among the rows of its group. -/
def isLast (t : Table α key) (g : α → γ) (a : α) : Bool :=
  t.rows.all (fun b => decide (g b = g a → key b ≤ key a))

theorem isLast_iff {t : Table α key} {g : α → γ} {a : α} :
    t.isLast g a = true ↔ ∀ b ∈ t, g b = g a → key b ≤ key a := by
  simp only [isLast, List.all_eq_true, decide_eq_true_eq, mem_rows]

/-- The self-join on `MAX(key) ... GROUP BY g`: the last row of every group. -/
def lastRows (t : Table α key) (g : α → γ) : List α :=
  t.rows.filter (t.isLast g)

theorem mem_lastRows {t : Table α key} {g : α → γ} {a : α} :
    a ∈ t.lastRows g ↔ a ∈ t ∧ ∀ b ∈ t, g b = g a → key b ≤ key a := by
  simp [lastRows, isLast_iff]

/-- Every row has a last row of its group above it. -/
theorem exists_last {t : Table α key} (g : α → γ) {a : α} (ha : a ∈ t) :
    ∃ b ∈ t, g b = g a ∧ key a ≤ key b ∧ t.isLast g b = true := by
  have hsome : t.latest (fun b => decide (g b = g a)) ≠ none := by
    intro hnone
    simpa using latest_eq_none.mp hnone a ha
  obtain ⟨b, hb⟩ := Option.ne_none_iff_exists'.mp hsome
  obtain ⟨hbmem, hbg, hbmax⟩ := latest_eq_some.mp hb
  have hgb : g b = g a := by simpa using hbg
  refine ⟨b, hbmem, hgb, hbmax a ha (by simp), isLast_iff.mpr ?_⟩
  intro c hc hgc
  exact hbmax c hc (by simp [hgc, hgb])

/-- **Deleting below the last rows.** If no deleted row is last of its group, the last
rows of every group are the same rows in the same order. -/
theorem lastRows_delete {t : Table α key} {g : α → γ} {p : α → Bool}
    (hkeep : ∀ a ∈ t, t.isLast g a = true → p a = false) :
    (t.delete p).lastRows g = t.lastRows g := by
  have hlast : ∀ a ∈ t, p a = false → (t.delete p).isLast g a = t.isLast g a := by
    intro a ha hpa
    rw [Bool.eq_iff_iff, isLast_iff, isLast_iff]
    constructor
    · intro hsub b hb hgb
      obtain ⟨c, hc, hgc, hbc, hclast⟩ := exists_last g hb
      have hcp : p c = false := hkeep c hc hclast
      exact hbc.trans (hsub c (mem_delete.mpr ⟨hc, hcp⟩) (hgc.trans hgb))
    · intro hall b hb
      exact hall b (mem_delete.mp hb).1
  simp only [lastRows]
  change (t.rows.filter (fun a => !p a)).filter _ = _
  rw [List.filter_filter]
  refine List.filter_congr ?_
  intro a ha
  cases hpa : p a with
  | false => simp [hlast a ha hpa]
  | true =>
    have hnot : t.isLast g a = false := by
      by_contra hne
      simp [hkeep a ha (by simpa using hne)] at hpa
    simp [hnot]

/-- Restricting a table to a set of whole groups, regrouped by a function that agrees
with the grouping there, selects the last rows that lie in the set. -/
theorem lastRows_restrict {δ : Type*} [DecidableEq δ] {t : Table α key} {g : α → γ}
    {h : α → δ} {p : α → Bool}
    (hclosed : ∀ a b, g a = g b → p a = p b)
    (hgroup : ∀ a b, p a = true → p b = true → (h a = h b ↔ g a = g b)) :
    (t.delete (fun a => !p a)).lastRows h = (t.lastRows g).filter p := by
  simp only [lastRows, List.filter_filter]
  change (t.rows.filter (fun a => !!p a)).filter _ = _
  rw [List.filter_filter]
  refine List.filter_congr ?_
  intro a ha
  cases hpa : p a with
  | false => simp
  | true =>
    simp only [Bool.not_true, Bool.not_false, Bool.and_true, Bool.true_and]
    rw [Bool.eq_iff_iff, isLast_iff, isLast_iff]
    constructor
    · intro hsub b hb hgb
      have hpb : p b = true := (hclosed b a hgb).trans hpa
      exact hsub b (mem_delete.mpr ⟨hb, by simp [hpb]⟩) ((hgroup b a hpb hpa).mpr hgb)
    · intro hall b hb hhb
      obtain ⟨hbt, hpb⟩ := mem_delete.mp hb
      have hpb' : p b = true := by simpa using hpb
      exact hall b hbt ((hgroup b a hpb' hpa).mp hhb)

/-- The latest row of a whole group is the last row of that group. -/
theorem latest_eq_some_iff_isLast {t : Table α key} {g : α → γ} {c : γ} {a : α} :
    t.latest (fun b => decide (g b = c)) = some a ↔
      a ∈ t ∧ g a = c ∧ t.isLast g a = true := by
  rw [latest_eq_some, isLast_iff]
  constructor
  · rintro ⟨ha, hga, hmax⟩
    have hga' : g a = c := by simpa using hga
    exact ⟨ha, hga', fun b hb hgb => hmax b hb (by simp [hgb, hga'])⟩
  · rintro ⟨ha, hga, hmax⟩
    refine ⟨ha, by simpa using hga, fun b hb hgb => hmax b hb ?_⟩
    have : g b = c := by simpa using hgb
    rw [this, hga]

/-! ## Section 4: Plain inserts -/

section InsertAll

variable {α κ : Type*} [LinearOrder κ] {key : α → κ}

/-- `INSERT` of row after row; a row whose key is taken makes the statement fail. -/
def insertAll (t : Table α key) : List α → Option (Table α key)
  | [] => some t
  | a :: rows => if (t.find? (key a)).isSome then none else (t.upsert a).insertAll rows

/-- Inserts succeed on rows with new and different keys, and on no others. -/
theorem insertAll_eq_some_iff {t : Table α key} {rows : List α} :
    (∃ u, t.insertAll rows = some u) ↔
      (rows.map key).Nodup ∧ ∀ a ∈ rows, t.find? (key a) = none := by
  induction rows generalizing t with
  | nil => simp [insertAll]
  | cons a rows ih =>
    rw [insertAll, List.map_cons, List.nodup_cons]
    cases hfind : t.find? (key a) with
    | some b =>
      constructor
      · intro ⟨u, hu⟩
        cases hu
      · intro ⟨_, hnew⟩
        rw [hnew a List.mem_cons_self] at hfind
        cases hfind
    | none =>
      simp only [Option.isSome_none, Bool.false_eq_true, if_false]
      rw [ih]
      constructor
      · intro ⟨hnodup, hnew⟩
        refine ⟨⟨?_, hnodup⟩, ?_⟩
        · intro hmem
          obtain ⟨b, hb, hkey⟩ := List.mem_map.mp hmem
          have hlookup := hnew b hb
          rw [find?_upsert, if_pos hkey.symm] at hlookup
          cases hlookup
        · intro b hb
          rcases List.mem_cons.mp hb with rfl | hb
          · exact hfind
          · have hlookup := hnew b hb
            rw [find?_upsert] at hlookup
            split_ifs at hlookup
            exact hlookup
      · intro ⟨⟨hfresh, hnodup⟩, hnew⟩
        refine ⟨hnodup, ?_⟩
        intro b hb
        have hne : key a ≠ key b := fun heq => hfresh (heq ▸ List.mem_map_of_mem hb)
        rw [find?_upsert, if_neg hne]
        exact hnew b (List.mem_cons_of_mem _ hb)

theorem mem_insertAll {t u : Table α key} {rows : List α} (h : t.insertAll rows = some u)
    {b : α} : b ∈ u ↔ b ∈ t ∨ b ∈ rows := by
  induction rows generalizing t with
  | nil =>
    obtain rfl := Option.some.inj h
    simp
  | cons a rows ih =>
    rw [insertAll] at h
    split_ifs at h with htaken
    have hfree : ∀ c ∈ t, key c ≠ key a :=
      find?_eq_none.mp (Option.not_isSome_iff_eq_none.mp htaken)
    rw [ih h, mem_upsert, List.mem_cons]
    constructor
    · rintro ((rfl | ⟨hb, -⟩) | hb)
      · exact Or.inr (Or.inl rfl)
      · exact Or.inl hb
      · exact Or.inr (Or.inr hb)
    · rintro (hb | rfl | hb)
      · exact Or.inl (Or.inr ⟨hb, hfree b hb⟩)
      · exact Or.inl (Or.inl rfl)
      · exact Or.inr hb

/-- Tables with the same rows are the same table. -/
theorem eq_of_mem_iff {t u : Table α key} (h : ∀ a, a ∈ t ↔ a ∈ u) : t = u := by
  apply ext
  have hperm : t.rows.Perm u.rows :=
    (List.perm_ext_iff_of_nodup (nodup_rows t) (nodup_rows u)).mpr h
  exact hperm.eq_of_pairwise (fun a b _ _ hab hba => absurd hab (lt_asymm hba)) t.sorted u.sorted

theorem nodup_keys (t : Table α key) : (t.rows.map key).Nodup :=
  List.pairwise_map.mpr (t.sorted.imp fun hlt => ne_of_lt hlt)

/-- The rows of a table, inserted into an empty one, are the table. -/
theorem insertAll_rows (t : Table α key) : (∅ : Table α key).insertAll t.rows = some t := by
  obtain ⟨u, hu⟩ := (@insertAll_eq_some_iff _ _ _ key ∅ t.rows).mpr
    ⟨nodup_keys t, fun _ _ => rfl⟩
  rw [hu]
  congr 1
  apply eq_of_mem_iff
  intro a
  rw [mem_insertAll hu]
  simp

end InsertAll

/-! ## Section 5: Replacing inserts -/

section UpsertAll

variable {α κ : Type*} [LinearOrder κ] {key : α → κ}

/-- `INSERT OR REPLACE` of row after row. -/
def upsertAll (t : Table α key) (rows : List α) : Table α key := rows.foldl upsert t

theorem upsertAll_cons (t : Table α key) (a : α) (rows : List α) :
    t.upsertAll (a :: rows) = (t.upsert a).upsertAll rows := rfl

/-- A key that no row has keeps its row. -/
theorem find?_upsertAll_of_not_mem {t : Table α key} {rows : List α} {k : κ}
    (hk : k ∉ rows.map key) : (t.upsertAll rows).find? k = t.find? k := by
  induction rows generalizing t with
  | nil => rfl
  | cons a rows ih =>
    rw [List.map_cons, List.mem_cons, not_or] at hk
    rw [upsertAll_cons, ih hk.2, find?_upsert, if_neg (Ne.symm hk.1)]

/-- The row at a key that one of the rows has comes from the rows alone. -/
theorem find?_upsertAll_of_mem {t u : Table α key} {rows : List α} {k : κ}
    (hk : k ∈ rows.map key) : (t.upsertAll rows).find? k = (u.upsertAll rows).find? k := by
  induction rows generalizing t u with
  | nil => cases hk
  | cons a rows ih =>
    rw [upsertAll_cons, upsertAll_cons]
    by_cases hrest : k ∈ rows.map key
    · exact ih hrest
    · -- the first row is the last one with this key
      have ha : key a = k := by
        rw [List.map_cons, List.mem_cons] at hk
        exact (hk.resolve_right hrest).symm
      rw [find?_upsertAll_of_not_mem hrest, find?_upsertAll_of_not_mem hrest, find?_upsert,
        find?_upsert, if_pos ha, if_pos ha]

theorem eq_of_find?_eq {t u : Table α key} (h : ∀ k, t.find? k = u.find? k) : t = u := by
  apply eq_of_mem_iff
  intro a
  have hsame : t.find? (key a) = some a ↔ u.find? (key a) = some a := by rw [h]
  simpa [find?_eq_some] using hsame

theorem upsertAll_eq_upsertAll_iff {t u : Table α key} {rows : List α} :
    t.upsertAll rows = u.upsertAll rows ↔ ∀ k, k ∉ rows.map key → t.find? k = u.find? k := by
  constructor
  · intro heq k hk
    rw [← find?_upsertAll_of_not_mem hk, heq, find?_upsertAll_of_not_mem hk]
  · intro hsame
    apply eq_of_find?_eq
    intro k
    by_cases hk : k ∈ rows.map key
    · exact find?_upsertAll_of_mem hk
    · rw [find?_upsertAll_of_not_mem hk, find?_upsertAll_of_not_mem hk, hsame k hk]

/-- The rows replace a table exactly when it has no row with another key. -/
theorem upsertAll_eq_of_empty_iff {t : Table α key} {rows : List α} :
    t.upsertAll rows = (∅ : Table α key).upsertAll rows ↔ ∀ a ∈ t, key a ∈ rows.map key := by
  rw [upsertAll_eq_upsertAll_iff]
  constructor
  · intro hsame a ha
    by_contra hk
    exact find?_eq_none.mp (hsame _ hk) a ha rfl
  · intro hin k hk
    apply find?_eq_none.mpr
    intro a ha heq
    exact hk (heq ▸ hin a ha)

end UpsertAll

end Table

end Netdisk2Blob.Library
