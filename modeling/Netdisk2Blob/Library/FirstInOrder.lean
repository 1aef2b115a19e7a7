import Mathlib

/-!
# The First Elements in the Order of a Key

What a query with an order and a limit returns: some of the elements, sorted by their keys,
so that no element that is left out has a smaller key. Elements with the same key may come
in any order.

## Contents

- `takeLimit`, `FirstOf`: a limit, and the first elements under it
- `firstOf_iff`: the first elements are determined by their keys
- `take_eq_take_iff_room`, `takeLimit_sort_eq_iff`: two sorted lists start alike exactly when
  they have each key as often as the limit leaves room for it
- `firstOf_filter_iff`: when a list of some elements is the first of all that pass a test
-/

namespace Netdisk2Blob.Library

variable {α κ : Type} [LinearOrder κ] {key : α → κ}

/-! ## Section 1: A limit -/

/-- The first elements of a list, or the whole list where there is no limit. -/
def takeLimit (limit : Option Nat) (l : List α) : List α :=
  match limit with
  | some n => l.take n
  | none => l

theorem takeLimit_map {β : Type} (f : α → β) (limit : Option Nat) (l : List α) :
    (takeLimit limit l).map f = takeLimit limit (l.map f) := by
  cases limit with
  | none => rfl
  | some n => exact List.map_take

theorem takeLimit_sublist (limit : Option Nat) (l : List α) : (takeLimit limit l).Sublist l := by
  cases limit with
  | none => exact List.Sublist.refl l
  | some n => exact List.take_sublist n l

/-- A list that starts with what the limit leaves of it. -/
theorem takeLimit_append (limit : Option Nat) (l : List α) :
    ∃ rest, l = takeLimit limit l ++ rest ∧
      takeLimit limit l = takeLimit limit (takeLimit limit l) ∧
      (rest = [] ∨ ∃ n, limit = some n ∧ (takeLimit limit l).length = n) := by
  cases limit with
  | none => exact ⟨[], (List.append_nil l).symm, rfl, Or.inl rfl⟩
  | some n =>
      refine ⟨l.drop n, (List.take_append_drop n l).symm, ?_, ?_⟩
      · show l.take n = (l.take n).take n
        rw [List.take_take, Nat.min_self]
      · rcases Nat.lt_or_ge n l.length with hlt | hge
        · refine Or.inr ⟨n, rfl, ?_⟩
          simp [takeLimit, hlt.le]
        · exact Or.inl (List.drop_eq_nil_of_le hge)

/-- The elements of the list in the order of their keys, as far as the limit goes. -/
def FirstOf (key : α → κ) (limit : Option Nat) (l first : List α) : Prop :=
  ∃ sorted : List α, sorted.Perm l ∧ sorted.Pairwise (fun a b => key a ≤ key b) ∧
    first = takeLimit limit sorted

/-! ## Section 2: The keys of the first elements -/

/-- Sorting by key sorts the keys. -/
theorem map_key_eq_sort {l sorted : List α} (hperm : sorted.Perm l)
    (hsorted : sorted.Pairwise (fun a b => key a ≤ key b)) :
    sorted.map key = (l.map key).insertionSort (· ≤ ·) := by
  have hkeys : (sorted.map key).Perm ((l.map key).insertionSort (· ≤ ·)) :=
    (hperm.map key).trans (List.perm_insertionSort (· ≤ ·) (l.map key)).symm
  apply hkeys.eq_of_pairwise (fun a b _ _ hab hba => le_antisymm hab hba)
  · rw [List.pairwise_map]
    exact hsorted
  · exact List.pairwise_insertionSort (· ≤ ·) (l.map key)

theorem sort_eq_of_perm {l l' : List κ} (h : l.Perm l') :
    l.insertionSort (· ≤ ·) = l'.insertionSort (· ≤ ·) := by
  have hperm : (l.insertionSort (· ≤ ·)).Perm (l'.insertionSort (· ≤ ·)) :=
    ((List.perm_insertionSort _ l).trans h).trans (List.perm_insertionSort _ l').symm
  exact hperm.eq_of_pairwise (fun a b _ _ hab hba => le_antisymm hab hba)
    (List.pairwise_insertionSort _ l) (List.pairwise_insertionSort _ l')

/-- The first elements are some of the elements, and their keys are the first keys. -/
theorem firstOf_iff {limit : Option Nat} {l first : List α} :
    FirstOf key limit l first ↔
      first.Subperm l ∧
        first.map key = takeLimit limit ((l.map key).insertionSort (· ≤ ·)) := by
  constructor
  · intro h
    obtain ⟨sorted, hperm, hsorted, rfl⟩ := h
    constructor
    · exact (takeLimit_sublist limit sorted).subperm.trans hperm.subperm
    · rw [takeLimit_map, map_key_eq_sort hperm hsorted]
  · intro h
    obtain ⟨hsub, hkeys⟩ := h
    -- the elements that are left out follow in the order of their keys
    obtain ⟨copy, hcopy, hsublist⟩ := hsub
    obtain ⟨rest, hrest⟩ := hsublist.exists_perm_append
    have hl : (first ++ rest).Perm l := (hcopy.symm.append_right rest).trans hrest.symm
    obtain ⟨behind, happend, -, hbehind⟩ :=
      takeLimit_append limit ((l.map key).insertionSort (· ≤ ·))
    rw [← hkeys] at happend hbehind
    -- their keys are those behind the limit
    have hrestKeys : (rest.map key).Perm behind := by
      have hall : (first.map key ++ rest.map key).Perm (first.map key ++ behind) := by
        rw [← happend, ← List.map_append]
        exact (hl.map key).trans (List.perm_insertionSort (· ≤ ·) (l.map key)).symm
      exact (List.perm_append_left_iff _).mp hall
    have hsort := List.pairwise_insertionSort (· ≤ ·) (l.map key)
    rw [happend, List.pairwise_append] at hsort
    refine ⟨first ++ rest.insertionSort (fun a b => key a ≤ key b), ?_, ?_, ?_⟩
    · exact ((List.perm_insertionSort _ rest).append_left first).trans hl
    · rw [List.pairwise_append]
      refine ⟨List.pairwise_map.mp hsort.1, List.pairwise_insertionSort _ rest, ?_⟩
      intro a ha b hb
      have hb' : b ∈ rest := (List.perm_insertionSort _ rest).mem_iff.mp hb
      exact hsort.2.2 (key a) (List.mem_map_of_mem ha) (key b)
        (hrestKeys.mem_iff.mp (List.mem_map_of_mem hb'))
    · rcases hbehind with hnone | ⟨n, rfl, hlength⟩
      · -- nothing is left out
        rw [hnone] at hrestKeys
        have hnil : rest = [] := List.map_eq_nil_iff.mp hrestKeys.eq_nil
        rw [hnil, List.insertionSort_nil, List.append_nil]
        have hmap : (takeLimit limit first).map key = first.map key := by
          rw [takeLimit_map, hkeys]
          obtain ⟨_, -, htwice, -⟩ := takeLimit_append limit ((l.map key).insertionSort (· ≤ ·))
          exact htwice.symm
        refine ((takeLimit_sublist limit first).eq_of_length ?_).symm
        rw [← List.length_map (f := key), hmap, List.length_map]
      · rw [List.length_map] at hlength
        show first = (first ++ rest.insertionSort (fun a b => key a ≤ key b)).take n
        rw [← hlength, List.take_left]

/-! ## Section 3: When two sorted lists start alike -/

/-- How many keys stand before a key. -/
def smaller (l : List κ) (k : κ) : Nat := l.countP (fun other => decide (other < k))

/-- How many elements of a key the limit leaves room for, behind those before it. -/
def room (limit : Option Nat) (before count : Nat) : Nat :=
  match limit with
  | some n => min count (n - before)
  | none => count

theorem smaller_cons_of_lt {a k : κ} (h : a < k) (l : List κ) :
    smaller (a :: l) k = smaller l k + 1 := by
  simp [smaller, h]

theorem smaller_eq_zero {l : List κ} {k : κ} (h : ∀ a ∈ l, k ≤ a) : smaller l k = 0 := by
  rw [smaller, List.countP_eq_zero]
  intro a ha
  simpa using h a ha

theorem count_eq_zero_of_lt {l : List κ} {k : κ} (h : ∀ a ∈ l, k < a) : l.count k = 0 := by
  rw [List.count_eq_zero]
  intro hmem
  exact lt_irrefl k (h k hmem)

/-- Two sorted lists start with the same `n` keys exactly when they have each key equally
often, as far as there is room for it behind the smaller ones. -/
theorem take_eq_take_iff_room {l l' : List κ} (hl : l.Pairwise (· ≤ ·))
    (hl' : l'.Pairwise (· ≤ ·)) (n : Nat) :
    l.take n = l'.take n ↔
      ∀ k, min (l.count k) (n - smaller l' k) = min (l'.count k) (n - smaller l' k) := by
  induction n generalizing l l' with
  | zero => simp
  | succ n ih =>
      cases l with
      | nil =>
          cases l' with
          | nil => simp
          | cons b l' =>
              refine iff_of_false (by simp) ?_
              intro hall
              have hb := hall b
              have hhead : ∀ c ∈ l', b ≤ c := (List.pairwise_cons.mp hl').1
              rw [smaller_eq_zero (by simpa using hhead)] at hb
              simp at hb
      | cons a l =>
          cases l' with
          | nil =>
              refine iff_of_false (by simp) ?_
              intro hall
              have ha := hall a
              simp [smaller] at ha
          | cons b l' =>
              obtain ⟨ha, htail⟩ := List.pairwise_cons.mp hl
              obtain ⟨hb, htail'⟩ := List.pairwise_cons.mp hl'
              rcases lt_trichotomy a b with hab | rfl | hba
              · -- the smaller head is in the first list only
                refine iff_of_false ?_ ?_
                · intro heq
                  exact hab.ne (List.cons.inj heq).1
                · intro hall
                  have hfirst := hall a
                  rw [smaller_eq_zero (by
                      intro c hc
                      rcases List.mem_cons.mp hc with rfl | hc
                      · exact hab.le
                      · exact hab.le.trans (hb c hc)),
                    @count_eq_zero_of_lt _ _ (b :: l') a (by
                      intro c hc
                      rcases List.mem_cons.mp hc with rfl | hc
                      · exact hab
                      · exact hab.trans_le (hb c hc))] at hfirst
                  simp at hfirst
              · -- the same head: the rest decides
                rw [List.take_succ_cons, List.take_succ_cons, List.cons_inj_right, ih htail htail']
                have hstep : ∀ k,
                    (min ((a :: l).count k) (n + 1 - smaller (a :: l') k) =
                      min ((a :: l').count k) (n + 1 - smaller (a :: l') k)) ↔
                    (min (l.count k) (n - smaller l' k) = min (l'.count k) (n - smaller l' k)) := by
                  intro k
                  rcases lt_trichotomy k a with hlt | rfl | hgt
                  · have hcount : l.count k = 0 :=
                      count_eq_zero_of_lt (fun c hc => hlt.trans_le (ha c hc))
                    have hcount' : l'.count k = 0 :=
                      count_eq_zero_of_lt (fun c hc => hlt.trans_le (hb c hc))
                    rw [List.count_cons_of_ne hlt.ne', List.count_cons_of_ne hlt.ne', hcount,
                      hcount']
                    simp
                  · rw [smaller_eq_zero hb, smaller_eq_zero (by simpa using hb),
                      List.count_cons_self, List.count_cons_self]
                    omega
                  · rw [smaller_cons_of_lt hgt, List.count_cons_of_ne hgt.ne,
                      List.count_cons_of_ne hgt.ne, Nat.add_sub_add_right]
                exact forall_congr' (fun k => (hstep k).symm)
              · refine iff_of_false ?_ ?_
                · intro heq
                  exact hba.ne' (List.cons.inj heq).1
                · intro hall
                  have hfirst := hall b
                  rw [smaller_eq_zero (by simpa using hb),
                    @count_eq_zero_of_lt _ _ (a :: l) b (by
                      intro c hc
                      rcases List.mem_cons.mp hc with rfl | hc
                      · exact hba
                      · exact hba.trans_le (ha c hc))] at hfirst
                  simp at hfirst

/-- The same for a limit that may be missing, and for lists that are still to be sorted. -/
theorem takeLimit_sort_eq_iff {limit : Option Nat} {l l' : List κ} :
    takeLimit limit (l.insertionSort (· ≤ ·)) = takeLimit limit (l'.insertionSort (· ≤ ·)) ↔
      ∀ k, room limit (smaller l' k) (l.count k) = room limit (smaller l' k) (l'.count k) := by
  have hperm := List.perm_insertionSort (· ≤ ·) l
  have hperm' := List.perm_insertionSort (· ≤ ·) l'
  cases limit with
  | none =>
      show l.insertionSort (· ≤ ·) = l'.insertionSort (· ≤ ·) ↔ ∀ k, l.count k = l'.count k
      rw [← List.perm_iff_count]
      constructor
      · intro heq
        exact hperm.symm.trans (heq ▸ hperm')
      · exact sort_eq_of_perm
  | some n =>
      show (l.insertionSort (· ≤ ·)).take n = (l'.insertionSort (· ≤ ·)).take n ↔ _
      rw [take_eq_take_iff_room (List.pairwise_insertionSort _ l)
        (List.pairwise_insertionSort _ l') n]
      apply forall_congr'
      intro k
      have hsmaller : smaller (l'.insertionSort (· ≤ ·)) k = smaller l' k := hperm'.countP_eq _
      rw [hsmaller, hperm.count_eq, hperm'.count_eq]
      rfl

/-! ## Section 4: The first that pass a test -/

/-- Some of the elements, whose keys are the first of a list of keys, are the first of all
elements whose keys pass a test exactly when the two lists of keys agree up to the limit. -/
theorem firstOf_filter_iff {limit : Option Nat} {l first : List α} {shown : List κ}
    {wanted : κ → Bool} (hsub : first.Subperm l)
    (hkeys : first.map key = takeLimit limit (shown.insertionSort (· ≤ ·))) :
    FirstOf key limit (l.filter (fun a => wanted (key a))) first ↔
      ∀ k, room limit (smaller ((l.map key).filter wanted) k) (shown.count k) =
        room limit (smaller ((l.map key).filter wanted) k)
          (((l.map key).filter wanted).count k) := by
  have hfilter : (l.filter (fun a => wanted (key a))).map key = (l.map key).filter wanted := by
    rw [List.filter_map]
    rfl
  rw [firstOf_iff, hkeys, hfilter, ← takeLimit_sort_eq_iff]
  constructor
  · exact fun h => h.2
  · intro h
    refine ⟨?_, h⟩
    -- the elements that are there pass the test, since their keys do
    have hpass : first.filter (fun a => wanted (key a)) = first := by
      rw [List.filter_eq_self]
      intro a ha
      have hmem : key a ∈ first.map key := List.mem_map_of_mem ha
      rw [hkeys, h] at hmem
      have hsorted := (takeLimit_sublist limit _).subset hmem
      exact (List.mem_filter.mp ((List.perm_insertionSort _ _).mem_iff.mp hsorted)).2
    rw [← hpass]
    exact hsub.filter _

end Netdisk2Blob.Library
