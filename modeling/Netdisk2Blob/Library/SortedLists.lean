import Mathlib.Data.List.Sort
import Mathlib.Data.List.Basic
import Mathlib.Order.Defs.LinearOrder
import Mathlib.Order.Lattice

/-!
# Lists in Strictly Increasing Order of a Key

What paging over a sorted list needs: such a list is determined by its elements, its first
`n` elements are those with fewer than `n` elements before them, and what stands behind an
element is what is larger.

## Contents

- `SortedBy`, `SortedBy.eq_of_mem_iff`
- `SortedBy.mem_take_iff`, `take_filter`
- `SortedBy.take_eq_take_iff`: when two sorted lists start with the same elements
- `SortedBy.filter_gt`, `sortedBy_insertionSort`
-/

namespace Netdisk2Blob.Library

variable {α κ : Type*} [LinearOrder κ] {key : α → κ}

/-- Strictly increasing keys. -/
def SortedBy (key : α → κ) (l : List α) : Prop := l.Pairwise (fun a b => key a < key b)

namespace SortedBy

theorem nodup {l : List α} (h : SortedBy key l) : l.Nodup :=
  h.imp (fun hlt heq => absurd (heq ▸ hlt) (lt_irrefl _))

theorem sublist {l l' : List α} (h : SortedBy key l') (hsub : l.Sublist l') : SortedBy key l :=
  List.Pairwise.sublist hsub h

/-- Two sorted lists with the same elements are the same. -/
theorem eq_of_mem_iff {l l' : List α} (h : SortedBy key l) (h' : SortedBy key l')
    (hmem : ∀ a, a ∈ l ↔ a ∈ l') : l = l' := by
  have hperm : l.Perm l' := (List.perm_ext_iff_of_nodup h.nodup h'.nodup).mpr hmem
  exact hperm.eq_of_pairwise (fun a b _ _ hab hba => absurd hab (lt_asymm hba)) h h'

/-- The first elements are those with few elements before them. -/
theorem mem_take_iff {l : List α} (h : SortedBy key l) {n : Nat} {a : α} :
    a ∈ l.take n ↔ a ∈ l ∧ (l.filter (fun b => decide (key b < key a))).length < n := by
  induction l generalizing n with
  | nil => simp
  | cons b l ih =>
    have hb : ∀ c ∈ l, key b < key c := (List.pairwise_cons.mp h).1
    have htail := @ih (List.pairwise_cons.mp h).2
    cases n with
    | zero => simp
    | succ n =>
      rw [List.take_succ_cons, List.mem_cons, List.mem_cons, htail]
      constructor
      · rintro (rfl | ⟨hmem, hrank⟩)
        · refine ⟨Or.inl rfl, ?_⟩
          have hnone : (a :: l).filter (fun b => decide (key b < key a)) = [] := by
            rw [List.filter_eq_nil_iff]
            intro c hc
            rcases List.mem_cons.mp hc with rfl | hc
            · simp
            · simpa using (hb c hc).le
          rw [hnone]
          exact Nat.succ_pos n
        · refine ⟨Or.inr hmem, ?_⟩
          rw [List.filter_cons_of_pos (by simpa using hb a hmem), List.length_cons]
          omega
      · rintro ⟨rfl | hmem, hrank⟩
        · exact Or.inl rfl
        · right
          rw [List.filter_cons_of_pos (by simpa using hb a hmem), List.length_cons] at hrank
          exact ⟨hmem, by omega⟩

/-- What stands behind an element is what is larger. -/
theorem filter_gt {before after : List α} {a : α} (h : SortedBy key (before ++ a :: after)) :
    (before ++ a :: after).filter (fun b => decide (key a < key b)) = after := by
  obtain ⟨-, hafter, hcross⟩ := List.pairwise_append.mp h
  rw [List.filter_append, List.filter_cons_of_neg (by simp)]
  have hbefore : before.filter (fun b => decide (key a < key b)) = [] := by
    rw [List.filter_eq_nil_iff]
    intro b hb
    simpa using (hcross b hb a List.mem_cons_self).le
  have hkeep : after.filter (fun b => decide (key a < key b)) = after := by
    rw [List.filter_eq_self]
    intro b hb
    simpa using (List.pairwise_cons.mp hafter).1 b hb
  rw [hbefore, hkeep, List.nil_append]

/-- Nothing stands before what is at most the head. -/
theorem filter_lt_eq_nil {b : α} {l : List α} (h : SortedBy key (b :: l)) {k : κ}
    (hk : k ≤ key b) : (b :: l).filter (fun c => decide (key c < k)) = [] := by
  rw [List.filter_eq_nil_iff]
  intro c hc
  simp only [decide_eq_true_eq, not_lt]
  rcases List.mem_cons.mp hc with rfl | hc
  · exact hk
  · exact hk.trans ((List.pairwise_cons.mp h).1 c hc).le

theorem not_mem_of_lt_head {b : α} {l : List α} (h : SortedBy key (b :: l)) {a : α}
    (ha : key a < key b) : a ∉ b :: l := by
  intro hmem
  rcases List.mem_cons.mp hmem with rfl | hmem
  · exact lt_irrefl _ ha
  · exact lt_asymm ha ((List.pairwise_cons.mp h).1 a hmem)

/-- Two sorted lists start with the same `n` elements exactly when each element of only one of
them has `n` elements before it. -/
theorem take_eq_take_iff {l l' : List α} (h : SortedBy key l) (h' : SortedBy key l')
    {n : Nat} :
    l.take n = l'.take n ↔
      ∀ a, ¬ (a ∈ l ↔ a ∈ l') → n ≤ (l'.filter (fun b => decide (key b < key a))).length := by
  induction l generalizing l' n with
  | nil =>
    cases l' with
    | nil => simp
    | cons b l' =>
      cases n with
      | zero => simp
      | succ n =>
        refine iff_of_false (by simp) ?_
        intro hrank
        have hb := hrank b (by simp)
        rw [h'.filter_lt_eq_nil le_rfl] at hb
        exact absurd hb (by simp)
  | cons a l ih =>
    cases n with
    | zero => simp
    | succ n =>
      cases l' with
      | nil =>
        refine iff_of_false (by simp) ?_
        intro hrank
        exact absurd (hrank a (by simp)) (by simp)
      | cons b l' =>
        obtain ⟨ha, htail⟩ := List.pairwise_cons.mp h
        obtain ⟨hb, htail'⟩ := List.pairwise_cons.mp h'
        rw [List.take_succ_cons, List.take_succ_cons, List.cons.injEq]
        by_cases hab : a = b
        · subst hab
          rw [ih htail htail']
          simp only [true_and]
          -- an element of only one of the tails stands behind the common head
          have hbehind : ∀ c, ¬ (c ∈ l ↔ c ∈ l') → key a < key c := by
            intro c hdiff
            by_cases hc : c ∈ l
            · exact ha c hc
            · by_cases hc' : c ∈ l'
              · exact hb c hc'
              · exact absurd (iff_of_false hc hc') hdiff
          have hrank : ∀ c, key a < key c →
              ((a :: l').filter (fun b => decide (key b < key c))).length =
                (l'.filter (fun b => decide (key b < key c))).length + 1 := by
            intro c hlt
            rw [List.filter_cons_of_pos (by simpa using hlt), List.length_cons]
          constructor
          · intro hall c hdiff
            have hne : ¬ c = a := by
              rintro rfl
              exact hdiff (iff_of_true List.mem_cons_self List.mem_cons_self)
            have hdiff' : ¬ (c ∈ l ↔ c ∈ l') := by
              simpa only [List.mem_cons, hne, false_or] using hdiff
            rw [hrank c (hbehind c hdiff')]
            exact Nat.succ_le_succ (hall c hdiff')
          · intro hall c hdiff
            have hlt := hbehind c hdiff
            have hne : ¬ c = a := by
              rintro rfl
              exact lt_irrefl _ hlt
            have hle := hall c (by simpa only [List.mem_cons, hne, false_or] using hdiff)
            rw [hrank c hlt] at hle
            exact Nat.le_of_succ_le_succ hle
        · refine iff_of_false (fun heq => hab heq.1) ?_
          intro hall
          -- the smaller of the two heads is in one list only
          rcases le_or_gt (key a) (key b) with hle | hlt
          · have hnot : a ∉ b :: l' := by
              rcases hle.lt_or_eq with hlt | heq
              · exact h'.not_mem_of_lt_head hlt
              · intro hmem
                rcases List.mem_cons.mp hmem with rfl | hmem
                · exact hab rfl
                · exact absurd (hb a hmem) (by rw [heq]; exact lt_irrefl _)
            have hrank := hall a (fun hiff => hnot (hiff.mp List.mem_cons_self))
            rw [h'.filter_lt_eq_nil hle] at hrank
            exact absurd hrank (by simp)
          · have hnot : b ∉ a :: l := h.not_mem_of_lt_head hlt
            have hrank := hall b (fun hiff => hnot (hiff.mpr List.mem_cons_self))
            rw [h'.filter_lt_eq_nil le_rfl] at hrank
            exact absurd hrank (by simp)

end SortedBy

/-- A filter that keeps the first elements keeps them first. -/
theorem take_filter {p : α → Bool} {l : List α} {n : Nat} (h : ∀ a ∈ l.take n, p a = true) :
    (l.filter p).take n = l.take n := by
  induction l generalizing n with
  | nil => simp
  | cons a l ih =>
    cases n with
    | zero => rfl
    | succ n =>
      rw [List.take_succ_cons] at h ⊢
      rw [List.filter_cons_of_pos (h a List.mem_cons_self), List.take_succ_cons,
        ih (fun b hb => h b (List.mem_cons_of_mem a hb))]

/-- Sorting a list whose keys are distinct makes it strictly increasing. -/
theorem sortedBy_insertionSort {l : List α} (h : (l.map key).Nodup) :
    SortedBy key (l.insertionSort (fun a b => key a ≤ key b)) := by
  have hsorted := List.pairwise_insertionSort (fun a b : α => key a ≤ key b) l
  have hperm := List.perm_insertionSort (fun a b : α => key a ≤ key b) l
  have hnodup : ((l.insertionSort (fun a b => key a ≤ key b)).map key).Nodup :=
    (hperm.map key).nodup_iff.mpr h
  rw [List.Nodup, List.pairwise_map] at hnodup
  exact hsorted.imp₂ (fun a b hle hne => lt_of_le_of_ne hle hne) hnodup

end Netdisk2Blob.Library
