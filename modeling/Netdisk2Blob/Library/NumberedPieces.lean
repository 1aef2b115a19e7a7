import Mathlib

/-!
# Numbered Pieces of a List

A list is cut into pieces that carry numbers, and put together again in the order of the
numbers.

## Contents

- `cutAt`: the pieces of a list under a plan of numbers and sizes
- `assembled`: the pieces joined by number
- `Delivers`: no number twice, and the pieces make up the list
- `delivers_cutAt`, `assembledInOrder_of_assembled`: a plan delivers every list exactly when
  the numbers of its pieces that are not empty go up
-/

namespace Netdisk2Blob.Library

variable {α : Type}

/-! ## Section 1: Cutting -/

/-- The pieces of a list, one for each number and size of the plan. -/
def cutAt : List (Nat × Nat) → List α → List (Nat × List α)
  | [], _ => []
  | (number, size) :: plan, content =>
    (number, content.take size) :: cutAt plan (content.drop size)

@[simp] theorem map_fst_cutAt (plan : List (Nat × Nat)) (content : List α) :
    (cutAt plan content).map Prod.fst = plan.map Prod.fst := by
  induction plan generalizing content with
  | nil => rfl
  | cons part plan ih =>
      show part.1 :: (cutAt plan _).map Prod.fst = part.1 :: plan.map Prod.fst
      rw [ih]

/-- The elements of a piece come from the list. -/
theorem mem_of_mem_cutAt {plan : List (Nat × Nat)} {content : List α} {piece : Nat × List α}
    {a : α} (h : piece ∈ cutAt plan content) (ha : a ∈ piece.2) : a ∈ content := by
  induction plan generalizing content with
  | nil => cases h
  | cons part plan ih =>
      rcases List.mem_cons.mp h with rfl | h
      · exact List.mem_of_mem_take ha
      · exact List.mem_of_mem_drop (ih h)

/-- A piece that is not empty belongs to a part of the plan that is not empty. -/
theorem exists_part_of_mem_cutAt {plan : List (Nat × Nat)} {content : List α}
    {piece : Nat × List α} (h : piece ∈ cutAt plan content) (hne : piece.2 ≠ []) :
    ∃ part ∈ plan, part.1 = piece.1 ∧ 0 < part.2 := by
  induction plan generalizing content with
  | nil => cases h
  | cons part plan ih =>
      rcases List.mem_cons.mp h with rfl | h
      · refine ⟨part, List.mem_cons_self, rfl, ?_⟩
        apply Nat.pos_of_ne_zero
        intro hzero
        apply hne
        show content.take part.2 = []
        rw [hzero, List.take_zero]
      · obtain ⟨other, hmem, hnumber, hsize⟩ := ih h
        exact ⟨other, List.mem_cons_of_mem _ hmem, hnumber, hsize⟩

/-- A part of the plan that is not empty gets a piece that is not empty, if the list is long
enough. -/
theorem exists_piece_of_mem {plan : List (Nat × Nat)} {content : List α} {part : Nat × Nat}
    (hlength : (plan.map Prod.snd).sum = content.length) (h : part ∈ plan) (hpos : 0 < part.2) :
    ∃ piece ∈ cutAt plan content, piece.1 = part.1 ∧ piece.2 ≠ [] := by
  induction plan generalizing content with
  | nil => cases h
  | cons first plan ih =>
      rw [List.map_cons, List.sum_cons] at hlength
      rcases List.mem_cons.mp h with rfl | h
      · refine ⟨_, List.mem_cons_self, rfl, ?_⟩
        rw [← List.length_pos_iff, List.length_take]
        omega
      · obtain ⟨piece, hpiece, hnumber, hne⟩ := ih
          (by rw [List.length_drop, ← hlength, Nat.add_sub_cancel_left]) h
        exact ⟨piece, List.mem_cons_of_mem _ hpiece, hnumber, hne⟩

/-! ## Section 2: Joining by number -/

/-- The pieces by number; those with one number keep their order. -/
def byNumber (pieces : List (Nat × List α)) : List (Nat × List α) :=
  pieces.insertionSort fun a b => a.1 ≤ b.1

def assembled (pieces : List (Nat × List α)) : List α :=
  ((byNumber pieces).map Prod.snd).flatten

theorem pairwise_byNumber (pieces : List (Nat × List α)) :
    (byNumber pieces).Pairwise fun a b => a.1 ≤ b.1 := by
  have htotal : Std.Total fun a b : Nat × List α => a.1 ≤ b.1 :=
    ⟨fun a b => Nat.le_total a.1 b.1⟩
  have htrans : IsTrans (Nat × List α) fun a b => a.1 ≤ b.1 := ⟨fun _ _ _ => Nat.le_trans⟩
  exact List.pairwise_insertionSort _ pieces

theorem mem_byNumber {pieces : List (Nat × List α)} {piece : Nat × List α} :
    piece ∈ byNumber pieces ↔ piece ∈ pieces :=
  (List.perm_insertionSort _ pieces).mem_iff

theorem mem_assembled {pieces : List (Nat × List α)} {a : α} :
    a ∈ assembled pieces ↔ ∃ piece ∈ pieces, a ∈ piece.2 := by
  rw [assembled, List.mem_flatten]
  constructor
  · rintro ⟨text, htext, ha⟩
    obtain ⟨piece, hpiece, rfl⟩ := List.mem_map.mp htext
    exact ⟨piece, mem_byNumber.mp hpiece, ha⟩
  · rintro ⟨piece, hpiece, ha⟩
    exact ⟨piece.2, List.mem_map_of_mem (mem_byNumber.mpr hpiece), ha⟩

/-- What is not skipped in a list by number has at least the number. -/
theorem le_of_mem_dropWhile {number : Nat} {pieces : List (Nat × List α)}
    (hsorted : pieces.Pairwise fun a b => a.1 ≤ b.1) {piece : Nat × List α}
    (h : piece ∈ pieces.dropWhile fun other => decide (¬ number ≤ other.1)) :
    number ≤ piece.1 := by
  induction pieces with
  | nil => cases h
  | cons first pieces ih =>
      rw [List.pairwise_cons] at hsorted
      rw [List.dropWhile_cons] at h
      split_ifs at h with hfirst
      · exact ih hsorted.2 h
      · have hle : number ≤ first.1 := by simpa using hfirst
        rcases List.mem_cons.mp h with rfl | h
        · exact hle
        · exact Nat.le_trans hle (hsorted.1 piece h)

/-- One more piece goes between the smaller and the larger numbers. Nothing comes before it exactly
when no smaller number has a piece that is not empty. -/
theorem assembled_cons (number : Nat) (content : List α) (pieces : List (Nat × List α)) :
    ∃ before after, assembled ((number, content) :: pieces) = before ++ (content ++ after) ∧
      assembled pieces = before ++ after ∧
      (before = [] ↔ ∀ piece ∈ pieces, piece.2 ≠ [] → number ≤ piece.1) := by
  have hsplit : byNumber ((number, content) :: pieces) =
      (byNumber pieces).takeWhile (fun other => decide (¬ number ≤ other.1)) ++
        (number, content) :: (byNumber pieces).dropWhile
          (fun other => decide (¬ number ≤ other.1)) :=
    List.insertionSort_cons_eq_take_drop _ _ _
  have hjoin : (byNumber pieces).takeWhile (fun other => decide (¬ number ≤ other.1)) ++
      (byNumber pieces).dropWhile (fun other => decide (¬ number ≤ other.1)) = byNumber pieces :=
    List.takeWhile_append_dropWhile
  refine ⟨(((byNumber pieces).takeWhile
      (fun other => decide (¬ number ≤ other.1))).map Prod.snd).flatten,
    (((byNumber pieces).dropWhile
      (fun other => decide (¬ number ≤ other.1))).map Prod.snd).flatten, ?_, ?_, ?_⟩
  · rw [assembled, hsplit]
    simp
  · rw [← List.flatten_append, ← List.map_append, hjoin]
    rfl
  · rw [List.flatten_eq_nil_iff]
    constructor
    · intro hempty piece hpiece hne
      -- a smaller number would be among those that are skipped
      rw [← mem_byNumber, ← hjoin] at hpiece
      rcases List.mem_append.mp hpiece with hpiece | hpiece
      · exact absurd (hempty _ (List.mem_map_of_mem hpiece)) hne
      · exact le_of_mem_dropWhile (pairwise_byNumber pieces) hpiece
    · intro hsmall text htext
      obtain ⟨piece, hpiece, rfl⟩ := List.mem_map.mp htext
      have hlt := List.all_eq_true.mp List.all_takeWhile piece hpiece
      have hmem := mem_byNumber.mp ((List.takeWhile_sublist _).mem hpiece)
      by_contra hne
      have hle := hsmall piece hmem hne
      simp [hle] at hlt

/-! ## Section 3: Delivery -/

/-- The pieces carry different numbers and make up the list. -/
def Delivers (content : List α) (pieces : List (Nat × List α)) : Prop :=
  (pieces.map Prod.fst).Nodup ∧ assembled pieces = content

instance [DecidableEq α] (content : List α) (pieces : List (Nat × List α)) :
    Decidable (Delivers content pieces) :=
  inferInstanceAs (Decidable (_ ∧ _))

/-- The numbers of the parts that are not empty go up. -/
def AssembledInOrder (plan : List (Nat × Nat)) : Prop :=
  plan.Pairwise fun a b => 0 < a.2 → 0 < b.2 → a.1 ≤ b.1

instance (plan : List (Nat × Nat)) : Decidable (AssembledInOrder plan) :=
  inferInstanceAs (Decidable (List.Pairwise _ _))

theorem assembled_cutAt {plan : List (Nat × Nat)} {content : List α}
    (horder : AssembledInOrder plan)
    (hlength : (plan.map Prod.snd).sum = content.length) :
    assembled (cutAt plan content) = content := by
  induction plan generalizing content with
  | nil =>
      have hnil : content = [] := List.length_eq_zero_iff.mp hlength.symm
      rw [hnil]
      rfl
  | cons part plan ih =>
      rw [AssembledInOrder, List.pairwise_cons] at horder
      rw [List.map_cons, List.sum_cons] at hlength
      have hrest : assembled (cutAt plan (content.drop part.2)) = content.drop part.2 :=
        ih horder.2 (by rw [List.length_drop, ← hlength, Nat.add_sub_cancel_left])
      obtain ⟨before, after, hcons, hjoin, hbefore⟩ :=
        assembled_cons part.1 (content.take part.2) (cutAt plan (content.drop part.2))
      show assembled ((part.1, content.take part.2) :: cutAt plan (content.drop part.2)) = content
      rw [hrest] at hjoin
      rw [hcons]
      rcases Nat.eq_zero_or_pos part.2 with hzero | hpos
      · rw [hzero, List.take_zero, List.nil_append, ← hjoin, hzero, List.drop_zero]
      · have hnone : before = [] := by
          rw [hbefore]
          intro piece hpiece hne
          obtain ⟨other, hmem, hnumber, hsize⟩ := exists_part_of_mem_cutAt hpiece hne
          exact hnumber ▸ horder.1 other hmem hpos hsize
        rw [hnone, List.nil_append] at hjoin ⊢
        rw [← hjoin, List.take_append_drop]

/-- **A plan in order delivers every list of its size.** -/
theorem delivers_cutAt {plan : List (Nat × Nat)} {content : List α}
    (hnodup : (plan.map Prod.fst).Nodup) (horder : AssembledInOrder plan)
    (hlength : (plan.map Prod.snd).sum = content.length) :
    Delivers content (cutAt plan content) :=
  ⟨by rwa [map_fst_cutAt], assembled_cutAt horder hlength⟩

/-- **A plan out of order does not deliver every list of its size.** A list whose first piece has
an element that the rest does not have shows what comes before this piece. -/
theorem assembledInOrder_of_assembled {a b : α} (hab : a ≠ b) {plan : List (Nat × Nat)}
    (h : ∀ content : List α, content.length = (plan.map Prod.snd).sum →
      assembled (cutAt plan content) = content) : AssembledInOrder plan := by
  induction plan with
  | nil => exact List.Pairwise.nil
  | cons part plan ih =>
      rw [List.map_cons, List.sum_cons] at h
      have hcut : ∀ rest : List α, cutAt (part :: plan) (List.replicate part.2 a ++ rest) =
          (part.1, List.replicate part.2 a) :: cutAt plan rest := by
        intro rest
        show (part.1, (List.replicate part.2 a ++ rest).take part.2) ::
          cutAt plan ((List.replicate part.2 a ++ rest).drop part.2) = _
        rw [List.take_left' List.length_replicate, List.drop_left' List.length_replicate]
      have hlength : ∀ rest : List α, rest.length = (plan.map Prod.snd).sum →
          (List.replicate part.2 a ++ rest).length = part.2 + (plan.map Prod.snd).sum := by
        intro rest hrest
        rw [List.length_append, List.length_replicate, hrest]
      -- no smaller number comes with a piece, as `b` would come first
      have hfirst : 0 < part.2 → ∀ other ∈ plan, 0 < other.2 → part.1 ≤ other.1 := by
        intro hpos other hother hsize
        have hrest : (List.replicate (plan.map Prod.snd).sum b).length =
            (plan.map Prod.snd).sum := List.length_replicate
        have heq := h _ (hlength _ hrest)
        rw [hcut] at heq
        obtain ⟨before, after, hcons, hjoin, hbefore⟩ := assembled_cons part.1
          (List.replicate part.2 a) (cutAt plan (List.replicate (plan.map Prod.snd).sum b))
        obtain ⟨piece, hpiece, hnumber, hne⟩ := exists_piece_of_mem hrest.symm hother hsize
        rw [← hnumber]
        refine hbefore.mp ?_ piece hpiece hne
        rw [hcons] at heq
        cases before with
        | nil => rfl
        | cons c before =>
            have hc : c ∈ assembled (cutAt plan (List.replicate (plan.map Prod.snd).sum b)) := by
              rw [hjoin]
              exact List.mem_append_left _ List.mem_cons_self
            obtain ⟨source, hsource, hmem⟩ := mem_assembled.mp hc
            have hcb : c = b := List.eq_of_mem_replicate (mem_of_mem_cutAt hsource hmem)
            obtain ⟨size, hsucc⟩ : ∃ size, part.2 = size + 1 := ⟨part.2 - 1, by omega⟩
            rw [hsucc, List.replicate_succ] at heq
            have hca : c = a := (List.cons.inj heq).1
            exact absurd (hca.symm.trans hcb) hab
      have hrest : ∀ rest : List α, rest.length = (plan.map Prod.snd).sum →
          assembled (cutAt plan rest) = rest := by
        intro rest hlen
        have heq := h _ (hlength rest hlen)
        rw [hcut] at heq
        obtain ⟨before, after, hcons, hjoin, hbefore⟩ :=
          assembled_cons part.1 (List.replicate part.2 a) (cutAt plan rest)
        rw [hcons] at heq
        rw [hjoin]
        rcases Nat.eq_zero_or_pos part.2 with hzero | hpos
        · simpa [hzero] using heq
        · have hnone : before = [] := by
            rw [hbefore]
            intro piece hpiece hne
            obtain ⟨other, hmem, hnumber, hsize⟩ := exists_part_of_mem_cutAt hpiece hne
            exact hnumber ▸ hfirst hpos other hmem hsize
          rw [hnone, List.nil_append] at heq ⊢
          exact List.append_cancel_left heq
      rw [AssembledInOrder, List.pairwise_cons]
      exact ⟨fun other hother hpos hsize => hfirst hpos other hother hsize, ih hrest⟩

end Netdisk2Blob.Library
