import Mathlib.Data.List.Perm.Subperm

/-!
# A Queue That Rotates

A pop takes the first element that is ready off a queue, and the elements in front of it go to
the back. New elements are pushed at the back. Whatever is ready moves towards the front with
every pop, so a pop count bounds how long it waits.

## Contents

- `Pops`: what a pop that finds an element does to the queue
- `Pops.watched_subperm`, `watched_append`: one pop, and a push, seen from the first places of the
  queue
-/

namespace Netdisk2Blob.Library

variable {α : Type*}

/-- The pop returns the element, and the ones that it passes go to the back. -/
def Pops (ready : α → Prop) (queue : List α) (a : α) (rest : List α) : Prop :=
  ∃ skipped behind, queue = skipped ++ a :: behind ∧ (∀ b ∈ skipped, ¬ ready b) ∧ ready a ∧
    rest = behind ++ skipped

section Pops

variable {ready : α → Prop} {queue rest : List α} {a : α}

theorem Pops.isReady (h : Pops ready queue a rest) : ready a := by
  obtain ⟨skipped, behind, -, -, hready, -⟩ := h
  exact hready

/-- Nothing gets lost. -/
theorem Pops.perm (h : Pops ready queue a rest) : queue.Perm (a :: rest) := by
  obtain ⟨skipped, behind, rfl, -, -, rfl⟩ := h
  calc skipped ++ a :: behind
      _ |>.Perm (a :: (skipped ++ behind)) := List.perm_middle
      _ |>.Perm (a :: (behind ++ skipped)) := List.perm_append_comm.cons a

/-- **One pop.** Of the watched elements at the first `n + 1` places, which are all ready, one may
be returned, and the others are at the first `n` places afterwards. -/
theorem Pops.watched_subperm {watched : α → Bool} (h : Pops ready queue a rest)
    (hwatched : ∀ b, watched b = true → ready b) (n : Nat) :
    ((queue.take (n + 1)).filter watched).Subperm (a :: (rest.take n).filter watched) := by
  obtain ⟨skipped, behind, rfl, hskipped, -, rfl⟩ := h
  have hnone : skipped.filter watched = [] := by
    rw [List.filter_eq_nil_iff]
    exact fun b hb hwatch => hskipped b hb (hwatched b hwatch)
  rcases Nat.lt_or_ge n skipped.length with hlong | hshort
  · -- the first places hold only elements that are passed
    have htake : (skipped ++ a :: behind).take (n + 1) = skipped.take (n + 1) :=
      List.take_append_of_le_length hlong
    have hempty : (skipped.take (n + 1)).filter watched = [] := by
      rw [← List.sublist_nil, ← hnone]
      exact (List.take_sublist _ _).filter watched
    rw [htake, hempty]
    exact List.nil_subperm
  · -- what stood behind the returned element stands in front now
    obtain ⟨m, rfl⟩ := Nat.exists_eq_add_of_le hshort
    have htake : (skipped ++ a :: behind).take (skipped.length + m + 1) =
        skipped ++ a :: behind.take m := by
      rw [Nat.add_assoc, List.take_length_add_append, List.take_succ_cons]
    have hfront : (behind.take m).Sublist ((behind ++ skipped).take (skipped.length + m)) := by
      have hstart : (behind.take m) <+: (behind ++ skipped) :=
        (List.take_prefix _ _).trans (List.prefix_append _ _)
      have hlength : (behind.take m).length ≤ skipped.length + m :=
        Nat.le_trans (List.length_take_le _ _) (Nat.le_add_left _ _)
      exact (List.prefix_take_iff.mpr ⟨hstart, hlength⟩).sublist
    rw [htake, List.filter_append, hnone, List.nil_append]
    have hcons : ((a :: behind.take m).filter watched).Sublist
        (a :: (behind.take m).filter watched) := by
      rw [List.filter_cons]
      split
      · exact List.Sublist.refl _
      · exact List.sublist_cons_self _ _
    exact (hcons.trans ((hfront.filter watched).cons_cons a)).subperm

end Pops

/-- **One push.** The first places stay as they are. -/
theorem watched_append (watched : α → Bool) (queue pushed : List α) (n : Nat) :
    ((queue.take n).filter watched).Sublist (((queue ++ pushed).take n).filter watched) := by
  have hstart : queue.take n <+: (queue ++ pushed).take n :=
    List.prefix_take_iff.mpr ⟨(List.take_prefix _ _).trans (List.prefix_append _ _),
      List.length_take_le _ _⟩
  exact hstart.sublist.filter watched

end Netdisk2Blob.Library
