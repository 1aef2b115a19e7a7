import Mathlib

/-!
# Long Runs in a Text

A text read with each of its long runs, the maximal stretches of at least `n` elements with a
property, as one hole; and the text with a marker in every hole.

## Contents

- `maskRuns`: the text with holes; `fillHoles`: the holes filled with a marker
- `noLongRun_fillHoles`: behind the filling there is no long run, and `maskRuns_of_noLongRun`: a
  text without long runs has no holes
- `splitOnP_fillHoles`: the filling goes part by part when the text is split
- `mem_fillHoles_maskRuns`, `countP_fillHoles`: what the filling contains
- `eq_of_fillHoles_eq`: a marker that fits in one place only tells where the hole was
-/

namespace Netdisk2Blob.Library

variable {α : Type*} {p : α → Bool} {n : ℕ} {marker : List α}

/-! ## Section 1: Masks -/

/-- A run that ends: one hole if it is long. -/
def runPieces (n : ℕ) (run : List α) : List (Option α) :=
  if n ≤ run.length then [none] else run.map some

/-- The text behind an open run. -/
def maskRuns (p : α → Bool) (n : ℕ) : List α → List α → List (Option α)
  | run, [] => runPieces n run
  | run, a :: rest =>
    if p a then maskRuns p n (run ++ [a]) rest
    else runPieces n run ++ some a :: maskRuns p n [] rest

def fillHoles (marker : List α) (mask : List (Option α)) : List α :=
  mask.flatMap fun piece =>
    match piece with
    | some a => [a]
    | none => marker

@[simp] theorem fillHoles_nil : fillHoles marker ([] : List (Option α)) = [] := rfl

@[simp] theorem fillHoles_some (a : α) (mask : List (Option α)) :
    fillHoles marker (some a :: mask) = a :: fillHoles marker mask := rfl

@[simp] theorem fillHoles_none (mask : List (Option α)) :
    fillHoles marker (none :: mask) = marker ++ fillHoles marker mask := rfl

@[simp] theorem fillHoles_append (mask mask' : List (Option α)) :
    fillHoles marker (mask ++ mask') = fillHoles marker mask ++ fillHoles marker mask' :=
  List.flatMap_append

@[simp] theorem fillHoles_map_some (text : List α) :
    fillHoles marker (text.map some) = text := by
  induction text with
  | nil => rfl
  | cons a text ih => rw [List.map_cons, fillHoles_some, ih]

theorem fillHoles_runPieces (run : List α) :
    fillHoles marker (runPieces n run) = if n ≤ run.length then marker else run := by
  unfold runPieces
  split
  · rw [fillHoles_none, fillHoles_nil, List.append_nil]
  · rw [fillHoles_map_some]

/-! ## Section 2: No long run is left -/

/-- Every stretch of elements with the property is short. -/
def NoLongRun (p : α → Bool) (n : ℕ) (text : List α) : Prop :=
  ∀ part, part <:+: text → (∀ a ∈ part, p a = true) → part.length < n

theorem NoLongRun.of_infix {text part : List α} (h : NoLongRun p n text) (hpart : part <:+: text) :
    NoLongRun p n part :=
  fun run hrun => h run (hrun.trans hpart)

theorem noLongRun_of_length_lt {text : List α} (h : text.length < n) : NoLongRun p n text :=
  fun _ hpart _ => Nat.lt_of_le_of_lt hpart.length_le h

/-- A text without elements of the property has no long run. -/
theorem noLongRun_of_forall_not {text : List α} (hn : 0 < n) (h : ∀ a ∈ text, p a = false) :
    NoLongRun p n text := by
  intro part hpart hrun
  have hnil : part = [] := by
    rw [List.eq_nil_iff_forall_not_mem]
    intro a ha
    have htrue := hrun a ha
    rw [h a (hpart.mem ha)] at htrue
    cases htrue
  rw [hnil]
  exact hn

/-- A stretch of a text that is cut by another element lies on one side of the cut. -/
theorem infix_append_cons {part before after : List α} {a : α} (ha : a ∉ part)
    (h : part <:+: before ++ a :: after) : part <:+: before ∨ part <:+: after := by
  obtain ⟨front, back, heq⟩ := h
  rcases List.append_eq_append_iff.mp heq with ⟨middle, hbefore, -⟩ | ⟨middle, hfront, hcons⟩
  · left
    exact ⟨front, middle, hbefore.symm⟩
  · cases middle with
    | nil =>
        left
        rw [List.append_nil] at hfront
        exact ⟨front, [], by rw [List.append_nil, hfront]⟩
    | cons b middle =>
        -- the cutting element stands in what is in front of the back
        rw [List.cons_append] at hcons
        obtain ⟨rfl, hafter⟩ := List.cons.inj hcons
        rcases List.append_eq_append_iff.mp hfront with ⟨rest, -, hpart⟩ | ⟨rest, hbefore, hrest⟩
        · exfalso
          refine ha ?_
          rw [hpart]
          exact List.mem_append_right _ List.mem_cons_self
        · cases rest with
          | nil =>
              exfalso
              refine ha ?_
              rw [List.nil_append] at hrest
              rw [← hrest]
              exact List.mem_cons_self
          | cons c rest =>
              right
              rw [List.cons_append] at hrest
              obtain ⟨-, hmiddle⟩ := List.cons.inj hrest
              refine ⟨rest, back, ?_⟩
              rw [hafter, hmiddle]

/-- Texts without long runs, and an element without the property between them. -/
theorem NoLongRun.append_cons {before after : List α} {a : α} (hbefore : NoLongRun p n before)
    (hafter : NoLongRun p n after) (ha : p a = false) : NoLongRun p n (before ++ a :: after) := by
  intro part hpart hrun
  have hnot : a ∉ part := by
    intro hmem
    rw [hrun a hmem] at ha
    cases ha
  rcases infix_append_cons hnot hpart with h | h
  · exact hbefore part h hrun
  · exact hafter part h hrun

theorem noLongRun_runPieces (hn : 0 < n) (hmarker : ∀ a ∈ marker, p a = false) (run : List α) :
    NoLongRun p n (fillHoles marker (runPieces n run)) := by
  rw [fillHoles_runPieces]
  split
  · exact noLongRun_of_forall_not hn hmarker
  · exact noLongRun_of_length_lt (by omega)

/-- **Behind the filling there is no long run.** -/
theorem noLongRun_fillHoles (hn : 0 < n) (hmarker : ∀ a ∈ marker, p a = false)
    (run text : List α) : NoLongRun p n (fillHoles marker (maskRuns p n run text)) := by
  induction text generalizing run with
  | nil => exact noLongRun_runPieces hn hmarker run
  | cons a text ih =>
      rw [maskRuns]
      split
      · exact ih (run ++ [a])
      · rename_i ha
        rw [fillHoles_append, fillHoles_some]
        exact (noLongRun_runPieces hn hmarker run).append_cons (ih []) (by simpa using ha)

/-- **A text without long runs has no holes.** -/
theorem maskRuns_of_noLongRun {run text : List α} (hrun : ∀ a ∈ run, p a = true)
    (h : NoLongRun p n (run ++ text)) : maskRuns p n run text = (run ++ text).map some := by
  -- the open run is short, as it stands in the text
  have hshort : run.length < n := h run List.infix_append_left hrun
  have hpieces : runPieces n run = run.map some := if_neg (Nat.not_le.mpr hshort)
  induction text generalizing run with
  | nil => rw [maskRuns, hpieces, List.append_nil]
  | cons a text ih =>
      rw [maskRuns]
      have hmove : run ++ a :: text = (run ++ [a]) ++ text := by
        rw [List.append_assoc, List.singleton_append]
      split
      · rename_i ha
        have hrun' : ∀ b ∈ run ++ [a], p b = true := by
          intro b hb
          rcases List.mem_append.mp hb with hb | hb
          · exact hrun b hb
          · rw [List.mem_singleton.mp hb]
            exact ha
        rw [hmove] at h ⊢
        have hshort' := h (run ++ [a]) List.infix_append_left hrun'
        exact ih hrun' h hshort' (if_neg (Nat.not_le.mpr hshort'))
      · have hrest : NoLongRun p n ([] ++ text) :=
          h.of_infix ⟨run ++ [a], [], by rw [List.append_nil, List.nil_append, hmove]⟩
        have hn : 0 < n := Nat.lt_of_le_of_lt (Nat.zero_le _) hshort
        rw [hpieces, ih (by simp) hrest hn (if_neg (Nat.not_le.mpr hn)), List.nil_append,
          List.map_append, List.map_cons]

/-! ## Section 3: Splitting -/

/-- Splitting behind elements that are not separators. -/
theorem splitOnP_append {q : α → Bool} {front rest : List α} (h : ∀ a ∈ front, q a = false) :
    (front ++ rest).splitOnP q = (rest.splitOnP q).modifyHead (front ++ ·) := by
  induction front with
  | nil =>
      rw [List.nil_append]
      cases rest.splitOnP q with
      | nil => rfl
      | cons part parts => rw [List.modifyHead_cons, List.nil_append]
  | cons a front ih =>
      have ha : q a = false := h a List.mem_cons_self
      have hfront : ∀ b ∈ front, q b = false := fun b hb => h b (List.mem_cons_of_mem _ hb)
      rw [List.cons_append, List.splitOnP_cons_eq_if_modifyHead, if_neg (by simp [ha]), ih hfront]
      cases rest.splitOnP q with
      | nil => rfl
      | cons part parts => rfl

section Splitting

variable {q : α → Bool} (hmarker : ∀ a ∈ marker, q a = false) (hpq : ∀ a, p a = true → q a = false)

include hmarker hpq

theorem forall_mem_runPieces {run : List α} (hrun : ∀ a ∈ run, p a = true) :
    ∀ a ∈ fillHoles marker (runPieces n run), q a = false := by
  rw [fillHoles_runPieces]
  split
  · exact hmarker
  · exact fun a ha => hpq a (hrun a ha)

/-- The first part takes the open run; the other parts are read for themselves. -/
theorem splitOnP_fillHoles_cons {run text part : List α} {parts : List (List α)}
    (hrun : ∀ a ∈ run, p a = true) (h : text.splitOnP q = part :: parts) :
    (fillHoles marker (maskRuns p n run text)).splitOnP q =
      fillHoles marker (maskRuns p n run part) ::
        parts.map fun part => fillHoles marker (maskRuns p n [] part) := by
  -- the induction is on the text, for every open run
  induction text generalizing run part parts with
  | nil =>
      obtain ⟨rfl, rfl⟩ := List.cons.inj (h.symm.trans List.splitOnP_nil)
      rw [maskRuns, List.splitOnP_eq_singleton (forall_mem_runPieces hmarker hpq hrun)]
      rfl
  | cons a text ih =>
      obtain ⟨next, rest, hnext⟩ := List.exists_cons_of_ne_nil (List.splitOnP_ne_nil q text)
      rw [List.splitOnP_cons_eq_if_modifyHead, hnext] at h
      by_cases ha : p a = true
      · -- the run goes on
        rw [if_neg (by simp [hpq a ha])] at h
        obtain ⟨rfl, rfl⟩ := List.cons.inj h
        have hrun' : ∀ b ∈ run ++ [a], p b = true := by
          intro b hb
          rcases List.mem_append.mp hb with hb | hb
          · exact hrun b hb
          · rw [List.mem_singleton.mp hb]
            exact ha
        rw [maskRuns, if_pos ha, ih hrun' hnext, maskRuns, if_pos ha]
      · have hfront := forall_mem_runPieces (n := n) hmarker hpq hrun
        rw [maskRuns, if_neg ha, fillHoles_append, fillHoles_some, splitOnP_append hfront,
          List.splitOnP_cons_eq_if_modifyHead, ih (by simp) hnext]
        by_cases hq : q a = true
        · -- a separator: the open run ends the first part
          rw [if_pos hq] at h ⊢
          obtain ⟨rfl, rfl⟩ := List.cons.inj h
          rw [List.modifyHead_cons, List.append_nil, List.map_cons, maskRuns]
        · rw [if_neg hq] at h ⊢
          obtain ⟨rfl, rfl⟩ := List.cons.inj h
          rw [List.modifyHead_cons, List.modifyHead_cons, maskRuns, if_neg ha, fillHoles_append,
            fillHoles_some]

/-- **The filling goes part by part.** -/
theorem splitOnP_fillHoles (text : List α) :
    (fillHoles marker (maskRuns p n [] text)).splitOnP q =
      (text.splitOnP q).map fun part => fillHoles marker (maskRuns p n [] part) := by
  obtain ⟨part, parts, hparts⟩ := List.exists_cons_of_ne_nil (List.splitOnP_ne_nil q text)
  rw [splitOnP_fillHoles_cons hmarker hpq (by simp) hparts, hparts, List.map_cons]

end Splitting

/-! ## Section 4: What the filling contains -/

section Membership

variable {a : α} (ha : p a = false) (hmarker : a ∉ marker)

include ha hmarker

theorem not_mem_runPieces {run : List α} (hrun : ∀ b ∈ run, p b = true) :
    a ∉ fillHoles marker (runPieces n run) := by
  rw [fillHoles_runPieces]
  split
  · exact hmarker
  · intro hmem
    rw [hrun a hmem] at ha
    cases ha

/-- An element without the property that the marker does not have is kept, and comes from
nowhere else. -/
theorem mem_fillHoles_maskRuns {run text : List α} (hrun : ∀ b ∈ run, p b = true) :
    a ∈ fillHoles marker (maskRuns p n run text) ↔ a ∈ text := by
  have hpieces := not_mem_runPieces (n := n) ha hmarker hrun
  induction text generalizing run with
  | nil => simp [maskRuns, hpieces]
  | cons b text ih =>
      rw [maskRuns]
      split
      · rename_i hb
        have hne : a ≠ b := by
          rintro rfl
          rw [hb] at ha
          cases ha
        have hrun' : ∀ c ∈ run ++ [b], p c = true := by
          intro c hc
          rcases List.mem_append.mp hc with hc | hc
          · exact hrun c hc
          · rw [List.mem_singleton.mp hc]
            exact hb
        have hrest := ih hrun' (not_mem_runPieces ha hmarker hrun')
        simp [hrest, hne]
      · have hnone : ∀ c ∈ ([] : List α), p c = true := by simp
        have hrest := ih hnone (not_mem_runPieces ha hmarker hnone)
        simp [hrest, hpieces]

end Membership

/-- Nothing is left of a text exactly if nothing was there. -/
theorem fillHoles_maskRuns_eq_nil (hn : 0 < n) (hmarker : marker ≠ []) {run text : List α} :
    fillHoles marker (maskRuns p n run text) = [] ↔ run ++ text = [] := by
  induction text generalizing run with
  | nil =>
      rw [maskRuns, fillHoles_runPieces, List.append_nil]
      split
      · rename_i hlong
        refine ⟨fun h => absurd h hmarker, ?_⟩
        intro hnil
        rw [hnil, List.length_nil] at hlong
        omega
      · rfl
  | cons a text ih =>
      rw [maskRuns]
      split
      · rw [ih, List.append_assoc, List.singleton_append]
      · simp

/-- What the pieces of a mask weigh: an element for itself, and every hole like the marker. -/
def pieceWeight (r : α → Bool) (marker : List α) : Option α → ℕ
  | some a => if r a then 1 else 0
  | none => marker.countP r

theorem countP_fillHoles (r : α → Bool) (mask : List (Option α)) :
    (fillHoles marker mask).countP r = (mask.map (pieceWeight r marker)).sum := by
  induction mask with
  | nil => rfl
  | cons piece mask ih =>
      cases piece with
      | none => rw [fillHoles_none, List.countP_append, ih, List.map_cons, List.sum_cons]; rfl
      | some a =>
          rw [fillHoles_some, List.countP_cons, ih, List.map_cons, List.sum_cons, Nat.add_comm]
          rfl

/-- A text whose mask has no hole is its own filling. -/
theorem fillHoles_eq_self_of_no_hole {run text : List α}
    (h : none ∉ maskRuns p n run text) : fillHoles marker (maskRuns p n run text) = run ++ text := by
  induction text generalizing run with
  | nil =>
      rw [maskRuns] at h ⊢
      unfold runPieces at h ⊢
      split
      · rename_i hlong
        rw [if_pos hlong] at h
        exact absurd List.mem_cons_self h
      · rw [fillHoles_map_some, List.append_nil]
  | cons a text ih =>
      rw [maskRuns] at h ⊢
      split
      · rename_i ha
        rw [if_pos ha] at h
        rw [ih h, List.append_assoc, List.singleton_append]
      · rename_i ha
        rw [if_neg ha, List.mem_append, List.mem_cons, not_or, not_or] at h
        obtain ⟨hpieces, -, hrest⟩ := h
        unfold runPieces at hpieces ⊢
        split
        · rename_i hlong
          rw [if_pos hlong] at hpieces
          exact absurd List.mem_cons_self hpieces
        · rw [fillHoles_append, fillHoles_map_some, fillHoles_some, ih hrest, List.nil_append]

/-! ## Section 5: Where the hole was -/

/-- A marker that does not begin inside itself, between two texts that are too light to hold
another one, stands in one place. -/
theorem eq_of_append_marker_eq {a : α} {tail : List α} (r : α → Bool) (htail : a ∉ tail)
    {before after before' after' : List α}
    (hlight : (before ++ a :: tail ++ after).countP r < (a :: tail).countP r + (a :: tail).countP r)
    (h : before ++ a :: tail ++ after = before' ++ a :: tail ++ after')
    (hle : before.length ≤ before'.length) : before = before' ∧ after = after' := by
  rw [List.append_assoc, List.append_assoc] at h
  obtain ⟨gap, hbefore, hrest⟩ : ∃ gap, before' = before ++ gap ∧
      a :: tail ++ after = gap ++ (a :: tail ++ after') := by
    rcases List.append_eq_append_iff.mp h with ⟨gap, hgap, hrest⟩ | ⟨gap, hgap, hrest⟩
    · exact ⟨gap, hgap, hrest⟩
    · -- the first text is not longer, so nothing stands in between
      have hnil : gap = [] := by
        rw [hgap, List.length_append] at hle
        exact List.length_eq_zero_iff.mp (by omega)
      subst hnil
      refine ⟨[], ?_, ?_⟩
      · rw [hgap, List.append_nil, List.append_nil]
      · exact hrest.symm
  rcases List.append_eq_append_iff.mp hrest with ⟨between, hgap, hafter⟩ | ⟨overlap, hmarker, hafter⟩
  · -- the marker would fit twice
    exfalso
    rw [hafter] at hlight
    simp only [List.countP_append] at hlight
    omega
  · cases gap with
    | nil =>
        rw [List.nil_append] at hmarker
        subst hmarker
        refine ⟨by rw [hbefore, List.append_nil], ?_⟩
        exact (List.append_cancel_left hafter).symm
    | cons b gap =>
        cases overlap with
        | nil =>
            -- again the marker would fit twice
            exfalso
            rw [List.append_nil] at hmarker
            rw [List.nil_append] at hafter
            rw [← hafter] at hlight
            simp only [List.countP_append] at hlight
            omega
        | cons c overlap =>
            -- the marker would begin inside itself
            exfalso
            rw [List.cons_append] at hmarker hafter
            obtain ⟨-, htail'⟩ := List.cons.inj hmarker
            obtain ⟨rfl, -⟩ := List.cons.inj hafter
            refine htail ?_
            rw [htail']
            exact List.mem_append_right _ List.mem_cons_self

/-- A mask with holes that is too light for two of them. -/
theorem exists_one_hole {r : α → Bool} {mask : List (Option α)} (hhole : none ∈ mask)
    (hlight : (mask.map (pieceWeight r marker)).sum < marker.countP r + marker.countP r) :
    ∃ before after : List α, mask = before.map some ++ none :: after.map some := by
  have hsome : ∀ rest : List (Option α), none ∉ rest → ∃ text : List α, rest = text.map some := by
    intro rest hrest
    induction rest with
    | nil => exact ⟨[], rfl⟩
    | cons piece rest ih =>
        rw [List.mem_cons, not_or] at hrest
        obtain ⟨text, rfl⟩ := ih hrest.2
        cases piece with
        | none => exact absurd rfl hrest.1
        | some a => exact ⟨a :: text, rfl⟩
  have hheavy : ∀ rest : List (Option α), none ∈ rest →
      marker.countP r ≤ (rest.map (pieceWeight r marker)).sum := by
    intro rest hrest
    obtain ⟨front, back, rfl⟩ := List.append_of_mem hrest
    rw [List.map_append, List.map_cons, List.sum_append, List.sum_cons]
    exact Nat.le_trans (Nat.le_add_right _ _) (Nat.le_add_left _ _)
  obtain ⟨before, after, rfl⟩ := List.append_of_mem hhole
  rw [List.map_append, List.map_cons, List.sum_append, List.sum_cons] at hlight
  have hself : pieceWeight r marker none = marker.countP r := rfl
  have hbefore : none ∉ before := by
    intro hmem
    have := hheavy before hmem
    omega
  have hafter : none ∉ after := by
    intro hmem
    have := hheavy after hmem
    omega
  obtain ⟨front, rfl⟩ := hsome before hbefore
  obtain ⟨back, rfl⟩ := hsome after hafter
  exact ⟨front, back, rfl⟩

/-- **The filling tells the mask**, if both masks have a hole, and the filled text is too light for
two markers. -/
theorem eq_of_fillHoles_eq {a : α} {tail : List α} (r : α → Bool) (htail : a ∉ tail)
    {mask mask' : List (Option α)} (hhole : none ∈ mask) (hhole' : none ∈ mask')
    (hlight : (fillHoles (a :: tail) mask).countP r <
      (a :: tail).countP r + (a :: tail).countP r)
    (h : fillHoles (a :: tail) mask = fillHoles (a :: tail) mask') : mask = mask' := by
  have hlight' := hlight
  rw [h, countP_fillHoles] at hlight'
  rw [countP_fillHoles] at hlight
  obtain ⟨before, after, rfl⟩ := exists_one_hole hhole hlight
  obtain ⟨before', after', rfl⟩ := exists_one_hole hhole' hlight'
  rw [← countP_fillHoles] at hlight hlight'
  simp only [fillHoles_append, fillHoles_none, fillHoles_map_some, ← List.append_assoc]
    at h hlight hlight'
  rcases Nat.le_total before.length before'.length with hle | hle
  · obtain ⟨rfl, rfl⟩ := eq_of_append_marker_eq r htail hlight h hle
    rfl
  · obtain ⟨rfl, rfl⟩ := eq_of_append_marker_eq r htail hlight' h.symm hle
    rfl

end Netdisk2Blob.Library
