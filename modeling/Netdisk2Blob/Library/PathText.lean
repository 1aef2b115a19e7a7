import Netdisk2Blob.Library.Text

/-!
# Paths as Text

A path is written as its segments with slashes between them. Clients take a path apart in
several ways: they split it, drop the empty segments, trim slashes from its ends, or cut
off what follows the last slash. Here each of these is said in terms of the segments.

## Contents

- `IsSegment`, `joinKey`, `joinKey_injective`
- `split_append`, `split_joinKey`, `joinKey_split`: splitting and joining
- `rsplitOnce_of_split`: the part after the last slash is the last segment
- `nonEmptySegments`, `trimMatches`: empty segments dropped everywhere, or at the ends
-/

namespace Netdisk2Blob.Library

open Library.Text

/-! ## Section 1: Segments and keys -/

/-- A name that is one segment of a path. -/
def IsSegment (name : String) : Prop := name ≠ "" ∧ '/' ∉ name.toList

instance (name : String) : Decidable (IsSegment name) := inferInstanceAs (Decidable (_ ∧ _))

/-- A key from its segments. -/
def joinKey (segments : List String) : String := String.intercalate "/" segments

/-- Every element is one segment of a path. -/
def AreSegments (segments : List String) : Prop := ∀ segment ∈ segments, IsSegment segment

theorem areSegments_append {l l' : List String} :
    AreSegments (l ++ l') ↔ AreSegments l ∧ AreSegments l' := List.forall_mem_append

theorem areSegments_singleton {segment : String} : AreSegments [segment] ↔ IsSegment segment :=
  List.forall_mem_singleton

theorem joinKey_injective {l l' : List String} (hl : AreSegments l) (hl' : AreSegments l')
    (h : joinKey l = joinKey l') : l = l' := by
  have hempty : ∀ m : List String, AreSegments m → joinKey m = "" → m = [] := by
    intro m hm hjoin
    cases m with
    | nil => rfl
    | cons first rest =>
      have hsplit := @split_intercalate '/' (first :: rest) (List.cons_ne_nil _ _)
        (fun part hpart => (hm part hpart).2)
      rw [show String.intercalate (String.singleton '/') (first :: rest) = "" from hjoin] at hsplit
      have hfirst : [""] = first :: rest := hsplit
      exact absurd (List.cons.inj hfirst).1.symm (hm first List.mem_cons_self).1
  by_cases hnil : l = []
  · subst hnil
    exact (hempty l' hl' h.symm).symm
  · by_cases hnil' : l' = []
    · subst hnil'
      exact hempty l hl h
    · exact @intercalate_injective '/' l l' hnil hnil' (fun part hpart => (hl part hpart).2)
        (fun part hpart => (hl' part hpart).2) h

/-! ## Section 2: Splitting and joining -/

theorem joinKey_nil : joinKey [] = "" := String.intercalate_nil

theorem joinKey_eq_empty {segments : List String} (h : AreSegments segments) :
    joinKey segments = "" ↔ segments = [] := by
  constructor
  · intro hjoin
    exact joinKey_injective h (fun _ hmem => absurd hmem List.not_mem_nil)
      (hjoin.trans joinKey_nil.symm)
  · rintro rfl
    exact joinKey_nil

theorem joinKey_singleton (segment : String) : joinKey [segment] = segment :=
  String.intercalate_singleton

theorem joinKey_append {l l' : List String} (hl : l ≠ []) (hl' : l' ≠ []) :
    joinKey (l ++ l') = joinKey l ++ "/" ++ joinKey l' :=
  String.intercalate_append_of_ne_nil hl hl'

/-- A text is its parts joined. -/
@[simp] theorem joinKey_split (s : String) : joinKey (split '/' s) = s := by
  rw [← String.toList_inj, joinKey, String.toList_intercalate, split, List.map_map]
  have hmap : String.toList ∘ String.ofList = (id : List Char → List Char) := by
    funext l
    simp
  rw [hmap, List.map_id]
  exact List.intercalate_splitOn '/'

theorem split_append (a b : String) : split '/' (a ++ "/" ++ b) = split '/' a ++ split '/' b := by
  have hlist : (a ++ "/" ++ b).toList = a.toList ++ '/' :: b.toList := by simp
  rw [split, hlist, List.splitOn_append_cons_self, List.map_append]
  rfl

/-- Splitting joined texts splits each of them. -/
theorem split_joinKey {parts : List String} (hne : parts ≠ []) :
    split '/' (joinKey parts) = parts.flatMap (split '/') := by
  induction parts with
  | nil => exact absurd rfl hne
  | cons first rest ih =>
    cases rest with
    | nil => simp [joinKey_singleton]
    | cons second rest =>
      have hjoin : joinKey (first :: second :: rest) =
          first ++ "/" ++ joinKey (second :: rest) :=
        joinKey_append (List.cons_ne_nil first []) (List.cons_ne_nil second rest)
      rw [hjoin, split_append, ih (List.cons_ne_nil _ _)]
      rfl

/-- Segments joined and split again are the segments. -/
theorem split_joinKey_segments {segments : List String} (hne : segments ≠ [])
    (h : ∀ segment ∈ segments, '/' ∉ segment.toList) : split '/' (joinKey segments) = segments :=
  split_intercalate hne h

theorem rsplitOnce_append {before after : String} (h : '/' ∉ after.toList) :
    rsplitOnce '/' (before ++ "/" ++ after) = some (before, after) := by
  have hafter : ∀ a ∈ after.toList, decide (a ≠ '/') = true := by
    intro a ha
    apply decide_eq_true
    rintro rfl
    exact h ha
  have hlist : (before ++ "/" ++ after).toList = before.toList ++ ['/'] ++ after.toList := by
    simp
  have hdrop : (before.toList ++ ['/'] ++ after.toList).rdropWhile (fun a => decide (a ≠ '/')) =
      before.toList ++ ['/'] := by
    rw [List.rdropWhile, List.reverse_append, List.dropWhile_append_of_pos (by simpa using hafter)]
    simp
  have htake : (before.toList ++ ['/'] ++ after.toList).rtakeWhile (fun a => decide (a ≠ '/')) =
      after.toList := by
    rw [List.rtakeWhile, List.reverse_append, List.takeWhile_append_of_pos (by simpa using hafter)]
    simp
  rw [rsplitOnce, hlist, if_pos (by simp), hdrop, htake]
  simp

/-- A text of one part has no last slash. -/
theorem rsplitOnce_eq_none {s part : String} (h : split '/' s = [part]) :
    rsplitOnce '/' s = none ∧ s = part := by
  have hs : s = part := by
    rw [← joinKey_split s, h, joinKey_singleton]
  refine ⟨?_, hs⟩
  rw [rsplitOnce, if_neg]
  rw [hs]
  exact not_mem_of_mem_split (h ▸ List.mem_singleton_self part : part ∈ split '/' s)

/-- The last slash parts the last segment from the others. -/
theorem rsplitOnce_of_split {s part : String} {parts : List String} (hne : parts ≠ [])
    (h : split '/' s = parts ++ [part]) : rsplitOnce '/' s = some (joinKey parts, part) := by
  have hs : s = joinKey parts ++ "/" ++ part := by
    rw [← joinKey_split s, h, joinKey_append hne (List.cons_ne_nil _ _), joinKey_singleton]
  have hpart : '/' ∉ part.toList :=
    not_mem_of_mem_split (h ▸ List.mem_append_right _ List.mem_cons_self : part ∈ split '/' s)
  rw [hs]
  exact rsplitOnce_append hpart

/-! ## Section 3: Empty segments -/

/-- The segments between the slashes, without the empty ones. -/
def nonEmptySegments (s : String) : List String :=
  (split '/' s).filter (fun segment => decide (segment ≠ ""))

theorem areSegments_nonEmptySegments (s : String) : AreSegments (nonEmptySegments s) := by
  intro segment hsegment
  obtain ⟨hmem, hne⟩ := List.mem_filter.mp hsegment
  exact ⟨of_decide_eq_true hne, not_mem_of_mem_split hmem⟩

theorem nonEmptySegments_joinKey {segments : List String} (h : AreSegments segments) :
    nonEmptySegments (joinKey segments) = segments := by
  by_cases hne : segments = []
  · subst hne
    rfl
  · rw [nonEmptySegments, split_joinKey_segments hne (fun segment hmem => (h segment hmem).2),
      List.filter_eq_self]
    exact fun segment hmem => decide_eq_true (h segment hmem).1

/-- `str::trim_matches` with a character. -/
def trimMatches (c : Char) (s : String) : String :=
  String.ofList (trimList (fun a => decide (a = c)) s.toList)

theorem nonEmptySegments_ofList (l : List Char) :
    nonEmptySegments (String.ofList l) =
      ((l.splitOn '/').filter (fun part => !part.isEmpty)).map String.ofList := by
  rw [nonEmptySegments, split, String.toList_ofList, List.filter_map]
  congr 2
  funext part
  cases part with
  | nil => rfl
  | cons c cs => simp

/-- Slashes in front only make empty segments. -/
theorem splitOn_dropWhile (l : List Char) :
    ((l.dropWhile (fun a => decide (a = '/'))).splitOn '/').filter (fun part => !part.isEmpty) =
      (l.splitOn '/').filter (fun part => !part.isEmpty) := by
  induction l with
  | nil => rfl
  | cons c cs ih =>
    by_cases hc : c = '/'
    · subst hc
      rw [List.dropWhile_cons_of_pos (by simp), ih]
      have hsplit := List.splitOn_append_cons_self (a := '/') [] cs
      rw [List.nil_append] at hsplit
      rw [hsplit]
      simp
    · rw [List.dropWhile_cons_of_neg (by simpa using hc)]

/-- Slashes behind only make empty segments. -/
theorem splitOn_rdropWhile (l : List Char) :
    ((l.rdropWhile (fun a => decide (a = '/'))).splitOn '/').filter (fun part => !part.isEmpty) =
      (l.splitOn '/').filter (fun part => !part.isEmpty) := by
  induction l using List.reverseRecOn with
  | nil => rfl
  | append_singleton cs c ih =>
    by_cases hc : c = '/'
    · subst hc
      rw [List.rdropWhile_concat_pos _ _ _ (by simp), ih, List.splitOn_append_cons_self]
      simp
    · rw [List.rdropWhile_concat_neg _ _ _ (by simpa using hc)]

/-- Trimming slashes from the ends leaves the segments that are not empty. -/
theorem nonEmptySegments_trimMatches (s : String) :
    nonEmptySegments (trimMatches '/' s) = nonEmptySegments s := by
  rw [trimMatches, nonEmptySegments_ofList, trimList, splitOn_rdropWhile, splitOn_dropWhile,
    ← nonEmptySegments_ofList, String.ofList_toList]

/-- A text without empty segments has no slash to trim. -/
theorem trimMatches_eq_self {s : String} (h : ∀ part ∈ split '/' s, part ≠ "") :
    trimMatches '/' s = s := by
  rw [trimMatches, trimList_eq_self, String.ofList_toList]
  · intro hl hslash
    cases hs : s.toList with
    | nil =>
      rw [hs] at hl
      exact absurd hl (lt_irrefl _)
    | cons c cs =>
      simp only [hs, List.get_eq_getElem, List.getElem_cons_zero, decide_eq_true_eq] at hslash
      have hparts := List.splitOn_append_cons_self (a := '/') [] cs
      rw [List.nil_append] at hparts
      refine h "" ?_ rfl
      rw [split, hs, hslash, hparts]
      simp
  · intro hl hslash
    rw [decide_eq_true_eq] at hslash
    have hs : s.toList = s.toList.dropLast ++ '/' :: [] := by
      rw [← hslash]
      exact (List.dropLast_append_getLast hl).symm
    refine h "" ?_ rfl
    rw [split, hs, List.splitOn_append_cons_self]
    simp

end Netdisk2Blob.Library
