import Netdisk2Blob.Metadata.Objects
import Netdisk2Blob.Library.LikePatterns
import Netdisk2Blob.Library.Text
import Netdisk2Blob.Library.SortedLists
import Mathlib.Order.Lex

/-!
# Listing Placements

`list_object_placements` filters the placement table by provider, bucket and key prefix in
SQL, the prefix as a LIKE pattern, while the code beside it filters rows in memory with
`str::starts_with`. The casts between `u64` and SQLite's integers are outside the model.

## Contents

- `sqliteLikePrefixPattern`, `listObjectPlacements`: the query
- `mem_listObjectPlacements`: which rows it lists
- `list_prefix_iff`: on which tables a stored prefix filter means `starts_with`
-/

namespace Netdisk2Blob.Metadata

open Library Text

/-! ## Section 1: The query -/

def sqliteLikePrefixPattern (pre : String) : String :=
  String.ofList (escapeLike '\\' pre.toList ++ ['%'])

/-- A filter of a request: blank ones are none. -/
def trimmedFilter (filter : Option String) : Option String :=
  (filter.map trim).filter (fun value => decide (value ≠ ""))

/-- `ORDER BY updated_at_unix_ms DESC, provider ASC, bucket ASC, key ASC`. -/
def placementOrder (row : ObjectPlacementRecord) : ℕᵒᵈ ×ₗ String ×ₗ String ×ₗ String :=
  toLex (OrderDual.toDual row.updatedAtUnixMs, toLex (row.provider, objectKey row.bucket row.key))

/-- The WHERE clause. -/
def placementMatches (provider bucket keyPrefix : Option String) (row : ObjectPlacementRecord) :
    Bool :=
  (trimmedFilter provider).all (fun provider => decide (row.provider = provider)) &&
    (trimmedFilter bucket).all (fun bucket => decide (row.bucket = bucket)) &&
      (trimmedFilter keyPrefix).all (fun keyPrefix =>
        like '\\' (sqliteLikePrefixPattern keyPrefix) row.key)

namespace MetadataStore

/-- The first rows, at least one of them asked for, that the WHERE clause keeps. -/
def listObjectPlacements (store : MetadataStore) (provider bucket keyPrefix : Option String)
    (limit : Nat) : List ObjectPlacementRecord :=
  ((store.objectPlacements.rows.filter (placementMatches provider bucket keyPrefix)).insertionSort
    (fun a b => placementOrder a ≤ placementOrder b)).take (max limit 1)

end MetadataStore

/-- The rows that the query lists: few of the rows kept come before them. -/
structure Listed (store : MetadataStore) (provider bucket keyPrefix : Option String)
    (limit : Nat) (row : ObjectPlacementRecord) : Prop where
  stored : row ∈ store.objectPlacements
  kept : placementMatches provider bucket keyPrefix row = true
  early : ((store.objectPlacements.rows.filter (placementMatches provider bucket keyPrefix)).filter
    (fun other => decide (placementOrder other < placementOrder row))).length < max limit 1

theorem placementOrder_key {row row' : ObjectPlacementRecord}
    (h : placementOrder row = placementOrder row') :
    objectKey row.bucket row.key = objectKey row'.bucket row'.key := by
  simp only [placementOrder, toLex_inj, Prod.mk.injEq] at h
  exact h.2.2

theorem nodup_placementOrder (store : MetadataStore) (keep : ObjectPlacementRecord → Bool) :
    ((store.objectPlacements.rows.filter keep).map placementOrder).Nodup := by
  have hkeys : ((store.objectPlacements.rows.filter keep).map
      (fun row => objectKey row.bucket row.key)).Nodup :=
    (Table.nodup_keys store.objectPlacements).sublist (List.filter_sublist.map _)
  rw [List.Nodup, List.pairwise_map] at hkeys ⊢
  exact hkeys.imp (fun hne heq => hne (placementOrder_key heq))

theorem mem_listObjectPlacements {store : MetadataStore} {provider bucket keyPrefix : Option String}
    {limit : Nat} {row : ObjectPlacementRecord} :
    row ∈ store.listObjectPlacements provider bucket keyPrefix limit ↔
      Listed store provider bucket keyPrefix limit row := by
  have hsorted := sortedBy_insertionSort
    (nodup_placementOrder store (placementMatches provider bucket keyPrefix))
  have hperm := List.perm_insertionSort
    (fun a b : ObjectPlacementRecord => placementOrder a ≤ placementOrder b)
    (store.objectPlacements.rows.filter (placementMatches provider bucket keyPrefix))
  rw [MetadataStore.listObjectPlacements, hsorted.mem_take_iff, hperm.mem_iff, List.mem_filter,
    (hperm.filter _).length_eq]
  exact ⟨fun h => ⟨h.1.1, h.1.2, h.2⟩, fun h => ⟨⟨h.stored, h.kept⟩, h.early⟩⟩

/-- The query lists no key twice. -/
theorem nodup_listObjectPlacements (store : MetadataStore)
    (provider bucket keyPrefix : Option String) (limit : Nat) :
    ((store.listObjectPlacements provider bucket keyPrefix limit).map
      (fun row => objectKey row.bucket row.key)).Nodup := by
  have hperm := List.perm_insertionSort
    (fun a b : ObjectPlacementRecord => placementOrder a ≤ placementOrder b)
    (store.objectPlacements.rows.filter (placementMatches provider bucket keyPrefix))
  have hrows : ((store.objectPlacements.rows.filter
      (placementMatches provider bucket keyPrefix)).map
        (fun row => objectKey row.bucket row.key)).Nodup :=
    (Table.nodup_keys store.objectPlacements).sublist (List.filter_sublist.map _)
  exact ((hperm.map _).nodup_iff.mpr hrows).sublist ((List.take_sublist _ _).map _)

instance (store : MetadataStore) (provider bucket keyPrefix : Option String) (limit : Nat)
    (row : ObjectPlacementRecord) : Decidable (Listed store provider bucket keyPrefix limit row) :=
  decidable_of_iff _ mem_listObjectPlacements

/-! ## Section 2: The prefix filter -/

/-- `str::starts_with`. -/
def StartsWith (key pre : String) : Prop := pre.toList <+: key.toList

instance (key pre : String) : Decidable (StartsWith key pre) :=
  inferInstanceAs (Decidable (_ <+: _))

/-- The key starts with the trimmed prefix up to the case of ASCII letters. -/
def StartsLike (key pre : String) : Prop := StartsFolded (trim pre).toList key.toList

instance (key pre : String) : Decidable (StartsLike key pre) :=
  inferInstanceAs (Decidable (StartsFolded _ _))

theorem isWhitespace_toLower (c : Char) : isWhitespace c.toLower = isWhitespace c := by
  by_cases hupper : 65 ≤ c.toNat ∧ c.toNat ≤ 90
  · have hlower := toNat_toLower hupper
    -- neither a capital nor the letter that it becomes is a blank
    simp only [isWhitespace, hlower]
    rw [Bool.eq_iff_iff]
    simp only [Bool.or_eq_true, Bool.and_eq_true, decide_eq_true_eq, beq_iff_eq]
    omega
  · rw [toLower_eq_self hupper]

/-- What the prefix filter of the WHERE clause says: a blank prefix is no filter, and another
one is compared trimmed and up to case. -/
theorem prefixFilter_iff (pre key : String) :
    (trimmedFilter (some pre)).all
        (fun keyPrefix => like '\\' (sqliteLikePrefixPattern keyPrefix) key) = true ↔
      StartsLike key pre := by
  unfold trimmedFilter StartsLike
  rw [Option.map_some]
  by_cases hblank : trim pre = ""
  · rw [Option.filter_some, if_neg (by simpa using hblank), hblank]
    exact iff_of_true rfl List.nil_prefix
  · rw [Option.filter_some, if_pos (by simpa using hblank), Option.all_some]
    exact like_escapeLike (by decide) (trim pre) key

/-- The prefix starts with a blank and is not blank. -/
def StartsBlank (pre : String) : Prop :=
  trim pre ≠ "" ∧ (pre.toList.head?).any isWhitespace = true

instance (pre : String) : Decidable (StartsBlank pre) := inferInstanceAs (Decidable (_ ∧ _))

/-- Trimming a prefix without a blank at its front leaves a start of it. -/
theorem trim_prefix_of_not_startsBlank {pre : String} (h : ¬ StartsBlank pre) :
    (trim pre).toList <+: pre.toList := by
  by_cases hblank : trim pre = ""
  · rw [hblank]
    exact List.nil_prefix
  · have hfront : (pre.toList.head?).any isWhitespace = false :=
      Bool.eq_false_iff.mpr (fun hfront => h ⟨hblank, hfront⟩)
    rw [trim, String.toList_ofList, trimList]
    cases hpre : pre.toList with
    | nil => exact List.nil_prefix
    | cons c rest =>
      rw [hpre, List.head?_cons, Option.any_some] at hfront
      rw [List.dropWhile_cons_of_neg (by rw [hfront]; exact Bool.false_ne_true)]
      exact List.rdropWhile_prefix _ _

/-- A key that starts with a blank in front does not start with the trimmed prefix. -/
theorem not_startsLike_of_startsBlank {pre key : String} (h : StartsBlank pre)
    (hkey : StartsWith key pre) : ¬ StartsLike key pre := by
  obtain ⟨hne, hfront⟩ := h
  obtain ⟨blank, rest, hpre, hwhite⟩ :
      ∃ blank rest, pre.toList = blank :: rest ∧ isWhitespace blank = true := by
    cases hpre : pre.toList with
    | nil =>
      rw [hpre] at hfront
      cases hfront
    | cons blank rest =>
      rw [hpre] at hfront
      exact ⟨blank, rest, rfl, hfront⟩
  intro hlike
  obtain ⟨tail, htail⟩ := hkey
  rw [hpre, List.cons_append] at htail
  unfold StartsLike StartsFolded at hlike
  rw [← htail] at hlike
  cases htrim : (trim pre).toList with
  | nil => exact hne (String.toList_eq_nil_iff.mp htrim)
  | cons first others =>
    rw [htrim, List.map_cons, List.map_cons, List.cons_prefix_cons] at hlike
    -- the first character of a trimmed text is no blank, in either case
    have hnot : isWhitespace first = false := by
      have hlen : 0 < (trimList isWhitespace pre.toList).length := by
        rw [← String.toList_ofList (l := trimList isWhitespace pre.toList)]
        change 0 < (trim pre).toList.length
        rw [htrim]
        exact Nat.succ_pos _
      have hhead := trimList_head hlen
      have hget : (trimList isWhitespace pre.toList).get ⟨0, hlen⟩ = first := by
        have hlist : trimList isWhitespace pre.toList = first :: others := by
          rw [← htrim, trim, String.toList_ofList]
        simp [hlist]
      rw [hget] at hhead
      exact Bool.eq_false_iff.mpr hhead
    rw [← isWhitespace_toLower, hlike.1, isWhitespace_toLower, hwhite] at hnot
    cases hnot

/-! ## Section 3: When a stored prefix means `starts_with` -/

/-- The query with its prefix read by `str::starts_with`. -/
def MetadataStore.placementsStartingWith (store : MetadataStore) (provider bucket : Option String)
    (pre : String) (limit : Nat) : List ObjectPlacementRecord :=
  ((store.objectPlacements.rows.filter (fun row =>
      placementMatches provider bucket none row && decide (StartsWith row.key pre))).insertionSort
    (fun a b => placementOrder a ≤ placementOrder b)).take (max limit 1)

/-- The rows for which the two readings of the prefix agree: a key that starts with the
trimmed prefix up to case starts with the prefix, and no key starts with a prefix that has a
blank in front. -/
structure PrefixExact (store : MetadataStore) (pre : String) : Prop where
  folded : ∀ row ∈ store.objectPlacements, StartsLike row.key pre → StartsWith row.key pre
  blank : StartsBlank pre → ∀ row ∈ store.objectPlacements, ¬ StartsWith row.key pre

theorem prefixExact_iff {store : MetadataStore} {pre : String} :
    PrefixExact store pre ↔
      ∀ row ∈ store.objectPlacements, StartsLike row.key pre ↔ StartsWith row.key pre := by
  constructor
  · rintro ⟨hfolded, hblank⟩ row hrow
    refine ⟨hfolded row hrow, ?_⟩
    intro hstarts
    by_cases hfront : StartsBlank pre
    · exact absurd hstarts (hblank hfront row hrow)
    · exact startsFolded_of_prefix ((trim_prefix_of_not_startsBlank hfront).trans hstarts)
  · intro hsame
    refine ⟨fun row hrow => (hsame row hrow).mp, ?_⟩
    intro hfront row hrow hstarts
    exact not_startsLike_of_startsBlank hfront hstarts ((hsame row hrow).mpr hstarts)

theorem placementMatches_some (provider bucket : Option String) (pre : String)
    (row : ObjectPlacementRecord) :
    placementMatches provider bucket (some pre) row =
      (placementMatches provider bucket none row && decide (StartsLike row.key pre)) := by
  have hprefix : (trimmedFilter (some pre)).all
      (fun keyPrefix => like '\\' (sqliteLikePrefixPattern keyPrefix) row.key) =
        decide (StartsLike row.key pre) := by
    rw [Bool.eq_iff_iff, decide_eq_true_eq]
    exact prefixFilter_iff pre row.key
  have hnone : trimmedFilter none = none := rfl
  simp only [placementMatches, hprefix, hnone, Option.all_none, Bool.and_true]

/-- The listing with a prefix is the listing of the rows whose key starts with it, whatever
the other filters and the limit, exactly when no key tells the two readings apart. -/
theorem list_prefix_iff (store : MetadataStore) (pre : String) :
    (∀ provider bucket limit, store.listObjectPlacements provider bucket (some pre) limit =
      store.placementsStartingWith provider bucket pre limit) ↔ PrefixExact store pre := by
  rw [prefixExact_iff]
  constructor
  · intro hsame row hrow
    -- without other filters, and with room for every row
    have hlist := hsame none none store.objectPlacements.rows.length
    have hmem : ∀ keep : ObjectPlacementRecord → Bool,
        row ∈ ((store.objectPlacements.rows.filter keep).insertionSort
          (fun a b => placementOrder a ≤ placementOrder b)).take
            (max store.objectPlacements.rows.length 1) ↔ keep row = true := by
      intro keep
      have hlength : ((store.objectPlacements.rows.filter keep).insertionSort
          (fun a b => placementOrder a ≤ placementOrder b)).length ≤
            max store.objectPlacements.rows.length 1 := by
        rw [List.length_insertionSort]
        exact (List.length_filter_le _ _).trans (le_max_left _ _)
      rw [List.take_of_length_le hlength, (List.perm_insertionSort _ _).mem_iff, List.mem_filter]
      exact and_iff_right hrow
    have hkept := hmem (placementMatches none none (some pre))
    rw [← MetadataStore.listObjectPlacements, hlist, MetadataStore.placementsStartingWith, hmem,
      placementMatches_some] at hkept
    have hall : placementMatches none none none row = true := rfl
    simpa [hall] using hkept.symm
  · intro hsame provider bucket limit
    have hfilter : store.objectPlacements.rows.filter
        (placementMatches provider bucket (some pre)) =
          store.objectPlacements.rows.filter (fun row =>
            placementMatches provider bucket none row && decide (StartsWith row.key pre)) := by
      apply List.filter_congr
      intro row hrow
      rw [placementMatches_some, decide_eq_decide.mpr (hsame row hrow)]
    rw [MetadataStore.listObjectPlacements, MetadataStore.placementsStartingWith, hfilter]

/-- A store with one placement. -/
def onePlacement (key : String) : MetadataStore where
  replicationJobs := ∅
  replicationDeadLetters := ∅
  objectPlacements := (∅ : Table ObjectPlacementRecord _).upsert ⟨"onedrive", "photos", key, 1⟩
  logicalObjects := ∅
  objectProtectionPlans := ∅
  gatewayWriteAheadLogState := none
  retention := {}

/-- A capital letter in the prefix finds a key with the small one. -/
theorem list_prefix_folds_case :
    (onePlacement "a.png").listObjectPlacements none none (some "A") 10 ≠
      (onePlacement "a.png").placementsStartingWith none none "A" 10 := by
  decide +kernel

end Netdisk2Blob.Metadata
