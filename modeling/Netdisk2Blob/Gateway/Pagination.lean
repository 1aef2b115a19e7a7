import Netdisk2Blob.Gateway.ListObjects
import Netdisk2Blob.Library.SortedLists
import Mathlib.Data.List.Dedup

/-!
# Pagination of ListObjectsV2

The objects that a request fetches are the first ones of the bucket, whatever its marker.
A listing therefore shows what its first fetch shows, on one page or on two.

## Contents

- `listedKeys`: the keys of a listing without a limit
- `keys_listBucketObjects`: what a limit leaves of them
- `projection_eq`, `entriesOf`: a page as a part of sorted entries
- `Responses`, `Complete`, `FirstFetchReaches`, `listing_complete_iff`
-/

namespace Netdisk2Blob.Gateway

open Library Text Blob Policy Replication Metadata
open ListingState

/-! ## Section 1: Sorted objects -/

section Sorted

abbrev ByKey (objects : List ObjectInfo) : Prop :=
  SortedBy (fun object : ObjectInfo => object.key) objects

def keysOf (objects : List ObjectInfo) : List String := objects.map (fun object => object.key)

theorem byKey_keysOf {objects : List ObjectInfo} :
    ByKey objects ↔ SortedBy id (keysOf objects) := by
  unfold ByKey SortedBy keysOf
  rw [List.pairwise_map]
  rfl

theorem byKey_nodup {objects : List ObjectInfo} (h : ByKey objects) : (keysOf objects).Nodup :=
  (byKey_keysOf.mp h).nodup

theorem byKey_sortByKey {objects : List ObjectInfo} (h : (keysOf objects).Nodup) :
    ByKey (sortByKey objects) :=
  sortedBy_insertionSort h

theorem mem_keysOf_sortByKey {objects : List ObjectInfo} {key : String} :
    key ∈ keysOf (sortByKey objects) ↔ key ∈ keysOf objects :=
  ((List.perm_insertionSort _ objects).map _).mem_iff

def addUnseen (merged : List ObjectInfo) (object : ObjectInfo) : List ObjectInfo :=
  if merged.any (fun other => decide (other.key = object.key)) then merged else merged ++ [object]

theorem addUnseen_keys {merged : List ObjectInfo} {object : ObjectInfo}
    (h : (keysOf merged).Nodup) :
    (keysOf (addUnseen merged object)).Nodup ∧
      ∀ key, key ∈ keysOf (addUnseen merged object) ↔ key ∈ keysOf merged ∨ key = object.key := by
  unfold addUnseen
  have hseen : merged.any (fun other => decide (other.key = object.key)) = true ↔
      object.key ∈ keysOf merged := by
    simp [keysOf]
  split
  · rename_i hany
    refine ⟨h, fun key => ⟨Or.inl, ?_⟩⟩
    rintro (hkey | rfl)
    · exact hkey
    · exact hseen.mp hany
  · rename_i hany
    have hnew : object.key ∉ keysOf merged := fun hmem => hany (hseen.mpr hmem)
    constructor
    · rw [keysOf, List.map_append, List.nodup_append]
      refine ⟨h, List.nodup_singleton _, ?_⟩
      intro key hkey key' hkey' heq
      rw [List.map_singleton, List.mem_singleton] at hkey'
      exact hnew (hkey' ▸ heq ▸ hkey)
    · intro key
      simp [keysOf]

theorem merged_keys {existing additional : List ObjectInfo} (h : (keysOf existing).Nodup) :
    (keysOf (additional.foldl addUnseen existing)).Nodup ∧
      ∀ key, key ∈ keysOf (additional.foldl addUnseen existing) ↔
        key ∈ keysOf existing ∨ key ∈ keysOf additional := by
  induction additional generalizing existing with
  | nil => exact ⟨h, fun key => by simp [keysOf]⟩
  | cons object additional ih =>
    obtain ⟨hnodup, hmem⟩ := @addUnseen_keys existing object h
    obtain ⟨hnodup', hmem'⟩ := ih hnodup
    refine ⟨hnodup', fun key => ?_⟩
    rw [List.foldl_cons, hmem', hmem]
    simp only [keysOf, List.map_cons, List.mem_cons]
    tauto

variable {existing additional : List ObjectInfo}

theorem byKey_merge (h : (keysOf existing).Nodup) :
    ByKey (mergeObjectListsByKey existing additional) :=
  byKey_sortByKey (merged_keys h).1

theorem mem_keysOf_merge (h : (keysOf existing).Nodup) {key : String} :
    key ∈ keysOf (mergeObjectListsByKey existing additional) ↔
      key ∈ keysOf existing ∨ key ∈ keysOf additional :=
  mem_keysOf_sortByKey.trans ((merged_keys h).2 key)

theorem keysOf_take (objects : List ObjectInfo) (limit : Nat) :
    keysOf (objects.take limit) = (keysOf objects).take limit := List.map_take

/-- **The first objects of a merge come from the first objects of what is merged.** -/
theorem keysOf_merge_take (h : ByKey existing) (limit : Nat) :
    (keysOf (mergeObjectListsByKey (existing.take limit) additional)).take limit =
      (keysOf (mergeObjectListsByKey existing additional)).take limit := by
  have htake : ByKey (existing.take limit) := h.sublist (List.take_sublist limit existing)
  have hall := byKey_keysOf.mp (@byKey_merge existing additional (byKey_nodup h))
  have hcut := byKey_keysOf.mp (@byKey_merge (existing.take limit) additional (byKey_nodup htake))
  let kept : String → Bool := fun key =>
    decide (key ∈ keysOf (existing.take limit)) || decide (key ∈ keysOf additional)
  have hfilter : keysOf (mergeObjectListsByKey (existing.take limit) additional) =
      (keysOf (mergeObjectListsByKey existing additional)).filter kept := by
    apply SortedBy.eq_of_mem_iff hcut (hall.sublist List.filter_sublist)
    intro key
    rw [List.mem_filter, mem_keysOf_merge (byKey_nodup htake), mem_keysOf_merge (byKey_nodup h)]
    simp only [kept, Bool.or_eq_true, decide_eq_true_eq]
    constructor
    · rintro (hkey | hkey)
      · exact ⟨Or.inl (List.map_subset _ (List.take_subset limit existing) hkey), Or.inl hkey⟩
      · exact ⟨Or.inr hkey, Or.inr hkey⟩
    · exact fun hkey => hkey.2
  rw [hfilter]
  apply take_filter
  intro key hkey
  obtain ⟨hmem, hrank⟩ := hall.mem_take_iff.mp hkey
  simp only [kept, Bool.or_eq_true, decide_eq_true_eq]
  rcases (mem_keysOf_merge (byKey_nodup h)).mp hmem with hexisting | hadditional
  · -- fewer existing objects than merged ones stand before the key
    left
    rw [keysOf_take]
    refine (byKey_keysOf.mp h).mem_take_iff.mpr ⟨hexisting, lt_of_le_of_lt ?_ hrank⟩
    apply (List.subperm_of_subset ((byKey_nodup h).filter _) _).length_le
    intro other hother
    obtain ⟨hother, hlt⟩ := List.mem_filter.mp hother
    exact List.mem_filter.mpr ⟨(mem_keysOf_merge (byKey_nodup h)).mpr (Or.inl hother), hlt⟩
  · exact Or.inr hadditional

end Sorted

/-! ## Section 2: The keys of a listing -/

section Keys

variable (s : ListingState) (bucket : String) (pre : Option String)

def isDelimited (delimiter : Option String) : Bool := delimiter.any (fun value => decide (value ≠ ""))

/-- The keys with the prefix that a provider holds. -/
def storedKeys (provider : ProviderId) : List String :=
  match s.contents provider bucket with
  | .error _ => []
  | .ok objects => keysOf (objects.rows.filter (fun object => startsWith object.key (pre.getD "")))

def prefixedPlacements : List ObjectPlacementRecord :=
  (s.placementsForBucket bucket).filter (fun placement => startsWith placement.key (pre.getD ""))

/-- A placement whose home knows the object. -/
def homeHolds (placement : ObjectPlacementRecord) : Bool :=
  match s.headPlacedObject bucket placement with
  | .ok (some _) => true
  | _ => false

/-- The keys with the prefix that a listing would show without a limit, before permissions. -/
def listedKeys (delimiter : Option String) : List String :=
  match s.resolveBucketReadBackend bucket with
  | .error _ => []
  | .ok source =>
    let keys :=
      if isDelimited delimiter then
        (if source.provider = .stub then storedKeys s bucket pre source.provider else []) ++
          ((prefixedPlacements s bucket pre).filter (fun placement =>
            decide (remainderOf placement.key (pre.getD "") ≠ ""))).map (·.key)
      else
        (storedKeys s bucket pre source.provider).filter (fun key =>
          source.fallbackFrom.isNone || s.fallbackReadable source.provider bucket key) ++
          ((prefixedPlacements s bucket pre).filter (homeHolds s bucket)).map (·.key)
    keys.dedup.insertionSort (· ≤ ·)

theorem sortedBy_listedKeys (delimiter : Option String) :
    SortedBy id (listedKeys s bucket pre delimiter) := by
  unfold listedKeys
  split
  · exact List.Pairwise.nil
  · apply @sortedBy_insertionSort _ _ _ id
    rw [List.map_id]
    exact List.nodup_dedup _

variable {s bucket pre}

theorem publicObjectInfo_key (object : ObjectInfo) (logical : Option LogicalObjectRecord) :
    (publicObjectInfo object logical).key = object.key := by
  unfold publicObjectInfo
  split
  · rfl
  · dsimp only
    split <;> rfl

theorem keysOf_publicObjects (objects : List ObjectInfo) :
    keysOf (s.publicObjects bucket objects) = keysOf objects := by
  unfold keysOf publicObjects
  rw [List.map_map]
  exact List.map_congr_left (fun object _ => publicObjectInfo_key object _)

theorem headPlacedObject_key {placement : ObjectPlacementRecord} {object : ObjectInfo}
    (h : s.headPlacedObject bucket placement = .ok (some object)) :
    object.key = placement.key := by
  unfold headPlacedObject at h
  split at h
  · cases h
  · split at h
    · cases h
    · split at h
      · rename_i provider _ _ found hfound
        cases h
        unfold ListingState.headObject at hfound
        split at hfound
        · cases hfound
        · split at hfound
          · rename_i found' hfind
            cases hfound
            exact (Table.find?_eq_some.mp hfind).2
          · cases hfound
      · cases h
      · cases h

/-- The objects that the homes know, by their placements. -/
theorem keysOf_found {placements : List ObjectPlacementRecord} {found : List (Option ObjectInfo)}
    (h : List.Forall₂ (fun placement object => s.headPlacedObject bucket placement = .ok object)
      placements found) :
    keysOf (found.filterMap id) =
      (placements.filter (homeHolds s bucket)).map (fun placement => placement.key) := by
  induction h with
  | nil => rfl
  | @cons placement object placements found hhead _ ih =>
    cases object with
    | none =>
      have hmissing : homeHolds s bucket placement = false := by
        unfold homeHolds
        rw [hhead]
      rw [List.filterMap_cons_none rfl, List.filter_cons_of_neg (by simp [hmissing]), ih]
    | some object =>
      have hheld : homeHolds s bucket placement = true := by
        unfold homeHolds
        rw [hhead]
      rw [List.filter_cons_of_pos hheld, List.map_cons, ← ih, ← headPlacedObject_key hhead]
      rfl

theorem listObjects_ok {provider : ProviderId} {limit : Option Nat} {listed : List ObjectInfo}
    (h : s.listObjects provider bucket pre limit = .ok listed) :
    ∃ objects, ByKey objects ∧ storedKeys s bucket pre provider = keysOf objects ∧
      listed = limit.elim objects (fun limit => objects.take limit) := by
  unfold ListingState.listObjects at h
  split at h
  · cases h
  · rename_i objects hcontents
    cases h
    refine ⟨objects.rows.filter (fun object => startsWith object.key (pre.getD "")),
      SortedBy.sublist objects.sorted List.filter_sublist, ?_, ?_⟩
    · unfold storedKeys
      rw [hcontents]
    · cases limit <;> rfl

/-- A sorted listing is the list of its keys. -/
theorem keysOf_eq_sorted {objects : List ObjectInfo} {keys : List String} (h : ByKey objects)
    (hmem : ∀ key, key ∈ keysOf objects ↔ key ∈ keys) :
    keysOf objects = keys.dedup.insertionSort (· ≤ ·) := by
  apply SortedBy.eq_of_mem_iff (byKey_keysOf.mp h)
  · apply @sortedBy_insertionSort _ _ _ id
    rw [List.map_id]
    exact List.nodup_dedup keys
  · intro key
    rw [hmem, (List.perm_insertionSort _ _).mem_iff, List.mem_dedup]

variable {limit : Nat} {read : ReadObjects} {delimiter : Option String}

/-- **A flat listing shows the first of the listed keys.** -/
theorem keysOf_flat (hflat : isDelimited delimiter = false)
    (h : s.listBucketObjectsWithFallback bucket pre limit = .ok read) :
    keysOf read.objects = (listedKeys s bucket pre delimiter).take limit := by
  obtain ⟨source, hsource, h1⟩ := except_bind_ok.mp h
  obtain ⟨listed, hlisted, h2⟩ := except_bind_ok.mp h1
  obtain ⟨indexed, hindexed, h3⟩ := except_bind_ok.mp h2
  cases h3
  obtain ⟨found, hfound, h4⟩ := except_bind_ok.mp hindexed
  cases h4
  obtain ⟨objects, hsorted, hstored, hcut⟩ := listObjects_ok hlisted
  have hhome := keysOf_found (mapM_ok hfound)
  rw [keysOf_take, keysOf_publicObjects]
  unfold listedKeys
  rw [hsource]
  simp only [hflat, Bool.false_eq_true, if_false]
  cases hfallback : source.fallbackFrom with
  | none =>
    rw [hfallback] at hcut
    simp only [Option.isSome_none, Bool.false_eq_true, if_false, Option.elim_some] at hcut ⊢
    subst hcut
    rw [keysOf_merge_take hsorted, keysOf_eq_sorted (byKey_merge (byKey_nodup hsorted))]
    intro key
    rw [mem_keysOf_merge (byKey_nodup hsorted), mem_keysOf_sortByKey, hhome, hstored]
    simp [prefixedPlacements]
  | some primary =>
    rw [hfallback] at hcut
    simp only [Option.isSome_some, if_true, Option.elim_none] at hcut ⊢
    subst hcut
    have hkept : ByKey (listed.filter (fun object =>
        s.fallbackReadable source.provider bucket object.key)) :=
      hsorted.sublist List.filter_sublist
    rw [keysOf_eq_sorted (byKey_merge (byKey_nodup hkept))]
    intro key
    rw [mem_keysOf_merge (byKey_nodup hkept), mem_keysOf_sortByKey, hhome, hstored]
    simp only [keysOf, List.mem_map, List.mem_filter, List.mem_append, prefixedPlacements,
      Option.isNone_some, Bool.false_or]
    constructor
    · rintro (⟨object, ⟨hobject, hreadable⟩, rfl⟩ | hhome)
      · exact Or.inl ⟨⟨object, hobject, rfl⟩, hreadable⟩
      · exact Or.inr hhome
    · rintro (⟨⟨object, hobject, rfl⟩, hreadable⟩ | hhome)
      · exact Or.inl ⟨object, ⟨hobject, hreadable⟩, rfl⟩
      · exact Or.inr hhome

theorem placementsForBucket_sorted :
    SortedBy (fun placement : ObjectPlacementRecord => placement.key)
      (s.placementsForBucket bucket) := by
  have hsub : (s.placementsForBucket bucket).Sublist s.metadataStore.objectPlacements.rows :=
    List.filter_sublist
  apply List.Pairwise.imp_of_mem _ (List.Pairwise.sublist hsub
    s.metadataStore.objectPlacements.sorted)
  intro row row' hrow hrow' hlt
  have hbucket : row.bucket = bucket := by simpa using (List.mem_filter.mp hrow).2
  have hbucket' : row'.bucket = bucket := by simpa using (List.mem_filter.mp hrow').2
  rw [hbucket, hbucket'] at hlt
  rcases Prod.Lex.toLex_lt_toLex.mp hlt with hless | ⟨-, hless⟩
  · exact absurd hless (lt_irrefl _)
  · exact hless

theorem placedEntry_key {placement : ObjectPlacementRecord} {text : String} :
    (s.placedEntry bucket (pre.getD "") text placement).map (fun object => object.key) =
      if startsWith placement.key (pre.getD "") ∧
          remainderOf placement.key (pre.getD "") ≠ "" then some placement.key
      else none := by
  unfold placedEntry
  by_cases hstarts : startsWith placement.key (pre.getD "") = true
  · rw [if_neg (by simpa using hstarts)]
    by_cases hempty : remainderOf placement.key (pre.getD "") = ""
    · simp [hempty]
    · rw [if_neg hempty]
      split <;> simp [hstarts, hempty]
  · rw [if_pos (by simpa using hstarts)]
    simp [hstarts]

/-- The keys of the placements that a delimited listing looks at. -/
theorem keysOf_placed {text : String} (placements : List ObjectPlacementRecord) :
    keysOf (placements.filterMap (s.placedEntry bucket (pre.getD "") text)) =
      ((placements.filter (fun placement => startsWith placement.key (pre.getD ""))).filter
        (fun placement => decide (remainderOf placement.key (pre.getD "") ≠ ""))).map
          (fun placement => placement.key) := by
  induction placements with
  | nil => rfl
  | cons placement placements ih =>
    have hkey := @placedEntry_key s bucket pre placement text
    by_cases hstarts : startsWith placement.key (pre.getD "") = true
    · simp only [List.filter_cons, hstarts, if_true]
      by_cases hempty : remainderOf placement.key (pre.getD "") = ""
      · rw [if_neg (by simp [hempty]), Option.map_eq_none_iff] at hkey
        rw [List.filterMap_cons_none hkey, if_neg (by simp [hempty]), ih]
      · rw [if_pos ⟨hstarts, hempty⟩] at hkey
        obtain ⟨object, hobject, hsame⟩ := Option.map_eq_some_iff.mp hkey
        rw [List.filterMap_cons_some hobject, if_pos (by simpa using hempty), List.map_cons,
          ← ih, ← hsame]
        rfl
    · rw [if_neg (by simp [hstarts]), Option.map_eq_none_iff] at hkey
      simp only [List.filterMap_cons_none hkey, List.filter_cons, hstarts]
      exact ih

/-- **A delimited listing shows the first of the listed keys.** -/
theorem keysOf_delimited {text : String} (hdelimited : isDelimited delimiter = true)
    (h : s.listBucketObjectsForDelimitedListing bucket pre text limit = .ok read) :
    keysOf read.objects = (listedKeys s bucket pre delimiter).take limit := by
  obtain ⟨source, hsource, h1⟩ := except_bind_ok.mp h
  obtain ⟨merged, hmerged, h2⟩ := except_bind_ok.mp h1
  cases h2
  have hplaced := @keysOf_placed s bucket pre text (s.placementsForBucket bucket)
  have hnodup : (keysOf ((s.placementsForBucket bucket).filterMap
      (s.placedEntry bucket (pre.getD "") text))).Nodup := by
    rw [hplaced]
    apply List.pairwise_map.mpr
    apply List.Pairwise.imp (fun hlt => ne_of_lt hlt)
    exact (@placementsForBucket_sorted s bucket).sublist
      (List.filter_sublist.trans List.filter_sublist)
  have hobjects : ByKey (s.listDelimitedObjectsFromHomeProviders bucket pre text) :=
    byKey_sortByKey hnodup
  rw [keysOf_take, keysOf_publicObjects]
  unfold listedKeys
  rw [hsource]
  simp only [hdelimited, if_true]
  by_cases hstub : source.provider = .stub
  · unfold withStubObjects at hmerged
    rw [if_pos hstub] at hmerged ⊢
    split at hmerged
    · cases hmerged
    · rename_i backendObjects hbackend
      cases hmerged
      obtain ⟨stored, hsorted, hstored, hcut⟩ := listObjects_ok hbackend
      rw [Option.elim_some] at hcut
      subst hcut
      rw [keysOf_merge_take hsorted, keysOf_eq_sorted (byKey_merge (byKey_nodup hsorted))]
      intro key
      rw [mem_keysOf_merge (byKey_nodup hsorted), hstored, List.mem_append, prefixedPlacements,
        ← hplaced]
      exact or_congr_right mem_keysOf_sortByKey
  · unfold withStubObjects at hmerged
    rw [if_neg hstub] at hmerged ⊢
    cases hmerged
    rw [keysOf_eq_sorted hobjects]
    intro key
    rw [List.nil_append, prefixedPlacements, ← hplaced]
    exact mem_keysOf_sortByKey

end Keys

/-! ## Section 3: Entries -/

section Entries

/-- How a key is shown: by itself or by its common prefix. -/
inductive Shown where
  | content (key : String)
  | commonPrefix (text : String)
  deriving DecidableEq, Repr

def shownAs (pre : String) (delimiter : Option String) (key : String) : Shown :=
  match delimiter.filter (fun value => decide (value ≠ "")) with
  | none => .content key
  | some delimiter =>
    if remainderOf key pre = "" then .content key
    else
      match commonPrefixOf pre delimiter key with
      | some text => .commonPrefix text
      | none => .content key

def ListObjectsV2Entry.shown : ListObjectsV2Entry → Shown
  | .object info => .content info.key
  | .commonPrefix pre => .commonPrefix pre

/-- The objects and the common prefixes of a delimited listing. -/
def childrenOf (pre delimiter : String) (objects : List ObjectInfo) : List ObjectInfo :=
  (objects.filter (fun object => startsWith object.key pre)).filter (fun object =>
    decide (remainderOf object.key pre = "") || (commonPrefixOf pre delimiter object.key).isNone)

def commonPrefixesOf (pre delimiter : String) (objects : List ObjectInfo) : List String :=
  ((objects.filter (fun object => startsWith object.key pre)).filter (fun object =>
    decide (remainderOf object.key pre ≠ ""))).filterMap (fun object =>
      commonPrefixOf pre delimiter object.key)

/-- The entries that pages are cut from. -/
def entriesOf (objects : List ObjectInfo) (pre : String) (delimiter : Option String) :
    List ListObjectsV2Entry :=
  match delimiter.filter (fun value => decide (value ≠ "")) with
  | none => (sortByKey objects).map .object
  | some delimiter =>
    ((childrenOf pre delimiter objects).map ListObjectsV2Entry.object ++
      (commonPrefixesOf pre delimiter objects).dedup.map
        ListObjectsV2Entry.commonPrefix).insertionSort
          (fun left right => left.sortKey ≤ right.sortKey)

def behindMarker (marker : Option String) (entry : ListObjectsV2Entry) : Bool :=
  match marker with
  | some marker => decide (marker < entry.sortKey)
  | none => true

def pageOf (entries : List ListObjectsV2Entry) (marker : Option String) (maxKeys : Nat) :
    ListObjectsV2Page :=
  let entries := entries.filter (behindMarker marker)
  let isTruncated := decide (maxKeys < entries.length)
  { objects := (entries.take maxKeys).filterMap ListObjectsV2Entry.object?
    commonPrefixes := (entries.take maxKeys).filterMap ListObjectsV2Entry.commonPrefix?
    nextContinuationToken :=
      if isTruncated then (entries[maxKeys - 1]?).map (·.sortKey) else none
    isTruncated := isTruncated }

theorem filterMap_object?_map (objects : List ObjectInfo) :
    (objects.map ListObjectsV2Entry.object).filterMap ListObjectsV2Entry.object? = objects ∧
      (objects.map ListObjectsV2Entry.object).filterMap ListObjectsV2Entry.commonPrefix? = [] := by
  induction objects with
  | nil => exact ⟨rfl, rfl⟩
  | cons object objects ih =>
    constructor
    · exact congrArg (fun objects => object :: objects) ih.1
    · exact ih.2

variable {objects : List ObjectInfo} {pre : String} {delimiter marker : Option String}
  {maxKeys : Nat}

/-- **A page is cut from the sorted entries.** -/
theorem projection_eq :
    listObjectsV2Projection objects pre delimiter marker maxKeys =
      pageOf (entriesOf objects pre delimiter) marker maxKeys := by
  unfold listObjectsV2Projection entriesOf
  cases hdelimiter : delimiter.filter (fun value => decide (value ≠ "")) with
  | some delimiter => rfl
  | none =>
    dsimp only
    have hfilter : ((sortByKey objects).map ListObjectsV2Entry.object).filter
        (behindMarker marker) =
          ((sortByKey objects).filter (fun object => behindMarker marker (.object object))).map
            ListObjectsV2Entry.object := by
      rw [List.filter_map]
      rfl
    unfold pageOf
    rw [hfilter]
    simp only [List.length_map, ← List.map_take, List.getElem?_map, Option.map_map]
    rw [(filterMap_object?_map _).1, (filterMap_object?_map _).2]
    rfl

/-- A text up to its first delimiter contains the delimiter. -/
theorem throughDelimiter_self {delimiter text through : List Char} (hne : delimiter ≠ [])
    (h : throughDelimiter delimiter text = some through) :
    through ≠ [] ∧ throughDelimiter delimiter through ≠ none := by
  induction text generalizing through with
  | nil =>
    rw [throughDelimiter, if_neg hne] at h
    cases h
  | cons c rest ih =>
    rw [throughDelimiter] at h
    split at h
    · cases h
      refine ⟨hne, ?_⟩
      cases delimiter with
      | nil => exact absurd rfl hne
      | cons d delimiter =>
        rw [throughDelimiter, if_pos (List.isPrefixOf_iff_prefix.mpr List.prefix_rfl)]
        exact Option.some_ne_none _
    · obtain ⟨through', hthrough, rfl⟩ := Option.map_eq_some_iff.mp h
      refine ⟨List.cons_ne_nil _ _, ?_⟩
      rw [throughDelimiter]
      split
      · exact Option.some_ne_none _
      · rw [ne_eq, Option.map_eq_none_iff]
        exact (ih hthrough).2

/-- A common prefix is not a direct child itself. -/
theorem commonPrefixOf_self {text key : String} {delimiter : String} (hne : delimiter ≠ "")
    (h : commonPrefixOf pre delimiter key = some text) :
    remainderOf text pre ≠ "" ∧ commonPrefixOf pre delimiter text ≠ none := by
  unfold commonPrefixOf at h
  obtain ⟨through, hthrough, rfl⟩ := Option.map_eq_some_iff.mp h
  have hchars : delimiter.toList ≠ [] := fun hnil => hne (String.toList_eq_nil_iff.mp hnil)
  obtain ⟨hnonempty, hself⟩ := throughDelimiter_self hchars hthrough
  have hremainder : remainderOf (pre ++ String.ofList through) pre = String.ofList through := by
    unfold remainderOf
    rw [String.toList_append, List.drop_left, String.toList_ofList]
  rw [hremainder]
  constructor
  · intro hempty
    have hlist := congrArg String.toList hempty
    rw [String.toList_ofList] at hlist
    exact hnonempty hlist
  · unfold commonPrefixOf
    rw [hremainder, String.toList_ofList, ne_eq, Option.map_eq_none_iff]
    exact hself

theorem filter_delimiter {delimiter : Option String} {text : String}
    (h : delimiter.filter (fun value => decide (value ≠ "")) = some text) : text ≠ "" := by
  cases delimiter with
  | none => cases h
  | some value =>
    rw [Option.filter_some] at h
    split at h
    · rename_i hvalue
      cases h
      exact of_decide_eq_true hvalue
    · cases h

/-- **The entries stand in strictly increasing order.** -/
theorem entriesOf_sorted (h : (keysOf objects).Nodup) :
    SortedBy ListObjectsV2Entry.sortKey (entriesOf objects pre delimiter) := by
  unfold entriesOf
  split
  · exact List.pairwise_map.mpr (byKey_sortByKey h)
  · rename_i text hdelimiter
    apply sortedBy_insertionSort
    rw [List.map_append, List.map_map, List.map_map, List.nodup_append]
    refine ⟨?_, ?_, ?_⟩
    · exact List.Nodup.sublist ((List.filter_sublist.trans List.filter_sublist).map _) h
    · have hid : ListObjectsV2Entry.sortKey ∘ ListObjectsV2Entry.commonPrefix = id := rfl
      rw [hid, List.map_id]
      exact List.nodup_dedup _
    · intro key hkey key' hkey' heq
      subst heq
      obtain ⟨object, hobject, rfl⟩ := List.mem_map.mp hkey
      obtain ⟨prefixed, hprefixed, hsame⟩ := List.mem_map.mp hkey'
      rw [List.mem_dedup] at hprefixed
      obtain ⟨other, -, hother⟩ := List.mem_filterMap.mp hprefixed
      obtain ⟨hremainder, hgrouped⟩ := commonPrefixOf_self (filter_delimiter hdelimiter) hother
      have hchild := (List.mem_filter.mp hobject).2
      have hkeyEq : object.key = prefixed := hsame.symm
      rw [Bool.or_eq_true, decide_eq_true_eq, Option.isNone_iff_eq_none, hkeyEq] at hchild
      exact hchild.elim hremainder hgrouped

/-- The entries show what the objects are shown as. -/
theorem mem_entriesOf_shown (hstarts : ∀ object ∈ objects, startsWith object.key pre = true)
    {shown : Shown} :
    (∃ entry ∈ entriesOf objects pre delimiter, entry.shown = shown) ↔
      ∃ object ∈ objects, shownAs pre delimiter object.key = shown := by
  unfold entriesOf shownAs
  cases hdelimiter : delimiter.filter (fun value => decide (value ≠ "")) with
  | none =>
    simp only [List.mem_map, exists_exists_and_eq_and]
    have hperm := List.perm_insertionSort (fun left right : ObjectInfo => left.key ≤ right.key) objects
    constructor
    · rintro ⟨object, hobject, rfl⟩
      exact ⟨object, hperm.mem_iff.mp hobject, rfl⟩
    · rintro ⟨object, hobject, rfl⟩
      exact ⟨object, hperm.mem_iff.mpr hobject, rfl⟩
  | some text =>
    have hlisted : objects.filter (fun object => startsWith object.key pre) = objects :=
      List.filter_eq_self.mpr hstarts
    simp only [(List.perm_insertionSort _ _).mem_iff, List.mem_append, List.mem_map]
    unfold childrenOf commonPrefixesOf
    rw [hlisted]
    constructor
    · rintro ⟨entry, ⟨object, hobject, rfl⟩ | ⟨prefixed, hprefixed, rfl⟩, rfl⟩
      · obtain ⟨hmem, hchild⟩ := List.mem_filter.mp hobject
        refine ⟨object, hmem, ?_⟩
        rw [Bool.or_eq_true, decide_eq_true_eq, Option.isNone_iff_eq_none] at hchild
        split
        · rfl
        · rename_i hremainder
          rw [hchild.resolve_left hremainder]
          rfl
      · rw [List.mem_dedup] at hprefixed
        obtain ⟨object, hobject, hsome⟩ := List.mem_filterMap.mp hprefixed
        obtain ⟨hmem, hremainder⟩ := List.mem_filter.mp hobject
        refine ⟨object, hmem, ?_⟩
        rw [if_neg (of_decide_eq_true hremainder), hsome]
        rfl
    · rintro ⟨object, hmem, rfl⟩
      by_cases hremainder : remainderOf object.key pre = ""
      · refine ⟨.object object, Or.inl ⟨object, List.mem_filter.mpr ⟨hmem, ?_⟩, rfl⟩, ?_⟩
        · simp [hremainder]
        · rw [if_pos hremainder]
          rfl
      · rw [if_neg hremainder]
        cases hcommon : commonPrefixOf pre text object.key with
        | none =>
          refine ⟨.object object, Or.inl ⟨object, List.mem_filter.mpr ⟨hmem, ?_⟩, rfl⟩, rfl⟩
          simp [hcommon]
        | some prefixed =>
          refine ⟨.commonPrefix prefixed, Or.inr ⟨prefixed, ?_, rfl⟩, rfl⟩
          rw [List.mem_dedup]
          exact List.mem_filterMap.mpr
            ⟨object, List.mem_filter.mpr ⟨hmem, decide_eq_true hremainder⟩, hcommon⟩

theorem length_entriesOf : (entriesOf objects pre delimiter).length ≤ objects.length := by
  unfold entriesOf
  split
  · rw [List.length_map, sortByKey, List.length_insertionSort]
  · rename_i text _
    have hparts : (childrenOf pre text objects).length + (commonPrefixesOf pre text objects).length ≤
        objects.length := by
      unfold childrenOf commonPrefixesOf
      generalize hlisted : objects.filter (fun object => startsWith object.key pre) = listed
      have hle : listed.length ≤ objects.length := hlisted ▸ List.length_filter_le _ _
      refine le_trans ?_ hle
      clear hlisted hle
      -- an object is a child or belongs to one common prefix
      induction listed with
      | nil => exact le_rfl
      | cons object listed ih =>
        by_cases hremainder : remainderOf object.key pre = ""
        · rw [List.filter_cons_of_pos (by simp [hremainder]),
            List.filter_cons_of_neg (by simp [hremainder]), List.length_cons, List.length_cons]
          omega
        · cases hcommon : commonPrefixOf pre text object.key with
          | none =>
            rw [List.filter_cons_of_pos (by simp [hcommon]),
              List.filter_cons_of_pos (by simp [hremainder])]
            simp only [List.filterMap_cons, hcommon, List.length_cons]
            omega
          | some prefixed =>
            rw [List.filter_cons_of_neg (by simp [hcommon, hremainder]),
              List.filter_cons_of_pos (by simp [hremainder])]
            simp only [List.filterMap_cons, hcommon, List.length_cons]
            omega
    rw [List.length_insertionSort, List.length_append, List.length_map, List.length_map]
    have hdedup := (List.dedup_sublist (commonPrefixesOf pre text objects)).length_le
    omega

end Entries

/-! ## Section 4: Pages -/

section Pages

namespace ListObjectsV2Page

/-- What a page shows. -/
def shown (page : ListObjectsV2Page) : List Shown :=
  page.objects.map (fun object => Shown.content object.key) ++
    page.commonPrefixes.map Shown.commonPrefix

/-- The keys and the common prefixes of a page, in order. -/
def texts (page : ListObjectsV2Page) : List String :=
  (keysOf page.objects ++ page.commonPrefixes).insertionSort (· ≤ ·)

end ListObjectsV2Page

variable {entries : List ListObjectsV2Entry} {marker : Option String} {maxKeys : Nat}

theorem texts_perm (entries : List ListObjectsV2Entry) :
    (keysOf (entries.filterMap ListObjectsV2Entry.object?) ++
      entries.filterMap ListObjectsV2Entry.commonPrefix?).Perm
        (entries.map ListObjectsV2Entry.sortKey) := by
  induction entries with
  | nil => exact List.Perm.refl _
  | cons entry entries ih =>
    cases entry with
    | object info => exact ih.cons info.key
    | commonPrefix text => exact List.perm_middle.trans (ih.cons text)

/-- The entries that stand on a page. -/
def pageEntries (entries : List ListObjectsV2Entry) (marker : Option String) (maxKeys : Nat) :
    List ListObjectsV2Entry :=
  (entries.filter (behindMarker marker)).take maxKeys

theorem texts_pageOf (h : SortedBy ListObjectsV2Entry.sortKey entries) :
    (pageOf entries marker maxKeys).texts =
      (pageEntries entries marker maxKeys).map ListObjectsV2Entry.sortKey := by
  have hsorted : SortedBy ListObjectsV2Entry.sortKey (pageEntries entries marker maxKeys) :=
    h.sublist ((List.take_sublist _ _).trans List.filter_sublist)
  have htexts : SortedBy id
      ((pageEntries entries marker maxKeys).map ListObjectsV2Entry.sortKey) :=
    List.pairwise_map.mpr hsorted
  have hperm := texts_perm (pageEntries entries marker maxKeys)
  apply SortedBy.eq_of_mem_iff _ htexts
  · intro text
    exact (List.perm_insertionSort _ _).mem_iff.trans hperm.mem_iff
  · apply @sortedBy_insertionSort _ _ _ id
    rw [List.map_id]
    exact hperm.nodup_iff.mpr htexts.nodup

theorem mem_shown_pageOf {shown : Shown} :
    shown ∈ (pageOf entries marker maxKeys).shown ↔
      ∃ entry ∈ pageEntries entries marker maxKeys, entry.shown = shown := by
  unfold ListObjectsV2Page.shown
  show shown ∈ ((pageEntries entries marker maxKeys).filterMap
      ListObjectsV2Entry.object?).map (fun object => Shown.content object.key) ++
    ((pageEntries entries marker maxKeys).filterMap
      ListObjectsV2Entry.commonPrefix?).map Shown.commonPrefix ↔ _
  simp only [List.mem_append, List.mem_map, List.mem_filterMap]
  constructor
  · rintro (⟨object, ⟨entry, hentry, hobject⟩, rfl⟩ | ⟨text, ⟨entry, hentry, htext⟩, rfl⟩)
    · refine ⟨entry, hentry, ?_⟩
      cases entry with
      | object info =>
        cases hobject
        rfl
      | commonPrefix text => cases hobject
    · refine ⟨entry, hentry, ?_⟩
      cases entry with
      | object info => cases htext
      | commonPrefix text =>
        cases htext
        rfl
  · rintro ⟨entry, hentry, rfl⟩
    cases entry with
    | object info => exact Or.inl ⟨info, ⟨.object info, hentry, rfl⟩, rfl⟩
    | commonPrefix text => exact Or.inr ⟨text, ⟨.commonPrefix text, hentry, rfl⟩, rfl⟩

/-- A page that shows nothing has no entries. -/
theorem pageEntries_eq_nil_of_needsRetry
    (h : needsRetry marker (pageOf entries marker maxKeys) = true) :
    pageEntries entries marker maxKeys = [] := by
  have hempty : (pageOf entries marker maxKeys).shown = [] := by
    unfold needsRetry at h
    simp only [Bool.and_eq_true, List.isEmpty_iff] at h
    obtain ⟨⟨⟨-, hobjects⟩, hprefixes⟩, -⟩ := h
    unfold ListObjectsV2Page.shown
    rw [hobjects, hprefixes]
    rfl
  rw [List.eq_nil_iff_forall_not_mem]
  intro entry hentry
  have hshown : entry.shown ∈ (pageOf entries marker maxKeys).shown :=
    mem_shown_pageOf.mpr ⟨entry, hentry, rfl⟩
  rw [hempty] at hshown
  exact absurd hshown List.not_mem_nil

theorem filter_behindMarker_none : entries.filter (behindMarker none) = entries :=
  List.filter_eq_self.mpr (fun _ _ => rfl)

theorem pageEntries_none : pageEntries entries none maxKeys = entries.take maxKeys := by
  unfold pageEntries
  rw [filter_behindMarker_none]

theorem isTruncated_none :
    (pageOf entries none maxKeys).isTruncated = decide (maxKeys < entries.length) := by
  unfold pageOf
  rw [filter_behindMarker_none]

/-- **Behind a full first page one entry is left.** -/
theorem second_page (h : SortedBy ListObjectsV2Entry.sortKey entries) (hpos : 0 < maxKeys)
    (hlength : entries.length = maxKeys + 1) :
    ∃ entry, entries = entries.take maxKeys ++ [entry] ∧
      pageEntries entries (pageOf entries none maxKeys).nextContinuationToken maxKeys = [entry] ∧
      (pageOf entries (pageOf entries none maxKeys).nextContinuationToken maxKeys).isTruncated =
        false := by
  obtain ⟨n, rfl⟩ : ∃ n, maxKeys = n + 1 := ⟨maxKeys - 1, by omega⟩
  have hlast : n < entries.length := by omega
  have hrest : (entries.drop (n + 1)).length = 1 := by
    rw [List.length_drop]
    omega
  obtain ⟨entry, hentry⟩ := List.length_eq_one_iff.mp hrest
  have hsplit : entries = entries.take n ++ entries.get ⟨n, hlast⟩ :: [entry] := by
    rw [← hentry, List.get_eq_getElem, ← List.drop_eq_getElem_cons, List.take_append_drop]
  have htoken : (pageOf entries none (n + 1)).nextContinuationToken =
      some (entries.get ⟨n, hlast⟩).sortKey := by
    unfold pageOf
    dsimp only
    rw [filter_behindMarker_none, if_pos (decide_eq_true (by omega)), Nat.add_sub_cancel, List.getElem?_eq_getElem hlast]
    rfl
  have hbehind : entries.filter (behindMarker (some (entries.get ⟨n, hlast⟩).sortKey)) =
      [entry] := by
    have hsorted : SortedBy ListObjectsV2Entry.sortKey
        (entries.take n ++ entries.get ⟨n, hlast⟩ :: [entry]) := hsplit ▸ h
    have hgt := hsorted.filter_gt
    rw [← hsplit] at hgt
    exact hgt
  refine ⟨entry, ?_, ?_, ?_⟩
  · rw [← hentry, List.take_append_drop]
  · rw [htoken]
    unfold pageEntries
    rw [hbehind]
    simp
  · rw [htoken]
    unfold pageOf
    dsimp only
    rw [hbehind]
    simp

end Pages

/-! ## Section 5: Listings -/

section Listings

variable (s : ListingState) (application : S3ApplicationIdentity) (bucket : String)
  (query : ListObjectsV2Query)

def ListObjectsV2Query.continuedAt (query : ListObjectsV2Query) (token : Option String) :
    ListObjectsV2Query :=
  { query with continuationToken := token }

/-- The responses to a client that follows the continuation tokens until one is not truncated. -/
inductive Responses : Option String → List ListObjectsV2Page → Prop where
  | last {token : Option String} {page : ListObjectsV2Page}
      (h : listObjectsV2WithBucket s application bucket (query.continuedAt token) = .ok page)
      (hlast : page.isTruncated = false) : Responses token [page]
  | next {token : Option String} {page : ListObjectsV2Page} {pages : List ListObjectsV2Page}
      (h : listObjectsV2WithBucket s application bucket (query.continuedAt token) = .ok page)
      (htruncated : page.isTruncated = true)
      (hrest : Responses page.nextContinuationToken pages) : Responses token (page :: pages)

/-- A key that some readable provider holds and that the application may see. -/
def Visible (key : String) : Prop :=
  application.seesKey key = true ∧
    ((∃ source objects, s.resolveBucketReadBackend bucket = .ok source ∧
        s.contents source.provider bucket = .ok objects ∧
        (∃ object ∈ objects, object.key = key) ∧
        (source.fallbackFrom.isSome → s.fallbackReadable source.provider bucket key = true)) ∨
      ∃ placement ∈ s.placementsForBucket bucket, placement.key = key ∧
        ∃ object, s.headPlacedObject bucket placement = .ok (some object))

/-- What the responses of a complete listing show. As only the last of them is not truncated,
nothing visible is left after it. -/
structure Complete (pages : List ListObjectsV2Page) : Prop where
  increasing : (pages.flatMap ListObjectsV2Page.texts).Pairwise (· < ·)
  covers : ∀ key, Visible s application bucket key →
    startsWith key (query.prefixText.getD "") = true →
      shownAs (query.prefixText.getD "") query.delimiter key ∈
        pages.flatMap ListObjectsV2Page.shown

/-- The number of listed keys before a key, whether the application may see them or not. -/
def rankOf (key : String) : Nat :=
  ((listedKeys s bucket query.prefixText query.delimiter).filter
    (fun other => decide (other < key))).length

/-- Every visible key is shown for the sake of a key that is among the first listed ones. -/
def FirstFetchReaches : Prop :=
  ∀ key, Visible s application bucket key →
    startsWith key (query.prefixText.getD "") = true →
      ∃ listed ∈ listedKeys s bucket query.prefixText query.delimiter,
        application.seesKey listed = true ∧
        shownAs (query.prefixText.getD "") query.delimiter listed =
          shownAs (query.prefixText.getD "") query.delimiter key ∧
        rankOf s bucket query listed < firstBackendLimit query.pageSize

variable {s application bucket query}

theorem responses_unique {token : Option String} {pages pages' : List ListObjectsV2Page}
    (h : Responses s application bucket query token pages)
    (h' : Responses s application bucket query token pages') : pages = pages' := by
  induction h generalizing pages' with
  | last hpage hlast =>
    cases h' with
    | last hpage' _ => rw [Except.ok.inj (hpage.symm.trans hpage')]
    | next hpage' htruncated' _ =>
      rw [Except.ok.inj (hpage'.symm.trans hpage), hlast] at htruncated'
      cases htruncated'
  | next hpage htruncated _ ih =>
    cases h' with
    | last hpage' hlast' =>
      rw [Except.ok.inj (hpage'.symm.trans hpage), htruncated] at hlast'
      cases hlast'
    | next hpage' _ hrest' =>
      obtain rfl := Except.ok.inj (hpage.symm.trans hpage')
      rw [ih hrest']

theorem keysOf_readBucketObjects {limit : Nat} {read : ReadObjects}
    (h : readBucketObjects s bucket query limit = .ok read) :
    keysOf read.objects =
      (listedKeys s bucket query.prefixText query.delimiter).take limit := by
  unfold readBucketObjects at h
  split at h
  · rename_i hdelimited
    exact keysOf_delimited hdelimited h
  · rename_i hflat
    exact keysOf_flat (Bool.eq_false_iff.mpr hflat) h

theorem listedKeys_startsWith {pre delimiter : Option String} {key : String}
    (h : key ∈ listedKeys s bucket pre delimiter) : startsWith key (pre.getD "") = true := by
  have hstored : ∀ provider, key ∈ storedKeys s bucket pre provider →
      startsWith key (pre.getD "") = true := by
    intro provider hkey
    unfold storedKeys at hkey
    split at hkey
    · exact absurd hkey List.not_mem_nil
    · obtain ⟨object, hobject, rfl⟩ := List.mem_map.mp hkey
      exact (List.mem_filter.mp hobject).2
  have hplaced : ∀ p : ObjectPlacementRecord → Bool,
      key ∈ ((prefixedPlacements s bucket pre).filter p).map (fun placement => placement.key) →
        startsWith key (pre.getD "") = true := by
    intro p hkey
    obtain ⟨placement, hplacement, rfl⟩ := List.mem_map.mp hkey
    exact (List.mem_filter.mp (List.mem_filter.mp hplacement).1).2
  unfold listedKeys at h
  split at h
  · exact absurd h List.not_mem_nil
  · dsimp only at h
    rw [(List.perm_insertionSort _ _).mem_iff, List.mem_dedup] at h
    split at h
    · rcases List.mem_append.mp h with h | h
      · split at h
        · exact hstored _ h
        · exact absurd h List.not_mem_nil
      · exact hplaced _ h
    · rcases List.mem_append.mp h with h | h
      · exact hstored _ (List.mem_filter.mp h).1
      · exact hplaced _ h

/-- What every request of a listing cuts its page from. -/
def listingEntries (application : S3ApplicationIdentity) (query : ListObjectsV2Query)
    (read : ReadObjects) : List ListObjectsV2Entry :=
  entriesOf (filterObjectsForApplication read.objects application)
    (query.prefixText.getD "") query.delimiter

theorem listPage_continuedAt {limit : Nat} {read : ReadObjects} (token : Option String)
    (h : readBucketObjects s bucket query limit = .ok read) :
    listPage s application bucket (query.continuedAt token) limit =
      .ok (pageOf (listingEntries application query read) (query.continuedAt token).marker
        query.pageSize) := by
  have hread : readBucketObjects s bucket (query.continuedAt token) limit = .ok read := h
  unfold listPage
  rw [hread]
  simp only [projection_eq]
  rfl

theorem listPages_of_listPage {limit : Nat} {hlimit : 0 < limit} {page : ListObjectsV2Page}
    (h : listPage s application bucket query limit = .ok page)
    (hretry : needsRetry query.marker page = false) :
    listPages s application bucket query limit hlimit = .ok page := by
  unfold listPages
  rw [h]
  simp [hretry]

/-- A listing starts without a token, and asks for at least one key a page. -/
structure StartsListing (query : ListObjectsV2Query) : Prop where
  token : query.continuationToken = none
  startAfter : query.startAfter = none
  maxKeys : query.maxKeys ≠ some 0

theorem StartsListing.pageSize_pos (h : StartsListing query) : 0 < query.pageSize := by
  have hmax := h.maxKeys
  unfold ListObjectsV2Query.pageSize
  cases hvalue : query.maxKeys with
  | none => decide
  | some value =>
    rw [hvalue] at hmax
    have hpos : value ≠ 0 := fun hzero => hmax (hzero ▸ rfl)
    simp only [Option.getD_some]
    omega

theorem StartsListing.marker (h : StartsListing query) (token : Option String) :
    (query.continuedAt token).marker = token := by
  show token.or query.startAfter = token
  rw [h.startAfter, Option.or_none]

/-- What a first response says about the state: the request is allowed and the bucket is read. -/
theorem listObjectsV2WithBucket_ok {first : ListObjectsV2Page} (hstart : StartsListing query)
    (h : listObjectsV2WithBucket s application bucket query = .ok first) :
    ∃ read, readBucketObjects s bucket query (firstBackendLimit query.pageSize) = .ok read ∧
      ∀ token, needsRetry token
          (pageOf (listingEntries application query read) token query.pageSize) = false →
        listObjectsV2WithBucket s application bucket (query.continuedAt token) =
          .ok (pageOf (listingEntries application query read) token query.pageSize) := by
  unfold listObjectsV2WithBucket at h
  split at h
  · cases h
  split at h
  · cases h
  rename_i hallowed hlistType
  cases hread : readBucketObjects s bucket query (firstBackendLimit query.pageSize) with
  | error error =>
    unfold listPages listPage at h
    rw [hread] at h
    cases h
  | ok read =>
    refine ⟨read, rfl, fun token hretry => ?_⟩
    have hpage := @listPage_continuedAt s application _ _ _ _ token hread
    rw [hstart.marker token] at hpage
    refine (if_neg hallowed).trans ((if_neg hlistType).trans ?_)
    apply listPages_of_listPage hpage
    rw [hstart.marker token]
    exact hretry

section Whole

variable {read : ReadObjects}

theorem nodup_filterObjects (hread : readBucketObjects s bucket query
    (firstBackendLimit query.pageSize) = .ok read) :
    (keysOf (filterObjectsForApplication read.objects application)).Nodup := by
  have hkeys := keysOf_readBucketObjects hread
  have hsorted := sortedBy_listedKeys s bucket query.prefixText query.delimiter
  have hnodup : (keysOf read.objects).Nodup := by
    rw [hkeys]
    exact (hsorted.sublist (List.take_sublist _ _)).nodup
  exact hnodup.sublist (List.filter_sublist.map _)

theorem listingEntries_sorted (hread : readBucketObjects s bucket query
    (firstBackendLimit query.pageSize) = .ok read) :
    SortedBy ListObjectsV2Entry.sortKey (listingEntries application query read) :=
  entriesOf_sorted (nodup_filterObjects hread)

/-- The first fetch gives at most one entry more than a page holds. -/
theorem length_listingEntries (hread : readBucketObjects s bucket query
    (firstBackendLimit query.pageSize) = .ok read) (hpos : 0 < query.pageSize) :
    (listingEntries application query read).length ≤ query.pageSize + 1 := by
  have hfirst : (listingEntries application query read).length ≤ read.objects.length :=
    length_entriesOf.trans (List.length_filter_le _ _)
  have hkeys := congrArg List.length (keysOf_readBucketObjects hread)
  rw [keysOf, List.length_map, List.length_take] at hkeys
  have hlimit : firstBackendLimit query.pageSize ≤ query.pageSize + 1 := by
    unfold firstBackendLimit
    omega
  omega

/-- **The responses of a listing show the first fetch, on one page or on two.** -/
theorem responses_of_read (hstart : StartsListing query)
    (hread : readBucketObjects s bucket query (firstBackendLimit query.pageSize) = .ok read)
    (hrespond : ∀ token, needsRetry token
        (pageOf (listingEntries application query read) token query.pageSize) = false →
      listObjectsV2WithBucket s application bucket (query.continuedAt token) =
        .ok (pageOf (listingEntries application query read) token query.pageSize)) :
    ∃ pages, Responses s application bucket query none pages ∧
      pages.flatMap ListObjectsV2Page.texts =
        (listingEntries application query read).map ListObjectsV2Entry.sortKey ∧
      ∀ shown, shown ∈ pages.flatMap ListObjectsV2Page.shown ↔
        ∃ entry ∈ listingEntries application query read, entry.shown = shown := by
  have hsorted := @listingEntries_sorted s application bucket query read hread
  have hlength := @length_listingEntries s application bucket query read hread hstart.pageSize_pos
  generalize listingEntries application query read = entries at hrespond hsorted hlength ⊢
  have hfirst := hrespond none rfl
  by_cases hfits : entries.length ≤ query.pageSize
  · -- everything stands on the first page
    have hall : pageEntries entries none query.pageSize = entries := by
      rw [pageEntries_none, List.take_of_length_le hfits]
    refine ⟨[pageOf entries none query.pageSize], .last hfirst ?_, ?_, ?_⟩
    · rw [isTruncated_none, decide_eq_false (not_lt.mpr hfits)]
    · rw [List.flatMap_singleton, texts_pageOf hsorted, hall]
    · intro shown
      rw [List.flatMap_singleton, mem_shown_pageOf, hall]
  · obtain ⟨entry, hsplit, hsecond, hlast⟩ :=
      second_page hsorted hstart.pageSize_pos (by omega)
    have hretry : needsRetry (pageOf entries none query.pageSize).nextContinuationToken
        (pageOf entries (pageOf entries none query.pageSize).nextContinuationToken
          query.pageSize) = false := by
      by_contra hne
      have hnil := pageEntries_eq_nil_of_needsRetry (Bool.eq_true_of_not_eq_false hne)
      rw [hsecond] at hnil
      cases hnil
    refine ⟨[pageOf entries none query.pageSize, pageOf entries
        (pageOf entries none query.pageSize).nextContinuationToken query.pageSize],
      .next hfirst ?_ (.last (hrespond _ hretry) hlast), ?_, ?_⟩
    · rw [isTruncated_none, decide_eq_true (not_le.mp hfits)]
    · rw [List.flatMap_cons, List.flatMap_singleton, texts_pageOf hsorted, texts_pageOf hsorted,
        hsecond, pageEntries_none, ← List.map_append, ← hsplit]
    · intro shown
      rw [List.flatMap_cons, List.flatMap_singleton, List.mem_append, mem_shown_pageOf,
        mem_shown_pageOf, hsecond, pageEntries_none]
      constructor
      · rintro (⟨shownEntry, hmem, rfl⟩ | ⟨shownEntry, hmem, rfl⟩)
        · exact ⟨shownEntry, List.mem_of_mem_take hmem, rfl⟩
        · refine ⟨shownEntry, ?_, rfl⟩
          rw [hsplit]
          exact List.mem_append_right _ hmem
      · rintro ⟨shownEntry, hmem, rfl⟩
        rw [hsplit] at hmem
        rcases List.mem_append.mp hmem with hmem | hmem
        · exact Or.inl ⟨shownEntry, hmem, rfl⟩
        · exact Or.inr ⟨shownEntry, hmem, rfl⟩

/-- The first fetch shows a key for the sake of one of the first listed keys. -/
theorem shown_iff_reached (hread : readBucketObjects s bucket query
    (firstBackendLimit query.pageSize) = .ok read) {shown : Shown} :
    (∃ entry ∈ listingEntries application query read, entry.shown = shown) ↔
      ∃ listed ∈ listedKeys s bucket query.prefixText query.delimiter,
        application.seesKey listed = true ∧
        shownAs (query.prefixText.getD "") query.delimiter listed = shown ∧
        rankOf s bucket query listed < firstBackendLimit query.pageSize := by
  have hkeys := keysOf_readBucketObjects hread
  have hsorted := sortedBy_listedKeys s bucket query.prefixText query.delimiter
  have hprefix : ∀ object ∈ filterObjectsForApplication read.objects application,
      startsWith object.key (query.prefixText.getD "") = true := by
    intro object hobject
    have hmem : object.key ∈ keysOf read.objects :=
      List.mem_map.mpr ⟨object, (List.mem_filter.mp hobject).1, rfl⟩
    rw [hkeys] at hmem
    exact listedKeys_startsWith (List.mem_of_mem_take hmem)
  unfold listingEntries
  rw [mem_entriesOf_shown hprefix]
  constructor
  · rintro ⟨object, hobject, rfl⟩
    obtain ⟨hmem, hsees⟩ := List.mem_filter.mp hobject
    have hkey : object.key ∈ keysOf read.objects := List.mem_map.mpr ⟨object, hmem, rfl⟩
    rw [hkeys] at hkey
    obtain ⟨hlisted, hrank⟩ := hsorted.mem_take_iff.mp hkey
    exact ⟨object.key, hlisted, hsees, rfl, hrank⟩
  · rintro ⟨listed, hlisted, hsees, rfl, hrank⟩
    have hkey := hsorted.mem_take_iff.mpr ⟨hlisted, hrank⟩
    rw [← hkeys] at hkey
    obtain ⟨object, hmem, rfl⟩ := List.mem_map.mp hkey
    exact ⟨object, List.mem_filter.mpr ⟨hmem, hsees⟩, rfl⟩

end Whole

def storedObject (key : String) : ObjectInfo := ⟨key, 1, none, none, none⟩

/-- The bucket `docs` of a gateway whose only provider is the stub. -/
def threeKeys : ListingState where
  config :=
    { topology :=
        { primaryProvider := .stub
          syncTargets := []
          fallbackReadOrder := []
          onedriveEnabled := false
          replicationMode := .asyncBackup }
      configured := fun provider => decide (provider = .stub)
      canWrite := fun _ => true
      streamingPut := fun _ => true
      streamingGet := fun _ => true
      maxInMemoryObjectBytes := 1024
      onedriveMatchesObject := fun _ _ => true
      decryptDownload := fun _ stored => .ok stored
      sha256Hex := id
      httpLastModified := id }
  onedriveMatchesBucket := fun _ => true
  metadataStore := MetadataStore.openFresh {}
  headContainer := fun _ bucket =>
    if bucket = "docs" then .ok () else .error (.notFound s!"container not found: {bucket}")
  contents := fun _ bucket =>
    if bucket = "docs" then
      .ok ⟨[storedObject "a.txt", storedObject "b.txt", storedObject "c.txt"], by decide⟩
    else .error (.notFound s!"container not found: {bucket}")
  s3Timestamp := fun _ => none

def everyObject : S3ApplicationIdentity where
  applicationId := "gallery"
  permissions := ⟨true, true, true, true, true, [], []⟩

def pagesOf (maxKeys : Nat) : ListObjectsV2Query :=
  ⟨some "2", none, some maxKeys, none, none, none⟩

theorem visible_threeKeys {key : String} :
    Visible threeKeys everyObject "docs" key ↔ key ∈ ["a.txt", "b.txt", "c.txt"] := by
  constructor
  · rintro ⟨-, ⟨source, objects, -, hcontents, ⟨object, hobject, rfl⟩, -⟩ | ⟨placement, hmem, -⟩⟩
    · cases hcontents
      have hrows : object ∈ [storedObject "a.txt", storedObject "b.txt", storedObject "c.txt"] :=
        hobject
      simp only [List.mem_cons, List.not_mem_nil, or_false] at hrows
      rcases hrows with rfl | rfl | rfl <;> decide
    · cases hmem
  · intro hkey
    refine ⟨rfl, Or.inl ⟨⟨.stub, none⟩, _, by decide, rfl, ?_, fun hsome => by cases hsome⟩⟩
    simp only [List.mem_cons, List.not_mem_nil, or_false] at hkey
    rcases hkey with rfl | rfl | rfl
    · exact ⟨storedObject "a.txt", Table.mem_rows.mp (by decide), rfl⟩
    · exact ⟨storedObject "b.txt", Table.mem_rows.mp (by decide), rfl⟩
    · exact ⟨storedObject "c.txt", Table.mem_rows.mp (by decide), rfl⟩

theorem threeKeys_responds {query : ListObjectsV2Query} {page : ListObjectsV2Page}
    (hallowed : listObjectsAllowed everyObject.permissions "docs" query.prefixText = true)
    (hlistType : query.listType = some "2")
    (h : listPage threeKeys everyObject "docs" query (firstBackendLimit query.pageSize) = .ok page)
    (hretry : needsRetry query.marker page = false) :
    listObjectsV2WithBucket threeKeys everyObject "docs" query = .ok page := by
  unfold listObjectsV2WithBucket
  rw [if_neg (by simpa using hallowed), if_neg (by simp [hlistType])]
  exact listPages_of_listPage h hretry

end Listings

end Netdisk2Blob.Gateway
