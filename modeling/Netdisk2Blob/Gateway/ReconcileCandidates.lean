import Netdisk2Blob.Library.Joins
import Netdisk2Blob.Metadata.PlacementQueries
import Netdisk2Blob.Gateway.ObjectWrites

/-!
# Reconcile Candidates

The rows that the reconcile preview works on: placements from a filtered and limited query,
joined in memory with all logical records and all protection plans. The lookup of one key
joins the same three tables without filters.

## Contents

- `objectReconcileCandidateRecords`, `objectReconcileCandidateForKey`: the two joins
- `matchingCandidates`, `FaithfulJoin`: what the first should give, said with the second
- `objectReconcileCandidateRecords_eq_ok`: what the loops hold at each key
- `joined_ne_matchingCandidate_iff`: at which keys the two joins part
- `faithfulJoin_iff`: for which stores, filters and limits the rows are the faithful ones
-/

namespace Netdisk2Blob.Gateway

open Library Blob Policy Metadata
open Operations (PersistedObjectProtectionPlan parseProtectionPlan)

/-! ## Section 1: The two joins -/

def adminUserVisibleProviderName (providerName : String) : Bool :=
  decide (providerName ≠ ProviderId.onedrive.asStr)

structure ObjectReconcileCandidateRecord where
  bucket : String
  key : String
  placement : Option ObjectPlacementRecord := none
  logical : Option LogicalObjectRecord := none
  protectionPlan : Option PersistedObjectProtectionPlan := none
  deriving DecidableEq, Repr

/-- The map `by_key`, in the order of (bucket, key). -/
abbrev CandidateMap :=
  Table ObjectReconcileCandidateRecord (fun row => objectKey row.bucket row.key)

/-- `bucket_matches` and `prefix_matches`. -/
def keyMatches (bucketFilter prefixFilter : Option String) (bucket key : String) : Bool :=
  bucketFilter.all (fun filter => decide (bucket = filter)) &&
    prefixFilter.all (fun pre => decide (StartsWith key pre))

def insertPlacement (byKey : CandidateMap) (placement : ObjectPlacementRecord) : CandidateMap :=
  if adminUserVisibleProviderName placement.provider then
    byKey.upsert
      { bucket := placement.bucket, key := placement.key, placement := some placement }
  else byKey

section Joins

variable (bucketFilter prefixFilter : Option String)

def mergeLogical (byKey : CandidateMap) (logical : LogicalObjectRecord) : CandidateMap :=
  if keyMatches bucketFilter prefixFilter logical.bucket logical.key then
    byKey.entry { bucket := logical.bucket, key := logical.key }
      (fun entry => { entry with logical := some logical })
  else byKey

def mergePlan (byKey : CandidateMap) (plan : ObjectProtectionPlanRecord) :
    Except BlobError CandidateMap :=
  if keyMatches bucketFilter prefixFilter plan.bucket plan.key then do
    let parsed ← parseProtectionPlan plan
    return byKey.entry { bucket := plan.bucket, key := plan.key }
      (fun entry => { entry with protectionPlan := some parsed })
  else return byKey

def objectReconcileCandidateRecords (store : MetadataStore)
    (providerFilter bucketFilter prefixFilter : Option String) (limit : Nat) :
    Except BlobError (List ObjectReconcileCandidateRecord) := do
  let placements := store.listObjectPlacements providerFilter bucketFilter prefixFilter limit
  let placed := placements.foldl insertPlacement ∅
  let joined := store.logicalObjects.rows.foldl (mergeLogical bucketFilter prefixFilter) placed
  let byKey ← store.objectProtectionPlans.rows.foldlM (mergePlan bucketFilter prefixFilter) joined
  return byKey.rows.take limit

end Joins

/-- `load_object_protection_plan` on a store that answers. -/
def storedProtectionPlan (store : MetadataStore) (bucket key : String) :
    Except BlobError (Option PersistedObjectProtectionPlan) :=
  match store.objectProtectionPlan bucket key with
  | none => .ok none
  | some record => (parseProtectionPlan record).map some

def objectReconcileCandidateForKey (store : MetadataStore) (bucket key : String) :
    Except BlobError (Option ObjectReconcileCandidateRecord) :=
  let placement := store.objectPlacement bucket key
  if placement.any (fun value => !adminUserVisibleProviderName value.provider) then .ok none
  else do
    let logical := store.logicalObject bucket key
    let protectionPlan ← storedProtectionPlan store bucket key
    if placement.isNone ∧ logical.isNone ∧ protectionPlan.isNone then return none
    return some
      { bucket := bucket
        key := key
        placement := placement
        logical := logical
        protectionPlan := protectionPlan }

/-! ## Section 2: The faithful join -/

section Faithful

variable (store : MetadataStore) (providerFilter bucketFilter prefixFilter : Option String)

/-- The provider filter is about the stored placement. -/
def providerMatches (placement : Option ObjectPlacementRecord) : Bool :=
  providerFilter.all (fun filter => placement.any (fun row => decide (row.provider = filter)))

/-- All three filters. -/
def FilterSatisfied (row : ObjectReconcileCandidateRecord) : Prop :=
  keyMatches bucketFilter prefixFilter row.bucket row.key = true ∧
    providerMatches providerFilter row.placement = true

instance (row : ObjectReconcileCandidateRecord) :
    Decidable (FilterSatisfied providerFilter bucketFilter prefixFilter row) :=
  inferInstanceAs (Decidable (_ ∧ _))

/-- The candidate of a key, if there is one and the filters keep it. -/
def matchingCandidate (key : String ×ₗ String) : Option ObjectReconcileCandidateRecord :=
  match objectReconcileCandidateForKey store (ofLex key).1 (ofLex key).2 with
  | .ok (some row) =>
    if FilterSatisfied providerFilter bucketFilter prefixFilter row then some row else none
  | _ => none

/-- Every key that one of the three tables has. -/
def objectKeys : List (String ×ₗ String) :=
  store.objectPlacements.rows.map (fun row => objectKey row.bucket row.key) ++
    store.logicalObjects.rows.map (fun row => objectKey row.bucket row.key) ++
      store.objectProtectionPlans.rows.map (fun row => objectKey row.bucket row.key)

/-- All candidates that the filters keep, in the order of (bucket, key). -/
def matchingCandidates : CandidateMap :=
  Table.tabulate (matchingCandidate store providerFilter bucketFilter prefixFilter)
    (objectKeys store)

/-- What the rows of a preview should be. -/
structure FaithfulJoin (limit : Nat) (rows : List ObjectReconcileCandidateRecord) : Prop where
  stored : ∀ row ∈ rows, row.placement = store.objectPlacement row.bucket row.key ∧
    row.logical = store.logicalObject row.bucket row.key ∧
      storedProtectionPlan store row.bucket row.key = .ok row.protectionPlan
  agrees : ∀ row ∈ rows, objectReconcileCandidateForKey store row.bucket row.key = .ok (some row)
  filtered : ∀ row ∈ rows, FilterSatisfied providerFilter bucketFilter prefixFilter row
  first : rows =
    (matchingCandidates store providerFilter bucketFilter prefixFilter).rows.take limit

/-- The keys at which the two joins part. -/
def Misjoined (limit : Nat) (bucket key : String) : Prop :=
  let inFilter := keyMatches bucketFilter prefixFilter bucket key = true
  let known := (store.logicalObject bucket key).isSome ∨
    (store.objectProtectionPlan bucket key).isSome
  match store.objectPlacement bucket key with
  -- a row without a placement does not satisfy a provider filter
  | none => inFilter ∧ known ∧ providerFilter.isSome
  | some placement =>
    if adminUserVisibleProviderName placement.provider = false then
      -- the placement is hidden, and the other rows are not
      inFilter ∧ known
    else if Listed store providerFilter bucketFilter prefixFilter limit placement then
      -- the query keeps more than the filters
      ¬ (inFilter ∧ providerMatches providerFilter (some placement) = true)
    else
      -- the placement is beyond the limit of the query
      inFilter ∧ (known ∨ providerMatches providerFilter (some placement) = true)

end Faithful

/-! ## Section 3: What the loops hold at one key -/

section Loops

/-- The entry that the rows of a key make, if there are any. -/
def joinRows (bucket key : String) (placement : Option ObjectPlacementRecord)
    (logical : Option LogicalObjectRecord)
    (protectionPlan : Option PersistedObjectProtectionPlan) :
    Option ObjectReconcileCandidateRecord :=
  if placement.isNone ∧ logical.isNone ∧ protectionPlan.isNone then none
  else some ⟨bucket, key, placement, logical, protectionPlan⟩

variable {store : MetadataStore} {providerFilter bucketFilter prefixFilter : Option String}
  {limit : Nat} {bucket key : String}

/-- The listed placement of a key is the stored one, if the query lists it. -/
theorem find?_listObjectPlacements :
    (store.listObjectPlacements providerFilter bucketFilter prefixFilter limit).find?
        (fun row => decide (objectKey row.bucket row.key = objectKey bucket key)) =
      (store.objectPlacement bucket key).filter (fun row =>
        decide (Listed store providerFilter bucketFilter prefixFilter limit row)) := by
  apply Option.ext
  intro row
  rw [find?_eq_some_of_nodup (nodup_listObjectPlacements store _ _ _ _),
    mem_listObjectPlacements, Option.filter_eq_some_iff, decide_eq_true_eq,
    MetadataStore.objectPlacement, Table.find?_eq_some]
  constructor
  · rintro ⟨hlisted, hkey⟩
    exact ⟨⟨hlisted.stored, hkey⟩, hlisted⟩
  · rintro ⟨⟨-, hkey⟩, hlisted⟩
    exact ⟨hlisted, hkey⟩

/-- The placements of the query that are not hidden. -/
theorem find?_placements :
    ((store.listObjectPlacements providerFilter bucketFilter prefixFilter limit).foldl
        insertPlacement ∅).find? (objectKey bucket key) =
      joinRows bucket key (((store.objectPlacement bucket key).filter (fun row =>
        decide (Listed store providerFilter bucketFilter prefixFilter limit row))).filter
          (fun row => adminUserVisibleProviderName row.provider)) none none := by
  have hstep : ∀ (t : CandidateMap) (row : ObjectPlacementRecord) k,
      (insertPlacement t row).find? k = if objectKey row.bucket row.key = k then
        (if adminUserVisibleProviderName row.provider then
          some { bucket := row.bucket, key := row.key, placement := some row } else t.find? k)
        else t.find? k := by
    intro t row k
    unfold insertPlacement
    split
    · rw [Table.find?_upsert]
    · rw [ite_self]
  rw [Table.find?_foldl_of_step hstep (nodup_listObjectPlacements store _ _ _ _),
    find?_listObjectPlacements]
  cases hplaced : (store.objectPlacement bucket key).filter (fun row =>
    decide (Listed store providerFilter bucketFilter prefixFilter limit row)) with
  | none => rfl
  | some row =>
    have hstored := (Option.filter_eq_some_iff.mp hplaced).1
    obtain ⟨rfl, rfl⟩ := MetadataStore.objectPlacement_key hstored
    rw [Option.elim_some, Option.filter_some]
    split
    · simp [joinRows]
    · rfl

/-- What one step of the loop over the logical records makes of the entry of its key. -/
def putLogical (bucketFilter prefixFilter : Option String) (row : LogicalObjectRecord)
    (entry : Option ObjectReconcileCandidateRecord) : Option ObjectReconcileCandidateRecord :=
  if keyMatches bucketFilter prefixFilter row.bucket row.key then
    some { entry.getD { bucket := row.bucket, key := row.key } with logical := some row }
  else entry

theorem find?_mergeLogical (byKey : CandidateMap) (row : LogicalObjectRecord)
    (k : String ×ₗ String) :
    (mergeLogical bucketFilter prefixFilter byKey row).find? k =
      if objectKey row.bucket row.key = k then
        putLogical bucketFilter prefixFilter row (byKey.find? k)
      else byKey.find? k := by
  unfold mergeLogical putLogical
  split
  · rw [Table.find?_entry (by exact fun _ => rfl)]
  · rw [ite_self]

/-- The loop over the logical records. -/
theorem find?_foldl_mergeLogical {byKey : CandidateMap}
    {placement : Option ObjectPlacementRecord}
    (hplaced : byKey.find? (objectKey bucket key) = joinRows bucket key placement none none) :
    (store.logicalObjects.rows.foldl (mergeLogical bucketFilter prefixFilter) byKey).find?
        (objectKey bucket key) =
      joinRows bucket key placement ((store.logicalObject bucket key).filter (fun _ =>
        keyMatches bucketFilter prefixFilter bucket key)) none := by
  rw [Table.find?_foldl_of_step find?_mergeLogical (Table.nodup_keys _), hplaced]
  change (store.logicalObject bucket key).elim _ _ = _
  cases hlogical : store.logicalObject bucket key with
  | none => rfl
  | some row =>
    obtain ⟨rfl, rfl⟩ := MetadataStore.logicalObject_key hlogical
    rw [Option.elim_some, Option.filter_some, putLogical]
    split
    · cases placement <;> simp [joinRows]
    · rfl

/-- The same for the loop over the plans, whose rows are parsed. -/
def putPlan (bucketFilter prefixFilter : Option String) (row : ObjectProtectionPlanRecord)
    (entry : Option ObjectReconcileCandidateRecord) : Option ObjectReconcileCandidateRecord :=
  if keyMatches bucketFilter prefixFilter row.bucket row.key then
    some { entry.getD { bucket := row.bucket, key := row.key } with
      protectionPlan := (parseProtectionPlan row).toOption }
  else entry

/-- The step that the loop takes when it does not stop. -/
def mergeParsedPlan (bucketFilter prefixFilter : Option String) (byKey : CandidateMap)
    (row : ObjectProtectionPlanRecord) : CandidateMap :=
  if keyMatches bucketFilter prefixFilter row.bucket row.key then
    byKey.entry { bucket := row.bucket, key := row.key }
      (fun entry => { entry with protectionPlan := (parseProtectionPlan row).toOption })
  else byKey

theorem find?_mergeParsedPlan (byKey : CandidateMap) (row : ObjectProtectionPlanRecord)
    (k : String ×ₗ String) :
    (mergeParsedPlan bucketFilter prefixFilter byKey row).find? k =
      if objectKey row.bucket row.key = k then
        putPlan bucketFilter prefixFilter row (byKey.find? k)
      else byKey.find? k := by
  unfold mergeParsedPlan putPlan
  split
  · rw [Table.find?_entry (by exact fun _ => rfl)]
  · rw [ite_self]

theorem mergePlan_eq_ok {byKey byKey' : CandidateMap} {row : ObjectProtectionPlanRecord}
    (h : mergePlan bucketFilter prefixFilter byKey row = .ok byKey') :
    byKey' = mergeParsedPlan bucketFilter prefixFilter byKey row ∧
      (keyMatches bucketFilter prefixFilter row.bucket row.key = true →
        ∃ plan, parseProtectionPlan row = .ok plan) := by
  unfold mergePlan at h
  unfold mergeParsedPlan
  split at h
  · rename_i hmatch
    obtain ⟨plan, hplan, hentry⟩ := except_bind_ok.mp h
    cases hentry
    rw [if_pos hmatch, hplan]
    exact ⟨rfl, fun _ => ⟨plan, rfl⟩⟩
  · rename_i hmatch
    cases h
    rw [if_neg hmatch]
    exact ⟨rfl, fun hmatch' => absurd hmatch' hmatch⟩

/-- A loop over plans that does not stop has parsed each plan that the filters keep. -/
theorem foldlM_mergePlan_eq_ok {plans : List ObjectProtectionPlanRecord}
    {byKey byKey' : CandidateMap}
    (h : plans.foldlM (mergePlan bucketFilter prefixFilter) byKey = .ok byKey') :
    byKey' = plans.foldl (mergeParsedPlan bucketFilter prefixFilter) byKey ∧
      ∀ row ∈ plans, keyMatches bucketFilter prefixFilter row.bucket row.key = true →
        ∃ plan, parseProtectionPlan row = .ok plan := by
  induction plans generalizing byKey with
  | nil =>
    cases h
    exact ⟨rfl, fun row hrow => absurd hrow List.not_mem_nil⟩
  | cons row plans ih =>
    rw [List.foldlM_cons] at h
    obtain ⟨next, hstep, hrest⟩ := except_bind_ok.mp h
    obtain ⟨rfl, hparsed⟩ := mergePlan_eq_ok hstep
    obtain ⟨hfinal, hothers⟩ := ih hrest
    refine ⟨hfinal, ?_⟩
    intro other hother
    rcases List.mem_cons.mp hother with rfl | hother
    · exact hparsed
    · exact hothers other hother

/-- The loop over the plans. -/
theorem find?_foldl_mergeParsedPlan {byKey : CandidateMap}
    {placement : Option ObjectPlacementRecord} {logical : Option LogicalObjectRecord}
    (hjoined : byKey.find? (objectKey bucket key) = joinRows bucket key placement logical none)
    (hparsed : ∀ row ∈ store.objectProtectionPlans.rows,
      keyMatches bucketFilter prefixFilter row.bucket row.key = true →
        ∃ plan, parseProtectionPlan row = .ok plan) :
    (store.objectProtectionPlans.rows.foldl (mergeParsedPlan bucketFilter prefixFilter)
        byKey).find? (objectKey bucket key) =
      joinRows bucket key placement logical
        (((store.objectProtectionPlan bucket key).filter (fun _ =>
          keyMatches bucketFilter prefixFilter bucket key)).bind
            (fun row => (parseProtectionPlan row).toOption)) := by
  rw [Table.find?_foldl_of_step find?_mergeParsedPlan (Table.nodup_keys _), hjoined]
  change (store.objectProtectionPlan bucket key).elim _ _ = _
  cases hrow : store.objectProtectionPlan bucket key with
  | none => rfl
  | some row =>
    have hmem : row ∈ store.objectProtectionPlans.rows := (Table.find?_eq_some.mp hrow).1
    obtain ⟨rfl, rfl⟩ := MetadataStore.objectProtectionPlan_key hrow
    rw [Option.elim_some, Option.filter_some, putPlan]
    split
    · rename_i hmatch
      obtain ⟨plan, hplan⟩ := hparsed row hmem hmatch
      rw [Option.bind_some, hplan]
      cases placement <;> cases logical <;> simp [joinRows, Except.toOption]
    · rfl

/-- The plan of a key as the loop over the plans reads it. -/
def matchedPlan (store : MetadataStore) (bucketFilter prefixFilter : Option String)
    (bucket key : String) : Option PersistedObjectProtectionPlan :=
  ((store.objectProtectionPlan bucket key).filter (fun _ =>
    keyMatches bucketFilter prefixFilter bucket key)).bind
      (fun row => (parseProtectionPlan row).toOption)

/-- Each plan that the filters keep can be parsed. -/
def PlansParsed (store : MetadataStore) (bucketFilter prefixFilter : Option String) : Prop :=
  ∀ row ∈ store.objectProtectionPlans.rows,
    keyMatches bucketFilter prefixFilter row.bucket row.key = true →
      ∃ plan, parseProtectionPlan row = .ok plan

/-- **What the loops leave**: at each key the listed placement, and the other two rows if the
filters keep the key. -/
theorem objectReconcileCandidateRecords_eq_ok {rows : List ObjectReconcileCandidateRecord}
    (h : objectReconcileCandidateRecords store providerFilter bucketFilter prefixFilter limit =
      .ok rows) :
    PlansParsed store bucketFilter prefixFilter ∧
      ∃ byKey : CandidateMap, rows = byKey.rows.take limit ∧
        ∀ bucket key, byKey.find? (objectKey bucket key) =
          joinRows bucket key
            (((store.objectPlacement bucket key).filter (fun row =>
              decide (Listed store providerFilter bucketFilter prefixFilter limit row))).filter
                (fun row => adminUserVisibleProviderName row.provider))
            ((store.logicalObject bucket key).filter (fun _ =>
              keyMatches bucketFilter prefixFilter bucket key))
            (matchedPlan store bucketFilter prefixFilter bucket key) := by
  obtain ⟨byKey, hplans, hrows⟩ := except_bind_ok.mp h
  cases hrows
  obtain ⟨rfl, hparsed⟩ := foldlM_mergePlan_eq_ok hplans
  refine ⟨hparsed, _, rfl, ?_⟩
  intro bucket key
  exact find?_foldl_mergeParsedPlan (find?_foldl_mergeLogical find?_placements) hparsed

end Loops

/-! ## Section 4: Where the two joins part -/

section Misjoins

variable {store : MetadataStore} {providerFilter bucketFilter prefixFilter : Option String}
  {limit : Nat} {bucket key : String}

theorem storedProtectionPlan_of_matches (hparsed : PlansParsed store bucketFilter prefixFilter)
    (hmatch : keyMatches bucketFilter prefixFilter bucket key = true) :
    storedProtectionPlan store bucket key =
      .ok (matchedPlan store bucketFilter prefixFilter bucket key) ∧
    ((matchedPlan store bucketFilter prefixFilter bucket key).isSome ↔
      (store.objectProtectionPlan bucket key).isSome) := by
  unfold storedProtectionPlan matchedPlan
  cases hrow : store.objectProtectionPlan bucket key with
  | none => exact ⟨rfl, Iff.rfl⟩
  | some row =>
    have hmem : row ∈ store.objectProtectionPlans.rows := (Table.find?_eq_some.mp hrow).1
    obtain ⟨rfl, rfl⟩ := MetadataStore.objectProtectionPlan_key hrow
    obtain ⟨plan, hplan⟩ := hparsed row hmem hmatch
    rw [Option.filter_some, if_pos hmatch, Option.bind_some]
    simp [hplan, Except.map, Except.toOption]

theorem joinRows_ne_none {logical : Option LogicalObjectRecord}
    {plan : Option PersistedObjectProtectionPlan} :
    joinRows bucket key none logical plan ≠ none ↔ logical.isSome ∨ plan.isSome := by
  cases logical <;> cases plan <;> simp [joinRows]

/-- What the lookup of a key gives. -/
theorem objectReconcileCandidateForKey_eq {plan : Option PersistedObjectProtectionPlan}
    (hplan : storedProtectionPlan store bucket key = .ok plan) :
    objectReconcileCandidateForKey store bucket key =
      .ok (if (store.objectPlacement bucket key).any
          (fun value => !adminUserVisibleProviderName value.provider) then none
        else joinRows bucket key (store.objectPlacement bucket key)
          (store.logicalObject bucket key) plan) := by
  unfold objectReconcileCandidateForKey joinRows
  simp only [hplan]
  split
  · rfl
  · simp only [bind, Except.bind, pure, Except.pure]
    split <;> rfl

theorem key_of_objectReconcileCandidateForKey {row : ObjectReconcileCandidateRecord}
    (h : objectReconcileCandidateForKey store bucket key = .ok (some row)) :
    row.bucket = bucket ∧ row.key = key ∧ row.placement = store.objectPlacement bucket key ∧
      row.logical = store.logicalObject bucket key ∧
        storedProtectionPlan store bucket key = .ok row.protectionPlan := by
  unfold objectReconcileCandidateForKey at h
  dsimp only at h
  split at h
  · cases h
  · obtain ⟨plan, hplan, hrow⟩ := except_bind_ok.mp h
    split at hrow
    · cases hrow
    · cases hrow
      exact ⟨rfl, rfl, rfl, rfl, hplan⟩

theorem matchingCandidate_eq_some {row : ObjectReconcileCandidateRecord} :
    matchingCandidate store providerFilter bucketFilter prefixFilter (objectKey bucket key) =
        some row ↔
      objectReconcileCandidateForKey store bucket key = .ok (some row) ∧
        FilterSatisfied providerFilter bucketFilter prefixFilter row := by
  unfold matchingCandidate
  simp only [objectKey, ofLex_toLex]
  split
  · rename_i found hfound
    rw [hfound]
    split
    · rename_i hsatisfied
      constructor
      · intro heq
        cases heq
        exact ⟨rfl, hsatisfied⟩
      · rintro ⟨heq, -⟩
        cases heq
        rfl
    · rename_i hnot
      refine iff_of_false (by simp) ?_
      rintro ⟨heq, hsatisfied⟩
      cases heq
      exact hnot hsatisfied
  · rename_i hnone
    refine iff_of_false (by simp) ?_
    rintro ⟨heq, -⟩
    exact hnone row heq

/-- The candidate of a key whose plan can be read. -/
theorem matchingCandidate_eq {plan : Option PersistedObjectProtectionPlan}
    (hplan : storedProtectionPlan store bucket key = .ok plan)
    (hmatch : keyMatches bucketFilter prefixFilter bucket key = true) :
    matchingCandidate store providerFilter bucketFilter prefixFilter (objectKey bucket key) =
      if (store.objectPlacement bucket key).any
          (fun value => !adminUserVisibleProviderName value.provider) then none
      else if providerMatches providerFilter (store.objectPlacement bucket key) then
        joinRows bucket key (store.objectPlacement bucket key)
          (store.logicalObject bucket key) plan
      else none := by
  apply Option.ext
  intro row
  rw [matchingCandidate_eq_some, objectReconcileCandidateForKey_eq hplan]
  split
  · simp
  · have hrow : joinRows bucket key (store.objectPlacement bucket key)
        (store.logicalObject bucket key) plan = some row →
          row.bucket = bucket ∧ row.key = key ∧
            row.placement = store.objectPlacement bucket key := by
      intro heq
      unfold joinRows at heq
      split at heq
      · cases heq
      · cases heq
        exact ⟨rfl, rfl, rfl⟩
    rw [Except.ok.injEq]
    split
    · rename_i hprovider
      refine and_iff_left_of_imp ?_
      intro heq
      obtain ⟨hbucket, hkey, hplacement⟩ := hrow heq
      unfold FilterSatisfied
      rw [hbucket, hkey, hplacement]
      exact ⟨hmatch, hprovider⟩
    · rename_i hprovider
      refine iff_of_false ?_ (by simp)
      rintro ⟨heq, hsatisfied⟩
      rw [FilterSatisfied, (hrow heq).2.2] at hsatisfied
      exact hprovider hsatisfied.2

/-- No key outside the filters has a candidate. -/
theorem matchingCandidate_eq_none
    (hmatch : ¬ keyMatches bucketFilter prefixFilter bucket key = true) :
    matchingCandidate store providerFilter bucketFilter prefixFilter (objectKey bucket key) =
      none := by
  cases hrow : matchingCandidate store providerFilter bucketFilter prefixFilter
    (objectKey bucket key) with
  | none => rfl
  | some row =>
    obtain ⟨hfound, hsatisfied, -⟩ := matchingCandidate_eq_some.mp hrow
    obtain ⟨hbucket, hkey, -⟩ := key_of_objectReconcileCandidateForKey hfound
    rw [hbucket, hkey] at hsatisfied
    exact absurd hsatisfied hmatch

/-- **Where the joins part**: at the misjoined keys and at no others. -/
theorem joined_ne_matchingCandidate_iff (hparsed : PlansParsed store bucketFilter prefixFilter) :
    joinRows bucket key
        (((store.objectPlacement bucket key).filter (fun row =>
          decide (Listed store providerFilter bucketFilter prefixFilter limit row))).filter
            (fun row => adminUserVisibleProviderName row.provider))
        ((store.logicalObject bucket key).filter (fun _ =>
          keyMatches bucketFilter prefixFilter bucket key))
        (matchedPlan store bucketFilter prefixFilter bucket key) ≠
      matchingCandidate store providerFilter bucketFilter prefixFilter (objectKey bucket key) ↔
    Misjoined store providerFilter bucketFilter prefixFilter limit bucket key := by
  unfold Misjoined
  dsimp only
  by_cases hmatch : keyMatches bucketFilter prefixFilter bucket key = true
  · obtain ⟨hplan, hknown⟩ := storedProtectionPlan_of_matches hparsed hmatch
    rw [matchingCandidate_eq hplan hmatch]
    have hlogical : (store.logicalObject bucket key).filter (fun _ =>
        keyMatches bucketFilter prefixFilter bucket key) = store.logicalObject bucket key := by
      cases store.logicalObject bucket key with
      | none => rfl
      | some row => rw [Option.filter_some, if_pos hmatch]
    rw [hlogical, ← hknown]
    simp only [hmatch, true_and]
    cases hplacement : store.objectPlacement bucket key with
    | none =>
      -- only a provider filter drops the row
      cases providerFilter with
      | none => simp [providerMatches]
      | some filter =>
        simp only [Option.filter_none, Option.any_none, providerMatches, Option.all_some,
          Bool.false_eq_true, if_false, Option.isSome_some, and_true]
        exact joinRows_ne_none
    | some placement =>
      rw [Option.filter_some, Option.any_some]
      by_cases hvisible : adminUserVisibleProviderName placement.provider = true
      · by_cases hlisted :
            Listed store providerFilter bucketFilter prefixFilter limit placement
        · simp only [hlisted, hvisible, decide_true, if_true, Option.filter_some, Bool.not_true,
            Bool.false_eq_true, if_false, Bool.true_eq_false]
          split
          · rename_i hprovider
            simp [hprovider]
          · rename_i hprovider
            simp [hprovider, joinRows]
        · simp only [hlisted, hvisible, decide_false, Bool.false_eq_true, if_false,
            Option.filter_none, Bool.not_true, Bool.true_eq_false]
          split
          · rename_i hprovider
            rw [iff_true_right (Or.inr hprovider)]
            -- one row has the placement and the other has none
            cases store.logicalObject bucket key <;>
              cases matchedPlan store bucketFilter prefixFilter bucket key <;> simp [joinRows]
          · rename_i hprovider
            simp only [hprovider, Bool.false_eq_true, or_false]
            exact joinRows_ne_none
      · have hhidden := Bool.eq_false_iff.mpr hvisible
        have hnone : (if decide (Listed store providerFilter bucketFilter prefixFilter limit
            placement) = true then some placement else none).filter
              (fun row => adminUserVisibleProviderName row.provider) = none := by
          split
          · rw [Option.filter_some, if_neg hvisible]
          · rfl
        rw [hnone]
        simp only [hhidden, Bool.not_false, if_true]
        exact joinRows_ne_none
  · rw [matchingCandidate_eq_none hmatch]
    have hlogical : (store.logicalObject bucket key).filter (fun _ =>
        keyMatches bucketFilter prefixFilter bucket key) = none := by
      cases store.logicalObject bucket key with
      | none => rfl
      | some row => rw [Option.filter_some, if_neg hmatch]
    have hplan : matchedPlan store bucketFilter prefixFilter bucket key = none := by
      unfold matchedPlan
      cases store.objectProtectionPlan bucket key with
      | none => rfl
      | some row =>
        rw [Option.filter_some, if_neg hmatch]
        rfl
    rw [hlogical, hplan]
    simp only [hmatch]
    cases hplacement : store.objectPlacement bucket key with
    | none => simp [joinRows]
    | some placement =>
      -- outside the filters only a listed placement makes a row
      by_cases hvisible : adminUserVisibleProviderName placement.provider = true
      · by_cases hlisted :
            Listed store providerFilter bucketFilter prefixFilter limit placement
        · simp [hlisted, hvisible, joinRows, Option.filter_some]
        · simp [hlisted, hvisible, joinRows, Option.filter_some]
      · have hhidden := Bool.eq_false_iff.mpr hvisible
        by_cases hlisted :
            Listed store providerFilter bucketFilter prefixFilter limit placement
        · simp [hlisted, hhidden, joinRows, Option.filter_some]
        · simp [hlisted, hhidden, joinRows, Option.filter_some]

end Misjoins

/-! ## Section 5: When the rows are the faithful ones -/

section Rows

variable {store : MetadataStore} {providerFilter bucketFilter prefixFilter : Option String}
  {limit : Nat}

theorem mem_objectKeys {bucket key : String} {row : ObjectReconcileCandidateRecord}
    (h : objectReconcileCandidateForKey store bucket key = .ok (some row)) :
    objectKey bucket key ∈ objectKeys store := by
  unfold objectReconcileCandidateForKey at h
  dsimp only at h
  split at h
  · cases h
  obtain ⟨plan, hplan, hrow⟩ := except_bind_ok.mp h
  split at hrow
  · cases hrow
  rename_i hsome
  -- one of the three tables has a row of this key
  simp only [objectKeys, List.mem_append, List.mem_map]
  cases hplacement : store.objectPlacement bucket key with
  | some placement =>
    obtain ⟨hmem, hkey⟩ := Table.find?_eq_some.mp hplacement
    exact Or.inl (Or.inl ⟨placement, hmem, hkey⟩)
  | none =>
    cases hlogical : store.logicalObject bucket key with
    | some logical =>
      obtain ⟨hmem, hkey⟩ := Table.find?_eq_some.mp hlogical
      exact Or.inl (Or.inr ⟨logical, hmem, hkey⟩)
    | none =>
      unfold storedProtectionPlan at hplan
      cases hrecord : store.objectProtectionPlan bucket key with
      | some record =>
        obtain ⟨hmem, hkey⟩ := Table.find?_eq_some.mp hrecord
        exact Or.inr ⟨record, hmem, hkey⟩
      | none =>
        rw [hrecord] at hplan
        cases hplan
        exact absurd ⟨by rw [hplacement]; rfl, by rw [hlogical]; rfl, rfl⟩ hsome

/-- The candidates that the filters keep, read at one key. -/
theorem find?_matchingCandidates (bucket key : String) :
    (matchingCandidates store providerFilter bucketFilter prefixFilter).find?
        (objectKey bucket key) =
      matchingCandidate store providerFilter bucketFilter prefixFilter (objectKey bucket key) := by
  have hkeys : ∀ k row,
      matchingCandidate store providerFilter bucketFilter prefixFilter k = some row →
        objectKey row.bucket row.key = k := by
    intro k row hrow
    obtain ⟨hfound, -⟩ := (@matchingCandidate_eq_some store providerFilter bucketFilter
      prefixFilter (ofLex k).1 (ofLex k).2 row).mp hrow
    obtain ⟨hbucket, hkey, -⟩ := key_of_objectReconcileCandidateForKey hfound
    rw [hbucket, hkey]
    rfl
  rw [matchingCandidates, Table.find?_tabulate hkeys]
  split
  · rfl
  · rename_i hnot
    cases hrow : matchingCandidate store providerFilter bucketFilter prefixFilter
      (objectKey bucket key) with
    | none => rfl
    | some row => exact absurd (mem_objectKeys (matchingCandidate_eq_some.mp hrow).1) hnot

/-- Being the first candidates says the rest. -/
theorem faithfulJoin_iff_first {rows : List ObjectReconcileCandidateRecord} :
    FaithfulJoin store providerFilter bucketFilter prefixFilter limit rows ↔
      rows = (matchingCandidates store providerFilter bucketFilter prefixFilter).rows.take
        limit := by
  constructor
  · exact FaithfulJoin.first
  · intro hfirst
    have hcandidate : ∀ row ∈ rows,
        objectReconcileCandidateForKey store row.bucket row.key = .ok (some row) ∧
          FilterSatisfied providerFilter bucketFilter prefixFilter row := by
      intro row hrow
      rw [hfirst] at hrow
      have hfind := Table.find?_eq_some.mpr ⟨List.mem_of_mem_take hrow, rfl⟩
      rw [find?_matchingCandidates] at hfind
      exact matchingCandidate_eq_some.mp hfind
    refine ⟨?_, fun row hrow => (hcandidate row hrow).1, fun row hrow => (hcandidate row hrow).2,
      hfirst⟩
    intro row hrow
    exact (key_of_objectReconcileCandidateForKey (hcandidate row hrow).1).2.2

/-- **Reconcile candidates**: the rows are the first `limit` candidates that the filters keep
exactly when each misjoined key comes after `limit` of them. -/
theorem faithfulJoin_iff {rows : List ObjectReconcileCandidateRecord}
    (h : objectReconcileCandidateRecords store providerFilter bucketFilter prefixFilter limit =
      .ok rows) :
    FaithfulJoin store providerFilter bucketFilter prefixFilter limit rows ↔
      ∀ bucket key, Misjoined store providerFilter bucketFilter prefixFilter limit bucket key →
        limit ≤ ((matchingCandidates store providerFilter bucketFilter prefixFilter).rows.filter
          (fun row => decide (objectKey row.bucket row.key < objectKey bucket key))).length := by
  obtain ⟨hparsed, byKey, rfl, hjoined⟩ := objectReconcileCandidateRecords_eq_ok h
  rw [faithfulJoin_iff_first, Table.take_rows_eq_iff]
  have hdiff : ∀ bucket key, byKey.find? (objectKey bucket key) ≠
      (matchingCandidates store providerFilter bucketFilter prefixFilter).find?
        (objectKey bucket key) ↔
      Misjoined store providerFilter bucketFilter prefixFilter limit bucket key := by
    intro bucket key
    rw [hjoined, find?_matchingCandidates]
    exact joined_ne_matchingCandidate_iff hparsed
  constructor
  · intro hall bucket key hmisjoined
    exact hall (objectKey bucket key) ((hdiff bucket key).mpr hmisjoined)
  · intro hall k hne
    exact hall (ofLex k).1 (ofLex k).2 ((hdiff (ofLex k).1 (ofLex k).2).mp hne)

/-- A store with one placed object. -/
def placedObject : MetadataStore :=
  (MetadataStore.openFresh {}).upsertObjectPlacement "mobile" "photos" "a.png" 1

def placedRow : ObjectReconcileCandidateRecord where
  bucket := "photos"
  key := "a.png"
  placement := some ⟨"mobile", "photos", "a.png", 1⟩

theorem placedObject_faithfulJoin :
    FaithfulJoin placedObject (some "mobile") none (some "a") 10 [placedRow] := by
  have hrows : objectReconcileCandidateRecords placedObject (some "mobile") none (some "a") 10 =
      .ok [placedRow] := by decide +kernel
  rw [faithfulJoin_iff hrows]
  intro bucket key hmisjoined
  exfalso
  unfold Misjoined at hmisjoined
  by_cases hkey : objectKey "photos" "a.png" = objectKey bucket key
  · obtain ⟨rfl, rfl⟩ := objectKey_inj.mp hkey
    have hplacement : placedObject.objectPlacement "photos" "a.png" =
        some ⟨"mobile", "photos", "a.png", 1⟩ := by decide +kernel
    have hlisted : Listed placedObject (some "mobile") none (some "a") 10
        ⟨"mobile", "photos", "a.png", 1⟩ := by decide +kernel
    rw [hplacement] at hmisjoined
    dsimp only at hmisjoined
    rw [if_neg (by decide +kernel), if_pos hlisted] at hmisjoined
    exact hmisjoined (by decide +kernel)
  · -- no table has another key
    have hnone : placedObject.objectPlacement bucket key = none := by
      rw [MetadataStore.objectPlacement, placedObject, MetadataStore.upsertObjectPlacement,
        Table.find?_upsert, if_neg hkey]
      rfl
    have hlogical : placedObject.logicalObject bucket key = none := rfl
    have hplan : placedObject.objectProtectionPlan bucket key = none := rfl
    rw [hnone, hlogical, hplan] at hmisjoined
    simp at hmisjoined

/-- A store whose one object is placed with OneDrive and has a logical record. -/
def hiddenPlacement : MetadataStore :=
  (onePlacement "a.png").upsertLogicalObject
    { bucket := "photos"
      key := "a.png"
      etag := none
      applicationId := none
      encrypted := false
      encryptionProfileId := none
      algorithm := none
      keyId := none
      keySourceKind := none
      keySourceRef := none
      chunkPlaintextBytes := none
      plaintextSize := 1
      storedSize := 1
      logicalContentType := none
      updatedAtUnixMs := 1 }

/-- Its row has no placement although one is stored, and the lookup of its key has no row. -/
theorem hiddenPlacement_misjoined :
    ∃ row, objectReconcileCandidateRecords hiddenPlacement none none none 10 = .ok [row] ∧
      row.bucket = "photos" ∧ row.key = "a.png" ∧ row.placement = none ∧
      (hiddenPlacement.objectPlacement "photos" "a.png").isSome ∧
      objectReconcileCandidateForKey hiddenPlacement "photos" "a.png" = .ok none ∧
      ¬ FaithfulJoin hiddenPlacement none none none 10 [row] := by
  have hrows : objectReconcileCandidateRecords hiddenPlacement none none none 10 =
      .ok [{ bucket := "photos", key := "a.png",
             logical := hiddenPlacement.logicalObject "photos" "a.png" }] := by
    decide +kernel
  have hlookup : objectReconcileCandidateForKey hiddenPlacement "photos" "a.png" = .ok none := by
    decide +kernel
  refine ⟨_, hrows, rfl, rfl, rfl, by decide +kernel, hlookup, ?_⟩
  intro hfaithful
  have hagrees := hfaithful.agrees _ List.mem_cons_self
  rw [hlookup] at hagrees
  cases hagrees

end Rows

end Netdisk2Blob.Gateway
