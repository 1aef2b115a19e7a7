import Netdisk2Blob.Metadata.Queries

/-!
# Object Metadata

The per-object tables of `MetadataStore` (placement, logical object and protection plan
of a key) and the one row of the gateway write-ahead log state.

## Contents

- the upsert, delete and lookup of each table
- `objectMetadata`: the three rows of one key, and what each write does to them
- `allocateGatewayWriteAheadLogLsn`: the counter of log records
- `updateGatewayWriteAheadLogReplayedLsn`: the high-water mark of replay, which never
  goes down (`update_lastReplayedLsn`)
-/

namespace Netdisk2Blob.Metadata

open Library Replication

namespace MetadataStore

/-! ## Section 1: Placements, logical objects, protection plans -/

def upsertObjectPlacement (store : MetadataStore) (provider bucket key : String)
    (updatedAtUnixMs : Nat) : MetadataStore :=
  { store with
    objectPlacements :=
      store.objectPlacements.upsert
        { provider := provider, bucket := bucket, key := key, updatedAtUnixMs := updatedAtUnixMs } }

def deleteObjectPlacement (store : MetadataStore) (bucket key : String) : MetadataStore :=
  { store with
    objectPlacements :=
      store.objectPlacements.delete (fun row => decide (row.bucket = bucket ∧ row.key = key)) }

def objectPlacement (store : MetadataStore) (bucket key : String) :
    Option ObjectPlacementRecord :=
  store.objectPlacements.find? (objectKey bucket key)

def upsertLogicalObject (store : MetadataStore) (record : LogicalObjectRecord) :
    MetadataStore :=
  { store with logicalObjects := store.logicalObjects.upsert record }

def deleteLogicalObject (store : MetadataStore) (bucket key : String) : MetadataStore :=
  { store with
    logicalObjects :=
      store.logicalObjects.delete (fun row => decide (row.bucket = bucket ∧ row.key = key)) }

def logicalObject (store : MetadataStore) (bucket key : String) :
    Option LogicalObjectRecord :=
  store.logicalObjects.find? (objectKey bucket key)

def upsertObjectProtectionPlan (store : MetadataStore) (record : ObjectProtectionPlanRecord) :
    MetadataStore :=
  { store with objectProtectionPlans := store.objectProtectionPlans.upsert record }

def deleteObjectProtectionPlan (store : MetadataStore) (bucket key : String) :
    MetadataStore :=
  { store with
    objectProtectionPlans :=
      store.objectProtectionPlans.delete
        (fun row => decide (row.bucket = bucket ∧ row.key = key)) }

def objectProtectionPlan (store : MetadataStore) (bucket key : String) :
    Option ObjectProtectionPlanRecord :=
  store.objectProtectionPlans.find? (objectKey bucket key)

/-- What the store knows about one object. -/
structure ObjectMetadata where
  placement : Option ObjectPlacementRecord
  logical : Option LogicalObjectRecord
  protectionPlan : Option ObjectProtectionPlanRecord
  deriving DecidableEq, Repr

def objectMetadata (store : MetadataStore) (bucket key : String) : ObjectMetadata where
  placement := store.objectPlacement bucket key
  logical := store.logicalObject bucket key
  protectionPlan := store.objectProtectionPlan bucket key

/-! ## Section 2: The log state -/

/-- The state row; a database without the row reads as its default. -/
def gatewayWriteAheadLogStateRecord (store : MetadataStore) : GatewayWriteAheadLogStateRecord :=
  store.gatewayWriteAheadLogState.getD {}

def gatewayWriteAheadLogReplayFloorLsn (store : MetadataStore) : Option Nat :=
  let state := store.gatewayWriteAheadLogStateRecord
  state.lastReplayedLsn.or state.lastCheckpointLsn

/-- The write of the state row, with `next_lsn` at least one. -/
def upsertGatewayWriteAheadLogState (store : MetadataStore)
    (record : GatewayWriteAheadLogStateRecord) : MetadataStore :=
  { store with
    gatewayWriteAheadLogState := some { record with nextLsn := max record.nextLsn 1 } }

def updateGatewayWriteAheadLogReplayedLsn (store : MetadataStore)
    (replayedLsn updatedAtUnixMs : Nat) : MetadataStore :=
  let state := store.gatewayWriteAheadLogStateRecord
  store.upsertGatewayWriteAheadLogState
    { nextLsn := max state.nextLsn (saturatingAddU64 replayedLsn 1)
      lastCheckpointLsn := state.lastCheckpointLsn
      lastReplayedLsn :=
        (some (max (state.lastReplayedLsn.getD 0) replayedLsn)).filter (fun value => 0 < value)
      updatedAtUnixMs := updatedAtUnixMs }

/-- The next LSN is given out once. -/
def allocateGatewayWriteAheadLogLsn (store : MetadataStore) (updatedAtUnixMs : Nat) :
    Nat × MetadataStore :=
  let state := store.gatewayWriteAheadLogStateRecord
  let allocatedLsn := max state.nextLsn 1
  (allocatedLsn,
    store.upsertGatewayWriteAheadLogState
      { nextLsn := saturatingAddU64 allocatedLsn 1
        lastCheckpointLsn := state.lastCheckpointLsn
        lastReplayedLsn := state.lastReplayedLsn
        updatedAtUnixMs := updatedAtUnixMs })

/-- The high-water mark after an update is the larger of the old one and the new LSN. -/
theorem update_lastReplayedLsn (store : MetadataStore) {lsn : Nat} (now : Nat)
    (hpos : 0 < lsn) :
    (store.updateGatewayWriteAheadLogReplayedLsn lsn
      now).gatewayWriteAheadLogStateRecord.lastReplayedLsn =
      some (max (store.gatewayWriteAheadLogStateRecord.lastReplayedLsn.getD 0) lsn) := by
  have hmax : 0 < max (store.gatewayWriteAheadLogStateRecord.lastReplayedLsn.getD 0) lsn :=
    lt_max_of_lt_right hpos
  change (some (max (store.gatewayWriteAheadLogStateRecord.lastReplayedLsn.getD 0) lsn)).filter
    (fun value => decide (0 < value)) = _
  rw [Option.filter_some, if_pos (by simpa using hmax)]

/-! ## Section 3: Frames -/

section Frames

variable {store : MetadataStore} {bucket key : String}

/-- Metadata is what the three tables say. -/
theorem objectMetadata_congr {store' : MetadataStore}
    (hplacements : store'.objectPlacements = store.objectPlacements)
    (hlogical : store'.logicalObjects = store.logicalObjects)
    (hplans : store'.objectProtectionPlans = store.objectProtectionPlans) :
    store'.objectMetadata bucket key = store.objectMetadata bucket key := by
  simp only [objectMetadata, objectPlacement, logicalObject, objectProtectionPlan,
    hplacements, hlogical, hplans]

/-- The rows of a key after each write to the tables of that key. -/
@[simp] theorem objectMetadata_upsertObjectPlacement (provider : String) (now : Nat) :
    (store.upsertObjectPlacement provider bucket key now).objectMetadata bucket key =
      { store.objectMetadata bucket key with placement := some ⟨provider, bucket, key, now⟩ } := by
  show ObjectMetadata.mk (Table.find? (Table.upsert _ _) _) _ _ = _
  rw [Table.find?_upsert, if_pos rfl]
  rfl

@[simp] theorem objectMetadata_deleteObjectPlacement :
    (store.deleteObjectPlacement bucket key).objectMetadata bucket key =
      { store.objectMetadata bucket key with placement := none } := by
  show ObjectMetadata.mk (Table.find? (Table.delete _ _) _) _ _ = _
  rw [Table.find?_delete_self]
  · rfl
  · intro row hrow
    simpa using objectKey_inj.mp hrow

theorem objectMetadata_upsertLogicalObject {record : LogicalObjectRecord}
    (hrecord : record.bucket = bucket ∧ record.key = key) :
    (store.upsertLogicalObject record).objectMetadata bucket key =
      { store.objectMetadata bucket key with logical := some record } := by
  show ObjectMetadata.mk _ (Table.find? (Table.upsert _ _) _) _ = _
  rw [Table.find?_upsert, if_pos (objectKey_inj.mpr hrecord)]
  rfl

@[simp] theorem objectMetadata_deleteLogicalObject :
    (store.deleteLogicalObject bucket key).objectMetadata bucket key =
      { store.objectMetadata bucket key with logical := none } := by
  show ObjectMetadata.mk _ (Table.find? (Table.delete _ _) _) _ = _
  rw [Table.find?_delete_self]
  · rfl
  · intro row hrow
    simpa using objectKey_inj.mp hrow

theorem objectMetadata_upsertObjectProtectionPlan {record : ObjectProtectionPlanRecord}
    (hrecord : record.bucket = bucket ∧ record.key = key) :
    (store.upsertObjectProtectionPlan record).objectMetadata bucket key =
      { store.objectMetadata bucket key with protectionPlan := some record } := by
  show ObjectMetadata.mk _ _ (Table.find? (Table.upsert _ _) _) = _
  rw [Table.find?_upsert, if_pos (objectKey_inj.mpr hrecord)]
  rfl

@[simp] theorem objectMetadata_deleteObjectProtectionPlan :
    (store.deleteObjectProtectionPlan bucket key).objectMetadata bucket key =
      { store.objectMetadata bucket key with protectionPlan := none } := by
  show ObjectMetadata.mk _ _ (Table.find? (Table.delete _ _) _) = _
  rw [Table.find?_delete_self]
  · rfl
  · intro row hrow
    simpa using objectKey_inj.mp hrow

/-- The rows of a key after a write to the tables of another key. -/
theorem objectMetadata_upsertObjectPlacement_ne {bucket' key' : String}
    (h : ¬ (bucket' = bucket ∧ key' = key)) (provider : String) (now : Nat) :
    (store.upsertObjectPlacement provider bucket' key' now).objectMetadata bucket key =
      store.objectMetadata bucket key := by
  show ObjectMetadata.mk (Table.find? (Table.upsert _ _) _) _ _ = _
  rw [Table.find?_upsert, if_neg (fun heq => h (objectKey_inj.mp heq))]
  rfl

theorem objectMetadata_upsertLogicalObject_ne {record : LogicalObjectRecord}
    (h : ¬ (record.bucket = bucket ∧ record.key = key)) :
    (store.upsertLogicalObject record).objectMetadata bucket key =
      store.objectMetadata bucket key := by
  show ObjectMetadata.mk _ (Table.find? (Table.upsert _ _) _) _ = _
  rw [Table.find?_upsert, if_neg (fun heq => h (objectKey_inj.mp heq))]
  rfl

theorem objectMetadata_upsertObjectProtectionPlan_ne {record : ObjectProtectionPlanRecord}
    (h : ¬ (record.bucket = bucket ∧ record.key = key)) :
    (store.upsertObjectProtectionPlan record).objectMetadata bucket key =
      store.objectMetadata bucket key := by
  show ObjectMetadata.mk _ _ (Table.find? (Table.upsert _ _) _) = _
  rw [Table.find?_upsert, if_neg (fun heq => h (objectKey_inj.mp heq))]
  rfl

/-- Rows of one key are not rows of another. -/
theorem key_ne_of_row {bucket' key' : String} (h : ¬ (bucket' = bucket ∧ key' = key))
    {rowBucket rowKey : String} (hrow : objectKey rowBucket rowKey = objectKey bucket key) :
    decide (rowBucket = bucket' ∧ rowKey = key') = false := by
  apply decide_eq_false
  intro hsame
  obtain ⟨hbucket, hkey⟩ := objectKey_inj.mp hrow
  exact h ⟨hsame.1.symm.trans hbucket, hsame.2.symm.trans hkey⟩

theorem objectMetadata_deleteObjectPlacement_ne {bucket' key' : String}
    (h : ¬ (bucket' = bucket ∧ key' = key)) :
    (store.deleteObjectPlacement bucket' key').objectMetadata bucket key =
      store.objectMetadata bucket key := by
  show ObjectMetadata.mk (Table.find? (Table.delete _ _) _) _ _ = _
  rw [Table.find?_delete (fun row _ hrow => key_ne_of_row h hrow)]
  rfl

theorem objectMetadata_deleteLogicalObject_ne {bucket' key' : String}
    (h : ¬ (bucket' = bucket ∧ key' = key)) :
    (store.deleteLogicalObject bucket' key').objectMetadata bucket key =
      store.objectMetadata bucket key := by
  show ObjectMetadata.mk _ (Table.find? (Table.delete _ _) _) _ = _
  rw [Table.find?_delete (fun row _ hrow => key_ne_of_row h hrow)]
  rfl

theorem objectMetadata_deleteObjectProtectionPlan_ne {bucket' key' : String}
    (h : ¬ (bucket' = bucket ∧ key' = key)) :
    (store.deleteObjectProtectionPlan bucket' key').objectMetadata bucket key =
      store.objectMetadata bucket key := by
  show ObjectMetadata.mk _ _ (Table.find? (Table.delete _ _) _) = _
  rw [Table.find?_delete (fun row _ hrow => key_ne_of_row h hrow)]
  rfl

/-- The rows of a key are the rows of that key. -/
theorem logicalObject_key {record : LogicalObjectRecord}
    (h : store.logicalObject bucket key = some record) :
    record.bucket = bucket ∧ record.key = key :=
  objectKey_inj.mp (Table.find?_eq_some.mp h).2

theorem objectPlacement_key {record : ObjectPlacementRecord}
    (h : store.objectPlacement bucket key = some record) :
    record.bucket = bucket ∧ record.key = key :=
  objectKey_inj.mp (Table.find?_eq_some.mp h).2

theorem objectProtectionPlan_key {record : ObjectProtectionPlanRecord}
    (h : store.objectProtectionPlan bucket key = some record) :
    record.bucket = bucket ∧ record.key = key :=
  objectKey_inj.mp (Table.find?_eq_some.mp h).2

/-- Jobs are kept apart from the objects they are about. -/
theorem enqueueJobs_objectTables (store : MetadataStore) (jobs : List ReplicationJob) :
    (store.enqueueJobs jobs).objectPlacements = store.objectPlacements ∧
      (store.enqueueJobs jobs).logicalObjects = store.logicalObjects ∧
      (store.enqueueJobs jobs).objectProtectionPlans = store.objectProtectionPlans ∧
      (store.enqueueJobs jobs).gatewayWriteAheadLogState = store.gatewayWriteAheadLogState := by
  induction jobs generalizing store with
  | nil => exact ⟨rfl, rfl, rfl, rfl⟩
  | cons job jobs ih => exact ih (store.upsertJob job)

@[simp] theorem objectMetadata_enqueueJobs (jobs : List ReplicationJob) :
    (store.enqueueJobs jobs).objectMetadata bucket key = store.objectMetadata bucket key := by
  obtain ⟨hplacements, hlogical, hplans, -⟩ := enqueueJobs_objectTables store jobs
  exact objectMetadata_congr hplacements hlogical hplans

end Frames

end MetadataStore

end Netdisk2Blob.Metadata
