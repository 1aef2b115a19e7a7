import Netdisk2Blob.Metadata.Objects

/-!
# Backup Operations of the Metadata Store

The update of the log state after a backup, and `replace_backup_state`, which puts the
tables of a backup in place of those of the store in one transaction.

## Contents

- `updateGatewayWriteAheadLogCheckpointLsn`
- `replaceBackupState`: it succeeds when no two rows of a table have one key
  (`replaceBackupState_eq_some_iff`), and what its tables hold then
-/

namespace Netdisk2Blob.Metadata

open Library Replication

namespace MetadataStore

/-! ## Section 1: The checkpoint -/

def updateGatewayWriteAheadLogCheckpointLsn (store : MetadataStore)
    (checkpointLsn updatedAtUnixMs : Nat) : MetadataStore :=
  let state := store.gatewayWriteAheadLogStateRecord
  store.upsertGatewayWriteAheadLogState
    { nextLsn := max state.nextLsn (saturatingAddU64 checkpointLsn 1)
      lastCheckpointLsn := some checkpointLsn
      lastReplayedLsn :=
        (some (max (state.lastReplayedLsn.getD 0) checkpointLsn)).filter (fun value => 0 < value)
      updatedAtUnixMs := updatedAtUnixMs }

/-! ## Section 2: Replacing the tables -/

/-- The transaction of a restore. Deleting the jobs takes every dead letter with them; a row
whose key is taken makes the transaction fail. -/
def replaceBackupState (store : MetadataStore) (objectPlacements : List ObjectPlacementRecord)
    (logicalObjects : List LogicalObjectRecord)
    (objectProtectionPlans : List ObjectProtectionPlanRecord)
    (pendingReplicationJobs : List ReplicationJob)
    (gatewayWriteAheadLogState : GatewayWriteAheadLogStateRecord) : Option MetadataStore := do
  let emptied : MetadataStore :=
    { store with
      replicationJobs := ∅
      replicationDeadLetters := ∅
      objectPlacements := ∅
      logicalObjects := ∅
      objectProtectionPlans := ∅
      gatewayWriteAheadLogState := none }
  let withJobs := emptied.enqueueJobs pendingReplicationJobs
  let placements ← withJobs.objectPlacements.insertAll objectPlacements
  let logicals ← withJobs.logicalObjects.insertAll logicalObjects
  let plans ← withJobs.objectProtectionPlans.insertAll objectProtectionPlans
  some (({ withJobs with
    objectPlacements := placements
    logicalObjects := logicals
    objectProtectionPlans := plans } : MetadataStore).upsertGatewayWriteAheadLogState
      gatewayWriteAheadLogState)

section Replace

variable {store store' : MetadataStore} {placements : List ObjectPlacementRecord}
  {logicals : List LogicalObjectRecord} {plans : List ObjectProtectionPlanRecord}
  {jobs : List ReplicationJob} {walState : GatewayWriteAheadLogStateRecord}

/-- What the store holds after a restore. -/
structure Replaced (store : MetadataStore) (placements : List ObjectPlacementRecord)
    (logicals : List LogicalObjectRecord) (plans : List ObjectProtectionPlanRecord)
    (jobs : List ReplicationJob) (walState : GatewayWriteAheadLogStateRecord)
    (store' : MetadataStore) : Prop where
  placements_eq : (∅ : Table ObjectPlacementRecord _).insertAll placements =
    some store'.objectPlacements
  logicals_eq : (∅ : Table LogicalObjectRecord _).insertAll logicals = some store'.logicalObjects
  plans_eq : (∅ : Table ObjectProtectionPlanRecord _).insertAll plans =
    some store'.objectProtectionPlans
  jobs_eq : store'.replicationJobs = ((openFresh store.retention).enqueueJobs jobs).replicationJobs
  deadLetters_eq : store'.replicationDeadLetters = ∅
  walState_eq : store'.gatewayWriteAheadLogState =
    some { walState with nextLsn := max walState.nextLsn 1 }
  retention_eq : store'.retention = store.retention

/-- Writing jobs writes no other table, and does not look at one. -/
theorem enqueueJobs_of_tables (store : MetadataStore) (jobs : List ReplicationJob)
    (hjobs : store.replicationJobs = ∅) :
    (store.enqueueJobs jobs).replicationJobs =
        ((openFresh store.retention).enqueueJobs jobs).replicationJobs ∧
      (store.enqueueJobs jobs).replicationDeadLetters = store.replicationDeadLetters ∧
      (store.enqueueJobs jobs).retention = store.retention := by
  -- induction on the jobs, from any two stores with the same jobs
  have hsame : ∀ (jobs : List ReplicationJob) (a b : MetadataStore),
      a.replicationJobs = b.replicationJobs →
      (a.enqueueJobs jobs).replicationJobs = (b.enqueueJobs jobs).replicationJobs ∧
        (a.enqueueJobs jobs).replicationDeadLetters = a.replicationDeadLetters ∧
        (a.enqueueJobs jobs).retention = a.retention := by
    intro jobs
    induction jobs with
    | nil => exact fun a b h => ⟨h, rfl, rfl⟩
    | cons job jobs ih =>
      intro a b h
      have hupsert : (a.upsertJob job).replicationJobs = (b.upsertJob job).replicationJobs := by
        rw [upsertJob, upsertJob, h]
      exact ih (a.upsertJob job) (b.upsertJob job) hupsert
  exact hsame jobs store (openFresh store.retention) hjobs

/-- The three tables that a restore fills start empty. -/
theorem replaceBackupState_eq (store : MetadataStore) :
    store.replaceBackupState placements logicals plans jobs walState =
      ((∅ : Table ObjectPlacementRecord _).insertAll placements).bind fun newPlacements =>
        ((∅ : Table LogicalObjectRecord _).insertAll logicals).bind fun newLogicals =>
          ((∅ : Table ObjectProtectionPlanRecord _).insertAll plans).bind fun newPlans =>
            some
              { replicationJobs :=
                  ((openFresh store.retention).enqueueJobs jobs).replicationJobs
                replicationDeadLetters := ∅
                objectPlacements := newPlacements
                logicalObjects := newLogicals
                objectProtectionPlans := newPlans
                gatewayWriteAheadLogState :=
                  some { walState with nextLsn := max walState.nextLsn 1 }
                retention := store.retention } := by
  unfold replaceBackupState
  let emptied : MetadataStore :=
    { store with
      replicationJobs := ∅
      replicationDeadLetters := ∅
      objectPlacements := ∅
      logicalObjects := ∅
      objectProtectionPlans := ∅
      gatewayWriteAheadLogState := none }
  obtain ⟨hplacements, hlogicals, hplans, -⟩ := enqueueJobs_objectTables emptied jobs
  obtain ⟨hjobs, hletters, hretention⟩ := enqueueJobs_of_tables emptied jobs rfl
  simp only [upsertGatewayWriteAheadLogState, Option.bind_eq_bind]
  rw [hplacements, hlogicals, hplans, hjobs, hletters, hretention]

/-- A restore, as what the store holds after it. -/
theorem replaceBackupState_ok
    (h : store.replaceBackupState placements logicals plans jobs walState = some store') :
    Replaced store placements logicals plans jobs walState store' := by
  rw [replaceBackupState_eq] at h
  obtain ⟨newPlacements, hplacements, h⟩ := Option.bind_eq_some_iff.mp h
  obtain ⟨newLogicals, hlogicals, h⟩ := Option.bind_eq_some_iff.mp h
  obtain ⟨newPlans, hplans, h⟩ := Option.bind_eq_some_iff.mp h
  obtain rfl := Option.some.inj h
  exact ⟨hplacements, hlogicals, hplans, rfl, rfl, rfl, rfl⟩

/-- A restore succeeds when no two rows of a table have one key. -/
theorem replaceBackupState_eq_some_iff :
    (∃ store', store.replaceBackupState placements logicals plans jobs walState = some store') ↔
      (placements.map fun row => objectKey row.bucket row.key).Nodup ∧
      (logicals.map fun row => objectKey row.bucket row.key).Nodup ∧
      (plans.map fun row => objectKey row.bucket row.key).Nodup := by
  have hempty : ∀ {α : Type} {key : α → String ×ₗ String} (rows : List α),
      (∃ u, (∅ : Table α key).insertAll rows = some u) ↔ (rows.map key).Nodup := by
    intro α key rows
    rw [Table.insertAll_eq_some_iff]
    exact and_iff_left fun _ _ => rfl
  rw [← hempty placements, ← hempty logicals, ← hempty plans]
  constructor
  · intro ⟨store', h⟩
    have hreplaced := replaceBackupState_ok h
    exact ⟨⟨_, hreplaced.placements_eq⟩, ⟨_, hreplaced.logicals_eq⟩, ⟨_, hreplaced.plans_eq⟩⟩
  · intro ⟨⟨newPlacements, hplacements⟩, ⟨newLogicals, hlogicals⟩, ⟨newPlans, hplans⟩⟩
    rw [replaceBackupState_eq, hplacements, hlogicals, hplans]
    exact ⟨_, rfl⟩

end Replace

end MetadataStore

end Netdisk2Blob.Metadata
