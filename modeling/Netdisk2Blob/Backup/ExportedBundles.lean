import Netdisk2Blob.Backup.LogCounters

/-!
# Exported Bundles

An export reads five tables one after another, each in a transaction of its own, while
requests write them. What it has read is accepted by the validation when the tables fit
together across the five reads, and an accepted export is restored as it was read.

## Contents

- `exportMetadata`, `restored_exports_same`: a restore followed by an export
- `ExportSystem`: writes and reads in any order
- `ReadGuard`, `exports_restorable`: the reads whose bundles are accepted
- `OrderlyWrite`, `guarded_of_orderly`: writes after which every read meets its guard
-/

namespace Netdisk2Blob.Backup

open Library Text Blob Replication Metadata

/-! ## Section 1: Reads -/

/-- The five reads of an export without a write between them. -/
def exportMetadata (store : MetadataStore) : GatewayBackupMetadataPayload where
  objectPlacements := store.objectPlacements.rows
  logicalObjects := store.logicalObjects.rows
  objectProtectionPlans := store.objectProtectionPlans.rows
  pendingReplicationJobs := store.loadPendingJobs none
  gatewayWriteAheadLogState := store.gatewayWriteAheadLogStateRecord

/-- A restore into any store, followed by an export, gives the same tables. -/
def RestoresSame (metadata : GatewayBackupMetadataPayload) : Prop :=
  ∀ store : MetadataStore, ∃ store',
    store.replaceBackupState metadata.objectPlacements metadata.logicalObjects
      metadata.objectProtectionPlans metadata.pendingReplicationJobs
      metadata.gatewayWriteAheadLogState = some store' ∧ exportMetadata store' = metadata

/-- Tables as reads of a store give them: rows in the order of their keys, and jobs that can
be run. -/
structure ReadFromTables (metadata : GatewayBackupMetadataPayload) : Prop where
  placements : ∃ table : Table ObjectPlacementRecord (fun row => objectKey row.bucket row.key),
    metadata.objectPlacements = table.rows
  logicals : ∃ table : Table LogicalObjectRecord (fun row => objectKey row.bucket row.key),
    metadata.logicalObjects = table.rows
  plans : ∃ table : Table ObjectProtectionPlanRecord (fun row => objectKey row.bucket row.key),
    metadata.objectProtectionPlans = table.rows
  jobs : ∃ table : Table ReplicationJob (fun job => job.jobId),
    metadata.pendingReplicationJobs = table.rows.filter (fun job => job.status.isRunnable)

/-- The jobs of a restore, read again. -/
theorem loadPendingJobs_enqueueJobs {retention : MetadataRetentionPolicy}
    {table : Table ReplicationJob (fun job => job.jobId)} {jobs : List ReplicationJob}
    (hjobs : jobs = table.rows.filter (fun job => job.status.isRunnable)) :
    ((MetadataStore.openFresh retention).enqueueJobs jobs).replicationJobs.rows = jobs := by
  -- both lists are in the order of the ids and have the same members
  have hsorted : jobs.Pairwise (fun a b => a.jobId < b.jobId) := by
    rw [hjobs]
    exact table.sorted.sublist List.filter_sublist
  have hnodup : (jobs.map (·.jobId)).Nodup :=
    List.pairwise_map.mpr (hsorted.imp fun hlt => ne_of_lt hlt)
  have hsame : ((MetadataStore.openFresh retention).enqueueJobs jobs).replicationJobs =
      (⟨jobs, hsorted⟩ : Table ReplicationJob (fun job => job.jobId)) := by
    apply Table.eq_of_mem_iff
    intro job
    rw [MetadataStore.mem_enqueueJobs hnodup]
    constructor
    · rintro (hmem | ⟨hmem, -⟩)
      · exact hmem
      · exact absurd hmem (Table.not_mem_empty _)
    · exact Or.inl
  rw [hsame]

/-- What was read from tables, and has counters above zero, is restored as it was read. -/
theorem restored_exports_same {metadata : GatewayBackupMetadataPayload}
    (hread : ReadFromTables metadata)
    (hnext : 0 < metadata.gatewayWriteAheadLogState.nextLsn) : RestoresSame metadata := by
  intro store
  obtain ⟨⟨placements, hplacements⟩, ⟨logicals, hlogicals⟩, ⟨plans, hplans⟩, ⟨jobs, hjobs⟩⟩ :=
    hread
  obtain ⟨store', hstore'⟩ : ∃ store', store.replaceBackupState metadata.objectPlacements
      metadata.logicalObjects metadata.objectProtectionPlans metadata.pendingReplicationJobs
      metadata.gatewayWriteAheadLogState = some store' := by
    apply MetadataStore.replaceBackupState_eq_some_iff.mpr
    rw [hplacements, hlogicals, hplans]
    exact ⟨Table.nodup_keys _, Table.nodup_keys _, Table.nodup_keys _⟩
  refine ⟨store', hstore', ?_⟩
  have hreplaced := MetadataStore.replaceBackupState_ok hstore'
  have hplacementRows : store'.objectPlacements.rows = metadata.objectPlacements := by
    have heq := hreplaced.placements_eq
    rw [hplacements, Table.insertAll_rows] at heq
    rw [← Option.some.inj heq, hplacements]
  have hlogicalRows : store'.logicalObjects.rows = metadata.logicalObjects := by
    have heq := hreplaced.logicals_eq
    rw [hlogicals, Table.insertAll_rows] at heq
    rw [← Option.some.inj heq, hlogicals]
  have hplanRows : store'.objectProtectionPlans.rows = metadata.objectProtectionPlans := by
    have heq := hreplaced.plans_eq
    rw [hplans, Table.insertAll_rows] at heq
    rw [← Option.some.inj heq, hplans]
  have hpending : store'.loadPendingJobs none = metadata.pendingReplicationJobs := by
    rw [MetadataStore.loadPendingJobs, hreplaced.jobs_eq]
    simp only [loadPendingJobs_enqueueJobs hjobs]
    rw [hjobs, List.filter_filter]
    simp
  have hcounters : store'.gatewayWriteAheadLogStateRecord =
      metadata.gatewayWriteAheadLogState := by
    rw [MetadataStore.gatewayWriteAheadLogStateRecord, hreplaced.walState_eq, Option.getD_some,
      Nat.max_eq_left hnext]
  rw [exportMetadata, hplacementRows, hlogicalRows, hplanRows, hpending, hcounters]

/-! ## Section 2: Writes and reads in any order -/

/-- A write of the tables that are exported, in a transaction of its own. -/
inductive MetadataWrite where
  | upsertObjectPlacement (provider bucket key : String) (now : Nat)
  | deleteObjectPlacement (bucket key : String)
  | upsertLogicalObject (record : LogicalObjectRecord)
  | deleteLogicalObject (bucket key : String)
  | upsertObjectProtectionPlan (record : ObjectProtectionPlanRecord)
  | deleteObjectProtectionPlan (bucket key : String)
  | saveJobs (jobs : List ReplicationJob)
  | removeJobs (jobIds : List Nat)
  | allocateLsn (now : Nat)
  | updateReplayedLsn (lsn now : Nat)
  | updateCheckpointLsn (lsn now : Nat)

def MetadataWrite.perform (store : MetadataStore) : MetadataWrite → MetadataStore
  | upsertObjectPlacement provider bucket key now =>
    store.upsertObjectPlacement provider bucket key now
  | deleteObjectPlacement bucket key => store.deleteObjectPlacement bucket key
  | upsertLogicalObject record => store.upsertLogicalObject record
  | deleteLogicalObject bucket key => store.deleteLogicalObject bucket key
  | upsertObjectProtectionPlan record => store.upsertObjectProtectionPlan record
  | deleteObjectProtectionPlan bucket key => store.deleteObjectProtectionPlan bucket key
  | saveJobs jobs => store.enqueueJobs jobs
  | removeJobs jobIds => store.deleteJobs jobIds
  | allocateLsn now => (store.allocateGatewayWriteAheadLogLsn now).2
  | updateReplayedLsn lsn now => store.updateGatewayWriteAheadLogReplayedLsn lsn now
  | updateCheckpointLsn lsn now => store.updateGatewayWriteAheadLogCheckpointLsn lsn now

/-- How far an export has read, and what. -/
inductive ExportPhase where
  | idle
  | placements (placements : List ObjectPlacementRecord)
  | logicals (placements : List ObjectPlacementRecord) (logicals : List LogicalObjectRecord)
  | plans (placements : List ObjectPlacementRecord) (logicals : List LogicalObjectRecord)
      (plans : List ObjectProtectionPlanRecord)
  | jobs (placements : List ObjectPlacementRecord) (logicals : List LogicalObjectRecord)
      (plans : List ObjectProtectionPlanRecord) (jobs : List ReplicationJob)

structure ExportSystem where
  store : MetadataStore
  phase : ExportPhase
  bundles : List GatewayBackupMetadataPayload

inductive ExportAction where
  | write (change : MetadataWrite)
  /-- the next of the five reads -/
  | read

namespace ExportSystem

def readNext (s : ExportSystem) : ExportSystem :=
  match s.phase with
  | .idle => { s with phase := .placements s.store.objectPlacements.rows }
  | .placements placements =>
    { s with phase := .logicals placements s.store.logicalObjects.rows }
  | .logicals placements logicals =>
    { s with phase := .plans placements logicals s.store.objectProtectionPlans.rows }
  | .plans placements logicals plans =>
    { s with phase := .jobs placements logicals plans (s.store.loadPendingJobs none) }
  | .jobs placements logicals plans jobs =>
    { s with
      phase := .idle
      bundles := s.bundles ++
        [⟨placements, logicals, plans, jobs, s.store.gatewayWriteAheadLogStateRecord⟩] }

def step (s : ExportSystem) : ExportAction → Option ExportSystem
  | .write change => some { s with store := change.perform s.store }
  | .read => some s.readNext

/-- Every bundle is accepted, and it is restored as it was read. -/
def BundlesRestorable (s : ExportSystem) : Prop :=
  ∀ bundle ∈ s.bundles,
    validateGatewayBackupMetadataPayload bundle = .ok () ∧ RestoresSame bundle

/-- The keys of the placements that were read. -/
def placed (placements : List ObjectPlacementRecord) : List (String × String) :=
  placements.map fun record => (record.bucket, record.key)

/-- What a read has to find in the store: logical records and plans of the objects whose
placements were read first, jobs that can be restored, and counters in their order. -/
def ReadGuard (s : ExportSystem) : Prop :=
  match s.phase with
  | .idle => True
  | .placements placements =>
    ∀ record ∈ s.store.logicalObjects, (record.bucket, record.key) ∈ placed placements
  | .logicals placements _ =>
    ∀ record ∈ s.store.objectProtectionPlans, (record.bucket, record.key) ∈ placed placements
  | .plans _ _ _ => ∀ job ∈ s.store.replicationJobs, job.status.isRunnable → RestorableJob job
  | .jobs _ _ _ _ => RestorableCounters s.store.gatewayWriteAheadLogStateRecord

def Guard (s : ExportSystem) : ExportAction → Prop
  | .write _ => True
  | .read => s.ReadGuard

end ExportSystem

/-! ## Section 3: Accepted bundles -/

section Accepted

/-- The rows of a table have different keys. -/
theorem objectKeys_nodup {α : Type} {bucket key : α → String}
    (table : Table α (fun row => objectKey (bucket row) (key row))) :
    (table.rows.map fun row => (bucket row, key row)).Nodup := by
  apply List.pairwise_map.mpr
  apply table.sorted.imp
  intro a b hlt heq
  exact absurd (congrArg toLex heq) (ne_of_lt hlt)

def PlacementsRead (placements : List ObjectPlacementRecord) : Prop :=
  ∃ table : Table ObjectPlacementRecord (fun row => objectKey row.bucket row.key),
    placements = table.rows

def LogicalsRead (placements : List ObjectPlacementRecord) (logicals : List LogicalObjectRecord) :
    Prop :=
  (∃ table : Table LogicalObjectRecord (fun row => objectKey row.bucket row.key),
    logicals = table.rows) ∧
    ∀ record ∈ logicals, (record.bucket, record.key) ∈ ExportSystem.placed placements

def PlansRead (placements : List ObjectPlacementRecord)
    (plans : List ObjectProtectionPlanRecord) : Prop :=
  (∃ table : Table ObjectProtectionPlanRecord (fun row => objectKey row.bucket row.key),
    plans = table.rows) ∧
    ∀ record ∈ plans, (record.bucket, record.key) ∈ ExportSystem.placed placements

def JobsRead (jobs : List ReplicationJob) : Prop :=
  (∃ table : Table ReplicationJob (fun job => job.jobId),
    jobs = table.rows.filter (fun job => job.status.isRunnable)) ∧
    ∀ job ∈ jobs, RestorableJob job

/-- What an export has read fits together so far. -/
def ReadSoFar : ExportPhase → Prop
  | .idle => True
  | .placements placements => PlacementsRead placements
  | .logicals placements logicals => PlacementsRead placements ∧ LogicalsRead placements logicals
  | .plans placements logicals plans =>
    PlacementsRead placements ∧ LogicalsRead placements logicals ∧ PlansRead placements plans
  | .jobs placements logicals plans jobs =>
    PlacementsRead placements ∧ LogicalsRead placements logicals ∧ PlansRead placements plans ∧
      JobsRead jobs

/-- The last read makes a bundle that is accepted and restored. -/
theorem bundle_restorable {placements : List ObjectPlacementRecord}
    {logicals : List LogicalObjectRecord} {plans : List ObjectProtectionPlanRecord}
    {jobs : List ReplicationJob} {wal : GatewayWriteAheadLogStateRecord}
    (h : ReadSoFar (.jobs placements logicals plans jobs)) (hwal : RestorableCounters wal) :
    validateGatewayBackupMetadataPayload ⟨placements, logicals, plans, jobs, wal⟩ = .ok () ∧
      RestoresSame ⟨placements, logicals, plans, jobs, wal⟩ := by
  obtain ⟨⟨placementTable, rfl⟩, ⟨⟨logicalTable, rfl⟩, hlogicals⟩, ⟨⟨planTable, rfl⟩, hplans⟩,
    ⟨⟨jobTable, rfl⟩, hjobs⟩⟩ := h
  refine ⟨validateGatewayBackupMetadataPayload_ok_iff.mpr ?_, ?_⟩
  · refine ⟨objectKeys_nodup placementTable, objectKeys_nodup logicalTable, ?_,
      objectKeys_nodup planTable, ?_, ?_, hjobs, hwal⟩
    · intro key hkey
      obtain ⟨record, hrecord, rfl⟩ := List.mem_map.mp hkey
      exact hlogicals record hrecord
    · intro key hkey
      obtain ⟨record, hrecord, rfl⟩ := List.mem_map.mp hkey
      exact hplans record hrecord
    · exact (Table.nodup_keys jobTable).sublist (List.filter_sublist.map _)
  · exact restored_exports_same
      ⟨⟨placementTable, rfl⟩, ⟨logicalTable, rfl⟩, ⟨planTable, rfl⟩, ⟨jobTable, rfl⟩⟩
      hwal.nextLsn_pos

end Accepted

namespace ExportSystem

/-- The bundles so far are restorable, and what is being read fits together. -/
structure Inv (s : ExportSystem) : Prop where
  bundles : s.BundlesRestorable
  reading : ReadSoFar s.phase

theorem inv_step (s : ExportSystem) (action : ExportAction) (s' : ExportSystem) (h : s.Inv)
    (hguard : s.Guard action) (hstep : s.step action = some s') : s'.Inv := by
  cases action with
  | write change =>
    obtain rfl := Option.some.inj hstep
    exact ⟨h.bundles, h.reading⟩
  | read =>
    obtain rfl := Option.some.inj hstep
    obtain ⟨store, phase, bundles⟩ := s
    obtain ⟨hbundles, hreading⟩ := h
    cases phase with
    | idle => exact ⟨hbundles, store.objectPlacements, rfl⟩
    | placements placements =>
      exact ⟨hbundles, hreading, ⟨store.logicalObjects, rfl⟩, hguard⟩
    | logicals placements logicals =>
      exact ⟨hbundles, hreading.1, hreading.2, ⟨store.objectProtectionPlans, rfl⟩, hguard⟩
    | plans placements logicals plans =>
      obtain ⟨hplacements, hlogicals, hplans⟩ := hreading
      refine ⟨hbundles, hplacements, hlogicals, hplans, ⟨store.replicationJobs, rfl⟩, ?_⟩
      intro job hjob
      obtain ⟨hmem, hrunnable⟩ := List.mem_filter.mp hjob
      exact hguard job hmem hrunnable
    | jobs placements logicals plans jobs =>
      refine ⟨?_, trivial⟩
      intro bundle hbundle
      rcases List.mem_append.mp hbundle with hold | hnew
      · exact hbundles bundle hold
      · rw [List.mem_singleton.mp hnew]
        exact bundle_restorable hreading hguard

/-- **Exports can be restored.** In a run whose reads meet their guards, every bundle is
accepted by the validation and restored as it was read. -/
theorem exports_restorable {s : ExportSystem} (hidle : s.phase = .idle) (hnone : s.bundles = [])
    (actions : List ExportAction) (hguarded : Guarded step Guard s actions) :
    Always step BundlesRestorable s actions := by
  have hinv : s.Inv := by
    refine ⟨?_, ?_⟩
    · intro bundle hbundle
      rw [hnone] at hbundle
      cases hbundle
    · rw [hidle]
      trivial
  exact always_of_guarded inv_step (fun _ h => h.bundles) hinv hguarded

section Samples

def sampleExportSystem : ExportSystem := ⟨MetadataStore.openFresh {}, .idle, []⟩

def sampleLogicalRecord : LogicalObjectRecord where
  bucket := "b"
  key := "o"
  etag := none
  applicationId := none
  encrypted := false
  encryptionProfileId := none
  algorithm := none
  keyId := none
  keySourceKind := none
  keySourceRef := none
  chunkPlaintextBytes := none
  plaintextSize := 1
  storedSize := 1
  logicalContentType := none
  updatedAtUnixMs := 1

/-- An object is written, and then the tables are read. -/
theorem exports_restorable_sample :
    Always step BundlesRestorable sampleExportSystem
      [.write (.upsertObjectPlacement "unicom" "b" "o" 1),
        .write (.upsertLogicalObject sampleLogicalRecord), .read, .read, .read, .read, .read] := by
  apply exports_restorable rfl rfl
  refine guarded_cons rfl trivial (guarded_cons rfl trivial (guarded_cons rfl trivial ?_))
  refine guarded_cons rfl ?_ (guarded_cons rfl ?_ (guarded_cons rfl ?_ (guarded_cons rfl ?_ trivial)))
  · intro record hrecord
    rw [List.mem_singleton.mp hrecord]
    exact List.mem_singleton_self _
  · exact fun record hrecord => absurd hrecord (Table.not_mem_empty _)
  · exact fun job hjob => absurd hjob (Table.not_mem_empty _)
  · exact ⟨Nat.one_pos, nofun, nofun⟩

/-- A new object is written between the first read and the second: its bundle is refused. -/
theorem interleaved_put_spoils_export :
    ∃ final, run step sampleExportSystem
        [.read, .write (.upsertObjectPlacement "unicom" "b" "o" 1),
          .write (.upsertLogicalObject sampleLogicalRecord), .read, .read, .read, .read] =
          some final ∧ ¬ final.BundlesRestorable := by
  refine ⟨_, rfl, ?_⟩
  intro hrestorable
  obtain ⟨haccepted, -⟩ := hrestorable _ (List.mem_singleton_self _)
  have hplaced := (validateGatewayBackupMetadataPayload_ok_iff.mp haccepted).logicals_placed
    ("b", "o") (List.mem_singleton_self _)
  cases hplaced

end Samples

/-! ### Orderly writes -/

/-- Every logical record and plan has its placement, and jobs and counters are such that they
can be restored. -/
structure Tidy (store : MetadataStore) : Prop where
  logicals : ∀ record ∈ store.logicalObjects,
    (store.objectPlacement record.bucket record.key).isSome
  plans : ∀ record ∈ store.objectProtectionPlans,
    (store.objectPlacement record.bucket record.key).isSome
  jobs : ∀ job ∈ store.replicationJobs, job.status.isRunnable → RestorableJob job
  counters : CountersValid store.gatewayWriteAheadLogStateRecord

/-- The placements that an export has read, while it is still to read the logical records, or
the plans. -/
def stillToRead (plans : Bool) : ExportPhase → Option (List ObjectPlacementRecord)
  | .placements placements => some placements
  | .logicals placements _ => if plans then some placements else none
  | _ => none

/-- The key counts as placed in the store, and in what the export has read if it is still to
read the row that is written. -/
def PlacedForWrite (s : ExportSystem) (plans : Bool) (bucket key : String) : Prop :=
  (s.store.objectPlacement bucket key).isSome ∧
    ∀ placements, stillToRead plans s.phase = some placements → (bucket, key) ∈ placed placements

/-- Placements are written first and deleted last, and no object that is new since an export
has read the placements gets a logical record or a plan before these are read. -/
def OrderlyWrite (s : ExportSystem) : ExportAction → Prop
  | .read => True
  | .write (.upsertObjectPlacement _ _ _ _) => True
  | .write (.deleteObjectPlacement bucket key) =>
    s.store.logicalObject bucket key = none ∧ s.store.objectProtectionPlan bucket key = none
  | .write (.upsertLogicalObject record) => s.PlacedForWrite false record.bucket record.key
  | .write (.deleteLogicalObject _ _) => True
  | .write (.upsertObjectProtectionPlan record) => s.PlacedForWrite true record.bucket record.key
  | .write (.deleteObjectProtectionPlan _ _) => True
  | .write (.saveJobs jobs) =>
    (jobs.map (·.jobId)).Nodup ∧ ∀ job ∈ jobs, job.status.isRunnable → RestorableJob job
  | .write (.removeJobs _) => True
  | .write (.allocateLsn _) => s.store.gatewayWriteAheadLogStateRecord.nextLsn < u64Max
  | .write (.updateReplayedLsn lsn _) => lsn < u64Max
  | .write (.updateCheckpointLsn lsn _) => lsn < u64Max

section Orderly

variable {store : MetadataStore} {s s' : ExportSystem}

theorem objectPlacement_mem {bucket key : String}
    (h : (store.objectPlacement bucket key).isSome) :
    (bucket, key) ∈ placed store.objectPlacements.rows := by
  obtain ⟨record, hrecord⟩ := Option.isSome_iff_exists.mp h
  obtain ⟨hmem, hkey⟩ := Table.find?_eq_some.mp hrecord
  obtain ⟨hbucket, hname⟩ := objectKey_inj.mp hkey
  exact List.mem_map.mpr ⟨record, hmem, by rw [hbucket, hname]⟩

/-- A new placement keeps the ones that are there. -/
theorem objectPlacement_upsert {provider bucket key bucket' key' : String} {now : Nat}
    (h : (store.objectPlacement bucket' key').isSome) :
    ((store.upsertObjectPlacement provider bucket key now).objectPlacement bucket'
      key').isSome := by
  rw [MetadataStore.objectPlacement, MetadataStore.upsertObjectPlacement, Table.find?_upsert]
  split_ifs
  · rfl
  · exact h

/-- A deletion keeps the placements of the other keys. -/
theorem objectPlacement_delete {bucket key bucket' key' : String}
    (hne : ¬ (bucket' = bucket ∧ key' = key))
    (h : (store.objectPlacement bucket' key').isSome) :
    ((store.deleteObjectPlacement bucket key).objectPlacement bucket' key').isSome := by
  rw [MetadataStore.objectPlacement, MetadataStore.deleteObjectPlacement, Table.find?_delete]
  · exact h
  · intro record _ hkey
    obtain ⟨rfl, rfl⟩ := objectKey_inj.mp hkey
    exact decide_eq_false hne

/-- What an orderly write leaves is tidy. -/
theorem tidy_write {change : MetadataWrite} (h : Tidy s.store)
    (hguard : s.OrderlyWrite (.write change)) : Tidy (change.perform s.store) := by
  cases change with
  | upsertObjectPlacement provider bucket key now =>
    exact ⟨fun record hrecord => objectPlacement_upsert (h.logicals record hrecord),
      fun record hrecord => objectPlacement_upsert (h.plans record hrecord), h.jobs, h.counters⟩
  | deleteObjectPlacement bucket key =>
    obtain ⟨hlogical, hplan⟩ := hguard
    refine ⟨?_, ?_, h.jobs, h.counters⟩
    · intro record hrecord
      apply objectPlacement_delete _ (h.logicals record hrecord)
      rintro ⟨rfl, rfl⟩
      exact Table.find?_eq_none.mp hlogical record hrecord rfl
    · intro record hrecord
      apply objectPlacement_delete _ (h.plans record hrecord)
      rintro ⟨rfl, rfl⟩
      exact Table.find?_eq_none.mp hplan record hrecord rfl
  | upsertLogicalObject record =>
    refine ⟨?_, h.plans, h.jobs, h.counters⟩
    intro other hother
    rcases Table.mem_upsert.mp hother with rfl | ⟨hmem, -⟩
    · exact hguard.1
    · exact h.logicals other hmem
  | deleteLogicalObject bucket key =>
    exact ⟨fun record hrecord => h.logicals record (Table.mem_delete.mp hrecord).1, h.plans,
      h.jobs, h.counters⟩
  | upsertObjectProtectionPlan record =>
    refine ⟨h.logicals, ?_, h.jobs, h.counters⟩
    intro other hother
    rcases Table.mem_upsert.mp hother with rfl | ⟨hmem, -⟩
    · exact hguard.1
    · exact h.plans other hmem
  | deleteObjectProtectionPlan bucket key =>
    exact ⟨h.logicals, fun record hrecord => h.plans record (Table.mem_delete.mp hrecord).1,
      h.jobs, h.counters⟩
  | saveJobs jobs =>
    obtain ⟨hnodup, hrestorable⟩ := hguard
    obtain ⟨hplacements, hlogicals, hplans, hstate⟩ :=
      MetadataStore.enqueueJobs_objectTables s.store jobs
    refine ⟨?_, ?_, ?_, ?_⟩
    · intro record hrecord
      simp only [MetadataWrite.perform, MetadataStore.objectPlacement, hplacements,
        hlogicals] at hrecord ⊢
      exact h.logicals record hrecord
    · intro record hrecord
      simp only [MetadataWrite.perform, MetadataStore.objectPlacement, hplacements,
        hplans] at hrecord ⊢
      exact h.plans record hrecord
    · intro job hjob
      rcases (MetadataStore.mem_enqueueJobs hnodup).mp hjob with hnew | ⟨hold, -⟩
      · exact hrestorable job hnew
      · exact h.jobs job hold
    · simp only [MetadataWrite.perform, MetadataStore.gatewayWriteAheadLogStateRecord, hstate]
      exact h.counters
  | removeJobs jobIds =>
    exact ⟨h.logicals, h.plans, fun job hjob => h.jobs job (Table.mem_delete.mp hjob).1,
      h.counters⟩
  | allocateLsn now =>
    exact ⟨h.logicals, h.plans, h.jobs, (countersValid_allocate h.counters hguard).2.2⟩
  | updateReplayedLsn lsn now =>
    exact ⟨h.logicals, h.plans, h.jobs, countersValid_replayed h.counters hguard⟩
  | updateCheckpointLsn lsn now =>
    exact ⟨h.logicals, h.plans, h.jobs, countersValid_checkpoint h.counters hguard⟩

/-- The tables are tidy, and what an export is still to read belongs to the placements it has
read. -/
structure OrderlyInv (s : ExportSystem) : Prop where
  tidy : Tidy s.store
  logicals : ∀ placements, stillToRead false s.phase = some placements →
    ∀ record ∈ s.store.logicalObjects, (record.bucket, record.key) ∈ placed placements
  plans : ∀ placements, stillToRead true s.phase = some placements →
    ∀ record ∈ s.store.objectProtectionPlans, (record.bucket, record.key) ∈ placed placements

theorem orderlyInv_write {change : MetadataWrite} (h : s.OrderlyInv)
    (hguard : s.OrderlyWrite (.write change)) :
    OrderlyInv { s with store := change.perform s.store } := by
  refine ⟨tidy_write h.tidy hguard, ?_, ?_⟩
  · intro placements hphase record hrecord
    cases change with
    | upsertLogicalObject new =>
      rcases Table.mem_upsert.mp hrecord with rfl | ⟨hmem, -⟩
      · exact hguard.2 placements hphase
      · exact h.logicals placements hphase record hmem
    | deleteLogicalObject bucket key =>
      exact h.logicals placements hphase record (Table.mem_delete.mp hrecord).1
    | saveJobs jobs =>
      rw [MetadataWrite.perform, (MetadataStore.enqueueJobs_objectTables _ _).2.1] at hrecord
      exact h.logicals placements hphase record hrecord
    | _ => exact h.logicals placements hphase record hrecord
  · intro placements hphase record hrecord
    cases change with
    | upsertObjectProtectionPlan new =>
      rcases Table.mem_upsert.mp hrecord with rfl | ⟨hmem, -⟩
      · exact hguard.2 placements hphase
      · exact h.plans placements hphase record hmem
    | deleteObjectProtectionPlan bucket key =>
      exact h.plans placements hphase record (Table.mem_delete.mp hrecord).1
    | saveJobs jobs =>
      rw [MetadataWrite.perform, (MetadataStore.enqueueJobs_objectTables _ _).2.2.1] at hrecord
      exact h.plans placements hphase record hrecord
    | _ => exact h.plans placements hphase record hrecord

theorem orderlyInv_read (h : s.OrderlyInv) : s.readNext.OrderlyInv := by
  obtain ⟨store, phase, bundles⟩ := s
  obtain ⟨htidy, hlogicals, hplans⟩ := h
  cases phase with
  | idle =>
    -- the placements that are read now are those of the store
    refine ⟨htidy, ?_, ?_⟩
    · intro placements hphase record hrecord
      obtain rfl := Option.some.inj hphase
      exact objectPlacement_mem (htidy.logicals record hrecord)
    · intro placements hphase record hrecord
      obtain rfl := Option.some.inj hphase
      exact objectPlacement_mem (htidy.plans record hrecord)
  | placements placements => exact ⟨htidy, nofun, hplans⟩
  | logicals placements logicals => exact ⟨htidy, nofun, nofun⟩
  | plans placements logicals plans => exact ⟨htidy, nofun, nofun⟩
  | jobs placements logicals plans jobs => exact ⟨htidy, nofun, nofun⟩

/-- In an orderly state every read meets its guard. -/
theorem readGuard_of_orderly (h : s.OrderlyInv) : s.ReadGuard := by
  obtain ⟨store, phase, bundles⟩ := s
  obtain ⟨htidy, hlogicals, hplans⟩ := h
  cases phase with
  | idle => trivial
  | placements placements => exact hlogicals placements rfl
  | logicals placements logicals => exact hplans placements rfl
  | plans placements logicals plans => exact htidy.jobs
  | jobs placements logicals plans jobs =>
    exact ⟨htidy.counters.pos, htidy.counters.checkpoint_lt, htidy.counters.replayed_lt⟩

/-- **Orderly writes.** When placements are written first and deleted last, and nothing new is
written past an export, every read meets its guard. -/
theorem guarded_of_orderly (h : s.OrderlyInv) (actions : List ExportAction)
    (horderly : Guarded step OrderlyWrite s actions) : Guarded step Guard s actions := by
  refine Guarded.of_invariant ?_ ?_ h horderly
  · intro t action t' hinv hguard hstep
    cases action with
    | write change =>
      obtain rfl := Option.some.inj hstep
      exact orderlyInv_write hinv hguard
    | read =>
      obtain rfl := Option.some.inj hstep
      exact orderlyInv_read hinv
  · intro t action hinv _
    cases action with
    | write change => trivial
    | read => exact readGuard_of_orderly hinv

end Orderly

end ExportSystem

end Netdisk2Blob.Backup
