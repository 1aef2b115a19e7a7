import Netdisk2Blob.ControlPlane.ManagedKeys
import Netdisk2Blob.Metadata.Objects

/-!
# The Backup Bundle

What a gateway backup carries: the control plane, the credentials of the providers, the
managed encryption keys and five tables of the metadata store.

## Contents

- `validateGatewayBackupMetadataPayload`: the check of the tables of a bundle
- `validateGatewayBackupMetadataPayload_ok_iff`: it accepts the `RestorableMetadata`
-/

namespace Netdisk2Blob.Backup

open Library Text Blob Replication Metadata ControlPlane

/-! ## Section 1: The bundle -/

structure GatewayBackupMetadataPayload where
  objectPlacements : List ObjectPlacementRecord
  logicalObjects : List LogicalObjectRecord
  objectProtectionPlans : List ObjectProtectionPlanRecord
  pendingReplicationJobs : List ReplicationJob
  gatewayWriteAheadLogState : GatewayWriteAheadLogStateRecord
  deriving DecidableEq, Repr

/-- The bundle; credentials and leases by the name of their provider. -/
structure GatewayBackupBundlePayload (Provenance ControlPlane Credential Lease : Type) where
  backupFormatVersion : Nat
  exportedAtUnixMs : Nat
  gatewayVersion : String
  provenance : Provenance
  instanceId : String
  controlPlane : ControlPlane
  providerCredentials : List (String × Credential)
  providerCredentialLeases : List (String × Lease)
  managedEncryptionKeys : List ManagedEncryptionKeyRecord
  metadata : GatewayBackupMetadataPayload
  deriving DecidableEq

def gatewayBackupFormatVersion : Nat := 1

/-! ## Section 2: Validation -/

def jobStatusText : ReplicationStatus → String
  | .pending => "pending"
  | .retryScheduled => "retry_scheduled"
  | .completed => "completed"
  | .failed => "failed"

/-- The checks of one job; `seen` are the ids of the jobs before it. -/
def validatePendingJob (seen : List Nat) (job : ReplicationJob) : Except BlobError Unit :=
  if job.jobId = 0 then .error (.configuration "replication jobs must have a non-zero job_id")
  else if job.jobId ∈ seen then
    .error (.configuration s!"backup bundle contains duplicate replication job id {job.jobId}")
  else if (trim job.target).isEmpty then
    .error (.configuration s!"replication job {job.jobId} has an empty target")
  else if (trim job.object.bucket).isEmpty ∨ (trim job.object.key).isEmpty then
    .error (.configuration s!"replication job {job.jobId} references an empty bucket or key")
  else if job.status.isRunnable = false then
    .error (.configuration (s!"replication job {job.jobId} has unsupported status " ++
      s!"{jobStatusText job.status} in pending_replication_jobs"))
  else if job.operation = .put ∧ job.object.size = none then
    .error (.configuration s!"replication job {job.jobId} is a put without object size")
  else .ok ()

def validatePendingJobs : List Nat → List ReplicationJob → Except BlobError Unit
  | _, [] => .ok ()
  | seen, job :: jobs => do
    validatePendingJob seen job
    validatePendingJobs (job.jobId :: seen) jobs

/-- The checks of the rows that belong to placed objects: `duplicates` and `unplaced` are the
errors. -/
def validatePlacedRows (placed keys : List (String × String)) (duplicates : String)
    (unplaced : String × String → String) : Except BlobError Unit :=
  if ¬ keys.Nodup then .error (.configuration duplicates)
  else
    match keys.find? (fun key => decide (key ∉ placed)) with
    | some key => .error (.configuration (unplaced key))
    | none => .ok ()

def validateWriteAheadLogState (wal : GatewayWriteAheadLogStateRecord) : Except BlobError Unit :=
  if wal.nextLsn = 0 then
    .error (.configuration "gateway write-ahead log next_lsn must be greater than zero")
  else if wal.lastCheckpointLsn.any (fun value => decide (wal.nextLsn ≤ value)) then
    .error (.configuration
      "gateway write-ahead log last_checkpoint_lsn must be less than next_lsn")
  else if wal.lastReplayedLsn.any (fun value => decide (wal.nextLsn ≤ value)) then
    .error (.configuration
      "gateway write-ahead log last_replayed_lsn must be less than next_lsn")
  else .ok ()

namespace GatewayBackupMetadataPayload

variable (metadata : GatewayBackupMetadataPayload)

def placementKeys : List (String × String) :=
  metadata.objectPlacements.map fun record => (record.bucket, record.key)

def logicalKeys : List (String × String) :=
  metadata.logicalObjects.map fun record => (record.bucket, record.key)

def protectionKeys : List (String × String) :=
  metadata.objectProtectionPlans.map fun record => (record.bucket, record.key)

end GatewayBackupMetadataPayload

def validateGatewayBackupMetadataPayload (metadata : GatewayBackupMetadataPayload) :
    Except BlobError Unit := do
  validatePlacedRows metadata.placementKeys metadata.logicalKeys
    "backup bundle contains duplicate logical object records"
    (fun key => s!"logical object {key.1}/{key.2} has no matching object placement record")
  validatePlacedRows metadata.placementKeys metadata.protectionKeys
    "backup bundle contains duplicate object protection plan records"
    (fun key => s!"object protection plan {key.1}/{key.2} has no matching object placement record")
  if ¬ metadata.placementKeys.Nodup then
    .error (.configuration "backup bundle contains duplicate object placement records")
  else do
    validatePendingJobs [] metadata.pendingReplicationJobs
    validateWriteAheadLogState metadata.gatewayWriteAheadLogState

/-! ## Section 3: What is accepted -/

/-- A job that a bundle may carry. -/
structure RestorableJob (job : ReplicationJob) : Prop where
  jobId_ne : job.jobId ≠ 0
  target_ne : trim job.target ≠ ""
  bucket_ne : trim job.object.bucket ≠ ""
  key_ne : trim job.object.key ≠ ""
  runnable : job.status.isRunnable = true
  put_size : job.operation = .put → job.object.size ≠ none

/-- Counters that a bundle may carry. -/
structure RestorableCounters (wal : GatewayWriteAheadLogStateRecord) : Prop where
  nextLsn_pos : 0 < wal.nextLsn
  checkpoint_lt : ∀ lsn, wal.lastCheckpointLsn = some lsn → lsn < wal.nextLsn
  replayed_lt : ∀ lsn, wal.lastReplayedLsn = some lsn → lsn < wal.nextLsn

structure RestorableMetadata (metadata : GatewayBackupMetadataPayload) : Prop where
  placements_nodup : metadata.placementKeys.Nodup
  logicals_nodup : metadata.logicalKeys.Nodup
  logicals_placed : ∀ key ∈ metadata.logicalKeys, key ∈ metadata.placementKeys
  plans_nodup : metadata.protectionKeys.Nodup
  plans_placed : ∀ key ∈ metadata.protectionKeys, key ∈ metadata.placementKeys
  jobs_nodup : (metadata.pendingReplicationJobs.map (·.jobId)).Nodup
  jobs_restorable : ∀ job ∈ metadata.pendingReplicationJobs, RestorableJob job
  counters : RestorableCounters metadata.gatewayWriteAheadLogState

theorem validatePendingJob_ok_iff {seen : List Nat} {job : ReplicationJob} :
    validatePendingJob seen job = .ok () ↔ RestorableJob job ∧ job.jobId ∉ seen := by
  unfold validatePendingJob
  constructor
  · intro h
    split_ifs at h with hid hseen htarget hobject hstatus hsize
    rw [String.isEmpty_iff] at htarget
    rw [not_or, String.isEmpty_iff, String.isEmpty_iff] at hobject
    refine ⟨⟨hid, htarget, hobject.1, hobject.2, ?_, ?_⟩, hseen⟩
    · simpa using hstatus
    · exact fun hput hnone => hsize ⟨hput, hnone⟩
  · intro ⟨h, hseen⟩
    rw [if_neg h.jobId_ne, if_neg hseen, if_neg, if_neg, if_neg, if_neg]
    · exact fun ⟨hput, hnone⟩ => h.put_size hput hnone
    · simp [h.runnable]
    · rw [not_or, String.isEmpty_iff, String.isEmpty_iff]
      exact ⟨h.bucket_ne, h.key_ne⟩
    · rw [String.isEmpty_iff]
      exact h.target_ne

theorem validatePendingJobs_ok_iff {seen : List Nat} {jobs : List ReplicationJob} :
    validatePendingJobs seen jobs = .ok () ↔
      (∀ job ∈ jobs, RestorableJob job ∧ job.jobId ∉ seen) ∧ (jobs.map (·.jobId)).Nodup := by
  induction jobs generalizing seen with
  | nil => simp [validatePendingJobs]
  | cons job jobs ih =>
    rw [validatePendingJobs, except_bind_ok]
    simp only [List.map_cons, List.nodup_cons, List.mem_cons, forall_eq_or_imp, ih]
    constructor
    · intro ⟨_, hjob, hrest, hnodup⟩
      refine ⟨⟨validatePendingJob_ok_iff.mp hjob, ?_⟩, ?_, hnodup⟩
      · exact fun other hother => ⟨(hrest other hother).1, fun hmem =>
          (hrest other hother).2 (Or.inr hmem)⟩
      · intro hmem
        obtain ⟨other, hother, hsame⟩ := List.mem_map.mp hmem
        exact (hrest other hother).2 (Or.inl hsame)
    · intro ⟨⟨hjob, hrest⟩, hfresh, hnodup⟩
      refine ⟨(), validatePendingJob_ok_iff.mpr hjob, ?_, hnodup⟩
      intro other hother
      refine ⟨(hrest other hother).1, ?_⟩
      rintro (hsame | hmem)
      · exact hfresh (List.mem_map.mpr ⟨other, hother, hsame⟩)
      · exact (hrest other hother).2 hmem

theorem validatePlacedRows_ok_iff {placed keys : List (String × String)} {duplicates : String}
    {unplaced : String × String → String} :
    validatePlacedRows placed keys duplicates unplaced = .ok () ↔
      keys.Nodup ∧ ∀ key ∈ keys, key ∈ placed := by
  unfold validatePlacedRows
  split_ifs with hnodup
  · cases hfind : keys.find? (fun key => decide (key ∉ placed)) with
    | none =>
      refine iff_of_true rfl ⟨hnodup, ?_⟩
      intro key hkey
      simpa using List.find?_eq_none.mp hfind key hkey
    | some key =>
      constructor
      · intro h
        cases h
      · intro ⟨_, hplaced⟩
        have hunplaced : key ∉ placed := by simpa using List.find?_some hfind
        exact absurd (hplaced key (List.mem_of_find?_eq_some hfind)) hunplaced
  · constructor
    · intro h
      cases h
    · intro ⟨h, _⟩
      exact absurd h hnodup

theorem validateWriteAheadLogState_ok_iff {wal : GatewayWriteAheadLogStateRecord} :
    validateWriteAheadLogState wal = .ok () ↔ RestorableCounters wal := by
  have hbelow : ∀ value : Option Nat,
      ¬ value.any (fun value => decide (wal.nextLsn ≤ value)) = true ↔
        ∀ lsn, value = some lsn → lsn < wal.nextLsn := by
    intro value
    cases value with
    | none => simp
    | some lsn => simp
  unfold validateWriteAheadLogState
  constructor
  · intro h
    split_ifs at h with hzero hcheckpoint hreplayed
    exact ⟨Nat.pos_of_ne_zero hzero, (hbelow _).mp hcheckpoint, (hbelow _).mp hreplayed⟩
  · intro h
    rw [if_neg h.nextLsn_pos.ne', if_neg ((hbelow _).mpr h.checkpoint_lt),
      if_neg ((hbelow _).mpr h.replayed_lt)]

/-- What the validation of a bundle accepts. -/
theorem validateGatewayBackupMetadataPayload_ok_iff {metadata : GatewayBackupMetadataPayload} :
    validateGatewayBackupMetadataPayload metadata = .ok () ↔ RestorableMetadata metadata := by
  unfold validateGatewayBackupMetadataPayload
  constructor
  · intro h
    obtain ⟨_, hlogicals, h⟩ := except_bind_ok.mp h
    obtain ⟨_, hplans, h⟩ := except_bind_ok.mp h
    split_ifs at h with hplacements
    obtain ⟨_, hjobs, h⟩ := except_bind_ok.mp h
    obtain ⟨hlogicalsNodup, hlogicalsPlaced⟩ := validatePlacedRows_ok_iff.mp hlogicals
    obtain ⟨hplansNodup, hplansPlaced⟩ := validatePlacedRows_ok_iff.mp hplans
    obtain ⟨hrestorable, hjobsNodup⟩ := validatePendingJobs_ok_iff.mp hjobs
    exact ⟨hplacements, hlogicalsNodup, hlogicalsPlaced, hplansNodup, hplansPlaced,
      hjobsNodup, fun job hjob => (hrestorable job hjob).1, validateWriteAheadLogState_ok_iff.mp h⟩
  · intro h
    apply except_bind_ok.mpr
    refine ⟨(), validatePlacedRows_ok_iff.mpr ⟨h.logicals_nodup, h.logicals_placed⟩, ?_⟩
    apply except_bind_ok.mpr
    refine ⟨(), validatePlacedRows_ok_iff.mpr ⟨h.plans_nodup, h.plans_placed⟩, ?_⟩
    rw [if_neg (not_not.mpr h.placements_nodup)]
    apply except_bind_ok.mpr
    refine ⟨(), validatePendingJobs_ok_iff.mpr ⟨?_, h.jobs_nodup⟩,
      validateWriteAheadLogState_ok_iff.mpr h.counters⟩
    exact fun job hjob => ⟨h.jobs_restorable job hjob, List.not_mem_nil⟩

end Netdisk2Blob.Backup
