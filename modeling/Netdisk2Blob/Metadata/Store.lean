import Netdisk2Blob.Library.Table
import Netdisk2Blob.Replication.Job
import Mathlib.Data.Prod.Lex
import Mathlib.Data.String.Basic

/-!
# The Metadata Store

The tables of the SQLite database behind `MetadataStore`, the errors its operations
return, and the two write statements every operation on `replication_jobs` is made of:
`upsert_job` and the deletion of a job row, which cascades to its dead letter.

Every operation takes the connection lock and runs in one transaction, so it is one
function from store to store; an operation that fails is rolled back and leaves the
store as it was. Failures of the database itself are outside the model.
-/

namespace Netdisk2Blob.Metadata

open Library Replication

/-! ## Section 1: Rows -/

inductive ReplicationDeadLetterStatus where
  | open
  | replayed
  deriving DecidableEq, Repr

/-- A row of `replication_dead_letters`. -/
structure DeadLetterRow where
  originalJobId : Nat
  target : String
  bucket : String
  key : String
  operation : ReplicationOperation
  attempts : Nat
  deadLetteredAtUnixMs : Nat
  lastError : Option String
  reason : String
  status : ReplicationDeadLetterStatus
  replayCount : Nat
  lastReplayedJobId : Option Nat
  lastReplayedAtUnixMs : Option Nat
  deriving DecidableEq, Repr

/-- A dead letter joined with its job, as the listing returns it. -/
structure ReplicationDeadLetterEntry where
  originalJob : ReplicationJob
  status : ReplicationDeadLetterStatus
  deadLetteredAtUnixMs : Nat
  reason : String
  replayCount : Nat
  lastReplayedJobId : Option Nat
  lastReplayedAtUnixMs : Option Nat
  deriving DecidableEq, Repr

structure ObjectPlacementRecord where
  provider : String
  bucket : String
  key : String
  updatedAtUnixMs : Nat
  deriving DecidableEq, Repr

structure LogicalObjectRecord where
  bucket : String
  key : String
  etag : Option String
  applicationId : Option String
  encrypted : Bool
  encryptionProfileId : Option String
  algorithm : Option String
  keyId : Option String
  keySourceKind : Option String
  keySourceRef : Option String
  chunkPlaintextBytes : Option Nat
  plaintextSize : Nat
  storedSize : Nat
  logicalContentType : Option String
  updatedAtUnixMs : Nat
  deriving DecidableEq, Repr

structure ObjectProtectionPlanRecord where
  bucket : String
  key : String
  syncTargetsCsv : String
  fallbackReadOrderCsv : String
  updatedAtUnixMs : Nat
  deriving DecidableEq, Repr

structure GatewayWriteAheadLogStateRecord where
  nextLsn : Nat := 1
  lastCheckpointLsn : Option Nat := none
  lastReplayedLsn : Option Nat := none
  updatedAtUnixMs : Nat := 0
  deriving DecidableEq, Repr

structure MetadataRetentionPolicy where
  completedHistoryLimit : Nat := 512
  failedHistoryLimit : Nat := 256
  deriving DecidableEq, Repr

structure MetadataPruneResult where
  deletedCompletedJobs : Nat
  deletedFailedJobs : Nat
  deriving DecidableEq, Repr

inductive MetadataError where
  | missingJob (jobId : Nat)
  | jobAlreadyExists (jobId : Nat)
  | jobNotFailed (jobId : Nat)
  | jobNotLatest (requestedJobId latestJobId : Nat)
  | deadLetterMissing (originalJobId : Nat)
  | deadLetterNotOpen (originalJobId : Nat)
  | duplicateReplayJobId (jobId : Nat)
  | insufficientReplayJobIds (required provided : Nat)
  deriving DecidableEq, Repr

/-! ## Section 2: Tables -/

/-- The primary key of the per-object tables. -/
def objectKey (bucket key : String) : String ×ₗ String := toLex (bucket, key)

theorem objectKey_inj {bucket key bucket' key' : String} :
    objectKey bucket key = objectKey bucket' key' ↔ bucket = bucket' ∧ key = key' := by
  simp [objectKey]

structure MetadataStore where
  replicationJobs : Table ReplicationJob (fun job => job.jobId)
  replicationDeadLetters : Table DeadLetterRow (fun row => row.originalJobId)
  objectPlacements : Table ObjectPlacementRecord (fun row => objectKey row.bucket row.key)
  logicalObjects : Table LogicalObjectRecord (fun row => objectKey row.bucket row.key)
  objectProtectionPlans :
    Table ObjectProtectionPlanRecord (fun row => objectKey row.bucket row.key)
  gatewayWriteAheadLogState : Option GatewayWriteAheadLogStateRecord
  retention : MetadataRetentionPolicy

namespace MetadataStore

/-- A fresh database, with the log state row that `init_schema` inserts. -/
def openFresh (retention : MetadataRetentionPolicy) : MetadataStore where
  replicationJobs := ∅
  replicationDeadLetters := ∅
  objectPlacements := ∅
  logicalObjects := ∅
  objectProtectionPlans := ∅
  gatewayWriteAheadLogState := some {}
  retention := retention

/-- Every dead letter refers to a row of `replication_jobs`. -/
def ForeignKeysHold (store : MetadataStore) : Prop :=
  ∀ row ∈ store.replicationDeadLetters,
    ∃ job ∈ store.replicationJobs, job.jobId = row.originalJobId

theorem foreignKeysHold_openFresh (retention : MetadataRetentionPolicy) :
    (openFresh retention).ForeignKeysHold := by
  intro row hrow
  exact absurd hrow (Table.not_mem_empty row)

/-! ## Section 3: Writing and deleting job rows -/

/-- `INSERT ... ON CONFLICT(job_id) DO UPDATE` of every column. -/
def upsertJob (store : MetadataStore) (job : ReplicationJob) : MetadataStore :=
  { store with replicationJobs := store.replicationJobs.upsert job }

@[simp] theorem mem_upsertJob {store : MetadataStore} {job row : ReplicationJob} :
    row ∈ (store.upsertJob job).replicationJobs ↔
      row = job ∨ (row ∈ store.replicationJobs ∧ row.jobId ≠ job.jobId) :=
  Table.mem_upsert

/-- Delete job rows; `ON DELETE CASCADE` takes their dead letters with them. -/
def deleteJobs (store : MetadataStore) (jobIds : List Nat) : MetadataStore :=
  { store with
    replicationJobs := store.replicationJobs.delete (fun job => decide (job.jobId ∈ jobIds))
    replicationDeadLetters :=
      store.replicationDeadLetters.delete (fun row => decide (row.originalJobId ∈ jobIds)) }

@[simp] theorem mem_deleteJobs {store : MetadataStore} {jobIds : List Nat}
    {row : ReplicationJob} :
    row ∈ (store.deleteJobs jobIds).replicationJobs ↔
      row ∈ store.replicationJobs ∧ row.jobId ∉ jobIds := by
  simp [deleteJobs]

theorem deleteJobs_nil (store : MetadataStore) : store.deleteJobs [] = store := by
  simp only [deleteJobs]
  rw [Table.delete_of_forall_not (by simp), Table.delete_of_forall_not (by simp)]

theorem deleteJobs_append (store : MetadataStore) (ids ids' : List Nat) :
    (store.deleteJobs ids).deleteJobs ids' = store.deleteJobs (ids ++ ids') := by
  simp only [deleteJobs, Table.delete_delete, List.mem_append, Bool.decide_or]

/-- Deleting jobs without dead letters leaves the dead letters alone. -/
theorem deleteJobs_replicationDeadLetters {store : MetadataStore} {ids : List Nat}
    (h : ∀ row ∈ store.replicationDeadLetters, row.originalJobId ∉ ids) :
    (store.deleteJobs ids).replicationDeadLetters = store.replicationDeadLetters :=
  Table.delete_of_forall_not (fun row hrow => by simpa using h row hrow)

/-- `UPDATE replication_jobs SET ... WHERE job_id = ?` for an update of the bookkeeping
columns. -/
def updateJob (store : MetadataStore) (jobId : Nat) (f : ReplicationJob → ReplicationJob)
    (hf : ∀ job, (f job).jobId = job.jobId) : MetadataStore :=
  { store with
    replicationJobs :=
      store.replicationJobs.modify (fun job => decide (job.jobId = jobId)) f hf }

theorem mem_updateJob {store : MetadataStore} {jobId : Nat}
    {f : ReplicationJob → ReplicationJob} {hf : ∀ job, (f job).jobId = job.jobId}
    {row : ReplicationJob} :
    row ∈ (store.updateJob jobId f hf).replicationJobs ↔
      (row ∈ store.replicationJobs ∧ row.jobId ≠ jobId) ∨
        ∃ job ∈ store.replicationJobs, job.jobId = jobId ∧ row = f job := by
  simp only [updateJob, Table.mem_modify]
  constructor
  · rintro ⟨job, hjob, hrow⟩
    by_cases hid : job.jobId = jobId
    · rw [if_pos (by simpa using hid)] at hrow
      exact Or.inr ⟨job, hjob, hid, hrow.symm⟩
    · rw [if_neg (by simpa using hid)] at hrow
      subst hrow
      exact Or.inl ⟨hjob, hid⟩
  · rintro (⟨hrow, hid⟩ | ⟨job, hjob, hid, hrow⟩)
    · exact ⟨row, hrow, if_neg (by simpa using hid)⟩
    · exact ⟨job, hjob, by rw [if_pos (by simpa using hid), hrow]⟩

end MetadataStore

end Netdisk2Blob.Metadata
