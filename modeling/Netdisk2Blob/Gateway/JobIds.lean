import Netdisk2Blob.Backup.Bundle
import Netdisk2Blob.Metadata.BackupState
import Netdisk2Blob.Metadata.DeadLetterReplay
import Netdisk2Blob.Gateway.ReplicationWorker

/-!
# Job Ids over the Life of a Gateway

Everything that hands out a job id or writes the job table, across restores and restarts:
requests, workers, dead-letter replays, rewrites that put a copy of the queue back, the two
halves of a restore, and a restart with what it reads from the table.

A restore writes the table first and the queue later, with the control plane in between;
that step can fail, and other requests go on meanwhile. So the two halves are two steps.

Beside the state of the gateway stands a history that no step reads: every id the table
ever had, every id that was handed out with what was stored and queued then, and every row
that an upsert replaced.

## Contents

- `JobSystem.step`: one action of one party
- `JobIdsKept`: what the history has to look like
-/

namespace Netdisk2Blob.Gateway

open Library Policy Replication Metadata Backup

/-! ## Section 1: Startup -/

/-- `restore_pending`. -/
def restorePending (engine : ReplicationEngine) (jobs : List ReplicationJob) :
    ReplicationEngine :=
  if jobs = [] then engine
  else
    let bumped :=
      engine.ensureNextJobIdAtLeast (saturatingAddU64 (ReplicationEngine.maxJobId jobs) 1)
    { bumped with pendingJobs := bumped.pendingJobs ++ jobs }

/-- A job of a version without source providers gets the primary. -/
def backfillSource (primaryProvider : String) (job : ReplicationJob) : ReplicationJob :=
  match job.sourceProvider with
  | some _ => job
  | none => { job with sourceProvider := some primaryProvider }

/-- What a job is about, whatever its progress and its source. -/
def jobWork (job : ReplicationJob) : String × ReplicationOperation × ReplicationObjectRef :=
  (job.target, job.operation, job.object)

/-! ## Section 2: The state -/

/-- An id at the moment it was handed out. -/
structure HandedOut where
  jobId : Nat
  everStored : List Nat
  queued : List Nat
  store : MetadataStore

structure JobSystem where
  store : MetadataStore
  engine : ReplicationEngine
  /-- Jobs that workers have popped and not decided. -/
  inFlight : List ReplicationJob
  /-- Jobs on the queue that are still to be stored. -/
  unsaved : List ReplicationJob
  /-- Stored jobs that are still to be pushed. -/
  unpushed : List ReplicationJob
  /-- Ids that replay requests hold. -/
  allocated : List Nat
  /-- What some request may still hand to `replace_pending`: copies of the queue, and the
  jobs of restores that have replaced the tables. -/
  replacements : List (List ReplicationJob)
  everStored : List Nat
  restoredIds : List Nat
  handedOut : List HandedOut
  overwritten : List (ReplicationJob × ReplicationJob)

/-- The rows that a list of upserts replaces, each with the job that replaces it. -/
def replacedRows : MetadataStore → List ReplicationJob → List (ReplicationJob × ReplicationJob)
  | _, [] => []
  | store, job :: jobs =>
    ((store.replicationJobs.find? job.jobId).map (fun row => (row, job))).toList ++
      replacedRows (store.upsertJob job) jobs

/-- The ids of one `enqueue_jobs`: each job is pushed before the next one gets its id. -/
def handOuts (everStored : List Nat) (store : MetadataStore) :
    List Nat → List ReplicationJob → List HandedOut
  | _, [] => []
  | queued, job :: jobs =>
    { jobId := job.jobId, everStored := everStored, queued := queued, store := store } ::
      handOuts everStored store (queued ++ [job.jobId]) jobs

namespace JobSystem

def initial (retention : MetadataRetentionPolicy) (recentLimit : Nat) : JobSystem where
  store := MetadataStore.openFresh retention
  engine := ReplicationEngine.withRecentLimit recentLimit
  inFlight := []
  unsaved := []
  unpushed := []
  allocated := []
  replacements := []
  everStored := []
  restoredIds := []
  handedOut := []
  overwritten := []

def queuedIds (s : JobSystem) : List Nat := s.engine.pendingJobs.map (·.jobId)

/-- One `enqueue_put` or `enqueue_delete` call. -/
def pushJobs (s : JobSystem) (enqueued : List ReplicationJob × ReplicationEngine) : JobSystem :=
  { s with
    engine := enqueued.2
    unsaved := s.unsaved ++ enqueued.1
    handedOut := s.handedOut ++ handOuts s.everStored s.store s.queuedIds enqueued.1 }

/-- The store after the upserts of `jobs`, which `store'` holds. -/
def wroteJobs (s : JobSystem) (store' : MetadataStore) (jobs : List ReplicationJob) :
    JobSystem :=
  { s with
    store := store'
    everStored := s.everStored ++ jobs.map (·.jobId)
    overwritten := s.overwritten ++ replacedRows s.store jobs }

/-- A worker is done with a job. -/
def decideJob (s : JobSystem) (job : ReplicationJob) (engine' : ReplicationEngine)
    (store' : MetadataStore) : JobSystem :=
  { s with engine := engine', store := store', inFlight := s.inFlight.erase job }

/-- A replay request has used its ids or failed. -/
def releaseIds (s : JobSystem) (jobIds : List Nat) : JobSystem :=
  { s with allocated := s.allocated.filter (fun id => !jobIds.contains id) }

/-- The first half of a restore. -/
def restoreTables (s : JobSystem) (store' : MetadataStore) (jobs : List ReplicationJob) :
    JobSystem :=
  { s with
    store := store'
    replacements := s.replacements ++ [jobs]
    everStored := s.everStored ++ jobs.map (·.jobId)
    restoredIds := s.restoredIds ++ jobs.map (·.jobId)
    overwritten :=
      s.overwritten ++ replacedRows (MetadataStore.openFresh s.store.retention) jobs }

/-- The process has stopped and starts again: the store is all that is left, and it is
pruned. -/
def reopened (s : JobSystem) (retention : MetadataRetentionPolicy) (recentLimit : Nat) :
    JobSystem :=
  { s with
    store := ({ s.store with retention := retention } : MetadataStore).applyRetention.2
    engine := ReplicationEngine.withRecentLimit recentLimit
    inFlight := []
    unsaved := []
    unpushed := []
    allocated := []
    replacements := [] }

/-- The pending jobs of the store are queued, and the counter is set from both. -/
def restoreJobs (s : JobSystem) (primaryProvider : String) : JobSystem :=
  let pending := s.store.loadPendingJobs none
  let restored := pending.map (backfillSource primaryProvider)
  let backfilled :=
    if pending.any (fun job => job.sourceProvider.isNone) then
      s.wroteJobs (s.store.enqueueJobs restored) restored
    else s
  { backfilled with
    engine := (restorePending s.engine restored).ensureNextJobIdAtLeast
      (saturatingAddU64 (backfilled.store.maxJobId.getD 0) 1) }

end JobSystem

/-! ## Section 3: Actions -/

inductive JobAction where
  | enqueuePut (topology : TopologyPolicy) (sourceProvider : Option String) (bucket key : String)
      (etag : Option String) (size : Nat) (contentType : Option String) (nowUnixMs : Nat)
  | enqueueDelete (topology : TopologyPolicy) (sourceProvider : Option String)
      (bucket key : String) (nowUnixMs : Nat)
  | persistJobs (jobs : List ReplicationJob)
  | abandonJobs (jobs : List ReplicationJob)
  | popNextReady (nowUnixMs : Nat)
  | markCompleted (job : ReplicationJob)
  | scheduleRetry (job : ReplicationJob) (retryPolicy : ReplicationRetryPolicy)
      (error : ReplicationFailure) (nowUnixMs : Nat)
  | markDeadLetter (job : ReplicationJob) (retryPolicy : ReplicationRetryPolicy)
      (error : ReplicationFailure) (nowUnixMs : Nat)
  | retryFailedJob (jobId nowUnixMs : Nat)
  | retryFailedJobsForTarget (target : String) (nowUnixMs : Nat)
  | allocateJobId
  | replay (call : ReplayCall)
  | enqueueExistingJob (job : ReplicationJob)
  | copyPending
  | applyRetention
  | replaceBackupState (metadata : GatewayBackupMetadataPayload)
  | replacePending (jobs : List ReplicationJob)
  | restart (retention : MetadataRetentionPolicy) (recentLimit : Nat) (primaryProvider : String)

namespace JobSystem

/-- One action; `none` when no party is at that point, or a check refuses it. -/
def step (s : JobSystem) : JobAction → Option JobSystem
  | .enqueuePut topology sourceProvider bucket key etag size contentType now =>
    some (s.pushJobs
      (s.engine.enqueuePut topology sourceProvider bucket key etag size contentType now))
  | .enqueueDelete topology sourceProvider bucket key now =>
    some (s.pushJobs (s.engine.enqueueDelete topology sourceProvider bucket key now))
  | .persistJobs jobs =>
    -- `enqueue_jobs` of a request, or `save_job` of a worker
    if ∀ job ∈ jobs, job ∈ s.unsaved then
      some ({ s with unsaved := s.unsaved.filter (fun job => !jobs.contains job) }.wroteJobs
        (s.store.enqueueJobs jobs) jobs)
    else none
  | .abandonJobs jobs =>
    -- the write failed, or the request stopped before it
    some { s with unsaved := s.unsaved.filter (fun job => !jobs.contains job) }
  | .popNextReady now =>
    match s.engine.popNextReadyAt now with
    | (some job, engine') => some { s with engine := engine', inFlight := job :: s.inFlight }
    | (none, engine') => some { s with engine := engine' }
  | .markCompleted job =>
    if job ∈ s.inFlight then
      let engine' := s.engine.recordCompleted
        { job with attempts := attemptsOf job, lastError := none }
      match s.store.markJobStatus job.jobId .completed (attemptsOf job) none with
      | .ok (_, store') => some (s.decideJob job engine' store')
      | .error _ => some (s.decideJob job engine' s.store)
    else none
  | .scheduleRetry job retryPolicy error now =>
    if job ∈ s.inFlight ∧ willRetry retryPolicy job error then
      let retried := retryJob retryPolicy job error now
      some { s.decideJob job (s.engine.scheduleRetry retried) s.store with
        unsaved := s.unsaved ++ [retried] }
    else none
  | .markDeadLetter job retryPolicy error now =>
    if job ∈ s.inFlight ∧ ¬ willRetry retryPolicy job error then
      let engine' := s.engine.recordFailed { job with attempts := attemptsOf job } error.message
      match s.store.markJobDeadLetter job.jobId (attemptsOf job) (some error.message)
          (deadLetterReason error) now with
      | .ok (_, store') => some (s.decideJob job engine' store')
      | .error _ => some (s.decideJob job engine' s.store)
    else none
  | .retryFailedJob jobId now =>
    match s.store.retryFailedJob jobId now with
    | .ok (job, store') => some { s with store := store', unpushed := job :: s.unpushed }
    | .error _ => some s
  | .retryFailedJobsForTarget target now =>
    let retried := s.store.retryFailedJobsForTarget target now
    some { s with store := retried.2, unpushed := retried.1 ++ s.unpushed }
  | .allocateJobId =>
    let allocated := s.engine.allocateJobId
    some { s with
      engine := allocated.2
      allocated := allocated.1 :: s.allocated
      handedOut := s.handedOut ++
        [{ jobId := allocated.1, everStored := s.everStored, queued := s.queuedIds
           store := s.store }] }
  | .replay call =>
    if ∀ id ∈ call.newJobIds, id ∈ s.allocated then
      match s.store.replay call with
      | .ok (replayed, store') =>
        some { (s.releaseIds call.newJobIds).wroteJobs store' (replayed.map (·.2)) with
          unpushed := replayed.map (·.2) ++ s.unpushed }
      | .error _ => some (s.releaseIds call.newJobIds)
    else none
  | .enqueueExistingJob job =>
    if job ∈ s.unpushed then
      some { s with
        engine := s.engine.enqueueExistingJob job
        unpushed := s.unpushed.erase job }
    else none
  | .copyPending => some { s with replacements := s.replacements ++ [s.engine.pendingJobs] }
  | .applyRetention => some { s with store := s.store.applyRetention.2 }
  | .replaceBackupState metadata =>
    match validateGatewayBackupMetadataPayload metadata with
    | .error _ => none
    | .ok () =>
      (s.store.replaceBackupState metadata.objectPlacements metadata.logicalObjects
        metadata.objectProtectionPlans metadata.pendingReplicationJobs
        metadata.gatewayWriteAheadLogState).map
          (fun store' => s.restoreTables store' metadata.pendingReplicationJobs)
  | .replacePending jobs =>
    -- the second half of a restore, or a rewrite that puts its copy back
    if jobs ∈ s.replacements then
      some { s with
        engine := s.engine.replacePending jobs
        replacements := s.replacements.erase jobs }
    else none
  | .restart retention recentLimit primaryProvider =>
    some ((s.reopened retention recentLimit).restoreJobs primaryProvider)

end JobSystem

/-! ## Section 4: What the ids are for -/

/-- Every id that was handed out is larger than every id stored before and every id in the
queue, so a job with it is the latest of its object; and no row was replaced by a different
job. -/
structure JobIdsKept (s : JobSystem) : Prop where
  above : ∀ h ∈ s.handedOut, ∀ id, id ∈ h.everStored ∨ id ∈ h.queued → id < h.jobId
  latest : ∀ h ∈ s.handedOut, ∀ job : ReplicationJob, job.jobId = h.jobId →
    (h.store.upsertJob job).latestJobForObject job.target job.object.bucket job.object.key =
      some job
  same : ∀ pair ∈ s.overwritten, jobWork pair.1 = jobWork pair.2

end Netdisk2Blob.Gateway
