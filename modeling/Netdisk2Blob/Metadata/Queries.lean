import Netdisk2Blob.Metadata.DeadLetters

/-!
# Read Queries

The queries of `MetadataStore` on `replication_jobs` that do not write: what is still to
run, what the latest job of an object is, and the counts of a snapshot.

All of them but `loadPendingJobs` and `maxJobId` are built on one self-join, the last row
of every group; `latestJobsWhere_eq` reduces each of these joins to the last rows of the
(target, bucket, key) groups.
-/

namespace Netdisk2Blob.Metadata

open Library Replication

structure MetadataTargetStatus where
  target : String
  queuedCount : Nat
  pendingCount : Nat
  retryScheduledCount : Nat
  completedCount : Nat
  failedCount : Nat
  latestJob : Option ReplicationJob
  deriving DecidableEq, Repr

structure LatestStatusAggregate where
  pendingCount : Nat := 0
  retryScheduledCount : Nat := 0
  completedCount : Nat := 0
  failedCount : Nat := 0
  deriving DecidableEq, Repr

structure MetadataSnapshot where
  pendingCount : Nat
  retryScheduledCount : Nat
  completedCount : Nat
  failedCount : Nat
  targetStatuses : List MetadataTargetStatus
  recentJobs : List ReplicationJob
  deriving DecidableEq, Repr

/-! ## Section 1: Counting jobs by status -/

def LatestStatusAggregate.add (aggregate : LatestStatusAggregate) (job : ReplicationJob) :
    LatestStatusAggregate :=
  match job.status with
  | .pending => { aggregate with pendingCount := aggregate.pendingCount + 1 }
  | .retryScheduled =>
    { aggregate with retryScheduledCount := aggregate.retryScheduledCount + 1 }
  | .completed => { aggregate with completedCount := aggregate.completedCount + 1 }
  | .failed => { aggregate with failedCount := aggregate.failedCount + 1 }

def MetadataTargetStatus.add (entry : MetadataTargetStatus) (job : ReplicationJob) :
    MetadataTargetStatus :=
  match job.status with
  | .pending =>
    { entry with
      queuedCount := entry.queuedCount + 1
      pendingCount := entry.pendingCount + 1 }
  | .retryScheduled =>
    { entry with
      queuedCount := entry.queuedCount + 1
      retryScheduledCount := entry.retryScheduledCount + 1 }
  | .completed => { entry with completedCount := entry.completedCount + 1 }
  | .failed => { entry with failedCount := entry.failedCount + 1 }

/-- The entry that the first job of a target opens. -/
def MetadataTargetStatus.ofFirstJob (job : ReplicationJob) : MetadataTargetStatus where
  target := job.target
  queuedCount := 0
  pendingCount := 0
  retryScheduledCount := 0
  completedCount := 0
  failedCount := 0
  latestJob := some job

namespace MetadataStore

/-! ## Section 2: Jobs to run and job ids -/

/-- `SELECT ... WHERE status IN ('pending', 'retry_scheduled') ORDER BY job_id`. -/
def loadPendingJobs (store : MetadataStore) (limit : Option Nat) : List ReplicationJob :=
  let runnable := store.replicationJobs.rows.filter (fun job => job.status.isRunnable)
  match limit with
  | some limit => runnable.take limit
  | none => runnable

/-- `SELECT MAX(job_id)`. -/
def maxJobId (store : MetadataStore) : Option Nat :=
  (store.replicationJobs.latest (fun _ => true)).map (·.jobId)

/-! ## Section 3: Latest jobs -/

def latestJobsForBucket (store : MetadataStore) (target bucket : String) :
    List ReplicationJob :=
  (store.latestJobsWhere
    (fun job => decide (job.target = target ∧ job.object.bucket = bucket))
    (fun job => job.object.key)).insertionSort (fun a b => a.object.key ≤ b.object.key)

def latestFailedJobs (store : MetadataStore) (target : Option String) :
    List ReplicationJob :=
  match target with
  | some target =>
    ((store.latestJobsWhere (fun job => decide (job.target = target))
      ReplicationJob.triple).filter
        (fun job => decide (job.target = target ∧ job.status = .failed))).reverse
  | none =>
    ((store.replicationJobs.lastRows ReplicationJob.triple).filter
      (fun job => decide (job.status = .failed))).reverse

def fallbackReadableBuckets (store : MetadataStore) (target : String) : List String :=
  (((store.latestJobsWhere (fun job => decide (job.target = target))
    (fun job => (job.object.bucket, job.object.key))).filter
      (fun job => decide (job.operation = .put ∧ job.status = .completed))).map
        (·.object.bucket)).dedup.insertionSort (· ≤ ·)

/-! ## Section 4: Snapshot -/

def latestStatusAggregate (store : MetadataStore) : LatestStatusAggregate :=
  (store.replicationJobs.lastRows ReplicationJob.triple).foldl LatestStatusAggregate.add {}

/-- `ORDER BY target ASC, job_id DESC`. -/
def TargetThenNewest (a b : ReplicationJob) : Prop :=
  a.target < b.target ∨ (a.target = b.target ∧ b.jobId ≤ a.jobId)

instance : DecidableRel TargetThenNewest := fun _ _ => inferInstanceAs (Decidable (_ ∨ _))

def targetStatuses (store : MetadataStore) : List MetadataTargetStatus :=
  let jobs :=
    (store.replicationJobs.lastRows ReplicationJob.triple).insertionSort TargetThenNewest
  -- the map from target to entry, iterated in the order of its keys
  let grouped : Table MetadataTargetStatus (fun entry => entry.target) :=
    jobs.foldl
      (fun grouped job =>
        let entry := (grouped.find? job.target).getD (MetadataTargetStatus.ofFirstJob job)
        grouped.upsert (entry.add job))
      ∅
  grouped.rows

def snapshot (store : MetadataStore) (recentLimit : Nat) : MetadataSnapshot :=
  let aggregated := store.latestStatusAggregate
  { pendingCount := aggregated.pendingCount
    retryScheduledCount := aggregated.retryScheduledCount
    completedCount := aggregated.completedCount
    failedCount := aggregated.failedCount
    targetStatuses := store.targetStatuses
    recentJobs := store.replicationJobs.rows.reverse.take recentLimit }

/-! ## Section 5: The joins over last rows -/

/-- A join restricted to whole (target, bucket, key) groups selects among their last
rows. -/
theorem latestJobsWhere_eq {γ : Type} [DecidableEq γ] (store : MetadataStore)
    {p : ReplicationJob → Bool} {g : ReplicationJob → γ}
    (hclosed : ∀ a b : ReplicationJob, a.triple = b.triple → p a = p b)
    (hgroup : ∀ a b : ReplicationJob, p a = true → p b = true →
      (g a = g b ↔ a.triple = b.triple)) :
    store.latestJobsWhere p g =
      (store.replicationJobs.lastRows ReplicationJob.triple).filter p :=
  Table.lastRows_restrict hclosed hgroup

theorem latestJobsWhere_target (store : MetadataStore) (target : String) :
    store.latestJobsWhere (fun job => decide (job.target = target))
        (fun job => (job.object.bucket, job.object.key)) =
      (store.replicationJobs.lastRows ReplicationJob.triple).filter
        (fun job => decide (job.target = target)) := by
  apply latestJobsWhere_eq
  · intro a b hab
    have htarget : a.target = b.target := congrArg Prod.fst hab
    rw [htarget]
  · intro a b ha hb
    have htarget : a.target = b.target := by
      simp only [decide_eq_true_eq] at ha hb
      exact ha.trans hb.symm
    simp [ReplicationJob.triple, htarget]

theorem latestJobsWhere_target_triple (store : MetadataStore) (target : String) :
    store.latestJobsWhere (fun job => decide (job.target = target)) ReplicationJob.triple =
      (store.replicationJobs.lastRows ReplicationJob.triple).filter
        (fun job => decide (job.target = target)) := by
  apply latestJobsWhere_eq
  · intro a b hab
    have htarget : a.target = b.target := congrArg Prod.fst hab
    rw [htarget]
  · intro a b _ _
    exact Iff.rfl

theorem latestJobsWhere_bucket (store : MetadataStore) (target bucket : String) :
    store.latestJobsWhere
        (fun job => decide (job.target = target ∧ job.object.bucket = bucket))
        (fun job => job.object.key) =
      (store.replicationJobs.lastRows ReplicationJob.triple).filter
        (fun job => decide (job.target = target ∧ job.object.bucket = bucket)) := by
  apply latestJobsWhere_eq
  · intro a b hab
    have hparts : a.target = b.target ∧ a.object.bucket = b.object.bucket := by
      simp only [ReplicationJob.triple, Prod.mk.injEq] at hab
      exact ⟨hab.1, hab.2.1⟩
    rw [hparts.1, hparts.2]
  · intro a b ha hb
    simp only [decide_eq_true_eq] at ha hb
    have htarget : a.target = b.target := ha.1.trans hb.1.symm
    have hbucket : a.object.bucket = b.object.bucket := ha.2.trans hb.2.symm
    simp [ReplicationJob.triple, htarget, hbucket]

end MetadataStore

end Netdisk2Blob.Metadata
