import Netdisk2Blob.Policy.Topology
import Netdisk2Blob.Replication.Job
import Mathlib.Data.List.Perm.Basic

/-!
# The In-Memory Replication Queue

`ReplicationEngine`: a counter for job ids, a queue of jobs to run and a bounded list
of finished jobs. Every operation takes the queue lock once, so each is one function
from engine to engine.

## Contents

- `popNextReadyAt` rotates past jobs whose retry time has not come; it returns a job
  and leaves the rest of the queue (`popNextReadyAt_some`), or changes nothing
  (`popNextReadyAt_none`)
- `enqueueJobs` makes one job per sync target other than the source provider, with
  consecutive ids, and pushes them (`enqueueJobs_pendingJobs`)
- `replacePending` overwrites the queue with an earlier copy of it
-/

namespace Netdisk2Blob.Replication

open Library Policy

structure ReplicationEngine where
  nextJobId : Nat
  pendingJobs : List ReplicationJob
  recentJobs : List ReplicationJob
  recentLimit : Nat
  deriving DecidableEq, Repr

namespace ReplicationEngine

def withRecentLimit (recentLimit : Nat) : ReplicationEngine where
  nextJobId := 1
  pendingJobs := []
  recentJobs := []
  recentLimit := recentLimit

/-! ## Section 1: Taking a job off the queue -/

/-- The scan of `pop_next_ready_at`: at most `n` jobs are looked at, and each job that is
not ready goes to the back. -/
def popLoop (nowUnixMs : Nat) :
    Nat → List ReplicationJob → Option ReplicationJob × List ReplicationJob
  | 0, queue => (none, queue)
  | _ + 1, [] => (none, [])
  | n + 1, job :: rest =>
    match job.nextAttemptAtUnixMs with
    | none => (some job, rest)
    | some nextAttemptAt =>
      if nextAttemptAt ≤ nowUnixMs then (some job, rest)
      else popLoop nowUnixMs n (rest ++ [job])

def popNextReadyAt (engine : ReplicationEngine) (nowUnixMs : Nat) :
    Option ReplicationJob × ReplicationEngine :=
  let popped := popLoop nowUnixMs engine.pendingJobs.length engine.pendingJobs
  (popped.1, { engine with pendingJobs := popped.2 })

/-- A job that is popped was in the queue, and the rest of the queue stays. -/
theorem popLoop_some {now n : Nat} {queue rest : List ReplicationJob} {job : ReplicationJob}
    (h : popLoop now n queue = (some job, rest)) : queue.Perm (job :: rest) := by
  induction n generalizing queue with
  | zero => simp [popLoop] at h
  | succ n ih =>
    cases queue with
    | nil => simp [popLoop] at h
    | cons head tail =>
      rw [popLoop] at h
      split at h
      · obtain ⟨hjob, hrest⟩ := Prod.mk.inj h
        cases hjob
        rw [hrest]
      · split_ifs at h
        · obtain ⟨hjob, hrest⟩ := Prod.mk.inj h
          cases hjob
          rw [hrest]
        · have hrot : (head :: tail).Perm (tail ++ [head]) :=
            (List.perm_append_singleton head tail).symm
          exact hrot.trans (ih h)

/-- A full scan that finds no job leaves the queue in its order. -/
theorem popLoop_none {now : Nat} {front back rest : List ReplicationJob}
    (h : popLoop now front.length (front ++ back) = (none, rest)) : rest = back ++ front := by
  induction front generalizing back with
  | nil =>
    simp only [List.length_nil, List.nil_append, popLoop, Prod.mk.injEq, true_and] at h
    simp [← h]
  | cons head tail ih =>
    rw [List.length_cons, List.cons_append, popLoop] at h
    split at h
    · simp at h
    · split_ifs at h
      · simp at h
      · rw [List.append_assoc] at h
        rw [ih h, List.append_assoc, List.singleton_append]

theorem popNextReadyAt_some {engine engine' : ReplicationEngine} {now : Nat}
    {job : ReplicationJob} (h : engine.popNextReadyAt now = (some job, engine')) :
    engine.pendingJobs.Perm (job :: engine'.pendingJobs) ∧
      engine'.nextJobId = engine.nextJobId := by
  simp only [popNextReadyAt, Prod.mk.injEq] at h
  obtain ⟨hjob, rfl⟩ := h
  exact ⟨popLoop_some (Prod.ext hjob rfl), rfl⟩

theorem popNextReadyAt_none {engine engine' : ReplicationEngine} {now : Nat}
    (h : engine.popNextReadyAt now = (none, engine')) : engine' = engine := by
  simp only [popNextReadyAt, Prod.mk.injEq] at h
  obtain ⟨hnone, rfl⟩ := h
  have hrest : popLoop now engine.pendingJobs.length (engine.pendingJobs ++ []) =
      (none, (popLoop now engine.pendingJobs.length engine.pendingJobs).2) := by
    rw [List.append_nil]
    exact Prod.ext hnone rfl
  have := popLoop_none hrest
  simp only [List.nil_append] at this
  rw [this]

/-! ## Section 2: Putting jobs on the queue -/

def scheduleRetry (engine : ReplicationEngine) (job : ReplicationJob) : ReplicationEngine :=
  { engine with pendingJobs := engine.pendingJobs ++ [job] }

def enqueueExistingJob (engine : ReplicationEngine) (job : ReplicationJob) :
    ReplicationEngine :=
  { engine with pendingJobs := engine.pendingJobs ++ [job] }

/-- The jobs of one request: one per sync target other than the source provider, with ids
from `nextJobId` on. -/
def createJobs (sourceProvider : Option String) (operation : ReplicationOperation)
    (object : ReplicationObjectRef) (nowUnixMs : Nat) :
    Nat → List ProviderId → List ReplicationJob
  | _, [] => []
  | nextJobId, target :: targets =>
    if sourceProvider = some target.asStr then
      createJobs sourceProvider operation object nowUnixMs nextJobId targets
    else
      { jobId := nextJobId
        target := target.asStr
        sourceProvider := sourceProvider
        operation := operation
        object := object
        status := .pending
        attempts := 0
        enqueuedAtUnixMs := nowUnixMs
        nextAttemptAtUnixMs := none
        lastError := none } ::
      createJobs sourceProvider operation object nowUnixMs (nextJobId + 1) targets

def enqueueJobs (engine : ReplicationEngine) (topology : TopologyPolicy)
    (sourceProvider : Option String) (operation : ReplicationOperation)
    (object : ReplicationObjectRef) (nowUnixMs : Nat) :
    List ReplicationJob × ReplicationEngine :=
  let created :=
    createJobs sourceProvider operation object nowUnixMs engine.nextJobId topology.syncTargets
  (created,
    { engine with
      nextJobId := engine.nextJobId + created.length
      pendingJobs := engine.pendingJobs ++ created })

def enqueuePut (engine : ReplicationEngine) (topology : TopologyPolicy)
    (sourceProvider : Option String) (bucket key : String) (etag : Option String) (size : Nat)
    (contentType : Option String) (nowUnixMs : Nat) :
    List ReplicationJob × ReplicationEngine :=
  engine.enqueueJobs topology sourceProvider .put
    { bucket := bucket, key := key, etag := etag, size := some size, contentType := contentType }
    nowUnixMs

def enqueueDelete (engine : ReplicationEngine) (topology : TopologyPolicy)
    (sourceProvider : Option String) (bucket key : String) (nowUnixMs : Nat) :
    List ReplicationJob × ReplicationEngine :=
  engine.enqueueJobs topology sourceProvider .delete
    { bucket := bucket, key := key, etag := none, size := none, contentType := none }
    nowUnixMs

section CreateJobs

variable {source : Option String} {operation : ReplicationOperation}
  {object : ReplicationObjectRef} {now : Nat}

/-- What every created job looks like. -/
theorem mem_createJobs {targets : List ProviderId} {next : Nat} {job : ReplicationJob}
    (h : job ∈ createJobs source operation object now next targets) :
    (∃ target ∈ targets, job.target = target.asStr ∧ source ≠ some target.asStr) ∧
      job.sourceProvider = source ∧ job.operation = operation ∧ job.object = object ∧
      job.status = .pending ∧ job.enqueuedAtUnixMs = now ∧ next ≤ job.jobId := by
  induction targets generalizing next with
  | nil => simp [createJobs] at h
  | cons target targets ih =>
    rw [createJobs] at h
    split_ifs at h with hsource
    · obtain ⟨⟨t, ht, htarget⟩, hrest⟩ := ih h
      exact ⟨⟨t, List.mem_cons_of_mem _ ht, htarget⟩, hrest⟩
    · rcases List.mem_cons.mp h with rfl | h
      · exact ⟨⟨target, List.mem_cons_self, rfl, hsource⟩, rfl, rfl, rfl, rfl, rfl, le_refl _⟩
      · obtain ⟨⟨t, ht, htarget⟩, h1, h2, h3, h4, h5, hid⟩ := ih h
        exact ⟨⟨t, List.mem_cons_of_mem _ ht, htarget⟩, h1, h2, h3, h4, h5, by omega⟩

/-- Every sync target other than the source provider gets a job. -/
theorem exists_createJobs {targets : List ProviderId} {next : Nat} {target : ProviderId}
    (htarget : target ∈ targets) (hsource : source ≠ some target.asStr) :
    ∃ job ∈ createJobs source operation object now next targets, job.target = target.asStr := by
  induction targets generalizing next with
  | nil => simp at htarget
  | cons head targets ih =>
    rw [createJobs]
    split_ifs with hhead
    · rcases List.mem_cons.mp htarget with rfl | htail
      · exact absurd hhead hsource
      · exact ih htail
    · rcases List.mem_cons.mp htarget with rfl | htail
      · exact ⟨_, List.mem_cons_self, rfl⟩
      · obtain ⟨job, hjob, heq⟩ := @ih (next + 1) htail
        exact ⟨job, List.mem_cons_of_mem _ hjob, heq⟩

/-- No job is made exactly when the source provider is the only target. -/
theorem createJobs_eq_nil {targets : List ProviderId} {next : Nat} :
    createJobs source operation object now next targets = [] ↔
      ∀ target ∈ targets, source = some target.asStr := by
  induction targets generalizing next with
  | nil => simp [createJobs]
  | cons target targets ih =>
    rw [createJobs, List.forall_mem_cons]
    split_ifs with hsource
    · rw [ih]
      exact ⟨fun hrest => ⟨hsource, hrest⟩, fun h => h.2⟩
    · exact ⟨fun hnil => absurd hnil (by simp), fun h => absurd h.1 hsource⟩

/-- The ids of created jobs are consecutive from the counter on. -/
theorem createJobs_jobId {targets : List ProviderId} {next : Nat} :
    (createJobs source operation object now next targets).map (·.jobId) =
      List.range' next (createJobs source operation object now next targets).length := by
  induction targets generalizing next with
  | nil => rfl
  | cons target targets ih =>
    rw [createJobs]
    split_ifs
    · exact ih
    · rw [List.map_cons, List.length_cons, List.range'_succ, ih]

end CreateJobs

section EnqueueJobs

variable {engine : ReplicationEngine} {topology : TopologyPolicy} {source : Option String}
  {operation : ReplicationOperation} {object : ReplicationObjectRef} {now : Nat}

@[simp] theorem enqueueJobs_pendingJobs :
    (engine.enqueueJobs topology source operation object now).2.pendingJobs =
      engine.pendingJobs ++ (engine.enqueueJobs topology source operation object now).1 := rfl

@[simp] theorem enqueueJobs_nextJobId :
    (engine.enqueueJobs topology source operation object now).2.nextJobId =
      engine.nextJobId +
        (engine.enqueueJobs topology source operation object now).1.length := rfl

/-- The jobs of one request have ids that no earlier job has, and are below the counter. -/
theorem enqueueJobs_jobId_mem {job : ReplicationJob}
    (h : job ∈ (engine.enqueueJobs topology source operation object now).1) :
    engine.nextJobId ≤ job.jobId ∧
      job.jobId < (engine.enqueueJobs topology source operation object now).2.nextJobId := by
  have hmem : job.jobId ∈
      ((engine.enqueueJobs topology source operation object now).1).map (·.jobId) :=
    List.mem_map_of_mem h
  simp only [enqueueJobs] at hmem ⊢
  rw [createJobs_jobId, List.mem_range'_1] at hmem
  omega

theorem enqueueJobs_nodup :
    (((engine.enqueueJobs topology source operation object now).1).map (·.jobId)).Nodup := by
  simp only [enqueueJobs]
  rw [createJobs_jobId]
  exact List.nodup_range'

end EnqueueJobs

def allocateJobId (engine : ReplicationEngine) : Nat × ReplicationEngine :=
  (engine.nextJobId, { engine with nextJobId := engine.nextJobId + 1 })

/-- `fetch_max` on the job id counter. -/
def ensureNextJobIdAtLeast (engine : ReplicationEngine) (nextJobId : Nat) : ReplicationEngine :=
  { engine with nextJobId := max engine.nextJobId (max nextJobId 1) }

/-! ## Section 3: Finished jobs -/

/-- Append to the recent list and drop the overflow from its front. -/
def pushRecent (engine : ReplicationEngine) (job : ReplicationJob) : ReplicationEngine :=
  let recent := engine.recentJobs ++ [job]
  { engine with recentJobs := recent.drop (recent.length - engine.recentLimit) }

def recordCompleted (engine : ReplicationEngine) (job : ReplicationJob) : ReplicationEngine :=
  engine.pushRecent { job with status := .completed, nextAttemptAtUnixMs := none }

def recordFailed (engine : ReplicationEngine) (job : ReplicationJob) (error : String) :
    ReplicationEngine :=
  engine.pushRecent
    { job with status := .failed, nextAttemptAtUnixMs := none, lastError := some error }

/-! ## Section 4: Replacing the queue -/

/-- `jobs.iter().map(|job| job.job_id).max().unwrap_or(0)`. -/
def maxJobId (jobs : List ReplicationJob) : Nat := (jobs.map (·.jobId)).foldl max 0

/-- Overwrite the whole queue and forget the finished jobs. -/
def replacePending (engine : ReplicationEngine) (jobs : List ReplicationJob) :
    ReplicationEngine :=
  { engine.ensureNextJobIdAtLeast (max (saturatingAddU64 (maxJobId jobs) 1) 1) with
    pendingJobs := jobs
    recentJobs := [] }

theorem le_replacePending_nextJobId (engine : ReplicationEngine) (jobs : List ReplicationJob) :
    engine.nextJobId ≤ (engine.replacePending jobs).nextJobId :=
  le_max_left _ _

end ReplicationEngine

end Netdisk2Blob.Replication
