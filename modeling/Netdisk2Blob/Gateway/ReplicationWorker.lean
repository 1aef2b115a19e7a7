import Netdisk2Blob.Library.Transition
import Netdisk2Blob.Metadata.DeadLetters
import Netdisk2Blob.Replication.Engine
import Mathlib.Logic.Function.Basic

/-!
# Clients and Replication Workers

The gateway as a system of parties that share the home backend, the targets, the in-memory
queue and the metadata store. A client changes an object at home, enqueues replication
jobs and then persists them; a worker runs `process_next_replication_job` over and over.
Every await point and every lock of the source ends a step, so the steps of any number of
clients and workers interleave freely.

What a client writes at home is represented by a version number that only goes up.

## Contents

- `WorkerPhase`, `ClientPhase`: how far each party has come
- `System`: the shared state, and what happened so far (`homeWrites`, `created`,
  `effects`, `decided`), which no step reads
- `step`: one action of one party
- `StepTo`, `stepTo_of_step`: the same as a relation, one rule for everything a step can do
-/

namespace Netdisk2Blob.Gateway

open Library Metadata Policy Replication

/-! ## Section 1: Failures -/

inductive ReplicationFailureKind where
  | retryable
  | permanent
  deriving DecidableEq, Repr

structure ReplicationFailure where
  kind : ReplicationFailureKind
  message : String
  deriving DecidableEq, Repr

/-- `ensure_job_is_current`: refuse a job with a newer job for its object. -/
def ensureJobIsCurrent (store : MetadataStore) (job : ReplicationJob) :
    Except ReplicationFailure Unit :=
  match store.latestJobForObject job.target job.object.bucket job.object.key with
  | some latest =>
    if job.jobId < latest.jobId then
      .error
        { kind := .permanent
          message := s!"replication job {job.jobId} was superseded by newer job " ++
            s!"{latest.jobId} for {job.object.bucket}/{job.object.key} on {job.target}" }
    else .ok ()
  | none => .ok ()

/-- `job.attempts.saturating_add(1)`. -/
def attemptsOf (job : ReplicationJob) : Nat := saturatingAddU32 job.attempts 1

/-- Whether a failure leads to another attempt. -/
def willRetry (retryPolicy : ReplicationRetryPolicy) (job : ReplicationJob)
    (error : ReplicationFailure) : Bool :=
  decide (error.kind = .retryable ∧ attemptsOf job < retryPolicy.maxAttempts)

def retryJob (retryPolicy : ReplicationRetryPolicy) (job : ReplicationJob)
    (error : ReplicationFailure) (nowUnixMs : Nat) : ReplicationJob :=
  { job with
    status := .retryScheduled
    attempts := attemptsOf job
    lastError := some error.message
    nextAttemptAtUnixMs := some (nowUnixMs + retryPolicy.delayForAttempt (attemptsOf job)) }

def deadLetterReason (error : ReplicationFailure) : String :=
  if error.kind = .permanent then "permanent_failure" else "max_attempts_exhausted"

/-! ## Section 2: Parties and the shared state -/

/-- How far a worker has come with its job. -/
inductive WorkerPhase where
  | idle
  | popped (job : ReplicationJob)
  | current (job : ReplicationJob)
  | sourceRead (job : ReplicationJob) (version : Nat)
  | processed (job : ReplicationJob)
  | failed (job : ReplicationJob) (error : ReplicationFailure)
  | retryPushed (job : ReplicationJob)
  deriving DecidableEq, Repr

namespace WorkerPhase

/-- The job that has been taken off the queue and has not been given back or decided. -/
def job? : WorkerPhase → Option ReplicationJob
  | popped job | current job | sourceRead job _ | processed job | failed job _ => some job
  | idle | retryPushed _ => none

/-- The row that is still to be saved. -/
def unsaved? : WorkerPhase → Option ReplicationJob
  | retryPushed job => some job
  | _ => none

/-- The job whose processing can still fail before it reached the target. -/
def inProcess? : WorkerPhase → Option ReplicationJob
  | popped job | current job | sourceRead job _ => some job
  | _ => none

/-- The target's answer: the job is processed, or its processing failed after all. -/
def afterAnswer (job : ReplicationJob) : Option ReplicationFailure → WorkerPhase
  | none => processed job
  | some error => failed job error

@[simp] theorem job?_afterAnswer (job : ReplicationJob) (answer : Option ReplicationFailure) :
    (afterAnswer job answer).job? = some job := by
  cases answer <;> rfl

@[simp] theorem unsaved?_afterAnswer (job : ReplicationJob)
    (answer : Option ReplicationFailure) : (afterAnswer job answer).unsaved? = none := by
  cases answer <;> rfl

theorem job?_of_inProcess? {phase : WorkerPhase} {job : ReplicationJob}
    (h : phase.inProcess? = some job) : phase.job? = some job := by
  cases phase with
  | popped _ => exact h
  | current _ => exact h
  | sourceRead _ _ => exact h
  | idle => exact absurd h (by simp [inProcess?])
  | processed _ => exact absurd h (by simp [inProcess?])
  | failed _ _ => exact absurd h (by simp [inProcess?])
  | retryPushed _ => exact absurd h (by simp [inProcess?])

end WorkerPhase

/-- A client between its change at home and the persisting of its jobs. -/
inductive ClientPhase where
  | idle
  | homeChanged (operation : ReplicationOperation) (bucket key : String) (version : Nat)
      (jobs : List ReplicationJob)
  deriving DecidableEq, Repr

namespace ClientPhase

/-- The jobs that are on the queue and not yet in the store. -/
def unpersisted : ClientPhase → List ReplicationJob
  | idle => []
  | homeChanged _ _ _ _ jobs => jobs

end ClientPhase

/-- What a worker decided about a job. -/
inductive Outcome where
  | completed
  | deadLettered
  deriving DecidableEq, Repr

structure Config where
  homeProvider : String
  retryPolicy : ReplicationRetryPolicy

structure System where
  home : String × String → Option Nat
  nextVersion : Nat
  targets : String × String × String → Option Nat
  store : MetadataStore
  engine : ReplicationEngine
  workers : Nat → WorkerPhase
  clients : Nat → ClientPhase
  /-- Every version ever written at home. -/
  homeWrites : List ((String × String) × Nat)
  /-- Every job ever created, with the version its client had written. -/
  created : List (ReplicationJob × Nat)
  /-- The jobs whose write or delete reached the target, in order. -/
  effects : List ReplicationJob
  decided : List (Nat × Outcome)

namespace System

/-- No object at home, an empty queue and store, everybody idle. -/
def initial (retention : MetadataRetentionPolicy) (recentLimit : Nat)
    (targets : String × String × String → Option Nat) : System where
  home := fun _ => none
  nextVersion := 1
  targets := targets
  store := MetadataStore.openFresh retention
  engine := ReplicationEngine.withRecentLimit recentLimit
  workers := fun _ => .idle
  clients := fun _ => .idle
  homeWrites := []
  created := []
  effects := []
  decided := []

def setWorker (s : System) (worker : Nat) (phase : WorkerPhase) : System :=
  { s with workers := Function.update s.workers worker phase }

def setClient (s : System) (client : Nat) (phase : ClientPhase) : System :=
  { s with clients := Function.update s.clients client phase }

/-! ## Section 3: Actions -/

/-- An object is put or deleted at the home backend. -/
def writeHome (s : System) (operation : ReplicationOperation) (bucket key : String) : System :=
  { s with
    home := Function.update s.home (bucket, key)
      (match operation with
        | .put => some s.nextVersion
        | .delete => none)
    nextVersion := s.nextVersion + 1
    homeWrites :=
      match operation with
      | .put => ((bucket, key), s.nextVersion) :: s.homeWrites
      | .delete => s.homeWrites }

/-- One `enqueue_put` or `enqueue_delete` call of a client that wrote `version`. -/
def pushJobs (s : System) (version : Nat)
    (enqueued : List ReplicationJob × ReplicationEngine) : System :=
  { s with
    engine := enqueued.2
    created := s.created ++ enqueued.1.map (fun job => (job, version)) }

/-- The target performs the write or delete of a job. -/
def performAtTarget (s : System) (job : ReplicationJob) (content : Option Nat) : System :=
  { s with
    targets := Function.update s.targets job.triple content
    effects := s.effects ++ [job] }

/-- `record_completed`, then `mark_job_status`. -/
def complete (s : System) (job : ReplicationJob) (store' : MetadataStore) : System :=
  { s with
    engine := s.engine.recordCompleted { job with attempts := attemptsOf job, lastError := none }
    store := store'
    decided := s.decided ++ [(job.jobId, Outcome.completed)] }

/-- `record_failed`, then `mark_job_dead_letter`. -/
def giveUp (s : System) (job : ReplicationJob) (error : ReplicationFailure)
    (store' : MetadataStore) : System :=
  { s with
    engine := s.engine.recordFailed { job with attempts := attemptsOf job } error.message
    store := store'
    decided := s.decided ++ [(job.jobId, Outcome.deadLettered)] }

end System

inductive Action where
  | changeHome (client : Nat) (operation : ReplicationOperation) (bucket key : String)
  | enqueuePut (client : Nat) (topology : TopologyPolicy) (etag : Option String) (size : Nat)
      (contentType : Option String) (nowUnixMs : Nat)
  | enqueueDelete (client : Nat) (topology : TopologyPolicy) (nowUnixMs : Nat)
  | persistJobs (client : Nat)
  | popNextReady (worker nowUnixMs : Nat)
  | ensureJobIsCurrent (worker : Nat)
  | readSource (worker : Nat)
  | failProcessing (worker : Nat) (error : ReplicationFailure)
  | performAtTarget (worker : Nat) (answer : Option ReplicationFailure)
  | markCompleted (worker : Nat)
  | scheduleRetry (worker nowUnixMs : Nat)
  | saveRetry (worker : Nat)
  | markDeadLetter (worker nowUnixMs : Nat)

/-- One action of one party; `none` when the party is not at that point. -/
def step (config : Config) (s : System) : Action → Option System
  | .changeHome client operation bucket key =>
    match s.clients client with
    | .idle =>
      some ((s.writeHome operation bucket key).setClient client
        (.homeChanged operation bucket key s.nextVersion []))
    | _ => none
  | .enqueuePut client topology etag size contentType now =>
    match s.clients client with
    | .homeChanged .put bucket key version jobs =>
      let enqueued := s.engine.enqueuePut topology (some config.homeProvider) bucket key etag
        size contentType now
      some ((s.pushJobs version enqueued).setClient client
        (.homeChanged .put bucket key version (jobs ++ enqueued.1)))
    | _ => none
  | .enqueueDelete client topology now =>
    -- a delete request, or the targets that a put request dropped from the plan
    match s.clients client with
    | .homeChanged operation bucket key version jobs =>
      let enqueued := s.engine.enqueueDelete topology (some config.homeProvider) bucket key now
      some ((s.pushJobs version enqueued).setClient client
        (.homeChanged operation bucket key version (jobs ++ enqueued.1)))
    | _ => none
  | .persistJobs client =>
    match s.clients client with
    | .homeChanged _ _ _ _ jobs =>
      some ({ s with store := s.store.enqueueJobs jobs }.setClient client .idle)
    | _ => none
  | .popNextReady worker now =>
    match s.workers worker with
    | .idle =>
      match s.engine.popNextReadyAt now with
      | (some job, engine') => some ({ s with engine := engine' }.setWorker worker (.popped job))
      | (none, engine') => some { s with engine := engine' }
    | _ => none
  | .ensureJobIsCurrent worker =>
    match s.workers worker with
    | .popped job =>
      match Gateway.ensureJobIsCurrent s.store job with
      | .ok () => some (s.setWorker worker (.current job))
      | .error error => some (s.setWorker worker (.failed job error))
    | _ => none
  | .readSource worker =>
    match s.workers worker with
    | .current job =>
      if job.operation = .put then
        match s.home (job.object.bucket, job.object.key) with
        | some version => some (s.setWorker worker (.sourceRead job version))
        | none => some (s.setWorker worker (.failed job
            { kind := .permanent, message := "failed to read source object: not found" }))
      else none
    | _ => none
  | .failProcessing worker error =>
    match (s.workers worker).inProcess? with
    | some job => some (s.setWorker worker (.failed job error))
    | none => none
  | .performAtTarget worker answer =>
    match s.workers worker with
    | .sourceRead job version =>
      some ((s.performAtTarget job (some version)).setWorker worker (.afterAnswer job answer))
    | .current job =>
      if job.operation = .delete then
        some ((s.performAtTarget job none).setWorker worker (.afterAnswer job answer))
      else none
    | _ => none
  | .markCompleted worker =>
    match s.workers worker with
    | .processed job =>
      match s.store.markJobStatus job.jobId .completed (attemptsOf job) none with
      | .ok (_, store') => some ((s.complete job store').setWorker worker .idle)
      | .error _ => some ((s.complete job s.store).setWorker worker .idle)
    | _ => none
  | .scheduleRetry worker now =>
    match s.workers worker with
    | .failed job error =>
      if willRetry config.retryPolicy job error then
        some ({ s with
          engine := s.engine.scheduleRetry (retryJob config.retryPolicy job error now) }.setWorker
            worker (.retryPushed (retryJob config.retryPolicy job error now)))
      else none
    | _ => none
  | .saveRetry worker =>
    match s.workers worker with
    | .retryPushed job =>
      some ({ s with store := s.store.saveJob job }.setWorker worker .idle)
    | _ => none
  | .markDeadLetter worker now =>
    match s.workers worker with
    | .failed job error =>
      if willRetry config.retryPolicy job error then none
      else
        match s.store.markJobDeadLetter job.jobId (attemptsOf job) (some error.message)
            (deadLetterReason error) now with
        | .ok (_, store') => some ((s.giveUp job error store').setWorker worker .idle)
        | .error _ => some ((s.giveUp job error s.store).setWorker worker .idle)
    | _ => none

/-! ## Section 4: What a step can do -/

/-- The steps as rules, with everything each of them reads. An error of the store when a
worker marks its decision is only logged. -/
inductive StepTo (config : Config) (s : System) : Action → System → Prop where
  | changeHome {client operation bucket key} (hclient : s.clients client = .idle) :
    StepTo config s (.changeHome client operation bucket key)
      ((s.writeHome operation bucket key).setClient client
        (.homeChanged operation bucket key s.nextVersion []))
  | enqueue {action client operation bucket key version jobs topology enqueuedOperation object now}
    (hclient : s.clients client = .homeChanged operation bucket key version jobs)
    (hobject : object.bucket = bucket ∧ object.key = key) :
    StepTo config s action
      ((s.pushJobs version (s.engine.enqueueJobs topology (some config.homeProvider)
        enqueuedOperation object now)).setClient client
          (.homeChanged operation bucket key version
            (jobs ++ (s.engine.enqueueJobs topology (some config.homeProvider)
              enqueuedOperation object now).1)))
  | persistJobs {client operation bucket key version jobs}
    (hclient : s.clients client = .homeChanged operation bucket key version jobs) :
    StepTo config s (.persistJobs client)
      ({ s with store := s.store.enqueueJobs jobs }.setClient client .idle)
  | popped {worker now job engine'} (hworker : s.workers worker = .idle)
    (hpop : s.engine.popNextReadyAt now = (some job, engine')) :
    StepTo config s (.popNextReady worker now)
      ({ s with engine := engine' }.setWorker worker (.popped job))
  | nothingReady {worker now} (hworker : s.workers worker = .idle) :
    StepTo config s (.popNextReady worker now) s
  | current {worker job} (hworker : s.workers worker = .popped job)
    (hcurrent : Gateway.ensureJobIsCurrent s.store job = .ok ()) :
    StepTo config s (.ensureJobIsCurrent worker) (s.setWorker worker (.current job))
  | sourceRead {worker job version} (hworker : s.workers worker = .current job)
    (hput : job.operation = .put)
    (hhome : s.home (job.object.bucket, job.object.key) = some version) :
    StepTo config s (.readSource worker) (s.setWorker worker (.sourceRead job version))
  | failed {action worker job error} (hworker : (s.workers worker).inProcess? = some job) :
    StepTo config s action (s.setWorker worker (.failed job error))
  | put {worker answer job version} (hworker : s.workers worker = .sourceRead job version) :
    StepTo config s (.performAtTarget worker answer)
      ((s.performAtTarget job (some version)).setWorker worker (.afterAnswer job answer))
  | delete {worker answer job} (hworker : s.workers worker = .current job)
    (hdelete : job.operation = .delete) :
    StepTo config s (.performAtTarget worker answer)
      ((s.performAtTarget job none).setWorker worker (.afterAnswer job answer))
  | completed {worker job store'} (hworker : s.workers worker = .processed job)
    (hmark : (∃ pruned, s.store.markJobStatus job.jobId .completed (attemptsOf job) none =
        .ok (pruned, store')) ∨
      (store' = s.store ∧
        ∃ error, s.store.markJobStatus job.jobId .completed (attemptsOf job) none =
          .error error)) :
    StepTo config s (.markCompleted worker) ((s.complete job store').setWorker worker .idle)
  | retryPushed {worker now job error} (hworker : s.workers worker = .failed job error) :
    StepTo config s (.scheduleRetry worker now)
      ({ s with
        engine := s.engine.scheduleRetry (retryJob config.retryPolicy job error now) }.setWorker
          worker (.retryPushed (retryJob config.retryPolicy job error now)))
  | retrySaved {worker job} (hworker : s.workers worker = .retryPushed job) :
    StepTo config s (.saveRetry worker)
      ({ s with store := s.store.saveJob job }.setWorker worker .idle)
  | deadLettered {worker now job error store'} (hworker : s.workers worker = .failed job error)
    (hmark : (∃ entry, s.store.markJobDeadLetter job.jobId (attemptsOf job) (some error.message)
        (deadLetterReason error) now = .ok (entry, store')) ∨
      (store' = s.store ∧
        ∃ storeError, s.store.markJobDeadLetter job.jobId (attemptsOf job)
          (some error.message) (deadLetterReason error) now = .error storeError)) :
    StepTo config s (.markDeadLetter worker now)
      ((s.giveUp job error store').setWorker worker .idle)

theorem stepTo_of_step {config : Config} {s s' : System} {action : Action}
    (h : step config s action = some s') : StepTo config s action s' := by
  cases action with
  | changeHome client operation bucket key =>
    simp only [step] at h
    split at h
    · obtain rfl := Option.some.inj h
      exact .changeHome ‹_›
    · exact absurd h (by simp)
  | enqueuePut client topology etag size contentType now =>
    simp only [step] at h
    split at h
    · obtain rfl := Option.some.inj h
      exact .enqueue ‹_› ⟨rfl, rfl⟩
    · exact absurd h (by simp)
  | enqueueDelete client topology now =>
    simp only [step] at h
    split at h
    · obtain rfl := Option.some.inj h
      exact .enqueue ‹_› ⟨rfl, rfl⟩
    · exact absurd h (by simp)
  | persistJobs client =>
    simp only [step] at h
    split at h
    · obtain rfl := Option.some.inj h
      exact .persistJobs ‹_›
    · exact absurd h (by simp)
  | popNextReady worker now =>
    simp only [step] at h
    split at h
    · split at h
      · obtain rfl := Option.some.inj h
        exact .popped ‹_› ‹_›
      · -- a scan that finds nothing leaves the queue as it was
        rename_i hnone
        obtain rfl := Option.some.inj h
        rw [ReplicationEngine.popNextReadyAt_none hnone]
        exact .nothingReady ‹_›
    · exact absurd h (by simp)
  | ensureJobIsCurrent worker =>
    simp only [step] at h
    split at h
    · rename_i job hworker
      split at h
      · obtain rfl := Option.some.inj h
        exact .current hworker ‹_›
      · obtain rfl := Option.some.inj h
        exact .failed (by rw [hworker]; rfl)
    · exact absurd h (by simp)
  | readSource worker =>
    simp only [step] at h
    split at h
    · rename_i job hworker
      split_ifs at h with hput
      split at h
      · obtain rfl := Option.some.inj h
        exact .sourceRead hworker hput ‹_›
      · obtain rfl := Option.some.inj h
        exact .failed (by rw [hworker]; rfl)
    · exact absurd h (by simp)
  | failProcessing worker error =>
    simp only [step] at h
    split at h
    · obtain rfl := Option.some.inj h
      exact .failed ‹_›
    · exact absurd h (by simp)
  | performAtTarget worker answer =>
    simp only [step] at h
    split at h
    · obtain rfl := Option.some.inj h
      exact .put ‹_›
    · split_ifs at h with hdelete
      obtain rfl := Option.some.inj h
      exact .delete ‹_› hdelete
    · exact absurd h (by simp)
  | markCompleted worker =>
    simp only [step] at h
    split at h
    · split at h
      · obtain rfl := Option.some.inj h
        exact .completed ‹_› (Or.inl ⟨_, ‹_›⟩)
      · obtain rfl := Option.some.inj h
        exact .completed ‹_› (Or.inr ⟨rfl, _, ‹_›⟩)
    · exact absurd h (by simp)
  | scheduleRetry worker now =>
    simp only [step] at h
    split at h
    · split_ifs at h
      obtain rfl := Option.some.inj h
      exact .retryPushed ‹_›
    · exact absurd h (by simp)
  | saveRetry worker =>
    simp only [step] at h
    split at h
    · obtain rfl := Option.some.inj h
      exact .retrySaved ‹_›
    · exact absurd h (by simp)
  | markDeadLetter worker now =>
    simp only [step] at h
    split at h
    · split_ifs at h
      split at h
      · obtain rfl := Option.some.inj h
        exact .deadLettered ‹_› (Or.inl ⟨_, ‹_›⟩)
      · obtain rfl := Option.some.inj h
        exact .deadLettered ‹_› (Or.inr ⟨rfl, _, ‹_›⟩)
    · exact absurd h (by simp)

/-! ## Section 5: A sample run -/

def sampleConfig : Config where
  homeProvider := "unicom"
  retryPolicy := { maxAttempts := 3, baseDelayMs := 1000, maxDelayMs := 60000 }

def sampleTopology : TopologyPolicy where
  primaryProvider := .unicom
  syncTargets := [.onedrive]
  fallbackReadOrder := [.onedrive]
  onedriveEnabled := true
  replicationMode := .asyncBackup

/-- A client puts an object at home and persists its job; a worker takes the job and reads
the source. -/
def putUntilRead : List Action :=
  [.changeHome 0 .put "bucket-a" "hello.txt", .enqueuePut 0 sampleTopology none 12 none 10,
    .persistJobs 0, .popNextReady 0 20, .ensureJobIsCurrent 0, .readSource 0]

end Netdisk2Blob.Gateway
