import Netdisk2Blob.Library.Bytes

/-!
# Replication Jobs

The data a replication job carries from the request that enqueues it to the worker
that runs it, and the retry policy of the worker.
-/

namespace Netdisk2Blob.Replication

open Library

inductive ReplicationOperation where
  | put
  | delete
  deriving DecidableEq, Repr

inductive ReplicationStatus where
  | pending
  | retryScheduled
  | completed
  | failed
  deriving DecidableEq, Repr

namespace ReplicationStatus

/-- The statuses of a job that a worker may still run. -/
def isRunnable : ReplicationStatus → Bool
  | pending | retryScheduled => true
  | completed | failed => false

end ReplicationStatus

structure ReplicationObjectRef where
  bucket : String
  key : String
  etag : Option String
  size : Option Nat
  contentType : Option String
  deriving DecidableEq, Repr

structure ReplicationJob where
  jobId : Nat
  target : String
  sourceProvider : Option String
  operation : ReplicationOperation
  object : ReplicationObjectRef
  status : ReplicationStatus
  attempts : Nat
  enqueuedAtUnixMs : Nat
  nextAttemptAtUnixMs : Option Nat
  lastError : Option String
  deriving DecidableEq, Repr

namespace ReplicationJob

/-- The object on the target that a job is about: target, bucket and key. -/
def triple (job : ReplicationJob) : String × String × String :=
  (job.target, job.object.bucket, job.object.key)

/-- What a job does: everything but its bookkeeping fields. -/
def spec (job : ReplicationJob) :
    String × Option String × ReplicationOperation × ReplicationObjectRef :=
  (job.target, job.sourceProvider, job.operation, job.object)

/-- The job made runnable again, from its first attempt on. -/
def requeued (job : ReplicationJob) (enqueuedAtUnixMs : Nat) : ReplicationJob :=
  { job with
    status := .pending
    attempts := 0
    enqueuedAtUnixMs := enqueuedAtUnixMs
    nextAttemptAtUnixMs := none
    lastError := none }

/-- The job with a new status and a new error, and no retry time. -/
def withOutcome (job : ReplicationJob) (status : ReplicationStatus) (attempts : Nat)
    (lastError : Option String) : ReplicationJob :=
  { job with
    status := status
    attempts := attempts
    lastError := lastError
    nextAttemptAtUnixMs := none }

@[simp] theorem requeued_jobId (job : ReplicationJob) (now : Nat) :
    (job.requeued now).jobId = job.jobId := rfl

@[simp] theorem withOutcome_jobId (job : ReplicationJob) (status : ReplicationStatus)
    (attempts : Nat) (lastError : Option String) :
    (job.withOutcome status attempts lastError).jobId = job.jobId := rfl

theorem triple_eq_of_spec_eq {a b : ReplicationJob} (h : a.spec = b.spec) :
    a.triple = b.triple := by
  simp only [spec, Prod.mk.injEq] at h
  simp [triple, h.1, h.2.2.2]

theorem operation_eq_of_spec_eq {a b : ReplicationJob} (h : a.spec = b.spec) :
    a.operation = b.operation := by
  simp only [spec, Prod.mk.injEq] at h
  exact h.2.2.1

theorem object_eq_of_spec_eq {a b : ReplicationJob} (h : a.spec = b.spec) :
    a.object = b.object := by
  simp only [spec, Prod.mk.injEq] at h
  exact h.2.2.2

end ReplicationJob

structure ReplicationRetryPolicy where
  maxAttempts : Nat
  baseDelayMs : Nat
  maxDelayMs : Nat
  deriving DecidableEq, Repr

namespace ReplicationRetryPolicy

/-- Exponential backoff: the base delay doubled at most twenty times, capped. -/
def delayForAttempt (policy : ReplicationRetryPolicy) (attempts : Nat) : Nat :=
  if policy.baseDelayMs = 0 then 0
  else
    let shift := min (attempts - 1) 20
    min (saturatingMulU64 policy.baseDelayMs (2 ^ shift)) (max policy.maxDelayMs policy.baseDelayMs)

end ReplicationRetryPolicy

end Netdisk2Blob.Replication
