import Netdisk2Blob.Gateway.WriteAheadLog
import Netdisk2Blob.Library.Program
import Mathlib.Logic.Function.Basic

/-!
# Requests of the Gateway

The object operations of the gateway are programs of requests to the metadata store, the
backends, the replication queue and the remote log. Each request is one lock or one await
of the source and is atomic; the environment decides whether it fails.

## Contents

- `S3Error` and the mapping of backend errors
- `GatewayState`: store, queue, the objects at every provider and the remote log
- `Request`, `Reply`, `Answer` and `handle`, what each request does
- the store operations of the source as small programs
-/

namespace Netdisk2Blob.Gateway

open Library Blob Policy Replication Metadata

/-! ## Section 1: Errors -/

structure S3Error where
  code : String
  status : Nat
  message : String
  deriving DecidableEq, Repr

namespace S3Error

def noSuchKey (bucket key : String) : S3Error :=
  ⟨"NoSuchKey", 404, s!"The specified key does not exist: {bucket}/{key}"⟩

def accessDenied (message : String) : S3Error := ⟨"AccessDenied", 403, message⟩

def invalidAccessKey : S3Error :=
  ⟨"InvalidAccessKeyId", 403, "The AWS Access Key Id you provided does not exist in our records."⟩

def invalidRequest (message : String) : S3Error := ⟨"InvalidRequest", 400, message⟩

def notImplemented (message : String) : S3Error := ⟨"NotImplemented", 501, message⟩

def entityTooLarge (message : String) : S3Error := ⟨"EntityTooLarge", 413, message⟩

def insufficientStorage (message : String) : S3Error := ⟨"InsufficientStorage", 507, message⟩

def internalError (message : String) : S3Error := ⟨"InternalError", 500, message⟩

def signatureMismatch (message : String) : S3Error := ⟨"SignatureDoesNotMatch", 403, message⟩

end S3Error

def mapBackendErrorToS3 : BlobError → S3Error
  | .configuration message => .internalError message
  | .upstream message => .internalError message
  | .bodyStream message => .internalError message
  | .interactiveInputRequired message => .internalError message
  | .notImplemented message => .notImplemented message
  | .notFound message => .internalError message

def mapObjectError (bucket key : String) : BlobError → S3Error
  | .notFound _ => .noSuchKey bucket key
  | error => mapBackendErrorToS3 error

/-! ## Section 2: State -/

/-- An object as a backend holds it. -/
structure StoredObject where
  body : Bytes
  contentType : Option String
  etag : Option String
  lastModified : Option String
  deriving DecidableEq, Repr

/-- What a backend says about an object it is given: chosen by the environment. -/
structure BackendStamp where
  etag : Option String
  lastModified : Option String
  deriving DecidableEq, Repr

structure ObjectInfo where
  key : String
  size : Nat
  etag : Option String
  contentType : Option String
  lastModified : Option String
  deriving DecidableEq, Repr

def StoredObject.info (object : StoredObject) (key : String) : ObjectInfo where
  key := key
  size := object.body.length
  etag := object.etag
  contentType := object.contentType
  lastModified := object.lastModified

structure GatewayState where
  metadataStore : MetadataStore
  replication : ReplicationEngine
  objects : ProviderId → String → String → Option StoredObject
  logRecords : List GatewayWriteAheadLogRecord

/-- What a program is for: the request itself, its rollback or its log record. -/
inductive Purpose where
  | forward
  | rollback
  | log
  deriving DecidableEq, Repr

/-! ## Section 3: Requests -/

inductive MetadataQuery where
  | objectPlacement (bucket key : String)
  | logicalObject (bucket key : String)
  | objectProtectionPlan (bucket key : String)
  | latestJobForObject (target bucket key : String)
  deriving DecidableEq, Repr

namespace MetadataQuery

def Row : MetadataQuery → Type
  | objectPlacement _ _ => Option ObjectPlacementRecord
  | logicalObject _ _ => Option LogicalObjectRecord
  | objectProtectionPlan _ _ => Option ObjectProtectionPlanRecord
  | latestJobForObject _ _ _ => Option ReplicationJob

def run (store : MetadataStore) : (query : MetadataQuery) → query.Row
  | objectPlacement bucket key => store.objectPlacement bucket key
  | logicalObject bucket key => store.logicalObject bucket key
  | objectProtectionPlan bucket key => store.objectProtectionPlan bucket key
  | latestJobForObject target bucket key => store.latestJobForObject target bucket key

end MetadataQuery

inductive MetadataUpdate where
  | upsertObjectPlacement (provider bucket key : String) (updatedAtUnixMs : Nat)
  | deleteObjectPlacement (bucket key : String)
  | upsertLogicalObject (record : LogicalObjectRecord)
  | deleteLogicalObject (bucket key : String)
  | upsertObjectProtectionPlan (record : ObjectProtectionPlanRecord)
  | deleteObjectProtectionPlan (bucket key : String)
  | deleteObjectMetadata (bucket key : String)
  | enqueueJobs (jobs : List ReplicationJob)
  deriving DecidableEq, Repr

namespace MetadataUpdate

def run (store : MetadataStore) : MetadataUpdate → MetadataStore
  | upsertObjectPlacement provider bucket key updatedAtUnixMs =>
    store.upsertObjectPlacement provider bucket key updatedAtUnixMs
  | deleteObjectPlacement bucket key => store.deleteObjectPlacement bucket key
  | upsertLogicalObject record => store.upsertLogicalObject record
  | deleteLogicalObject bucket key => store.deleteLogicalObject bucket key
  | upsertObjectProtectionPlan record => store.upsertObjectProtectionPlan record
  | deleteObjectProtectionPlan bucket key => store.deleteObjectProtectionPlan bucket key
  | deleteObjectMetadata bucket key =>
    ((store.deleteObjectPlacement bucket key).deleteObjectProtectionPlan bucket
      key).deleteLogicalObject bucket key
  | enqueueJobs jobs => store.enqueueJobs jobs

end MetadataUpdate

inductive Request where
  | readMetadata (purpose : Purpose) (query : MetadataQuery)
  | writeMetadata (purpose : Purpose) (update : MetadataUpdate)
  | allocateLsn (updatedAtUnixMs : Nat)
  | putObject (provider : ProviderId) (bucket key : String) (object : StoredObject)
  | getObject (provider : ProviderId) (bucket key : String)
  | headObject (provider : ProviderId) (bucket key : String)
  | deleteObject (purpose : Purpose) (provider : ProviderId) (bucket key : String)
  | copyObject (provider : ProviderId) (sourceBucket sourceKey bucket key : String)
      (stamp : BackendStamp)
  | putLogRecord (record : GatewayWriteAheadLogRecord)
  | enqueueJobs (topology : TopologyPolicy) (sourceProvider : Option String)
      (operation : ReplicationOperation) (object : ReplicationObjectRef) (nowUnixMs : Nat)
  | pendingJobs
  | replacePending (jobs : List ReplicationJob)
  deriving DecidableEq, Repr

namespace Request

def Reply : Request → Type
  | readMetadata _ query => Except String query.Row
  | writeMetadata _ _ => Except String Unit
  | allocateLsn _ => Except String Nat
  | putObject _ _ _ _ => Except BlobError (Option String)
  | getObject _ _ _ => Except BlobError StoredObject
  | headObject _ _ _ => Except BlobError ObjectInfo
  | deleteObject _ _ _ _ => Except BlobError Unit
  | copyObject _ _ _ _ _ _ => Except BlobError ObjectInfo
  | putLogRecord _ => Except BlobError Unit
  | enqueueJobs _ _ _ _ _ => List ReplicationJob
  | pendingJobs => List ReplicationJob
  | replacePending _ => Unit

/-- What a request is for. -/
def purpose : Request → Purpose
  | readMetadata purpose _ => purpose
  | writeMetadata purpose _ => purpose
  | deleteObject purpose _ _ _ => purpose
  | putLogRecord _ => .log
  | _ => .forward

end Request

/-- The environment's part in a request: the error it fails with, if it fails. -/
structure Answer where
  metadataError : Option String := none
  backendError : Option BlobError := none
  deriving DecidableEq, Repr

namespace Answer

def done : Answer where

def backendFails (error : BlobError) : Answer where
  backendError := some error

def metadataFails (error : String) : Answer where
  metadataError := some error

end Answer

/-- Requests that roll something back do not fail. -/
def RollbacksSucceed (operation : Request) (answer : Answer) : Prop :=
  operation.purpose = .rollback → answer.metadataError = none ∧ answer.backendError = none

instance (operation : Request) (answer : Answer) :
    Decidable (RollbacksSucceed operation answer) :=
  inferInstanceAs (Decidable (_ → _))

namespace GatewayState

def setObject (s : GatewayState) (provider : ProviderId) (bucket key : String)
    (object : Option StoredObject) : GatewayState :=
  { s with
    objects := fun p b k =>
      if p = provider ∧ b = bucket ∧ k = key then object else s.objects p b k }

/-- A log record replaces the one with its LSN and transaction id. -/
def setLogRecord (s : GatewayState) (record : GatewayWriteAheadLogRecord) : GatewayState :=
  { s with
    logRecords :=
      s.logRecords.filter
        (fun other => decide ¬ (other.lsn = record.lsn ∧ other.txId = record.txId)) ++ [record] }

end GatewayState

/-- A reply that fails with the environment's error and does something otherwise. -/
def replyUnless {ζ α : Type} (error : Option ζ) (s : GatewayState)
    (done : Except ζ α × GatewayState) : Except ζ α × GatewayState :=
  match error with
  | some error => (.error error, s)
  | none => done

section ReplyUnless

variable {ζ α : Type} {failure : Option ζ} {s t : GatewayState}
  {done : Except ζ α × GatewayState}

theorem replyUnless_ok {value : α} (h : replyUnless failure s done = (.ok value, t)) :
    done = (.ok value, t) := by
  cases failure with
  | none => exact h
  | some error => cases h

theorem replyUnless_error {error : ζ} (h : replyUnless failure s done = (.error error, t)) :
    (failure = some error ∧ t = s) ∨ done = (.error error, t) := by
  cases failure with
  | none => exact Or.inr h
  | some other =>
    cases h
    exact Or.inl ⟨rfl, rfl⟩

end ReplyUnless

def objectNotFound (bucket key : String) : BlobError :=
  .notFound s!"object not found: {bucket}/{key}"

/-- What each request does. A request that fails does nothing. -/
def handle : Program.Handler Request Request.Reply Answer GatewayState
  | .readMetadata _ query, answer, s =>
    replyUnless answer.metadataError s (.ok (query.run s.metadataStore), s)
  | .writeMetadata _ update, answer, s =>
    replyUnless answer.metadataError s
      (.ok (), { s with metadataStore := update.run s.metadataStore })
  | .allocateLsn updatedAtUnixMs, answer, s =>
    let allocated := s.metadataStore.allocateGatewayWriteAheadLogLsn updatedAtUnixMs
    replyUnless answer.metadataError s (.ok allocated.1, { s with metadataStore := allocated.2 })
  | .putObject provider bucket key object, answer, s =>
    replyUnless answer.backendError s
      (.ok object.etag, s.setObject provider bucket key (some object))
  | .getObject provider bucket key, answer, s =>
    replyUnless answer.backendError s
      (match s.objects provider bucket key with
        | some object => (.ok object, s)
        | none => (.error (objectNotFound bucket key), s))
  | .headObject provider bucket key, answer, s =>
    replyUnless answer.backendError s
      (match s.objects provider bucket key with
        | some object => (.ok (object.info key), s)
        | none => (.error (objectNotFound bucket key), s))
  | .deleteObject _ provider bucket key, answer, s =>
    replyUnless answer.backendError s (.ok (), s.setObject provider bucket key none)
  | .copyObject provider sourceBucket sourceKey bucket key stamp, answer, s =>
    replyUnless answer.backendError s
      (match s.objects provider sourceBucket sourceKey with
        | some object =>
          let copied := { object with etag := stamp.etag, lastModified := stamp.lastModified }
          (.ok (copied.info key), s.setObject provider bucket key (some copied))
        | none => (.error (objectNotFound sourceBucket sourceKey), s))
  | .putLogRecord record, answer, s =>
    replyUnless answer.backendError s (.ok (), s.setLogRecord record)
  | .enqueueJobs topology sourceProvider operation object now, _, s =>
    let enqueued := s.replication.enqueueJobs topology sourceProvider operation object now
    (enqueued.1, { s with replication := enqueued.2 })
  | .pendingJobs, _, s => (s.replication.pendingJobs, s)
  | .replacePending jobs, _, s => ((), { s with replication := s.replication.replacePending jobs })

/-- The requests that only look. -/
def Request.IsRead : Request → Prop
  | .readMetadata _ _ => True
  | .getObject _ _ _ => True
  | .headObject _ _ _ => True
  | .pendingJobs => True
  | _ => False

theorem handle_isRead {operation : Request} {answer : Answer} {s : GatewayState}
    (hread : operation.IsRead) : (handle operation answer s).2 = s := by
  cases operation with
  | readMetadata purpose query =>
    cases hanswer : answer.metadataError <;> simp only [handle, replyUnless, hanswer]
  | getObject provider bucket key =>
    cases hanswer : answer.backendError <;> simp only [handle, replyUnless, hanswer]
    cases s.objects provider bucket key <;> rfl
  | headObject provider bucket key =>
    cases hanswer : answer.backendError <;> simp only [handle, replyUnless, hanswer]
    cases s.objects provider bucket key <;> rfl
  | pendingJobs => rfl
  | writeMetadata purpose update => exact hread.elim
  | allocateLsn now => exact hread.elim
  | putObject provider b k object => exact hread.elim
  | deleteObject purpose provider b k => exact hread.elim
  | copyObject provider sourceBucket sourceKey b k stamp => exact hread.elim
  | putLogRecord record => exact hread.elim
  | enqueueJobs topology source operation object now => exact hread.elim
  | replacePending jobs => exact hread.elim

/-! ## Section 4: Single requests as programs -/

abbrev GatewayProgram (α : Type) := Program Request Request.Reply α

namespace Requests

def objectPlacement (purpose : Purpose) (bucket key : String) :
    GatewayProgram (Except String (Option ObjectPlacementRecord)) :=
  Program.issue (Request.readMetadata purpose (.objectPlacement bucket key))

def logicalObject (purpose : Purpose) (bucket key : String) :
    GatewayProgram (Except String (Option LogicalObjectRecord)) :=
  Program.issue (Request.readMetadata purpose (.logicalObject bucket key))

def objectProtectionPlan (purpose : Purpose) (bucket key : String) :
    GatewayProgram (Except String (Option ObjectProtectionPlanRecord)) :=
  Program.issue (Request.readMetadata purpose (.objectProtectionPlan bucket key))

def latestJobForObject (purpose : Purpose) (target bucket key : String) :
    GatewayProgram (Except String (Option ReplicationJob)) :=
  Program.issue (Request.readMetadata purpose (.latestJobForObject target bucket key))

def writeMetadata (purpose : Purpose) (update : MetadataUpdate) :
    GatewayProgram (Except String Unit) :=
  Program.issue (Request.writeMetadata purpose update)

def allocateLsn (updatedAtUnixMs : Nat) : GatewayProgram (Except String Nat) :=
  Program.issue (Request.allocateLsn updatedAtUnixMs)

def putObject (provider : ProviderId) (bucket key : String) (object : StoredObject) :
    GatewayProgram (Except BlobError (Option String)) :=
  Program.issue (Request.putObject provider bucket key object)

def getObject (provider : ProviderId) (bucket key : String) :
    GatewayProgram (Except BlobError StoredObject) :=
  Program.issue (Request.getObject provider bucket key)

def headObject (provider : ProviderId) (bucket key : String) :
    GatewayProgram (Except BlobError ObjectInfo) :=
  Program.issue (Request.headObject provider bucket key)

def deleteObject (purpose : Purpose) (provider : ProviderId) (bucket key : String) :
    GatewayProgram (Except BlobError Unit) :=
  Program.issue (Request.deleteObject purpose provider bucket key)

def copyObject (provider : ProviderId) (sourceBucket sourceKey bucket key : String)
    (stamp : BackendStamp) : GatewayProgram (Except BlobError ObjectInfo) :=
  Program.issue (Request.copyObject provider sourceBucket sourceKey bucket key stamp)

def putLogRecord (record : GatewayWriteAheadLogRecord) :
    GatewayProgram (Except BlobError Unit) :=
  Program.issue (Request.putLogRecord record)

def enqueueJobs (topology : TopologyPolicy) (sourceProvider : Option String)
    (operation : ReplicationOperation) (object : ReplicationObjectRef) (nowUnixMs : Nat) :
    GatewayProgram (List ReplicationJob) :=
  Program.issue (Request.enqueueJobs topology sourceProvider operation object nowUnixMs)

def pendingJobs : GatewayProgram (List ReplicationJob) := Program.issue Request.pendingJobs

def replacePending (jobs : List ReplicationJob) : GatewayProgram Unit :=
  Program.issue (Request.replacePending jobs)

end Requests

end Netdisk2Blob.Gateway
