import Netdisk2Blob.Backup.ExportedBundles
import Netdisk2Blob.Gateway.ReplayCleanStop

/-!
# Backup Runs beside Logged Requests

A backup run reads the tables and the counters of the log, stores the archive, drops old
archives, moves the checkpoint to the LSN before the `next_lsn` it read last and deletes
committed log records up to the checkpoint. Logged PUT and DELETE requests go on beside it,
one step at a time, and the gateway may stop anywhere.

## Contents

- `LoggedRequest`: a request with the steps between its log record and the mark of it
- `CheckpointSystem`, its actions and `CheckpointSystem.step`
- `CheckpointSafe`: open records stay above the replay floor, and the newest archive with the
  remaining records gives every committed operation
- `CheckpointSystem.Guard`: the runs in which this holds
-/

namespace Netdisk2Blob.Backup

open Library Blob Policy Replication Metadata Gateway Gateway.Operations

/-! ## Section 1: Requests -/

/-- A step of a request: a transaction of the store, or a call at the home backend. -/
inductive RequestStep where
  | update (change : MetadataUpdate)
  | putHome
  | deleteHome
  deriving DecidableEq, Repr

inductive RequestKind where
  /-- `etag` is the one that the upload or the body gives -/
  | put (logical : LogicalObjectRecord) (syncTargets fallbackReadOrder : List ProviderId)
      (etag : Option String)
  | delete (syncTargets : List ProviderId)
  deriving DecidableEq, Repr

/-- A request with what the policies and the clock say about it. -/
structure RequestInput where
  bucket : String
  key : String
  homeProvider : ProviderId
  kind : RequestKind
  jobs : List ReplicationJob
  placedAtUnixMs : Nat
  planUpdatedAtUnixMs : Nat
  deriving DecidableEq, Repr

namespace RequestInput

variable (input : RequestInput) (previous : MetadataStore.ObjectMetadata)

/-- The logical record before the upload: no ETag is known yet. -/
def desiredLogicalRecord (logical : LogicalObjectRecord) : LogicalObjectRecord :=
  { logical with bucket := input.bucket, key := input.key, etag := none }

def logEntry : LogEntry :=
  match input.kind with
  | .put logical syncTargets fallbackReadOrder _ =>
    { operation := .put
      bucket := input.bucket
      key := input.key
      homeProvider := input.homeProvider
      logicalRecord := some (input.desiredLogicalRecord logical)
      syncTargets := syncTargets
      fallbackReadOrder := fallbackReadOrder
      previous := previous }
  | .delete syncTargets =>
    { operation := .delete
      bucket := input.bucket
      key := input.key
      homeProvider := input.homeProvider
      logicalRecord := previous.logical
      syncTargets := syncTargets
      fallbackReadOrder := []
      previous := previous }

/-- What a request does when nothing fails. -/
def steps : List RequestStep :=
  match input.kind with
  | .put logical syncTargets fallbackReadOrder etag =>
    [.update (.upsertObjectPlacement input.homeProvider.asStr input.bucket input.key
        input.placedAtUnixMs),
      .update (.upsertLogicalObject (input.desiredLogicalRecord logical)),
      .putHome,
      .update (.upsertObjectProtectionPlan (protectionPlanRecord input.bucket input.key
        syncTargets fallbackReadOrder input.planUpdatedAtUnixMs)),
      .update (.upsertLogicalObject { input.desiredLogicalRecord logical with etag := etag }),
      .update (.enqueueJobs input.jobs)]
  | .delete _ =>
    [.deleteHome, .update (.deleteObjectMetadata input.bucket input.key),
      .update (.enqueueJobs input.jobs)]

/-- `restore_previous_object_write_state` -/
def restoreWriteState : List RequestStep :=
  [.update (match previous.placement with
      | some record =>
        .upsertObjectPlacement record.provider input.bucket input.key record.updatedAtUnixMs
      | none => .deleteObjectPlacement input.bucket input.key),
    .update (match previous.logical with
      | some record => .upsertLogicalObject record
      | none => .deleteLogicalObject input.bucket input.key)]

/-- `ensure_previous_object_metadata_state` -/
def restoreMetadataState : List RequestStep :=
  input.restoreWriteState previous ++
    [.update (match previous.protectionPlan with
      | some record => .upsertObjectProtectionPlan record
      | none => .deleteObjectProtectionPlan input.bucket input.key)]

/-- What is done when the step after the first `done` ones fails, and whether the log record
is marked as rolled back after it. A PUT whose upload is rejected fails after its third step
too; an error in the plan or later takes all rows back and leaves the log alone, and so does
every error of a DELETE. -/
def rollback (done : Nat) (rejected deletesHome : Bool) : List RequestStep × Bool :=
  let cleanup : List RequestStep := if deletesHome then [.deleteHome] else []
  match input.kind with
  | .put _ _ _ _ =>
    if done = 0 then ([], true)
    else if done < 3 then (input.restoreWriteState previous, true)
    else if done = 3 ∧ rejected then (input.restoreWriteState previous ++ cleanup, true)
    else (input.restoreMetadataState previous ++ cleanup, false)
  | .delete _ => if done = 0 then ([], false) else (input.restoreMetadataState previous, false)

/-- The rows that a request leaves, without their times. -/
def facts : ObjectFacts :=
  match input.kind with
  | .put logical syncTargets fallbackReadOrder etag =>
    { provider := some input.homeProvider.asStr
      logical := some
        { input.desiredLogicalRecord logical with etag := etag, updatedAtUnixMs := 0 }
      plan :=
        some (csvFromProviderIds syncTargets,
          csvFromProviderIds (sanitizeFallbackOrderForSyncTargets syncTargets
            fallbackReadOrder)) }
  | .delete _ => ⟨none, none, none⟩

/-- The log holds the logical record that the request leaves. -/
def LogsWhatItLeaves : Prop :=
  match input.kind with
  | .put _ _ _ etag => etag = none
  | .delete _ => True

instance : Decidable input.LogsWhatItLeaves := by
  unfold LogsWhatItLeaves
  cases input.kind <;> infer_instance

end RequestInput

/-- Where a request is. The rows of the object have been read when it arrives. -/
inductive RequestStage where
  | arrived
  /-- the LSN is taken, the record is on its way to the remote -/
  | allocated (record : GatewayWriteAheadLogRecord)
  | working (record : GatewayWriteAheadLogRecord) (done : Nat)
  | rollingBack (record : GatewayWriteAheadLogRecord) (left : List RequestStep) (marks : Bool)
  deriving DecidableEq, Repr

def RequestStage.record? : RequestStage → Option GatewayWriteAheadLogRecord
  | arrived => none
  | allocated record | working record _ | rollingBack record _ _ => some record

structure LoggedRequest where
  input : RequestInput
  previous : MetadataStore.ObjectMetadata
  stage : RequestStage
  deriving DecidableEq, Repr

/-! ## Section 2: The system -/

inductive ArchiveLocation where
  | localDirectory
  | remoteProvider
  deriving DecidableEq, Repr

structure StoredArchive where
  location : ArchiveLocation
  fileName : String
  bundle : GatewayBackupMetadataPayload
  deriving DecidableEq, Repr

inductive BackupRun where
  | idle
  | reading (phase : ExportPhase)
  /-- the archive is built, and stored at these places so far -/
  | built (bundle : GatewayBackupMetadataPayload) (stored : List ArchiveLocation)
  | checkpointed
  /-- the LSN and transaction id of the listed log records that are still to be looked at -/
  | cleaning (listed : List (Nat × String))

/-- An operation whose record was marked as committed. -/
structure CommittedOperation where
  lsn : Nat
  input : RequestInput
  deriving DecidableEq, Repr

/-- The store, which home objects exist, the remote log, the requests on their way by number,
the backup run, the archives oldest first; then what has happened: the records that were
prepared and neither committed nor rolled back, the operations that were committed, and the
records that a cleanup has deleted. -/
structure CheckpointSystem where
  metadataStore : MetadataStore
  homeObjects : List (ProviderId × String × String)
  logRecords : List GatewayWriteAheadLogRecord
  requests : Nat → Option LoggedRequest
  backup : BackupRun
  archives : List StoredArchive
  prepared : List GatewayWriteAheadLogRecord
  committed : List CommittedOperation
  cleaned : List GatewayWriteAheadLogRecord
  stopped : Bool

inductive CheckpointAction where
  | arrive (i : Nat) (input : RequestInput)
  | allocate (i nowUnixMs : Nat)
  | upload (i : Nat)
  | uploadFails (i : Nat)
  | proceed (i : Nat)
  | fail (i : Nat) (rejected deletesHome : Bool)
  | commit (i nowUnixMs : Nat)
  | markRolledBack (i nowUnixMs : Nat)
  /-- the request ends and its record stays as it was prepared -/
  | leave (i : Nat)
  /-- the next of the five reads of an export -/
  | read
  | store (location : ArchiveLocation) (fileName : String)
  /-- retention removes one file, from a listing of a place -/
  | prune (location : ArchiveLocation) (listed : List String) (keepCount : Nat)
      (fileName : String)
  | checkpoint (nowUnixMs : Nat)
  | list (listed : List (Nat × String))
  /-- the cleanup looks at the next listed record -/
  | visit
  | endBackup
  | crash

/-- The name of a log record on the remote. -/
def recordName (record : GatewayWriteAheadLogRecord) : Nat × String := (record.lsn, record.txId)

/-- A log record replaces the one with its name. -/
def putLogRecord (records : List GatewayWriteAheadLogRecord)
    (record : GatewayWriteAheadLogRecord) : List GatewayWriteAheadLogRecord :=
  records.filter (fun other => decide (recordName other ≠ recordName record)) ++ [record]

/-- The archives that retention keeps come first: the greatest names. -/
def newestFirst (listed : List String) : List String := listed.insertionSort (· ≥ ·)

namespace CheckpointSystem

def counters (s : CheckpointSystem) : GatewayWriteAheadLogStateRecord :=
  s.metadataStore.gatewayWriteAheadLogStateRecord

def setRequest (s : CheckpointSystem) (i : Nat) (request : Option LoggedRequest) :
    CheckpointSystem :=
  { s with requests := Function.update s.requests i request }

/-- One step of a request. -/
def performStep (s : CheckpointSystem) (input : RequestInput) : RequestStep → CheckpointSystem
  | .update change => { s with metadataStore := change.run s.metadataStore }
  | .putHome =>
    { s with homeObjects := (input.homeProvider, input.bucket, input.key) :: s.homeObjects }
  | .deleteHome =>
    { s with
      homeObjects :=
        s.homeObjects.filter
          (fun object => decide (object ≠ (input.homeProvider, input.bucket, input.key))) }

/-- The record of a request is marked, and the request ends. -/
def mark (s : CheckpointSystem) (i : Nat) (old new : GatewayWriteAheadLogRecord) :
    CheckpointSystem :=
  { s.setRequest i none with
    logRecords := putLogRecord s.logRecords new
    prepared := s.prepared.filter (fun other => decide (recordName other ≠ recordName old)) }

def requestStep (s : CheckpointSystem) (i : Nat) (request : LoggedRequest) :
    CheckpointAction → Option CheckpointSystem
  | .allocate _ now =>
    match request.stage with
    | .arrived =>
      let (lsn, store) := s.metadataStore.allocateGatewayWriteAheadLogLsn now
      let record := (request.input.logEntry request.previous).prepareRecord lsn now
      some
        { s.setRequest i (some { request with stage := .allocated record }) with
          metadataStore := store }
    | _ => none
  | .upload _ =>
    match request.stage with
    | .allocated record =>
      some
        { s.setRequest i (some { request with stage := .working record 0 }) with
          logRecords := putLogRecord s.logRecords record
          prepared := s.prepared ++ [record] }
    | _ => none
  | .uploadFails _ =>
    match request.stage with
    | .allocated _ => some (s.setRequest i none)
    | _ => none
  | .proceed _ =>
    match request.stage with
    | .working record done =>
      (request.input.steps[done]?).map fun step =>
        (s.performStep request.input step).setRequest i
          (some { request with stage := .working record (done + 1) })
    | .rollingBack record (step :: left) marks =>
      some ((s.performStep request.input step).setRequest i
        (some { request with stage := .rollingBack record left marks }))
    | _ => none
  | .fail _ rejected deletesHome =>
    match request.stage with
    | .working record done =>
      if done < request.input.steps.length then
        let (left, marks) := request.input.rollback request.previous done rejected deletesHome
        some (s.setRequest i (some { request with stage := .rollingBack record left marks }))
      else none
    | _ => none
  | .commit _ now =>
    match request.stage with
    | .working record done =>
      if done = request.input.steps.length then
        some
          { s.mark i record (GatewayWriteAheadLogRecord.committed record now) with
            committed := s.committed ++ [⟨record.lsn, request.input⟩] }
      else none
    | _ => none
  | .markRolledBack _ now =>
    match request.stage with
    | .rollingBack record [] true =>
      match GatewayWriteAheadLogRecord.rolledBack record now with
      | .ok marked => some (s.mark i record marked)
      | .error _ => none
    | _ => none
  | .leave _ =>
    match request.stage with
    | .working _ done =>
      -- a PUT whose ETag cannot be resolved, or a commit mark that cannot be written
      if 3 ≤ done then some (s.setRequest i none) else none
    | .rollingBack _ [] _ => some (s.setRequest i none)
    | _ => none
  | _ => none

/-- The next read of an export. -/
def readExport (store : MetadataStore) (phase : ExportPhase) : BackupRun :=
  let next := ExportSystem.readNext ⟨store, phase, []⟩
  match next.bundles with
  | [] => .reading next.phase
  | bundle :: _ => .built bundle []

def backupStep (s : CheckpointSystem) : CheckpointAction → Option CheckpointSystem
  | .read =>
    match s.backup with
    | .idle => some { s with backup := readExport s.metadataStore .idle }
    | .reading phase => some { s with backup := readExport s.metadataStore phase }
    | _ => none
  | .store location fileName =>
    match s.backup with
    | .built bundle stored =>
      -- the local directory comes first
      if location ∈ stored ∨ .remoteProvider ∈ stored then none
      else
        some
          { s with
            backup := .built bundle (stored ++ [location])
            archives :=
              s.archives.filter (fun archive =>
                decide ¬ (archive.location = location ∧ archive.fileName = fileName)) ++
              [⟨location, fileName, bundle⟩] }
    | _ => none
  | .prune location listed keepCount fileName =>
    match s.backup with
    | .built _ stored =>
      if location ∈ stored ∧ 1 ≤ keepCount ∧ keepCount ≤ 365 ∧ listed.Nodup ∧
          (∀ name ∈ listed, ∃ archive ∈ s.archives,
            archive.location = location ∧ archive.fileName = name) ∧
          fileName ∈ (newestFirst listed).drop keepCount then
        some
          { s with
            archives :=
              s.archives.filter (fun archive =>
                decide ¬ (archive.location = location ∧ archive.fileName = fileName)) }
      else none
    | _ => none
  | .checkpoint now =>
    match s.backup with
    | .built bundle (_ :: _) =>
      some
        { s with
          backup := .checkpointed
          metadataStore :=
            s.metadataStore.updateGatewayWriteAheadLogCheckpointLsn
              (LogSystem.checkpointLsn bundle) now }
    | _ => none
  | .list listed =>
    match s.backup with
    | .checkpointed =>
      let checkpointLsn := s.counters.lastCheckpointLsn.getD 0
      if checkpointLsn ≠ 0 ∧ ∀ name ∈ listed, name.1 ≤ checkpointLsn ∧
          ∃ record ∈ s.logRecords, recordName record = name then
        some { s with backup := .cleaning listed }
      else none
    | _ => none
  | .visit =>
    match s.backup with
    | .cleaning (name :: listed) =>
      match s.logRecords.find? (fun record => decide (recordName record = name)) with
      | none => some { s with backup := .idle }
      | some record =>
        if record.schemaVersion ≠ gatewayWriteAheadLogFormatVersion ∨
            record.phase ≠ .committed then
          some { s with backup := .cleaning listed }
        else
          some
            { s with
              backup := .cleaning listed
              logRecords :=
                s.logRecords.filter (fun other => decide (recordName other ≠ name))
              cleaned := s.cleaned ++ [record] }
    | _ => none
  | .endBackup => some { s with backup := .idle }
  | _ => none

/-- The number of the request that an action is a step of. -/
def requestOf : CheckpointAction → Option Nat
  | .allocate i _ | .upload i | .uploadFails i | .proceed i | .fail i _ _ | .commit i _
  | .markRolledBack i _ | .leave i => some i
  | _ => none

/-- Nothing happens in a gateway that has stopped. -/
def step (s : CheckpointSystem) (action : CheckpointAction) : Option CheckpointSystem :=
  if s.stopped then none
  else
    match requestOf action with
    | some i => (s.requests i).bind fun request => s.requestStep i request action
    | none =>
      match action with
      | .arrive i input =>
        match s.requests i with
        | some _ => none
        | none =>
          some (s.setRequest i
            (some ⟨input, s.metadataStore.objectMetadata input.bucket input.key, .arrived⟩))
      | .crash => some { s with requests := fun _ => none, backup := .idle, stopped := true }
      | action => s.backupStep action

/-- A fresh database and an empty log. -/
def start (retention : MetadataRetentionPolicy) : CheckpointSystem where
  metadataStore := MetadataStore.openFresh retention
  homeObjects := []
  logRecords := []
  requests := fun _ => none
  backup := .idle
  archives := []
  prepared := []
  committed := []
  cleaned := []
  stopped := false

end CheckpointSystem

/-! ## Section 3: What a checkpoint must not hide -/

/-- The rows of a key in a bundle, without their times. -/
def bundleFacts (bundle : GatewayBackupMetadataPayload) (bucket key : String) : ObjectFacts :=
  objectFacts
    { placement := bundle.objectPlacements.find? (fun row =>
        decide (objectKey row.bucket row.key = objectKey bucket key))
      logical := bundle.logicalObjects.find? (fun row =>
        decide (objectKey row.bucket row.key = objectKey bucket key))
      protectionPlan := bundle.objectProtectionPlans.find? (fun row =>
        decide (objectKey row.bucket row.key = objectKey bucket key)) }

namespace CheckpointSystem

/-- An environment in which a replay finds the log and the home objects of this state. -/
structure Describes (s : CheckpointSystem) (env : ReplayEnvironment) : Prop where
  enabled : env.policy.enabled = true
  remote : ∃ provider backend, env.policy.remoteProvider = some provider ∧
    env.backendForProvider provider = .ok backend
  records : ∃ records, env.remoteRecords = .ok records ∧ records.Perm s.logRecords
  configured : ∀ record ∈ s.logRecords, env.Configured record
  home : ∀ n, ∀ record ∈ s.logRecords, (env.homeCheck n record).isOk =
    decide ((record.homeProvider, record.bucket, record.key) ∈ s.homeObjects)

def SameKey (a b : RequestInput) : Prop := a.bucket = b.bucket ∧ a.key = b.key

/-- The operation is the last one that was committed on its key, and no record that is still
open came after it. -/
def Latest (s : CheckpointSystem) (operation : CommittedOperation) : Prop :=
  (∀ other ∈ s.committed, SameKey other.input operation.input → other.lsn ≤ operation.lsn) ∧
    ∀ record ∈ s.prepared, record.bucket = operation.input.bucket →
      record.key = operation.input.key → record.lsn < operation.lsn

structure CheckpointSafe (s : CheckpointSystem) : Prop where
  /-- what is neither committed nor rolled back is on the remote and above the floor -/
  prepared_kept : ∀ record ∈ s.prepared,
    record ∈ s.logRecords ∧ replayFloor s.counters < record.lsn
  /-- an operation whose record was deleted is in an archive, unless a later operation on its
  key took its place there -/
  cleaned_archived : ∀ operation ∈ s.committed, (∃ record ∈ s.cleaned,
      record.lsn = operation.lsn) →
    ∃ archive ∈ s.archives, ∃ later ∈ s.committed, SameKey later.input operation.input ∧
      operation.lsn ≤ later.lsn ∧
      bundleFacts archive.bundle operation.input.bucket operation.input.key = later.input.facts
  /-- the newest archive, restored, and the remaining records, replayed -/
  restored : ∀ archive, s.archives.getLast? = some archive → ∀ env, s.Describes env →
    ∀ (store : MetadataStore) (engine : ReplicationEngine), ∃ store',
      store.replaceBackupState archive.bundle.objectPlacements archive.bundle.logicalObjects
        archive.bundle.objectProtectionPlans archive.bundle.pendingReplicationJobs
        archive.bundle.gatewayWriteAheadLogState = some store' ∧
      ∀ operation ∈ s.committed, s.Latest operation →
        objectFacts ((replayGatewayWriteAheadLogFromRemote env store'
          engine).metadataStore.objectMetadata operation.input.bucket operation.input.key) =
        operation.input.facts

/-- The conditions on the steps of a run. -/
def Guard (s : CheckpointSystem) : CheckpointAction → Prop
  | .arrive _ input =>
    -- one request at a time on a key
    ∀ j request, s.requests j = some request → ¬ SameKey request.input input
  | .allocate _ _ =>
    -- no LSN is taken between the first and the last read of an export
    s.counters.nextLsn < u64Max ∧ ∀ phase, s.backup ≠ .reading phase
  | .fail i _ deletesHome =>
    -- the home object of the object that a PUT was to replace is not deleted
    deletesHome = true → ∀ request, s.requests i = some request →
      request.previous.placement.map (·.provider) ≠ some request.input.homeProvider.asStr
  | .commit i _ =>
    ∀ request, s.requests i = some request → request.input.LogsWhatItLeaves
  | .read =>
    -- an export starts when no logged request is on its way and no record was left open
    s.backup = .idle → s.prepared = [] ∧
      ∀ i request, s.requests i = some request → request.stage = .arrived
  | .store location fileName =>
    ∀ archive ∈ s.archives, archive.location = location → archive.fileName < fileName
  | .visit =>
    -- the records of a key are deleted oldest first
    ∀ name listed, s.backup = .cleaning (name :: listed) →
      ∀ record ∈ s.logRecords, recordName record = name →
        ∀ other ∈ s.logRecords, other.bucket = record.bucket → other.key = record.key →
          record.lsn ≤ other.lsn
  | _ => True

end CheckpointSystem

end Netdisk2Blob.Backup
