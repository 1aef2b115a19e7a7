import Netdisk2Blob.Library.Transition
import Netdisk2Blob.Gateway.BatchLedger
import Netdisk2Blob.Metadata.Objects

/-!
# Batch Requests Step by Step

`execute_object_batch_request` from the point at which it has the mutation lock: one request
runs at a time, and between two of its steps other requests look ids up, other handlers write
the control plane file, and the process may stop and start again.

A step that acts on an object is an input of the model as far as its outcome goes: what the
revalidation of an item says, and what the object action reports and leaves behind. Only the
cleanup of an item whose source is gone has a fixed effect when it succeeds: it deletes the
metadata of the source.

Beside the state stands a history that no step reads: the plans ever previewed, the actions
started, what each of them left as it was or changed, and the batch ids whose records were
pruned.

## Contents

- `BatchRequest`, `executePayload`: what a request asks and what it is answered at its end
- `BatchSystem.step`: one step of the request that has the lock, or of somebody else
-/

namespace Netdisk2Blob.Gateway

open Library Text Blob Policy ControlPlane Metadata

/-! ## Section 1: The request -/

structure ObjectBatchExecuteInput where
  planId : String
  batchId : String
  operator : Option String
  ticket : Option String
  notes : Option String
  deriving DecidableEq, Repr

/-- A request with its principal and the hash of both. -/
structure BatchRequest where
  principal : String
  input : ObjectBatchExecuteInput
  fingerprint : String
  deriving DecidableEq, Repr

/-- The label of a request: trimmed, at most 256 characters, none if nothing is left. -/
def BatchRequest.operatorLabel (request : BatchRequest) : Option String :=
  ((request.input.operator.map trim).filter (fun value => !value.isEmpty)).map
    (fun value => String.ofList (value.toList.take 256))

/-- What a revalidation says of an item. -/
structure Revalidation where
  status : ObjectBatchItemStatus
  reasonCode : Option String
  message : Option String
  warnings : List String
  deriving DecidableEq, Repr

def Revalidation.item (answer : Revalidation) (object : ObjectBatchPlannedObject) :
    ObjectBatchItemPayload :=
  batchItemForPlan object answer.status answer.reasonCode answer.message answer.warnings

/-- An item that may no longer be acted on is reported as stale. -/
def lateItem (item : ObjectBatchItemPayload) : ObjectBatchItemPayload :=
  if objectBatchItemBlocksExecution item then
    { item with
      status := .staleConflict
      reasonCode := some (item.reasonCode.getD "source_changed") }
  else item

/-- The objects in the order in which they are acted on. -/
def executionOrder (plan : ObjectBatchPlanRecord) : List ObjectBatchPlannedObject :=
  plan.objects.insertionSort (fun left right =>
    toLex (left.source.bucket, left.source.key) ≤ toLex (right.source.bucket, right.source.key))

def sortByOrdinal (items : List ObjectBatchItemPayload) : List ObjectBatchItemPayload :=
  items.insertionSort (fun left right => left.ordinal ≤ right.ordinal)

def notStartedItem (object : ObjectBatchPlannedObject) : ObjectBatchItemPayload :=
  batchItemForPlan object .notStarted (some "not_started")
    (some "Batch stopped after an earlier item failed.") []

/-- The results of a batch that stops: the objects without one are reported as not started. -/
def withNotStarted (plan : ObjectBatchPlanRecord) (results : List ObjectBatchItemPayload) :
    List ObjectBatchItemPayload :=
  let remaining := plan.objects.filter
    (fun candidate => !results.any (fun item => item.ordinal == candidate.ordinal))
  sortByOrdinal (results ++ remaining.map notStartedItem)

def staticReasonCode : Option String → String
  | some "home_resolution_conflict" => "home_resolution_conflict"
  | some "source_changed" => "source_changed"
  | some "provider_unsupported" => "provider_unsupported"
  | some "source_missing" => "source_missing"
  | some "invalid_path" => "invalid_path"
  | some "destination_bucket_missing" => "destination_bucket_missing"
  | some "destination_bucket_unverifiable" => "destination_bucket_unverifiable"
  | some "destination_metadata_exists" => "destination_metadata_exists"
  | some "destination_exists" => "destination_exists"
  | _ => "source_unverifiable"

/-- `final_preflight_object_batch`, with the revalidations of the objects by ordinal. -/
def finalPreflightObjectBatch (plan : ObjectBatchPlanRecord) (batchId : String) (nowUnixMs : Nat)
    (topologyFingerprint : String) (answers : Nat → Revalidation) :
    Option ObjectBatchApiError :=
  let rejected (code message : String) (items : List ObjectBatchItemPayload) :=
    ((ObjectBatchApiError.new 409 code message plan.action).forBatch batchId
      (some "rejected")).withItems items
  if plan.expiresAtUnixMs ≤ nowUnixMs then
    some (rejected "plan_expired" "batch plan is missing or expired" [])
  else if plan.objects.isEmpty ∨ plan.topologyFingerprint ≠ topologyFingerprint then
    some (rejected "topology_changed" "batch plan topology is no longer current" [])
  else
    let objects := plan.objects.insertionSort (fun left right => left.ordinal ≤ right.ordinal)
    let items := objects.map (fun object => (answers object.ordinal).item object)
    match items.find? objectBatchItemBlocksExecution with
    | none => none
    | some failure =>
      some (rejected (staticReasonCode failure.reasonCode)
        (failure.message.getD "batch plan revalidation failed") items)

/-- The response of a batch that came to its end. -/
def executePayload (request : BatchRequest) (plan : ObjectBatchPlanRecord)
    (results : List ObjectBatchItemPayload) : ObjectBatchExecutePayload where
  batchId := request.input.batchId
  action := plan.action
  authenticatedPrincipal := request.principal
  operatorLabel := request.operatorLabel
  requested := plan.objects.length
  completed := statusCount results .completed
  alreadyMissing := statusCount results .alreadyMissing
  noOp := statusCount results .noOp
  failed := statusCount results .failed
  staleConflict := statusCount results .staleConflict
  notStarted := statusCount results .notStarted
  nonAtomicWarning := true
  consistencyNote := "External writers are outside the gateway mutation lock."
  results := results

/-! ## Section 2: The system -/

/-- Where the request that has the lock is. -/
inductive BatchPhase where
  | lookedUp
  | preflighted (plan : ObjectBatchPlanRecord)
  | next (remaining : List ObjectBatchPlannedObject)
  | revalidated (object : ObjectBatchPlannedObject) (item : ObjectBatchItemPayload)
      (remaining : List ObjectBatchPlannedObject)
  | performed (item : ObjectBatchItemPayload) (remaining : List ObjectBatchPlannedObject)
  | stopped
  | finishing
  | rejecting (error : ObjectBatchApiError)
  | interrupting (message : String) (recoveryMessage : Option String)

structure BatchRun where
  request : BatchRequest
  plan : Option ObjectBatchPlanRecord
  results : List ObjectBatchItemPayload
  markerPersisted : Bool
  phase : BatchPhase

/-- What the providers hold, and the metadata. -/
structure BatchWorld (Objects : Type) where
  objects : Objects
  store : MetadataStore

/-- Object bytes, placements, logical records and plans are the same. -/
structure SameObjects {Objects : Type} (before after : BatchWorld Objects) : Prop where
  objects : after.objects = before.objects
  placements : after.store.objectPlacements = before.store.objectPlacements
  logicals : after.store.logicalObjects = before.store.logicalObjects
  plans : after.store.objectProtectionPlans = before.store.objectProtectionPlans

structure BatchEffect (Objects : Type) where
  batchId : String
  ordinal : Nat
  before : BatchWorld Objects
  after : BatchWorld Objects

structure BatchSystem (Objects : Type) where
  ledgers : LedgerState
  plans : List (String × ObjectBatchPlanRecord)
  running : Option BatchRun
  world : BatchWorld Objects
  answers : List (BatchRequest × Except ObjectBatchApiError ObjectBatchExecutePayload)
  previewed : List (String × ObjectBatchPlanRecord)
  started : List (String × Nat)
  effects : List (BatchEffect Objects)
  forgotten : List String

namespace BatchSystem

variable {Objects : Type}

def initial (world : BatchWorld Objects) : BatchSystem Objects where
  ledgers := ⟨∅, ∅⟩
  plans := []
  running := none
  world := world
  answers := []
  previewed := []
  started := []
  effects := []
  forgotten := []

/-- A request is answered; if it had the lock, the lock is free. -/
def answer (s : BatchSystem Objects) (request : BatchRequest)
    (result : Except ObjectBatchApiError ObjectBatchExecutePayload) : BatchSystem Objects :=
  { s with answers := (request, result) :: s.answers }

def leave (s : BatchSystem Objects) (run : BatchRun)
    (result : Except ObjectBatchApiError ObjectBatchExecutePayload) : BatchSystem Objects :=
  { s.answer run.request result with running := none }

def goTo (s : BatchSystem Objects) (run : BatchRun) (phase : BatchPhase) : BatchSystem Objects :=
  { s with running := some { run with phase := phase } }

/-- The records that pruning removed are forgotten. -/
def forget (s : BatchSystem Objects) (ledger : ObjectBatchLedger) (nowUnixMs : Nat) :
    BatchSystem Objects :=
  { s with forgotten := prunedBatchIds ledger nowUnixMs ++ s.forgotten }

def withLedgers (s : BatchSystem Objects) (ledgers : LedgerState) : BatchSystem Objects :=
  { s with ledgers := ledgers }

/-- An action on an object was started, and has left `world`. -/
def acted (s : BatchSystem Objects) (run : BatchRun) (ordinal : Nat)
    (world : BatchWorld Objects) : BatchSystem Objects :=
  { s with
    world := world
    started := (run.request.input.batchId, ordinal) :: s.started
    effects :=
      { batchId := run.request.input.batchId, ordinal := ordinal, before := s.world
        after := world } :: s.effects }

/-- `delete_object_metadata` in a world. -/
def cleanedUp (world : BatchWorld Objects) (source : ObjectBatchObjectInput) :
    BatchWorld Objects :=
  let bucket := trim source.bucket
  let key := trim source.key
  { world with
    store := ((world.store.deleteObjectPlacement bucket key).deleteObjectProtectionPlan bucket
      key).deleteLogicalObject bucket key }

end BatchSystem

/-! ## Section 3: Steps -/

inductive BatchAction (Objects : Type) where
  | preview (planId : String) (plan : ObjectBatchPlanRecord)
  | lookup (request : BatchRequest) (nowUnixMs : Nat) (fault : Option FileFault)
  | begin (request : BatchRequest) (nowUnixMs : Nat) (fault : Option FileFault)
  | preflight (nowUnixMs : Nat) (topologyFingerprint : String) (answers : Nat → Revalidation)
  | reserve (nowUnixMs : Nat) (fault : Option FileFault)
  | revalidate (answer : Revalidation)
  | persistMarker (nowUnixMs : Nat) (fault : Option FileFault)
  | skip
  | cleanUp (warnings : List String)
  | failCleanUp (error : BlobError) (world : BatchWorld Objects)
  | act (outcome : Except BlobError (List String)) (world : BatchWorld Objects)
  | saveResult (nowUnixMs : Nat) (fault : Option FileFault)
  | saveStopped (nowUnixMs : Nat) (fault : Option FileFault)
  | next
  | complete (fault : Option FileFault)
  | reject (nowUnixMs : Nat) (first second : Option FileFault)
  | interrupt (nowUnixMs : Nat) (fault : Option FileFault)
  | drop
  | persistControlPlane (fault : Option FileFault)
  | changeWorld (world : BatchWorld Objects)
  | restart (nowUnixMs : Nat)

namespace BatchSystem

variable {Objects : Type}

/-- A result of an item, before it is saved. -/
def itemDone (s : BatchSystem Objects) (run : BatchRun) (item : ObjectBatchItemPayload)
    (remaining : List ObjectBatchPlannedObject) : BatchSystem Objects :=
  s.goTo { run with results := sortByOrdinal (run.results ++ [item]) } (.performed item remaining)

/-- The result of an object action. -/
def outcomeItem (object : ObjectBatchPlannedObject) :
    Except BlobError (List String) → ObjectBatchItemPayload
  | .ok warnings => batchItemForPlan object .completed none none warnings
  | .error error => batchErrorFromBlob error object

/-- One step; `none` when nobody is at that point. -/
def step (s : BatchSystem Objects) : BatchAction Objects → Option (BatchSystem Objects)
  | .preview planId plan =>
    some { s with
      plans := (planId, plan) :: s.plans
      previewed := (planId, plan) :: s.previewed }
  | .lookup request now fault =>
    -- the lookup without the lock
    let looked := s.ledgers.lookupObjectBatchLedger request.input.batchId now fault
    let s' := (s.forget s.ledgers.memory now).withLedgers looked.2
    match looked.1 with
    | .error error => some (s'.answer request (.error error))
    | .ok (some record) =>
      some (s'.answer request
        (existingObjectBatchResult record request.input.batchId request.fingerprint))
    | .ok none => some s'
  | .begin request now fault =>
    match s.running with
    | some _ => none
    | none =>
      let looked := s.ledgers.lookupObjectBatchLedger request.input.batchId now fault
      let s' := (s.forget s.ledgers.memory now).withLedgers looked.2
      match looked.1 with
      | .error error => some (s'.answer request (.error error))
      | .ok (some record) =>
        some (s'.answer request
          (existingObjectBatchResult record request.input.batchId request.fingerprint))
      | .ok none =>
        some { s' with
          running := some
            { request := request, plan := none, results := [], markerPersisted := false
              phase := .lookedUp } }
  | .preflight now topologyFingerprint answers =>
    match s.running with
    | some run =>
      match run.phase with
      | .lookedUp =>
        match s.plans.lookup run.request.input.planId with
        | none =>
          some (s.leave run (.error
            (.new 409 "plan_expired" "batch plan is missing or expired" .move)))
        | some plan =>
          match finalPreflightObjectBatch plan run.request.input.batchId now topologyFingerprint
              answers with
          | some error => some (s.leave run (.error error))
          | none => some (s.goTo run (.preflighted plan))
      | _ => none
    | none => none
  | .reserve now fault =>
    match s.running with
    | some run =>
      match run.phase with
      | .preflighted plan =>
        let reserved := s.ledgers.reserveObjectBatchLedger run.request.input.batchId
          run.request.input.planId plan run.request.fingerprint now fault
        let s' := (s.forget s.ledgers.memory now).withLedgers reserved.2
        match reserved.1 with
        | some error => some (s'.leave run (.error error))
        | none => some (s'.goTo { run with plan := some plan } (.next (executionOrder plan)))
      | _ => none
    | none => none
  | .revalidate answer =>
    match s.running with
    | some run =>
      match run.phase with
      | .next (object :: remaining) =>
        some (s.goTo run (.revalidated object (lateItem (answer.item object)) remaining))
      | _ => none
    | none => none
  | .persistMarker now fault =>
    match s.running with
    | some run =>
      match run.phase with
      | .revalidated _ item _ =>
        if item.status = .ready ∧ run.markerPersisted = false then
          let marked := s.ledgers.persistObjectBatchProviderMarker run.request.input.batchId now
            fault
          match marked.1 with
          | some error =>
            let rejected := (ledgerUnavailable error.message
              ((run.plan.map (·.action)).getD .move)).forBatch run.request.input.batchId
                (some "rejected")
            some ((s.withLedgers marked.2).goTo run (.rejecting rejected))
          | none =>
            some ((s.withLedgers marked.2).goTo { run with markerPersisted := true } run.phase)
        else none
      | _ => none
    | none => none
  | .skip =>
    match s.running with
    | some run =>
      match run.phase with
      | .revalidated _ item remaining =>
        if item.status = .noOp ∨ item.status = .staleConflict then
          some (s.itemDone run item remaining)
        else none
      | _ => none
    | none => none
  | .cleanUp warnings =>
    match s.running with
    | some run =>
      match run.phase with
      | .revalidated object item remaining =>
        if item.status = .alreadyMissing then
          some ((s.acted run object.ordinal (cleanedUp s.world object.source)).itemDone run
            (batchItemForPlan object .alreadyMissing (some "source_missing")
              (some "source object is already missing; gateway metadata cleanup completed")
              warnings) remaining)
        else none
      | _ => none
    | none => none
  | .failCleanUp error world =>
    -- the rollback of a failed cleanup may have failed as well
    match s.running with
    | some run =>
      match run.phase with
      | .revalidated object item remaining =>
        if item.status = .alreadyMissing then
          some ((s.acted run object.ordinal world).itemDone run (batchErrorFromBlob error object)
            remaining)
        else none
      | _ => none
    | none => none
  | .act outcome world =>
    match s.running with
    | some run =>
      match run.phase with
      | .revalidated object item remaining =>
        if item.status = .ready ∧ run.markerPersisted = true then
          some ((s.acted run object.ordinal world).itemDone run (outcomeItem object outcome)
            remaining)
        else none
      | _ => none
    | none => none
  | .saveResult now fault =>
    match s.running with
    | some run =>
      match run.phase, run.plan with
      | .performed item remaining, some plan =>
        let saved := s.ledgers.persistObjectBatchLedger run.request.input.batchId now fault
          (fun record => { record with results := run.results })
        let s' := s.withLedgers saved.2
        match saved.1 with
        | some error => some (s'.goTo run (.interrupting error.message none))
        | none =>
          if item.status = .failed ∨ item.status = .staleConflict then
            some (s'.goTo { run with results := withNotStarted plan run.results } .stopped)
          else some (s'.goTo run (.next remaining))
      | _, _ => none
    | none => none
  | .saveStopped now fault =>
    match s.running with
    | some run =>
      match run.phase with
      | .stopped =>
        let saved := s.ledgers.persistObjectBatchLedger run.request.input.batchId now fault
          (fun record => { record with results := run.results })
        let s' := s.withLedgers saved.2
        match saved.1 with
        | some error => some (s'.goTo run (.interrupting error.message (some error.message)))
        | none => some (s'.goTo run .finishing)
      | _ => none
    | none => none
  | .next =>
    -- the loop is through
    match s.running with
    | some run =>
      match run.phase with
      | .next [] => some (s.goTo { run with results := sortByOrdinal run.results } .finishing)
      | _ => none
    | none => none
  | .complete fault =>
    match s.running with
    | some run =>
      match run.phase, run.plan with
      | .finishing, some plan =>
        let payload := executePayload run.request plan run.results
        let completed := s.ledgers.persistObjectBatchCompletion run.request.input.batchId payload
          fault
        let s' := s.withLedgers completed.2
        match completed.1 with
        | some error => some (s'.goTo run (.interrupting error.message (some error.message)))
        | none => some (s'.leave run (.ok payload))
      | _, _ => none
    | none => none
  | .reject now first second =>
    match s.running with
    | some run =>
      match run.phase with
      | .rejecting error =>
        let rejected := s.ledgers.persistObjectBatchRejection run.request.input.batchId now error
          run.results first second
        some ((s.withLedgers rejected.2).leave run (.error rejected.1))
      | _ => none
    | none => none
  | .interrupt now fault =>
    match s.running with
    | some run =>
      match run.phase with
      | .interrupting message recoveryMessage =>
        let interrupted := s.ledgers.persistObjectBatchInterruption run.request.input.batchId now
          run.results recoveryMessage fault
        let s' := s.withLedgers interrupted.2
        match interrupted.1 with
        | .error error => some (s'.leave run (.error error))
        | .ok recovery =>
          some (s'.leave run (.error
            (((ObjectBatchApiError.new 409 "batch_recovery_required" message
              ((run.plan.map (·.action)).getD .move)).forBatch run.request.input.batchId
                (some "interrupted")).withRecovery recovery)))
      | _ => none
    | none => none
  | .drop =>
    -- the client is gone: the request ends where it is
    some { s with running := none }
  | .persistControlPlane fault => some (s.withLedgers (s.ledgers.persist fault).2)
  | .changeWorld world => some { s with world := world }
  | .restart now =>
    let pruned := pruneObjectBatchLedger s.ledgers.file now
    some { (s.forget s.ledgers.file now).withLedgers
        { s.ledgers with memory := recoverObjectBatchLedgerRecords pruned now } with
      plans := []
      running := none }

end BatchSystem

end Netdisk2Blob.Gateway
