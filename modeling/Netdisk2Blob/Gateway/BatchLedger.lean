import Netdisk2Blob.Library.Table
import Netdisk2Blob.ControlPlane.Files
import Netdisk2Blob.Policy.Topology
import Mathlib.Data.Prod.Lex

/-!
# The Ledger of Object Batches

An object batch deletes or moves a list of planned objects under an id that its client
chooses. The ledger keeps a record for every batch id for a day, in memory and in the control
plane file, so that a repeated request is answered from the record.

What a restart makes of a record that was in progress depends on one field, the time at
which the first provider call was about to start.

## Contents

- the records, and what a request is answered out of one (`existingObjectBatchResult`)
- `pruneObjectBatchLedger`, `recoverObjectBatchLedgerRecords`
- the writes of the ledger: memory first, then the file, with what each of them takes back
  when the file cannot be written
-/

namespace Netdisk2Blob.Gateway

open Library Blob Policy ControlPlane

/-! ## Section 1: Plans and items -/

inductive ObjectBatchAction where
  | delete
  | move
  deriving DecidableEq, Repr

structure ObjectBatchObjectInput where
  bucket : String
  key : String
  deriving DecidableEq, Repr

structure ObjectBatchIdentitySnapshot where
  etag : Option String
  size : Nat
  lastModified : Option String
  deriving DecidableEq, Repr

structure ObjectBatchPlannedObject where
  ordinal : Nat
  source : ObjectBatchObjectInput
  destination : Option ObjectBatchObjectInput
  identity : ObjectBatchIdentitySnapshot
  readSource : ProviderId
  homeProvider : ProviderId
  deriving DecidableEq, Repr

/-- A plan of a preview, which numbers the objects it plans. -/
structure ObjectBatchPlanRecord where
  action : ObjectBatchAction
  objects : List ObjectBatchPlannedObject
  topologyFingerprint : String
  expiresAtUnixMs : Nat
  ordinals_nodup : (objects.map (·.ordinal)).Nodup

inductive ObjectBatchItemStatus where
  | ready
  | alreadyMissing
  | noOp
  | completed
  | failed
  | staleConflict
  | notStarted
  | conflict
  | unverifiable
  deriving DecidableEq, Repr

structure ObjectBatchItemPayload where
  ordinal : Nat
  source : ObjectBatchObjectInput
  readSource : String
  homeProvider : String
  destination : Option ObjectBatchObjectInput
  status : ObjectBatchItemStatus
  reasonCode : Option String
  message : Option String
  warnings : List String
  deriving DecidableEq, Repr

def batchItemForPlan (object : ObjectBatchPlannedObject) (status : ObjectBatchItemStatus)
    (reasonCode message : Option String) (warnings : List String) : ObjectBatchItemPayload where
  ordinal := object.ordinal
  source := object.source
  readSource := object.readSource.asStr
  homeProvider := object.homeProvider.asStr
  destination := object.destination
  status := status
  reasonCode := reasonCode
  message := message
  warnings := warnings

def batchErrorFromBlob (error : BlobError) (object : ObjectBatchPlannedObject) :
    ObjectBatchItemPayload :=
  let reasonCode :=
    match error with
    | .notImplemented _ => "provider_unsupported"
    | .notFound _ => "source_missing"
    | .configuration _ => "invalid_path"
    | _ => "provider_error"
  batchItemForPlan object .failed (some reasonCode) (some error.display) []

def objectBatchItemBlocksExecution (item : ObjectBatchItemPayload) : Bool :=
  match item.status with
  | .ready | .alreadyMissing | .noOp => false
  | _ => true

/-- How many items have a status. -/
def statusCount (items : List ObjectBatchItemPayload) (status : ObjectBatchItemStatus) : Nat :=
  items.countP (fun item => decide (item.status = status))

/-! ## Section 2: Records -/

structure ObjectBatchExecutePayload where
  batchId : String
  action : ObjectBatchAction
  authenticatedPrincipal : String
  operatorLabel : Option String
  requested : Nat
  completed : Nat
  alreadyMissing : Nat
  noOp : Nat
  failed : Nat
  staleConflict : Nat
  notStarted : Nat
  nonAtomicWarning : Bool
  consistencyNote : String
  results : List ObjectBatchItemPayload
  deriving DecidableEq, Repr

structure ObjectBatchRecoveryItemPayload where
  ordinal : Nat
  source : ObjectBatchObjectInput
  destination : Option ObjectBatchObjectInput
  reasonCode : String
  message : String
  deriving DecidableEq, Repr

structure ObjectBatchRecoveryPayload where
  batchId : String
  action : ObjectBatchAction
  state : String
  code : String
  requested : Nat
  savedCount : Nat
  unresolvedCount : Nat
  savedResults : List ObjectBatchItemPayload
  unresolvedItems : List ObjectBatchRecoveryItemPayload
  nonAtomicWarning : Bool
  consistencyNote : String
  deriving DecidableEq, Repr

structure ObjectBatchPersistedError where
  status : Nat
  code : String
  message : String
  action : ObjectBatchAction
  batchId : Option String
  state : Option String
  items : List ObjectBatchItemPayload
  retryAfterSecs : Option Nat
  deriving DecidableEq, Repr

inductive ObjectBatchLedgerState where
  | inProgress
  | completed
  | rejected
  | interrupted
  deriving DecidableEq, Repr

structure ObjectBatchLedgerRecord where
  updatedAtUnixMs : Nat
  planId : String
  fingerprint : String
  state : ObjectBatchLedgerState
  action : Option ObjectBatchAction
  objects : List ObjectBatchPlannedObject
  providerCallStartedAtUnixMs : Option Nat
  results : List ObjectBatchItemPayload
  response : Option ObjectBatchExecutePayload
  error : Option ObjectBatchPersistedError
  recovery : Option ObjectBatchRecoveryPayload
  deriving DecidableEq, Repr

/-- An entry of the ledger's map. -/
structure LedgerEntry where
  batchId : String
  record : ObjectBatchLedgerRecord
  deriving DecidableEq, Repr

abbrev ObjectBatchLedger := Table LedgerEntry (fun entry => entry.batchId)

namespace ObjectBatchLedger

def get (ledger : ObjectBatchLedger) (batchId : String) : Option ObjectBatchLedgerRecord :=
  (ledger.find? batchId).map (·.record)

def insert (ledger : ObjectBatchLedger) (batchId : String) (record : ObjectBatchLedgerRecord) :
    ObjectBatchLedger :=
  ledger.upsert { batchId := batchId, record := record }

def remove (ledger : ObjectBatchLedger) (batchId : String) : ObjectBatchLedger :=
  ledger.delete (fun entry => decide (entry.batchId = batchId))

end ObjectBatchLedger

/-! ## Section 3: Errors of a request -/

structure ObjectBatchApiError where
  status : Nat
  code : String
  message : String
  action : ObjectBatchAction
  batchId : Option String
  state : Option String
  items : List ObjectBatchItemPayload
  retryAfterSecs : Option Nat
  recovery : Option ObjectBatchRecoveryPayload
  deriving DecidableEq, Repr

namespace ObjectBatchApiError

def new (status : Nat) (code message : String) (action : ObjectBatchAction) :
    ObjectBatchApiError where
  status := status
  code := code
  message := message
  action := action
  batchId := none
  state := none
  items := []
  retryAfterSecs := none
  recovery := none

def forBatch (error : ObjectBatchApiError) (batchId : String) (state : Option String) :
    ObjectBatchApiError :=
  { error with batchId := some batchId, state := state }

def retryAfter (error : ObjectBatchApiError) (seconds : Nat) : ObjectBatchApiError :=
  { error with retryAfterSecs := some seconds }

def withItems (error : ObjectBatchApiError) (items : List ObjectBatchItemPayload) :
    ObjectBatchApiError :=
  { error with items := items }

def withRecovery (error : ObjectBatchApiError) (recovery : ObjectBatchRecoveryPayload) :
    ObjectBatchApiError :=
  { error with recovery := some recovery }

def persisted (error : ObjectBatchApiError) : ObjectBatchPersistedError where
  status := error.status
  code := error.code
  message := error.message
  action := error.action
  batchId := error.batchId
  state := error.state
  items := error.items
  retryAfterSecs := error.retryAfterSecs

def fromPersisted (error : ObjectBatchPersistedError) : ObjectBatchApiError where
  status := error.status
  code := error.code
  message := error.message
  action := error.action
  batchId := error.batchId
  state := error.state
  items := error.items
  retryAfterSecs := error.retryAfterSecs
  recovery := none

end ObjectBatchApiError

/-- The ledger could not be read or written. -/
def ledgerUnavailable (message : String) (action : ObjectBatchAction) : ObjectBatchApiError :=
  .new 500 "batch_ledger_unavailable" message action

/-! ## Section 4: Recovery -/

def recoverPayloadForRecord (batchId : String) (record : ObjectBatchLedgerRecord) :
    ObjectBatchRecoveryPayload :=
  let saved := record.results.map (·.ordinal)
  let unresolvedItems :=
    (record.objects.filter (fun object => !saved.contains object.ordinal)).map
      (fun object =>
        { ordinal := object.ordinal
          source := object.source
          destination := object.destination
          reasonCode := "recovery_required"
          message := "Provider result was not durably recorded before restart."
          : ObjectBatchRecoveryItemPayload })
  { batchId := batchId
    action := record.action.getD .move
    state := "interrupted"
    code := "batch_recovery_required"
    requested := record.objects.length
    savedCount := record.results.length
    unresolvedCount := unresolvedItems.length
    savedResults := record.results
    unresolvedItems := unresolvedItems
    nonAtomicWarning := true
    consistencyNote := "The gateway cannot determine whether the in-flight provider call " ++
      "committed before restart." }

/-- What a restart makes of a record. -/
def recoverRecord (nowUnixMs : Nat) (batchId : String) (record : ObjectBatchLedgerRecord) :
    ObjectBatchLedgerRecord :=
  if record.state ≠ .inProgress then record
  else
    match record.providerCallStartedAtUnixMs with
    | none =>
      { record with
        state := .rejected
        error := some
          { status := 409
            code := "batch_not_started"
            message := "Batch was reserved but no provider call was started."
            action := record.action.getD .move
            batchId := some batchId
            state := some "rejected"
            items := []
            retryAfterSecs := none }
        updatedAtUnixMs := nowUnixMs }
    | some _ =>
      { record with
        state := .interrupted
        recovery := some (recoverPayloadForRecord batchId { record with state := .interrupted })
        updatedAtUnixMs := nowUnixMs }

def recoverObjectBatchLedgerRecords (ledger : ObjectBatchLedger) (nowUnixMs : Nat) :
    ObjectBatchLedger :=
  ledger.modify (fun _ => true)
    (fun entry => { entry with record := recoverRecord nowUnixMs entry.batchId entry.record })
    (fun _ => rfl)

def objectBatchLedgerLimit : Nat := 64

def objectBatchLedgerRetentionMs : Nat := 24 * 60 * 60 * 1000

def expired (nowUnixMs : Nat) (entry : LedgerEntry) : Bool :=
  decide (objectBatchLedgerRetentionMs < nowUnixMs - entry.record.updatedAtUnixMs)

/-- The ids that pruning removes: expired records, then the oldest beyond the limit. -/
def prunedBatchIds (ledger : ObjectBatchLedger) (nowUnixMs : Nat) : List String :=
  let kept := ledger.rows.filter (fun entry => !expired nowUnixMs entry)
  let oldest :=
    (kept.map (fun entry => toLex (entry.record.updatedAtUnixMs, entry.batchId))).insertionSort
      (· ≤ ·)
  (ledger.rows.filter (expired nowUnixMs)).map (·.batchId) ++
    (oldest.take (kept.length - objectBatchLedgerLimit)).map (fun pair => (ofLex pair).2)

def pruneObjectBatchLedger (ledger : ObjectBatchLedger) (nowUnixMs : Nat) : ObjectBatchLedger :=
  let pruned := prunedBatchIds ledger nowUnixMs
  ledger.delete (fun entry => pruned.contains entry.batchId)

/-! ## Section 5: Reads and writes -/

/-- The ledger in memory and in the control plane file. -/
structure LedgerState where
  memory : ObjectBatchLedger
  file : ObjectBatchLedger

namespace LedgerState

/-- `persist_control_plane_state` with the ledger it has in memory. -/
def persist (s : LedgerState) (fault : Option FileFault) : Option BlobError × LedgerState :=
  let written := atomicWrite fault s.memory s.file
  (written.1, { s with file := written.2 })

def lookupObjectBatchLedger (s : LedgerState) (batchId : String) (nowUnixMs : Nat)
    (fault : Option FileFault) :
    Except ObjectBatchApiError (Option ObjectBatchLedgerRecord) × LedgerState :=
  let pruned := { s with memory := pruneObjectBatchLedger s.memory nowUnixMs }
  if pruned.memory.rows.length ≠ s.memory.rows.length then
    match pruned.persist fault with
    | (some error, s') =>
      (.error (ledgerUnavailable
        s!"failed to persist expired batch ledger pruning: {error.display}" .move), s')
    | (none, s') => (.ok (s'.memory.get batchId), s')
  else (.ok (pruned.memory.get batchId), pruned)

/-- One update of a record; memory takes it back when the file cannot be written. -/
def persistObjectBatchLedger (s : LedgerState) (batchId : String) (nowUnixMs : Nat)
    (fault : Option FileFault) (update : ObjectBatchLedgerRecord → ObjectBatchLedgerRecord) :
    Option ObjectBatchApiError × LedgerState :=
  match s.memory.get batchId with
  | none => (some (ledgerUnavailable "batch ledger reservation is missing" .move), s)
  | some existing =>
    let next := { update existing with updatedAtUnixMs := nowUnixMs }
    match { s with memory := s.memory.insert batchId next }.persist fault with
    | (some error, s') =>
      (some (ledgerUnavailable s!"failed to persist batch ledger: {error.display}"
        (next.action.getD .move)), { s' with memory := s.memory })
    | (none, s') => (none, s')

def reservedRecord (planId : String) (plan : ObjectBatchPlanRecord) (fingerprint : String)
    (nowUnixMs : Nat) : ObjectBatchLedgerRecord where
  updatedAtUnixMs := nowUnixMs
  planId := planId
  fingerprint := fingerprint
  state := .inProgress
  action := some plan.action
  objects := plan.objects
  providerCallStartedAtUnixMs := none
  results := []
  response := none
  error := none
  recovery := none

def reserveObjectBatchLedger (s : LedgerState) (batchId planId : String)
    (plan : ObjectBatchPlanRecord) (fingerprint : String) (nowUnixMs : Nat)
    (fault : Option FileFault) : Option ObjectBatchApiError × LedgerState :=
  let pruned := { s with memory := pruneObjectBatchLedger s.memory nowUnixMs }
  if objectBatchLedgerLimit ≤ pruned.memory.rows.length ∧ pruned.memory.get batchId = none then
    (some (.new 503 "batch_ledger_full" "batch ledger capacity is exhausted" plan.action), pruned)
  else
    let record := reservedRecord planId plan fingerprint nowUnixMs
    match { pruned with memory := pruned.memory.insert batchId record }.persist fault with
    | (some error, s') =>
      (some (ledgerUnavailable s!"failed to reserve batch ledger: {error.display}" plan.action),
        { s' with memory := s'.memory.remove batchId })
    | (none, s') => (none, s')

def persistObjectBatchProviderMarker (s : LedgerState) (batchId : String) (nowUnixMs : Nat)
    (fault : Option FileFault) : Option ObjectBatchApiError × LedgerState :=
  s.persistObjectBatchLedger batchId nowUnixMs fault
    (fun record => { record with providerCallStartedAtUnixMs := some nowUnixMs })

def persistObjectBatchCompletion (s : LedgerState) (batchId : String)
    (payload : ObjectBatchExecutePayload) (fault : Option FileFault) :
    Option ObjectBatchApiError × LedgerState :=
  match s.memory.get batchId with
  | none => (some (ledgerUnavailable "batch ledger reservation is missing" payload.action), s)
  | some record =>
    let completed :=
      { record with
        state := .completed
        results := payload.results
        response := some payload }
    match { s with memory := s.memory.insert batchId completed }.persist fault with
    | (some error, s') =>
      (some (ledgerUnavailable
        s!"failed to persist completed batch and history: {error.display}" payload.action),
        { s' with memory := s.memory })
    | (none, s') => (none, s')

/-- A rejection stays in memory whether or not one of the two writes succeeds. -/
def persistObjectBatchRejection (s : LedgerState) (batchId : String) (nowUnixMs : Nat)
    (error : ObjectBatchApiError) (results : List ObjectBatchItemPayload)
    (first second : Option FileFault) : ObjectBatchApiError × LedgerState :=
  let savedError := { error with state := some "rejected" }
  match s.memory.get batchId with
  | none => (ledgerUnavailable "batch ledger reservation is missing" savedError.action, s)
  | some existing =>
    let rejected :=
      { existing with
        updatedAtUnixMs := nowUnixMs
        state := .rejected
        providerCallStartedAtUnixMs := none
        results := results
        error := some savedError.persisted }
    match { s with memory := s.memory.insert batchId rejected }.persist first with
    | (none, s') => (savedError, s')
    | (some _, s') =>
      match s'.persist second with
      | (none, s'') => (savedError, s'')
      | (some lastError, s'') =>
        (ledgerUnavailable s!"failed to persist rejected batch: {lastError.display}"
          savedError.action, s'')

def persistObjectBatchInterruption (s : LedgerState) (batchId : String) (nowUnixMs : Nat)
    (results : List ObjectBatchItemPayload) (recoveryMessage : Option String)
    (fault : Option FileFault) :
    Except ObjectBatchApiError ObjectBatchRecoveryPayload × LedgerState :=
  match s.memory.get batchId with
  | none => (.error (ledgerUnavailable "batch ledger reservation is missing" .move), s)
  | some record =>
    let recovery := recoverPayloadForRecord batchId { record with results := results }
    let savedError := recoveryMessage.map (fun message =>
      { status := 409
        code := "batch_recovery_required"
        message := message
        action := record.action.getD .move
        batchId := some batchId
        state := some "interrupted"
        items := []
        retryAfterSecs := none
        : ObjectBatchPersistedError })
    match s.persistObjectBatchLedger batchId nowUnixMs fault (fun record =>
        { record with
          state := .interrupted
          results := results
          recovery := some recovery
          error := savedError }) with
    | (some error, s') => (.error error, s')
    | (none, s') => (.ok recovery, s')

end LedgerState

/-! ## Section 6: The answer of a record -/

def existingObjectBatchResult (record : ObjectBatchLedgerRecord) (batchId fingerprint : String) :
    Except ObjectBatchApiError ObjectBatchExecutePayload :=
  let action := record.action.getD .move
  if record.fingerprint ≠ fingerprint then
    .error ((ObjectBatchApiError.new 409 "idempotency_key_reused"
      "idempotency key is already bound to a different batch request" action).forBatch batchId
        (some "rejected"))
  else
    match record.state with
    | .completed =>
      match record.response with
      | some response => .ok response
      | none => .error (ledgerUnavailable "completed batch response is missing" action)
    | .rejected =>
      .error ((record.error.map ObjectBatchApiError.fromPersisted).getD
        (.new 409 "batch_not_started" "batch was rejected before provider execution" action))
    | .inProgress =>
      .error (((ObjectBatchApiError.new 409 "batch_in_progress"
        "batch execution is already in progress" action).forBatch batchId
          (some "in_progress")).retryAfter 5)
    | .interrupted =>
      let recovery := record.recovery.getD (recoverPayloadForRecord batchId record)
      let message :=
        ((record.error.filter (fun error =>
          decide (error.code = "batch_recovery_required"))).map (·.message)).getD
            "batch execution was interrupted and must be reviewed"
      .error (((ObjectBatchApiError.new 409 "batch_recovery_required" message
        recovery.action).forBatch batchId (some "interrupted")).withRecovery recovery)

end Netdisk2Blob.Gateway
