import Netdisk2Blob.Blob.Core
import Netdisk2Blob.Metadata.Objects
import Netdisk2Blob.Replication.Engine

/-!
# Replay of the Gateway Write-Ahead Log

At startup, before any worker runs, the gateway reads the records of its write-ahead log
from the remote backend and brings the metadata store and the replication queue in line
with what the home backends hold.

## Contents

- records, policy and the environment of a replay (backends, remote records, clock)
- `replayRecord`: one turn of the replay loop; `replayRecords`: the loop, which stops at
  the first error and keeps what was done before it
- `recoveryAction` and `perform`: which of four things a turn does, and
  `replayRecord_eq_perform`, that a turn does just that
-/

namespace Netdisk2Blob.Gateway

open Library Blob Policy Replication Metadata

/-! ## Section 1: Backends and records -/

/-- A configured home backend. `getObject n` is what `get_object` answers at the `n`-th
record of a replay; the payload is dropped. -/
structure ConfiguredBackend where
  provider : ProviderId
  getObject : Nat → String → String → Except BlobError Unit

inductive GatewayWriteAheadLogPhase where
  | prepare
  | committed
  deriving DecidableEq, Repr

inductive GatewayWriteAheadLogOperation where
  | put
  | delete
  | metadataSync
  deriving DecidableEq, Repr

structure GatewayWriteAheadLogRecord where
  schemaVersion : Nat
  lsn : Nat
  txId : String
  phase : GatewayWriteAheadLogPhase
  operation : GatewayWriteAheadLogOperation
  bucket : String
  key : String
  homeProvider : ProviderId
  logicalRecord : Option LogicalObjectRecord
  syncTargets : List ProviderId
  fallbackReadOrder : List ProviderId
  previousPlacement : Option ObjectPlacementRecord
  previousLogicalRecord : Option LogicalObjectRecord
  previousProtectionPlan : Option ObjectProtectionPlanRecord
  preparedAtUnixMs : Nat
  committedAtUnixMs : Option Nat
  deriving DecidableEq, Repr

def gatewayWriteAheadLogFormatVersion : Nat := 1

structure GatewayWriteAheadLogPolicy where
  enabled : Bool
  remoteProvider : Option ProviderId
  deriving DecidableEq, Repr

/-- Everything a replay reads besides the store: the policy, the backends, what listing,
fetching and decoding the remote records gives, and the clock. -/
structure ReplayEnvironment where
  policy : GatewayWriteAheadLogPolicy
  backends : List ConfiguredBackend
  remoteRecords : Except BlobError (List GatewayWriteAheadLogRecord)
  /-- the clock when the placement of the `n`-th record is written -/
  placedAtUnixMs : Nat → Nat
  /-- the clock when the jobs of the `n`-th record are made -/
  enqueuedAtUnixMs : Nat → Nat
  finishedAtUnixMs : Nat

namespace ReplayEnvironment

def backendForProvider (env : ReplayEnvironment) (provider : ProviderId) :
    Except BlobError ConfiguredBackend :=
  match env.backends.find? (fun backend => decide (backend.provider = provider)) with
  | some backend => .ok backend
  | none =>
    .error (.configuration s!"backend is not configured for provider {provider.asStr}")

/-- The home check of the `n`-th record: a missing backend or the answer of `get_object`. -/
def homeCheck (env : ReplayEnvironment) (n : Nat) (record : GatewayWriteAheadLogRecord) :
    Except BlobError Unit :=
  match env.backendForProvider record.homeProvider with
  | .error error => .error error
  | .ok backend => backend.getObject n record.bucket record.key

end ReplayEnvironment

/-- `sort_by` LSN, then transaction id. -/
def ReplayOrder (left right : GatewayWriteAheadLogRecord) : Prop :=
  left.lsn < right.lsn ∨ (left.lsn = right.lsn ∧ left.txId ≤ right.txId)

instance : DecidableRel ReplayOrder := fun _ _ => inferInstanceAs (Decidable (_ ∨ _))

/-- The remote records above the replay floor, in replay order. -/
def loadGatewayWriteAheadLogRecordsFromRemote (env : ReplayEnvironment)
    (store : MetadataStore) : Except BlobError (List GatewayWriteAheadLogRecord) :=
  if !env.policy.enabled then .ok []
  else
    match env.policy.remoteProvider with
    | none => .ok []
    | some remoteProvider =>
      match env.backendForProvider remoteProvider with
      | .error error => .error error
      | .ok _ =>
        match env.remoteRecords with
        | .error error => .error error
        | .ok records =>
          let replayFloorLsn := store.gatewayWriteAheadLogReplayFloorLsn.getD 0
          let kept := records.filter (fun record =>
            decide (record.schemaVersion = gatewayWriteAheadLogFormatVersion ∧
              ¬ record.lsn ≤ replayFloorLsn))
          .ok (kept.insertionSort ReplayOrder)

/-! ## Section 2: One record -/

/-- What the replay loop carries from record to record. -/
structure ReplayState where
  metadataStore : MetadataStore
  replication : ReplicationEngine
  lastReplayedLsn : Option Nat

def csvFromProviderIds (providers : List ProviderId) : String :=
  String.intercalate "," (providers.map ProviderId.asStr)

/-- `persist_object_protection_plan`: the fallback order is cut down to sync targets. -/
def persistObjectProtectionPlan (store : MetadataStore) (bucket key : String)
    (syncTargets fallbackReadOrder : List ProviderId) (updatedAtUnixMs : Nat) : MetadataStore :=
  store.upsertObjectProtectionPlan
    { bucket := bucket
      key := key
      syncTargetsCsv := csvFromProviderIds syncTargets
      fallbackReadOrderCsv :=
        csvFromProviderIds (sanitizeFallbackOrderForSyncTargets syncTargets fallbackReadOrder)
      updatedAtUnixMs := updatedAtUnixMs }

/-- Each of the three rows goes back to what it was, or away. -/
def restorePreviousObjectMetadataState (store : MetadataStore) (bucket key : String)
    (previousPlacement : Option ObjectPlacementRecord)
    (previousLogicalRecord : Option LogicalObjectRecord)
    (previousProtectionPlan : Option ObjectProtectionPlanRecord) : MetadataStore :=
  let store :=
    match previousPlacement with
    | some record =>
      store.upsertObjectPlacement record.provider record.bucket record.key record.updatedAtUnixMs
    | none => store.deleteObjectPlacement bucket key
  let store :=
    match previousLogicalRecord with
    | some record => store.upsertLogicalObject record
    | none => store.deleteLogicalObject bucket key
  match previousProtectionPlan with
  | some record => store.upsertObjectProtectionPlan record
  | none => store.deleteObjectProtectionPlan bucket key

/-- The decision looks at the status of the latest job, not at its operation. -/
def replayShouldEnqueueReplicationForTarget (store : MetadataStore) (target : ProviderId)
    (bucket key : String) : Bool :=
  match (store.latestJobForObject target.asStr bucket key).map ReplicationJob.status with
  | some .pending | some .retryScheduled | some .completed => false
  | some .failed | none => true

def latestReplicationJobIsTerminalOrPending (store : MetadataStore) (target : ProviderId)
    (bucket key : String) : Bool :=
  match (store.latestJobForObject target.asStr bucket key).map ReplicationJob.status with
  | some .pending | some .retryScheduled | some .completed => true
  | some .failed | none => false

def replayShouldEnqueueDeleteForTarget (store : MetadataStore) (target : ProviderId)
    (bucket key : String) : Bool :=
  !latestReplicationJobIsTerminalOrPending store target bucket key

namespace ReplayState

/-- `last_replayed_lsn = Some(last_replayed_lsn.unwrap_or(0).max(lsn))`. -/
def replayed (state : ReplayState) (lsn : Nat) : ReplayState :=
  { state with lastReplayedLsn := some (max (state.lastReplayedLsn.getD 0) lsn) }

/-- Jobs go to the queue first and to the store after it. -/
def withJobs (state : ReplayState) (jobs : List ReplicationJob × ReplicationEngine) :
    ReplayState :=
  { state with
    replication := jobs.2
    metadataStore := state.metadataStore.enqueueJobs jobs.1 }

def rollBack (state : ReplayState) (record : GatewayWriteAheadLogRecord) : ReplayState :=
  { state with
    metadataStore :=
      restorePreviousObjectMetadataState state.metadataStore record.bucket record.key
        record.previousPlacement record.previousLogicalRecord record.previousProtectionPlan }

/-- The metadata of a write whose home object exists. -/
def persistWrite (state : ReplayState) (placedAtUnixMs : Nat)
    (record : GatewayWriteAheadLogRecord) : ReplayState :=
  let store :=
    state.metadataStore.upsertObjectPlacement record.homeProvider.asStr record.bucket record.key
      placedAtUnixMs
  let store :=
    match record.logicalRecord with
    | some logicalRecord => store.upsertLogicalObject logicalRecord
    | none => store.deleteLogicalObject record.bucket record.key
  { state with
    metadataStore :=
      persistObjectProtectionPlan store record.bucket record.key record.syncTargets
        record.fallbackReadOrder (record.committedAtUnixMs.getD record.preparedAtUnixMs) }

def enqueueMissingPuts (state : ReplayState) (enqueuedAtUnixMs : Nat)
    (record : GatewayWriteAheadLogRecord) : ReplayState :=
  let missingTargets := record.syncTargets.filter (fun target =>
    replayShouldEnqueueReplicationForTarget state.metadataStore target record.bucket record.key)
  if missingTargets.isEmpty then state
  else
    let recoveryTopology : TopologyPolicy :=
      { primaryProvider := record.homeProvider
        syncTargets := missingTargets
        fallbackReadOrder :=
          sanitizeFallbackOrderForSyncTargets missingTargets record.fallbackReadOrder
        onedriveEnabled := decide (ProviderId.onedrive ∈ missingTargets)
        replicationMode := .asyncBackup }
    state.withJobs
      (state.replication.enqueuePut recoveryTopology (some record.homeProvider.asStr)
        record.bucket record.key none ((record.logicalRecord.map (·.storedSize)).getD 0)
        (record.logicalRecord.bind (·.logicalContentType)) enqueuedAtUnixMs)

def deleteMetadata (state : ReplayState) (record : GatewayWriteAheadLogRecord) : ReplayState :=
  { state with
    metadataStore :=
      ((state.metadataStore.deleteObjectPlacement record.bucket
        record.key).deleteObjectProtectionPlan record.bucket record.key).deleteLogicalObject
          record.bucket record.key }

def enqueueMissingDeletes (state : ReplayState) (enqueuedAtUnixMs : Nat)
    (record : GatewayWriteAheadLogRecord) : ReplayState :=
  let missingTargets := record.syncTargets.filter (fun target =>
    replayShouldEnqueueDeleteForTarget state.metadataStore target record.bucket record.key)
  if missingTargets.isEmpty then state
  else
    let deleteTopology : TopologyPolicy :=
      { primaryProvider := record.homeProvider
        syncTargets := missingTargets
        fallbackReadOrder := []
        onedriveEnabled := false
        replicationMode := .asyncBackup }
    state.withJobs
      (state.replication.enqueueDelete deleteTopology (some record.homeProvider.asStr)
        record.bucket record.key enqueuedAtUnixMs)

end ReplayState

/-- One turn of the replay loop, on the `n`-th record. -/
def replayRecord (env : ReplayEnvironment) (n : Nat) (record : GatewayWriteAheadLogRecord)
    (state : ReplayState) : Except BlobError ReplayState :=
  match record.operation with
  | .put | .metadataSync =>
    match env.backendForProvider record.homeProvider with
    | .error error => .error error
    | .ok homeBackend =>
      -- `is_ok()`: every error counts as an absent home object
      let homeExists := (homeBackend.getObject n record.bucket record.key).isOk
      if !homeExists then
        if record.operation = .put then .ok ((state.rollBack record).replayed record.lsn)
        else .ok (state.replayed record.lsn)
      else
        .ok (((state.persistWrite (env.placedAtUnixMs n) record).enqueueMissingPuts
          (env.enqueuedAtUnixMs n) record).replayed record.lsn)
  | .delete =>
    match env.backendForProvider record.homeProvider with
    | .error error => .error error
    | .ok homeBackend =>
      let homeExists := (homeBackend.getObject n record.bucket record.key).isOk
      if record.phase = .prepare ∧ homeExists = true then .ok (state.replayed record.lsn)
      else
        .ok (((state.deleteMetadata record).enqueueMissingDeletes
          (env.enqueuedAtUnixMs n) record).replayed record.lsn)

/-! ## Section 3: The loop -/

/-- The loop from the `n`-th record on; an error ends it and what was done stays. -/
def replayRecords (env : ReplayEnvironment) :
    Nat → List GatewayWriteAheadLogRecord → ReplayState → ReplayState × Option BlobError
  | _, [], state => (state, none)
  | n, record :: records, state =>
    match replayRecord env n record state with
    | .error error => (state, some error)
    | .ok state' => replayRecords env (n + 1) records state'

def ReplayState.initial (store : MetadataStore) (engine : ReplicationEngine) : ReplayState where
  metadataStore := store
  replication := engine
  lastReplayedLsn := none

/-- What a replay leaves behind, and its error if it has one. -/
structure ReplayOutcome where
  metadataStore : MetadataStore
  replication : ReplicationEngine
  error : Option BlobError

def replayGatewayWriteAheadLogFromRemote (env : ReplayEnvironment) (store : MetadataStore)
    (engine : ReplicationEngine) : ReplayOutcome :=
  match loadGatewayWriteAheadLogRecordsFromRemote env store with
  | .error error => ⟨store, engine, some error⟩
  | .ok records =>
    match replayRecords env 0 records (ReplayState.initial store engine) with
    | (state, some error) => ⟨state.metadataStore, state.replication, some error⟩
    | (state, none) =>
      match state.lastReplayedLsn with
      | none => ⟨state.metadataStore, state.replication, none⟩
      | some lsn =>
        ⟨state.metadataStore.updateGatewayWriteAheadLogReplayedLsn lsn env.finishedAtUnixMs,
          state.replication, none⟩

/-! ## Section 4: What a turn does -/

/-- The four things a turn can do to the metadata of its key. -/
inductive RecoveryAction where
  | keep
  | reapply
  | rollBack
  | delete
  deriving DecidableEq, Repr

/-- The action that a record and the answer to its home check lead to. -/
def recoveryAction (record : GatewayWriteAheadLogRecord) (homeExists : Bool) :
    RecoveryAction :=
  match record.operation, homeExists with
  | .put, true | .metadataSync, true => .reapply
  | .put, false => .rollBack
  | .metadataSync, false => .keep
  | .delete, true => if record.phase = .prepare then .keep else .delete
  | .delete, false => .delete

def ReplayState.perform (env : ReplayEnvironment) (n : Nat)
    (record : GatewayWriteAheadLogRecord) (state : ReplayState) : RecoveryAction → ReplayState
  | .keep => state
  | .rollBack => state.rollBack record
  | .reapply =>
    (state.persistWrite (env.placedAtUnixMs n) record).enqueueMissingPuts
      (env.enqueuedAtUnixMs n) record
  | .delete =>
    (state.deleteMetadata record).enqueueMissingDeletes (env.enqueuedAtUnixMs n) record

/-- The home backend of a record is configured. -/
def ReplayEnvironment.Configured (env : ReplayEnvironment)
    (record : GatewayWriteAheadLogRecord) : Prop :=
  ∃ backend ∈ env.backends, backend.provider = record.homeProvider

section Turn

variable {env : ReplayEnvironment} {n : Nat} {record : GatewayWriteAheadLogRecord}
  {state state' : ReplayState}

theorem backendForProvider_cases (env : ReplayEnvironment)
    (record : GatewayWriteAheadLogRecord) :
    (env.Configured record ∧ ∃ backend,
      env.backendForProvider record.homeProvider = .ok backend) ∨
    (¬ env.Configured record ∧
      env.backendForProvider record.homeProvider =
        .error (.configuration
          s!"backend is not configured for provider {record.homeProvider.asStr}")) := by
  unfold ReplayEnvironment.backendForProvider ReplayEnvironment.Configured
  cases hfind : env.backends.find?
      (fun backend => decide (backend.provider = record.homeProvider)) with
  | some backend =>
    have hprovider : backend.provider = record.homeProvider := by
      simpa using List.find?_some hfind
    exact Or.inl ⟨⟨backend, List.mem_of_find?_eq_some hfind, hprovider⟩, backend, rfl⟩
  | none =>
    refine Or.inr ⟨?_, rfl⟩
    rintro ⟨backend, hbackend, hprovider⟩
    simpa [hprovider] using List.find?_eq_none.mp hfind backend hbackend

/-- A turn performs the action its record and home check lead to. -/
theorem replayRecord_eq_perform (hconfigured : env.Configured record) :
    replayRecord env n record state =
      .ok ((state.perform env n record
        (recoveryAction record (env.homeCheck n record).isOk)).replayed record.lsn) := by
  obtain ⟨-, backend, hbackend⟩ | ⟨hnot, -⟩ := backendForProvider_cases env record
  · unfold replayRecord ReplayEnvironment.homeCheck recoveryAction
    rw [hbackend]
    cases hoperation : record.operation <;>
      cases hanswer : (backend.getObject n record.bucket record.key).isOk <;>
      cases hphase : record.phase <;>
      simp [ReplayState.perform, hanswer]
  · exact absurd hconfigured hnot

/-- A turn fails on an unconfigured home backend and on nothing else. -/
theorem replayRecord_eq_error (hnot : ¬ env.Configured record) :
    replayRecord env n record state =
      .error (.configuration
        s!"backend is not configured for provider {record.homeProvider.asStr}") := by
  obtain ⟨hconfigured, -⟩ | ⟨-, hbackend⟩ := backendForProvider_cases env record
  · exact absurd hconfigured hnot
  · unfold replayRecord
    rw [hbackend]
    cases record.operation <;> rfl

theorem replayRecord_ok (h : replayRecord env n record state = .ok state') :
    env.Configured record ∧
      state' = (state.perform env n record
        (recoveryAction record (env.homeCheck n record).isOk)).replayed record.lsn := by
  by_cases hconfigured : env.Configured record
  · rw [replayRecord_eq_perform hconfigured] at h
    exact ⟨hconfigured, (Except.ok.inj h).symm⟩
  · rw [replayRecord_eq_error hconfigured] at h
    cases h

end Turn

/-! ## Section 5: Runs of the loop -/

section Loop

variable {env : ReplayEnvironment} {state state' : ReplayState}

/-- What every turn keeps, the loop keeps. -/
theorem replayRecords_invariant {P : ReplayState → Prop}
    (hturn : ∀ n record s s', P s → replayRecord env n record s = .ok s' → P s')
    {records : List GatewayWriteAheadLogRecord} {n : Nat} (hP : P state) :
    P (replayRecords env n records state).1 := by
  induction records generalizing n state with
  | nil => exact hP
  | cons record records ih =>
    rw [replayRecords]
    cases h : replayRecord env n record state with
    | error error => exact hP
    | ok next => exact ih (hturn n record state next hP h)

/-- The loop ends without an error if every home backend is configured, and only then. -/
theorem replayRecords_error_iff {records : List GatewayWriteAheadLogRecord} {n : Nat} :
    (replayRecords env n records state).2 = none ↔ ∀ record ∈ records, env.Configured record := by
  induction records generalizing n state with
  | nil => simp [replayRecords]
  | cons record records ih =>
    rw [replayRecords]
    by_cases hconfigured : env.Configured record
    · rw [replayRecord_eq_perform hconfigured]
      simp only [List.mem_cons, forall_eq_or_imp, hconfigured, true_and]
      exact ih
    · rw [replayRecord_eq_error hconfigured]
      simp [hconfigured]

end Loop

end Netdisk2Blob.Gateway
