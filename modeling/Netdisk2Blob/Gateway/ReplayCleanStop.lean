import Netdisk2Blob.Gateway.PutRollback
import Netdisk2Blob.Gateway.ReplayRollback

/-!
# Replay after a Clean Stop

Only a replay or a backup moves the replay floor, so the first replay after a stop takes
every record since then again, on top of whatever later operations did.

Each turn either leaves its key alone or overwrites its three rows (`writtenFacts`), so a
replay leaves in a key what the last writing record of the key says (`lastWritten`). Jobs
are added for targets whose latest job failed or is missing (`JobsSettled`).

## Contents

- `ObjectFacts`: placement provider, logical record and plan of a key, without the times
- `facts_replayRecords`, `jobs_replayRecords`: what a run of the loop does to these
- `replay_idempotent`: a second replay adds nothing to the first
- `replay_changes_nothing_iff`: the stores and logs on which a replay changes nothing
-/

namespace Netdisk2Blob.Gateway

open Library Blob Policy Replication Metadata

/-! ## Section 1: What a turn writes -/

/-- The rows of a key without the times they were written at. -/
structure ObjectFacts where
  provider : Option String
  logical : Option LogicalObjectRecord
  plan : Option (String × String)
  deriving DecidableEq, Repr

def objectFacts (metadata : MetadataStore.ObjectMetadata) : ObjectFacts where
  provider := metadata.placement.map (·.provider)
  logical := metadata.logical.map (fun record => { record with updatedAtUnixMs := 0 })
  plan := metadata.protectionPlan.map (fun plan => (plan.syncTargetsCsv, plan.fallbackReadOrderCsv))

/-- The rows of a key in a replay. -/
def ReplayState.facts (state : ReplayState) (bucket key : String) : ObjectFacts :=
  objectFacts (state.metadataStore.objectMetadata bucket key)

/-- What a turn leaves in the rows of its key; `none` if it leaves them alone. -/
def writtenFacts (record : GatewayWriteAheadLogRecord) : RecoveryAction → Option ObjectFacts
  | .keep => none
  | .reapply =>
    some
      { provider := some record.homeProvider.asStr
        logical := record.logicalRecord.map (fun logical => { logical with updatedAtUnixMs := 0 })
        plan :=
          some (csvFromProviderIds record.syncTargets,
            csvFromProviderIds (sanitizeFallbackOrderForSyncTargets record.syncTargets
              record.fallbackReadOrder)) }
  | .rollBack =>
    some (objectFacts
      ⟨record.previousPlacement, record.previousLogicalRecord, record.previousProtectionPlan⟩)
  | .delete => some ⟨none, none, none⟩

/-- The rows that a record carries are rows of its own key, as every operation that
prepares a record takes them from the tables at that key. -/
structure KeyedRecord (record : GatewayWriteAheadLogRecord) : Prop where
  logical : ∀ row, record.logicalRecord = some row →
    row.bucket = record.bucket ∧ row.key = record.key
  previousPlacement : ∀ row, record.previousPlacement = some row →
    row.bucket = record.bucket ∧ row.key = record.key
  previousLogical : ∀ row, record.previousLogicalRecord = some row →
    row.bucket = record.bucket ∧ row.key = record.key
  previousPlan : ∀ row, record.previousProtectionPlan = some row →
    row.bucket = record.bucket ∧ row.key = record.key

section Turn

variable {env : ReplayEnvironment} {n : Nat} {record : GatewayWriteAheadLogRecord}
  {state : ReplayState} {bucket key : String}

/-- Jobs are no rows of an object. -/
theorem EnqueuesMissing.objectMetadata {operation : ReplicationOperation} {state' : ReplayState}
    (h : EnqueuesMissing record operation state state') :
    state'.metadataStore.objectMetadata bucket key =
      state.metadataStore.objectMetadata bucket key := by
  obtain ⟨-, rfl⟩ | ⟨topology, object, now, -, -, -, rfl⟩ := h
  · rfl
  · exact MetadataStore.objectMetadata_enqueueJobs _

theorem EnqueuesMissing.facts {operation : ReplicationOperation} {state' : ReplayState}
    (h : EnqueuesMissing record operation state state') :
    state'.facts bucket key = state.facts bucket key :=
  congrArg objectFacts h.objectMetadata

theorem placement_restorePlacement {store : MetadataStore}
    {placement : Option ObjectPlacementRecord}
    (hplacement : ∀ row, placement = some row → row.bucket = bucket ∧ row.key = key) :
    ((match placement with
      | some record =>
        store.upsertObjectPlacement record.provider record.bucket record.key
          record.updatedAtUnixMs
      | none => store.deleteObjectPlacement bucket key).objectMetadata bucket key).placement =
    placement := by
  cases placement with
  | none => simp
  | some row =>
    obtain ⟨rfl, rfl⟩ := hplacement row rfl
    simp

/-- Each of the three rows goes back to what it was. -/
theorem objectMetadata_restorePrevious {store : MetadataStore}
    {placement : Option ObjectPlacementRecord} {logical : Option LogicalObjectRecord}
    {plan : Option ObjectProtectionPlanRecord}
    (hplacement : ∀ row, placement = some row → row.bucket = bucket ∧ row.key = key)
    (hlogical : ∀ row, logical = some row → row.bucket = bucket ∧ row.key = key)
    (hplan : ∀ row, plan = some row → row.bucket = bucket ∧ row.key = key) :
    (restorePreviousObjectMetadataState store bucket key placement logical plan).objectMetadata
      bucket key = ⟨placement, logical, plan⟩ := by
  have hplaced := @placement_restorePlacement bucket key store placement hplacement
  unfold restorePreviousObjectMetadataState
  cases plan with
  | none =>
    cases logical with
    | none =>
      simp
      exact hplaced
    | some row =>
      simp [MetadataStore.objectMetadata_upsertLogicalObject (hlogical row rfl)]
      exact hplaced
  | some planRow =>
    simp only [MetadataStore.objectMetadata_upsertObjectProtectionPlan (hplan planRow rfl)]
    cases logical with
    | none =>
      simp
      exact hplaced
    | some row =>
      simp [MetadataStore.objectMetadata_upsertLogicalObject (hlogical row rfl)]
      exact hplaced

/-- The first two of the three rows, seen from another key. -/
theorem objectMetadata_restoreRows_ne {store : MetadataStore} {bucket' key' : String}
    (hne : ¬ (bucket' = bucket ∧ key' = key))
    {placement : Option ObjectPlacementRecord} {logical : Option LogicalObjectRecord}
    (hplacement : ∀ row, placement = some row → row.bucket = bucket' ∧ row.key = key')
    (hlogical : ∀ row, logical = some row → row.bucket = bucket' ∧ row.key = key') :
    (match logical with
      | some record =>
        (match placement with
          | some record =>
            store.upsertObjectPlacement record.provider record.bucket record.key
              record.updatedAtUnixMs
          | none => store.deleteObjectPlacement bucket' key').upsertLogicalObject record
      | none =>
        (match placement with
          | some record =>
            store.upsertObjectPlacement record.provider record.bucket record.key
              record.updatedAtUnixMs
          | none =>
            store.deleteObjectPlacement bucket' key').deleteLogicalObject bucket'
              key').objectMetadata bucket key =
      store.objectMetadata bucket key := by
  have hplaced :
      (match placement with
        | some record =>
          store.upsertObjectPlacement record.provider record.bucket record.key
            record.updatedAtUnixMs
        | none => store.deleteObjectPlacement bucket' key').objectMetadata bucket key =
      store.objectMetadata bucket key := by
    cases placement with
    | none => exact MetadataStore.objectMetadata_deleteObjectPlacement_ne hne
    | some row =>
      obtain ⟨rfl, rfl⟩ := hplacement row rfl
      exact MetadataStore.objectMetadata_upsertObjectPlacement_ne hne _ _
  cases logical with
  | none => exact (MetadataStore.objectMetadata_deleteLogicalObject_ne hne).trans hplaced
  | some row =>
    obtain ⟨rfl, rfl⟩ := hlogical row rfl
    exact (MetadataStore.objectMetadata_upsertLogicalObject_ne hne).trans hplaced

theorem facts_rollBack (hkeyed : KeyedRecord record) :
    (state.rollBack record).facts record.bucket record.key =
      objectFacts ⟨record.previousPlacement, record.previousLogicalRecord,
        record.previousProtectionPlan⟩ := by
  show objectFacts ((restorePreviousObjectMetadataState _ _ _ _ _ _).objectMetadata _ _) = _
  rw [objectMetadata_restorePrevious hkeyed.previousPlacement hkeyed.previousLogical
    hkeyed.previousPlan]

/-- The plan row that `persist_object_protection_plan` leaves. -/
theorem objectMetadata_persistObjectProtectionPlan {store : MetadataStore}
    (syncTargets fallbackReadOrder : List ProviderId) (now : Nat) :
    (persistObjectProtectionPlan store bucket key syncTargets fallbackReadOrder
      now).objectMetadata bucket key =
      { store.objectMetadata bucket key with
        protectionPlan :=
          some
            { bucket := bucket
              key := key
              syncTargetsCsv := csvFromProviderIds syncTargets
              fallbackReadOrderCsv :=
                csvFromProviderIds
                  (sanitizeFallbackOrderForSyncTargets syncTargets fallbackReadOrder)
              updatedAtUnixMs := now } } :=
  MetadataStore.objectMetadata_upsertObjectProtectionPlan ⟨rfl, rfl⟩

theorem facts_persistWrite (hkeyed : KeyedRecord record) (now : Nat) :
    some ((state.persistWrite now record).facts record.bucket record.key) =
      writtenFacts record .reapply := by
  unfold ReplayState.facts ReplayState.persistWrite
  simp only [objectMetadata_persistObjectProtectionPlan]
  cases hrow : record.logicalRecord with
  | none => simp [objectFacts, writtenFacts, hrow]
  | some logical =>
    simp [MetadataStore.objectMetadata_upsertLogicalObject (hkeyed.logical logical hrow),
      objectFacts, writtenFacts, hrow]

theorem facts_deleteMetadata :
    (state.deleteMetadata record).facts record.bucket record.key = ⟨none, none, none⟩ := by
  unfold ReplayState.facts ReplayState.deleteMetadata
  simp [objectFacts]

/-- What a turn does to the rows of its own key. -/
theorem facts_perform (hkeyed : KeyedRecord record) (action : RecoveryAction) :
    (state.perform env n record action).facts record.bucket record.key =
      (writtenFacts record action).getD (state.facts record.bucket record.key) := by
  cases action with
  | keep => rfl
  | rollBack => exact facts_rollBack hkeyed
  | reapply =>
    show ((state.persistWrite _ record).enqueueMissingPuts _ record).facts _ _ = _
    rw [(enqueueMissingPuts_missing _ _ record).facts, ← facts_persistWrite hkeyed]
    rfl
  | delete =>
    show ((state.deleteMetadata record).enqueueMissingDeletes _ record).facts _ _ = _
    rw [(enqueueMissingDeletes_missing _ _ record).facts]
    exact facts_deleteMetadata

/-- A turn leaves the rows of other keys alone. -/
theorem facts_perform_ne (hkeyed : KeyedRecord record)
    (hne : ¬ (record.bucket = bucket ∧ record.key = key)) (action : RecoveryAction) :
    (state.perform env n record action).facts bucket key = state.facts bucket key := by
  -- a row of the record's key is no row of this one
  have hother : ∀ {rowBucket rowKey : String},
      rowBucket = record.bucket ∧ rowKey = record.key → ¬ (rowBucket = bucket ∧ rowKey = key) := by
    rintro _ _ ⟨rfl, rfl⟩
    exact hne
  apply congrArg objectFacts
  cases action with
  | keep => rfl
  | rollBack =>
    show (restorePreviousObjectMetadataState _ _ _ _ _ _).objectMetadata _ _ = _
    have hplacement := hkeyed.previousPlacement
    have hlogical := hkeyed.previousLogical
    have hplan := hkeyed.previousPlan
    unfold restorePreviousObjectMetadataState
    cases hrow : record.previousProtectionPlan with
    | none =>
      rw [MetadataStore.objectMetadata_deleteObjectProtectionPlan_ne hne]
      exact objectMetadata_restoreRows_ne hne hplacement hlogical
    | some plan =>
      rw [MetadataStore.objectMetadata_upsertObjectProtectionPlan_ne (hother (hplan plan hrow))]
      exact objectMetadata_restoreRows_ne hne hplacement hlogical
  | reapply =>
    show ((state.persistWrite _ record).enqueueMissingPuts _ record).metadataStore.objectMetadata
      _ _ = _
    rw [(enqueueMissingPuts_missing _ _ record).objectMetadata]
    show (persistObjectProtectionPlan _ _ _ _ _ _).objectMetadata _ _ = _
    unfold persistObjectProtectionPlan
    rw [MetadataStore.objectMetadata_upsertObjectProtectionPlan_ne hne]
    have hlogical := hkeyed.logical
    cases hrow : record.logicalRecord with
    | none =>
      rw [MetadataStore.objectMetadata_deleteLogicalObject_ne hne,
        MetadataStore.objectMetadata_upsertObjectPlacement_ne hne]
    | some row =>
      rw [MetadataStore.objectMetadata_upsertLogicalObject_ne (hother (hlogical row hrow)),
        MetadataStore.objectMetadata_upsertObjectPlacement_ne hne]
  | delete =>
    show ((state.deleteMetadata record).enqueueMissingDeletes _
      record).metadataStore.objectMetadata _ _ = _
    rw [(enqueueMissingDeletes_missing _ _ record).objectMetadata]
    show (((state.metadataStore.deleteObjectPlacement _ _).deleteObjectProtectionPlan _
      _).deleteLogicalObject _ _).objectMetadata _ _ = _
    rw [MetadataStore.objectMetadata_deleteLogicalObject_ne hne,
      MetadataStore.objectMetadata_deleteObjectProtectionPlan_ne hne,
      MetadataStore.objectMetadata_deleteObjectPlacement_ne hne]

/-! ## Section 2: What a run of the loop writes -/

/-- What the last record that writes the rows of a key leaves there. -/
def lastWritten (env : ReplayEnvironment) (bucket key : String) :
    Nat → List GatewayWriteAheadLogRecord → Option ObjectFacts
  | _, [] => none
  | n, record :: records =>
    (lastWritten env bucket key (n + 1) records).or
      (if record.bucket = bucket ∧ record.key = key then
        writtenFacts record (recoveryAction record (env.homeCheck n record).isOk)
      else none)

/-- One turn, on the rows of any key. -/
theorem facts_turn (hkeyed : KeyedRecord record) (action : RecoveryAction) :
    (state.perform env n record action).facts bucket key =
      (if record.bucket = bucket ∧ record.key = key then writtenFacts record action
        else none).getD (state.facts bucket key) := by
  split
  · rename_i hkey
    obtain ⟨rfl, rfl⟩ := hkey
    exact facts_perform hkeyed action
  · rename_i hne
    exact facts_perform_ne hkeyed hne action

/-- The run lemma: the rows of a key are those of its last writing record. -/
theorem facts_replayRecords {records : List GatewayWriteAheadLogRecord}
    (hconfigured : ∀ record ∈ records, env.Configured record)
    (hkeyed : ∀ record ∈ records, KeyedRecord record) :
    (replayRecords env n records state).1.facts bucket key =
      (lastWritten env bucket key n records).getD (state.facts bucket key) := by
  induction records generalizing n state with
  | nil => rfl
  | cons record records ih =>
    rw [List.forall_mem_cons] at hconfigured hkeyed
    rw [replayRecords, replayRecord_eq_perform hconfigured.1]
    show (replayRecords env (n + 1) records _).1.facts bucket key = _
    rw [ih hconfigured.2 hkeyed.2, lastWritten]
    cases lastWritten env bucket key (n + 1) records with
    | some facts => rfl
    | none => exact facts_turn hkeyed.1 _

/-! ## Section 3: What a run of the loop enqueues -/

theorem shouldEnqueueReplication_eq_false {store : MetadataStore} {target : ProviderId} :
    replayShouldEnqueueReplicationForTarget store target bucket key = false ↔
      ∃ job, store.latestJobForObject target.asStr bucket key = some job ∧
        job.status ≠ .failed := by
  unfold replayShouldEnqueueReplicationForTarget
  cases store.latestJobForObject target.asStr bucket key with
  | none => simp
  | some job => cases hstatus : job.status <;> simp [hstatus]

/-- A turn that may enqueue jobs finds one for every sync target. The home provider gets
no job in any case. -/
def JobsSettled (store : MetadataStore) (record : GatewayWriteAheadLogRecord) :
    RecoveryAction → Prop
  | .keep | .rollBack => True
  | .reapply | .delete =>
    ∀ target ∈ record.syncTargets, target ≠ record.homeProvider →
      replayShouldEnqueueReplicationForTarget store target record.bucket record.key = false

theorem jobsSettled_congr {store store' : MetadataStore}
    (h : store'.replicationJobs = store.replicationJobs) (action : RecoveryAction) :
    JobsSettled store' record action ↔ JobsSettled store record action := by
  have hsame : ∀ target : ProviderId,
      replayShouldEnqueueReplicationForTarget store' target record.bucket record.key =
        replayShouldEnqueueReplicationForTarget store target record.bucket record.key := by
    intro target
    unfold replayShouldEnqueueReplicationForTarget MetadataStore.latestJobForObject
    rw [h]
  cases action <;> simp [JobsSettled, hsame]

theorem missingTargets_settled {store : MetadataStore} :
    (∀ target ∈ record.syncTargets, target ≠ record.homeProvider →
      replayShouldEnqueueReplicationForTarget store target record.bucket record.key = false) ↔
    ∀ target ∈ missingTargets store record, target = record.homeProvider := by
  unfold missingTargets
  constructor
  · intro h target htarget
    obtain ⟨hmem, hmissing⟩ := List.mem_filter.mp htarget
    by_contra hne
    rw [h target hmem hne] at hmissing
    exact absurd hmissing (by simp)
  · intro h target hmem hne
    by_contra hmissing
    exact hne (h target (List.mem_filter.mpr ⟨hmem, by simpa using hmissing⟩))

/-- A request for the missing targets makes no job exactly when there is none but the home
provider, and then it changes nothing. -/
theorem EnqueuesMissing.settled {operation : ReplicationOperation} {state' : ReplayState}
    (h : EnqueuesMissing record operation state state') :
    state.replication.pendingJobs.length ≤ state'.replication.pendingJobs.length ∧
      ((∀ target ∈ missingTargets state.metadataStore record, target = record.homeProvider) ↔
        state'.replication.pendingJobs.length = state.replication.pendingJobs.length) ∧
      ((∀ target ∈ missingTargets state.metadataStore record, target = record.homeProvider) →
        state' = state) := by
  obtain ⟨hnil, rfl⟩ | ⟨topology, object, now, htargets, -, -, rfl⟩ := h
  · rw [hnil]
    simp
  · have hcreated : (state.replication.enqueueJobs topology (some record.homeProvider.asStr)
        operation object now).1 = [] ↔
        ∀ target ∈ missingTargets state.metadataStore record, target = record.homeProvider := by
      show ReplicationEngine.createJobs _ _ _ _ _ topology.syncTargets = [] ↔ _
      rw [ReplicationEngine.createJobs_eq_nil, htargets]
      apply forall₂_congr
      intro target _
      constructor
      · intro hname
        exact (ProviderId.asStr_injective (Option.some.inj hname)).symm
      · rintro rfl
        rfl
    show _ ≤ (state.replication.enqueueJobs _ _ _ _ _).2.pendingJobs.length ∧
      (_ ↔ (state.replication.enqueueJobs _ _ _ _ _).2.pendingJobs.length = _) ∧ _
    rw [← hcreated, ReplicationEngine.enqueueJobs_pendingJobs, List.length_append]
    refine ⟨Nat.le_add_right _ _, ?_, ?_⟩
    · rw [Nat.add_eq_left, List.length_eq_zero_iff]
    · intro hnil
      show ReplayState.mk _ _ _ = _
      rw [hnil]
      show ReplayState.mk state.metadataStore
        { state.replication with
          nextJobId := state.replication.nextJobId +
            (state.replication.enqueueJobs topology (some record.homeProvider.asStr) operation
              object now).1.length
          pendingJobs := state.replication.pendingJobs ++
            (state.replication.enqueueJobs topology (some record.homeProvider.asStr) operation
              object now).1 } state.lastReplayedLsn = state
      rw [hnil]
      simp

/-- Whether a turn makes a job, and that it changes no job if it makes none. -/
theorem jobs_perform (action : RecoveryAction) :
    state.replication.pendingJobs.length ≤
        (state.perform env n record action).replication.pendingJobs.length ∧
      (JobsSettled state.metadataStore record action ↔
        (state.perform env n record action).replication.pendingJobs.length =
          state.replication.pendingJobs.length) ∧
      (JobsSettled state.metadataStore record action →
        (state.perform env n record action).replication = state.replication ∧
          (state.perform env n record action).metadataStore.replicationJobs =
            state.metadataStore.replicationJobs) := by
  obtain ⟨written, hjobs, hengine, hperform⟩ := perform_jobs env n record state action
  have hquiet : ∀ {operation : ReplicationOperation} {state' : ReplayState},
      EnqueuesMissing record operation written state' →
      (JobsSettled state.metadataStore record action ↔
        ∀ target ∈ missingTargets written.metadataStore record, target = record.homeProvider) →
      state.replication.pendingJobs.length ≤ state'.replication.pendingJobs.length ∧
        (JobsSettled state.metadataStore record action ↔
          state'.replication.pendingJobs.length = state.replication.pendingJobs.length) ∧
        (JobsSettled state.metadataStore record action →
          state'.replication = state.replication ∧
            state'.metadataStore.replicationJobs = state.metadataStore.replicationJobs) := by
    intro operation state' hmissing hsettled
    obtain ⟨hle, hiff, hsame⟩ := hmissing.settled
    rw [hengine] at hle hiff
    rw [hsettled]
    refine ⟨hle, hiff, ?_⟩
    intro hhome
    rw [hsame hhome]
    exact ⟨hengine, hjobs⟩
  rw [← jobsSettled_congr hjobs] at hquiet ⊢
  cases action with
  | keep =>
    change state.perform env n record .keep = written at hperform
    rw [hperform, hengine]
    simp [JobsSettled, hjobs]
  | rollBack =>
    change state.perform env n record .rollBack = written at hperform
    rw [hperform, hengine]
    simp [JobsSettled, hjobs]
  | reapply => exact hquiet hperform missingTargets_settled
  | delete => exact hquiet hperform missingTargets_settled

/-- Every turn finds the jobs it asks for. -/
def AllJobsSettled (env : ReplayEnvironment) (store : MetadataStore) :
    Nat → List GatewayWriteAheadLogRecord → Prop
  | _, [] => True
  | n, record :: records =>
    JobsSettled store record (recoveryAction record (env.homeCheck n record).isOk) ∧
      AllJobsSettled env store (n + 1) records

theorem allJobsSettled_congr {store store' : MetadataStore}
    (h : store'.replicationJobs = store.replicationJobs)
    {records : List GatewayWriteAheadLogRecord} :
    AllJobsSettled env store' n records ↔ AllJobsSettled env store n records := by
  induction records generalizing n with
  | nil => rfl
  | cons record records ih =>
    rw [AllJobsSettled, AllJobsSettled, jobsSettled_congr h, ih]

/-- The run lemma: the queue stays as long as it is exactly when every turn finds its
jobs, and then no job changes. -/
theorem jobs_replayRecords {records : List GatewayWriteAheadLogRecord}
    (hconfigured : ∀ record ∈ records, env.Configured record) :
    state.replication.pendingJobs.length ≤
        (replayRecords env n records state).1.replication.pendingJobs.length ∧
      (AllJobsSettled env state.metadataStore n records ↔
        (replayRecords env n records state).1.replication.pendingJobs.length =
          state.replication.pendingJobs.length) ∧
      (AllJobsSettled env state.metadataStore n records →
        (replayRecords env n records state).1.replication = state.replication ∧
          (replayRecords env n records state).1.metadataStore.replicationJobs =
            state.metadataStore.replicationJobs) := by
  induction records generalizing n state with
  | nil => simp [replayRecords, AllJobsSettled]
  | cons record records ih =>
    rw [List.forall_mem_cons] at hconfigured
    obtain ⟨hle, hiff, hsame⟩ := @jobs_perform env n record state
      (recoveryAction record (env.homeCheck n record).isOk)
    rw [replayRecords, replayRecord_eq_perform hconfigured.1, AllJobsSettled]
    obtain ⟨hle', hiff', hsame'⟩ := @ih (n + 1)
      ((state.perform env n record
        (recoveryAction record (env.homeCheck n record).isOk)).replayed record.lsn) hconfigured.2
    refine ⟨hle.trans hle', ?_, ?_⟩
    · constructor
      · rintro ⟨hfirst, hrest⟩
        obtain ⟨hengine, hjobs⟩ := hsame hfirst
        exact (hiff'.mp ((allJobsSettled_congr hjobs).mpr hrest)).trans
          (congrArg (fun engine => engine.pendingJobs.length) hengine)
      · intro hlength
        -- the queue never gets shorter, so the first turn made no job
        have hfirst := hiff.mpr (le_antisymm (hle'.trans hlength.le) hle)
        obtain ⟨hengine, hjobs⟩ := hsame hfirst
        refine ⟨hfirst, (allJobsSettled_congr hjobs).mp (hiff'.mpr ?_)⟩
        exact hlength.trans (congrArg (fun engine => engine.pendingJobs.length) hengine.symm)
    · rintro ⟨hfirst, hrest⟩
      obtain ⟨hengine, hjobs⟩ := hsame hfirst
      obtain ⟨hengine', hjobs'⟩ := hsame' ((allJobsSettled_congr hjobs).mpr hrest)
      exact ⟨hengine'.trans hengine, hjobs'.trans hjobs⟩

/-! ## Section 4: Jobs stay found -/

/-- A job that is found is found after more jobs have been enqueued: a newer job of its
object is pending. -/
theorem shouldEnqueueReplication_withJobs {topology : TopologyPolicy} {source : Option String}
    {operation : ReplicationOperation} {object : ReplicationObjectRef} {now : Nat}
    {target : ProviderId} (hids : state.JobIdsBelow)
    (h : replayShouldEnqueueReplicationForTarget state.metadataStore target bucket key = false) :
    replayShouldEnqueueReplicationForTarget
      (state.withJobs (state.replication.enqueueJobs topology source operation object
        now)).metadataStore target bucket key = false := by
  obtain ⟨job, hlatest, hstatus⟩ := shouldEnqueueReplication_eq_false.mp h
  obtain ⟨hmem, htriple, hmax⟩ := Table.latest_eq_some.mp hlatest
  -- the job keeps its row, since no new job has its id
  have hstays : job ∈ (state.withJobs (state.replication.enqueueJobs topology source operation
      object now)).metadataStore.replicationJobs := by
    apply mem_withJobs.mpr
    refine Or.inr ⟨hmem, ?_⟩
    intro hid
    obtain ⟨created, hcreated, hsame⟩ := List.mem_map.mp hid
    have hnext := (ReplicationEngine.enqueueJobs_jobId_mem hcreated).1
    have hlt := hids job hmem
    omega
  apply shouldEnqueueReplication_eq_false.mpr
  cases hnew : (state.withJobs (state.replication.enqueueJobs topology source operation object
      now)).metadataStore.latestJobForObject target.asStr bucket key with
  | none =>
    have hnone := Table.latest_eq_none.mp hnew job hstays
    rw [htriple] at hnone
    cases hnone
  | some latest =>
    refine ⟨latest, rfl, ?_⟩
    obtain ⟨hrow, hkey, hlast⟩ := Table.latest_eq_some.mp hnew
    rcases mem_withJobs.mp hrow with hcreated | ⟨hold, -⟩
    · rw [(ReplicationEngine.mem_createJobs hcreated).2.2.2.2.1]
      simp
    · have hsame : latest = job :=
        Table.eq_of_key_eq hold hmem (le_antisymm (hmax latest hold hkey) (hlast job hstays htriple))
      rw [hsame]
      exact hstatus

theorem EnqueuesMissing.found {operation : ReplicationOperation} {state' : ReplayState}
    {target : ProviderId} (h : EnqueuesMissing record operation state state')
    (hids : state.JobIdsBelow)
    (hfound : replayShouldEnqueueReplicationForTarget state.metadataStore target bucket key =
      false) :
    replayShouldEnqueueReplicationForTarget state'.metadataStore target bucket key = false := by
  obtain ⟨-, rfl⟩ | ⟨topology, object, now, -, -, -, rfl⟩ := h
  · exact hfound
  · exact shouldEnqueueReplication_withJobs hids hfound

/-- After a request for the missing targets, no target but the home provider is missing. -/
theorem EnqueuesMissing.finds {operation : ReplicationOperation} {state' : ReplayState}
    {target : ProviderId} (h : EnqueuesMissing record operation state state')
    (hids : state.JobIdsBelow) (htarget : target ∈ record.syncTargets)
    (hhome : target ≠ record.homeProvider) :
    replayShouldEnqueueReplicationForTarget state'.metadataStore target record.bucket
      record.key = false := by
  cases hmissing : replayShouldEnqueueReplicationForTarget state.metadataStore target
      record.bucket record.key with
  | false => exact h.found hids hmissing
  | true =>
    have hmem : target ∈ missingTargets state.metadataStore record :=
      List.mem_filter.mpr ⟨htarget, hmissing⟩
    obtain ⟨hnil, -⟩ | ⟨topology, object, now, htargets, hbucket, hkey, rfl⟩ := h
    · rw [hnil] at hmem
      cases hmem
    · have hsource : some record.homeProvider.asStr ≠ some target.asStr := by
        intro heq
        exact hhome (ProviderId.asStr_injective (Option.some.inj heq)).symm
      rw [← hbucket, ← hkey]
      obtain ⟨job, hlatest, -, hnext⟩ :=
        (@latestJobForObject_withJobs state topology (some record.homeProvider.asStr) operation
          object now hids target hsource).1 (htargets ▸ hmem)
      apply shouldEnqueueReplication_eq_false.mpr
      refine ⟨job, hlatest, ?_⟩
      -- its id is new, so it is one of the request's
      rcases mem_withJobs.mp (Table.latest_eq_some.mp hlatest).1 with hcreated | ⟨hold, -⟩
      · rw [(ReplicationEngine.mem_createJobs hcreated).2.2.2.2.1]
        simp
      · exact absurd (hids job hold) (by omega)

/-- A turn finds its jobs after it, and what is found stays found. -/
theorem jobsSettled_perform (hids : state.JobIdsBelow) (action : RecoveryAction) :
    JobsSettled (state.perform env n record action).metadataStore record action ∧
      ∀ (other : GatewayWriteAheadLogRecord) (otherAction : RecoveryAction),
        JobsSettled state.metadataStore other otherAction →
          JobsSettled (state.perform env n record action).metadataStore other otherAction := by
  obtain ⟨written, hjobs, hengine, hperform⟩ := perform_jobs env n record state action
  have hwritten : written.JobIdsBelow := by
    intro job hjob
    rw [hengine]
    exact hids job (by rwa [← hjobs])
  have hrequest : ∀ {operation : ReplicationOperation} {state' : ReplayState},
      EnqueuesMissing record operation written state' →
      ∀ (other : GatewayWriteAheadLogRecord) (otherAction : RecoveryAction),
        JobsSettled state.metadataStore other otherAction →
          JobsSettled state'.metadataStore other otherAction := by
    intro operation state' hmissing other otherAction hsettled
    rw [← jobsSettled_congr hjobs] at hsettled
    cases otherAction with
    | keep => trivial
    | rollBack => trivial
    | reapply => exact fun target hmem hne => hmissing.found hwritten (hsettled target hmem hne)
    | delete => exact fun target hmem hne => hmissing.found hwritten (hsettled target hmem hne)
  cases action with
  | keep => exact ⟨trivial, fun _ _ h => h⟩
  | rollBack =>
    exact ⟨trivial, fun _ _ h => (jobsSettled_congr (rollBack_replicationJobs state record) _).mpr h⟩
  | reapply =>
    exact ⟨fun target hmem hne => EnqueuesMissing.finds hperform hwritten hmem hne,
      hrequest hperform⟩
  | delete =>
    exact ⟨fun target hmem hne => EnqueuesMissing.finds hperform hwritten hmem hne,
      hrequest hperform⟩

theorem jobsSettled_replayRecords {records : List GatewayWriteAheadLogRecord}
    (hids : state.JobIdsBelow) {other : GatewayWriteAheadLogRecord} {action : RecoveryAction}
    (h : JobsSettled state.metadataStore other action) :
    JobsSettled (replayRecords env n records state).1.metadataStore other action := by
  refine (@replayRecords_invariant env state
    (fun s => s.JobIdsBelow ∧ JobsSettled s.metadataStore other action) ?_ records n ⟨hids, h⟩).2
  rintro m turn s s' ⟨hbelow, hsettled⟩ hturn
  obtain ⟨-, rfl⟩ := replayRecord_ok hturn
  exact ⟨(jobIdsBelow_perform _ hbelow).1, (jobsSettled_perform hbelow _).2 other action hsettled⟩

/-- A run of the loop leaves no missing job behind. -/
theorem allJobsSettled_replayRecords {records : List GatewayWriteAheadLogRecord}
    (hconfigured : ∀ record ∈ records, env.Configured record) (hids : state.JobIdsBelow) :
    AllJobsSettled env (replayRecords env n records state).1.metadataStore n records := by
  induction records generalizing n state with
  | nil => trivial
  | cons record records ih =>
    rw [List.forall_mem_cons] at hconfigured
    rw [replayRecords, replayRecord_eq_perform hconfigured.1]
    have hbelow : ((state.perform env n record
        (recoveryAction record (env.homeCheck n record).isOk)).replayed record.lsn).JobIdsBelow :=
      (jobIdsBelow_perform _ hids).1
    exact ⟨jobsSettled_replayRecords hbelow (jobsSettled_perform hids _).1,
      ih hconfigured.2 hbelow⟩

end Turn

/-! ## Section 5: A whole replay -/

instance (env : ReplayEnvironment) (record : GatewayWriteAheadLogRecord) :
    Decidable (env.Configured record) :=
  inferInstanceAs (Decidable (∃ backend ∈ env.backends, backend.provider = record.homeProvider))

/-- The records that a replay gets to: it stops at the first unconfigured home backend. -/
def reachedRecords (env : ReplayEnvironment) (records : List GatewayWriteAheadLogRecord) :
    List GatewayWriteAheadLogRecord :=
  records.takeWhile (fun record => decide (env.Configured record))

/-- Two replays of one log against the same backends; their clocks may differ. -/
structure SameLog (env env' : ReplayEnvironment) : Prop where
  policy : env'.policy = env.policy
  backends : env'.backends = env.backends
  remoteRecords : env'.remoteRecords = env.remoteRecords

/-- Same rows but for their times, same jobs, same queue. -/
structure Undisturbed (store : MetadataStore) (engine : ReplicationEngine)
    (store' : MetadataStore) (engine' : ReplicationEngine) : Prop where
  facts : ∀ bucket key,
    objectFacts (store'.objectMetadata bucket key) = objectFacts (store.objectMetadata bucket key)
  jobs : store'.replicationJobs = store.replicationJobs
  queue : engine' = engine

/-- Nothing for a replay to do: the last writing record of every key says what the rows of
the key say, and no record misses a job. -/
def ReplaySettled (env : ReplayEnvironment) (store : MetadataStore) : Prop :=
  ∀ records, loadGatewayWriteAheadLogRecordsFromRemote env store = .ok records →
    (∀ bucket key facts, lastWritten env bucket key 0 (reachedRecords env records) = some facts →
      facts = objectFacts (store.objectMetadata bucket key)) ∧
    AllJobsSettled env store 0 (reachedRecords env records)

section Replay

variable {env env' : ReplayEnvironment} {store : MetadataStore} {engine : ReplicationEngine}
  {records : List GatewayWriteAheadLogRecord}

theorem mem_reachedRecords {record : GatewayWriteAheadLogRecord}
    (h : record ∈ reachedRecords env records) : record ∈ records ∧ env.Configured record :=
  ⟨(List.takeWhile_sublist _).subset h, by simpa using List.mem_takeWhile_imp h⟩

theorem replayRecords_reachedRecords {n : Nat} {state : ReplayState} :
    (replayRecords env n records state).1 =
      (replayRecords env n (reachedRecords env records) state).1 := by
  induction records generalizing n state with
  | nil => rfl
  | cons record records ih =>
    unfold reachedRecords
    by_cases hconfigured : env.Configured record
    · rw [List.takeWhile_cons_of_pos (by simpa using hconfigured), replayRecords, replayRecords,
        replayRecord_eq_perform hconfigured]
      exact ih
    · rw [List.takeWhile_cons_of_neg (by simpa using hconfigured)]
      simp only [replayRecords, replayRecord_eq_error hconfigured]

/-- What a replay leaves is what its loop leaves, but for the high-water mark. -/
theorem replay_eq_final
    (hload : loadGatewayWriteAheadLogRecordsFromRemote env store = .ok records) :
    (replayGatewayWriteAheadLogFromRemote env store engine).replication =
        (replayRecords env 0 (reachedRecords env records)
          (ReplayState.initial store engine)).1.replication ∧
      (replayGatewayWriteAheadLogFromRemote env store engine).metadataStore.replicationJobs =
        (replayRecords env 0 (reachedRecords env records)
          (ReplayState.initial store engine)).1.metadataStore.replicationJobs ∧
      ∀ bucket key,
        objectFacts ((replayGatewayWriteAheadLogFromRemote env store
          engine).metadataStore.objectMetadata bucket key) =
        (replayRecords env 0 (reachedRecords env records)
          (ReplayState.initial store engine)).1.facts bucket key := by
  rw [← replayRecords_reachedRecords]
  obtain ⟨state, error, hrun⟩ :
      ∃ state error, replayRecords env 0 records (ReplayState.initial store engine) =
        (state, error) := ⟨_, _, rfl⟩
  rw [hrun]
  -- the high-water mark is in no row of an object
  have houtcome : ∃ mark : MetadataStore → MetadataStore,
      replayGatewayWriteAheadLogFromRemote env store engine =
        ⟨mark state.metadataStore, state.replication, error⟩ ∧
      ∀ store, (mark store).replicationJobs = store.replicationJobs ∧
        ∀ bucket key, (mark store).objectMetadata bucket key = store.objectMetadata bucket key := by
    cases error with
    | none =>
      cases hlast : state.lastReplayedLsn with
      | none =>
        refine ⟨id, ?_, fun _ => ⟨rfl, fun _ _ => rfl⟩⟩
        simp only [replayGatewayWriteAheadLogFromRemote, hload, hrun, hlast, id]
      | some lsn =>
        refine ⟨fun store => store.updateGatewayWriteAheadLogReplayedLsn lsn
          env.finishedAtUnixMs, ?_, fun _ => ⟨rfl, fun _ _ => rfl⟩⟩
        simp only [replayGatewayWriteAheadLogFromRemote, hload, hrun, hlast]
    | some error =>
      refine ⟨id, ?_, fun _ => ⟨rfl, fun _ _ => rfl⟩⟩
      simp only [replayGatewayWriteAheadLogFromRemote, hload, hrun, id]
  obtain ⟨mark, heq, hmark⟩ := houtcome
  rw [heq]
  refine ⟨rfl, (hmark _).1, ?_⟩
  intro bucket key
  exact congrArg objectFacts ((hmark _).2 bucket key)

/-- The rows after a replay. -/
theorem facts_replay
    (hload : loadGatewayWriteAheadLogRecordsFromRemote env store = .ok records)
    (hkeyed : ∀ record ∈ records, KeyedRecord record) (bucket key : String) :
    objectFacts ((replayGatewayWriteAheadLogFromRemote env store
        engine).metadataStore.objectMetadata bucket key) =
      (lastWritten env bucket key 0 (reachedRecords env records)).getD
        (objectFacts (store.objectMetadata bucket key)) := by
  rw [(replay_eq_final hload).2.2 bucket key,
    facts_replayRecords (fun record h => (mem_reachedRecords h).2)
      (fun record h => hkeyed record (mem_reachedRecords h).1)]
  rfl

theorem undisturbed_refl (store : MetadataStore) (engine : ReplicationEngine) :
    Undisturbed store engine store engine :=
  ⟨fun _ _ => rfl, rfl, rfl⟩

/-- **One replay leaves everything as it was exactly when there is nothing for it to do.** -/
theorem undisturbed_replay_iff
    (hkeyed : ∀ records, loadGatewayWriteAheadLogRecordsFromRemote env store = .ok records →
      ∀ record ∈ records, KeyedRecord record) :
    Undisturbed store engine (replayGatewayWriteAheadLogFromRemote env store engine).metadataStore
        (replayGatewayWriteAheadLogFromRemote env store engine).replication ↔
      ReplaySettled env store := by
  cases hload : loadGatewayWriteAheadLogRecordsFromRemote env store with
  | error error =>
    have hsame : replayGatewayWriteAheadLogFromRemote env store engine =
        ⟨store, engine, some error⟩ := by
      unfold replayGatewayWriteAheadLogFromRemote
      rw [hload]
    rw [hsame]
    refine iff_of_true (undisturbed_refl store engine) ?_
    intro records hok
    rw [hload] at hok
    cases hok
  | ok records =>
    obtain ⟨hengine, hjobs, -⟩ := @replay_eq_final env store engine records hload
    have hfacts := @facts_replay env store engine records hload (hkeyed records hload)
    obtain ⟨-, hiff, hsame⟩ := @jobs_replayRecords env 0 (ReplayState.initial store engine)
      (reachedRecords env records) (fun record h => (mem_reachedRecords h).2)
    constructor
    · intro h records' hload'
      obtain rfl : records = records' := Except.ok.inj (hload.symm.trans hload')
      refine ⟨?_, hiff.mpr ?_⟩
      · intro bucket key facts hlast
        have hrow := h.facts bucket key
        rw [hfacts, hlast] at hrow
        exact hrow
      · rw [← hengine, h.queue]
        rfl
    · intro h
      obtain ⟨hrows, hsettled⟩ := h records hload
      obtain ⟨hengine', hjobs'⟩ := hsame hsettled
      refine ⟨?_, hjobs.trans hjobs', hengine.trans hengine'⟩
      intro bucket key
      rw [hfacts]
      cases hlast : lastWritten env bucket key 0 (reachedRecords env records) with
      | none => rfl
      | some facts => exact hrows bucket key facts hlast

/-! ## Section 6: Two replays in a row -/

/-- What is loaded depends on the store through its replay floor alone. -/
theorem loaded_cases (env : ReplayEnvironment) :
    (∃ error, ∀ store, loadGatewayWriteAheadLogRecordsFromRemote env store = .error error) ∨
    ∃ remote : List GatewayWriteAheadLogRecord,
      (∀ record ∈ remote, ∃ records, env.remoteRecords = .ok records ∧ record ∈ records) ∧
      ∀ store, loadGatewayWriteAheadLogRecordsFromRemote env store =
        .ok ((remote.filter (fun record =>
          decide (record.schemaVersion = gatewayWriteAheadLogFormatVersion ∧
            ¬ record.lsn ≤ store.gatewayWriteAheadLogReplayFloorLsn.getD 0))).insertionSort
              ReplayOrder) := by
  unfold loadGatewayWriteAheadLogRecordsFromRemote
  by_cases henabled : env.policy.enabled = true
  · cases hprovider : env.policy.remoteProvider with
    | none => exact Or.inr ⟨[], by simp, fun store => by simp [henabled]⟩
    | some remoteProvider =>
      cases hbackend : env.backendForProvider remoteProvider with
      | error error => exact Or.inl ⟨error, fun store => by simp [henabled, hbackend]⟩
      | ok backend =>
        cases hremote : env.remoteRecords with
        | error error => exact Or.inl ⟨error, fun store => by simp [henabled, hbackend]⟩
        | ok records =>
          refine Or.inr ⟨records, fun record hrecord => ⟨records, rfl, hrecord⟩, ?_⟩
          intro store
          simp [henabled, hbackend]
  · exact Or.inr ⟨[], by simp, fun store => by simp [henabled]⟩

/-- Every record on the remote side is about its own key. -/
def LogKeyed (env : ReplayEnvironment) : Prop :=
  ∀ records, env.remoteRecords = .ok records → ∀ record ∈ records, KeyedRecord record

theorem keyed_of_loaded (hkeyed : LogKeyed env)
    (hload : loadGatewayWriteAheadLogRecordsFromRemote env store = .ok records) :
    ∀ record ∈ records, KeyedRecord record := by
  intro record hrecord
  rcases loaded_cases env with ⟨error, herror⟩ | ⟨remote, hremote, hloaded⟩
  · rw [herror store] at hload
    cases hload
  · rw [hloaded store] at hload
    cases hload
    have hmem := (List.perm_insertionSort ReplayOrder _).mem_iff.mp hrecord
    obtain ⟨all, hall, hin⟩ := hremote record (List.mem_filter.mp hmem).1
    exact hkeyed all hall record hin

section SameLog

variable (hsame : SameLog env env')
include hsame

theorem SameLog.load (store : MetadataStore) :
    loadGatewayWriteAheadLogRecordsFromRemote env' store =
      loadGatewayWriteAheadLogRecordsFromRemote env store := by
  unfold loadGatewayWriteAheadLogRecordsFromRemote ReplayEnvironment.backendForProvider
  rw [hsame.policy, hsame.backends, hsame.remoteRecords]

theorem SameLog.homeCheck (n : Nat) (record : GatewayWriteAheadLogRecord) :
    env'.homeCheck n record = env.homeCheck n record := by
  unfold ReplayEnvironment.homeCheck ReplayEnvironment.backendForProvider
  rw [hsame.backends]

theorem SameLog.configured (record : GatewayWriteAheadLogRecord) :
    env'.Configured record ↔ env.Configured record := by
  unfold ReplayEnvironment.Configured
  rw [hsame.backends]

theorem SameLog.reachedRecords (records : List GatewayWriteAheadLogRecord) :
    reachedRecords env' records = reachedRecords env records := by
  unfold Gateway.reachedRecords
  simp only [hsame.configured]

theorem SameLog.lastWritten {n : Nat} {bucket key : String} :
    lastWritten env' bucket key n records = lastWritten env bucket key n records := by
  induction records generalizing n with
  | nil => rfl
  | cons record records ih => rw [Gateway.lastWritten, Gateway.lastWritten, ih, hsame.homeCheck]

theorem SameLog.allJobsSettled {n : Nat} :
    AllJobsSettled env' store n records ↔ AllJobsSettled env store n records := by
  induction records generalizing n with
  | nil => rfl
  | cons record records ih => rw [AllJobsSettled, AllJobsSettled, ih, hsame.homeCheck]

end SameLog

/-- A replay that finishes leaves no record above the floor. -/
theorem loaded_after_finished
    (hload : loadGatewayWriteAheadLogRecordsFromRemote env store = .ok records)
    (hfinishes : ∀ record ∈ records, env.Configured record) :
    loadGatewayWriteAheadLogRecordsFromRemote env
      (replayGatewayWriteAheadLogFromRemote env store engine).metadataStore = .ok [] := by
  rcases loaded_cases env with ⟨error, herror⟩ | ⟨remote, -, hloaded⟩
  · rw [herror store] at hload
    cases hload
  cases records with
  | nil =>
    have hsame : (replayGatewayWriteAheadLogFromRemote env store engine).metadataStore = store := by
      simp [replayGatewayWriteAheadLogFromRemote, hload, replayRecords, ReplayState.initial]
    rw [hsame]
    exact hload
  | cons first rest =>
    rw [hloaded]
    have hnil : remote.filter (fun record =>
        decide (record.schemaVersion = gatewayWriteAheadLogFormatVersion ∧
          ¬ record.lsn ≤ (replayGatewayWriteAheadLogFromRemote env store
            engine).metadataStore.gatewayWriteAheadLogReplayFloorLsn.getD 0)) = [] := by
      rw [List.filter_eq_nil_iff]
      intro record hrecord hkept
      obtain ⟨hschema, habove⟩ := of_decide_eq_true hkept
      -- the mark is at or above every record of the replay, and it is the floor
      have hmark : ∀ {other}, other ∈ first :: rest → other.lsn ≤
          replayedLsn (replayGatewayWriteAheadLogFromRemote env store engine).metadataStore :=
        fun hother => replayedLsn_of_finished hload hfinishes hother
      have hpos := Nat.zero_lt_of_lt (replayedLsn_lt_of_loaded hload (List.mem_cons_self))
      have hfloor : (replayGatewayWriteAheadLogFromRemote env store
          engine).metadataStore.gatewayWriteAheadLogReplayFloorLsn.getD 0 =
          replayedLsn (replayGatewayWriteAheadLogFromRemote env store engine).metadataStore := by
        have hfirst := hpos.trans_le (hmark List.mem_cons_self)
        unfold replayedLsn at hfirst ⊢
        unfold MetadataStore.gatewayWriteAheadLogReplayFloorLsn
        cases hlast : (replayGatewayWriteAheadLogFromRemote env store
            engine).metadataStore.gatewayWriteAheadLogStateRecord.lastReplayedLsn with
        | none =>
          rw [hlast] at hfirst
          exact absurd hfirst (by simp)
        | some lsn => simp [hlast]
      rw [hfloor] at habove
      have hfirst : first.lsn ≤
          replayedLsn (replayGatewayWriteAheadLogFromRemote env store engine).metadataStore :=
        hmark List.mem_cons_self
      rw [hloaded store] at hload
      have hlist := Except.ok.inj hload
      -- a record above the new floor is above the old one, so it has been replayed
      have hold : store.gatewayWriteAheadLogReplayFloorLsn.getD 0 < first.lsn := by
        have hmem : first ∈ first :: rest := List.mem_cons_self
        rw [← hlist] at hmem
        have hfilter := (List.perm_insertionSort ReplayOrder _).mem_iff.mp hmem
        have := (of_decide_eq_true (List.mem_filter.mp hfilter).2).2
        omega
      have hreplayed : record ∈ first :: rest := by
        rw [← hlist]
        apply (List.perm_insertionSort ReplayOrder _).mem_iff.mpr
        apply List.mem_filter.mpr
        exact ⟨hrecord, decide_eq_true ⟨hschema, by omega⟩⟩
      exact habove (hmark hreplayed)
    rw [hnil]
    rfl

/-- A replay that stops at an unconfigured home backend leaves the log state alone, so the
next one loads the same records. -/
theorem loaded_after_error
    (hload : loadGatewayWriteAheadLogRecordsFromRemote env store = .ok records)
    (hstops : ¬ ∀ record ∈ records, env.Configured record) :
    loadGatewayWriteAheadLogRecordsFromRemote env
      (replayGatewayWriteAheadLogFromRemote env store engine).metadataStore = .ok records := by
  have hlog : (replayGatewayWriteAheadLogFromRemote env store
      engine).metadataStore.gatewayWriteAheadLogState = store.gatewayWriteAheadLogState := by
    have hkept := @replayRecords_gatewayWriteAheadLogState env
      (ReplayState.initial store engine) 0 records
    obtain ⟨state, error, hrun⟩ :
        ∃ state error, replayRecords env 0 records (ReplayState.initial store engine) =
          (state, error) := ⟨_, _, rfl⟩
    rw [hrun] at hkept
    cases error with
    | none => exact absurd (replayRecords_error_iff.mp (congrArg Prod.snd hrun)) hstops
    | some error =>
      simp only [replayGatewayWriteAheadLogFromRemote, hload, hrun]
      exact hkept
  rcases loaded_cases env with ⟨error, herror⟩ | ⟨remote, -, hloaded⟩
  · rw [herror store] at hload
    cases hload
  · rw [← hload, hloaded, hloaded]
    unfold MetadataStore.gatewayWriteAheadLogReplayFloorLsn
      MetadataStore.gatewayWriteAheadLogStateRecord
    rw [hlog]

/-- After a replay there is nothing left to do for the next one. -/
theorem replaySettled_replay (hkeyed : LogKeyed env)
    (hids : (ReplayState.initial store engine).JobIdsBelow) :
    ReplaySettled env (replayGatewayWriteAheadLogFromRemote env store engine).metadataStore := by
  intro records' hload'
  cases hload : loadGatewayWriteAheadLogRecordsFromRemote env store with
  | error error =>
    rcases loaded_cases env with ⟨other, herror⟩ | ⟨remote, -, hloaded⟩
    · rw [herror] at hload'
      cases hload'
    · rw [hloaded] at hload
      cases hload
  | ok records =>
    by_cases hfinishes : ∀ record ∈ records, env.Configured record
    · rw [loaded_after_finished hload hfinishes] at hload'
      cases hload'
      exact ⟨fun _ _ _ h => absurd h (by simp [reachedRecords, lastWritten]), trivial⟩
    · rw [loaded_after_error hload hfinishes] at hload'
      have hrecords := Except.ok.inj hload'
      subst hrecords
      obtain ⟨-, hjobs, -⟩ := @replay_eq_final env store engine records hload
      constructor
      · intro bucket key facts hlast
        rw [facts_replay hload (keyed_of_loaded hkeyed hload), hlast]
        rfl
      · apply (allJobsSettled_congr hjobs).mpr
        exact allJobsSettled_replayRecords (fun record h => (mem_reachedRecords h).2) hids

/-- **A second replay of the log adds nothing to the first**, finished or not. -/
theorem replay_idempotent (hkeyed : LogKeyed env)
    (hids : (ReplayState.initial store engine).JobIdsBelow) (hsame : SameLog env env') :
    Undisturbed (replayGatewayWriteAheadLogFromRemote env store engine).metadataStore
      (replayGatewayWriteAheadLogFromRemote env store engine).replication
      (replayGatewayWriteAheadLogFromRemote env'
        (replayGatewayWriteAheadLogFromRemote env store engine).metadataStore
        (replayGatewayWriteAheadLogFromRemote env store engine).replication).metadataStore
      (replayGatewayWriteAheadLogFromRemote env'
        (replayGatewayWriteAheadLogFromRemote env store engine).metadataStore
        (replayGatewayWriteAheadLogFromRemote env store engine).replication).replication := by
  have hkeyed' : LogKeyed env' := by
    unfold LogKeyed
    rw [hsame.remoteRecords]
    exact hkeyed
  apply (undisturbed_replay_iff (fun records hload => keyed_of_loaded hkeyed' hload)).mpr
  intro records hload
  rw [hsame.load] at hload
  obtain ⟨hrows, hsettled⟩ := replaySettled_replay hkeyed hids records hload
  rw [hsame.reachedRecords]
  refine ⟨?_, hsame.allJobsSettled.mpr hsettled⟩
  intro bucket key facts hlast
  rw [hsame.lastWritten] at hlast
  exact hrows bucket key facts hlast

/-- **A replay after a clean stop changes nothing, and a second one no more, exactly when
the last writing record of every key says what the rows of the key say and no record
misses a job.** -/
theorem replay_changes_nothing_iff (hkeyed : LogKeyed env)
    (hids : (ReplayState.initial store engine).JobIdsBelow) :
    (Undisturbed store engine
        (replayGatewayWriteAheadLogFromRemote env store engine).metadataStore
        (replayGatewayWriteAheadLogFromRemote env store engine).replication ∧
      ∀ env', SameLog env env' →
        Undisturbed (replayGatewayWriteAheadLogFromRemote env store engine).metadataStore
          (replayGatewayWriteAheadLogFromRemote env store engine).replication
          (replayGatewayWriteAheadLogFromRemote env'
            (replayGatewayWriteAheadLogFromRemote env store engine).metadataStore
            (replayGatewayWriteAheadLogFromRemote env store engine).replication).metadataStore
          (replayGatewayWriteAheadLogFromRemote env'
            (replayGatewayWriteAheadLogFromRemote env store engine).metadataStore
            (replayGatewayWriteAheadLogFromRemote env store engine).replication).replication) ↔
      ReplaySettled env store := by
  rw [undisturbed_replay_iff (fun records hload => keyed_of_loaded hkeyed hload)]
  exact and_iff_left (fun env' hsame => replay_idempotent hkeyed hids hsame)

end Replay

/-! ## Section 7: A logged upload and the replay after it -/

/-- The replay at a restart over what the backends hold: every configured backend answers,
and the log is the one the gateway wrote. -/
def GatewayState.replayEnvironment (s : GatewayState) (config : GatewayConfig)
    (remoteProvider : ProviderId) (nowUnixMs : Nat) : ReplayEnvironment where
  policy := { enabled := true, remoteProvider := some remoteProvider }
  backends := (ProviderId.all.filter config.configured).map (fun provider =>
    { provider := provider
      getObject := fun _ bucket key =>
        match s.objects provider bucket key with
        | some _ => .ok ()
        | none => .error (objectNotFound bucket key) })
  remoteRecords := .ok s.logRecords
  placedAtUnixMs := fun _ => nowUnixMs
  enqueuedAtUnixMs := fun _ => nowUnixMs
  finishedAtUnixMs := nowUnixMs

namespace Operations

/-- The upload of an application that the log covers. -/
def loggedPut : PutRequest := { samplePut with logProvider := some .mobile }

/-- The record was captured before the upload, so it knows no etag, and the replay of this
one committed record takes the etag out of the logical record. -/
theorem replay_forgets_etag :
    ∃ t,
      Program.Ends handle RollbacksSucceed (executePutUpload sampleGateway loggedPut)
        emptyGateway (.ok (some "etag-2")) t ∧
      (∀ record ∈ t.logRecords, record.phase = .committed) ∧
      (t.metadataStore.logicalObject "bucket-a" "hello.txt").bind (·.etag) = some "etag-2" ∧
      ((replayGatewayWriteAheadLogFromRemote (t.replayEnvironment sampleGateway .mobile 40)
        t.metadataStore t.replication).metadataStore.logicalObject "bucket-a"
          "hello.txt").map (·.etag) = some none ∧
      ¬ Undisturbed t.metadataStore t.replication
        (replayGatewayWriteAheadLogFromRemote (t.replayEnvironment sampleGateway .mobile 40)
          t.metadataStore t.replication).metadataStore
        (replayGatewayWriteAheadLogFromRemote (t.replayEnvironment sampleGateway .mobile 40)
          t.metadataStore t.replication).replication := by
  have hrun : Program.exec handle RollbacksSucceed (executePutUpload sampleGateway loggedPut)
      emptyGateway (List.replicate 20 Answer.done) = some (.ok (some "etag-2"), _) := rfl
  refine ⟨_, Program.ends_of_exec hrun, ?_, rfl, rfl, ?_⟩
  · intro record hrecord
    obtain rfl := List.mem_singleton.mp hrecord
    rfl
  · intro h
    have hetag := congrArg (fun facts => facts.logical.map (·.etag)) (h.facts "bucket-a" "hello.txt")
    exact absurd hetag (by decide)

/-- An upload whose etag the backend does not report. -/
def loggedPlainPut : PutRequest := { loggedPut with stamp := ⟨none, none⟩ }

theorem replay_changes_nothing_iff_plain :
    ∃ t,
      Program.Ends handle RollbacksSucceed (executePutUpload sampleGateway loggedPlainPut)
        emptyGateway (.ok none) t ∧
      ReplaySettled (t.replayEnvironment sampleGateway .mobile 40) t.metadataStore ∧
      Undisturbed t.metadataStore t.replication
        (replayGatewayWriteAheadLogFromRemote (t.replayEnvironment sampleGateway .mobile 40)
          t.metadataStore t.replication).metadataStore
        (replayGatewayWriteAheadLogFromRemote (t.replayEnvironment sampleGateway .mobile 40)
          t.metadataStore t.replication).replication := by
  have hrun : Program.exec handle RollbacksSucceed (executePutUpload sampleGateway loggedPlainPut)
      emptyGateway (List.replicate 20 Answer.done) = some (.ok none, _) := rfl
  refine ⟨_, Program.ends_of_exec hrun, ?settled,
    ((replay_changes_nothing_iff ?keyed ?ids).mpr ?settled).1⟩
  case keyed =>
    intro records hrecords record hrecord
    cases hrecords
    obtain rfl := List.mem_singleton.mp hrecord
    constructor
    · intro row hrow
      cases hrow
      exact ⟨rfl, rfl⟩
    · intro row hrow
      cases hrow
    · intro row hrow
      cases hrow
    · intro row hrow
      cases hrow
  case ids =>
    intro job hjob
    obtain rfl := List.mem_singleton.mp hjob
    show (1 : Nat) < 2
    decide
  case settled =>
    intro records hload
    cases hload
    refine ⟨?_, ?_, trivial⟩
    · intro bucket key facts hlast
      by_cases hkey : "bucket-a" = bucket ∧ "hello.txt" = key
      · obtain ⟨rfl, rfl⟩ := hkey
        exact Option.some.inj (hlast.symm.trans rfl)
      · change (none : Option ObjectFacts).or (if "bucket-a" = bucket ∧ "hello.txt" = key then _
          else none) = _ at hlast
        rw [if_neg hkey] at hlast
        cases hlast
    · intro target htarget hne
      obtain rfl := List.mem_singleton.mp htarget
      rfl

end Operations

end Netdisk2Blob.Gateway
