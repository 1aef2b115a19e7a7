import Netdisk2Blob.Gateway.WriteAheadLog

/-!
# Replication Jobs after a Replay

What a replay does to the latest replication job of the sync targets of a record.

A turn of the loop adds jobs with new ids (`JobIdsBelow` is what makes them new), so the
latest job of a target is either one of them or the job it was before the turn
(`latestJobForObject_withJobs`). Which of the two it is depends on the status of that
job alone; `replay_restores_iff` says for which histories this is enough.
-/

namespace Netdisk2Blob.Gateway

open Library Blob Policy Replication Metadata

/-! ## Section 1: New job ids -/

/-- The id counter is above every job of the store. -/
def ReplayState.JobIdsBelow (state : ReplayState) : Prop :=
  ∀ job ∈ state.metadataStore.replicationJobs, job.jobId < state.replication.nextJobId

/-- Startup moves the counter past `max_job_id` before the replay. -/
theorem jobIdsBelow_startup (store : MetadataStore) (engine : ReplicationEngine) :
    (ReplayState.initial store
      (engine.ensureNextJobIdAtLeast (store.maxJobId.getD 0 + 1))).JobIdsBelow := by
  intro job hjob
  change job.jobId < max engine.nextJobId (max (store.maxJobId.getD 0 + 1) 1)
  obtain ⟨last, hlast⟩ : ∃ last, store.replicationJobs.latest (fun _ => true) = some last := by
    apply Option.ne_none_iff_exists'.mp
    intro hnone
    simpa using Table.latest_eq_none.mp hnone job hjob
  have hle : job.jobId ≤ last.jobId := (Table.latest_eq_some.mp hlast).2.2 job hjob rfl
  have hmax : store.maxJobId.getD 0 = last.jobId := by
    simp [MetadataStore.maxJobId, hlast]
  omega

section WithJobs

variable {state : ReplayState} {topology : TopologyPolicy} {source : Option String}
  {operation : ReplicationOperation} {object : ReplicationObjectRef} {now : Nat}

theorem mem_withJobs {row : ReplicationJob} :
    row ∈ (state.withJobs
        (state.replication.enqueueJobs topology source operation object
          now)).metadataStore.replicationJobs ↔
      row ∈ (state.replication.enqueueJobs topology source operation object now).1 ∨
        (row ∈ state.metadataStore.replicationJobs ∧
          row.jobId ∉ ((state.replication.enqueueJobs topology source operation object
            now).1).map (·.jobId)) :=
  MetadataStore.mem_enqueueJobs ReplicationEngine.enqueueJobs_nodup

theorem jobIdsBelow_withJobs (hids : state.JobIdsBelow) :
    (state.withJobs
      (state.replication.enqueueJobs topology source operation object now)).JobIdsBelow := by
  intro row hrow
  rcases mem_withJobs.mp hrow with hnew | ⟨hold, -⟩
  · exact (ReplicationEngine.enqueueJobs_jobId_mem hnew).2
  · have hlt : row.jobId < state.replication.nextJobId := hids row hold
    change row.jobId < (state.replication.enqueueJobs topology source operation object
      now).2.nextJobId
    rw [ReplicationEngine.enqueueJobs_nextJobId]
    omega

/-- The latest job of a target after a request: one of the new jobs if the target is one
of the request's, and the job it was otherwise. -/
theorem latestJobForObject_withJobs (hids : state.JobIdsBelow) {target : ProviderId}
    (hsource : source ≠ some target.asStr) :
    (target ∈ topology.syncTargets →
      ∃ job, (state.withJobs (state.replication.enqueueJobs topology source operation object
          now)).metadataStore.latestJobForObject target.asStr object.bucket object.key =
            some job ∧
        job.operation = operation ∧ state.replication.nextJobId ≤ job.jobId) ∧
    (target ∉ topology.syncTargets →
      (state.withJobs (state.replication.enqueueJobs topology source operation object
          now)).metadataStore.latestJobForObject target.asStr object.bucket object.key =
        state.metadataStore.latestJobForObject target.asStr object.bucket object.key) := by
  constructor
  · intro htarget
    obtain ⟨job, hjob, hjobtarget⟩ :=
      @ReplicationEngine.exists_createJobs source operation object now topology.syncTargets
        state.replication.nextJobId target htarget hsource
    have hobject : job.object = object :=
      (ReplicationEngine.mem_createJobs hjob).2.2.2.1
    have htriple : job.triple = (target.asStr, object.bucket, object.key) := by
      simp [ReplicationJob.triple, hjobtarget, hobject]
    -- the request's own job is a row of the object, so the object has a latest row
    obtain ⟨latest, hlatest⟩ : ∃ latest,
        (state.withJobs (state.replication.enqueueJobs topology source operation object
          now)).metadataStore.latestJobForObject target.asStr object.bucket object.key =
            some latest := by
      apply Option.ne_none_iff_exists'.mp
      intro hnone
      have hfalse := Table.latest_eq_none.mp hnone job (mem_withJobs.mpr (Or.inl hjob))
      simp [htriple] at hfalse
    obtain ⟨hmem, -, hmax⟩ := Table.latest_eq_some.mp hlatest
    have hle : job.jobId ≤ latest.jobId :=
      hmax job (mem_withJobs.mpr (Or.inl hjob)) (by simp [htriple])
    have hnext : state.replication.nextJobId ≤ job.jobId :=
      (ReplicationEngine.enqueueJobs_jobId_mem hjob).1
    rcases mem_withJobs.mp hmem with hnew | ⟨hold, -⟩
    · exact ⟨latest, hlatest, (ReplicationEngine.mem_createJobs hnew).2.2.1, by omega⟩
    · -- an old row lies below the counter
      have hlt : latest.jobId < state.replication.nextJobId := hids latest hold
      omega
  · intro htarget
    have hother : ∀ job ∈ (state.replication.enqueueJobs topology source operation object now).1,
        job.triple ≠ (target.asStr, object.bucket, object.key) := by
      intro job hjob htriple
      obtain ⟨other, hmem, hjobtarget, -⟩ := (ReplicationEngine.mem_createJobs hjob).1
      have hname : other.asStr = target.asStr := by
        rw [← hjobtarget]
        exact congrArg Prod.fst htriple
      exact htarget (ProviderId.asStr_injective hname ▸ hmem)
    have hstays : ∀ row ∈ state.metadataStore.replicationJobs,
        row.jobId ∉ ((state.replication.enqueueJobs topology source operation object
          now).1).map (·.jobId) := by
      intro row hrow hmem
      obtain ⟨job, hjob, hid⟩ := List.mem_map.mp hmem
      have hnext := (ReplicationEngine.enqueueJobs_jobId_mem hjob).1
      have hlt : row.jobId < state.replication.nextJobId := hids row hrow
      omega
    unfold MetadataStore.latestJobForObject
    cases hlatest : state.metadataStore.replicationJobs.latest
        (fun job => decide (job.triple = (target.asStr, object.bucket, object.key))) with
    | none =>
      apply Table.latest_eq_none.mpr
      intro row hrow
      rcases mem_withJobs.mp hrow with hnew | ⟨hold, -⟩
      · simpa using hother row hnew
      · exact Table.latest_eq_none.mp hlatest row hold
    | some latest =>
      obtain ⟨hmem, hp, hmax⟩ := Table.latest_eq_some.mp hlatest
      apply Table.latest_eq_some.mpr
      refine ⟨mem_withJobs.mpr (Or.inr ⟨hmem, hstays latest hmem⟩), hp, ?_⟩
      intro row hrow hprow
      rcases mem_withJobs.mp hrow with hnew | ⟨hold, -⟩
      · exact absurd (by simpa using hprow) (hother row hnew)
      · exact hmax row hold hprow

end WithJobs

/-! ## Section 2: One turn -/

section Turn

variable {env : ReplayEnvironment} {n : Nat} {record : GatewayWriteAheadLogRecord}
  {state state' : ReplayState}

/-- The latest job of a sync target of the record. -/
abbrev latestOf (store : MetadataStore) (record : GatewayWriteAheadLogRecord)
    (target : ProviderId) : Option ReplicationJob :=
  store.latestJobForObject target.asStr record.bucket record.key

/-- Metadata writes leave the jobs alone. -/
theorem rollBack_replicationJobs (state : ReplayState) (record : GatewayWriteAheadLogRecord) :
    (state.rollBack record).metadataStore.replicationJobs =
      state.metadataStore.replicationJobs := by
  unfold ReplayState.rollBack restorePreviousObjectMetadataState
  cases record.previousPlacement <;> cases record.previousLogicalRecord <;>
    cases record.previousProtectionPlan <;> rfl

theorem persistWrite_replicationJobs (state : ReplayState) (now : Nat)
    (record : GatewayWriteAheadLogRecord) :
    (state.persistWrite now record).metadataStore.replicationJobs =
      state.metadataStore.replicationJobs := by
  unfold ReplayState.persistWrite persistObjectProtectionPlan
  cases record.logicalRecord <;> rfl

theorem shouldEnqueueReplication_iff {store : MetadataStore} {target : ProviderId} :
    replayShouldEnqueueReplicationForTarget store target record.bucket record.key = true ↔
      ∀ job, latestOf store record target = some job → job.status = .failed := by
  unfold replayShouldEnqueueReplicationForTarget latestOf
  cases store.latestJobForObject target.asStr record.bucket record.key with
  | none => simp
  | some job => cases hstatus : job.status <;> simp [hstatus]

/-- The two decisions are one and the same. -/
theorem shouldEnqueueDelete_eq {store : MetadataStore} {target : ProviderId}
    {bucket key : String} :
    replayShouldEnqueueDeleteForTarget store target bucket key =
      replayShouldEnqueueReplicationForTarget store target bucket key := by
  unfold replayShouldEnqueueDeleteForTarget latestReplicationJobIsTerminalOrPending
    replayShouldEnqueueReplicationForTarget
  cases store.latestJobForObject target.asStr bucket key with
  | none => rfl
  | some job => cases hstatus : job.status <;> simp [hstatus]

/-- The sync targets that pass the decision. -/
def missingTargets (store : MetadataStore) (record : GatewayWriteAheadLogRecord) :
    List ProviderId :=
  record.syncTargets.filter (fun target =>
    replayShouldEnqueueReplicationForTarget store target record.bucket record.key)

/-- One request of the operation for the missing targets, if there are any. -/
def EnqueuesMissing (record : GatewayWriteAheadLogRecord) (operation : ReplicationOperation)
    (state state' : ReplayState) : Prop :=
  (missingTargets state.metadataStore record = [] ∧ state' = state) ∨
    ∃ (topology : TopologyPolicy) (object : ReplicationObjectRef) (now : Nat),
      topology.syncTargets = missingTargets state.metadataStore record ∧
      object.bucket = record.bucket ∧ object.key = record.key ∧
      state' = state.withJobs (state.replication.enqueueJobs topology
        (some record.homeProvider.asStr) operation object now)

theorem enqueueMissingPuts_missing (state : ReplayState) (now : Nat)
    (record : GatewayWriteAheadLogRecord) :
    EnqueuesMissing record .put state (state.enqueueMissingPuts now record) := by
  by_cases hempty : missingTargets state.metadataStore record = []
  · exact Or.inl ⟨hempty, if_pos (List.isEmpty_iff.mpr hempty)⟩
  · refine Or.inr ⟨{ primaryProvider := record.homeProvider
                     syncTargets := missingTargets state.metadataStore record
                     fallbackReadOrder :=
                       sanitizeFallbackOrderForSyncTargets
                         (missingTargets state.metadataStore record) record.fallbackReadOrder
                     onedriveEnabled :=
                       decide (ProviderId.onedrive ∈ missingTargets state.metadataStore record)
                     replicationMode := .asyncBackup },
      { bucket := record.bucket, key := record.key, etag := none
        size := some ((record.logicalRecord.map (·.storedSize)).getD 0)
        contentType := record.logicalRecord.bind (·.logicalContentType) },
      now, rfl, rfl, rfl, ?_⟩
    exact if_neg (fun h => hempty (List.isEmpty_iff.mp h))

theorem enqueueMissingDeletes_missing (state : ReplayState) (now : Nat)
    (record : GatewayWriteAheadLogRecord) :
    EnqueuesMissing record .delete state (state.enqueueMissingDeletes now record) := by
  unfold ReplayState.enqueueMissingDeletes
  simp only [shouldEnqueueDelete_eq]
  by_cases hempty : missingTargets state.metadataStore record = []
  · exact Or.inl ⟨hempty, if_pos (List.isEmpty_iff.mpr hempty)⟩
  · refine Or.inr ⟨{ primaryProvider := record.homeProvider
                     syncTargets := missingTargets state.metadataStore record
                     fallbackReadOrder := []
                     onedriveEnabled := false
                     replicationMode := .asyncBackup },
      { bucket := record.bucket, key := record.key, etag := none, size := none
        contentType := none },
      now, rfl, rfl, rfl, ?_⟩
    exact if_neg (fun h => hempty (List.isEmpty_iff.mp h))

theorem EnqueuesMissing.jobIdsBelow {operation : ReplicationOperation}
    (h : EnqueuesMissing record operation state state') (hids : state.JobIdsBelow) :
    state'.JobIdsBelow := by
  obtain ⟨-, rfl⟩ | ⟨topology, object, now, -, -, -, rfl⟩ := h
  · exact hids
  · exact jobIdsBelow_withJobs hids

theorem EnqueuesMissing.nextJobId_le {operation : ReplicationOperation}
    (h : EnqueuesMissing record operation state state') :
    state.replication.nextJobId ≤ state'.replication.nextJobId := by
  obtain ⟨-, rfl⟩ | ⟨topology, object, now, -, -, -, rfl⟩ := h
  · exact le_refl _
  · exact Nat.le_add_right _ _

/-- A sync target gets a new job if its latest job had failed or there was none, and
keeps its latest job otherwise. -/
theorem EnqueuesMissing.latestOf_cases {operation : ReplicationOperation}
    (h : EnqueuesMissing record operation state state') (hids : state.JobIdsBelow)
    {target : ProviderId} (htarget : target ∈ record.syncTargets)
    (hhome : target ≠ record.homeProvider) :
    ((∀ job, latestOf state.metadataStore record target = some job → job.status = .failed) ∧
      ∃ job, latestOf state'.metadataStore record target = some job ∧
        job.operation = operation ∧ state.replication.nextJobId ≤ job.jobId) ∨
    ((∃ job, latestOf state.metadataStore record target = some job ∧ job.status ≠ .failed) ∧
      latestOf state'.metadataStore record target =
        latestOf state.metadataStore record target) := by
  have hmissing : target ∈ missingTargets state.metadataStore record ↔
      ∀ job, latestOf state.metadataStore record target = some job → job.status = .failed := by
    simp only [missingTargets, List.mem_filter, htarget, true_and,
      shouldEnqueueReplication_iff]
  have hsource : some record.homeProvider.asStr ≠ some target.asStr := by
    intro heq
    exact hhome (ProviderId.asStr_injective (Option.some.inj heq)).symm
  by_cases hfailed : ∀ job, latestOf state.metadataStore record target = some job →
      job.status = .failed
  · refine Or.inl ⟨hfailed, ?_⟩
    obtain ⟨hempty, -⟩ | ⟨topology, object, now, htargets, hbucket, hkey, rfl⟩ := h
    · have hmem := hmissing.mpr hfailed
      rw [hempty] at hmem
      cases hmem
    · unfold latestOf
      rw [← hbucket, ← hkey]
      exact (latestJobForObject_withJobs hids hsource).1 (htargets ▸ hmissing.mpr hfailed)
  · refine Or.inr ⟨by simpa using hfailed, ?_⟩
    obtain ⟨-, rfl⟩ | ⟨topology, object, now, htargets, hbucket, hkey, rfl⟩ := h
    · rfl
    · unfold latestOf
      rw [← hbucket, ← hkey]
      apply (latestJobForObject_withJobs hids hsource).2
      rw [htargets]
      exact fun hmem => hfailed (hmissing.mp hmem)

/-- How the jobs of a turn come about: metadata writes, then at most one request. -/
theorem perform_jobs (env : ReplayEnvironment) (n : Nat) (record : GatewayWriteAheadLogRecord)
    (state : ReplayState) (action : RecoveryAction) :
    ∃ written : ReplayState,
      written.metadataStore.replicationJobs = state.metadataStore.replicationJobs ∧
      written.replication = state.replication ∧
      match action with
      | .keep | .rollBack => state.perform env n record action = written
      | .reapply => EnqueuesMissing record .put written (state.perform env n record action)
      | .delete => EnqueuesMissing record .delete written (state.perform env n record action) := by
  cases action with
  | keep => exact ⟨state, rfl, rfl, rfl⟩
  | rollBack => exact ⟨state.rollBack record, rollBack_replicationJobs state record, rfl, rfl⟩
  | reapply =>
    exact ⟨state.persistWrite (env.placedAtUnixMs n) record,
      persistWrite_replicationJobs state _ record, rfl,
      enqueueMissingPuts_missing _ _ record⟩
  | delete =>
    exact ⟨state.deleteMetadata record, rfl, rfl, enqueueMissingDeletes_missing _ _ record⟩

/-- A turn keeps the counter above every job, and never lowers it. -/
theorem jobIdsBelow_perform (action : RecoveryAction) (hids : state.JobIdsBelow) :
    (state.perform env n record action).JobIdsBelow ∧
      state.replication.nextJobId ≤
        (state.perform env n record action).replication.nextJobId := by
  obtain ⟨written, hjobs, hengine, hperform⟩ := perform_jobs env n record state action
  have hwritten : written.JobIdsBelow := by
    intro job hjob
    rw [hengine]
    exact hids job (by rwa [← hjobs])
  rw [← hengine]
  cases action with
  | keep =>
    change state.perform env n record .keep = written at hperform
    rw [hperform]
    exact ⟨hwritten, le_refl _⟩
  | rollBack =>
    change state.perform env n record .rollBack = written at hperform
    rw [hperform]
    exact ⟨hwritten, le_refl _⟩
  | reapply => exact ⟨hperform.jobIdsBelow hwritten, hperform.nextJobId_le⟩
  | delete => exact ⟨hperform.jobIdsBelow hwritten, hperform.nextJobId_le⟩

/-- The run lemma of `JobIdsBelow`. -/
theorem jobIdsBelow_replayRecords {records : List GatewayWriteAheadLogRecord}
    (hids : state.JobIdsBelow) :
    (replayRecords env n records state).1.JobIdsBelow ∧
      state.replication.nextJobId ≤
        (replayRecords env n records state).1.replication.nextJobId := by
  refine @replayRecords_invariant env state
    (fun s => s.JobIdsBelow ∧ state.replication.nextJobId ≤ s.replication.nextJobId)
    ?_ records n ⟨hids, le_refl _⟩
  intro m turn s s' hs hturn
  obtain ⟨-, rfl⟩ := replayRecord_ok hturn
  obtain ⟨hbelow, hle⟩ :=
    @jobIdsBelow_perform env m turn s (recoveryAction turn (env.homeCheck m turn).isOk) hs.1
  exact ⟨hbelow, hs.2.trans hle⟩

end Turn

/-! ## Section 3: Restored replication -/

section Restored

variable {env : ReplayEnvironment} {n : Nat} {record : GatewayWriteAheadLogRecord}

/-- What a replayed record owes its sync targets: after a write that reached its home the
latest job is a put enqueued for this write or later, after an applied delete it is a
delete. `current` are the ids of the jobs enqueued for this write or later. -/
structure ReplicationRestored (env : ReplayEnvironment) (n : Nat)
    (record : GatewayWriteAheadLogRecord) (current : Nat → Prop) (store : MetadataStore) :
    Prop where
  write : record.operation ≠ .delete → (env.homeCheck n record).isOk = true →
    ∀ target ∈ record.syncTargets, target ≠ record.homeProvider →
      ∃ job, latestOf store record target = some job ∧
        job.operation = .put ∧ current job.jobId
  delete : record.operation = .delete →
    (record.phase = .committed ∨ (env.homeCheck n record).isOk = false) →
    ∀ target ∈ record.syncTargets, target ≠ record.homeProvider →
      ∃ job, latestOf store record target = some job ∧ job.operation = .delete

/-- The histories a replay can deal with: a latest job that has not failed is already
the job that the record owes. -/
structure LatestJobsCurrent (env : ReplayEnvironment) (n : Nat)
    (record : GatewayWriteAheadLogRecord) (current : Nat → Prop) (store : MetadataStore) :
    Prop where
  write : record.operation ≠ .delete → (env.homeCheck n record).isOk = true →
    ∀ target ∈ record.syncTargets, target ≠ record.homeProvider →
      ∀ job, latestOf store record target = some job → job.status ≠ .failed →
        job.operation = .put ∧ current job.jobId
  delete : record.operation = .delete →
    (record.phase = .committed ∨ (env.homeCheck n record).isOk = false) →
    ∀ target ∈ record.syncTargets, target ≠ record.homeProvider →
      ∀ job, latestOf store record target = some job → job.status ≠ .failed →
        job.operation = .delete

/-- For one sync target: the new latest job has the property iff an old latest job that
has not failed has it. -/
theorem EnqueuesMissing.restored_iff {state state' : ReplayState}
    {operation : ReplicationOperation} {owed : ReplicationJob → Prop}
    (h : EnqueuesMissing record operation state state') (hids : state.JobIdsBelow)
    (hnew : ∀ job : ReplicationJob, job.operation = operation →
      state.replication.nextJobId ≤ job.jobId → owed job)
    {target : ProviderId} (htarget : target ∈ record.syncTargets)
    (hhome : target ≠ record.homeProvider) :
    (∃ job, latestOf state'.metadataStore record target = some job ∧ owed job) ↔
      ∀ job, latestOf state.metadataStore record target = some job → job.status ≠ .failed →
        owed job := by
  rcases h.latestOf_cases hids htarget hhome with
    ⟨hfailed, job, hjob, hoperation, hid⟩ | ⟨⟨job, hjob, hstatus⟩, hsame⟩
  · constructor
    · intro _ old hold hnot
      exact absurd (hfailed old hold) hnot
    · intro _
      exact ⟨job, hjob, hnew job hoperation hid⟩
  · rw [hsame]
    constructor
    · rintro ⟨latest, hlatest, howed⟩ old hold _
      obtain rfl : latest = old := Option.some.inj (hlatest.symm.trans hold)
      exact howed
    · intro hall
      exact ⟨job, hjob, hall job hjob hstatus⟩

/-- The action of a turn whose metadata writes are followed by a request: the new latest
jobs are as owed iff the old ones that have not failed are. -/
theorem restored_iff_of_perform {state : ReplayState} {action : RecoveryAction}
    {operation : ReplicationOperation} {owed : ReplicationJob → Prop}
    (haction : action = .reapply ∧ operation = .put ∨ action = .delete ∧ operation = .delete)
    (hids : state.JobIdsBelow)
    (hnew : ∀ job : ReplicationJob, job.operation = operation →
      state.replication.nextJobId ≤ job.jobId → owed job)
    {target : ProviderId} (htarget : target ∈ record.syncTargets)
    (hhome : target ≠ record.homeProvider) :
    (∃ job, latestOf (state.perform env n record action).metadataStore record target = some job ∧
        owed job) ↔
      ∀ job, latestOf state.metadataStore record target = some job → job.status ≠ .failed →
        owed job := by
  obtain ⟨written, hjobs, hengine, hperform⟩ := perform_jobs env n record state action
  have hlatest : latestOf state.metadataStore record target =
      latestOf written.metadataStore record target := by
    unfold latestOf MetadataStore.latestJobForObject
    rw [hjobs]
  have hwritten : written.JobIdsBelow := by
    intro job hjob
    rw [hengine]
    exact hids job (by rwa [← hjobs])
  rw [hlatest]
  rw [← hengine] at hnew
  obtain ⟨rfl, rfl⟩ | ⟨rfl, rfl⟩ := haction
  · exact hperform.restored_iff hwritten hnew htarget hhome
  · exact hperform.restored_iff hwritten hnew htarget hhome

theorem recoveryAction_write (hoperation : record.operation ≠ .delete) :
    recoveryAction record true = .reapply := by
  unfold recoveryAction
  cases h : record.operation with
  | put => rfl
  | metadataSync => rfl
  | delete => exact absurd h hoperation

theorem recoveryAction_delete {homeExists : Bool} (hoperation : record.operation = .delete)
    (happlied : record.phase = .committed ∨ homeExists = false) :
    recoveryAction record homeExists = .delete := by
  unfold recoveryAction
  rw [hoperation]
  rcases happlied with hphase | rfl
  · cases homeExists <;> simp [hphase]
  · rfl

/-- **Replay restores replication exactly for current histories.** After the turn of a
record every sync target has the job that the record owes it, if and only if every latest
job that had not failed before the turn was already such a job. -/
theorem replay_restores_iff {store : MetadataStore} {engine : ReplicationEngine}
    {current : Nat → Prop} {pre : List GatewayWriteAheadLogRecord} {before after : ReplayState}
    (hids : (ReplayState.initial store engine).JobIdsBelow)
    (hcurrent : ∀ jobId, engine.nextJobId ≤ jobId → current jobId)
    (hpre : replayRecords env 0 pre (ReplayState.initial store engine) = (before, none))
    (hturn : replayRecord env pre.length record before = .ok after) :
    ReplicationRestored env pre.length record current after.metadataStore ↔
      LatestJobsCurrent env pre.length record current before.metadataStore := by
  have hrun := @jobIdsBelow_replayRecords env 0 (ReplayState.initial store engine) pre hids
  rw [hpre] at hrun
  obtain ⟨hbelow, hle⟩ := hrun
  obtain ⟨-, rfl⟩ := replayRecord_ok hturn
  -- per target, for a write and for a delete
  have hwrite : record.operation ≠ .delete → (env.homeCheck pre.length record).isOk = true →
      ∀ target ∈ record.syncTargets, target ≠ record.homeProvider →
      ((∃ job, latestOf (before.perform env pre.length record (recoveryAction record
          (env.homeCheck pre.length record).isOk)).metadataStore record target = some job ∧
          (job.operation = .put ∧ current job.jobId)) ↔
        ∀ job, latestOf before.metadataStore record target = some job → job.status ≠ .failed →
          (job.operation = .put ∧ current job.jobId)) := by
    intro hoperation hhome target htarget hne
    have haction : recoveryAction record (env.homeCheck pre.length record).isOk = .reapply := by
      rw [hhome, recoveryAction_write hoperation]
    exact restored_iff_of_perform (Or.inl ⟨haction, rfl⟩) hbelow
      (fun job hput hid => ⟨hput, hcurrent job.jobId (hle.trans hid)⟩) htarget hne
  have hdelete : record.operation = .delete →
      (record.phase = .committed ∨ (env.homeCheck pre.length record).isOk = false) →
      ∀ target ∈ record.syncTargets, target ≠ record.homeProvider →
      ((∃ job, latestOf (before.perform env pre.length record (recoveryAction record
          (env.homeCheck pre.length record).isOk)).metadataStore record target = some job ∧
          job.operation = .delete) ↔
        ∀ job, latestOf before.metadataStore record target = some job → job.status ≠ .failed →
          job.operation = .delete) := by
    intro hoperation happlied target htarget hne
    exact restored_iff_of_perform
      (Or.inr ⟨recoveryAction_delete hoperation happlied, rfl⟩) hbelow
      (fun job hdel _ => hdel) htarget hne
  constructor
  · intro hrestored
    exact ⟨fun hoperation hhome target htarget hne =>
        (hwrite hoperation hhome target htarget hne).mp
          (hrestored.write hoperation hhome target htarget hne),
      fun hoperation happlied target htarget hne =>
        (hdelete hoperation happlied target htarget hne).mp
          (hrestored.delete hoperation happlied target htarget hne)⟩
  · intro hlatest
    exact ⟨fun hoperation hhome target htarget hne =>
        (hwrite hoperation hhome target htarget hne).mpr
          (hlatest.write hoperation hhome target htarget hne),
      fun hoperation happlied target htarget hne =>
        (hdelete hoperation happlied target htarget hne).mpr
          (hlatest.delete hoperation happlied target htarget hne)⟩

end Restored

/-! ## Section 4: Two histories -/

/-- A committed put of one object at the stub home with one sync target. -/
def recoveredPut : GatewayWriteAheadLogRecord where
  schemaVersion := 1
  lsn := 7
  txId := "tx-recover-7"
  phase := .committed
  operation := .put
  bucket := "placeholder"
  key := "critical/recover.txt"
  homeProvider := .stub
  logicalRecord := none
  syncTargets := [.onedrive]
  fallbackReadOrder := [.onedrive]
  previousPlacement := none
  previousLogicalRecord := none
  previousProtectionPlan := none
  preparedAtUnixMs := 200
  committedAtUnixMs := some 301

/-- The home holds the object and the log is at telecom. -/
def recoveryEnvironment (getObject : Except BlobError Unit)
    (records : List GatewayWriteAheadLogRecord) : ReplayEnvironment where
  policy := { enabled := true, remoteProvider := some .telecom }
  backends :=
    [{ provider := .stub, getObject := fun _ _ _ => getObject },
     { provider := .telecom, getObject := fun _ _ _ => .ok () }]
  remoteRecords := .ok records
  placedAtUnixMs := fun _ => 400
  enqueuedAtUnixMs := fun _ => 401
  finishedAtUnixMs := 402

/-- The put that replicated an earlier version of the object, done. -/
def earlierPut : ReplicationJob where
  jobId := 1
  target := "onedrive"
  sourceProvider := some "stub"
  operation := .put
  object :=
    { bucket := "placeholder", key := "critical/recover.txt", etag := none, size := some 10
      contentType := none }
  status := .completed
  attempts := 1
  enqueuedAtUnixMs := 100
  nextAttemptAtUnixMs := none
  lastError := none

/-- Without an earlier job the put is enqueued. -/
theorem replay_restores_iff_lost_put :
    ∃ after, replayRecord (recoveryEnvironment (.ok ()) [recoveredPut]) 0 recoveredPut
        (ReplayState.initial (MetadataStore.openFresh {})
          (ReplicationEngine.withRecentLimit 64)) = .ok after ∧
      ReplicationRestored (recoveryEnvironment (.ok ()) [recoveredPut]) 0 recoveredPut
        (fun jobId => 1 ≤ jobId) after.metadataStore := by
  refine ⟨_, rfl, (@replay_restores_iff (recoveryEnvironment (.ok ()) [recoveredPut])
    recoveredPut (MetadataStore.openFresh {}) (ReplicationEngine.withRecentLimit 64)
    (fun jobId => 1 ≤ jobId) [] _ _ ?_ (fun _ h => h) rfl rfl).mpr ⟨?_, ?_⟩⟩
  · intro job hjob
    exact absurd hjob (Table.not_mem_empty job)
  · intro _ _ target _ _ job hjob
    cases hjob
  · intro hdelete
    cases hdelete

/-- A crash after the home write and before the enqueue: the completed put of the earlier
version stays the latest job of the target. -/
theorem overwrite_not_restored :
    ∃ before after,
      before = ReplayState.initial ((MetadataStore.openFresh {}).enqueueJobs [earlierPut])
        { (ReplicationEngine.withRecentLimit 64) with nextJobId := 2 } ∧
      before.JobIdsBelow ∧
      loadGatewayWriteAheadLogRecordsFromRemote (recoveryEnvironment (.ok ()) [recoveredPut])
        before.metadataStore = .ok [recoveredPut] ∧
      replayRecord (recoveryEnvironment (.ok ()) [recoveredPut]) 0 recoveredPut before =
        .ok after ∧
      latestOf after.metadataStore recoveredPut .onedrive = some earlierPut ∧
      ¬ ReplicationRestored (recoveryEnvironment (.ok ()) [recoveredPut]) 0 recoveredPut
        (fun jobId => 2 ≤ jobId) after.metadataStore := by
  refine ⟨_, _, rfl, ?_, rfl, rfl, rfl, ?_⟩
  · intro job hjob
    obtain rfl : job = earlierPut := List.mem_singleton.mp hjob
    decide
  · intro hrestored
    obtain ⟨job, hjob, -, hid⟩ := hrestored.write (by decide) rfl .onedrive
      List.mem_cons_self (by decide)
    obtain rfl : earlierPut = job := Option.some.inj hjob
    exact absurd hid (by decide)

end Netdisk2Blob.Gateway
