import Netdisk2Blob.Gateway.ReplayRecovery

/-!
# Rollback during a Replay

When a replay takes metadata back. A home check has three kinds of answer (found, not
found, any other error) and the loop knows two: every error counts as an absent object.

## Contents

- `Reached`: a record that a replay gets to, with the state before its turn
- `replayedLsn_of_error`, `replayedLsn_of_finished`: the high-water mark moves past every
  record of a replay that finishes and past none of one that stops
- `rollsBackOnlyOnAbsence_iff`: the answers for which nothing is undone by mistake
-/

namespace Netdisk2Blob.Gateway

open Library Blob Policy Replication Metadata

/-! ## Section 1: The log state during a replay -/

section LogState

variable {env : ReplayEnvironment} {state : ReplayState}

theorem withJobs_gatewayWriteAheadLogState (state : ReplayState)
    (jobs : List ReplicationJob × ReplicationEngine) :
    (state.withJobs jobs).metadataStore.gatewayWriteAheadLogState =
      state.metadataStore.gatewayWriteAheadLogState :=
  (MetadataStore.enqueueJobs_objectTables state.metadataStore jobs.1).2.2.2

theorem EnqueuesMissing.log {record : GatewayWriteAheadLogRecord}
    {operation : ReplicationOperation} {state' : ReplayState}
    (h : EnqueuesMissing record operation state state') :
    state'.metadataStore.gatewayWriteAheadLogState =
        state.metadataStore.gatewayWriteAheadLogState ∧
      state'.lastReplayedLsn = state.lastReplayedLsn := by
  obtain ⟨-, rfl⟩ | ⟨topology, object, now, -, -, -, rfl⟩ := h
  · exact ⟨rfl, rfl⟩
  · exact ⟨withJobs_gatewayWriteAheadLogState _ _, rfl⟩

/-- No action writes the log state or moves the loop's mark. -/
theorem perform_log (n : Nat) (record : GatewayWriteAheadLogRecord) (action : RecoveryAction) :
    (state.perform env n record action).metadataStore.gatewayWriteAheadLogState =
        state.metadataStore.gatewayWriteAheadLogState ∧
      (state.perform env n record action).lastReplayedLsn = state.lastReplayedLsn := by
  cases action with
  | keep => exact ⟨rfl, rfl⟩
  | rollBack =>
    refine ⟨?_, rfl⟩
    change (state.rollBack record).metadataStore.gatewayWriteAheadLogState = _
    unfold ReplayState.rollBack restorePreviousObjectMetadataState
    cases record.previousPlacement <;> cases record.previousLogicalRecord <;>
      cases record.previousProtectionPlan <;> rfl
  | reapply =>
    obtain ⟨hstate, hmark⟩ := (enqueueMissingPuts_missing
      (state.persistWrite (env.placedAtUnixMs n) record) (env.enqueuedAtUnixMs n) record).log
    refine ⟨hstate.trans ?_, hmark⟩
    unfold ReplayState.persistWrite persistObjectProtectionPlan
    cases record.logicalRecord <;> rfl
  | delete =>
    exact (enqueueMissingDeletes_missing (state.deleteMetadata record)
      (env.enqueuedAtUnixMs n) record).log

theorem replayRecords_gatewayWriteAheadLogState (n : Nat)
    (records : List GatewayWriteAheadLogRecord) :
    (replayRecords env n records state).1.metadataStore.gatewayWriteAheadLogState =
      state.metadataStore.gatewayWriteAheadLogState := by
  refine @replayRecords_invariant env state
    (fun s => s.metadataStore.gatewayWriteAheadLogState =
      state.metadataStore.gatewayWriteAheadLogState) ?_ records n rfl
  intro m turn s s' hs hturn
  obtain ⟨-, rfl⟩ := replayRecord_ok hturn
  exact (perform_log m turn _).1.trans hs

/-- A turn moves the loop's mark to its record, and the mark never goes down. -/
theorem lastReplayedLsn_replayRecord {n : Nat} {record : GatewayWriteAheadLogRecord}
    {state' : ReplayState} (h : replayRecord env n record state = .ok state') :
    state'.lastReplayedLsn = some (max (state.lastReplayedLsn.getD 0) record.lsn) := by
  obtain ⟨-, rfl⟩ := replayRecord_ok h
  change some (max (ReplayState.lastReplayedLsn _ |>.getD 0) record.lsn) = _
  rw [(perform_log n record _).2]

/-- A loop that finishes has its mark at or above every record. -/
theorem lastReplayedLsn_replayRecords {records : List GatewayWriteAheadLogRecord} {n : Nat}
    {state' : ReplayState} (h : replayRecords env n records state = (state', none)) :
    state.lastReplayedLsn.getD 0 ≤ state'.lastReplayedLsn.getD 0 ∧
      ∀ record ∈ records, record.lsn ≤ state'.lastReplayedLsn.getD 0 := by
  induction records generalizing n state with
  | nil =>
    cases h
    exact ⟨le_refl _, fun record hrecord => absurd hrecord List.not_mem_nil⟩
  | cons record records ih =>
    rw [replayRecords] at h
    cases hturn : replayRecord env n record state with
    | error error =>
      rw [hturn] at h
      cases h
    | ok next =>
      rw [hturn] at h
      obtain ⟨hle, hall⟩ := ih h
      rw [lastReplayedLsn_replayRecord hturn, Option.getD_some] at hle
      refine ⟨(le_max_left _ _).trans hle, ?_⟩
      intro other hother
      rcases List.mem_cons.mp hother with rfl | hother
      · exact (le_max_right _ _).trans hle
      · exact hall other hother

end LogState

/-! ## Section 2: What a replay leaves as its high-water mark -/

section Mark

variable {env : ReplayEnvironment} {store : MetadataStore} {engine : ReplicationEngine}
  {records : List GatewayWriteAheadLogRecord}

/-- The `last_replayed_lsn` of the store, zero before the first replay. -/
def replayedLsn (store : MetadataStore) : Nat :=
  store.gatewayWriteAheadLogStateRecord.lastReplayedLsn.getD 0

/-- Loaded records lie above the replay floor. -/
theorem replayedLsn_lt_of_loaded
    (hload : loadGatewayWriteAheadLogRecordsFromRemote env store = .ok records)
    {record : GatewayWriteAheadLogRecord} (hrecord : record ∈ records) :
    replayedLsn store < record.lsn := by
  unfold loadGatewayWriteAheadLogRecordsFromRemote at hload
  have hempty : ¬ Except.ok [] = (Except.ok records : Except BlobError _) := by
    intro h
    rw [← Except.ok.inj h] at hrecord
    cases hrecord
  split_ifs at hload
  · exact absurd hload hempty
  · split at hload
    · exact absurd hload hempty
    · split at hload
      · cases hload
      · split at hload
        · cases hload
        · cases hload
          have hfilter := (List.perm_insertionSort ReplayOrder _).mem_iff.mp hrecord
          obtain ⟨-, hkept⟩ := List.mem_filter.mp hfilter
          have habove : store.gatewayWriteAheadLogReplayFloorLsn.getD 0 < record.lsn := by
            have := (of_decide_eq_true hkept).2
            omega
          refine lt_of_le_of_lt ?_ habove
          unfold replayedLsn MetadataStore.gatewayWriteAheadLogReplayFloorLsn
          cases hlast : store.gatewayWriteAheadLogStateRecord.lastReplayedLsn with
          | none => exact Nat.zero_le _
          | some lsn => simp [hlast]

/-- A replay that stops at an unconfigured home backend leaves the mark where it was. -/
theorem replayedLsn_of_error
    (hload : loadGatewayWriteAheadLogRecordsFromRemote env store = .ok records)
    (hstops : ∃ record ∈ records, ¬ env.Configured record) :
    replayedLsn (replayGatewayWriteAheadLogFromRemote env store engine).metadataStore =
      replayedLsn store := by
  have herror : (replayRecords env 0 records (ReplayState.initial store engine)).2 ≠ none := by
    intro hnone
    obtain ⟨record, hrecord, hnot⟩ := hstops
    exact hnot (replayRecords_error_iff.mp hnone record hrecord)
  have hkept := @replayRecords_gatewayWriteAheadLogState env
    (ReplayState.initial store engine) 0 records
  obtain ⟨state, _ | error, hrun⟩ :
      ∃ state error, replayRecords env 0 records (ReplayState.initial store engine) =
        (state, error) := ⟨_, _, rfl⟩
  · exact absurd (congrArg Prod.snd hrun) herror
  · rw [hrun] at hkept
    simp only [replayGatewayWriteAheadLogFromRemote, hload, hrun]
    unfold replayedLsn MetadataStore.gatewayWriteAheadLogStateRecord
    rw [hkept]
    rfl

/-- A replay that finishes moves the mark past all of its records. -/
theorem replayedLsn_of_finished
    (hload : loadGatewayWriteAheadLogRecordsFromRemote env store = .ok records)
    (hfinishes : ∀ record ∈ records, env.Configured record)
    {record : GatewayWriteAheadLogRecord} (hrecord : record ∈ records) :
    record.lsn ≤
      replayedLsn (replayGatewayWriteAheadLogFromRemote env store engine).metadataStore := by
  have hpos : 0 < record.lsn := Nat.zero_lt_of_lt (replayedLsn_lt_of_loaded hload hrecord)
  have hnone := (@replayRecords_error_iff env (ReplayState.initial store engine) records 0).mpr
    hfinishes
  obtain ⟨state, _ | error, hrun⟩ :
      ∃ state error, replayRecords env 0 records (ReplayState.initial store engine) =
        (state, error) := ⟨_, _, rfl⟩
  · have hmark := (lastReplayedLsn_replayRecords hrun).2 record hrecord
    cases hlast : state.lastReplayedLsn with
    | none =>
      rw [hlast] at hmark
      exact absurd hmark (by simpa using hpos.ne')
    | some lsn =>
      have hle : record.lsn ≤ lsn := by simpa [hlast] using hmark
      simp only [replayGatewayWriteAheadLogFromRemote, hload, hrun, hlast, replayedLsn]
      rw [MetadataStore.update_lastReplayedLsn _ _ (hpos.trans_le hle)]
      exact hle.trans (le_max_right _ _)
  · rw [hrun] at hnone
    cases hnone

end Mark

/-! ## Section 3: Rollback and absence -/

/-- The replay gets to the `n`-th record, in the given state. -/
structure Reached (env : ReplayEnvironment) (store : MetadataStore) (engine : ReplicationEngine)
    (records : List GatewayWriteAheadLogRecord) (n : Nat) (record : GatewayWriteAheadLogRecord)
    (state : ReplayState) : Prop where
  loaded : loadGatewayWriteAheadLogRecordsFromRemote env store = .ok records
  record_eq : records[n]? = some record
  run : replayRecords env 0 (records.take n) (ReplayState.initial store engine) = (state, none)

/-- The state after the turn; a turn that fails changes nothing. -/
def stateAfter (env : ReplayEnvironment) (n : Nat) (record : GatewayWriteAheadLogRecord)
    (state : ReplayState) : ReplayState :=
  match replayRecord env n record state with
  | .ok next => next
  | .error _ => state

def CommittedDelete (record : GatewayWriteAheadLogRecord) : Prop :=
  record.operation = .delete ∧ record.phase = .committed

/-- The home was reported to be without the object. -/
def HomeAbsent (answer : Except BlobError Unit) : Prop :=
  ∃ message, answer = .error (.notFound message)

/-- The home check gave neither an object nor its absence. -/
def HomeCheckFailed (answer : Except BlobError Unit) : Prop :=
  ∃ error, answer = .error error ∧ ∀ message, error ≠ .notFound message

/-- A replay that undoes metadata on confirmed absence only. Committed deletes, which are
applied whatever the home says, are exempt. -/
structure RollsBackOnlyOnAbsence (env : ReplayEnvironment) (store : MetadataStore)
    (engine : ReplicationEngine) : Prop where
  undoes : ∀ {records n record state}, Reached env store engine records n record state →
    env.Configured record →
    (recoveryAction record (env.homeCheck n record).isOk = .rollBack ∨
      recoveryAction record (env.homeCheck n record).isOk = .delete) →
    HomeAbsent (env.homeCheck n record) ∨ CommittedDelete record
  unchanged : ∀ {records n record state}, Reached env store engine records n record state →
    HomeCheckFailed (env.homeCheck n record) → ¬ CommittedDelete record →
    (stateAfter env n record state).metadataStore.objectMetadata record.bucket record.key =
      state.metadataStore.objectMetadata record.bucket record.key
  notAdvanced : ∀ {records n record state}, Reached env store engine records n record state →
    HomeCheckFailed (env.homeCheck n record) → ¬ CommittedDelete record →
    replayedLsn (replayGatewayWriteAheadLogFromRemote env store engine).metadataStore <
      record.lsn

/-- The home checks of a replay that do no harm: one that fails belongs to a committed
delete, or its backend is missing (the replay stops there), or it belongs to a metadata
sync in a replay that stops somewhere. -/
def ChecksHarmless (env : ReplayEnvironment) (store : MetadataStore) : Prop :=
  ∀ records, loadGatewayWriteAheadLogRecordsFromRemote env store = .ok records →
    ∀ n record, records[n]? = some record →
      (∀ earlier ∈ records.take n, env.Configured earlier) →
      HomeCheckFailed (env.homeCheck n record) →
      CommittedDelete record ∨ ¬ env.Configured record ∨
        (record.operation = .metadataSync ∧ ∃ other ∈ records, ¬ env.Configured other)

section Rollback

variable {env : ReplayEnvironment} {store : MetadataStore} {engine : ReplicationEngine}
  {records : List GatewayWriteAheadLogRecord} {n : Nat} {record : GatewayWriteAheadLogRecord}
  {state : ReplayState}

/-- A record is reached iff the home backends of all records before it are configured. -/
theorem exists_reached_iff :
    (∃ state, Reached env store engine records n record state) ↔
      loadGatewayWriteAheadLogRecordsFromRemote env store = .ok records ∧
      records[n]? = some record ∧ ∀ earlier ∈ records.take n, env.Configured earlier := by
  constructor
  · rintro ⟨state, hload, hrecord, hrun⟩
    exact ⟨hload, hrecord, replayRecords_error_iff.mp (congrArg Prod.snd hrun)⟩
  · rintro ⟨hload, hrecord, hearlier⟩
    have hnone := (@replayRecords_error_iff env (ReplayState.initial store engine)
      (records.take n) 0).mpr hearlier
    exact ⟨_, hload, hrecord, Prod.ext rfl hnone⟩

theorem HomeCheckFailed.isOk {answer : Except BlobError Unit} (h : HomeCheckFailed answer) :
    answer.isOk = false := by
  obtain ⟨error, rfl, -⟩ := h
  rfl

theorem HomeCheckFailed.not_absent {answer : Except BlobError Unit}
    (h : HomeCheckFailed answer) : ¬ HomeAbsent answer := by
  rintro ⟨message, habsent⟩
  obtain ⟨error, herror, hnot⟩ := h
  exact hnot message (Except.error.inj (herror.symm.trans habsent))

/-- A check that is neither good nor an absence has failed. -/
theorem homeCheckFailed_of_not {answer : Except BlobError Unit} (hnot : answer.isOk = false)
    (habsent : ¬ HomeAbsent answer) : HomeCheckFailed answer := by
  cases answer with
  | ok value => cases hnot
  | error error =>
    refine ⟨error, rfl, ?_⟩
    rintro message rfl
    exact habsent ⟨message, rfl⟩

/-- What an absent home leads to, by operation. -/
theorem recoveryAction_absent (record : GatewayWriteAheadLogRecord) :
    (record.operation = .metadataSync ∧ recoveryAction record false = .keep) ∨
      (recoveryAction record false = .rollBack ∨ recoveryAction record false = .delete) := by
  unfold recoveryAction
  cases record.operation with
  | put => exact Or.inr (Or.inl rfl)
  | metadataSync => exact Or.inl ⟨rfl, rfl⟩
  | delete => exact Or.inr (Or.inr rfl)

/-- **A replay undoes metadata on confirmed absence only**, if and only if its failed home
checks are harmless. -/
theorem rollsBackOnlyOnAbsence_iff (env : ReplayEnvironment) (store : MetadataStore)
    (engine : ReplicationEngine) :
    RollsBackOnlyOnAbsence env store engine ↔ ChecksHarmless env store := by
  constructor
  · intro hsafe records hload n record hrecord hearlier hfailed
    obtain ⟨state, hreached⟩ :=
      (@exists_reached_iff env store engine records n record).mpr ⟨hload, hrecord, hearlier⟩
    by_cases hcommitted : CommittedDelete record
    · exact Or.inl hcommitted
    by_cases hconfigured : env.Configured record
    · refine Or.inr (Or.inr ⟨?_, ?_⟩)
      · -- any other operation undoes something here
        rcases recoveryAction_absent record with ⟨hsync, -⟩ | hundoes
        · exact hsync
        · rw [← hfailed.isOk] at hundoes
          rcases hsafe.undoes hreached hconfigured hundoes with habsent | hdelete
          · exact absurd habsent hfailed.not_absent
          · exact absurd hdelete hcommitted
      · -- a replay that finishes moves past the record
        by_contra hall
        have hfinishes : ∀ other ∈ records, env.Configured other := by
          intro other hother
          by_contra hnot
          exact hall ⟨other, hother, hnot⟩
        have hle := @replayedLsn_of_finished env store engine records hload hfinishes record
          (List.mem_of_getElem? hrecord)
        exact absurd (hsafe.notAdvanced hreached hfailed hcommitted) (not_lt.mpr hle)
    · exact Or.inr (Or.inl hconfigured)
  · intro hharmless
    have hcases : ∀ {records n record state}, Reached env store engine records n record state →
        HomeCheckFailed (env.homeCheck n record) → ¬ CommittedDelete record →
        ¬ env.Configured record ∨
          (record.operation = .metadataSync ∧ ∃ other ∈ records, ¬ env.Configured other) := by
      intro records n record state hreached hfailed hcommitted
      obtain ⟨hload, hrecord, hearlier⟩ := exists_reached_iff.mp ⟨state, hreached⟩
      exact (hharmless records hload n record hrecord hearlier hfailed).resolve_left hcommitted
    constructor
    · intro records n record state hreached hconfigured hundoes
      by_contra hnot
      obtain ⟨hnotAbsent, hcommitted⟩ := not_or.mp hnot
      cases hok : (env.homeCheck n record).isOk with
      | true =>
        rw [hok] at hundoes
        -- with the object at home only a committed delete undoes anything
        unfold recoveryAction at hundoes
        cases hoperation : record.operation <;> cases hphase : record.phase <;>
          simp [hoperation, hphase, CommittedDelete] at hundoes hcommitted
      | false =>
        have hfailed := homeCheckFailed_of_not hok hnotAbsent
        rcases hcases hreached hfailed hcommitted with hmissing | ⟨hsync, -⟩
        · exact hmissing hconfigured
        · rw [hok] at hundoes
          simp [recoveryAction, hsync] at hundoes
    · intro records n record state hreached hfailed hcommitted
      unfold stateAfter
      by_cases hconfigured : env.Configured record
      · obtain ⟨hsync, -⟩ := (hcases hreached hfailed hcommitted).resolve_left
          (not_not.mpr hconfigured)
        rw [replayRecord_eq_perform hconfigured, hfailed.isOk]
        simp only [recoveryAction, hsync]
        rfl
      · rw [replayRecord_eq_error hconfigured]
    · intro records n record state hreached hfailed hcommitted
      obtain ⟨hload, hrecord, -⟩ := exists_reached_iff.mp ⟨state, hreached⟩
      have hmem : record ∈ records := List.mem_of_getElem? hrecord
      have hstops : ∃ other ∈ records, ¬ env.Configured other := by
        rcases hcases hreached hfailed hcommitted with hmissing | ⟨-, hother⟩
        · exact ⟨record, hmem, hmissing⟩
        · exact hother
      rw [replayedLsn_of_error hload hstops]
      exact replayedLsn_lt_of_loaded hload hmem

end Rollback

/-- The placement of an object whose home is stub. -/
def placedStore : MetadataStore :=
  (MetadataStore.openFresh {}).upsertObjectPlacement "stub" "placeholder"
    "critical/recover.txt" 100

/-- A home that times out at startup: the placement of a stored object is deleted and the
mark moves past the record. -/
theorem timeout_rolls_back :
    ¬ RollsBackOnlyOnAbsence
        (recoveryEnvironment (.error (.upstream "timeout")) [recoveredPut]) placedStore
        (ReplicationEngine.withRecentLimit 64) ∧
      placedStore.objectPlacement "placeholder" "critical/recover.txt" ≠ none ∧
      (replayGatewayWriteAheadLogFromRemote
        (recoveryEnvironment (.error (.upstream "timeout")) [recoveredPut]) placedStore
        (ReplicationEngine.withRecentLimit 64)).metadataStore.objectPlacement "placeholder"
          "critical/recover.txt" = none ∧
      replayedLsn (replayGatewayWriteAheadLogFromRemote
        (recoveryEnvironment (.error (.upstream "timeout")) [recoveredPut]) placedStore
        (ReplicationEngine.withRecentLimit 64)).metadataStore = 7 := by
  refine ⟨?_, by decide, by decide, by decide⟩
  intro hsafe
  have hreached : Reached (recoveryEnvironment (.error (.upstream "timeout")) [recoveredPut])
      placedStore (ReplicationEngine.withRecentLimit 64) [recoveredPut] 0 recoveredPut
      (ReplayState.initial placedStore (ReplicationEngine.withRecentLimit 64)) :=
    ⟨rfl, rfl, rfl⟩
  have hmark := hsafe.notAdvanced hreached
    ⟨.upstream "timeout", rfl, fun _ => by simp⟩ (by simp [CommittedDelete, recoveredPut])
  revert hmark
  decide

end Netdisk2Blob.Gateway
