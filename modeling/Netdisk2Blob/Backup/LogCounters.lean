import Netdisk2Blob.Backup.Bundle
import Netdisk2Blob.Gateway.ReplayRollback
import Netdisk2Blob.Library.Transition
import Netdisk2Blob.Metadata.BackupState

/-!
# The Counters of the Log

The life of a write-ahead log: LSNs are allocated and written to the remote, backups are
exported and move the checkpoint, a startup replays the log, and a restore puts the counters
of an earlier export back while the records stay on the remote.

Every operation but the restore leaves `next_lsn` where it is or moves it up, so LSNs are
unique and in order until a restore takes the counter back below what is in use.

## Contents

- `CountersBelow`, with what each operation of the store does to it
- `LogSystem`, its actions and `LogSystem.step`
- `LogOrdered`: unique and ordered LSNs; `LogSystem.Guard`: restores that keep them so
- `inv_step`, `always_logOrdered`
-/

namespace Netdisk2Blob.Backup

open Library Blob Replication Metadata Gateway

/-! ## Section 1: The counters -/

/-- The replay floor that a state row stands for; zero is no floor. -/
def replayFloor (state : GatewayWriteAheadLogStateRecord) : Nat :=
  (state.lastReplayedLsn.or state.lastCheckpointLsn).getD 0

/-- The checkpoint and the mark of the last replay are below the next LSN. -/
structure CountersBelow (state : GatewayWriteAheadLogStateRecord) : Prop where
  checkpoint_lt : ∀ lsn, state.lastCheckpointLsn = some lsn → lsn < state.nextLsn
  replayed_lt : ∀ lsn, state.lastReplayedLsn = some lsn → lsn < state.nextLsn

/-- Counters in their range: the row of a store, or of an export. -/
structure CountersValid (state : GatewayWriteAheadLogStateRecord) : Prop extends
    CountersBelow state where
  pos : 1 ≤ state.nextLsn
  le_max : state.nextLsn ≤ u64Max

theorem countersValid_default : CountersValid {} where
  checkpoint_lt := by simp
  replayed_lt := by simp
  pos := le_rfl
  le_max := by decide

theorem CountersValid.floor_lt {state : GatewayWriteAheadLogStateRecord}
    (h : CountersValid state) : replayFloor state < state.nextLsn := by
  unfold replayFloor
  cases hreplayed : state.lastReplayedLsn with
  | some lsn => exact h.replayed_lt lsn hreplayed
  | none =>
    cases hcheckpoint : state.lastCheckpointLsn with
    | some lsn => exact h.checkpoint_lt lsn hcheckpoint
    | none => exact h.pos

section Operations

variable {store : MetadataStore} {lsn now : Nat}

/-- Moving the mark of the last replay, or the checkpoint with it, up to an LSN. -/
theorem countersValid_mark {state : GatewayWriteAheadLogStateRecord} (h : CountersValid state)
    (hlsn : lsn < u64Max) {checkpoint : Option Nat}
    (hcheckpoint : checkpoint = some lsn ∨ checkpoint = state.lastCheckpointLsn) :
    CountersValid
      { nextLsn := max (max state.nextLsn (saturatingAddU64 lsn 1)) 1
        lastCheckpointLsn := checkpoint
        lastReplayedLsn :=
          (some (max (state.lastReplayedLsn.getD 0) lsn)).filter (fun value => 0 < value)
        updatedAtUnixMs := now } := by
  have hadd : saturatingAddU64 lsn 1 = lsn + 1 := by
    unfold saturatingAddU64
    omega
  have hpos := h.pos
  have hle := h.le_max
  rw [hadd]
  refine ⟨⟨?_, ?_⟩, ?_, ?_⟩
  · intro value hvalue
    simp only at hvalue ⊢
    rcases hcheckpoint with rfl | rfl
    · obtain rfl := Option.some.inj hvalue
      omega
    · have := h.checkpoint_lt value hvalue
      omega
  · intro value hvalue
    simp only at hvalue ⊢
    obtain ⟨hsome, -⟩ := Option.filter_eq_some_iff.mp hvalue
    obtain rfl := Option.some.inj hsome
    cases hreplayed : state.lastReplayedLsn with
    | none =>
      simp only [Option.getD_none]
      omega
    | some last =>
      have := h.replayed_lt last hreplayed
      simp only [Option.getD_some]
      omega
  · simp only
    omega
  · simp only
    omega

theorem countersValid_checkpoint (h : CountersValid store.gatewayWriteAheadLogStateRecord)
    (hlsn : lsn < u64Max) :
    CountersValid
      (store.updateGatewayWriteAheadLogCheckpointLsn lsn now).gatewayWriteAheadLogStateRecord :=
  countersValid_mark h hlsn (Or.inl rfl)

theorem countersValid_replayed (h : CountersValid store.gatewayWriteAheadLogStateRecord)
    (hlsn : lsn < u64Max) :
    CountersValid
      (store.updateGatewayWriteAheadLogReplayedLsn lsn now).gatewayWriteAheadLogStateRecord :=
  countersValid_mark h hlsn (Or.inr rfl)

/-- What is given out is the next LSN, and the counter moves past it. -/
theorem countersValid_allocate (h : CountersValid store.gatewayWriteAheadLogStateRecord)
    (hnext : store.gatewayWriteAheadLogStateRecord.nextLsn < u64Max) :
    (store.allocateGatewayWriteAheadLogLsn now).1 =
        store.gatewayWriteAheadLogStateRecord.nextLsn ∧
      (store.allocateGatewayWriteAheadLogLsn now).2.gatewayWriteAheadLogStateRecord.nextLsn =
        store.gatewayWriteAheadLogStateRecord.nextLsn + 1 ∧
      CountersValid
        (store.allocateGatewayWriteAheadLogLsn now).2.gatewayWriteAheadLogStateRecord := by
  have hpos := h.pos
  have hnew : (store.allocateGatewayWriteAheadLogLsn now).2.gatewayWriteAheadLogStateRecord =
      { store.gatewayWriteAheadLogStateRecord with
        nextLsn := store.gatewayWriteAheadLogStateRecord.nextLsn + 1
        updatedAtUnixMs := now } := by
    unfold MetadataStore.allocateGatewayWriteAheadLogLsn
    simp only [MetadataStore.upsertGatewayWriteAheadLogState,
      MetadataStore.gatewayWriteAheadLogStateRecord, Option.getD_some] at hpos hnext ⊢
    congr 1
    unfold saturatingAddU64
    omega
  rw [hnew]
  refine ⟨max_eq_left hpos, rfl, ⟨?_, ?_⟩, ?_, ?_⟩
  · intro lsn hlsn
    have := h.checkpoint_lt lsn hlsn
    simp only
    omega
  · intro lsn hlsn
    have := h.replayed_lt lsn hlsn
    simp only
    omega
  · simp only
    omega
  · simp only
    omega

end Operations

/-! ## Section 2: A startup replay -/

section Replay

variable {env : ReplayEnvironment} {store : MetadataStore} {engine : ReplicationEngine}

/-- The mark of a loop that finishes is the LSN of one of its records. -/
theorem exists_record_of_lastReplayedLsn {records : List GatewayWriteAheadLogRecord} {n lsn : Nat}
    {state state' : ReplayState} (h : replayRecords env n records state = (state', none))
    (hlsn : state'.lastReplayedLsn = some lsn) :
    state.lastReplayedLsn = some lsn ∨ ∃ record ∈ records, record.lsn = lsn := by
  induction records generalizing n state with
  | nil =>
    cases h
    exact Or.inl hlsn
  | cons record records ih =>
    rw [replayRecords] at h
    cases hturn : replayRecord env n record state with
    | error error =>
      rw [hturn] at h
      cases h
    | ok next =>
      rw [hturn] at h
      rcases ih h with hnext | ⟨other, hother, rfl⟩
      · -- the mark is still that of this turn: the larger of the old one and the record
        rw [lastReplayedLsn_replayRecord hturn] at hnext
        have hmax := Option.some.inj hnext
        rcases max_choice (state.lastReplayedLsn.getD 0) record.lsn with hold | hnew
        · rw [hold] at hmax
          cases hstate : state.lastReplayedLsn with
          | some last =>
            rw [hstate, Option.getD_some] at hmax
            exact Or.inl (congrArg some hmax)
          | none =>
            rw [hstate, Option.getD_none] at hold hmax
            exact Or.inr ⟨record, List.mem_cons_self, by omega⟩
        · exact Or.inr ⟨record, List.mem_cons_self, hnew.symm.trans hmax⟩
      · exact Or.inr ⟨other, List.mem_cons_of_mem _ hother, rfl⟩

/-- Loaded records are records of the remote. -/
theorem mem_remote_of_loaded {records : List GatewayWriteAheadLogRecord}
    (hload : loadGatewayWriteAheadLogRecordsFromRemote env store = .ok records)
    {record : GatewayWriteAheadLogRecord} (hrecord : record ∈ records) :
    ∃ remote, env.remoteRecords = .ok remote ∧ record ∈ remote := by
  unfold loadGatewayWriteAheadLogRecordsFromRemote at hload
  have hempty : ¬ Except.ok [] = (Except.ok records : Except BlobError _) := by
    intro h
    rw [← Except.ok.inj h] at hrecord
    cases hrecord
  split_ifs at hload
  · exact absurd hload hempty
  split at hload
  · exact absurd hload hempty
  split at hload
  · cases hload
  split at hload
  · cases hload
  rename_i remote hremote
  cases hload
  have hfilter := (List.perm_insertionSort ReplayOrder _).mem_iff.mp hrecord
  exact ⟨remote, hremote, List.mem_of_mem_filter hfilter⟩

/-- A replay leaves the counters alone or moves the mark to the LSN of a remote record. -/
theorem replay_counters (env : ReplayEnvironment) (store : MetadataStore)
    (engine : ReplicationEngine) :
    (replayGatewayWriteAheadLogFromRemote env store
        engine).metadataStore.gatewayWriteAheadLogStateRecord =
      store.gatewayWriteAheadLogStateRecord ∨
    ∃ remote record now, env.remoteRecords = .ok remote ∧ record ∈ remote ∧
      (replayGatewayWriteAheadLogFromRemote env store
          engine).metadataStore.gatewayWriteAheadLogStateRecord =
        (store.updateGatewayWriteAheadLogReplayedLsn record.lsn
          now).gatewayWriteAheadLogStateRecord := by
  unfold replayGatewayWriteAheadLogFromRemote
  cases hload : loadGatewayWriteAheadLogRecordsFromRemote env store with
  | error error => exact Or.inl rfl
  | ok records =>
    have hkept := @replayRecords_gatewayWriteAheadLogState env (ReplayState.initial store engine)
      0 records
    have hsame : (ReplayState.initial store engine).metadataStore = store := rfl
    obtain ⟨state, error, hrun⟩ :
        ∃ state error, replayRecords env 0 records (ReplayState.initial store engine) =
          (state, error) := ⟨_, _, rfl⟩
    rw [hrun, hsame] at hkept
    have hrecord : state.metadataStore.gatewayWriteAheadLogStateRecord =
        store.gatewayWriteAheadLogStateRecord := congrArg (fun row => row.getD {}) hkept
    simp only [hrun]
    cases error with
    | some error => exact Or.inl hrecord
    | none =>
      cases hlast : state.lastReplayedLsn with
      | none =>
        simp only [hlast]
        exact Or.inl hrecord
      | some lsn =>
        simp only [hlast]
        rcases exists_record_of_lastReplayedLsn hrun hlast with hinitial | ⟨record, hmem, rfl⟩
        · cases hinitial
        · obtain ⟨remote, hremote, hmem⟩ := mem_remote_of_loaded hload hmem
          refine Or.inr ⟨remote, record, env.finishedAtUnixMs, hremote, hmem, ?_⟩
          unfold MetadataStore.updateGatewayWriteAheadLogReplayedLsn
          rw [hrecord]
          rfl

end Replay

/-! ## Section 3: The life of the log -/

/-- The store, the LSNs whose record is on its way to the remote, the LSN of every record
that was written to the remote so far, every export so far, and the highest replay floor
that a state has had. -/
structure LogSystem where
  metadataStore : MetadataStore
  inFlight : List Nat
  written : List Nat
  exports : List GatewayBackupMetadataPayload
  highestFloor : Nat

inductive LogAction where
  /-- `maybe_prepare_gateway_write_ahead_log` up to the upload of the record -/
  | allocate (updatedAtUnixMs : Nat)
  /-- the upload of a record in flight succeeds -/
  | written (i : Nat)
  /-- the upload of a record in flight fails -/
  | failed (i : Nat)
  /-- a write to the other tables -/
  | writeTables (metadataStore : MetadataStore)
  /-- an export; its tables were read before its log state -/
  | exportBundle (bundle : GatewayBackupMetadataPayload)
  /-- the checkpoint of a backup run, from its export -/
  | checkpoint (i updatedAtUnixMs : Nat)
  | startupReplay (env : ReplayEnvironment) (engine : ReplicationEngine)
  | restore (i : Nat)

namespace LogSystem

def counters (s : LogSystem) : GatewayWriteAheadLogStateRecord :=
  s.metadataStore.gatewayWriteAheadLogStateRecord

/-- The system with a new store. -/
def withStore (s : LogSystem) (store : MetadataStore) : LogSystem :=
  { s with
    metadataStore := store
    highestFloor := max s.highestFloor (replayFloor store.gatewayWriteAheadLogStateRecord) }

/-- The `checkpoint_lsn` that a backup run takes from its bundle. -/
def checkpointLsn (bundle : GatewayBackupMetadataPayload) : Nat :=
  bundle.gatewayWriteAheadLogState.nextLsn - 1

def step (s : LogSystem) : LogAction → Option LogSystem
  | .allocate now =>
    let (lsn, store) := s.metadataStore.allocateGatewayWriteAheadLogLsn now
    some { s.withStore store with inFlight := s.inFlight ++ [lsn] }
  | .written i =>
    (s.inFlight[i]?).map fun lsn =>
      { s with inFlight := s.inFlight.eraseIdx i, written := s.written ++ [lsn] }
  | .failed i => some { s with inFlight := s.inFlight.eraseIdx i }
  | .writeTables store =>
    if store.gatewayWriteAheadLogState = s.metadataStore.gatewayWriteAheadLogState then
      some { s with metadataStore := store }
    else none
  | .exportBundle bundle =>
    if bundle.gatewayWriteAheadLogState = s.counters then
      some { s with exports := s.exports ++ [bundle] }
    else none
  | .checkpoint i now =>
    (s.exports[i]?).map fun bundle =>
      s.withStore
        (s.metadataStore.updateGatewayWriteAheadLogCheckpointLsn (checkpointLsn bundle) now)
  | .startupReplay env engine =>
    -- what the replay lists are records that were written
    if (env.remoteRecords.toOption.getD []).all (fun record => decide (record.lsn ∈ s.written)) then
      some (s.withStore
        (replayGatewayWriteAheadLogFromRemote env s.metadataStore engine).metadataStore)
    else none
  | .restore i =>
    (s.exports[i]?).bind fun bundle =>
      (s.metadataStore.replaceBackupState bundle.objectPlacements bundle.logicalObjects
        bundle.objectProtectionPlans bundle.pendingReplicationJobs
        bundle.gatewayWriteAheadLogState).map s.withStore

/-- A fresh database and an empty log. -/
def start (retention : MetadataRetentionPolicy) : LogSystem where
  metadataStore := MetadataStore.openFresh retention
  inFlight := []
  written := []
  exports := []
  highestFloor := 0

/-- The LSN that the next allocation gives out. -/
def nextAllocated (s : LogSystem) : Nat :=
  (s.metadataStore.allocateGatewayWriteAheadLogLsn 0).1

/-- LSNs are unique and in order. -/
structure LogOrdered (s : LogSystem) : Prop where
  unique : s.written.Nodup
  above_written : ∀ lsn ∈ s.written, lsn < s.nextAllocated
  above_floors : s.highestFloor < s.nextAllocated
  countersBelow : CountersBelow s.counters

/-- A restore brings a `next_lsn` back that is above every LSN in use and every replay floor
so far, and an allocation does not meet the end of the counter. -/
def Guard (s : LogSystem) : LogAction → Prop
  | .allocate _ => s.counters.nextLsn < u64Max
  | .restore i =>
    ∀ bundle, s.exports[i]? = some bundle →
      (∀ lsn ∈ s.inFlight ++ s.written, lsn < max bundle.gatewayWriteAheadLogState.nextLsn 1) ∧
      s.highestFloor < max bundle.gatewayWriteAheadLogState.nextLsn 1
  | _ => True

/-- What the guarded steps keep. -/
structure Inv (s : LogSystem) : Prop where
  valid : CountersValid s.counters
  exports_valid : ∀ bundle ∈ s.exports, CountersValid bundle.gatewayWriteAheadLogState
  unique : (s.inFlight ++ s.written).Nodup
  in_use : ∀ lsn ∈ s.inFlight ++ s.written, lsn < s.counters.nextLsn
  floors : s.highestFloor < s.counters.nextLsn

namespace Inv

variable {s s' : LogSystem}

theorem nextAllocated_eq (h : s.Inv) : s.nextAllocated = s.counters.nextLsn :=
  max_eq_left h.valid.pos

theorem logOrdered (h : s.Inv) : s.LogOrdered where
  unique := (List.nodup_append.mp h.unique).2.1
  above_written lsn hlsn := by
    rw [h.nextAllocated_eq]
    exact h.in_use lsn (List.mem_append_right _ hlsn)
  above_floors := by
    rw [h.nextAllocated_eq]
    exact h.floors
  countersBelow := h.valid.toCountersBelow

/-- A new store whose counters are valid and whose next LSN is not lower. -/
theorem withStore (h : s.Inv) {store : MetadataStore}
    (hvalid : CountersValid store.gatewayWriteAheadLogStateRecord)
    (hle : s.counters.nextLsn ≤ store.gatewayWriteAheadLogStateRecord.nextLsn) :
    (s.withStore store).Inv where
  valid := hvalid
  exports_valid := h.exports_valid
  unique := h.unique
  in_use lsn hlsn := (h.in_use lsn hlsn).trans_le hle
  floors := max_lt (h.floors.trans_le hle) hvalid.floor_lt

theorem step_allocate (h : s.Inv) {now : Nat} (hguard : s.counters.nextLsn < u64Max)
    (hstep : s.step (.allocate now) = some s') : s'.Inv := by
  obtain ⟨hlsn, hnext, hvalid⟩ := @countersValid_allocate s.metadataStore now h.valid hguard
  have hs' : s' = { s.withStore (s.metadataStore.allocateGatewayWriteAheadLogLsn now).2 with
      inFlight := s.inFlight ++ [(s.metadataStore.allocateGatewayWriteAheadLogLsn now).1] } :=
    (Option.some.inj hstep).symm
  subst hs'
  have hstore := h.withStore hvalid (by rw [hnext]; exact Nat.le_succ _)
  have hcounters : ∀ lsn ∈ s.inFlight ++ s.written, lsn ≠ s.counters.nextLsn :=
    fun lsn hmem => (h.in_use lsn hmem).ne
  refine ⟨hvalid, h.exports_valid, ?_, ?_, hstore.floors⟩
  · -- the new LSN is none of those in use
    change ((s.inFlight ++ [(s.metadataStore.allocateGatewayWriteAheadLogLsn now).1]) ++
      s.written).Nodup
    rw [hlsn, List.append_assoc, List.singleton_append, List.nodup_middle, List.nodup_cons]
    exact ⟨fun hmem => hcounters _ hmem rfl, h.unique⟩
  · intro lsn hmem
    change lsn ∈ (s.inFlight ++ [(s.metadataStore.allocateGatewayWriteAheadLogLsn now).1]) ++
      s.written at hmem
    change lsn < (s.metadataStore.allocateGatewayWriteAheadLogLsn
      now).2.gatewayWriteAheadLogStateRecord.nextLsn
    rw [hnext]
    rw [hlsn, List.append_assoc, List.singleton_append, List.mem_append, List.mem_cons] at hmem
    rcases hmem with hmem | rfl | hmem
    · exact (h.in_use lsn (List.mem_append_left _ hmem)).trans (Nat.lt_succ_self _)
    · exact Nat.lt_succ_self _
    · exact (h.in_use lsn (List.mem_append_right _ hmem)).trans (Nat.lt_succ_self _)

theorem step_written (h : s.Inv) {i : Nat} (hstep : s.step (.written i) = some s') : s'.Inv := by
  obtain ⟨lsn, hget, rfl⟩ := Option.map_eq_some_iff.mp hstep
  obtain ⟨hlt, hlsn⟩ := List.getElem?_eq_some_iff.mp hget
  -- the record moves from one list to the other
  have hperm : (s.inFlight.eraseIdx i ++ (s.written ++ [lsn])).Perm (s.inFlight ++ s.written) := by
    have hmove : (lsn :: s.inFlight.eraseIdx i).Perm s.inFlight := by
      rw [← hlsn]
      exact List.getElem_cons_eraseIdx_perm hlt
    have hfront : (s.inFlight.eraseIdx i ++ (s.written ++ [lsn])).Perm
        (lsn :: (s.inFlight.eraseIdx i ++ s.written)) := by
      rw [← List.append_assoc]
      exact List.perm_append_singleton _ _
    exact hfront.trans (hmove.append_right s.written)
  refine ⟨h.valid, h.exports_valid, hperm.nodup_iff.mpr h.unique, ?_, h.floors⟩
  intro other hmem
  exact h.in_use other (hperm.mem_iff.mp hmem)

theorem step_failed (h : s.Inv) {i : Nat} (hstep : s.step (.failed i) = some s') : s'.Inv := by
  obtain rfl := Option.some.inj hstep
  have hsub : (s.inFlight.eraseIdx i ++ s.written).Sublist (s.inFlight ++ s.written) :=
    (List.eraseIdx_sublist _ _).append_right _
  exact ⟨h.valid, h.exports_valid, h.unique.sublist hsub,
    fun lsn hmem => h.in_use lsn (hsub.subset hmem), h.floors⟩

theorem step_exportBundle (h : s.Inv) {bundle : GatewayBackupMetadataPayload}
    (hstep : s.step (.exportBundle bundle) = some s') : s'.Inv := by
  simp only [step] at hstep
  split_ifs at hstep with hcounters
  obtain rfl := Option.some.inj hstep
  refine ⟨h.valid, ?_, h.unique, h.in_use, h.floors⟩
  intro other hmem
  rcases List.mem_append.mp hmem with hmem | hmem
  · exact h.exports_valid other hmem
  · rw [List.mem_singleton.mp hmem, hcounters]
    exact h.valid

theorem step_checkpoint (h : s.Inv) {i now : Nat}
    (hstep : s.step (.checkpoint i now) = some s') : s'.Inv := by
  obtain ⟨bundle, hget, rfl⟩ := Option.map_eq_some_iff.mp hstep
  have hbundle := h.exports_valid bundle (List.mem_of_getElem? hget)
  have hlsn : checkpointLsn bundle < u64Max := by
    have hpos := hbundle.pos
    have hle := hbundle.le_max
    unfold checkpointLsn
    omega
  exact h.withStore (countersValid_checkpoint h.valid hlsn)
    ((le_max_left _ _).trans (le_max_left _ _))

theorem step_startupReplay (h : s.Inv) {env : ReplayEnvironment} {engine : ReplicationEngine}
    (hstep : s.step (.startupReplay env engine) = some s') : s'.Inv := by
  simp only [step] at hstep
  split_ifs at hstep with hwritten
  obtain rfl := Option.some.inj hstep
  rcases replay_counters env s.metadataStore engine with hsame | ⟨remote, record, now, hremote,
    hrecord, hmark⟩
  · exact h.withStore (hsame ▸ h.valid) (le_of_eq (congrArg _ hsame.symm))
  · -- the mark is the LSN of a record that was written, so it is in range
    rw [hremote] at hwritten
    have hmem := of_decide_eq_true (List.all_eq_true.mp hwritten record hrecord)
    have hlt := h.in_use record.lsn (List.mem_append_right _ hmem)
    have hvalid := @countersValid_replayed s.metadataStore record.lsn now h.valid
      (hlt.trans_le h.valid.le_max)
    refine h.withStore (hmark ▸ hvalid) ?_
    rw [hmark]
    exact (le_max_left _ _).trans (le_max_left _ _)

theorem step_restore (h : s.Inv) {i : Nat} (hguard : s.Guard (.restore i))
    (hstep : s.step (.restore i) = some s') : s'.Inv := by
  obtain ⟨bundle, hget, hstep⟩ := Option.bind_eq_some_iff.mp hstep
  obtain ⟨store, hreplace, rfl⟩ := Option.map_eq_some_iff.mp hstep
  have hbundle := h.exports_valid bundle (List.mem_of_getElem? hget)
  have hwal := (MetadataStore.replaceBackupState_ok hreplace).walState_eq
  have hcounters : store.gatewayWriteAheadLogStateRecord = bundle.gatewayWriteAheadLogState := by
    unfold MetadataStore.gatewayWriteAheadLogStateRecord
    rw [hwal, Option.getD_some, max_eq_left hbundle.pos]
  obtain ⟨hinUse, hfloor⟩ := hguard bundle hget
  rw [max_eq_left hbundle.pos] at hinUse hfloor
  have hvalid : CountersValid store.gatewayWriteAheadLogStateRecord := hcounters ▸ hbundle
  refine ⟨hvalid, h.exports_valid, h.unique, ?_, max_lt ?_ hvalid.floor_lt⟩
  · intro lsn hmem
    change lsn < store.gatewayWriteAheadLogStateRecord.nextLsn
    rw [hcounters]
    exact hinUse lsn hmem
  · change s.highestFloor < store.gatewayWriteAheadLogStateRecord.nextLsn
    rw [hcounters]
    exact hfloor

end Inv

/-- Every guarded step keeps the invariant. -/
theorem inv_step (s : LogSystem) (action : LogAction) (s' : LogSystem) (h : s.Inv)
    (hguard : s.Guard action) (hstep : s.step action = some s') : s'.Inv := by
  cases action with
  | allocate now => exact h.step_allocate hguard hstep
  | written i => exact h.step_written hstep
  | failed i => exact h.step_failed hstep
  | writeTables store =>
    simp only [step] at hstep
    split_ifs at hstep with hsame
    obtain rfl := Option.some.inj hstep
    have hcounters : store.gatewayWriteAheadLogStateRecord = s.counters :=
      congrArg (fun row => row.getD {}) hsame
    have hvalid : CountersValid store.gatewayWriteAheadLogStateRecord := hcounters ▸ h.valid
    refine ⟨hvalid, h.exports_valid, h.unique, ?_, ?_⟩
    · intro lsn hmem
      change lsn < store.gatewayWriteAheadLogStateRecord.nextLsn
      rw [hcounters]
      exact h.in_use lsn hmem
    · change s.highestFloor < store.gatewayWriteAheadLogStateRecord.nextLsn
      rw [hcounters]
      exact h.floors
  | exportBundle bundle => exact h.step_exportBundle hstep
  | checkpoint i now => exact h.step_checkpoint hstep
  | startupReplay env engine => exact h.step_startupReplay hstep
  | restore i => exact h.step_restore hguard hstep

theorem inv_start (retention : MetadataRetentionPolicy) : (start retention).Inv where
  valid := countersValid_default
  exports_valid _ h := absurd h List.not_mem_nil
  unique := List.nodup_nil
  in_use _ h := absurd h List.not_mem_nil
  floors := Nat.one_pos

/-! ## Section 4: Runs -/

/-- The floor of the current state counts among the floors so far, and these only grow. -/
theorem highestFloor_step {s s' : LogSystem} {action : LogAction}
    (h : replayFloor s.counters ≤ s.highestFloor) (hstep : s.step action = some s') :
    replayFloor s'.counters ≤ s'.highestFloor ∧ s.highestFloor ≤ s'.highestFloor := by
  have hstore : ∀ store, replayFloor (s.withStore store).counters ≤ (s.withStore store).highestFloor ∧
      s.highestFloor ≤ (s.withStore store).highestFloor :=
    fun store => ⟨le_max_right _ _, le_max_left _ _⟩
  cases action with
  | allocate now =>
    obtain rfl := Option.some.inj hstep
    exact hstore _
  | written i =>
    obtain ⟨lsn, -, rfl⟩ := Option.map_eq_some_iff.mp hstep
    exact ⟨h, le_rfl⟩
  | failed i =>
    obtain rfl := Option.some.inj hstep
    exact ⟨h, le_rfl⟩
  | writeTables store =>
    simp only [step] at hstep
    split_ifs at hstep with hsame
    obtain rfl := Option.some.inj hstep
    have hcounters : store.gatewayWriteAheadLogStateRecord = s.counters :=
      congrArg (fun row => row.getD {}) hsame
    refine ⟨?_, le_rfl⟩
    change replayFloor store.gatewayWriteAheadLogStateRecord ≤ s.highestFloor
    rw [hcounters]
    exact h
  | exportBundle bundle =>
    simp only [step] at hstep
    split_ifs at hstep
    obtain rfl := Option.some.inj hstep
    exact ⟨h, le_rfl⟩
  | checkpoint i now =>
    obtain ⟨bundle, -, rfl⟩ := Option.map_eq_some_iff.mp hstep
    exact hstore _
  | startupReplay env engine =>
    simp only [step] at hstep
    split_ifs at hstep
    obtain rfl := Option.some.inj hstep
    exact hstore _
  | restore i =>
    obtain ⟨bundle, -, hstep⟩ := Option.bind_eq_some_iff.mp hstep
    obtain ⟨store, -, rfl⟩ := Option.map_eq_some_iff.mp hstep
    exact hstore _

theorem highestFloor_run {s s' : LogSystem} {actions : List LogAction}
    (h : replayFloor s.counters ≤ s.highestFloor) (hrun : run step s actions = some s') :
    replayFloor s'.counters ≤ s'.highestFloor ∧ s.highestFloor ≤ s'.highestFloor := by
  induction actions generalizing s with
  | nil =>
    obtain rfl := Option.some.inj hrun
    exact ⟨h, le_rfl⟩
  | cons action actions ih =>
    obtain ⟨next, hstep, hrest⟩ := run_cons.mp hrun
    obtain ⟨hfloor, hle⟩ := highestFloor_step h hstep
    obtain ⟨hlast, hle'⟩ := ih hfloor hrest
    exact ⟨hlast, hle.trans hle'⟩

/-- In a run whose restores bring back counters that are above everything in use, every state
is ordered, and what is allocated after a state is above the replay floor of that state. -/
theorem always_logOrdered (retention : MetadataRetentionPolicy) (actions : List LogAction)
    (hguarded : Guarded step Guard (start retention) actions) :
    Always step LogOrdered (start retention) actions ∧
      ∀ before after s s', actions = before ++ after →
        run step (start retention) before = some s → run step s after = some s' →
        replayFloor s.counters < s'.nextAllocated := by
  refine ⟨always_of_guarded inv_step (fun _ h => h.logOrdered) (inv_start retention) hguarded, ?_⟩
  intro before after s s' hactions hbefore hafter
  obtain ⟨hfloor, -⟩ := highestFloor_run (le_refl _ : replayFloor (start retention).counters ≤ _)
    hbefore
  obtain ⟨-, hle⟩ := highestFloor_run hfloor hafter
  have hrun : run step (start retention) actions = some s' := by
    rw [hactions]
    exact run_append.mpr ⟨s, hbefore, hafter⟩
  have hinv := run_preserves inv_step (inv_start retention) hguarded hrun
  exact (hfloor.trans hle).trans_lt hinv.logOrdered.above_floors

/-- A record is written, its backup is exported and restored, and the log goes on. -/
def sampleLog : List LogAction :=
  [.allocate 1, .written 0, .exportBundle ⟨[], [], [], [], ⟨2, none, none, 1⟩⟩, .checkpoint 0 2,
    .restore 0, .allocate 3, .written 0]

theorem always_logOrdered_sample :
    Always step LogOrdered (start {}) sampleLog ∧
      ∀ before after s s', sampleLog = before ++ after →
        run step (start {}) before = some s → run step s after = some s' →
        replayFloor s.counters < s'.nextAllocated := by
  apply always_logOrdered
  refine guarded_cons rfl (by decide : 1 < u64Max) ?_
  iterate 3 refine guarded_cons rfl trivial ?_
  refine guarded_cons rfl ?_ ?_
  · -- nothing was allocated since the export
    intro bundle hbundle
    obtain rfl := Option.some.inj hbundle
    decide
  refine guarded_cons rfl (by decide : 2 < u64Max) ?_
  refine guarded_cons rfl trivial ?_
  trivial

/-- A backup from before the first record is restored after it: two records of the log get
the LSN one. -/
theorem restored_lsn_twice :
    ∃ s, run step (start {}) [.exportBundle ⟨[], [], [], [], {}⟩, .allocate 1, .written 0,
      .restore 0, .allocate 2, .written 0] = some s ∧ s.written = [1, 1] ∧ ¬ s.LogOrdered := by
  refine ⟨_, rfl, rfl, ?_⟩
  intro hordered
  exact absurd hordered.unique (by decide)

end LogSystem

end Netdisk2Blob.Backup
