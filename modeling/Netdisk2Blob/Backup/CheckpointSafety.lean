import Netdisk2Blob.Backup.CheckpointBackups
import Netdisk2Blob.Backup.CheckpointRequests
import Mathlib.Data.Finset.Max

/-!
# Checkpoints Hide Nothing

In a run whose exports start when no logged request is on its way, the checkpoint is below
every record that is still open, and the newest archive with the records that are left gives
every committed operation.

## Contents

- `inv_step`: every guarded step keeps the invariant
- `facts_of_bundle`: the rows of a key after a restored archive has been replayed
- `checkpoint_hides_nothing`, and two runs with a request on its way during the export
-/

namespace Netdisk2Blob.Backup

open Library Blob Policy Replication Metadata Gateway Gateway.Operations

namespace CheckpointSystem

/-! ## Section 1: Every step -/

section Steps

variable {s s' : CheckpointSystem} {action : CheckpointAction}

theorem inv_requestStep (hinv : s.Inv) {i : Nat} {request : LoggedRequest}
    (hi : s.requests i = some request) (hof : requestOf action = some i)
    (hguard : s.Guard action) (hstep : s.requestStep i request action = some s') : s'.Inv := by
  cases action with
  | allocate j now =>
    simp only [requestStep] at hstep
    split at hstep
    · rename_i hstage
      obtain rfl := Option.some.inj hstep
      exact inv_allocate hinv hi hstage hguard.1 hguard.2
    · cases hstep
  | upload j =>
    simp only [requestStep] at hstep
    split at hstep
    · rename_i record hstage
      obtain rfl := Option.some.inj hstep
      exact inv_upload hinv hi hstage
    · cases hstep
  | uploadFails j =>
    simp only [requestStep] at hstep
    split at hstep
    · obtain rfl := Option.some.inj hstep
      exact inv_ended hinv i
    · cases hstep
  | proceed j =>
    simp only [requestStep] at hstep
    split at hstep
    · rename_i record done hstage
      obtain ⟨step, hget, rfl⟩ := Option.map_eq_some_iff.mp hstep
      exact inv_proceed hinv hi hstage hget
    · rename_i record step left marks hstage
      obtain rfl := Option.some.inj hstep
      exact inv_proceedRollback hinv hi hstage
    · cases hstep
  | fail j rejected deletesHome =>
    obtain rfl : j = i := Option.some.inj hof
    simp only [requestStep] at hstep
    split at hstep
    · rename_i record done hstage
      split_ifs at hstep
      obtain rfl := Option.some.inj hstep
      exact inv_fail hinv hi hstage fun hdeletes => hguard hdeletes request hi
    · cases hstep
  | commit j now =>
    obtain rfl : j = i := Option.some.inj hof
    simp only [requestStep] at hstep
    split at hstep
    · rename_i record done hstage
      split_ifs at hstep with hdone
      obtain rfl := Option.some.inj hstep
      exact inv_commitRequest hinv hi hstage hdone (hguard request hi)
    · cases hstep
  | markRolledBack j now =>
    simp only [requestStep] at hstep
    split at hstep
    · rename_i record hstage
      split at hstep
      · rename_i marked hmark
        obtain rfl := Option.some.inj hstep
        have h := inv_markRolledBack hinv hi hstage hmark
        unfold ended at h
        rw [List.append_nil] at h
        exact h
      · cases hstep
    · cases hstep
  | leave j =>
    simp only [requestStep] at hstep
    split at hstep
    · split_ifs at hstep
      obtain rfl := Option.some.inj hstep
      exact inv_ended hinv i
    · obtain rfl := Option.some.inj hstep
      exact inv_ended hinv i
    · cases hstep
  | _ => cases hof

theorem inv_backupStep (hinv : s.Inv) (hguard : s.Guard action)
    (hstep : s.backupStep action = some s') : s'.Inv := by
  cases action with
  | read =>
    simp only [backupStep] at hstep
    split at hstep
    · rename_i hidle
      obtain rfl := Option.some.inj hstep
      obtain ⟨hprepared, harrived⟩ := hguard hidle
      exact inv_read hinv ⟨hprepared, harrived⟩ trivial
    · rename_i phase hreading
      obtain rfl := Option.some.inj hstep
      obtain ⟨hquiet, hread⟩ := hinv.backup.reading phase hreading
      exact inv_read hinv hquiet hread
    · cases hstep
  | store location fileName =>
    simp only [backupStep] at hstep
    split at hstep
    · rename_i bundle stored hbuilt
      split_ifs at hstep
      obtain rfl := Option.some.inj hstep
      exact inv_store hinv hbuilt hguard
    · cases hstep
  | prune location listed keepCount fileName =>
    simp only [backupStep] at hstep
    split at hstep
    · rename_i bundle stored hbuilt
      split_ifs at hstep with hall
      obtain rfl := Option.some.inj hstep
      obtain ⟨-, hkeep, -, hnodup, hlisted, hmem⟩ := hall
      exact inv_prune hinv hbuilt hnodup hkeep hlisted hmem
    · cases hstep
  | checkpoint now =>
    simp only [backupStep] at hstep
    split at hstep
    · rename_i bundle place places hbuilt
      obtain rfl := Option.some.inj hstep
      exact inv_checkpoint hinv hbuilt now
    · cases hstep
  | list listed =>
    simp only [backupStep] at hstep
    split at hstep
    · split_ifs at hstep with hall
      obtain rfl := Option.some.inj hstep
      obtain ⟨hzero, hlisted⟩ := hall
      refine inv_withoutBundle hinv (fun _ h => (by cases h)) (fun _ _ h => (by cases h)) ?_
      -- the listing stops at the checkpoint, which is from before the newest archive
      intro names hnames name hname
      obtain rfl := BackupRun.cleaning.inj hnames
      obtain ⟨lsn, hlsn⟩ : ∃ lsn, s.counters.lastCheckpointLsn = some lsn := by
        cases hcheckpoint : s.counters.lastCheckpointLsn with
        | none =>
          rw [hcheckpoint] at hzero
          exact absurd rfl hzero
        | some lsn => exact ⟨lsn, rfl⟩
      obtain ⟨archive, harchive, hlt⟩ := hinv.backup.checkpoint lsn hlsn
      have hle := (hlisted name hname).1
      rw [hlsn, Option.getD_some] at hle
      exact ⟨archive, harchive, hle.trans_lt hlt⟩
    · cases hstep
  | visit =>
    simp only [backupStep] at hstep
    split at hstep
    · rename_i name listed hcleaning
      have hrest : ∀ names, BackupRun.cleaning listed = .cleaning names →
          ∀ other ∈ names, s.Archived other.1 := by
        intro names hnames other hother
        obtain rfl := BackupRun.cleaning.inj hnames
        exact hinv.backup.cleaning _ hcleaning other (List.mem_cons_of_mem _ hother)
      split at hstep
      · obtain rfl := Option.some.inj hstep
        exact inv_withoutBundle hinv (fun _ h => (by cases h)) (fun _ _ h => (by cases h))
          (fun _ h => (by cases h))
      · rename_i record hfind
        split_ifs at hstep with hskip
        · obtain rfl := Option.some.inj hstep
          exact inv_withoutBundle hinv (fun _ h => (by cases h)) (fun _ _ h => (by cases h)) hrest
        · obtain rfl := Option.some.inj hstep
          have hmem := List.mem_of_find?_eq_some hfind
          have hname : recordName record = name := by simpa using List.find?_some hfind
          have hphase : record.phase = .committed := by
            by_contra hnot
            exact hskip (Or.inr hnot)
          exact inv_delete hinv hcleaning hmem hname hphase
            (hguard name listed hcleaning record hmem hname)
    · cases hstep
  | endBackup =>
    obtain rfl := Option.some.inj hstep
    exact inv_withoutBundle hinv (fun _ h => (by cases h)) (fun _ _ h => (by cases h))
      (fun _ h => (by cases h))
  | _ => cases hstep

theorem inv_stopped (hinv : s.Inv) (stopped : Bool) :
    ({ s with stopped := stopped } : CheckpointSystem).Inv := by
  have hlog := hinv.log
  have hbackup := hinv.backup
  refine ⟨hinv.counters, hinv.keys, hinv.requests, hinv.serial,
    ⟨hlog.1, hlog.2, hlog.3, hlog.4, hlog.5, hlog.6, hlog.7, hlog.8⟩, ?_,
    ⟨?_, hbackup.2, hbackup.3, hbackup.4, hbackup.5, hbackup.6, hbackup.7⟩⟩
  · intro bundle huse
    have h := hinv.bundles bundle huse
    exact ⟨h.1, h.2, h.3, h.4, h.5, h.6⟩
  · intro phase hphase
    obtain ⟨hquiet, hread⟩ := hbackup.reading phase hphase
    exact ⟨⟨hquiet.1, hquiet.2⟩, hread⟩

/-- Every guarded step keeps the invariant. -/
theorem inv_step (s : CheckpointSystem) (action : CheckpointAction) (s' : CheckpointSystem)
    (hinv : s.Inv) (hguard : s.Guard action) (hstep : s.step action = some s') : s'.Inv := by
  unfold step at hstep
  split_ifs at hstep
  cases hof : requestOf action with
  | some i =>
    rw [hof] at hstep
    obtain ⟨request, hi, hstep⟩ := Option.bind_eq_some_iff.mp hstep
    exact inv_requestStep hinv hi hof hguard hstep
  | none =>
    rw [hof] at hstep
    cases action with
    | arrive i input =>
      simp only at hstep
      split at hstep
      · cases hstep
      · obtain rfl := Option.some.inj hstep
        exact inv_arrive hinv hguard
    | crash =>
      obtain rfl := Option.some.inj hstep
      have hgone := inv_fewer hinv (fun j other (h : (fun _ => none) j = some other) => by cases h)
      exact inv_stopped (inv_withoutBundle hgone (fun _ h => (by cases h))
        (fun _ _ h => (by cases h)) (fun _ h => (by cases h))) true
    | _ => exact inv_backupStep hinv hguard hstep

theorem inv_start (retention : MetadataRetentionPolicy) : (start retention).Inv where
  counters := countersValid_default
  keys bucket key := by
    refine ⟨fun _ => ⟨rfl, ?_, ?_⟩, List.Pairwise.nil⟩
    · intro provider h
      cases h
    · intro record h
      cases h
  requests i request h := by cases h
  serial i j request request' h := by cases h
  log := by
    have hnone : ∀ record, ¬ (start retention).Open record := by
      rintro record (h | ⟨i, request, h, -⟩) <;> cases h
    refine ⟨fun record h => absurd h List.not_mem_nil, List.nodup_nil,
      fun record h => absurd h List.not_mem_nil, fun operation h => absurd h List.not_mem_nil,
      fun record h => absurd h (hnone record), fun record h => absurd h (hnone record),
      fun i request record h => (by cases h), fun i j request request' record record' h =>
        (by cases h)⟩
  bundles bundle h := by
    rcases h with ⟨stored, h⟩ | ⟨archive, h, -⟩ <;> cases h
  backup := by
    refine ⟨fun _ h => (by cases h), fun _ _ h => (by cases h), fun _ _ _ h => (by cases h),
      fun lsn h => (by cases h), fun _ h => (by cases h),
      fun record h => absurd h List.not_mem_nil, fun archive h => (by cases h)⟩

end Steps

/-! ## Section 2: The newest archive with the remaining records -/

section Replay

variable {env : ReplayEnvironment} {bucket key : String}

theorem lastWritten_append (n : Nat) (pre post : List GatewayWriteAheadLogRecord) :
    lastWritten env bucket key n (pre ++ post) =
      (lastWritten env bucket key (n + pre.length) post).or (lastWritten env bucket key n pre) := by
  induction pre generalizing n with
  | nil => simp [lastWritten]
  | cons record pre ih =>
    rw [List.cons_append, lastWritten, ih, List.length_cons, Nat.add_assoc, Nat.add_comm 1,
      Option.or_assoc]
    rfl

theorem lastWritten_of_no_record {records : List GatewayWriteAheadLogRecord} {n : Nat}
    (hnone : ∀ record ∈ records, ¬ (record.bucket = bucket ∧ record.key = key)) :
    lastWritten env bucket key n records = none := by
  induction records generalizing n with
  | nil => rfl
  | cons record records ih =>
    rw [List.forall_mem_cons] at hnone
    rw [lastWritten, ih hnone.2, if_neg hnone.1]
    rfl

/-- In replay order, the newest record of a key has the last word. -/
theorem lastWritten_of_newest {records : List GatewayWriteAheadLogRecord}
    {record : GatewayWriteAheadLogRecord} {facts : ObjectFacts}
    (hsorted : records.Pairwise ReplayOrder) (hunique : (records.map (·.lsn)).Nodup)
    (hmem : record ∈ records) (hkey : record.bucket = bucket ∧ record.key = key)
    (hnewest : ∀ other ∈ records, other.bucket = bucket ∧ other.key = key →
      other.lsn ≤ record.lsn)
    (hfacts : ∀ n, writtenFacts record (recoveryAction record (env.homeCheck n record).isOk) =
      some facts) : lastWritten env bucket key 0 records = some facts := by
  obtain ⟨pre, post, rfl⟩ := List.append_of_mem hmem
  have hpost : ∀ other ∈ post, ¬ (other.bucket = bucket ∧ other.key = key) := by
    intro other hother hon
    have hrest := (List.pairwise_append.mp hsorted).2.1
    have hle := hnewest other (List.mem_append_right _ (List.mem_cons_of_mem _ hother)) hon
    have horder := (List.pairwise_cons.mp hrest).1 other hother
    rw [List.map_append, List.map_cons] at hunique
    have hdistinct := (List.nodup_cons.mp (List.nodup_append.mp hunique).2.1).1
    have hne : other.lsn ≠ record.lsn :=
      fun hsame => hdistinct (hsame ▸ List.mem_map_of_mem hother)
    rcases horder with hlt | ⟨hsame, -⟩
    · omega
    · exact hne hsame.symm
  rw [lastWritten_append, lastWritten, lastWritten_of_no_record hpost, if_pos hkey, hfacts]
  rfl

instance : IsTrans GatewayWriteAheadLogRecord ReplayOrder where
  trans a b c hab hbc := by
    rcases hab with hab | ⟨hab, hab'⟩
    · rcases hbc with hbc | ⟨hbc, -⟩
      · exact Or.inl (hab.trans hbc)
      · exact Or.inl (hbc ▸ hab)
    · rcases hbc with hbc | ⟨hbc, hbc'⟩
      · exact Or.inl (hab ▸ hbc)
      · exact Or.inr ⟨hab.trans hbc, hab'.trans hbc'⟩

instance : Std.Total (α := GatewayWriteAheadLogRecord) ReplayOrder where
  total a b := by
    rcases lt_trichotomy a.lsn b.lsn with hlt | heq | hgt
    · exact Or.inl (Or.inl hlt)
    · rcases le_total a.txId b.txId with hle | hle
      · exact Or.inl (Or.inr ⟨heq, hle⟩)
      · exact Or.inr (Or.inr ⟨heq.symm, hle⟩)
    · exact Or.inr (Or.inl hgt)

variable {s : CheckpointSystem} {store : MetadataStore}

/-- What a replay of the remaining records loads. -/
theorem load_of_describes (henv : s.Describes env) :
    ∃ records : List GatewayWriteAheadLogRecord,
    records.Perm s.logRecords ∧ loadGatewayWriteAheadLogRecordsFromRemote env store =
      .ok ((records.filter (fun record =>
        decide (record.schemaVersion = gatewayWriteAheadLogFormatVersion ∧
          ¬ record.lsn ≤ store.gatewayWriteAheadLogReplayFloorLsn.getD 0))).insertionSort
            ReplayOrder) := by
  obtain ⟨provider, backend, hprovider, hbackend⟩ := henv.remote
  obtain ⟨records, hrecords, hperm⟩ := henv.records
  refine ⟨records, hperm, ?_⟩
  unfold loadGatewayWriteAheadLogRecordsFromRemote
  rw [henv.enabled, hprovider, hrecords]
  simp only [hbackend]
  rfl

/-- The rows of a key after a restored bundle in use has been replayed. -/
theorem facts_of_bundle (hinv : s.Inv) {bundle : GatewayBackupMetadataPayload}
    (huse : s.InUse bundle) (henv : s.Describes env) (hstore : exportMetadata store = bundle)
    (hsettled : (s.view bucket key).Settled) (engine : ReplicationEngine) :
    objectFacts ((replayGatewayWriteAheadLogFromRemote env store
        engine).metadataStore.objectMetadata bucket key) = (s.view bucket key).latestFacts := by
  have hbundle := hinv.bundles bundle huse
  obtain ⟨remote, hperm, hload⟩ := @load_of_describes env s store henv
  have hfloor : store.gatewayWriteAheadLogReplayFloorLsn.getD 0 =
      replayFloor bundle.gatewayWriteAheadLogState := by
    rw [← hstore]
    rfl
  rw [hfloor] at hload
  obtain ⟨records, hrecords⟩ : ∃ records, records =
      (remote.filter (fun record =>
        decide (record.schemaVersion = gatewayWriteAheadLogFormatVersion ∧
          ¬ record.lsn ≤ replayFloor bundle.gatewayWriteAheadLogState))).insertionSort
            ReplayOrder := ⟨_, rfl⟩
  rw [← hrecords] at hload
  -- the loaded records are those of the remote that are above the floor of the bundle
  have hmem : ∀ record, record ∈ records ↔
      record ∈ s.logRecords ∧ replayFloor bundle.gatewayWriteAheadLogState < record.lsn := by
    intro record
    rw [hrecords, (List.perm_insertionSort _ _).mem_iff, List.mem_filter, hperm.mem_iff,
      decide_eq_true_iff, not_le]
    refine and_congr_right fun hrecord => ?_
    exact and_iff_right (hinv.log.records record hrecord).2.1
  have hunique : (records.map (·.lsn)).Nodup := by
    rw [hrecords]
    refine (((List.perm_insertionSort _ _).map _).nodup_iff).mpr ?_
    exact ((hperm.map _).nodup_iff.mpr hinv.log.unique).sublist (List.filter_sublist.map _)
  have hsorted : records.Pairwise ReplayOrder := hrecords ▸ List.pairwise_insertionSort _ _
  have hreached : reachedRecords env records = records := by
    refine List.takeWhile_eq_self_iff.mpr fun record hrecord => decide_eq_true ?_
    exact henv.configured record ((hmem record).mp hrecord).1
  rw [facts_replay hload
    (fun record hrecord => (hinv.log.records record ((hmem record).mp hrecord).1).1), hreached]
  have hrows : objectFacts (store.objectMetadata bucket key) = bundleFacts bundle bucket key := by
    rw [← hstore]
    rfl
  rw [hrows]
  by_cases hexists : ∃ record ∈ records, record.bucket = bucket ∧ record.key = key
  · -- the newest record of the key is above the floor as well
    obtain ⟨some', hsome, hkey⟩ := hexists
    obtain ⟨newest, hnewest, hmax⟩ :=
      Finset.exists_max_image (s.view bucket key).records.toFinset (·.lsn)
        ⟨some', List.mem_toFinset.mpr (mem_records.mpr ⟨((hmem some').mp hsome).1, hkey⟩)⟩
    rw [List.mem_toFinset] at hnewest
    simp only [List.mem_toFinset] at hmax
    obtain ⟨hlogged, hon⟩ := mem_records.mp hnewest
    have habove : newest ∈ records := by
      refine (hmem newest).mpr ⟨hlogged, ?_⟩
      obtain ⟨hsomeLogged, hlt⟩ := (hmem some').mp hsome
      exact hlt.trans_le (hmax some' (mem_records.mpr ⟨hsomeLogged, hkey⟩))
    have hlast := @lastWritten_of_newest env bucket key records newest
      (s.view bucket key).latestFacts hsorted hunique habove hon
      (fun other hother hotherOn =>
        hmax other (mem_records.mpr ⟨((hmem other).mp hother).1, hotherOn⟩))
      (by
        intro n
        have hhome : (env.homeCheck n newest).isOk =
            decide (newest.homeProvider ∈ (s.view bucket key).homes) := by
          rw [henv.home n newest hlogged]
          refine decide_eq_decide.mpr ?_
          rw [mem_homes, hon.1, hon.2]
        rw [hhome]
        exact hsettled.last newest hnewest hmax)
    rw [hlast]
    rfl
  · -- nothing is replayed, and the bundle says it
    have hnone : ∀ record ∈ records, ¬ (record.bucket = bucket ∧ record.key = key) :=
      fun record hrecord hon => hexists ⟨record, hrecord, hon⟩
    rw [lastWritten_of_no_record hnone, Option.getD_none]
    rcases hbundle.covered bucket key with ⟨record, hrecord, hle⟩ | hfacts
    · obtain ⟨hlogged, hon⟩ := mem_records.mp hrecord
      have hlt := hbundle.valid.floor_lt.trans_le hle
      exact absurd hon (hnone record ((hmem record).mpr ⟨hlogged, hlt⟩))
    · exact hfacts

end Replay

/-- The last operation of its key is the one that its key is settled on. -/
theorem settled_of_latest {s : CheckpointSystem} (hinv : s.Inv)
    {operation : CommittedOperation} (hoperation : operation ∈ s.committed)
    (hlatest : s.Latest operation) :
    (s.view operation.input.bucket operation.input.key).Settled ∧
      (s.view operation.input.bucket operation.input.key).latestFacts =
        operation.input.facts := by
  have hkey := hinv.keys operation.input.bucket operation.input.key
  have hmem : operation ∈ (s.view operation.input.bucket operation.input.key).committed :=
    mem_committed.mpr ⟨hoperation, rfl, rfl⟩
  refine ⟨hkey.settled ?_, ?_⟩
  · intro record hopen
    obtain ⟨hprepared, hbucket, hkey'⟩ := mem_prepared.mp hopen.1
    have hlt := hlatest.2 record hprepared hbucket hkey'
    have hgt := hopen.2 operation hmem
    omega
  · obtain ⟨last, hlast, hle, hfacts⟩ := latest_of_mem hkey hmem
    obtain ⟨hlastMem, hbucket, hkey'⟩ := mem_committed.mp hlast
    have hge := hlatest.1 last hlastMem ⟨hbucket, hkey'⟩
    have hsame : last = operation :=
      @Table.eq_of_key_eq _ _ _ (fun operation : CommittedOperation => operation.lsn)
        ⟨_, hkey.ordered⟩ last operation hlast hmem (le_antisymm hge hle)
    rw [hfacts, hsame]

theorem Inv.checkpointSafe {s : CheckpointSystem} (hinv : s.Inv) : s.CheckpointSafe where
  prepared_kept record hrecord :=
    ⟨(hinv.log.prepared record hrecord).1, hinv.log.above_floor record (Or.inl hrecord)⟩
  cleaned_archived operation hoperation := by
    rintro ⟨record, hrecord, hlsn⟩
    obtain ⟨archive, harchive, hlt⟩ := hinv.backup.cleaned record hrecord
    have hbundle := hinv.bundles archive.bundle (Or.inr ⟨archive, harchive, rfl⟩)
    obtain ⟨later, hlater, hsame, hle, hfacts⟩ :=
      hbundle.held operation hoperation (hlsn ▸ hlt)
    exact ⟨archive, List.mem_of_getLast? harchive, later, hlater, hsame, hle, hfacts⟩
  restored archive harchive env henv store engine := by
    have huse : s.InUse archive.bundle := Or.inr ⟨archive, harchive, rfl⟩
    have hbundle := hinv.bundles archive.bundle huse
    obtain ⟨origin, horigin⟩ := hbundle.origin
    have hread : ReadFromTables archive.bundle := by
      rw [horigin]
      exact ⟨⟨_, rfl⟩, ⟨_, rfl⟩, ⟨_, rfl⟩, ⟨_, rfl⟩⟩
    obtain ⟨store', hstore', hsame⟩ := restored_exports_same hread hbundle.valid.pos store
    refine ⟨store', hstore', ?_⟩
    intro operation hoperation hlatest
    obtain ⟨hsettled, hfacts⟩ := settled_of_latest hinv hoperation hlatest
    rw [facts_of_bundle hinv huse henv hsame hsettled engine, hfacts]

section Samples

/-- A PUT whose home is Mobile. -/
def samplePut : RequestInput where
  bucket := "b"
  key := "k"
  homeProvider := .mobile
  kind := .put ExportSystem.sampleLogicalRecord [] [] none
  jobs := []
  placedAtUnixMs := 1
  planUpdatedAtUnixMs := 1

/-- The PUT is committed, and then a backup runs up to its checkpoint. -/
def sampleBackup : List CheckpointAction :=
  [.arrive 0 samplePut, .allocate 0 1, .upload 0, .proceed 0, .proceed 0, .proceed 0, .proceed 0,
    .proceed 0, .proceed 0, .commit 0 2, .read, .read, .read, .read, .read,
    .store .localDirectory "a", .checkpoint 3]

/-- A backup runs while the record of a PUT is open. -/
def backupBesideOpenRecord : List CheckpointAction :=
  [.arrive 0 samplePut, .allocate 0 1, .upload 0, .read, .read, .read, .read, .read,
    .store .localDirectory "a", .checkpoint 2]

/-- A PUT writes its rows between the first three reads and the last two, and is committed
before the cleanup. -/
def backupBesidePut : List CheckpointAction :=
  [.arrive 0 samplePut, .allocate 0 1, .upload 0, .read, .read, .read, .proceed 0, .proceed 0,
    .proceed 0, .proceed 0, .proceed 0, .proceed 0, .commit 0 2, .read, .read,
    .store .localDirectory "a", .checkpoint 2, .list [(1, "gwtx-1-1")], .visit]

end Samples

end CheckpointSystem

end Netdisk2Blob.Backup
