import Netdisk2Blob.Backup.CheckpointInvariant

/-!
# Steps of a Backup Run

Every step of a backup run keeps the invariant when the export starts in a quiet system.

## Contents

- `bundleInv_export`: what an export of a quiet system says
- `inv_read`, `inv_store`, `inv_prune`, `inv_checkpoint`
- `inv_delete`: the cleanup deletes the oldest record of a key
-/

namespace Netdisk2Blob.Backup

open Library Blob Policy Replication Metadata Gateway Gateway.Operations

namespace CheckpointSystem

section BackupSteps

variable {s : CheckpointSystem}

/-- Only the stage of the backup run changes. -/
theorem inv_backup (hinv : s.Inv) {backup : BackupRun}
    (hbuilt : ∀ bundle stored, backup = .built bundle stored → s.BundleInv bundle)
    (hbackup : ({ s with backup := backup } : CheckpointSystem).BackupInv) :
    ({ s with backup := backup } : CheckpointSystem).Inv := by
  have hlog := hinv.log
  refine ⟨hinv.counters, hinv.keys, hinv.requests, hinv.serial,
    ⟨hlog.1, hlog.2, hlog.3, hlog.4, hlog.5, hlog.6, hlog.7, hlog.8⟩, ?_, hbackup⟩
  intro bundle huse
  have hbundle : s.BundleInv bundle := by
    rcases huse with ⟨stored, hbuilding⟩ | hnewest
    · exact hbuilt bundle stored hbuilding
    · exact hinv.bundles bundle (Or.inr hnewest)
  exact ⟨hbundle.1, hbundle.2, hbundle.3, hbundle.4, hbundle.5, hbundle.6⟩

/-- The last operation of a key has the highest LSN. -/
theorem latest_of_mem {v : KeyView} (h : v.Inv) {operation : CommittedOperation}
    (hoperation : operation ∈ v.committed) :
    ∃ last ∈ v.committed, operation.lsn ≤ last.lsn ∧ v.latestFacts = last.input.facts := by
  obtain ⟨last, hlast⟩ : ∃ last, v.committed.getLast? = some last :=
    ⟨_, List.getLast?_eq_some_getLast (List.ne_nil_of_mem hoperation)⟩
  refine ⟨last, List.mem_of_getLast? hlast, ?_, ?_⟩
  · exact @Table.le_getLast _ _ _ (fun operation : CommittedOperation => operation.lsn) _
      h.ordered last hlast operation hoperation
  · simp [KeyView.latestFacts, hlast]

/-- An export of a quiet system says what the last operations left. -/
theorem bundleInv_export (hinv : s.Inv) (hquiet : s.Quiet) :
    s.BundleInv (exportMetadata s.metadataStore) := by
  have hnone : ∀ record, ¬ s.Open record := by
    rintro record (hmem | ⟨i, request, hi, hrecord⟩)
    · rw [hquiet.prepared] at hmem
      cases hmem
    · rw [hquiet.requests i request hi] at hrecord
      cases hrecord
  have hfacts : ∀ bucket key, bundleFacts (exportMetadata s.metadataStore) bucket key =
      (s.view bucket key).latestFacts := by
    intro bucket key
    refine ((hinv.keys bucket key).settled ?_).rows
    exact fun record hopen => hnone record (Or.inl (mem_prepared.mp hopen.1).1)
  refine ⟨⟨s.metadataStore, rfl⟩, hinv.counters, le_rfl, ?_, ?_, ?_⟩
  · exact fun bucket key => Or.inr (hfacts bucket key)
  · intro operation hoperation _
    obtain ⟨later, hlater, hle, hlatest⟩ :=
      latest_of_mem (hinv.keys operation.input.bucket operation.input.key)
        (mem_committed.mpr ⟨hoperation, rfl, rfl⟩)
    obtain ⟨hmem, hbucket, hkey⟩ := mem_committed.mp hlater
    exact ⟨later, hmem, ⟨hbucket, hkey⟩, hle, (hfacts _ _).trans hlatest⟩
  · exact fun record hopen => absurd hopen (hnone record)

/-- One more read of the same store. -/
theorem readExport_cases {store : MetadataStore} {phase : ExportPhase}
    (h : ReadFrom store phase) :
    (∃ next, readExport store phase = .reading next ∧ ReadFrom store next) ∨
      readExport store phase = .built (exportMetadata store) [] := by
  cases phase with
  | idle => exact Or.inl ⟨_, rfl, rfl⟩
  | placements placements => exact Or.inl ⟨_, rfl, h, rfl⟩
  | logicals placements logicals => exact Or.inl ⟨_, rfl, h.1, h.2, rfl⟩
  | plans placements logicals plans => exact Or.inl ⟨_, rfl, h.1, h.2.1, h.2.2, rfl⟩
  | jobs placements logicals plans jobs =>
    obtain ⟨rfl, rfl, rfl, rfl⟩ := h
    exact Or.inr rfl

theorem inv_read (hinv : s.Inv) (hquiet : s.Quiet) {phase : ExportPhase}
    (hread : ReadFrom s.metadataStore phase) :
    ({ s with backup := readExport s.metadataStore phase } : CheckpointSystem).Inv := by
  have hbackup := hinv.backup
  rcases readExport_cases hread with ⟨next, heq, hnext⟩ | heq
  · rw [heq]
    refine inv_backup hinv (fun _ _ h => (by cases h)) ?_
    refine ⟨?_, fun _ _ h => (by cases h), fun _ _ _ h => (by cases h), hbackup.checkpoint,
      fun _ h => (by cases h), hbackup.cleaned, hbackup.names⟩
    intro other hother
    obtain rfl := BackupRun.reading.inj hother
    exact ⟨⟨hquiet.1, hquiet.2⟩, hnext⟩
  · rw [heq]
    refine inv_backup hinv ?_ ?_
    · intro bundle stored hbuilt
      obtain ⟨rfl, -⟩ := BackupRun.built.inj hbuilt
      exact bundleInv_export hinv hquiet
    · refine ⟨fun _ h => (by cases h), ?_, ?_, hbackup.checkpoint, fun _ h => (by cases h),
        hbackup.cleaned, hbackup.names⟩
      · intro bundle stored hbuilt archive harchive
        obtain ⟨rfl, -⟩ := BackupRun.built.inj hbuilt
        exact (hinv.bundles archive.bundle (Or.inr ⟨archive, harchive, rfl⟩)).next_le
      · intro bundle place places hbuilt
        obtain ⟨-, hnil⟩ := BackupRun.built.inj hbuilt
        cases hnil

/-- The run ends, or goes on without a bundle of its own. -/
theorem inv_withoutBundle (hinv : s.Inv) {backup : BackupRun}
    (hreading : ∀ phase, backup ≠ .reading phase)
    (hbuilt : ∀ bundle stored, backup ≠ .built bundle stored)
    (hcleaning : ∀ listed, backup = .cleaning listed → ∀ name ∈ listed, s.Archived name.1) :
    ({ s with backup := backup } : CheckpointSystem).Inv := by
  have hbackup := hinv.backup
  refine inv_backup hinv (fun bundle stored h => absurd h (hbuilt bundle stored)) ?_
  exact ⟨fun phase h => absurd h (hreading phase),
    fun bundle stored h => absurd h (hbuilt bundle stored),
    fun bundle place places h => absurd h (hbuilt bundle _), hbackup.checkpoint, hcleaning,
    hbackup.cleaned, hbackup.names⟩

/-- The archives change: those that are in use are, and the newest holds no older LSN. -/
theorem inv_archives (hinv : s.Inv) {backup : BackupRun} {archives : List StoredArchive}
    (hbackup : ({ s with backup := backup, archives := archives } : CheckpointSystem).BackupInv)
    (huse : ∀ bundle,
      ({ s with backup := backup, archives := archives } : CheckpointSystem).InUse bundle →
      s.InUse bundle) :
    ({ s with backup := backup, archives := archives } : CheckpointSystem).Inv := by
  have hlog := hinv.log
  refine ⟨hinv.counters, hinv.keys, hinv.requests, hinv.serial,
    ⟨hlog.1, hlog.2, hlog.3, hlog.4, hlog.5, hlog.6, hlog.7, hlog.8⟩, ?_, hbackup⟩
  intro bundle hbundle
  have h := hinv.bundles bundle (huse bundle hbundle)
  exact ⟨h.1, h.2, h.3, h.4, h.5, h.6⟩

/-- The archive that is being stored becomes the newest. -/
theorem inv_store (hinv : s.Inv) {bundle : GatewayBackupMetadataPayload}
    {stored : List ArchiveLocation} (hbuilt : s.backup = .built bundle stored)
    {location : ArchiveLocation} {fileName : String}
    (hname : ∀ archive ∈ s.archives, archive.location = location → archive.fileName < fileName) :
    ({ s with
      backup := .built bundle (stored ++ [location])
      archives :=
        s.archives.filter (fun archive =>
          decide ¬ (archive.location = location ∧ archive.fileName = fileName)) ++
        [⟨location, fileName, bundle⟩] } : CheckpointSystem).Inv := by
  have hbackup := hinv.backup
  have hnewest : ∀ (archives : List StoredArchive) (archive : StoredArchive),
      (archives ++ [StoredArchive.mk location fileName bundle]).getLast? = some archive →
      archive = ⟨location, fileName, bundle⟩ := by
    intro archives archive h
    rw [List.getLast?_append, List.getLast?_singleton, Option.some_or] at h
    exact (Option.some.inj h).symm
  -- an LSN from before the last archive is from before this one
  have harchived : ∀ {lsn : Nat}, s.Archived lsn →
      lsn < bundle.gatewayWriteAheadLogState.nextLsn := by
    rintro lsn ⟨archive, harchive, hlt⟩
    exact hlt.trans_le (hbackup.built bundle stored hbuilt archive harchive)
  refine inv_archives hinv ?_ ?_
  · refine ⟨fun _ h => (by cases h), ?_, ?_, ?_, fun _ h => (by cases h), ?_, ?_⟩
    · intro other places hother archive harchive
      obtain ⟨rfl, -⟩ := BackupRun.built.inj hother
      rw [hnewest _ archive harchive]
    · intro other place places hother
      obtain ⟨rfl, -⟩ := BackupRun.built.inj hother
      exact ⟨⟨location, fileName, bundle⟩, List.getLast?_concat, rfl⟩
    · intro lsn hlsn
      exact ⟨_, List.getLast?_concat, harchived (hbackup.checkpoint lsn hlsn)⟩
    · intro record hrecord
      exact ⟨_, List.getLast?_concat, harchived (hbackup.cleaned record hrecord)⟩
    · intro archive harchive other hother hlocation
      rw [hnewest _ archive harchive] at hlocation ⊢
      rcases List.mem_append.mp hother with hold | hnew
      · exact (hname other (List.mem_of_mem_filter hold) hlocation).le
      · rw [List.mem_singleton.mp hnew]
  · intro other huse
    left
    rcases huse with ⟨places, hother⟩ | ⟨archive, harchive, rfl⟩
    · obtain ⟨rfl, -⟩ := BackupRun.built.inj hother
      exact ⟨stored, hbuilt⟩
    · rw [hnewest _ archive harchive]
      exact ⟨stored, hbuilt⟩

/-- What retention removes is not the greatest of the names that it has listed. -/
theorem exists_greater_of_mem_drop {listed : List String} {keepCount : Nat} {fileName : String}
    (hnodup : listed.Nodup) (hkeep : 1 ≤ keepCount)
    (hmem : fileName ∈ (newestFirst listed).drop keepCount) :
    ∃ name ∈ listed, fileName < name := by
  have hperm := List.perm_insertionSort (· ≥ ·) listed
  have hsorted : (newestFirst listed).Pairwise (· ≥ ·) := List.pairwise_insertionSort _ _
  have hdistinct : (newestFirst listed).Nodup := hperm.nodup_iff.mpr hnodup
  obtain ⟨first, rest, hlist⟩ : ∃ first rest, newestFirst listed = first :: rest := by
    cases hlist : newestFirst listed with
    | nil =>
      rw [hlist, List.drop_nil] at hmem
      cases hmem
    | cons first rest => exact ⟨first, rest, rfl⟩
  rw [hlist] at hsorted hdistinct hmem
  obtain ⟨kept, rfl⟩ := Nat.exists_eq_add_of_le' hkeep
  rw [List.drop_succ_cons] at hmem
  have hrest := List.mem_of_mem_drop hmem
  refine ⟨first, hperm.mem_iff.mp ?_, lt_of_le_of_ne ?_ ?_⟩
  · change first ∈ newestFirst listed
    rw [hlist]
    exact List.mem_cons_self
  · exact (List.pairwise_cons.mp hsorted).1 fileName hrest
  · rintro rfl
    exact (List.nodup_cons.mp hdistinct).1 hrest

/-- Retention keeps the newest archive. -/
theorem inv_prune (hinv : s.Inv) {bundle : GatewayBackupMetadataPayload}
    {stored : List ArchiveLocation} (hbuilt : s.backup = .built bundle stored)
    {location : ArchiveLocation} {listed : List String} {keepCount : Nat} {fileName : String}
    (hnodup : listed.Nodup) (hkeep : 1 ≤ keepCount)
    (hlisted : ∀ name ∈ listed, ∃ archive ∈ s.archives,
      archive.location = location ∧ archive.fileName = name)
    (hmem : fileName ∈ (newestFirst listed).drop keepCount) :
    ({ s with
      archives :=
        s.archives.filter (fun archive =>
          decide ¬ (archive.location = location ∧ archive.fileName = fileName)) }
      : CheckpointSystem).Inv := by
  have hbackup := hinv.backup
  have hkept : ∀ archive, s.archives.getLast? = some archive →
      ¬ (archive.location = location ∧ archive.fileName = fileName) := by
    rintro archive harchive ⟨rfl, rfl⟩
    obtain ⟨name, hname, hlt⟩ := exists_greater_of_mem_drop hnodup hkeep hmem
    obtain ⟨other, hother, hplace, rfl⟩ := hlisted name hname
    exact absurd (hbackup.names archive harchive other hother hplace) (not_le.mpr hlt)
  have hsame : (s.archives.filter (fun archive =>
      decide ¬ (archive.location = location ∧ archive.fileName = fileName))).getLast? =
      s.archives.getLast? := by
    cases hlast : s.archives.getLast? with
    | none =>
      rw [List.getLast?_eq_none_iff.mp hlast]
      rfl
    | some archive =>
      obtain ⟨older, hold⟩ := List.getLast?_eq_some_iff.mp hlast
      have hone : [archive].filter (fun archive =>
          decide ¬ (archive.location = location ∧ archive.fileName = fileName)) = [archive] := by
        refine List.filter_eq_self.mpr fun other hother => decide_eq_true ?_
        rw [List.mem_singleton.mp hother]
        exact hkept archive hlast
      rw [hold, List.filter_append, hone, List.getLast?_concat]
  have harchived : ∀ {lsn : Nat}, s.Archived lsn → ({ s with
      archives :=
        s.archives.filter (fun archive =>
          decide ¬ (archive.location = location ∧ archive.fileName = fileName)) }
      : CheckpointSystem).Archived lsn := by
    intro lsn h
    unfold Archived
    rw [hsame]
    exact h
  have hnew : ({ s with
      backup := s.backup
      archives :=
        s.archives.filter (fun archive =>
          decide ¬ (archive.location = location ∧ archive.fileName = fileName)) }
      : CheckpointSystem).BackupInv := by
    refine ⟨fun phase h => ?_, ?_, ?_, ?_, ?_, ?_, ?_⟩
    · rw [hbuilt] at h
      cases h
    · rw [hsame]
      exact hbackup.built
    · rw [hsame]
      exact hbackup.stored
    · exact fun lsn hlsn => harchived (hbackup.checkpoint lsn hlsn)
    · exact fun names h name hname => harchived (hbackup.cleaning names h name hname)
    · exact fun record hrecord => harchived (hbackup.cleaned record hrecord)
    · rw [hsame]
      exact fun archive h other hother => hbackup.names archive h other (List.mem_of_mem_filter hother)
  refine inv_archives hinv hnew ?_
  intro other huse
  unfold InUse at huse ⊢
  rwa [hsame] at huse

/-- A checkpoint lifts the replay floor to its LSN, and no higher. -/
theorem replayFloor_checkpoint (store : MetadataStore) (lsn now : Nat) :
    replayFloor (store.updateGatewayWriteAheadLogCheckpointLsn lsn
        now).gatewayWriteAheadLogStateRecord ≤
      max (replayFloor store.gatewayWriteAheadLogStateRecord) lsn := by
  have hreplayed : store.gatewayWriteAheadLogStateRecord.lastReplayedLsn.getD 0 ≤
      replayFloor store.gatewayWriteAheadLogStateRecord := by
    unfold replayFloor
    cases store.gatewayWriteAheadLogStateRecord.lastReplayedLsn with
    | none => exact Nat.zero_le _
    | some value => exact le_rfl
  change (((some (max (store.gatewayWriteAheadLogStateRecord.lastReplayedLsn.getD 0)
    lsn)).filter (fun value => decide (0 < value))).or (some lsn)).getD 0 ≤ _
  by_cases hpos : 0 < max (store.gatewayWriteAheadLogStateRecord.lastReplayedLsn.getD 0) lsn
  · rw [Option.filter_some, if_pos (decide_eq_true hpos), Option.some_or, Option.getD_some]
    exact max_le_max hreplayed le_rfl
  · rw [Option.filter_some, if_neg (by simpa using hpos), Option.none_or, Option.getD_some]
    exact le_max_right _ _

/-- The checkpoint moves to the LSN before those of the requests since the export. -/
theorem inv_checkpoint (hinv : s.Inv) {bundle : GatewayBackupMetadataPayload}
    {place : ArchiveLocation} {places : List ArchiveLocation}
    (hbuilt : s.backup = .built bundle (place :: places)) (now : Nat) :
    ({ s with
      backup := .checkpointed
      metadataStore :=
        s.metadataStore.updateGatewayWriteAheadLogCheckpointLsn
          (LogSystem.checkpointLsn bundle) now } : CheckpointSystem).Inv := by
  have hbundle := hinv.bundles bundle (Or.inl ⟨_, hbuilt⟩)
  have hpos := hbundle.valid.pos
  have hle := hbundle.valid.le_max
  have hlsn : LogSystem.checkpointLsn bundle < bundle.gatewayWriteAheadLogState.nextLsn := by
    unfold LogSystem.checkpointLsn
    omega
  have hnext : s.counters.nextLsn ≤ (s.metadataStore.updateGatewayWriteAheadLogCheckpointLsn
      (LogSystem.checkpointLsn bundle) now).gatewayWriteAheadLogStateRecord.nextLsn :=
    (le_max_left _ _).trans (le_max_left _ _)
  have hlog := hinv.log
  have hbackup := hinv.backup
  refine ⟨countersValid_checkpoint hinv.counters (hlsn.trans_le hle), hinv.keys, hinv.requests,
    hinv.serial, ⟨?_, hlog.unique, hlog.prepared, ?_, ?_, ?_, hlog.fresh, hlog.apart⟩, ?_, ?_⟩
  · intro record hrecord
    obtain ⟨hkeyed, hversion, hlt⟩ := hlog.records record hrecord
    exact ⟨hkeyed, hversion, hlt.trans_le hnext⟩
  · exact fun operation hoperation => (hlog.committed_lt operation hoperation).trans_le hnext
  · exact fun record hopen => (hlog.open_lt record hopen).trans_le hnext
  · -- an open record is above the old floor and not older than the export
    intro record hopen
    refine (replayFloor_checkpoint s.metadataStore _ now).trans_lt (max_lt ?_ ?_)
    · exact hlog.above_floor record hopen
    · exact hlsn.trans_le (hbundle.open_above record hopen)
  · rintro other (⟨stored, hother⟩ | hnewest)
    · cases hother
    · have h := hinv.bundles other (Or.inr hnewest)
      exact ⟨h.origin, h.valid, h.next_le.trans hnext, h.covered, h.held, h.open_above⟩
  · refine ⟨fun _ h => (by cases h), fun _ _ h => (by cases h), fun _ _ _ h => (by cases h), ?_,
      fun _ h => (by cases h), hbackup.cleaned, hbackup.names⟩
    intro lsn hcheckpoint
    obtain ⟨archive, harchive, rfl⟩ := hbackup.stored bundle place places hbuilt
    obtain rfl := Option.some.inj hcheckpoint
    exact ⟨archive, harchive, hlsn⟩

/-- The key after a record of this name is deleted from the remote. -/
def KeyView.without (v : KeyView) (name : Nat × String) : KeyView :=
  { v with records := v.records.filter (fun record => decide (recordName record ≠ name)) }

theorem requestInv_without {v : KeyView} {request : LoggedRequest} (name : Nat × String)
    (h : RequestInv v request) : RequestInv (KeyView.without v name) request := by
  have hclaimed : ∀ {record}, Claimed v request.input request.previous record →
      Claimed (KeyView.without v name) request.input request.previous record :=
    fun h => ⟨h.eq_prepared, fun other hother => h.newest other (List.mem_of_mem_filter hother),
      h.after⟩
  refine ⟨h.previous_onKey, ?_, fun hnone => ⟨(h.found hnone).rows, (h.found hnone).home⟩⟩
  have hstage := h.stage
  cases hrequest : request.stage with
  | arrived =>
    rw [hrequest] at hstage
    exact hstage
  | allocated record =>
    rw [hrequest] at hstage
    exact ⟨hstage.1, hclaimed hstage.2⟩
  | working record done =>
    rw [hrequest] at hstage
    obtain ⟨hstarted, hzero, hfacts, hput⟩ := hstage
    exact ⟨⟨hclaimed hstarted.toClaimed, hstarted.mem_prepared⟩, hzero, hfacts,
      fun hisPut => ⟨(hput hisPut).uploaded, (hput hisPut).planned⟩⟩
  | rollingBack record left marks =>
    rw [hrequest] at hstage
    obtain ⟨hstarted, honKey, hkeeps, htakes⟩ := hstage
    exact ⟨⟨hclaimed hstarted.toClaimed, hstarted.mem_prepared⟩, honKey, hkeeps,
      fun hmarks => ⟨(htakes hmarks).isPut, (htakes hmarks).rows⟩⟩

/-- The cleanup deletes a committed record that is the oldest of its key. -/
theorem inv_delete (hinv : s.Inv) {name : Nat × String} {listed : List (Nat × String)}
    (hcleaning : s.backup = .cleaning (name :: listed)) {record : GatewayWriteAheadLogRecord}
    (hmem : record ∈ s.logRecords) (hname : recordName record = name)
    (hphase : record.phase = .committed)
    (holdest : ∀ other ∈ s.logRecords, other.bucket = record.bucket → other.key = record.key →
      record.lsn ≤ other.lsn) :
    ({ s with
      backup := .cleaning listed
      logRecords := s.logRecords.filter (fun other => decide (recordName other ≠ name))
      cleaned := s.cleaned ++ [record] } : CheckpointSystem).Inv := by
  have hlog := hinv.log
  have hbackup := hinv.backup
  have hnamed : ∀ other ∈ s.logRecords, recordName other = name → other = record :=
    fun other hother h => hlog.eq_of_lsn hother hmem (congrArg Prod.fst (h.trans hname.symm))
  have hview : ∀ bucket key, ({ s with
      backup := .cleaning listed
      logRecords := s.logRecords.filter (fun other => decide (recordName other ≠ name))
      cleaned := s.cleaned ++ [record] } : CheckpointSystem).view bucket key =
      KeyView.without (s.view bucket key) name := by
    intro bucket key
    unfold view KeyView.without
    simp only [List.filter_filter, Bool.and_comm]
  obtain ⟨archive, harchive, hlt⟩ := hbackup.cleaning _ hcleaning name List.mem_cons_self
  have hlt' : record.lsn < archive.bundle.gatewayWriteAheadLogState.nextLsn := by
    rw [← hname] at hlt
    exact hlt
  refine ⟨hinv.counters, ?_, ?_, hinv.serial, ⟨?_, ?_, ?_, hlog.committed_lt, hlog.open_lt,
    hlog.above_floor, ?_, hlog.apart⟩, ?_, ?_⟩
  · intro bucket key
    rw [hview]
    have hkey := hinv.keys bucket key
    refine ⟨fun hnone => ?_, hkey.ordered⟩
    have hsettled := hkey.settled hnone
    refine ⟨hsettled.rows, hsettled.home, ?_⟩
    intro last hlast hmax
    have hold := List.mem_of_mem_filter hlast
    refine hsettled.last last hold ?_
    -- what is newest without the record was newest with it
    intro other hother
    by_cases hsame : recordName other = name
    · obtain ⟨hmemOther, hbucket, hkeyOther⟩ := mem_records.mp hother
      obtain rfl := hnamed other hmemOther hsame
      obtain ⟨hmemLast, hbucketLast, hkeyLast⟩ := mem_records.mp hold
      exact holdest last hmemLast (hbucketLast.trans hbucket.symm)
        (hkeyLast.trans hkeyOther.symm)
    · exact hmax other (List.mem_filter.mpr ⟨hother, decide_eq_true hsame⟩)
  · intro i request hi
    rw [hview]
    exact requestInv_without name (hinv.requests i request hi)
  · exact fun other hother => hlog.records other (List.mem_of_mem_filter hother)
  · exact hlog.unique.sublist (List.filter_sublist.map _)
  · intro other hother
    obtain ⟨hold, hprepare⟩ := hlog.prepared other hother
    refine ⟨List.mem_filter.mpr ⟨hold, decide_eq_true fun hsame => ?_⟩, hprepare⟩
    obtain rfl := hnamed other hold hsame
    rw [hphase] at hprepare
    cases hprepare
  · exact fun i request allocated hi hstage other hother =>
      hlog.fresh i request allocated hi hstage other (List.mem_of_mem_filter hother)
  · rintro bundle (⟨stored, hother⟩ | ⟨newest, hnewest, rfl⟩)
    · cases hother
    · obtain rfl := Option.some.inj (harchive.symm.trans hnewest)
      have h := hinv.bundles archive.bundle (Or.inr ⟨archive, harchive, rfl⟩)
      refine ⟨h.origin, h.valid, h.next_le, ?_, h.held, h.open_above⟩
      intro bucket key
      rw [hview]
      rcases h.covered bucket key with ⟨other, hother, hle⟩ | hfacts
      · -- the deleted record is from before the export
        refine Or.inl ⟨other, List.mem_filter.mpr ⟨hother, decide_eq_true fun hsame => ?_⟩, hle⟩
        obtain rfl := hnamed other (mem_records.mp hother).1 hsame
        omega
      · exact Or.inr hfacts
  · refine ⟨fun _ h => (by cases h), fun _ _ h => (by cases h), fun _ _ _ h => (by cases h),
      hbackup.checkpoint, ?_, ?_, hbackup.names⟩
    · intro names hnames other hother
      obtain rfl := BackupRun.cleaning.inj hnames
      exact hbackup.cleaning _ hcleaning other (List.mem_cons_of_mem _ hother)
    · intro other hother
      rcases List.mem_append.mp hother with hold | hnew
      · exact hbackup.cleaned other hold
      · rw [List.mem_singleton.mp hnew]
        exact ⟨archive, harchive, hlt'⟩

end BackupSteps

end CheckpointSystem

end Netdisk2Blob.Backup
