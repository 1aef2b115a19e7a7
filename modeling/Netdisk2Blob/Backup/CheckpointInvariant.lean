import Netdisk2Blob.Backup.CheckpointKeys

/-!
# The Invariant of Checkpoints

The invariant says key by key what a request and the log know (`KeyView.Inv`), and bundle by
bundle what an archive says: it either has the rows of the last committed operation on a key,
or a record of the key from after the export is on the remote (`BundleInv`).

## Contents

- `CheckpointSystem.view`: the part of the system that is about one key
- `CheckpointSystem.Inv` and its parts
- `LogUntouched`: steps after which log and archives are the same
-/

namespace Netdisk2Blob.Backup

open Library Blob Policy Replication Metadata Gateway Gateway.Operations

/-! ## Section 1: The view of a key -/

def ofKey (bucket key : String) (record : GatewayWriteAheadLogRecord) : Bool :=
  decide (record.bucket = bucket ∧ record.key = key)

namespace CheckpointSystem

variable {s : CheckpointSystem}

/-- The part of the system that is about one key. -/
def view (s : CheckpointSystem) (bucket key : String) : KeyView where
  rows := s.metadataStore.objectMetadata bucket key
  homes := s.homeObjects.filterMap (fun object =>
    if object.2 = (bucket, key) then some object.1 else none)
  records := s.logRecords.filter (ofKey bucket key)
  prepared := s.prepared.filter (ofKey bucket key)
  committed := s.committed.filter (fun operation =>
    decide (operation.input.bucket = bucket ∧ operation.input.key = key))

theorem mem_homes {bucket key : String} {provider : ProviderId} :
    provider ∈ (s.view bucket key).homes ↔ (provider, bucket, key) ∈ s.homeObjects := by
  simp only [view, List.mem_filterMap]
  constructor
  · rintro ⟨object, hmem, hobject⟩
    split_ifs at hobject with hkey
    obtain rfl := Option.some.inj hobject
    rw [← hkey]
    exact hmem
  · intro hmem
    exact ⟨(provider, bucket, key), hmem, if_pos rfl⟩

theorem mem_records {bucket key : String} {record : GatewayWriteAheadLogRecord} :
    record ∈ (s.view bucket key).records ↔
      record ∈ s.logRecords ∧ record.bucket = bucket ∧ record.key = key := by
  simp [view, ofKey]

theorem mem_prepared {bucket key : String} {record : GatewayWriteAheadLogRecord} :
    record ∈ (s.view bucket key).prepared ↔
      record ∈ s.prepared ∧ record.bucket = bucket ∧ record.key = key := by
  simp [view, ofKey]

theorem mem_committed {bucket key : String} {operation : CommittedOperation} :
    operation ∈ (s.view bucket key).committed ↔ operation ∈ s.committed ∧
      operation.input.bucket = bucket ∧ operation.input.key = key := by
  simp [view]

@[simp] theorem view_setRequest (i : Nat) (request : Option LoggedRequest) (bucket key : String) :
    (s.setRequest i request).view bucket key = s.view bucket key := rfl

variable {input : RequestInput}

/-- A step of a request, on its own key. -/
theorem view_performStep {step : RequestStep} (h : step.OnKey input.bucket input.key) :
    (s.performStep input step).view input.bucket input.key =
      (s.view input.bucket input.key).after input.homeProvider step := by
  cases step with
  | update change =>
    unfold view KeyView.after performStep
    simp only [objectMetadata_update_onKey h, RequestStep.homes]
  | putHome =>
    unfold view KeyView.after performStep
    simp [RequestStep.homes, RequestStep.rows]
  | deleteHome =>
    unfold view KeyView.after performStep
    simp only [RequestStep.homes, RequestStep.rows, KeyView.mk.injEq, true_and, and_true]
    -- on this key the object is told by its provider
    induction s.homeObjects with
    | nil => rfl
    | cons object objects ih =>
      obtain ⟨provider, place⟩ := object
      by_cases hkey : place = (input.bucket, input.key)
      · subst hkey
        by_cases hprovider : provider = input.homeProvider
        · subst hprovider
          simpa using ih
        · simpa [hprovider] using ih
      · have hne : (provider, place) ≠ (input.homeProvider, input.bucket, input.key) :=
          fun h => hkey (congrArg Prod.snd h)
        simpa [hkey, hne] using ih

theorem view_performStep_ne {step : RequestStep} (h : step.OnKey input.bucket input.key)
    {bucket key : String} (hne : ¬ (input.bucket = bucket ∧ input.key = key)) :
    (s.performStep input step).view bucket key = s.view bucket key := by
  have hobject : ¬ (input.bucket, input.key) = (bucket, key) :=
    fun heq => hne (Prod.mk.inj heq)
  cases step with
  | update change =>
    unfold view performStep
    simp only [objectMetadata_update_ne h hne]
  | putHome =>
    unfold view performStep
    simp only [List.filterMap_cons, if_neg hobject]
  | deleteHome =>
    unfold view performStep
    simp only [KeyView.mk.injEq, true_and, and_true]
    induction s.homeObjects with
    | nil => rfl
    | cons object objects ih =>
      by_cases hmine : object = (input.homeProvider, input.bucket, input.key)
      · subst hmine
        simpa [hobject] using ih
      · rw [List.filter_cons_of_pos (by simpa using hmine), List.filterMap_cons,
          List.filterMap_cons, ih]

variable {i : Nat} {old new : GatewayWriteAheadLogRecord} {bucket key : String}

theorem view_mark (hkey : new.bucket = bucket ∧ new.key = key) :
    (s.mark i old new).view bucket key = (s.view bucket key).marked old new := by
  have hnew : ofKey bucket key new = true := decide_eq_true hkey
  unfold view KeyView.marked mark putLogRecord setRequest
  simp only [List.filter_append, List.filter_filter, List.filter_cons_of_pos hnew,
    List.filter_nil, Bool.and_comm]

/-- A mark leaves the keys alone that have no record of this name. -/
theorem view_mark_ne (hname : recordName new = recordName old)
    (hnew : ¬ (new.bucket = bucket ∧ new.key = key))
    (hlog : ∀ record ∈ s.logRecords, recordName record = recordName old →
      ¬ (record.bucket = bucket ∧ record.key = key))
    (hprepared : ∀ record ∈ s.prepared, recordName record = recordName old →
      ¬ (record.bucket = bucket ∧ record.key = key)) :
    (s.mark i old new).view bucket key = s.view bucket key := by
  have hkept : ∀ records : List GatewayWriteAheadLogRecord,
      (∀ record ∈ records, recordName record = recordName old →
        ¬ (record.bucket = bucket ∧ record.key = key)) →
      (records.filter (fun other => decide (recordName other ≠ recordName old))).filter
        (ofKey bucket key) = records.filter (ofKey bucket key) := by
    intro records hrecords
    rw [List.filter_filter]
    apply List.filter_congr
    intro record hrecord
    by_cases hof : ofKey bucket key record = true
    · have hne : recordName record ≠ recordName old :=
        fun heq => hrecords record hrecord heq (of_decide_eq_true hof)
      simp [hof, hne]
    · simp [hof]
  have hnot : ¬ ofKey bucket key new = true := fun h => hnew (of_decide_eq_true h)
  unfold view mark putLogRecord setRequest
  simp only [List.filter_append, hname, hkept _ hlog, hkept _ hprepared,
    List.filter_cons_of_neg hnot, List.filter_nil, List.append_nil]

/-! ## Section 2: The invariant -/

/-- The record is that of a request on its way, or it was left open. -/
def Open (s : CheckpointSystem) (record : GatewayWriteAheadLogRecord) : Prop :=
  record ∈ s.prepared ∨
    ∃ i request, s.requests i = some request ∧ request.stage.record? = some record

structure LogInv (s : CheckpointSystem) : Prop where
  records : ∀ record ∈ s.logRecords, KeyedRecord record ∧
    record.schemaVersion = gatewayWriteAheadLogFormatVersion ∧
    record.lsn < s.counters.nextLsn
  unique : (s.logRecords.map (·.lsn)).Nodup
  prepared : ∀ record ∈ s.prepared, record ∈ s.logRecords ∧ record.phase = .prepare
  committed_lt : ∀ operation ∈ s.committed, operation.lsn < s.counters.nextLsn
  open_lt : ∀ record, s.Open record → record.lsn < s.counters.nextLsn
  above_floor : ∀ record, s.Open record → replayFloor s.counters < record.lsn
  /-- a record on its way to the remote has an LSN of its own -/
  fresh : ∀ i request record, s.requests i = some request →
    request.stage = .allocated record → ∀ other ∈ s.logRecords, other.lsn ≠ record.lsn
  apart : ∀ i j request request' record record', s.requests i = some request →
    s.requests j = some request' → request.stage = .allocated record →
    request'.stage = .allocated record' → record.lsn = record'.lsn → i = j

/-- What a bundle says about a key is what the last committed operation left, unless a record
of the key from after the export is on the remote. -/
structure BundleInv (s : CheckpointSystem) (bundle : GatewayBackupMetadataPayload) : Prop where
  origin : ∃ store, bundle = exportMetadata store
  valid : CountersValid bundle.gatewayWriteAheadLogState
  next_le : bundle.gatewayWriteAheadLogState.nextLsn ≤ s.counters.nextLsn
  covered : ∀ bucket key,
    (∃ record ∈ (s.view bucket key).records,
      bundle.gatewayWriteAheadLogState.nextLsn ≤ record.lsn) ∨
    bundleFacts bundle bucket key = (s.view bucket key).latestFacts
  held : ∀ operation ∈ s.committed,
    operation.lsn < bundle.gatewayWriteAheadLogState.nextLsn →
    ∃ later ∈ s.committed, SameKey later.input operation.input ∧ operation.lsn ≤ later.lsn ∧
      bundleFacts bundle operation.input.bucket operation.input.key = later.input.facts
  open_above : ∀ record, s.Open record →
    bundle.gatewayWriteAheadLogState.nextLsn ≤ record.lsn

/-- The bundle that is being stored, and that of the newest archive. -/
def InUse (s : CheckpointSystem) (bundle : GatewayBackupMetadataPayload) : Prop :=
  (∃ stored, s.backup = .built bundle stored) ∨
    ∃ archive, s.archives.getLast? = some archive ∧ archive.bundle = bundle

/-- The LSN was given out before the newest archive was exported. -/
def Archived (s : CheckpointSystem) (lsn : Nat) : Prop :=
  ∃ archive, s.archives.getLast? = some archive ∧
    lsn < archive.bundle.gatewayWriteAheadLogState.nextLsn

/-- No logged request is on its way, and no record was left open. -/
structure Quiet (s : CheckpointSystem) : Prop where
  prepared : s.prepared = []
  requests : ∀ i request, s.requests i = some request → request.stage = .arrived

/-- What an export has read so far is what the store holds. -/
def ReadFrom (store : MetadataStore) : ExportPhase → Prop
  | .idle => True
  | .placements placements => placements = store.objectPlacements.rows
  | .logicals placements logicals =>
    placements = store.objectPlacements.rows ∧ logicals = store.logicalObjects.rows
  | .plans placements logicals plans =>
    placements = store.objectPlacements.rows ∧ logicals = store.logicalObjects.rows ∧
      plans = store.objectProtectionPlans.rows
  | .jobs placements logicals plans jobs =>
    placements = store.objectPlacements.rows ∧ logicals = store.logicalObjects.rows ∧
      plans = store.objectProtectionPlans.rows ∧ jobs = store.loadPendingJobs none

structure BackupInv (s : CheckpointSystem) : Prop where
  reading : ∀ phase, s.backup = .reading phase → s.Quiet ∧ ReadFrom s.metadataStore phase
  built : ∀ bundle stored, s.backup = .built bundle stored →
    ∀ archive, s.archives.getLast? = some archive →
      archive.bundle.gatewayWriteAheadLogState.nextLsn ≤
        bundle.gatewayWriteAheadLogState.nextLsn
  stored : ∀ bundle place places, s.backup = .built bundle (place :: places) →
    ∃ archive, s.archives.getLast? = some archive ∧ archive.bundle = bundle
  checkpoint : ∀ lsn, s.counters.lastCheckpointLsn = some lsn → s.Archived lsn
  cleaning : ∀ listed, s.backup = .cleaning listed → ∀ name ∈ listed, s.Archived name.1
  cleaned : ∀ record ∈ s.cleaned, s.Archived record.lsn
  names : ∀ archive, s.archives.getLast? = some archive → ∀ other ∈ s.archives,
    other.location = archive.location → other.fileName ≤ archive.fileName

structure Inv (s : CheckpointSystem) : Prop where
  counters : CountersValid s.counters
  keys : ∀ bucket key, (s.view bucket key).Inv
  requests : ∀ i request, s.requests i = some request →
    RequestInv (s.view request.input.bucket request.input.key) request
  serial : ∀ i j request request', s.requests i = some request →
    s.requests j = some request' → SameKey request.input request'.input → i = j
  log : s.LogInv
  bundles : ∀ bundle, s.InUse bundle → s.BundleInv bundle
  backup : s.BackupInv

/-- A record of the log is told by its LSN. -/
theorem LogInv.eq_of_lsn (h : s.LogInv) {a b : GatewayWriteAheadLogRecord}
    (ha : a ∈ s.logRecords) (hb : b ∈ s.logRecords) (hlsn : a.lsn = b.lsn) : a = b :=
  List.inj_on_of_nodup_map h.unique ha hb hlsn

/-! ## Section 3: Steps that leave the log alone -/

/-- The log, the archives and the backup run are the same; a request keeps its record, goes
away or is new. -/
structure LogUntouched (s s' : CheckpointSystem) : Prop where
  logRecords : s'.logRecords = s.logRecords
  prepared : s'.prepared = s.prepared
  committed : s'.committed = s.committed
  cleaned : s'.cleaned = s.cleaned
  archives : s'.archives = s.archives
  backup : s'.backup = s.backup
  counters : s'.counters = s.counters
  requests : ∀ i request, s'.requests i = some request → request.stage = .arrived ∨
    ∃ old, s.requests i = some old ∧ old.stage.record? = request.stage.record? ∧
      ∀ record, request.stage = .allocated record → old.stage = .allocated record

section LogUntouched

variable {s s' : CheckpointSystem}

theorem LogUntouched.records_eq (h : LogUntouched s s') (bucket key : String) :
    (s'.view bucket key).records = (s.view bucket key).records ∧
      (s'.view bucket key).prepared = (s.view bucket key).prepared ∧
      (s'.view bucket key).committed = (s.view bucket key).committed := by
  simp only [view, h.logRecords, h.prepared, h.committed, and_self]

theorem LogUntouched.open_of (h : LogUntouched s s') {record : GatewayWriteAheadLogRecord}
    (hopen : s'.Open record) : s.Open record := by
  rcases hopen with hmem | ⟨i, request, hrequest, hrecord⟩
  · exact Or.inl (h.prepared ▸ hmem)
  · rcases h.requests i request hrequest with harrived | ⟨old, hold, hsame, -⟩
    · rw [harrived] at hrecord
      cases hrecord
    · exact Or.inr ⟨i, old, hold, hsame.trans hrecord⟩

theorem LogUntouched.logInv (h : LogUntouched s s') (hinv : s.LogInv) : s'.LogInv := by
  have hallocated : ∀ i request record, s'.requests i = some request →
      request.stage = .allocated record →
      ∃ old, s.requests i = some old ∧ old.stage = .allocated record := by
    intro i request record hrequest hstage
    rcases h.requests i request hrequest with harrived | ⟨old, hold, -, hkept⟩
    · rw [harrived] at hstage
      cases hstage
    · exact ⟨old, hold, hkept record hstage⟩
  refine ⟨?_, ?_, ?_, ?_, ?_, ?_, ?_, ?_⟩
  · rw [h.logRecords, h.counters]
    exact hinv.records
  · rw [h.logRecords]
    exact hinv.unique
  · rw [h.prepared, h.logRecords]
    exact hinv.prepared
  · rw [h.committed, h.counters]
    exact hinv.committed_lt
  · rw [h.counters]
    exact fun record hopen => hinv.open_lt record (h.open_of hopen)
  · rw [h.counters]
    exact fun record hopen => hinv.above_floor record (h.open_of hopen)
  · rw [h.logRecords]
    intro i request record hrequest hstage
    obtain ⟨old, hold, hstage'⟩ := hallocated i request record hrequest hstage
    exact hinv.fresh i old record hold hstage'
  · intro i j request request' record record' hi hj hstage hstage'
    obtain ⟨old, hold, hstageOld⟩ := hallocated i request record hi hstage
    obtain ⟨old', hold', hstageOld'⟩ := hallocated j request' record' hj hstage'
    exact hinv.apart i j old old' record record' hold hold' hstageOld hstageOld'

theorem LogUntouched.bundleInv (h : LogUntouched s s') {bundle : GatewayBackupMetadataPayload}
    (hinv : s.BundleInv bundle) : s'.BundleInv bundle := by
  refine ⟨hinv.origin, hinv.valid, ?_, ?_, ?_, ?_⟩
  · rw [h.counters]
    exact hinv.next_le
  · intro bucket key
    obtain ⟨hrecords, -, hcommitted⟩ := h.records_eq bucket key
    have hlatest : (s'.view bucket key).latestFacts = (s.view bucket key).latestFacts := by
      unfold KeyView.latestFacts
      rw [hcommitted]
    rw [hrecords, hlatest]
    exact hinv.covered bucket key
  · rw [h.committed]
    exact hinv.held
  · exact fun record hopen => hinv.open_above record (h.open_of hopen)

theorem LogUntouched.archived (h : LogUntouched s s') {lsn : Nat} : s'.Archived lsn ↔ s.Archived lsn := by
  unfold Archived
  rw [h.archives]

/-- While an export reads, the store stays the same. -/
theorem LogUntouched.backupInv (h : LogUntouched s s')
    (hstore : s.Quiet → s'.metadataStore = s.metadataStore) (hinv : s.BackupInv) :
    s'.BackupInv := by
  refine ⟨?_, ?_, ?_, ?_, ?_, ?_, ?_⟩
  · intro phase hphase
    obtain ⟨hquiet, hread⟩ := hinv.reading phase (h.backup ▸ hphase)
    refine ⟨⟨h.prepared.trans hquiet.prepared, ?_⟩, ?_⟩
    · intro i request hrequest
      rcases h.requests i request hrequest with harrived | ⟨old, hold, hsame, -⟩
      · exact harrived
      · rw [hquiet.requests i old hold] at hsame
        cases hstage : request.stage with
        | arrived => rfl
        | _ =>
          rw [hstage] at hsame
          cases hsame
    · rw [hstore hquiet]
      exact hread
  · rw [h.backup, h.archives]
    exact hinv.built
  · rw [h.backup, h.archives]
    exact hinv.stored
  · rw [h.counters]
    exact fun lsn hlsn => h.archived.mpr (hinv.checkpoint lsn hlsn)
  · rw [h.backup]
    exact fun listed hlisted name hname => h.archived.mpr (hinv.cleaning listed hlisted name hname)
  · rw [h.cleaned]
    exact fun record hrecord => h.archived.mpr (hinv.cleaned record hrecord)
  · rw [h.archives]
    exact hinv.names

theorem LogUntouched.bundles (h : LogUntouched s s') (hinv : s.Inv) :
    ∀ bundle, s'.InUse bundle → s'.BundleInv bundle := by
  intro bundle huse
  have huse' : s.InUse bundle := by
    unfold InUse at huse ⊢
    rwa [h.backup, h.archives] at huse
  exact h.bundleInv (hinv.bundles bundle huse')

end LogUntouched

end CheckpointSystem

end Netdisk2Blob.Backup
