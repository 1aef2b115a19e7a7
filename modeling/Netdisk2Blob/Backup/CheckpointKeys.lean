import Netdisk2Blob.Backup.CheckpointRuns

/-!
# One Key of a Checkpoint System

Requests on different keys write different rows, home objects and log records, so what a
backup run has to keep in step is kept in step key by key.

## Contents

- `KeyView`: rows, home objects, log records and committed operations of one key
- `KeySettled`: the rows are those of the last committed operation, and the last record
  writes them
- `RequestInv`: what a request on its way knows about its key
- `facts_steps`, `rollback_marks`: what the steps of a request and of its rollback leave
- `requestInv_proceed`, `inv_commit`, `inv_rolledBack`: the steps of a request on its key
-/

namespace Netdisk2Blob.Backup

open Library Blob Policy Replication Metadata Gateway Gateway.Operations

/-! ## Section 1: Steps on the rows of their key -/

/-- What a step does to the rows of the key that it is about. -/
def RequestStep.rows (step : RequestStep) (rows : MetadataStore.ObjectMetadata) :
    MetadataStore.ObjectMetadata :=
  match step with
  | .update (.upsertObjectPlacement provider bucket key now) =>
    { rows with placement := some ⟨provider, bucket, key, now⟩ }
  | .update (.deleteObjectPlacement _ _) => { rows with placement := none }
  | .update (.upsertLogicalObject record) => { rows with logical := some record }
  | .update (.deleteLogicalObject _ _) => { rows with logical := none }
  | .update (.upsertObjectProtectionPlan record) => { rows with protectionPlan := some record }
  | .update (.deleteObjectProtectionPlan _ _) => { rows with protectionPlan := none }
  | .update (.deleteObjectMetadata _ _) => ⟨none, none, none⟩
  | .update (.enqueueJobs _) | .putHome | .deleteHome => rows

def rowsAfter (steps : List RequestStep) (rows : MetadataStore.ObjectMetadata) :
    MetadataStore.ObjectMetadata :=
  steps.foldl (fun rows step => step.rows rows) rows

@[simp] theorem rowsAfter_nil (rows : MetadataStore.ObjectMetadata) : rowsAfter [] rows = rows :=
  rfl

@[simp] theorem rowsAfter_cons (step : RequestStep) (steps : List RequestStep)
    (rows : MetadataStore.ObjectMetadata) :
    rowsAfter (step :: steps) rows = rowsAfter steps (step.rows rows) := rfl

theorem rowsAfter_append (steps steps' : List RequestStep) (rows : MetadataStore.ObjectMetadata) :
    rowsAfter (steps ++ steps') rows = rowsAfter steps' (rowsAfter steps rows) :=
  List.foldl_append

/-- The step writes rows of this key only. -/
def RequestStep.OnKey (bucket key : String) : RequestStep → Prop
  | .update (.upsertObjectPlacement _ b k _) | .update (.deleteObjectPlacement b k)
  | .update (.deleteLogicalObject b k) | .update (.deleteObjectProtectionPlan b k)
  | .update (.deleteObjectMetadata b k) => b = bucket ∧ k = key
  | .update (.upsertLogicalObject record) => record.bucket = bucket ∧ record.key = key
  | .update (.upsertObjectProtectionPlan record) => record.bucket = bucket ∧ record.key = key
  | .update (.enqueueJobs _) | .putHome | .deleteHome => True

section Updates

variable {store : MetadataStore} {bucket key : String} {change : MetadataUpdate}

theorem objectMetadata_update_onKey (h : RequestStep.OnKey bucket key (.update change)) :
    (change.run store).objectMetadata bucket key =
      RequestStep.rows (.update change) (store.objectMetadata bucket key) := by
  cases change with
  | upsertObjectPlacement provider b k now =>
    obtain ⟨rfl, rfl⟩ := h
    exact MetadataStore.objectMetadata_upsertObjectPlacement _ _
  | deleteObjectPlacement b k =>
    obtain ⟨rfl, rfl⟩ := h
    exact MetadataStore.objectMetadata_deleteObjectPlacement
  | upsertLogicalObject record => exact MetadataStore.objectMetadata_upsertLogicalObject h
  | deleteLogicalObject b k =>
    obtain ⟨rfl, rfl⟩ := h
    exact MetadataStore.objectMetadata_deleteLogicalObject
  | upsertObjectProtectionPlan record =>
    exact MetadataStore.objectMetadata_upsertObjectProtectionPlan h
  | deleteObjectProtectionPlan b k =>
    obtain ⟨rfl, rfl⟩ := h
    exact MetadataStore.objectMetadata_deleteObjectProtectionPlan
  | deleteObjectMetadata b k =>
    obtain ⟨rfl, rfl⟩ := h
    simp [MetadataUpdate.run, RequestStep.rows]
  | enqueueJobs jobs => exact MetadataStore.objectMetadata_enqueueJobs jobs

/-- Rows of another key stay. -/
theorem objectMetadata_update_ne {bucket' key' : String}
    (h : RequestStep.OnKey bucket key (.update change))
    (hne : ¬ (bucket = bucket' ∧ key = key')) :
    (change.run store).objectMetadata bucket' key' = store.objectMetadata bucket' key' := by
  cases change with
  | upsertObjectPlacement provider b k now =>
    obtain ⟨rfl, rfl⟩ := h
    exact MetadataStore.objectMetadata_upsertObjectPlacement_ne hne _ _
  | deleteObjectPlacement b k =>
    obtain ⟨rfl, rfl⟩ := h
    exact MetadataStore.objectMetadata_deleteObjectPlacement_ne hne
  | upsertLogicalObject record =>
    obtain ⟨rfl, rfl⟩ := h
    exact MetadataStore.objectMetadata_upsertLogicalObject_ne hne
  | deleteLogicalObject b k =>
    obtain ⟨rfl, rfl⟩ := h
    exact MetadataStore.objectMetadata_deleteLogicalObject_ne hne
  | upsertObjectProtectionPlan record =>
    obtain ⟨rfl, rfl⟩ := h
    exact MetadataStore.objectMetadata_upsertObjectProtectionPlan_ne hne
  | deleteObjectProtectionPlan b k =>
    obtain ⟨rfl, rfl⟩ := h
    exact MetadataStore.objectMetadata_deleteObjectProtectionPlan_ne hne
  | deleteObjectMetadata b k =>
    obtain ⟨rfl, rfl⟩ := h
    simp only [MetadataUpdate.run]
    rw [MetadataStore.objectMetadata_deleteLogicalObject_ne hne,
      MetadataStore.objectMetadata_deleteObjectProtectionPlan_ne hne,
      MetadataStore.objectMetadata_deleteObjectPlacement_ne hne]
  | enqueueJobs jobs => exact MetadataStore.objectMetadata_enqueueJobs jobs

/-- The tables of the objects are apart from the counters of the log. -/
@[simp] theorem gatewayWriteAheadLogState_update (change : MetadataUpdate) :
    (change.run store).gatewayWriteAheadLogStateRecord =
      store.gatewayWriteAheadLogStateRecord := by
  cases change with
  | enqueueJobs jobs =>
    exact congrArg (fun row => row.getD {})
      (MetadataStore.enqueueJobs_objectTables store jobs).2.2.2
  | _ => rfl

end Updates

/-! ## Section 2: What the steps of a request leave -/

namespace RequestInput

variable {input : RequestInput} {previous rows : MetadataStore.ObjectMetadata}

theorem onKey_steps : ∀ step ∈ input.steps, step.OnKey input.bucket input.key := by
  intro step hstep
  unfold steps at hstep
  cases hkind : input.kind with
  | put logical syncTargets fallbackReadOrder etag =>
    simp only [hkind, List.mem_cons, List.not_mem_nil, or_false] at hstep
    rcases hstep with rfl | rfl | rfl | rfl | rfl | rfl <;>
      simp [RequestStep.OnKey, desiredLogicalRecord, protectionPlanRecord]
  | delete syncTargets =>
    simp only [hkind, List.mem_cons, List.not_mem_nil, or_false] at hstep
    rcases hstep with rfl | rfl | rfl <;> simp [RequestStep.OnKey]

/-- All rows are written, whatever they were. -/
theorem facts_steps : objectFacts (rowsAfter input.steps rows) = input.facts := by
  unfold steps facts
  cases hkind : input.kind <;>
    simp [RequestStep.rows, objectFacts, protectionPlanRecord]

end RequestInput

/-- Rows of one key. -/
structure RowsOnKey (bucket key : String) (rows : MetadataStore.ObjectMetadata) : Prop where
  placement : ∀ row, rows.placement = some row → row.bucket = bucket ∧ row.key = key
  logical : ∀ row, rows.logical = some row → row.bucket = bucket ∧ row.key = key
  protectionPlan : ∀ row, rows.protectionPlan = some row → row.bucket = bucket ∧ row.key = key

theorem rowsOnKey_objectMetadata (store : MetadataStore) (bucket key : String) :
    RowsOnKey bucket key (store.objectMetadata bucket key) where
  placement _ := MetadataStore.objectPlacement_key
  logical _ := MetadataStore.logicalObject_key
  protectionPlan _ := MetadataStore.objectProtectionPlan_key

namespace RequestInput

variable {input : RequestInput} {previous rows : MetadataStore.ObjectMetadata}

theorem onKey_restoreMetadataState (hkeyed : RowsOnKey input.bucket input.key previous) :
    ∀ step ∈ input.restoreMetadataState previous, step.OnKey input.bucket input.key := by
  intro step hstep
  simp only [restoreMetadataState, restoreWriteState, List.cons_append, List.nil_append,
    List.mem_cons, List.not_mem_nil, or_false] at hstep
  obtain ⟨placement, logical, plan⟩ := previous
  rcases hstep with rfl | rfl | rfl
  · cases placement <;> exact ⟨rfl, rfl⟩
  · cases logical with
    | none => exact ⟨rfl, rfl⟩
    | some row => exact hkeyed.logical row rfl
  · cases plan with
    | none => exact ⟨rfl, rfl⟩
    | some row => exact hkeyed.protectionPlan row rfl

theorem onKey_rollback (hkeyed : RowsOnKey input.bucket input.key previous) (done : Nat)
    (rejected deletesHome : Bool) :
    ∀ step ∈ (input.rollback previous done rejected deletesHome).1,
      step.OnKey input.bucket input.key := by
  have hall := onKey_restoreMetadataState hkeyed
  have hwrite : ∀ step ∈ input.restoreWriteState previous,
      step.OnKey input.bucket input.key :=
    fun step hstep => hall step (List.mem_append_left _ hstep)
  have hcleanup : ∀ step ∈ (if deletesHome then [RequestStep.deleteHome] else []),
      step.OnKey input.bucket input.key := by
    intro step hstep
    split at hstep
    · rw [List.mem_singleton.mp hstep]
      trivial
    · cases hstep
  have hboth : ∀ steps : List RequestStep,
      (∀ step ∈ steps, step.OnKey input.bucket input.key) →
      ∀ step ∈ steps ++ (if deletesHome then [RequestStep.deleteHome] else []),
        step.OnKey input.bucket input.key :=
    fun steps hsteps step hstep =>
      (List.mem_append.mp hstep).elim (hsteps step) (hcleanup step)
  have hnone : ∀ step ∈ ([] : List RequestStep), step.OnKey input.bucket input.key :=
    fun step hstep => absurd hstep List.not_mem_nil
  unfold rollback
  cases input.kind with
  | put logical syncTargets fallbackReadOrder etag =>
    simp only
    by_cases hzero : done = 0
    · rw [if_pos hzero]
      exact hnone
    rw [if_neg hzero]
    by_cases hlt : done < 3
    · rw [if_pos hlt]
      exact hwrite
    rw [if_neg hlt]
    by_cases hrejected : done = 3 ∧ rejected = true
    · rw [if_pos hrejected]
      exact hboth _ hwrite
    · rw [if_neg hrejected]
      exact hboth _ hall
  | delete syncTargets =>
    simp only
    split_ifs
    · exact hnone
    · exact hall

/-- A step at the home backend writes no row. -/
theorem rowsAfter_cleanup (deletesHome : Bool) (rows : MetadataStore.ObjectMetadata) :
    rowsAfter (if deletesHome then [RequestStep.deleteHome] else []) rows = rows := by
  cases deletesHome <;> rfl

theorem facts_restoreWriteState (hplan : rows.protectionPlan = previous.protectionPlan) :
    objectFacts (rowsAfter (input.restoreWriteState previous) rows) = objectFacts previous := by
  obtain ⟨placement, logical, plan⟩ := previous
  cases placement <;> cases logical <;>
    simp [restoreWriteState, RequestStep.rows, objectFacts, hplan]

/-- Only the cleanup deletes the home object. -/
theorem deleteHome_mem_rollback {done : Nat} {rejected deletesHome : Bool}
    (h : RequestStep.deleteHome ∈ (input.rollback previous done rejected deletesHome).1) :
    deletesHome = true := by
  by_contra hnot
  have hall : RequestStep.deleteHome ∉ input.restoreMetadataState previous := by
    simp [restoreMetadataState, restoreWriteState]
  have hwrite : RequestStep.deleteHome ∉ input.restoreWriteState previous := by
    simp [restoreWriteState]
  have hempty : RequestStep.deleteHome ∉ ([] : List RequestStep) := List.not_mem_nil
  unfold rollback at h
  simp only [if_neg hnot, List.append_nil] at h
  cases hkind : input.kind with
  | put logical syncTargets fallbackReadOrder etag =>
    simp only [hkind] at h
    split_ifs at h
    · exact hempty h
    · exact hwrite h
    · exact hwrite h
    · exact hall h
  | delete syncTargets =>
    simp only [hkind] at h
    split_ifs at h
    · exact hempty h
    · exact hall h

/-- A rollback whose record is marked is one of a PUT that has not written its plan, and it
takes the rows back. -/
theorem rollback_marks {done : Nat} {rejected deletesHome : Bool}
    (hmarks : (input.rollback previous done rejected deletesHome).2 = true) :
    (∃ logical syncTargets fallbackReadOrder etag,
      input.kind = .put logical syncTargets fallbackReadOrder etag) ∧ done ≤ 3 ∧
    ∀ rows : MetadataStore.ObjectMetadata,
      (done = 0 → rows = previous) → rows.protectionPlan = previous.protectionPlan →
      objectFacts (rowsAfter (input.rollback previous done rejected deletesHome).1 rows) =
        objectFacts previous := by
  unfold rollback at hmarks ⊢
  cases hkind : input.kind with
  | put logical syncTargets fallbackReadOrder etag =>
    simp only [hkind] at hmarks ⊢
    refine ⟨⟨logical, syncTargets, fallbackReadOrder, etag, rfl⟩, ?_⟩
    by_cases hzero : done = 0
    · rw [if_pos hzero]
      exact ⟨by omega, fun rows hrows _ => congrArg objectFacts (hrows hzero)⟩
    rw [if_neg hzero] at hmarks ⊢
    by_cases hlt : done < 3
    · rw [if_pos hlt]
      exact ⟨by omega, fun rows _ hplan => facts_restoreWriteState hplan⟩
    rw [if_neg hlt] at hmarks ⊢
    by_cases hrejected : done = 3 ∧ rejected = true
    · rw [if_pos hrejected]
      refine ⟨by omega, ?_⟩
      intro rows _ hplan
      rw [rowsAfter_append, rowsAfter_cleanup]
      exact facts_restoreWriteState hplan
    · rw [if_neg hrejected] at hmarks
      cases hmarks
  | delete syncTargets =>
    simp only [hkind] at hmarks
    split_ifs at hmarks

end RequestInput

/-! ## Section 3: One key -/

structure KeyView where
  rows : MetadataStore.ObjectMetadata
  homes : List ProviderId
  records : List GatewayWriteAheadLogRecord
  prepared : List GatewayWriteAheadLogRecord
  committed : List CommittedOperation

namespace KeyView

/-- The rows that the last committed operation leaves. -/
def latestFacts (v : KeyView) : ObjectFacts :=
  (v.committed.getLast?.map (·.input.facts)).getD ⟨none, none, none⟩

/-- There was no object, or the last operation is a PUT. -/
theorem latestFacts_cases (v : KeyView) :
    v.latestFacts = ⟨none, none, none⟩ ∨ ∃ input : RequestInput,
      (∃ logical syncTargets fallbackReadOrder etag,
        input.kind = .put logical syncTargets fallbackReadOrder etag) ∧
      v.latestFacts = input.facts := by
  unfold latestFacts
  cases v.committed.getLast? with
  | none => exact Or.inl rfl
  | some operation =>
    cases hkind : operation.input.kind with
    | put logical syncTargets fallbackReadOrder etag =>
      exact Or.inr ⟨operation.input, ⟨logical, syncTargets, fallbackReadOrder, etag, hkind⟩, rfl⟩
    | delete syncTargets =>
      left
      simp [RequestInput.facts, hkind]

/-- The record is open, and no operation was committed after it. -/
def OpenAfter (v : KeyView) (record : GatewayWriteAheadLogRecord) : Prop :=
  record ∈ v.prepared ∧ ∀ operation ∈ v.committed, operation.lsn < record.lsn

/-- Rows, home and log agree on the last committed operation. -/
structure Settled (v : KeyView) : Prop where
  rows : objectFacts v.rows = v.latestFacts
  home : ∀ provider : ProviderId, v.latestFacts.provider = some provider.asStr →
    provider ∈ v.homes
  last : ∀ record ∈ v.records, (∀ other ∈ v.records, other.lsn ≤ record.lsn) →
    writtenFacts record (recoveryAction record (decide (record.homeProvider ∈ v.homes))) =
      some v.latestFacts

structure Inv (v : KeyView) : Prop where
  settled : (∀ record, ¬ v.OpenAfter record) → v.Settled
  ordered : v.committed.Pairwise (fun a b => a.lsn < b.lsn)

end KeyView

def RequestInput.IsPut (input : RequestInput) : Prop :=
  ∃ logical syncTargets fallbackReadOrder etag,
    input.kind = .put logical syncTargets fallbackReadOrder etag

/-- The record of a request, newer than whatever else the log says about its key. -/
structure Claimed (v : KeyView) (input : RequestInput) (previous : MetadataStore.ObjectMetadata)
    (record : GatewayWriteAheadLogRecord) : Prop where
  eq_prepared : ∃ lsn now, record = (input.logEntry previous).prepareRecord lsn now
  newest : ∀ other ∈ v.records, recordName other ≠ recordName record → other.lsn < record.lsn
  after : ∀ operation ∈ v.committed, operation.lsn < record.lsn

/-- The request has an open record. -/
structure Started (v : KeyView) (input : RequestInput) (previous : MetadataStore.ObjectMetadata)
    (record : GatewayWriteAheadLogRecord) : Prop extends Claimed v input previous record where
  mem_prepared : record ∈ v.prepared

/-- A PUT that has done so many steps. -/
structure PutProgress (v : KeyView) (input : RequestInput)
    (previous : MetadataStore.ObjectMetadata) (done : Nat) : Prop where
  uploaded : 3 ≤ done → input.homeProvider ∈ v.homes
  planned : done ≤ 3 → v.rows.protectionPlan = previous.protectionPlan

/-- What is left of the rollback of a PUT takes the rows back. -/
structure TakesBack (v : KeyView) (input : RequestInput)
    (previous : MetadataStore.ObjectMetadata) (left : List RequestStep) : Prop where
  isPut : input.IsPut
  rows : objectFacts (rowsAfter left v.rows) = objectFacts previous

/-- The home object of the object that was found is not deleted. -/
def KeepsHome (input : RequestInput) (previous : MetadataStore.ObjectMetadata)
    (left : List RequestStep) : Prop :=
  .deleteHome ∈ left → previous.placement.map (·.provider) ≠ some input.homeProvider.asStr

def StageInv (v : KeyView) (input : RequestInput) (previous : MetadataStore.ObjectMetadata) :
    RequestStage → Prop
  | .arrived => v.rows = previous
  | .allocated record => v.rows = previous ∧ Claimed v input previous record
  | .working record done =>
    Started v input previous record ∧ (done = 0 → v.rows = previous) ∧
      objectFacts (rowsAfter (input.steps.drop done) v.rows) = input.facts ∧
      (input.IsPut → PutProgress v input previous done)
  | .rollingBack record left marks =>
    Started v input previous record ∧ (∀ step ∈ left, step.OnKey input.bucket input.key) ∧
      KeepsHome input previous left ∧ (marks = true → TakesBack v input previous left)

/-- The rows that a request found are those of the last committed operation, unless another
record was left open after it. -/
structure FoundSettled (v : KeyView) (input : RequestInput)
    (previous : MetadataStore.ObjectMetadata) : Prop where
  rows : objectFacts previous = v.latestFacts
  home : input.IsPut → ∀ provider : ProviderId, v.latestFacts.provider = some provider.asStr →
    provider ∈ v.homes

structure RequestInv (v : KeyView) (request : LoggedRequest) : Prop where
  previous_onKey : RowsOnKey request.input.bucket request.input.key request.previous
  stage : StageInv v request.input request.previous request.stage
  found : (∀ record, v.OpenAfter record → request.stage.record? = some record) →
    FoundSettled v request.input request.previous

/-! ## Section 4: The record of a request -/

section Records

variable {records : List GatewayWriteAheadLogRecord}
  {record other : GatewayWriteAheadLogRecord}

theorem mem_putLogRecord :
    other ∈ putLogRecord records record ↔
      (other ∈ records ∧ recordName other ≠ recordName record) ∨ other = record := by
  simp [putLogRecord]

variable {input : RequestInput} {previous : MetadataStore.ObjectMetadata} {lsn now : Nat}

/-- The record is about the key of its request and carries the rows that were found. -/
theorem prepareRecord_eq :
    ((input.logEntry previous).prepareRecord lsn now).bucket = input.bucket ∧
    ((input.logEntry previous).prepareRecord lsn now).key = input.key ∧
    ((input.logEntry previous).prepareRecord lsn now).previousPlacement = previous.placement ∧
    ((input.logEntry previous).prepareRecord lsn now).previousLogicalRecord = previous.logical ∧
    ((input.logEntry previous).prepareRecord lsn now).previousProtectionPlan =
      previous.protectionPlan ∧
    ((input.logEntry previous).prepareRecord lsn now).lsn = lsn ∧
    ((input.logEntry previous).prepareRecord lsn now).phase = .prepare ∧
    ((input.logEntry previous).prepareRecord lsn now).schemaVersion =
      gatewayWriteAheadLogFormatVersion := by
  unfold RequestInput.logEntry
  cases input.kind <;> exact ⟨rfl, rfl, rfl, rfl, rfl, rfl, rfl, rfl⟩

theorem keyed_prepareRecord (hprevious : RowsOnKey input.bucket input.key previous) :
    KeyedRecord ((input.logEntry previous).prepareRecord lsn now) := by
  obtain ⟨hbucket, hkey, hplacement, hlogical, hplan, -⟩ :=
    @prepareRecord_eq input previous lsn now
  refine ⟨?_, ?_, ?_, ?_⟩
  · intro row hrow
    rw [hbucket, hkey]
    unfold RequestInput.logEntry at hrow
    cases hkind : input.kind with
    | put logical syncTargets fallbackReadOrder etag =>
      rw [hkind] at hrow
      obtain rfl := Option.some.inj hrow
      exact ⟨rfl, rfl⟩
    | delete syncTargets =>
      rw [hkind] at hrow
      exact hprevious.logical row hrow
  · intro row hrow
    rw [hbucket, hkey]
    exact hprevious.placement row (hplacement ▸ hrow)
  · intro row hrow
    rw [hbucket, hkey]
    exact hprevious.logical row (hlogical ▸ hrow)
  · intro row hrow
    rw [hbucket, hkey]
    exact hprevious.protectionPlan row (hplan ▸ hrow)

/-- The mark as rolled back keeps key and name, and what it carries is of its key. -/
theorem rolledBack_keeps {marked : GatewayWriteAheadLogRecord}
    (hkeyed : KeyedRecord record)
    (h : GatewayWriteAheadLogRecord.rolledBack record now = .ok marked) :
    marked.bucket = record.bucket ∧ marked.key = record.key ∧
      recordName marked = recordName record ∧ marked.schemaVersion = record.schemaVersion ∧
      KeyedRecord marked := by
  unfold GatewayWriteAheadLogRecord.rolledBack GatewayWriteAheadLogRecord.committed at h
  simp only at h
  have hprevious := hkeyed.previousPlacement
  have hlogical := hkeyed.previousLogical
  have hplan := hkeyed.previousPlan
  split at h
  · obtain rfl := Except.ok.inj h
    exact ⟨rfl, rfl, rfl, rfl, ⟨fun _ hrow => (nomatch hrow), hprevious, hlogical, hplan⟩⟩
  · split at h
    · cases h
    · split at h
      · obtain rfl := Except.ok.inj h
        exact ⟨rfl, rfl, rfl, rfl, hlogical, hprevious, hlogical, hplan⟩
      · split at h
        · cases h
        · obtain rfl := Except.ok.inj h
          exact ⟨rfl, rfl, rfl, rfl, hlogical, hprevious, hlogical, hplan⟩

/-- The commit mark of an operation writes the rows that the operation left. -/
theorem writtenFacts_committed {homeExists : Bool} {marked : Nat}
    (hhome : input.IsPut → homeExists = true) (hlogs : input.LogsWhatItLeaves) :
    writtenFacts
        (GatewayWriteAheadLogRecord.committed
          ((input.logEntry previous).prepareRecord lsn now) marked)
        (recoveryAction
          (GatewayWriteAheadLogRecord.committed
            ((input.logEntry previous).prepareRecord lsn now) marked) homeExists) =
      some input.facts := by
  unfold RequestInput.LogsWhatItLeaves at hlogs
  unfold RequestInput.logEntry RequestInput.facts
  cases hkind : input.kind with
  | put logical syncTargets fallbackReadOrder etag =>
    rw [hkind] at hlogs
    obtain rfl : etag = none := hlogs
    rw [hhome ⟨logical, syncTargets, fallbackReadOrder, none, hkind⟩]
    rfl
  | delete syncTargets => cases homeExists <;> rfl

/-- The mark as rolled back writes the rows that the request found. -/
theorem writtenFacts_rolledBack {v : KeyView} {marked : GatewayWriteAheadLogRecord} {at' : Nat}
    (hfound : FoundSettled v input previous) (hput : input.IsPut)
    (h : GatewayWriteAheadLogRecord.rolledBack
      ((input.logEntry previous).prepareRecord lsn now) at' = .ok marked) :
    writtenFacts marked (recoveryAction marked (decide (marked.homeProvider ∈ v.homes))) =
      some v.latestFacts := by
  obtain ⟨-, -, hplacement, hlogical, hplan, -⟩ := @prepareRecord_eq input previous lsn now
  have hrows := hfound.rows
  have hhome := hfound.home hput
  unfold GatewayWriteAheadLogRecord.rolledBack GatewayWriteAheadLogRecord.committed at h
  simp only [hplacement, hlogical, hplan] at h
  rcases v.latestFacts_cases with hnone |
    ⟨other, ⟨logical, syncTargets, fallback, etag, hkind⟩, hsome⟩
  · -- there was no placement, and the mark is a committed delete
    rw [hnone] at hrows ⊢
    have hprovider := congrArg ObjectFacts.provider hrows
    simp only [objectFacts, Option.map_eq_none_iff] at hprovider
    simp only [hprovider, Except.ok.injEq] at h
    have hdeletes : ∀ homeExists,
        writtenFacts marked (recoveryAction marked homeExists) = some ⟨none, none, none⟩ := by
      subst h
      intro homeExists
      cases homeExists <;> rfl
    exact hdeletes _
  · -- the mark is a metadata sync to the placement that was found
    have hfacts := hrows.trans hsome
    simp only [objectFacts, RequestInput.facts, hkind, ObjectFacts.mk.injEq] at hfacts
    obtain ⟨hprovider, hrecord, hcsv⟩ := hfacts
    obtain ⟨placement, hsome', hprovider⟩ := Option.map_eq_some_iff.mp hprovider
    obtain ⟨plan, hplanRow, hcsv⟩ := Option.map_eq_some_iff.mp hcsv
    obtain ⟨hsync, hfallback⟩ := Prod.mk.inj hcsv
    have hparse : parseProtectionPlan plan = .ok
        { syncTargets := syncTargets
          fallbackReadOrder := sanitizeFallbackOrderForSyncTargets syncTargets fallback
          updatedAtUnixMs := plan.updatedAtUnixMs } := by
      simp only [parseProtectionPlan, hsync, hfallback, parseProviderCsv_csvFromProviderIds,
        sanitizeFallbackOrderForSyncTargets, List.filter_filter, Bool.and_self]
    rw [hsome', hplanRow] at h
    simp only [hprovider, ProviderId.parse_asStr, hparse, Except.ok.injEq] at h
    subst h
    have hexists : other.homeProvider ∈ v.homes := by
      apply hhome
      rw [hsome]
      simp [RequestInput.facts, hkind]
    rw [hsome]
    simp only [recoveryAction, writtenFacts, hexists, decide_true, RequestInput.facts, hkind,
      sanitizeFallbackOrderForSyncTargets, List.filter_filter, Bool.and_self, hrecord]

end Records

/-! ## Section 5: Steps of a request, seen from its key -/

/-- What a step does to the home objects of its key. -/
def RequestStep.homes (home : ProviderId) (homes : List ProviderId) : RequestStep → List ProviderId
  | .putHome => home :: homes
  | .deleteHome => homes.filter (fun provider => decide (provider ≠ home))
  | .update _ => homes

section Key

variable {v : KeyView} {input : RequestInput} {previous : MetadataStore.ObjectMetadata}
  {record : GatewayWriteAheadLogRecord}

/-- A key with an open record has nothing to settle yet. -/
theorem inv_of_started (hinv : v.Inv) {v' : KeyView} (hcommitted : v'.committed = v.committed)
    (hstarted : Started v' input previous record) : v'.Inv where
  settled hnone := absurd ⟨hstarted.mem_prepared, hstarted.after⟩ (hnone record)
  ordered := by
    rw [hcommitted]
    exact hinv.ordered

/-- The key after a step of its request. -/
def KeyView.after (v : KeyView) (home : ProviderId) (step : RequestStep) : KeyView :=
  { v with rows := step.rows v.rows, homes := step.homes home v.homes }

theorem Started.after_step (h : Started v input previous record) (home : ProviderId)
    (step : RequestStep) : Started (v.after home step) input previous record :=
  ⟨⟨h.eq_prepared, h.newest, h.after⟩, h.mem_prepared⟩

/-- The plan of the key is the third of the rows that a PUT writes. -/
theorem steps_of_isPut (hput : input.IsPut) :
    ∃ placement logical plan final jobs, input.steps =
      [.update (.upsertObjectPlacement placement input.bucket input.key input.placedAtUnixMs),
        .update (.upsertLogicalObject logical), .putHome,
        .update (.upsertObjectProtectionPlan plan), .update (.upsertLogicalObject final),
        .update (.enqueueJobs jobs)] := by
  obtain ⟨logical, syncTargets, fallbackReadOrder, etag, hkind⟩ := hput
  unfold RequestInput.steps
  rw [hkind]
  exact ⟨_, _, _, _, _, rfl⟩

theorem length_steps_of_isPut (hput : input.IsPut) : input.steps.length = 6 := by
  obtain ⟨placement, logical, plan, final, jobs, hsteps⟩ := steps_of_isPut hput
  rw [hsteps]
  rfl

/-- One more step of a PUT. -/
theorem PutProgress.after_step {done : Nat} {step : RequestStep} (hput : input.IsPut)
    (h : PutProgress v input previous done) (hstep : input.steps[done]? = some step) :
    PutProgress (v.after input.homeProvider step) input previous (done + 1) := by
  obtain ⟨placement, logical, plan, final, jobs, hsteps⟩ := steps_of_isPut hput
  rw [hsteps] at hstep
  have hlt := (List.getElem?_eq_some_iff.mp hstep).1
  simp only [List.length_cons, List.length_nil] at hlt
  obtain ⟨huploaded, hplanned⟩ := h
  -- the third step uploads, the fourth writes the plan
  rcases done with _ | _ | _ | _ | _ | _ | done
  rotate_right
  · exact absurd hlt (by omega)
  all_goals
    simp only [List.getElem?_cons_zero, List.getElem?_cons_succ, Option.some.injEq] at hstep
    subst hstep
  · exact ⟨fun h => absurd h (by omega), fun _ => hplanned (by omega)⟩
  · exact ⟨fun h => absurd h (by omega), fun _ => hplanned (by omega)⟩
  · exact ⟨fun _ => List.mem_cons_self, fun _ => hplanned (by omega)⟩
  · exact ⟨fun _ => huploaded (by omega), fun h => absurd h (by omega)⟩
  · exact ⟨fun _ => huploaded (by omega), fun h => absurd h (by omega)⟩
  · exact ⟨fun _ => huploaded (by omega), fun h => absurd h (by omega)⟩

/-- Where the rows were found settled, a step of the request or of its rollback leaves the
home object of the object that was found. -/
theorem FoundSettled.after_step (h : FoundSettled v input previous) {step : RequestStep}
    (hkeeps : input.IsPut → step = .deleteHome →
      previous.placement.map (·.provider) ≠ some input.homeProvider.asStr) :
    FoundSettled (v.after input.homeProvider step) input previous where
  rows := h.rows
  home hput provider hprovider := by
    have hmem := h.home hput provider hprovider
    cases step with
    | update change => exact hmem
    | putHome => exact List.mem_cons_of_mem _ hmem
    | deleteHome =>
      refine List.mem_filter.mpr ⟨hmem, decide_eq_true ?_⟩
      rintro rfl
      have hplaced : previous.placement.map (·.provider) = v.latestFacts.provider := by
        rw [← h.rows]
        rfl
      exact hkeeps hput rfl (hplaced.trans hprovider)

/-- A PUT has no step that deletes the home object. -/
theorem ne_deleteHome_of_isPut (hput : input.IsPut) {step : RequestStep}
    (hstep : step ∈ input.steps) : step ≠ .deleteHome := by
  obtain ⟨placement, logical, plan, final, jobs, hsteps⟩ := steps_of_isPut hput
  rw [hsteps] at hstep
  simp only [List.mem_cons, List.not_mem_nil, or_false] at hstep
  rcases hstep with rfl | rfl | rfl | rfl | rfl | rfl <;> exact fun h => by cases h

/-- The request takes its next step. -/
theorem requestInv_proceed {done : Nat} {step : RequestStep}
    (h : RequestInv v ⟨input, previous, .working record done⟩)
    (hstep : input.steps[done]? = some step) :
    RequestInv (v.after input.homeProvider step) ⟨input, previous, .working record (done + 1)⟩ := by
  obtain ⟨hstarted, -, hfacts, hput⟩ := h.stage
  obtain ⟨hlt, hget⟩ := List.getElem?_eq_some_iff.mp hstep
  refine ⟨h.previous_onKey, ⟨hstarted.after_step _ step, ?_, ?_, ?_⟩, ?_⟩
  · intro hzero
    cases hzero
  · -- the step is taken off the steps that are left
    rw [List.drop_eq_getElem_cons hlt, rowsAfter_cons, hget] at hfacts
    exact hfacts
  · exact fun hisPut => (hput hisPut).after_step hisPut hstep
  · intro hnone
    refine (h.found hnone).after_step ?_
    intro hisPut hdelete
    exact absurd hdelete (ne_deleteHome_of_isPut hisPut (List.mem_of_getElem? hstep))

/-- The rollback takes its next step. -/
theorem requestInv_rollingBack {step : RequestStep} {left : List RequestStep} {marks : Bool}
    (h : RequestInv v ⟨input, previous, .rollingBack record (step :: left) marks⟩) :
    RequestInv (v.after input.homeProvider step)
      ⟨input, previous, .rollingBack record left marks⟩ := by
  obtain ⟨hstarted, honKey, hkeeps, htakes⟩ := h.stage
  refine ⟨h.previous_onKey, ⟨hstarted.after_step _ step, ?_, ?_, ?_⟩, ?_⟩
  · exact fun other hother => honKey other (List.mem_cons_of_mem _ hother)
  · exact fun hmem => hkeeps (List.mem_cons_of_mem _ hmem)
  · intro hmark
    obtain ⟨hisPut, hrows⟩ := htakes hmark
    exact ⟨hisPut, hrows⟩
  · intro hnone
    refine (h.found hnone).after_step ?_
    rintro - rfl
    exact hkeeps List.mem_cons_self

/-- A step fails. -/
theorem requestInv_fail {done : Nat} {rejected deletesHome : Bool}
    (h : RequestInv v ⟨input, previous, .working record done⟩)
    (hkeeps : deletesHome = true →
      previous.placement.map (·.provider) ≠ some input.homeProvider.asStr) :
    RequestInv v
      ⟨input, previous, .rollingBack record
        (input.rollback previous done rejected deletesHome).1
        (input.rollback previous done rejected deletesHome).2⟩ := by
  obtain ⟨hstarted, hzero, -, hput⟩ := h.stage
  refine ⟨h.previous_onKey, ⟨hstarted, ?_, ?_, ?_⟩, h.found⟩
  · exact RequestInput.onKey_rollback h.previous_onKey done rejected deletesHome
  · exact fun hmem => hkeeps (RequestInput.deleteHome_mem_rollback hmem)
  · intro hmarks
    obtain ⟨hisPut, hle, hrows⟩ := RequestInput.rollback_marks hmarks
    exact ⟨hisPut, hrows v.rows hzero ((hput hisPut).planned hle)⟩

/-- The key after a record of it is marked. -/
def KeyView.marked (v : KeyView) (old new : GatewayWriteAheadLogRecord) : KeyView :=
  { v with
    records := putLogRecord v.records new
    prepared := v.prepared.filter (fun other => decide (recordName other ≠ recordName old)) }

/-- A mark of the newest record is the newest record. -/
theorem eq_of_newest {marked last : GatewayWriteAheadLogRecord}
    (hclaimed : Claimed v input previous record) (hname : recordName marked = recordName record)
    (hlast : last ∈ putLogRecord v.records marked)
    (hmax : ∀ other ∈ putLogRecord v.records marked, other.lsn ≤ last.lsn) : last = marked := by
  rcases mem_putLogRecord.mp hlast with ⟨hmem, hne⟩ | heq
  · have hlt := hclaimed.newest last hmem (hname ▸ hne)
    have hle := hmax marked (mem_putLogRecord.mpr (Or.inr rfl))
    have hlsn : marked.lsn = record.lsn := congrArg Prod.fst hname
    omega
  · exact heq

/-- The commit mark settles its key. -/
theorem inv_commit (hinv : v.Inv) {done now : Nat}
    (h : RequestInv v ⟨input, previous, .working record done⟩)
    (hdone : done = input.steps.length) (hlogs : input.LogsWhatItLeaves) :
    ({ v.marked record (GatewayWriteAheadLogRecord.committed record now) with
      committed := v.committed ++ [⟨record.lsn, input⟩] } : KeyView).Inv := by
  obtain ⟨hstarted, -, hfacts, hput⟩ := h.stage
  obtain ⟨lsn, preparedAt, hrecord⟩ :
      ∃ lsn now, record = (input.logEntry previous).prepareRecord lsn now := hstarted.eq_prepared
  have hlatest : ({ v.marked record (GatewayWriteAheadLogRecord.committed record now) with
      committed := v.committed ++ [⟨record.lsn, input⟩] } : KeyView).latestFacts =
      input.facts := by
    simp [KeyView.latestFacts]
  have huploaded : input.IsPut → input.homeProvider ∈ v.homes := by
    intro hisPut
    refine (hput hisPut).uploaded ?_
    rw [hdone, length_steps_of_isPut hisPut]
    omega
  refine ⟨fun _ => ⟨?_, ?_, ?_⟩, ?_⟩
  · -- no step is left
    rw [hlatest]
    rw [hdone, List.drop_length] at hfacts
    exact hfacts
  · intro provider hprovider
    rw [hlatest] at hprovider
    change provider ∈ v.homes
    cases hkind : input.kind with
    | put logical syncTargets fallbackReadOrder etag =>
      simp only [RequestInput.facts, hkind, Option.some.injEq] at hprovider
      rw [← ProviderId.asStr_injective hprovider]
      exact huploaded ⟨logical, syncTargets, fallbackReadOrder, etag, hkind⟩
    | delete syncTargets =>
      simp [RequestInput.facts, hkind] at hprovider
  · intro last hlast hmax
    rw [hlatest]
    obtain rfl := @eq_of_newest v input previous record
      (GatewayWriteAheadLogRecord.committed record now) last hstarted.toClaimed rfl hlast hmax
    subst hrecord
    refine writtenFacts_committed (fun hisPut => decide_eq_true ?_) hlogs
    have hhome : (GatewayWriteAheadLogRecord.committed
        ((input.logEntry previous).prepareRecord lsn preparedAt) now).homeProvider =
        input.homeProvider := by
      unfold RequestInput.logEntry
      cases input.kind <;> rfl
    rw [hhome]
    exact huploaded hisPut
  · change (v.committed ++ [_]).Pairwise _
    refine List.pairwise_append.mpr ⟨hinv.ordered, List.pairwise_singleton _ _, ?_⟩
    intro operation hoperation other hother
    rw [List.mem_singleton.mp hother]
    exact hstarted.after operation hoperation

/-- The mark as rolled back settles its key, unless another record was left open. -/
theorem inv_rolledBack (hinv : v.Inv) {now : Nat} {marked : GatewayWriteAheadLogRecord}
    (h : RequestInv v ⟨input, previous, .rollingBack record [] true⟩)
    (hunique : ∀ other ∈ v.prepared, recordName other = recordName record → other = record)
    (hmark : GatewayWriteAheadLogRecord.rolledBack record now = .ok marked) :
    (v.marked record marked).Inv := by
  obtain ⟨hstarted, -, -, htakes⟩ := h.stage
  obtain ⟨hisPut, hrows⟩ := htakes rfl
  obtain ⟨lsn, preparedAt, hrecord⟩ :
      ∃ lsn now, record = (input.logEntry previous).prepareRecord lsn now := hstarted.eq_prepared
  have hkeyed : KeyedRecord record := hrecord ▸ keyed_prepareRecord h.previous_onKey
  obtain ⟨-, -, hname, -, -⟩ := rolledBack_keeps hkeyed hmark
  refine ⟨fun hnone => ?_, hinv.ordered⟩
  -- a record that is open after all commits is this one
  have hfound : FoundSettled v input previous := by
    refine h.found ?_
    intro other hother
    have hsame : recordName other = recordName record := by
      by_contra hne
      exact hnone other ⟨List.mem_filter.mpr ⟨hother.1, decide_eq_true hne⟩, hother.2⟩
    exact congrArg some (hunique other hother.1 hsame).symm
  refine ⟨?_, hfound.home hisPut, ?_⟩
  · change objectFacts v.rows = v.latestFacts
    exact hrows.trans hfound.rows
  · intro last hlast hmax
    obtain rfl := eq_of_newest hstarted.toClaimed hname hlast hmax
    change writtenFacts last (recoveryAction last (decide (last.homeProvider ∈ v.homes))) =
      some v.latestFacts
    rw [hrecord] at hmark
    exact writtenFacts_rolledBack hfound hisPut hmark

end Key

end Netdisk2Blob.Backup
