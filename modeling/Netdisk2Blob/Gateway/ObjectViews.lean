import Netdisk2Blob.Gateway.PutObject

/-!
# What Each Write Does to One Object

The view of one object in the gateway state, and one rule for each piece of
`ObjectWrites`: how the view of the state after it comes from the view before it.

## Contents

- `ObjectView`, `GatewayState.view`: rows of a key, jobs, queue and stored objects
- `writeMetadata_ok`, `writeMetadata_error`, `putObject_ok`, ...: single requests
- `restorePreviousObjectWriteState_view`, `ensurePreviousObjectMetadataState_view`: the two
  ways back, when the rollback requests succeed
- `IsLogRequest`, `view_of_issues`: the log is out of view
-/

namespace Netdisk2Blob.Gateway

open Library Blob Policy Replication Metadata

/-! ## Section 1: Views -/

structure ObjectView where
  metadata : MetadataStore.ObjectMetadata
  jobs : Table ReplicationJob (fun job => job.jobId)
  pending : List ReplicationJob
  objects : ProviderId → String → String → Option StoredObject

namespace GatewayState

def view (bucket key : String) (s : GatewayState) : ObjectView where
  metadata := s.metadataStore.objectMetadata bucket key
  jobs := s.metadataStore.replicationJobs
  pending := s.replication.pendingJobs
  objects := s.objects

variable {bucket key : String} {s t : GatewayState}

/-- A GET depends on the view, the queue aside. -/
theorem readContent_of_view (config : GatewayConfig)
    (hmetadata : (s.view bucket key).metadata = (t.view bucket key).metadata)
    (hjobs : (s.view bucket key).jobs = (t.view bucket key).jobs)
    (hobjects : (s.view bucket key).objects = (t.view bucket key).objects) :
    readContent config bucket key s = readContent config bucket key t := by
  apply readContent_congr
  have hrows : s.metadataStore.objectMetadata bucket key =
      t.metadataStore.objectMetadata bucket key := hmetadata
  have htable : s.metadataStore.replicationJobs = t.metadataStore.replicationJobs := hjobs
  exact
    { placement := congrArg MetadataStore.ObjectMetadata.placement hrows
      logical := congrArg MetadataStore.ObjectMetadata.logical hrows
      jobs := fun target => by simp only [MetadataStore.latestJobForObject, htable]
      objects := fun provider => congrFun (congrFun (congrFun hobjects provider) bucket) key }

end GatewayState

/-- The objects with one of them replaced. -/
def setObjectAt (objects : ProviderId → String → String → Option StoredObject)
    (provider : ProviderId) (bucket key : String) (object : Option StoredObject) :
    ProviderId → String → String → Option StoredObject :=
  fun p b k => if p = provider ∧ b = bucket ∧ k = key then object else objects p b k

@[simp] theorem view_setObject (s : GatewayState) (provider : ProviderId)
    (bucket key : String) (object : Option StoredObject) :
    (s.setObject provider bucket key object).view bucket key =
      { s.view bucket key with
        objects := setObjectAt s.objects provider bucket key object } := rfl

@[simp] theorem setObjectAt_setObjectAt
    (objects : ProviderId → String → String → Option StoredObject) (provider : ProviderId)
    (bucket key : String) (first second : Option StoredObject) :
    setObjectAt (setObjectAt objects provider bucket key first) provider bucket key second =
      setObjectAt objects provider bucket key second := by
  funext p b k
  simp only [setObjectAt]
  split <;> rfl

/-! ## Section 2: Single requests -/

section Requests

variable {permitted : Request → Answer → Prop} {s t : GatewayState}

theorem writeMetadata_ok {purpose : Purpose} {update : MetadataUpdate} {value : Unit}
    (h : Program.Ends handle permitted (Requests.writeMetadata purpose update) s (.ok value) t) :
    t = { s with metadataStore := update.run s.metadataStore } := by
  obtain ⟨answer, -, hreply⟩ := Program.ends_issue.mp h
  exact (Prod.mk.inj (replyUnless_ok hreply)).2.symm

theorem writeMetadata_error {purpose : Purpose} {update : MetadataUpdate} {error : String}
    (h : Program.Ends handle permitted (Requests.writeMetadata purpose update) s
      (.error error) t) :
    (∃ answer, permitted (.writeMetadata purpose update) answer ∧
      answer.metadataError = some error) ∧ t = s := by
  obtain ⟨answer, hanswer, hreply⟩ := Program.ends_issue.mp h
  rcases replyUnless_error hreply with ⟨hfailure, hstate⟩ | hdone
  · exact ⟨⟨answer, hanswer, hfailure⟩, hstate⟩
  · cases hdone

/-- A write of a rollback succeeds. -/
theorem writeMetadata_rollback {update : MetadataUpdate} {reply : Except String Unit}
    (h : Program.Ends handle RollbacksSucceed (Requests.writeMetadata .rollback update) s
      reply t) :
    reply = .ok () ∧ t = { s with metadataStore := update.run s.metadataStore } := by
  cases reply with
  | ok value => exact ⟨rfl, writeMetadata_ok h⟩
  | error error =>
    obtain ⟨⟨answer, hsucceeds, hfailure⟩, -⟩ := writeMetadata_error h
    rw [(hsucceeds rfl).1] at hfailure
    cases hfailure

/-- A read of a rollback succeeds. -/
theorem readMetadata_rollback {query : MetadataQuery} {reply : Except String query.Row}
    (h : Program.Ends handle RollbacksSucceed
      (Program.issue (Request.readMetadata .rollback query)) s reply t) :
    reply = .ok (query.run s.metadataStore) ∧ t = s := by
  obtain ⟨answer, hsucceeds, hreply⟩ := Program.ends_issue.mp h
  have hanswer : answer.metadataError = none := (hsucceeds rfl).1
  simp only [handle, replyUnless, hanswer] at hreply
  exact ⟨(Prod.mk.inj hreply).1.symm, (Prod.mk.inj hreply).2.symm⟩

theorem putObject_ok {provider : ProviderId} {bucket key : String} {object : StoredObject}
    {etag : Option String}
    (h : Program.Ends handle permitted (Requests.putObject provider bucket key object) s
      (.ok etag) t) : t = s.setObject provider bucket key (some object) := by
  obtain ⟨answer, -, hreply⟩ := Program.ends_issue.mp h
  exact (Prod.mk.inj (replyUnless_ok hreply)).2.symm

theorem putObject_error {provider : ProviderId} {bucket key : String} {object : StoredObject}
    {error : BlobError}
    (h : Program.Ends handle permitted (Requests.putObject provider bucket key object) s
      (.error error) t) : t = s := by
  obtain ⟨answer, -, hreply⟩ := Program.ends_issue.mp h
  rcases replyUnless_error hreply with ⟨-, hstate⟩ | hdone
  · exact hstate
  · cases hdone

theorem deleteObject_ok {purpose : Purpose} {provider : ProviderId} {bucket key : String}
    {value : Unit}
    (h : Program.Ends handle permitted (Requests.deleteObject purpose provider bucket key) s
      (.ok value) t) : t = s.setObject provider bucket key none := by
  obtain ⟨answer, -, hreply⟩ := Program.ends_issue.mp h
  exact (Prod.mk.inj (replyUnless_ok hreply)).2.symm

theorem deleteObject_error {purpose : Purpose} {provider : ProviderId} {bucket key : String}
    {error : BlobError}
    (h : Program.Ends handle permitted (Requests.deleteObject purpose provider bucket key) s
      (.error error) t) :
    (∃ answer, permitted (.deleteObject purpose provider bucket key) answer ∧
      answer.backendError = some error) ∧ t = s := by
  obtain ⟨answer, hanswer, hreply⟩ := Program.ends_issue.mp h
  rcases replyUnless_error hreply with ⟨hfailure, hstate⟩ | hdone
  · exact ⟨⟨answer, hanswer, hfailure⟩, hstate⟩
  · cases hdone

/-- A deletion of a rollback succeeds. -/
theorem deleteObject_rollback {provider : ProviderId} {bucket key : String}
    {reply : Except BlobError Unit}
    (h : Program.Ends handle RollbacksSucceed
      (Requests.deleteObject .rollback provider bucket key) s reply t) :
    t = s.setObject provider bucket key none := by
  cases reply with
  | ok value => exact deleteObject_ok h
  | error error =>
    obtain ⟨⟨answer, hsucceeds, hfailure⟩, -⟩ := deleteObject_error h
    rw [(hsucceeds rfl).2] at hfailure
    cases hfailure

theorem enqueueJobs_reply {topology : TopologyPolicy} {source : Option String}
    {operation : ReplicationOperation} {object : ReplicationObjectRef} {now : Nat}
    {jobs : List ReplicationJob}
    (h : Program.Ends handle permitted
      (Requests.enqueueJobs topology source operation object now) s jobs t) :
    jobs = (s.replication.enqueueJobs topology source operation object now).1 ∧
      t = { s with
        replication := (s.replication.enqueueJobs topology source operation object now).2 } := by
  obtain ⟨answer, -, hreply⟩ := Program.ends_issue.mp h
  exact ⟨(Prod.mk.inj hreply).1.symm, (Prod.mk.inj hreply).2.symm⟩

end Requests

/-! ## Section 3: Rows -/

namespace Operations

section Rows

variable {permitted : Request → Answer → Prop} {s t : GatewayState} {bucket key : String}

theorem persistObjectHomeProvider_ok {provider : ProviderId} {now : Nat} {value : Unit}
    (h : Program.Ends handle permitted (persistObjectHomeProvider provider bucket key now) s
      (.ok value) t) :
    t.view bucket key =
      { s.view bucket key with
        metadata :=
          { (s.view bucket key).metadata with
            placement := some ⟨provider.asStr, bucket, key, now⟩ } } := by
  obtain rfl := writeMetadata_ok (Program.ends_mapError_ok.mp h)
  simp [GatewayState.view, MetadataUpdate.run]
  rfl

theorem persistLogicalObjectRecord_ok {purpose : Purpose} {record : LogicalObjectRecord}
    {value : Unit} (hrecord : record.bucket = bucket ∧ record.key = key)
    (h : Program.Ends handle permitted (persistLogicalObjectRecord purpose record) s
      (.ok value) t) :
    t.view bucket key =
      { s.view bucket key with
        metadata := { (s.view bucket key).metadata with logical := some record } } := by
  obtain rfl := writeMetadata_ok (Program.ends_mapError_ok.mp h)
  simp [GatewayState.view, MetadataUpdate.run,
    MetadataStore.objectMetadata_upsertLogicalObject hrecord]
  rfl

theorem persistObjectProtectionPlan_ok {purpose : Purpose}
    {syncTargets fallbackReadOrder : List ProviderId} {now : Nat} {value : Unit}
    (h : Program.Ends handle permitted
      (persistObjectProtectionPlan purpose bucket key syncTargets fallbackReadOrder now) s
      (.ok value) t) :
    t.view bucket key =
      { s.view bucket key with
        metadata :=
          { (s.view bucket key).metadata with
            protectionPlan :=
              some (protectionPlanRecord bucket key syncTargets fallbackReadOrder now) } } := by
  obtain rfl := writeMetadata_ok (Program.ends_mapError_ok.mp h)
  have hkey : (protectionPlanRecord bucket key syncTargets fallbackReadOrder now).bucket = bucket ∧
      (protectionPlanRecord bucket key syncTargets fallbackReadOrder now).key = key := ⟨rfl, rfl⟩
  simp [GatewayState.view, MetadataUpdate.run,
    MetadataStore.objectMetadata_upsertObjectProtectionPlan hkey]
  rfl

/-- A failed row write changes nothing. -/
theorem mapError_writeMetadata_error {purpose : Purpose} {update : MetadataUpdate}
    {f : String → BlobError} {error : BlobError}
    (h : Program.Ends handle permitted ((Requests.writeMetadata purpose update).mapError f) s
      (.error error) t) : t = s := by
  obtain ⟨text, -, hwrite⟩ := Program.ends_mapError_error.mp h
  exact (writeMetadata_error hwrite).2

end Rows

/-! ## Section 4: Ways back -/

section Restore

variable {s t : GatewayState} {bucket key : String}

theorem mapError_writeMetadata_rollback {update : MetadataUpdate} {f : String → BlobError}
    {reply : Except BlobError Unit}
    (h : Program.Ends handle RollbacksSucceed
      ((Requests.writeMetadata .rollback update).mapError f) s reply t) :
    reply = .ok () ∧ t = { s with metadataStore := update.run s.metadataStore } := by
  cases reply with
  | ok value => exact ⟨rfl, writeMetadata_ok (Program.ends_mapError_ok.mp h)⟩
  | error error =>
    obtain ⟨text, -, hwrite⟩ := Program.ends_mapError_error.mp h
    exact absurd (writeMetadata_rollback hwrite).1 (by simp)

/-- The rows belong to the key. -/
structure ObjectMetadataKeyed (bucket key : String) (metadata : MetadataStore.ObjectMetadata) :
    Prop where
  placement : ∀ record, metadata.placement = some record →
    record.bucket = bucket ∧ record.key = key
  logical : ∀ record, metadata.logical = some record → record.bucket = bucket ∧ record.key = key
  protectionPlan : ∀ record, metadata.protectionPlan = some record →
    record.bucket = bucket ∧ record.key = key

theorem keyed_objectMetadata (store : MetadataStore) (bucket key : String) :
    ObjectMetadataKeyed bucket key (store.objectMetadata bucket key) where
  placement := fun _ h => MetadataStore.objectPlacement_key h
  logical := fun _ h => MetadataStore.logicalObject_key h
  protectionPlan := fun _ h => MetadataStore.objectProtectionPlan_key h

/-- Placement of a key as the write-state rollback writes it. -/
def placementRow (bucket key : String) (placed : ProviderId × Nat) : ObjectPlacementRecord :=
  ⟨placed.1.asStr, bucket, key, placed.2⟩

theorem restorePlacement_view {placed : Option (ProviderId × Nat)}
    {reply : Except BlobError Unit}
    (h : Program.Ends handle RollbacksSucceed
      (match placed with
        | some (provider, updatedAtUnixMs) =>
          (Requests.writeMetadata .rollback
            (.upsertObjectPlacement provider.asStr bucket key updatedAtUnixMs)).mapError
            (fun error => BlobError.upstream s!"failed to restore object placement: {error}")
        | none =>
          (deletePersistedObjectHomeProvider .rollback bucket key).mapError (fun error =>
            .upstream s!"failed to delete persisted object home provider: {error.display}"))
      s reply t) :
    reply = .ok () ∧
      t.view bucket key =
        { s.view bucket key with
          metadata :=
            { (s.view bucket key).metadata with
              placement := placed.map (placementRow bucket key) } } := by
  cases placed with
  | some placed =>
    obtain ⟨rfl, rfl⟩ := mapError_writeMetadata_rollback h
    refine ⟨rfl, ?_⟩
    simp [GatewayState.view, MetadataUpdate.run]
    exact ⟨rfl, rfl⟩
  | none =>
    -- two error mappings on one write
    cases reply with
    | error error =>
      obtain ⟨inner, -, hinner⟩ := Program.ends_mapError_error.mp h
      exact absurd (mapError_writeMetadata_rollback hinner).1 (by simp)
    | ok value =>
      obtain ⟨-, rfl⟩ := mapError_writeMetadata_rollback (Program.ends_mapError_ok.mp h)
      refine ⟨rfl, ?_⟩
      simp [GatewayState.view, MetadataUpdate.run]
      rfl

theorem restoreLogicalObjectRecord_view {previous : Option LogicalObjectRecord}
    (hkey : ∀ record, previous = some record → record.bucket = bucket ∧ record.key = key)
    {value : Unit}
    (h : Program.Ends handle RollbacksSucceed
      (restoreLogicalObjectRecord previous bucket key) s value t) :
    t.view bucket key =
      { s.view bucket key with
        metadata := { (s.view bucket key).metadata with logical := previous } } := by
  cases previous with
  | some record =>
    obtain ⟨reply, m, hwrite, -, rfl⟩ := Program.ends_bind.mp h
    obtain ⟨-, rfl⟩ := mapError_writeMetadata_rollback hwrite
    simp [GatewayState.view, MetadataUpdate.run,
      MetadataStore.objectMetadata_upsertLogicalObject (hkey record rfl)]
    rfl
  | none =>
    obtain ⟨reply, m, hwrite, -, rfl⟩ := Program.ends_bind.mp h
    obtain ⟨-, rfl⟩ := mapError_writeMetadata_rollback hwrite
    simp [GatewayState.view, MetadataUpdate.run]
    rfl

/-- **The write-state rollback** sets placement and logical record and leaves the plan. -/
theorem restorePreviousObjectWriteState_view {placed : Option (ProviderId × Nat)}
    {previous : Option LogicalObjectRecord}
    (hkey : ∀ record, previous = some record → record.bucket = bucket ∧ record.key = key)
    {reply : Except BlobError Unit}
    (h : Program.Ends handle RollbacksSucceed
      (restorePreviousObjectWriteState bucket key placed previous) s reply t) :
    t.view bucket key =
      { s.view bucket key with
        metadata :=
          { (s.view bucket key).metadata with
            placement := placed.map (placementRow bucket key)
            logical := previous } } := by
  rcases Program.ends_attempt.mp h with ⟨_, m, hplacement, hrest⟩ | ⟨_, m, _, herror, -, -⟩
  · obtain ⟨-, hm⟩ := restorePlacement_view hplacement
    obtain ⟨_, m', hlogical, -, rfl⟩ := Program.ends_bind.mp hrest
    rw [restoreLogicalObjectRecord_view hkey hlogical, hm]
  · exact absurd (restorePlacement_view herror).1 (by simp)

/-- Each of the three writes of the metadata rollback sets its row. -/
theorem restorePlacementRow_view {placement : Option ObjectPlacementRecord}
    (hkey : ∀ record, placement = some record → record.bucket = bucket ∧ record.key = key)
    {reply : Except BlobError Unit}
    (h : Program.Ends handle RollbacksSucceed
      (match placement with
        | some record =>
          (Requests.writeMetadata .rollback
            (.upsertObjectPlacement record.provider record.bucket record.key
              record.updatedAtUnixMs)).mapError (fun error =>
            BlobError.upstream
              s!"failed to restore object placement for {bucket}/{key}: {error}")
        | none => deletePersistedObjectHomeProvider .rollback bucket key) s reply t) :
    reply = .ok () ∧ t.view bucket key =
      { s.view bucket key with
        metadata := { (s.view bucket key).metadata with placement := placement } } := by
  cases placement with
  | some record =>
    obtain ⟨rfl, rfl⟩ := mapError_writeMetadata_rollback h
    obtain ⟨rfl, rfl⟩ := hkey record rfl
    refine ⟨rfl, ?_⟩
    simp [GatewayState.view, MetadataUpdate.run]
    rfl
  | none =>
    obtain ⟨rfl, rfl⟩ := mapError_writeMetadata_rollback h
    refine ⟨rfl, ?_⟩
    simp [GatewayState.view, MetadataUpdate.run]
    rfl

theorem restoreLogicalRow_view {logical : Option LogicalObjectRecord}
    (hkey : ∀ record, logical = some record → record.bucket = bucket ∧ record.key = key)
    {reply : Except BlobError Unit}
    (h : Program.Ends handle RollbacksSucceed
      (match logical with
        | some record => persistLogicalObjectRecord .rollback record
        | none => deleteLogicalObjectRecord .rollback bucket key) s reply t) :
    reply = .ok () ∧ t.view bucket key =
      { s.view bucket key with
        metadata := { (s.view bucket key).metadata with logical := logical } } := by
  cases logical with
  | some record =>
    obtain ⟨rfl, rfl⟩ := mapError_writeMetadata_rollback h
    refine ⟨rfl, ?_⟩
    simp [GatewayState.view, MetadataUpdate.run,
      MetadataStore.objectMetadata_upsertLogicalObject (hkey record rfl)]
    rfl
  | none =>
    obtain ⟨rfl, rfl⟩ := mapError_writeMetadata_rollback h
    refine ⟨rfl, ?_⟩
    simp [GatewayState.view, MetadataUpdate.run]
    rfl

theorem restorePlanRow_view {plan : Option ObjectProtectionPlanRecord}
    (hkey : ∀ record, plan = some record → record.bucket = bucket ∧ record.key = key)
    {reply : Except BlobError Unit}
    (h : Program.Ends handle RollbacksSucceed
      (match plan with
        | some record =>
          (Requests.writeMetadata .rollback (.upsertObjectProtectionPlan record)).mapError
            (fun error =>
              BlobError.upstream
                s!"failed to restore object protection plan for {bucket}/{key}: {error}")
        | none => deleteObjectProtectionPlan .rollback bucket key) s reply t) :
    reply = .ok () ∧ t.view bucket key =
      { s.view bucket key with
        metadata := { (s.view bucket key).metadata with protectionPlan := plan } } := by
  cases plan with
  | some record =>
    obtain ⟨rfl, rfl⟩ := mapError_writeMetadata_rollback h
    refine ⟨rfl, ?_⟩
    simp [GatewayState.view, MetadataUpdate.run,
      MetadataStore.objectMetadata_upsertObjectProtectionPlan (hkey record rfl)]
    rfl
  | none =>
    obtain ⟨rfl, rfl⟩ := mapError_writeMetadata_rollback h
    refine ⟨rfl, ?_⟩
    simp [GatewayState.view, MetadataUpdate.run]
    rfl

theorem restorePreviousObjectMetadataState_view {previous : MetadataStore.ObjectMetadata}
    (hkey : ObjectMetadataKeyed bucket key previous) {reply : Except BlobError Unit}
    (h : Program.Ends handle RollbacksSucceed
      (restorePreviousObjectMetadataState bucket key previous.placement previous.logical
        previous.protectionPlan) s reply t) :
    reply = .ok () ∧ t.view bucket key = { s.view bucket key with metadata := previous } := by
  rcases Program.ends_attempt.mp h with ⟨_, m, hfirst, hrest⟩ | ⟨_, m, _, herror, -, -⟩
  · rcases Program.ends_attempt.mp hrest with ⟨_, m', hsecond, hthird⟩ | ⟨_, m', _, herror, -, -⟩
    · obtain ⟨hreply, ht⟩ := restorePlanRow_view hkey.protectionPlan hthird
      refine ⟨hreply, ?_⟩
      rw [ht, (restoreLogicalRow_view hkey.logical hsecond).2,
        (restorePlacementRow_view hkey.placement hfirst).2]
    · exact absurd (restoreLogicalRow_view hkey.logical herror).1 (by simp)
  · exact absurd (restorePlacementRow_view hkey.placement herror).1 (by simp)

theorem readObjectMetadata_rollback {reply : Except BlobError MetadataStore.ObjectMetadata}
    (h : Program.Ends handle RollbacksSucceed (readObjectMetadata bucket key) s reply t) :
    t = s ∧ reply = .ok (s.metadataStore.objectMetadata bucket key) := by
  rcases Program.ends_attempt.mp h with ⟨placement, m, hfirst, hafter⟩ | ⟨_, m, _, herror, -, -⟩
  · obtain ⟨hplacement, rfl⟩ := readMetadata_rollback hfirst
    rcases Program.ends_attempt.mp hafter with
      ⟨logical, m', hsecond, hlast⟩ | ⟨_, m', _, herror, -, -⟩
    · obtain ⟨hlogical, rfl⟩ := readMetadata_rollback (Program.ends_mapError_ok.mp hsecond)
      rcases Program.ends_attempt.mp hlast with
        ⟨plan, m'', hthird, hend⟩ | ⟨_, m'', _, herror, -, -⟩
      · obtain ⟨hplan, rfl⟩ := readMetadata_rollback hthird
        obtain ⟨rfl, rfl⟩ := hend
        cases hplacement
        cases hlogical
        cases hplan
        exact ⟨rfl, rfl⟩
      · cases (readMetadata_rollback herror).1
    · obtain ⟨_, -, hread⟩ := Program.ends_mapError_error.mp herror
      cases (readMetadata_rollback hread).1
  · cases (readMetadata_rollback herror).1

/-- **The metadata rollback** sets all three rows. -/
theorem ensurePreviousObjectMetadataState_view {previous : MetadataStore.ObjectMetadata}
    (hkey : ObjectMetadataKeyed bucket key previous) {reply : Except BlobError Unit}
    (h : Program.Ends handle RollbacksSucceed
      (ensurePreviousObjectMetadataState bucket key previous) s reply t) :
    reply = .ok () ∧ t.view bucket key = { s.view bucket key with metadata := previous } := by
  rcases Program.ends_attempt.mp h with ⟨_, m, hrestore, hrest⟩ | ⟨_, m, _, herror, -, -⟩
  · obtain ⟨-, hm⟩ := restorePreviousObjectMetadataState_view hkey hrestore
    rcases Program.ends_attempt.mp hrest with ⟨_, m', hread, hcheck⟩ | ⟨_, m', _, herror, -, -⟩
    · obtain ⟨rfl, hrows⟩ := readObjectMetadata_rollback hread
      -- the first restore has worked, so the check succeeds
      have hsame : m'.metadataStore.objectMetadata bucket key = previous :=
        congrArg ObjectView.metadata hm
      rw [Except.ok.inj hrows, if_pos hsame] at hcheck
      obtain ⟨rfl, rfl⟩ := hcheck
      exact ⟨rfl, hm⟩
    · exact absurd (readObjectMetadata_rollback herror).2 (by simp)
  · exact absurd (restorePreviousObjectMetadataState_view hkey herror).1 (by simp)

end Restore

/-! ## Section 5: The log is out of view -/

/-- The requests that write the log. -/
def IsLogRequest : Request → Prop
  | .allocateLsn _ => True
  | .putLogRecord _ => True
  | _ => False

section Log

variable {permitted : Request → Answer → Prop} {s t : GatewayState} {bucket key : String}
  {config : GatewayConfig}

theorem handle_isLogRequest {operation : Request} {answer : Answer}
    (hlog : IsLogRequest operation) :
    (handle operation answer s).2.view bucket key = s.view bucket key := by
  cases operation with
  | allocateLsn now =>
    cases hanswer : answer.metadataError <;> simp only [handle, replyUnless, hanswer]
    rfl
  | putLogRecord record =>
    cases hanswer : answer.backendError <;> simp only [handle, replyUnless, hanswer]
    rfl
  | readMetadata purpose query => exact hlog.elim
  | writeMetadata purpose update => exact hlog.elim
  | putObject provider b k object => exact hlog.elim
  | getObject provider b k => exact hlog.elim
  | headObject provider b k => exact hlog.elim
  | deleteObject purpose provider b k => exact hlog.elim
  | copyObject provider sourceBucket sourceKey b k stamp => exact hlog.elim
  | enqueueJobs topology source operation object now => exact hlog.elim
  | pendingJobs => exact hlog.elim
  | replacePending jobs => exact hlog.elim

theorem issues_persistGatewayWriteAheadLogRecord {remoteProvider : ProviderId}
    {record : GatewayWriteAheadLogRecord} :
    (persistGatewayWriteAheadLogRecord config remoteProvider record).Issues IsLogRequest := by
  unfold persistGatewayWriteAheadLogRecord
  split
  · exact Program.issues_pure
  · split
    · exact Program.issues_issue trivial
    · exact Program.issues_pure

theorem issues_maybePrepareGatewayWriteAheadLog {remoteProvider : Option ProviderId}
    {now : Nat} {entry : LogEntry} :
    (maybePrepareGatewayWriteAheadLog config remoteProvider now entry).Issues IsLogRequest := by
  cases remoteProvider with
  | none => exact Program.issues_pure
  | some remoteProvider =>
    apply Program.issues_attempt (Program.issues_issue trivial) (fun _ => Program.issues_pure)
    intro lsn
    exact Program.issues_attempt issues_persistGatewayWriteAheadLogRecord
      (fun _ => Program.issues_pure) (fun _ => Program.issues_pure)

theorem issues_markGatewayWriteAheadLogRolledBack {context : Option GatewayWriteAheadLogContext}
    {now : Nat} :
    (markGatewayWriteAheadLogRolledBack config context now).Issues IsLogRequest := by
  cases context with
  | none => exact Program.issues_pure
  | some context =>
    simp only [markGatewayWriteAheadLogRolledBack]
    split
    · exact Program.issues_pure
    · exact Program.issues_bind issues_persistGatewayWriteAheadLogRecord
        (fun _ => Program.issues_pure)

theorem issues_markGatewayWriteAheadLogCommitted {context : Option GatewayWriteAheadLogContext}
    {now : Nat} :
    (markGatewayWriteAheadLogCommitted config context now).Issues IsLogRequest := by
  cases context with
  | none => exact Program.issues_pure
  | some context =>
    exact Program.issues_bind issues_persistGatewayWriteAheadLogRecord
      (fun _ => Program.issues_pure)

/-- A program that only writes the log leaves every object as it is. -/
theorem view_of_issues {α : Type} {p : GatewayProgram α} {a : α}
    (hp : p.Issues IsLogRequest) (h : Program.Ends handle permitted p s a t) :
    t.view bucket key = s.view bucket key :=
  Program.Ends.keeps hp (fun _ _ _ hlog => handle_isLogRequest hlog) h

end Log

end Operations

end Netdisk2Blob.Gateway
