import Netdisk2Blob.Gateway.ObjectViews

/-!
# A Failed PUT

What an upload that returns an error leaves behind, exit by exit, when the rollback
requests it issues succeed.

## Contents

- `putContext`: what the reads before the first write find
- `writeHomeObject_error`, `writeHomeObject_ok`, `finishPut_error`: the view after each stage
- `LeftAsItWas`: the object reads as before, its rows are what they were and no job of the
  upload is left
- `FailureHarmless`, `put_failure_leaves_iff`: at which exits, and for which previous
  states, a failed upload leaves the object as it was
-/

namespace Netdisk2Blob.Gateway.Operations

open Library Blob Policy Replication Metadata

/-! ## Section 1: Before the first write -/

section Prepare

variable {permitted : Request → Answer → Prop} {s t : GatewayState} {bucket key : String}
  {config : GatewayConfig} {request : PutRequest} {context : PutContext}

theorem looks_readMetadata {purpose : Purpose} {query : MetadataQuery} :
    Program.Looks handle permitted {}
      (Program.issue (Request.readMetadata purpose query) :
        GatewayProgram (Except String query.Row)) := by
  intro s result t h
  obtain ⟨answer, -, hreply⟩ := Program.ends_issue.mp h
  cases result with
  | error error =>
    rcases replyUnless_error hreply with ⟨-, hstate⟩ | hdone
    · exact ⟨hstate, fun _ houtcome => absurd houtcome (by simp)⟩
    · cases hdone
  | ok value =>
    obtain ⟨hvalue, hstate⟩ := Prod.mk.inj (replyUnless_ok hreply)
    refine ⟨hstate.symm, ?_⟩
    intro other hother
    rw [← hother, ← hvalue]
    rfl

theorem looks_placedHomeProviderRecord :
    Program.Looks handle permitted {} (placedHomeProviderRecord bucket key) :=
  Program.looks_attempt looks_readMetadata (fun _ => Program.looks_pure)

theorem looks_loadLogicalObjectRecord :
    Program.Looks handle permitted {} (loadLogicalObjectRecord .forward bucket key) :=
  Program.looks_mapError looks_readMetadata

theorem looks_loadObjectProtectionPlan :
    Program.Looks handle permitted {} (loadObjectProtectionPlan bucket key) := by
  apply Program.looks_attempt looks_readMetadata
  intro record
  cases record <;> exact Program.looks_pure

theorem looks_selectHomeWriteProvider :
    Program.Looks handle permitted {} (selectHomeWriteProvider config request) := by
  apply Program.looks_attempt _ (fun _ => Program.looks_pure)
  exact Program.looks_attempt looks_placedHomeProviderRecord (fun _ => Program.looks_pure)

theorem looks_preparePut :
    Program.Looks handle permitted {} (preparePut config request) := by
  apply Program.looks_attempt Program.looks_pure
  intro encryptionPlan
  apply Program.looks_attempt looks_selectHomeWriteProvider
  intro homeProvider
  apply Program.looks_attempt Program.looks_pure
  intro _
  apply Program.looks_attempt Program.looks_pure
  intro topology
  apply Program.looks_attempt looks_readMetadata
  intro placement
  apply Program.looks_attempt looks_placedHomeProviderRecord
  intro previousPlacement
  apply Program.looks_attempt looks_loadLogicalObjectRecord
  intro logical
  apply Program.looks_attempt looks_readMetadata
  intro plan
  apply Program.looks_attempt looks_loadObjectProtectionPlan
  intro previousPlan
  exact Program.looks_pure

/-- What an upload knows before its first write, when the store answers its reads. -/
def putContext (config : GatewayConfig) (request : PutRequest) (s : GatewayState) :
    Except S3Error PutContext :=
  (Program.eval handle {} (preparePut config request) s).1

/-- Every placement row of a key names its provider as the gateway writes it. -/
def PlacementCanonical (bucket key : String) (s : GatewayState) : Prop :=
  ∀ record, s.metadataStore.objectPlacement bucket key = some record →
    ∃ provider : ProviderId, record.provider = provider.asStr

theorem readMetadata_ok {purpose : Purpose} {query : MetadataQuery} {value : query.Row}
    (h : Program.Ends handle permitted
      (Program.issue (Request.readMetadata purpose query) :
        GatewayProgram (Except String query.Row)) s (.ok value) t) :
    value = query.run s.metadataStore ∧ t = s := by
  obtain ⟨answer, -, hreply⟩ := Program.ends_issue.mp h
  obtain ⟨hvalue, hstate⟩ := Prod.mk.inj (replyUnless_ok hreply)
  exact ⟨(Except.ok.inj hvalue).symm, hstate.symm⟩

/-- The parsed placement writes back the row it was read from. -/
theorem placedHomeProviderRecord_ok {placed : Option (ProviderId × Nat)}
    (hcanonical : PlacementCanonical bucket key s)
    (h : Program.Ends handle permitted (placedHomeProviderRecord bucket key) s (.ok placed) t) :
    placed.map (placementRow bucket key) = s.metadataStore.objectPlacement bucket key ∧
      t = s := by
  obtain ⟨placement, m, hread, hparse⟩ := Program.ends_attempt_ok.mp h
  obtain ⟨rfl, rfl⟩ := readMetadata_ok hread
  obtain ⟨hplaced, rfl⟩ := hparse
  refine ⟨?_, rfl⟩
  simp only [MetadataQuery.run] at hplaced
  cases hrow : m.metadataStore.objectPlacement bucket key with
  | none =>
    rw [hrow] at hplaced
    cases hplaced
    rfl
  | some record =>
    obtain ⟨provider, hprovider⟩ := hcanonical record hrow
    obtain ⟨hbucket, hkey⟩ := MetadataStore.objectPlacement_key hrow
    rw [hrow] at hplaced
    simp only [hprovider, ProviderId.parse_asStr] at hplaced
    cases hplaced
    simp only [Option.map_some, placementRow]
    rw [← hprovider, ← hbucket, ← hkey]

/-- **What the preparation of an upload finds.** -/
theorem preparePut_ok (hcanonical : PlacementCanonical request.bucket request.key s)
    (h : Program.Ends handle permitted (preparePut config request) s (.ok context) t) :
    t = s ∧ putContext config request s = .ok context ∧
      context.previous = s.metadataStore.objectMetadata request.bucket request.key ∧
      context.previousPlacement.map (placementRow request.bucket request.key) =
        context.previous.placement := by
  obtain ⟨hsame, heval⟩ := looks_preparePut s _ t h
  refine ⟨hsame, congrArg Prod.fst (heval context rfl), ?_⟩
  obtain ⟨encryptionPlan, m1, ⟨-, rfl⟩, h1⟩ := Program.ends_attempt_ok.mp h
  obtain ⟨homeProvider, m2, hselect, h2⟩ := Program.ends_attempt_ok.mp h1
  obtain rfl := looks_selectHomeWriteProvider.unchanged hselect
  obtain ⟨_, m3, ⟨-, rfl⟩, h3⟩ := Program.ends_attempt_ok.mp h2
  obtain ⟨topology, m4, ⟨-, rfl⟩, h4⟩ := Program.ends_attempt_ok.mp h3
  obtain ⟨placement, m5, hplacement, h5⟩ := Program.ends_attempt_ok.mp h4
  obtain ⟨rfl, rfl⟩ := readMetadata_ok hplacement
  obtain ⟨placed, m6, hplaced, h6⟩ := Program.ends_attempt_ok.mp h5
  obtain ⟨hrow, rfl⟩ := placedHomeProviderRecord_ok hcanonical hplaced
  obtain ⟨logical, m7, hlogical, h7⟩ := Program.ends_attempt_ok.mp h6
  obtain ⟨rfl, rfl⟩ := readMetadata_ok (Program.ends_mapError_ok.mp hlogical)
  obtain ⟨plan, m8, hplan, h8⟩ := Program.ends_attempt_ok.mp h7
  obtain ⟨rfl, rfl⟩ := readMetadata_ok hplan
  obtain ⟨previousPlan, m9, hprevious, h9⟩ := Program.ends_attempt_ok.mp h8
  obtain rfl := looks_loadObjectProtectionPlan.unchanged hprevious
  obtain ⟨hcontext, rfl⟩ := h9
  cases hcontext
  exact ⟨rfl, hrow⟩

end Prepare

/-! ## Section 2: The write at home -/

section WriteHome

variable {s t : GatewayState} {config : GatewayConfig} {request : PutRequest}
  {context : PutContext} {log : Option GatewayWriteAheadLogContext}

/-- What the reads of an upload found is what the state holds. -/
structure Prepared (request : PutRequest) (context : PutContext) (s : GatewayState) : Prop where
  previous : (s.view request.bucket request.key).metadata = context.previous
  placement : context.previousPlacement.map (placementRow request.bucket request.key) =
    context.previous.placement

theorem Prepared.keyed (h : Prepared request context s) :
    ObjectMetadataKeyed request.bucket request.key context.previous := by
  rw [← h.previous]
  exact keyed_objectMetadata s.metadataStore request.bucket request.key

theorem abandonUpload_view (h : Prepared request context s) {m : GatewayState}
    {error : S3Error} {failure : PutFailure}
    (hends : Program.Ends handle RollbacksSucceed
      (abandonUpload config request context log error) m failure t) :
    failure.exit = .beforeUpload ∧
      t.view request.bucket request.key =
        { m.view request.bucket request.key with
          metadata :=
            { (m.view request.bucket request.key).metadata with
              placement := context.previous.placement
              logical := context.previous.logical } } := by
  obtain ⟨_, m1, hrestore, hafter⟩ := Program.ends_bind.mp hends
  obtain ⟨_, m2, hmark, hend⟩ := Program.ends_bind.mp hafter
  obtain ⟨rfl, rfl⟩ := hend
  refine ⟨rfl, ?_⟩
  rw [view_of_issues issues_markGatewayWriteAheadLogRolledBack hmark,
    restorePreviousObjectWriteState_view h.keyed.logical hrestore, h.placement]

/-- An error before or during the upload leaves the view as it was. -/
theorem writeHomeObject_error (h : Prepared request context s) {failure : PutFailure}
    (hends : Program.Ends handle RollbacksSucceed (writeHomeObject config request context log) s
      (.error failure) t) :
    failure.exit = .beforeUpload ∧
      t.view request.bucket request.key = s.view request.bucket request.key := by
  have hprevious : context.previous = (s.view request.bucket request.key).metadata :=
    h.previous.symm
  rcases Program.ends_attempt_error.mp hends with
    ⟨error, m, hplacement, hmark⟩ | ⟨_, m1, hplacement, hafter1⟩
  · -- the placement could not be written
    obtain rfl := mapError_writeMetadata_error hplacement
    obtain ⟨_, m1, hlog, rfl, rfl⟩ := Program.ends_bind.mp hmark
    exact ⟨rfl, view_of_issues issues_markGatewayWriteAheadLogRolledBack hlog⟩
  have hview1 := persistObjectHomeProvider_ok hplacement
  rcases Program.ends_attempt_error.mp hafter1 with
    ⟨error, m, hlogical, habandon⟩ | ⟨_, m2, hlogical, hafter2⟩
  · obtain rfl := mapError_writeMetadata_error hlogical
    obtain ⟨hexit, hview⟩ := abandonUpload_view h habandon
    refine ⟨hexit, ?_⟩
    rw [hview, hview1, hprevious]
  have hview2 := persistLogicalObjectRecord_ok (context.desiredLogicalRecord_key request) hlogical
  rcases Program.ends_attempt_error.mp hafter2 with
    ⟨error, m, ⟨-, rfl⟩, habandon⟩ | ⟨body, m3, ⟨-, rfl⟩, hafter3⟩
  · obtain ⟨hexit, hview⟩ := abandonUpload_view h habandon
    refine ⟨hexit, ?_⟩
    rw [hview, hview2, hview1, hprevious]
  rcases Program.ends_attempt_error.mp hafter3 with
    ⟨error, m, hput, habandon⟩ | ⟨_, m4, hput, hend⟩
  · obtain rfl := putObject_error hput
    obtain ⟨hexit, hview⟩ := abandonUpload_view h habandon
    refine ⟨hexit, ?_⟩
    rw [hview, hview2, hview1, hprevious]
  · exact absurd hend.1 (by simp)

/-- The rows between the upload and the protection plan. -/
def uploadedMetadata (request : PutRequest) (context : PutContext) :
    MetadataStore.ObjectMetadata where
  placement :=
    some ⟨context.homeProvider.asStr, request.bucket, request.key,
      request.clock.placedAtUnixMs⟩
  logical := some (context.desiredLogicalRecord request)
  protectionPlan := context.previous.protectionPlan

theorem writeHomeObject_ok {permitted : Request → Answer → Prop}
    (h : Prepared request context s) {body : Bytes}
    (hends : Program.Ends handle permitted (writeHomeObject config request context log) s
      (.ok body) t) :
    context.uploadBody request = .ok body ∧
      t.view request.bucket request.key =
        { s.view request.bucket request.key with
          metadata := uploadedMetadata request context
          objects :=
            setObjectAt s.objects context.homeProvider request.bucket request.key
              (some (context.uploaded request body)) } := by
  obtain ⟨_, m1, hplacement, hafter1⟩ := Program.ends_attempt_ok.mp hends
  obtain ⟨_, m2, hlogical, hafter2⟩ := Program.ends_attempt_ok.mp hafter1
  obtain ⟨body', m3, ⟨hbody, rfl⟩, hafter3⟩ := Program.ends_attempt_ok.mp hafter2
  obtain ⟨_, m4, hput, hvalue, rfl⟩ := Program.ends_attempt_ok.mp hafter3
  cases hvalue
  refine ⟨hbody, ?_⟩
  have hview1 := persistObjectHomeProvider_ok hplacement
  have hview2 := persistLogicalObjectRecord_ok (context.desiredLogicalRecord_key request) hlogical
  have hobjects : m2.objects = s.objects := by
    have hstep := congrArg ObjectView.objects (hview2.trans (by rw [hview1]))
    exact hstep
  rw [putObject_ok hput, view_setObject, hview2, hview1, hobjects, h.previous]
  rfl

end WriteHome

/-! ## Section 3: After the write -/

section Finish

variable {s t : GatewayState} {config : GatewayConfig} {request : PutRequest}
  {context : PutContext} {log : Option GatewayWriteAheadLogContext}

theorem issues_verifyPutObjectVisibility {provider : ProviderId} {bucket key : String}
    {expectedSize attempts : Nat} {lastError : Option String} :
    (verifyPutObjectVisibility provider bucket key expectedSize attempts lastError).Issues
      Request.IsRead := by
  induction attempts generalizing lastError with
  | zero => exact Program.issues_pure
  | succ attempts ih =>
    apply Program.issues_bind (Program.issues_issue trivial)
    intro reply
    cases reply with
    | ok object =>
      show Program.Issues Request.IsRead (if object.size = expectedSize then _ else _)
      split
      · exact Program.issues_pure
      · exact ih
    | error error => exact ih

/-- The objects after `maybe_cleanup_failed_put_object`. -/
def cleanedUp (request : PutRequest) (context : PutContext)
    (objects : ProviderId → String → String → Option StoredObject) :
    ProviderId → String → String → Option StoredObject :=
  if context.previousPlacement.map Prod.fst = some context.homeProvider then objects
  else setObjectAt objects context.homeProvider request.bucket request.key none

theorem maybeCleanupFailedPutObject_view {value : Unit}
    (h : Program.Ends handle RollbacksSucceed (maybeCleanupFailedPutObject request context) s
      value t) :
    t.view request.bucket request.key =
      { s.view request.bucket request.key with
        objects := cleanedUp request context s.objects } := by
  unfold maybeCleanupFailedPutObject at h
  unfold cleanedUp
  split at h
  · rw [if_pos ‹_›, ← h.2]
    rfl
  · obtain ⟨_, m, hdelete, -, rfl⟩ := Program.ends_bind.mp h
    rw [if_neg ‹_›, deleteObject_rollback hdelete]
    rfl

/-- The way out of a metadata error: the rows go back, the object goes away unless the
previous home is the same. -/
theorem failAfterUpload_view (h : ObjectMetadataKeyed request.bucket request.key context.previous)
    {exit : PutExit} {error : String} {failure : PutFailure}
    (hends : Program.Ends handle RollbacksSucceed (failAfterUpload request context exit error) s
      failure t) :
    failure.exit = exit ∧
      t.view request.bucket request.key =
        { s.view request.bucket request.key with
          metadata := context.previous
          objects := cleanedUp request context s.objects } := by
  obtain ⟨note, m, hrollback, rfl, rfl⟩ := Program.ends_bind.mp hends
  refine ⟨rfl, ?_⟩
  obtain ⟨_, m1, hrestore, hafter⟩ := Program.ends_bind.mp hrollback
  obtain ⟨_, m2, hcleanup, -, rfl⟩ := Program.ends_bind.mp hafter
  obtain ⟨-, hview⟩ := ensurePreviousObjectMetadataState_view h hrestore
  have hobjects : m1.objects = s.objects := congrArg ObjectView.objects hview
  rw [maybeCleanupFailedPutObject_view hcleanup, hview, hobjects]

/-- The way out of a rejected upload: placement and logical record go back. -/
theorem rejectUpload_view (h : Prepared request context s) {exit : PutExit} {error : S3Error}
    {cleanup : GatewayProgram Unit}
    (f : (ProviderId → String → String → Option StoredObject) →
      ProviderId → String → String → Option StoredObject)
    (hcleanup : ∀ {m m' : GatewayState} {value : Unit},
      Program.Ends handle RollbacksSucceed cleanup m value m' →
      m'.view request.bucket request.key =
        { m.view request.bucket request.key with objects := f m.objects })
    {m : GatewayState} {failure : PutFailure}
    (hends : Program.Ends handle RollbacksSucceed
      (rejectUpload config request context log exit error cleanup) m failure t) :
    failure.exit = exit ∧
      t.view request.bucket request.key =
        { m.view request.bucket request.key with
          metadata :=
            { (m.view request.bucket request.key).metadata with
              placement := context.previous.placement
              logical := context.previous.logical }
          objects := f m.objects } := by
  obtain ⟨_, m1, hrestore, hafter1⟩ := Program.ends_bind.mp hends
  obtain ⟨_, m2, hclean, hafter2⟩ := Program.ends_bind.mp hafter1
  obtain ⟨_, m3, hmark, hend⟩ := Program.ends_bind.mp hafter2
  obtain ⟨rfl, rfl⟩ := hend
  refine ⟨rfl, ?_⟩
  have hview := restorePreviousObjectWriteState_view h.keyed.logical hrestore
  have hobjects : m1.objects = m.objects := congrArg ObjectView.objects hview
  rw [view_of_issues issues_markGatewayWriteAheadLogRolledBack hmark, hcleanup hclean, hview,
    h.placement, hobjects]

/-- The jobs of an upload go to the back of the queue. -/
theorem enqueuePutJobs_view {permitted : Request → Answer → Prop} {etag : Option String}
    {jobs : List ReplicationJob}
    (h : Program.Ends handle permitted (enqueuePutJobs request context etag) s jobs t) :
    t.view request.bucket request.key =
        { s.view request.bucket request.key with
          pending := s.replication.pendingJobs ++ jobs } ∧
      (jobs = [] ↔
        ∀ target ∈ context.topology.syncTargets ++ context.removedSyncTargets,
          target = context.homeProvider) := by
  have hnames : ∀ targets : List ProviderId,
      (∀ target ∈ targets, some context.homeProvider.asStr = some target.asStr) ↔
        ∀ target ∈ targets, target = context.homeProvider := by
    intro targets
    constructor
    · intro hall target htarget
      exact ProviderId.asStr_injective (Option.some.inj (hall target htarget)).symm
    · intro hall target htarget
      rw [hall target htarget]
  obtain ⟨puts, m, hputs, hafter⟩ := Program.ends_bind.mp h
  obtain ⟨rfl, rfl⟩ := enqueueJobs_reply hputs
  by_cases hremoved : context.removedSyncTargets.isEmpty = true
  · rw [if_pos hremoved] at hafter
    obtain ⟨rfl, rfl⟩ := hafter
    rw [List.isEmpty_iff] at hremoved
    refine ⟨rfl, ?_⟩
    rw [hremoved, List.append_nil, ← hnames]
    exact ReplicationEngine.createJobs_eq_nil
  · rw [if_neg hremoved] at hafter
    obtain ⟨deletes, m', hdeletes, rfl, rfl⟩ := Program.ends_bind.mp hafter
    obtain ⟨rfl, rfl⟩ := enqueueJobs_reply hdeletes
    constructor
    · show ObjectView.mk _ _ _ _ = ObjectView.mk _ _ _ _
      congr 1
      exact List.append_assoc _ _ _
    · rw [List.append_eq_nil_iff, List.forall_mem_append, ← hnames, ← hnames]
      exact and_congr ReplicationEngine.createJobs_eq_nil ReplicationEngine.createJobs_eq_nil

/-- The rows that an exit after the upload leaves. -/
def metadataAfter (request : PutRequest) (context : PutContext) :
    PutExit → MetadataStore.ObjectMetadata
  | .etagOverride => uploadedMetadata request context
  | _ => context.previous

/-- The objects that an exit after the upload leaves. -/
def objectsAfter (request : PutRequest) (context : PutContext)
    (objects : ProviderId → String → String → Option StoredObject) :
    PutExit → ProviderId → String → String → Option StoredObject
  | .payloadHash => setObjectAt objects context.homeProvider request.bucket request.key none
  | .etagOverride => objects
  | _ => cleanedUp request context objects

/-- **What a failure after the upload leaves**, with the jobs it leaves on the queue. -/
theorem finishPut_error (h : Prepared request context s) {m : GatewayState}
    (hm : (m.view request.bucket request.key).metadata = uploadedMetadata request context)
    {failure : PutFailure}
    (hends : Program.Ends handle RollbacksSucceed (finishPut config request context log) m
      (.error failure) t) :
    failure.exit ≠ .beforeUpload ∧
      ∃ jobs,
        t.view request.bucket request.key =
          ⟨metadataAfter request context failure.exit, m.metadataStore.replicationJobs,
            m.replication.pendingJobs ++ jobs,
            objectsAfter request context m.objects failure.exit⟩ ∧
        (failure.exit ≠ .replicationJobs → jobs = []) ∧
        (failure.exit = .replicationJobs → (jobs = [] ↔
          ∀ target ∈ context.topology.syncTargets ++ context.removedSyncTargets,
            target = context.homeProvider)) := by
  have hnil : m.replication.pendingJobs ++ [] = m.replication.pendingJobs := List.append_nil _
  rcases Program.ends_attempt_error.mp hends with
    ⟨error, m1, ⟨-, rfl⟩, hreject⟩ | ⟨_, m1, ⟨-, rfl⟩, hafter1⟩
  · -- the hash of the payload does not match
    obtain ⟨hexit, hview⟩ := rejectUpload_view h
      (fun objects => setObjectAt objects context.homeProvider request.bucket request.key none)
      (fun hclean => by
        obtain ⟨_, m', hdelete, -, rfl⟩ := Program.ends_bind.mp hclean
        rw [deleteObject_rollback hdelete, view_setObject]) hreject
    rw [hexit]
    refine ⟨by decide, [], ?_, fun _ => rfl, fun hjobs => absurd hjobs (by decide)⟩
    rw [hview, hm, hnil]
    rfl
  rcases Program.ends_attempt_error.mp hafter1 with
    ⟨error, m2, ⟨-, rfl⟩, hend⟩ | ⟨etag, m2, ⟨-, rfl⟩, hafter2⟩
  · -- the etag could not be resolved: nothing is restored
    obtain ⟨rfl, rfl⟩ := hend
    refine ⟨by simp, [], ?_, fun _ => rfl, fun hjobs => absurd hjobs (by simp)⟩
    rw [hnil]
    show ObjectView.mk _ _ _ _ = ObjectView.mk (uploadedMetadata request context) _ _ _
    rw [← hm]
    rfl
  rcases Program.ends_attempt_error.mp hafter2 with
    ⟨error, m3, hverify, hreject⟩ | ⟨_, m3, hverify, hafter3⟩
  · obtain rfl : m3 = m := Program.Ends.unchanged issues_verifyPutObjectVisibility
      (fun _ _ _ hread => handle_isRead hread) hverify
    obtain ⟨hexit, hview⟩ := rejectUpload_view h (cleanedUp request context)
      (fun hclean => maybeCleanupFailedPutObject_view hclean) hreject
    rw [hexit]
    refine ⟨by decide, [], ?_, fun _ => rfl, fun hjobs => absurd hjobs (by decide)⟩
    rw [hview, hm, hnil]
    rfl
  obtain rfl : m3 = m := Program.Ends.unchanged issues_verifyPutObjectVisibility
    (fun _ _ _ hread => handle_isRead hread) hverify
  rcases Program.ends_attempt_error.mp hafter3 with
    ⟨error, m4, hplan, hfail⟩ | ⟨_, m4, hplan, hafter4⟩
  · obtain rfl := mapError_writeMetadata_error hplan
    obtain ⟨hexit, hview⟩ := failAfterUpload_view h.keyed hfail
    rw [hexit]
    refine ⟨by decide, [], ?_, fun _ => rfl, fun hjobs => absurd hjobs (by decide)⟩
    rw [hview, hnil]
    rfl
  have hview4 := persistObjectProtectionPlan_ok hplan
  rcases Program.ends_attempt_error.mp hafter4 with
    ⟨error, m5, hlogical, hfail⟩ | ⟨_, m5, hlogical, hafter5⟩
  · obtain rfl := mapError_writeMetadata_error hlogical
    obtain ⟨hexit, hview⟩ := failAfterUpload_view h.keyed hfail
    have hobjects : m5.objects = m3.objects := congrArg ObjectView.objects hview4
    rw [hexit]
    refine ⟨by decide, [], ?_, fun _ => rfl, fun hjobs => absurd hjobs (by decide)⟩
    rw [hview, hview4, hobjects, hnil]
    rfl
  have hview5 := persistLogicalObjectRecord_ok
    (by exact context.desiredLogicalRecord_key request) hlogical
  obtain ⟨jobs, m6, henqueue, hafter6⟩ := Program.ends_bind.mp hafter5
  obtain ⟨hview6, hjobs⟩ := enqueuePutJobs_view henqueue
  rcases Program.ends_attempt_error.mp hafter6 with
    ⟨error, m7, hpersist, hfail⟩ | ⟨_, m7, -, hcommit⟩
  · obtain rfl := (writeMetadata_error hpersist).2
    obtain ⟨hexit, hview⟩ := failAfterUpload_view h.keyed hfail
    have hobjects : m7.objects = m3.objects :=
      (congrArg ObjectView.objects hview6).trans
        ((congrArg ObjectView.objects hview5).trans (congrArg ObjectView.objects hview4))
    have hpending : m5.replication.pendingJobs = m3.replication.pendingJobs :=
      (congrArg ObjectView.pending hview5).trans (congrArg ObjectView.pending hview4)
    rw [hexit]
    refine ⟨by decide, jobs, ?_, fun hne => absurd rfl hne, fun _ => hjobs⟩
    rw [hview, hview6, hview5, hview4, hobjects, hpending]
    rfl
  · obtain ⟨_, m8, -, herror, -⟩ := Program.ends_bind.mp hcommit
    exact absurd herror (by simp)

/-- What follows a successful write leaves the objects alone and answers with the etag of
the override, if there is one. -/
theorem finishPut_ok {permitted : Request → Answer → Prop} {m : GatewayState}
    {etag : Option String}
    (hends : Program.Ends handle permitted (finishPut config request context log) m (.ok etag) t) :
    ((request.etagOverride = none ∧ etag = request.stamp.etag) ∨
        ∃ resolved, request.etagOverride = some (.ok resolved) ∧ etag = some resolved) ∧
      t.objects = m.objects := by
  obtain ⟨_, m1, ⟨-, rfl⟩, hafter1⟩ := Program.ends_attempt_ok.mp hends
  obtain ⟨effective, m2, ⟨heffective, rfl⟩, hafter2⟩ := Program.ends_attempt_ok.mp hafter1
  obtain ⟨_, m3, hverify, hafter3⟩ := Program.ends_attempt_ok.mp hafter2
  obtain rfl : m3 = m := Program.Ends.unchanged issues_verifyPutObjectVisibility
    (fun _ _ _ hread => handle_isRead hread) hverify
  obtain ⟨_, m4, hplan, hafter4⟩ := Program.ends_attempt_ok.mp hafter3
  obtain ⟨_, m5, hlogical, hafter5⟩ := Program.ends_attempt_ok.mp hafter4
  obtain ⟨jobs, m6, henqueue, hafter6⟩ := Program.ends_bind.mp hafter5
  obtain ⟨_, m7, hpersist, hafter7⟩ := Program.ends_attempt_ok.mp hafter6
  obtain ⟨_, m8, hcommit, hvalue, rfl⟩ := Program.ends_bind.mp hafter7
  cases hvalue
  constructor
  · split at heffective
    · exact Or.inl ⟨‹_›, (Except.ok.inj heffective).symm⟩
    · exact Or.inr ⟨_, ‹_›, (Except.ok.inj heffective).symm⟩
    · cases heffective
  · have hlogical5 := persistLogicalObjectRecord_ok
      (by exact context.desiredLogicalRecord_key request) hlogical
    have h4 : m4.objects = m3.objects :=
      congrArg ObjectView.objects (persistObjectProtectionPlan_ok hplan)
    have h5 : m5.objects = m4.objects := congrArg ObjectView.objects hlogical5
    have h6 : m6.objects = m5.objects :=
      congrArg ObjectView.objects (enqueuePutJobs_view henqueue).1
    have h7 : m7.objects = m6.objects := by rw [writeMetadata_ok hpersist]
    have hview : m8.view request.bucket request.key = m7.view request.bucket request.key :=
      view_of_issues issues_markGatewayWriteAheadLogCommitted hcommit
    have h8 : m8.objects = m7.objects := congrArg ObjectView.objects hview
    rw [h8, h7, h6, h5, h4]

/-- **A successful upload** has stored its body at the home provider. -/
theorem executePutUpload_ok {permitted : Request → Answer → Prop} {etag : Option String}
    (h : Program.Ends handle permitted (executePutUpload config request) s (.ok etag) t) :
    ((request.etagOverride = none ∧ etag = request.stamp.etag) ∨
        ∃ resolved, request.etagOverride = some (.ok resolved) ∧ etag = some resolved) ∧
      ∃ (context : PutContext) (body : Bytes), context.uploadBody request = .ok body ∧
        t.objects context.homeProvider request.bucket request.key =
          some (context.uploaded request body) := by
  obtain ⟨context, m1, -, hafter1⟩ := Program.ends_attempt_ok.mp h
  obtain ⟨log, m2, -, hafter2⟩ := Program.ends_attempt_ok.mp hafter1
  obtain ⟨_, m3, hwrite, hfinish⟩ := Program.ends_attempt_ok.mp hafter2
  obtain ⟨hetag, hobjects⟩ := finishPut_ok hfinish
  refine ⟨hetag, context, ?_⟩
  obtain ⟨_, w1, -, hwrite1⟩ := Program.ends_attempt_ok.mp hwrite
  obtain ⟨_, w2, -, hwrite2⟩ := Program.ends_attempt_ok.mp hwrite1
  obtain ⟨body, w3, ⟨hbody, rfl⟩, hwrite3⟩ := Program.ends_attempt_ok.mp hwrite2
  obtain ⟨_, w4, hput, -, rfl⟩ := Program.ends_attempt_ok.mp hwrite3
  refine ⟨body, hbody, ?_⟩
  rw [hobjects, putObject_ok hput]
  simp [GatewayState.setObject]

end Finish

/-! ## Section 4: When a failed upload leaves the object as it was -/

/-- The object reads as before, its rows are what they were, and no job of the upload is
queued or in the store. -/
structure LeftAsItWas (config : GatewayConfig) (bucket key : String) (s t : GatewayState) :
    Prop where
  read : readContent config bucket key t = readContent config bucket key s
  metadata : t.metadataStore.objectMetadata bucket key = s.metadataStore.objectMetadata bucket key
  pending : t.replication.pendingJobs = s.replication.pendingJobs
  jobs : t.metadataStore.replicationJobs = s.metadataStore.replicationJobs

/-- The object that the upload stores, if its body can be built. -/
def uploadedObject (request : PutRequest) (context : PutContext) : Option StoredObject :=
  match context.uploadBody request with
  | .ok body => some (context.uploaded request body)
  | .error _ => none

/-- The previous state with the object at the home provider gone. -/
def erased (request : PutRequest) (context : PutContext) (s : GatewayState) : GatewayState :=
  s.setObject context.homeProvider request.bucket request.key none

/-- The previous state with the object at the home provider replaced by the uploaded one. -/
def replaced (request : PutRequest) (context : PutContext) (s : GatewayState) : GatewayState :=
  s.setObject context.homeProvider request.bucket request.key (uploadedObject request context)

/-- The object was at the same home before. -/
def SameHome (context : PutContext) : Prop :=
  context.previousPlacement.map Prod.fst = some context.homeProvider

/-- A GET of the previous state does not notice what the cleanup of an upload leaves at the
home provider: the new object if the object was there before, else nothing. -/
def CleanupUnnoticed (config : GatewayConfig) (request : PutRequest) (context : PutContext)
    (s : GatewayState) : Prop :=
  (SameHome context →
    readContent config request.bucket request.key (replaced request context s) =
      readContent config request.bucket request.key s) ∧
  (¬ SameHome context →
    readContent config request.bucket request.key (erased request context s) =
      readContent config request.bucket request.key s)

/-- The previous states that an error at each exit does not damage. -/
def FailureHarmless (config : GatewayConfig) (request : PutRequest) (context : PutContext)
    (s : GatewayState) : PutExit → Prop
  | .beforeUpload => True
  | .payloadHash =>
    readContent config request.bucket request.key (erased request context s) =
      readContent config request.bucket request.key s
  | .etagOverride =>
    uploadedMetadata request context = context.previous ∧
      readContent config request.bucket request.key (replaced request context s) =
        readContent config request.bucket request.key s
  | .verification | .protectionPlan | .logicalRecord =>
    CleanupUnnoticed config request context s
  | .replicationJobs =>
    CleanupUnnoticed config request context s ∧
      ∀ target ∈ context.topology.syncTargets ++ context.removedSyncTargets,
        target = context.homeProvider

/-- The condition on the request and the state before it. -/
def PutHarmless (config : GatewayConfig) (request : PutRequest) (s : GatewayState)
    (exit : PutExit) : Prop :=
  exit = .beforeUpload ∨
    ∃ context, putContext config request s = .ok context ∧
      FailureHarmless config request context s exit

section Main

variable {s t : GatewayState} {config : GatewayConfig} {request : PutRequest}
  {context : PutContext}

theorem leftAsItWas_of_view
    (h : t.view request.bucket request.key = s.view request.bucket request.key) :
    LeftAsItWas config request.bucket request.key s t where
  read := GatewayState.readContent_of_view config (congrArg ObjectView.metadata h)
    (congrArg ObjectView.jobs h) (congrArg ObjectView.objects h)
  metadata := congrArg ObjectView.metadata h
  pending := congrArg ObjectView.pending h
  jobs := congrArg ObjectView.jobs h

/-- What is left after a failure, compared with what was there before. -/
theorem leftAsItWas_iff {metadata : MetadataStore.ObjectMetadata} {jobs : List ReplicationJob}
    {object : Option StoredObject}
    (h : t.view request.bucket request.key =
      ⟨metadata, s.metadataStore.replicationJobs, s.replication.pendingJobs ++ jobs,
        setObjectAt s.objects context.homeProvider request.bucket request.key object⟩) :
    LeftAsItWas config request.bucket request.key s t ↔
      (metadata = s.metadataStore.objectMetadata request.bucket request.key ∧
        readContent config request.bucket request.key
            (s.setObject context.homeProvider request.bucket request.key object) =
          readContent config request.bucket request.key s) ∧ jobs = [] := by
  have hmetadata : t.metadataStore.objectMetadata request.bucket request.key = metadata :=
    congrArg ObjectView.metadata h
  have hpending : t.replication.pendingJobs = s.replication.pendingJobs ++ jobs :=
    congrArg ObjectView.pending h
  -- once the rows are back, the GET sees the previous state with one object changed
  have hread : metadata = s.metadataStore.objectMetadata request.bucket request.key →
      readContent config request.bucket request.key t =
        readContent config request.bucket request.key
          (s.setObject context.homeProvider request.bucket request.key object) := by
    intro hback
    apply GatewayState.readContent_of_view
    · rw [h]
      exact hback
    · rw [h]
      rfl
    · rw [h]
      rfl
  constructor
  · intro hleft
    have hback : metadata = s.metadataStore.objectMetadata request.bucket request.key :=
      hmetadata.symm.trans hleft.metadata
    refine ⟨⟨hback, (hread hback).symm.trans hleft.read⟩, ?_⟩
    have hqueue := hpending.symm.trans hleft.pending
    exact List.append_right_eq_self.mp hqueue
  · rintro ⟨⟨hback, hsame⟩, hjobs⟩
    exact
      { read := (hread hback).trans hsame
        metadata := hmetadata.trans hback
        pending := by rw [hpending, hjobs, List.append_nil]
        jobs := congrArg ObjectView.jobs h }

/-- What an exit after the upload leaves at the home provider. -/
def homeAfter (context : PutContext) (object : Option StoredObject) :
    PutExit → Option StoredObject
  | .payloadHash => none
  | .etagOverride => object
  | _ => if context.previousPlacement.map Prod.fst = some context.homeProvider then object else none

/-- The objects after each exit, as one change of the previous state. -/
theorem objectsAfter_eq {objects : ProviderId → String → String → Option StoredObject}
    {object : Option StoredObject} {exit : PutExit} :
    objectsAfter request context
        (setObjectAt objects context.homeProvider request.bucket request.key object) exit =
      setObjectAt objects context.homeProvider request.bucket request.key
        (homeAfter context object exit) := by
  cases exit <;> simp only [objectsAfter, homeAfter, cleanedUp, setObjectAt_setObjectAt] <;>
    split <;> simp

theorem putHarmless_iff {exit : PutExit} (hexit : exit ≠ .beforeUpload)
    (hcontext : putContext config request s = .ok context) :
    PutHarmless config request s exit ↔ FailureHarmless config request context s exit := by
  constructor
  · rintro (hbefore | ⟨other, hother, hharmless⟩)
    · exact absurd hbefore hexit
    · rw [hcontext] at hother
      cases hother
      exact hharmless
  · intro hharmless
    exact Or.inr ⟨context, hcontext, hharmless⟩

/-- The condition of an exit after the upload says that its rows are the previous ones, its
change at home goes unnoticed and it leaves no job. -/
theorem afterUpload_iff {exit : PutExit} {jobs : List ReplicationJob}
    (hexit : exit ≠ .beforeUpload) (hnil : exit ≠ .replicationJobs → jobs = [])
    (hcreated : exit = .replicationJobs → (jobs = [] ↔
      ∀ target ∈ context.topology.syncTargets ++ context.removedSyncTargets,
        target = context.homeProvider)) :
    ((metadataAfter request context exit = context.previous ∧
        readContent config request.bucket request.key
            (s.setObject context.homeProvider request.bucket request.key
              (homeAfter context (uploadedObject request context) exit)) =
          readContent config request.bucket request.key s) ∧ jobs = []) ↔
      FailureHarmless config request context s exit := by
  have hcleanup : CleanupUnnoticed config request context s ↔
      readContent config request.bucket request.key
          (s.setObject context.homeProvider request.bucket request.key
            (if context.previousPlacement.map Prod.fst = some context.homeProvider
              then uploadedObject request context else none)) =
        readContent config request.bucket request.key s := by
    unfold CleanupUnnoticed SameHome replaced erased
    split
    · exact ⟨fun h => h.1 ‹_›, fun h => ⟨fun _ => h, fun hnot => absurd ‹_› hnot⟩⟩
    · exact ⟨fun h => h.2 ‹_›, fun h => ⟨fun hsame => absurd hsame ‹_›, fun _ => h⟩⟩
  cases exit with
  | beforeUpload => exact absurd rfl hexit
  | payloadHash => simp [metadataAfter, homeAfter, FailureHarmless, erased, hnil]
  | etagOverride => simp [metadataAfter, homeAfter, FailureHarmless, replaced, hnil]
  | verification => simp [metadataAfter, homeAfter, FailureHarmless, hcleanup, hnil]
  | protectionPlan => simp [metadataAfter, homeAfter, FailureHarmless, hcleanup, hnil]
  | logicalRecord => simp [metadataAfter, homeAfter, FailureHarmless, hcleanup, hnil]
  | replicationJobs => simp only [metadataAfter, homeAfter, FailureHarmless, hcleanup, hcreated rfl, true_and]

/-- **A failed upload leaves the object as it was exactly when its exit does no harm to the
previous state.** -/
theorem put_failure_leaves_iff (hcanonical : PlacementCanonical request.bucket request.key s)
    {failure : PutFailure}
    (h : Program.Ends handle RollbacksSucceed (executePutUpload config request) s
      (.error failure) t) :
    LeftAsItWas config request.bucket request.key s t ↔
      PutHarmless config request s failure.exit := by
  rcases Program.ends_attempt_error.mp h with
    ⟨error, m, hprepare, hend⟩ | ⟨context, m, hprepare, hafter1⟩
  · -- nothing has been written
    obtain ⟨rfl, rfl⟩ := hend
    obtain rfl := looks_preparePut.unchanged hprepare
    exact iff_of_true (leftAsItWas_of_view rfl) (Or.inl rfl)
  obtain ⟨rfl, hcontext, hprevious, hplaced⟩ := preparePut_ok hcanonical hprepare
  rcases Program.ends_attempt_error.mp hafter1 with
    ⟨error, m1, hlog, hend⟩ | ⟨log, m1, hlog, hafter2⟩
  · -- the log record could not be written
    obtain ⟨rfl, rfl⟩ := hend
    exact iff_of_true
      (leftAsItWas_of_view (view_of_issues issues_maybePrepareGatewayWriteAheadLog hlog))
      (Or.inl rfl)
  have hview1 : m1.view request.bucket request.key = m.view request.bucket request.key :=
    view_of_issues issues_maybePrepareGatewayWriteAheadLog hlog
  have hprepared : Prepared request context m1 :=
    { previous := (congrArg ObjectView.metadata (hview1)).trans hprevious.symm
      placement := hplaced }
  rcases Program.ends_attempt_error.mp hafter2 with
    ⟨error, m2, hwrite, hend⟩ | ⟨body, m2, hwrite, hfinish⟩
  · obtain ⟨rfl, rfl⟩ := hend
    obtain ⟨hexit, hview⟩ := writeHomeObject_error hprepared hwrite
    exact iff_of_true (leftAsItWas_of_view (hview.trans hview1)) (Or.inl hexit)
  obtain ⟨hbody, hview2⟩ := writeHomeObject_ok hprepared hwrite
  obtain ⟨hafter, jobs, hview, hnil, hcreated⟩ :=
    finishPut_error hprepared (congrArg ObjectView.metadata hview2) hfinish
  have huploaded : uploadedObject request context = some (context.uploaded request body) := by
    rw [uploadedObject, hbody]
  -- the view before the failure, in terms of the previous state
  have hobjects2 : m2.objects = setObjectAt m.objects context.homeProvider request.bucket
      request.key (uploadedObject request context) := by
    have hobjects1 : m1.objects = m.objects := congrArg ObjectView.objects hview1
    rw [huploaded, ← hobjects1]
    exact congrArg ObjectView.objects hview2
  have hjobs2 : m2.metadataStore.replicationJobs = m.metadataStore.replicationJobs :=
    (congrArg ObjectView.jobs hview2).trans (congrArg ObjectView.jobs hview1)
  have hpending2 : m2.replication.pendingJobs = m.replication.pendingJobs :=
    (congrArg ObjectView.pending hview2).trans (congrArg ObjectView.pending hview1)
  rw [hobjects2, objectsAfter_eq, hjobs2, hpending2] at hview
  rw [leftAsItWas_iff hview, putHarmless_iff hafter hcontext, ← hprevious]
  exact afterUpload_iff hafter hnil hcreated

end Main

/-! ## Section 5: Sample uploads -/

/-- One sync target, which is also the fallback. -/
def onedriveBackup : TopologyPolicy where
  primaryProvider := .unicom
  syncTargets := [.onedrive]
  fallbackReadOrder := [.onedrive]
  onedriveEnabled := true
  replicationMode := .asyncBackup

def sampleGateway : GatewayConfig where
  topology := onedriveBackup
  configured := fun _ => true
  canWrite := fun _ => true
  streamingPut := fun _ => true
  streamingGet := fun _ => true
  maxInMemoryObjectBytes := 1024
  onedriveMatchesObject := fun _ _ => true
  decryptDownload := fun _ stored => .ok stored
  sha256Hex := id
  httpLastModified := id

/-- A plain upload of two bytes to `bucket-a/hello.txt`. -/
def samplePut : PutRequest where
  bucket := "bucket-a"
  key := "hello.txt"
  applicationId := "app"
  plaintextSize := 2
  contentType := some "text/plain"
  body := [7, 8]
  payloadValidation := none
  etagOverride := none
  encryptionPlan := .ok none
  quota := fun _ => .ok ()
  writeCandidates := .ok ([.unicom], none)
  effectiveTopology := fun _ => .ok onedriveBackup
  logProvider := none
  clock := ⟨20, 21, 22, 23, 24, 25⟩
  stamp := ⟨some "etag-2", none⟩

def emptyGateway : GatewayState where
  metadataStore := MetadataStore.openFresh {}
  replication := ReplicationEngine.withRecentLimit 8
  objects := fun _ _ _ => none
  logRecords := []

/-- An earlier version of the object, stored at the same home. -/
def storedGateway : GatewayState :=
  { emptyGateway.setObject .unicom "bucket-a" "hello.txt"
      (some ⟨[1], some "text/plain", some "etag-1", none⟩) with
    metadataStore :=
      (emptyGateway.metadataStore.upsertObjectPlacement "unicom" "bucket-a" "hello.txt"
        10).upsertLogicalObject
          { buildPlaintextLogicalRecord samplePut with
            etag := some "etag-1"
            plaintextSize := 1
            storedSize := 1
            updatedAtUnixMs := 10 } }

theorem placementCanonical_storedGateway :
    PlacementCanonical "bucket-a" "hello.txt" storedGateway := by
  intro record hrecord
  have hrow : storedGateway.metadataStore.objectPlacement "bucket-a" "hello.txt" =
      some ⟨"unicom", "bucket-a", "hello.txt", 10⟩ := rfl
  rw [hrow] at hrecord
  cases hrecord
  exact ⟨.unicom, rfl⟩

/-- The home backend refuses the upload: the answers to its requests. -/
def refusedUpload : List Answer :=
  List.replicate 8 Answer.done ++ [.backendFails (.upstream "refused"), .done, .done]

theorem put_failure_leaves_iff_refused :
    ∃ t,
      Program.Ends handle RollbacksSucceed (executePutUpload sampleGateway samplePut)
        storedGateway (.error ⟨.beforeUpload, .internalError "refused"⟩) t ∧
      (LeftAsItWas sampleGateway "bucket-a" "hello.txt" storedGateway t ↔
        PutHarmless sampleGateway samplePut storedGateway .beforeUpload) ∧
      PutHarmless sampleGateway samplePut storedGateway .beforeUpload := by
  have hrun : Program.exec handle RollbacksSucceed (executePutUpload sampleGateway samplePut)
      storedGateway refusedUpload = some (.error ⟨.beforeUpload, .internalError "refused"⟩, _) :=
    rfl
  exact ⟨_, Program.ends_of_exec hrun,
    put_failure_leaves_iff placementCanonical_storedGateway (Program.ends_of_exec hrun),
    Or.inl rfl⟩

/-- The same upload with a payload hash that its body does not have. -/
def mismatchedPut : PutRequest :=
  { samplePut with payloadValidation := some ⟨"00", some "ff"⟩ }

/-- The earlier version is gone, although the placement still names its provider. -/
theorem mismatched_put_erases :
    ∃ failure t,
      Program.Ends handle RollbacksSucceed (executePutUpload sampleGateway mismatchedPut)
        storedGateway (.error failure) t ∧
      failure.exit = .payloadHash ∧
      readContent sampleGateway "bucket-a" "hello.txt" storedGateway =
        .ok ⟨[1], 1, "text/plain", "etag-1", none⟩ ∧
      readContent sampleGateway "bucket-a" "hello.txt" t =
        .error (.noSuchKey "bucket-a" "hello.txt") ∧
      t.metadataStore.objectPlacement "bucket-a" "hello.txt" =
        some ⟨"unicom", "bucket-a", "hello.txt", 10⟩ ∧
      ¬ LeftAsItWas sampleGateway "bucket-a" "hello.txt" storedGateway t := by
  have hrun : Program.exec handle RollbacksSucceed (executePutUpload sampleGateway mismatchedPut)
      storedGateway (List.replicate 12 Answer.done) = some (.error _, _) := rfl
  have hbefore : readContent sampleGateway "bucket-a" "hello.txt" storedGateway =
      .ok ⟨[1], 1, "text/plain", "etag-1", none⟩ := rfl
  refine ⟨_, _, Program.ends_of_exec hrun, rfl, hbefore, rfl, rfl, ?_⟩
  intro hleft
  have hsame := hleft.read
  rw [hbefore] at hsame
  exact absurd hsame (by rintro ⟨⟩)

end Netdisk2Blob.Gateway.Operations
