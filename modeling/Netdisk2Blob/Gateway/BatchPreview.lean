import Netdisk2Blob.ControlPlane.SmbSidecar
import Netdisk2Blob.Gateway.BatchRuns
import Mathlib.Data.List.Infix

/-!
# Previews of Object Batches

`preview_object_batch` plans a batch: it checks the request, finds the objects in the selection
that a listing left, and says of every object whether the batch may act on it. Only when it may
act on all of them is there a plan. `revalidate_object_batch_plan_item` says the same of a planned
object again, once before the batch starts and once before every action, and is code of its own.

Both read the gateway through a `BatchView`: the home of a key, the backends, and the metadata
of the store. That nothing changes between a preview and an execution is that both have the
same view.

## Contents

- `previewObjectBatch`: the preview, with what it leaves in the runtime state
- `revalidateObjectBatchPlanItem`: the revalidation of a planned object
- `preview_agrees`: object by object the two say the same
- `preview_agrees_with_revalidation`: what a preview promises of the execution of its plan
-/

namespace Netdisk2Blob.Gateway

open Library Text Blob Policy ControlPlane Metadata

/-! ## Section 1: What both of them read -/

/-- A backend as a batch sees it. -/
structure BatchBackend where
  canWrite : Bool
  canDelete : Bool
  headObject : String → String → Except BlobError ObjectInfo
  headContainer : String → Except BlobError Unit

structure BatchView where
  primaryProvider : ProviderId
  backends : ProviderId → Option BatchBackend
  objectPlacement : String → String → Except String (Option ObjectPlacementRecord)
  logicalObject : String → String → Except String (Option LogicalObjectRecord)
  objectProtectionPlan : String → String → Except String (Option ObjectProtectionPlanRecord)
  topologyFingerprint : String

namespace BatchView

def placedHomeProvider (view : BatchView) (bucket key : String) :
    Except BlobError (Option ProviderId) :=
  match view.objectPlacement bucket key with
  | .error error => .error (.upstream error)
  | .ok none => .ok none
  | .ok (some record) =>
    match ProviderId.parse record.provider with
    | .ok provider => .ok (some provider)
    | .error error => .error (.configuration error.display)

def persistedOrPrimaryHomeProvider (view : BatchView) (bucket key : String) :
    Except BlobError ProviderId :=
  match view.placedHomeProvider bucket key with
  | .error error => .error error
  | .ok placed => .ok (placed.getD view.primaryProvider)

def backendForProvider (view : BatchView) (provider : ProviderId) :
    Except BlobError BatchBackend :=
  match view.backends provider with
  | some backend => .ok backend
  | none => .error (.configuration s!"backend is not configured for provider {provider.asStr}")

def loadLogicalObjectRecord (view : BatchView) (bucket key : String) :
    Except BlobError (Option LogicalObjectRecord) :=
  match view.logicalObject bucket key with
  | .ok logical => .ok logical
  | .error error =>
    .error (.upstream s!"failed to load logical object metadata for {bucket}/{key}: {error}")

def destinationHasGatewayMetadata (view : BatchView) (bucket key : String) :
    Except BlobError Bool :=
  match view.objectPlacement bucket key with
  | .error error => .error (.upstream error)
  | .ok (some _) => .ok true
  | .ok none =>
    match view.logicalObject bucket key with
    | .error error => .error (.upstream error)
    | .ok (some _) => .ok true
    | .ok none =>
      match view.objectProtectionPlan bucket key with
      | .error error => .error (.upstream error)
      | .ok plan => .ok plan.isSome

end BatchView

def objectBatchIdentitySnapshot (object : ObjectInfo) : ObjectBatchIdentitySnapshot where
  etag := object.etag.filter (fun value => !(trim value).isEmpty)
  size := object.size
  lastModified := object.lastModified.filter (fun value => !(trim value).isEmpty)

def objectBatchIdentityIsVerifiable (identity : ObjectBatchIdentitySnapshot) : Bool :=
  identity.etag.isSome || identity.lastModified.isSome

def objectBatchIdentityMatches (expected actual : ObjectBatchIdentitySnapshot) : Bool :=
  if expected.etag.isSome then
    decide (expected.etag = actual.etag ∧ expected.size = actual.size)
  else
    expected.etag.isNone && actual.etag.isNone && decide (expected.size = actual.size) &&
      decide (expected.lastModified = actual.lastModified)

/-! ## Section 2: Requests -/

def validateObjectBatchBucket (raw : String) : Except String String :=
  if (trim raw).isEmpty then .error "bucket must not be empty"
  else if raw.toList.any (fun ch => ch == '/' || ch == '\\' || isControl ch) then
    .error s!"invalid bucket path: {raw}"
  else .ok raw

/-- `raw.contains("//")`. -/
def hasDoubleSlash (raw : String) : Bool := decide (['/', '/'] <:+: raw.toList)

/-- A segment that no key may have. -/
def invalidSegment (segment : String) : Bool :=
  segment == "." || segment == ".." || (trim segment).isEmpty

/-- `raw.rsplit('/').next()`. -/
def basenameOf (raw : String) : String := (split '/' raw).getLast?.getD ""

def validateObjectBatchKey (raw : String) : Except String String :=
  if (trim raw).isEmpty ∨ raw.toList.head? = some '/' ∨ raw.toList.getLast? = some '/' ∨
      hasDoubleSlash raw ∨ '\\' ∈ raw.toList ∨ raw.toList.any isControl then
    .error s!"invalid object key: {raw}"
  else if (split '/' raw).any invalidSegment then .error s!"invalid object key: {raw}"
  else if (trim (basenameOf raw)).isEmpty then
    .error s!"object key basename must not be empty: {raw}"
  else .ok raw

def canonicalObjectBatchPrefix (raw : String) : Except String String :=
  if raw.isEmpty then .ok ""
  else if (trim raw).isEmpty ∨ raw.toList.head? = some '/' ∨ hasDoubleSlash raw ∨
      '\\' ∈ raw.toList ∨ raw.toList.any isControl then
    .error s!"invalid destination prefix: {raw}"
  else
    let withoutTrailingSlash :=
      if raw.toList.getLast? = some '/' then String.ofList raw.toList.dropLast else raw
    if withoutTrailingSlash.isEmpty ∨ (split '/' withoutTrailingSlash).any invalidSegment then
      .error s!"invalid destination prefix: {raw}"
    else .ok s!"{withoutTrailingSlash}/"

structure ObjectBatchPreviewInput where
  selectionId : String
  action : ObjectBatchAction
  objects : List ObjectBatchObjectInput
  destinationBucket : Option String
  destinationPrefix : Option String
  deriving DecidableEq, Repr

structure ObjectBatchPreviewError where
  status : Nat
  code : String
  message : String
  action : ObjectBatchAction
  items : List ObjectBatchItemPayload
  deriving DecidableEq, Repr

def ObjectBatchPreviewError.badRequest (code message : String) (action : ObjectBatchAction) :
    ObjectBatchPreviewError where
  status := 400
  code := code
  message := message
  action := action
  items := []

def ObjectBatchPreviewError.conflict (code message : String) (action : ObjectBatchAction)
    (items : List ObjectBatchItemPayload) : ObjectBatchPreviewError where
  status := 409
  code := code
  message := message
  action := action
  items := items

structure ObjectBatchPreviewPayload where
  planId : String
  planExpiresAt : Nat
  topologyFingerprint : String
  items : List ObjectBatchItemPayload
  deriving DecidableEq, Repr

/-- Where the objects of a request go: a bucket and a prefix if they are moved. -/
structure BatchDestination (action : ObjectBatchAction) where
  place : Option (String × String)
  isSome_place : place.isSome = decide (action = .move)

def batchDestination (action : ObjectBatchAction) (bucket pre : Option String) :
    Except ObjectBatchPreviewError (BatchDestination action) :=
  match action with
  | .delete =>
    if bucket.isSome ∨ pre.isSome then
      .error (.badRequest "invalid_path" "delete preview must not include a destination" .delete)
    else .ok ⟨none, rfl⟩
  | .move =>
    match bucket, pre with
    | none, _ =>
      .error (.badRequest "invalid_path" "move preview requires destination_bucket" .move)
    | some _, none =>
      .error (.badRequest "invalid_path" "move preview requires destination_prefix" .move)
    | some bucket, some pre =>
      match validateObjectBatchBucket bucket with
      | .error message => .error (.badRequest "invalid_path" message .move)
      | .ok bucket =>
        match canonicalObjectBatchPrefix pre with
        | .error message => .error (.badRequest "invalid_path" message .move)
        | .ok pre => .ok ⟨some (bucket, pre), rfl⟩

/-! ## Section 3: The runtime state -/

structure ObjectBatchSelectionSnapshot where
  readSource : ProviderId
  objects : List ((String × String) × ObjectBatchIdentitySnapshot)
  topologyFingerprint : String
  expiresAtUnixMs : Nat

structure SelectionEntry where
  selectionId : String
  selection : ObjectBatchSelectionSnapshot

structure PlanEntry where
  planId : String
  plan : ObjectBatchPlanRecord

structure ObjectBatchRuntimeState where
  selections : Table SelectionEntry (fun entry => entry.selectionId)
  plans : Table PlanEntry (fun entry => entry.planId)

def objectBatchSelectionLimit : Nat := 32

def objectBatchRequestLimit : Nat := 100

def objectBatchRuntimeTtlMs : Nat := 5 * 60 * 1000

/-- Expired selections and plans go, then the oldest selections above the limit. -/
def pruneObjectBatchRuntimeState (runtime : ObjectBatchRuntimeState) (nowUnixMs : Nat) :
    ObjectBatchRuntimeState :=
  let selections := runtime.selections.delete
    (fun entry => decide (entry.selection.expiresAtUnixMs ≤ nowUnixMs))
  let excess := selections.rows.length - objectBatchSelectionLimit
  let oldest := (selections.rows.map
    (fun entry => toLex (entry.selection.expiresAtUnixMs, entry.selectionId))).insertionSort
      (· ≤ ·)
  let removed := (oldest.take excess).map (fun entry => (ofLex entry).2)
  { selections := selections.delete (fun entry => decide (entry.selectionId ∈ removed))
    plans := runtime.plans.delete (fun entry => decide (entry.plan.expiresAtUnixMs ≤ nowUnixMs)) }

theorem mem_plans_prune {runtime : ObjectBatchRuntimeState} {nowUnixMs : Nat} {entry : PlanEntry}
    (h : entry ∈ (pruneObjectBatchRuntimeState runtime nowUnixMs).plans) :
    entry ∈ runtime.plans :=
  (Table.mem_delete.mp h).1

/-! ## Section 4: The objects of a request -/

/-- An object of a request, found in the selection; a moved one has its destination. -/
structure NormalizedObject (action : ObjectBatchAction) where
  ordinal : Nat
  source : ObjectBatchObjectInput
  destination : Option ObjectBatchObjectInput
  identity : ObjectBatchIdentitySnapshot
  isSome_destination : destination.isSome = decide (action = .move)

def objectBatchItem (ordinal : Nat) (source : ObjectBatchObjectInput) (readSource : ProviderId)
    (homeProvider : Option ProviderId) (destination : Option ObjectBatchObjectInput)
    (status : ObjectBatchItemStatus) (reasonCode : Option String) (message : String) :
    ObjectBatchItemPayload where
  ordinal := ordinal
  source := source
  readSource := readSource.asStr
  homeProvider := (homeProvider.map ProviderId.asStr).getD ""
  destination := destination
  status := status
  reasonCode := reasonCode
  message := some message
  warnings := []

namespace NormalizedObject

variable {action : ObjectBatchAction}

/-- The destination under its prefix, with the basename of the source. -/
def withDestination (destination : BatchDestination action) (ordinal : Nat)
    (source : ObjectBatchObjectInput) (identity : ObjectBatchIdentitySnapshot) :
    Except ObjectBatchPreviewError (NormalizedObject action) :=
  match destination with
  | ⟨none, h⟩ => .ok ⟨ordinal, source, none, identity, h⟩
  | ⟨some (bucket, pre), h⟩ =>
    let basename := basenameOf source.key
    if basename.isEmpty then
      .error (.badRequest "invalid_path" "object key basename must not be empty" action)
    else
      match validateObjectBatchKey (pre ++ basename) with
      | .error message => .error (.badRequest "invalid_path" message action)
      | .ok key => .ok ⟨ordinal, source, some { bucket := bucket, key := key }, identity, h⟩

/-- A bucket and a key are compared as texts. -/
local instance lawfulPairs : LawfulBEq (String × String) := inferInstance

/-- The loop over the objects of the request, from `ordinal` on. -/
def fromInputs (selection : ObjectBatchSelectionSnapshot) (destination : BatchDestination action) :
    Nat → List (String × String) → List ObjectBatchObjectInput →
      Except ObjectBatchPreviewError (List (NormalizedObject action))
  | _, _, [] => .ok []
  | ordinal, seenSources, object :: objects =>
    match validateObjectBatchBucket object.bucket with
    | .error message => .error (.badRequest "invalid_path" message action)
    | .ok bucket =>
      match validateObjectBatchKey object.key with
      | .error message => .error (.badRequest "invalid_path" message action)
      | .ok key =>
        if (bucket, key) ∈ seenSources then
          .error (.badRequest "duplicate_object" s!"duplicate object: {bucket}/{key}" action)
        else
          let source : ObjectBatchObjectInput := { bucket := bucket, key := key }
          match selection.objects.lookup (bucket, key) with
          | none =>
            .error (.conflict "selection_mismatch"
              "requested object is outside the selection snapshot" action
              [objectBatchItem ordinal source selection.readSource none none .conflict
                (some "selection_mismatch") "object is not part of the selection snapshot"])
          | some identity =>
            match withDestination destination ordinal source identity with
            | .error error => .error error
            | .ok normalized =>
              match fromInputs selection destination (ordinal + 1)
                  ((bucket, key) :: seenSources) objects with
              | .error error => .error error
              | .ok rest => .ok (normalized :: rest)

theorem ordinal_withDestination {destination : BatchDestination action} {ordinal : Nat}
    {source : ObjectBatchObjectInput} {identity : ObjectBatchIdentitySnapshot}
    {normalized : NormalizedObject action}
    (h : withDestination destination ordinal source identity = .ok normalized) :
    normalized.ordinal = ordinal := by
  unfold withDestination at h
  split at h
  · rw [← Except.ok.inj h]
  · simp only at h
    split at h
    · cases h
    · split at h
      · cases h
      · rw [← Except.ok.inj h]

/-- The objects are numbered in the order of the request. -/
theorem ordinals_fromInputs {selection : ObjectBatchSelectionSnapshot}
    {destination : BatchDestination action} {objects : List ObjectBatchObjectInput} {ordinal : Nat}
    {seenSources : List (String × String)} {normalized : List (NormalizedObject action)}
    (h : fromInputs selection destination ordinal seenSources objects = .ok normalized) :
    normalized.map (·.ordinal) = List.range' ordinal objects.length := by
  induction objects generalizing ordinal seenSources normalized with
  | nil =>
    rw [← Except.ok.inj h, List.map_nil, List.length_nil, List.range'_zero]
  | cons object objects ih =>
    rw [fromInputs] at h
    -- all checks of the head have passed, and the rest of the loop too
    split at h
    · cases h
    split at h
    · cases h
    split at h
    · cases h
    simp only at h
    split at h
    · cases h
    split at h
    · cases h
    next hhead =>
    split at h
    · cases h
    next hrest =>
    rw [← Except.ok.inj h, List.map_cons, ordinal_withDestination hhead, ih hrest, List.length_cons,
      List.range'_succ]

/-- The first object whose destination an earlier one has. -/
def duplicateDestination (readSource : ProviderId) :
    List (Option ObjectBatchObjectInput) → List (NormalizedObject action) →
      Option ObjectBatchPreviewError
  | _, [] => none
  | seen, object :: objects =>
    if object.destination ∈ seen then
      some (.conflict "duplicate_destination"
        "multiple selected objects generate the same destination" action
        [objectBatchItem object.ordinal object.source readSource none object.destination .conflict
          (some "duplicate_destination")
          "multiple selected objects generate the same destination"])
    else duplicateDestination readSource (object.destination :: seen) objects

end NormalizedObject

/-- The objects of a request, numbered in its order. -/
structure NormalizedObjects (action : ObjectBatchAction) where
  objects : List (NormalizedObject action)
  ordinals_sorted : (objects.map (·.ordinal)).Pairwise (· < ·)

def normalizeObjects {action : ObjectBatchAction} (selection : ObjectBatchSelectionSnapshot)
    (destination : BatchDestination action) (objects : List ObjectBatchObjectInput) :
    Except ObjectBatchPreviewError (NormalizedObjects action) :=
  match h : NormalizedObject.fromInputs selection destination 0 [] objects with
  | .error error => .error error
  | .ok normalized =>
    .ok ⟨normalized, (NormalizedObject.ordinals_fromInputs h).symm ▸ List.pairwise_lt_range'⟩

theorem normalizeObjects_ne_nil {action : ObjectBatchAction}
    {selection : ObjectBatchSelectionSnapshot} {destination : BatchDestination action}
    {objects : List ObjectBatchObjectInput} {normalized : NormalizedObjects action}
    (h : normalizeObjects selection destination objects = .ok normalized) (hne : objects ≠ []) :
    normalized.objects ≠ [] := by
  unfold normalizeObjects at h
  split at h
  · cases h
  next inputs hinputs =>
  obtain rfl := Except.ok.inj h
  intro (hnil : inputs = [])
  have hlength := congrArg List.length (NormalizedObject.ordinals_fromInputs hinputs)
  rw [hnil, List.map_nil, List.length_nil, List.length_range'] at hlength
  exact hne (List.length_eq_zero_iff.mp hlength.symm)

/-! ## Section 5: What the preview says of an object -/

/-- The evaluation of an object: a failure for the whole preview, or a planned object. -/
inductive PreviewOutcome where
  | failed (code message : String) (item : ObjectBatchItemPayload)
  | planned (object : ObjectBatchPlannedObject) (item : ObjectBatchItemPayload)

namespace NormalizedObject

variable {action : ObjectBatchAction}

/-- The object as a plan has it. -/
def plannedFor (object : NormalizedObject action) (readSource homeProvider : ProviderId) :
    ObjectBatchPlannedObject where
  ordinal := object.ordinal
  source := object.source
  destination := object.destination
  identity := object.identity
  readSource := readSource
  homeProvider := homeProvider

def failed (object : NormalizedObject action) (readSource : ProviderId)
    (homeProvider : Option ProviderId) (status : ObjectBatchItemStatus) (code message : String) :
    PreviewOutcome :=
  .failed code message
    (objectBatchItem object.ordinal object.source readSource homeProvider object.destination status
      (some code) message)

def planned (object : NormalizedObject action) (readSource homeProvider : ProviderId)
    (status : ObjectBatchItemStatus) (reasonCode : Option String) (message : String) :
    PreviewOutcome :=
  .planned (object.plannedFor readSource homeProvider)
    (objectBatchItem object.ordinal object.source readSource (some homeProvider)
      object.destination status reasonCode message)

/-- Whether the source is missing, or the failure that ends the evaluation. -/
def previewSource (object : NormalizedObject action) (view : BatchView) (readSource : ProviderId)
    (homeProvider : ProviderId) (homeBackend : BatchBackend) : Except PreviewOutcome Bool :=
  let failed := object.failed readSource (some homeProvider)
  match homeBackend.headObject object.source.bucket object.source.key with
  | .ok actual =>
    match view.loadLogicalObjectRecord object.source.bucket object.source.key with
    | .error error =>
      .error (failed .unverifiable "source_unverifiable"
        (s!"source public identity could not be resolved: {object.source.bucket}/" ++
          s!"{object.source.key}: {error.display}"))
    | .ok logical =>
      let actualIdentity := objectBatchIdentitySnapshot (publicObjectInfo actual logical)
      if objectBatchIdentityIsVerifiable actualIdentity = false then
        .error (failed .unverifiable "source_unverifiable"
          s!"source identity is not verifiable: {object.source.bucket}/{object.source.key}")
      else if objectBatchIdentityMatches object.identity actualIdentity = false then
        .error (failed .staleConflict "source_changed"
          s!"source identity changed: {object.source.bucket}/{object.source.key}")
      else .ok false
  | .error (.notFound _) =>
    if homeProvider ≠ readSource then
      .error (failed .conflict "home_resolution_conflict"
        (s!"read source {readSource.asStr} can read the object but authoritative home " ++
          s!"{homeProvider.asStr} cannot"))
    else .ok true
  | .error error => .error (failed .unverifiable "source_unverifiable" error.display)

/-- The last checks of a move. -/
def previewDestination (object : NormalizedObject action) (view : BatchView)
    (readSource homeProvider : ProviderId) (homeBackend : BatchBackend)
    (destination : ObjectBatchObjectInput) : PreviewOutcome :=
  let failed := object.failed readSource (some homeProvider)
  match homeBackend.headContainer destination.bucket with
  | .error (.notFound _) =>
    failed .conflict "destination_bucket_missing"
      s!"destination bucket does not exist: {destination.bucket}"
  | .error error =>
    failed .unverifiable "destination_bucket_unverifiable"
      s!"destination bucket could not be verified: {error.display}"
  | .ok _ =>
    if object.source.bucket = destination.bucket ∧ object.source.key = destination.key then
      object.planned readSource homeProvider .noOp none "source and destination are identical"
    else
      match view.destinationHasGatewayMetadata destination.bucket destination.key with
      | .ok true =>
        failed .conflict "destination_metadata_exists"
          s!"destination gateway metadata already exists: {destination.bucket}/{destination.key}"
      | .error error =>
        failed .unverifiable "destination_bucket_unverifiable"
          s!"destination metadata could not be verified: {error.display}"
      | .ok false =>
        match homeBackend.headObject destination.bucket destination.key with
        | .ok _ =>
          failed .conflict "destination_exists"
            s!"destination object already exists: {destination.bucket}/{destination.key}"
        | .error (.notFound _) =>
          object.planned readSource homeProvider .ready none "object is ready for batch execution"
        | .error error =>
          failed .unverifiable "destination_bucket_unverifiable"
            s!"destination object could not be verified: {error.display}"

/-- The body of the evaluation loop. -/
def preview (object : NormalizedObject action) (view : BatchView) (readSource : ProviderId) :
    PreviewOutcome :=
  match view.persistedOrPrimaryHomeProvider object.source.bucket object.source.key with
  | .error error =>
    object.failed readSource none .unverifiable "source_unverifiable" error.display
  | .ok homeProvider =>
    let failed := object.failed readSource (some homeProvider)
    match view.backendForProvider homeProvider with
    | .error error => failed .unverifiable "source_unverifiable" error.display
    | .ok homeBackend =>
      if objectBatchIdentityIsVerifiable object.identity = false then
        failed .unverifiable "source_unverifiable"
          s!"source identity is not verifiable: {object.source.bucket}/{object.source.key}"
      else
        match object.previewSource view readSource homeProvider homeBackend with
        | .error outcome => outcome
        | .ok sourceMissing =>
          let unsupported :=
            match action with
            | .delete => !homeBackend.canDelete
            | .move => !homeBackend.canWrite || !homeBackend.canDelete
          if unsupported then
            failed .conflict "provider_unsupported"
              s!"provider {homeProvider.asStr} lacks required object capabilities"
          else if sourceMissing then
            if action = .move then
              failed .conflict "source_missing"
                s!"source object is missing: {object.source.bucket}/{object.source.key}"
            else
              object.planned readSource homeProvider .alreadyMissing (some "source_missing")
                "source object is already missing; only gateway cleanup can be planned"
          else if hmove : action = .move then
            object.previewDestination view readSource homeProvider homeBackend
              (object.destination.get (object.isSome_destination.trans (decide_eq_true hmove)))
          else
            object.planned readSource homeProvider .ready none "object is ready for batch deletion"

end NormalizedObject

/-! ## Section 6: The revalidation of a planned object -/

/-- An answer of the revalidation; it never has warnings. -/
def revalidated (status : ObjectBatchItemStatus) (reasonCode : Option String) (message : String) :
    Revalidation where
  status := status
  reasonCode := reasonCode
  message := some message
  warnings := []

/-- Whether the source is missing, or the answer that ends the revalidation. -/
def revalidateSource (view : BatchView) (object : ObjectBatchPlannedObject)
    (backend : BatchBackend) : Except Revalidation Bool :=
  match backend.headObject object.source.bucket object.source.key with
  | .ok actual =>
    match view.loadLogicalObjectRecord object.source.bucket object.source.key with
    | .error error =>
      .error (revalidated .unverifiable (some "source_unverifiable")
        (s!"source public identity could not be resolved: {object.source.bucket}/" ++
          s!"{object.source.key}: {error.display}"))
    | .ok logical =>
      let actualIdentity := objectBatchIdentitySnapshot (publicObjectInfo actual logical)
      if objectBatchIdentityIsVerifiable actualIdentity = false then
        .error (revalidated .unverifiable (some "source_unverifiable")
          s!"source identity is not verifiable: {object.source.bucket}/{object.source.key}")
      else if objectBatchIdentityMatches object.identity actualIdentity = false then
        .error (revalidated .staleConflict (some "source_changed")
          s!"source identity changed: {object.source.bucket}/{object.source.key}")
      else .ok false
  | .error (.notFound _) =>
    if object.homeProvider ≠ object.readSource then
      .error (revalidated .conflict (some "home_resolution_conflict")
        (s!"read source {object.readSource.asStr} can read the object but authoritative home " ++
          s!"{object.homeProvider.asStr} cannot"))
    else .ok true
  | .error error =>
    .error (revalidated .unverifiable (some "source_unverifiable") error.display)

/-- The last checks of a planned move. -/
def revalidateDestination (view : BatchView) (source : ObjectBatchObjectInput)
    (backend : BatchBackend) (destination : ObjectBatchObjectInput) : Revalidation :=
  match backend.headContainer destination.bucket with
  | .error (.notFound _) =>
    revalidated .conflict (some "destination_bucket_missing")
      s!"destination bucket does not exist: {destination.bucket}"
  | .error error =>
    revalidated .unverifiable (some "destination_bucket_unverifiable")
      s!"destination bucket could not be verified: {error.display}"
  | .ok _ =>
    if source.bucket = destination.bucket ∧ source.key = destination.key then
      revalidated .noOp none "source and destination are identical"
    else
      match view.destinationHasGatewayMetadata destination.bucket destination.key with
      | .ok true =>
        revalidated .conflict (some "destination_metadata_exists")
          s!"destination gateway metadata already exists: {destination.bucket}/{destination.key}"
      | .error error =>
        revalidated .unverifiable (some "destination_bucket_unverifiable")
          s!"destination metadata could not be verified: {error.display}"
      | .ok false =>
        match backend.headObject destination.bucket destination.key with
        | .ok _ =>
          revalidated .conflict (some "destination_exists")
            s!"destination object already exists: {destination.bucket}/{destination.key}"
        | .error (.notFound _) =>
          revalidated .ready none "object is ready for batch execution"
        | .error error =>
          revalidated .unverifiable (some "destination_bucket_unverifiable")
            s!"destination object could not be verified: {error.display}"

def revalidateObjectBatchPlanItem (view : BatchView) (action : ObjectBatchAction)
    (object : ObjectBatchPlannedObject) : Revalidation :=
  match view.persistedOrPrimaryHomeProvider object.source.bucket object.source.key with
  | .error error => revalidated .unverifiable (some "source_unverifiable") error.display
  | .ok currentHome =>
    if currentHome ≠ object.homeProvider then
      revalidated .conflict (some "home_resolution_conflict")
        (s!"authoritative home changed from {object.homeProvider.asStr} to " ++
          s!"{currentHome.asStr} for {object.source.bucket}/{object.source.key}")
    else
      match view.backendForProvider object.homeProvider with
      | .error error => revalidated .unverifiable (some "source_unverifiable") error.display
      | .ok backend =>
        if objectBatchIdentityIsVerifiable object.identity = false then
          revalidated .unverifiable (some "source_unverifiable")
            s!"source identity is not verifiable: {object.source.bucket}/{object.source.key}"
        else
          match revalidateSource view object backend with
          | .error answer => answer
          | .ok sourceMissing =>
            let unsupported :=
              match action with
              | .delete => !backend.canDelete
              | .move => !backend.canWrite || !backend.canDelete
            if unsupported then
              revalidated .conflict (some "provider_unsupported")
                s!"provider {object.homeProvider.asStr} lacks required object capabilities"
            else if sourceMissing then
              if action = .delete then
                revalidated .alreadyMissing (some "source_missing")
                  "source object is already missing; only gateway cleanup can be planned"
              else
                revalidated .conflict (some "source_missing")
                  s!"source object is missing: {object.source.bucket}/{object.source.key}"
            else if action = .delete then
              revalidated .ready none "object is ready for batch deletion"
            else
              match object.destination with
              | none =>
                revalidated .conflict (some "invalid_path") "move plan is missing its destination"
              | some destination => revalidateDestination view object.source backend destination

/-! ## Section 7: The preview of a request -/

/-- What the evaluation loop has collected. -/
structure PreviewEvaluation where
  firstFailure : Option (String × String)
  items : List ObjectBatchItemPayload
  planned : List ObjectBatchPlannedObject

/-- One round of the loop; a failure goes through `record_object_batch_failure`. -/
def PreviewEvaluation.record (evaluation : PreviewEvaluation) :
    PreviewOutcome → PreviewEvaluation
  | .failed code message item =>
    { evaluation with
      firstFailure := evaluation.firstFailure.or (some (code, message))
      items := evaluation.items ++ [item] }
  | .planned object item =>
    { evaluation with
      items := evaluation.items ++ [item]
      planned := evaluation.planned ++ [object] }

def evaluateOutcomes (outcomes : List PreviewOutcome) : PreviewEvaluation :=
  outcomes.foldl PreviewEvaluation.record ⟨none, [], []⟩

def PreviewOutcome.item : PreviewOutcome → ObjectBatchItemPayload
  | .failed _ _ item => item
  | .planned _ item => item

def PreviewOutcome.failure : PreviewOutcome → Option (String × String)
  | .failed code message _ => some (code, message)
  | .planned _ _ => none

def PreviewOutcome.object : PreviewOutcome → Option ObjectBatchPlannedObject
  | .failed _ _ _ => none
  | .planned object _ => some object

/-- The loop collects the first failure, every item and every planned object. -/
theorem foldl_record (outcomes : List PreviewOutcome) (evaluation : PreviewEvaluation) :
    outcomes.foldl PreviewEvaluation.record evaluation =
      { firstFailure := evaluation.firstFailure.or (outcomes.findSome? PreviewOutcome.failure)
        items := evaluation.items ++ outcomes.map PreviewOutcome.item
        planned := evaluation.planned ++ outcomes.filterMap PreviewOutcome.object } := by
  induction outcomes generalizing evaluation with
  | nil => simp
  | cons outcome outcomes ih =>
    rw [List.foldl_cons, ih]
    cases outcome with
    | failed code message item =>
      simp [PreviewEvaluation.record, List.findSome?_cons, List.filterMap_cons,
        PreviewOutcome.failure, PreviewOutcome.item, PreviewOutcome.object]
    | planned object item =>
      simp [PreviewEvaluation.record, List.findSome?_cons, PreviewOutcome.failure,
        PreviewOutcome.item, PreviewOutcome.object]

theorem evaluateOutcomes_eq (outcomes : List PreviewOutcome) :
    evaluateOutcomes outcomes =
      { firstFailure := outcomes.findSome? PreviewOutcome.failure
        items := outcomes.map PreviewOutcome.item
        planned := outcomes.filterMap PreviewOutcome.object } := by
  rw [evaluateOutcomes, foldl_record]
  simp

/-! ## Section 8: The two decision lists -/

/-- What an answer about the planned object has to do with what the preview said of it: after a
failure it has the status and the reason of the failed item, and otherwise it is the item. -/
inductive Agrees (planned : ObjectBatchPlannedObject) : PreviewOutcome → Revalidation → Prop
  | failed {code message : String} {item : ObjectBatchItemPayload} {answer : Revalidation}
      (status : answer.status = item.status) (reasonCode : answer.reasonCode = item.reasonCode)
      (blocks : objectBatchItemBlocksExecution item = true) :
      Agrees planned (.failed code message item) answer
  | planned {item : ObjectBatchItemPayload} {answer : Revalidation}
      (item_eq : answer.item planned = item) (runs : objectBatchItemBlocksExecution item = false) :
      Agrees planned (.planned planned item) answer

/-- The same for the two checks of the source. -/
inductive SourceAgrees (planned : ObjectBatchPlannedObject) :
    Except PreviewOutcome Bool → Except Revalidation Bool → Prop
  | missing (sourceMissing : Bool) : SourceAgrees planned (.ok sourceMissing) (.ok sourceMissing)
  | ended {outcome : PreviewOutcome} {answer : Revalidation}
      (agrees : Agrees planned outcome answer) :
      SourceAgrees planned (.error outcome) (.error answer)

section Agreement

variable {action : ObjectBatchAction} {view : BatchView} {readSource homeProvider : ProviderId}
  {backend : BatchBackend}

theorem agrees_failed (object : NormalizedObject action) {planned : ObjectBatchPlannedObject}
    {home : Option ProviderId} {status : ObjectBatchItemStatus} {code message : String}
    (blocks : status = .unverifiable ∨ status = .conflict ∨ status = .staleConflict) :
    Agrees planned (object.failed readSource home status code message)
      (revalidated status (some code) message) := by
  refine Agrees.failed rfl rfl ?_
  rcases blocks with rfl | rfl | rfl <;> rfl

theorem agrees_planned (object : NormalizedObject action) {status : ObjectBatchItemStatus}
    {reasonCode : Option String} {message : String}
    (runs : status = .ready ∨ status = .alreadyMissing ∨ status = .noOp) :
    Agrees (object.plannedFor readSource homeProvider)
      (object.planned readSource homeProvider status reasonCode message)
      (revalidated status reasonCode message) := by
  refine Agrees.planned rfl ?_
  rcases runs with rfl | rfl | rfl <;> rfl

/-- The two lists ask the same question. -/
theorem Agrees.ite {planned : ObjectBatchPlannedObject} {p : Prop} {d d' : Decidable p}
    {outcome outcome' : PreviewOutcome} {answer answer' : Revalidation}
    (hthen : Agrees planned outcome answer) (helse : Agrees planned outcome' answer') :
    Agrees planned (@ite _ p d outcome outcome') (@ite _ p d' answer answer') := by
  by_cases h : p
  · rw [if_pos h, if_pos h]
    exact hthen
  · rw [if_neg h, if_neg h]
    exact helse

theorem SourceAgrees.ite {planned : ObjectBatchPlannedObject} {p : Prop} {d d' : Decidable p}
    {outcome outcome' : Except PreviewOutcome Bool} {answer answer' : Except Revalidation Bool}
    (hthen : SourceAgrees planned outcome answer) (helse : SourceAgrees planned outcome' answer') :
    SourceAgrees planned (@ite _ p d outcome outcome') (@ite _ p d' answer answer') := by
  by_cases h : p
  · rw [if_pos h, if_pos h]
    exact hthen
  · rw [if_neg h, if_neg h]
    exact helse

theorem previewSource_agrees (object : NormalizedObject action) (view : BatchView)
    (readSource homeProvider : ProviderId) (backend : BatchBackend) :
    SourceAgrees (object.plannedFor readSource homeProvider)
      (object.previewSource view readSource homeProvider backend)
      (revalidateSource view (object.plannedFor readSource homeProvider) backend) := by
  have hplanned : (object.plannedFor readSource homeProvider).source = object.source := rfl
  unfold NormalizedObject.previewSource revalidateSource
  rw [hplanned]
  cases backend.headObject object.source.bucket object.source.key with
  | ok actual =>
    dsimp only
    cases view.loadLogicalObjectRecord object.source.bucket object.source.key with
    | error error => exact .ended (agrees_failed object (Or.inl rfl))
    | ok logical =>
      -- verifiable, then unchanged
      refine SourceAgrees.ite (.ended (agrees_failed object (Or.inl rfl))) ?_
      exact SourceAgrees.ite (.ended (agrees_failed object (Or.inr (Or.inr rfl)))) (.missing false)
  | error error =>
    cases error with
    | notFound message =>
      exact SourceAgrees.ite (.ended (agrees_failed object (Or.inr (Or.inl rfl)))) (.missing true)
    | _ => exact .ended (agrees_failed object (Or.inl rfl))

theorem previewDestination_agrees (object : NormalizedObject action)
    (destination : ObjectBatchObjectInput) :
    Agrees (object.plannedFor readSource homeProvider)
      (object.previewDestination view readSource homeProvider backend destination)
      (revalidateDestination view object.source backend destination) := by
  unfold NormalizedObject.previewDestination revalidateDestination
  cases backend.headContainer destination.bucket with
  | error error =>
    cases error with
    | notFound message => exact agrees_failed object (Or.inr (Or.inl rfl))
    | _ => exact agrees_failed object (Or.inl rfl)
  | ok _ =>
    refine Agrees.ite (agrees_planned object (Or.inr (Or.inr rfl))) ?_
    cases view.destinationHasGatewayMetadata destination.bucket destination.key with
    | error error => exact agrees_failed object (Or.inl rfl)
    | ok known =>
      cases known with
      | true => exact agrees_failed object (Or.inr (Or.inl rfl))
      | false =>
        dsimp only
        cases backend.headObject destination.bucket destination.key with
        | ok _ => exact agrees_failed object (Or.inr (Or.inl rfl))
        | error error =>
          cases error with
          | notFound message => exact agrees_planned object (Or.inl rfl)
          | _ => exact agrees_failed object (Or.inl rfl)

/-- Object by object, the preview and the revalidation of what it would plan agree. -/
theorem preview_agrees (object : NormalizedObject action) (readSource : ProviderId)
    (hhome : ∀ home, view.persistedOrPrimaryHomeProvider object.source.bucket object.source.key =
      .ok home → home = homeProvider) :
    Agrees (object.plannedFor readSource homeProvider) (object.preview view readSource)
      (revalidateObjectBatchPlanItem view action (object.plannedFor readSource homeProvider)) := by
  have hsource : (object.plannedFor readSource homeProvider).source = object.source := rfl
  have hplanned : (object.plannedFor readSource homeProvider).homeProvider = homeProvider := rfl
  unfold NormalizedObject.preview revalidateObjectBatchPlanItem
  rw [hsource, hplanned]
  cases hresolved : view.persistedOrPrimaryHomeProvider object.source.bucket object.source.key with
  | error error => exact agrees_failed object (Or.inl rfl)
  | ok currentHome =>
    obtain rfl := hhome currentHome hresolved
    dsimp only
    rw [if_neg (fun hne : currentHome ≠ currentHome => hne rfl)]
    cases view.backendForProvider currentHome with
    | error error => exact agrees_failed object (Or.inl rfl)
    | ok backend =>
      refine Agrees.ite (agrees_failed object (Or.inl rfl)) ?_
      have hsourceAgrees := previewSource_agrees object view readSource currentHome backend
      generalize object.previewSource view readSource currentHome backend = outcome
        at hsourceAgrees ⊢
      generalize revalidateSource view (object.plannedFor readSource currentHome) backend = answer
        at hsourceAgrees ⊢
      cases hsourceAgrees with
      | ended hagrees => exact hagrees
      | missing sourceMissing =>
        refine Agrees.ite (agrees_failed object (Or.inr (Or.inl rfl))) ?_
        refine Agrees.ite ?_ ?_
        · -- a missing source: a deletion only cleans up
          cases action with
          | delete => exact agrees_planned object (Or.inr (Or.inl rfl))
          | move => exact agrees_failed object (Or.inr (Or.inl rfl))
        · cases action with
          | delete => exact agrees_planned object (Or.inl rfl)
          | move =>
            have hdestination : (object.plannedFor readSource currentHome).destination =
                some (object.destination.get (object.isSome_destination.trans rfl)) :=
              (Option.some_get _).symm
            rw [hdestination]
            exact previewDestination_agrees object _

end Agreement

/-- What the preview plans of an object is the object, and the revalidation says the same of it. -/
theorem of_preview_planned {action : ObjectBatchAction} {view : BatchView}
    {readSource : ProviderId} {object : NormalizedObject action}
    {planned : ObjectBatchPlannedObject} {item : ObjectBatchItemPayload}
    (h : object.preview view readSource = .planned planned item) :
    planned.ordinal = object.ordinal ∧
      (revalidateObjectBatchPlanItem view action planned).item planned = item ∧
        objectBatchItemBlocksExecution item = false := by
  -- the home that the preview finds, if it finds one
  obtain ⟨home, hhome⟩ : ∃ homeProvider, ∀ home,
      view.persistedOrPrimaryHomeProvider object.source.bucket object.source.key = .ok home →
        home = homeProvider := by
    cases view.persistedOrPrimaryHomeProvider object.source.bucket object.source.key with
    | error error => exact ⟨readSource, fun home hhome => by cases hhome⟩
    | ok homeProvider => exact ⟨homeProvider, fun home hhome => (Except.ok.inj hhome).symm⟩
  have hagrees := preview_agrees object readSource hhome
  rw [h] at hagrees
  cases hagrees with
  | planned item_eq runs => exact ⟨rfl, item_eq, runs⟩

/-! ## Section 9: The preview of a request -/

/-- A plan numbers its objects as the request does. -/
theorem ordinals_planned {action : ObjectBatchAction} (normalized : NormalizedObjects action)
    (view : BatchView) (readSource : ProviderId) :
    ((evaluateOutcomes (normalized.objects.map (·.preview view readSource))).planned.map
      (·.ordinal)).Pairwise (· < ·) := by
  refine List.Pairwise.sublist ?_ normalized.ordinals_sorted
  rw [evaluateOutcomes_eq]
  generalize normalized.objects = objects
  induction objects with
  | nil => exact List.Sublist.slnil
  | cons object objects ih =>
    cases hobject : object.preview view readSource with
    | failed code message item =>
      rw [List.map_cons, List.filterMap_cons_none (by rw [hobject]; rfl)]
      exact ih.cons _
    | planned planned item =>
      rw [List.map_cons, List.filterMap_cons_some (by rw [hobject]; rfl), List.map_cons,
        List.map_cons, (of_preview_planned hobject).1]
      exact ih.cons_cons _

/-- The plan of an evaluation, with its objects sorted. -/
def planOf {action : ObjectBatchAction} (normalized : NormalizedObjects action) (view : BatchView)
    (readSource : ProviderId) (expiresAtUnixMs : Nat) : ObjectBatchPlanRecord where
  action := action
  objects :=
    (evaluateOutcomes (normalized.objects.map (·.preview view readSource))).planned.insertionSort
      (fun left right => left.ordinal ≤ right.ordinal)
  topologyFingerprint := view.topologyFingerprint
  expiresAtUnixMs := expiresAtUnixMs
  ordinals_nodup := by
    rw [((List.perm_insertionSort _ _).map _).nodup_iff]
    exact (ordinals_planned normalized view readSource).imp (fun hlt => Nat.ne_of_lt hlt)

/-- `preview_object_batch` at `nowUnixMs`, with the token that it draws for the plan. -/
def previewObjectBatch (view : BatchView) (runtime : ObjectBatchRuntimeState)
    (input : ObjectBatchPreviewInput) (nowUnixMs : Nat) (token : String) :
    Except ObjectBatchPreviewError ObjectBatchPreviewPayload × ObjectBatchRuntimeState :=
  if input.objects.isEmpty ∨ objectBatchRequestLimit < input.objects.length then
    (.error (.badRequest "invalid_path"
      s!"batch object count must be between 1 and {objectBatchRequestLimit}" input.action), runtime)
  else
    match batchDestination input.action input.destinationBucket input.destinationPrefix with
    | .error error => (.error error, runtime)
    | .ok destination =>
      let runtime := pruneObjectBatchRuntimeState runtime nowUnixMs
      match runtime.selections.find? input.selectionId with
      | none =>
        (.error (.conflict "selection_expired" "selection snapshot is missing or expired"
          input.action []), runtime)
      | some entry =>
        let selection := entry.selection
        if selection.topologyFingerprint ≠ view.topologyFingerprint then
          (.error (.conflict "topology_changed" "selection topology is no longer current"
            input.action []), runtime)
        else
          match normalizeObjects selection destination input.objects with
          | .error error => (.error error, runtime)
          | .ok normalized =>
            let duplicate :=
              if input.action = .move then
                NormalizedObject.duplicateDestination selection.readSource [] normalized.objects
              else none
            match duplicate with
            | some error => (.error error, runtime)
            | none =>
              let evaluation := evaluateOutcomes
                (normalized.objects.map (·.preview view selection.readSource))
              match evaluation.firstFailure with
              | some (code, message) =>
                (.error (.conflict code message input.action evaluation.items), runtime)
              | none =>
                let planExpiresAt := min (nowUnixMs + objectBatchRuntimeTtlMs) (2 ^ 64 - 1)
                let planId := "plan-" ++ token
                let plan := planOf normalized view selection.readSource planExpiresAt
                let runtime := pruneObjectBatchRuntimeState runtime nowUnixMs
                (.ok
                  { planId := planId
                    planExpiresAt := planExpiresAt
                    topologyFingerprint := view.topologyFingerprint
                    items := sortByOrdinal evaluation.items },
                  { runtime with plans := runtime.plans.upsert { planId := planId, plan := plan } })

/-! ## Section 10: What a preview promises -/

/-- What the items of a preview and its plan promise as long as the view stays as it is. -/
structure Promised (view : BatchView) (plan : ObjectBatchPlanRecord)
    (items : List ObjectBatchItemPayload) : Prop where
  /-- Every planned object is revalidated with the status and the reason of its item. -/
  agrees : List.Forall₂ (fun object item =>
    (revalidateObjectBatchPlanItem view plan.action object).status = item.status ∧
      (revalidateObjectBatchPlanItem view plan.action object).reasonCode = item.reasonCode)
    plan.objects items
  /-- No item was declared blocked. -/
  executable : ∀ item ∈ items, objectBatchItemBlocksExecution item = false
  /-- The check before the batch lets the plan through until it expires. -/
  preflight : ∀ (batchId : String) (nowUnixMs : Nat) (answers : Nat → Revalidation),
    (∀ object ∈ plan.objects,
      answers object.ordinal = revalidateObjectBatchPlanItem view plan.action object) →
    nowUnixMs < plan.expiresAtUnixMs →
      finalPreflightObjectBatch plan batchId nowUnixMs view.topologyFingerprint answers = none
  /-- No object is late when its turn comes with the view as it was, the first above all. -/
  inTime : ∀ object ∈ executionOrder plan,
    let item := (revalidateObjectBatchPlanItem view plan.action object).item object
    objectBatchItemBlocksExecution item = false ∧ lateItem item = item

/-- Without a failure every object is planned. -/
theorem exists_planned {outcomes : List PreviewOutcome}
    (hfailure : outcomes.findSome? PreviewOutcome.failure = none) {outcome : PreviewOutcome}
    (hmem : outcome ∈ outcomes) : ∃ planned item, outcome = .planned planned item := by
  have hnone := List.findSome?_eq_none_iff.mp hfailure outcome hmem
  cases outcome with
  | failed code message item => cases hnone
  | planned planned item => exact ⟨planned, item, rfl⟩

/-- Without a failure the items belong to the planned objects one by one. -/
theorem forall₂_planned {outcomes : List PreviewOutcome}
    {R : ObjectBatchPlannedObject → ObjectBatchItemPayload → Prop}
    (hfailure : outcomes.findSome? PreviewOutcome.failure = none)
    (hplanned : ∀ planned item, PreviewOutcome.planned planned item ∈ outcomes → R planned item) :
    List.Forall₂ R (outcomes.filterMap PreviewOutcome.object)
      (outcomes.map PreviewOutcome.item) := by
  induction outcomes with
  | nil => exact .nil
  | cons outcome outcomes ih =>
    cases outcome with
    | failed code message item => cases hfailure
    | planned object item =>
      refine .cons (hplanned object item List.mem_cons_self) (ih hfailure ?_)
      exact fun planned item hmem => hplanned planned item (List.mem_cons_of_mem _ hmem)

/-- A plan whose objects are all let through passes the check before the batch. -/
theorem finalPreflight_eq_none {view : BatchView} {plan : ObjectBatchPlanRecord}
    {batchId : String} {nowUnixMs : Nat} {answers : Nat → Revalidation}
    (hne : plan.objects ≠ []) (hfingerprint : plan.topologyFingerprint = view.topologyFingerprint)
    (hexpires : nowUnixMs < plan.expiresAtUnixMs)
    (hruns : ∀ object ∈ plan.objects,
      objectBatchItemBlocksExecution ((answers object.ordinal).item object) = false) :
    finalPreflightObjectBatch plan batchId nowUnixMs view.topologyFingerprint answers = none := by
  unfold finalPreflightObjectBatch
  dsimp only
  have htopology : ¬ (plan.objects.isEmpty = true ∨
      plan.topologyFingerprint ≠ view.topologyFingerprint) := by
    rintro (hempty | hne')
    · exact hne (List.isEmpty_iff.mp hempty)
    · exact hne' hfingerprint
  rw [if_neg (Nat.not_le_of_lt hexpires), if_neg htopology, List.find?_eq_none.mpr]
  intro item hitem
  obtain ⟨object, hobject, rfl⟩ := List.mem_map.mp hitem
  rw [hruns object ((List.perm_insertionSort _ _).mem_iff.mp hobject)]
  exact Bool.false_ne_true

/-- The evaluation of a request without a failure, and the plan made of it. -/
theorem promised_planOf {action : ObjectBatchAction} {view : BatchView} {readSource : ProviderId}
    {normalized : NormalizedObjects action} {expiresAtUnixMs : Nat}
    (hne : normalized.objects ≠ [])
    (hfailure : (evaluateOutcomes
      (normalized.objects.map (·.preview view readSource))).firstFailure = none) :
    Promised view (planOf normalized view readSource expiresAtUnixMs)
      (sortByOrdinal (evaluateOutcomes
        (normalized.objects.map (·.preview view readSource))).items) := by
  have hsorted := List.pairwise_map.mp (ordinals_planned normalized view readSource)
  generalize hplan : planOf normalized view readSource expiresAtUnixMs = plan
  have hobjects : plan.objects =
      (evaluateOutcomes (normalized.objects.map (·.preview view readSource))).planned := by
    rw [← hplan]
    exact List.Pairwise.insertionSort_eq (hsorted.imp (fun hlt => Nat.le_of_lt hlt))
  obtain rfl : plan.action = action := by rw [← hplan]; rfl
  have hfingerprint : plan.topologyFingerprint = view.topologyFingerprint := by rw [← hplan]; rfl
  rw [← hobjects] at hsorted
  rw [evaluateOutcomes_eq] at hfailure hobjects ⊢
  dsimp only at hfailure hobjects ⊢
  generalize hitems : (normalized.objects.map (·.preview view readSource)).map
    PreviewOutcome.item = items
  -- object by object: the item is the revalidation
  have hplanned : ∀ planned item, PreviewOutcome.planned planned item ∈
      normalized.objects.map (·.preview view readSource) →
      (revalidateObjectBatchPlanItem view plan.action planned).item planned = item ∧
        objectBatchItemBlocksExecution item = false := by
    intro planned item hmem
    obtain ⟨object, -, hpreview⟩ := List.mem_map.mp hmem
    exact (of_preview_planned hpreview).2
  have hboth : List.Forall₂ (fun object item =>
      (revalidateObjectBatchPlanItem view plan.action object).item object = item ∧
        objectBatchItemBlocksExecution item = false) plan.objects items := by
    rw [hobjects, ← hitems]
    exact forall₂_planned hfailure hplanned
  have hruns : ∀ object ∈ plan.objects, objectBatchItemBlocksExecution
      ((revalidateObjectBatchPlanItem view plan.action object).item object) = false := by
    intro object hobject
    rw [hobjects] at hobject
    obtain ⟨outcome, hmem, hobject⟩ := List.mem_filterMap.mp hobject
    obtain ⟨planned, item, rfl⟩ := exists_planned hfailure hmem
    obtain rfl := Option.some.inj hobject
    rw [(hplanned planned item hmem).1]
    exact (hplanned planned item hmem).2
  have hsortedItems : sortByOrdinal items = items := by
    refine List.Pairwise.insertionSort_eq ?_
    have hordinals : items.map (·.ordinal) = plan.objects.map (·.ordinal) := by
      rw [← List.forall₂_eq_eq_eq, List.forall₂_map_left_iff, List.forall₂_map_right_iff]
      exact (hboth.imp (fun object item h => by rw [← h.1]; rfl)).flip
    have hlt := List.pairwise_map.mpr hsorted
    rw [← hordinals] at hlt
    exact (List.pairwise_map.mp hlt).imp (fun hlt => Nat.le_of_lt hlt)
  rw [hsortedItems]
  refine ⟨hboth.imp ?_, ?_, ?_, ?_⟩
  · intro object item h
    rw [← h.1]
    exact ⟨rfl, rfl⟩
  · intro item hitem
    rw [← hitems] at hitem
    obtain ⟨outcome, hmem, rfl⟩ := List.mem_map.mp hitem
    obtain ⟨planned, item, rfl⟩ := exists_planned hfailure hmem
    exact (hplanned planned item hmem).2
  · intro batchId nowUnixMs answers hanswers hexpires
    refine finalPreflight_eq_none ?_ hfingerprint hexpires ?_
    · intro hempty
      rw [hempty, ← hitems] at hboth
      cases hobject : normalized.objects with
      | nil => exact hne hobject
      | cons object objects =>
        rw [hobject] at hboth
        cases hboth
    · intro object hobject
      rw [hanswers object hobject]
      exact hruns object hobject
  · intro object hobject
    have hrun := hruns object ((List.perm_insertionSort _ _).mem_iff.mp hobject)
    refine ⟨hrun, if_neg ?_⟩
    rw [hrun]
    exact Bool.false_ne_true

/-- The preview and the revalidation agree: a preview that answers with a plan has planned what
the same view lets through, item by item, and one that does not leaves no plan behind. -/
theorem preview_agrees_with_revalidation (view : BatchView) (runtime : ObjectBatchRuntimeState)
    (input : ObjectBatchPreviewInput) (nowUnixMs : Nat) (token : String) :
    match previewObjectBatch view runtime input nowUnixMs token with
    | (.ok payload, after) =>
      ∃ plan, after.plans.find? payload.planId = some { planId := payload.planId, plan := plan } ∧
        plan.action = input.action ∧ Promised view plan payload.items
    | (.error _, after) => ∀ entry ∈ after.plans, entry ∈ runtime.plans := by
  unfold previewObjectBatch
  by_cases hcount : input.objects.isEmpty = true ∨ objectBatchRequestLimit < input.objects.length
  · rw [if_pos hcount]
    exact fun entry hentry => hentry
  rw [if_neg hcount]
  cases batchDestination input.action input.destinationBucket input.destinationPrefix with
  | error error => exact fun entry hentry => hentry
  | ok destination =>
    dsimp only
    cases (pruneObjectBatchRuntimeState runtime nowUnixMs).selections.find? input.selectionId with
    | none => exact fun entry hentry => mem_plans_prune hentry
    | some found =>
      dsimp only
      by_cases htopology : found.selection.topologyFingerprint ≠ view.topologyFingerprint
      · rw [if_pos htopology]
        exact fun entry hentry => mem_plans_prune hentry
      rw [if_neg htopology]
      cases hnormalized : normalizeObjects found.selection destination input.objects with
      | error error => exact fun entry hentry => mem_plans_prune hentry
      | ok normalized =>
        dsimp only
        generalize (if input.action = .move then NormalizedObject.duplicateDestination
          found.selection.readSource [] normalized.objects else none) = duplicate
        cases duplicate with
        | some error => exact fun entry hentry => mem_plans_prune hentry
        | none =>
          dsimp only
          cases hfailure : (evaluateOutcomes (normalized.objects.map
              (·.preview view found.selection.readSource))).firstFailure with
          | some failure => exact fun entry hentry => mem_plans_prune hentry
          | none =>
            -- the plan is stored under its id and nowhere else
            have hne : normalized.objects ≠ [] :=
              normalizeObjects_ne_nil hnormalized
                (fun hempty => hcount (Or.inl (by rw [hempty]; rfl)))
            exact ⟨_, Table.find?_eq_some.mpr ⟨Table.mem_upsert.mpr (Or.inl rfl), rfl⟩, rfl,
              promised_planOf hne hfailure⟩

end Netdisk2Blob.Gateway
