import Netdisk2Blob.Gateway.ObjectWrites

/-!
# PUT

`execute_put_upload` as a program: what is decided before anything is written, the write
at the home backend with its metadata, and what follows the write. Every error exit of the
source is there with the restoring it does.

## Contents

- `PutRequest`: the request with what the policies, the clock and the backend say about it
- `preparePut`: the reads and decisions before the first write
- `writeHomeObject`, `finishPut`, `executePutUpload`
- `PutExit`: where an upload returned its error
-/

namespace Netdisk2Blob.Gateway.Operations

open Library Blob Policy Replication Metadata

/-! ## Section 1: The request -/

/-- The plan of an encrypted upload: profile and planned envelope, and what
`encrypt_upload` gives. -/
structure PutEncryptionPlan where
  profileId : String
  keyId : String
  keySourceKind : String
  keySourceRef : String
  algorithm : String
  chunkPlaintextBytes : Nat
  plaintextSize : Nat
  storedSize : Nat
  logicalContentType : Option String
  encryptUpload : Except String Bytes
  deriving DecidableEq

def storedEncryptedContentType : String := "application/vnd.ccbg.encrypted"

/-- The hash check of a streamed body; `observedSha256Hex` is set when the body has been
read to its end. -/
structure StreamingPayloadHashValidation where
  expectedSha256Hex : String
  observedSha256Hex : Option String
  deriving DecidableEq, Repr

def StreamingPayloadHashValidation.ensureMatched (validation : StreamingPayloadHashValidation) :
    Except S3Error Unit :=
  match validation.observedSha256Hex with
  | none =>
    .error (.internalError
      "streaming signed upload finished before request-body hash validation completed")
  | some observedSha256Hex =>
    if observedSha256Hex = validation.expectedSha256Hex then .ok ()
    else
      .error (.signatureMismatch "x-amz-content-sha256 does not match the request body.")

/-- Clock readings of one upload, in the order they are taken. -/
structure PutClock where
  logicalUpdatedAtUnixMs : Nat
  preparedAtUnixMs : Nat
  placedAtUnixMs : Nat
  planUpdatedAtUnixMs : Nat
  enqueuedAtUnixMs : Nat
  markedAtUnixMs : Nat
  deriving DecidableEq, Repr

structure PutRequest where
  bucket : String
  key : String
  applicationId : String
  plaintextSize : Nat
  contentType : Option String
  body : Bytes
  payloadValidation : Option StreamingPayloadHashValidation
  etagOverride : Option (Except S3Error String)
  /-- `build_put_encryption_plan` -/
  encryptionPlan : Except S3Error (Option PutEncryptionPlan)
  /-- `ensure_provider_write_allowed_by_quota` -/
  quota : ProviderId → Except BlobError Unit
  /-- `eligible_write_candidates_for_object`, preferred provider first -/
  writeCandidates : Except BlobError (List ProviderId × Option BlobError)
  /-- `effective_topology_for_replication_put` for a home provider -/
  effectiveTopology : ProviderId → Except BlobError TopologyPolicy
  /-- the provider of the write-ahead log, if its policy covers the application -/
  logProvider : Option ProviderId
  clock : PutClock
  stamp : BackendStamp

def buildPlaintextLogicalRecord (request : PutRequest) : LogicalObjectRecord where
  bucket := request.bucket
  key := request.key
  etag := none
  applicationId := some request.applicationId
  encrypted := false
  encryptionProfileId := none
  algorithm := none
  keyId := none
  keySourceKind := none
  keySourceRef := none
  chunkPlaintextBytes := none
  plaintextSize := request.plaintextSize
  storedSize := request.plaintextSize
  logicalContentType := request.contentType
  updatedAtUnixMs := request.clock.logicalUpdatedAtUnixMs

def PutEncryptionPlan.logicalRecord (plan : PutEncryptionPlan) (request : PutRequest) :
    LogicalObjectRecord where
  bucket := request.bucket
  key := request.key
  etag := none
  applicationId := some request.applicationId
  encrypted := true
  encryptionProfileId := some plan.profileId
  algorithm := some plan.algorithm
  keyId := some plan.keyId
  keySourceKind := some plan.keySourceKind
  keySourceRef := some plan.keySourceRef
  chunkPlaintextBytes := some plan.chunkPlaintextBytes
  plaintextSize := plan.plaintextSize
  storedSize := plan.storedSize
  logicalContentType := plan.logicalContentType
  updatedAtUnixMs := request.clock.logicalUpdatedAtUnixMs

/-! ## Section 2: Before the first write -/

/-- `select_home_write_provider`: the placed provider if it can write, else the first
candidate. -/
def selectHomeWriteProvider (config : GatewayConfig) (request : PutRequest) :
    GatewayProgram (Except BlobError ProviderId) :=
  Program.attempt (placedHomeProvider request.bucket request.key) Program.pure
    (fun placed =>
      let fromCandidates : Except BlobError ProviderId :=
        match request.writeCandidates with
        | .error error => .error error
        | .ok (provider :: _, _) => .ok provider
        | .ok ([], firstQuotaError) =>
          .error (firstQuotaError.getD (.configuration
            (s!"no writable provider is currently eligible for " ++
              s!"{request.bucket}/{request.key}")))
      .pure (
        match placed with
        | none => fromCandidates
        | some provider =>
          match config.backendForProvider provider with
          | .error error => .error error
          | .ok provider =>
            if config.canWrite provider then
              match request.quota provider with
              | .error error => .error error
              | .ok () => .ok provider
            else fromCandidates))

/-- What is known before the first write. -/
structure PutContext where
  encryptionPlan : Option PutEncryptionPlan
  homeProvider : ProviderId
  topology : TopologyPolicy
  previous : MetadataStore.ObjectMetadata
  previousPlacement : Option (ProviderId × Nat)
  previousPlan : Option PersistedObjectProtectionPlan
  deriving DecidableEq

namespace PutContext

def storedSize (context : PutContext) (request : PutRequest) : Nat :=
  match context.encryptionPlan with
  | some plan => plan.storedSize
  | none => request.plaintextSize

def storedContentType (context : PutContext) (request : PutRequest) : Option String :=
  match context.encryptionPlan with
  | some _ => some storedEncryptedContentType
  | none => request.contentType

def desiredLogicalRecord (context : PutContext) (request : PutRequest) : LogicalObjectRecord :=
  match context.encryptionPlan with
  | some plan => plan.logicalRecord request
  | none => buildPlaintextLogicalRecord request

@[simp] theorem desiredLogicalRecord_key (context : PutContext) (request : PutRequest) :
    (context.desiredLogicalRecord request).bucket = request.bucket ∧
      (context.desiredLogicalRecord request).key = request.key := by
  unfold desiredLogicalRecord
  cases context.encryptionPlan <;> exact ⟨rfl, rfl⟩

def uploadBody (context : PutContext) (request : PutRequest) : Except String Bytes :=
  match context.encryptionPlan with
  | some plan => plan.encryptUpload
  | none => .ok request.body

/-- The object that a successful `put_object` leaves at home. -/
def uploaded (context : PutContext) (request : PutRequest) (body : Bytes) : StoredObject where
  body := body
  contentType := context.storedContentType request
  etag := request.stamp.etag
  lastModified := request.stamp.lastModified

/-- `removed_sync_targets_for_desired_topology` -/
def removedSyncTargets (context : PutContext) : List ProviderId :=
  match context.previousPlan with
  | none => []
  | some plan =>
    plan.syncTargets.filter (fun provider => decide (provider ∉ context.topology.syncTargets))

end PutContext

def preparePut (config : GatewayConfig) (request : PutRequest) :
    GatewayProgram (Except S3Error PutContext) :=
  Program.attempt (.pure request.encryptionPlan) .pure (fun encryptionPlan =>
  Program.attempt (selectHomeWriteProvider config request)
    (fun error => .pure (.insufficientStorage error.display)) (fun homeProvider =>
  Program.attempt
    (.pure (
      if config.streamingPut homeProvider then .ok ()
      else config.ensureObjectWithinInMemoryLimit
        (match encryptionPlan with
          | some plan => plan.storedSize
          | none => request.plaintextSize)))
    .pure (fun _ =>
  Program.attempt (.pure (request.effectiveTopology homeProvider))
    (fun error => .pure (mapBackendErrorToS3 error)) (fun topology =>
  Program.attempt (Requests.objectPlacement .forward request.bucket request.key)
    (fun error => .pure (mapBackendErrorToS3 (.upstream error))) (fun placement =>
  Program.attempt (placedHomeProviderRecord request.bucket request.key)
    (fun error => .pure (mapBackendErrorToS3 error)) (fun previousPlacement =>
  Program.attempt (loadLogicalObjectRecord .forward request.bucket request.key)
    (fun error => .pure (mapBackendErrorToS3 error)) (fun logical =>
  Program.attempt (Requests.objectProtectionPlan .forward request.bucket request.key)
    (fun error => .pure (mapBackendErrorToS3 (.upstream error))) (fun plan =>
  Program.attempt (loadObjectProtectionPlan request.bucket request.key)
    (fun error => .pure (mapBackendErrorToS3 error)) (fun previousPlan =>
  .pure (.ok
    { encryptionPlan := encryptionPlan
      homeProvider := homeProvider
      topology := topology
      previous := ⟨placement, logical, plan⟩
      previousPlacement := previousPlacement
      previousPlan := previousPlan }))))))))))

/-! ## Section 3: The write at home -/

/-- Where an upload returned its error. -/
inductive PutExit where
  | beforeUpload
  | payloadHash
  | etagOverride
  | verification
  | protectionPlan
  | logicalRecord
  | replicationJobs
  deriving DecidableEq, Repr

structure PutFailure where
  exit : PutExit
  error : S3Error
  deriving DecidableEq, Repr

section Put

variable (config : GatewayConfig) (request : PutRequest) (context : PutContext)
  (log : Option GatewayWriteAheadLogContext)

def logEntry : LogEntry where
  operation := .put
  bucket := request.bucket
  key := request.key
  homeProvider := context.homeProvider
  logicalRecord := some (context.desiredLogicalRecord request)
  syncTargets := context.topology.syncTargets
  fallbackReadOrder := context.topology.fallbackReadOrder
  previous := context.previous

/-- The way out of an error before the upload has succeeded: placement and logical record
go back, the plan has not been written yet. -/
def abandonUpload (error : S3Error) : GatewayProgram PutFailure :=
  (restorePreviousObjectWriteState request.bucket request.key context.previousPlacement
    context.previous.logical).bind (fun _ =>
  (markGatewayWriteAheadLogRolledBack config log request.clock.markedAtUnixMs).bind (fun _ =>
  .pure ⟨.beforeUpload, error⟩))

def writeHomeObject : GatewayProgram (Except PutFailure Bytes) :=
  Program.attempt
    (persistObjectHomeProvider context.homeProvider request.bucket request.key
      request.clock.placedAtUnixMs)
    (fun error =>
      -- the placement was not written, so there is nothing to restore
      (markGatewayWriteAheadLogRolledBack config log request.clock.markedAtUnixMs).bind
        (fun _ => .pure ⟨.beforeUpload, mapBackendErrorToS3 error⟩))
    (fun _ =>
  Program.attempt (persistLogicalObjectRecord .forward (context.desiredLogicalRecord request))
    (fun error => abandonUpload config request context log (mapBackendErrorToS3 error))
    (fun _ =>
  Program.attempt (.pure (context.uploadBody request))
    (fun error => abandonUpload config request context log (.internalError error))
    (fun body =>
  Program.attempt
    (Requests.putObject context.homeProvider request.bucket request.key
      (context.uploaded request body))
    (fun error => abandonUpload config request context log (mapBackendErrorToS3 error))
    (fun _ => .pure (.ok body)))))

/-! ## Section 4: After the write -/

def putObjectVerifyMaxAttempts : Nat := 3

/-- The head checks: `attempts` are left. -/
def verifyPutObjectVisibility (provider : ProviderId) (bucket key : String)
    (expectedSize : Nat) : Nat → Option String → GatewayProgram (Except BlobError Unit)
  | 0, lastError =>
    .pure (.error (.upstream
      (s!"provider {provider.asStr} reported put success for {bucket}/{key} but post-write " ++
        s!"head verification failed after {putObjectVerifyMaxAttempts} attempts: " ++
        lastError.getD "no verification result was captured")))
  | attempts + 1, _ =>
    (Requests.headObject provider bucket key).bind (fun
      | .ok object =>
        if object.size = expectedSize then .pure (.ok ())
        else
          verifyPutObjectVisibility provider bucket key expectedSize attempts
            (some s!"head returned size {object.size} instead of {expectedSize}")
      | .error error =>
        verifyPutObjectVisibility provider bucket key expectedSize attempts
          (some error.display))

/-- `maybe_cleanup_failed_put_object`: no cleanup when the previous home is the same. -/
def maybeCleanupFailedPutObject : GatewayProgram Unit :=
  if context.previousPlacement.map Prod.fst = some context.homeProvider then .pure ()
  else
    (Requests.deleteObject .rollback context.homeProvider request.bucket request.key).bind
      (fun _ => .pure ())

def rollbackPutAfterFailureWithNote : GatewayProgram String :=
  (ensurePreviousObjectMetadataState request.bucket request.key context.previous).bind
    (fun restored =>
  (maybeCleanupFailedPutObject request context).bind (fun _ =>
  .pure (
    "remote put already succeeded; " ++
      match restored with
      | .ok () => "metadata rollback succeeded"
      | .error error => s!"metadata rollback failed: {error.display}")))

/-- The way out of a metadata error after the write. -/
def failAfterUpload (exit : PutExit) (error : String) : GatewayProgram PutFailure :=
  (rollbackPutAfterFailureWithNote request context).bind (fun rollbackNote =>
    .pure
      ⟨exit, .internalError
        (s!"put remote side effect may have occurred for {request.bucket}/{request.key}: " ++
          s!"{error}; {rollbackNote}")⟩)

/-- `enqueue_put` for the topology and `enqueue_delete` for what left the plan. -/
def enqueuePutJobs (effectiveEtag : Option String) : GatewayProgram (List ReplicationJob) :=
  (Requests.enqueueJobs context.topology (some context.homeProvider.asStr) .put
    { bucket := request.bucket
      key := request.key
      etag := effectiveEtag
      size := some (context.storedSize request)
      contentType := context.storedContentType request }
    request.clock.enqueuedAtUnixMs).bind (fun puts =>
  if context.removedSyncTargets.isEmpty then .pure puts
  else
    (Requests.enqueueJobs
      { context.topology with
        syncTargets := context.removedSyncTargets
        fallbackReadOrder := [] }
      (some context.homeProvider.asStr) .delete
      { bucket := request.bucket
        key := request.key
        etag := none
        size := none
        contentType := none }
      request.clock.enqueuedAtUnixMs).bind (fun deletes => .pure (puts ++ deletes)))

/-- The upload is taken back because of what was uploaded. -/
def rejectUpload (exit : PutExit) (error : S3Error) (cleanup : GatewayProgram Unit) :
    GatewayProgram PutFailure :=
  (restorePreviousObjectWriteState request.bucket request.key context.previousPlacement
    context.previous.logical).bind (fun _ =>
  cleanup.bind (fun _ =>
  (markGatewayWriteAheadLogRolledBack config log request.clock.markedAtUnixMs).bind (fun _ =>
  .pure ⟨exit, error⟩)))

def finishPut : GatewayProgram (Except PutFailure (Option String)) :=
  Program.attempt
    (.pure (
      match request.payloadValidation with
      | none => .ok ()
      | some validation => validation.ensureMatched))
    (fun error =>
      rejectUpload config request context log .payloadHash error
        -- the home object is deleted whatever was there before
        ((Requests.deleteObject .rollback context.homeProvider request.bucket
          request.key).bind (fun _ => .pure ())))
    (fun _ =>
  Program.attempt
    (.pure (
      match request.etagOverride with
      | none => .ok request.stamp.etag
      | some (.ok etag) => .ok (some etag)
      | some (.error error) => .error error))
    -- `transpose()?` returns at once: nothing is restored
    (fun error => .pure ⟨.etagOverride, error⟩)
    (fun effectiveEtag =>
  Program.attempt
    (verifyPutObjectVisibility context.homeProvider request.bucket request.key
      (context.storedSize request) putObjectVerifyMaxAttempts none)
    (fun error =>
      rejectUpload config request context log .verification (mapBackendErrorToS3 error)
        (maybeCleanupFailedPutObject request context))
    (fun _ =>
  Program.attempt
    (persistObjectProtectionPlan .forward request.bucket request.key
      context.topology.syncTargets context.topology.fallbackReadOrder
      request.clock.planUpdatedAtUnixMs)
    (fun error => failAfterUpload request context .protectionPlan error.display)
    (fun _ =>
  Program.attempt
    (persistLogicalObjectRecord .forward
      { context.desiredLogicalRecord request with etag := effectiveEtag })
    (fun error => failAfterUpload request context .logicalRecord error.display)
    (fun _ =>
  (enqueuePutJobs request context effectiveEtag).bind (fun jobs =>
  Program.attempt (Requests.writeMetadata .forward (.enqueueJobs jobs))
    (fun error => failAfterUpload request context .replicationJobs error)
    (fun _ =>
  (markGatewayWriteAheadLogCommitted config log request.clock.markedAtUnixMs).bind (fun _ =>
  .pure (.ok effectiveEtag)))))))))

end Put

/-- The whole of `execute_put_upload`; the value is the etag of the response. -/
def executePutUpload (config : GatewayConfig) (request : PutRequest) :
    GatewayProgram (Except PutFailure (Option String)) :=
  Program.attempt (preparePut config request) (fun error => .pure ⟨.beforeUpload, error⟩)
    (fun context =>
  Program.attempt
    (maybePrepareGatewayWriteAheadLog config request.logProvider
      request.clock.preparedAtUnixMs (logEntry request context))
    (fun error => .pure ⟨.beforeUpload, mapBackendErrorToS3 error⟩)
    (fun log =>
  Program.attempt (writeHomeObject config request context log) .pure
    (fun _ => finishPut config request context log)))

end Netdisk2Blob.Gateway.Operations
