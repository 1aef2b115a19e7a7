import Netdisk2Blob.Gateway.Requests

/-!
# Reading an Object

`resolve_object_read` decides which backend serves a GET: the placed home, then the
primary provider, then the fallback providers whose latest replication job is a completed
put. `getObject` reads from that backend and decrypts what the logical record says is
encrypted.

## Contents

- `GatewayConfig`: the control plane as one request sees it
- `resolveObjectRead`, `getObject`: the programs
- `readContent`, `ReadEquivalent`, `readContent_congr`: what a GET delivers and depends on
-/

namespace Netdisk2Blob.Gateway

open Library Blob Policy Replication Metadata

/-! ## Section 1: The control plane -/

/-- The part of the control plane that object requests read. Decryption (key material,
envelope and header check) and the two text formats of the response are parameters. -/
structure GatewayConfig where
  topology : TopologyPolicy
  configured : ProviderId → Bool
  canWrite : ProviderId → Bool
  streamingPut : ProviderId → Bool
  streamingGet : ProviderId → Bool
  maxInMemoryObjectBytes : Nat
  onedriveMatchesObject : String → String → Bool
  decryptDownload : LogicalObjectRecord → Bytes → Except S3Error Bytes
  sha256Hex : String → String
  httpLastModified : Option String → Option String

namespace GatewayConfig

def backendForProvider (config : GatewayConfig) (provider : ProviderId) :
    Except BlobError ProviderId :=
  if config.configured provider then .ok provider
  else .error (.configuration s!"backend is not configured for provider {provider.asStr}")

/-- The fallback providers that are configured sync targets, in fallback order. -/
def orderedFallbackBackends (config : GatewayConfig) : List ProviderId :=
  config.topology.fallbackReadOrder.filter (fun provider =>
    decide (provider ∈ config.topology.syncTargets) && config.configured provider)

def providerAllowedForFallbackObject (config : GatewayConfig) (provider : ProviderId)
    (bucket key : String) : Bool :=
  if provider ≠ .onedrive then true else config.onedriveMatchesObject bucket key

def ensureObjectWithinInMemoryLimit (config : GatewayConfig) (size : Nat) :
    Except S3Error Unit :=
  if size ≤ config.maxInMemoryObjectBytes then .ok ()
  else
    .error (.entityTooLarge
      (s!"Object size {size} exceeds the configured in-memory limit of " ++
        s!"{config.maxInMemoryObjectBytes} bytes. The current data path is non-streaming; " ++
        "lower object size or raise CCBG_MAX_IN_MEMORY_OBJECT_BYTES."))

end GatewayConfig

/-! ## Section 2: Which backend serves a read -/

inductive FallbackObjectGate where
  | allowed
  | missingMetadata
  | pendingPut
  | deleted
  | policyBlocked
  deriving DecidableEq, Repr

/-- Only a completed put as the latest job of the target opens the gate. -/
def fallbackGateForJob : Option ReplicationJob → FallbackObjectGate
  | some job =>
    if job.operation = .put ∧ job.status = .completed then .allowed
    else if job.operation = .delete then .deleted
    else .pendingPut
  | none => .missingMetadata

structure ReadSource where
  provider : ProviderId
  fallbackFrom : Option ProviderId
  deriving DecidableEq, Repr

structure ResolvedObjectRead where
  source : ReadSource
  object : ObjectInfo
  deriving DecidableEq, Repr

/-- The placement of a key with its provider parsed. -/
def placedHomeProviderRecord (bucket key : String) :
    GatewayProgram (Except BlobError (Option (ProviderId × Nat))) :=
  Program.attempt (Requests.objectPlacement .forward bucket key)
    (fun error => .pure (BlobError.upstream error))
    (fun placement => .pure (
      match placement with
      | none => .ok none
      | some record =>
        match ProviderId.parse record.provider with
        | .ok provider => .ok (some (provider, record.updatedAtUnixMs))
        | .error error => .error (.configuration error.display)))

def placedHomeProvider (bucket key : String) :
    GatewayProgram (Except BlobError (Option ProviderId)) :=
  Program.attempt (placedHomeProviderRecord bucket key) .pure
    (fun placed => .pure (.ok (placed.map Prod.fst)))

/-- `remember_read_error`. -/
def rememberReadError (firstNonNotFound : Option BlobError) (error : BlobError) :
    Option BlobError :=
  match firstNonNotFound, error with
  | none, .notFound _ => none
  | none, error => some error
  | some first, _ => some first

def fallbackNotFound (bucket key : String) : BlobError :=
  .notFound s!"object not found: {bucket}/{key}"

/-- The loop over the fallback backends. -/
def resolveFromFallbacks (config : GatewayConfig) (bucket key : String) :
    List ProviderId → Option BlobError → Bool →
      GatewayProgram (Except BlobError ResolvedObjectRead)
  | [], firstNonNotFound, deletedOnFallback =>
    .pure (.error (
      if deletedOnFallback then fallbackNotFound bucket key
      else firstNonNotFound.getD (fallbackNotFound bucket key)))
  | provider :: providers, firstNonNotFound, deletedOnFallback =>
    if config.providerAllowedForFallbackObject provider bucket key then
      Program.attempt
        (Requests.latestJobForObject .forward provider.asStr bucket key)
        (fun error => .pure (BlobError.upstream error))
        (fun latestJob =>
          if fallbackGateForJob latestJob = .allowed then
            (Requests.headObject provider bucket key).bind (fun
              | .ok object =>
                .pure (.ok
                  { source :=
                      { provider := provider
                        fallbackFrom := some config.topology.primaryProvider }
                    object := object })
              | .error error =>
                resolveFromFallbacks config bucket key providers
                  (rememberReadError firstNonNotFound error) deletedOnFallback)
          else
            resolveFromFallbacks config bucket key providers firstNonNotFound
              (deletedOnFallback || decide (fallbackGateForJob latestJob = .deleted)))
    else
      -- blocked by the onedrive fallback policy
      resolveFromFallbacks config bucket key providers firstNonNotFound deletedOnFallback

/-- The read when the placed home does not have the object: primary, then fallbacks. The
primary is asked whatever the placement says. -/
def resolveWithoutHome (config : GatewayConfig) (bucket key : String) :
    GatewayProgram (Except BlobError ResolvedObjectRead) :=
  match config.backendForProvider config.topology.primaryProvider with
  | .error error => .pure (.error error)
  | .ok primaryProvider =>
    (Requests.headObject primaryProvider bucket key).bind (fun
      | .ok object =>
        .pure (.ok
          { source := { provider := primaryProvider, fallbackFrom := none }, object := object })
      | .error error =>
        resolveFromFallbacks config bucket key config.orderedFallbackBackends
          (rememberReadError none error) false)

def resolveObjectRead (config : GatewayConfig) (bucket key : String) :
    GatewayProgram (Except BlobError ResolvedObjectRead) :=
  Program.attempt (placedHomeProvider bucket key) .pure
    (fun
      | none => resolveWithoutHome config bucket key
      | some homeProvider =>
        match config.backendForProvider homeProvider with
        | .error error => .pure (.error error)
        | .ok homeProvider =>
          (Requests.headObject homeProvider bucket key).bind (fun
            | .ok object =>
              .pure (.ok
                { source := { provider := homeProvider, fallbackFrom := none }
                  object := object })
            | .error (.notFound _) => resolveWithoutHome config bucket key
            | .error error => .pure (.error error)))

/-! ## Section 3: GET -/

/-- The object as a client sees it: the logical etag, and for an encrypted object its
plaintext size and content type. -/
def publicObjectInfo (object : ObjectInfo) : Option LogicalObjectRecord → ObjectInfo
  | none => object
  | some logical =>
    let etag := logical.etag.or object.etag
    if !logical.encrypted then { object with etag := etag }
    else
      { key := object.key
        size := logical.plaintextSize
        etag := etag
        contentType := logical.logicalContentType.or object.contentType
        lastModified := object.lastModified }

def objectHttpEtag (config : GatewayConfig) (object : ObjectInfo) : String :=
  let lastModified := object.lastModified.getD ""
  object.etag.getD (config.sha256Hex s!"{object.key}\n{object.size}\n{lastModified}")

/-- What a GET without a range delivers. -/
structure ObjectContent where
  body : Bytes
  contentLength : Nat
  contentType : String
  etag : String
  lastModified : Option String
  deriving DecidableEq, Repr

structure GetObjectResponse where
  content : ObjectContent
  source : ReadSource
  deriving DecidableEq, Repr

def logicalRecordError (bucket key error : String) : BlobError :=
  .upstream s!"failed to load logical object metadata for {bucket}/{key}: {error}"

def loadLogicalObjectRecord (purpose : Purpose) (bucket key : String) :
    GatewayProgram (Except BlobError (Option LogicalObjectRecord)) :=
  (Requests.logicalObject purpose bucket key).mapError
    (logicalRecordError bucket key)

/-- The body a client gets: the stored bytes, decrypted if the record says encrypted. -/
def deliveredBody (config : GatewayConfig) (stored : Bytes) :
    Option LogicalObjectRecord → Except S3Error Bytes
  | none => .ok stored
  | some logical => if logical.encrypted then config.decryptDownload logical stored else .ok stored

def getObject (config : GatewayConfig) (bucket key : String) :
    GatewayProgram (Except S3Error GetObjectResponse) :=
  Program.attempt (resolveObjectRead config bucket key)
    (fun error => .pure (mapObjectError bucket key error))
    (fun resolved =>
      Program.attempt
        (.pure (if config.streamingGet resolved.source.provider then .ok ()
          else config.ensureObjectWithinInMemoryLimit resolved.object.size))
        .pure
        (fun _ =>
          Program.attempt (Requests.getObject resolved.source.provider bucket key)
            (fun error => .pure (mapObjectError bucket key error))
            (fun object =>
              Program.attempt (loadLogicalObjectRecord .forward bucket key)
                (fun error => .pure (mapBackendErrorToS3 error))
                (fun logical =>
                  let responseObject := publicObjectInfo (object.info key) logical
                  .pure (
                    match deliveredBody config object.body logical with
                    | .error error => .error error
                    | .ok body =>
                      .ok
                        { content :=
                            { body := body
                              contentLength := responseObject.size
                              contentType :=
                                responseObject.contentType.getD "application/octet-stream"
                              etag := objectHttpEtag config responseObject
                              lastModified :=
                                config.httpLastModified responseObject.lastModified }
                          source := resolved.source })))))

/-! ## Section 4: What a GET depends on -/

/-- The requests that a GET of a key issues. -/
def Request.ReadsObject (bucket key : String) : Request → Prop
  | .readMetadata _ (.objectPlacement b k) => b = bucket ∧ k = key
  | .readMetadata _ (.logicalObject b k) => b = bucket ∧ k = key
  | .readMetadata _ (.latestJobForObject _ b k) => b = bucket ∧ k = key
  | .getObject _ b k => b = bucket ∧ k = key
  | .headObject _ b k => b = bucket ∧ k = key
  | _ => False

/-- States that a GET of the key cannot tell apart. -/
structure ReadEquivalent (bucket key : String) (s t : GatewayState) : Prop where
  placement : s.metadataStore.objectPlacement bucket key =
    t.metadataStore.objectPlacement bucket key
  logical : s.metadataStore.logicalObject bucket key =
    t.metadataStore.logicalObject bucket key
  jobs : ∀ target, s.metadataStore.latestJobForObject target bucket key =
    t.metadataStore.latestJobForObject target bucket key
  objects : ∀ provider, s.objects provider bucket key = t.objects provider bucket key

theorem handle_readsObject {bucket key : String} {operation : Request} {answer : Answer}
    {s t : GatewayState} (hreads : operation.ReadsObject bucket key)
    (h : ReadEquivalent bucket key s t) :
    (handle operation answer s).1 = (handle operation answer t).1 ∧
      ReadEquivalent bucket key (handle operation answer s).2 (handle operation answer t).2 := by
  cases operation with
  | readMetadata purpose query =>
    cases hanswer : answer.metadataError with
    | some error =>
      simp only [handle, replyUnless, hanswer]
      exact ⟨rfl, h⟩
    | none =>
      simp only [handle, replyUnless, hanswer]
      refine ⟨?_, h⟩
      cases query with
      | objectPlacement b k =>
        obtain ⟨rfl, rfl⟩ := hreads
        exact congrArg Except.ok h.placement
      | logicalObject b k =>
        obtain ⟨rfl, rfl⟩ := hreads
        exact congrArg Except.ok h.logical
      | latestJobForObject target b k =>
        obtain ⟨rfl, rfl⟩ := hreads
        exact congrArg Except.ok (h.jobs target)
      | objectProtectionPlan b k => exact hreads.elim
  | getObject provider b k =>
    obtain ⟨rfl, rfl⟩ := hreads
    cases hanswer : answer.backendError with
    | some error =>
      simp only [handle, replyUnless, hanswer]
      exact ⟨rfl, h⟩
    | none =>
      simp only [handle, replyUnless, hanswer, h.objects provider]
      cases t.objects provider b k <;> exact ⟨rfl, h⟩
  | headObject provider b k =>
    obtain ⟨rfl, rfl⟩ := hreads
    cases hanswer : answer.backendError with
    | some error =>
      simp only [handle, replyUnless, hanswer]
      exact ⟨rfl, h⟩
    | none =>
      simp only [handle, replyUnless, hanswer, h.objects provider]
      cases t.objects provider b k <;> exact ⟨rfl, h⟩
  | writeMetadata purpose update => exact hreads.elim
  | allocateLsn now => exact hreads.elim
  | putObject provider b k object => exact hreads.elim
  | deleteObject purpose provider b k => exact hreads.elim
  | copyObject provider sourceBucket sourceKey b k stamp => exact hreads.elim
  | putLogRecord record => exact hreads.elim
  | enqueueJobs topology source operation object now => exact hreads.elim
  | pendingJobs => exact hreads.elim
  | replacePending jobs => exact hreads.elim

section Issues

variable {config : GatewayConfig} {bucket key : String}

theorem issues_placedHomeProviderRecord :
    (placedHomeProviderRecord bucket key).Issues (Request.ReadsObject bucket key) :=
  Program.issues_attempt (Program.issues_issue ⟨rfl, rfl⟩) (fun _ => Program.issues_pure) (fun _ => Program.issues_pure)

theorem issues_resolveFromFallbacks {providers : List ProviderId} {first : Option BlobError}
    {deleted : Bool} :
    (resolveFromFallbacks config bucket key providers first deleted).Issues
      (Request.ReadsObject bucket key) := by
  induction providers generalizing first deleted with
  | nil => exact Program.issues_pure
  | cons provider providers ih =>
    rw [resolveFromFallbacks]
    split
    · apply Program.issues_attempt (Program.issues_issue ⟨rfl, rfl⟩) (fun _ => Program.issues_pure)
      intro latestJob
      split
      · apply Program.issues_bind (Program.issues_issue ⟨rfl, rfl⟩)
        intro answer
        cases answer with
        | ok object => exact Program.issues_pure
        | error error => exact ih
      · exact ih
    · exact ih

theorem issues_resolveWithoutHome :
    (resolveWithoutHome config bucket key).Issues (Request.ReadsObject bucket key) := by
  unfold resolveWithoutHome
  split
  · exact Program.issues_pure
  · apply Program.issues_bind (Program.issues_issue ⟨rfl, rfl⟩)
    intro answer
    cases answer with
    | ok object => exact Program.issues_pure
    | error error => exact issues_resolveFromFallbacks

theorem issues_resolveObjectRead :
    (resolveObjectRead config bucket key).Issues (Request.ReadsObject bucket key) := by
  apply Program.issues_attempt _ (fun _ => Program.issues_pure)
  · intro home
    cases home with
    | none => exact issues_resolveWithoutHome
    | some homeProvider =>
      show Program.Issues _ (match config.backendForProvider homeProvider with
        | .error error => _
        | .ok homeProvider => _)
      split
      · exact Program.issues_pure
      · apply Program.issues_bind (Program.issues_issue ⟨rfl, rfl⟩)
        intro answer
        split
        · exact Program.issues_pure
        · exact issues_resolveWithoutHome
        · exact Program.issues_pure
  · exact Program.issues_attempt issues_placedHomeProviderRecord (fun _ => Program.issues_pure)
      (fun _ => Program.issues_pure)

theorem issues_getObject :
    (getObject config bucket key).Issues (Request.ReadsObject bucket key) := by
  apply Program.issues_attempt issues_resolveObjectRead (fun _ => Program.issues_pure)
  intro resolved
  apply Program.issues_attempt Program.issues_pure (fun _ => Program.issues_pure)
  intro _
  apply Program.issues_attempt (Program.issues_issue ⟨rfl, rfl⟩) (fun _ => Program.issues_pure)
  intro object
  apply Program.issues_attempt _ (fun _ => Program.issues_pure) (fun _ => Program.issues_pure)
  exact Program.issues_mapError (Program.issues_issue ⟨rfl, rfl⟩)

/-- What a GET delivers when the backends and the store answer. -/
def readContent (config : GatewayConfig) (bucket key : String) (s : GatewayState) :
    Except S3Error ObjectContent :=
  (Program.eval handle {} (getObject config bucket key) s).1.map GetObjectResponse.content

/-- **A GET depends on the rows, the latest jobs and the stored objects of its key.** -/
theorem readContent_congr {s t : GatewayState} (h : ReadEquivalent bucket key s t) :
    readContent config bucket key s = readContent config bucket key t := by
  unfold readContent
  rw [Program.eval_congr (fun operation s t hreads hst => handle_readsObject hreads hst)
    issues_getObject h]

end Issues

end Netdisk2Blob.Gateway
