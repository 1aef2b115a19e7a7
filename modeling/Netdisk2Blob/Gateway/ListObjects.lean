import Netdisk2Blob.Gateway.ObjectRead
import Netdisk2Blob.Gateway.S3Requests

/-!
# Listing a Bucket

`list_objects_v2_with_bucket`: the keys of a bucket are those that its read backend lists,
merged with those that are placed at a home provider. The merged list is cut at a limit,
filtered by the permissions of the application and projected onto one page.

## Contents

- `ListingState`: what the providers hold while a client lists a bucket
- `resolveBucketReadBackend`, `listBucketObjectsWithFallback`,
  `listBucketObjectsForDelimitedListing`
- `listObjectsV2Projection`, `listObjectsV2WithBucket`
-/

namespace Netdisk2Blob.Gateway

open Library Text Blob Policy Replication Metadata

/-! ## Section 1: State -/

/-- What a listing reads: it does not change between the requests of one listing. -/
structure ListingState where
  config : GatewayConfig
  onedriveMatchesBucket : String → Bool
  metadataStore : MetadataStore
  /-- the answer of `head_container` -/
  headContainer : ProviderId → String → Except BlobError Unit
  /-- the objects of a container, in the order in which every backend lists them -/
  contents : ProviderId → String → Except BlobError (Table ObjectInfo (fun object => object.key))
  /-- `unix_ms_to_s3_timestamp` -/
  s3Timestamp : Nat → Option String

def startsWith (key pre : String) : Bool := pre.toList.isPrefixOf key.toList

namespace ListingState

variable (s : ListingState)

def placementsForBucket (bucket : String) : List ObjectPlacementRecord :=
  s.metadataStore.objectPlacements.rows.filter (fun row => decide (row.bucket = bucket))

def logicalRecord (bucket key : String) : Option LogicalObjectRecord :=
  s.metadataStore.logicalObject bucket key

def listObjects (provider : ProviderId) (bucket : String) (pre : Option String)
    (limit : Option Nat) : Except BlobError (List ObjectInfo) :=
  match s.contents provider bucket with
  | .error error => .error error
  | .ok objects =>
    let listed := objects.rows.filter (fun object => startsWith object.key (pre.getD ""))
    .ok (match limit with
      | some limit => listed.take limit
      | none => listed)

def headObject (provider : ProviderId) (bucket key : String) : Except BlobError ObjectInfo :=
  match s.contents provider bucket with
  | .error error => .error error
  | .ok objects =>
    match objects.find? key with
    | some object => .ok object
    | none => .error (fallbackNotFound bucket key)

/-! ## Section 2: The read backend of a bucket -/

def providerHasPersistedObjects (provider : ProviderId) (bucket : String) : Bool :=
  (s.placementsForBucket bucket).any (fun placement =>
    decide (placement.provider = provider.asStr))

def persistedHomeProvidersForBucket (bucket : String) : List ProviderId :=
  (s.placementsForBucket bucket).foldl
    (fun providers placement =>
      match ProviderId.parse placement.provider with
      | .error _ => providers
      | .ok provider => if provider ∈ providers then providers else providers ++ [provider])
    []

def fallbackGateForKey (provider : ProviderId) (bucket key : String) : FallbackObjectGate :=
  fallbackGateForJob
    ((s.metadataStore.latestJobsForBucket provider.asStr bucket).find?
      (fun job => decide (job.object.key = key)))

/-- `provider_allowed_for_fallback_object`, and a completed put as the latest job. -/
def fallbackReadable (provider : ProviderId) (bucket key : String) : Bool :=
  s.config.providerAllowedForFallbackObject provider bucket key &&
    decide (s.fallbackGateForKey provider bucket key = .allowed)

def providerAllowedForFallbackBucket (provider : ProviderId) (bucket : String) : Bool :=
  if provider ≠ .onedrive then true else s.onedriveMatchesBucket bucket

def bucketHasReadableFallbackObjects (provider : ProviderId) (bucket : String) : Bool :=
  s.providerAllowedForFallbackBucket provider bucket &&
    (s.metadataStore.latestJobsForBucket provider.asStr bucket).any (fun job =>
      s.config.providerAllowedForFallbackObject provider bucket job.object.key &&
        decide (fallbackGateForJob (some job) = .allowed))

/-- The loop over the homes of the bucket: the first whose container answers. -/
def resolveFromHomes (bucket : String) :
    List ProviderId → Option BlobError → Option ReadSource × Option BlobError
  | [], firstNonNotFound => (none, firstNonNotFound)
  | provider :: providers, firstNonNotFound =>
    if provider = s.config.topology.primaryProvider then
      resolveFromHomes bucket providers firstNonNotFound
    else
      match s.config.backendForProvider provider with
      | .error error =>
        resolveFromHomes bucket providers (rememberReadError firstNonNotFound error)
      | .ok provider =>
        match s.headContainer provider bucket with
        | .ok () => (some ⟨provider, some s.config.topology.primaryProvider⟩, firstNonNotFound)
        | .error error =>
          resolveFromHomes bucket providers (rememberReadError firstNonNotFound error)

/-- The loop over the fallback backends. -/
def resolveFromFallbackBackends (bucket : String) :
    List ProviderId → Option BlobError → Except BlobError ReadSource
  | [], firstNonNotFound =>
    .error (firstNonNotFound.getD (.notFound s!"container not found: {bucket}"))
  | provider :: providers, firstNonNotFound =>
    if s.providerHasPersistedObjects provider bucket then
      .ok ⟨provider, some s.config.topology.primaryProvider⟩
    else if ¬ s.bucketHasReadableFallbackObjects provider bucket then
      resolveFromFallbackBackends bucket providers firstNonNotFound
    else
      match s.headContainer provider bucket with
      | .ok () => .ok ⟨provider, some s.config.topology.primaryProvider⟩
      | .error error =>
        resolveFromFallbackBackends bucket providers (rememberReadError firstNonNotFound error)

def resolveBucketReadBackend (bucket : String) : Except BlobError ReadSource :=
  match s.config.backendForProvider s.config.topology.primaryProvider with
  | .error error => .error error
  | .ok primaryProvider =>
    match s.headContainer primaryProvider bucket with
    | .ok () => .ok ⟨primaryProvider, none⟩
    | .error error =>
      if s.providerHasPersistedObjects primaryProvider bucket then .ok ⟨primaryProvider, none⟩
      else
        match s.resolveFromHomes bucket (s.persistedHomeProvidersForBucket bucket)
            (rememberReadError none error) with
        | (some source, _) => .ok source
        | (none, firstNonNotFound) =>
          s.resolveFromFallbackBackends bucket s.config.orderedFallbackBackends firstNonNotFound

/-! ## Section 3: The objects of a bucket -/

def sortByKey (objects : List ObjectInfo) : List ObjectInfo :=
  objects.insertionSort (fun left right => left.key ≤ right.key)

/-- Of two objects with one key the existing one stays. -/
def mergeObjectListsByKey (existing additional : List ObjectInfo) : List ObjectInfo :=
  sortByKey (additional.foldl
    (fun merged object =>
      if merged.any (fun other => decide (other.key = object.key)) then merged
      else merged ++ [object])
    existing)

/-- The object of a placement, if its home knows it. -/
def headPlacedObject (bucket : String) (placement : ObjectPlacementRecord) :
    Except BlobError (Option ObjectInfo) :=
  match ProviderId.parse placement.provider with
  | .error _ => .ok none
  | .ok provider =>
    match s.config.backendForProvider provider with
    | .error _ => .ok none
    | .ok provider =>
      match s.headObject provider bucket placement.key with
      | .ok object => .ok (some object)
      | .error (.notFound _) => .ok none
      | .error error => .error error

/-- A bucket has one placement a key, so the set of seen placements refuses none. -/
def listObjectsFromHomeProviders (bucket : String) (pre : Option String) :
    Except BlobError (List ObjectInfo) := do
  let placements := (s.placementsForBucket bucket).filter
    (fun placement => startsWith placement.key (pre.getD ""))
  let found ← placements.mapM (s.headPlacedObject bucket)
  return sortByKey (found.filterMap id)

/-- The text up to the end of the first delimiter in it. -/
def throughDelimiter (delimiter : List Char) : List Char → Option (List Char)
  | [] => if delimiter = [] then some [] else none
  | c :: rest =>
    if delimiter.isPrefixOf (c :: rest) then some delimiter
    else (throughDelimiter delimiter rest).map (fun through => c :: through)

/-- `str::contains`. -/
def containsText (text delimiter : String) : Bool :=
  (throughDelimiter delimiter.toList text.toList).isSome

/-- What stands behind a prefix of the key. -/
def remainderOf (key pre : String) : String := String.ofList (key.toList.drop pre.toList.length)

/-- What a delimited listing says of a placement, without asking its home. -/
def placedEntry (bucket pre delimiter : String) (placement : ObjectPlacementRecord) :
    Option ObjectInfo :=
  if ¬ startsWith placement.key pre then none
  else if remainderOf placement.key pre = "" then none
  else if containsText (remainderOf placement.key pre) delimiter then
    some ⟨placement.key, 0, none, none, none⟩
  else
    let logical := s.logicalRecord bucket placement.key
    some
      { key := placement.key
        size := (logical.map (·.plaintextSize)).getD 0
        etag := none
        contentType := logical.bind (·.logicalContentType)
        lastModified :=
          s.s3Timestamp ((logical.map (·.updatedAtUnixMs)).getD placement.updatedAtUnixMs) }

def listDelimitedObjectsFromHomeProviders (bucket : String) (pre : Option String)
    (delimiter : String) : List ObjectInfo :=
  sortByKey ((s.placementsForBucket bucket).filterMap
    (s.placedEntry bucket (pre.getD "") delimiter))

structure ReadObjects where
  source : ReadSource
  objects : List ObjectInfo
  deriving DecidableEq, Repr

def publicObjects (bucket : String) (objects : List ObjectInfo) : List ObjectInfo :=
  objects.map (fun object => publicObjectInfo object (s.logicalRecord bucket object.key))

def listBucketObjectsWithFallback (bucket : String) (pre : Option String) (limit : Nat) :
    Except BlobError ReadObjects := do
  let source ← s.resolveBucketReadBackend bucket
  let isFallback := source.fallbackFrom.isSome
  let listed ← s.listObjects source.provider bucket pre (if isFallback then none else some limit)
  let objects :=
    if isFallback then
      listed.filter (fun object => s.fallbackReadable source.provider bucket object.key)
    else listed
  let indexedObjects ← s.listObjectsFromHomeProviders bucket pre
  return ⟨source,
    (s.publicObjects bucket (mergeObjectListsByKey objects indexedObjects)).take limit⟩

/-- Only the stub's own objects are listed besides the placed ones. -/
def withStubObjects (provider : ProviderId) (bucket : String) (pre : Option String) (limit : Nat)
    (objects : List ObjectInfo) : Except BlobError (List ObjectInfo) :=
  if provider = .stub then
    match s.listObjects provider bucket pre (some limit) with
    | .error error => .error error
    | .ok backendObjects => .ok (mergeObjectListsByKey backendObjects objects)
  else .ok objects

def listBucketObjectsForDelimitedListing (bucket : String) (pre : Option String)
    (delimiter : String) (limit : Nat) : Except BlobError ReadObjects := do
  let source ← s.resolveBucketReadBackend bucket
  let objects := s.listDelimitedObjectsFromHomeProviders bucket pre delimiter
  let merged ← s.withStubObjects source.provider bucket pre limit objects
  return ⟨source, (s.publicObjects bucket merged).take limit⟩

end ListingState

/-! ## Section 4: Permissions -/

structure DataPlaneApplicationPermissions where
  listBuckets : Bool
  listObjects : Bool
  readObject : Bool
  writeObject : Bool
  deleteObject : Bool
  allowedBuckets : List String
  allowedPrefixes : List String
  deriving DecidableEq, Repr

structure S3ApplicationIdentity where
  applicationId : String
  permissions : DataPlaneApplicationPermissions
  deriving DecidableEq, Repr

def objectKeyMatchesAllowedPrefix (key allowedPrefix : String) : Bool :=
  if allowedPrefix = "" then true
  else decide (key = allowedPrefix) ||
    (stripPrefix allowedPrefix key).any (fun suffix => startsWith suffix "/")

def listPrefixOverlapsAllowedPrefix (requestPrefix allowedPrefix : String) : Bool :=
  decide (requestPrefix = "") || objectKeyMatchesAllowedPrefix requestPrefix allowedPrefix ||
    startsWith allowedPrefix requestPrefix

/-- `data_plane_permission_allowed` for `ListObjects`. -/
def listObjectsAllowed (permissions : DataPlaneApplicationPermissions) (bucket : String)
    (pre : Option String) : Bool :=
  permissions.listObjects &&
    (permissions.allowedBuckets.isEmpty || decide (bucket ∈ permissions.allowedBuckets)) &&
    (match pre with
      | none => true
      | some pre => permissions.allowedPrefixes.isEmpty ||
        permissions.allowedPrefixes.any (fun allowed => listPrefixOverlapsAllowedPrefix pre allowed))

def S3ApplicationIdentity.seesKey (application : S3ApplicationIdentity) (key : String) : Bool :=
  application.permissions.allowedPrefixes.isEmpty ||
    application.permissions.allowedPrefixes.any (fun allowed =>
      objectKeyMatchesAllowedPrefix key allowed)

def filterObjectsForApplication (objects : List ObjectInfo)
    (application : S3ApplicationIdentity) : List ObjectInfo :=
  objects.filter (fun object => application.seesKey object.key)

/-! ## Section 5: Pages -/

structure ListObjectsV2Page where
  objects : List ObjectInfo
  commonPrefixes : List String
  nextContinuationToken : Option String
  isTruncated : Bool
  deriving DecidableEq, Repr

inductive ListObjectsV2Entry where
  | object (info : ObjectInfo)
  | commonPrefix (pre : String)
  deriving DecidableEq, Repr

namespace ListObjectsV2Entry

def sortKey : ListObjectsV2Entry → String
  | .object info => info.key
  | .commonPrefix pre => pre

def object? : ListObjectsV2Entry → Option ObjectInfo
  | .object info => some info
  | .commonPrefix _ => none

def commonPrefix? : ListObjectsV2Entry → Option String
  | .object _ => none
  | .commonPrefix pre => some pre

end ListObjectsV2Entry

/-- The common prefix that a key belongs to, if it is not a direct child. -/
def commonPrefixOf (pre delimiter key : String) : Option String :=
  (ListingState.throughDelimiter delimiter.toList
    (ListingState.remainderOf key pre).toList).map
      (fun through => pre ++ String.ofList through)

def listObjectsV2Projection (objects : List ObjectInfo) (pre : String)
    (delimiter : Option String) (marker : Option String) (maxKeys : Nat) : ListObjectsV2Page :=
  let behindMarker (sortKey : String) : Bool :=
    match marker with
    | some marker => decide (marker < sortKey)
    | none => true
  match delimiter.filter (fun value => decide (value ≠ "")) with
  | none =>
    let objects := (ListingState.sortByKey objects).filter (fun object => behindMarker object.key)
    let isTruncated := decide (maxKeys < objects.length)
    { objects := objects.take maxKeys
      commonPrefixes := []
      nextContinuationToken :=
        if isTruncated then (objects[maxKeys - 1]?).map (·.key) else none
      isTruncated := isTruncated }
  | some delimiter =>
    let listed := objects.filter (fun object => startsWith object.key pre)
    let children := listed.filter (fun object =>
      decide (ListingState.remainderOf object.key pre = "") ||
        (commonPrefixOf pre delimiter object.key).isNone)
    let commonPrefixes := (listed.filter (fun object =>
      decide (ListingState.remainderOf object.key pre ≠ ""))).filterMap (fun object =>
        commonPrefixOf pre delimiter object.key)
    let entries :=
      (children.map ListObjectsV2Entry.object ++
        commonPrefixes.dedup.map ListObjectsV2Entry.commonPrefix).insertionSort
          (fun left right => left.sortKey ≤ right.sortKey)
    let entries := entries.filter (fun entry => behindMarker entry.sortKey)
    let isTruncated := decide (maxKeys < entries.length)
    { objects := (entries.take maxKeys).filterMap ListObjectsV2Entry.object?
      commonPrefixes := (entries.take maxKeys).filterMap ListObjectsV2Entry.commonPrefix?
      nextContinuationToken :=
        if isTruncated then (entries[maxKeys - 1]?).map (·.sortKey) else none
      isTruncated := isTruncated }

/-! ## Section 6: ListObjectsV2 -/

def S3Error.noSuchBucket (bucket : String) : S3Error :=
  ⟨"NoSuchBucket", 404, s!"The specified bucket does not exist: {bucket}"⟩

def mapBucketError (bucket : String) : BlobError → S3Error
  | .notFound _ => .noSuchBucket bucket
  | error => mapBackendErrorToS3 error

section Handler

variable (s : ListingState) (application : S3ApplicationIdentity) (bucket : String)
  (query : ListObjectsV2Query)

def ListObjectsV2Query.pageSize (query : ListObjectsV2Query) : Nat :=
  min (query.maxKeys.getD 1000) 1000

def ListObjectsV2Query.marker (query : ListObjectsV2Query) : Option String :=
  query.continuationToken.or query.startAfter

def readBucketObjects (backendLimit : Nat) : Except BlobError ListingState.ReadObjects :=
  if query.delimiter.any (fun value => decide (value ≠ "")) then
    s.listBucketObjectsForDelimitedListing bucket query.prefixText
      (query.delimiter.getD "") backendLimit
  else s.listBucketObjectsWithFallback bucket query.prefixText backendLimit

/-- One round of the loop: a page of what the first `backendLimit` objects give. -/
def listPage (backendLimit : Nat) : Except S3Error ListObjectsV2Page :=
  match readBucketObjects s bucket query backendLimit with
  | .error error => .error (mapBucketError bucket error)
  | .ok read =>
    .ok (listObjectsV2Projection (filterObjectsForApplication read.objects application)
      (query.prefixText.getD "") query.delimiter query.marker query.pageSize)

def needsRetry (marker : Option String) (page : ListObjectsV2Page) : Bool :=
  marker.isSome && page.objects.isEmpty && page.commonPrefixes.isEmpty &&
    page.nextContinuationToken.isNone

/-- The loop: an empty page behind a marker is asked for again with a larger limit. -/
def listPages (backendLimit : Nat) (hlimit : 0 < backendLimit) :
    Except S3Error ListObjectsV2Page :=
  match listPage s application bucket query backendLimit with
  | .error error => .error error
  | .ok page =>
    if h : needsRetry query.marker page = true ∧ backendLimit < 10000 then
      listPages (min (backendLimit * 4) 10000) (by omega)
    else .ok page
termination_by 10000 - backendLimit
decreasing_by omega

def firstBackendLimit (pageSize : Nat) : Nat := min (max (pageSize + 1) 2) 1000

theorem firstBackendLimit_pos (pageSize : Nat) : 0 < firstBackendLimit pageSize := by
  unfold firstBackendLimit
  omega

def listObjectsV2WithBucket : Except S3Error ListObjectsV2Page :=
  if ¬ listObjectsAllowed application.permissions bucket query.prefixText then
    .error (.accessDenied (
      match query.prefixText with
      | some pre =>
        s!"Application {application.applicationId} is not allowed to perform " ++
          s!"list_objects on {bucket}/{pre}."
      | none =>
        s!"Application {application.applicationId} is not allowed to perform " ++
          s!"list_objects on {bucket}."))
  else if query.listType.any (fun listType => decide (listType ≠ "2")) then
    .error (.notImplemented "Only ListObjectsV2 is supported in the current S3 subset.")
  else
    listPages s application bucket query (firstBackendLimit query.pageSize)
      (firstBackendLimit_pos query.pageSize)

end Handler

end Netdisk2Blob.Gateway
