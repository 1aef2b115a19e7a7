import Netdisk2Blob.ControlPlane.ManagedKeys
import Netdisk2Blob.Gateway.Requests
import Netdisk2Blob.ObjectCrypto.Envelope

/-!
# Encryption Profiles and Content Policies

The two sections of the control plane that decide under which key an upload is encrypted:
a content policy names an encryption profile, and a profile names its key.

## Contents

- `normalizeEncryptionProfiles`, `normalizeContentPolicies`: what an update accepts
- `validateManagedEncryptionKeyRefs`, `validateContentPolicyEncryptionProfileRefs`: the checks
  of the names across sections
- `effectiveEncryptionProfileForWrite`, `loadProfileEncryptionKeyMaterial`
-/

namespace Netdisk2Blob.ControlPlane

open Library Text Blob Policy ObjectCrypto Gateway

/-! ## Section 1: Lists of names -/

/-- The loop that normalizes a list, drops what is empty and keeps the first of equals;
`seen` is what it has kept so far. -/
def normalizeListFrom (normalize : String → String) : List String → List String → List String
  | _, [] => []
  | seen, value :: values =>
    if (normalize value).isEmpty ∨ normalize value ∈ seen then
      normalizeListFrom normalize seen values
    else normalize value :: normalizeListFrom normalize (normalize value :: seen) values

def normalizeStringList (values : List String) : List String := normalizeListFrom trim [] values

def normalizeContentTypeList (values : List String) : List String :=
  normalizeListFrom (fun value => toAsciiLowercase (trim value)) [] values

def normalizeBucketList (values : List String) : List String :=
  normalizeListFrom (fun value => toAsciiLowercase (trim value)) [] values

def normalizePrefixList (values : List String) : List String :=
  normalizeListFrom
    (fun value => String.ofList (trimList (fun c => decide (c = '/')) (trim value).toList)) []
    values

def dedupeProviderIds (providers : List ProviderId) : List ProviderId :=
  providers.foldl (fun unique provider => if provider ∈ unique then unique else unique ++ [provider])
    []

/-! ## Section 2: Encryption profiles -/

inductive EncryptionKeySourceKind where
  | envVar
  | filePath
  | externalKms
  | gatewayManaged
  deriving DecidableEq, Repr

def EncryptionKeySourceKind.asStr : EncryptionKeySourceKind → String
  | envVar => "env_var"
  | filePath => "file_path"
  | externalKms => "external_kms"
  | gatewayManaged => "gateway_managed"

/-- A profile; the input of an update has the same fields. -/
structure EncryptionProfile where
  id : String
  label : Option String
  enabled : Bool
  algorithmPreference : AlgorithmPreference
  chunkPlaintextBytes : Nat
  keyId : String
  keySourceKind : EncryptionKeySourceKind
  keySourceRef : String
  notes : Option String
  deriving DecidableEq, Repr

def minEncryptionChunkPlaintextBytes : Nat := 64 * 1024

def maxEncryptionChunkPlaintextBytes : Nat := 16 * 1024 * 1024

/-- One round of `normalize_encryption_profiles`; `ids` are those of the rounds before. -/
def normalizeEncryptionProfile (ids : List String) (profile : EncryptionProfile) :
    Except BlobError EncryptionProfile :=
  let id := trim profile.id
  let keyId := trim profile.keyId
  let keySourceRef := trim profile.keySourceRef
  if id.isEmpty then .error (.configuration "encryption profile id must not be empty")
  else if id ∈ ids then .error (.configuration s!"duplicate encryption profile id: {id}")
  else if keyId.isEmpty then
    .error (.configuration s!"encryption profile {id} key_id must not be empty")
  else if keySourceRef.isEmpty then
    .error (.configuration s!"encryption profile {id} key_source_ref must not be empty")
  else if profile.chunkPlaintextBytes < minEncryptionChunkPlaintextBytes ∨
      maxEncryptionChunkPlaintextBytes < profile.chunkPlaintextBytes then
    .error (.configuration (s!"encryption profile {id} chunk_plaintext_bytes must be between " ++
      s!"{minEncryptionChunkPlaintextBytes} and {maxEncryptionChunkPlaintextBytes} bytes"))
  else .ok { profile with
    id := id
    label := normalizeSecretField profile.label
    keyId := keyId
    keySourceRef := keySourceRef
    notes := normalizeSecretField profile.notes }

/-- A loop that normalizes its entries one by one; `taken` are the keys of the entries so
far. -/
def normalizeDistinct {α β κ : Type} (normalize : List κ → α → Except BlobError β) (key : β → κ) :
    List κ → List α → Except BlobError (List β)
  | _, [] => .ok []
  | taken, entry :: entries => do
    let normalized ← normalize taken entry
    let rest ← normalizeDistinct normalize key (key normalized :: taken) entries
    .ok (normalized :: rest)

/-- Each entry of a normalized list comes from the round for the entry at its place. -/
theorem forall₂_normalizeDistinct {α β κ : Type} {normalize : List κ → α → Except BlobError β}
    {key : β → κ} {taken : List κ} {entries : List α} {normalized : List β}
    (h : normalizeDistinct normalize key taken entries = .ok normalized) :
    List.Forall₂ (fun entry result => ∃ taken, normalize taken entry = .ok result) entries
      normalized := by
  induction entries generalizing taken normalized with
  | nil =>
    cases h
    exact List.Forall₂.nil
  | cons entry entries ih =>
    obtain ⟨first, hfirst, hrest⟩ := except_bind_ok.mp h
    obtain ⟨rest, hnormalized, heq⟩ := except_bind_ok.mp hrest
    cases heq
    exact List.Forall₂.cons ⟨taken, hfirst⟩ (ih hnormalized)

def normalizeEncryptionProfiles (profiles : List EncryptionProfile) :
    Except BlobError (List EncryptionProfile) :=
  normalizeDistinct normalizeEncryptionProfile (·.id) [] profiles

/-- The ids of the profiles that name a managed key. -/
def encryptionProfileReferencingManagedKey (profiles : List EncryptionProfile) (keyId : String) :
    List String :=
  (profiles.filter fun profile =>
    decide (profile.keySourceKind = .gatewayManaged ∧ profile.keySourceRef = keyId)).map (·.id)

def validateManagedEncryptionKeyRef (base64 : Base64) (files : ManagedKeyFiles)
    (profile : EncryptionProfile) : Except BlobError Unit :=
  if profile.keySourceKind ≠ .gatewayManaged then .ok ()
  else
    let keyId := trim profile.keySourceRef
    if keyId.isEmpty then
      .error (.configuration
        s!"encryption profile {profile.id} key_source_ref must not be empty")
    else
      match loadManagedEncryptionKeyRecord base64 files keyId with
      | .ok _ => .ok ()
      | .error (.notFound _) => .error (.configuration
          s!"encryption profile {profile.id} references unknown managed encryption key {keyId}")
      | .error error => .error error

def validateManagedEncryptionKeyRefs (base64 : Base64) (files : ManagedKeyFiles)
    (profiles : List EncryptionProfile) : Except BlobError Unit :=
  profiles.forM (validateManagedEncryptionKeyRef base64 files)

/-! ## Section 3: Content policies -/

structure ContentPolicyRule where
  id : String
  label : Option String
  enabled : Bool
  applicationIds : List String
  buckets : List String
  prefixes : List String
  contentTypes : List String
  encryptionProfileId : Option String
  syncTargets : List ProviderId
  fallbackReadOrder : List ProviderId
  deriving DecidableEq, Repr

/-- One round of `normalize_content_policies`. -/
def normalizeContentPolicy (ids : List String) (policy : ContentPolicyRule) :
    Except BlobError ContentPolicyRule :=
  let id := trim policy.id
  let syncTargets := dedupeProviderIds policy.syncTargets
  let fallbackReadOrder := dedupeProviderIds policy.fallbackReadOrder
  if id.isEmpty then .error (.configuration "content policy id must not be empty")
  else if id ∈ ids then .error (.configuration s!"duplicate content policy id: {id}")
  else
    match syncTargets.find? (fun provider => !canBeSyncTarget provider) with
    | some provider => .error (.configuration
        s!"content policy {id} has invalid sync target {provider.asStr}")
    | none =>
      match fallbackReadOrder.find? (fun provider =>
          decide (syncTargets ≠ [] ∧ provider ∉ syncTargets)) with
      | some provider => .error (.configuration
          s!"content policy {id} fallback provider {provider.asStr} must also be a sync target")
      | none => .ok { policy with
          id := id
          label := normalizeSecretField policy.label
          applicationIds := normalizeStringList policy.applicationIds
          buckets := normalizeBucketList policy.buckets
          prefixes := normalizePrefixList policy.prefixes
          contentTypes := normalizeContentTypeList policy.contentTypes
          encryptionProfileId := normalizeSecretField policy.encryptionProfileId
          syncTargets := syncTargets
          fallbackReadOrder := fallbackReadOrder }

def normalizeContentPolicies (policies : List ContentPolicyRule) :
    Except BlobError (List ContentPolicyRule) :=
  normalizeDistinct normalizeContentPolicy (·.id) [] policies

def validateContentPolicyEncryptionProfileRef (profiles : List EncryptionProfile)
    (policy : ContentPolicyRule) : Except BlobError Unit :=
  match policy.encryptionProfileId with
  | none => .ok ()
  | some profileId =>
    if profileId ∈ profiles.map (·.id) then .ok ()
    else .error (.configuration
      s!"content policy {policy.id} references unknown encryption profile {profileId}")

def validateContentPolicyEncryptionProfileRefs (policies : List ContentPolicyRule)
    (profiles : List EncryptionProfile) : Except BlobError Unit :=
  policies.forM (validateContentPolicyEncryptionProfileRef profiles)

/-! ## Section 4: The profile of an upload -/

def contentTypeMatches (patterns : List String) (contentType : Option String) : Bool :=
  if patterns.isEmpty then true
  else
    match contentType with
    | none => false
    | some contentType =>
      let contentType := toAsciiLowercase (trim contentType)
      patterns.any fun pattern =>
        -- a pattern of the form `type/*` stands for every subtype
        if pattern.toList.reverse.take 2 = ['*', '/'] then
          (stripPrefix (String.ofList (pattern.toList.take (pattern.toList.length - 1)))
            contentType).isSome
        else decide (pattern = contentType)

def contentPolicyMatches (policy : ContentPolicyRule) (applicationId : Option String)
    (bucket key : String) (contentType : Option String) : Bool :=
  policy.enabled &&
    (policy.applicationIds.isEmpty ||
      applicationId.any (fun applicationId => decide (applicationId ∈ policy.applicationIds))) &&
    (policy.buckets.isEmpty || decide (bucket ∈ policy.buckets)) &&
    (policy.prefixes.isEmpty || policy.prefixes.any (fun pre => (stripPrefix pre key).isSome)) &&
    contentTypeMatches policy.contentTypes contentType

def matchingContentPolicy (policies : List ContentPolicyRule) (applicationId : Option String)
    (bucket key : String) (contentType : Option String) : Option ContentPolicyRule :=
  policies.find? fun policy => contentPolicyMatches policy applicationId bucket key contentType

/-- The two sections of the control plane. -/
structure EncryptionSettings where
  encryptionProfiles : List EncryptionProfile
  contentPolicies : List ContentPolicyRule
  deriving DecidableEq, Repr

def resolveEnabledEncryptionProfileById (profiles : List EncryptionProfile)
    (profileId reason : String) : Except S3Error EncryptionProfile :=
  match profiles.find? (fun profile => decide (profile.id = profileId)) with
  | none => .error (.internalError s!"{reason} references missing encryption profile {profileId}")
  | some profile =>
    if profile.enabled then .ok profile
    else .error (.internalError
      s!"{reason} references disabled encryption profile {profileId}")

def effectiveEncryptionProfileForWrite (settings : EncryptionSettings) (applicationId : String)
    (bucket key : String) (contentType : Option String) :
    Except S3Error (Option EncryptionProfile) :=
  match matchingContentPolicy settings.contentPolicies (some applicationId) bucket key
      contentType with
  | none => .ok none
  | some policy =>
    match policy.encryptionProfileId with
    | none => .ok none
    | some profileId =>
      (resolveEnabledEncryptionProfileById settings.encryptionProfiles profileId
        s!"content policy {policy.id}").map some

def keyMaterialFromBytes (bytes : Bytes) (source : String) : Except BlobError Bytes :=
  if bytes.length ≠ 32 then
    .error (.configuration
      s!"encryption key material from {source} must be exactly 32 bytes")
  else .ok bytes

/-- The key material of a managed key. -/
def managedEncryptionKeyMaterial (base64 : Base64) (files : ManagedKeyFiles)
    (keySourceRef : String) : Except BlobError Bytes := do
  let record ← loadManagedEncryptionKeyRecord base64 files keySourceRef
  match base64.decode record.keyMaterialBase64 with
  | .error error => .error (.configuration
      s!"managed encryption key {record.id} contains invalid base64 key material: {error}")
  | .ok decoded => keyMaterialFromBytes decoded s!"managed encryption key {record.id}"

/-- The key of a profile. What is not in the key directory (the environment, other files, the
key management service) is a parameter. -/
def loadProfileEncryptionKeyMaterial (base64 : Base64)
    (externalKeyMaterial : EncryptionProfile → Except BlobError Bytes) (files : ManagedKeyFiles)
    (profile : EncryptionProfile) : Except BlobError Bytes :=
  match profile.keySourceKind with
  | .gatewayManaged => managedEncryptionKeyMaterial base64 files profile.keySourceRef
  | .envVar | .filePath | .externalKms => externalKeyMaterial profile

end Netdisk2Blob.ControlPlane
