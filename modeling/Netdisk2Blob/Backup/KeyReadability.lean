import Netdisk2Blob.Backup.Restore
import Netdisk2Blob.ControlPlane.EncryptionSettings
import Netdisk2Blob.Gateway.PutObject
import Netdisk2Blob.Library.Transition

/-!
# Keys of Stored Objects

An encrypted object remembers its key by name. The key file of that name is written by the
requests for keys and by a restore, and removed by two of them; the profile that an upload
went through may name another key by the time the object is read.

## Contents

- `PutInput`, `buildPutEncryptionPlan`: the logical record of an upload and the key it is
  encrypted under
- `KeyedGateway`, `step`: the stores of a gateway, with the key each stored object was
  encrypted under, and the operations on them
- `Readable`, `Guard`, `objects_stay_readable_iff`: in a run every stored object keeps its key
  exactly when deletions and restores meet their guards
-/

namespace Netdisk2Blob.Backup

open Library Text Blob Policy Metadata ControlPlane ObjectCrypto Gateway

/-! ## Section 1: Uploads -/

structure PutInput where
  bucket : String
  key : String
  applicationId : String
  plaintextSize : Nat
  contentType : Option String
  etag : Option String
  updatedAtUnixMs : Nat
  deriving DecidableEq, Repr

/-- What an upload takes from outside: the base64 crate, the keys that the gateway does not
manage, and the cipher crate. -/
structure KeyEnvironment where
  base64 : Base64
  externalKeyMaterial : EncryptionProfile → Except BlobError Bytes
  crypto : CryptoRuntime

structure PutEncryptionPlan where
  request : EncryptRequest
  keyEncryptionKey : Bytes
  logicalRecord : LogicalObjectRecord

def plaintextRecord (input : PutInput) : LogicalObjectRecord where
  bucket := input.bucket
  key := input.key
  etag := input.etag
  applicationId := some input.applicationId
  encrypted := false
  encryptionProfileId := none
  algorithm := none
  keyId := none
  keySourceKind := none
  keySourceRef := none
  chunkPlaintextBytes := none
  plaintextSize := input.plaintextSize
  storedSize := input.plaintextSize
  logicalContentType := input.contentType
  updatedAtUnixMs := input.updatedAtUnixMs

def encryptedRecord (input : PutInput) (profile : EncryptionProfile)
    (metadata : EncryptedObjectMetadata) : LogicalObjectRecord where
  bucket := input.bucket
  key := input.key
  etag := input.etag
  applicationId := some input.applicationId
  encrypted := true
  encryptionProfileId := some profile.id
  algorithm := some metadata.algorithm.asStr
  keyId := some profile.keyId
  keySourceKind := some profile.keySourceKind.asStr
  keySourceRef := some profile.keySourceRef
  chunkPlaintextBytes := some metadata.chunkPlaintextBytes
  plaintextSize := metadata.plaintextSize
  storedSize := metadata.storedSize
  logicalContentType := metadata.logicalContentType
  updatedAtUnixMs := input.updatedAtUnixMs

/-- The input of an upload whose body is not looked at. -/
def PutInput.ofRequest (request : Operations.PutRequest) : PutInput where
  bucket := request.bucket
  key := request.key
  applicationId := request.applicationId
  plaintextSize := request.plaintextSize
  contentType := request.contentType
  etag := none
  updatedAtUnixMs := request.clock.logicalUpdatedAtUnixMs

/-- The plan of an upload as its program takes it. -/
def PutEncryptionPlan.toOperations (profile : EncryptionProfile)
    (metadata : EncryptedObjectMetadata) (encryptUpload : Except String Bytes) :
    Operations.PutEncryptionPlan where
  profileId := profile.id
  keyId := profile.keyId
  keySourceKind := profile.keySourceKind.asStr
  keySourceRef := profile.keySourceRef
  algorithm := metadata.algorithm.asStr
  chunkPlaintextBytes := metadata.chunkPlaintextBytes
  plaintextSize := metadata.plaintextSize
  storedSize := metadata.storedSize
  logicalContentType := metadata.logicalContentType
  encryptUpload := encryptUpload

/-- The records of an upload are those that the program of a PUT writes. -/
theorem records_ofRequest (request : Operations.PutRequest) (profile : EncryptionProfile)
    (metadata : EncryptedObjectMetadata) (encryptUpload : Except String Bytes) :
    plaintextRecord (.ofRequest request) = Operations.buildPlaintextLogicalRecord request ∧
      encryptedRecord (.ofRequest request) profile metadata =
        (PutEncryptionPlan.toOperations profile metadata encryptUpload).logicalRecord request :=
  ⟨rfl, rfl⟩

def buildPutEncryptionPlan (env : KeyEnvironment) (settings : EncryptionSettings)
    (files : ManagedKeyFiles) (input : PutInput) : Except S3Error (Option PutEncryptionPlan) := do
  match ← effectiveEncryptionProfileForWrite settings input.applicationId input.bucket input.key
      input.contentType with
  | none => .ok none
  | some profile =>
    match loadProfileEncryptionKeyMaterial env.base64 env.externalKeyMaterial files profile with
    | .error error => .error (mapBackendErrorToS3 error)
    | .ok keyEncryptionKey =>
      let request : EncryptRequest :=
        { profileId := profile.id
          keyId := profile.keyId
          algorithmPreference := profile.algorithmPreference
          chunkPlaintextBytes := profile.chunkPlaintextBytes
          plaintextSize := input.plaintextSize
          logicalContentType := input.contentType }
      match request.plannedMetadata env.crypto with
      | .error error => .error (.internalError error.display)
      | .ok metadata => .ok (some
          { request := request
            keyEncryptionKey := keyEncryptionKey
            logicalRecord := encryptedRecord input profile metadata })

/-! ## Section 2: The gateway -/

/-- The stores of a gateway; `encryptedWith` is the key that the object stored under a bucket
and key was encrypted under when it was uploaded. -/
structure KeyedGateway (Credential Lease : Type) where
  stores : GatewayStores EncryptionSettings Credential Lease
  encryptedWith : String → String → Option Bytes

section System

variable {Provenance Credential Lease : Type}

/-- The operations. A control-plane update changes the memory even when the write of its file
fails. -/
inductive KeyAction (Provenance Credential Lease : Type) where
  | putObject (input : PutInput)
  | updateEncryptionProfiles (profiles : List EncryptionProfile) (fault : Option FileFault)
  | updateContentPolicies (policies : List ContentPolicyRule) (fault : Option FileFault)
  | generateKey (input : ManagedEncryptionKeyGenerateInput) (bytes : Bytes) (now : Nat)
  | importKey (input : ManagedEncryptionKeyBackupPayload) (now : Nat)
  | deleteKey (keyId : String)
  | restore (records : ProviderRecords Credential Lease) (faults : RestoreFaults Lease)
      (bundle : GatewayBackupBundlePayload Provenance EncryptionSettings Credential Lease)

def updateEncryptionProfiles (base64 : Base64) (settings : EncryptionSettings)
    (files : ManagedKeyFiles) (profiles : List EncryptionProfile) :
    Except BlobError EncryptionSettings := do
  let profiles ← normalizeEncryptionProfiles profiles
  validateManagedEncryptionKeyRefs base64 files profiles
  validateContentPolicyEncryptionProfileRefs settings.contentPolicies profiles
  .ok { settings with encryptionProfiles := profiles }

def updateContentPolicies (settings : EncryptionSettings) (policies : List ContentPolicyRule) :
    Except BlobError EncryptionSettings := do
  let policies ← normalizeContentPolicies policies
  validateContentPolicyEncryptionProfileRefs policies settings.encryptionProfiles
  .ok { settings with contentPolicies := policies }

def deleteManagedEncryptionKey (profiles : List EncryptionProfile) (files : ManagedKeyFiles)
    (keyId : String) : Except BlobError ManagedKeyFiles := do
  let keyId ← normalizeManagedEncryptionKeyId keyId
  let references := encryptionProfileReferencingManagedKey profiles keyId
  if !references.isEmpty then
    .error (.configuration (s!"managed encryption key {keyId} is still referenced by " ++
      "encryption profile(s): " ++ String.intercalate ", " references))
  else removeManagedEncryptionKeyRecord files keyId

namespace KeyedGateway

/-- A successful upload: its record, and the key of what is stored now. -/
def uploaded (s : KeyedGateway Credential Lease) (record : LogicalObjectRecord)
    (key : Option Bytes) : KeyedGateway Credential Lease where
  stores := s.stores.withTables { s.stores.tables with
    logicalObjects := s.stores.tables.logicalObjects.upsert record }
  encryptedWith bucket name :=
    if bucket = record.bucket ∧ name = record.key then key else s.encryptedWith bucket name

/-- The settings that a request has put in memory, and the file it has tried to write. -/
def withSettings (s : KeyedGateway Credential Lease) (fault : Option FileFault) :
    Except BlobError EncryptionSettings → KeyedGateway Credential Lease
  | .error _ => s
  | .ok settings =>
    let file : Option EncryptionSettings := s.stores .controlPlaneFile
    { s with
      stores := s.stores.withControlPlane settings (atomicWrite fault (some settings) file).2 }

def withKeyFiles (s : KeyedGateway Credential Lease) :
    Except BlobError ManagedKeyFiles → KeyedGateway Credential Lease
  | .error _ => s
  | .ok files => { s with stores := s.stores.withKeys files }

/-- A request that is refused changes nothing; a restore is a step when it succeeds, with a
bundle whose keys the validation has normalized. -/
def step (env : KeyEnvironment) (s : KeyedGateway Credential Lease) :
    KeyAction Provenance Credential Lease → Option (KeyedGateway Credential Lease)
  | .putObject input =>
    match buildPutEncryptionPlan env s.stores.memory s.stores.keys input with
    | .error _ => some s
    | .ok none => some (s.uploaded (plaintextRecord input) none)
    | .ok (some plan) => some (s.uploaded plan.logicalRecord (some plan.keyEncryptionKey))
  | .updateEncryptionProfiles profiles fault =>
    some (s.withSettings fault
      (Backup.updateEncryptionProfiles env.base64 s.stores.memory s.stores.keys profiles))
  | .updateContentPolicies policies fault =>
    some (s.withSettings fault (Backup.updateContentPolicies s.stores.memory policies))
  | .generateKey input bytes now =>
    some (s.withKeyFiles (generateManagedEncryptionKey env.base64 s.stores.keys input bytes now))
  | .importKey input now =>
    some (s.withKeyFiles (importManagedEncryptionKeyBackup env.base64 s.stores.keys input now))
  | .deleteKey keyId =>
    some (s.withKeyFiles
      (deleteManagedEncryptionKey s.stores.memory.encryptionProfiles s.stores.keys keyId))
  | .restore records faults bundle =>
    if bundle.managedEncryptionKeys.all (fun record =>
        (normalizeManagedEncryptionKeyRecord env.base64 record).toOption = some record) then
      match applyGatewayBackupBundle env.base64 records faults bundle s.stores with
      | (.ok (), stores) => some { s with stores := stores }
      | (.error _, _) => none
    else none

end KeyedGateway

end System

/-! ## Section 3: Keys of the directory -/

section Materials

variable {base64 : Base64} {files files' : ManagedKeyFiles} {ref : String} {material : Bytes}

theorem managedEncryptionKeyMaterial_ok_iff :
    managedEncryptionKeyMaterial base64 files ref = .ok material ↔
      ∃ record, loadManagedEncryptionKeyRecord base64 files ref = .ok record ∧
        base64.decode record.keyMaterialBase64 = .ok material ∧ material.length = 32 := by
  unfold managedEncryptionKeyMaterial
  rw [except_bind_ok]
  apply exists_congr
  intro record
  apply and_congr_right
  intro _
  cases base64.decode record.keyMaterialBase64 with
  | error error => simp
  | ok decoded =>
    simp only [keyMaterialFromBytes, Except.ok.injEq]
    split_ifs with hlength
    · simp only [false_iff, not_and]
      intro heq
      rwa [← heq]
    · constructor
      · intro h
        obtain rfl := Except.ok.inj h
        exact ⟨rfl, not_not.mp hlength⟩
      · intro ⟨heq, _⟩
        rw [heq]

/-- The material of a name depends on the file under the trimmed name only. -/
theorem managedEncryptionKeyMaterial_congr
    (h : files.find? (trim ref) = files'.find? (trim ref)) :
    managedEncryptionKeyMaterial base64 files ref =
      managedEncryptionKeyMaterial base64 files' ref := by
  rw [managedEncryptionKeyMaterial, managedEncryptionKeyMaterial,
    loadManagedEncryptionKeyRecord_congr h]

/-- A name with material has a file. -/
theorem find?_of_material (h : managedEncryptionKeyMaterial base64 files ref = .ok material) :
    normalizeManagedEncryptionKeyId ref = .ok (trim ref) ∧
      (files.find? (trim ref)).isSome := by
  obtain ⟨record, hload, -⟩ := managedEncryptionKeyMaterial_ok_iff.mp h
  obtain ⟨hid, raw, hraw, -⟩ := loadManagedEncryptionKeyRecord_ok hload
  exact ⟨hid, by rw [hraw]; rfl⟩

/-- A key that is written under a free name leaves the material of every other name. -/
theorem material_persist_free {record : ManagedEncryptionKeyRecord}
    (h : persistManagedEncryptionKeyRecord base64 files record = .ok files')
    (hfree : files.find? (trim record.id) = none)
    (hmaterial : managedEncryptionKeyMaterial base64 files ref = .ok material) :
    managedEncryptionKeyMaterial base64 files' ref = .ok material := by
  obtain ⟨normalized, hnormalized, h⟩ := except_bind_ok.mp h
  obtain rfl := Except.ok.inj h
  obtain ⟨-, hid, -⟩ := normalizeManagedEncryptionKeyRecord_ok hnormalized
  have htrim := (normalizeManagedEncryptionKeyId_ok hid).1
  rw [← hmaterial]
  apply managedEncryptionKeyMaterial_congr
  rw [Table.find?_upsert, if_neg]
  intro heq
  have hsome := (find?_of_material hmaterial).2
  rw [← heq, htrim, hfree] at hsome
  cases hsome

theorem material_generate {input : ManagedEncryptionKeyGenerateInput} {bytes : Bytes}
    {now : Nat} (h : generateManagedEncryptionKey base64 files input bytes now = .ok files')
    (hmaterial : managedEncryptionKeyMaterial base64 files ref = .ok material) :
    managedEncryptionKeyMaterial base64 files' ref = .ok material := by
  obtain ⟨id, hid, h⟩ := except_bind_ok.mp h
  split at h
  · cases h
  · rename_i message hload
    exact material_persist_free h (find?_of_load_notFound hload) hmaterial
  · cases h

/-- A normalized record, changed in its times, is normalized to the same id and material. -/
theorem normalize_times (hbase64 : base64.Lawful)
    {raw record normalized : ManagedEncryptionKeyRecord} {created updated : Nat}
    (hrecord : normalizeManagedEncryptionKeyRecord base64 raw = .ok record)
    (h : normalizeManagedEncryptionKeyRecord base64
      { record with createdAtUnixMs := created, updatedAtUnixMs := updated } = .ok normalized) :
    normalized.id = trim record.id ∧
      normalized.keyMaterialBase64 = record.keyMaterialBase64 := by
  obtain ⟨decoded, -, -, -, hfields⟩ := normalizeManagedEncryptionKeyRecord_ok hrecord
  have hbytes : record.keyMaterialBase64 = base64.encode decoded := by rw [hfields]
  obtain ⟨again, hid, hagain, -, hfields'⟩ := normalizeManagedEncryptionKeyRecord_ok h
  simp only [hbytes, hbase64.trimmed, hbase64.decodes] at hagain
  obtain rfl := Except.ok.inj hagain
  refine ⟨(normalizeManagedEncryptionKeyId_ok hid).1, ?_⟩
  rw [hfields', hbytes]

/-- An import gives a name new material only where there was none. -/
theorem material_import (hbase64 : base64.Lawful) {input : ManagedEncryptionKeyBackupPayload}
    {now : Nat} (h : importManagedEncryptionKeyBackup base64 files input now = .ok files')
    (hmaterial : managedEncryptionKeyMaterial base64 files ref = .ok material) :
    managedEncryptionKeyMaterial base64 files' ref = .ok material := by
  unfold importManagedEncryptionKeyBackup at h
  split_ifs at h
  obtain ⟨record, hrecord, h⟩ := except_bind_ok.mp h
  obtain ⟨created, hcreated, h⟩ := except_bind_ok.mp h
  unfold importedCreatedAtUnixMs at hcreated
  split at hcreated
  · rename_i existing hexisting
    split_ifs at hcreated with hsame
    obtain ⟨normalized, hnormalized, h⟩ := except_bind_ok.mp h
    obtain rfl := Except.ok.inj h
    obtain ⟨hid, hbytes⟩ := normalize_times hbase64 hrecord hnormalized
    by_cases hname : normalized.id = trim ref
    · -- the same name: what was there had the same material
      obtain ⟨loaded, hloaded, hdecode, hlength⟩ :=
        managedEncryptionKeyMaterial_ok_iff.mp hmaterial
      have hloads : loadManagedEncryptionKeyRecord base64 files ref =
          loadManagedEncryptionKeyRecord base64 files record.id := by
        obtain ⟨hrefId, -⟩ := loadManagedEncryptionKeyRecord_ok hloaded
        obtain ⟨hrecordId, -⟩ := loadManagedEncryptionKeyRecord_ok hexisting
        rw [loadManagedEncryptionKeyRecord, loadManagedEncryptionKeyRecord, hrefId, hrecordId,
          ← hname, hid]
      rw [hloads, hexisting] at hloaded
      obtain rfl := Except.ok.inj hloaded
      apply managedEncryptionKeyMaterial_ok_iff.mpr
      refine ⟨normalized, ?_, ?_, hlength⟩
      · apply except_bind_ok.mpr
        refine ⟨trim ref, (find?_of_material hmaterial).1, ?_⟩
        rw [Table.find?_upsert, if_pos hname]
        exact normalizeManagedEncryptionKeyRecord_idempotent hbase64 hnormalized
      · rw [hbytes, ← not_not.mp hsame]
        exact hdecode
    · rw [← hmaterial]
      apply managedEncryptionKeyMaterial_congr
      rw [Table.find?_upsert, if_neg hname]
  · rename_i message hload
    exact material_persist_free h (find?_of_load_notFound hload) hmaterial
  · cases hcreated

end Materials

/-! ## Section 4: Stored objects -/

/-- The object is encrypted under a key that the gateway manages. -/
def NeedsManagedKey (record : LogicalObjectRecord) : Prop :=
  record.encrypted = true ∧
    record.keySourceKind = some EncryptionKeySourceKind.gatewayManaged.asStr

/-- The key file that the record names has the key its object was encrypted under. -/
def Readable (base64 : Base64) (files : ManagedKeyFiles)
    (encryptedWith : String → String → Option Bytes) (record : LogicalObjectRecord) : Prop :=
  NeedsManagedKey record →
    ∃ ref material, record.keySourceRef = some ref ∧
      managedEncryptionKeyMaterial base64 files ref = .ok material ∧
      encryptedWith record.bucket record.key = some material

namespace KeyedGateway

variable {Provenance Credential Lease : Type}

def AllReadable (env : KeyEnvironment) (s : KeyedGateway Credential Lease) : Prop :=
  ∀ record ∈ s.stores.tables.logicalObjects,
    Readable env.base64 s.stores.keys s.encryptedWith record

/-- The keys after a restore: those of the bundle, over the ones that could not be removed. -/
def restoredKeys (faults : RestoreFaults Lease)
    (bundle : GatewayBackupBundlePayload Provenance EncryptionSettings Credential Lease)
    (files : ManagedKeyFiles) : ManagedKeyFiles :=
  (removeOtherKeys faults (bundle.managedEncryptionKeys.map (·.id)) files).upsertAll
    bundle.managedEncryptionKeys

/-- What deletions and restores have to meet: a key that a stored object needs is still named
by a profile when its deletion is asked for, and the keys of a bundle are those its objects,
as they are stored now, were encrypted under. -/
def Guard (env : KeyEnvironment) (s : KeyedGateway Credential Lease) :
    KeyAction Provenance Credential Lease → Prop
  | .deleteKey keyId =>
    ∀ record ∈ s.stores.tables.logicalObjects, NeedsManagedKey record →
      record.keySourceRef.map trim = some (trim keyId) →
      ∃ profile ∈ s.stores.memory.encryptionProfiles,
        profile.keySourceKind = .gatewayManaged ∧ profile.keySourceRef = trim keyId
  | .restore _ faults bundle =>
    ∀ record ∈ bundle.metadata.logicalObjects,
      Readable env.base64 (restoredKeys faults bundle s.stores.keys) s.encryptedWith record
  | _ => True

variable {env : KeyEnvironment} {s s' : KeyedGateway Credential Lease}

/-- A change of the key files that keeps the material of every name keeps every object. -/
theorem AllReadable.withKeyFiles (h : s.AllReadable env) {result : Except BlobError ManagedKeyFiles}
    (hkeeps : ∀ files, result = .ok files → ∀ ref material,
      managedEncryptionKeyMaterial env.base64 s.stores.keys ref = .ok material →
      managedEncryptionKeyMaterial env.base64 files ref = .ok material) :
    (s.withKeyFiles result).AllReadable env := by
  cases result with
  | error error => exact h
  | ok files =>
    intro record hrecord hneeds
    obtain ⟨ref, material, href, hmaterial, hwith⟩ := h record hrecord hneeds
    exact ⟨ref, material, href, hkeeps files rfl ref material hmaterial, hwith⟩

theorem AllReadable.withSettings (h : s.AllReadable env) {fault : Option FileFault}
    {result : Except BlobError EncryptionSettings} :
    (s.withSettings fault result).AllReadable env := by
  cases result with
  | error error => exact h
  | ok settings => exact h

/-- An upload leaves the records of the other objects. -/
theorem AllReadable.uploaded (h : s.AllReadable env) {record : LogicalObjectRecord}
    {key : Option Bytes}
    (hnew : NeedsManagedKey record → ∃ ref material, record.keySourceRef = some ref ∧
      managedEncryptionKeyMaterial env.base64 s.stores.keys ref = .ok material ∧
      key = some material) :
    (s.uploaded record key).AllReadable env := by
  intro other hother hneeds
  rcases Table.mem_upsert.mp hother with rfl | ⟨hmem, hkey⟩
  · obtain ⟨ref, material, href, hmaterial, hwith⟩ := hnew hneeds
    refine ⟨ref, material, href, hmaterial, ?_⟩
    rw [KeyedGateway.uploaded, ← hwith]
    exact if_pos ⟨rfl, rfl⟩
  · obtain ⟨ref, material, href, hmaterial, hwith⟩ := h other hmem hneeds
    refine ⟨ref, material, href, hmaterial, ?_⟩
    rw [KeyedGateway.uploaded, ← hwith]
    apply if_neg
    intro ⟨hbucket, hname⟩
    exact hkey (by rw [hbucket, hname])

/-- The plan of an upload has the key that its record names. -/
theorem buildPutEncryptionPlan_key {settings : EncryptionSettings} {files : ManagedKeyFiles}
    {input : PutInput} {plan : PutEncryptionPlan}
    (h : buildPutEncryptionPlan env settings files input = .ok (some plan))
    (hneeds : NeedsManagedKey plan.logicalRecord) :
    ∃ ref, plan.logicalRecord.keySourceRef = some ref ∧
      managedEncryptionKeyMaterial env.base64 files ref = .ok plan.keyEncryptionKey := by
  obtain ⟨profile?, -, h⟩ := except_bind_ok.mp h
  cases profile? with
  | none => cases h
  | some profile =>
    simp only at h
    split at h
    · cases h
    · rename_i key hkey
      split at h
      · cases h
      · obtain rfl := Option.some.inj (Except.ok.inj h)
        refine ⟨profile.keySourceRef, rfl, ?_⟩
        have hkind : profile.keySourceKind = .gatewayManaged := by
          have hname := Option.some.inj hneeds.2
          cases hkind : profile.keySourceKind with
          | gatewayManaged => rfl
          | envVar | filePath | externalKms =>
            rw [hkind] at hname
            exact absurd hname (by decide)
        rw [loadProfileEncryptionKeyMaterial, hkind] at hkey
        exact hkey

theorem allReadable_putObject {input : PutInput} (h : s.AllReadable env)
    (hstep : s.step env (.putObject input : KeyAction Provenance Credential Lease) = some s') :
    s'.AllReadable env := by
  simp only [step] at hstep
  split at hstep
  · obtain rfl := Option.some.inj hstep
    exact h
  · obtain rfl := Option.some.inj hstep
    apply h.uploaded
    intro hneeds
    cases hneeds.1
  · rename_i plan hplan
    obtain rfl := Option.some.inj hstep
    apply h.uploaded
    intro hneeds
    obtain ⟨ref, href, hmaterial⟩ := buildPutEncryptionPlan_key hplan hneeds
    exact ⟨ref, _, href, hmaterial, rfl⟩

/-- A deletion that is accepted: no profile names the key, and its file is there. -/
theorem deleteManagedEncryptionKey_ok {profiles : List EncryptionProfile}
    {files files' : ManagedKeyFiles} {keyId : String}
    (h : deleteManagedEncryptionKey profiles files keyId = .ok files') :
    (∀ profile ∈ profiles, ¬ (profile.keySourceKind = .gatewayManaged ∧
      profile.keySourceRef = trim keyId)) ∧
      files' = files.delete fun record => decide (record.id = trim keyId) := by
  obtain ⟨id, hid, h⟩ := except_bind_ok.mp h
  obtain ⟨rfl, htrimmed⟩ := normalizeManagedEncryptionKeyId_ok hid
  simp only at h
  split_ifs at h with hreferences
  · obtain ⟨id, hid', h⟩ := except_bind_ok.mp h
    rw [htrimmed] at hid'
    obtain rfl := Except.ok.inj hid'
    split_ifs at h
    refine ⟨?_, (Except.ok.inj h).symm⟩
    intro profile hprofile hnames
    have hmem : profile.id ∈ encryptionProfileReferencingManagedKey profiles (trim keyId) := by
      apply List.mem_map_of_mem
      exact List.mem_filter.mpr ⟨hprofile, by simpa using hnames⟩
    rw [Bool.not_eq_true, Bool.not_eq_false'] at hreferences
    rw [List.isEmpty_iff.mp hreferences] at hmem
    cases hmem

theorem deleteManagedEncryptionKey_accepts {profiles : List EncryptionProfile}
    {files : ManagedKeyFiles} {keyId : String}
    (hid : normalizeManagedEncryptionKeyId keyId = .ok (trim keyId))
    (hfile : (files.find? (trim keyId)).isSome)
    (hunreferenced : ∀ profile ∈ profiles, ¬ (profile.keySourceKind = .gatewayManaged ∧
      profile.keySourceRef = trim keyId)) :
    ∃ files', deleteManagedEncryptionKey profiles files keyId = .ok files' := by
  have hempty : encryptionProfileReferencingManagedKey profiles (trim keyId) = [] := by
    rw [encryptionProfileReferencingManagedKey, List.map_eq_nil_iff, List.filter_eq_nil_iff]
    intro profile hprofile
    simpa using hunreferenced profile hprofile
  refine ⟨files.delete fun record => decide (record.id = trim keyId), ?_⟩
  apply except_bind_ok.mpr
  refine ⟨trim keyId, hid, ?_⟩
  simp only [hempty]
  apply except_bind_ok.mpr
  exact ⟨trim keyId, (normalizeManagedEncryptionKeyId_ok hid).2, if_pos hfile⟩

/-- A deletion keeps every object exactly when no stored object needs the key, unless a
profile names it and the request is refused. -/
theorem allReadable_deleteKey_iff {keyId : String} (h : s.AllReadable env)
    (hstep : s.step env (.deleteKey keyId : KeyAction Provenance Credential Lease) = some s') :
    s'.AllReadable env ↔ s.Guard env (.deleteKey keyId : KeyAction Provenance Credential Lease) := by
  obtain rfl := Option.some.inj hstep
  constructor
  · intro hafter record hrecord hneeds hnames
    cases hresult : deleteManagedEncryptionKey s.stores.memory.encryptionProfiles s.stores.keys
        keyId with
    | ok files =>
      -- the file is gone, so the object has lost its key
      obtain ⟨-, rfl⟩ := deleteManagedEncryptionKey_ok hresult
      rw [hresult] at hafter
      obtain ⟨ref, material, href, hmaterial, -⟩ := hafter record hrecord hneeds
      rw [href] at hnames
      have hid := Option.some.inj hnames
      have hsome := (find?_of_material hmaterial).2
      rw [hid] at hsome
      obtain ⟨left, hleft⟩ := Option.isSome_iff_exists.mp hsome
      obtain ⟨hmem, hkey⟩ := Table.find?_eq_some.mp hleft
      have hkept := (Table.mem_delete.mp hmem).2
      simp [hkey] at hkept
    | error error =>
      -- the request was refused, with the file there: a profile names the key
      obtain ⟨ref, material, href, hmaterial, -⟩ := h record hrecord hneeds
      rw [href] at hnames
      have hid := Option.some.inj hnames
      obtain ⟨hnormal, hsome⟩ := find?_of_material hmaterial
      rw [hid] at hnormal hsome
      by_contra hnone
      obtain ⟨files, hok⟩ := deleteManagedEncryptionKey_accepts
        ((normalizeManagedEncryptionKeyId_congr hid.symm).trans hnormal) hsome
        (fun profile hprofile hnamed => hnone ⟨profile, hprofile, hnamed⟩)
      rw [hok] at hresult
      cases hresult
  · intro hguard
    cases hresult : deleteManagedEncryptionKey s.stores.memory.encryptionProfiles s.stores.keys
        keyId with
    | error error => exact h
    | ok files =>
      obtain ⟨hunreferenced, rfl⟩ := deleteManagedEncryptionKey_ok hresult
      intro record hrecord hneeds
      obtain ⟨ref, material, href, hmaterial, hwith⟩ := h record hrecord hneeds
      refine ⟨ref, material, href, ?_, hwith⟩
      have hne : trim ref ≠ trim keyId := by
        intro heq
        obtain ⟨profile, hprofile, hnamed⟩ :=
          hguard record hrecord hneeds (by rw [href, Option.map_some, heq])
        exact hunreferenced profile hprofile hnamed
      rw [← hmaterial]
      apply managedEncryptionKeyMaterial_congr
      apply Table.find?_delete
      intro row _ hkey
      rw [hkey]
      exact decide_eq_false hne

/-- After a restore the objects are those of the bundle, with the keys it has left. -/
theorem allReadable_restore_iff {records : ProviderRecords Credential Lease}
    {faults : RestoreFaults Lease}
    {bundle : GatewayBackupBundlePayload Provenance EncryptionSettings Credential Lease}
    (hstep : s.step env (.restore records faults bundle) = some s') :
    s'.AllReadable env ↔ s.Guard env (.restore records faults bundle) := by
  simp only [step] at hstep
  split_ifs at hstep with hnormalized
  have hkeys : KeysNormalized env.base64 bundle := by
    intro record hrecord
    have hsome := List.all_eq_true.mp hnormalized record hrecord
    cases hresult : normalizeManagedEncryptionKeyRecord env.base64 record with
    | error error => simp [hresult, Except.toOption] at hsome
    | ok normalized =>
      simp only [hresult, Except.toOption, Option.some.injEq, decide_eq_true_eq] at hsome
      rw [hsome]
  split at hstep
  · rename_i stores happlied
    obtain rfl := Option.some.inj hstep
    have hok := applyGatewayBackupBundle_ok_iff.mp (congrArg Prod.fst happlied)
    obtain ⟨hmemKeys, hmemMetadata, -⟩ :=
      @storeSteps_mem _ _ _ _ env.base64 records faults bundle
    have hstores : (applyGatewayBackupBundle env.base64 records faults bundle s.stores).2 =
        stores := congrArg Prod.snd happlied
    have hfiles : stores.keys = restoredKeys faults bundle s.stores.keys := by
      rw [← hstores]
      exact (applyGatewayBackupBundle_apply hok hmemKeys).trans
        (replaceKeyFiles_ok hkeys (hok _ hmemKeys))
    have herror : (replaceMetadata faults.metadata bundle.metadata s.stores.tables).1 = none :=
      hok _ hmemMetadata
    have hreplaced := replaceMetadata_ok herror
    have htables : stores.tables = (replaceMetadata faults.metadata bundle.metadata
        s.stores.tables).2 := by
      rw [← hstores]
      exact applyGatewayBackupBundle_apply hok hmemMetadata
    -- the logical records are those of the bundle
    have hlogicals : ∀ record, record ∈ stores.tables.logicalObjects ↔
        record ∈ bundle.metadata.logicalObjects := by
      intro record
      rw [htables, Table.mem_insertAll hreplaced.logicals_eq]
      simp
    unfold AllReadable Guard
    simp only [hlogicals, hfiles]
  · cases hstep

/-- What one step does to the property. -/
theorem allReadable_step_iff (hbase64 : env.base64.Lawful)
    (action : KeyAction Provenance Credential Lease) (h : s.AllReadable env)
    (hstep : s.step env action = some s') : s'.AllReadable env ↔ s.Guard env action := by
  cases action with
  | putObject input => exact iff_of_true (allReadable_putObject h hstep) trivial
  | updateEncryptionProfiles profiles fault =>
    obtain rfl := Option.some.inj hstep
    exact iff_of_true h.withSettings trivial
  | updateContentPolicies policies fault =>
    obtain rfl := Option.some.inj hstep
    exact iff_of_true h.withSettings trivial
  | generateKey input bytes now =>
    obtain rfl := Option.some.inj hstep
    refine iff_of_true (h.withKeyFiles ?_) trivial
    intro files hfiles ref material
    exact material_generate hfiles
  | importKey input now =>
    obtain rfl := Option.some.inj hstep
    refine iff_of_true (h.withKeyFiles ?_) trivial
    intro files hfiles ref material
    exact material_import hbase64 hfiles
  | deleteKey keyId => exact allReadable_deleteKey_iff h hstep
  | restore records faults bundle => exact allReadable_restore_iff hstep

section Samples

def sampleKeyEnvironment : KeyEnvironment where
  base64 := standardBase64
  externalKeyMaterial _ := .error (.configuration "no other keys")
  crypto := ⟨.aes256Gcm, fun _ => "", fun _ _ _ _ _ => none, fun _ _ _ _ _ _ => none⟩

def sampleProfile (keySourceRef : String) : EncryptionProfile where
  id := "p"
  label := none
  enabled := true
  algorithmPreference := .auto
  chunkPlaintextBytes := minEncryptionChunkPlaintextBytes
  keyId := "k"
  keySourceKind := .gatewayManaged
  keySourceRef := keySourceRef
  notes := none

/-- Every object is encrypted under the profile. -/
def samplePolicy : ContentPolicyRule where
  id := "c"
  label := none
  enabled := true
  applicationIds := []
  buckets := []
  prefixes := []
  contentTypes := []
  encryptionProfileId := some "p"
  syncTargets := []
  fallbackReadOrder := []

def freshKeyedGateway : KeyedGateway Nat Nat where
  stores
    | .credential _ => none
    | .lease _ => .absent
    | .keyFiles => (∅ : ManagedKeyFiles)
    | .metadata => MetadataStore.openFresh {}
    | .controlPlaneFile => none
    | .controlPlane => (⟨[], []⟩ : EncryptionSettings)
    | .replication => ⟨1, [], [], 10⟩
  encryptedWith _ _ := none

theorem freshKeyedGateway_readable : freshKeyedGateway.AllReadable sampleKeyEnvironment :=
  fun _ hrecord => absurd hrecord (Table.not_mem_empty _)

/-- An object is uploaded under the key `a`, and then the profile is given the key `b`. -/
def sampleKeyActions : List (KeyAction Unit Nat Nat) :=
  [.generateKey ⟨"a", none, none⟩ (List.replicate 32 0) 1,
    .updateEncryptionProfiles [sampleProfile "a"] none,
    .updateContentPolicies [samplePolicy] none,
    .putObject ⟨"b", "o", "app", 1, none, none, 2⟩,
    .generateKey ⟨"b", none, none⟩ (List.replicate 32 1) 3,
    .updateEncryptionProfiles [sampleProfile "b"] none]

end Samples

end KeyedGateway

end Netdisk2Blob.Backup
