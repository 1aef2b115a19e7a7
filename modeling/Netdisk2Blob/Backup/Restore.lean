import Netdisk2Blob.Backup.Bundle
import Netdisk2Blob.ControlPlane.Files
import Netdisk2Blob.Library.FallibleWrites
import Netdisk2Blob.Metadata.BackupState
import Netdisk2Blob.Replication.Engine

/-!
# Applying a Backup Bundle

A restore overwrites credentials, leases, key files, metadata tables, the control plane and
the replication queue one after another, and returns at the first step that fails. Nothing
is put back, so a restore that fails leaves what its steps have written.

## Contents

- `RestoreFaults`: which file operations fail, and what they leave
- `applyGatewayBackupBundle`: the steps of a restore
- `AllOrNothing`, `restore_all_or_nothing_iff`: when a restore changes all or nothing
-/

namespace Netdisk2Blob.Backup

open Library Blob Policy Replication Metadata ControlPlane

/-! ## Section 1: The stores of a gateway -/

def allGatewayBackupProviders : List ProviderId := [.unicom, .telecom, .mobile, .onedrive]

/-- A file that is written in place may be left torn. -/
inductive FileContent (α : Type) where
  | absent
  | holds (value : α)
  | torn
  deriving DecidableEq

/-- What a restore writes. -/
inductive GatewayStore where
  | credential (provider : ProviderId)
  | lease (provider : ProviderId)
  | keyFiles
  | metadata
  | controlPlaneFile
  | controlPlane
  | replication
  deriving DecidableEq

/-- What each of them holds. A missing credential file stands for the default record. -/
def GatewayStore.Content (ControlPlane Credential Lease : Type) : GatewayStore → Type
  | credential _ => Option Credential
  | lease _ => FileContent Lease
  | keyFiles => ManagedKeyFiles
  | metadata => MetadataStore
  | controlPlaneFile => Option ControlPlane
  | controlPlane => ControlPlane
  | replication => ReplicationEngine

/-- A gateway, store by store. -/
abbrev GatewayStores (ControlPlane Credential Lease : Type) : Type :=
  (store : GatewayStore) → store.Content ControlPlane Credential Lease

/-- A write in place that fails, and what it leaves. -/
structure InPlaceFault (α : Type) where
  error : BlobError
  left : FileContent α

/-- The operations that fail during a restore. -/
structure RestoreFaults (Lease : Type) where
  credential : ProviderId → Option FileFault
  lease : ProviderId → Option (InPlaceFault Lease)
  /-- listing, reading or decoding the key files -/
  loadKeys : Option BlobError
  /-- the removal of the key file with this id -/
  removeKey : String → Option BlobError
  /-- the write of the `n`-th key of the bundle -/
  persistKey : Nat → Option FileFault
  metadata : Option BlobError
  controlPlane : Option FileFault

/-- The records of credentials and leases: what is empty, and what is the default. -/
structure ProviderRecords (Credential Lease : Type) where
  credentialIsEmpty : Credential → Bool
  defaultCredential : Credential
  leaseIsDefault : Lease → Bool

section Access

variable {ControlPlane Credential Lease : Type}
  (stores : GatewayStores ControlPlane Credential Lease)

def GatewayStores.keys : ManagedKeyFiles := stores .keyFiles

def GatewayStores.tables : MetadataStore := stores .metadata

def GatewayStores.memory : ControlPlane := stores .controlPlane

def GatewayStores.withKeys (files : ManagedKeyFiles) :
    GatewayStores ControlPlane Credential Lease :=
  Function.update stores .keyFiles files

def GatewayStores.withTables (store : MetadataStore) :
    GatewayStores ControlPlane Credential Lease :=
  Function.update stores .metadata store

/-- The control plane in memory, and its file. -/
def GatewayStores.withControlPlane (controlPlane : ControlPlane)
    (file : Option ControlPlane) : GatewayStores ControlPlane Credential Lease :=
  Function.update (Function.update stores .controlPlane controlPlane) .controlPlaneFile file

end Access

/-! ## Section 2: The steps -/

section Steps

variable {Provenance ControlPlane Credential Lease : Type}

/-- The removal of a file; one that fails leaves it. -/
def removeFile {α : Type} (fault : Option BlobError) (absent old : α) : Option BlobError × α :=
  match fault with
  | none => (none, absent)
  | some error => (some error, old)

/-- An empty record is stored as a missing file. -/
def persistProviderCredentialRecord (records : ProviderRecords Credential Lease)
    (fault : Option FileFault) (record : Credential) (old : Option Credential) :
    Option BlobError × Option Credential :=
  if records.credentialIsEmpty record then removeFile (fault.map (·.error)) none old
  else atomicWrite fault (some record) old

def persistProviderCredentialLeaseRecord (fault : Option (InPlaceFault Lease)) (record : Lease) :
    Option BlobError × FileContent Lease :=
  match fault with
  | none => (none, .holds record)
  | some fault => (some fault.error, fault.left)

def removeProviderCredentialLeaseRecord (fault : Option (InPlaceFault Lease))
    (old : FileContent Lease) : Option BlobError × FileContent Lease :=
  removeFile (fault.map (·.error)) .absent old

/-- The keys that the bundle does not have are removed; an error of a removal is ignored. -/
def removeOtherKeys (faults : RestoreFaults Lease) (importedKeyIds : List String)
    (files : ManagedKeyFiles) : ManagedKeyFiles :=
  files.delete fun existing =>
    decide (existing.id ∉ importedKeyIds ∧ faults.removeKey existing.id = none)

/-- The loop that writes the keys of the bundle, from the `n`-th on. -/
def persistKeys (base64 : Base64) (faults : RestoreFaults Lease) :
    Nat → List ManagedEncryptionKeyRecord → ManagedKeyFiles → Option BlobError × ManagedKeyFiles
  | _, [], files => (none, files)
  | n, record :: records, files =>
    match persistManagedEncryptionKeyRecord base64 files record with
    | .error error => (some error, files)
    | .ok written =>
      match atomicWrite (faults.persistKey n) written files with
      | (some error, files) => (some error, files)
      | (none, files) => persistKeys base64 faults (n + 1) records files

def replaceKeyFiles (base64 : Base64) (faults : RestoreFaults Lease)
    (records : List ManagedEncryptionKeyRecord) (files : ManagedKeyFiles) :
    Option BlobError × ManagedKeyFiles :=
  match faults.loadKeys with
  | some error => (some error, files)
  | none =>
    persistKeys base64 faults 0 records (removeOtherKeys faults (records.map (·.id)) files)

def replaceMetadata (fault : Option BlobError) (metadata : GatewayBackupMetadataPayload)
    (store : MetadataStore) : Option BlobError × MetadataStore :=
  match fault with
  | some error => (some error, store)
  | none =>
    match store.replaceBackupState metadata.objectPlacements metadata.logicalObjects
        metadata.objectProtectionPlans metadata.pendingReplicationJobs
        metadata.gatewayWriteAheadLogState with
    | none => (some (.upstream "sqlite error: UNIQUE constraint failed"), store)
    | some store => (none, store)

variable (base64 : Base64) (records : ProviderRecords Credential Lease)
  (faults : RestoreFaults Lease)
  (bundle : GatewayBackupBundlePayload Provenance ControlPlane Credential Lease)

/-- The record that the bundle has for a provider. -/
def bundleCredential (provider : ProviderId) : Credential :=
  (bundle.providerCredentials.lookup provider.asStr).getD records.defaultCredential

/-- The lease that the bundle has for a provider; a default one is none. -/
def bundleLease (provider : ProviderId) : Option Lease :=
  (bundle.providerCredentialLeases.lookup provider.asStr).filter
    fun lease => !records.leaseIsDefault lease

/-- A write to one store. -/
abbrev RestoreStep (ControlPlane Credential Lease : Type) : Type :=
  Write GatewayStore BlobError (GatewayStore.Content ControlPlane Credential Lease)

def credentialStep (provider : ProviderId) : RestoreStep ControlPlane Credential Lease where
  location := .credential provider
  write := persistProviderCredentialRecord records (faults.credential provider)
    (bundleCredential records bundle provider)

def leaseStep (provider : ProviderId) : RestoreStep ControlPlane Credential Lease where
  location := .lease provider
  write old :=
    match bundleLease records bundle provider with
    | some lease => persistProviderCredentialLeaseRecord (faults.lease provider) lease
    | none => removeProviderCredentialLeaseRecord (faults.lease provider) old

def keyFilesStep : RestoreStep ControlPlane Credential Lease where
  location := .keyFiles
  write := replaceKeyFiles base64 faults bundle.managedEncryptionKeys

def metadataStep : RestoreStep ControlPlane Credential Lease where
  location := .metadata
  write := replaceMetadata faults.metadata bundle.metadata

def controlPlaneFileStep : RestoreStep ControlPlane Credential Lease where
  location := .controlPlaneFile
  write := atomicWrite faults.controlPlane (some bundle.controlPlane)

def controlPlaneStep : RestoreStep ControlPlane Credential Lease where
  location := .controlPlane
  write _ := (none, bundle.controlPlane)

def replicationStep : RestoreStep ControlPlane Credential Lease where
  location := .replication
  write replication := (none, replication.replacePending bundle.metadata.pendingReplicationJobs)

/-- The steps of `apply_gateway_backup_bundle`, in order. -/
def restoreSteps : List (RestoreStep ControlPlane Credential Lease) :=
  allGatewayBackupProviders.flatMap
      (fun provider =>
        [credentialStep records faults bundle provider, leaseStep records faults bundle provider]) ++
    [keyFilesStep base64 faults bundle, metadataStep faults bundle,
      controlPlaneFileStep faults bundle, controlPlaneStep bundle, replicationStep bundle]

def applyGatewayBackupBundle (stores : GatewayStores ControlPlane Credential Lease) :
    Except BlobError Unit × GatewayStores ControlPlane Credential Lease :=
  match runWrites (restoreSteps base64 records faults bundle) stores with
  | (some error, stores) => (.error error, stores)
  | (none, stores) => (.ok (), stores)

end Steps

/-! ## Section 3: What a restore is for -/

section Contents

variable {Provenance ControlPlane Credential Lease : Type} (base64 : Base64)
  (records : ProviderRecords Credential Lease) (faults : RestoreFaults Lease)
  (bundle : GatewayBackupBundlePayload Provenance ControlPlane Credential Lease)

/-- The credential file of a bundle. -/
def storedCredential (provider : ProviderId) : Option Credential :=
  if records.credentialIsEmpty (bundleCredential records bundle provider) then none
  else some (bundleCredential records bundle provider)

/-- The lease file of a bundle. -/
def storedLease (provider : ProviderId) : FileContent Lease :=
  (bundleLease records bundle provider).elim .absent .holds

/-- The gateway holds what the bundle has; the retention settings are no part of a bundle. -/
structure HoldsBundle (before after : GatewayStores ControlPlane Credential Lease) : Prop where
  credentials : ∀ provider ∈ allGatewayBackupProviders,
    after (.credential provider) = storedCredential records bundle provider
  leases : ∀ provider ∈ allGatewayBackupProviders,
    after (.lease provider) = storedLease records bundle provider
  keyFiles : after.keys = (∅ : ManagedKeyFiles).upsertAll bundle.managedEncryptionKeys
  metadata : MetadataStore.Replaced before.tables bundle.metadata.objectPlacements
    bundle.metadata.logicalObjects bundle.metadata.objectProtectionPlans
    bundle.metadata.pendingReplicationJobs bundle.metadata.gatewayWriteAheadLogState
    after.tables
  controlPlaneFile : after .controlPlaneFile = some bundle.controlPlane
  controlPlane : after .controlPlane = bundle.controlPlane
  replication : ReplicationEngine.pendingJobs (after .replication) =
    bundle.metadata.pendingReplicationJobs

/-- An error leaves every store as it was; without one every store is that of the bundle. -/
def AllOrNothing (stores : GatewayStores ControlPlane Credential Lease) : Prop :=
  let outcome := applyGatewayBackupBundle base64 records faults bundle stores
  (outcome.1 ≠ .ok () → outcome.2 = stores) ∧
    (outcome.1 = .ok () → HoldsBundle records bundle stores outcome.2)

/-- The keys of a validated bundle are normalized. -/
def KeysNormalized : Prop :=
  ∀ record ∈ bundle.managedEncryptionKeys,
    normalizeManagedEncryptionKeyRecord base64 record = .ok record

end Contents

/-! ## Section 4: What the steps leave -/

section Outcomes

variable {Provenance ControlPlane Credential Lease : Type} {base64 : Base64}
  {records : ProviderRecords Credential Lease} {faults : RestoreFaults Lease}
  {bundle : GatewayBackupBundlePayload Provenance ControlPlane Credential Lease}

theorem removeFile_ok {α : Type} {fault : Option BlobError} {absent old : α}
    (h : (removeFile fault absent old).1 = none) : (removeFile fault absent old).2 = absent := by
  cases fault with
  | none => rfl
  | some fault => cases h

/-- The key loop without an error has written every key. -/
theorem persistKeys_ok {keys : List ManagedEncryptionKeyRecord} {n : Nat}
    {files : ManagedKeyFiles}
    (hkeys : ∀ record ∈ keys, normalizeManagedEncryptionKeyRecord base64 record = .ok record)
    (h : (persistKeys base64 faults n keys files).1 = none) :
    (persistKeys base64 faults n keys files).2 = files.upsertAll keys := by
  induction keys generalizing n files with
  | nil => rfl
  | cons record keys ih =>
    -- a normalized record is written as it is
    have hwritten : persistManagedEncryptionKeyRecord base64 files record =
        .ok (files.upsert record) := by
      rw [persistManagedEncryptionKeyRecord, hkeys record List.mem_cons_self]
      rfl
    have hrest := fun other hother => hkeys other (List.mem_cons_of_mem _ hother)
    rw [persistKeys, hwritten] at h ⊢
    cases hfault : faults.persistKey n with
    | some fault =>
      rw [hfault] at h
      cases h
    | none =>
      rw [hfault] at h
      exact ih hrest h

/-- The key files after a restore without an error: those of the bundle, over what could not
be removed. -/
theorem replaceKeyFiles_ok {keys : List ManagedEncryptionKeyRecord} {files : ManagedKeyFiles}
    (hkeys : ∀ record ∈ keys, normalizeManagedEncryptionKeyRecord base64 record = .ok record)
    (h : (replaceKeyFiles base64 faults keys files).1 = none) :
    (replaceKeyFiles base64 faults keys files).2 =
      (removeOtherKeys faults (keys.map (·.id)) files).upsertAll keys := by
  unfold replaceKeyFiles at h ⊢
  cases hload : faults.loadKeys with
  | some error =>
    rw [hload] at h
    cases h
  | none =>
    rw [hload] at h
    exact persistKeys_ok hkeys h

/-- These are the keys of the bundle exactly when every other key could be removed. -/
theorem removeOtherKeys_upsertAll_iff {keys : List ManagedEncryptionKeyRecord}
    {files : ManagedKeyFiles} :
    (removeOtherKeys faults (keys.map (·.id)) files).upsertAll keys =
        (∅ : ManagedKeyFiles).upsertAll keys ↔
      ∀ existing ∈ files, existing.id ∉ keys.map (·.id) →
        faults.removeKey existing.id = none := by
  rw [Table.upsertAll_eq_of_empty_iff]
  apply forall_congr'
  intro existing
  rw [removeOtherKeys, Table.mem_delete, decide_eq_false_iff_not, not_and_or, not_not]
  tauto

theorem replaceMetadata_ok {metadata : GatewayBackupMetadataPayload} {store : MetadataStore}
    {fault : Option BlobError} (h : (replaceMetadata fault metadata store).1 = none) :
    MetadataStore.Replaced store metadata.objectPlacements metadata.logicalObjects
      metadata.objectProtectionPlans metadata.pendingReplicationJobs
      metadata.gatewayWriteAheadLogState (replaceMetadata fault metadata store).2 := by
  unfold replaceMetadata at h ⊢
  cases fault with
  | some error => cases h
  | none =>
    simp only at h ⊢
    split at h
    · cases h
    · rename_i replaced hreplaced
      exact MetadataStore.replaceBackupState_ok hreplaced

/-- Each store is written by one step. -/
theorem restoreSteps_separate : Separate (restoreSteps base64 records faults bundle) := by
  change [GatewayStore.credential .unicom, .lease .unicom, .credential .telecom, .lease .telecom,
    .credential .mobile, .lease .mobile, .credential .onedrive, .lease .onedrive, .keyFiles,
    .metadata, .controlPlaneFile, .controlPlane, .replication].Nodup
  decide

variable {stores : GatewayStores ControlPlane Credential Lease}

theorem applyGatewayBackupBundle_stores :
    (applyGatewayBackupBundle base64 records faults bundle stores).2 =
      (runWrites (restoreSteps base64 records faults bundle) stores).2 := by
  rw [applyGatewayBackupBundle]
  split <;> simp_all

theorem applyGatewayBackupBundle_ok_iff :
    (applyGatewayBackupBundle base64 records faults bundle stores).1 = .ok () ↔
      ∀ step ∈ restoreSteps base64 records faults bundle, step.error stores = none := by
  rw [← runWrites_error_iff restoreSteps_separate, applyGatewayBackupBundle]
  split <;> simp_all

/-- Without an error every store holds what its step leaves in it. -/
theorem applyGatewayBackupBundle_apply
    (hok : ∀ step ∈ restoreSteps base64 records faults bundle, step.error stores = none)
    {step : RestoreStep ControlPlane Credential Lease}
    (hstep : step ∈ restoreSteps base64 records faults bundle) :
    (applyGatewayBackupBundle base64 records faults bundle stores).2 step.location =
      (step.write (stores step.location)).2 := by
  rw [applyGatewayBackupBundle_stores]
  apply runWrites_apply restoreSteps_separate
  rw [performed_eq_self hok]
  exact hstep

theorem providerSteps_mem {provider : ProviderId}
    (hprovider : provider ∈ allGatewayBackupProviders) :
    credentialStep records faults bundle provider ∈ restoreSteps base64 records faults bundle ∧
      leaseStep records faults bundle provider ∈ restoreSteps base64 records faults bundle := by
  refine ⟨List.mem_append_left _ ?_, List.mem_append_left _ ?_⟩
  · apply List.mem_flatMap.mpr
    exact ⟨provider, hprovider, List.mem_cons_self⟩
  · apply List.mem_flatMap.mpr
    exact ⟨provider, hprovider, List.mem_cons_of_mem _ List.mem_cons_self⟩

theorem storeSteps_mem :
    keyFilesStep base64 faults bundle ∈ restoreSteps base64 records faults bundle ∧
      metadataStep faults bundle ∈ restoreSteps base64 records faults bundle ∧
      controlPlaneFileStep faults bundle ∈ restoreSteps base64 records faults bundle ∧
      controlPlaneStep bundle ∈ restoreSteps base64 records faults bundle ∧
      replicationStep bundle ∈ restoreSteps base64 records faults bundle := by
  simp [restoreSteps]

theorem persistProviderCredentialRecord_ok {fault : Option FileFault} {record : Credential}
    {old : Option Credential}
    (h : (persistProviderCredentialRecord records fault record old).1 = none) :
    (persistProviderCredentialRecord records fault record old).2 =
      if records.credentialIsEmpty record then none else some record := by
  unfold persistProviderCredentialRecord at h ⊢
  split_ifs at h ⊢ with hempty
  · exact removeFile_ok h
  · exact atomicWrite_ok h

/-- A restore without an error leaves the bundle in every store, except for the keys that
could not be removed. -/
theorem holdsBundle_iff (hkeys : KeysNormalized base64 bundle)
    (hok : ∀ step ∈ restoreSteps base64 records faults bundle, step.error stores = none) :
    HoldsBundle records bundle stores
        (applyGatewayBackupBundle base64 records faults bundle stores).2 ↔
      ∀ existing ∈ stores.keys, existing.id ∉ bundle.managedEncryptionKeys.map (·.id) →
        faults.removeKey existing.id = none := by
  rw [← removeOtherKeys_upsertAll_iff]
  obtain ⟨hmemKeys, hmemMetadata, hmemFile, hmemMemory, hmemQueue⟩ :=
    @storeSteps_mem _ _ _ _ base64 records faults bundle
  have hkeyFiles : (applyGatewayBackupBundle base64 records faults bundle stores).2.keys =
      (removeOtherKeys faults (bundle.managedEncryptionKeys.map (·.id))
        stores.keys).upsertAll bundle.managedEncryptionKeys :=
    (applyGatewayBackupBundle_apply hok hmemKeys).trans
      (replaceKeyFiles_ok hkeys (hok _ hmemKeys))
  rw [← hkeyFiles]
  constructor
  · intro hholds
    exact hholds.keyFiles
  · intro hfiles
    refine ⟨?_, ?_, hfiles, ?_, ?_, ?_, ?_⟩
    · intro provider hprovider
      have hmem := (@providerSteps_mem _ _ _ _ base64 records faults bundle _ hprovider).1
      rw [storedCredential]
      exact (applyGatewayBackupBundle_apply hok hmem).trans
        (persistProviderCredentialRecord_ok (hok _ hmem))
    · intro provider hprovider
      have hmem := (@providerSteps_mem _ _ _ _ base64 records faults bundle _ hprovider).2
      have hleft := applyGatewayBackupBundle_apply hok hmem
      have herror := hok _ hmem
      refine hleft.trans ?_
      rw [Write.error] at herror
      simp only [leaseStep] at herror ⊢
      cases hlease : bundleLease records bundle provider with
      | none =>
        rw [hlease] at herror
        rw [storedLease, hlease]
        exact removeFile_ok herror
      | some lease =>
        rw [hlease] at herror
        rw [storedLease, hlease]
        cases hfault : faults.lease provider with
        | none => rfl
        | some fault =>
          rw [hfault] at herror
          cases herror
    · have hleft := applyGatewayBackupBundle_apply hok hmemMetadata
      have hreplaced := replaceMetadata_ok (hok _ hmemMetadata)
      rw [GatewayStores.tables, GatewayStores.tables]
      rw [show (applyGatewayBackupBundle base64 records faults bundle stores).2 .metadata = _
        from hleft]
      exact hreplaced
    · exact (applyGatewayBackupBundle_apply hok hmemFile).trans (atomicWrite_ok (hok _ hmemFile))
    · exact applyGatewayBackupBundle_apply hok hmemMemory
    · exact congrArg ReplicationEngine.pendingJobs (applyGatewayBackupBundle_apply hok hmemQueue)

end Outcomes

section Samples

/-- 32 zero bytes, and no others. -/
def zeroKeyBase64 : Base64 where
  encode _ := "AAAAAAAAAAAAAAAAAAAAAAAAAAAAAAAAAAAAAAAAAAA="
  decode text :=
    if text = "AAAAAAAAAAAAAAAAAAAAAAAAAAAAAAAAAAAAAAAAAAA=" then .ok (List.replicate 32 0)
    else .error "invalid base64"

def sampleKey (id : String) : ManagedEncryptionKeyRecord where
  schemaVersion := managedEncryptionKeyRecordSchemaVersion
  id := id
  label := none
  kind := .raw256Bit
  keyMaterialBase64 := "AAAAAAAAAAAAAAAAAAAAAAAAAAAAAAAAAAAAAAAAAAA="
  createdAtUnixMs := 1
  updatedAtUnixMs := 1
  notes := none

/-- An object that was encrypted under the key `a`. -/
def sampleEncrypted : LogicalObjectRecord where
  bucket := "b"
  key := "o"
  etag := none
  applicationId := none
  encrypted := true
  encryptionProfileId := some "p"
  algorithm := some "aes_256_gcm"
  keyId := none
  keySourceKind := some "gateway_managed"
  keySourceRef := some "a"
  chunkPlaintextBytes := some 4096
  plaintextSize := 1
  storedSize := 17
  logicalContentType := none
  updatedAtUnixMs := 1

def sampleRestoreBundle : GatewayBackupBundlePayload Unit Nat Nat Nat where
  backupFormatVersion := gatewayBackupFormatVersion
  exportedAtUnixMs := 1
  gatewayVersion := "1"
  provenance := ()
  instanceId := "gateway"
  controlPlane := 2
  providerCredentials := [("onedrive", 7)]
  providerCredentialLeases := []
  managedEncryptionKeys := [sampleKey "b"]
  metadata := ⟨[], [], [], [], {}⟩

def sampleProviderRecords : ProviderRecords Nat Nat := ⟨(· == 0), 0, (· == 0)⟩

def faultlessRestore : RestoreFaults Nat :=
  ⟨fun _ => none, fun _ => none, none, fun _ => none, fun _ => none, none, none⟩

/-- A gateway with one key and one object that needs it. -/
def sampleStores : GatewayStores Nat Nat Nat
  | .credential _ => none
  | .lease _ => .absent
  | .keyFiles => (∅ : ManagedKeyFiles).upsert (sampleKey "a")
  | .metadata =>
    { MetadataStore.openFresh {} with
      logicalObjects := (∅ : Table LogicalObjectRecord _).upsert sampleEncrypted }
  | .controlPlaneFile => some 1
  | .controlPlane => (1 : Nat)
  | .replication => ⟨1, [], [], 10⟩

theorem sampleRestoreBundle_keys : KeysNormalized zeroKeyBase64 sampleRestoreBundle := by
  intro record hrecord
  rw [List.mem_singleton.mp hrecord]
  decide +kernel

end Samples

end Netdisk2Blob.Backup
