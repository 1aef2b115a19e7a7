import Netdisk2Blob.Blob.Core
import Netdisk2Blob.Library.Base64
import Netdisk2Blob.Library.Results
import Netdisk2Blob.Library.Table

/-!
# Managed Encryption Keys

The directory of managed encryption keys, one file for each key under the name of its id,
and the requests that generate, import and delete keys.

## Contents

- `normalizeManagedEncryptionKeyRecord`: what a record must be to be stored or used; it is
  idempotent (`normalizeManagedEncryptionKeyRecord_idempotent`)
- `loadManagedEncryptionKeyRecord`, `persistManagedEncryptionKeyRecord`,
  `removeManagedEncryptionKeyRecord`
- `generateManagedEncryptionKey`, `importManagedEncryptionKeyBackup`: the requests
- `loadManagedEncryptionKeyRecord_congr`, `loadManagedEncryptionKeyRecord_ok`: a key depends
  on the file under its trimmed id only
-/

namespace Netdisk2Blob.ControlPlane

open Library Text Blob

/-! ## Section 1: Records -/

inductive ManagedEncryptionKeyKind where
  | raw256Bit
  deriving DecidableEq, Repr

namespace ManagedEncryptionKeyKind

def keyMaterialLen : ManagedEncryptionKeyKind → Nat
  | raw256Bit => 32

end ManagedEncryptionKeyKind

structure ManagedEncryptionKeyRecord where
  schemaVersion : Nat
  id : String
  label : Option String
  kind : ManagedEncryptionKeyKind
  keyMaterialBase64 : String
  createdAtUnixMs : Nat
  updatedAtUnixMs : Nat
  notes : Option String
  deriving DecidableEq, Repr

def managedEncryptionKeyRecordSchemaVersion : Nat := 1

def managedEncryptionKeyBackupFormatVersion : Nat := 1

/-- The base64 crate. -/
structure Base64 where
  encode : Bytes → String
  decode : String → Except String Bytes

/-- Decoding undoes encoding, and an encoding has no whitespace around it. -/
structure Base64.Lawful (base64 : Base64) : Prop where
  decodes : ∀ bytes, base64.decode (base64.encode bytes) = .ok bytes
  trimmed : ∀ bytes, trim (base64.encode bytes) = base64.encode bytes

def standardBase64 : Base64 where
  encode := encodeBase64
  decode text :=
    match decodeBase64 text with
    | some bytes => .ok bytes
    | none => .error "invalid base64"

theorem standardBase64_lawful : standardBase64.Lawful where
  decodes bytes := by
    simp only [standardBase64, decodeBase64_encodeBase64]
  trimmed := trim_encodeBase64

def normalizeSecretField (value : Option String) : Option String :=
  value.bind fun value => if (trim value).isEmpty then none else some (trim value)

def normalizeManagedEncryptionKeyId (value : String) : Except BlobError String :=
  let normalized := trim value
  if normalized.isEmpty then
    .error (.configuration "managed encryption key id must not be empty")
  else if normalized.toList.head? = some '.' then
    .error (.configuration s!"managed encryption key id must not start with '.': {normalized}")
  else if !normalized.toList.all
      (fun ch => ch.isAlphanum || ch == '-' || ch == '_' || ch == '.') then
    .error (.configuration
      s!"managed encryption key id contains unsupported characters: {normalized}")
  else .ok normalized

def normalizeManagedEncryptionKeyRecord (base64 : Base64)
    (record : ManagedEncryptionKeyRecord) : Except BlobError ManagedEncryptionKeyRecord := do
  let id ← normalizeManagedEncryptionKeyId record.id
  match base64.decode (trim record.keyMaterialBase64) with
  | .error error => .error (.configuration
      s!"managed encryption key {id} contains invalid base64 key material: {error}")
  | .ok decoded =>
    if decoded.length ≠ record.kind.keyMaterialLen then
      .error (.configuration
        s!"managed encryption key {id} must contain exactly {record.kind.keyMaterialLen} bytes")
    else .ok { record with
      id := id
      label := normalizeSecretField record.label
      notes := normalizeSecretField record.notes
      schemaVersion := managedEncryptionKeyRecordSchemaVersion
      keyMaterialBase64 := base64.encode decoded }

section Normalize

variable {base64 : Base64} {record normalized : ManagedEncryptionKeyRecord}

theorem normalizeSecretField_idempotent (value : Option String) :
    normalizeSecretField (normalizeSecretField value) = normalizeSecretField value := by
  cases value with
  | none => rfl
  | some value =>
    by_cases hempty : trim value = ""
    · simp [normalizeSecretField, hempty]
    · simp [normalizeSecretField, hempty]

/-- A normalized id is the trimmed one, and it is normalized again to itself. -/
theorem normalizeManagedEncryptionKeyId_ok {value id : String}
    (h : normalizeManagedEncryptionKeyId value = .ok id) :
    id = trim value ∧ normalizeManagedEncryptionKeyId id = .ok id := by
  have hid : id = trim value := by
    unfold normalizeManagedEncryptionKeyId at h
    simp only at h
    split_ifs at h
    exact (Except.ok.inj h).symm
  refine ⟨hid, ?_⟩
  rw [hid] at h ⊢
  unfold normalizeManagedEncryptionKeyId at h ⊢
  simpa only [trim_trim] using h

theorem normalizeManagedEncryptionKeyId_congr {a b : String} (h : trim a = trim b) :
    normalizeManagedEncryptionKeyId a = normalizeManagedEncryptionKeyId b := by
  unfold normalizeManagedEncryptionKeyId
  rw [h]

/-- A record that was normalized. -/
theorem normalizeManagedEncryptionKeyRecord_ok
    (h : normalizeManagedEncryptionKeyRecord base64 record = .ok normalized) :
    ∃ decoded, normalizeManagedEncryptionKeyId record.id = .ok normalized.id ∧
      base64.decode (trim record.keyMaterialBase64) = .ok decoded ∧
      decoded.length = record.kind.keyMaterialLen ∧
      normalized =
        { record with
          id := normalized.id
          label := normalizeSecretField record.label
          notes := normalizeSecretField record.notes
          schemaVersion := managedEncryptionKeyRecordSchemaVersion
          keyMaterialBase64 := base64.encode decoded } := by
  obtain ⟨id, hid, h⟩ := except_bind_ok.mp h
  split at h
  · cases h
  · rename_i decoded hdecoded
    split_ifs at h with hlength
    obtain rfl := Except.ok.inj h
    exact ⟨decoded, hid, hdecoded, not_not.mp hlength, rfl⟩

theorem normalizeManagedEncryptionKeyRecord_idempotent (hbase64 : base64.Lawful)
    (h : normalizeManagedEncryptionKeyRecord base64 record = .ok normalized) :
    normalizeManagedEncryptionKeyRecord base64 normalized = .ok normalized := by
  obtain ⟨decoded, hid, hdecoded, hlength, hnormalized⟩ :=
    normalizeManagedEncryptionKeyRecord_ok h
  have hid' := (normalizeManagedEncryptionKeyId_ok hid).2
  apply except_bind_ok.mpr
  refine ⟨normalized.id, hid', ?_⟩
  rw [hnormalized]
  simp only [hbase64.trimmed, hbase64.decodes, hlength, ne_eq, not_true_eq_false, if_false,
    normalizeSecretField_idempotent]

end Normalize

/-! ## Section 2: The directory -/

/-- The key files, by the id in their name. -/
abbrev ManagedKeyFiles := Table ManagedEncryptionKeyRecord (fun record => record.id)

def loadManagedEncryptionKeyRecord (base64 : Base64) (files : ManagedKeyFiles)
    (keyId : String) : Except BlobError ManagedEncryptionKeyRecord := do
  let trimmed ← normalizeManagedEncryptionKeyId keyId
  match files.find? trimmed with
  | some raw => normalizeManagedEncryptionKeyRecord base64 raw
  | none => .error (.notFound s!"managed encryption key not found: {trimmed}")

/-- Every key file, in the order of the ids. -/
def loadAllManagedEncryptionKeyRecords (base64 : Base64) (files : ManagedKeyFiles) :
    Except BlobError (List ManagedEncryptionKeyRecord) :=
  files.rows.mapM (normalizeManagedEncryptionKeyRecord base64)

def persistManagedEncryptionKeyRecord (base64 : Base64) (files : ManagedKeyFiles)
    (record : ManagedEncryptionKeyRecord) : Except BlobError ManagedKeyFiles := do
  let record ← normalizeManagedEncryptionKeyRecord base64 record
  .ok (files.upsert record)

def removeManagedEncryptionKeyRecord (files : ManagedKeyFiles) (keyId : String) :
    Except BlobError ManagedKeyFiles := do
  let keyId ← normalizeManagedEncryptionKeyId keyId
  if (files.find? keyId).isSome then .ok (files.delete fun record => decide (record.id = keyId))
  else .error (.notFound s!"managed encryption key not found: {keyId}")

section Files

variable {base64 : Base64} {files files' : ManagedKeyFiles}
  {keyId : String} {record : ManagedEncryptionKeyRecord}

/-- Loading a key looks at one file. -/
theorem loadManagedEncryptionKeyRecord_congr
    (h : files.find? (trim keyId) = files'.find? (trim keyId)) :
    loadManagedEncryptionKeyRecord base64 files keyId =
      loadManagedEncryptionKeyRecord base64 files' keyId := by
  unfold loadManagedEncryptionKeyRecord
  cases hid : normalizeManagedEncryptionKeyId keyId with
  | error error => rfl
  | ok id =>
    obtain rfl := (normalizeManagedEncryptionKeyId_ok hid).1
    simp only [bind, Except.bind, h]

theorem loadManagedEncryptionKeyRecord_ok
    (h : loadManagedEncryptionKeyRecord base64 files keyId = .ok record) :
    normalizeManagedEncryptionKeyId keyId = .ok (trim keyId) ∧
      ∃ raw, files.find? (trim keyId) = some raw ∧
        normalizeManagedEncryptionKeyRecord base64 raw = .ok record := by
  obtain ⟨id, hid, h⟩ := except_bind_ok.mp h
  obtain rfl := (normalizeManagedEncryptionKeyId_ok hid).1
  refine ⟨hid, ?_⟩
  split at h
  · rename_i raw hraw
    exact ⟨raw, hraw, h⟩
  · cases h

/-- The only error of this kind is that there is no file. -/
theorem find?_of_load_notFound {message : String}
    (h : loadManagedEncryptionKeyRecord base64 files keyId = .error (.notFound message)) :
    files.find? (trim keyId) = none := by
  unfold loadManagedEncryptionKeyRecord at h
  cases hid : normalizeManagedEncryptionKeyId keyId with
  | error error =>
    rw [hid] at h
    unfold normalizeManagedEncryptionKeyId at hid
    simp only at hid
    split_ifs at hid
    all_goals
      obtain rfl := Except.error.inj hid
      cases h
  | ok id =>
    obtain rfl := (normalizeManagedEncryptionKeyId_ok hid).1
    simp only [hid, bind, Except.bind] at h
    split at h
    · rename_i raw hraw
      unfold normalizeManagedEncryptionKeyRecord at h
      simp only [bind, Except.bind] at h
      split at h
      · rename_i error hrecord
        unfold normalizeManagedEncryptionKeyId at hrecord
        simp only at hrecord
        split_ifs at hrecord
        all_goals
          obtain rfl := Except.error.inj hrecord
          cases h
      · split at h
        · cases h
        · split_ifs at h
          cases h
    · assumption

end Files

/-! ## Section 3: Requests -/

structure ManagedEncryptionKeyGenerateInput where
  id : String
  label : Option String
  notes : Option String
  deriving DecidableEq, Repr

/-- The record of a new key; `bytes` are the random ones. -/
def generateManagedEncryptionKey (base64 : Base64) (files : ManagedKeyFiles)
    (input : ManagedEncryptionKeyGenerateInput) (bytes : Bytes) (now : Nat) :
    Except BlobError ManagedKeyFiles := do
  let id ← normalizeManagedEncryptionKeyId input.id
  match loadManagedEncryptionKeyRecord base64 files id with
  | .ok _ => .error (.configuration s!"managed encryption key already exists: {id}")
  | .error (.notFound _) =>
    persistManagedEncryptionKeyRecord base64 files
      { schemaVersion := managedEncryptionKeyRecordSchemaVersion
        id := id
        label := normalizeSecretField input.label
        kind := .raw256Bit
        keyMaterialBase64 := base64.encode bytes
        createdAtUnixMs := now
        updatedAtUnixMs := now
        notes := normalizeSecretField input.notes }
  | .error error => .error error

/-- A backup of one key, as `export_managed_encryption_key` gives it. -/
structure ManagedEncryptionKeyBackupPayload where
  backupFormatVersion : Nat
  key : ManagedEncryptionKeyRecord
  deriving DecidableEq, Repr

/-- The check of an import against the key that is there, and the time of creation it gives. -/
def importedCreatedAtUnixMs (base64 : Base64) (files : ManagedKeyFiles)
    (record : ManagedEncryptionKeyRecord) : Except BlobError Nat :=
  match loadManagedEncryptionKeyRecord base64 files record.id with
  | .ok existing =>
    if existing.keyMaterialBase64 ≠ record.keyMaterialBase64 then
      .error (.configuration (s!"managed encryption key {record.id} already exists with " ++
        s!"different key material"))
    else .ok (max existing.createdAtUnixMs record.createdAtUnixMs)
  | .error (.notFound _) => .ok record.createdAtUnixMs
  | .error error => .error error

def importManagedEncryptionKeyBackup (base64 : Base64) (files : ManagedKeyFiles)
    (input : ManagedEncryptionKeyBackupPayload) (now : Nat) : Except BlobError ManagedKeyFiles :=
  if input.backupFormatVersion ≠ managedEncryptionKeyBackupFormatVersion then
    .error (.configuration (s!"unsupported managed encryption key backup format version " ++
      s!"{input.backupFormatVersion}"))
  else do
    let record ← normalizeManagedEncryptionKeyRecord base64 input.key
    let createdAtUnixMs ← importedCreatedAtUnixMs base64 files record
    persistManagedEncryptionKeyRecord base64 files { record with
      createdAtUnixMs := if createdAtUnixMs = 0 then now else createdAtUnixMs
      updatedAtUnixMs := now }

end Netdisk2Blob.ControlPlane
