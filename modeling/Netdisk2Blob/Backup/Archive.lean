import Netdisk2Blob.Backup.Bundle
import Netdisk2Blob.Library.ShortReads
import Netdisk2Blob.ObjectCrypto.Framing

/-!
# Backup Archives

An archive is a magic, the length and the JSON text of a header, and the gzip payload of
the bundle in encrypted chunks, each after its length. A chunk is what one read of the
payload gave; its nonce is a prefix from the header and the number of the chunk, and its
associated data are the header bytes.

## Contents

- `writeEncryptedBackupArchive` and `readGatewayBackupBundleFromArchive`
- `encryptChunks_ok`: what is written is the frames of the sealed reads
- `decryptChunks_ok_iff`: what is read is the frames of opened chunks and less than four
  bytes after them
- `read_ok_iff`: an accepted archive, as a magic, a header, frames and a rest
-/

namespace Netdisk2Blob.Backup

open Library Text Blob ObjectCrypto

/-! ## Section 1: The header and the libraries -/

def gatewayBackupArchiveMagic : Bytes := asBytes "CCBGBK01"

def gatewayBackupKdfMemoryKib : Nat := 8 * 1024

def gatewayBackupKdfIterations : Nat := 3

def gatewayBackupKdfParallelism : Nat := 1

def gatewayBackupSaltLen : Nat := 16

def gatewayBackupNoncePrefixLen : Nat := 4

def gatewayBackupAeadTagLen : Nat := 16

def gatewayBackupChunkPlaintextBytes : Nat := 256 * 1024

structure EncryptedBackupArchiveHeader (Provenance : Type) where
  backupFormatVersion : Nat
  exportedAtUnixMs : Nat
  gatewayVersion : String
  provenance : Provenance
  instanceId : String
  filename : String
  compression : String
  encryption : String
  argon2MemoryKib : Nat
  argon2Iterations : Nat
  argon2Parallelism : Nat
  chunkPlaintextBytes : Nat
  saltBase64 : String
  noncePrefixBase64 : String
  deriving DecidableEq

variable {Provenance ControlPlane Credential Lease : Type}

/-- The libraries behind an archive: the key derivation, the cipher, base64, gzip and
serde_json. -/
structure BackupRuntime (Provenance ControlPlane Credential Lease : Type) where
  argon2Params : (memoryKib iterations parallelism : Nat) → Except String Unit
  argon2id : (memoryKib iterations parallelism : Nat) → (password salt : Bytes) →
    Except String (FixedBytes 32)
  encryptInPlace : FixedBytes 32 → FixedBytes 12 → (aad plaintext : Bytes) → Option Bytes
  decryptInPlace : FixedBytes 32 → FixedBytes 12 → (aad ciphertext : Bytes) → Option Bytes
  base64Encode : Bytes → String
  base64Decode : Bytes → Except String Bytes
  gzEncode : Bytes → Bytes
  gzDecode : Bytes → Except String Bytes
  headerToVec : EncryptedBackupArchiveHeader Provenance → Bytes
  headerFromSlice : Bytes → Except String (EncryptedBackupArchiveHeader Provenance)
  bundleToWriter : GatewayBackupBundlePayload Provenance ControlPlane Credential Lease → Bytes
  bundleFromReader :
    Bytes → Except String (GatewayBackupBundlePayload Provenance ControlPlane Credential Lease)

/-- What the random number generator gives an archive. -/
structure ArchiveRandomness where
  salt : FixedBytes 16
  noncePrefix : FixedBytes 4
  deriving DecidableEq

section Code

variable (runtime : BackupRuntime Provenance ControlPlane Credential Lease)

def buildGatewayBackupArchiveHeader (randomness : ArchiveRandomness)
    (bundle : GatewayBackupBundlePayload Provenance ControlPlane Credential Lease)
    (filename : String) : EncryptedBackupArchiveHeader Provenance where
  backupFormatVersion := gatewayBackupFormatVersion
  exportedAtUnixMs := bundle.exportedAtUnixMs
  gatewayVersion := bundle.gatewayVersion
  provenance := bundle.provenance
  instanceId := bundle.instanceId
  filename := filename
  compression := "gzip"
  encryption := "chacha20_poly1305"
  argon2MemoryKib := gatewayBackupKdfMemoryKib
  argon2Iterations := gatewayBackupKdfIterations
  argon2Parallelism := gatewayBackupKdfParallelism
  chunkPlaintextBytes := gatewayBackupChunkPlaintextBytes
  saltBase64 := runtime.base64Encode randomness.salt.bytes
  noncePrefixBase64 := runtime.base64Encode randomness.noncePrefix.bytes

def writeBackupBundleGzip
    (bundle : GatewayBackupBundlePayload Provenance ControlPlane Credential Lease) : Bytes :=
  runtime.gzEncode (runtime.bundleToWriter bundle)

def decodeBackupArchiveSalt (header : EncryptedBackupArchiveHeader Provenance) :
    Except BlobError (FixedBytes 16) :=
  match runtime.base64Decode (asBytes header.saltBase64) with
  | .error error =>
    .error (.configuration s!"invalid backup archive salt encoding: {error}")
  | .ok salt =>
    if h : salt.length = gatewayBackupSaltLen then .ok ⟨salt, h⟩
    else .error (.configuration
      s!"invalid backup archive salt length: expected {gatewayBackupSaltLen}, got {salt.length}")

def decodeBackupArchiveNoncePrefix (header : EncryptedBackupArchiveHeader Provenance) :
    Except BlobError (FixedBytes 4) :=
  match runtime.base64Decode (asBytes header.noncePrefixBase64) with
  | .error error =>
    .error (.configuration s!"invalid backup archive nonce prefix encoding: {error}")
  | .ok noncePrefix =>
    if h : noncePrefix.length = gatewayBackupNoncePrefixLen then .ok ⟨noncePrefix, h⟩
    else .error (.configuration
      s!"invalid backup archive nonce prefix length: expected {gatewayBackupNoncePrefixLen}, got {noncePrefix.length}")

def deriveBackupArchiveKey (password : String)
    (header : EncryptedBackupArchiveHeader Provenance) : Except BlobError (FixedBytes 32) := do
  let salt ← decodeBackupArchiveSalt runtime header
  match runtime.argon2Params header.argon2MemoryKib header.argon2Iterations
      header.argon2Parallelism with
  | .error error => .error (.configuration s!"invalid backup KDF params: {error}")
  | .ok () =>
    match runtime.argon2id header.argon2MemoryKib header.argon2Iterations
        header.argon2Parallelism (asBytes password) salt.bytes with
    | .error error =>
      .error (.configuration s!"failed to derive backup archive key: {error}")
    | .ok key => .ok key

def backupArchiveNonce (noncePrefix : FixedBytes 4) (chunkIndex : Nat) : FixedBytes 12 :=
  chunkNonce noncePrefix chunkIndex

/-! ## Section 2: Writing -/

/-- The loop of the writer, from the chunk with this number on: a frame for every read. -/
def encryptChunks (key : FixedBytes 32) (noncePrefix : FixedBytes 4) (headerBytes : Bytes)
    (chunkPlaintextBytes chunkIndex : Nat) (reader : ShortReader) : Except BlobError Bytes :=
  if (reader.read (max chunkPlaintextBytes 1)).1 = [] then .ok []
  else
    match runtime.encryptInPlace key (backupArchiveNonce noncePrefix chunkIndex) headerBytes
        (reader.read (max chunkPlaintextBytes 1)).1 with
    | none => .error (.configuration "failed to encrypt backup archive chunk")
    | some chunk =>
      if u32Max < chunk.length then
        .error (.configuration "backup archive chunk exceeds u32 length")
      else do
        let rest ← encryptChunks key noncePrefix headerBytes chunkPlaintextBytes
          (saturatingAddU64 chunkIndex 1) (reader.read (max chunkPlaintextBytes 1)).2
        .ok (frameBytes chunk ++ rest)
termination_by reader.content.length
decreasing_by
  rename_i hread
  have hpos := List.length_pos_of_ne_nil hread
  have hlength := congrArg List.length (reader.read_append (max chunkPlaintextBytes 1))
  rw [List.length_append] at hlength
  omega

/-- The bytes of the archive file, for the payload as its reads give it. -/
def writeEncryptedBackupArchive (gzipPayload : ShortReader)
    (header : EncryptedBackupArchiveHeader Provenance) (password : String) :
    Except BlobError Bytes := do
  let key ← deriveBackupArchiveKey runtime password header
  let headerBytes := runtime.headerToVec header
  if u32Max < headerBytes.length then
    .error (.configuration "backup archive header is too large")
  else do
    let noncePrefix ← decodeBackupArchiveNoncePrefix runtime header
    let chunks ← encryptChunks runtime key noncePrefix headerBytes header.chunkPlaintextBytes 0
      gzipPayload
    .ok (gatewayBackupArchiveMagic ++ frameBytes headerBytes ++ chunks)

/-! ## Section 3: Reading -/

/-- The text of the error of a read that meets the end of the file. -/
def unexpectedEof : String := "failed to fill whole buffer"

def readBackupArchiveHeader (archivePath : String) (archive : ShortReader) :
    Except BlobError (EncryptedBackupArchiveHeader Provenance × Bytes × ShortReader) :=
  match archive.readExact 8 with
  | (none, _) => .error (.configuration
      s!"failed to read backup archive header {archivePath}: {unexpectedEof}")
  | (some magic, archive) =>
    if magic ≠ gatewayBackupArchiveMagic then .error (.configuration "不是 CCBG 备份归档")
    else
      match archive.readExact 4 with
      | (none, _) => .error (.configuration
          s!"failed to read backup archive header length {archivePath}: {unexpectedEof}")
      | (some headerLen, archive) =>
        match archive.readExact (ofBeBytes headerLen) with
        | (none, _) => .error (.configuration
            s!"failed to read backup archive header body {archivePath}: {unexpectedEof}")
        | (some headerBytes, archive) =>
          match runtime.headerFromSlice headerBytes with
          | .error error => .error (.configuration
              s!"invalid backup archive header JSON: {error}")
          | .ok header =>
            if header.backupFormatVersion ≠ gatewayBackupFormatVersion then
              .error (.configuration
                s!"unsupported backup archive version {header.backupFormatVersion}")
            else if header.compression ≠ "gzip" then
              .error (.configuration
                s!"unsupported backup archive compression {header.compression}")
            else if header.encryption ≠ "chacha20_poly1305" then
              .error (.configuration
                s!"unsupported backup archive encryption {header.encryption}")
            else .ok (header, headerBytes, archive)

/-- The loop of the reader, from the chunk with this number on. The end of the file in the
length of a chunk is the end of the archive. -/
def decryptChunks (archivePath : String) (key : FixedBytes 32) (noncePrefix : FixedBytes 4)
    (headerBytes : Bytes) (chunkIndex : Nat) (archive : ShortReader) : Except BlobError Bytes :=
  match _hlead : archive.readExact 4 with
  | (none, _) => .ok []
  | (some chunkLenBytes, afterLen) =>
    if ofBeBytes chunkLenBytes < gatewayBackupAeadTagLen then
      .error (.configuration "invalid encrypted backup chunk length")
    else
      match _hchunk : afterLen.readExact (ofBeBytes chunkLenBytes) with
      | (none, _) => .error (.configuration
          s!"failed to read encrypted backup chunk {archivePath}: {unexpectedEof}")
      | (some chunk, afterChunk) =>
        match runtime.decryptInPlace key (backupArchiveNonce noncePrefix chunkIndex) headerBytes
            chunk with
        | none => .error (.configuration "备份密码错误，或备份文件已损坏")
        | some plaintext => do
          let rest ← decryptChunks archivePath key noncePrefix headerBytes
            (saturatingAddU64 chunkIndex 1) afterChunk
          .ok (plaintext ++ rest)
termination_by archive.content.length
decreasing_by
  obtain ⟨hlen, hfour⟩ := ShortReader.readExact_eq_some _hlead
  obtain ⟨hrest, -⟩ := ShortReader.readExact_eq_some _hchunk
  rw [hlen, hrest]
  simp only [List.length_append]
  omega

/-- The gzip payload of an archive, with its header. -/
def decryptBackupArchiveToGzip (archivePath : String) (archive : ShortReader)
    (password : String) : Except BlobError (Bytes × EncryptedBackupArchiveHeader Provenance) := do
  let (header, headerBytes, archive) ← readBackupArchiveHeader runtime archivePath archive
  let key ← deriveBackupArchiveKey runtime password header
  let noncePrefix ← decodeBackupArchiveNoncePrefix runtime header
  let gzipPayload ← decryptChunks runtime archivePath key noncePrefix headerBytes 0 archive
  .ok (gzipPayload, header)

def readGatewayBackupBundleFromArchive (archivePath : String) (archive : ShortReader)
    (password : String) :
    Except BlobError (GatewayBackupBundlePayload Provenance ControlPlane Credential Lease ×
      EncryptedBackupArchiveHeader Provenance) := do
  let (gzipPayload, header) ← decryptBackupArchiveToGzip runtime archivePath archive password
  match (runtime.gzDecode gzipPayload).bind runtime.bundleFromReader with
  | .error error => .error (.configuration s!"failed to decode backup bundle JSON: {error}")
  | .ok bundle => .ok (bundle, header)

/-- The LSN below which the bundle holds everything that the log could say. -/
def gatewayBackupCheckpointLsn
    (bundle : GatewayBackupBundlePayload Provenance ControlPlane Credential Lease) : Nat :=
  bundle.metadata.gatewayWriteAheadLogState.nextLsn - 1

structure GatewayBackupArchiveBuildResult (Provenance : Type) where
  header : EncryptedBackupArchiveHeader Provenance
  checkpointLsn : Nat

/-- The archive file of a bundle; `limit` is how the reads of the payload file are split. -/
def buildGatewayBackupArchiveFile (randomness : ArchiveRandomness) (limit : Nat → Nat)
    (bundle : GatewayBackupBundlePayload Provenance ControlPlane Credential Lease)
    (filename password : String) :
    Except BlobError (GatewayBackupArchiveBuildResult Provenance × Bytes) := do
  let checkpointLsn := gatewayBackupCheckpointLsn bundle
  let header := buildGatewayBackupArchiveHeader runtime randomness bundle filename
  let archive ← writeEncryptedBackupArchive runtime ⟨writeBackupBundleGzip runtime bundle, limit⟩
    header password
  .ok (⟨header, checkpointLsn⟩, archive)

end Code

/-! ## Section 4: Frames of chunks -/

/-- Chunk `k` of an archive is sealed as this payload. -/
def ChunkSealed (runtime : BackupRuntime Provenance ControlPlane Credential Lease)
    (key : FixedBytes 32) (noncePrefix : FixedBytes 4) (headerBytes : Bytes) (k : Nat)
    (plaintext sealed : Bytes) : Prop :=
  runtime.encryptInPlace key (backupArchiveNonce noncePrefix (min k u64Max)) headerBytes
    plaintext = some sealed

/-- The payload of frame `k` of an archive opens to this chunk. -/
def ChunkOpened (runtime : BackupRuntime Provenance ControlPlane Credential Lease)
    (key : FixedBytes 32) (noncePrefix : FixedBytes 4) (headerBytes : Bytes) (k : Nat)
    (plaintext sealed : Bytes) : Prop :=
  gatewayBackupAeadTagLen ≤ sealed.length ∧
  runtime.decryptInPlace key (backupArchiveNonce noncePrefix (min k u64Max)) headerBytes
    sealed = some plaintext

section Chunks

variable {runtime : BackupRuntime Provenance ControlPlane Credential Lease}
  {key : FixedBytes 32} {noncePrefix : FixedBytes 4} {headerBytes : Bytes}
  {chunkPlaintextBytes k : Nat}

/-- The writer frames the sealed reads of the payload. -/
theorem encryptChunks_ok {reader : ShortReader} {bytes : Bytes}
    (h : encryptChunks runtime key noncePrefix headerBytes chunkPlaintextBytes (min k u64Max)
      reader = .ok bytes) :
    Frames (ChunkSealed runtime key noncePrefix headerBytes) k
      (reader.reads (max chunkPlaintextBytes 1)) bytes := by
  -- induction on the reads
  induction reader using ShortReader.reads.induct (max chunkPlaintextBytes 1)
    generalizing k bytes with
  | case1 reader hread =>
    rw [encryptChunks, if_pos hread] at h
    obtain rfl := Except.ok.inj h
    rw [ShortReader.reads_of_nil hread]
    exact Frames.nil k
  | case2 reader hread ih =>
    rw [encryptChunks, if_neg hread] at h
    rw [ShortReader.reads_of_ne_nil hread]
    split at h
    · cases h
    · rename_i chunk hchunk
      split_ifs at h with hlarge
      obtain ⟨rest, hrest, hbytes⟩ := except_bind_ok.mp h
      obtain rfl := Except.ok.inj hbytes
      rw [saturatingAddU64_min] at hrest
      exact Frames.cons hchunk (not_lt.mp hlarge) (ih hrest)

section Reader

variable {archivePath : String} {archive : ShortReader} {payload : Bytes}

/-- Less than four bytes are the end of the archive. -/
theorem decryptChunks_end (h : archive.content.length < 4) (chunkIndex : Nat) :
    decryptChunks runtime archivePath key noncePrefix headerBytes chunkIndex archive = .ok [] := by
  have hnone := ShortReader.readExact_of_lt h
  rw [decryptChunks]
  split
  · rfl
  · rename_i hsome
    rw [hsome] at hnone
    cases hnone

/-- A length that promises more than the file holds is an error. -/
theorem decryptChunks_cut (hlead : 4 ≤ archive.content.length)
    (hcut : archive.content.length < 4 + ofBeBytes (archive.content.take 4)) (chunkIndex : Nat) :
    decryptChunks runtime archivePath key noncePrefix headerBytes chunkIndex archive ≠
      .ok payload := by
  intro h
  obtain ⟨limit, hread⟩ := ShortReader.readExact_of_le hlead
  have hnone : ((⟨archive.content.drop 4, limit⟩ : ShortReader).readExact
      (ofBeBytes (archive.content.take 4))).1 = none := by
    apply ShortReader.readExact_of_lt
    simp only [List.length_drop]
    omega
  rw [decryptChunks] at h
  split at h
  · rename_i heof
    rw [hread] at heof
    cases heof
  · rename_i chunkLenBytes afterLen hsome
    rw [hread] at hsome
    obtain ⟨hbytes, rfl⟩ := Prod.mk.inj hsome
    obtain rfl := Option.some.inj hbytes
    split_ifs at h
    split at h
    · cases h
    · rename_i hchunk
      rw [hchunk] at hnone
      cases hnone

/-- One frame of the archive. -/
theorem decryptChunks_frame {sealed rest : Bytes} (hsealed : sealed.length ≤ u32Max)
    (hcontent : archive.content = frameBytes sealed ++ rest) :
    ∃ archive' : ShortReader, archive'.content = rest ∧
      (decryptChunks runtime archivePath key noncePrefix headerBytes (min k u64Max) archive =
          .ok payload ↔
        ∃ plaintext payload', ChunkOpened runtime key noncePrefix headerBytes k plaintext sealed ∧
          decryptChunks runtime archivePath key noncePrefix headerBytes (min (k + 1) u64Max)
            archive' = .ok payload' ∧
          payload = plaintext ++ payload') := by
  have hlead : 4 ≤ archive.content.length := by
    rw [hcontent, List.length_append, length_frameBytes]
    omega
  obtain ⟨limit, hread⟩ := ShortReader.readExact_of_le hlead
  rw [hcontent, take_frameBytes, drop_frameBytes] at hread
  have hle : sealed.length ≤ (⟨sealed ++ rest, limit⟩ : ShortReader).content.length := by
    simp only [List.length_append]
    omega
  obtain ⟨limit', hread'⟩ := ShortReader.readExact_of_le hle
  simp only [List.take_left, List.drop_left] at hread'
  have hcount := ofBeBytes_beBytes_u32 hsealed
  refine ⟨⟨rest, limit'⟩, rfl, ?_⟩
  rw [decryptChunks]
  split
  · rename_i heof
    rw [hread] at heof
    cases heof
  · rename_i chunkLenBytes afterLen hsome
    rw [hread] at hsome
    obtain ⟨hbytes, rfl⟩ := Prod.mk.inj hsome
    obtain rfl := Option.some.inj hbytes
    split_ifs with hshort
    · -- too short for a tag
      constructor
      · intro h
        cases h
      · intro ⟨_, _, hopened, _, _⟩
        rw [hcount] at hshort
        exact absurd hopened.1 (not_le.mpr hshort)
    · split
      · rename_i heof
        rw [hcount, hread'] at heof
        cases heof
      · rename_i chunk afterChunk hsome
        rw [hcount, hread'] at hsome
        obtain ⟨hbytes, rfl⟩ := Prod.mk.inj hsome
        obtain rfl := Option.some.inj hbytes
        rw [hcount] at hshort
        cases hdecrypt : runtime.decryptInPlace key
            (backupArchiveNonce noncePrefix (min k u64Max)) headerBytes sealed with
        | none =>
          simp only [ChunkOpened, hdecrypt]
          constructor
          · intro h
            cases h
          · intro ⟨_, _, hopened, _, _⟩
            cases hopened.2
        | some plaintext =>
          simp only [ChunkOpened, hdecrypt, saturatingAddU64_min]
          rw [except_bind_ok]
          constructor
          · intro ⟨payload', hrest, hpayload⟩
            exact ⟨plaintext, payload', ⟨not_lt.mp hshort, rfl⟩, hrest,
              (Except.ok.inj hpayload).symm⟩
          · intro ⟨plaintext', payload', hopened, hrest, hpayload⟩
            obtain rfl := Option.some.inj hopened.2
            exact ⟨payload', hrest, congrArg Except.ok hpayload.symm⟩

/-- The reader succeeds on frames of chunks that open, with less than four bytes after
them, and on nothing else. -/
theorem decryptChunks_ok_iff :
    decryptChunks runtime archivePath key noncePrefix headerBytes (min k u64Max) archive =
        .ok payload ↔
      ∃ plaintexts frames rest, archive.content = frames ++ rest ∧ rest.length < 4 ∧
        Frames (ChunkOpened runtime key noncePrefix headerBytes) k plaintexts frames ∧
        payload = plaintexts.flatten := by
  constructor
  · intro h
    -- induction on the number of bytes that are left
    induction hlen : archive.content.length using Nat.strong_induction_on
      generalizing archive k payload with
    | _ n ih =>
      subst hlen
      by_cases hfour : archive.content.length < 4
      · rw [decryptChunks_end hfour] at h
        obtain rfl := Except.ok.inj h
        exact ⟨[], [], archive.content, rfl, hfour, Frames.nil k, rfl⟩
      by_cases hcut : archive.content.length < 4 + ofBeBytes (archive.content.take 4)
      · exact absurd h (decryptChunks_cut (not_lt.mp hfour) hcut _)
      have hlead : 4 ≤ archive.content.length := not_lt.mp hfour
      have hfits : ofBeBytes (archive.content.take 4) ≤ (archive.content.drop 4).length := by
        rw [List.length_drop]
        omega
      have hframe := eq_frameBytes_append hlead rfl hfits
      have hsealed : ((archive.content.drop 4).take
          (ofBeBytes (archive.content.take 4))).length ≤ u32Max := by
        have hlt := ofBeBytes_lt (archive.content.take 4)
        rw [List.length_take_of_le hlead] at hlt
        rw [List.length_take_of_le hfits, u32Max]
        omega
      obtain ⟨archive', hcontent', hstep⟩ := decryptChunks_frame hsealed hframe
      obtain ⟨plaintext, payload', hopened, hrest, rfl⟩ := hstep.mp h
      have hshorter : archive'.content.length < archive.content.length := by
        rw [hcontent', List.length_drop, List.length_drop]
        omega
      obtain ⟨plaintexts, frames, rest, hcontent, hlt, hframes, rfl⟩ :=
        ih _ hshorter hrest rfl
      refine ⟨plaintext :: plaintexts, _, rest, ?_, hlt, Frames.cons hopened hsealed hframes, rfl⟩
      rw [List.append_assoc, ← hcontent, hcontent']
      exact hframe
  · rintro ⟨plaintexts, frames, rest, hcontent, hlt, hframes, hpayload⟩
    -- induction on the frames
    induction hframes generalizing archive payload with
    | nil k =>
      rw [decryptChunks_end (by rwa [hcontent]), hpayload]
      rfl
    | @cons k item sealed frames items hopened hsealed _ ih =>
      rw [List.append_assoc] at hcontent
      obtain ⟨archive', hcontent', hstep⟩ := decryptChunks_frame hsealed hcontent
      exact hstep.mpr ⟨item, items.flatten, hopened, ih hcontent' rfl, hpayload⟩

end Reader

end Chunks

/-! ## Section 5: Whole archives -/

section Whole

variable {runtime : BackupRuntime Provenance ControlPlane Credential Lease}
  {header : EncryptedBackupArchiveHeader Provenance} {password : String}

/-- The version, the compression and the encryption that the reader knows. -/
def EncryptedBackupArchiveHeader.Supported (header : EncryptedBackupArchiveHeader Provenance) :
    Prop :=
  header.backupFormatVersion = gatewayBackupFormatVersion ∧ header.compression = "gzip" ∧
    header.encryption = "chacha20_poly1305"

/-- What stands in front of the chunks. -/
def archiveFront (headerBytes : Bytes) : Bytes :=
  gatewayBackupArchiveMagic ++ frameBytes headerBytes

theorem readBackupArchiveHeader_ok_iff {archivePath : String} {archive : ShortReader}
    {headerBytes rest : Bytes} :
    (∃ limit, readBackupArchiveHeader runtime archivePath archive =
        .ok (header, headerBytes, ⟨rest, limit⟩)) ↔
      archive.content = archiveFront headerBytes ++ rest ∧ headerBytes.length ≤ u32Max ∧
        runtime.headerFromSlice headerBytes = .ok header ∧ header.Supported := by
  constructor
  · rintro ⟨limit, h⟩
    unfold readBackupArchiveHeader at h
    split at h
    · cases h
    rename_i magic afterMagic hmagic
    split_ifs at h with hccbg
    split at h
    · cases h
    rename_i headerLen afterLen hheaderLen
    split at h
    · cases h
    rename_i bytes afterHeader hbytes
    split at h
    · cases h
    rename_i decoded hdecoded
    split_ifs at h with hversion hcompression hencryption
    cases h
    obtain ⟨hfront, -⟩ := ShortReader.readExact_eq_some hmagic
    obtain ⟨hmiddle, hfour⟩ := ShortReader.readExact_eq_some hheaderLen
    obtain ⟨hrest, hlen⟩ := ShortReader.readExact_eq_some hbytes
    have hframe : frameBytes headerBytes = headerLen ++ headerBytes := by
      rw [frameBytes, hlen, ← hfour, beBytes_ofBeBytes]
    have hlarge : headerBytes.length ≤ u32Max := by
      have hlt := ofBeBytes_lt headerLen
      rw [hfour] at hlt
      rw [hlen, u32Max]
      omega
    refine ⟨?_, hlarge, hdecoded, not_not.mp hversion, not_not.mp hcompression,
      not_not.mp hencryption⟩
    rw [hfront, hmiddle, hrest, archiveFront, hframe, not_not.mp hccbg]
    simp only [List.append_assoc]
  · rintro ⟨hcontent, hlarge, hdecoded, hversion, hcompression, hencryption⟩
    rw [archiveFront, frameBytes, List.append_assoc, List.append_assoc] at hcontent
    obtain ⟨limit₁, hmagic⟩ := ShortReader.readExact_append hcontent
    obtain ⟨limit₂, hheaderLen⟩ :=
      @ShortReader.readExact_append ⟨_, limit₁⟩ (beBytes 4 headerBytes.length) _ rfl
    obtain ⟨limit₃, hbytes⟩ := @ShortReader.readExact_append ⟨_, limit₂⟩ headerBytes rest rfl
    rw [length_beBytes] at hheaderLen
    have hcount := ofBeBytes_beBytes_u32 hlarge
    have height : gatewayBackupArchiveMagic.length = 8 := rfl
    rw [height] at hmagic
    refine ⟨limit₃, ?_⟩
    unfold readBackupArchiveHeader
    rw [hmagic]
    simp only [ne_eq, not_true_eq_false, if_false]
    rw [hheaderLen]
    simp only [hcount]
    rw [hbytes]
    simp only [hdecoded, hversion, hcompression, hencryption, not_true_eq_false, if_false]

/-- An accepted archive: a header, the chunks that open under it, and a rest. -/
structure ArchiveReading (runtime : BackupRuntime Provenance ControlPlane Credential Lease)
    (password : String) (content : Bytes)
    (bundle : GatewayBackupBundlePayload Provenance ControlPlane Credential Lease)
    (header : EncryptedBackupArchiveHeader Provenance) where
  headerBytes : Bytes
  key : FixedBytes 32
  noncePrefix : FixedBytes 4
  plaintexts : List Bytes
  frames : Bytes
  rest : Bytes
  json : Bytes
  content_eq : content = archiveFront headerBytes ++ frames ++ rest
  headerBytes_le : headerBytes.length ≤ u32Max
  rest_lt : rest.length < 4
  header_eq : runtime.headerFromSlice headerBytes = .ok header
  supported : header.Supported
  key_eq : deriveBackupArchiveKey runtime password header = .ok key
  noncePrefix_eq : decodeBackupArchiveNoncePrefix runtime header = .ok noncePrefix
  opened : Frames (ChunkOpened runtime key noncePrefix headerBytes) 0 plaintexts frames
  json_eq : runtime.gzDecode plaintexts.flatten = .ok json
  bundle_eq : runtime.bundleFromReader json = .ok bundle

/-- The reader accepts what can be read this way, however its reads are split. -/
theorem read_ok_iff {archivePath : String} {archive : ShortReader}
    {bundle : GatewayBackupBundlePayload Provenance ControlPlane Credential Lease} :
    readGatewayBackupBundleFromArchive runtime archivePath archive password =
        .ok (bundle, header) ↔
      Nonempty (ArchiveReading runtime password archive.content bundle header) := by
  unfold readGatewayBackupBundleFromArchive decryptBackupArchiveToGzip
  constructor
  · intro h
    obtain ⟨⟨gzipPayload, header'⟩, hgzip, hbundle⟩ := except_bind_ok.mp h
    obtain ⟨⟨header', headerBytes, ⟨rest, limit⟩⟩, hheader, hgzip⟩ := except_bind_ok.mp hgzip
    obtain ⟨key, hkey, hgzip⟩ := except_bind_ok.mp hgzip
    obtain ⟨noncePrefix, hnonce, hgzip⟩ := except_bind_ok.mp hgzip
    obtain ⟨payload, hpayload, hgzip⟩ := except_bind_ok.mp hgzip
    cases hgzip
    simp only at hbundle
    split at hbundle
    · cases hbundle
    rename_i bundle' hdecoded
    cases hbundle
    obtain ⟨json, hjson, hbundle⟩ := bind_eq_ok.mp hdecoded
    obtain ⟨hcontent, hle, hdecode, hsupported⟩ := readBackupArchiveHeader_ok_iff.mp ⟨_, hheader⟩
    have hpayload' : decryptChunks runtime archivePath key noncePrefix headerBytes
        (min 0 u64Max) ⟨rest, limit⟩ = .ok gzipPayload := hpayload
    obtain ⟨plaintexts, frames, tail, hchunks, htail, hframes, rfl⟩ :=
      decryptChunks_ok_iff.mp hpayload'
    simp only at hchunks
    rw [hchunks, ← List.append_assoc] at hcontent
    exact ⟨⟨headerBytes, key, noncePrefix, plaintexts, frames, tail, json, hcontent, hle, htail,
      hdecode, hsupported, hkey, hnonce, hframes, hjson, hbundle⟩⟩
  · intro ⟨reading⟩
    have hcontent := reading.content_eq
    rw [List.append_assoc] at hcontent
    obtain ⟨limit, hheader⟩ := readBackupArchiveHeader_ok_iff.mpr
      ⟨hcontent, reading.headerBytes_le, reading.header_eq, reading.supported⟩
    have hchunks : decryptChunks runtime archivePath reading.key reading.noncePrefix
        reading.headerBytes (min 0 u64Max) ⟨reading.frames ++ reading.rest, limit⟩ =
          .ok reading.plaintexts.flatten :=
      decryptChunks_ok_iff.mpr
        ⟨_, _, _, rfl, reading.rest_lt, reading.opened, rfl⟩
    apply except_bind_ok.mpr
    refine ⟨(reading.plaintexts.flatten, header), ?_, ?_⟩
    · apply except_bind_ok.mpr
      refine ⟨_, hheader, ?_⟩
      apply except_bind_ok.mpr
      refine ⟨_, reading.key_eq, ?_⟩
      apply except_bind_ok.mpr
      refine ⟨_, reading.noncePrefix_eq, ?_⟩
      apply except_bind_ok.mpr
      exact ⟨_, hchunks, rfl⟩
    · have hdecoded := bind_eq_ok.mpr ⟨_, reading.json_eq, reading.bundle_eq⟩
      simp only [hdecoded]

/-- A written archive: the header, and the sealed reads of the payload. -/
structure ArchiveWriting (runtime : BackupRuntime Provenance ControlPlane Credential Lease)
    (password : String) (gzipPayload : ShortReader)
    (header : EncryptedBackupArchiveHeader Provenance) (archive : Bytes) where
  key : FixedBytes 32
  noncePrefix : FixedBytes 4
  frames : Bytes
  archive_eq : archive = archiveFront (runtime.headerToVec header) ++ frames
  headerBytes_le : (runtime.headerToVec header).length ≤ u32Max
  key_eq : deriveBackupArchiveKey runtime password header = .ok key
  noncePrefix_eq : decodeBackupArchiveNoncePrefix runtime header = .ok noncePrefix
  sealed : Frames (ChunkSealed runtime key noncePrefix (runtime.headerToVec header)) 0
    (gzipPayload.reads (max header.chunkPlaintextBytes 1)) frames

theorem write_ok {gzipPayload : ShortReader} {archive : Bytes}
    (h : writeEncryptedBackupArchive runtime gzipPayload header password = .ok archive) :
    Nonempty (ArchiveWriting runtime password gzipPayload header archive) := by
  unfold writeEncryptedBackupArchive at h
  obtain ⟨key, hkey, h⟩ := except_bind_ok.mp h
  simp only at h
  split_ifs at h with hlarge
  obtain ⟨noncePrefix, hnonce, h⟩ := except_bind_ok.mp h
  obtain ⟨frames, hframes, h⟩ := except_bind_ok.mp h
  cases h
  have hframes' : encryptChunks runtime key noncePrefix (runtime.headerToVec header)
      header.chunkPlaintextBytes (min 0 u64Max) gzipPayload = .ok frames := hframes
  exact ⟨⟨key, noncePrefix, frames, rfl, not_lt.mp hlarge, hkey, hnonce,
    encryptChunks_ok hframes'⟩⟩

end Whole

end Netdisk2Blob.Backup
