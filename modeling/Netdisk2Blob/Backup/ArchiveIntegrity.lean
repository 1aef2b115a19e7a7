import Netdisk2Blob.Backup.Archive
import Mathlib

/-!
# Archive Integrity

What the reader of backup archives accepts when the cipher is ideal, that is, when under
the keys of a password it opens what archives have sealed and nothing else. Every chunk is
bound to its header and to its number, and the gzip decoder notices chunks that are missing
at the end. The bytes after the last chunk are bound to nothing: up to three of them are
taken for the end of the file.

## Contents

- `ArchiveLaws`, `IdealArchiveAead`: the libraries
- `ProducedArchive`: the archives that were written
- `read_produced_append`: a produced archive is accepted, also with up to three bytes more
- `produced_of_reading`: nothing else is accepted
- `archiveIntact_iff`: the round trip, and when an accepted string is a produced archive
-/

namespace Netdisk2Blob.Backup

open Library Text Blob ObjectCrypto

variable {Provenance ControlPlane Credential Lease : Type}

/-! ## Section 1: Produced archives -/

/-- An archive that was written. A file holds at most `u64::MAX` bytes. -/
structure ProducedArchive
    (runtime : BackupRuntime Provenance ControlPlane Credential Lease) where
  bundle : GatewayBackupBundlePayload Provenance ControlPlane Credential Lease
  filename : String
  randomness : ArchiveRandomness
  limit : Nat → Nat
  password : String
  result : GatewayBackupArchiveBuildResult Provenance
  archive : Bytes
  writes : buildGatewayBackupArchiveFile runtime randomness limit bundle filename password =
    .ok (result, archive)
  payload_le : (writeBackupBundleGzip runtime bundle).length ≤ u64Max

namespace ProducedArchive

variable {runtime : BackupRuntime Provenance ControlPlane Credential Lease}

def header (produced : ProducedArchive runtime) : EncryptedBackupArchiveHeader Provenance :=
  buildGatewayBackupArchiveHeader runtime produced.randomness produced.bundle produced.filename

def headerBytes (produced : ProducedArchive runtime) : Bytes :=
  runtime.headerToVec produced.header

/-- The chunks: what the reads of the payload gave. -/
def chunks (produced : ProducedArchive runtime) : List Bytes :=
  ShortReader.reads ⟨writeBackupBundleGzip runtime produced.bundle, produced.limit⟩
    (max gatewayBackupChunkPlaintextBytes 1)

/-- The encryptions that writing the archive has made. -/
def Encrypts (produced : ProducedArchive runtime) (key : FixedBytes 32) (nonce : FixedBytes 12)
    (aad plaintext : Bytes) : Prop :=
  deriveBackupArchiveKey runtime produced.password produced.header = .ok key ∧
  aad = produced.headerBytes ∧
  ∃ k, produced.chunks[k]? = some plaintext ∧
    nonce = backupArchiveNonce produced.randomness.noncePrefix (min k u64Max)

end ProducedArchive

/-! ## Section 2: The libraries -/

section Libraries

variable {ι : Type*} {runtime : BackupRuntime Provenance ControlPlane Credential Lease}

/-- A cipher with a tag of sixteen bytes, exact decoders, and a gzip decoder that notices
when the end of its input is missing. -/
structure ArchiveLaws (produced : ι → ProducedArchive runtime) : Prop where
  length_sealed : ∀ {key nonce aad plaintext sealed},
    runtime.encryptInPlace key nonce aad plaintext = some sealed →
    sealed.length = plaintext.length + gatewayBackupAeadTagLen
  base64_decodes : ∀ bytes,
    runtime.base64Decode (asBytes (runtime.base64Encode bytes)) = .ok bytes
  header_decodes : ∀ i, runtime.headerFromSlice (produced i).headerBytes = .ok (produced i).header
  bundle_decodes : ∀ i,
    runtime.bundleFromReader (runtime.bundleToWriter (produced i).bundle) =
      .ok (produced i).bundle
  gzip_decodes : ∀ bytes, runtime.gzDecode (runtime.gzEncode bytes) = .ok bytes
  gzip_cut : ∀ {front bytes}, front <+: runtime.gzEncode bytes →
    front ≠ runtime.gzEncode bytes → ∃ error, runtime.gzDecode front = .error error

variable {produced : ι → ProducedArchive runtime}

/-- An encoded payload is not empty: the empty string is cut from every other one. -/
theorem ArchiveLaws.gzEncode_ne_nil (laws : ArchiveLaws produced) (bytes : Bytes) :
    runtime.gzEncode bytes ≠ [] := by
  intro hnil
  have hdecode := laws.gzip_decodes bytes
  rw [hnil] at hdecode
  have hother := laws.gzip_decodes (0 :: bytes)
  have hne : [] ≠ runtime.gzEncode (0 :: bytes) := by
    intro hnil'
    rw [← hnil', hdecode] at hother
    exact absurd (Except.ok.inj hother) (List.cons_ne_self 0 bytes).symm
  obtain ⟨error, herror⟩ := laws.gzip_cut List.nil_prefix hne
  rw [hdecode] at herror
  cases herror

/-- A front of an encoded payload that decodes is the whole payload. -/
theorem ArchiveLaws.eq_of_prefix (laws : ArchiveLaws produced) {front bytes json : Bytes}
    (hfront : front <+: runtime.gzEncode bytes) (h : runtime.gzDecode front = .ok json) :
    front = runtime.gzEncode bytes := by
  by_contra hne
  obtain ⟨error, herror⟩ := laws.gzip_cut hfront hne
  rw [h] at herror
  cases herror

/-- An ideal cipher: under the keys of the password, decryption opens what the archives have
sealed and nothing else. -/
def IdealArchiveAead (produced : ι → ProducedArchive runtime) (password : String) : Prop :=
  ∀ {header key nonce aad sealed plaintext},
    deriveBackupArchiveKey runtime password header = .ok key →
    (runtime.decryptInPlace key nonce aad sealed = some plaintext ↔
      ∃ i, (produced i).Encrypts key nonce aad plaintext ∧
        runtime.encryptInPlace key nonce aad plaintext = some sealed)

/-- The key derivation keeps the password apart from the passwords of the archives. -/
def KdfInjective (produced : ι → ProducedArchive runtime) (password : String) : Prop :=
  ∀ {i key}, deriveBackupArchiveKey runtime password (produced i).header = .ok key →
    deriveBackupArchiveKey runtime (produced i).password (produced i).header = .ok key →
    (produced i).password = password

/-- The produced archives of the password are read back, however the reads are split. -/
def ArchivesReadBack (produced : ι → ProducedArchive runtime) (password : String) : Prop :=
  ∀ i path limit, (produced i).password = password →
    readGatewayBackupBundleFromArchive runtime path ⟨(produced i).archive, limit⟩ password =
      .ok ((produced i).bundle, (produced i).header)

/-- When a string is accepted, it is a produced archive, and what was read is its bundle. -/
def ArchiveIntact (produced : ι → ProducedArchive runtime) (password : String)
    (submitted : Bytes) : Prop :=
  ∀ path limit bundle header,
    readGatewayBackupBundleFromArchive runtime path ⟨submitted, limit⟩ password =
      .ok (bundle, header) →
    ∃ i, submitted = (produced i).archive ∧ bundle = (produced i).bundle ∧
      header = (produced i).header

/-- A produced archive of the password with one to three bytes after it. -/
def TrailingBytes (produced : ι → ProducedArchive runtime) (password : String)
    (submitted : Bytes) : Prop :=
  ∃ i rest, (produced i).password = password ∧ rest ≠ [] ∧ rest.length < 4 ∧
    submitted = (produced i).archive ++ rest

end Libraries

/-! ## Section 3: Reading what was written -/

namespace ProducedArchive

variable {runtime : BackupRuntime Provenance ControlPlane Credential Lease}

theorem writing (produced : ProducedArchive runtime) :
    Nonempty (ArchiveWriting runtime produced.password
      ⟨writeBackupBundleGzip runtime produced.bundle, produced.limit⟩ produced.header
      produced.archive) := by
  obtain ⟨archive, hwrite, hresult⟩ := except_bind_ok.mp produced.writes
  obtain ⟨-, harchive⟩ := Prod.mk.inj (Except.ok.inj hresult)
  rw [harchive] at hwrite
  exact write_ok hwrite

theorem flatten_chunks (produced : ProducedArchive runtime) :
    produced.chunks.flatten = writeBackupBundleGzip runtime produced.bundle :=
  ShortReader.flatten_reads (by decide) _

/-- Chunks are not empty, so there are at most as many as the payload has bytes. -/
theorem length_chunks_le (produced : ProducedArchive runtime) :
    produced.chunks.length ≤ u64Max := by
  apply le_trans _ produced.payload_le
  rw [← produced.flatten_chunks]
  exact length_le_length_flatten fun chunk hchunk => ShortReader.ne_nil_of_mem_reads hchunk

theorem supported (produced : ProducedArchive runtime) : produced.header.Supported :=
  ⟨rfl, rfl, rfl⟩

end ProducedArchive

section ReadBack

variable {ι : Type*} {runtime : BackupRuntime Provenance ControlPlane Credential Lease}
  {produced : ι → ProducedArchive runtime}

/-- A header tells the salt of its archive. -/
theorem salt_eq_of_header (laws : ArchiveLaws produced) {i i' : ι}
    (h : (produced i).header = (produced i').header) :
    (produced i).randomness.salt = (produced i').randomness.salt := by
  have hbase64 : runtime.base64Encode (produced i).randomness.salt.bytes =
      runtime.base64Encode (produced i').randomness.salt.bytes :=
    congrArg EncryptedBackupArchiveHeader.saltBase64 h
  have hdecode := laws.base64_decodes (produced i).randomness.salt.bytes
  rw [hbase64, laws.base64_decodes] at hdecode
  exact FixedBytes.ext (Except.ok.inj hdecode).symm

/-- The nonce prefix that a header decodes to is that of its archive. -/
theorem noncePrefix_eq_of_header (laws : ArchiveLaws produced) {i : ι}
    {noncePrefix : FixedBytes 4}
    (h : decodeBackupArchiveNoncePrefix runtime (produced i).header = .ok noncePrefix) :
    noncePrefix = (produced i).randomness.noncePrefix := by
  unfold decodeBackupArchiveNoncePrefix at h
  have hdecode := laws.base64_decodes (produced i).randomness.noncePrefix.bytes
  have hbase64 : (produced i).header.noncePrefixBase64 =
      runtime.base64Encode (produced i).randomness.noncePrefix.bytes := rfl
  rw [hbase64, hdecode] at h
  simp only at h
  split_ifs at h
  exact (Except.ok.inj h).symm

/-- A produced archive is accepted under its password, and so is one with less than four
bytes after it. -/
theorem read_produced_append (laws : ArchiveLaws produced) {i : ι}
    (hideal : IdealArchiveAead produced (produced i).password) {rest : Bytes}
    (hrest : rest.length < 4) (path : String) (limit : Nat → Nat) :
    readGatewayBackupBundleFromArchive runtime path ⟨(produced i).archive ++ rest, limit⟩
      (produced i).password = .ok ((produced i).bundle, (produced i).header) := by
  obtain ⟨writing⟩ := (produced i).writing
  have harchive := writing.archive_eq
  have hnonce := noncePrefix_eq_of_header laws writing.noncePrefix_eq
  apply read_ok_iff.mpr
  have hopened : Frames (ChunkOpened runtime writing.key writing.noncePrefix
      (produced i).headerBytes) 0 (produced i).chunks writing.frames := by
    apply writing.sealed.imp
    intro k plaintext sealed hchunk hsealed
    constructor
    · rw [laws.length_sealed hsealed]
      omega
    · -- the chunk was sealed by this archive, so the cipher opens it
      apply (hideal writing.key_eq).mpr
      rw [Nat.zero_add] at hsealed ⊢
      exact ⟨i, ⟨writing.key_eq, rfl, k, hchunk, by rw [hnonce]⟩, hsealed⟩
  have hgzip : runtime.gzDecode (produced i).chunks.flatten =
      .ok (runtime.bundleToWriter (produced i).bundle) := by
    rw [(produced i).flatten_chunks]
    exact laws.gzip_decodes _
  exact ⟨{
    headerBytes := (produced i).headerBytes
    key := writing.key
    noncePrefix := writing.noncePrefix
    plaintexts := (produced i).chunks
    frames := writing.frames
    rest := rest
    json := runtime.bundleToWriter (produced i).bundle
    content_eq := congrArg (· ++ rest) harchive
    headerBytes_le := writing.headerBytes_le
    rest_lt := hrest
    header_eq := laws.header_decodes i
    supported := (produced i).supported
    key_eq := writing.key_eq
    noncePrefix_eq := writing.noncePrefix_eq
    opened := hopened
    json_eq := hgzip
    bundle_eq := laws.bundle_decodes i }⟩

end ReadBack

/-! ## Section 4: Reading what an adversary submits -/

section Integrity

variable {ι : Type*} {runtime : BackupRuntime Provenance ControlPlane Credential Lease}
  {produced : ι → ProducedArchive runtime} {password : String} {submitted : Bytes}
  {bundle : GatewayBackupBundlePayload Provenance ControlPlane Credential Lease}
  {header : EncryptedBackupArchiveHeader Provenance}

/-- Header bytes that decode tell whose they are. -/
theorem header_eq_of_headerBytes (laws : ArchiveLaws produced) {i : ι} {headerBytes : Bytes}
    (hdecode : runtime.headerFromSlice headerBytes = .ok header)
    (h : headerBytes = (produced i).headerBytes) : header = (produced i).header := by
  rw [h, laws.header_decodes] at hdecode
  exact (Except.ok.inj hdecode).symm

/-- An accepted archive has at least one chunk. -/
theorem ArchiveReading.plaintexts_ne_nil (laws : ArchiveLaws produced)
    (reading : ArchiveReading runtime password submitted bundle header) :
    reading.plaintexts ≠ [] := by
  intro hnil
  have hjson := reading.json_eq
  rw [hnil] at hjson
  exact laws.gzEncode_ne_nil [] (laws.eq_of_prefix List.nil_prefix hjson).symm

/-- A chunk of an accepted archive is the chunk of some archive with this header, at its
place. -/
theorem sealed_of_opened (hideal : IdealArchiveAead produced password)
    (reading : ArchiveReading runtime password submitted bundle header) {k : Nat}
    {plaintext sealed : Bytes}
    (h : ChunkOpened runtime reading.key reading.noncePrefix reading.headerBytes k plaintext
      sealed) :
    ∃ i, deriveBackupArchiveKey runtime (produced i).password (produced i).header =
        .ok reading.key ∧
      reading.headerBytes = (produced i).headerBytes ∧
      (produced i).chunks[k]? = some plaintext ∧
      ChunkSealed runtime reading.key reading.noncePrefix reading.headerBytes k plaintext
        sealed := by
  obtain ⟨i, ⟨hkey, haad, k', hchunk, hnonce⟩, hsealed⟩ := (hideal reading.key_eq).mp h.2
  refine ⟨i, hkey, haad, ?_, hsealed⟩
  -- the number is below the bound of the counter, so the nonce tells it
  obtain ⟨-, hindex⟩ := chunkNonce_inj (min_le_right _ _) (min_le_right _ _) hnonce
  obtain ⟨hlt, -⟩ := List.getElem?_eq_some_iff.mp hchunk
  have hcount := (produced i).length_chunks_le
  have hk : k = k' := by omega
  rw [hk]
  exact hchunk

/-- All chunks of an accepted archive are the first chunks of one produced archive. -/
theorem chunks_of_reading (laws : ArchiveLaws produced)
    (hideal : IdealArchiveAead produced password)
    (hfresh : Function.Injective fun i => (produced i).randomness.salt)
    (reading : ArchiveReading runtime password submitted bundle header) :
    ∃ i, deriveBackupArchiveKey runtime (produced i).password (produced i).header =
        .ok reading.key ∧
      reading.headerBytes = (produced i).headerBytes ∧ header = (produced i).header ∧
      reading.plaintexts = (produced i).chunks.take reading.plaintexts.length ∧
      Frames (ChunkSealed runtime reading.key reading.noncePrefix reading.headerBytes) 0
        reading.plaintexts reading.frames := by
  -- every chunk belongs to an archive with this header
  have hsealed : Frames (fun k plaintext sealed => ∃ i,
      deriveBackupArchiveKey runtime (produced i).password (produced i).header =
          .ok reading.key ∧
        reading.headerBytes = (produced i).headerBytes ∧
        (produced i).chunks[k]? = some plaintext ∧
        ChunkSealed runtime reading.key reading.noncePrefix reading.headerBytes k plaintext
          sealed) 0 reading.plaintexts reading.frames := by
    apply reading.opened.imp
    intro k plaintext sealed _ hopened
    exact sealed_of_opened hideal reading hopened
  obtain ⟨first, others, hplaintexts⟩ := List.exists_cons_of_ne_nil
    (reading.plaintexts_ne_nil laws)
  have hfirst := hsealed
  rw [hplaintexts] at hfirst
  obtain ⟨_, _, ⟨i, hkey, haad, -, -⟩, -⟩ := Frames.cons_iff.mp hfirst
  have hheader := header_eq_of_headerBytes laws reading.header_eq haad
  refine ⟨i, hkey, haad, hheader, ?_, ?_⟩
  · -- and the salt says that it is the same archive for all of them
    have hplace := @Frames.eq_take_drop _ _ _ _ _ (produced i).chunks hsealed
      (fun {k item payload} ⟨i', _, haad', hchunk, _⟩ => by
        have hheader' := header_eq_of_headerBytes laws reading.header_eq haad'
        have hsame : i' = i := hfresh
          (salt_eq_of_header laws (hheader'.symm.trans hheader))
        rw [← hsame]
        exact hchunk)
    rwa [List.drop_zero] at hplace
  · exact hsealed.imp fun k plaintext sealed _ ⟨_, _, _, _, h⟩ => by
      rwa [Nat.zero_add] at h ⊢

/-- Pieces of which none is empty and whose join is a part of the join are all of them. -/
theorem take_eq_self_of_flatten {pieces : List Bytes} {m : Nat}
    (hpieces : ∀ piece ∈ pieces, piece ≠ [])
    (h : (pieces.take m).flatten = pieces.flatten) : pieces.take m = pieces := by
  have hsplit : (pieces.take m).flatten ++ (pieces.drop m).flatten = pieces.flatten := by
    rw [← List.flatten_append, List.take_append_drop]
  rw [h] at hsplit
  have hdrop : (pieces.drop m).flatten = [] :=
    List.append_cancel_left (hsplit.trans (List.append_nil _).symm)
  have hle := length_le_length_flatten
    (fun piece hpiece => hpieces piece (List.mem_of_mem_drop hpiece) : ∀ piece ∈ pieces.drop m,
      piece ≠ [])
  rw [hdrop, List.length_nil, List.length_drop] at hle
  apply List.take_of_length_le
  omega

/-- An accepted string is a produced archive of the password and a rest. -/
theorem produced_of_reading (laws : ArchiveLaws produced)
    (hideal : IdealArchiveAead produced password) (hkdf : KdfInjective produced password)
    (hfresh : Function.Injective fun i => (produced i).randomness.salt)
    (reading : ArchiveReading runtime password submitted bundle header) :
    ∃ i, (produced i).password = password ∧
      submitted = (produced i).archive ++ reading.rest ∧ bundle = (produced i).bundle ∧
      header = (produced i).header := by
  obtain ⟨i, hkey, haad, hheader, hplaintexts, hframes⟩ :=
    chunks_of_reading laws hideal hfresh reading
  subst hheader
  obtain ⟨writing⟩ := (produced i).writing
  have hpieces : ∀ chunk ∈ (produced i).chunks, chunk ≠ [] :=
    fun chunk hchunk => ShortReader.ne_nil_of_mem_reads hchunk
  have hflatten := (produced i).flatten_chunks
  -- the chunks decode, so none is missing at the end
  have hfront : ((produced i).chunks.take reading.plaintexts.length).flatten <+:
      writeBackupBundleGzip runtime (produced i).bundle := by
    refine ⟨((produced i).chunks.drop reading.plaintexts.length).flatten, ?_⟩
    rw [← List.flatten_append, List.take_append_drop, hflatten]
  rw [← hplaintexts] at hfront
  have hpayload := laws.eq_of_prefix hfront reading.json_eq
  have hall : reading.plaintexts = (produced i).chunks := by
    rw [hplaintexts]
    apply take_eq_self_of_flatten hpieces
    rw [← hplaintexts, hpayload]
    exact hflatten.symm
  -- so the frames are those of the archive
  have hsameKey : writing.key = reading.key :=
    Except.ok.inj (writing.key_eq.symm.trans hkey)
  have hsamePrefix : writing.noncePrefix = reading.noncePrefix :=
    Except.ok.inj (writing.noncePrefix_eq.symm.trans reading.noncePrefix_eq)
  have hwritten := writing.sealed
  rw [hsameKey, hsamePrefix] at hwritten
  rw [hall, haad] at hframes
  have hsameFrames : reading.frames = writing.frames :=
    hframes.unique (fun h h' => Option.some.inj (h.symm.trans h')) hwritten
  refine ⟨i, hkdf reading.key_eq hkey, ?_, ?_, rfl⟩
  · have harchive := writing.archive_eq
    have hcontent : archiveFront reading.headerBytes ++ reading.frames =
        archiveFront (produced i).headerBytes ++ writing.frames := by
      rw [haad, hsameFrames]
    exact reading.content_eq.trans
      (congrArg (· ++ reading.rest) (hcontent.trans harchive.symm))
  · -- the payload is the bundle's
    have hjson := reading.json_eq
    rw [hpayload, laws.gzip_decodes] at hjson
    have hbundle := reading.bundle_eq
    rw [← Except.ok.inj hjson, laws.bundle_decodes] at hbundle
    exact (Except.ok.inj hbundle).symm

/-- The produced archives of a password are read back, and a submitted string is accepted
only when it is one of them, exactly when it is not one of them with up to three bytes after
it. -/
theorem archiveIntact_iff (laws : ArchiveLaws produced)
    (hideal : IdealArchiveAead produced password) (hkdf : KdfInjective produced password)
    (hfresh : Function.Injective fun i => (produced i).randomness.salt) (submitted : Bytes) :
    ArchivesReadBack produced password ∧
      (ArchiveIntact produced password submitted ↔ ¬ TrailingBytes produced password submitted) := by
  constructor
  · intro i path limit hpassword
    subst hpassword
    have hread := read_produced_append laws hideal (by decide : ([] : Bytes).length < 4) path limit
    rwa [List.append_nil] at hread
  constructor
  · intro hintact ⟨i, rest, hpassword, hrest, hlt, hsubmitted⟩
    subst hpassword
    have hread := read_produced_append laws hideal hlt "" fun _ => 0
    rw [← hsubmitted] at hread
    obtain ⟨i', hsubmitted', -, hheader⟩ := hintact _ _ _ _ hread
    -- the header says which archive it is, and the archive is not longer than itself
    have hsame : i' = i := hfresh (salt_eq_of_header laws hheader.symm)
    rw [hsame, hsubmitted] at hsubmitted'
    exact hrest (List.append_cancel_left (hsubmitted'.trans (List.append_nil _).symm))
  · intro htrailing path limit bundle header hread
    obtain ⟨reading⟩ := read_ok_iff.mp hread
    obtain ⟨i, hpassword, hsubmitted, hbundle, hheader⟩ :=
      produced_of_reading laws hideal hkdf hfresh reading
    refine ⟨i, ?_, hbundle, hheader⟩
    have hrest : reading.rest = [] := by
      by_contra hne
      exact htrailing ⟨i, reading.rest, hpassword, hne, reading.rest_lt, hsubmitted⟩
    rw [hrest, List.append_nil] at hsubmitted
    exact hsubmitted

end Integrity

/-! ## Section 5: One archive -/

/-- Every byte after a one, and a zero at the end. -/
def markedEncode (bytes : Bytes) : Bytes := bytes.flatMap (fun byte => [1, byte]) ++ [0]

def markedDecode : Bytes → Except String Bytes
  | [0] => .ok []
  | 1 :: byte :: rest => (markedDecode rest).map (byte :: ·)
  | _ => .error "corrupt deflate stream"

theorem markedDecode_markedEncode (bytes : Bytes) :
    markedDecode (markedEncode bytes) = .ok bytes := by
  induction bytes with
  | nil => rfl
  | cons byte bytes ih =>
    change (markedDecode (markedEncode bytes)).map (byte :: ·) = _
    rw [ih]
    rfl

theorem markedDecode_cut {front bytes : Bytes} (hfront : front <+: markedEncode bytes)
    (hne : front ≠ markedEncode bytes) : ∃ error, markedDecode front = .error error := by
  -- induction on the bytes; a front ends before, inside or after the first mark
  induction bytes generalizing front with
  | nil =>
    rcases List.prefix_cons_iff.mp hfront with rfl | ⟨rest, rfl, hrest⟩
    · exact ⟨_, rfl⟩
    · exact absurd (congrArg (0 :: ·) (List.prefix_nil.mp hrest)) hne
  | cons byte bytes ih =>
    change front <+: 1 :: byte :: markedEncode bytes at hfront
    rcases List.prefix_cons_iff.mp hfront with rfl | ⟨rest, rfl, hrest⟩
    · exact ⟨_, rfl⟩
    rcases List.prefix_cons_iff.mp hrest with rfl | ⟨tail, rfl, htail⟩
    · exact ⟨_, rfl⟩
    obtain ⟨error, herror⟩ := ih htail fun heq => hne (congrArg (fun l => 1 :: byte :: l) heq)
    refine ⟨error, ?_⟩
    rw [markedDecode, herror]
    rfl

def sampleBundle : GatewayBackupBundlePayload Unit Unit Unit Unit where
  backupFormatVersion := gatewayBackupFormatVersion
  exportedAtUnixMs := 1
  gatewayVersion := "1"
  provenance := ()
  instanceId := "gateway"
  controlPlane := ()
  providerCredentials := []
  providerCredentialLeases := []
  managedEncryptionKeys := []
  metadata := ⟨[], [], [], [], {}⟩

def sampleArchiveRandomness : ArchiveRandomness := ⟨.replicate 16 3, .replicate 4 4⟩

def sampleArchiveKey : FixedBytes 32 := .replicate 32 6

/-- The one chunk of the archive: the payload of a bundle that is written as one byte. -/
def sampleChunk : Bytes := markedEncode [9]

def sampleArchiveTag : Bytes := List.replicate 16 5

/-- Small libraries, with a cipher that opens the one chunk of the archive. -/
def sampleBackupRuntime : BackupRuntime Unit Unit Unit Unit where
  argon2Params _ _ _ := .ok ()
  argon2id _ _ _ _ _ := .ok sampleArchiveKey
  encryptInPlace _ _ _ plaintext := some (plaintext ++ sampleArchiveTag)
  decryptInPlace key nonce aad sealed :=
    if key = sampleArchiveKey ∧ nonce = backupArchiveNonce sampleArchiveRandomness.noncePrefix 0 ∧
        aad = [7] ∧ sealed = sampleChunk ++ sampleArchiveTag then some sampleChunk
    else none
  base64Encode bytes := String.ofList (bytes.map Char.ofUInt8)
  base64Decode bytes :=
    match fromUtf8? bytes with
    | none => .error "Invalid symbol"
    | some text => .ok (text.toList.map Char.toUInt8)
  gzEncode := markedEncode
  gzDecode := markedDecode
  headerToVec _ := [7]
  headerFromSlice _ := .ok {
    backupFormatVersion := gatewayBackupFormatVersion
    exportedAtUnixMs := 1
    gatewayVersion := "1"
    provenance := ()
    instanceId := "gateway"
    filename := "a"
    compression := "gzip"
    encryption := "chacha20_poly1305"
    argon2MemoryKib := gatewayBackupKdfMemoryKib
    argon2Iterations := gatewayBackupKdfIterations
    argon2Parallelism := gatewayBackupKdfParallelism
    chunkPlaintextBytes := gatewayBackupChunkPlaintextBytes
    saltBase64 := String.ofList (List.replicate 16 (Char.ofUInt8 3))
    noncePrefixBase64 := String.ofList (List.replicate 4 (Char.ofUInt8 4)) }
  bundleToWriter _ := [9]
  bundleFromReader _ := .ok sampleBundle

theorem sampleBackupRuntime_base64 (bytes : Bytes) :
    sampleBackupRuntime.base64Decode (asBytes (sampleBackupRuntime.base64Encode bytes)) =
      .ok bytes := by
  have hbyte : ∀ byte : UInt8, (Char.ofUInt8 byte).toUInt8 = byte := by
    intro byte
    exact UInt8.ofNat_toNat
  simp only [sampleBackupRuntime, fromUtf8?_asBytes, String.toList_ofList, List.map_map]
  congr 1
  conv_rhs => rw [← List.map_id bytes]
  apply List.map_congr_left
  intro byte _
  exact hbyte byte

def sampleArchiveHeader : EncryptedBackupArchiveHeader Unit :=
  buildGatewayBackupArchiveHeader sampleBackupRuntime sampleArchiveRandomness sampleBundle "a"

def sampleArchive : Bytes :=
  archiveFront [7] ++ frameBytes (sampleChunk ++ sampleArchiveTag)

theorem sampleArchive_key :
    deriveBackupArchiveKey sampleBackupRuntime "password" sampleArchiveHeader =
      .ok sampleArchiveKey := by
  have hsalt : decodeBackupArchiveSalt sampleBackupRuntime sampleArchiveHeader =
      .ok sampleArchiveRandomness.salt := by
    unfold decodeBackupArchiveSalt
    rw [sampleArchiveHeader, buildGatewayBackupArchiveHeader, sampleBackupRuntime_base64]
    rfl
  exact except_bind_ok.mpr ⟨_, hsalt, rfl⟩

theorem sampleArchive_written :
    buildGatewayBackupArchiveFile sampleBackupRuntime sampleArchiveRandomness (fun _ => 8)
      sampleBundle "a" "password" =
        .ok (⟨sampleArchiveHeader, 0⟩, sampleArchive) := by
  -- one read gives the whole payload, and the next one gives nothing
  have hread : (⟨sampleChunk, fun _ => 8⟩ : ShortReader).read
      (max gatewayBackupChunkPlaintextBytes 1) = (sampleChunk, ⟨[], fun _ => 8⟩) := rfl
  have hend : encryptChunks sampleBackupRuntime sampleArchiveKey
      sampleArchiveRandomness.noncePrefix [7] gatewayBackupChunkPlaintextBytes 1
      ⟨[], fun _ => 8⟩ = .ok [] := by
    rw [encryptChunks]
    rfl
  have hchunks : encryptChunks sampleBackupRuntime sampleArchiveKey
      sampleArchiveRandomness.noncePrefix [7] gatewayBackupChunkPlaintextBytes 0
      ⟨sampleChunk, fun _ => 8⟩ = .ok (frameBytes (sampleChunk ++ sampleArchiveTag)) := by
    rw [encryptChunks, hread, if_neg (by decide)]
    have hnext : saturatingAddU64 0 1 = 1 := rfl
    simp only [sampleBackupRuntime]
    rw [if_neg (by decide), hnext]
    apply except_bind_ok.mpr
    exact ⟨[], hend, by rw [List.append_nil]⟩
  have hnonce : decodeBackupArchiveNoncePrefix sampleBackupRuntime sampleArchiveHeader =
      .ok sampleArchiveRandomness.noncePrefix := by
    unfold decodeBackupArchiveNoncePrefix
    rw [sampleArchiveHeader, buildGatewayBackupArchiveHeader, sampleBackupRuntime_base64]
    rfl
  apply except_bind_ok.mpr
  refine ⟨sampleArchive, ?_, rfl⟩
  apply except_bind_ok.mpr
  refine ⟨_, sampleArchive_key, ?_⟩
  apply except_bind_ok.mpr
  refine ⟨_, hnonce, ?_⟩
  apply except_bind_ok.mpr
  exact ⟨_, hchunks, rfl⟩

def sampleProduced (_ : Unit) : ProducedArchive sampleBackupRuntime where
  bundle := sampleBundle
  filename := "a"
  randomness := sampleArchiveRandomness
  limit _ := 8
  password := "password"
  result := ⟨sampleArchiveHeader, 0⟩
  archive := sampleArchive
  writes := sampleArchive_written
  payload_le := by decide

theorem sampleProduced_chunks : (sampleProduced ()).chunks = [sampleChunk] := by
  change ShortReader.reads ⟨sampleChunk, fun _ => 8⟩ (max gatewayBackupChunkPlaintextBytes 1) = _
  have hread : (⟨sampleChunk, fun _ => 8⟩ : ShortReader).read
      (max gatewayBackupChunkPlaintextBytes 1) = (sampleChunk, ⟨[], fun _ => 8⟩) := rfl
  have hend : ShortReader.reads ⟨[], fun _ => 8⟩ (max gatewayBackupChunkPlaintextBytes 1) = [] :=
    ShortReader.reads_of_nil rfl
  rw [ShortReader.reads_of_ne_nil (by rw [hread]; decide), hread, hend]

theorem sampleProduced_laws : ArchiveLaws sampleProduced where
  length_sealed := by
    intro key nonce aad plaintext sealed h
    cases h
    exact List.length_append
  base64_decodes := sampleBackupRuntime_base64
  header_decodes _ := rfl
  bundle_decodes _ := rfl
  gzip_decodes := markedDecode_markedEncode
  gzip_cut := markedDecode_cut

theorem sampleProduced_ideal (password : String) : IdealArchiveAead sampleProduced password := by
  intro header key nonce aad sealed plaintext hkey
  obtain ⟨salt, -, hargon⟩ := except_bind_ok.mp hkey
  obtain rfl : sampleArchiveKey = key := Except.ok.inj hargon
  constructor
  · intro hopened
    simp only [sampleBackupRuntime] at hopened
    split_ifs at hopened with hchunk
    obtain ⟨-, rfl, rfl, rfl⟩ := hchunk
    obtain rfl := Option.some.inj hopened
    refine ⟨(), ⟨sampleArchive_key, rfl, 0, ?_, rfl⟩, rfl⟩
    rw [sampleProduced_chunks]
    rfl
  · rintro ⟨i, ⟨_, haad, k, hchunk, hnonce⟩, hsealed⟩
    rw [sampleProduced_chunks] at hchunk
    obtain ⟨hlt, hget⟩ := List.getElem?_eq_some_iff.mp hchunk
    obtain rfl : k = 0 := Nat.lt_one_iff.mp hlt
    obtain rfl : sampleChunk = plaintext := hget
    obtain rfl : sampleChunk ++ sampleArchiveTag = sealed := Option.some.inj hsealed
    exact if_pos ⟨rfl, hnonce, haad, rfl⟩

theorem sampleProduced_kdf : KdfInjective sampleProduced "password" :=
  fun _ _ => rfl

theorem sampleProduced_fresh :
    Function.Injective fun i => (sampleProduced i).randomness.salt :=
  fun _ _ _ => rfl

theorem archiveIntact_sample :
    ArchivesReadBack sampleProduced "password" ∧
      (ArchiveIntact sampleProduced "password" sampleArchive ↔
        ¬ TrailingBytes sampleProduced "password" sampleArchive) :=
  archiveIntact_iff sampleProduced_laws (sampleProduced_ideal _) sampleProduced_kdf
    sampleProduced_fresh sampleArchive

/-- One byte after the archive, and it is accepted. -/
theorem trailing_byte_accepted :
    ArchiveLaws sampleProduced ∧ IdealArchiveAead sampleProduced "password" ∧
      KdfInjective sampleProduced "password" ∧
      (Function.Injective fun i => (sampleProduced i).randomness.salt) ∧
      ¬ ArchiveIntact sampleProduced "password" (sampleArchive ++ [0]) := by
  refine ⟨sampleProduced_laws, sampleProduced_ideal _, sampleProduced_kdf, sampleProduced_fresh,
    ?_⟩
  intro hintact
  have hread := @read_produced_append _ _ _ _ _ _ _ sampleProduced_laws ()
    (sampleProduced_ideal _) [0] (by decide) "" fun _ => 0
  obtain ⟨i, harchive, -, -⟩ := hintact _ _ _ _ hread
  have hlength := congrArg List.length harchive
  rw [List.length_append] at hlength
  exact absurd hlength (Nat.succ_ne_self _)

end Netdisk2Blob.Backup
