import Netdisk2Blob.Blob.Core
import Netdisk2Blob.Library.Text

/-!
# The Encrypted Object Envelope

Requests, metadata and the header of an encrypted object.

## Contents

- `EncryptRequest.plannedMetadata`: what a request is checked for and how the stored size
  is computed; `plannedMetadata_ok_iff` says when it succeeds and with what
- `buildEnvelopeHeader`, and `parseFixedHeader` with `parseVariableHeader`: the encoder and
  the decoder of the header
- `EnvelopeHeader`: the fields of a header and the one place where their order is stated;
  the encoder writes such headers (`buildEnvelopeHeader_eq`) and the decoder accepts
  the well-formed ones and no others (`parse_bytes`, `parse_ok`)
-/

namespace Netdisk2Blob.ObjectCrypto

open Library Text Blob

/-! ## Section 1: Algorithms, requests, metadata -/

def envelopeMagic : Bytes := [0x43, 0x43, 0x42, 0x47, 0x45, 0x4e, 0x43, 0x31]

def envelopeFixedHeaderLen : Nat := 50

def aeadTagLen : Nat := 16

def dataKeyLen : Nat := 32

inductive AlgorithmPreference where
  | auto
  | aes256Gcm
  | chaCha20Poly1305
  deriving DecidableEq, Repr

inductive RuntimeAlgorithm where
  | aes256Gcm
  | chaCha20Poly1305
  deriving DecidableEq, Repr

inductive CryptoError where
  | invalidRequest (message : String)
  | invalidObject (message : String)
  | bodyStream (message : String)
  | keyWrap (message : String)
  | keyUnwrap (message : String)
  deriving DecidableEq, Repr

/-- The `Display` text. -/
def CryptoError.display : CryptoError → String
  | invalidRequest message => s!"invalid encryption request: {message}"
  | invalidObject message => s!"invalid encrypted object: {message}"
  | bodyStream message => s!"failed to read encrypted stream: {message}"
  | keyWrap message => s!"failed to wrap object key: {message}"
  | keyUnwrap message => s!"failed to unwrap object key: {message}"

/-- What the crate takes from outside: the CPU features, the text of a UTF-8 error and the
two AEAD ciphers, which work on a buffer and a detached tag. -/
structure CryptoRuntime where
  autoRuntimeAlgorithm : RuntimeAlgorithm
  utf8ErrorText : Bytes → String
  encryptDetached : RuntimeAlgorithm → FixedBytes 32 → FixedBytes 12 → Bytes → Bytes →
    Option (Bytes × FixedBytes 16)
  decryptDetached : RuntimeAlgorithm → FixedBytes 32 → FixedBytes 12 → Bytes → Bytes →
    FixedBytes 16 → Option Bytes

namespace RuntimeAlgorithm

def id : RuntimeAlgorithm → UInt8
  | aes256Gcm => 1
  | chaCha20Poly1305 => 2

def fromId (value : UInt8) : Except CryptoError RuntimeAlgorithm :=
  if value = 1 then .ok aes256Gcm
  else if value = 2 then .ok chaCha20Poly1305
  else .error (.invalidObject s!"unsupported encrypted object algorithm id: {value.toNat}")

def asStr : RuntimeAlgorithm → String
  | aes256Gcm => "aes_256_gcm"
  | chaCha20Poly1305 => "chacha20_poly1305"

/-- The preference that asks for the algorithm. -/
def preference : RuntimeAlgorithm → AlgorithmPreference
  | aes256Gcm => .aes256Gcm
  | chaCha20Poly1305 => .chaCha20Poly1305

theorem fromId_eq_ok {value : UInt8} {algorithm : RuntimeAlgorithm} :
    fromId value = .ok algorithm ↔ algorithm.id = value := by
  unfold fromId
  constructor
  · intro h
    split_ifs at h with h1 h2
    · cases h
      exact h1.symm
    · cases h
      exact h2.symm
  · rintro rfl
    cases algorithm <;> rfl

end RuntimeAlgorithm

structure EncryptRequest where
  profileId : String
  keyId : String
  algorithmPreference : AlgorithmPreference
  chunkPlaintextBytes : Nat
  plaintextSize : Nat
  logicalContentType : Option String
  deriving DecidableEq, Repr

structure EncryptedObjectMetadata where
  profileId : String
  keyId : String
  algorithm : RuntimeAlgorithm
  chunkPlaintextBytes : Nat
  plaintextSize : Nat
  storedSize : Nat
  logicalContentType : Option String
  deriving DecidableEq, Repr

/-! ## Section 2: Planned metadata -/

def validateEncryptRequest (request : EncryptRequest) : Except CryptoError Unit :=
  if trim request.profileId = "" then
    .error (.invalidRequest "profile_id must not be empty")
  else if trim request.keyId = "" then
    .error (.invalidRequest "key_id must not be empty")
  else if request.chunkPlaintextBytes = 0 then
    .error (.invalidRequest "chunk_plaintext_bytes must be greater than zero")
  else if request.chunkPlaintextBytes > u32Max then
    .error (.invalidRequest
      s!"chunk_plaintext_bytes {request.chunkPlaintextBytes} exceeds u32::MAX")
  else if (asBytes (trim request.profileId)).length > u16Max then
    .error (.invalidRequest
      s!"profile_id is too long: {(asBytes (trim request.profileId)).length} bytes")
  else if (asBytes (trim request.keyId)).length > u16Max then
    .error (.invalidRequest
      s!"key_id is too long: {(asBytes (trim request.keyId)).length} bytes")
  else if (asBytes (request.logicalContentType.getD "")).length > u16Max then
    .error (.invalidRequest "logical_content_type is too long")
  else .ok ()

def normalizeOptionalString (value : Option String) : Option String :=
  value.bind (fun value => if trim value = "" then none else some (trim value))

def chooseRuntimeAlgorithm (runtime : CryptoRuntime) : AlgorithmPreference → RuntimeAlgorithm
  | .auto => runtime.autoRuntimeAlgorithm
  | .aes256Gcm => .aes256Gcm
  | .chaCha20Poly1305 => .chaCha20Poly1305

def chunkCount (plaintextSize chunkPlaintextBytes : Nat) : Nat :=
  if plaintextSize = 0 then 0 else (plaintextSize - 1) / chunkPlaintextBytes + 1

def envelopeHeaderLen (request : EncryptRequest) : Except CryptoError Nat :=
  match validateEncryptRequest request with
  | .error error => .error error
  | .ok () =>
    .ok (envelopeFixedHeaderLen + (asBytes (trim request.keyId)).length +
      (asBytes (trim request.profileId)).length +
      (((request.logicalContentType.map trim).filter (fun value => value ≠ "")).map
        (fun value => (asBytes value).length)).getD 0 +
      dataKeyLen + aeadTagLen)

def EncryptRequest.plannedMetadata (runtime : CryptoRuntime) (request : EncryptRequest) :
    Except CryptoError EncryptedObjectMetadata :=
  match validateEncryptRequest request with
  | .error error => .error error
  | .ok () =>
    match envelopeHeaderLen request with
    | .error error => .error error
    | .ok headerLen =>
      match checkedMulU64 (chunkCount request.plaintextSize request.chunkPlaintextBytes)
          (4 + aeadTagLen) with
      | none =>
        .error (.invalidRequest
          s!"object size {request.plaintextSize} with chunk size {request.chunkPlaintextBytes} overflows encrypted envelope sizing")
      | some chunkOverhead =>
        match (checkedAddU64 headerLen request.plaintextSize).bind
            (fun value => checkedAddU64 value chunkOverhead) with
        | none =>
          .error (.invalidRequest
            s!"object size {request.plaintextSize} with chunk size {request.chunkPlaintextBytes} overflows stored size accounting")
        | some storedSize =>
          .ok
            { profileId := request.profileId
              keyId := request.keyId
              algorithm := chooseRuntimeAlgorithm runtime request.algorithmPreference
              chunkPlaintextBytes := request.chunkPlaintextBytes
              plaintextSize := request.plaintextSize
              storedSize := storedSize
              logicalContentType := normalizeOptionalString request.logicalContentType }

namespace EncryptRequest

/-- The logical content type as the header carries it, empty when there is none. -/
def contentTypeText (request : EncryptRequest) : String :=
  (normalizeOptionalString request.logicalContentType).getD ""

/-- The header length of a valid request. -/
def headerLen (request : EncryptRequest) : Nat :=
  50 + (asBytes (trim request.keyId)).length + (asBytes (trim request.profileId)).length +
    (asBytes request.contentTypeText).length + 48

def storedSize (request : EncryptRequest) : Nat :=
  request.headerLen + request.plaintextSize +
    chunkCount request.plaintextSize request.chunkPlaintextBytes * 20

/-- What `planned_metadata` asks of a request. -/
structure Accepted (request : EncryptRequest) : Prop where
  profileId_ne : trim request.profileId ≠ ""
  keyId_ne : trim request.keyId ≠ ""
  chunk_pos : 0 < request.chunkPlaintextBytes
  chunk_le : request.chunkPlaintextBytes ≤ u32Max
  profileId_le : (asBytes (trim request.profileId)).length ≤ u16Max
  keyId_le : (asBytes (trim request.keyId)).length ≤ u16Max
  contentType_le : (asBytes (request.logicalContentType.getD "")).length ≤ u16Max
  storedSize_le : request.storedSize ≤ u64Max

/-- The metadata of an accepted request. -/
def metadata (runtime : CryptoRuntime) (request : EncryptRequest) : EncryptedObjectMetadata where
  profileId := request.profileId
  keyId := request.keyId
  algorithm := chooseRuntimeAlgorithm runtime request.algorithmPreference
  chunkPlaintextBytes := request.chunkPlaintextBytes
  plaintextSize := request.plaintextSize
  storedSize := request.storedSize
  logicalContentType := normalizeOptionalString request.logicalContentType

end EncryptRequest

section Planned

variable {runtime : CryptoRuntime} {request : EncryptRequest}

theorem validateEncryptRequest_ok_iff :
    validateEncryptRequest request = .ok () ↔
      trim request.profileId ≠ "" ∧ trim request.keyId ≠ "" ∧
      0 < request.chunkPlaintextBytes ∧ request.chunkPlaintextBytes ≤ u32Max ∧
      (asBytes (trim request.profileId)).length ≤ u16Max ∧
      (asBytes (trim request.keyId)).length ≤ u16Max ∧
      (asBytes (request.logicalContentType.getD "")).length ≤ u16Max := by
  unfold validateEncryptRequest
  constructor
  · intro h
    split_ifs at h with h1 h2 h3 h4 h5 h6 h7
    exact ⟨h1, h2, by omega, by omega, by omega, by omega, by omega⟩
  · rintro ⟨h1, h2, h3, h4, h5, h6, h7⟩
    rw [if_neg h1, if_neg h2, if_neg (by omega), if_neg (by omega), if_neg (by omega),
      if_neg (by omega), if_neg (by omega)]

/-- The two ways to read the content type of a request agree. -/
theorem contentType_length :
    (((request.logicalContentType.map trim).filter (fun value => value ≠ "")).map
      (fun value => (asBytes value).length)).getD 0 =
      (asBytes request.contentTypeText).length := by
  unfold EncryptRequest.contentTypeText normalizeOptionalString
  cases request.logicalContentType with
  | none => rfl
  | some value =>
    by_cases hempty : trim value = ""
    · simp [hempty, Option.filter, asBytes_eq_nil.mpr]
    · simp [hempty, Option.filter]

theorem envelopeHeaderLen_eq (h : validateEncryptRequest request = .ok ()) :
    envelopeHeaderLen request = .ok request.headerLen := by
  unfold envelopeHeaderLen EncryptRequest.headerLen
  rw [h]
  simp only [contentType_length, envelopeFixedHeaderLen, dataKeyLen, aeadTagLen, Nat.add_assoc]

/-- `planned_metadata` succeeds on the accepted requests, with their metadata. -/
theorem plannedMetadata_ok_iff {planned : EncryptedObjectMetadata} :
    request.plannedMetadata runtime = .ok planned ↔
      request.Accepted ∧ planned = request.metadata runtime := by
  unfold EncryptRequest.plannedMetadata
  cases hvalid : validateEncryptRequest request with
  | error error =>
    constructor
    · intro h
      cases h
    · rintro ⟨⟨h1, h2, h3, h4, h5, h6, h7, -⟩, -⟩
      rw [validateEncryptRequest_ok_iff.mpr ⟨h1, h2, h3, h4, h5, h6, h7⟩] at hvalid
      cases hvalid
  | ok valid =>
    rw [envelopeHeaderLen_eq hvalid]
    have hfields := validateEncryptRequest_ok_iff.mp hvalid
    have hsize : request.storedSize = request.headerLen + request.plaintextSize +
        chunkCount request.plaintextSize request.chunkPlaintextBytes * 20 := rfl
    constructor
    · intro h
      simp only at h
      split at h
      · cases h
      · rename_i overhead hmul
        split at h
        · cases h
        · rename_i stored hadd
          obtain ⟨-, rfl⟩ := checkedMulU64_eq_some.mp hmul
          obtain ⟨value, hvalue, hstored⟩ := Option.bind_eq_some_iff.mp hadd
          obtain ⟨-, rfl⟩ := checkedAddU64_eq_some.mp hvalue
          obtain ⟨hle, rfl⟩ := checkedAddU64_eq_some.mp hstored
          obtain ⟨h1, h2, h3, h4, h5, h6, h7⟩ := hfields
          exact ⟨⟨h1, h2, h3, h4, h5, h6, h7, hsize ▸ hle⟩, (Except.ok.inj h).symm⟩
    · rintro ⟨haccepted, rfl⟩
      have hle := haccepted.storedSize_le
      rw [hsize] at hle
      have hmul : checkedMulU64 (chunkCount request.plaintextSize request.chunkPlaintextBytes)
          (4 + aeadTagLen) =
          some (chunkCount request.plaintextSize request.chunkPlaintextBytes * 20) :=
        checkedMulU64_eq_some.mpr ⟨by simp only [aeadTagLen]; omega, rfl⟩
      have hadd : checkedAddU64 request.headerLen request.plaintextSize =
          some (request.headerLen + request.plaintextSize) :=
        checkedAddU64_eq_some.mpr ⟨by omega, rfl⟩
      have hadd' : checkedAddU64 (request.headerLen + request.plaintextSize)
          (chunkCount request.plaintextSize request.chunkPlaintextBytes * 20) =
          some request.storedSize :=
        checkedAddU64_eq_some.mpr ⟨hle, hsize⟩
      simp only [hmul, hadd, Option.bind_some, hadd']
      rfl

end Planned

/-! ## Section 3: Encoding and decoding the header -/

/-- `u32::try_from(value)?.to_be_bytes()`. -/
def beBytesU32 (value : Nat) (message : String) : Except CryptoError Bytes :=
  if value ≤ u32Max then .ok (beBytes 4 value) else .error (.invalidRequest message)

/-- `u16::try_from(value)?.to_be_bytes()`. -/
def beBytesU16 (value : Nat) (message : String) : Except CryptoError Bytes :=
  if value ≤ u16Max then .ok (beBytes 2 value) else .error (.invalidRequest message)

theorem beBytesU32_of_le {value : Nat} {message : String} (h : value ≤ u32Max) :
    beBytesU32 value message = .ok (beBytes 4 value) := by
  rw [beBytesU32, if_pos h]

theorem beBytesU16_of_le {value : Nat} {message : String} (h : value ≤ u16Max) :
    beBytesU16 value message = .ok (beBytes 2 value) := by
  rw [beBytesU16, if_pos h]

def buildEnvelopeHeader (request : EncryptRequest) (metadata : EncryptedObjectMetadata)
    (wrappedDataKey : Bytes) (keyWrapNonce : FixedBytes 12) (chunkNoncePrefix : FixedBytes 4) :
    Except CryptoError Bytes := do
  let profileId := asBytes (trim request.profileId)
  let keyId := asBytes (trim request.keyId)
  let logicalContentType := asBytes (metadata.logicalContentType.getD "")
  let headerLen ← envelopeHeaderLen request
  let headerLenBytes ← beBytesU32 headerLen "header length overflow"
  let keyIdLen ← beBytesU16 keyId.length "key_id length overflow"
  let profileIdLen ← beBytesU16 profileId.length "profile_id length overflow"
  let contentTypeLen ←
    beBytesU16 logicalContentType.length "logical_content_type length overflow"
  let wrappedKeyLen ← beBytesU16 wrappedDataKey.length "wrapped key length overflow"
  let chunkSize ← beBytesU32 metadata.chunkPlaintextBytes "chunk size overflow"
  return envelopeMagic ++ headerLenBytes ++ [metadata.algorithm.id] ++ [0] ++ keyIdLen ++
    profileIdLen ++ contentTypeLen ++ wrappedKeyLen ++ chunkSize ++
    beBytes 8 metadata.plaintextSize ++ chunkNoncePrefix.bytes ++ keyWrapNonce.bytes ++
    keyId ++ profileId ++ logicalContentType ++ wrappedDataKey

/-- The fields of the fixed part of a header. -/
structure FixedHeader where
  headerLen : Nat
  algorithm : RuntimeAlgorithm
  keyIdLen : Nat
  profileIdLen : Nat
  contentTypeLen : Nat
  wrappedKeyLen : Nat
  chunkPlaintextBytes : Nat
  plaintextSize : Nat
  chunkNoncePrefix : FixedBytes 4
  keyWrapNonce : FixedBytes 12

structure ParsedEnvelopeHeader where
  metadata : EncryptedObjectMetadata
  keyWrapNonce : FixedBytes 12
  chunkNoncePrefix : FixedBytes 4
  wrappedDataKey : Bytes
  headerBytes : Bytes

/-- The first half of `read_envelope_header`, on the first fifty bytes. -/
def parseFixedHeader (fixed : FixedBytes 50) : Except CryptoError FixedHeader :=
  if (fixed.slice 0 8 (by decide)).bytes ≠ envelopeMagic then
    .error (.invalidObject "missing CCBGENC1 envelope header")
  else
    let headerLen := ofBeBytes (fixed.slice 8 12 (by decide)).bytes
    if headerLen < envelopeFixedHeaderLen then
      .error (.invalidObject
        s!"encrypted object header length {headerLen} is smaller than fixed prefix {envelopeFixedHeaderLen}")
    else
      match RuntimeAlgorithm.fromId (fixed.get 12 (by decide)) with
      | .error error => .error error
      | .ok algorithm =>
        .ok
          { headerLen := headerLen
            algorithm := algorithm
            keyIdLen := ofBeBytes (fixed.slice 14 16 (by decide)).bytes
            profileIdLen := ofBeBytes (fixed.slice 16 18 (by decide)).bytes
            contentTypeLen := ofBeBytes (fixed.slice 18 20 (by decide)).bytes
            wrappedKeyLen := ofBeBytes (fixed.slice 20 22 (by decide)).bytes
            chunkPlaintextBytes := ofBeBytes (fixed.slice 22 26 (by decide)).bytes
            plaintextSize := ofBeBytes (fixed.slice 26 34 (by decide)).bytes
            chunkNoncePrefix := fixed.slice 34 38 (by decide)
            keyWrapNonce := fixed.slice 38 50 (by decide) }

/-- The UTF-8 check of a header field. -/
def utf8Field (runtime : CryptoRuntime) (name : String) (bytes : Bytes) :
    Except CryptoError String :=
  match fromUtf8? bytes with
  | some value => .ok value
  | none =>
    .error (.invalidObject s!"{name} is not valid UTF-8: {runtime.utf8ErrorText bytes}")

/-- The content type of a header; no bytes are no content type. -/
def contentTypeField (runtime : CryptoRuntime) (bytes : Bytes) :
    Except CryptoError (Option String) :=
  if bytes.length = 0 then .ok none
  else (utf8Field runtime "logical_content_type" bytes).map (fun value => some (trim value))

/-- The second half of `read_envelope_header`, on the rest of the header. -/
def parseVariableHeader (runtime : CryptoRuntime) (fixed : FixedBytes 50)
    (fields : FixedHeader) (variableBytes : Bytes) : Except CryptoError ParsedEnvelopeHeader :=
  let expected :=
    fields.keyIdLen + fields.profileIdLen + fields.contentTypeLen + fields.wrappedKeyLen
  if variableBytes.length ≠ expected then
    .error (.invalidObject
      s!"header payload length {variableBytes.length} does not match encoded field sizes {expected}")
  else do
    let keyIdEnd := fields.keyIdLen
    let profileIdEnd := keyIdEnd + fields.profileIdLen
    let contentTypeEnd := profileIdEnd + fields.contentTypeLen
    let wrappedKeyEnd := contentTypeEnd + fields.wrappedKeyLen
    let keyId ← utf8Field runtime "key_id" (variableBytes.take keyIdEnd)
    let profileId ←
      utf8Field runtime "profile_id" ((variableBytes.take profileIdEnd).drop keyIdEnd)
    let logicalContentType ←
      contentTypeField runtime ((variableBytes.take contentTypeEnd).drop profileIdEnd)
    let wrappedDataKey := (variableBytes.take wrappedKeyEnd).drop contentTypeEnd
    if wrappedDataKey.length < aeadTagLen then
      .error (.invalidObject "wrapped data key is too short")
    else do
      let request : EncryptRequest :=
        { profileId := profileId
          keyId := keyId
          algorithmPreference := fields.algorithm.preference
          chunkPlaintextBytes := fields.chunkPlaintextBytes
          plaintextSize := fields.plaintextSize
          logicalContentType := logicalContentType }
      let metadata ← request.plannedMetadata runtime
      return { metadata := metadata
               keyWrapNonce := fields.keyWrapNonce
               chunkNoncePrefix := fields.chunkNoncePrefix
               wrappedDataKey := wrappedDataKey
               headerBytes := fixed.bytes ++ variableBytes }

/-! ## Section 4: The layout -/

/-- The fields of a header, in their order; no content type is the empty text. -/
structure EnvelopeHeader where
  algorithm : RuntimeAlgorithm
  reserved : UInt8
  chunkPlaintextBytes : Nat
  plaintextSize : Nat
  chunkNoncePrefix : FixedBytes 4
  keyWrapNonce : FixedBytes 12
  keyId : String
  profileId : String
  contentType : String
  wrappedDataKey : Bytes

namespace EnvelopeHeader

def variableBytes (header : EnvelopeHeader) : Bytes :=
  asBytes header.keyId ++ (asBytes header.profileId ++
    (asBytes header.contentType ++ header.wrappedDataKey))

/-- The slots of the fixed part. -/
def fixedPieces (header : EnvelopeHeader) : List Bytes :=
  [envelopeMagic,
   beBytes 4 (50 + header.variableBytes.length),
   [header.algorithm.id],
   [header.reserved],
   beBytes 2 (asBytes header.keyId).length,
   beBytes 2 (asBytes header.profileId).length,
   beBytes 2 (asBytes header.contentType).length,
   beBytes 2 header.wrappedDataKey.length,
   beBytes 4 header.chunkPlaintextBytes,
   beBytes 8 header.plaintextSize,
   header.chunkNoncePrefix.bytes,
   header.keyWrapNonce.bytes]

def fixed (header : EnvelopeHeader) : FixedBytes 50 :=
  ⟨header.fixedPieces.flatten, by simp [fixedPieces, envelopeMagic]⟩

def bytes (header : EnvelopeHeader) : Bytes := header.fixed.bytes ++ header.variableBytes

def fields (header : EnvelopeHeader) : FixedHeader where
  headerLen := 50 + header.variableBytes.length
  algorithm := header.algorithm
  keyIdLen := (asBytes header.keyId).length
  profileIdLen := (asBytes header.profileId).length
  contentTypeLen := (asBytes header.contentType).length
  wrappedKeyLen := header.wrappedDataKey.length
  chunkPlaintextBytes := header.chunkPlaintextBytes
  plaintextSize := header.plaintextSize
  chunkNoncePrefix := header.chunkNoncePrefix
  keyWrapNonce := header.keyWrapNonce

/-- The request that a header describes. -/
def request (header : EnvelopeHeader) : EncryptRequest where
  profileId := header.profileId
  keyId := header.keyId
  algorithmPreference := header.algorithm.preference
  chunkPlaintextBytes := header.chunkPlaintextBytes
  plaintextSize := header.plaintextSize
  logicalContentType :=
    if header.contentType = "" then none else some (trim header.contentType)

def parsed (runtime : CryptoRuntime) (header : EnvelopeHeader) : ParsedEnvelopeHeader where
  metadata := header.request.metadata runtime
  keyWrapNonce := header.keyWrapNonce
  chunkNoncePrefix := header.chunkNoncePrefix
  wrappedDataKey := header.wrappedDataKey
  headerBytes := header.bytes

/-- The fields fit their slots and describe a request that `planned_metadata` accepts. -/
structure WellFormed (header : EnvelopeHeader) : Prop where
  keyId_le : (asBytes header.keyId).length ≤ u16Max
  profileId_le : (asBytes header.profileId).length ≤ u16Max
  contentType_le : (asBytes header.contentType).length ≤ u16Max
  wrappedDataKey_ge : aeadTagLen ≤ header.wrappedDataKey.length
  wrappedDataKey_le : header.wrappedDataKey.length ≤ u16Max
  accepted : header.request.Accepted

variable {runtime : CryptoRuntime} {header : EnvelopeHeader}

theorem fixed_bytes (header : EnvelopeHeader) :
    header.fixed.bytes = header.fixedPieces.flatten := rfl

theorem length_variableBytes (header : EnvelopeHeader) :
    header.variableBytes.length = (asBytes header.keyId).length +
      (asBytes header.profileId).length + (asBytes header.contentType).length +
      header.wrappedDataKey.length := by
  simp only [variableBytes, List.length_append]
  omega

theorem WellFormed.plaintextSize_le (h : header.WellFormed) : header.plaintextSize ≤ u64Max := by
  have hle := h.accepted.storedSize_le
  have hsize : header.request.plaintextSize = header.plaintextSize := rfl
  simp only [EncryptRequest.storedSize, hsize] at hle
  omega

/-- A slice of the fixed part at the bounds of its `k`-th slot. -/
theorem slice_fixed {i j : Nat} {piece : Bytes} (k : Nat) (hj : j ≤ 50)
    (hk : header.fixedPieces[k]? = some piece)
    (hi : (header.fixedPieces.take k).flatten.length = i) (hlen : i + piece.length = j) :
    (header.fixed.slice i j hj).bytes = piece :=
  FixedBytes.slice_piece k hj rfl hk hi hlen

theorem headerLen_le (h : header.WellFormed) : 50 + header.variableBytes.length ≤ u32Max := by
  have hkey := h.keyId_le
  have hprofile := h.profileId_le
  have hcontent := h.contentType_le
  have hwrapped := h.wrappedDataKey_le
  rw [length_variableBytes]
  simp only [u16Max, u32Max] at *
  omega

/-- Every slot of a well-formed header reads back as its field. -/
theorem parseFixedHeader_fixed (h : header.WellFormed) :
    parseFixedHeader header.fixed = .ok header.fields := by
  have hmagic : (header.fixed.slice 0 8 (by decide)).bytes = envelopeMagic :=
    slice_fixed 0 _ rfl rfl rfl
  have hlen : ofBeBytes (header.fixed.slice 8 12 (by decide)).bytes =
      50 + header.variableBytes.length := by
    rw [slice_fixed 1 _ rfl (by simp [fixedPieces, envelopeMagic]) (by simp),
      ofBeBytes_beBytes_u32 (headerLen_le h)]
  have halgorithm : header.fixed.get 12 (by decide) = header.algorithm.id := by
    have hslice := @slice_fixed header 12 13 [header.algorithm.id] 2 (by decide) rfl
      (by simp [fixedPieces, envelopeMagic]) rfl
    rw [FixedBytes.slice_succ] at hslice
    exact (List.cons.inj hslice).1
  have hkey : ofBeBytes (header.fixed.slice 14 16 (by decide)).bytes =
      (asBytes header.keyId).length := by
    rw [slice_fixed 4 _ rfl (by simp [fixedPieces, envelopeMagic]) (by simp),
      ofBeBytes_beBytes_u16 h.keyId_le]
  have hprofile : ofBeBytes (header.fixed.slice 16 18 (by decide)).bytes =
      (asBytes header.profileId).length := by
    rw [slice_fixed 5 _ rfl (by simp [fixedPieces, envelopeMagic]) (by simp),
      ofBeBytes_beBytes_u16 h.profileId_le]
  have hcontent : ofBeBytes (header.fixed.slice 18 20 (by decide)).bytes =
      (asBytes header.contentType).length := by
    rw [slice_fixed 6 _ rfl (by simp [fixedPieces, envelopeMagic]) (by simp),
      ofBeBytes_beBytes_u16 h.contentType_le]
  have hwrapped : ofBeBytes (header.fixed.slice 20 22 (by decide)).bytes =
      header.wrappedDataKey.length := by
    rw [slice_fixed 7 _ rfl (by simp [fixedPieces, envelopeMagic]) (by simp),
      ofBeBytes_beBytes_u16 h.wrappedDataKey_le]
  have hchunkLe : header.chunkPlaintextBytes ≤ u32Max := h.accepted.chunk_le
  have hchunk : ofBeBytes (header.fixed.slice 22 26 (by decide)).bytes =
      header.chunkPlaintextBytes := by
    rw [slice_fixed 8 _ rfl (by simp [fixedPieces, envelopeMagic]) (by simp),
      ofBeBytes_beBytes_u32 hchunkLe]
  have hsize : ofBeBytes (header.fixed.slice 26 34 (by decide)).bytes =
      header.plaintextSize := by
    rw [slice_fixed 9 _ rfl (by simp [fixedPieces, envelopeMagic]) (by simp),
      ofBeBytes_beBytes_u64 h.plaintextSize_le]
  have hlead : header.fixed.slice 34 38 (by decide) = header.chunkNoncePrefix :=
    FixedBytes.ext (slice_fixed 10 _ rfl (by simp [fixedPieces, envelopeMagic]) (by simp))
  have hnonce : header.fixed.slice 38 50 (by decide) = header.keyWrapNonce :=
    FixedBytes.ext (slice_fixed 11 _ rfl (by simp [fixedPieces, envelopeMagic]) (by simp))
  unfold parseFixedHeader
  rw [if_neg (not_not.mpr hmagic), hlen, halgorithm, RuntimeAlgorithm.fromId_eq_ok.mpr rfl,
    hkey, hprofile, hcontent, hwrapped, hchunk, hsize, hlead, hnonce]
  simp only
  rw [if_neg (by simp only [envelopeFixedHeaderLen]; omega)]
  rfl

theorem utf8Field_eq_ok {name value : String} {bytes : Bytes} :
    utf8Field runtime name bytes = .ok value ↔ asBytes value = bytes := by
  rw [← fromUtf8?_eq_some]
  unfold utf8Field
  cases fromUtf8? bytes <;> simp

theorem contentTypeField_eq_ok {bytes : Bytes} {value : Option String} :
    contentTypeField runtime bytes = .ok value ↔
      ∃ text, asBytes text = bytes ∧ value = if text = "" then none else some (trim text) := by
  unfold contentTypeField
  constructor
  · intro h
    split_ifs at h with hempty
    · cases h
      exact ⟨"", (List.length_eq_zero_iff.mp hempty).symm, (if_pos rfl).symm⟩
    · cases hfield : utf8Field runtime "logical_content_type" bytes with
      | error error =>
        rw [hfield] at h
        cases h
      | ok text =>
        rw [hfield] at h
        cases h
        have htext : asBytes text = bytes := utf8Field_eq_ok.mp hfield
        refine ⟨text, htext, (if_neg ?_).symm⟩
        rintro rfl
        exact hempty (by rw [← htext]; rfl)
  · rintro ⟨text, rfl, rfl⟩
    by_cases hempty : text = ""
    · rw [hempty]
      rfl
    · have hne : (asBytes text).length ≠ 0 := by
        rw [Ne, List.length_eq_zero_iff, asBytes_eq_nil]
        exact hempty
      rw [if_neg hne, if_neg hempty, utf8Field_eq_ok.mpr rfl]
      rfl

/-- The request that the parts of a header describe. -/
def requestOf (fields : FixedHeader) (keyId profileId contentType : String) :
    EncryptRequest where
  profileId := profileId
  keyId := keyId
  algorithmPreference := fields.algorithm.preference
  chunkPlaintextBytes := fields.chunkPlaintextBytes
  plaintextSize := fields.plaintextSize
  logicalContentType := if contentType = "" then none else some (trim contentType)

/-- What the second half of the decoder asks for, and what it returns. -/
theorem parseVariableHeader_ok_iff {fixed : FixedBytes 50} {fields : FixedHeader}
    {variableBytes : Bytes} {parsed : ParsedEnvelopeHeader} :
    parseVariableHeader runtime fixed fields variableBytes = .ok parsed ↔
      variableBytes.length = fields.keyIdLen + fields.profileIdLen + fields.contentTypeLen +
        fields.wrappedKeyLen ∧
      ∃ keyId profileId contentType,
        asBytes keyId = variableBytes.take fields.keyIdLen ∧
        asBytes profileId =
          (variableBytes.take (fields.keyIdLen + fields.profileIdLen)).drop fields.keyIdLen ∧
        asBytes contentType =
          (variableBytes.take (fields.keyIdLen + fields.profileIdLen +
            fields.contentTypeLen)).drop (fields.keyIdLen + fields.profileIdLen) ∧
        aeadTagLen ≤ ((variableBytes.take (fields.keyIdLen + fields.profileIdLen +
          fields.contentTypeLen + fields.wrappedKeyLen)).drop (fields.keyIdLen +
            fields.profileIdLen + fields.contentTypeLen)).length ∧
        (requestOf fields keyId profileId contentType).Accepted ∧
        parsed =
          { metadata := (requestOf fields keyId profileId contentType).metadata runtime
            keyWrapNonce := fields.keyWrapNonce
            chunkNoncePrefix := fields.chunkNoncePrefix
            wrappedDataKey := (variableBytes.take (fields.keyIdLen + fields.profileIdLen +
              fields.contentTypeLen + fields.wrappedKeyLen)).drop (fields.keyIdLen +
                fields.profileIdLen + fields.contentTypeLen)
            headerBytes := fixed.bytes ++ variableBytes } := by
  unfold parseVariableHeader
  constructor
  · intro h
    simp only at h
    by_cases hlen : variableBytes.length ≠ fields.keyIdLen + fields.profileIdLen +
        fields.contentTypeLen + fields.wrappedKeyLen
    · rw [if_pos hlen] at h
      cases h
    rw [if_neg hlen] at h
    obtain ⟨keyId, hkey, h⟩ := bind_eq_ok.mp h
    obtain ⟨profileId, hprofile, h⟩ := bind_eq_ok.mp h
    obtain ⟨value, hcontent, h⟩ := bind_eq_ok.mp h
    obtain ⟨contentType, htext, rfl⟩ := contentTypeField_eq_ok.mp hcontent
    split at h
    · cases h
    rename_i hwrapped
    obtain ⟨metadata, hplanned, h⟩ := bind_eq_ok.mp h
    obtain ⟨haccepted, rfl⟩ := plannedMetadata_ok_iff.mp hplanned
    exact ⟨not_not.mp hlen, keyId, profileId, contentType, utf8Field_eq_ok.mp hkey,
      utf8Field_eq_ok.mp hprofile, htext, not_lt.mp hwrapped, haccepted,
      (Except.ok.inj h).symm⟩
  · rintro ⟨hlen, keyId, profileId, contentType, hkey, hprofile, hcontent, hwrapped,
      haccepted, rfl⟩
    simp only
    rw [if_neg (not_not.mpr hlen)]
    refine bind_eq_ok.mpr ⟨keyId, utf8Field_eq_ok.mpr hkey, ?_⟩
    refine bind_eq_ok.mpr ⟨profileId, utf8Field_eq_ok.mpr hprofile, ?_⟩
    refine bind_eq_ok.mpr ⟨_, contentTypeField_eq_ok.mpr ⟨contentType, hcontent, rfl⟩, ?_⟩
    rw [if_neg (not_lt.mpr hwrapped)]
    exact bind_eq_ok.mpr ⟨_, plannedMetadata_ok_iff.mpr ⟨haccepted, rfl⟩, rfl⟩

/-- The four fields of the rest of a header, at their bounds. -/
theorem variableBytes_slices (header : EnvelopeHeader) :
    header.variableBytes.take (asBytes header.keyId).length = asBytes header.keyId ∧
    (header.variableBytes.take ((asBytes header.keyId).length +
      (asBytes header.profileId).length)).drop (asBytes header.keyId).length =
        asBytes header.profileId ∧
    (header.variableBytes.take ((asBytes header.keyId).length +
      (asBytes header.profileId).length + (asBytes header.contentType).length)).drop
        ((asBytes header.keyId).length + (asBytes header.profileId).length) =
      asBytes header.contentType ∧
    (header.variableBytes.take ((asBytes header.keyId).length +
      (asBytes header.profileId).length + (asBytes header.contentType).length +
      header.wrappedDataKey.length)).drop ((asBytes header.keyId).length +
        (asBytes header.profileId).length + (asBytes header.contentType).length) =
      header.wrappedDataKey := by
  have hpieces : header.variableBytes = [asBytes header.keyId, asBytes header.profileId,
      asBytes header.contentType, header.wrappedDataKey].flatten := by
    simp [variableBytes]
  rw [hpieces]
  refine ⟨?_, ?_, ?_, ?_⟩
  · simp
  · exact drop_take_piece 1 rfl (by simp) rfl
  · exact drop_take_piece 2 rfl (by simp) rfl
  · exact drop_take_piece 3 rfl (by simp [Nat.add_assoc]) rfl

/-- A well-formed header is accepted as what its fields say. -/
theorem parseVariableHeader_variableBytes (h : header.WellFormed) :
    parseVariableHeader runtime header.fixed header.fields header.variableBytes =
      .ok (header.parsed runtime) := by
  obtain ⟨hkey, hprofile, hcontent, hwrapped⟩ := header.variableBytes_slices
  refine parseVariableHeader_ok_iff.mpr ⟨header.length_variableBytes, header.keyId,
    header.profileId, header.contentType, hkey.symm, hprofile.symm, hcontent.symm, ?_,
    h.accepted, ?_⟩
  · exact hwrapped.symm ▸ h.wrappedDataKey_ge
  · unfold parsed
    congr 1
    exact hwrapped.symm

/-- What the first half of the decoder asks for, and what it returns. -/
theorem parseFixedHeader_ok {fixed : FixedBytes 50} {fields : FixedHeader}
    (h : parseFixedHeader fixed = .ok fields) :
    (fixed.slice 0 8 (by decide)).bytes = envelopeMagic ∧
    50 ≤ ofBeBytes (fixed.slice 8 12 (by decide)).bytes ∧
    fields.algorithm.id = fixed.get 12 (by decide) ∧
    fields =
      { headerLen := ofBeBytes (fixed.slice 8 12 (by decide)).bytes
        algorithm := fields.algorithm
        keyIdLen := ofBeBytes (fixed.slice 14 16 (by decide)).bytes
        profileIdLen := ofBeBytes (fixed.slice 16 18 (by decide)).bytes
        contentTypeLen := ofBeBytes (fixed.slice 18 20 (by decide)).bytes
        wrappedKeyLen := ofBeBytes (fixed.slice 20 22 (by decide)).bytes
        chunkPlaintextBytes := ofBeBytes (fixed.slice 22 26 (by decide)).bytes
        plaintextSize := ofBeBytes (fixed.slice 26 34 (by decide)).bytes
        chunkNoncePrefix := fixed.slice 34 38 (by decide)
        keyWrapNonce := fixed.slice 38 50 (by decide) } := by
  unfold parseFixedHeader at h
  simp only at h
  split at h
  · cases h
  rename_i hmagic
  split at h
  · cases h
  rename_i hlen
  split at h
  · cases h
  · rename_i algorithm halgorithm
    cases h
    exact ⟨not_not.mp hmagic, not_lt.mp hlen, RuntimeAlgorithm.fromId_eq_ok.mp halgorithm, rfl⟩

/-- Fifty bytes are the join of the slices at the bounds of the slots. -/
theorem join_slices (fixed : FixedBytes 50) :
    (fixed.slice 0 8 (by decide)).bytes ++ ((fixed.slice 8 12 (by decide)).bytes ++
      ((fixed.slice 12 13 (by decide)).bytes ++ ((fixed.slice 13 14 (by decide)).bytes ++
      ((fixed.slice 14 16 (by decide)).bytes ++ ((fixed.slice 16 18 (by decide)).bytes ++
      ((fixed.slice 18 20 (by decide)).bytes ++ ((fixed.slice 20 22 (by decide)).bytes ++
      ((fixed.slice 22 26 (by decide)).bytes ++ ((fixed.slice 26 34 (by decide)).bytes ++
      ((fixed.slice 34 38 (by decide)).bytes ++
        (fixed.slice 38 50 (by decide)).bytes)))))))))) = fixed.bytes := by
  have hend : fixed.bytes.drop 50 = [] := List.drop_of_length_le (by simp)
  have hlast : (fixed.slice 38 50 (by decide)).bytes = fixed.bytes.drop 38 := by
    rw [← fixed.slice_append_drop (by decide : 38 ≤ 50) (by decide), hend, List.append_nil]
  rw [hlast, fixed.slice_append_drop (by decide) (by decide),
    fixed.slice_append_drop (by decide) (by decide),
    fixed.slice_append_drop (by decide) (by decide),
    fixed.slice_append_drop (by decide) (by decide),
    fixed.slice_append_drop (by decide) (by decide),
    fixed.slice_append_drop (by decide) (by decide),
    fixed.slice_append_drop (by decide) (by decide),
    fixed.slice_append_drop (by decide) (by decide),
    fixed.slice_append_drop (by decide) (by decide),
    fixed.slice_append_drop (by decide) (by decide),
    fixed.slice_append_drop (by decide) (by decide), List.drop_zero]

/-- A header whose slots hold what the decoder read is the header that was read. -/
theorem fixed_eq_of_fields {fixed : FixedBytes 50} {fields : FixedHeader}
    (hfixed : parseFixedHeader fixed = .ok fields) (hfields : header.fields = fields)
    (hreserved : header.reserved = fixed.get 13 (by decide)) : header.fixed = fixed := by
  obtain ⟨hmagic, -, hid, hread⟩ := parseFixedHeader_ok hfixed
  subst hfields
  -- the slots, one by one: encoding what was decoded gives the slice back
  have hlen : beBytes 4 (50 + header.variableBytes.length) =
      (fixed.slice 8 12 (by decide)).bytes := by
    rw [← (fixed.slice 8 12 (by decide)).beBytes_ofBeBytes]
    exact congrArg (beBytes 4) (congrArg FixedHeader.headerLen hread)
  have hkey : beBytes 2 (asBytes header.keyId).length =
      (fixed.slice 14 16 (by decide)).bytes := by
    rw [← (fixed.slice 14 16 (by decide)).beBytes_ofBeBytes]
    exact congrArg (beBytes 2) (congrArg FixedHeader.keyIdLen hread)
  have hprofile : beBytes 2 (asBytes header.profileId).length =
      (fixed.slice 16 18 (by decide)).bytes := by
    rw [← (fixed.slice 16 18 (by decide)).beBytes_ofBeBytes]
    exact congrArg (beBytes 2) (congrArg FixedHeader.profileIdLen hread)
  have hcontent : beBytes 2 (asBytes header.contentType).length =
      (fixed.slice 18 20 (by decide)).bytes := by
    rw [← (fixed.slice 18 20 (by decide)).beBytes_ofBeBytes]
    exact congrArg (beBytes 2) (congrArg FixedHeader.contentTypeLen hread)
  have hwrapped : beBytes 2 header.wrappedDataKey.length =
      (fixed.slice 20 22 (by decide)).bytes := by
    rw [← (fixed.slice 20 22 (by decide)).beBytes_ofBeBytes]
    exact congrArg (beBytes 2) (congrArg FixedHeader.wrappedKeyLen hread)
  have hchunk : beBytes 4 header.chunkPlaintextBytes =
      (fixed.slice 22 26 (by decide)).bytes := by
    rw [← (fixed.slice 22 26 (by decide)).beBytes_ofBeBytes]
    exact congrArg (beBytes 4) (congrArg FixedHeader.chunkPlaintextBytes hread)
  have hsize : beBytes 8 header.plaintextSize = (fixed.slice 26 34 (by decide)).bytes := by
    rw [← (fixed.slice 26 34 (by decide)).beBytes_ofBeBytes]
    exact congrArg (beBytes 8) (congrArg FixedHeader.plaintextSize hread)
  have hlead : header.chunkNoncePrefix = fixed.slice 34 38 (by decide) :=
    congrArg FixedHeader.chunkNoncePrefix hread
  have hnonce : header.keyWrapNonce = fixed.slice 38 50 (by decide) :=
    congrArg FixedHeader.keyWrapNonce hread
  have hid' : [header.algorithm.id] = (fixed.slice 12 13 (by decide)).bytes := by
    rw [fixed.slice_succ (by decide : 12 < 50)]
    exact congrArg (fun byte => [byte]) hid
  have hreserved' : [header.reserved] = (fixed.slice 13 14 (by decide)).bytes := by
    rw [fixed.slice_succ (by decide : 13 < 50), hreserved]
  apply FixedBytes.ext
  rw [← join_slices fixed]
  change header.fixedPieces.flatten = _
  unfold fixedPieces
  rw [hlen, hkey, hprofile, hcontent, hwrapped, hchunk, hsize, hid', hreserved', ← hmagic,
    hlead, hnonce]
  simp only [List.flatten_cons, List.flatten_nil, List.append_nil]

/-- An accepted header is the header of some well-formed fields. -/
theorem exists_of_parse {fixed : FixedBytes 50} {fields : FixedHeader} {variableBytes : Bytes}
    {parsed : ParsedEnvelopeHeader} (hfixed : parseFixedHeader fixed = .ok fields)
    (hlen : variableBytes.length = fields.headerLen - envelopeFixedHeaderLen)
    (hparsed : parseVariableHeader runtime fixed fields variableBytes = .ok parsed) :
    ∃ header : EnvelopeHeader, header.WellFormed ∧ fixed = header.fixed ∧
      variableBytes = header.variableBytes ∧ parsed = header.parsed runtime := by
  obtain ⟨-, hge, -, hfields⟩ := parseFixedHeader_ok hfixed
  obtain ⟨hsum, keyId, profileId, contentType, hkey, hprofile, hcontent, hwrapped,
    haccepted, rfl⟩ := parseVariableHeader_ok_iff.mp hparsed
  obtain ⟨header, hheader⟩ : ∃ header : EnvelopeHeader, header =
      { algorithm := fields.algorithm
        reserved := fixed.get 13 (by decide)
        chunkPlaintextBytes := fields.chunkPlaintextBytes
        plaintextSize := fields.plaintextSize
        chunkNoncePrefix := fields.chunkNoncePrefix
        keyWrapNonce := fields.keyWrapNonce
        keyId := keyId
        profileId := profileId
        contentType := contentType
        wrappedDataKey := (variableBytes.take (fields.keyIdLen + fields.profileIdLen +
          fields.contentTypeLen + fields.wrappedKeyLen)).drop (fields.keyIdLen +
            fields.profileIdLen + fields.contentTypeLen) } := ⟨_, rfl⟩
  have hkeyLen : (asBytes keyId).length = fields.keyIdLen := by
    rw [hkey, List.length_take]
    omega
  have hprofileLen : (asBytes profileId).length = fields.profileIdLen := by
    rw [hprofile, List.length_drop, List.length_take]
    omega
  have hcontentLen : (asBytes contentType).length = fields.contentTypeLen := by
    rw [hcontent, List.length_drop, List.length_take]
    omega
  have hwrappedLen : header.wrappedDataKey.length = fields.wrappedKeyLen := by
    rw [hheader]
    simp only [List.length_drop, List.length_take]
    omega
  have hvariable : variableBytes = header.variableBytes := by
    simp only [hheader, EnvelopeHeader.variableBytes]
    rw [hkey, hprofile, hcontent, ← hsum, List.take_of_length_le (le_refl variableBytes.length),
      drop_take_append_drop _ (Nat.le_add_right _ _),
      drop_take_append_drop _ (Nat.le_add_right _ _), List.take_append_drop]
  have hread : header.fields = fields := by
    have hlenField : 50 + header.variableBytes.length = fields.headerLen := by
      rw [← hvariable, hlen, hfields]
      simp only [envelopeFixedHeaderLen]
      omega
    unfold EnvelopeHeader.fields
    rw [hlenField, hwrappedLen]
    simp only [hheader, hkeyLen, hprofileLen, hcontentLen]
  have hslot : ∀ a : FixedBytes 2, ofBeBytes a.bytes ≤ u16Max := by
    intro a
    have hlt := a.ofBeBytes_lt
    simp only [u16Max]
    omega
  have hwell : header.WellFormed := by
    refine ⟨?_, ?_, ?_, ?_, ?_, ?_⟩
    · rw [hheader]
      exact (hkeyLen.trans (congrArg FixedHeader.keyIdLen hfields)).le.trans (hslot _)
    · rw [hheader]
      exact (hprofileLen.trans (congrArg FixedHeader.profileIdLen hfields)).le.trans (hslot _)
    · rw [hheader]
      exact (hcontentLen.trans (congrArg FixedHeader.contentTypeLen hfields)).le.trans (hslot _)
    · rw [hheader]
      exact hwrapped
    · exact (hwrappedLen.trans (congrArg FixedHeader.wrappedKeyLen hfields)).le.trans (hslot _)
    · rw [hheader]
      exact haccepted
  have hbytes : header.fixed = fixed := fixed_eq_of_fields hfixed hread (by rw [hheader])
  refine ⟨header, hwell, hbytes.symm, hvariable, ?_⟩
  unfold EnvelopeHeader.parsed EnvelopeHeader.bytes
  rw [hbytes, ← hvariable, hheader]
  rfl

end EnvelopeHeader

/-! ## Section 5: The header of a request -/

namespace EncryptRequest

/-- The header that an upload of the request writes. -/
def header (runtime : CryptoRuntime) (request : EncryptRequest) (wrappedDataKey : Bytes)
    (keyWrapNonce : FixedBytes 12) (chunkNoncePrefix : FixedBytes 4) : EnvelopeHeader where
  algorithm := chooseRuntimeAlgorithm runtime request.algorithmPreference
  reserved := 0
  chunkPlaintextBytes := request.chunkPlaintextBytes
  plaintextSize := request.plaintextSize
  chunkNoncePrefix := chunkNoncePrefix
  keyWrapNonce := keyWrapNonce
  keyId := trim request.keyId
  profileId := trim request.profileId
  contentType := request.contentTypeText
  wrappedDataKey := wrappedDataKey

/-- The metadata up to trimming of the two ids. -/
def trimmedMetadata (runtime : CryptoRuntime) (request : EncryptRequest) :
    EncryptedObjectMetadata :=
  { request.metadata runtime with
    profileId := trim request.profileId
    keyId := trim request.keyId }

variable {runtime : CryptoRuntime} {request : EncryptRequest} {wrappedDataKey : Bytes}
  {keyWrapNonce : FixedBytes 12} {chunkNoncePrefix : FixedBytes 4}

theorem trim_contentTypeText (request : EncryptRequest) :
    trim request.contentTypeText = request.contentTypeText := by
  unfold contentTypeText normalizeOptionalString
  cases request.logicalContentType with
  | none => rfl
  | some value =>
    by_cases hempty : trim value = ""
    · simp only [Option.bind_some, if_pos hempty]
      rfl
    · simp only [Option.bind_some, if_neg hempty, Option.getD_some, trim_trim]

theorem length_contentTypeText_le (request : EncryptRequest) :
    (asBytes request.contentTypeText).length ≤
      (asBytes (request.logicalContentType.getD "")).length := by
  unfold contentTypeText normalizeOptionalString
  cases request.logicalContentType with
  | none => exact le_refl _
  | some value =>
    by_cases hempty : trim value = ""
    · simp only [Option.bind_some, if_pos hempty]
      exact Nat.zero_le _
    · simp only [Option.bind_some, if_neg hempty, Option.getD_some]
      exact length_asBytes_trim_le value

/-- Normalizing again changes nothing. -/
theorem normalize_contentTypeText (request : EncryptRequest) :
    normalizeOptionalString
        (if request.contentTypeText = "" then none else some (trim request.contentTypeText)) =
      normalizeOptionalString request.logicalContentType := by
  rw [trim_contentTypeText]
  have htrim := trim_contentTypeText request
  unfold contentTypeText at htrim ⊢
  cases hnormal : normalizeOptionalString request.logicalContentType with
  | none => rfl
  | some value =>
    have hne : value ≠ "" := by
      obtain ⟨raw, -, hraw⟩ := Option.bind_eq_some_iff.mp hnormal
      split at hraw
      · cases hraw
      · rename_i hne
        cases hraw
        exact hne
    rw [hnormal] at htrim
    simp only [Option.getD_some] at htrim ⊢
    rw [if_neg hne]
    simp only [normalizeOptionalString, Option.bind_some, htrim, if_neg hne]

theorem contentTypeText_header :
    (request.header runtime wrappedDataKey keyWrapNonce
      chunkNoncePrefix).request.contentTypeText = request.contentTypeText :=
  congrArg (Option.getD · "") (normalize_contentTypeText request)

theorem storedSize_header :
    (request.header runtime wrappedDataKey keyWrapNonce chunkNoncePrefix).request.storedSize =
      request.storedSize := by
  have hcontent := @contentTypeText_header runtime request wrappedDataKey keyWrapNonce
    chunkNoncePrefix
  unfold storedSize headerLen
  rw [hcontent]
  simp only [header, EnvelopeHeader.request, trim_trim]

theorem chooseRuntimeAlgorithm_preference (algorithm : RuntimeAlgorithm) :
    chooseRuntimeAlgorithm runtime algorithm.preference = algorithm := by
  cases algorithm <;> rfl

/-- The header describes the request it was written for, ids trimmed. -/
theorem metadata_header :
    (request.header runtime wrappedDataKey keyWrapNonce chunkNoncePrefix).request.metadata
      runtime = request.trimmedMetadata runtime := by
  unfold trimmedMetadata metadata
  rw [storedSize_header]
  simp only [header, EnvelopeHeader.request, chooseRuntimeAlgorithm_preference]
  congr 1
  exact normalize_contentTypeText request

theorem accepted_header (haccepted : request.Accepted) :
    (request.header runtime wrappedDataKey keyWrapNonce
      chunkNoncePrefix).request.Accepted := by
  have hcontent := (length_contentTypeText_le request).trans haccepted.contentType_le
  have hstored : (request.header runtime wrappedDataKey keyWrapNonce
      chunkNoncePrefix).request.storedSize ≤ u64Max := by
    rw [storedSize_header]
    exact haccepted.storedSize_le
  refine ⟨?_, ?_, haccepted.chunk_pos, haccepted.chunk_le, ?_, ?_, ?_, hstored⟩
  · simpa only [header, EnvelopeHeader.request, trim_trim] using haccepted.profileId_ne
  · simpa only [header, EnvelopeHeader.request, trim_trim] using haccepted.keyId_ne
  · simpa only [header, EnvelopeHeader.request, trim_trim] using haccepted.profileId_le
  · simpa only [header, EnvelopeHeader.request, trim_trim] using haccepted.keyId_le
  · simp only [header, EnvelopeHeader.request, trim_contentTypeText]
    split
    · simp
    · exact hcontent

theorem wellFormed_header (haccepted : request.Accepted)
    (hwrapped : wrappedDataKey.length = 48) :
    (request.header runtime wrappedDataKey keyWrapNonce chunkNoncePrefix).WellFormed where
  keyId_le := haccepted.keyId_le
  profileId_le := haccepted.profileId_le
  contentType_le := (length_contentTypeText_le request).trans haccepted.contentType_le
  wrappedDataKey_ge := by
    change 16 ≤ wrappedDataKey.length
    omega
  wrappedDataKey_le := by
    change wrappedDataKey.length ≤ 65535
    omega
  accepted := accepted_header haccepted

theorem length_header (hwrapped : wrappedDataKey.length = 48) :
    (request.header runtime wrappedDataKey keyWrapNonce chunkNoncePrefix).bytes.length =
      request.headerLen := by
  unfold EnvelopeHeader.bytes headerLen
  rw [List.length_append, FixedBytes.length_bytes, EnvelopeHeader.length_variableBytes]
  simp only [header, hwrapped]
  omega

/-- `build_envelope_header` writes this header, and does not fail. -/
theorem buildEnvelopeHeader_eq (haccepted : request.Accepted)
    (hwrapped : wrappedDataKey.length = 48) :
    buildEnvelopeHeader request (request.metadata runtime) wrappedDataKey keyWrapNonce
        chunkNoncePrefix =
      .ok (request.header runtime wrappedDataKey keyWrapNonce chunkNoncePrefix).bytes := by
  have hvalid : validateEncryptRequest request = .ok () :=
    validateEncryptRequest_ok_iff.mpr ⟨haccepted.profileId_ne, haccepted.keyId_ne,
      haccepted.chunk_pos, haccepted.chunk_le, haccepted.profileId_le, haccepted.keyId_le,
      haccepted.contentType_le⟩
  have hwell := @wellFormed_header runtime request wrappedDataKey keyWrapNonce chunkNoncePrefix
    haccepted hwrapped
  have hlen := EnvelopeHeader.headerLen_le hwell
  have hheaderLen : 50 + (request.header runtime wrappedDataKey keyWrapNonce
      chunkNoncePrefix).variableBytes.length = request.headerLen := by
    rw [← length_header hwrapped]
    unfold EnvelopeHeader.bytes
    rw [List.length_append, FixedBytes.length_bytes]
  rw [hheaderLen] at hlen
  unfold buildEnvelopeHeader
  refine bind_eq_ok.mpr ⟨_, envelopeHeaderLen_eq hvalid, ?_⟩
  refine bind_eq_ok.mpr ⟨_, beBytesU32_of_le hlen, ?_⟩
  refine bind_eq_ok.mpr ⟨_, beBytesU16_of_le haccepted.keyId_le, ?_⟩
  refine bind_eq_ok.mpr ⟨_, beBytesU16_of_le haccepted.profileId_le, ?_⟩
  refine bind_eq_ok.mpr ⟨_, beBytesU16_of_le hwell.contentType_le, ?_⟩
  refine bind_eq_ok.mpr ⟨_, beBytesU16_of_le hwell.wrappedDataKey_le, ?_⟩
  refine bind_eq_ok.mpr ⟨_, beBytesU32_of_le haccepted.chunk_le, ?_⟩
  rw [EnvelopeHeader.bytes, EnvelopeHeader.fixed_bytes, EnvelopeHeader.fixedPieces, hheaderLen]
  simp only [EnvelopeHeader.variableBytes, List.flatten_cons, List.flatten_nil, List.append_nil,
    List.append_assoc]
  rfl

end EncryptRequest

end Netdisk2Blob.ObjectCrypto
