import Netdisk2Blob.ObjectCrypto.Envelope

/-!
# Encrypting and Decrypting Streams

The two state machines of the crate: the upload stream, which cuts a body into chunks and
seals them into frames, and the download stream, which reads frames back.

## Contents

- `CipherInstance`, with the laws of an authenticated cipher (`AeadLaws`)
- `PlaintextChunker`, `StreamCursor`: buffers over body streams; on an error-free stream
  both depend on the bytes that are left and not on how they are fragmented
  (`nextChunk_spec`, `readExact_spec`, `ensureEof_spec`)
- `encryptUpload` and `prepareDecryptDownload`, with the item functions of the streams
  they return
-/

namespace Netdisk2Blob.ObjectCrypto

open Library Text Blob

/-! ## Section 1: Ciphers -/

structure CipherInstance where
  algorithm : RuntimeAlgorithm
  key : FixedBytes 32

namespace CipherInstance

def encrypt (runtime : CryptoRuntime) (cipher : CipherInstance) (nonce : FixedBytes 12)
    (aad plaintext : Bytes) (label : String) : Except CryptoError Bytes :=
  match runtime.encryptDetached cipher.algorithm cipher.key nonce aad plaintext with
  | none => .error (.keyWrap s!"{label} failed: aead::Error")
  | some (buffer, tag) => .ok (buffer ++ tag.bytes)

def decrypt (runtime : CryptoRuntime) (cipher : CipherInstance) (nonce : FixedBytes 12)
    (aad ciphertext : Bytes) (label : String) : Except CryptoError Bytes :=
  if h : ciphertext.length < aeadTagLen then
    .error (.invalidObject s!"{label} is shorter than the authentication tag")
  else
    let splitAt := ciphertext.length - aeadTagLen
    let tag : FixedBytes 16 :=
      ⟨ciphertext.drop splitAt, by simp only [splitAt, aeadTagLen, List.length_drop] at h ⊢; omega⟩
    match runtime.decryptDetached cipher.algorithm cipher.key nonce aad
        (ciphertext.take splitAt) tag with
    | none => .error (.keyUnwrap s!"{label} failed: aead::Error")
    | some plaintext => .ok plaintext

end CipherInstance

/-- A successful encryption, as the buffer and the tag it gives. -/
theorem encrypt_eq_ok {runtime : CryptoRuntime} {cipher : CipherInstance} {nonce : FixedBytes 12}
    {aad plaintext ciphertext : Bytes} {label : String} :
    cipher.encrypt runtime nonce aad plaintext label = .ok ciphertext ↔
      ∃ buffer tag, runtime.encryptDetached cipher.algorithm cipher.key nonce aad plaintext =
        some (buffer, tag) ∧ ciphertext = buffer ++ tag.bytes := by
  unfold CipherInstance.encrypt
  cases h : runtime.encryptDetached cipher.algorithm cipher.key nonce aad plaintext with
  | none => simp
  | some sealed =>
    obtain ⟨buffer, tag⟩ := sealed
    simp [eq_comm]

/-- A successful decryption: the last sixteen bytes are the tag. -/
theorem decrypt_eq_ok {runtime : CryptoRuntime} {cipher : CipherInstance} {nonce : FixedBytes 12}
    {aad ciphertext plaintext : Bytes} {label : String} :
    cipher.decrypt runtime nonce aad ciphertext label = .ok plaintext ↔
      ∃ buffer tag, ciphertext = buffer ++ tag.bytes ∧
        runtime.decryptDetached cipher.algorithm cipher.key nonce aad buffer tag =
          some plaintext := by
  unfold CipherInstance.decrypt
  by_cases h : ciphertext.length < aeadTagLen
  · rw [dif_pos h]
    constructor
    · intro herror
      cases herror
    · rintro ⟨buffer, tag, rfl, -⟩
      simp only [List.length_append, tag.length_eq, aeadTagLen] at h
      omega
  · rw [dif_neg h]
    simp only
    constructor
    · intro hok
      split at hok
      · cases hok
      · rename_i plain hplain
        cases hok
        exact ⟨_, _, (List.take_append_drop _ _).symm, hplain⟩
    · rintro ⟨buffer, tag, rfl, hplain⟩
      have hsplit : (buffer ++ tag.bytes).length - aeadTagLen = buffer.length := by
        simp only [List.length_append, tag.length_eq, aeadTagLen]
        omega
      have htake : (buffer ++ tag.bytes).take ((buffer ++ tag.bytes).length - aeadTagLen) =
          buffer := by
        rw [hsplit, List.take_left]
      have htag : ∀ hlen, (⟨(buffer ++ tag.bytes).drop
          ((buffer ++ tag.bytes).length - aeadTagLen), hlen⟩ : FixedBytes 16) = tag := by
        intro hlen
        apply FixedBytes.ext
        simp only
        rw [hsplit, List.drop_left]
      rw [htake, htag, hplain]

/-- Sealing keeps the length; the tag comes on top. -/
structure PreservesLength (runtime : CryptoRuntime) : Prop where
  length_eq : ∀ {algorithm key nonce aad plaintext buffer tag},
    runtime.encryptDetached algorithm key nonce aad plaintext = some (buffer, tag) →
    buffer.length = plaintext.length

/-- An authenticated cipher: sealing works on every message and associated data up to the
length of a frame, keeps the length, and opening undoes it. -/
structure AeadLaws (runtime : CryptoRuntime) : Prop extends PreservesLength runtime where
  encrypts : ∀ algorithm key nonce aad plaintext, aad.length ≤ u32Max →
    plaintext.length ≤ u32Max →
    ∃ sealed, runtime.encryptDetached algorithm key nonce aad plaintext = some sealed
  decrypts : ∀ {algorithm key nonce aad plaintext buffer tag},
    runtime.encryptDetached algorithm key nonce aad plaintext = some (buffer, tag) →
    runtime.decryptDetached algorithm key nonce aad buffer tag = some plaintext

section Laws

variable {runtime : CryptoRuntime} {cipher : CipherInstance} {nonce : FixedBytes 12}
  {aad plaintext ciphertext : Bytes} {label label' : String}

theorem PreservesLength.encrypt (hlen : PreservesLength runtime)
    (h : cipher.encrypt runtime nonce aad plaintext label = .ok ciphertext) :
    ciphertext.length = plaintext.length + 16 := by
  obtain ⟨buffer, tag, hsealed, rfl⟩ := encrypt_eq_ok.mp h
  rw [List.length_append, hlen.length_eq hsealed, tag.length_eq]

theorem AeadLaws.decrypt_encrypt (laws : AeadLaws runtime)
    (h : cipher.encrypt runtime nonce aad plaintext label = .ok ciphertext) :
    cipher.decrypt runtime nonce aad ciphertext label' = .ok plaintext := by
  obtain ⟨buffer, tag, hsealed, rfl⟩ := encrypt_eq_ok.mp h
  exact decrypt_eq_ok.mpr ⟨buffer, tag, rfl, laws.decrypts hsealed⟩

theorem AeadLaws.exists_encrypt (laws : AeadLaws runtime) (haad : aad.length ≤ u32Max)
    (hplaintext : plaintext.length ≤ u32Max) :
    ∃ ciphertext, cipher.encrypt runtime nonce aad plaintext label = .ok ciphertext := by
  obtain ⟨⟨buffer, tag⟩, hsealed⟩ :=
    laws.encrypts cipher.algorithm cipher.key nonce aad plaintext haad hplaintext
  exact ⟨_, encrypt_eq_ok.mpr ⟨buffer, tag, hsealed, rfl⟩⟩

end Laws

/-! ## Section 2: Buffers over body streams -/

structure PlaintextChunker where
  inner : ObjectBodyStream
  pending : Bytes

namespace PlaintextChunker

def new (inner : ObjectBodyStream) : PlaintextChunker := ⟨inner, []⟩

/-- The loop of `next_chunk`. -/
def nextChunkLoop (maxLen : Nat) (pending : Bytes) :
    ObjectBodyStream → Except BlobError (Option Bytes) × PlaintextChunker
  | [] =>
    if maxLen ≤ pending.length then (.ok (some (pending.take maxLen)), ⟨[], pending.drop maxLen⟩)
    else if pending = [] then (.ok none, ⟨[], []⟩)
    else (.ok (some pending), ⟨[], []⟩)
  | item :: inner =>
    if maxLen ≤ pending.length then
      (.ok (some (pending.take maxLen)), ⟨item :: inner, pending.drop maxLen⟩)
    else
      match item with
      | .ok bytes => nextChunkLoop maxLen (pending ++ bytes) inner
      | .error error => (.error error, ⟨inner, pending⟩)

def nextChunk (chunker : PlaintextChunker) (maxLen : Nat) :
    Except BlobError (Option Bytes) × PlaintextChunker :=
  if maxLen = 0 then
    (.error (.bodyStream "plaintext chunk size must be greater than zero"), chunker)
  else nextChunkLoop maxLen chunker.pending chunker.inner

end PlaintextChunker

structure StreamCursor where
  inner : ObjectBodyStream
  pending : Bytes

namespace StreamCursor

def new (inner : ObjectBodyStream) : StreamCursor := ⟨inner, []⟩

/-- The loop of `read_exact`. -/
def readExactLoop (len : Nat) (pending : Bytes) :
    ObjectBodyStream → Except CryptoError (FixedBytes len) × StreamCursor
  | [] =>
    if h : len ≤ pending.length then
      (.ok ⟨pending.take len, by simp [h]⟩, ⟨[], pending.drop len⟩)
    else
      (.error (.invalidObject s!"unexpected EOF while reading {len} encrypted bytes"),
        ⟨[], pending⟩)
  | item :: inner =>
    if h : len ≤ pending.length then
      (.ok ⟨pending.take len, by simp [h]⟩, ⟨item :: inner, pending.drop len⟩)
    else
      match item with
      | .ok bytes => readExactLoop len (pending ++ bytes) inner
      | .error error => (.error (.bodyStream error.display), ⟨inner, pending⟩)

def readExact (cursor : StreamCursor) (len : Nat) :
    Except CryptoError (FixedBytes len) × StreamCursor :=
  readExactLoop len cursor.pending cursor.inner

def trailingBytes : CryptoError :=
  .invalidObject "trailing encrypted bytes remain after plaintext completed"

/-- The loop of `ensure_eof`. -/
def ensureEofLoop (pending : Bytes) :
    ObjectBodyStream → Except CryptoError Unit × StreamCursor
  | [] => (.ok (), ⟨[], pending⟩)
  | .error error :: inner => (.error (.bodyStream error.display), ⟨inner, pending⟩)
  | .ok bytes :: inner =>
    if bytes ≠ [] then (.error trailingBytes, ⟨inner, pending⟩)
    else ensureEofLoop pending inner

def ensureEof (cursor : StreamCursor) : Except CryptoError Unit × StreamCursor :=
  if cursor.pending ≠ [] then (.error trailingBytes, cursor)
  else ensureEofLoop cursor.pending cursor.inner

end StreamCursor

/-! ## Section 3: Error-free streams -/

/-- A buffer and an error-free stream that have these bytes left. -/
def Holds (pending : Bytes) (inner : ObjectBodyStream) (bytes : Bytes) : Prop :=
  ∃ fragments, inner = streamOf fragments ∧ pending ++ fragments.flatten = bytes

theorem holds_streamOf (fragments : List Bytes) :
    Holds [] (streamOf fragments) fragments.flatten :=
  ⟨fragments, rfl, rfl⟩

/-- The next chunk is the first `maxLen` of the bytes that are left. -/
theorem nextChunk_spec {maxLen : Nat} {pending bytes : Bytes} {inner : ObjectBodyStream}
    (hpos : 0 < maxLen) (h : Holds pending inner bytes) :
    ∃ chunker : PlaintextChunker,
      PlaintextChunker.nextChunk ⟨inner, pending⟩ maxLen =
        (.ok (if bytes = [] then none else some (bytes.take maxLen)), chunker) ∧
      Holds chunker.pending chunker.inner (bytes.drop maxLen) := by
  obtain ⟨fragments, rfl, rfl⟩ := h
  unfold PlaintextChunker.nextChunk
  rw [if_neg (by omega)]
  induction fragments generalizing pending with
  | nil =>
    simp only [streamOf, List.map_nil, List.flatten_nil, List.append_nil]
    unfold PlaintextChunker.nextChunkLoop
    by_cases hlen : maxLen ≤ pending.length
    · have hne : pending ≠ [] := by
        rintro rfl
        simp only [List.length_nil] at hlen
        omega
      rw [if_pos hlen, if_neg hne]
      exact ⟨_, rfl, [], rfl, List.append_nil _⟩
    · have hdrop : pending.drop maxLen = [] := List.drop_of_length_le (by omega)
      rw [if_neg hlen, hdrop, List.take_of_length_le (by omega)]
      by_cases hempty : pending = []
      · rw [if_pos hempty, if_pos hempty]
        exact ⟨_, rfl, [], rfl, rfl⟩
      · rw [if_neg hempty, if_neg hempty]
        exact ⟨_, rfl, [], rfl, rfl⟩
  | cons fragment fragments ih =>
    simp only [streamOf, List.map_cons]
    unfold PlaintextChunker.nextChunkLoop
    by_cases hlen : maxLen ≤ pending.length
    · have hne : pending ++ (fragment :: fragments).flatten ≠ [] := by
        intro hnil
        rw [(List.append_eq_nil_iff.mp hnil).1, List.length_nil] at hlen
        omega
      rw [if_pos hlen, if_neg hne, List.take_append_of_le_length hlen,
        List.drop_append_of_le_length hlen]
      exact ⟨_, rfl, fragment :: fragments, rfl, rfl⟩
    · rw [if_neg hlen]
      have hrest := @ih (pending ++ fragment)
      rwa [List.append_assoc] at hrest

/-- Reading takes the bytes from the front, or fails when there are not enough. -/
theorem readExact_spec {len : Nat} {pending bytes : Bytes} {inner : ObjectBodyStream}
    (h : Holds pending inner bytes) :
    (∃ (hlen : len ≤ bytes.length) (cursor : StreamCursor),
      StreamCursor.readExact ⟨inner, pending⟩ len =
        (.ok ⟨bytes.take len, List.length_take_of_le hlen⟩, cursor) ∧
      Holds cursor.pending cursor.inner (bytes.drop len)) ∨
    (bytes.length < len ∧ ∃ error cursor,
      StreamCursor.readExact ⟨inner, pending⟩ len = (.error error, cursor)) := by
  obtain ⟨fragments, rfl, rfl⟩ := h
  unfold StreamCursor.readExact
  induction fragments generalizing pending with
  | nil =>
    simp only [streamOf, List.map_nil, List.flatten_nil, List.append_nil]
    unfold StreamCursor.readExactLoop
    by_cases hlen : len ≤ pending.length
    · rw [dif_pos hlen]
      exact Or.inl ⟨hlen, _, rfl, [], rfl, List.append_nil _⟩
    · rw [dif_neg hlen]
      exact Or.inr ⟨by omega, _, _, rfl⟩
  | cons fragment fragments ih =>
    simp only [streamOf, List.map_cons]
    unfold StreamCursor.readExactLoop
    by_cases hlen : len ≤ pending.length
    · rw [dif_pos hlen]
      -- enough bytes are at hand, and the stream stays where it is
      refine Or.inl ⟨by rw [List.length_append]; omega,
        ⟨.ok fragment :: streamOf fragments, pending.drop len⟩, ?_, fragment :: fragments, rfl, ?_⟩
      · simp only [List.take_append_of_le_length hlen]
        rfl
      · simp only [List.drop_append_of_le_length hlen]
    · rw [dif_neg hlen]
      have hrest := @ih (pending ++ fragment)
      rwa [List.append_assoc] at hrest

/-- The end is found iff no bytes are left. -/
theorem ensureEof_spec {pending bytes : Bytes} {inner : ObjectBodyStream}
    (h : Holds pending inner bytes) :
    (bytes = [] ∧ ∃ cursor, StreamCursor.ensureEof ⟨inner, pending⟩ = (.ok (), cursor)) ∨
    (bytes ≠ [] ∧ ∃ error cursor,
      StreamCursor.ensureEof ⟨inner, pending⟩ = (.error error, cursor)) := by
  obtain ⟨fragments, rfl, rfl⟩ := h
  unfold StreamCursor.ensureEof
  by_cases hpending : pending = []
  · subst hpending
    simp only [ne_eq, not_true_eq_false, if_false, List.nil_append]
    induction fragments with
    | nil => exact Or.inl ⟨rfl, _, rfl⟩
    | cons fragment fragments ih =>
      simp only [streamOf, List.map_cons, StreamCursor.ensureEofLoop, List.flatten_cons]
      by_cases hempty : fragment = []
      · rw [hempty, if_neg (by simp), List.nil_append]
        exact ih
      · rw [if_pos hempty]
        exact Or.inr ⟨by simp [hempty], _, _, rfl⟩
  · rw [if_pos hpending]
    exact Or.inr ⟨by simp [hpending], _, _, rfl⟩

/-! ## Section 4: Upload -/

/-- What the random number generator gives an upload. -/
structure UploadRandomness where
  dataKey : FixedBytes 32
  keyWrapNonce : FixedBytes 12
  chunkNoncePrefix : FixedBytes 4

def chunkNonce (chunkNoncePrefix : FixedBytes 4) (index : Nat) : FixedBytes 12 :=
  chunkNoncePrefix.append ⟨beBytes 8 index, length_beBytes 8 index⟩

theorem chunkNonce_inj {chunkNoncePrefix chunkNoncePrefix' : FixedBytes 4} {index index' : Nat}
    (hindex : index ≤ u64Max) (hindex' : index' ≤ u64Max)
    (h : chunkNonce chunkNoncePrefix index = chunkNonce chunkNoncePrefix' index') :
    chunkNoncePrefix = chunkNoncePrefix' ∧ index = index' := by
  have hbytes : chunkNoncePrefix.bytes ++ beBytes 8 index =
      chunkNoncePrefix'.bytes ++ beBytes 8 index' := congrArg FixedBytes.bytes h
  obtain ⟨hlead, hcounter⟩ := List.append_inj hbytes (by simp)
  refine ⟨FixedBytes.ext hlead, ?_⟩
  rw [← ofBeBytes_beBytes_u64 hindex, hcounter, ofBeBytes_beBytes_u64 hindex']

structure EncryptStreamState where
  header : Option Bytes
  headerAad : Bytes
  chunker : PlaintextChunker
  cipher : CipherInstance
  chunkPlaintextBytes : Nat
  chunkNoncePrefix : FixedBytes 4
  nextChunkIndex : Nat

/-- One item of the upload stream. -/
def EncryptStreamState.next (runtime : CryptoRuntime) (state : EncryptStreamState) :
    Option (Except BlobError Bytes × EncryptStreamState) :=
  match state.header with
  | some header => some (.ok header, { state with header := none })
  | none =>
    match state.chunker.nextChunk state.chunkPlaintextBytes with
    | (.ok (some plaintext), chunker) =>
      let nonce := chunkNonce state.chunkNoncePrefix state.nextChunkIndex
      let state' : EncryptStreamState :=
        { state with
          chunker := chunker
          nextChunkIndex := saturatingAddU64 state.nextChunkIndex 1 }
      match state.cipher.encrypt runtime nonce state.headerAad plaintext "object chunk" with
      | .error error => some (.error (.bodyStream error.display), state')
      | .ok encrypted =>
        if encrypted.length ≤ u32Max then
          some (.ok (beBytes 4 encrypted.length ++ encrypted), state')
        else some (.error (.bodyStream "encrypted chunk length exceeds u32"), state')
    | (.ok none, _) => none
    | (.error error, chunker) => some (.error error, { state with chunker := chunker })

structure EncryptedObject where
  body : EncryptStreamState
  metadata : EncryptedObjectMetadata

def encryptUpload (runtime : CryptoRuntime) (randomness : UploadRandomness)
    (body : ObjectBodyStream) (request : EncryptRequest) (kek : FixedBytes 32) :
    Except CryptoError EncryptedObject := do
  let metadata ← request.plannedMetadata runtime
  let wrapCipher : CipherInstance := ⟨metadata.algorithm, kek⟩
  let wrappedDataKey ←
    wrapCipher.encrypt runtime randomness.keyWrapNonce [] randomness.dataKey.bytes "data key wrap"
  let headerBytes ←
    buildEnvelopeHeader request metadata wrappedDataKey randomness.keyWrapNonce
      randomness.chunkNoncePrefix
  return { body :=
             { header := some headerBytes
               headerAad := headerBytes
               chunker := PlaintextChunker.new body
               cipher := ⟨metadata.algorithm, randomness.dataKey⟩
               chunkPlaintextBytes := metadata.chunkPlaintextBytes
               chunkNoncePrefix := randomness.chunkNoncePrefix
               nextChunkIndex := 0 }
           metadata := metadata }

/-! ## Section 5: Download -/

def readEnvelopeHeader (runtime : CryptoRuntime) (cursor : StreamCursor) :
    Except CryptoError ParsedEnvelopeHeader × StreamCursor :=
  match cursor.readExact envelopeFixedHeaderLen with
  | (.error error, cursor) => (.error error, cursor)
  | (.ok fixed, cursor) =>
    match parseFixedHeader fixed with
    | .error error => (.error error, cursor)
    | .ok fields =>
      match cursor.readExact (fields.headerLen - envelopeFixedHeaderLen) with
      | (.error error, cursor) => (.error error, cursor)
      | (.ok variableBytes, cursor) =>
        (parseVariableHeader runtime fixed fields variableBytes.bytes, cursor)

structure DecryptStreamState where
  cursor : StreamCursor
  cipher : CipherInstance
  headerAad : Bytes
  chunkNoncePrefix : FixedBytes 4
  nextChunkIndex : Nat
  remainingPlaintextBytes : Nat

/-- One item of the download stream. -/
def DecryptStreamState.next (runtime : CryptoRuntime) (state : DecryptStreamState) :
    Option (Except BlobError Bytes × DecryptStreamState) :=
  if state.remainingPlaintextBytes = 0 then none
  else
    match state.cursor.readExact 4 with
    | (.error error, cursor) =>
      some (.error (.bodyStream error.display), { state with cursor := cursor })
    | (.ok framePrefix, cursor) =>
      let frameLen := ofBeBytes framePrefix.bytes
      if frameLen < aeadTagLen then
        some (.error (.bodyStream (CryptoError.invalidObject
          s!"encrypted chunk length {frameLen} is smaller than authentication tag").display),
          { state with cursor := cursor })
      else
        match cursor.readExact frameLen with
        | (.error error, cursor) =>
          some (.error (.bodyStream error.display), { state with cursor := cursor })
        | (.ok encrypted, cursor) =>
          let nonce := chunkNonce state.chunkNoncePrefix state.nextChunkIndex
          let state : DecryptStreamState :=
            { state with
              cursor := cursor
              nextChunkIndex := saturatingAddU64 state.nextChunkIndex 1 }
          match state.cipher.decrypt runtime nonce state.headerAad encrypted.bytes
              "object chunk" with
          | .error error => some (.error (.bodyStream error.display), state)
          | .ok plaintext =>
            if plaintext.length = 0 ∨ plaintext.length > state.remainingPlaintextBytes then
              some (.error (.bodyStream (CryptoError.invalidObject
                s!"decrypted chunk length {plaintext.length} is invalid for remaining plaintext {state.remainingPlaintextBytes}").display),
                state)
            else
              let remaining := state.remainingPlaintextBytes - plaintext.length
              if remaining = 0 then
                match state.cursor.ensureEof with
                | (.error error, cursor) =>
                  some (.error (.bodyStream error.display),
                    { state with cursor := cursor, remainingPlaintextBytes := remaining })
                | (.ok (), cursor) =>
                  some (.ok plaintext,
                    { state with cursor := cursor, remainingPlaintextBytes := remaining })
              else some (.ok plaintext, { state with remainingPlaintextBytes := remaining })

/-- The body of a download: bytes at hand, or the stream of chunks. -/
inductive DecryptedBody where
  | bytes (content : Bytes)
  | stream (state : DecryptStreamState)

structure PreparedDecryptDownload where
  body : DecryptedBody
  metadata : EncryptedObjectMetadata

def prepareDecryptDownload (runtime : CryptoRuntime) (body : ObjectBodyStream)
    (kek : FixedBytes 32) : Except CryptoError PreparedDecryptDownload :=
  match readEnvelopeHeader runtime (StreamCursor.new body) with
  | (.error error, _) => .error error
  | (.ok header, cursor) =>
    let wrapCipher : CipherInstance := ⟨header.metadata.algorithm, kek⟩
    match wrapCipher.decrypt runtime header.keyWrapNonce [] header.wrappedDataKey
        "data key unwrap" with
    | .error error => .error error
    | .ok dataKey =>
      match FixedBytes.ofBytes? 32 dataKey with
      | none =>
        .error (.keyUnwrap
          s!"expected {dataKeyLen} decrypted data-key bytes, got {dataKey.length}")
      | some dataKeyBytes =>
        if header.metadata.plaintextSize = 0 then
          match cursor.ensureEof with
          | (.error error, _) => .error error
          | (.ok (), _) => .ok { body := .bytes [], metadata := header.metadata }
        else
          .ok
            { body := .stream
                { cursor := cursor
                  cipher := ⟨header.metadata.algorithm, dataKeyBytes⟩
                  headerAad := header.headerBytes
                  chunkNoncePrefix := header.chunkNoncePrefix
                  nextChunkIndex := 0
                  remainingPlaintextBytes := header.metadata.plaintextSize }
              metadata := header.metadata }

/-- The download is delivered to its end, with this result. -/
def DecryptedBody.Collects (runtime : CryptoRuntime) (body : DecryptedBody)
    (result : Except BlobError Bytes) : Prop :=
  match body with
  | .bytes content => result = .ok content
  | .stream state => Library.Collects (DecryptStreamState.next runtime) state result

end Netdisk2Blob.ObjectCrypto
