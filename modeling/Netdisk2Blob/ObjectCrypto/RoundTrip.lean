import Netdisk2Blob.ObjectCrypto.Framing

/-!
# The Envelope Round Trip

An upload of a body of the declared size emits one envelope, however the body is
fragmented; it has the size that the metadata promise, and a download of it, however it is
fragmented, gives the body and the metadata back.

## Contents

- `Uploads.unique`, `Delivers.unique`: a run has one result
- `exists_frames_sealed`: a body can be sealed
- `checksumRuntime`: a small lawful cipher, for examples
- `delivers_of_uploads`, `envelope_round_trip`: the round trip
-/

namespace Netdisk2Blob.ObjectCrypto

open Library Text Blob

section RoundTrip

variable {runtime : CryptoRuntime} {randomness : UploadRandomness} {request : EncryptRequest}
  {kek : FixedBytes 32} {metadata metadata' : EncryptedObjectMetadata}

/-! ## Section 1: Runs are deterministic -/

theorem Uploads.unique {body : ObjectBodyStream} {envelope envelope' : Bytes}
    (h : Uploads runtime randomness body request kek metadata envelope)
    (h' : Uploads runtime randomness body request kek metadata' envelope') :
    metadata = metadata' ∧ envelope = envelope' := by
  obtain ⟨encrypted, hupload, rfl, hcollects⟩ := h
  obtain ⟨encrypted', hupload', rfl, hcollects'⟩ := h'
  cases hupload.symm.trans hupload'
  exact ⟨rfl, Except.ok.inj (collects_unique hcollects hcollects')⟩

theorem Delivers.unique {input : ObjectBodyStream} {body body' : Bytes}
    (h : Delivers runtime input kek metadata body)
    (h' : Delivers runtime input kek metadata' body') : metadata = metadata' ∧ body = body' := by
  obtain ⟨prepared, hprepare, rfl, hcollects⟩ := h
  obtain ⟨prepared', hprepare', rfl, hcollects'⟩ := h'
  cases hprepare.symm.trans hprepare'
  refine ⟨rfl, ?_⟩
  cases hbody : prepared.body with
  | bytes content =>
    rw [hbody] at hcollects hcollects'
    exact Except.ok.inj (hcollects.trans hcollects'.symm)
  | stream state =>
    rw [hbody] at hcollects hcollects'
    exact Except.ok.inj (collects_unique hcollects hcollects')

/-! ## Section 2: Sealing a body -/

/-- A body can be sealed when its longest chunk leaves room for the tag in its frame. -/
theorem exists_frames_sealed (laws : AeadLaws runtime) {cipher : CipherInstance}
    {headerAad : Bytes} {chunkNoncePrefix : FixedBytes 4} {n : Nat} (hpos : 0 < n) {body : Bytes}
    (hn : min n body.length ≤ u32Max - aeadTagLen) (haad : headerAad.length ≤ u32Max) :
    ∃ frames, Frames (Seals runtime cipher headerAad chunkNoncePrefix) 0 (chunksOf n body)
      frames := by
  apply Frames.exists_frames
  intro k plaintext hmem
  have hle : plaintext.length ≤ min n body.length := by
    have hin := List.Sublist.length_le (List.sublist_flatten_of_mem hmem)
    rw [flatten_chunksOf hpos] at hin
    exact le_min (mem_chunksOf hpos hmem).2 hin
  simp only [u32Max, aeadTagLen] at hn
  obtain ⟨sealed, hsealed⟩ := @AeadLaws.exists_encrypt runtime cipher
    (chunkNonce chunkNoncePrefix (min k u64Max)) headerAad plaintext "object chunk" laws haad
    (by simp only [u32Max]; omega)
  refine ⟨sealed, hsealed, ?_⟩
  rw [laws.toPreservesLength.encrypt hsealed]
  simp only [u32Max]
  omega

/-- The frames of a body are the body and twenty bytes for each chunk. -/
theorem length_frames_sealed (hlen : PreservesLength runtime) {cipher : CipherInstance}
    {headerAad frames body : Bytes} {chunkNoncePrefix : FixedBytes 4} {n : Nat} (hpos : 0 < n)
    (h : Frames (Seals runtime cipher headerAad chunkNoncePrefix) 0 (chunksOf n body) frames) :
    frames.length = body.length + chunkCount body.length n * 20 := by
  rw [Frames.length_eq (fun hseals => hlen.encrypt hseals) h, flatten_chunksOf hpos,
    length_chunksOf hpos]
  rfl

/-! ## Section 3: A lawful cipher -/

/-- The sum of some bytes. -/
def checksum (bytes : Bytes) : UInt8 := bytes.foldl (· + ·) 0

/-- The tag of the small cipher. -/
def checksumTag (nonce : FixedBytes 12) (aad plaintext : Bytes) : FixedBytes 16 :=
  FixedBytes.replicate 16 (checksum (nonce.bytes ++ aad ++ plaintext))

/-- A cipher that adds a key byte to every byte and whose tag is a checksum. -/
def checksumRuntime : CryptoRuntime where
  autoRuntimeAlgorithm := .chaCha20Poly1305
  utf8ErrorText _ := "invalid utf-8 sequence"
  encryptDetached _ key nonce aad plaintext :=
    some (plaintext.map (· + checksum key.bytes), checksumTag nonce aad plaintext)
  decryptDetached _ key nonce aad buffer tag :=
    let plaintext := buffer.map (· - checksum key.bytes)
    if tag = checksumTag nonce aad plaintext then some plaintext else none

theorem checksumRuntime_lawful : AeadLaws checksumRuntime where
  encrypts := fun _ _ _ _ _ _ _ => ⟨_, rfl⟩
  length_eq := by
    intro algorithm key nonce aad plaintext buffer tag h
    cases h
    exact List.length_map _
  decrypts := by
    intro algorithm key nonce aad plaintext buffer tag h
    cases h
    have hmap : (plaintext.map (· + checksum key.bytes)).map (· - checksum key.bytes) =
        plaintext := by
      rw [List.map_map]
      exact List.map_congr_left (fun byte _ => UInt8.add_sub_cancel byte _) |>.trans
        (List.map_id _)
    simp only [checksumRuntime, hmap, if_true]

/-! ## Section 4: The round trip -/

/-- An upload of a body of the declared size is delivered with this body, whatever the
fragments of its envelope. -/
theorem delivers_of_uploads (laws : AeadLaws runtime) {fragments fragments' : List Bytes}
    {envelope : Bytes} (h : Uploads runtime randomness (streamOf fragments) request kek metadata
      envelope) (hsize : fragments.flatten.length = request.plaintextSize)
    (hfragments : fragments'.flatten = envelope) :
    Delivers runtime (streamOf fragments') kek (request.trimmedMetadata runtime)
      fragments.flatten := by
  obtain ⟨haccepted, rfl, wrappedDataKey, frames, hwraps, rfl, hframes⟩ :=
    (uploads_iff laws.toPreservesLength).mp h
  have hwrapped := length_wrapped laws.toPreservesLength hwraps
  obtain ⟨header, hheader⟩ : ∃ header, header = request.header runtime wrappedDataKey
      randomness.keyWrapNonce randomness.chunkNoncePrefix := ⟨_, rfl⟩
  have hwell : header.WellFormed :=
    hheader ▸ EncryptRequest.wellFormed_header haccepted hwrapped
  -- every frame opens to the chunk it seals
  have hopens : Frames (Opens runtime ⟨header.algorithm, randomness.dataKey⟩ header.bytes
      header.chunkNoncePrefix) 0 (chunksOf request.chunkPlaintextBytes fragments.flatten)
        frames := by
    subst hheader
    apply hframes.imp
    intro k plaintext sealed _ hseals
    exact laws.decrypt_encrypt hseals
  have hunwraps : CipherInstance.decrypt runtime ⟨header.algorithm, kek⟩ header.keyWrapNonce []
      header.wrappedDataKey "data key unwrap" = .ok randomness.dataKey.bytes := by
    subst hheader
    exact laws.decrypt_encrypt hwraps
  have hflatten : (chunksOf request.chunkPlaintextBytes fragments.flatten).flatten.length =
      header.plaintextSize := by
    rw [flatten_chunksOf haccepted.chunk_pos, hsize, hheader]
    rfl
  have hnonempty : ∀ plaintext ∈ chunksOf request.chunkPlaintextBytes fragments.flatten,
      plaintext ≠ [] := by
    intro plaintext hmem
    exact List.length_pos_iff.mp (mem_chunksOf haccepted.chunk_pos hmem).1
  apply delivers_iff.mpr
  refine ⟨⟨header, randomness.dataKey, _, frames, hwell, hheader ▸ hfragments, hunwraps,
    hnonempty, hflatten, hopens⟩, ?_, (flatten_chunksOf haccepted.chunk_pos _).symm⟩
  show request.trimmedMetadata runtime = header.request.metadata runtime
  rw [hheader]
  exact EncryptRequest.metadata_header.symm

/-- Every body of the declared size is sealed in an envelope of the promised size, whatever
its fragments; and the envelope opens to that body and the metadata, ids trimmed, whatever
its fragments. -/
theorem envelope_round_trip (laws : AeadLaws runtime) (request : EncryptRequest)
    (metadata : EncryptedObjectMetadata) (hplan : request.plannedMetadata runtime = .ok metadata)
    (hchunk : request.chunkPlaintextBytes ≤ u32Max - aeadTagLen) (kek : FixedBytes 32)
    (randomness : UploadRandomness) (body : Bytes) (hbody : body.length = request.plaintextSize) :
    ∃ envelope, envelope.length = metadata.storedSize ∧
      (∀ fragments, fragments.flatten = body → ∀ metadata' envelope',
        Uploads runtime randomness (streamOf fragments) request kek metadata' envelope' ↔
          metadata' = metadata ∧ envelope' = envelope) ∧
      ∀ fragments, fragments.flatten = envelope → ∀ metadata' body',
        Delivers runtime (streamOf fragments) kek metadata' body' ↔
          metadata' = { metadata with
            profileId := trim metadata.profileId
            keyId := trim metadata.keyId } ∧
          body' = body := by
  obtain ⟨haccepted, rfl⟩ := plannedMetadata_ok_iff.mp hplan
  -- the data key is wrapped, and the header with it
  obtain ⟨wrappedDataKey, hwraps⟩ : ∃ wrappedDataKey,
      Wraps runtime kek (request.metadata runtime).algorithm randomness wrappedDataKey :=
    laws.exists_encrypt (Nat.zero_le _) (by rw [randomness.dataKey.length_eq]; decide)
  have hwrapped := length_wrapped laws.toPreservesLength hwraps
  obtain ⟨header, hheader⟩ : ∃ header, header = request.header runtime wrappedDataKey
      randomness.keyWrapNonce randomness.chunkNoncePrefix := ⟨_, rfl⟩
  have hwell : header.WellFormed :=
    hheader ▸ EncryptRequest.wellFormed_header haccepted hwrapped
  have hheaderLen : header.bytes.length = request.headerLen :=
    hheader ▸ EncryptRequest.length_header hwrapped
  have haad : header.bytes.length ≤ u32Max := by
    have hle := EnvelopeHeader.headerLen_le hwell
    rwa [EnvelopeHeader.bytes, List.length_append, FixedBytes.length_bytes]
  -- the chunks are sealed
  obtain ⟨frames, hframes⟩ := @exists_frames_sealed runtime laws
    ⟨(request.metadata runtime).algorithm, randomness.dataKey⟩ header.bytes
    randomness.chunkNoncePrefix _ haccepted.chunk_pos body ((min_le_left _ _).trans hchunk) haad
  have huploads : ∀ fragments : List Bytes, fragments.flatten = body →
      Uploads runtime randomness (streamOf fragments) request kek (request.metadata runtime)
        (header.bytes ++ frames) := by
    rintro fragments rfl
    subst hheader
    exact (uploads_iff laws.toPreservesLength).mpr
      ⟨haccepted, rfl, wrappedDataKey, frames, hwraps, rfl, hframes⟩
  refine ⟨header.bytes ++ frames, ?_, ?_, ?_⟩
  · rw [List.length_append, hheaderLen,
      length_frames_sealed laws.toPreservesLength haccepted.chunk_pos hframes, hbody, ← Nat.add_assoc]
    rfl
  · rintro fragments rfl metadata' envelope'
    have hupload := huploads fragments rfl
    constructor
    · intro hupload'
      exact hupload'.unique hupload
    · rintro ⟨rfl, rfl⟩
      exact hupload
  · intro fragments hfragments metadata' body'
    have hsize : [body].flatten.length = request.plaintextSize := by
      rw [List.flatten_singleton, hbody]
    have hdelivers := delivers_of_uploads laws (huploads [body] List.flatten_singleton) hsize
      hfragments
    rw [List.flatten_singleton] at hdelivers
    constructor
    · intro hdelivers'
      exact hdelivers'.unique hdelivers
    · rintro ⟨rfl, rfl⟩
      exact hdelivers

/-- A request for a full chunk and a short one, with an id that is trimmed. -/
def twoChunkRequest : EncryptRequest where
  profileId := " profile"
  keyId := "key"
  algorithmPreference := .auto
  chunkPlaintextBytes := 4
  plaintextSize := 6
  logicalContentType := none

theorem envelope_round_trip_two_chunks :
    ∃ envelope, envelope.length = 154 ∧
      Uploads checksumRuntime ⟨.replicate 32 7, .replicate 12 1, .replicate 4 2⟩
        (streamOf [[1, 2, 3], [], [4, 5, 6]]) twoChunkRequest (.replicate 32 9)
        (twoChunkRequest.metadata checksumRuntime) envelope ∧
      Delivers checksumRuntime (streamOf [envelope]) (.replicate 32 9)
        { twoChunkRequest.metadata checksumRuntime with profileId := "profile" }
        [1, 2, 3, 4, 5, 6] := by
  obtain ⟨envelope, hlen, huploads, hdelivers⟩ :=
    envelope_round_trip checksumRuntime_lawful twoChunkRequest
      (twoChunkRequest.metadata checksumRuntime) rfl (by decide) (.replicate 32 9)
      ⟨.replicate 32 7, .replicate 12 1, .replicate 4 2⟩ [1, 2, 3, 4, 5, 6] rfl
  refine ⟨envelope, hlen, ?_, ?_⟩
  · exact (huploads _ rfl _ _).mpr ⟨rfl, rfl⟩
  · exact (hdelivers [envelope] (by simp) _ _).mpr ⟨rfl, rfl⟩

end RoundTrip

end Netdisk2Blob.ObjectCrypto
