import Netdisk2Blob.ObjectCrypto.RoundTrip

/-!
# Bodies against the Declared Size

The request of an upload declares the size of the plaintext and the size of its chunks. The
header is written from the declaration before the body is read, and the body is never
compared with it; the length of a frame is checked after the chunk is sealed.

## Contents

- `uploads_errorFree`: an upload that ends has read a body without errors
- `encryptUpload_executable_iff`: for which sizes the stream of an upload ends without an
  error
- `Readable`, `readable_iff`: for which bodies an upload that ends can be read back
-/

namespace Netdisk2Blob.ObjectCrypto

open Library Text Blob

section DeclaredSize

variable {runtime : CryptoRuntime} {randomness : UploadRandomness} {request : EncryptRequest}
  {kek : FixedBytes 32} {metadata : EncryptedObjectMetadata}

/-! ## Section 1: What an upload reads -/

/-- The bytes of a body, as far as it has any. -/
def bodyBytes (body : ObjectBodyStream) : Bytes :=
  body.flatMap (fun
    | .ok bytes => bytes
    | .error _ => [])

@[simp] theorem bodyBytes_streamOf (fragments : List Bytes) :
    bodyBytes (streamOf fragments) = fragments.flatten := by
  induction fragments with
  | nil => rfl
  | cons fragment fragments ih =>
    change fragment ++ bodyBytes (streamOf fragments) = _
    rw [ih, List.flatten_cons]

/-- A body without an error. -/
theorem exists_streamOf_iff {body : ObjectBodyStream} :
    (∃ fragments, body = streamOf fragments) ↔ ∀ error, .error error ∉ body := by
  constructor
  · rintro ⟨fragments, rfl⟩ error hmem
    obtain ⟨fragment, -, heq⟩ := List.mem_map.mp hmem
    cases heq
  · intro hnone
    induction body with
    | nil => exact ⟨[], rfl⟩
    | cons item body ih =>
      obtain ⟨fragments, rfl⟩ := ih (fun error hmem => hnone error (List.mem_cons_of_mem item hmem))
      cases item with
      | error error => exact absurd List.mem_cons_self (hnone error)
      | ok bytes => exact ⟨bytes :: fragments, rfl⟩

/-- A chunk comes from a front of the stream without an error, and no chunk comes at its end. -/
theorem nextChunkLoop_consumes {maxLen : Nat} {pending : Bytes} {inner : ObjectBodyStream}
    {chunk : Option Bytes} {chunker : PlaintextChunker}
    (h : PlaintextChunker.nextChunkLoop maxLen pending inner = (.ok chunk, chunker)) :
    (∃ consumed, inner = streamOf consumed ++ chunker.inner) ∧
      (chunk = none → chunker.inner = []) := by
  induction inner generalizing pending with
  | nil =>
    unfold PlaintextChunker.nextChunkLoop at h
    have hnil : chunker.inner = [] := by
      split_ifs at h
      · cases h
        rfl
      · cases h
        rfl
      · cases h
        rfl
    exact ⟨⟨[], by rw [hnil]; rfl⟩, fun _ => hnil⟩
  | cons item inner ih =>
    unfold PlaintextChunker.nextChunkLoop at h
    split at h
    · cases h
      refine ⟨⟨[], rfl⟩, fun hnone => ?_⟩
      cases hnone
    · cases item with
      | error error => cases h
      | ok bytes =>
        obtain ⟨⟨consumed, hconsumed⟩, hend⟩ := ih h
        exact ⟨⟨bytes :: consumed, by rw [hconsumed]; rfl⟩, hend⟩

theorem nextChunk_consumes {maxLen : Nat} {chunker chunker' : PlaintextChunker}
    {chunk : Option Bytes} (h : chunker.nextChunk maxLen = (.ok chunk, chunker')) :
    (∃ consumed, chunker.inner = streamOf consumed ++ chunker'.inner) ∧
      (chunk = none → chunker'.inner = []) := by
  unfold PlaintextChunker.nextChunk at h
  split at h
  · cases h
  · exact nextChunkLoop_consumes h

/-- What one item of the frames reads of the body. -/
theorem encryptNext_consumes {state : EncryptStreamState} (hheader : state.header = none) :
    (state.next runtime = none → ∃ fragments, state.chunker.inner = streamOf fragments) ∧
      ∀ item state', state.next runtime = some (.ok item, state') → state'.header = none ∧
        ∃ consumed, state.chunker.inner = streamOf consumed ++ state'.chunker.inner := by
  unfold EncryptStreamState.next
  simp only [hheader]
  cases hchunk : state.chunker.nextChunk state.chunkPlaintextBytes with
  | mk result chunker =>
    cases result with
    | error error => exact ⟨(nomatch ·), fun item state' h => nomatch h⟩
    | ok chunk =>
      obtain ⟨⟨consumed, hconsumed⟩, hend⟩ := nextChunk_consumes hchunk
      cases chunk with
      | none =>
        refine ⟨fun _ => ⟨consumed, ?_⟩, fun item state' h => nomatch h⟩
        rw [hconsumed, hend rfl, List.append_nil]
      | some plaintext =>
        constructor
        · intro hnone
          dsimp only at hnone
          split at hnone
          · cases hnone
          · split at hnone
            · cases hnone
            · cases hnone
        · intro item state' h
          dsimp only at h
          split at h
          · cases h
          · split at h
            · cases h
              exact ⟨rfl, consumed, hconsumed⟩
            · cases h

/-- A stream of frames that ends has read the rest of its body without an error. -/
theorem collects_errorFree {state : EncryptStreamState} {emitted : Bytes}
    (hheader : state.header = none)
    (h : Collects (EncryptStreamState.next runtime) state (.ok emitted)) :
    ∃ fragments, state.chunker.inner = streamOf fragments := by
  obtain ⟨fuel, hfuel⟩ := h
  -- induction on the number of items
  induction fuel generalizing state emitted with
  | zero => cases hfuel
  | succ fuel ih =>
    obtain ⟨hend, hitem⟩ := @encryptNext_consumes runtime state hheader
    rw [collectFrom] at hfuel
    split at hfuel
    · rename_i hnone
      exact hend hnone
    · cases hfuel
    · rename_i item state' hnext
      obtain ⟨hheader', consumed, hconsumed⟩ := hitem item state' hnext
      obtain ⟨rest, hrest, heq⟩ := Option.map_eq_some_iff.mp hfuel
      cases rest with
      | error error => cases heq
      | ok rest =>
        obtain ⟨fragments, hfragments⟩ := ih hheader' hrest
        refine ⟨consumed ++ fragments, ?_⟩
        rw [hconsumed, hfragments, streamOf, streamOf, streamOf, List.map_append]

/-- An upload that ends has read a body without errors. -/
theorem uploads_errorFree {body : ObjectBodyStream} {envelope : Bytes}
    (h : Uploads runtime randomness body request kek metadata envelope) :
    ∃ fragments, body = streamOf fragments := by
  obtain ⟨encrypted, hupload, -, hcollects⟩ := h
  unfold encryptUpload at hupload
  obtain ⟨planned, -, hwrap⟩ := bind_eq_ok.mp hupload
  obtain ⟨wrappedDataKey, -, hbuild⟩ := bind_eq_ok.mp hwrap
  obtain ⟨headerBytes, -, hencrypted⟩ := bind_eq_ok.mp hbuild
  cases hencrypted
  -- the header is the first item
  obtain ⟨hnone, -⟩ | ⟨item, state', rest, hnext, hrest, -⟩ := collects_ok_iff.mp hcollects
  · cases hnone
  · cases hnext
    exact collects_errorFree rfl hrest

/-! ## Section 2: When an upload ends without an error -/

/-- The longest chunk of a body leaves room for the tag in its frame. -/
def ChunksFit (chunkPlaintextBytes size : Nat) : Prop :=
  min chunkPlaintextBytes size ≤ u32Max - aeadTagLen

instance (chunkPlaintextBytes size : Nat) : Decidable (ChunksFit chunkPlaintextBytes size) :=
  inferInstanceAs (Decidable (_ ≤ _))

/-- A sealed body has chunks that fit. -/
theorem chunksFit_of_frames (hlen : PreservesLength runtime) {cipher : CipherInstance}
    {headerAad frames body : Bytes} {chunkNoncePrefix : FixedBytes 4} {n : Nat} (hpos : 0 < n)
    (h : Frames (Seals runtime cipher headerAad chunkNoncePrefix) 0 (chunksOf n body) frames) :
    ChunksFit n body.length := by
  unfold ChunksFit
  by_cases hne : body = []
  · rw [hne, List.length_nil, Nat.min_zero]
    exact Nat.zero_le _
  · rw [chunksOf_of_ne_nil hpos hne] at h
    obtain ⟨sealed, rest, hseals, hle, -, -⟩ := Frames.cons_iff.mp h
    have hlength := hlen.encrypt hseals
    rw [List.length_take] at hlength
    simp only [u32Max, aeadTagLen] at hle ⊢
    omega

/-- A chunk that leaves no room for its tag is sealed, and then refused. -/
theorem encryptNext_oversized (laws : AeadLaws runtime) {state : EncryptStreamState} {bytes : Bytes}
    (hheader : state.header = none) (haad : state.headerAad.length ≤ u32Max)
    (hpos : 0 < state.chunkPlaintextBytes) (hchunk : state.chunkPlaintextBytes ≤ u32Max)
    (hholds : Holds state.chunker.pending state.chunker.inner bytes)
    (hfit : ¬ ChunksFit state.chunkPlaintextBytes bytes.length) :
    ∃ state', state.next runtime =
      some (.error (.bodyStream "encrypted chunk length exceeds u32"), state') := by
  have hne : bytes ≠ [] := by
    rintro rfl
    apply hfit
    rw [ChunksFit, List.length_nil, Nat.min_zero]
    exact Nat.zero_le _
  obtain ⟨chunker, hnext, -⟩ := nextChunk_spec hpos hholds
  rw [if_neg hne] at hnext
  have htake : (bytes.take state.chunkPlaintextBytes).length =
      min state.chunkPlaintextBytes bytes.length := List.length_take
  obtain ⟨sealed, hsealed⟩ := @AeadLaws.exists_encrypt runtime state.cipher
    (chunkNonce state.chunkNoncePrefix state.nextChunkIndex) state.headerAad
    (bytes.take state.chunkPlaintextBytes) "object chunk" laws haad
    (by rw [htake]; exact (min_le_left _ _).trans hchunk)
  have hlong : ¬ sealed.length ≤ u32Max := by
    have hlength := laws.toPreservesLength.encrypt hsealed
    rw [htake] at hlength
    simp only [ChunksFit, u32Max, aeadTagLen] at hfit ⊢
    omega
  unfold EncryptStreamState.next
  simp only [hheader, hnext, hsealed, if_neg hlong]
  exact ⟨_, rfl⟩

/-- The state in which an upload starts. -/
theorem encryptUpload_eq_ok (laws : AeadLaws runtime) (haccepted : request.Accepted)
    (body : ObjectBodyStream) :
    ∃ header : Bytes, header.length ≤ u32Max ∧
      encryptUpload runtime randomness body request kek = .ok
        { body :=
            { header := some header
              headerAad := header
              chunker := PlaintextChunker.new body
              cipher := ⟨(request.metadata runtime).algorithm, randomness.dataKey⟩
              chunkPlaintextBytes := request.chunkPlaintextBytes
              chunkNoncePrefix := randomness.chunkNoncePrefix
              nextChunkIndex := 0 }
          metadata := request.metadata runtime } := by
  obtain ⟨wrappedDataKey, hwraps⟩ : ∃ wrappedDataKey,
      Wraps runtime kek (request.metadata runtime).algorithm randomness wrappedDataKey :=
    laws.exists_encrypt (Nat.zero_le _) (by rw [randomness.dataKey.length_eq]; decide)
  have hwrapped := length_wrapped laws.toPreservesLength hwraps
  have hwell := @EncryptRequest.wellFormed_header runtime request wrappedDataKey
    randomness.keyWrapNonce randomness.chunkNoncePrefix haccepted hwrapped
  have hlen := EnvelopeHeader.headerLen_le hwell
  refine ⟨(request.header runtime wrappedDataKey randomness.keyWrapNonce
    randomness.chunkNoncePrefix).bytes, ?_, ?_⟩
  · rwa [EnvelopeHeader.bytes, List.length_append, FixedBytes.length_bytes]
  · unfold encryptUpload
    refine bind_eq_ok.mpr ⟨_, plannedMetadata_ok_iff.mpr ⟨haccepted, rfl⟩, ?_⟩
    refine bind_eq_ok.mpr ⟨_, hwraps, ?_⟩
    exact bind_eq_ok.mpr ⟨_, EncryptRequest.buildEnvelopeHeader_eq haccepted hwrapped, rfl⟩

/-- An upload of an error-free body ends when its chunks fit. -/
theorem exists_uploads_iff (laws : AeadLaws runtime) (haccepted : request.Accepted)
    {fragments : List Bytes} :
    (∃ envelope, Uploads runtime randomness (streamOf fragments) request kek
        (request.metadata runtime) envelope) ↔
      ChunksFit request.chunkPlaintextBytes fragments.flatten.length := by
  constructor
  · rintro ⟨envelope, hupload⟩
    obtain ⟨-, -, wrappedDataKey, frames, -, -, hframes⟩ :=
      (uploads_iff laws.toPreservesLength).mp hupload
    exact chunksFit_of_frames laws.toPreservesLength haccepted.chunk_pos hframes
  · intro hfit
    obtain ⟨header, hheader, hupload⟩ :=
      @encryptUpload_eq_ok runtime randomness request kek laws haccepted (streamOf fragments)
    obtain ⟨frames, hframes⟩ := @exists_frames_sealed runtime laws
      ⟨(request.metadata runtime).algorithm, randomness.dataKey⟩ header
      randomness.chunkNoncePrefix _ haccepted.chunk_pos fragments.flatten hfit hheader
    refine ⟨header ++ frames, _, hupload, rfl, ?_⟩
    exact collects_ok_iff.mpr (Or.inr ⟨header, _, frames, rfl,
      (encryptStream_collects_iff rfl rfl haccepted.chunk_pos
        (holds_streamOf fragments)).mpr hframes, rfl⟩)

/-- **Executable requests**: the upload of a body of the declared size starts, and its stream
ends without an error exactly when its longest chunk and a tag fit in a frame. -/
theorem encryptUpload_executable_iff (laws : AeadLaws runtime) (request : EncryptRequest)
    (metadata : EncryptedObjectMetadata) (hplan : request.plannedMetadata runtime = .ok metadata)
    (kek : FixedBytes 32) (randomness : UploadRandomness) (fragments : List Bytes)
    (hsize : fragments.flatten.length = request.plaintextSize) :
    ∃ encrypted,
      encryptUpload runtime randomness (streamOf fragments) request kek = .ok encrypted ∧
      ((∃ envelope, Collects (EncryptStreamState.next runtime) encrypted.body (.ok envelope)) ↔
        ChunksFit request.chunkPlaintextBytes request.plaintextSize) ∧
      ((∃ error, Collects (EncryptStreamState.next runtime) encrypted.body (.error error)) ↔
        ¬ ChunksFit request.chunkPlaintextBytes request.plaintextSize) := by
  obtain ⟨haccepted, rfl⟩ := plannedMetadata_ok_iff.mp hplan
  obtain ⟨header, hheader, hupload⟩ :=
    @encryptUpload_eq_ok runtime randomness request kek laws haccepted (streamOf fragments)
  refine ⟨_, hupload, ?_⟩
  have hholds := holds_streamOf fragments
  by_cases hfit : ChunksFit request.chunkPlaintextBytes request.plaintextSize
  · -- the chunks are sealed one after the other
    obtain ⟨envelope, encrypted, hupload', -, hcollects⟩ :=
      (@exists_uploads_iff runtime randomness request kek laws haccepted fragments).mpr
        (hsize ▸ hfit)
    cases hupload.symm.trans hupload'
    refine ⟨iff_of_true ⟨_, hcollects⟩ hfit, iff_of_false ?_ (not_not.mpr hfit)⟩
    rintro ⟨error, herror⟩
    cases collects_unique hcollects herror
  · -- the first chunk is refused
    obtain ⟨state', hnext⟩ := @encryptNext_oversized runtime laws
      { header := none
        headerAad := header
        chunker := PlaintextChunker.new (streamOf fragments)
        cipher := ⟨(request.metadata runtime).algorithm, randomness.dataKey⟩
        chunkPlaintextBytes := request.chunkPlaintextBytes
        chunkNoncePrefix := randomness.chunkNoncePrefix
        nextChunkIndex := 0 } fragments.flatten rfl hheader haccepted.chunk_pos
      haccepted.chunk_le hholds (hsize ▸ hfit)
    have hcollects : Collects (EncryptStreamState.next runtime)
        { header := some header
          headerAad := header
          chunker := PlaintextChunker.new (streamOf fragments)
          cipher := ⟨(request.metadata runtime).algorithm, randomness.dataKey⟩
          chunkPlaintextBytes := request.chunkPlaintextBytes
          chunkNoncePrefix := randomness.chunkNoncePrefix
          nextChunkIndex := 0 } (.error (.bodyStream "encrypted chunk length exceeds u32")) :=
      collects_item rfl (collects_error hnext)
    refine ⟨iff_of_false ?_ hfit, iff_of_true ⟨_, hcollects⟩ hfit⟩
    rintro ⟨envelope, henvelope⟩
    cases collects_unique hcollects henvelope

/-- A request for one chunk of the largest size that is accepted. -/
def largestChunkRequest (plaintextSize : Nat) : EncryptRequest where
  profileId := "profile"
  keyId := "key"
  algorithmPreference := .chaCha20Poly1305
  chunkPlaintextBytes := u32Max
  plaintextSize := plaintextSize
  logicalContentType := none

theorem largestChunkRequest_short_executable :
    ∃ encrypted, encryptUpload checksumRuntime ⟨.replicate 32 7, .replicate 12 1, .replicate 4 2⟩
        (streamOf [[1, 2, 3]]) (largestChunkRequest 3) (.replicate 32 9) = .ok encrypted ∧
      ∃ envelope, Collects (EncryptStreamState.next checksumRuntime) encrypted.body
        (.ok envelope) := by
  obtain ⟨encrypted, hupload, hends, -⟩ :=
    encryptUpload_executable_iff checksumRuntime_lawful (largestChunkRequest 3)
      ((largestChunkRequest 3).metadata checksumRuntime) rfl (.replicate 32 9)
      ⟨.replicate 32 7, .replicate 12 1, .replicate 4 2⟩ [[1, 2, 3]] rfl
  exact ⟨encrypted, hupload, hends.mpr (by decide)⟩

/-- The full chunk is accepted, and its upload yields an error. -/
theorem largestChunkRequest_full_fails :
    (∃ metadata, (largestChunkRequest u32Max).plannedMetadata checksumRuntime = .ok metadata) ∧
      ∃ encrypted error,
        encryptUpload checksumRuntime ⟨.replicate 32 7, .replicate 12 1, .replicate 4 2⟩
          (streamOf [List.replicate u32Max 0]) (largestChunkRequest u32Max) (.replicate 32 9) =
            .ok encrypted ∧
        Collects (EncryptStreamState.next checksumRuntime) encrypted.body (.error error) := by
  have haccepted : (largestChunkRequest u32Max).Accepted :=
    ⟨by decide, by decide, by decide, by decide, by decide, by decide, by decide, by decide⟩
  refine ⟨⟨_, plannedMetadata_ok_iff.mpr ⟨haccepted, rfl⟩⟩, ?_⟩
  -- only the length of the body counts
  obtain ⟨content, hcontent⟩ : ∃ content : Bytes, content = List.replicate u32Max 0 := ⟨_, rfl⟩
  have hlength : [content].flatten.length = u32Max := by
    rw [List.flatten_singleton, hcontent, List.length_replicate]
  rw [← hcontent]
  obtain ⟨header, hheader, hupload⟩ := @encryptUpload_eq_ok checksumRuntime
    ⟨.replicate 32 7, .replicate 12 1, .replicate 4 2⟩ (largestChunkRequest u32Max)
    (.replicate 32 9) checksumRuntime_lawful haccepted (streamOf [content])
  have hpos : 0 < u32Max := by decide
  have hfit : ¬ ChunksFit u32Max u32Max := by decide
  obtain ⟨state', hnext⟩ := @encryptNext_oversized checksumRuntime checksumRuntime_lawful
    { header := none
      headerAad := header
      chunker := PlaintextChunker.new (streamOf [content])
      cipher := ⟨.chaCha20Poly1305, .replicate 32 7⟩
      chunkPlaintextBytes := u32Max
      chunkNoncePrefix := .replicate 4 2
      nextChunkIndex := 0 } _ rfl hheader hpos le_rfl (holds_streamOf _)
    (by rwa [hlength])
  exact ⟨_, _, hupload, collects_item rfl (collects_error hnext)⟩

/-! ## Section 3: When an upload that ends can be read back -/

/-- An upload that ends is delivered with the bytes of its body, whatever the fragments of
what it emitted. -/
def Readable (runtime : CryptoRuntime) (randomness : UploadRandomness) (body : ObjectBodyStream)
    (request : EncryptRequest) (kek : FixedBytes 32) : Prop :=
  ∀ metadata envelope, Uploads runtime randomness body request kek metadata envelope →
    ∀ fragments, fragments.flatten = envelope →
      ∃ metadata', Delivers runtime (streamOf fragments) kek metadata' (bodyBytes body)

/-- What is delivered has the size in the header of the upload. -/
theorem size_of_delivers (hlen : PreservesLength runtime) {envelope delivered : Bytes}
    {fragments : List Bytes} {metadata' : EncryptedObjectMetadata}
    (h : Uploads runtime randomness (streamOf fragments) request kek metadata envelope)
    (hdelivers : Delivers runtime (streamOf [envelope]) kek metadata' delivered) :
    delivered.length = request.plaintextSize := by
  obtain ⟨haccepted, -, wrappedDataKey, frames, hwraps, henvelope, -⟩ := (uploads_iff hlen).mp h
  have hwell := @EncryptRequest.wellFormed_header runtime request wrappedDataKey
    randomness.keyWrapNonce randomness.chunkNoncePrefix haccepted (length_wrapped hlen hwraps)
  obtain ⟨delivery, -, rfl⟩ := delivers_iff.mp hdelivers
  have hinput := henvelope.symm.trans (List.flatten_singleton.symm.trans delivery.input_eq)
  have hheaders := (header_unique runtime hwell delivery.wellFormed hinput).1
  have hsize : request.plaintextSize = delivery.header.plaintextSize :=
    congrArg (fun parsed => parsed.metadata.plaintextSize) hheaders
  rw [delivery.size_eq, hsize]

/-- **Readable uploads**: an upload that ends can be read back exactly when the body has the
declared size; it does not end when the body yields an error or a chunk is too long. -/
theorem readable_iff (laws : AeadLaws runtime) (request : EncryptRequest)
    (metadata : EncryptedObjectMetadata) (hplan : request.plannedMetadata runtime = .ok metadata)
    (kek : FixedBytes 32) (randomness : UploadRandomness) (body : ObjectBodyStream) :
    Readable runtime randomness body request kek ↔
      (∃ error, .error error ∈ body) ∨
      ¬ ChunksFit request.chunkPlaintextBytes (bodyBytes body).length ∨
      (bodyBytes body).length = request.plaintextSize := by
  obtain ⟨haccepted, rfl⟩ := plannedMetadata_ok_iff.mp hplan
  constructor
  · intro hreadable
    by_cases herror : ∃ error, .error error ∈ body
    · exact Or.inl herror
    · right
      obtain ⟨fragments, rfl⟩ := exists_streamOf_iff.mpr (not_exists.mp herror)
      rw [bodyBytes_streamOf]
      by_cases hfit : ChunksFit request.chunkPlaintextBytes fragments.flatten.length
      · right
        obtain ⟨envelope, hupload⟩ := (exists_uploads_iff laws haccepted).mpr hfit
        obtain ⟨metadata', hdelivers⟩ :=
          hreadable _ envelope hupload [envelope] List.flatten_singleton
        rw [bodyBytes_streamOf] at hdelivers
        exact size_of_delivers laws.toPreservesLength hupload hdelivers
      · exact Or.inl hfit
  · intro hcondition metadata envelope hupload fragments hfragments
    obtain ⟨own, rfl⟩ := uploads_errorFree hupload
    rw [bodyBytes_streamOf] at hcondition ⊢
    rcases hcondition with ⟨error, herror⟩ | hunfit | hsize
    · exact absurd herror (exists_streamOf_iff.mp ⟨own, rfl⟩ error)
    · obtain ⟨-, -, wrappedDataKey, frames, -, -, hframes⟩ :=
        (uploads_iff laws.toPreservesLength).mp hupload
      exact absurd (chunksFit_of_frames laws.toPreservesLength haccepted.chunk_pos hframes) hunfit
    · exact ⟨_, delivers_of_uploads laws hupload hsize hfragments⟩

theorem twoChunkRequest_readable :
    Readable checksumRuntime ⟨.replicate 32 7, .replicate 12 1, .replicate 4 2⟩
      (streamOf [[1, 2, 3], [], [4, 5, 6]]) twoChunkRequest (.replicate 32 9) :=
  (readable_iff checksumRuntime_lawful twoChunkRequest (twoChunkRequest.metadata checksumRuntime)
    rfl (.replicate 32 9) ⟨.replicate 32 7, .replicate 12 1, .replicate 4 2⟩
    (streamOf [[1, 2, 3], [], [4, 5, 6]])).mpr (Or.inr (Or.inr rfl))

/-- A body one byte short is sealed without an error, and its download fails. -/
theorem short_body_unreadable :
    (∃ metadata envelope, Uploads checksumRuntime
        ⟨.replicate 32 7, .replicate 12 1, .replicate 4 2⟩ (streamOf [[1, 2, 3, 4, 5]])
        twoChunkRequest (.replicate 32 9) metadata envelope) ∧
      ¬ Readable checksumRuntime ⟨.replicate 32 7, .replicate 12 1, .replicate 4 2⟩
        (streamOf [[1, 2, 3, 4, 5]]) twoChunkRequest (.replicate 32 9) := by
  have hupload : ∃ envelope, Uploads checksumRuntime
      ⟨.replicate 32 7, .replicate 12 1, .replicate 4 2⟩ (streamOf [[1, 2, 3, 4, 5]])
      twoChunkRequest (.replicate 32 9) (twoChunkRequest.metadata checksumRuntime) envelope :=
    (exists_uploads_iff checksumRuntime_lawful
      (plannedMetadata_ok_iff.mp (rfl : twoChunkRequest.plannedMetadata checksumRuntime =
        .ok (twoChunkRequest.metadata checksumRuntime))).1).mpr (by decide)
  obtain ⟨envelope, hupload⟩ := hupload
  refine ⟨⟨_, envelope, hupload⟩, ?_⟩
  intro hreadable
  obtain ⟨metadata', hdelivers⟩ :=
    hreadable _ envelope hupload [envelope] List.flatten_singleton
  rw [bodyBytes_streamOf] at hdelivers
  have hsize := size_of_delivers checksumRuntime_lawful.toPreservesLength hupload hdelivers
  cases hsize

end DeclaredSize

end Netdisk2Blob.ObjectCrypto
