import Netdisk2Blob.ObjectCrypto.Streams
import Netdisk2Blob.Library.Frames

/-!
# What the Two Streams Emit

Both streams of the crate are described by the frames of a list of chunks: the upload
seals the chunks of the body, the download opens frames until the size of the header is
reached.

## Contents

- `Seals`, `Opens`: a chunk and its frame payload, for the number of the frame
- `encryptStream_collects_iff`, `decryptStream_collects_iff`: the streams, from any
  state of their buffers
- `readEnvelopeHeader_ok`, `readEnvelopeHeader_bytes`: the header at the front of a stream
- `Uploads`, `Delivers`: a whole upload and a whole download, with `uploads_iff` and
  `delivers_iff`
-/

namespace Netdisk2Blob.ObjectCrypto

open Library Text Blob

/-! ## Section 1: Chunks -/

/-- Chunk `k` is sealed as this payload. -/
def Seals (runtime : CryptoRuntime) (cipher : CipherInstance) (headerAad : Bytes)
    (chunkNoncePrefix : FixedBytes 4) (k : Nat) (plaintext sealed : Bytes) : Prop :=
  cipher.encrypt runtime (chunkNonce chunkNoncePrefix (min k u64Max)) headerAad plaintext
    "object chunk" = .ok sealed

/-- The payload of frame `k` opens to this chunk. -/
def Opens (runtime : CryptoRuntime) (cipher : CipherInstance) (headerAad : Bytes)
    (chunkNoncePrefix : FixedBytes 4) (k : Nat) (plaintext sealed : Bytes) : Prop :=
  cipher.decrypt runtime (chunkNonce chunkNoncePrefix (min k u64Max)) headerAad sealed
    "object chunk" = .ok plaintext

/-- The counter after the chunk with number `k`. -/
theorem saturatingAddU64_min (k : Nat) :
    saturatingAddU64 (min k u64Max) 1 = min (k + 1) u64Max := by
  unfold saturatingAddU64
  omega

section Chunks

variable {runtime : CryptoRuntime} {cipher : CipherInstance} {headerAad : Bytes}
  {chunkNoncePrefix : FixedBytes 4} {k : Nat} {plaintext sealed : Bytes}

theorem Seals.unique {sealed' : Bytes}
    (h : Seals runtime cipher headerAad chunkNoncePrefix k plaintext sealed)
    (h' : Seals runtime cipher headerAad chunkNoncePrefix k plaintext sealed') :
    sealed = sealed' :=
  Except.ok.inj (h.symm.trans h')

theorem Opens.tag_le (h : Opens runtime cipher headerAad chunkNoncePrefix k plaintext sealed) :
    aeadTagLen ≤ sealed.length := by
  obtain ⟨buffer, tag, rfl, -⟩ := decrypt_eq_ok.mp h
  rw [List.length_append, tag.length_eq, aeadTagLen]
  omega

end Chunks

/-! ## Section 2: The upload stream -/

section Upload

variable {runtime : CryptoRuntime} {state : EncryptStreamState} {k : Nat} {bytes : Bytes}

/-- At the end of the body the stream ends. -/
theorem encryptNext_nil (hheader : state.header = none) (hpos : 0 < state.chunkPlaintextBytes)
    (hholds : Holds state.chunker.pending state.chunker.inner []) :
    state.next runtime = none := by
  obtain ⟨chunker, hnext, -⟩ := nextChunk_spec hpos hholds
  unfold EncryptStreamState.next
  simp only [hheader, hnext, if_true]

/-- One chunk of the upload stream. -/
theorem encryptNext_cons (hheader : state.header = none)
    (hindex : state.nextChunkIndex = min k u64Max) (hpos : 0 < state.chunkPlaintextBytes)
    (hholds : Holds state.chunker.pending state.chunker.inner bytes) (hne : bytes ≠ []) :
    ∃ chunker : PlaintextChunker,
      Holds chunker.pending chunker.inner (bytes.drop state.chunkPlaintextBytes) ∧
      state.next runtime ≠ none ∧
      ∀ item state', state.next runtime = some (.ok item, state') ↔
        ∃ sealed, Seals runtime state.cipher state.headerAad state.chunkNoncePrefix k
            (bytes.take state.chunkPlaintextBytes) sealed ∧
          sealed.length ≤ u32Max ∧ item = frameBytes sealed ∧
          state' = { state with
            chunker := chunker
            nextChunkIndex := min (k + 1) u64Max } := by
  obtain ⟨chunker, hnext, hrest⟩ := nextChunk_spec hpos hholds
  rw [if_neg hne] at hnext
  refine ⟨chunker, hrest, ?_⟩
  unfold EncryptStreamState.next Seals
  simp only [hheader, hnext, hindex, saturatingAddU64_min]
  cases hsealed : state.cipher.encrypt runtime
      (chunkNonce state.chunkNoncePrefix (min k u64Max)) state.headerAad
      (bytes.take state.chunkPlaintextBytes) "object chunk" with
  | error error => simp
  | ok sealed =>
    by_cases hlen : sealed.length ≤ u32Max
    · simp only [if_pos hlen]
      refine ⟨by simp, fun item state' => ?_⟩
      constructor
      · intro h
        cases h
        exact ⟨sealed, rfl, hlen, rfl, rfl⟩
      · rintro ⟨sealed', hsealed', -, rfl, rfl⟩
        cases hsealed'
        rfl
    · simp only [if_neg hlen]
      refine ⟨by simp, fun item state' => ?_⟩
      constructor
      · intro h
        cases h
      · rintro ⟨sealed', hsealed', hlen', -, -⟩
        cases hsealed'
        exact absurd hlen' hlen

/-- After its header the upload stream emits the frames of the chunks that are left. -/
theorem encryptStream_collects_iff {emitted : Bytes} (hheader : state.header = none)
    (hindex : state.nextChunkIndex = min k u64Max) (hpos : 0 < state.chunkPlaintextBytes)
    (hholds : Holds state.chunker.pending state.chunker.inner bytes) :
    Collects (EncryptStreamState.next runtime) state (.ok emitted) ↔
      Frames (Seals runtime state.cipher state.headerAad state.chunkNoncePrefix) k
        (chunksOf state.chunkPlaintextBytes bytes) emitted := by
  obtain ⟨n, hn⟩ : ∃ n, n = state.chunkPlaintextBytes := ⟨_, rfl⟩
  rw [← hn] at hpos ⊢
  induction bytes using chunks_induction hpos generalizing state k emitted with
  | nil =>
    subst hn
    rw [chunksOf_nil, Frames.nil_iff, collects_ok_iff, encryptNext_nil hheader hpos hholds]
    simp
  | piece bytes hne ih =>
    subst hn
    obtain ⟨chunker, hrest, hsome, hstep⟩ :=
      @encryptNext_cons runtime _ _ _ hheader hindex hpos hholds hne
    have hafter := fun rest =>
      @ih { state with chunker := chunker, nextChunkIndex := min (k + 1) u64Max } (k + 1) rest
        hheader rfl hrest rfl
    rw [chunksOf_of_ne_nil hpos hne, Frames.cons_iff, collects_ok_iff]
    constructor
    · rintro (⟨hnone, -⟩ | ⟨item, state', rest, hnext, hcollects, rfl⟩)
      · exact absurd hnone hsome
      · obtain ⟨sealed, hseals, hlen, rfl, rfl⟩ := (hstep item state').mp hnext
        exact ⟨sealed, rest, hseals, hlen, (hafter rest).mp hcollects, rfl⟩
    · rintro ⟨sealed, rest, hseals, hlen, hframes, rfl⟩
      exact Or.inr ⟨_, _, rest, (hstep _ _).mpr ⟨sealed, hseals, hlen, rfl, rfl⟩,
        (hafter rest).mpr hframes, rfl⟩

end Upload

/-! ## Section 3: The download stream -/

section Download

variable {runtime : CryptoRuntime} {state : DecryptStreamState} {k : Nat} {bytes : Bytes}

theorem decryptNext_end (h : state.remainingPlaintextBytes = 0) : state.next runtime = none := by
  rw [DecryptStreamState.next, if_pos h]

/-- The stream does not end before its size is reached. -/
theorem decryptNext_ne_none (hpos : 0 < state.remainingPlaintextBytes) :
    state.next runtime ≠ none := by
  intro hnone
  unfold DecryptStreamState.next at hnone
  rw [if_neg (by omega)] at hnone
  split at hnone
  · cases hnone
  · simp only at hnone
    split at hnone
    · cases hnone
    · split at hnone
      · cases hnone
      · split at hnone
        · cases hnone
        · split at hnone
          · cases hnone
          · split at hnone
            · split at hnone <;> cases hnone
            · cases hnone

/-- A frame at the front that opens to a chunk of a fitting size is the next item, and the
last one must be followed by nothing. -/
theorem decryptNext_frame {plaintext sealed rest : Bytes}
    (hindex : state.nextChunkIndex = min k u64Max)
    (hholds : Holds state.cursor.pending state.cursor.inner (frameBytes sealed ++ rest))
    (hlen : sealed.length ≤ u32Max)
    (hopens : Opens runtime state.cipher state.headerAad state.chunkNoncePrefix k plaintext sealed)
    (hne : plaintext ≠ []) (hle : plaintext.length ≤ state.remainingPlaintextBytes)
    (hlast : plaintext.length = state.remainingPlaintextBytes → rest = []) :
    ∃ cursor : StreamCursor,
      state.next runtime = some (.ok plaintext,
        { state with
          cursor := cursor
          nextChunkIndex := min (k + 1) u64Max
          remainingPlaintextBytes := state.remainingPlaintextBytes - plaintext.length }) ∧
      (plaintext.length ≠ state.remainingPlaintextBytes →
        Holds cursor.pending cursor.inner rest) := by
  have hpos : 0 < plaintext.length := List.length_pos_iff.mpr hne
  have htag := hopens.tag_le
  obtain ⟨_, cursor, hlead, hholds'⟩ | ⟨hshort, -⟩ := @readExact_spec 4 _ _ _ hholds
  · have hframeLen : ofBeBytes ((frameBytes sealed ++ rest).take 4) = sealed.length := by
      rw [take_frameBytes, ofBeBytes_beBytes_u32 hlen]
    rw [drop_frameBytes] at hholds'
    obtain ⟨_, cursor', hread, hholds''⟩ | ⟨hshort, -⟩ :=
      @readExact_spec (ofBeBytes ((frameBytes sealed ++ rest).take 4)) _ _ _ hholds'
    · have hpayload : (sealed ++ rest).take (ofBeBytes ((frameBytes sealed ++ rest).take 4)) =
          sealed := by
        rw [hframeLen, List.take_left]
      rw [hframeLen, List.drop_left] at hholds''
      unfold Opens at hopens
      unfold DecryptStreamState.next
      rw [if_neg (by omega)]
      simp only [hlead]
      rw [if_neg (by omega)]
      simp only [hread, hpayload, hindex, hopens, saturatingAddU64_min]
      rw [if_neg (by omega)]
      by_cases hdone : state.remainingPlaintextBytes - plaintext.length = 0
      · -- the last chunk: nothing is left, and the end is checked
        rw [hlast (by omega)] at hholds''
        obtain ⟨-, cursor'', heof⟩ | ⟨hleft, -⟩ := ensureEof_spec hholds''
        · simp only [if_pos hdone, heof]
          exact ⟨cursor'', rfl, fun hne' => absurd (by omega) hne'⟩
        · exact absurd rfl hleft
      · rw [if_neg hdone]
        exact ⟨cursor', rfl, fun _ => hholds''⟩
    · rw [List.length_append] at hshort
      omega
  · rw [List.length_append, length_frameBytes] at hshort
    omega

/-- An item of the download stream comes from a frame at the front. -/
theorem decryptNext_ok {plaintext : Bytes} {state' : DecryptStreamState}
    (hindex : state.nextChunkIndex = min k u64Max)
    (hholds : Holds state.cursor.pending state.cursor.inner bytes)
    (hnext : state.next runtime = some (.ok plaintext, state')) :
    ∃ sealed rest, bytes = frameBytes sealed ++ rest ∧ sealed.length ≤ u32Max ∧
      Opens runtime state.cipher state.headerAad state.chunkNoncePrefix k plaintext sealed ∧
      plaintext ≠ [] ∧ plaintext.length ≤ state.remainingPlaintextBytes ∧
      (plaintext.length = state.remainingPlaintextBytes → rest = []) := by
  unfold DecryptStreamState.next at hnext
  split at hnext
  · cases hnext
  obtain ⟨hlen, cursor, hlead, hholds'⟩ | ⟨-, error, cursor, hlead⟩ :=
    @readExact_spec 4 _ _ _ hholds
  · simp only [hlead] at hnext
    split at hnext
    · cases hnext
    obtain ⟨hlen', cursor', hread, hholds''⟩ | ⟨-, error, cursor', hread⟩ :=
      @readExact_spec (ofBeBytes (bytes.take 4)) _ _ _ hholds'
    · simp only [hread, hindex] at hnext
      have hsealed : ((bytes.drop 4).take (ofBeBytes (bytes.take 4))).length =
          ofBeBytes (bytes.take 4) := by
        rw [List.length_take]
        omega
      have hbound : ofBeBytes (bytes.take 4) ≤ u32Max := by
        have hlt := ofBeBytes_lt (bytes.take 4)
        rw [List.length_take, min_eq_left hlen] at hlt
        simp only [u32Max]
        omega
      split at hnext
      · cases hnext
      rename_i opened hopens
      split at hnext
      · cases hnext
      rename_i hsize
      refine ⟨_, _, eq_frameBytes_append hlen rfl hlen', hsealed.symm ▸ hbound, ?_⟩
      have hopened : opened = plaintext ∧ (opened.length = state.remainingPlaintextBytes →
          (bytes.drop 4).drop (ofBeBytes (bytes.take 4)) = []) := by
        split at hnext
        · rename_i hdone
          obtain ⟨hnil, cursor'', heof⟩ | ⟨hleft, error, cursor'', heof⟩ :=
            ensureEof_spec hholds''
          · simp only [heof] at hnext
            cases hnext
            exact ⟨rfl, fun _ => hnil⟩
          · simp only [heof] at hnext
            cases hnext
        · rename_i hdone
          cases hnext
          exact ⟨rfl, fun heq => absurd (by omega) hdone⟩
      obtain ⟨rfl, hlast⟩ := hopened
      refine ⟨hopens, ?_, by omega, hlast⟩
      intro hnil
      exact hsize (Or.inl (by rw [hnil, List.length_nil]))
    · simp only [hread] at hnext
      cases hnext
  · simp only [hlead] at hnext
    cases hnext

/-- A download stream that still expects bytes is delivered iff its input is the frames of
nonempty chunks of that total size. -/
theorem decryptStream_collects_iff {body : Bytes}
    (hindex : state.nextChunkIndex = min k u64Max) (hpos : 0 < state.remainingPlaintextBytes)
    (hholds : Holds state.cursor.pending state.cursor.inner bytes) :
    Collects (DecryptStreamState.next runtime) state (.ok body) ↔
      ∃ plaintexts, (∀ plaintext ∈ plaintexts, plaintext ≠ []) ∧
        plaintexts.flatten = body ∧ body.length = state.remainingPlaintextBytes ∧
        Frames (Opens runtime state.cipher state.headerAad state.chunkNoncePrefix) k
          plaintexts bytes := by
  -- the size that is still expected falls with every chunk
  induction hremaining : state.remainingPlaintextBytes using Nat.strong_induction_on
    generalizing state k bytes body with
  | _ remaining ih =>
  subst hremaining
  rw [collects_ok_iff]
  constructor
  · rintro (⟨hnone, -⟩ | ⟨plaintext, state', rest, hnext, hcollects, rfl⟩)
    · exact absurd hnone (decryptNext_ne_none hpos)
    · obtain ⟨sealed, left, rfl, hlen, hopens, hne, hle, hlast⟩ :=
        decryptNext_ok hindex hholds hnext
      obtain ⟨cursor, hnext', hholds'⟩ :=
        decryptNext_frame hindex hholds hlen hopens hne hle hlast
      have hplaintext : 0 < plaintext.length := List.length_pos_iff.mpr hne
      rw [hnext] at hnext'
      cases hnext'
      by_cases hdone : plaintext.length = state.remainingPlaintextBytes
      · -- the last chunk
        obtain ⟨-, rfl⟩ | ⟨_, _, _, hmore, -⟩ := collects_ok_iff.mp hcollects
        · refine ⟨[plaintext], by simpa using hne, by simp, by simpa using hdone, ?_⟩
          rw [hlast hdone]
          exact Frames.cons hopens hlen (Frames.nil _)
        · rw [decryptNext_end (Nat.sub_eq_zero_of_le (by omega))] at hmore
          cases hmore
      · obtain ⟨plaintexts, hnonempty, rfl, hsize, hframes⟩ :=
          (ih _ (by simp only; omega) rfl (Nat.sub_pos_of_lt (by omega)) (hholds' hdone)
            rfl).mp hcollects
        refine ⟨plaintext :: plaintexts, ?_, rfl, ?_, Frames.cons hopens hlen hframes⟩
        · intro chunk hmem
          rcases List.mem_cons.mp hmem with rfl | hmem
          · exact hne
          · exact hnonempty chunk hmem
        · rw [List.length_append, hsize]
          exact Nat.add_sub_of_le hle
  · rintro ⟨plaintexts, hnonempty, rfl, hsize, hframes⟩
    cases hframes with
    | nil => simp at hsize; omega
    | @cons _ plaintext sealed rest plaintexts hopens hlen hframes =>
      have hne : plaintext ≠ [] := hnonempty plaintext (List.mem_cons_self ..)
      have hplaintext : 0 < plaintext.length := List.length_pos_iff.mpr hne
      have htail : ∀ chunk ∈ plaintexts, chunk ≠ [] :=
        fun chunk hmem => hnonempty chunk (List.mem_cons_of_mem _ hmem)
      rw [List.flatten_cons, List.length_append] at hsize
      have hlast : plaintext.length = state.remainingPlaintextBytes → plaintexts = [] := by
        intro hfull
        cases plaintexts with
        | nil => rfl
        | cons chunk chunks =>
          have hchunk := List.length_pos_iff.mpr (htail chunk (List.mem_cons_self ..))
          rw [List.flatten_cons, List.length_append] at hsize
          omega
      obtain ⟨cursor, hnext, hholds'⟩ :=
        decryptNext_frame hindex hholds hlen hopens hne (by omega)
          (fun hfull => Frames.nil_iff.mp (hlast hfull ▸ hframes))
      refine Or.inr ⟨plaintext, _, plaintexts.flatten, hnext, ?_, rfl⟩
      by_cases hdone : plaintext.length = state.remainingPlaintextBytes
      · rw [hlast hdone]
        exact collects_end (decryptNext_end (Nat.sub_eq_zero_of_le (by omega)))
      · refine (ih _ ?_ rfl (Nat.sub_pos_of_lt (by omega)) (hholds' hdone) rfl).mpr ?_
        · exact Nat.sub_lt hpos hplaintext
        · exact ⟨plaintexts, htail, rfl, by simp only; omega, hframes⟩

end Download

/-! ## Section 4: The header -/

section Header

variable {runtime : CryptoRuntime} {pending bytes : Bytes} {inner : ObjectBodyStream}

/-- A well-formed header is read, and what follows it is left. -/
theorem readEnvelopeHeader_bytes {header : EnvelopeHeader} {rest : Bytes}
    (hwell : header.WellFormed) (hholds : Holds pending inner (header.bytes ++ rest)) :
    ∃ cursor, readEnvelopeHeader runtime ⟨inner, pending⟩ =
        (.ok (header.parsed runtime), cursor) ∧
      Holds cursor.pending cursor.inner rest := by
  have hfixedLen : header.fixed.bytes.length = envelopeFixedHeaderLen := header.fixed.length_eq
  unfold EnvelopeHeader.bytes at hholds
  rw [List.append_assoc] at hholds
  obtain ⟨hlen, cursor, hread, hholds'⟩ | ⟨hshort, -⟩ :=
    @readExact_spec envelopeFixedHeaderLen _ _ _ hholds
  · have hfixed : (⟨(header.fixed.bytes ++ (header.variableBytes ++ rest)).take
        envelopeFixedHeaderLen, List.length_take_of_le hlen⟩ : FixedBytes envelopeFixedHeaderLen) =
        header.fixed :=
      FixedBytes.ext (List.take_left' hfixedLen)
    rw [hfixed] at hread
    rw [List.drop_left' hfixedLen] at hholds'
    have hvariable : header.fields.headerLen - envelopeFixedHeaderLen =
        header.variableBytes.length := Nat.add_sub_cancel_left ..
    obtain ⟨_, cursor', hread', hholds''⟩ | ⟨hshort, -⟩ :=
      @readExact_spec (header.fields.headerLen - envelopeFixedHeaderLen) _ _ _ hholds'
    · rw [hvariable, List.drop_left] at hholds''
      refine ⟨cursor', ?_, hholds''⟩
      unfold readEnvelopeHeader
      simp only [hread, EnvelopeHeader.parseFixedHeader_fixed hwell, hread']
      rw [hvariable, List.take_left, EnvelopeHeader.parseVariableHeader_variableBytes hwell]
    · rw [hvariable, List.length_append] at hshort
      omega
  · rw [List.length_append, hfixedLen] at hshort
    omega

/-- What is read as a header is the bytes of a well-formed one. -/
theorem readEnvelopeHeader_ok {parsed : ParsedEnvelopeHeader} {cursor : StreamCursor}
    (hholds : Holds pending inner bytes)
    (hread : readEnvelopeHeader runtime ⟨inner, pending⟩ = (.ok parsed, cursor)) :
    ∃ (header : EnvelopeHeader) (rest : Bytes), header.WellFormed ∧
      parsed = header.parsed runtime ∧ bytes = header.bytes ++ rest ∧
      Holds cursor.pending cursor.inner rest := by
  unfold readEnvelopeHeader at hread
  obtain ⟨hlen, cursor', hfixed, hholds'⟩ | ⟨-, error, cursor', hfixed⟩ :=
    @readExact_spec envelopeFixedHeaderLen _ _ _ hholds
  · simp only [hfixed] at hread
    split at hread
    · cases hread
    rename_i fields hfields
    obtain ⟨hlen', cursor'', hvariable, hholds''⟩ | ⟨-, error, cursor'', hvariable⟩ :=
      @readExact_spec (fields.headerLen - envelopeFixedHeaderLen) _ _ _ hholds'
    · simp only [hvariable] at hread
      obtain ⟨hparsed, rfl⟩ := Prod.mk.inj hread
      have hvariableLen : ((bytes.drop envelopeFixedHeaderLen).take
          (fields.headerLen - envelopeFixedHeaderLen)).length =
          fields.headerLen - envelopeFixedHeaderLen := by
        rw [List.length_take]
        omega
      obtain ⟨header, hwell, hfixedBytes, hvariableBytes, rfl⟩ :=
        EnvelopeHeader.exists_of_parse hfields hvariableLen hparsed
      refine ⟨header, _, hwell, rfl, ?_, hholds''⟩
      unfold EnvelopeHeader.bytes
      rw [← hfixedBytes, ← hvariableBytes, List.append_assoc, List.take_append_drop]
      exact (List.take_append_drop _ _).symm
    · simp only [hvariable] at hread
      cases hread
  · simp only [hfixed] at hread
    cases hread

/-- A byte string starts with at most one header. -/
theorem header_unique (runtime : CryptoRuntime) {header header' : EnvelopeHeader}
    {rest rest' : Bytes} (hwell : header.WellFormed) (hwell' : header'.WellFormed)
    (h : header.bytes ++ rest = header'.bytes ++ rest') :
    header.parsed runtime = header'.parsed runtime ∧ rest = rest' := by
  have hholds := holds_streamOf [header.bytes ++ rest]
  rw [List.flatten_singleton] at hholds
  have hholds' := hholds
  rw [h] at hholds'
  obtain ⟨cursor, hread, -⟩ := @readEnvelopeHeader_bytes runtime _ _ _ _ hwell hholds
  obtain ⟨cursor', hread', -⟩ := @readEnvelopeHeader_bytes runtime _ _ _ _ hwell' hholds'
  rw [h] at hread
  have hparsed : header.parsed runtime = header'.parsed runtime :=
    Except.ok.inj (Prod.mk.inj (hread.symm.trans hread')).1
  refine ⟨hparsed, ?_⟩
  have hbytes : header.bytes = header'.bytes :=
    congrArg ParsedEnvelopeHeader.headerBytes hparsed
  rw [hbytes] at h
  exact List.append_cancel_left h

theorem header_bytes_ne_nil (header : EnvelopeHeader) : header.bytes ≠ [] := by
  intro hnil
  have hlen := congrArg List.length hnil
  rw [EnvelopeHeader.bytes, List.length_append, FixedBytes.length_bytes, List.length_nil] at hlen
  omega

end Header

/-! ## Section 5: Whole runs -/

/-- The upload of a body succeeds, with these metadata, and emits this envelope. -/
def Uploads (runtime : CryptoRuntime) (randomness : UploadRandomness) (body : ObjectBodyStream)
    (request : EncryptRequest) (kek : FixedBytes 32) (metadata : EncryptedObjectMetadata)
    (envelope : Bytes) : Prop :=
  ∃ encrypted, encryptUpload runtime randomness body request kek = .ok encrypted ∧
    encrypted.metadata = metadata ∧
    Collects (EncryptStreamState.next runtime) encrypted.body (.ok envelope)

/-- The download of a stream succeeds, with these metadata, and delivers this body to its
end. -/
def Delivers (runtime : CryptoRuntime) (input : ObjectBodyStream) (kek : FixedBytes 32)
    (metadata : EncryptedObjectMetadata) (body : Bytes) : Prop :=
  ∃ prepared, prepareDecryptDownload runtime input kek = .ok prepared ∧
    prepared.metadata = metadata ∧ prepared.body.Collects runtime (.ok body)

/-- The data key of an upload, wrapped. -/
def Wraps (runtime : CryptoRuntime) (kek : FixedBytes 32) (algorithm : RuntimeAlgorithm)
    (randomness : UploadRandomness) (wrappedDataKey : Bytes) : Prop :=
  CipherInstance.encrypt runtime ⟨algorithm, kek⟩ randomness.keyWrapNonce []
    randomness.dataKey.bytes "data key wrap" = .ok wrappedDataKey

/-- What a download reads: a header, the data key it wraps, and the frames of chunks of
the size in the header. -/
structure Delivery (runtime : CryptoRuntime) (kek : FixedBytes 32) (input : Bytes) where
  header : EnvelopeHeader
  dataKey : FixedBytes 32
  plaintexts : List Bytes
  frames : Bytes
  wellFormed : header.WellFormed
  input_eq : input = header.bytes ++ frames
  unwraps : CipherInstance.decrypt runtime ⟨header.algorithm, kek⟩ header.keyWrapNonce []
    header.wrappedDataKey "data key unwrap" = .ok dataKey.bytes
  nonempty : ∀ plaintext ∈ plaintexts, plaintext ≠ []
  size_eq : plaintexts.flatten.length = header.plaintextSize
  opens : Frames (Opens runtime ⟨header.algorithm, dataKey⟩ header.bytes
    header.chunkNoncePrefix) 0 plaintexts frames

section Runs

variable {runtime : CryptoRuntime} {randomness : UploadRandomness} {request : EncryptRequest}
  {kek : FixedBytes 32} {metadata : EncryptedObjectMetadata} {fragments : List Bytes}

theorem length_wrapped {algorithm : RuntimeAlgorithm} {wrappedDataKey : Bytes}
    (hlen : PreservesLength runtime) (h : Wraps runtime kek algorithm randomness wrappedDataKey) :
    wrappedDataKey.length = 48 := by
  have hlength := hlen.encrypt h
  rwa [randomness.dataKey.length_eq] at hlength

/-- An upload emits a header and the frames of the chunks of the body, and depends on the
body alone. -/
theorem uploads_iff {envelope : Bytes} (hlen : PreservesLength runtime) :
    Uploads runtime randomness (streamOf fragments) request kek metadata envelope ↔
      request.Accepted ∧ metadata = request.metadata runtime ∧
      ∃ wrappedDataKey frames,
        Wraps runtime kek (request.metadata runtime).algorithm randomness wrappedDataKey ∧
        envelope = (request.header runtime wrappedDataKey randomness.keyWrapNonce
          randomness.chunkNoncePrefix).bytes ++ frames ∧
        Frames (Seals runtime ⟨(request.metadata runtime).algorithm, randomness.dataKey⟩
            (request.header runtime wrappedDataKey randomness.keyWrapNonce
              randomness.chunkNoncePrefix).bytes randomness.chunkNoncePrefix) 0
          (chunksOf request.chunkPlaintextBytes fragments.flatten) frames := by
  constructor
  · rintro ⟨encrypted, hupload, rfl, hcollects⟩
    unfold encryptUpload at hupload
    obtain ⟨planned, hplanned, hupload⟩ := bind_eq_ok.mp hupload
    obtain ⟨haccepted, rfl⟩ := plannedMetadata_ok_iff.mp hplanned
    obtain ⟨wrappedDataKey, hwraps, hupload⟩ := bind_eq_ok.mp hupload
    rw [EncryptRequest.buildEnvelopeHeader_eq haccepted (length_wrapped hlen hwraps)] at hupload
    cases hupload
    refine ⟨haccepted, rfl, wrappedDataKey, ?_⟩
    obtain ⟨hnone, -⟩ | ⟨item, state', rest, hnext, hrest, rfl⟩ := collects_ok_iff.mp hcollects
    · cases hnone
    · cases hnext
      exact ⟨rest, hwraps, rfl, (encryptStream_collects_iff rfl rfl haccepted.chunk_pos
        (holds_streamOf fragments)).mp hrest⟩
  · rintro ⟨haccepted, rfl, wrappedDataKey, frames, hwraps, rfl, hframes⟩
    obtain ⟨body, hbody⟩ : ∃ body : EncryptStreamState, body =
        { header := some (request.header runtime wrappedDataKey randomness.keyWrapNonce
            randomness.chunkNoncePrefix).bytes
          headerAad := (request.header runtime wrappedDataKey randomness.keyWrapNonce
            randomness.chunkNoncePrefix).bytes
          chunker := PlaintextChunker.new (streamOf fragments)
          cipher := ⟨(request.metadata runtime).algorithm, randomness.dataKey⟩
          chunkPlaintextBytes := request.chunkPlaintextBytes
          chunkNoncePrefix := randomness.chunkNoncePrefix
          nextChunkIndex := 0 } := ⟨_, rfl⟩
    refine ⟨⟨body, request.metadata runtime⟩, ?_, rfl, ?_⟩
    · unfold encryptUpload
      refine bind_eq_ok.mpr ⟨_, plannedMetadata_ok_iff.mpr ⟨haccepted, rfl⟩, ?_⟩
      refine bind_eq_ok.mpr ⟨_, hwraps, ?_⟩
      refine bind_eq_ok.mpr
        ⟨_, EncryptRequest.buildEnvelopeHeader_eq haccepted (length_wrapped hlen hwraps), ?_⟩
      rw [hbody]
      rfl
    · subst hbody
      apply collects_ok_iff.mpr
      refine Or.inr ⟨_, _, frames, rfl, ?_, rfl⟩
      exact (encryptStream_collects_iff rfl rfl haccepted.chunk_pos
        (holds_streamOf fragments)).mpr hframes

/-- A download is delivered to its end iff its input can be read as a header and frames. -/
theorem delivers_iff {body : Bytes} :
    Delivers runtime (streamOf fragments) kek metadata body ↔
      ∃ delivery : Delivery runtime kek fragments.flatten,
        metadata = delivery.header.request.metadata runtime ∧
        body = delivery.plaintexts.flatten := by
  have halgorithm : ∀ header : EnvelopeHeader,
      (header.parsed runtime).metadata.algorithm = header.algorithm := fun header =>
    EncryptRequest.chooseRuntimeAlgorithm_preference header.algorithm
  constructor
  · rintro ⟨prepared, hprepare, rfl, hcollects⟩
    unfold prepareDecryptDownload at hprepare
    split at hprepare
    · cases hprepare
    rename_i parsed cursor hread
    obtain ⟨header, frames, hwell, rfl, hinput, hholds⟩ :=
      readEnvelopeHeader_ok (holds_streamOf fragments) hread
    simp only at hprepare
    split at hprepare
    · cases hprepare
    rename_i dataKeyBytes hunwraps
    split at hprepare
    · cases hprepare
    rename_i dataKey hdataKey
    rw [halgorithm] at hunwraps hprepare
    rw [← FixedBytes.ofBytes?_eq_some.mp hdataKey] at hunwraps
    split at hprepare
    · rename_i hzero
      obtain ⟨rfl, cursor', heof⟩ | ⟨-, error, cursor', heof⟩ := ensureEof_spec hholds
      · simp only [heof] at hprepare
        cases hprepare
        exact ⟨⟨header, dataKey, [], [], hwell, hinput, hunwraps, by simp, hzero.symm,
          Frames.nil 0⟩, rfl, Except.ok.inj hcollects⟩
      · simp only [heof] at hprepare
        cases hprepare
    · rename_i hsize
      cases hprepare
      obtain ⟨plaintexts, hnonempty, rfl, hlen, hframes⟩ :=
        (@decryptStream_collects_iff runtime _ 0 _ _ rfl (Nat.pos_of_ne_zero hsize)
          hholds).mp hcollects
      exact ⟨⟨header, dataKey, plaintexts, frames, hwell, hinput, hunwraps, hnonempty, hlen,
        hframes⟩, rfl, rfl⟩
  · rintro ⟨⟨header, dataKey, plaintexts, frames, hwell, hinput, hunwraps, hnonempty, hlen,
      hframes⟩, rfl, rfl⟩
    have hholds := holds_streamOf fragments
    rw [hinput] at hholds
    obtain ⟨cursor, hread, hholds'⟩ := @readEnvelopeHeader_bytes runtime _ _ _ _ hwell hholds
    unfold Delivers prepareDecryptDownload StreamCursor.new
    simp only [hread, halgorithm]
    unfold EnvelopeHeader.parsed
    simp only [hunwraps, FixedBytes.ofBytes?_bytes]
    by_cases hzero : (header.request.metadata runtime).plaintextSize = 0
    · -- no chunks: the frames are empty, and the end is found at once
      have hempty : plaintexts = [] := by
        apply List.eq_nil_iff_forall_not_mem.mpr
        intro plaintext hmem
        have hpos := List.length_pos_iff.mpr (hnonempty plaintext hmem)
        have hle := List.Sublist.length_le (List.sublist_flatten_of_mem hmem)
        have hsize : plaintexts.flatten.length = 0 := hlen.trans hzero
        omega
      subst hempty
      rw [Frames.nil_iff.mp hframes] at hholds'
      obtain ⟨-, cursor', heof⟩ | ⟨hleft, -⟩ := ensureEof_spec hholds'
      · simp only [if_pos hzero, heof]
        exact ⟨_, rfl, rfl, rfl⟩
      · exact absurd rfl hleft
    · simp only [if_neg hzero]
      refine ⟨_, rfl, rfl, ?_⟩
      exact (@decryptStream_collects_iff runtime _ 0 _ _ rfl (Nat.pos_of_ne_zero hzero)
        hholds').mpr ⟨plaintexts, hnonempty, rfl, hlen, hframes⟩

end Runs

end Netdisk2Blob.ObjectCrypto
