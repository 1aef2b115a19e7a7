import Netdisk2Blob.ObjectCrypto.RoundTrip

/-!
# Envelope Integrity

What a download accepts when the cipher is ideal, that is, when it opens what the uploads
have sealed and nothing else. A frame is bound to its header and to its number, so a string
with at least one frame is accepted only when it is an envelope, or an envelope whose body
was longer than it was declared, cut at the declared size. The header alone is bound to
nothing: the wrapped key does not cover it, and an object of size zero has no frame.

## Contents

- `Fails`: a download that does not succeed ends in an error (`fails_iff`)
- `ProducedEnvelope`, `IdealAead`: the envelopes that an adversary sees, and the cipher
- `exists_produced_of_delivery`: an accepted string wraps the data key of an upload
- `items_of_delivery`: its frames are the first frames of that upload
- `intact_iff`: when a submitted string is an envelope or fails
- `lookupRuntime`: an ideal cipher for one upload, under which a forged header is accepted
-/

namespace Netdisk2Blob.ObjectCrypto

open Library Text Blob

/-! ## Section 1: Failing downloads -/

/-- The download of a stream ends in an error. -/
def Fails (runtime : CryptoRuntime) (input : ObjectBodyStream) (kek : FixedBytes 32) : Prop :=
  (∃ error, prepareDecryptDownload runtime input kek = .error error) ∨
  ∃ prepared error, prepareDecryptDownload runtime input kek = .ok prepared ∧
    prepared.body.Collects runtime (.error error)

section Fails

variable {runtime : CryptoRuntime} {kek : FixedBytes 32}

/-- Every chunk lowers the size that is still expected. -/
theorem decryptNext_remaining_lt {state state' : DecryptStreamState} {plaintext : Bytes}
    (h : state.next runtime = some (.ok plaintext, state')) :
    state'.remainingPlaintextBytes < state.remainingPlaintextBytes := by
  unfold DecryptStreamState.next at h
  split at h
  · cases h
  · split at h
    · cases h
    · simp only at h
      split at h
      · cases h
      · split at h
        · cases h
        · split at h
          · cases h
          · split at h
            · cases h
            · split at h
              · split at h
                · cases h
                · cases h
                  simp only
                  omega
              · cases h
                simp only
                omega

/-- A download stream ends, with a body or an error. -/
theorem exists_decryptStream_collects (state : DecryptStreamState) :
    ∃ result, Collects (DecryptStreamState.next runtime) state result := by
  induction hremaining : state.remainingPlaintextBytes using Nat.strong_induction_on
    generalizing state with
  | _ remaining ih =>
  subst hremaining
  cases hnext : state.next runtime with
  | none => exact ⟨_, collects_end hnext⟩
  | some item =>
    obtain ⟨result, state'⟩ := item
    cases result with
    | error error => exact ⟨_, collects_error hnext⟩
    | ok plaintext =>
      obtain ⟨rest, hrest⟩ := ih _ (decryptNext_remaining_lt hnext) state' rfl
      exact ⟨_, collects_item hnext hrest⟩

/-- A download that is not delivered to its end fails. -/
theorem fails_iff {input : ObjectBodyStream} :
    Fails runtime input kek ↔ ¬ ∃ metadata body, Delivers runtime input kek metadata body := by
  constructor
  · rintro (⟨error, hprepare⟩ | ⟨prepared, error, hprepare, hcollects⟩)
        ⟨metadata, body, prepared', hprepare', -, hcollects'⟩
    · cases hprepare.symm.trans hprepare'
    · cases hprepare.symm.trans hprepare'
      cases hbody : prepared.body with
      | bytes content =>
        rw [hbody] at hcollects
        cases hcollects
      | stream state =>
        rw [hbody] at hcollects hcollects'
        cases collects_unique hcollects hcollects'
  · intro hnot
    cases hprepare : prepareDecryptDownload runtime input kek with
    | error error => exact Or.inl ⟨error, hprepare⟩
    | ok prepared =>
      cases hbody : prepared.body with
      | bytes content =>
        exact absurd ⟨_, content, prepared, hprepare, rfl, by rw [hbody]; rfl⟩ hnot
      | stream state =>
        obtain ⟨result, hcollects⟩ := @exists_decryptStream_collects runtime state
        have hcollects' : prepared.body.Collects runtime result := by
          rw [hbody]
          exact hcollects
        cases result with
        | error error => exact Or.inr ⟨prepared, error, hprepare, hcollects'⟩
        | ok body => exact absurd ⟨_, body, prepared, hprepare, rfl, hcollects'⟩ hnot

end Fails

/-! ## Section 2: What the adversary sees -/

/-- An envelope that an upload has emitted under the key-encryption key. -/
structure ProducedEnvelope (runtime : CryptoRuntime) (kek : FixedBytes 32) where
  request : EncryptRequest
  randomness : UploadRandomness
  fragments : List Bytes
  metadata : EncryptedObjectMetadata
  wrappedDataKey : Bytes
  envelope : Bytes
  wraps : Wraps runtime kek metadata.algorithm randomness wrappedDataKey
  uploads : Uploads runtime randomness (streamOf fragments) request kek metadata envelope

namespace ProducedEnvelope

variable {runtime : CryptoRuntime} {kek : FixedBytes 32}

def body (produced : ProducedEnvelope runtime kek) : Bytes := produced.fragments.flatten

def chunks (produced : ProducedEnvelope runtime kek) : List Bytes :=
  chunksOf produced.request.chunkPlaintextBytes produced.body

def header (produced : ProducedEnvelope runtime kek) : EnvelopeHeader :=
  produced.request.header runtime produced.wrappedDataKey produced.randomness.keyWrapNonce
    produced.randomness.chunkNoncePrefix

def dataCipher (produced : ProducedEnvelope runtime kek) : CipherInstance :=
  ⟨produced.metadata.algorithm, produced.randomness.dataKey⟩

/-- The encryptions of an upload: the data key, and every chunk of the body. -/
inductive Encrypts (produced : ProducedEnvelope runtime kek) :
    RuntimeAlgorithm → FixedBytes 32 → FixedBytes 12 → Bytes → Bytes → Prop
  | wrap : Encrypts produced produced.metadata.algorithm kek produced.randomness.keyWrapNonce []
      produced.randomness.dataKey.bytes
  | chunk {k : Nat} {plaintext : Bytes} : produced.chunks[k]? = some plaintext →
      Encrypts produced produced.metadata.algorithm produced.randomness.dataKey
        (chunkNonce produced.randomness.chunkNoncePrefix (min k u64Max)) produced.header.bytes
        plaintext

end ProducedEnvelope

/-- An ideal cipher: under the key-encryption key and the data keys of the uploads,
decryption opens what the uploads have sealed and nothing else. -/
structure IdealAead {ι : Type*} {runtime : CryptoRuntime} {kek : FixedBytes 32}
    (produced : ι → ProducedEnvelope runtime kek) : Prop extends PreservesLength runtime where
  decrypt_iff : ∀ {algorithm key nonce aad buffer tag plaintext},
    (key = kek ∨ ∃ i, key = (produced i).randomness.dataKey) →
    (runtime.decryptDetached algorithm key nonce aad buffer tag = some plaintext ↔
      ∃ i, (produced i).Encrypts algorithm key nonce aad plaintext ∧
        runtime.encryptDetached algorithm key nonce aad plaintext = some (buffer, tag))

/-- Every download of a string, however it is fragmented, fails, or the string is an
envelope that an upload has emitted and its body is delivered. -/
def Intact {ι : Type*} {runtime : CryptoRuntime} {kek : FixedBytes 32}
    (produced : ι → ProducedEnvelope runtime kek) (submitted : Bytes) : Prop :=
  ∀ fragments, fragments.flatten = submitted →
    Fails runtime (streamOf fragments) kek ∨
    ∃ i metadata, submitted = (produced i).envelope ∧
      Delivers runtime (streamOf fragments) kek metadata (produced i).body

/-- A header for an object of size zero that no upload has emitted and that carries the
algorithm, the wrap nonce and the wrapped key of one. -/
def EmptyForgery {ι : Type*} {runtime : CryptoRuntime} {kek : FixedBytes 32}
    (produced : ι → ProducedEnvelope runtime kek) (submitted : Bytes) : Prop :=
  (∀ i, submitted ≠ (produced i).envelope) ∧
  ∃ (i : ι) (header : EnvelopeHeader), header.WellFormed ∧ submitted = header.bytes ∧
    header.plaintextSize = 0 ∧ header.algorithm = (produced i).metadata.algorithm ∧
    header.keyWrapNonce = (produced i).randomness.keyWrapNonce ∧
    header.wrappedDataKey = (produced i).wrappedDataKey

/-- An envelope cut at the stored size of its metadata, where the body was longer than it
was declared and the declared size is a whole number of chunks. -/
def CutOverlong {ι : Type*} {runtime : CryptoRuntime} {kek : FixedBytes 32}
    (produced : ι → ProducedEnvelope runtime kek) (submitted : Bytes) : Prop :=
  ∃ i, 0 < (produced i).request.plaintextSize ∧
    (produced i).request.plaintextSize < (produced i).body.length ∧
    (produced i).request.chunkPlaintextBytes ∣ (produced i).request.plaintextSize ∧
    submitted = (produced i).envelope.take (produced i).metadata.storedSize

/-! ## Section 3: Produced envelopes -/

namespace ProducedEnvelope

variable {runtime : CryptoRuntime} {kek : FixedBytes 32}
  (produced : ProducedEnvelope runtime kek)

theorem accepted (hlen : PreservesLength runtime) : produced.request.Accepted :=
  ((uploads_iff hlen).mp produced.uploads).1

theorem metadata_eq (hlen : PreservesLength runtime) :
    produced.metadata = produced.request.metadata runtime :=
  ((uploads_iff hlen).mp produced.uploads).2.1

theorem storedSize_eq (hlen : PreservesLength runtime) :
    produced.metadata.storedSize = produced.request.storedSize := by
  rw [produced.metadata_eq hlen]
  rfl

theorem header_wellFormed (hlen : PreservesLength runtime) : produced.header.WellFormed :=
  EncryptRequest.wellFormed_header (produced.accepted hlen) (length_wrapped hlen produced.wraps)

theorem length_header (hlen : PreservesLength runtime) :
    produced.header.bytes.length = produced.request.headerLen :=
  EncryptRequest.length_header (length_wrapped hlen produced.wraps)

theorem header_algorithm (hlen : PreservesLength runtime) :
    produced.header.algorithm = produced.metadata.algorithm := by
  rw [produced.metadata_eq hlen]
  rfl

/-- An envelope is the header and the frames of all chunks. -/
theorem exists_frames (hlen : PreservesLength runtime) :
    ∃ frames, produced.envelope = produced.header.bytes ++ frames ∧
      Frames (Seals runtime produced.dataCipher produced.header.bytes
        produced.randomness.chunkNoncePrefix) 0 produced.chunks frames := by
  obtain ⟨-, hmetadata, wrappedDataKey, frames, hwraps, henvelope, hframes⟩ :=
    (uploads_iff hlen).mp produced.uploads
  rw [← hmetadata] at hwraps hframes
  have hwrapped : wrappedDataKey = produced.wrappedDataKey :=
    Except.ok.inj (hwraps.symm.trans produced.wraps)
  subst hwrapped
  exact ⟨frames, henvelope, hframes⟩

variable {produced}

/-- Without associated data only the data key is sealed. -/
theorem Encrypts.of_nil {algorithm : RuntimeAlgorithm} {key : FixedBytes 32}
    {nonce : FixedBytes 12} {plaintext : Bytes}
    (h : produced.Encrypts algorithm key nonce [] plaintext) :
    algorithm = produced.metadata.algorithm ∧ key = kek ∧
      nonce = produced.randomness.keyWrapNonce ∧
      plaintext = produced.randomness.dataKey.bytes := by
  generalize haad : ([] : Bytes) = aad at h
  cases h with
  | wrap => exact ⟨rfl, rfl, rfl, rfl⟩
  | chunk hchunk => exact absurd haad.symm (header_bytes_ne_nil _)

/-- With associated data only chunks are sealed, under the header. -/
theorem Encrypts.of_ne_nil {algorithm : RuntimeAlgorithm} {key : FixedBytes 32}
    {nonce : FixedBytes 12} {aad plaintext : Bytes} (hne : aad ≠ [])
    (h : produced.Encrypts algorithm key nonce aad plaintext) :
    algorithm = produced.metadata.algorithm ∧ key = produced.randomness.dataKey ∧
      aad = produced.header.bytes ∧
      ∃ k, nonce = chunkNonce produced.randomness.chunkNoncePrefix (min k u64Max) ∧
        produced.chunks[k]? = some plaintext := by
  cases h with
  | wrap => exact absurd rfl hne
  | chunk hchunk => exact ⟨rfl, rfl, rfl, _, rfl, hchunk⟩

end ProducedEnvelope

/-! ## Section 4: What the cipher opens -/

section Integrity

variable {ι : Type*} {runtime : CryptoRuntime} {kek : FixedBytes 32}
  {produced : ι → ProducedEnvelope runtime kek}

/-- The wrapped key of an upload opens to its data key. -/
theorem unwraps_of_produced (hideal : IdealAead produced) (i : ι) :
    CipherInstance.decrypt runtime ⟨(produced i).metadata.algorithm, kek⟩
      (produced i).randomness.keyWrapNonce [] (produced i).wrappedDataKey "data key unwrap" =
        .ok (produced i).randomness.dataKey.bytes := by
  obtain ⟨buffer, tag, hsealed, hwrapped⟩ := encrypt_eq_ok.mp (produced i).wraps
  apply decrypt_eq_ok.mpr
  exact ⟨buffer, tag, hwrapped, (hideal.decrypt_iff (Or.inl rfl)).mpr ⟨i, .wrap, hsealed⟩⟩

/-- The frames of an upload open to its chunks. -/
theorem opens_of_seals (hideal : IdealAead produced) (i : ι) {k : Nat} {plaintext sealed : Bytes}
    (hchunk : (produced i).chunks[k]? = some plaintext)
    (hseals : Seals runtime (produced i).dataCipher (produced i).header.bytes
      (produced i).randomness.chunkNoncePrefix k plaintext sealed) :
    Opens runtime (produced i).dataCipher (produced i).header.bytes
      (produced i).randomness.chunkNoncePrefix k plaintext sealed := by
  obtain ⟨buffer, tag, hsealed, rfl⟩ := encrypt_eq_ok.mp hseals
  apply decrypt_eq_ok.mpr
  exact ⟨buffer, tag, rfl,
    (hideal.decrypt_iff (Or.inr ⟨i, rfl⟩)).mpr ⟨i, .chunk hchunk, hsealed⟩⟩

/-- A wrapped key that opens was wrapped by an upload. -/
theorem exists_produced_of_delivery (hideal : IdealAead produced) {submitted : Bytes}
    (delivery : Delivery runtime kek submitted) :
    ∃ i, delivery.header.algorithm = (produced i).metadata.algorithm ∧
      delivery.header.keyWrapNonce = (produced i).randomness.keyWrapNonce ∧
      delivery.header.wrappedDataKey = (produced i).wrappedDataKey ∧
      delivery.dataKey = (produced i).randomness.dataKey := by
  obtain ⟨buffer, tag, hwrapped, hopened⟩ := decrypt_eq_ok.mp delivery.unwraps
  obtain ⟨i, hcall, hsealed⟩ := (hideal.decrypt_iff (Or.inl rfl)).mp hopened
  obtain ⟨halgorithm, -, hnonce, hkey⟩ := hcall.of_nil
  refine ⟨i, halgorithm, hnonce, ?_, FixedBytes.ext hkey⟩
  -- the same call has sealed the wrapped key of the upload
  obtain ⟨buffer', tag', hsealed', hwrapped'⟩ := encrypt_eq_ok.mp (produced i).wraps
  simp only at halgorithm hsealed
  rw [halgorithm, hnonce, hkey] at hsealed
  cases hsealed.symm.trans hsealed'
  rw [hwrapped, hwrapped']

/-- A frame that opens under the data key of an upload seals a chunk of it, under its header
and at its number. -/
theorem seals_of_opens (hideal : IdealAead produced)
    (hfresh : Function.Injective fun i => (produced i).randomness.dataKey) {i : ι}
    {cipher : CipherInstance} {header : EnvelopeHeader} {k : Nat} {plaintext sealed : Bytes}
    (hkey : cipher.key = (produced i).randomness.dataKey) (hk : k < u64Max)
    (hopens : Opens runtime cipher header.bytes header.chunkNoncePrefix k plaintext sealed) :
    header.bytes = (produced i).header.bytes ∧ (produced i).chunks[k]? = some plaintext ∧
      Seals runtime (produced i).dataCipher (produced i).header.bytes
        (produced i).randomness.chunkNoncePrefix k plaintext sealed := by
  obtain ⟨buffer, tag, rfl, hopened⟩ := decrypt_eq_ok.mp hopens
  obtain ⟨j, hcall, hsealed⟩ := (hideal.decrypt_iff (Or.inr ⟨i, hkey⟩)).mp hopened
  obtain ⟨halgorithm, hkey', haad, k', hnonce, hchunk⟩ :=
    hcall.of_ne_nil (header_bytes_ne_nil header)
  have hij : i = j := hfresh (hkey.symm.trans hkey')
  subst hij
  obtain ⟨-, hindex⟩ := chunkNonce_inj (min_le_right k u64Max) (min_le_right k' u64Max) hnonce
  have hkk : k = k' := by omega
  subst hkk
  refine ⟨haad, hchunk, ?_⟩
  apply encrypt_eq_ok.mpr
  refine ⟨buffer, tag, ?_, rfl⟩
  rw [halgorithm, hkey', hnonce, haad] at hsealed
  exact hsealed

/-- The frames of an accepted string are the first frames of one upload, under its header. -/
theorem items_of_delivery (hideal : IdealAead produced)
    (hfresh : Function.Injective fun i => (produced i).randomness.dataKey) {submitted : Bytes}
    (delivery : Delivery runtime kek submitted) {i : ι}
    (hkey : delivery.dataKey = (produced i).randomness.dataKey)
    (hne : delivery.plaintexts ≠ []) :
    delivery.header.bytes = (produced i).header.bytes ∧
      delivery.plaintexts = (produced i).chunks.take delivery.plaintexts.length ∧
      Frames (Seals runtime (produced i).dataCipher (produced i).header.bytes
        (produced i).randomness.chunkNoncePrefix) 0 delivery.plaintexts delivery.frames := by
  have hcount := length_le_length_flatten delivery.nonempty
  have hsize := delivery.wellFormed.plaintextSize_le
  rw [delivery.size_eq] at hcount
  have hseals : Frames (fun k plaintext sealed =>
      delivery.header.bytes = (produced i).header.bytes ∧
        (produced i).chunks[k]? = some plaintext ∧
        Seals runtime (produced i).dataCipher (produced i).header.bytes
          (produced i).randomness.chunkNoncePrefix k plaintext sealed) 0 delivery.plaintexts
      delivery.frames := by
    apply delivery.opens.imp
    intro k plaintext sealed hget hopens
    obtain ⟨hlt, -⟩ := List.getElem?_eq_some_iff.mp hget
    exact seals_of_opens hideal hfresh hkey (by omega) hopens
  refine ⟨?_, ?_, hseals.imp (fun _ _ _ _ h => h.2.2)⟩
  · obtain ⟨plaintext, plaintexts, hcons⟩ := List.exists_cons_of_ne_nil hne
    rw [hcons] at hseals
    obtain ⟨sealed, rest, ⟨hheader, -, -⟩, -⟩ := Frames.cons_iff.mp hseals
    exact hheader
  · exact hseals.eq_take_drop (fun h => h.2.1)

/-! ## Section 5: Accepted strings -/

/-- The first frames of an envelope, as many as its declared size asks for, are accepted. -/
theorem delivers_of_prefix (hideal : IdealAead produced) {i : ι} {m : Nat} {front : Bytes}
    (hsize : ((produced i).chunks.take m).flatten.length = (produced i).request.plaintextSize)
    (hfront : Frames (Seals runtime (produced i).dataCipher (produced i).header.bytes
      (produced i).randomness.chunkNoncePrefix) 0 ((produced i).chunks.take m) front)
    {fragments : List Bytes} (hfragments : fragments.flatten = (produced i).header.bytes ++ front) :
    ∃ metadata, Delivers runtime (streamOf fragments) kek metadata
      ((produced i).chunks.take m).flatten := by
  have hlen := hideal.toPreservesLength
  have hpos := ((produced i).accepted hlen).chunk_pos
  have halgorithm := (produced i).header_algorithm hlen
  have hopens : Frames (Opens runtime ⟨(produced i).header.algorithm,
      (produced i).randomness.dataKey⟩ (produced i).header.bytes
      (produced i).randomness.chunkNoncePrefix) 0 ((produced i).chunks.take m) front := by
    rw [halgorithm]
    apply hfront.imp
    intro k plaintext sealed hget hseals
    rw [Nat.zero_add] at hseals ⊢
    obtain ⟨hlt, -⟩ := List.getElem?_eq_some_iff.mp hget
    rw [List.getElem?_take_of_lt (lt_of_lt_of_le hlt (List.length_take_le ..))] at hget
    exact opens_of_seals hideal i hget hseals
  have hunwraps := unwraps_of_produced hideal i
  rw [← halgorithm] at hunwraps
  have hnonempty : ∀ plaintext ∈ (produced i).chunks.take m, plaintext ≠ [] := by
    intro plaintext hmem
    exact List.length_pos_iff.mp (mem_chunksOf hpos (List.mem_of_mem_take hmem)).1
  refine ⟨_, delivers_iff.mpr ⟨⟨(produced i).header, (produced i).randomness.dataKey,
    (produced i).chunks.take m, front, (produced i).header_wellFormed hlen, hfragments, hunwraps,
    hnonempty, hsize, hopens⟩, rfl, rfl⟩⟩

/-- An envelope that is a header alone has no body. -/
theorem body_eq_nil (hlen : PreservesLength runtime) {i : ι} {header : EnvelopeHeader}
    (hwell : header.WellFormed) (henvelope : header.bytes = (produced i).envelope) :
    (produced i).body = [] := by
  obtain ⟨frames, hframesEq, hframes⟩ := (produced i).exists_frames hlen
  rw [← henvelope, ← List.append_nil header.bytes] at hframesEq
  obtain ⟨-, hnil⟩ :=
    header_unique runtime hwell ((produced i).header_wellFormed hlen) hframesEq
  rw [← hnil] at hframes
  have hchunks := flatten_chunksOf ((produced i).accepted hlen).chunk_pos (produced i).body
  change (produced i).chunks.flatten = _ at hchunks
  rw [← hchunks, hframes.items_eq_nil, List.flatten_nil]

/-- The number of chunks of a size that is a whole number of them. -/
theorem chunkCount_mul {m n : Nat} (hn : 0 < n) (hm : 0 < m) : chunkCount (m * n) n = m := by
  have hpos : 0 < m * n := Nat.mul_pos hm hn
  obtain ⟨m, rfl⟩ : ∃ m', m = m' + 1 := ⟨m - 1, by omega⟩
  have hsub : (m + 1) * n - 1 = (n - 1) + m * n := by
    rw [Nat.succ_mul]
    omega
  rw [chunkCount, if_neg hpos.ne', hsub, Nat.add_mul_div_right _ _ hn,
    Nat.div_eq_of_lt (by omega), Nat.zero_add]

/-- The chunks before the last one are full. -/
theorem length_flatten_take {n : Nat} (hn : 0 < n) {l : Bytes} {m : Nat} :
    m < (chunksOf n l).length ↔ m * n < l.length := by
  rw [length_chunksOf hn]
  split_ifs with hzero
  · simp [hzero]
  · rw [Nat.lt_succ_iff, Nat.le_div_iff_mul_le hn]
    omega

/-- An overlong envelope cut at its stored size is its header and its first frames. -/
theorem take_storedSize (hlen : PreservesLength runtime) {i : ι} {m : Nat} (hm : 0 < m)
    (hsize : (produced i).request.plaintextSize =
      m * (produced i).request.chunkPlaintextBytes)
    (hlt : (produced i).request.plaintextSize < (produced i).body.length) :
    ((produced i).chunks.take m).flatten.length = (produced i).request.plaintextSize ∧
      ∃ front, (produced i).envelope.take (produced i).metadata.storedSize =
          (produced i).header.bytes ++ front ∧
        Frames (Seals runtime (produced i).dataCipher (produced i).header.bytes
          (produced i).randomness.chunkNoncePrefix) 0 ((produced i).chunks.take m) front := by
  have hpos := ((produced i).accepted hlen).chunk_pos
  have hcount : m < (produced i).chunks.length :=
    (length_flatten_take hpos).mpr (by rw [← hsize]; exact hlt)
  have hflatten : ((produced i).chunks.take m).flatten.length =
      (produced i).request.plaintextSize := by
    unfold ProducedEnvelope.chunks
    rw [flatten_take_chunksOf hpos, List.length_take, ← hsize]
    omega
  refine ⟨hflatten, ?_⟩
  obtain ⟨frames, henvelope, hframes⟩ := (produced i).exists_frames hlen
  rw [← List.take_append_drop m (produced i).chunks] at hframes
  obtain ⟨front, back, rfl, hfront, -⟩ := Frames.append_iff.mp hframes
  refine ⟨front, ?_, hfront⟩
  have hfrontLen : front.length = (produced i).request.plaintextSize + m * 20 := by
    rw [Frames.length_eq (fun hseals => hlen.encrypt hseals) hfront, hflatten, List.length_take,
      min_eq_left hcount.le]
  have hstored : ((produced i).header.bytes ++ front).length =
      (produced i).metadata.storedSize := by
    rw [List.length_append, (produced i).length_header hlen, hfrontLen,
      (produced i).storedSize_eq hlen, EncryptRequest.storedSize, hsize,
      chunkCount_mul hpos hm, Nat.add_assoc]
  rw [henvelope, ← List.append_assoc, List.take_left' hstored]

/-- A forged header of an empty object is accepted. -/
theorem not_intact_of_emptyForgery (hideal : IdealAead produced) {submitted : Bytes}
    (h : EmptyForgery produced submitted) : ¬ Intact produced submitted := by
  obtain ⟨hnew, i, header, hwell, rfl, hzero, halgorithm, hnonce, hwrapped⟩ := h
  have hunwraps := unwraps_of_produced hideal i
  rw [← halgorithm, ← hnonce, ← hwrapped] at hunwraps
  have hdelivers : ∃ metadata body,
      Delivers runtime (streamOf [header.bytes]) kek metadata body :=
    ⟨_, _, delivers_iff.mpr ⟨⟨header, (produced i).randomness.dataKey, [], [], hwell, by simp,
      hunwraps, by simp, hzero.symm, Frames.nil 0⟩, rfl, rfl⟩⟩
  intro hintact
  obtain hfails | ⟨j, metadata, henvelope, -⟩ := hintact [header.bytes] (by simp)
  · exact fails_iff.mp hfails hdelivers
  · exact hnew j henvelope

/-- A header determines the upload that has emitted it. -/
theorem index_of_header (hideal : IdealAead produced)
    (hfresh : Function.Injective fun i => (produced i).randomness.dataKey) {i j : ι}
    (h : (produced i).header.parsed runtime = (produced j).header.parsed runtime) : i = j := by
  have hlen := hideal.toPreservesLength
  have halgorithm : (produced i).metadata.algorithm = (produced j).metadata.algorithm := by
    have hparsed : ∀ header : EnvelopeHeader,
        (header.parsed runtime).metadata.algorithm = header.algorithm := fun header =>
      EncryptRequest.chooseRuntimeAlgorithm_preference header.algorithm
    rw [← (produced i).header_algorithm hlen, ← (produced j).header_algorithm hlen,
      ← hparsed, ← hparsed, h]
  have hnonce : (produced i).randomness.keyWrapNonce = (produced j).randomness.keyWrapNonce :=
    congrArg ParsedEnvelopeHeader.keyWrapNonce h
  have hwrapped : (produced i).wrappedDataKey = (produced j).wrappedDataKey :=
    congrArg ParsedEnvelopeHeader.wrappedDataKey h
  have hopened := unwraps_of_produced hideal i
  rw [halgorithm, hnonce, hwrapped, unwraps_of_produced hideal j] at hopened
  exact hfresh (FixedBytes.ext (Except.ok.inj hopened)).symm

/-- An overlong envelope cut at its stored size is accepted, and is not an envelope. -/
theorem not_intact_of_cutOverlong (hideal : IdealAead produced)
    (hfresh : Function.Injective fun i => (produced i).randomness.dataKey) {submitted : Bytes}
    (h : CutOverlong produced submitted) : ¬ Intact produced submitted := by
  obtain ⟨i, hsizePos, hlt, ⟨m, hm⟩, rfl⟩ := h
  have hlen := hideal.toPreservesLength
  rw [Nat.mul_comm] at hm
  have hmPos : 0 < m := by
    apply Nat.pos_of_ne_zero
    rintro rfl
    rw [hm, Nat.zero_mul] at hsizePos
    exact lt_irrefl 0 hsizePos
  obtain ⟨hflatten, front, hcut, hfront⟩ := take_storedSize hlen hmPos hm hlt
  rw [hcut]
  intro hintact
  obtain ⟨metadata, hdelivers⟩ := delivers_of_prefix hideal hflatten hfront
    (List.flatten_singleton (l := (produced i).header.bytes ++ front))
  obtain hfails | ⟨j, metadata', henvelope, hdelivers'⟩ := hintact [_] List.flatten_singleton
  · exact fails_iff.mp hfails ⟨_, _, hdelivers⟩
  · -- the envelope would be that of the same upload, whose body is longer
    obtain ⟨frames, hframesEq, -⟩ := (produced j).exists_frames hlen
    obtain ⟨hparsed, -⟩ := header_unique runtime ((produced i).header_wellFormed hlen)
      ((produced j).header_wellFormed hlen) (henvelope.trans hframesEq)
    cases index_of_header hideal hfresh hparsed
    obtain ⟨-, hbody⟩ := hdelivers.unique hdelivers'
    rw [hbody] at hflatten
    omega

/-- What is accepted is an envelope, or one of the two. -/
theorem produced_of_delivery (hideal : IdealAead produced)
    (hfresh : Function.Injective fun i => (produced i).randomness.dataKey) {submitted : Bytes}
    (delivery : Delivery runtime kek submitted) (hforgery : ¬ EmptyForgery produced submitted)
    (hcut : ¬ CutOverlong produced submitted) :
    ∃ i, submitted = (produced i).envelope ∧
      delivery.plaintexts.flatten = (produced i).body := by
  have hlen := hideal.toPreservesLength
  obtain ⟨i, halgorithm, hnonce, hwrapped, hkey⟩ := exists_produced_of_delivery hideal delivery
  by_cases hnil : delivery.plaintexts = []
  · -- no frames: the string is a header alone
    have hframes : delivery.frames = [] := by
      have hopens := delivery.opens
      rw [hnil] at hopens
      exact Frames.nil_iff.mp hopens
    have hsubmitted : submitted = delivery.header.bytes := by
      have hinput := delivery.input_eq
      rwa [hframes, List.append_nil] at hinput
    have hzero : delivery.header.plaintextSize = 0 := by
      rw [← delivery.size_eq, hnil]
      rfl
    obtain ⟨j, hj⟩ : ∃ j, submitted = (produced j).envelope := by
      by_contra hnone
      exact hforgery ⟨fun j hj => hnone ⟨j, hj⟩, i, delivery.header, delivery.wellFormed,
        hsubmitted, hzero, halgorithm, hnonce, hwrapped⟩
    refine ⟨j, hj, ?_⟩
    rw [hnil, body_eq_nil hlen delivery.wellFormed (hsubmitted.symm.trans hj), List.flatten_nil]
  · -- frames: the header is that of the upload, and the chunks are its first ones
    obtain ⟨hheader, hplaintexts, hframes⟩ := items_of_delivery hideal hfresh delivery hkey hnil
    have hsubmitted : submitted = (produced i).header.bytes ++ delivery.frames := by
      have hinput := delivery.input_eq
      rwa [hheader] at hinput
    have hpos := ((produced i).accepted hlen).chunk_pos
    by_cases hall : (produced i).chunks.length ≤ delivery.plaintexts.length
    · have hchunks : delivery.plaintexts = (produced i).chunks := by
        rw [hplaintexts, List.take_of_length_le hall]
      obtain ⟨frames, henvelope, hframes'⟩ := (produced i).exists_frames hlen
      rw [hchunks] at hframes
      refine ⟨i, ?_, ?_⟩
      · rw [hsubmitted, henvelope, hframes.unique (fun h h' => h.unique h') hframes']
      · rw [hchunks]
        exact flatten_chunksOf hpos _
    · -- the upload has more chunks than its header declares
      exfalso
      apply hcut
      have hlt := (length_flatten_take hpos).mp (lt_of_not_ge hall)
      have hsize : (produced i).request.plaintextSize =
          delivery.plaintexts.length * (produced i).request.chunkPlaintextBytes := by
        obtain ⟨hparsed, -⟩ := header_unique runtime delivery.wellFormed
          ((produced i).header_wellFormed hlen)
          (congrArg (· ++ ([] : Bytes)) hheader)
        have hdeclared : delivery.header.plaintextSize = (produced i).request.plaintextSize :=
          congrArg (fun parsed => parsed.metadata.plaintextSize) hparsed
        have hflatten : delivery.plaintexts.flatten.length =
            ((produced i).chunks.take delivery.plaintexts.length).flatten.length :=
          congrArg (fun plaintexts => plaintexts.flatten.length) hplaintexts
        rw [← hdeclared, ← delivery.size_eq, hflatten]
        unfold ProducedEnvelope.chunks
        rw [flatten_take_chunksOf hpos, List.length_take, min_eq_left hlt.le]
      have hcount : 0 < delivery.plaintexts.length := List.length_pos_iff.mpr hnil
      rw [← hsize] at hlt
      obtain ⟨-, front, hcutEq, hfront⟩ := take_storedSize hlen hcount hsize hlt
      refine ⟨i, ?_, hlt, ⟨_, by rw [hsize, Nat.mul_comm]⟩, ?_⟩
      · rw [hsize]
        exact Nat.mul_pos hcount hpos
      · rw [← hplaintexts] at hfront
        rw [hcutEq, hsubmitted, hframes.unique (fun h h' => h.unique h') hfront]

/-- A submitted string fails or is an envelope, with its body delivered, exactly when it is
neither a forged header of an empty object nor an overlong envelope cut at its stored
size. -/
theorem intact_iff (hideal : IdealAead produced)
    (hfresh : Function.Injective fun i => (produced i).randomness.dataKey) (submitted : Bytes) :
    Intact produced submitted ↔
      ¬ EmptyForgery produced submitted ∧ ¬ CutOverlong produced submitted := by
  constructor
  · intro hintact
    exact ⟨fun h => not_intact_of_emptyForgery hideal h hintact,
      fun h => not_intact_of_cutOverlong hideal hfresh h hintact⟩
  · rintro ⟨hforgery, hcut⟩ fragments rfl
    by_cases hdelivers : ∃ metadata body, Delivers runtime (streamOf fragments) kek metadata body
    · obtain ⟨metadata, body, hdelivers⟩ := hdelivers
      obtain ⟨delivery, -, rfl⟩ := delivers_iff.mp hdelivers
      obtain ⟨i, henvelope, hbody⟩ :=
        produced_of_delivery hideal hfresh delivery hforgery hcut
      rw [hbody] at hdelivers
      exact Or.inr ⟨i, metadata, henvelope, hdelivers⟩
    · exact Or.inl (fails_iff.mpr hdelivers)

end Integrity

/-! ## Section 6: One upload -/

/-- A request for one chunk of three bytes. -/
def oneChunkRequest : EncryptRequest where
  profileId := "profile"
  keyId := "key"
  algorithmPreference := .chaCha20Poly1305
  chunkPlaintextBytes := 4
  plaintextSize := 3
  logicalContentType := none

def oneChunkRandomness : UploadRandomness :=
  ⟨.replicate 32 7, .replicate 12 1, .replicate 4 2⟩

def oneChunkKek : FixedBytes 32 := .replicate 32 9

/-- The data key, wrapped with the small cipher. -/
def oneChunkWrappedKey : Bytes :=
  oneChunkRandomness.dataKey.bytes.map (· + checksum oneChunkKek.bytes) ++
    (checksumTag oneChunkRandomness.keyWrapNonce [] oneChunkRandomness.dataKey.bytes).bytes

def oneChunkHeader : EnvelopeHeader :=
  oneChunkRequest.header checksumRuntime oneChunkWrappedKey oneChunkRandomness.keyWrapNonce
    oneChunkRandomness.chunkNoncePrefix

/-- The small cipher, where decryption looks up the two encryptions of the upload. -/
def lookupRuntime : CryptoRuntime where
  autoRuntimeAlgorithm := checksumRuntime.autoRuntimeAlgorithm
  utf8ErrorText := checksumRuntime.utf8ErrorText
  encryptDetached := checksumRuntime.encryptDetached
  decryptDetached algorithm key nonce aad buffer tag :=
    if algorithm = .chaCha20Poly1305 ∧ key = oneChunkKek ∧
        nonce = oneChunkRandomness.keyWrapNonce ∧ aad = [] ∧
        checksumRuntime.encryptDetached algorithm key nonce aad
          oneChunkRandomness.dataKey.bytes = some (buffer, tag) then
      some oneChunkRandomness.dataKey.bytes
    else if algorithm = .chaCha20Poly1305 ∧ key = oneChunkRandomness.dataKey ∧
        nonce = chunkNonce oneChunkRandomness.chunkNoncePrefix 0 ∧ aad = oneChunkHeader.bytes ∧
        checksumRuntime.encryptDetached algorithm key nonce aad [1, 2, 3] =
          some (buffer, tag) then
      some [1, 2, 3]
    else none

theorem lookupRuntime_preservesLength : PreservesLength lookupRuntime where
  length_eq := by
    intro algorithm key nonce aad plaintext buffer tag h
    cases h
    exact List.length_map _

/-- The sealed chunk. -/
def oneChunkSealed : Bytes :=
  [1, 2, 3].map (· + checksum oneChunkRandomness.dataKey.bytes) ++
    (checksumTag (chunkNonce oneChunkRandomness.chunkNoncePrefix 0) oneChunkHeader.bytes
      [1, 2, 3]).bytes

theorem lookupRuntime_chunk {buffer : Bytes} {tag : FixedBytes 16}
    (h : checksumRuntime.encryptDetached .chaCha20Poly1305 oneChunkRandomness.dataKey
      (chunkNonce oneChunkRandomness.chunkNoncePrefix 0) oneChunkHeader.bytes [1, 2, 3] =
        some (buffer, tag)) :
    lookupRuntime.decryptDetached .chaCha20Poly1305 oneChunkRandomness.dataKey
      (chunkNonce oneChunkRandomness.chunkNoncePrefix 0) oneChunkHeader.bytes buffer tag =
        some [1, 2, 3] := by
  have haad : oneChunkHeader.bytes ≠ [] := header_bytes_ne_nil _
  simp only [lookupRuntime]
  rw [if_neg (fun hwrap => haad hwrap.2.2.2.1)]
  exact if_pos ⟨trivial, trivial, trivial, trivial, h⟩

theorem oneChunk_chunks : chunksOf 4 ([1, 2, 3] : Bytes) = [[1, 2, 3]] := by
  rw [chunksOf_of_ne_nil (by decide) (by decide)]
  simp

theorem oneChunk_wraps :
    Wraps lookupRuntime oneChunkKek .chaCha20Poly1305 oneChunkRandomness oneChunkWrappedKey :=
  rfl

theorem oneChunk_uploads :
    Uploads lookupRuntime oneChunkRandomness (streamOf [[1, 2, 3]]) oneChunkRequest oneChunkKek
      (oneChunkRequest.metadata lookupRuntime)
      (oneChunkHeader.bytes ++ frameBytes oneChunkSealed) := by
  apply (uploads_iff lookupRuntime_preservesLength).mpr
  have haccepted : oneChunkRequest.Accepted :=
    ((@plannedMetadata_ok_iff lookupRuntime _ _).mp rfl).1
  refine ⟨haccepted, rfl, oneChunkWrappedKey, frameBytes oneChunkSealed, oneChunk_wraps, rfl, ?_⟩
  have hframes : Frames (Seals lookupRuntime ⟨.chaCha20Poly1305, oneChunkRandomness.dataKey⟩
      oneChunkHeader.bytes oneChunkRandomness.chunkNoncePrefix) 0 [[1, 2, 3]]
      (frameBytes oneChunkSealed ++ []) :=
    Frames.cons rfl (by decide) (Frames.nil _)
  rw [List.append_nil] at hframes
  change Frames _ 0 (chunksOf 4 ([1, 2, 3] : Bytes)) _
  rw [oneChunk_chunks]
  exact hframes

/-- The upload, as the only one. -/
def oneChunkProduced (_ : Unit) : ProducedEnvelope lookupRuntime oneChunkKek where
  request := oneChunkRequest
  randomness := oneChunkRandomness
  fragments := [[1, 2, 3]]
  metadata := oneChunkRequest.metadata lookupRuntime
  wrappedDataKey := oneChunkWrappedKey
  envelope := oneChunkHeader.bytes ++ frameBytes oneChunkSealed
  wraps := oneChunk_wraps
  uploads := oneChunk_uploads

theorem oneChunkProduced_chunks : (oneChunkProduced ()).chunks = [[1, 2, 3]] :=
  oneChunk_chunks

/-- Looking up the two encryptions is ideal. -/
theorem lookupRuntime_ideal : IdealAead oneChunkProduced where
  toPreservesLength := lookupRuntime_preservesLength
  decrypt_iff := by
    intro algorithm key nonce aad buffer tag plaintext _
    constructor
    · intro h
      simp only [lookupRuntime] at h
      split_ifs at h with hwrap hchunk
      · obtain ⟨rfl, rfl, rfl, rfl, hsealed⟩ := hwrap
        cases h
        exact ⟨(), .wrap, hsealed⟩
      · obtain ⟨rfl, rfl, rfl, rfl, hsealed⟩ := hchunk
        cases h
        refine ⟨(), ?_, hsealed⟩
        exact @ProducedEnvelope.Encrypts.chunk _ _ (oneChunkProduced ()) 0 [1, 2, 3]
          (by rw [oneChunkProduced_chunks]; rfl)
    · rintro ⟨⟨⟩, hcall, hsealed⟩
      cases hcall with
      | wrap => exact if_pos ⟨rfl, rfl, rfl, rfl, hsealed⟩
      | @chunk k plaintext hchunk =>
        rw [oneChunkProduced_chunks] at hchunk
        obtain ⟨hlt, hget⟩ := List.getElem?_eq_some_iff.mp hchunk
        have hk : k = 0 := Nat.lt_one_iff.mp hlt
        subst hk
        cases hget
        exact lookupRuntime_chunk hsealed

theorem oneChunkProduced_fresh :
    Function.Injective fun i => (oneChunkProduced i).randomness.dataKey :=
  fun _ _ _ => rfl

theorem intact_iff_envelope : Intact oneChunkProduced (oneChunkProduced ()).envelope := by
  refine (intact_iff lookupRuntime_ideal oneChunkProduced_fresh _).mpr ⟨?_, ?_⟩
  · rintro ⟨hnew, -⟩
    exact hnew () rfl
  · rintro ⟨i, -, hlt, -⟩
    exact lt_irrefl 3 hlt

/-- The header of the upload with its size set to zero. -/
def emptiedHeader : EnvelopeHeader := { oneChunkHeader with plaintextSize := 0 }

theorem emptiedHeader_accepted :
    IdealAead oneChunkProduced ∧
      (Function.Injective fun i => (oneChunkProduced i).randomness.dataKey) ∧
      ¬ Intact oneChunkProduced emptiedHeader.bytes := by
  refine ⟨lookupRuntime_ideal, oneChunkProduced_fresh, ?_⟩
  have haccepted : ({ oneChunkRequest with plaintextSize := 0 } : EncryptRequest).Accepted :=
    ((@plannedMetadata_ok_iff lookupRuntime _ _).mp rfl).1
  have hwell : emptiedHeader.WellFormed :=
    @EncryptRequest.wellFormed_header lookupRuntime _ oneChunkWrappedKey
      oneChunkRandomness.keyWrapNonce oneChunkRandomness.chunkNoncePrefix haccepted
      (length_wrapped lookupRuntime_preservesLength oneChunk_wraps)
  apply not_intact_of_emptyForgery lookupRuntime_ideal
  refine ⟨?_, (), emptiedHeader, hwell, rfl, rfl, rfl, rfl, rfl⟩
  rintro ⟨⟩ henvelope
  -- the envelope starts with a header that declares three bytes
  have hwell' := (oneChunkProduced ()).header_wellFormed lookupRuntime_preservesLength
  obtain ⟨hparsed, -⟩ := header_unique lookupRuntime hwell hwell'
    ((List.append_nil _).trans henvelope)
  exact absurd (congrArg (fun parsed => parsed.metadata.plaintextSize) hparsed) (by decide)

end Netdisk2Blob.ObjectCrypto
