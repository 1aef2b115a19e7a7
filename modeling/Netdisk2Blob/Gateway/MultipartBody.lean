import Netdisk2Blob.Gateway.Requests

/-!
# The Body of a Multipart Completion

`finalize_multipart_upload` hands the home backend one stream over the opened part files
and computes the multipart ETag while the stream is read. The backend polls the stream as
it likes and may stop before its end; the ETag is complete only after the last poll.

## Contents

- `MultipartCompleteEtagAccumulator`, `s3MultipartCompleteEtag`
- `MultipartBody.next`: one poll of the stream; `MultipartBody.consume`: a run of polls
- `consume_complete`: a stream with a complete ETag has been read to its end
- `completion_body_streamed`: what the backend is handed, wherever it stops
-/

namespace Netdisk2Blob.Gateway

open Library Text

/-! ## Section 1: The ETag of a completion -/

/-- An MD5 that is under way is what it has been fed so far. -/
structure MultipartCompleteEtagAccumulator where
  currentPartHasher : Option Bytes
  partDigests : List Bytes
  deriving DecidableEq, Repr

/-- The MD5 of the part MD5s and the number of parts. -/
def s3MultipartCompleteEtag (md5 : Bytes → Bytes) (partDigests : List Bytes) : String :=
  hexEncode (md5 partDigests.flatten) ++ "-" ++ toString partDigests.length

namespace MultipartCompleteEtagAccumulator

def fresh : MultipartCompleteEtagAccumulator where
  currentPartHasher := none
  partDigests := []

def startPart (etag : MultipartCompleteEtagAccumulator) : MultipartCompleteEtagAccumulator :=
  { etag with currentPartHasher := some [] }

def updatePart (etag : MultipartCompleteEtagAccumulator) (chunk : Bytes) :
    MultipartCompleteEtagAccumulator :=
  { etag with currentPartHasher := some (etag.currentPartHasher.getD [] ++ chunk) }

def finishPart (md5 : Bytes → Bytes) (etag : MultipartCompleteEtagAccumulator) :
    MultipartCompleteEtagAccumulator where
  currentPartHasher := none
  partDigests := etag.partDigests ++ [md5 (etag.currentPartHasher.getD [])]

def completeEtag (md5 : Bytes → Bytes) (etag : MultipartCompleteEtagAccumulator) :
    Except S3Error String :=
  if etag.currentPartHasher.isSome ∨ etag.partDigests.isEmpty then
    .error (.internalError "multipart complete etag state is incomplete.")
  else .ok (s3MultipartCompleteEtag md5 etag.partDigests)

end MultipartCompleteEtagAccumulator

/-! ## Section 2: The stream -/

/-- The part files that are still to be read, the first one from where it was left. -/
structure MultipartBody where
  sources : List Bytes
  etag : MultipartCompleteEtagAccumulator
  deriving DecidableEq, Repr

namespace MultipartBody

variable (md5 : Bytes → Bytes) (chunkBytes : Nat)

def start (sources : List Bytes) : MultipartBody where
  sources := sources
  etag := MultipartCompleteEtagAccumulator.fresh.startPart

/-- The poll's loop: a file at its end finishes its part, another one gives up to a buffer
of bytes, and at least one; how many is up to the file system (`read`). -/
def nextFrom (read : Nat) :
    List Bytes → MultipartCompleteEtagAccumulator → Option Bytes × MultipartBody
  | [], etag => (none, ⟨[], etag⟩)
  | [] :: sources, etag =>
    let finished := etag.finishPart md5
    nextFrom read sources (if sources.isEmpty then finished else finished.startPart)
  | source :: sources, etag =>
    let chunk := source.take (max 1 (min read chunkBytes))
    (some chunk,
      ⟨source.drop (max 1 (min read chunkBytes)) :: sources, etag.updatePart chunk⟩)

def next (read : Nat) (body : MultipartBody) : Option Bytes × MultipartBody :=
  nextFrom md5 chunkBytes read body.sources body.etag

/-- What a backend is handed by its polls, one per number of `reads`. -/
def consume : List Nat → MultipartBody → Bytes × MultipartBody
  | [], body => ([], body)
  | read :: reads, body =>
    match body.next md5 chunkBytes read with
    | (none, body') => ([], body')
    | (some chunk, body') => (chunk ++ (consume reads body').1, (consume reads body').2)

/-! ## Section 3: What the polls keep -/

variable {md5 chunkBytes}

/-- Of the given parts, some are digested; the first of the others is being read, and the
hasher holds what has been handed over of it. -/
structure Reading (md5 : Bytes → Bytes) (parts : List Bytes) (delivered : Bytes)
    (body : MultipartBody) : Prop where
  digested : ∃ front read rest, parts = front ++ (read ++ rest) :: body.sources.tail ∧
    body.sources = rest :: body.sources.tail ∧
    body.etag = ⟨some read, front.map md5⟩ ∧
    delivered = front.flatten ++ read

/-- Every part has been handed over and digested. -/
structure Finished (md5 : Bytes → Bytes) (parts : List Bytes) (delivered : Bytes)
    (body : MultipartBody) : Prop where
  sources : body.sources = []
  etag : body.etag = ⟨none, parts.map md5⟩
  delivered : delivered = parts.flatten

variable {parts : List Bytes} {delivered : Bytes}

theorem reading_start (hne : parts ≠ []) : Reading md5 parts [] (start parts) := by
  cases parts with
  | nil => exact absurd rfl hne
  | cons part parts => exact ⟨[], [], part, rfl, rfl, rfl, rfl⟩

/-- One poll: a chunk, or the end. -/
theorem Reading.next {body : MultipartBody} (h : Reading md5 parts delivered body) (read : Nat) :
    (∃ chunk body', body.next md5 chunkBytes read = (some chunk, body') ∧ chunk ≠ [] ∧
      Reading md5 parts (delivered ++ chunk) body') ∨
    (∃ body', body.next md5 chunkBytes read = (none, body') ∧
      Finished md5 parts delivered body') := by
  obtain ⟨front, seen, rest, hparts, hsources, hetag, hdelivered⟩ := h
  obtain ⟨sources, etag⟩ := body
  simp only at hparts hsources hetag hdelivered ⊢
  subst hetag
  generalize sources.tail = tail at hparts hsources
  subst hsources
  subst hparts
  subst hdelivered
  unfold MultipartBody.next
  -- the loop skips files at their end, so the induction is on the files
  induction tail generalizing front seen rest with
  | nil =>
    cases rest with
    | nil =>
      refine Or.inr ⟨_, rfl, rfl, ?_, ?_⟩
      · simp [MultipartCompleteEtagAccumulator.finishPart]
      · simp
    | cons byte bytes =>
      refine Or.inl ⟨_, _, rfl, by simp, front, seen ++ _, _, ?_, rfl, rfl, ?_⟩
      · simp
      · simp
  | cons source tail ih =>
    cases rest with
    | nil =>
      have hnext := ih (front ++ [seen]) [] source
      simp only [List.append_assoc, List.singleton_append, List.nil_append, List.map_append,
        List.map_cons, List.map_nil, List.flatten_append, List.flatten_cons, List.flatten_nil,
        List.append_nil] at hnext ⊢
      exact hnext
    | cons byte bytes =>
      refine Or.inl ⟨_, _, rfl, by simp, front, seen ++ _, _, ?_, rfl, rfl, ?_⟩
      · simp
      · simp

theorem Reading.isPrefix {body : MultipartBody}
    (h : Reading md5 parts delivered body) : delivered <+: parts.flatten := by
  obtain ⟨front, seen, rest, hparts, -, -, rfl⟩ := h
  rw [hparts, List.flatten_append, List.flatten_cons, List.append_assoc seen]
  exact ⟨rest ++ body.sources.tail.flatten, by rw [List.append_assoc]⟩

theorem Reading.completeEtag {body : MultipartBody} (h : Reading md5 parts delivered body) :
    ∃ error, body.etag.completeEtag md5 = .error error := by
  obtain ⟨front, seen, rest, -, -, hetag, -⟩ := h
  rw [hetag]
  exact ⟨_, if_pos (by simp)⟩

theorem Finished.completeEtag {body : MultipartBody} (h : Finished md5 parts delivered body)
    (hne : parts ≠ []) :
    body.etag.completeEtag md5 = .ok (s3MultipartCompleteEtag md5 (parts.map md5)) := by
  rw [h.etag]
  apply if_neg
  simpa using hne

/-- The run lemma of the polls. -/
theorem Reading.consume {body : MultipartBody} (h : Reading md5 parts delivered body)
    (reads : List Nat) :
    Reading md5 parts (delivered ++ (consume md5 chunkBytes reads body).1)
        (MultipartBody.consume md5 chunkBytes reads body).2 ∨
      Finished md5 parts (delivered ++ (MultipartBody.consume md5 chunkBytes reads body).1)
        (MultipartBody.consume md5 chunkBytes reads body).2 := by
  induction reads generalizing delivered body with
  | nil =>
    rw [MultipartBody.consume, List.append_nil]
    exact Or.inl h
  | cons read reads ih =>
    rw [MultipartBody.consume]
    rcases @Reading.next md5 chunkBytes parts delivered body h read with
      ⟨chunk, body', hnext, -, hreading⟩ | ⟨body', hnext, hfinished⟩
    · rw [hnext]
      show Reading md5 parts (delivered ++ (chunk ++ _)) _ ∨ _
      rw [← List.append_assoc]
      exact ih hreading
    · rw [hnext]
      show Reading md5 parts (delivered ++ []) _ ∨ Finished md5 parts (delivered ++ []) _
      rw [List.append_nil]
      exact Or.inr hfinished

/-- **A complete ETag means that the whole stream was handed over**, and it is the ETag of
the parts. -/
theorem consume_complete (hne : parts ≠ []) {reads : List Nat} {etag : String}
    (h : (consume md5 chunkBytes reads (start parts)).2.etag.completeEtag md5 = .ok etag) :
    (consume md5 chunkBytes reads (start parts)).1 = parts.flatten ∧
      etag = s3MultipartCompleteEtag md5 (parts.map md5) := by
  rcases @Reading.consume md5 chunkBytes parts [] _ (reading_start hne) reads with
    hreading | hfinished
  · obtain ⟨error, herror⟩ := hreading.completeEtag
    rw [herror] at h
    cases h
  · rw [hfinished.completeEtag hne] at h
    exact ⟨hfinished.delivered, (Except.ok.inj h).symm⟩

/-- Every chunk has a byte, so enough polls read the stream to its end. -/
theorem Reading.exists_finished {body : MultipartBody} (h : Reading md5 parts delivered body) :
    ∃ reads, Finished md5 parts (delivered ++ (MultipartBody.consume md5 chunkBytes reads body).1)
      (MultipartBody.consume md5 chunkBytes reads body).2 := by
  -- the induction is on the bytes that are left
  induction hleft : parts.flatten.length - delivered.length using Nat.strong_induction_on
      generalizing delivered body with
  | _ left ih =>
    rcases @Reading.next md5 chunkBytes parts delivered body h 1 with
      ⟨chunk, body', hnext, hchunk, hreading⟩ | ⟨body', hnext, hfinished⟩
    · have hpos : 0 < chunk.length := List.length_pos_iff.mpr hchunk
      have hle := hreading.isPrefix.length_le
      rw [List.length_append] at hle
      have hless : parts.flatten.length - (delivered ++ chunk).length < left := by
        rw [List.length_append]
        omega
      obtain ⟨reads, hreads⟩ := ih _ hless hreading rfl
      refine ⟨1 :: reads, ?_⟩
      rw [MultipartBody.consume, hnext]
      show Finished md5 parts (delivered ++ (chunk ++ _)) _
      rw [← List.append_assoc]
      exact hreads
    · refine ⟨[1], ?_⟩
      rw [MultipartBody.consume, hnext]
      show Finished md5 parts (delivered ++ []) _
      rw [List.append_nil]
      exact hfinished

/-- The same after any polls. -/
theorem Reading.exists_more {body : MultipartBody} (h : Reading md5 parts delivered body)
    (reads : List Nat) :
    ∃ more, Finished md5 parts
      (delivered ++ (MultipartBody.consume md5 chunkBytes (reads ++ more) body).1)
      (MultipartBody.consume md5 chunkBytes (reads ++ more) body).2 := by
  induction reads generalizing delivered body with
  | nil => exact h.exists_finished
  | cons read reads ih =>
    rcases @Reading.next md5 chunkBytes parts delivered body h read with
      ⟨chunk, body', hnext, -, hreading⟩ | ⟨body', hnext, hfinished⟩
    · obtain ⟨more, hmore⟩ := ih hreading
      refine ⟨more, ?_⟩
      rw [List.cons_append, MultipartBody.consume, hnext]
      show Finished md5 parts (delivered ++ (chunk ++ _)) _
      rw [← List.append_assoc]
      exact hmore
    · refine ⟨[], ?_⟩
      rw [List.append_nil, MultipartBody.consume, hnext]
      show Finished md5 parts (delivered ++ []) _
      rw [List.append_nil]
      exact hfinished

/-- **The body of a completion.** Whatever a backend polls, it is handed the beginning of
the parts in their order, without a complete ETag unless it has come to the end; and from
wherever it stops, more polls bring it all the parts and their ETag. -/
theorem completion_body_streamed (hne : parts ≠ []) (reads : List Nat) :
    (consume md5 chunkBytes reads (start parts)).1 <+: parts.flatten ∧
      ((consume md5 chunkBytes reads (start parts)).1 = parts.flatten ∨
        ∃ error, (consume md5 chunkBytes reads (start parts)).2.etag.completeEtag md5 =
          .error error) ∧
      ∃ more, (consume md5 chunkBytes (reads ++ more) (start parts)).1 = parts.flatten ∧
        (consume md5 chunkBytes (reads ++ more) (start parts)).2.etag.completeEtag md5 =
          .ok (s3MultipartCompleteEtag md5 (parts.map md5)) := by
  have hstart : Reading md5 parts [] (start parts) := reading_start hne
  obtain ⟨more, hmore⟩ := @Reading.exists_more md5 chunkBytes parts [] _ hstart reads
  have hrun := @Reading.consume md5 chunkBytes parts [] _ hstart reads
  refine ⟨?_, ?_, more, hmore.delivered, hmore.completeEtag hne⟩
  · rcases hrun with hreading | hfinished
    · exact hreading.isPrefix
    · exact ⟨[], (List.append_nil _).trans hfinished.delivered⟩
  · rcases hrun with hreading | hfinished
    · exact Or.inr hreading.completeEtag
    · exact Or.inl hfinished.delivered

/-- A backend that has polled once, of three part files. -/
theorem completion_body_streamed_partly :
    ∃ more, (consume List.reverse 2 ([5] ++ more) (start [[1, 2, 3], [], [4]])).1 =
        [1, 2, 3, 4] ∧
      (consume List.reverse 2 ([5] ++ more) (start [[1, 2, 3], [], [4]])).2.etag.completeEtag
        List.reverse = .ok (s3MultipartCompleteEtag List.reverse [[3, 2, 1], [], [4]]) :=
  (completion_body_streamed (List.cons_ne_nil _ _) [5]).2.2

end MultipartBody

end Netdisk2Blob.Gateway
