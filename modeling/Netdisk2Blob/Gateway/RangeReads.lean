import Netdisk2Blob.Gateway.S3Requests
import Netdisk2Blob.Library.Windows

/-!
# Range Reads

A GET with a `Range` header delivers a part of the object: the header is checked against the
size of the object, and the body is cut while it streams, fragment by fragment.

## Contents

- `parseSingleRangeHeader`: the ranges that are accepted
- `sliceStep`, `sliceStream`, `sliceBodyByRange`: the cut, with `none` where an operation
  overflows or a slice is out of range
- `selectRange`: the status, the body and the length of the response
- `rangeRead_exact`: what is emitted is the range of the body, and an error in front of its
  last byte ends the body
-/

namespace Netdisk2Blob.Gateway

open Library Text Blob

/-! ## Section 1: The header -/

/-- An error response with its `Content-Range`. -/
structure RangeError where
  error : S3Error
  contentRange : Option String
  deriving DecidableEq, Repr

namespace RangeError

def invalidRequest (message : String) : RangeError := ⟨.invalidRequest message, none⟩

def invalidRange (totalSize : Nat) (message : String) : RangeError :=
  ⟨⟨"InvalidRange", 416, message⟩, some s!"bytes */{totalSize}"⟩

end RangeError

/-- `start` and `end` of the source, both included. -/
structure ByteRangeInclusive where
  start : Nat
  last : Nat
  deriving DecidableEq, Repr

def checkedSubU64 (a b : Nat) : Option Nat := if b ≤ a then some (a - b) else none

def ByteRangeInclusive.len (range : ByteRangeInclusive) : Option Nat :=
  (checkedSubU64 range.last range.start).bind (fun difference => checkedAddU64 difference 1)

def malformedRange : RangeError := .invalidRequest "Malformed Range header."

def parseSingleRangeHeader (header : String) (totalSize : Nat) :
    Except RangeError ByteRangeInclusive :=
  match stripPrefix "bytes=" (trim header) with
  | none => .error (.invalidRequest "Range header must use bytes unit.")
  | some raw =>
    if ',' ∈ raw.toList then .error (.invalidRequest "Multiple byte ranges are not supported.")
    else
      match splitOnce '-' raw with
      | none => .error malformedRange
      | some (left, right) =>
        if left = "" then
          -- a suffix range: the last bytes of the object
          match parseUnsigned u64Max right with
          | none => .error malformedRange
          | some suffix =>
            if suffix = 0 then .error malformedRange
            else if totalSize = 0 then
              .error (.invalidRange totalSize
                "Requested range is not satisfiable for an empty object.")
            else .ok ⟨totalSize - min suffix totalSize, totalSize - 1⟩
        else
          match parseUnsigned u64Max left with
          | none => .error malformedRange
          | some start =>
            if totalSize ≤ start then
              .error (.invalidRange totalSize "Requested range start exceeds object size.")
            else if right = "" then .ok ⟨start, totalSize - 1⟩
            else
              match parseUnsigned u64Max right with
              | none => .error malformedRange
              | some last =>
                if last < start then .error malformedRange
                else if totalSize ≤ last then .ok ⟨start, totalSize - 1⟩
                else .ok ⟨start, last⟩

/-- An accepted range lies within the object. -/
theorem parseSingleRangeHeader_ok {header : String} {totalSize : Nat} {range : ByteRangeInclusive}
    (h : parseSingleRangeHeader header totalSize = .ok range) :
    range.start ≤ range.last ∧ range.last < totalSize := by
  unfold parseSingleRangeHeader at h
  split at h
  · cases h
  split at h
  · cases h
  split at h
  · cases h
  rename_i left right _
  split at h
  · -- the suffix is cut to the size of the object
    split at h
    · cases h
    rename_i suffix _
    split at h
    · cases h
    split at h
    · cases h
    cases h
    dsimp only
    omega
  · split at h
    · cases h
    rename_i start _
    split at h
    · cases h
    split at h
    · cases h
      dsimp only
      omega
    split at h
    · cases h
    rename_i last _
    split at h
    · cases h
    -- the end is cut to the size of the object
    split at h <;> cases h <;> dsimp only <;> omega

/-! ## Section 2: The cut of a body -/

/-- `Bytes::slice(begin..finish)`. -/
def sliceBytes (chunk : Bytes) (first finish : Nat) : Option Bytes :=
  if first ≤ finish ∧ finish ≤ chunk.length then some ((chunk.take finish).drop first) else none

/-- What a fragment that begins at `offset` yields, the offset behind it, and whether the end
of the range has been reached. -/
def sliceStep (range : ByteRangeInclusive) (offset : Nat) (chunk : Bytes) :
    Option (Bytes × Nat × Bool) := do
  let chunkLen := chunk.length
  let chunkStart := offset
  let chunkEnd ← checkedAddU64 offset (chunkLen - 1)
  let nextOffset ← checkedAddU64 offset chunkLen
  if chunkLen = 0 ∨ chunkEnd < range.start ∨ range.last < chunkStart then
    return ([], nextOffset, decide (range.last < chunkStart))
  else
    let first := range.start - chunkStart
    let covered ← checkedSubU64 (min range.last chunkEnd) chunkStart
    let finish ← checkedAddU64 covered 1
    let sliced ← sliceBytes chunk first finish
    return (sliced, nextOffset, decide (range.last ≤ chunkEnd))

/-- The stream of the cut fragments; the third argument is the flag that ends it. -/
def sliceStream (range : ByteRangeInclusive) :
    ObjectBodyStream → Nat → Bool → Option ObjectBodyStream
  | _, _, true => some []
  | [], _, false => some []
  | .error error :: _, _, false => some [.error error]
  | .ok chunk :: inner, offset, false => do
    let (sliced, nextOffset, reachedEnd) ← sliceStep range offset chunk
    let later ← sliceStream range inner nextOffset reachedEnd
    return .ok sliced :: later

/-- The filter behind the cut: fragments without bytes are not passed on. -/
def isEmptyChunk : Except BlobError Bytes → Bool
  | .ok chunk => chunk.isEmpty
  | .error _ => false

def sliceBodyByRange (body : ObjectBodyStream) (range : ByteRangeInclusive) :
    Option ObjectBodyStream :=
  (sliceStream range body 0 false).map (fun items => items.filter (fun item => !isEmptyChunk item))

/-! ## Section 3: The response -/

structure RangeResponse where
  status : Nat
  body : Option ObjectBodyStream
  contentLength : Option Nat
  contentRange : Option String

/-- The choice of `get_object` by its `Range` header. -/
def selectRange (header : Option (Option HeaderText)) (body : ObjectBodyStream) (size : Nat) :
    Except RangeError RangeResponse :=
  match header with
  | none => .ok ⟨200, some body, some size, none⟩
  | some none =>
    .error (.invalidRequest "Range header must be valid visible ASCII.")
  | some (some value) =>
    match parseSingleRangeHeader value.val size with
    | .error error => .error error
    | .ok range =>
      .ok ⟨206, sliceBodyByRange body range, range.len,
        some s!"bytes {range.start}-{range.last}/{size}"⟩

/-! ## Section 4: One fragment -/

section Steps

variable {range : ByteRangeInclusive} {offset : Nat}

/-- **Step lemma.** A fragment that fits behind its offset yields its part of the range, and
the flag says whether the range ends in it. -/
theorem sliceStep_eq (hrange : range.start ≤ range.last) (hoffset : offset ≤ range.last)
    {chunk : Bytes} (hsize : offset + chunk.length ≤ u64Max) :
    sliceStep range offset chunk =
      some (windowAt offset range.start range.last chunk, offset + chunk.length,
        decide (range.last < offset + chunk.length)) := by
  have hend : checkedAddU64 offset (chunk.length - 1) = some (offset + (chunk.length - 1)) :=
    checkedAddU64_eq_some.mpr ⟨by omega, rfl⟩
  have hnext : checkedAddU64 offset chunk.length = some (offset + chunk.length) :=
    checkedAddU64_eq_some.mpr ⟨hsize, rfl⟩
  simp only [sliceStep, hend, hnext, Option.bind_eq_bind, Option.bind_some]
  split
  · -- nothing of the fragment lies in the range
    rename_i hnone
    have hbefore : offset + chunk.length ≤ range.start ∨ chunk = [] := by
      rcases hnone with hempty | hbefore | hafter
      · exact Or.inr (List.length_eq_zero_iff.mp hempty)
      · by_cases hempty : chunk = []
        · exact Or.inr hempty
        · have hpos : 0 < chunk.length := List.length_pos_iff.mpr hempty
          exact Or.inl (by omega)
      · omega
    rcases hbefore with hbefore | rfl
    · have hflag : ¬ range.last < offset + chunk.length := by omega
      have hflag' : ¬ range.last < offset := by omega
      simp [windowAt_eq_nil_of_lt hbefore, hflag, hflag']
    · simp
  · -- the fragment and the range overlap
    rename_i hoverlap
    simp only [not_or, not_lt] at hoverlap
    obtain ⟨hpos, hstart, -⟩ := hoverlap
    obtain ⟨finish, hfinish⟩ : ∃ finish, finish =
        min range.last (offset + (chunk.length - 1)) - offset + 1 := ⟨_, rfl⟩
    have hcovered : checkedSubU64 (min range.last (offset + (chunk.length - 1))) offset =
        some (min range.last (offset + (chunk.length - 1)) - offset) :=
      if_pos (by omega)
    have hsucc : checkedAddU64 (min range.last (offset + (chunk.length - 1)) - offset) 1 =
        some finish := checkedAddU64_eq_some.mpr ⟨by omega, hfinish⟩
    have hslice : sliceBytes chunk (range.start - offset) finish =
        some ((chunk.take finish).drop (range.start - offset)) := if_pos ⟨by omega, by omega⟩
    have hcut : chunk.take finish = chunk.take (range.last + 1 - offset) := by
      rcases Nat.le_total chunk.length (range.last + 1 - offset) with hshort | hlong
      · rw [List.take_of_length_le hshort, List.take_of_length_le (by omega)]
      · have heq : finish = range.last + 1 - offset := by omega
        rw [heq]
    have hflag : decide (range.last ≤ offset + (chunk.length - 1)) =
        decide (range.last < offset + chunk.length) := by
      simp only [decide_eq_decide]
      omega
    simp only [hcovered, hsucc, hslice, Option.bind_some, hcut, hflag, windowAt]
    rfl

/-! ## Section 5: Streams -/

variable {fragments : List Bytes} {tail : ObjectBodyStream}

/-- As long as the range has not ended, the fragments yield their parts of it one by one. -/
theorem sliceStream_before (hrange : range.start ≤ range.last) (hlast : range.last ≤ u64Max)
    (hbefore : offset + fragments.flatten.length ≤ range.last) :
    sliceStream range (streamOf fragments ++ tail) offset false =
      (sliceStream range tail (offset + fragments.flatten.length) false).map (fun later =>
        streamOf (windows range.start range.last offset fragments) ++ later) := by
  induction fragments generalizing offset with
  | nil => simp [streamOf, windows]
  | cons chunk fragments ih =>
    rw [List.flatten_cons, List.length_append] at hbefore
    have hoffset : offset ≤ range.last := by omega
    have hchunk : offset + chunk.length ≤ u64Max := by omega
    have hstep := sliceStep_eq hrange hoffset hchunk
    have hflag : decide (range.last < offset + chunk.length) = false := by
      rw [decide_eq_false_iff_not]
      omega
    rw [hflag] at hstep
    have hnext : offset + chunk.length + fragments.flatten.length ≤ range.last := by omega
    have hrest := ih hnext
    simp only [streamOf, List.map_cons, List.cons_append, sliceStream, hstep,
      Option.bind_eq_bind, Option.bind_some]
    simp only [streamOf] at hrest
    rw [hrest, List.flatten_cons, List.length_append, Nat.add_assoc]
    cases sliceStream range tail (offset + (chunk.length + fragments.flatten.length)) false <;>
      simp [windows]

/-- Once the range has ended, nothing of what follows is emitted. -/
theorem sliceStream_reaching (hrange : range.start ≤ range.last) (hoffset : offset ≤ range.last)
    (hsize : offset + fragments.flatten.length ≤ u64Max)
    (hreach : range.last < offset + fragments.flatten.length) :
    ∃ pieces, sliceStream range (streamOf fragments ++ tail) offset false =
        some (streamOf pieces) ∧
      pieces.flatten = windowAt offset range.start range.last fragments.flatten := by
  induction fragments generalizing offset with
  | nil =>
    rw [List.flatten_nil, List.length_nil] at hreach
    omega
  | cons chunk fragments ih =>
    rw [List.flatten_cons, List.length_append] at hsize hreach
    have hchunk : offset + chunk.length ≤ u64Max := by omega
    have hstep := sliceStep_eq hrange hoffset hchunk
    by_cases hend : range.last < offset + chunk.length
    · -- the range ends in this fragment
      refine ⟨[windowAt offset range.start range.last chunk], ?_, ?_⟩
      · rw [decide_eq_true hend] at hstep
        simp [streamOf, sliceStream, hstep]
      · simp only [List.flatten_cons, List.flatten_nil, windowAt_append,
          windowAt_eq_nil_of_gt hend]
    · rw [decide_eq_false hend] at hstep
      have hnext : offset + chunk.length ≤ range.last := Nat.le_of_not_lt hend
      obtain ⟨pieces, hpieces, hflatten⟩ := ih hnext (by omega) (by omega)
      refine ⟨windowAt offset range.start range.last chunk :: pieces, ?_, ?_⟩
      · simp only [streamOf] at hpieces
        simp [streamOf, sliceStream, hstep, hpieces]
      · rw [List.flatten_cons, List.flatten_cons, windowAt_append, hflatten]

end Steps

/-! ## Section 6: The body of a range read -/

/-- The filter drops no bytes. -/
theorem filter_streamOf (pieces : List Bytes) :
    (streamOf pieces).filter (fun item => !isEmptyChunk item) =
      streamOf (pieces.filter (fun piece => !piece.isEmpty)) := by
  rw [streamOf, streamOf, List.filter_map]
  rfl

theorem flatten_filter_isEmpty (pieces : List Bytes) :
    (pieces.filter (fun piece => !piece.isEmpty)).flatten = pieces.flatten := by
  induction pieces with
  | nil => rfl
  | cons piece pieces ih => cases piece <;> simp [ih]

section Reads

variable {range : ByteRangeInclusive} {fragments : List Bytes} {tail : ObjectBodyStream}

theorem len_eq {totalSize : Nat} (hsize : totalSize ≤ u64Max)
    (hrange : range.start ≤ range.last) (hlast : range.last < totalSize) :
    range.len = some (range.last - range.start + 1) := by
  simp only [ByteRangeInclusive.len, checkedSubU64, if_pos hrange, Option.bind_some]
  exact checkedAddU64_eq_some.mpr ⟨by omega, rfl⟩

/-- A body that reaches behind the range yields the bytes of the range. -/
theorem sliceBodyByRange_whole (tail : ObjectBodyStream) (hrange : range.start ≤ range.last)
    (hsize : fragments.flatten.length ≤ u64Max) (hlast : range.last < fragments.flatten.length) :
    ∃ pieces, sliceBodyByRange (streamOf fragments ++ tail) range = some (streamOf pieces) ∧
      pieces.flatten = window range.start range.last fragments.flatten := by
  have hstart : 0 + fragments.flatten.length ≤ u64Max := by omega
  have hreach : range.last < 0 + fragments.flatten.length := by omega
  obtain ⟨pieces, hpieces, hflatten⟩ : ∃ pieces,
      sliceStream range (streamOf fragments ++ tail) 0 false = some (streamOf pieces) ∧
        pieces.flatten = windowAt 0 range.start range.last fragments.flatten :=
    sliceStream_reaching hrange (Nat.zero_le range.last) hstart hreach
  refine ⟨pieces.filter (fun piece => !piece.isEmpty), ?_, ?_⟩
  · rw [sliceBodyByRange, hpieces, Option.map_some, filter_streamOf]
  · rw [flatten_filter_isEmpty, hflatten, windowAt_zero]

/-- A body that fails before the end of the range yields what it has of it, and the error. -/
theorem sliceBodyByRange_error {error : BlobError} (hrange : range.start ≤ range.last)
    (hsize : range.last ≤ u64Max) (hbefore : fragments.flatten.length ≤ range.last) :
    ∃ pieces, sliceBodyByRange (streamOf fragments ++ .error error :: tail) range =
        some (streamOf pieces ++ [.error error]) ∧
      pieces.flatten = fragments.flatten.drop range.start := by
  have hreach : 0 + fragments.flatten.length ≤ range.last := by omega
  have hstream : sliceStream range (streamOf fragments ++ .error error :: tail) 0 false =
      (sliceStream range (.error error :: tail) (0 + fragments.flatten.length) false).map
        (fun later => streamOf (windows range.start range.last 0 fragments) ++ later) :=
    sliceStream_before hrange hsize hreach
  refine ⟨(windows range.start range.last 0 fragments).filter (fun piece => !piece.isEmpty),
    ?_, ?_⟩
  · rw [sliceBodyByRange, hstream, sliceStream]
    simp only [Option.map_some, List.filter_append, filter_streamOf]
    rfl
  · rw [flatten_filter_isEmpty, flatten_windows, windowAt_zero, window_of_le (by omega)]

end Reads

/-- **A range read is the slice of the full read.** For every accepted range of an object and
every body of its size, in whatever fragments: the range lies within the object, the bytes
emitted are those of the range, and an error before the last of them is the end of the body. -/
theorem rangeRead_exact {header : String} {totalSize : Nat} {range : ByteRangeInclusive}
    (hsize : totalSize ≤ u64Max) (h : parseSingleRangeHeader header totalSize = .ok range) :
    range.start ≤ range.last ∧ range.last < totalSize ∧
      range.len = some (range.last - range.start + 1) ∧
      (∀ (fragments : List Bytes) (tail : ObjectBodyStream),
        fragments.flatten.length = totalSize →
          ∃ pieces, sliceBodyByRange (streamOf fragments ++ tail) range = some (streamOf pieces) ∧
            pieces.flatten = window range.start range.last fragments.flatten ∧
            pieces.flatten.length = range.last - range.start + 1) ∧
      (∀ (fragments : List Bytes) (error : BlobError) (tail : ObjectBodyStream),
        fragments.flatten.length ≤ range.last →
          ∃ pieces, sliceBodyByRange (streamOf fragments ++ .error error :: tail) range =
              some (streamOf pieces ++ [.error error]) ∧
            pieces.flatten = fragments.flatten.drop range.start) := by
  obtain ⟨hrange, hlast⟩ := parseSingleRangeHeader_ok h
  refine ⟨hrange, hlast, len_eq hsize hrange hlast, ?_, ?_⟩
  · intro fragments tail htotal
    obtain ⟨pieces, hpieces, hflatten⟩ := sliceBodyByRange_whole tail hrange
      (show fragments.flatten.length ≤ u64Max by omega) (by omega)
    refine ⟨pieces, hpieces, hflatten, ?_⟩
    rw [hflatten, length_window hrange (by omega)]
  · intro fragments error tail hbefore
    exact sliceBodyByRange_error hrange (by omega) hbefore

/-- The range of ten bytes that an object of twelve is asked for beyond its end. -/
theorem rangeRead_exact_overlong :
    (12 ≤ u64Max ∧ parseSingleRangeHeader "bytes=2-40" 12 = .ok ⟨2, 11⟩) ∧
      ∃ pieces, sliceBodyByRange (streamOf [[0, 1, 2], [], [3, 4, 5, 6, 7, 8, 9, 10, 11]] ++ [])
          ⟨2, 11⟩ = some (streamOf pieces) ∧
        pieces.flatten = window 2 11 ([[0, 1, 2], [], [3, 4, 5, 6, 7, 8, 9, 10, 11]] :
          List Bytes).flatten ∧ pieces.flatten.length = 11 - 2 + 1 := by
  have hparse : parseSingleRangeHeader "bytes=2-40" 12 = .ok ⟨2, 11⟩ := by decide
  exact ⟨⟨by decide, hparse⟩, (rangeRead_exact (by decide) hparse).2.2.2.1 _ _ (by decide)⟩

end Netdisk2Blob.Gateway
