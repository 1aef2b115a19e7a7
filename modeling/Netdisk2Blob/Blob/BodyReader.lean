import Netdisk2Blob.Blob.Core

/-!
# Reading a Body in Parts

`BufferedObjectBodyReader`: the body of an object is read in parts of given lengths, whatever
the fragments of its stream are.

## Contents

- `bytesOf`, `failureOf`: what a stream yields up to its first error, and that error
- `readPart`: it succeeds exactly when enough bytes are left, and takes them off
  (`readPart_spec`)
- `ensureExhausted`: it succeeds exactly when nothing is left (`ensureExhausted_spec`)
-/

namespace Netdisk2Blob.Blob

open Library

/-! ## Section 1: The content of a stream -/

/-- The bytes before the first error. -/
def bytesOf : ObjectBodyStream → Bytes
  | [] => []
  | .ok chunk :: stream => chunk ++ bytesOf stream
  | .error _ :: _ => []

/-- The first error. -/
def failureOf : ObjectBodyStream → Option BlobError
  | [] => none
  | .ok _ :: stream => failureOf stream
  | .error error :: _ => some error

/-! ## Section 2: The reader -/

structure BufferedObjectBodyReader where
  stream : ObjectBodyStream
  pending : Bytes

namespace BufferedObjectBodyReader

def new (body : ObjectBodyStream) : BufferedObjectBodyReader := ⟨body, []⟩

/-- The loop of `read_part`: take what is pending, up to what is missing, and go on with the next
fragment of the stream while something is missing. -/
def readLoop (targetLen : Nat) (eofContext : String) (remaining : Nat) (buffer pending : Bytes)
    (stream : ObjectBodyStream) : Except BlobError (Bytes × BufferedObjectBodyReader) :=
  let take := min remaining pending.length
  -- either nothing is missing afterwards or nothing is pending
  if remaining - take = 0 then .ok (buffer ++ pending.take take, ⟨stream, pending.drop take⟩)
  else
    match stream with
    | [] => .error (.bodyStream s!"{eofContext} ended early while reading {targetLen} bytes")
    | .error error :: _ => .error error
    | .ok chunk :: stream =>
      readLoop targetLen eofContext (remaining - take) (buffer ++ pending.take take) chunk stream

def readPart (reader : BufferedObjectBodyReader) (targetLen : Nat) (eofContext : String) :
    Except BlobError (Bytes × BufferedObjectBodyReader) :=
  if targetLen = 0 then .ok ([], reader)
  else readLoop targetLen eofContext targetLen [] reader.pending reader.stream

/-- The loop of `ensure_exhausted`. -/
def drainLoop (context : String) : ObjectBodyStream → Except BlobError Unit
  | [] => .ok ()
  | .error error :: _ => .error error
  | .ok chunk :: stream =>
    if chunk ≠ [] then .error (.bodyStream s!"{context} produced more bytes than declared")
    else drainLoop context stream

def ensureExhausted (reader : BufferedObjectBodyReader) (context : String) :
    Except BlobError Unit :=
  if reader.pending ≠ [] then
    .error (.bodyStream s!"{context} produced more bytes than declared")
  else drainLoop context reader.stream

/-! ## Section 3: What is left to read -/

/-- The bytes that the reader can still give. -/
def content (reader : BufferedObjectBodyReader) : Bytes := reader.pending ++ bytesOf reader.stream

def failure (reader : BufferedObjectBodyReader) : Option BlobError := failureOf reader.stream

@[simp] theorem content_new (body : ObjectBodyStream) : (new body).content = bytesOf body := rfl

@[simp] theorem failure_new (body : ObjectBodyStream) : (new body).failure = failureOf body := rfl

section ReadLoop

variable {targetLen remaining : Nat} {eofContext : String} {buffer pending : Bytes}
  {stream : ObjectBodyStream}

theorem readLoop_of_le (h : remaining ≤ pending.length) :
    readLoop targetLen eofContext remaining buffer pending stream =
      .ok (buffer ++ pending.take remaining, ⟨stream, pending.drop remaining⟩) := by
  have hzero : remaining - min remaining pending.length = 0 := by omega
  rw [readLoop.eq_def, if_pos hzero, Nat.min_eq_left h]

/-- All that is pending is taken, and it is not enough. -/
theorem readLoop_of_lt (h : pending.length < remaining) :
    readLoop targetLen eofContext remaining buffer pending stream =
      match stream with
      | [] => .error (.bodyStream s!"{eofContext} ended early while reading {targetLen} bytes")
      | .error error :: _ => .error error
      | .ok chunk :: stream =>
        readLoop targetLen eofContext (remaining - pending.length) (buffer ++ pending) chunk
          stream := by
  have hmissing : remaining - min remaining pending.length ≠ 0 := by omega
  have hmin : min remaining pending.length = pending.length := by omega
  rw [readLoop.eq_def, if_neg hmissing, hmin, List.take_length]

/-- The loop fails, or gives what was missing and leaves the rest. -/
theorem readLoop_spec :
    (remaining ≤ (pending ++ bytesOf stream).length ∧
      ∃ reader, readLoop targetLen eofContext remaining buffer pending stream =
        .ok (buffer ++ (pending ++ bytesOf stream).take remaining, reader) ∧
        reader.content = (pending ++ bytesOf stream).drop remaining ∧
        reader.failure = failureOf stream) ∨
      ((pending ++ bytesOf stream).length < remaining ∧
        ∃ error, readLoop targetLen eofContext remaining buffer pending stream = .error error) := by
  induction stream generalizing remaining buffer pending with
  | nil =>
      rcases Nat.lt_or_ge pending.length remaining with h | h
      · right
        rw [readLoop_of_lt h]
        exact ⟨by simpa [bytesOf] using h, _, rfl⟩
      · left
        rw [readLoop_of_le h]
        simp only [bytesOf, List.append_nil]
        exact ⟨h, _, rfl, by simp [content, bytesOf], rfl⟩
  | cons item stream ih =>
      rcases Nat.lt_or_ge pending.length remaining with h | h
      · rw [readLoop_of_lt h]
        cases item with
        | error error =>
            right
            exact ⟨by simpa [bytesOf] using h, error, rfl⟩
        | ok chunk =>
            -- the fragment is what is pending for the rest of the loop
            simp only [bytesOf, failureOf]
            rw [List.take_append, List.drop_append, List.take_of_length_le (Nat.le_of_lt h),
              List.drop_of_length_le (Nat.le_of_lt h), List.nil_append, List.length_append,
              ← List.append_assoc]
            have hrest := @ih (remaining - pending.length) (buffer ++ pending) chunk
            rcases hrest with ⟨hle, hread⟩ | ⟨hlt, herror⟩
            · exact Or.inl ⟨by omega, hread⟩
            · exact Or.inr ⟨by omega, herror⟩
      · left
        rw [readLoop_of_le h, List.take_append_of_le_length h, List.drop_append_of_le_length h,
          List.length_append]
        exact ⟨Nat.le_add_right_of_le h, _, rfl, rfl, rfl⟩

end ReadLoop

/-- A part can be read exactly when that many bytes are left. -/
theorem readPart_spec (reader : BufferedObjectBodyReader) (targetLen : Nat) (eofContext : String) :
    (targetLen ≤ reader.content.length ∧
      ∃ reader', reader.readPart targetLen eofContext =
        .ok (reader.content.take targetLen, reader') ∧
        reader'.content = reader.content.drop targetLen ∧ reader'.failure = reader.failure) ∨
      (reader.content.length < targetLen ∧
        ∃ error, reader.readPart targetLen eofContext = .error error) := by
  unfold readPart
  by_cases h : targetLen = 0
  · left
    rw [if_pos h, h]
    exact ⟨Nat.zero_le _, reader, rfl, rfl, rfl⟩
  · rw [if_neg h]
    exact readLoop_spec

theorem drainLoop_spec {context : String} (stream : ObjectBodyStream) :
    (bytesOf stream = [] ∧ failureOf stream = none ∧ drainLoop context stream = .ok ()) ∨
      ((bytesOf stream ≠ [] ∨ failureOf stream ≠ none) ∧
        ∃ error, drainLoop context stream = .error error) := by
  induction stream with
  | nil => exact Or.inl ⟨rfl, rfl, rfl⟩
  | cons item stream ih =>
      cases item with
      | error error => exact Or.inr ⟨Or.inr (by simp [failureOf]), error, rfl⟩
      | ok chunk =>
          by_cases h : chunk = []
          · simpa [bytesOf, failureOf, drainLoop, h] using ih
          · right
            rw [drainLoop, if_pos h]
            exact ⟨Or.inl (by simp [bytesOf, h]), _, rfl⟩

/-- The check at the end succeeds exactly when nothing is left, neither a byte nor an error. -/
theorem ensureExhausted_spec (reader : BufferedObjectBodyReader) (context : String) :
    (reader.content = [] ∧ reader.failure = none ∧ reader.ensureExhausted context = .ok ()) ∨
      ((reader.content ≠ [] ∨ reader.failure ≠ none) ∧
        ∃ error, reader.ensureExhausted context = .error error) := by
  unfold ensureExhausted content failure
  by_cases h : reader.pending = []
  · rw [if_neg (not_not.mpr h), h, List.nil_append]
    exact drainLoop_spec reader.stream
  · rw [if_pos h]
    exact Or.inr ⟨Or.inl (by simp [h]), _, rfl⟩

end BufferedObjectBodyReader

end Netdisk2Blob.Blob
