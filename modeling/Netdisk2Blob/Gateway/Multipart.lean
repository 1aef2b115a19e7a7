import Netdisk2Blob.Gateway.MultipartBody
import Netdisk2Blob.Gateway.PutObject
import Mathlib.Data.Subtype

/-!
# Multipart Uploads

The requests of one upload id: UploadPart, CompleteMultipartUpload and
AbortMultipartUpload. They share the session row, the part rows and the spool directory of
the upload, and every await point and every lock of the source ends a step, so the steps of
any number of requests interleave freely.

The temporary file and the rollback file of an UploadPart have random names, so they are
named by their request. Sizes are counted without the bound of a `u64`.

## Contents

- the rows, the requests and `MultipartPhase`: how far a request has come
- `MultipartState`: rows, files and the gateway behind them, with what was recorded and
  stored so far (`recorded`, `stored`), which no step reads
- `MultipartState.step`: one step of one request
-/

namespace Netdisk2Blob.Gateway

open Library Blob Operations

/-! ## Section 1: Errors -/

namespace S3Error

def noSuchUpload (uploadId message : String) : S3Error :=
  ⟨"NoSuchUpload", 404, s!"{message} (uploadId={uploadId})"⟩

def invalidPart (message : String) : S3Error := ⟨"InvalidPart", 400, message⟩

def invalidPartOrder (message : String) : S3Error := ⟨"InvalidPartOrder", 400, message⟩

end S3Error

/-! ## Section 2: Rows and files -/

/-- A part number that `parse_multipart_query` lets pass. -/
abbrev PartNumber := { n : Nat // 1 ≤ n ∧ n ≤ 10000 }

structure MultipartUploadSessionRecord where
  bucket : String
  key : String
  contentType : Option String
  expiresAtUnixMs : Nat
  deriving DecidableEq, Repr

structure MultipartUploadPartRecord where
  partNumber : PartNumber
  etag : String
  sizeBytes : Nat
  updatedAtUnixMs : Nat
  deriving DecidableEq, Repr

abbrev MultipartParts := Table MultipartUploadPartRecord (fun part => part.partNumber)

/-- `parts.iter().map(|part| part.size_bytes).sum()`. -/
def partsSize (parts : MultipartParts) : Nat := (parts.rows.map (·.sizeBytes)).sum

/-- `replaced_size`: the size that the row of a part has now. -/
def replacedSize (parts : MultipartParts) (partNumber : PartNumber) : Nat :=
  ((parts.find? partNumber).map (·.sizeBytes)).getD 0

theorem partsSize_upsert (parts : MultipartParts) (part : MultipartUploadPartRecord) :
    partsSize (parts.upsert part) =
      partsSize parts - replacedSize parts part.partNumber + part.sizeBytes := by
  unfold replacedSize partsSize
  rw [((parts.upsert_perm part).map (fun part => part.sizeBytes)).sum_nat,
    ((parts.rows_perm_filter part.partNumber).map (fun part => part.sizeBytes)).sum_nat]
  cases parts.find? part.partNumber <;> simp <;> omega

/-- The files of the spool directory of the upload. -/
inductive UploadFile where
  | part (partNumber : PartNumber)
  | temp (request : Nat)
  | rollback (request : Nat)
  deriving DecidableEq

/-! ## Section 3: Requests -/

/-- An UploadPart request; `authorization` is the answer of the signature and permission
checks. -/
structure UploadPart where
  bucket : String
  key : String
  partNumber : PartNumber
  payloadHash : String
  contentLength : Option Nat
  authorization : Except S3Error Unit
  body : Bytes
  nowUnixMs : Nat

/-- A CompleteMultipartUpload request with its list of parts as parsed from the body;
`upload body` is what the control plane makes of the object. -/
structure CompleteUpload where
  bucket : String
  key : String
  requestedParts : List (Nat × String)
  upload : Bytes → PutRequest
  nowUnixMs : Nat

structure AbortUpload where
  bucket : String
  key : String
  nowUnixMs : Nat

structure MultipartConfig where
  gateway : GatewayConfig
  uploadId : String
  maxSpooledObjectBytes : Nat
  spooledBodyChunkBytes : Nat
  sha256Hex : Bytes → String
  md5 : Bytes → Bytes

namespace MultipartConfig

def ensureObjectWithinSpoolLimit (config : MultipartConfig) (size : Nat) : Except S3Error Unit :=
  if config.maxSpooledObjectBytes = 0 then
    .error (.entityTooLarge
      (s!"Object size {size} exceeds the configured in-memory limit of " ++
        s!"{config.gateway.maxInMemoryObjectBytes} bytes, and request-body spooling is " ++
        "disabled. Set CCBG_MAX_SPOOLED_OBJECT_BYTES and use a streaming backend for larger " ++
        "signed uploads."))
  else if size ≤ config.maxSpooledObjectBytes then .ok ()
  else
    .error (.entityTooLarge
      (s!"Object size {size} exceeds the configured spooled request-body limit of " ++
        s!"{config.maxSpooledObjectBytes} bytes. Raise CCBG_MAX_SPOOLED_OBJECT_BYTES or " ++
        "lower object size."))

/-- The session of the upload, if a request may use it. -/
def usableSession (config : MultipartConfig) (session : Option MultipartUploadSessionRecord)
    (bucket key : String) (nowUnixMs : Nat) : Except S3Error MultipartUploadSessionRecord :=
  match session with
  | none =>
    .error (.noSuchUpload config.uploadId "The specified multipart upload does not exist.")
  | some session =>
    if session.bucket ≠ bucket ∨ session.key ≠ key then
      .error (.noSuchUpload config.uploadId "The specified multipart upload does not exist.")
    else if session.expiresAtUnixMs ≤ nowUnixMs then
      .error (.noSuchUpload config.uploadId "The specified multipart upload has expired.")
    else .ok session

/-- What an UploadPart request checks before it reads the part rows. -/
def checkUploadPart (config : MultipartConfig) (upload : UploadPart) : Except S3Error Unit :=
  if upload.payloadHash = "UNSIGNED-PAYLOAD" ∧ upload.contentLength = none then
    .error (.invalidRequest "UNSIGNED-PAYLOAD UploadPart requests must include Content-Length.")
  else
    match upload.contentLength with
    | some length => config.ensureObjectWithinSpoolLimit length
    | none => .ok ()

/-- The checks while the body is spooled: they are made for every chunk, and the sizes only
go up. -/
def checkSpooledSize (config : MultipartConfig) (size existingSize replacedSize : Nat) :
    Except S3Error Unit :=
  if size = 0 then .ok ()
  else
    match config.ensureObjectWithinSpoolLimit size with
    | .error error => .error error
    | .ok () => config.ensureObjectWithinSpoolLimit (existingSize - replacedSize + size)

theorem checkSpooledSize_ok {config : MultipartConfig} {size existingSize replacedSize : Nat}
    (h : config.checkSpooledSize size existingSize replacedSize = .ok ()) :
    size = 0 ∨ existingSize - replacedSize + size ≤ config.maxSpooledObjectBytes := by
  unfold checkSpooledSize at h
  split at h
  · exact Or.inl ‹_›
  · split at h
    · cases h
    · unfold ensureObjectWithinSpoolLimit at h
      split at h
      · cases h
      · split at h
        · exact Or.inr ‹_›
        · cases h

/-- Authorization, the spooling of the body and the hash check after it. -/
def checkSpooled (config : MultipartConfig) (upload : UploadPart)
    (existingSize replacedSize : Nat) : Except S3Error Unit :=
  match upload.authorization with
  | .error error => .error error
  | .ok () =>
    match config.checkSpooledSize upload.body.length existingSize replacedSize with
    | .error error => .error error
    | .ok () =>
      if upload.payloadHash ≠ "UNSIGNED-PAYLOAD" ∧ config.sha256Hex upload.body ≠ upload.payloadHash
      then .error (.signatureMismatch "x-amz-content-sha256 does not match the request body.")
      else .ok ()

/-- The row of an uploaded part. -/
def partRecord (config : MultipartConfig) (upload : UploadPart) : MultipartUploadPartRecord where
  partNumber := upload.partNumber
  etag := config.sha256Hex upload.body
  sizeBytes := upload.body.length
  updatedAtUnixMs := upload.nowUnixMs

end MultipartConfig

/-- The check of a completion's list against the part rows, from a part number on. -/
def selectParts (parts : MultipartParts) :
    Nat → List (Nat × String) → Except S3Error (List MultipartUploadPartRecord)
  | _, [] => .ok []
  | previousPartNumber, (partNumber, expectedEtag) :: requested =>
    if partNumber ≤ previousPartNumber then
      .error (.invalidPartOrder "Part numbers must be in strictly ascending order.")
    else
      match parts.rows.find? (fun part => decide (part.partNumber.val = partNumber)) with
      | none =>
        .error (.invalidPart "One or more of the specified parts could not be found.")
      | some part =>
        if part.etag ≠ expectedEtag then
          .error (.invalidPart "One or more of the specified parts is invalid.")
        else
          match selectParts parts partNumber requested with
          | .error error => .error error
          | .ok selected => .ok (part :: selected)

/-- An empty list is refused by the parser. -/
def selectRequestedParts (parts : MultipartParts) (requested : List (Nat × String)) :
    Except S3Error (List MultipartUploadPartRecord) :=
  if requested.isEmpty then
    .error (.invalidRequest "CompleteMultipartUpload must include at least one Part.")
  else selectParts parts 0 requested

/-- How far a request has come. -/
inductive MultipartPhase where
  | idle
  | returned (result : Except S3Error String)
  | uploadStarted (upload : UploadPart)
  | partsListed (upload : UploadPart) (existingSize replacedSize : Nat)
  | spooled (upload : UploadPart)
  | existingSeen (upload : UploadPart)
  | pathClear (upload : UploadPart) (moved : Bool)
  | commitFailed (upload : UploadPart) (error : S3Error)
  | committed (upload : UploadPart) (moved : Bool)
  | upsertFailed (upload : UploadPart) (moved : Bool) (error : S3Error)
  | partRemoved (upload : UploadPart) (error : S3Error)
  | recorded (upload : UploadPart) (moved : Bool)
  | completeStarted (complete : CompleteUpload) (session : MultipartUploadSessionRecord)
  | opening (complete : CompleteUpload) (session : MultipartUploadSessionRecord)
      (selected remaining : List MultipartUploadPartRecord) (opened : List Bytes)
  | objectStored (etag : String)
  | abortStarted
  | sessionGone (result : String)

structure MultipartState where
  session : Option MultipartUploadSessionRecord
  parts : MultipartParts
  files : UploadFile → Option Bytes
  gateway : GatewayState
  requests : Nat → MultipartPhase
  /-- The bytes of the last upload of each part whose row was written. -/
  recorded : PartNumber → Option Bytes
  /-- The completions whose object was stored, with the contents of the opened files. -/
  stored : List (CompleteUpload × List Bytes)

inductive MultipartAction where
  | startUpload (upload : UploadPart)
  | listParts
  | spoolBody (error : Option S3Error)
  | checkExisting (error : Option S3Error)
  | moveExisting (error : Option S3Error)
  | commitPart (error : Option S3Error)
  | restoreAfterCommit (fails : Bool)
  | upsertPart (error : Option S3Error)
  | removePart (fails : Bool)
  | restorePart (fails : Bool)
  | removeRollback (fails : Bool)
  | startComplete (complete : CompleteUpload)
  | selectParts
  | openPart
  | writeHomeObject (reads : List Nat) (answers : List Answer)
  | startAbort (abort : AbortUpload)
  | deleteSession (error : Option S3Error)
  | removeDirectory (survives : UploadFile → Bool)

/-! ## Section 4: Steps -/

/-- The upload that a completion hands over to `execute_put_upload`. -/
def completedUpload (config : MultipartConfig) (complete : CompleteUpload)
    (session : MultipartUploadSessionRecord) (selected : List MultipartUploadPartRecord)
    (opened : List Bytes) (reads : List Nat) : PutRequest :=
  let consumed := MultipartBody.consume config.md5 (max config.spooledBodyChunkBytes 1) reads
    (MultipartBody.start opened)
  { complete.upload consumed.1 with
    bucket := complete.bucket
    key := complete.key
    plaintextSize := (selected.map (·.sizeBytes)).sum
    contentType := session.contentType
    body := consumed.1
    payloadValidation := none
    etagOverride := some (consumed.2.etag.completeEtag config.md5) }

namespace MultipartState

def setRequest (s : MultipartState) (request : Nat) (phase : MultipartPhase) : MultipartState :=
  { s with requests := Function.update s.requests request phase }

def setFile (s : MultipartState) (file : UploadFile) (content : Option Bytes) : MultipartState :=
  { s with files := Function.update s.files file content }

/-- A rename of a file that exists. -/
def rename (s : MultipartState) (source target : UploadFile) (content : Bytes) :
    MultipartState :=
  (s.setFile source none).setFile target (some content)

/-- A step that the source takes for its effect only: its failure is dropped. -/
def tolerate (s : MultipartState) (fails : Bool) (s' : MultipartState) : MultipartState :=
  if fails then s else s'

/-- The file that the request set aside goes back to its place, if it is there. -/
def restore (s : MultipartState) (request : Nat) (partNumber : PartNumber) : MultipartState :=
  match s.files (.rollback request) with
  | some content => s.rename (.rollback request) (.part partNumber) content
  | none => s

/-- The answer of a request that failed. -/
def fail (s : MultipartState) (request : Nat) (error : S3Error) : MultipartState :=
  s.setRequest request (.returned (.error error))

/-- The row of a part is written. -/
def upsertPart (s : MultipartState) (config : MultipartConfig) (upload : UploadPart) :
    MultipartState :=
  { s with
    parts := s.parts.upsert (config.partRecord upload)
    recorded := Function.update s.recorded upload.partNumber (some upload.body) }

/-- The session row goes, and the part rows with it (`ON DELETE CASCADE`). -/
def deleteSession (s : MultipartState) : MultipartState :=
  { s with session := none, parts := ∅ }

/-- What the removal of the directory leaves. -/
def keepFiles (s : MultipartState) (survives : UploadFile → Bool) : MultipartState :=
  { s with files := fun file => if survives file then s.files file else none }

/-- The error of a step that the environment or the state made fail. -/
def failure {α : Type} (error : Option S3Error) (found : Option α) (missing : S3Error) :
    Except S3Error α :=
  match error, found with
  | some error, _ => .error error
  | none, some content => .ok content
  | none, none => .error missing

@[simp] theorem setFile_self (s : MultipartState) (file : UploadFile) (content : Option Bytes) :
    (s.setFile file content).files file = content := Function.update_self ..

theorem setFile_of_ne {file other : UploadFile} (hne : other ≠ file) (s : MultipartState)
    (content : Option Bytes) : (s.setFile file content).files other = s.files other :=
  Function.update_of_ne hne ..

@[simp] theorem rename_target (s : MultipartState) (source target : UploadFile)
    (content : Bytes) : (s.rename source target content).files target = some content :=
  setFile_self ..

theorem rename_source {source target : UploadFile} (hne : source ≠ target) (s : MultipartState)
    (content : Bytes) : (s.rename source target content).files source = none :=
  (setFile_of_ne hne _ _).trans (setFile_self ..)

theorem failure_ok {α : Type} {error : Option S3Error} {found : Option α} {missing : S3Error}
    {content : α} (h : failure error found missing = .ok content) :
    error = none ∧ found = some content := by
  cases error with
  | some error => cases h
  | none =>
    cases found with
    | none => cases h
    | some content' =>
      cases h
      exact ⟨rfl, rfl⟩

/-- One step of one request; `none` when the request is not at that point. -/
def step (config : MultipartConfig) (s : MultipartState) :
    Nat × MultipartAction → Option MultipartState
  | (request, .startUpload upload) =>
    match s.requests request with
    | .idle =>
      match config.usableSession s.session upload.bucket upload.key upload.nowUnixMs with
      | .error error => some (s.fail request error)
      | .ok _ =>
        match config.checkUploadPart upload with
        | .error error => some (s.fail request error)
        | .ok () => some (s.setRequest request (.uploadStarted upload))
    | _ => none
  | (request, .listParts) =>
    match s.requests request with
    | .uploadStarted upload =>
      some (s.setRequest request
        (.partsListed upload (partsSize s.parts) (replacedSize s.parts upload.partNumber)))
    | _ => none
  | (request, .spoolBody error) =>
    match s.requests request with
    | .partsListed upload existingSize replacedSize =>
      match error, config.checkSpooled upload existingSize replacedSize with
      | some error, _ => some (s.fail request error)
      | none, .error error => some (s.fail request error)
      | none, .ok () =>
        some ((s.setFile (.temp request) (some upload.body)).setRequest request
          (.spooled upload))
    | _ => none
  | (request, .checkExisting error) =>
    match s.requests request with
    | .spooled upload =>
      match error, s.files (.part upload.partNumber) with
      | some error, _ => some (s.fail request error)
      | none, some _ =>
        some (s.setRequest request (.existingSeen upload))
      | none, none =>
        some (s.setRequest request (.pathClear upload false))
    | _ => none
  | (request, .moveExisting error) =>
    match s.requests request with
    | .existingSeen upload =>
      match failure error (s.files (.part upload.partNumber))
          (.internalError "failed to backup multipart part before replace: not found") with
      | .error error => some (s.fail request error)
      | .ok content =>
        some ((s.rename (.part upload.partNumber) (.rollback request) content).setRequest request
          (.pathClear upload true))
    | _ => none
  | (request, .commitPart error) =>
    match s.requests request with
    | .pathClear upload moved =>
      match failure error (s.files (.temp request))
          (.internalError "failed to commit multipart spool file: not found") with
      | .error error =>
        if moved then
          some ((s.setFile (.temp request) none).setRequest request (.commitFailed upload error))
        else some ((s.setFile (.temp request) none).fail request error)
      | .ok content =>
        some ((s.rename (.temp request) (.part upload.partNumber) content).setRequest request
          (.committed upload moved))
    | _ => none
  | (request, .restoreAfterCommit fails) =>
    match s.requests request with
    | .commitFailed upload error =>
      some ((s.tolerate fails (s.restore request upload.partNumber)).fail request error)
    | _ => none
  | (request, .upsertPart error) =>
    match s.requests request with
    | .committed upload moved =>
      -- the part row refers to the session row
      match failure error s.session
          (.internalError "upstream error: FOREIGN KEY constraint failed") with
      | .error error => some (s.setRequest request (.upsertFailed upload moved error))
      | .ok _ => some ((s.upsertPart config upload).setRequest request (.recorded upload moved))
    | _ => none
  | (request, .removePart fails) =>
    match s.requests request with
    | .upsertFailed upload moved error =>
      let s' := s.tolerate fails (s.setFile (.part upload.partNumber) none)
      if moved then some (s'.setRequest request (.partRemoved upload error))
      else some (s'.fail request error)
    | _ => none
  | (request, .restorePart fails) =>
    match s.requests request with
    | .partRemoved upload error =>
      some ((s.tolerate fails (s.restore request upload.partNumber)).fail request error)
    | _ => none
  | (request, .removeRollback fails) =>
    match s.requests request with
    | .recorded upload moved =>
      let s' := if moved then s.tolerate fails (s.setFile (.rollback request) none) else s
      some (s'.setRequest request (.returned (.ok (config.sha256Hex upload.body))))
    | _ => none
  | (request, .startComplete complete) =>
    match s.requests request with
    | .idle =>
      match config.usableSession s.session complete.bucket complete.key complete.nowUnixMs with
      | .error error => some (s.fail request error)
      | .ok session => some (s.setRequest request (.completeStarted complete session))
    | _ => none
  | (request, .selectParts) =>
    match s.requests request with
    | .completeStarted complete session =>
      match selectRequestedParts s.parts complete.requestedParts with
      | .error error => some (s.fail request error)
      | .ok selected =>
        some (s.setRequest request (.opening complete session selected selected []))
    | _ => none
  | (request, .openPart) =>
    match s.requests request with
    | .opening complete session selected (part :: remaining) opened =>
      -- an open file keeps its content whatever happens to its name
      match s.files (.part part.partNumber) with
      | some content =>
        some (s.setRequest request
          (.opening complete session selected remaining (opened ++ [content])))
      | none =>
        some (s.fail request
          (.invalidPart "One or more of the specified parts could not be found."))
    | _ => none
  | (request, .writeHomeObject reads answers) =>
    match s.requests request with
    | .opening complete session selected [] opened =>
      match Program.exec handle (fun _ _ => True)
          (Operations.executePutUpload config.gateway
            (completedUpload config complete session selected opened reads))
          s.gateway answers with
      | none => none
      | some (.error failure, gateway') =>
        some ({ s with gateway := gateway' }.fail request failure.error)
      | some (.ok etag, gateway') =>
        some ({ s with gateway := gateway', stored := s.stored ++ [(complete, opened)] }.setRequest
          request (.objectStored (etag.getD "")))
    | _ => none
  | (request, .startAbort abort) =>
    match s.requests request with
    | .idle =>
      match s.session with
      | none => some (s.setRequest request (.sessionGone ""))
      | some _ =>
        match config.usableSession s.session abort.bucket abort.key abort.nowUnixMs with
        | .error error => some (s.fail request error)
        | .ok _ => some (s.setRequest request .abortStarted)
    | _ => none
  | (request, .deleteSession error) =>
    match s.requests request with
    | .objectStored etag =>
      match error with
      | some error => some (s.fail request error)
      | none => some (s.deleteSession.setRequest request (.sessionGone etag))
    | .abortStarted =>
      match error with
      | some error => some (s.fail request error)
      | none => some (s.deleteSession.setRequest request (.sessionGone ""))
    | _ => none
  | (request, .removeDirectory survives) =>
    match s.requests request with
    | .sessionGone result =>
      -- a failure to remove the directory, or a part of it, is dropped
      some ((s.keepFiles survives).setRequest request (.returned (.ok result)))
    | _ => none

/-- A session without parts; nobody at work. -/
def start (session : MultipartUploadSessionRecord) (gateway : GatewayState) : MultipartState where
  session := some session
  parts := ∅
  files := fun _ => none
  gateway := gateway
  requests := fun _ => .idle
  recorded := fun _ => none
  stored := []

end MultipartState

end Netdisk2Blob.Gateway
