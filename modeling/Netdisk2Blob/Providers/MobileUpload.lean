import Netdisk2Blob.Blob.BodyReader
import Netdisk2Blob.Library.NumberedPieces
import Netdisk2Blob.Library.Text
import Netdisk2Blob.Library.Traces
import Netdisk2Blob.Providers.MobileParts

/-!
# The Mobile Upload

`put_object` of the Mobile adapter. A body whose size and hash are known is read and sent part
by part; any other body is spooled and hashed first and sent from the spool file. The parts are
those that the answers to `file/create` and `file/getUploadUrl` list, in the order of the
answers.

A step asks the service and goes on with its answer. The walk to the parent folder and the
deletion of the files of a name are one request each; the account fields of a request, the waits
between two attempts, the times that are measured, and failures of the local spool file are left
out.

## Contents

- `MobileCall`, `MobileReply`: the requests and their answers
- `createMobileUpload`, `expandMobileUploadPlan`: the parts to send
- `sendParts`: the loop over the parts, for both sources of the bytes
- `putObject`: both paths
-/

namespace Netdisk2Blob.Providers.Mobile.Upload

open Library Text Library.Program Blob

/-! ## Section 1: Requests -/

def MOBILE_FILE_CREATE_INITIAL_PART_INFOS_LIMIT : Nat := 100

structure MobileUploadDescriptor where
  size : Nat
  contentHash : String
  partSizeBytes : Nat
  size_le : size ≤ u64Max

/-- A part in an answer of the service. -/
structure MobileUploadPartInfo where
  partNumber : Option Nat
  partSize : Option Nat
  uploadUrl : Option String

structure MobileFileCreateData where
  fileId : Option String
  uploadId : Option String
  rapidUpload : Option Bool
  exist : Option Bool
  partInfos : List MobileUploadPartInfo

structure MobileFileCompleteData where
  contentHash : Option String

structure MobileResponse (α : Type) where
  success : Bool
  code : Option String
  message : Option String
  data : Option α

inductive MobileCall where
  | ensureManagedParentFolderId (container key : String)
  | fileCreate (fileName parentFileId contentType : String) (size : Nat) (contentHash : String)
      (partInfos : List UploadPartInfo)
  | deleteChildFilesByName (parentFileId fileName : String)
  | getUploadUrl (fileId uploadId : String) (partInfos : List UploadPartInfo)
  /-- The upload to the address of the part with this number. -/
  | putPart (uploadUrl : String) (partNumber contentLength : Nat) (bytes : Bytes)
  | fileComplete (fileId uploadId contentHash : String)

/-- The answer to a request; an error is a failed request. -/
abbrev MobileReply : MobileCall → Type
  | .ensureManagedParentFolderId .. => Except BlobError (String × String)
  | .fileCreate .. => Except BlobError (MobileResponse MobileFileCreateData)
  | .deleteChildFilesByName .. => Except BlobError Nat
  | .getUploadUrl .. => Except BlobError (MobileResponse MobileFileCreateData)
  | .putPart .. => Except BlobError Unit
  | .fileComplete .. => Except BlobError (MobileResponse MobileFileCompleteData)

abbrev Remote (α : Type) := Program MobileCall MobileReply (Except BlobError α)

def ask (call : MobileCall) : Program MobileCall MobileReply (MobileReply call) := issue call

/-- The data of an answer that reports success. -/
def accepted {α : Type} (action : String) (response : MobileResponse α) : Except BlobError α :=
  if response.success then
    match response.data with
    | some data => .ok data
    | none => .error (.upstream s!"{action} returned no data payload")
  else
    let code := response.code.getD "unknown"
    let message := response.message.getD "unknown"
    .error (.upstream s!"{action} rejected the request: code={code} message={message}")

def ensurePresentString (value : Option String) (label : String) : Except BlobError String :=
  match (value.map trim).filter (fun value => decide (value ≠ "")) with
  | some value => .ok value
  | none => .error (.upstream s!"{label} was missing")

/-- What other crates compute. -/
structure UploadPrimitives where
  sha256 : Bytes → Bytes
  guessContentType : String → Option String

/-! ## Section 2: The plan of an upload -/

structure MobileUploadPlan where
  fileId : String
  rapidUpload : Bool
  uploadId : Option String
  partInfos : List MobileUploadPartInfo

def expectedParts (upload : MobileUploadDescriptor) : List UploadPartInfo :=
  uploadPartInfos upload.size upload.partSizeBytes upload.size_le

/-- The upload id of an answer, unless it is blank. -/
def uploadIdOf (data : MobileFileCreateData) : Option String :=
  (data.uploadId.map trim).filter (fun value => decide (value ≠ ""))

def planOf (data : MobileFileCreateData) : Except BlobError MobileUploadPlan :=
  match ensurePresentString data.fileId "China Mobile file/create fileId" with
  | .error error => .error error
  | .ok fileId =>
    if data.rapidUpload.getD false then .ok ⟨fileId, true, uploadIdOf data, data.partInfos⟩
    else
      match uploadIdOf data with
      | some uploadId => .ok ⟨fileId, false, some uploadId, data.partInfos⟩
      | none => .error (.upstream "China Mobile file/create uploadId was missing")

/-- The loop of `create_mobile_upload`. A file that is there already without an upload is deleted
once; then, or when there was nothing to delete, the request is made up to three times more. -/
def createMobileUpload (fileName parentFileId contentType : String)
    (upload : MobileUploadDescriptor) (retryAfterDelete : Bool) (createRetryCount : Nat) :
    Remote MobileUploadPlan :=
  andThen (ask (.fileCreate fileName parentFileId contentType upload.size upload.contentHash
    ((expectedParts upload).take MOBILE_FILE_CREATE_INITIAL_PART_INFOS_LIMIT))) fun response =>
    andThen (.pure (accepted "China Mobile file/create" response)) fun data =>
      if data.rapidUpload.getD false = false ∧ (uploadIdOf data).isNone ∧
          data.exist.getD false then
        if _hretry : retryAfterDelete then
          if createRetryCount < 3 then
            createMobileUpload fileName parentFileId contentType upload retryAfterDelete
              (createRetryCount + 1)
          else .pure (.error (.upstream "China Mobile file/create reported an existing object without an uploadId even after deleting the old object and retrying"))
        else
          andThen (ask (.deleteChildFilesByName parentFileId fileName)) fun deleted =>
            if 0 < deleted then
              createMobileUpload fileName parentFileId contentType upload true createRetryCount
            else if createRetryCount < 3 then
              createMobileUpload fileName parentFileId contentType upload retryAfterDelete
                (createRetryCount + 1)
            else .pure (planOf data)
      else .pure (planOf data)
termination_by (3 - createRetryCount) + (if retryAfterDelete then 0 else 1)
decreasing_by
  all_goals simp_all
  all_goals omega

def getMobileUploadUrls (plan : MobileUploadPlan) (partInfos : List UploadPartInfo) :
    Remote (List MobileUploadPartInfo) :=
  if partInfos = [] then .pure (.ok [])
  else
    match plan.uploadId with
    | none => .pure (.error (.upstream "China Mobile file/getUploadUrl requires an uploadId for non-rapid uploads"))
    | some uploadId =>
      andThen (ask (.getUploadUrl plan.fileId uploadId partInfos)) fun response =>
        .pure ((accepted "China Mobile file/getUploadUrl" response).map (·.partInfos))

/-- The loop of `expand_mobile_upload_plan`: the missing parts are asked for by their place in the
list of expected parts, however many parts an answer lists. -/
def expandLoop (expected : List UploadPartInfo) (plan : MobileUploadPlan) (nextIndex : Nat) :
    Remote MobileUploadPlan :=
  if nextIndex < expected.length then
    let last := min (nextIndex + MOBILE_FILE_CREATE_INITIAL_PART_INFOS_LIMIT) expected.length
    andThen (getMobileUploadUrls plan ((expected.take last).drop nextIndex)) fun more =>
      expandLoop expected { plan with partInfos := plan.partInfos ++ more } last
  else .pure (.ok plan)
termination_by expected.length - nextIndex
decreasing_by
  unfold MOBILE_FILE_CREATE_INITIAL_PART_INFOS_LIMIT
  omega

def expandMobileUploadPlan (plan : MobileUploadPlan) (upload : MobileUploadDescriptor) :
    Remote MobileUploadPlan :=
  if plan.rapidUpload then .pure (.ok plan)
  else expandLoop (expectedParts upload) plan plan.partInfos.length

/-! ## Section 3: The parts -/

/-- The number of a part and its size: where the answer has none, they come from the place in the
list and from what is left of the declared size. -/
def partNumberOf (index : Nat) (part : MobileUploadPartInfo) : Nat :=
  part.partNumber.getD (index + 1)

def partSizeOf (upload : MobileUploadDescriptor) (partOffset : Nat) (part : MobileUploadPartInfo) :
    Nat :=
  part.partSize.getD (min (upload.size - partOffset) upload.partSizeBytes)

/-- Where the bytes of a part are read: the source, the number of the part, its offset and its
size. -/
abbrev PartSource (σ : Type) := σ → Nat → Nat → Nat → Except BlobError (Bytes × σ)

/-- The loop over the parts, in `upload_mobile_parts` and `upload_mobile_parts_streaming`. It gives
the offset behind the last part. -/
def sendParts {σ : Type} (upload : MobileUploadDescriptor) (read : PartSource σ) :
    Nat → Nat → σ → List MobileUploadPartInfo → Remote (Nat × σ)
  | _, partOffset, source, [] => .pure (.ok (partOffset, source))
  | index, partOffset, source, part :: parts =>
    andThen (.pure (ensurePresentString part.uploadUrl "China Mobile upload part uploadUrl"))
      fun uploadUrl =>
        let partNumber := partNumberOf index part
        let partSize := partSizeOf upload partOffset part
        andThen (.pure (read source partNumber partOffset partSize)) fun taken =>
          andThen (ask (.putPart uploadUrl partNumber partSize taken.1)) fun _ =>
            sendParts upload read (index + 1) (saturatingAddU64 partOffset partSize) taken.2 parts

/-- A part of the spool file. A request whose body breaks off at the end of the file fails. -/
def readSpool (spoolFile : Bytes) : PartSource Unit := fun _ partNumber partOffset partSize =>
  if partSize = 0 then .ok ([], ())
  else if partOffset + partSize ≤ spoolFile.length then
    .ok ((spoolFile.drop partOffset).take partSize, ())
  else .error (.upstream s!"China Mobile part upload failed: China Mobile upload spool file ended early while streaming part {partNumber}")

/-- A part of the body itself. -/
def readBody : PartSource BufferedObjectBodyReader := fun reader partNumber _ partSize =>
  reader.readPart partSize s!"China Mobile request body for part {partNumber}"

def noInstructions : BlobError :=
  .upstream "China Mobile upload plan returned no part upload instructions"

def uploadMobileParts (upload : MobileUploadDescriptor) (spoolFile : Bytes)
    (plan : MobileUploadPlan) : Remote Unit :=
  if plan.rapidUpload then .pure (.ok ())
  else if plan.partInfos.isEmpty ∧ 0 < upload.size then .pure (.error noInstructions)
  else
    andThen (sendParts upload (readSpool spoolFile) 0 0 () plan.partInfos) fun sent =>
      if sent.1 < upload.size then
        .pure (.error (.upstream s!"China Mobile upload plan covered only {sent.1} of {upload.size} bytes"))
      else .pure (.ok ())

def uploadMobilePartsStreaming (upload : MobileUploadDescriptor) (body : ObjectBodyStream)
    (plan : MobileUploadPlan) : Remote Unit :=
  if plan.rapidUpload then .pure (.ok ())
  else if plan.partInfos.isEmpty ∧ 0 < upload.size then .pure (.error noInstructions)
  else
    andThen (sendParts upload readBody 0 0 (BufferedObjectBodyReader.new body) plan.partInfos)
      fun sent =>
        if sent.1 < upload.size then
          .pure (.error (.bodyStream s!"China Mobile request body ended after {sent.1} of {upload.size} bytes"))
        else .pure (sent.2.ensureExhausted "China Mobile request body")

def completeMobileUpload (plan : MobileUploadPlan) (upload : MobileUploadDescriptor) :
    Remote MobileFileCompleteData :=
  match plan.uploadId with
  | none => .pure (.error (.upstream "China Mobile file/complete requires an uploadId for non-rapid uploads"))
  | some uploadId =>
    andThen (ask (.fileComplete plan.fileId uploadId upload.contentHash)) fun response =>
      .pure (accepted "China Mobile file/complete" response)

/-! ## Section 4: Both paths -/

/-- The loop of `drain_streaming_body`. -/
def drainLoop (expectedSize : Nat) : Nat → ObjectBodyStream → Except BlobError Unit
  | observed, [] =>
    if observed ≠ expectedSize then
      .error (.bodyStream s!"China Mobile request body size mismatch: expected {expectedSize} bytes, observed {observed}")
    else .ok ()
  | _, .error error :: _ => .error error
  | observed, .ok chunk :: stream =>
    drainLoop expectedSize (saturatingAddU64 observed chunk.length) stream

def drainStreamingBody (body : ObjectBodyStream) (expectedSize : Nat) : Except BlobError Unit :=
  drainLoop expectedSize 0 body

/-- A request to put an object. The length of a body is a `u64`. -/
structure PutObjectRequest where
  container : String
  key : String
  body : ObjectBodyStream
  size : Option Nat
  contentType : Option String
  preferredUploadPartSizeBytes : Option Nat
  knownContentSha256Hex : Option String
  body_le : (bytesOf body).length ≤ u64Max
  size_le : ∀ value ∈ size, value ≤ u64Max

section Paths

variable (primitives : UploadPrimitives) (config : MobileUploadConfig) (request : PutObjectRequest)

/-- The descriptor of a body whose size and hash are known. The part size is a value for every
size. -/
def streamingUpload : Option MobileUploadDescriptor :=
  match hsize : request.size, request.knownContentSha256Hex with
  | some size, some contentHash => some {
      size := size
      contentHash := contentHash
      partSizeBytes :=
        (config.streamingPartSizeBytes size request.preferredUploadPartSizeBytes).getD 1
      size_le := request.size_le size hsize }
  | _, _ => none

/-- The descriptor of the spooled body. -/
def preparedUpload : MobileUploadDescriptor where
  size := (bytesOf request.body).length
  contentHash := hexEncode (primitives.sha256 (bytesOf request.body))
  partSizeBytes := (config.preparedPartSizeBytes (bytesOf request.body).length
    request.preferredUploadPartSizeBytes).getD 1
  size_le := request.body_le

/-- The body is spooled whole, and must have the declared size. -/
def prepareUploadBody : Except BlobError (MobileUploadDescriptor × Bytes) :=
  match failureOf request.body with
  | some error => .error error
  | none =>
    match request.size with
    | some expected =>
      if expected ≠ (bytesOf request.body).length then
        .error (.bodyStream s!"object body size mismatch: declared {expected} bytes, received {(bytesOf request.body).length}")
      else .ok (preparedUpload primitives config request, bytesOf request.body)
    | none => .ok (preparedUpload primitives config request, bytesOf request.body)

def contentTypeOf (fileName : String) : String :=
  (request.contentType.or (primitives.guessContentType fileName)).getD "application/octet-stream"

/-- The plan with the parts to send. -/
def planUpload (parent : String × String) (upload : MobileUploadDescriptor) :
    Remote MobileUploadPlan :=
  andThen (createMobileUpload parent.2 parent.1 (contentTypeOf primitives request parent.2) upload
    false 0) fun plan => expandMobileUploadPlan plan upload

/-- The end of an upload whose parts were sent; the etag. -/
def finishUpload (plan : MobileUploadPlan) (upload : MobileUploadDescriptor) :
    Remote (Option String) :=
  andThen (completeMobileUpload plan upload) fun completed =>
    .pure (.ok (completed.contentHash.or (some upload.contentHash)))

def putStreaming (parent : String × String) (upload : MobileUploadDescriptor) :
    Remote (Option String) :=
  andThen (planUpload primitives request parent upload) fun plan =>
    if plan.rapidUpload then
      andThen (.pure (drainStreamingBody request.body upload.size)) fun _ =>
        .pure (.ok (some plan.fileId))
    else
      andThen (uploadMobilePartsStreaming upload request.body plan) fun _ =>
        finishUpload plan upload

def putSpooled (parent : String × String) : Remote (Option String) :=
  andThen (.pure (prepareUploadBody primitives config request)) fun prepared =>
    andThen (planUpload primitives request parent prepared.1) fun plan =>
      if plan.rapidUpload then .pure (.ok (some plan.fileId))
      else
        andThen (uploadMobileParts prepared.1 prepared.2 plan) fun _ =>
          finishUpload plan prepared.1

/-- The etag of the object. -/
def putObject : Remote (Option String) :=
  andThen (ask (.ensureManagedParentFolderId request.container request.key)) fun parent =>
    match streamingUpload config request with
    | some upload => putStreaming primitives request parent upload
    | none => putSpooled primitives config request parent

end Paths

end Netdisk2Blob.Providers.Mobile.Upload
