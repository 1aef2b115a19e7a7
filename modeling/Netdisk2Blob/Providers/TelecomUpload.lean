import Netdisk2Blob.Blob.BodyReader
import Netdisk2Blob.Library.Base64
import Netdisk2Blob.Library.Traces
import Netdisk2Blob.Providers.Telecom

/-!
# The Telecom Upload

`put_object` of the Telecom adapter. A body of declared size that takes more than one part is
read and sent part by part; any other body is spooled and hashed first and sent from the spool
file.

A step asks the service and goes on with its answer. The walk to the parent folder is one
request here, and so is the session with its key; how a control request is encoded and signed,
the times that are measured, and failures of the local spool file are left out. A hasher is the
bytes that it was given, and the length of a body does not reach the bound of `u64`.

## Contents

- `effectiveUploadPartSizeBytes`: the part size, which is positive
- `UploadCall`, `UploadReply`: the requests and their answers
- `PartHasher`: the hashes of the parts while a body is spooled
- `putObject`: both paths
-/

namespace Netdisk2Blob.Providers.Telecom

open Library Text Library.Program Blob

/-! ## Section 1: Part sizes -/

def DEFAULT_UPLOAD_PART_SIZE_BYTES : Nat := 10 * 1024 * 1024

def DEFAULT_UPLOAD_MAX_PART_COUNT : Nat := 1000

/-- The fields of the configuration that an upload reads. -/
structure TelecomUploadConfig extends TelecomConfig where
  configuredUploadPartSizeBytes : Nat
  configuredUploadMaxPartCount : Nat

/-- `u64::div_ceil` by a positive number. -/
def divCeil (value divisor : Nat) : Nat :=
  if 0 < value % divisor then value / divisor + 1 else value / divisor

def roundUpToMultiple (value quantum : Nat) : Nat :=
  if quantum ≤ 1 then max value 1
  else max (saturatingMulU64 (divCeil value quantum) quantum) quantum

namespace TelecomUploadConfig

variable (config : TelecomUploadConfig)

def uploadPartSizeBytes : Nat :=
  if config.configuredUploadPartSizeBytes = 0 then DEFAULT_UPLOAD_PART_SIZE_BYTES
  else config.configuredUploadPartSizeBytes

def uploadMaxPartCount : Nat :=
  if config.configuredUploadMaxPartCount = 0 then DEFAULT_UPLOAD_MAX_PART_COUNT
  else config.configuredUploadMaxPartCount

def effectiveUploadPartSizeBytes (size : Nat) (preferredPartSizeBytes : Option Nat) : Nat :=
  let configured := (preferredPartSizeBytes.filter (fun value => decide (0 < value))).getD
    config.uploadPartSizeBytes
  if size = 0 then max configured 1
  else roundUpToMultiple (max configured (divCeil size config.uploadMaxPartCount))
    (max configured 1)

end TelecomUploadConfig

theorem roundUpToMultiple_pos (value quantum : Nat) : 0 < roundUpToMultiple value quantum := by
  unfold roundUpToMultiple
  split <;> omega

theorem effectiveUploadPartSizeBytes_pos (config : TelecomUploadConfig) (size : Nat)
    (preferred : Option Nat) : 0 < config.effectiveUploadPartSizeBytes size preferred := by
  unfold TelecomUploadConfig.effectiveUploadPartSizeBytes
  simp only
  split
  · omega
  · exact roundUpToMultiple_pos _ _

/-! ## Section 2: Requests -/

def familyId (config : TelecomConfig) : Except BlobError String :=
  match configuredFamilyId config with
  | some value => .ok value
  | none => .error (.configuration "missing China Telecom Family ID; capture a family session in Admin Web or set CCBG_TELECOM_FAMILY_ID")

/-- The `familyId` field of a control request. -/
def familyIdField (config : TelecomConfig) : Scope → Except BlobError (Option String)
  | .personal => .ok none
  | .family => (familyId config).map some

/-- The scope of a control request: its path and its `familyId` field. -/
structure ControlScope where
  scope : Scope
  familyId : Option String

structure InitAnswer where
  uploadHost : Option String
  uploadFileId : Option String
  fileDataExists : Option Bool

structure UploadUrlAnswer where
  requestURL : Option String
  requestHeader : Option String

structure CheckAnswer where
  uploadFileId : Option String
  fileDataExists : Option Bool

inductive UploadCall where
  | ensureManagedParentFolderId (scope : Scope) (container key : String)
  | fetchUploadBootstrap
  /-- Without the file and slice hashes the check for them is put off. -/
  | initMultiUpload (space : ControlScope) (parentFolderId fileName : String)
      (fileSize sliceSize : Nat) (md5s : Option (String × String))
  | getMultiUploadUrls (space : ControlScope) (uploadHost uploadFileId : String)
      (partNumber : Nat) (partMd5Base64 : String)
  /-- The upload of a part to the address that was given for its number. -/
  | putPart (requestUrl : String) (headers : List (String × String)) (partNumber : Nat)
      (bytes : Bytes)
  | checkTransSecond (space : ControlScope) (uploadHost uploadFileId fileMd5 sliceMd5 : String)
  | commitMultiUploadFile (space : ControlScope)
      (uploadHost uploadFileId lazyCheck fileMd5 sliceMd5 : String)

/-- The answer to a request; an error is a failed request or an unsuccessful answer. -/
abbrev UploadReply : UploadCall → Type
  | .ensureManagedParentFolderId .. => Except BlobError (String × String)
  | .fetchUploadBootstrap => Except BlobError Unit
  | .initMultiUpload .. => Except BlobError InitAnswer
  | .getMultiUploadUrls .. => Except BlobError UploadUrlAnswer
  | .putPart .. => Except BlobError Unit
  | .checkTransSecond .. => Except BlobError CheckAnswer
  | .commitMultiUploadFile .. => Except BlobError (Option String)

abbrev Upload (α : Type) := Program UploadCall UploadReply (Except BlobError α)

def ask (call : UploadCall) : Program UploadCall UploadReply (UploadReply call) := issue call

structure TelecomUploadPlan where
  uploadHost : String
  uploadFileId : String
  fileDataExists : Bool

structure TelecomUploadDescriptor where
  size : Nat
  fileMd5Upper : String
  sliceMd5Upper : String
  partMd5Upper : List String
  partMd5Base64 : List String
  partSizeBytes : Nat

/-- What other crates compute: the hash, and the checks of header names and values. -/
structure UploadPrimitives where
  md5 : Bytes → Bytes
  headerName : String → Except String String
  headerValue : String → Except String String
  uploadControlBaseUrl : String

/-- `hex::encode_upper`. -/
def hexUpper (bytes : Bytes) : String :=
  String.ofList ((hexEncode bytes).toList.map Char.toUpper)

/-! ## Section 3: Parts -/

/-- The upper-case hash of a file. -/
def fileMd5 (md5 : Bytes → Bytes) (file : Bytes) : String := hexUpper (md5 file)

/-- The slice hash: the file hash of a single part, else the hash of the part hashes in lines. -/
def sliceMd5 (md5 : Bytes → Bytes) (fileMd5Upper : String) (partMd5Upper : List String) : String :=
  if partMd5Upper.length ≤ 1 then fileMd5Upper
  else hexUpper (md5 (asBytes ("\n".intercalate partMd5Upper)))

/-- The descriptor of a file with these part digests. -/
def describe (md5 : Bytes → Bytes) (size : Nat) (file : Bytes) (digests : List Bytes)
    (partSizeBytes : Nat) : TelecomUploadDescriptor where
  size := size
  fileMd5Upper := fileMd5 md5 file
  sliceMd5Upper := sliceMd5 md5 (fileMd5 md5 file) (digests.map hexUpper)
  partMd5Upper := digests.map hexUpper
  partMd5Base64 := digests.map encodeBase64
  partSizeBytes := partSizeBytes

/-- The part that is being hashed, never a whole one, and the digests of the parts before it. -/
structure PartHasher (partSizeBytes : Nat) where
  current : Bytes
  digests : List Bytes
  current_lt : current.length < partSizeBytes

namespace PartHasher

variable {partSizeBytes : Nat} (md5 : Bytes → Bytes)

def new (hpart : 0 < partSizeBytes) : PartHasher partSizeBytes := ⟨[], [], hpart⟩

/-- The loop over a fragment: fill the part, and begin the next one when it is whole. -/
def update (hasher : PartHasher partSizeBytes) (remaining : Bytes) : PartHasher partSizeBytes :=
  if hremaining : remaining = [] then hasher
  else
    let room := min (partSizeBytes - hasher.current.length) remaining.length
    if hwhole : hasher.current.length + room = partSizeBytes then
      update ⟨[], hasher.digests ++ [md5 (hasher.current ++ remaining.take room)],
        Nat.lt_of_le_of_lt (Nat.zero_le _) hasher.current_lt⟩ (remaining.drop room)
    else
      update ⟨hasher.current ++ remaining.take room, hasher.digests, by
        rw [List.length_append, List.length_take]
        have hlt := hasher.current_lt
        omega⟩ (remaining.drop room)
termination_by remaining.length
decreasing_by
  all_goals
    have hpos := List.length_pos_of_ne_nil hremaining
    have hlt := hasher.current_lt
    rw [List.length_drop]
    omega

/-- The digests with that of the last part; a file without a byte has one part. -/
def finish (hasher : PartHasher partSizeBytes) : List Bytes :=
  if 0 < hasher.current.length ∨ hasher.digests = [] then
    hasher.digests ++ [md5 hasher.current]
  else hasher.digests

end PartHasher

/-- A spooled body and its hashes. -/
structure PreparedTelecomUpload where
  descriptor : TelecomUploadDescriptor
  spoolFile : Bytes

/-- The loop of `prepare_upload_body` over the fragments of the body. -/
def spoolLoop (md5 : Bytes → Bytes) {partSizeBytes : Nat} :
    ObjectBodyStream → Bytes → PartHasher partSizeBytes →
      Except BlobError (Bytes × PartHasher partSizeBytes)
  | [], spooled, hasher => .ok (spooled, hasher)
  | .error error :: _, _, _ => .error error
  | .ok chunk :: stream, spooled, hasher =>
    spoolLoop md5 stream (spooled ++ chunk) (hasher.update md5 chunk)

def prepareUploadBody (primitives : UploadPrimitives) (config : TelecomUploadConfig)
    (body : ObjectBodyStream) (declaredSize preferredPartSizeBytes : Option Nat) :
    Except BlobError PreparedTelecomUpload :=
  let partSizeBytes :=
    config.effectiveUploadPartSizeBytes (declaredSize.getD 0) preferredPartSizeBytes
  let hasher : PartHasher partSizeBytes :=
    PartHasher.new (effectiveUploadPartSizeBytes_pos config _ preferredPartSizeBytes)
  match spoolLoop primitives.md5 body [] hasher with
  | .error error => .error error
  | .ok (spooled, hasher) =>
    let upload : PreparedTelecomUpload :=
      ⟨describe primitives.md5 spooled.length spooled (hasher.finish primitives.md5) partSizeBytes,
        spooled⟩
    match declaredSize with
    | none => .ok upload
    | some expected =>
      if expected ≠ spooled.length then
        .error (.bodyStream s!"object body size mismatch: declared {expected} bytes, received {spooled.length}")
      else .ok upload

/-- The bytes of a part in the spool file. The file holds the whole body, so that the read does not
end early. -/
def PreparedTelecomUpload.partBytes (upload : PreparedTelecomUpload) (partNumber : Nat) : Bytes :=
  let offset := (partNumber - 1) * upload.descriptor.partSizeBytes
  (upload.spoolFile.drop offset).take
    (min (upload.descriptor.size - offset) upload.descriptor.partSizeBytes)

/-! ## Section 4: The steps of an upload -/

/-- One header of the answer for a part. -/
def parseUploadRequestHeader (primitives : UploadPrimitives) (pair : String) :
    Except BlobError (String × String) :=
  match splitOnce '=' pair with
  | none => .error (.upstream s!"invalid Telecom upload requestHeader segment: {pair}")
  | some (name, value) => do
    let headerName ← (primitives.headerName name).mapError (fun error =>
      BlobError.upstream s!"invalid Telecom upload requestHeader name {name}: {error}")
    let headerValue ← (primitives.headerValue value).mapError (fun error =>
      BlobError.upstream s!"invalid Telecom upload requestHeader value for {name}: {error}")
    return (headerName, headerValue)

def parseUploadRequestHeaders (primitives : UploadPrimitives) (rawHeaders : String) :
    Except BlobError (List (String × String)) :=
  ((split '&' rawHeaders).filter (fun value => decide (trim value ≠ ""))).mapM
    (parseUploadRequestHeader primitives)

section Steps

variable (primitives : UploadPrimitives) (config : TelecomUploadConfig) (scope : Scope)

def planOf (value : InitAnswer) : Except BlobError TelecomUploadPlan :=
  match value.uploadFileId with
  | none => .error (.upstream "initMultiUpload returned no uploadFileId")
  | some uploadFileId =>
    .ok ⟨value.uploadHost.getD primitives.uploadControlBaseUrl, uploadFileId,
      value.fileDataExists.getD false⟩

def initMultiUpload (parentFolderId fileName : String) (fileSizeBytes partSizeBytes partCount : Nat)
    (md5s : Option (String × String)) : Upload TelecomUploadPlan :=
  let sent := if partCount = 1 then md5s else none
  andThen (.pure (familyIdField config.toTelecomConfig scope)) fun family =>
    andThen (ask (.initMultiUpload ⟨scope, family⟩ parentFolderId fileName fileSizeBytes
      partSizeBytes sent)) fun value =>
      .pure (planOf primitives value)

/-- The address and the headers for a part. -/
def uploadUrlOf (partNumber : Nat) (value : UploadUrlAnswer) : Except BlobError (String × String) :=
  match value.requestURL, value.requestHeader with
  | none, _ =>
    .error (.upstream s!"getMultiUploadUrls returned no requestURL for part {partNumber}")
  | some _, none =>
    .error (.upstream s!"getMultiUploadUrls returned no requestHeader for part {partNumber}")
  | some requestUrl, some requestHeader => .ok (requestUrl, requestHeader)

def getMultiUploadUrl (plan : TelecomUploadPlan) (partNumber : Nat) (partMd5Base64 : String) :
    Upload (String × String) :=
  andThen (.pure (familyIdField config.toTelecomConfig scope)) fun family =>
    andThen (ask (.getMultiUploadUrls ⟨scope, family⟩ plan.uploadHost plan.uploadFileId partNumber
      partMd5Base64)) fun value =>
      .pure (uploadUrlOf partNumber value)

def uploadPartBytes (requestUrl requestHeader : String) (partNumber : Nat) (partBytes : Bytes) :
    Upload Unit :=
  andThen (.pure (parseUploadRequestHeaders primitives requestHeader)) fun headers =>
    ask (.putPart requestUrl headers partNumber partBytes)

def uploadPart (upload : PreparedTelecomUpload) (partNumber : Nat)
    (requestUrl requestHeader : String) : Upload Unit :=
  uploadPartBytes primitives requestUrl requestHeader partNumber (upload.partBytes partNumber)

/-- The loop of `upload_multi_parts`. -/
def uploadMultiParts (plan : TelecomUploadPlan) (upload : PreparedTelecomUpload) :
    Nat → List String → Upload Unit
  | _, [] => .pure (.ok ())
  | index, partMd5Base64 :: rest =>
    andThen (getMultiUploadUrl config scope plan (index + 1) partMd5Base64) fun address =>
      andThen (uploadPart primitives upload (index + 1) address.1 address.2) fun _ =>
        uploadMultiParts plan upload (index + 1) rest

/-- The loop of `upload_multi_parts_streaming`. -/
def streamParts (plan : TelecomUploadPlan) (size partSizeBytes : Nat) (hpart : 0 < partSizeBytes)
    (reader : BufferedObjectBodyReader) (fileHasher : Bytes) (digests : List Bytes)
    (partOffset : Nat) : Upload (BufferedObjectBodyReader × Bytes × List Bytes) :=
  if partOffset < size then
    let partNumber := digests.length + 1
    let partLen := min (size - partOffset) partSizeBytes
    andThen (.pure (reader.readPart partLen
      s!"China Telecom request body for part {partNumber}")) fun read =>
      let digest := primitives.md5 read.1
      andThen
        (if plan.fileDataExists then .pure (.ok ())
        else
          andThen (getMultiUploadUrl config scope plan partNumber (encodeBase64 digest))
            fun address => uploadPartBytes primitives address.1 address.2 partNumber read.1)
        fun _ =>
          streamParts plan size partSizeBytes hpart read.2 (fileHasher ++ read.1)
            (digests ++ [digest]) (partOffset + partLen)
  else .pure (.ok (reader, fileHasher, digests))
termination_by size - partOffset
decreasing_by omega

def uploadMultiPartsStreaming (plan : TelecomUploadPlan) (body : ObjectBodyStream)
    (size partSizeBytes : Nat) (hpart : 0 < partSizeBytes) : Upload TelecomUploadDescriptor :=
  andThen (streamParts primitives config scope plan size partSizeBytes hpart
    (BufferedObjectBodyReader.new body) [] [] 0) fun read =>
    andThen (.pure (read.1.ensureExhausted "China Telecom request body")) fun _ =>
      .pure (.ok (describe primitives.md5 size read.2.1 read.2.2 partSizeBytes))

/-- The answer may name another upload, and may change what is known of the file. -/
def TelecomUploadPlan.checked (plan : TelecomUploadPlan) (value : CheckAnswer) :
    TelecomUploadPlan where
  uploadHost := plan.uploadHost
  uploadFileId := value.uploadFileId.getD plan.uploadFileId
  fileDataExists := value.fileDataExists.getD plan.fileDataExists

def checkTransSecond (plan : TelecomUploadPlan) (upload : TelecomUploadDescriptor) :
    Upload TelecomUploadPlan :=
  andThen (.pure (familyIdField config.toTelecomConfig scope)) fun family =>
    andThen (ask (.checkTransSecond ⟨scope, family⟩ plan.uploadHost plan.uploadFileId
      upload.fileMd5Upper upload.sliceMd5Upper)) fun value =>
      .pure (.ok (plan.checked value))

def commitMultiUploadFile (plan : TelecomUploadPlan) (upload : TelecomUploadDescriptor) :
    Upload String :=
  andThen (.pure (familyIdField config.toTelecomConfig scope)) fun family =>
    andThen (ask (.commitMultiUploadFile ⟨scope, family⟩ plan.uploadHost plan.uploadFileId
      (if 1 < upload.partMd5Upper.length then "1" else "0") upload.fileMd5Upper
      upload.sliceMd5Upper)) fun etag =>
      .pure (.ok (etag.getD upload.fileMd5Upper))

/-- The check and the commit that end an upload whose parts were sent. -/
def closeUpload (plan : TelecomUploadPlan) (upload : TelecomUploadDescriptor) : Upload String :=
  andThen (checkTransSecond config scope plan upload) fun plan' =>
    commitMultiUploadFile config scope plan' upload

/-- The path of `put_object` for a body of declared size with more than one part. -/
def putStreaming (parent : String × String) (body : ObjectBodyStream) (size partSizeBytes : Nat)
    (hpart : 0 < partSizeBytes) : Upload String :=
  andThen (initMultiUpload primitives config scope parent.1 parent.2 size partSizeBytes
    (divCeil size partSizeBytes) none) fun plan =>
    andThen (uploadMultiPartsStreaming primitives config scope plan body size partSizeBytes hpart)
      fun upload => closeUpload config scope plan upload

/-- The path of `put_object` through the spool file. -/
def putSpooled (parent : String × String) (body : ObjectBodyStream)
    (size preferredUploadPartSizeBytes : Option Nat) : Upload String :=
  andThen (.pure (prepareUploadBody primitives config body size preferredUploadPartSizeBytes))
    fun upload =>
      andThen (initMultiUpload primitives config scope parent.1 parent.2 upload.descriptor.size
        upload.descriptor.partSizeBytes upload.descriptor.partMd5Upper.length
        (some (upload.descriptor.fileMd5Upper, upload.descriptor.sliceMd5Upper))) fun plan =>
        if plan.fileDataExists then commitMultiUploadFile config scope plan upload.descriptor
        else
          andThen (uploadMultiParts primitives config scope plan upload 0
            upload.descriptor.partMd5Base64) fun _ =>
            closeUpload config scope plan upload.descriptor

end Steps

structure PutObjectRequest where
  container : String
  key : String
  body : ObjectBodyStream
  size : Option Nat
  preferredUploadPartSizeBytes : Option Nat

/-- The part size for the declared size of the body. -/
def partSizeOf (config : TelecomUploadConfig) (request : PutObjectRequest) : Nat :=
  config.effectiveUploadPartSizeBytes (request.size.getD 0) request.preferredUploadPartSizeBytes

theorem partSizeOf_pos (config : TelecomUploadConfig) (request : PutObjectRequest) :
    0 < partSizeOf config request :=
  effectiveUploadPartSizeBytes_pos config _ _

/-- The etag of the object. -/
def uploadObject (primitives : UploadPrimitives) (config : TelecomUploadConfig)
    (request : PutObjectRequest) : Upload String :=
  andThen (.pure (containerScope config.toTelecomConfig request.container)) fun scope =>
    andThen (ask (.ensureManagedParentFolderId scope request.container request.key))
      fun parent =>
        andThen (ask .fetchUploadBootstrap) fun _ =>
          match request.size with
          | some size =>
            if partSizeOf config request < size then
              putStreaming primitives config scope parent request.body size
                (partSizeOf config request) (partSizeOf_pos config request)
            else
              putSpooled primitives config scope parent request.body request.size
                request.preferredUploadPartSizeBytes
          | none =>
            putSpooled primitives config scope parent request.body request.size
              request.preferredUploadPartSizeBytes

end Netdisk2Blob.Providers.Telecom
