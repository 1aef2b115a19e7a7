import Netdisk2Blob.Gateway.S3Requests

/-!
# Authorization of S3 Requests

`authorize_s3`: the signature of a request, in its `Authorization` header or in its query,
is compared with the one that the gateway computes from the canonical request.

SHA-256, HMAC and the parser of request dates are parameters.

## Contents

- `DataPlaneConfig`, `ParsedAuthorization`, `ParsedPresignedAuthorization`
- `canonicalQueryString`, `canonicalHeaders`, `canonicalRequest`, `signV4`
- `authorizeS3`
-/

namespace Netdisk2Blob.Gateway

open Library Text Blob

/-! ## Section 1: Configuration -/

structure DataPlaneApplication where
  id : String
  enabled : Bool
  accessKeyId : String
  secretAccessKey : String
  deriving DecidableEq, Repr

structure DataPlaneConfig where
  router : S3Router
  s3Region : String
  applications : List DataPlaneApplication
  sha256Hex : Bytes → String
  hmacSha256 : Bytes → Bytes → Bytes
  parseAmzDatetimeToUnix : String → Except S3Error Nat

/-- `resolve_s3_application`, with the secret of the application. -/
def DataPlaneConfig.resolveS3Application (config : DataPlaneConfig) (accessKeyId : String) :
    Option (String × String) :=
  (config.applications.find? (fun application =>
    application.enabled && decide (application.accessKeyId = accessKeyId))).map
      (fun application => (application.id, application.secretAccessKey))

def DataPlaneConfig.resolvedApplication (config : DataPlaneConfig) (accessKeyId : String) :
    Except S3Error (String × String) :=
  match config.resolveS3Application accessKeyId with
  | none => .error .invalidAccessKey
  | some resolved => .ok resolved

/-- A check that ends the request with an error. -/
def require (condition : Prop) [Decidable condition] (error : S3Error) : Except S3Error Unit :=
  if condition then .ok () else .error error

theorem require_ok {condition : Prop} [Decidable condition] {error : S3Error} {value : Unit} :
    require condition error = .ok value ↔ condition := by
  unfold require
  split <;> simp_all

/-- What a signature is made for, and with which key. -/
structure CredentialScope where
  accessKey : String
  date : String
  region : String
  service : String
  deriving DecidableEq, Repr

structure ParsedAuthorization where
  scope : CredentialScope
  signedHeaders : List String
  signature : String
  deriving DecidableEq, Repr

structure ParsedPresignedAuthorization where
  scope : CredentialScope
  signedHeaders : List String
  signature : String
  amzDate : String
  expires : Nat
  deriving DecidableEq, Repr

def parseCredential (credential : String) : Except S3Error CredentialScope :=
  match split '/' credential with
  | [accessKey, date, region, service, "aws4_request"] => .ok ⟨accessKey, date, region, service⟩
  | _ => .error (.signatureMismatch "Credential scope is malformed.")

/-! ## Section 2: The Authorization header -/

/-- The parameters of the header; of two with one name the last one counts. -/
def authorizationEntries (parameters : String) : Except S3Error (List (String × String)) :=
  (split ',' parameters).mapM (fun item =>
    match splitOnce '=' (trim item) with
    | none => .error (.signatureMismatch "Authorization header is malformed.")
    | some entry => .ok entry)

def entryOf (entries : List (String × String)) (name missing : String) :
    Except S3Error String :=
  match entries.reverse.find? (fun entry => decide (entry.1 = name)) with
  | none => .error (.signatureMismatch missing)
  | some entry => .ok entry.2

def parseAuthorizationHeader (value : String) : Except S3Error ParsedAuthorization :=
  match stripPrefix "AWS4-HMAC-SHA256 " value with
  | none => .error (.accessDenied "Only AWS4-HMAC-SHA256 Authorization is supported.")
  | some parameters => do
    let entries ← authorizationEntries parameters
    let credential ← entryOf entries "Credential" "Credential is missing."
    let signedHeaders ← entryOf entries "SignedHeaders" "SignedHeaders is missing."
    let signature ← entryOf entries "Signature" "Signature is missing."
    let scope ← parseCredential credential
    return ⟨scope, split ';' signedHeaders, signature⟩

/-! ## Section 3: Presigned queries -/

def hasPresignedQueryAuth (query : Option String) : Except S3Error Bool :=
  let params := queryPairs (query.getD "")
  let hasSignature := params.any (fun pair => decide (pair.1 = "X-Amz-Signature"))
  let hasAlgorithm := params.any (fun pair => decide (pair.1 = "X-Amz-Algorithm"))
  if hasSignature ^^ hasAlgorithm then
    .error (.signatureMismatch "Presigned URL parameters are incomplete.")
  else .ok (hasSignature && hasAlgorithm)

def requiredQueryParam (params : List (String × String)) (key : String) :
    Except S3Error String :=
  match params.find? (fun pair => decide (pair.1 = key)) with
  | none => .error (.signatureMismatch (key ++ " is missing."))
  | some pair => .ok pair.2

def decodeParam (router : S3Router) (value invalid : String) : Except S3Error String :=
  match router.percentDecodeUtf8 value with
  | none => .error (.signatureMismatch invalid)
  | some decoded => .ok decoded

def parseExpires (value : String) : Except S3Error Nat :=
  match parseUnsigned usizeMax value with
  | none => .error (.signatureMismatch "X-Amz-Expires must be an integer.")
  | some expires => .ok expires

def parsePresignedAuthorization (router : S3Router) (query : Option String) :
    Except S3Error ParsedPresignedAuthorization :=
  match query with
  | none =>
    .error (.accessDenied "Missing presigned query string authentication parameters.")
  | some query => do
    let params := queryPairs query
    require (params.all (fun pair => decide (pair.1 ≠ "X-Amz-Security-Token")))
      (.notImplemented "Presigned URLs with X-Amz-Security-Token are not supported.")
    let algorithm ← requiredQueryParam params "X-Amz-Algorithm"
    require (algorithm = "AWS4-HMAC-SHA256")
      (.accessDenied "Only AWS4-HMAC-SHA256 query auth is supported.")
    let credentialRaw ← requiredQueryParam params "X-Amz-Credential"
    let credential ← decodeParam router credentialRaw "X-Amz-Credential is not valid UTF-8."
    let scope ← parseCredential credential
    let amzDate ← requiredQueryParam params "X-Amz-Date"
    let expiresRaw ← requiredQueryParam params "X-Amz-Expires"
    let expires ← parseExpires expiresRaw
    require (1 ≤ expires ∧ expires ≤ 604800)
      (.accessDenied "X-Amz-Expires must be between 1 and 604800 seconds.")
    let signedHeadersRaw ← requiredQueryParam params "X-Amz-SignedHeaders"
    let signedHeadersDecoded ←
      decodeParam router signedHeadersRaw "X-Amz-SignedHeaders is not valid UTF-8."
    let signedHeaders :=
      (split ';' signedHeadersDecoded).filter (fun name => decide (name ≠ ""))
    require (signedHeaders ≠ [])
      (.signatureMismatch "X-Amz-SignedHeaders must not be empty.")
    let signature ← requiredQueryParam params "X-Amz-Signature"
    return ⟨scope, signedHeaders, signature, amzDate, expires⟩

/-! ## Section 4: Checks -/

def maxS3RequestTimeSkewSecs : Nat := 15 * 60

def validateCredentialScope (config : DataPlaneConfig) (scope : CredentialScope) :
    Except S3Error Unit :=
  if scope.region ≠ config.s3Region then
    .error (.signatureMismatch s!"Credential should use region {config.s3Region}.")
  else if scope.service ≠ "s3" then
    .error (.signatureMismatch "Credential scope service must be s3.")
  else .ok ()

def validatePresignedSignedHeaders (signedHeaders : List String) : Except S3Error Unit :=
  match signedHeaders.find?
      (fun header => decide (header ∉ ["host", "content-type", "content-length"])) with
  | some header =>
    .error (.signatureMismatch s!"Presigned URL signed header {header} is not allowed.")
  | none =>
    if "host" ∈ signedHeaders then .ok ()
    else .error (.signatureMismatch "Presigned URL must sign the host header.")

def validatePresignedTimeWindow (config : DataPlaneConfig) (nowSecs : Nat) (amzDate : String)
    (expires : Nat) : Except S3Error Unit := do
  let issuedAt ← config.parseAmzDatetimeToUnix amzDate
  require (issuedAt ≤ nowSecs + maxS3RequestTimeSkewSecs)
    (.accessDenied "Request timestamp is too far in the future.")
  require (nowSecs ≤ issuedAt + expires) (.accessDenied "Request has expired.")

def validateSignedRequestTimeWindow (config : DataPlaneConfig) (nowSecs : Nat)
    (amzDate : String) : Except S3Error Unit := do
  let signedAt ← config.parseAmzDatetimeToUnix amzDate
  require (signedAt ≤ nowSecs + maxS3RequestTimeSkewSecs)
    (.accessDenied "Request timestamp is too far in the future.")
  require (nowSecs ≤ signedAt + maxS3RequestTimeSkewSecs)
    (.accessDenied "Request timestamp is too old.")

/-! ## Section 5: The signature -/

def canonicalUri (path : String) : String := if path = "" then "/" else path

/-- The order of `pairs.sort()`. -/
def PairLE (a b : String × String) : Prop := a.1 < b.1 ∨ (a.1 = b.1 ∧ a.2 ≤ b.2)

instance : DecidableRel PairLE := fun a b =>
  inferInstanceAs (Decidable (a.1 < b.1 ∨ (a.1 = b.1 ∧ a.2 ≤ b.2)))

def pairText (pair : String × String) : String := pair.1 ++ "=" ++ pair.2

/-- The pairs that a canonical query is made of. -/
def canonicalPairs (query : Option String) (excludedKey : String) : List (String × String) :=
  (queryPairs (query.getD "")).filter (fun pair => decide (pair.1 ≠ excludedKey))

def canonicalQueryStringExcluding (query : Option String) (excludedKey : String) : String :=
  String.intercalate "&"
    (((canonicalPairs query excludedKey).insertionSort PairLE).map pairText)

def canonicalQueryString (query : Option String) : String :=
  canonicalQueryStringExcluding query ""

def normalizeHeaderValue (value : String) : String :=
  String.intercalate " " (splitWhitespace value)

/-- The line of a signed header. -/
def canonicalHeader (request : S3Request) (name : String) : Except S3Error String :=
  match request.header name with
  | none =>
    .error (.signatureMismatch (
      if name = "host" then "Signed host header is missing."
      else s!"Signed header {name} is missing."))
  | some none => .error (.signatureMismatch "Signed header is not valid UTF-8.")
  | some (some value) => .ok (name ++ ":" ++ normalizeHeaderValue value.val)

/-- The lines of the signed headers. -/
def canonicalHeaders (request : S3Request) (signedHeaders : List String) :
    Except S3Error (List String) :=
  signedHeaders.mapM (canonicalHeader request)

/-- The header lines, each with its line break, and what follows them. -/
def withHeaderLines (headerLines : List String) (rest : String) : String :=
  headerLines.foldr (fun line rest => line ++ "\n" ++ rest) rest

def canonicalRequest (request : S3Request) (canonicalQuery : String) (headerLines : List String)
    (signedHeaders : List String) (payloadHash : String) : String :=
  request.method.val ++ "\n" ++ canonicalUri request.path.val ++ "\n" ++ canonicalQuery ++ "\n" ++
    withHeaderLines headerLines
      ("\n" ++ String.intercalate ";" signedHeaders ++ "\n" ++ payloadHash)

def stringToSign (config : DataPlaneConfig) (amzDate : String) (scope : CredentialScope)
    (canonicalRequest : String) : String :=
  "AWS4-HMAC-SHA256\n" ++ amzDate ++ "\n" ++ scope.date ++ "/" ++ scope.region ++ "/" ++
    scope.service ++ "/aws4_request\n" ++ config.sha256Hex (asBytes canonicalRequest)

def signV4 (config : DataPlaneConfig) (secret : String) (scope : CredentialScope)
    (text : String) : String :=
  let dateKey := config.hmacSha256 (asBytes ("AWS4" ++ secret)) (asBytes scope.date)
  let regionKey := config.hmacSha256 dateKey (asBytes scope.region)
  let serviceKey := config.hmacSha256 regionKey (asBytes scope.service)
  let signingKey := config.hmacSha256 serviceKey (asBytes "aws4_request")
  hexEncode (config.hmacSha256 signingKey (asBytes text))

def verifyS3Signature (config : DataPlaneConfig) (request : S3Request)
    (canonicalQuery : String) (signedHeaders : List String) (payloadHash amzDate : String)
    (scope : CredentialScope) (secretAccessKey signature : String) : Except S3Error Unit := do
  let headerLines ← canonicalHeaders request signedHeaders
  let text := stringToSign config amzDate scope
    (canonicalRequest request canonicalQuery headerLines signedHeaders payloadHash)
  require (signV4 config secretAccessKey scope text = signature)
    (.signatureMismatch
      "The request signature we calculated does not match the signature you provided.")

/-! ## Section 6: `authorize_s3` -/

section Authorize

variable (config : DataPlaneConfig) (nowSecs : Nat) (request : S3Request)

def requiredHeader (name : String) : Except S3Error String :=
  match request.header name with
  | none => .error (.accessDenied s!"Missing {name} header.")
  | some none => .error (.accessDenied s!"{name} header is not valid UTF-8.")
  | some (some value) => .ok value.val

def authorizeS3HeaderAuth (verifiedPayloadHash : String) : Except S3Error String := do
  let authorization ← requiredHeader request "Authorization"
  let parsed ← parseAuthorizationHeader authorization
  let (application, secretAccessKey) ← config.resolvedApplication parsed.scope.accessKey
  validateCredentialScope config parsed.scope
  let amzDate ← requiredHeader request "x-amz-date"
  validateSignedRequestTimeWindow config nowSecs amzDate
  let payloadHash ← requiredHeader request "x-amz-content-sha256"
  require (payloadHash = "UNSIGNED-PAYLOAD" ∨ verifiedPayloadHash = payloadHash)
    (.signatureMismatch "x-amz-content-sha256 does not match the request body.")
  verifyS3Signature config request (canonicalQueryString (request.query.map Subtype.val))
    parsed.signedHeaders payloadHash amzDate parsed.scope secretAccessKey parsed.signature
  return application

def authorizeS3PresignedQuery : Except S3Error String := do
  let parsed ← parsePresignedAuthorization config.router (request.query.map Subtype.val)
  let (application, secretAccessKey) ← config.resolvedApplication parsed.scope.accessKey
  validateCredentialScope config parsed.scope
  validatePresignedTimeWindow config nowSecs parsed.amzDate parsed.expires
  validatePresignedSignedHeaders parsed.signedHeaders
  verifyS3Signature config request
    (canonicalQueryStringExcluding (request.query.map Subtype.val) "X-Amz-Signature")
    parsed.signedHeaders "UNSIGNED-PAYLOAD" parsed.amzDate parsed.scope secretAccessKey
    parsed.signature
  return application

def authorizeS3 : Except S3Error String := do
  let verifiedPayloadHash := config.sha256Hex (request.body.getD [])
  let hasAuthorization := (request.header "Authorization").isSome
  let hasPresigned ← hasPresignedQueryAuth (request.query.map Subtype.val)
  require (¬ (hasAuthorization ∧ hasPresigned))
    (.accessDenied
      ("Ambiguous authentication: both Authorization header and presigned query signature " ++
        "are present."))
  if hasPresigned then authorizeS3PresignedQuery config nowSecs request
  else if ¬ hasAuthorization then .error (.accessDenied "Missing Authorization header.")
  else authorizeS3HeaderAuth config nowSecs request verifiedPayloadHash

end Authorize

end Netdisk2Blob.Gateway
