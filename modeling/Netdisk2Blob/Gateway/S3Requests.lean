import Netdisk2Blob.Gateway.Requests

/-!
# S3 Requests

What a request to the data plane is about: the bucket and key of its path or of its `Host`
header, the selectors of its query and its copy source, as the handlers read them before
they call `authorize_s3`.

The router and the percent-decoding of third-party crates are parameters (`S3Router`).

## Contents

- `S3Request`, `S3Router`
- `queryPairs`, `parseMultipartQuery`, `parseListObjectsV2Query`, `queryExtractor`
- `bucketFromVirtualHost`, `resolveBucketAndKeyForObjectPath`, `parseCopySourceHeader`
- `S3Operation`, `operation`
-/

namespace Netdisk2Blob.Gateway

open Library Text Blob

/-! ## Section 1: Requests -/

/-- A header value that `to_str` accepts. -/
abbrev HeaderText := { s : String // ∀ c ∈ s.toList, c = '\t' ∨ 32 ≤ c.toNat ∧ c.toNat < 127 }

/-- Methods, paths and queries have neither blanks nor control characters. -/
abbrev UriText := { s : String // ∀ c ∈ s.toList, 32 < c.toNat }

/-- A property of every element of a given list, by going through the list. -/
theorem forall_mem_of_all {α : Type} {l : List α} {p : α → Prop} [DecidablePred p]
    (h : l.all (fun a => decide (p a)) = true) : ∀ a ∈ l, p a :=
  fun a ha => of_decide_eq_true (List.all_eq_true.mp h a ha)

structure S3Request where
  method : UriText
  path : UriText
  query : Option UriText
  /-- names in lower case; `none` for a value that is not visible ASCII -/
  headers : List (String × Option HeaderText)
  /-- what the handler hands to `authorize_s3` -/
  body : Option Bytes

/-- `HeaderMap::get`: the first value of a name, whatever the case. -/
def S3Request.header (request : S3Request) (name : String) : Option (Option HeaderText) :=
  (request.headers.find? (fun header => decide (header.1 = toAsciiLowercase name))).map Prod.snd

/-- The value of a header where `to_str().ok()` is read. -/
def S3Request.headerStr (request : S3Request) (name : String) : Option HeaderText :=
  (request.header name).join

/-- Where the router sends a path, with its percent-decoded parameters. -/
inductive S3Path where
  | root
  | segment (segment : String)
  | object (bucket key : String)
  deriving DecidableEq, Repr

structure S3Router where
  route : String → Option S3Path
  /-- percent-decoding, if the result is UTF-8 -/
  percentDecodeUtf8 : String → Option String
  /-- decoding of `application/x-www-form-urlencoded` -/
  formDecode : String → String
  route_empty : route "" = none
  /-- the key stands behind the bucket, and decoding makes nothing longer -/
  key_shorter : ∀ path bucket key, route path = some (.object bucket key) →
    key.toList.length < (trimStartMatches '/' path).toList.length
  /-- a text without an escape stands for itself -/
  formDecode_plain : ∀ text, '+' ∉ text.toList → '%' ∉ text.toList → formDecode text = text

/-! ## Section 2: Queries -/

/-- A pair of a query: what stands before the first `=` and what stands behind it. -/
def queryPair (part : String) : String × String := (splitOnce '=' part).getD (part, "")

def queryPairs (query : String) : List (String × String) :=
  ((split '&' query).filter (fun part => decide (part ≠ ""))).map queryPair

structure MultipartQuery where
  initiateUpload : Bool
  uploadPart : Option (String × Nat)
  completeUploadId : Option String
  abortUploadId : Option String
  deriving DecidableEq, Repr

/-- What the loop of `parse_multipart_query` has read so far. -/
structure MultipartSelectors where
  initiateUpload : Bool
  uploadId : Option String
  partNumber : Option Nat
  deriving DecidableEq, Repr

def readMultipartSelector (read : Except S3Error MultipartSelectors) (pair : String × String) :
    Except S3Error MultipartSelectors :=
  match read with
  | .error error => .error error
  | .ok selectors =>
    if pair.1 = "uploads" then .ok { selectors with initiateUpload := true }
    else if pair.1 = "uploadId" ∧ pair.2 ≠ "" then
      .ok { selectors with uploadId := some pair.2 }
    else if pair.1 = "partNumber" ∧ pair.2 ≠ "" then
      match (parseUnsigned 65535 pair.2).filter
          (fun number => decide (1 ≤ number ∧ number ≤ 10000)) with
      | none => .error (.invalidRequest "partNumber must be an integer in 1..=10000")
      | some number => .ok { selectors with partNumber := some number }
    else .ok selectors

def parseMultipartQuery (query : Option String) : Except S3Error MultipartQuery :=
  match (queryPairs (query.getD "")).foldl readMultipartSelector (.ok ⟨false, none, none⟩) with
  | .error error => .error error
  | .ok ⟨initiateUpload, some uploadId, some partNumber⟩ =>
    .ok ⟨initiateUpload, some (uploadId, partNumber), none, none⟩
  | .ok ⟨initiateUpload, some uploadId, none⟩ =>
    .ok ⟨initiateUpload, none, some uploadId, some uploadId⟩
  | .ok ⟨initiateUpload, none, _⟩ => .ok ⟨initiateUpload, none, none, none⟩

structure ListObjectsV2Query where
  listType : Option String
  prefixText : Option String
  maxKeys : Option Nat
  continuationToken : Option String
  startAfter : Option String
  delimiter : Option String
  deriving DecidableEq, Repr

def ListObjectsV2Query.default : ListObjectsV2Query := ⟨none, none, none, none, none, none⟩

def usizeMax : Nat := 2 ^ 64 - 1

def readListSelector (parsed : ListObjectsV2Query) (pair : String × String) :
    ListObjectsV2Query :=
  if pair.1 = "list-type" then { parsed with listType := some pair.2 }
  else if pair.1 = "prefix" then { parsed with prefixText := some pair.2 }
  else if pair.1 = "delimiter" then { parsed with delimiter := some pair.2 }
  else if pair.1 = "continuation-token" then { parsed with continuationToken := some pair.2 }
  else if pair.1 = "start-after" then { parsed with startAfter := some pair.2 }
  else if pair.1 = "max-keys" then
    match parseUnsigned usizeMax pair.2 with
    | some value => { parsed with maxKeys := some value }
    | none => parsed
  else parsed

def parseListObjectsV2Query (query : Option String) : ListObjectsV2Query :=
  (queryPairs (query.getD "")).foldl readListSelector .default

/-- The only value of a field; a field that is given twice is an error. -/
def fieldValue (name : String) (pairs : List (String × String)) :
    Option (Option String) :=
  match pairs.filter (fun pair => decide (pair.1 = name)) with
  | [] => some none
  | [pair] => some (some pair.2)
  | _ => none

/-- The `Query<ListObjectsV2Query>` extractor; `none` when it rejects the request. -/
def queryExtractor (router : S3Router) (query : Option String) : Option ListObjectsV2Query := do
  let pairs := (queryPairs (query.getD "")).map
    (fun pair => (router.formDecode pair.1, router.formDecode pair.2))
  let listType ← fieldValue "list-type" pairs
  let prefixText ← fieldValue "prefix" pairs
  let maxKeys ←
    match ← fieldValue "max-keys" pairs with
    | none => some none
    | some value => (parseUnsigned usizeMax value).map some
  let continuationToken ← fieldValue "continuation-token" pairs
  let startAfter ← fieldValue "start-after" pairs
  let delimiter ← fieldValue "delimiter" pairs
  return ⟨listType, prefixText, maxKeys, continuationToken, startAfter, delimiter⟩

/-! ## Section 3: Buckets and keys -/

def stripHostPort (host : String) : Option String :=
  let (hostname, maybePort) := (rsplitOnce ':' host).getD (host, "")
  if maybePort = "" then some host
  else ((parseUnsigned 65535 maybePort).filter (fun port => decide (0 < port))).map
    (fun _ => hostname)

/-- The bucket that a `Host` value names. -/
def bucketOfHost (host : String) : Option String := do
  let hostWithoutPort ← stripHostPort (toAsciiLowercase (trim host))
  let (bucket, suffix) ← splitOnce '.' hostWithoutPort
  if bucket = "" ∨ '.' ∈ bucket.toList then none
  else if suffix ≠ "localhost" ∧ suffix ≠ "127.0.0.1" then none
  else some bucket

def bucketFromVirtualHost (request : S3Request) : Option String :=
  (request.headerStr "host").bind (fun host => bucketOfHost host.val)

def resolveBucketAndKeyForObjectPath (request : S3Request) (pathBucket pathKey : String) :
    Except S3Error (String × String) :=
  match bucketFromVirtualHost request with
  | some virtualBucket =>
    let key := trimStartMatches '/' request.path.val
    if key = "" then .error (.noSuchKey virtualBucket "") else .ok (virtualBucket, key)
  | none => .ok (pathBucket, pathKey)

structure ParsedCopySource where
  bucket : String
  key : String
  deriving DecidableEq, Repr

def parseCopySourceHeader (router : S3Router) (raw : String) : Except S3Error ParsedCopySource :=
  match router.percentDecodeUtf8 (trim raw) with
  | none => .error (.invalidRequest "x-amz-copy-source must be valid UTF-8.")
  | some decoded =>
    let normalized := trimStartMatches '/' decoded
    if normalized = "" then
      .error (.invalidRequest "x-amz-copy-source must be bucket/key.")
    else
      match splitOnce '/' normalized with
      | none =>
        .error (.invalidRequest "x-amz-copy-source must include both bucket and key.")
      | some (bucket, key) =>
        if trim bucket = "" ∨ trim key = "" then
          .error (.invalidRequest "x-amz-copy-source bucket and key must not be empty.")
        else .ok ⟨trim bucket, trim key⟩

/-! ## Section 4: Operations -/

/-- What a request asks for, as its handler has read it when it calls `authorize_s3`. -/
structure S3Operation where
  method : String
  bucket : Option String
  key : Option String
  multipart : Option MultipartQuery
  listing : Option ListObjectsV2Query
  copySource : Option ParsedCopySource
  deriving DecidableEq, Repr

variable (router : S3Router) (request : S3Request)

/-- The copy source of a PUT that is not an UploadPart. -/
def copySourceOf : Except S3Error (Option ParsedCopySource) :=
  match request.header "x-amz-copy-source" with
  | none => .ok none
  | some none => .error (.invalidRequest "x-amz-copy-source must be valid UTF-8.")
  | some (some value) => (parseCopySourceHeader router value.val).map some

/-- The handlers of `/{bucket}/{*key}`; `none` where there is none for the method. -/
def objectOperation (pathBucket pathKey : String) : Option (Except S3Error S3Operation) :=
  let operation (bucket key : String) (multipart : Option MultipartQuery)
      (copySource : Option ParsedCopySource) : S3Operation :=
    ⟨request.method.val, some bucket, some key, multipart, none, copySource⟩
  let resolved := resolveBucketAndKeyForObjectPath request pathBucket pathKey
  let multipart := parseMultipartQuery (request.query.map Subtype.val)
  if request.method.val = "GET" ∨ request.method.val = "HEAD" then
    some (do
      let (bucket, key) ← resolved
      return operation bucket key none none)
  else if request.method.val = "PUT" then
    some (do
      let (bucket, key) ← resolved
      let multipart ← multipart
      if multipart.uploadPart.isSome then return operation bucket key (some multipart) none
      let copySource ← copySourceOf router request
      return operation bucket key (some multipart) copySource)
  else if request.method.val = "POST" then
    some (do
      let (bucket, key) ← resolved
      let multipart ← multipart
      if multipart.initiateUpload ∨ multipart.completeUploadId.isSome then
        return operation bucket key (some multipart) none
      throw (.invalidRequest "Unsupported POST request. Use ?uploads or ?uploadId=..."))
  else if request.method.val = "DELETE" then
    some (do
      let (bucket, key) ← resolved
      let multipart ← multipart
      return operation bucket key (some multipart) none)
  else none

/-- The handler of a request, up to its call of `authorize_s3`. -/
def operation : Option (Except S3Error S3Operation) :=
  match router.route request.path.val, bucketFromVirtualHost request with
  | none, _ => none
  | some .root, virtualBucket =>
    if request.method.val = "GET" ∨ request.method.val = "HEAD" then
      some (.ok ⟨request.method.val, virtualBucket, none, none,
        virtualBucket.map (fun _ => parseListObjectsV2Query (request.query.map Subtype.val)),
        none⟩)
    else none
  | some (.segment segment), some bucket =>
    -- the GET handler extracts the query before it looks at the host
    if request.method.val = "GET" ∧
        queryExtractor router (request.query.map Subtype.val) = none then none
    else objectOperation router request bucket segment
  | some (.segment segment), none =>
    if request.method.val = "GET" then
      (queryExtractor router (request.query.map Subtype.val)).map (fun query =>
        .ok ⟨request.method.val, some segment, none, none, some query, none⟩)
    else if request.method.val = "HEAD" then
      some (.ok ⟨request.method.val, some segment, none, none, none, none⟩)
    else if request.method.val = "PUT" ∨ request.method.val = "POST" ∨
        request.method.val = "DELETE" then
      some (.error (.invalidRequest "Path-style object requests must include /{bucket}/{key}."))
    else none
  | some (.object bucket key), _ => objectOperation router request bucket key

end Netdisk2Blob.Gateway
