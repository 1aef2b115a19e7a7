import Netdisk2Blob.Providers.BlobAdapter
import Netdisk2Blob.Library.FolderListing
import Netdisk2Blob.Library.UrlPaths
import Mathlib.Data.List.Sort

/-!
# The OneDrive Adapter

Objects are addressed by path URLs of the drive service: the root prefix, the container and
the key, with empty segments dropped and every segment percent-encoded. The URL library
resolves dot segments before a request is sent, and the service looks the decoded path up
in the tree of items; new folders are created by the id of their parent.

Left out of the calls are the access token, the transport errors and the fields of an item
other than its place and content.
-/

namespace Netdisk2Blob.Providers.OneDrive

open Library Text Library.UrlPaths Library.FileTree Blob

variable {B : Type}

/-! ## Section 1: Paths and URLs -/

structure OneDriveConfig where
  enabled : Bool
  rootPrefix : Option String
  /-- the path of the drive resource in the URLs of the service -/
  drivePath : List String
  driveResolved : ∀ segment ∈ drivePath, isDotSegment segment = false

def normalizePath (value : String) : String := joinKey (nonEmptySegments value)

def encodePath (path : String) : String :=
  joinKey ((nonEmptySegments path).map percentEncode)

/-- The URL of an item, from the drive resource on. -/
def pathItemUrl (path : String) : String :=
  let normalized := normalizePath path
  if normalized = "" then "root" else "root:/" ++ encodePath normalized ++ ":"

def pathUploadUrl (path : String) : String := pathItemUrl path ++ "/content"

def normalizedRootPrefix (config : OneDriveConfig) : Option String :=
  (config.rootPrefix.map normalizePath).filter (fun value => decide (value ≠ ""))

def containerPath (config : OneDriveConfig) (container : String) : Except BlobError String := do
  ensureNonEmpty container "container"
  let parts := (normalizedRootPrefix config).toList ++ [normalizePath container]
  return joinKey (parts.filter (fun part => decide (part ≠ "")))

def objectPath (config : OneDriveConfig) (container key : String) : Except BlobError String := do
  ensureNonEmpty container "container"
  ensureNonEmpty key "object key"
  let parts := (normalizedRootPrefix config).toList ++ [normalizePath container, normalizePath key]
  return joinKey (parts.filter (fun part => decide (part ≠ "")))

def parentPath (path : String) : Option String :=
  let segments := nonEmptySegments path
  if segments.dropLast = [] then none else some (joinKey segments.dropLast)

def joinRelativeKey (folderKey name : String) : String :=
  if folderKey = "" then name else s!"{folderKey}/{name}"

/-! ## Section 2: The drive service -/

/-- The path segments of a URL of the drive as the URL library sends them. -/
def sentPath (config : OneDriveConfig) (url : String) : List String :=
  resolveDotSegments (config.drivePath ++ split '/' url)

/-- The name in the last segment of an item URL, which ends with a colon. -/
def stripColon (segment : String) : Option String :=
  if segment.toList.getLast? = some ':' then some (String.ofList segment.toList.dropLast) else none

/-- The place below the drive root that the rest of an item URL names. -/
def namedPlace (segments : List String) : Option (List String) :=
  (segments.getLast?.bind stripColon).bind
    (fun last => (segments.dropLast ++ [last]).mapM percentDecode)

/-- The place that a sent path addresses, if it is the path of an item of the drive. -/
def addressedPlace (config : OneDriveConfig) (segments : List String) : Option (List String) :=
  if config.drivePath.isPrefixOf segments then
    let resource := segments.drop config.drivePath.length
    if resource = ["root"] then some []
    else if resource.head? = some "root:" then namedPlace resource.tail
    else none
  else none

structure DriveItem (B : Type) where
  place : List String
  content : Option B

/-- The root, or the item at the place. -/
def driveItemAt (tree : FileTree B) (place : List String) : Option (DriveItem B) :=
  if place = [] then some ⟨[], none⟩
  else (tree.itemAt place).map (fun item => ⟨place, item.content⟩)

/-- An upload to the content of an item: the parent must be there. -/
def uploadContent (config : OneDriveConfig) (tree : FileTree B) (url : String) (body : B) :
    Option (FileTree B × List String) :=
  let segments := sentPath config url
  if segments.getLast? = some "content" then
    (addressedPlace config segments.dropLast).bind fun place =>
      place.getLast?.bind fun name =>
        (tree.writeFile place.dropLast name body).map (fun tree' => (tree', place))
  else none

/-! ## Section 3: The calls -/

def ensureEnabled (config : OneDriveConfig) : Except BlobError Unit :=
  if config.enabled then .ok () else .error (.configuration "onedrive provider disabled")

def ensureFolder (item : DriveItem B) (label : String) : Except BlobError Unit :=
  if item.content.isNone then .ok () else .error (.upstream s!"{label} is not a folder")

/-- The content of an item that is a file. -/
def ensureFile (item : DriveItem B) (label : String) : Except BlobError B :=
  match item.content with
  | some body => .ok body
  | none => .error (.notFound s!"{label} is not a file")

def getItemByPath (config : OneDriveConfig) (tree : FileTree B) (path : String) :
    Option (DriveItem B) :=
  (addressedPlace config (sentPath config (pathItemUrl (normalizePath path)))).bind
    (driveItemAt tree)

def resolveContainerFolder (config : OneDriveConfig) (tree : FileTree B) (container : String) :
    Except BlobError (DriveItem B) := do
  let path ← containerPath config container
  match getItemByPath config tree path with
  | none => .error (.notFound s!"container not found: {container}")
  | some item => do
    ensureFolder item s!"container {container}"
    return item

def resolveObject (config : OneDriveConfig) (tree : FileTree B) (container key : String) :
    Except BlobError (DriveItem B × B) := do
  let path ← objectPath config container key
  match getItemByPath config tree path with
  | none => .error (.notFound s!"object not found: {container}/{key}")
  | some item => do
    let body ← ensureFile item s!"object {container}/{key}"
    return (item, body)

def createFolder (config : OneDriveConfig) (tree : FileTree B) (parent : List String)
    (name fullPath : String) : Except BlobError (FileTree B × List String) :=
  match tree.add ⟨parent, name, none⟩ with
  | some tree' => .ok (tree', parent ++ [name])
  | none =>
    -- the name is taken: the path must lead to a folder
    match getItemByPath config tree fullPath with
    | none => .error (.upstream
        s!"create OneDrive folder {fullPath} conflicted but no item was found")
    | some item => do
      ensureFolder item s!"folder path {fullPath}"
      return (tree, item.place)

/-- The loop over the segments of a folder path: what is done, what is left, and the item of
what is done. -/
def ensureFolderSegments (config : OneDriveConfig) (done : List String) :
    List String → FileTree B → List String → Except BlobError (FileTree B)
  | [], tree, _ => .ok tree
  | segment :: segments, tree, parent =>
    let currentPath := joinKey (done ++ [segment])
    match getItemByPath config tree currentPath with
    | some item => do
      ensureFolder item s!"folder path {currentPath}"
      ensureFolderSegments config (done ++ [segment]) segments tree item.place
    | none => do
      let (tree', created) ← createFolder config tree parent segment currentPath
      ensureFolderSegments config (done ++ [segment]) segments tree' created

def ensureFolderTree (config : OneDriveConfig) (tree : FileTree B) (folderPath : String) :
    Except BlobError (FileTree B) :=
  let normalized := normalizePath folderPath
  if normalized = "" then .ok tree
  else ensureFolderSegments config [] (split '/' normalized) tree []

/-- The folders on the way, if the path has any. -/
def ensureParents (config : OneDriveConfig) (tree : FileTree B) (path : String) :
    Except BlobError (FileTree B) :=
  match parentPath path with
  | some parent => ensureFolderTree config tree parent
  | none => .ok tree

def putObject (config : OneDriveConfig) (tree : FileTree B) (container key : String) (body : B) :
    Except BlobError (FileTree B × List String) := do
  ensureEnabled config
  let path ← objectPath config container key
  let tree' ← ensureParents config tree path
  match uploadContent config tree' (pathUploadUrl path) body with
  | some uploaded => .ok uploaded
  | none => .error (.upstream s!"upload object {container}/{key} failed")

def headObject (config : OneDriveConfig) (tree : FileTree B) (container key : String) :
    Except BlobError (ObjectInfo (List String)) := do
  ensureEnabled config
  let (item, _) ← resolveObject config tree container key
  return ⟨normalizePath key, item.place⟩

def getObject (config : OneDriveConfig) (tree : FileTree B) (container key : String) :
    Except BlobError (ObjectInfo (List String) × B) := do
  ensureEnabled config
  let (item, body) ← resolveObject config tree container key
  return (⟨normalizePath key, item.place⟩, body)

def deleteObject (config : OneDriveConfig) (tree : FileTree B) (container key : String) :
    Except BlobError (FileTree B) := do
  ensureEnabled config
  let (item, _) ← resolveObject config tree container key
  return tree.removeAt item.place

def startsWith (keyPrefix : Option String) (key : String) : Bool :=
  keyPrefix.all (fun value => value.toList.isPrefixOf key.toList)

/-- Every item has a name, and a key is the names joined. -/
def listing (keyPrefix : Option String) : Listing BlobError where
  label := some
  join := joinRelativeKey
  nameless := fun _ => .upstream "OneDrive item is missing a name"
  keepFolder := fun _ => true
  keepFile := startsWith keyPrefix
  foldersFirst := false

def listObjects (config : OneDriveConfig) (tree : FileTree B) (request : ListObjectsRequest) :
    Except BlobError (List (ObjectInfo (List String))) := do
  ensureEnabled config
  match request.container with
  | none => return []
  | some container => do
    let folder ← resolveContainerFolder config tree container
    let found ← walk (listing (request.keyPrefix.map normalizePath)) tree [(folder.place, "")] []
    let objects := (found.map (fun entry => ObjectInfo.mk entry.1 entry.2.place)).insertionSort
      (fun left right => left.key ≤ right.key)
    return match request.limit with
      | some limit => objects.take limit
      | none => objects

end Netdisk2Blob.Providers.OneDrive
