import Netdisk2Blob.Providers.DisplayNames

/-!
# The Mobile Adapter

Objects are found by walking folders: the root prefix, the container and the key's parent
path by trimmed segments, the file by the display names of a listing. New folders get the
trimmed segment as name, a new file the last segment as it is.

Listing pages, the upload protocol between creating and completing a file, and the fields
of an item other than its name, kind and content are left out; a rejection of the service
carries no code and no message.
-/

namespace Netdisk2Blob.Providers.Mobile

open Library Text Library.FileTree Blob

variable {B : Type}

/-! ## Section 1: Keys -/

structure MobileConfig where
  rootPrefix : Option String
  /-- a root folder id is configured -/
  rootFolderConfigured : Bool
  /-- the service answers for the family disk -/
  familyDiskAvailable : Bool
  /-- a family root folder id is configured -/
  familyRootConfigured : Bool

def normalizeObjectKey (key : String) : String := trimMatches '/' key

def normalizedRootPrefix (config : MobileConfig) : Option String :=
  (config.rootPrefix.map normalizeObjectKey).filter (fun value => decide (value ≠ ""))

def managedObjectKey (config : MobileConfig) (container key : String) :
    Except BlobError String := do
  ensureNonEmpty container "container"
  ensureNonEmpty key "object key"
  return joinKey ((normalizedRootPrefix config).toList ++
    [normalizeObjectKey container, normalizeObjectKey key])

def managedContainerRoot (config : MobileConfig) (container : String) : Except BlobError String := do
  ensureNonEmpty container "container"
  return joinKey ((normalizedRootPrefix config).toList ++ [normalizeObjectKey container])

def joinRelativeKey (folderKey childName : String) : String := joinTrimmed folderKey childName

def directoryMayContainPrefix (directoryKey keyPrefix : String) : Bool :=
  decide (directoryKey = keyPrefix) ||
    (stripPrefix directoryKey keyPrefix).any (fun suffix => suffix.toList.head? = some '/')

/-- The cloud of a container. -/
def nativeRootFolder (config : MobileConfig) (container : String) : Except BlobError Scope :=
  if container = "root" then
    if config.rootFolderConfigured then .ok .personal
    else .error (.configuration "missing China Mobile Root Folder ID; capture the current Mobile session from the logged-in file-list page")
  else if container = "family" ∧ config.familyDiskAvailable ∧ config.familyRootConfigured then
    .ok .family
  else .error (.notFound s!"container not found: {container}")

/-! ## Section 2: Folders and files -/

def findChildFolderId (tree : FileTree B) (parent : List String) (folderName : String) :
    Option (List String) :=
  if trim folderName = "" then none
  else (findFolder displayName tree parent (trim folderName)).map Item.place

def ensureFolder (tree : FileTree B) (parent : List String) (folderName : String) :
    Except BlobError (FileTree B × List String) :=
  match findChildFolderId tree parent folderName with
  | some existing => .ok (tree, existing)
  | none =>
    match tree.add ⟨parent, folderName, none⟩ with
    | some tree' => .ok (tree', parent ++ [folderName])
    | none => .error (.upstream
        "China Mobile folder create rejected the request: code=unknown message=unknown")

/-- The loop over the segments of a directory path. -/
def resolveChildFolders (tree : FileTree B) : List String → List String → Option (List String)
  | current, [] => some current
  | current, segment :: segments =>
    (findChildFolderId tree current segment).bind
      (fun child => resolveChildFolders tree child segments)

def resolveChildDirectoryPathIfExists (tree : FileTree B) (parent : List String)
    (directoryPath : String) : Option (List String) :=
  let normalized := normalizeObjectKey directoryPath
  if normalized = "" then some parent
  else resolveChildFolders tree parent (walkSegments normalized)

def resolveContainerRootFolderId (config : MobileConfig) (drive : ScopedDrive B)
    (container : String) : Except BlobError (Scope × Option (List String)) := do
  let scope ← nativeRootFolder config container
  let managedRoot ← managedContainerRoot config container
  return (scope, resolveChildDirectoryPathIfExists (drive.tree scope) [] managedRoot)

/-- The parent folder and the file name of a normalized key, below the container's folder. -/
def resolveParent (tree : FileTree B) (root : List String) (normalizedKey : String) :
    Option (List String) × String :=
  match rsplitOnce '/' normalizedKey with
  | some (parentPath, fileName) =>
    (resolveChildDirectoryPathIfExists tree root parentPath, fileName)
  | none => (some root, normalizedKey)

def resolveObjectEntry (config : MobileConfig) (drive : ScopedDrive B) (container key : String) :
    Except BlobError (Scope × Item B) := do
  let normalizedKey := normalizeObjectKey key
  ensureNonEmpty normalizedKey "object key"
  let (scope, root) ← resolveContainerRootFolderId config drive container
  match root with
  | none => .error (.notFound s!"object not found: {container}/{normalizedKey}")
  | some root =>
    let (parent, fileName) := resolveParent (drive.tree scope) root normalizedKey
    match parent.bind (fun parent => findFile displayName (drive.tree scope) parent fileName) with
    | none => .error (.notFound s!"object not found: {container}/{normalizedKey}")
    | some entry => .ok (scope, entry)

def ensureManagedParentFolderId (config : MobileConfig) (drive : ScopedDrive B)
    (container key : String) : Except BlobError (Scope × FileTree B × List String × String) := do
  let scope ← nativeRootFolder config container
  let managedKey ← managedObjectKey config container key
  match rsplitOnce '/' managedKey with
  | some (parentPath, fileName) => do
    let (tree, parent) ← ensureFolders ensureFolder (drive.tree scope) [] (walkSegments parentPath)
    return (scope, tree, parent, fileName)
  | none => return (scope, drive.tree scope, [], managedKey)

/-- The files of a folder that are deleted to make room for a name. -/
def isChildFileNamed (parent : List String) (fileName : String) (item : Item B) : Bool :=
  decide (item.parent = parent) && decide (displayName item.name = some (trim fileName))

/-- A file is created; if the name is taken, the files with its display name are deleted and
the creation is tried again. -/
def createMobileUpload (tree : FileTree B) (parent : List String) (fileName : String) (body : B) :
    Except BlobError (FileTree B) :=
  match tree.itemAt (parent ++ [fileName]) with
  | none =>
    match tree.add ⟨parent, fileName, some body⟩ with
    | some tree' => .ok tree'
    | none => .error (.upstream
        "China Mobile file/create rejected the request: code=unknown message=unknown")
  | some _ =>
    if tree.items.any (fun item => !item.isFolder && isChildFileNamed parent fileName item) then
      match (tree.removeFiles (isChildFileNamed parent fileName)).add
          ⟨parent, fileName, some body⟩ with
      | some tree' => .ok tree'
      | none => .error (.upstream "China Mobile file/create reported an existing object without an uploadId even after deleting the old object and retrying")
    else .error (.upstream "China Mobile file/create uploadId was missing")

/-! ## Section 3: The calls -/

def putObject (config : MobileConfig) (drive : ScopedDrive B) (container key : String) (body : B) :
    Except BlobError (ScopedDrive B × (Scope × List String)) := do
  let (scope, tree, parent, fileName) ← ensureManagedParentFolderId config drive container key
  let tree' ← createMobileUpload tree parent fileName body
  return (drive.setTree scope tree', (scope, parent ++ [fileName]))

def headObject (config : MobileConfig) (drive : ScopedDrive B) (container key : String) :
    Except BlobError (ObjectInfo (Scope × List String)) := do
  let (scope, entry) ← resolveObjectEntry config drive container key
  return ⟨normalizeObjectKey key, (scope, entry.place)⟩

def getObject (config : MobileConfig) (drive : ScopedDrive B) (container key : String) :
    Except BlobError (ObjectInfo (Scope × List String) × B) := do
  let (scope, entry) ← resolveObjectEntry config drive container key
  match entry.content with
  | some body => return (⟨normalizeObjectKey key, (scope, entry.place)⟩, body)
  | none => .error (.upstream s!"download object {container}/{key} failed")

def deleteObject (config : MobileConfig) (drive : ScopedDrive B) (container key : String) :
    Except BlobError (ScopedDrive B) := do
  let (scope, entry) ← resolveObjectEntry config drive container key
  return drive.setTree scope ((drive.tree scope).removeAt entry.place)

def startsWith (keyPrefix : Option String) (key : String) : Bool :=
  keyPrefix.all (fun value => value.toList.isPrefixOf key.toList)

def listing (keyPrefix : Option String) : Listing BlobError where
  label := displayName
  join := joinRelativeKey
  nameless := fun folder =>
    if folder then .upstream "China Mobile file/list returned a folder without a name"
    else .upstream "China Mobile file/list returned a file without a name"
  keepFolder := fun key => keyPrefix.all (directoryMayContainPrefix key)
  keepFile := startsWith keyPrefix
  foldersFirst := false

def listObjects (config : MobileConfig) (drive : ScopedDrive B) (request : ListObjectsRequest) :
    Except BlobError (List (ObjectInfo (Scope × List String))) :=
  let container := ((request.container.map trim).filter (fun value => decide (value ≠ ""))).getD "root"
  if container ≠ "root" ∧ container ≠ "family" then
    .error (.notFound s!"container not found: {container}")
  else do
    let (scope, root) ← resolveContainerRootFolderId config drive container
    match root with
    | none => return []
    | some root => do
      let found ← walk (listing (request.keyPrefix.map normalizeObjectKey)) (drive.tree scope)
        [(root, "")] []
      return (objectMap request.limit
        (found.map (reported (fun place => (scope, place))))).rows

end Netdisk2Blob.Providers.Mobile
