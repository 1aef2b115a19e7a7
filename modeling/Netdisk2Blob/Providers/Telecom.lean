import Netdisk2Blob.Providers.DisplayNames

/-!
# The Telecom Adapter

Objects are found by walking folders by display names. An upload walks the root prefix and
the key's parent path by trimmed segments and creates what is missing; the other calls on a
key walk the segments as they are. A container is one of two scopes and no folder.

Folder ids are the places of the folders. Listing pages, tokens, the upload protocol
between planning and committing a file, and the fields of an item other than its name, kind
and content are left out; a rejection of the service carries the message of a missing code.
-/

namespace Netdisk2Blob.Providers.Telecom

open Library Text Library.FileTree Blob

variable {B : Type}

/-! ## Section 1: Keys -/

structure TelecomConfig where
  rootPrefix : Option String
  familyId : Option String

def normalizeObjectKey (key : String) : String := joinKey (nonEmptySegments key)

def configuredFamilyId (config : TelecomConfig) : Option String :=
  (config.familyId.map trim).filter (fun value => decide (value ≠ ""))

def normalizedRootPrefix (config : TelecomConfig) : Option String :=
  (config.rootPrefix.map normalizeObjectKey).filter (fun value => decide (value ≠ ""))

def containerScope (config : TelecomConfig) (container : String) : Except BlobError Scope :=
  if normalizeObjectKey container = "root" then .ok .personal
  else if normalizeObjectKey container = "family" then
    if (configuredFamilyId config).isSome then .ok .family
    else .error (.configuration "China Telecom family container requires Family ID; capture a family session in Admin Web or set CCBG_TELECOM_FAMILY_ID")
  else .error (.notFound s!"container not found: {container}")

def validateContainer (config : TelecomConfig) (container : String) : Except BlobError Unit := do
  let _ ← containerScope config container
  return ()

def managedContainerRoot (config : TelecomConfig) (container : String) :
    Except BlobError String := do
  validateContainer config container
  return (normalizedRootPrefix config).getD ""

def joinRelativeKey (keyPrefix childName : String) : String := joinTrimmed keyPrefix childName

def providerObjectKey (config : TelecomConfig) (container key : String) :
    Except BlobError String := do
  validateContainer config container
  if normalizeObjectKey key = "" then .error (.notFound "object key is empty")
  else do
    let managedRoot ← managedContainerRoot config container
    if managedRoot = "" then return normalizeObjectKey key
    else return joinRelativeKey managedRoot (normalizeObjectKey key)

def userVisibleObjectKey (config : TelecomConfig) (container providerKey : String) :
    Except BlobError String := do
  validateContainer config container
  let normalized := normalizeObjectKey providerKey
  if normalized = "" then .error (.notFound "object key is empty")
  else do
    let managedRoot ← managedContainerRoot config container
    if managedRoot = "" then return normalized
    else
      match stripPrefix s!"{managedRoot}/" normalized with
      | some visible => return visible
      | none => .error (.notFound
          s!"object is outside managed root for {container}: {normalized}")

def directoryMayContainPrefix (directoryKey keyPrefix : String) : Bool :=
  decide (directoryKey = "") || decide (keyPrefix = "") ||
    s!"{directoryKey}/".toList.isPrefixOf keyPrefix.toList ||
      keyPrefix.toList.isPrefixOf directoryKey.toList

/-! ## Section 2: Folders and files -/

def findChildFolder (tree : FileTree B) (parent : List String) (childName : String) :
    Except BlobError (Item B) :=
  match findFolder displayName tree parent childName with
  | some entry => .ok entry
  | none => .error (.notFound s!"folder not found under {joinKey parent}: {childName}")

def findChildFile (tree : FileTree B) (parent : List String) (childName : String) :
    Except BlobError (Item B) :=
  match findFile displayName tree parent childName with
  | some entry => .ok entry
  | none => .error (.notFound s!"file not found under {joinKey parent}: {childName}")

def findChildFolderId (tree : FileTree B) (parent : List String) (childName : String) :
    Option (List String) :=
  (findFolder displayName tree parent childName).map Item.place

/-- The loop over the segments of a directory path. -/
def resolveChildFolders (tree : FileTree B) : List String → List String → Option (List String)
  | current, [] => some current
  | current, segment :: segments =>
    (findChildFolderId tree current segment).bind
      (fun child => resolveChildFolders tree child segments)

def resolveChildDirectoryPathIfExists (tree : FileTree B) (parent : List String)
    (directoryPath : String) : Option (List String) :=
  let normalized := normalizeObjectKey directoryPath
  if normalized = "" then some parent
  else resolveChildFolders tree parent (walkSegments normalized)

def resolveScopeContainerRootFolderId (config : TelecomConfig) (drive : ScopedDrive B)
    (container : String) : Except BlobError (Option (List String)) := do
  let scope ← containerScope config container
  let managedRoot ← managedContainerRoot config container
  if managedRoot = "" then return some []
  else return resolveChildDirectoryPathIfExists (drive.tree scope) [] managedRoot

/-- The loop over the parent segments of a provider key. -/
def resolveParentFolders (tree : FileTree B) :
    List String → List String → Except BlobError (List String)
  | parent, [] => .ok parent
  | parent, segment :: segments => do
    let folder ← findChildFolder tree parent segment
    resolveParentFolders tree folder.place segments

def resolveProviderFileEntry (tree : FileTree B) (providerKey : String) :
    Except BlobError (Item B) :=
  let normalizedKey := normalizeObjectKey providerKey
  if normalizedKey = "" then .error (.notFound "object key is empty")
  else do
    let segments := split '/' normalizedKey
    let parent ← resolveParentFolders tree [] segments.dropLast
    findChildFile tree parent ((segments.getLast?).getD "")

def ensureFolder (tree : FileTree B) (parent : List String) (folderName : String) :
    Except BlobError (FileTree B × List String) :=
  match findChildFolderId tree parent folderName with
  | some existing => .ok (tree, existing)
  | none =>
    match tree.add ⟨parent, folderName, none⟩ with
    | some tree' => .ok (tree', parent ++ [folderName])
    | none =>
      -- a name that is taken, though no folder shows it, cannot be listed the second time either
      if (tree.itemAt (parent ++ [folderName])).isSome then
        .error (.upstream s!"createFolder.action reported an existing folder but it could not be listed: {folderName}")
      else .error (.upstream
        "createFolder.action returned no folder id for the created directory")

def ensureManagedParentFolderId (config : TelecomConfig) (tree : FileTree B)
    (container key : String) : Except BlobError (FileTree B × List String × String) := do
  let providerKey ← providerObjectKey config container key
  match rsplitOnce '/' providerKey with
  | some (parentPath, fileName) => do
    let (tree', parent) ← ensureFolders ensureFolder tree [] (walkSegments parentPath)
    return (tree', parent, fileName)
  | none => return (tree, [], providerKey)

/-! ## Section 3: The calls -/

/-- The committed file takes the place of a file with its name. -/
def commitMultiUpload (tree : FileTree B) (parent : List String) (fileName : String) (body : B) :
    Except BlobError (FileTree B) :=
  match tree.writeFile parent fileName body with
  | some tree' => .ok tree'
  | none => .error (.upstream "initMultiUpload returned no uploadFileId")

def putObject (config : TelecomConfig) (drive : ScopedDrive B) (container key : String) (body : B) :
    Except BlobError (ScopedDrive B × (Scope × List String)) := do
  let scope ← containerScope config container
  let (tree, parent, fileName) ←
    ensureManagedParentFolderId config (drive.tree scope) container key
  let tree' ← commitMultiUpload tree parent fileName body
  return (drive.setTree scope tree', (scope, parent ++ [fileName]))

def headObject (config : TelecomConfig) (drive : ScopedDrive B) (container key : String) :
    Except BlobError (ObjectInfo (Scope × List String)) := do
  let scope ← containerScope config container
  let providerKey ← providerObjectKey config container key
  let entry ← resolveProviderFileEntry (drive.tree scope) providerKey
  let visible ← userVisibleObjectKey config container providerKey
  return ⟨visible, (scope, entry.place)⟩

def getObject (config : TelecomConfig) (drive : ScopedDrive B) (container key : String) :
    Except BlobError (ObjectInfo (Scope × List String) × B) := do
  let scope ← containerScope config container
  let providerKey ← providerObjectKey config container key
  let entry ← resolveProviderFileEntry (drive.tree scope) providerKey
  let visible ← userVisibleObjectKey config container providerKey
  match entry.content with
  | some body => return (⟨visible, (scope, entry.place)⟩, body)
  | none => .error (.notFound "telecom object download")

def deleteObject (config : TelecomConfig) (drive : ScopedDrive B) (container key : String) :
    Except BlobError (ScopedDrive B) := do
  let scope ← containerScope config container
  let objectKey ← providerObjectKey config container key
  let entry ← resolveProviderFileEntry (drive.tree scope) objectKey
  return drive.setTree scope ((drive.tree scope).removeAt entry.place)

def startsWith (keyPrefix : Option String) (key : String) : Bool :=
  keyPrefix.all (fun value => value.toList.isPrefixOf key.toList)

def listing (keyPrefix : Option String) : Listing BlobError where
  label := displayName
  join := joinRelativeKey
  nameless := fun folder =>
    if folder then .upstream "listFiles.action returned a folder without a name"
    else .upstream "listFiles.action returned a file without a name"
  keepFolder := fun key => keyPrefix.all (directoryMayContainPrefix key)
  keepFile := startsWith keyPrefix
  foldersFirst := true

def listObjectsInRoot (config : TelecomConfig) (drive : ScopedDrive B) (container : String)
    (request : ListObjectsRequest) :
    Except BlobError (List (ObjectInfo (Scope × List String))) :=
  if request.limit = some 0 then .ok []
  else do
    let scope ← containerScope config container
    let root ← resolveScopeContainerRootFolderId config drive container
    match root with
    | none => return []
    | some root => do
      let found ← walk (listing (request.keyPrefix.map normalizeObjectKey)) (drive.tree scope)
        [(root, "")] []
      return (objectMap request.limit
        (found.map (reported (fun place => (scope, place))))).rows

def listObjects (config : TelecomConfig) (drive : ScopedDrive B) (request : ListObjectsRequest) :
    Except BlobError (List (ObjectInfo (Scope × List String))) :=
  match request.container with
  | none => .ok []
  | some container => do
    validateContainer config container
    listObjectsInRoot config drive container request

end Netdisk2Blob.Providers.Telecom
