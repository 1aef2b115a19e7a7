import Netdisk2Blob.Library.RefusedCalls
import Netdisk2Blob.Providers.Mobile

/-!
# Renaming, Copying and Moving on the Mobile Drive

The calls of the Mobile adapter that change the place of a file, step by step, on a drive whose
items have ids: a file is moved to its new folder and then renamed; if the renaming fails, it is
moved back, and the folders that were made on the way are removed again when they are empty.

Any call may be refused, and a call that is refused changes nothing. The pages of a folder are
one call, which lists its items. The drive gives out ids that are not blank, so that the checks
for a missing id are left out, and so are the account fields of a request.

## Contents

- `MobileDrive`, `perform`: the items, and what the service does with a call
- `resolveObjectEntry`, `ensureManagedParentFolderId`: the walks along a path
- `cleanupCreatedFolders`, `rollBack`: what is done after a failure
- `renameObject`, `copyObject`, `moveObject`, `deleteChildFilesByName`: the calls
-/

namespace Netdisk2Blob.Providers.Mobile.Actions

open Library Text Library.Program Blob

/-! ## Section 1: The drive -/

/-- A file with its bytes, or a folder. -/
structure DriveItem where
  id : String
  parent : String
  name : String
  content : Option Bytes
  deriving DecidableEq, Repr

def DriveItem.isFolder (item : DriveItem) : Bool := item.content.isNone

/-- The items of a drive. Every id that was ever given out is remembered, and no two items have
the same one. -/
structure MobileDrive where
  items : List DriveItem
  issued : List String
  issued_id : ∀ item ∈ items, item.id ∈ issued
  issued_parent : ∀ item ∈ items, item.parent ∈ issued
  distinct : (items.map DriveItem.id).Nodup

namespace MobileDrive

/-- An id that was not given out: longer than all others. -/
def freshId (drive : MobileDrive) : String :=
  String.ofList (List.replicate ((drive.issued.map String.length).sum + 1) '0')

theorem freshId_not_mem (drive : MobileDrive) : drive.freshId ∉ drive.issued := by
  intro hmem
  have hle : drive.freshId.length ≤ (drive.issued.map String.length).sum :=
    List.single_le_sum (fun _ _ => Nat.zero_le _) _ (List.mem_map_of_mem hmem)
  rw [freshId, String.length_ofList, List.length_replicate] at hle
  omega

/-- A new item, at the end of the listing of its folder. -/
def add (drive : MobileDrive) (parent name : String) (content : Option Bytes)
    (hparent : parent ∈ drive.issued) : MobileDrive where
  items := drive.items ++ [⟨drive.freshId, parent, name, content⟩]
  issued := drive.freshId :: drive.issued
  issued_id := by
    intro item hitem
    rcases List.mem_append.mp hitem with hold | hnew
    · exact List.mem_cons_of_mem _ (drive.issued_id item hold)
    · rw [List.mem_singleton.mp hnew]
      exact List.mem_cons_self
  issued_parent := by
    intro item hitem
    rcases List.mem_append.mp hitem with hold | hnew
    · exact List.mem_cons_of_mem _ (drive.issued_parent item hold)
    · rw [List.mem_singleton.mp hnew]
      exact List.mem_cons_of_mem _ hparent
  distinct := by
    rw [List.map_append, List.map_singleton, List.nodup_append]
    refine ⟨drive.distinct, List.nodup_singleton _, ?_⟩
    intro id hid other hother
    rw [List.mem_singleton.mp hother]
    obtain ⟨item, hitem, rfl⟩ := List.mem_map.mp hid
    intro hfresh
    have hsame : item.id = drive.freshId := hfresh
    have hissued : drive.freshId ∈ drive.issued := by
      rw [← hsame]
      exact drive.issued_id item hitem
    exact drive.freshId_not_mem hissued

/-- Some of the items. -/
def keep (drive : MobileDrive) (p : DriveItem → Bool) : MobileDrive where
  items := drive.items.filter p
  issued := drive.issued
  issued_id := fun item hitem => drive.issued_id item (List.mem_filter.mp hitem).1
  issued_parent := fun item hitem => drive.issued_parent item (List.mem_filter.mp hitem).1
  distinct := drive.distinct.sublist (List.filter_sublist.map _)

/-- The item with an id in another folder. -/
def setParent (drive : MobileDrive) (id parent : String) (hparent : parent ∈ drive.issued) :
    MobileDrive where
  items := drive.items.map
    (fun item => if item.id = id then { item with parent := parent } else item)
  issued := drive.issued
  issued_id := by
    intro item hitem
    obtain ⟨old, hold, rfl⟩ := List.mem_map.mp hitem
    split
    · exact drive.issued_id old hold
    · exact drive.issued_id old hold
  issued_parent := by
    intro item hitem
    obtain ⟨old, hold, rfl⟩ := List.mem_map.mp hitem
    split
    · exact hparent
    · exact drive.issued_parent old hold
  distinct := by
    rw [List.map_map]
    convert drive.distinct using 2
    funext item
    simp only [Function.comp_apply]
    split
    · rfl
    · rfl

/-- The item with an id under another name. -/
def setName (drive : MobileDrive) (id name : String) : MobileDrive where
  items := drive.items.map (fun item => if item.id = id then { item with name := name } else item)
  issued := drive.issued
  issued_id := by
    intro item hitem
    obtain ⟨old, hold, rfl⟩ := List.mem_map.mp hitem
    split
    · exact drive.issued_id old hold
    · exact drive.issued_id old hold
  issued_parent := by
    intro item hitem
    obtain ⟨old, hold, rfl⟩ := List.mem_map.mp hitem
    split
    · exact drive.issued_parent old hold
    · exact drive.issued_parent old hold
  distinct := by
    rw [List.map_map]
    convert drive.distinct using 2
    funext item
    simp only [Function.comp_apply]
    split
    · rfl
    · rfl

/-- Whether an id is the given one or is reached from it in so many steps down. -/
def isBelow (items : List DriveItem) (folder : String) : Nat → String → Bool
  | 0, id => decide (id = folder)
  | steps + 1, id => decide (id = folder) ||
    (items.find? (fun item => decide (item.id = id))).any
      (fun item => isBelow items folder steps item.parent)

/-- The drive without an item and everything below it. -/
def remove (drive : MobileDrive) (id : String) : MobileDrive :=
  drive.keep (fun item => !isBelow drive.items id drive.items.length item.id)

end MobileDrive

/-- The items of a folder. -/
def childrenOf (items : List DriveItem) (parent : String) : List DriveItem :=
  items.filter (fun item => decide (item.parent = parent))

/-! ## Section 2: Calls -/

inductive MetadataCall where
  | familyDiskInfo
  | list (parent : String)
  | createFolder (name parent : String)
  | batchDelete (id : String)
  | batchMove (id parent : String)
  | batchCopy (id parent : String)
  | update (id name : String)
  deriving DecidableEq, Repr

/-- A call, with whether it is made to undo an earlier one. The service does not see this. -/
structure Request where
  call : MetadataCall
  undoing : Bool
  deriving DecidableEq, Repr

/-- What an answer carries. -/
abbrev Value (request : Request) : Type :=
  match request.call with
  | .list _ => List DriveItem
  | .createFolder _ _ => String
  | _ => Unit

def notThere (id : String) : BlobError := .notFound s!"file not found: {id}"

/-- What the service does. It refuses a call about a folder or a file that is not there. -/
def perform : Service Request Value BlobError MobileDrive := fun request drive =>
  match request with
  | ⟨.familyDiskInfo, _⟩ => .ok ((), drive)
  | ⟨.list parent, _⟩ => .ok (childrenOf drive.items parent, drive)
  | ⟨.createFolder name parent, _⟩ =>
    if hparent : parent ∈ drive.issued then
      .ok (drive.freshId, drive.add parent name none hparent)
    else .error (notThere parent)
  | ⟨.batchDelete id, _⟩ => .ok ((), drive.remove id)
  | ⟨.batchMove id parent, _⟩ =>
    if hparent : parent ∈ drive.issued then .ok ((), drive.setParent id parent hparent)
    else .error (notThere parent)
  | ⟨.batchCopy id parent, _⟩ =>
    match drive.items.find? (fun item => decide (item.id = id)) with
    | none => .error (notThere id)
    | some item =>
      if hparent : parent ∈ drive.issued then
        .ok ((), drive.add parent item.name item.content hparent)
      else .error (notThere parent)
  | ⟨.update id name, _⟩ => .ok ((), drive.setName id name)

/-- A program that may call the service, with its result. -/
abbrev Remote (α : Type) := Program Request (fun request => Except BlobError (Value request)) α

/-- A call of the action itself. -/
def ask (call : MetadataCall) : Remote (Except BlobError (Value ⟨call, false⟩)) :=
  @issue Request (fun request => Except BlobError (Value request)) ⟨call, false⟩

/-- A call that undoes what the action did. -/
def undo (call : MetadataCall) : Remote (Except BlobError (Value ⟨call, true⟩)) :=
  @issue Request (fun request => Except BlobError (Value request)) ⟨call, true⟩

/-! ## Section 3: Walking along a path -/

/-- The account: the paths of its objects, and the ids of the two root folders, trimmed. -/
structure MobileAccount where
  paths : MobileConfig
  rootFolderId : Option String
  familyRootFolderId : Option String
  copyConfigured : Bool

def nativeRootFolderIdForContainer (account : MobileAccount) (container : String) :
    Remote (Except BlobError String) :=
  if container = "root" then
    match account.rootFolderId with
    | some root => .pure (.ok root)
    | none => .pure (.error (.configuration "missing China Mobile Root Folder ID; capture the current Mobile session from the logged-in file-list page"))
  else if container = "family" then
    attempt (ask .familyDiskInfo)
      (fun _ => .pure (.notFound s!"container not found: {container}")) fun _ =>
        match account.familyRootFolderId with
        | some root => .pure (.ok root)
        | none => .pure (.error (.notFound s!"container not found: {container}"))
  else .pure (.error (.notFound s!"container not found: {container}"))

/-- The first folder of a listing with a display name. -/
def folderNamed (items : List DriveItem) (name : String) : Option DriveItem :=
  items.find? (fun item => item.isFolder && decide (displayName item.name = some name))

/-- The first file of a listing with a display name. -/
def fileNamed (items : List DriveItem) (name : String) : Option DriveItem :=
  items.find? (fun item => !item.isFolder && decide (displayName item.name = some name))

def findChildFolderId (parent folderName : String) : Remote (Except BlobError (Option String)) :=
  if trim folderName = "" then .pure (.ok none)
  else
    andThen (ask (.list parent)) fun items =>
      .pure (.ok ((folderNamed items (trim folderName)).map DriveItem.id))

/-- The loop over the segments of a directory path. -/
def resolveChildFolders : List String → String → Remote (Except BlobError (Option String))
  | [], current => .pure (.ok (some current))
  | segment :: segments, current =>
    andThen (findChildFolderId current segment) fun child =>
      match child with
      | some child => resolveChildFolders segments child
      | none => .pure (.ok none)

def resolveChildDirectoryPathIfExists (parent directoryPath : String) :
    Remote (Except BlobError (Option String)) :=
  let normalized := normalizeObjectKey directoryPath
  if normalized = "" then .pure (.ok (some parent))
  else resolveChildFolders (walkSegments normalized) parent

def resolveContainerRootFolderId (account : MobileAccount) (container : String) :
    Remote (Except BlobError (Option String)) :=
  andThen (nativeRootFolderIdForContainer account container) fun nativeRoot =>
    andThen (.pure (managedContainerRoot account.paths container)) fun managedRoot =>
      resolveChildDirectoryPathIfExists nativeRoot managedRoot

/-- The folder of a normalized key, below the folder of its container, and its file name. -/
def resolveParent (root normalizedKey : String) :
    Remote (Except BlobError (Option String × String)) :=
  match rsplitOnce '/' normalizedKey with
  | some (parentPath, fileName) =>
    andThen (resolveChildDirectoryPathIfExists root parentPath) fun parent =>
      .pure (.ok (parent, fileName))
  | none => .pure (.ok (some root, normalizedKey))

def resolveObjectEntry (account : MobileAccount) (container key : String) :
    Remote (Except BlobError DriveItem) :=
  let normalizedKey := normalizeObjectKey key
  let missing := BlobError.notFound s!"object not found: {container}/{normalizedKey}"
  andThen (.pure (ensureNonEmpty normalizedKey "object key")) fun _ =>
    andThen (resolveContainerRootFolderId account container) fun root =>
      match root with
      | none => .pure (.error missing)
      | some root =>
        andThen (resolveParent root normalizedKey) fun resolved =>
          match resolved.1 with
          | none => .pure (.error missing)
          | some parent =>
            andThen (ask (.list parent)) fun items =>
              match fileNamed items resolved.2 with
              | some entry => .pure (.ok entry)
              | none => .pure (.error missing)

/-- The folder with its id, and the id again if the folder is new. -/
def ensureFolder (parent folderName : String) :
    Remote (Except BlobError (String × Option String)) :=
  andThen (findChildFolderId parent folderName) fun existing =>
    match existing with
    | some existing => .pure (.ok (existing, none))
    | none =>
      andThen (ask (.createFolder folderName parent)) fun created =>
        .pure (.ok (created, some created))

/-- The loop over the segments of a folder path, with the folders that it made. -/
def ensureFolders : List String → String → List String →
    Remote (Except BlobError (String × List String))
  | [], parent, created => .pure (.ok (parent, created))
  | segment :: segments, parent, created =>
    andThen (ensureFolder parent segment) fun next =>
      ensureFolders segments next.1 (created ++ next.2.toList)

/-- Where an object is to stand: its folder, its file name, and the folders made for it. -/
structure ManagedParent where
  parentId : String
  fileName : String
  createdFolders : List String
  deriving DecidableEq, Repr

def ensureManagedParentFolderId (account : MobileAccount) (container key : String) :
    Remote (Except BlobError ManagedParent) :=
  andThen (nativeRootFolderIdForContainer account container) fun nativeRoot =>
    andThen (.pure (managedObjectKey account.paths container key)) fun managedKey =>
      match rsplitOnce '/' managedKey with
      | none => .pure (.ok ⟨nativeRoot, managedKey, []⟩)
      | some (parentPath, fileName) =>
        andThen (ensureFolders (walkSegments parentPath) nativeRoot []) fun ensured =>
          .pure (.ok ⟨ensured.1, fileName, ensured.2⟩)

/-! ## Section 4: Undoing -/

/-- The loop of `cleanup_created_folders`, over the folders from the innermost. -/
def cleanupFrom : List String → Remote (Except BlobError Unit)
  | [] => .pure (.ok ())
  | folder :: folders =>
    andThen (undo (.list folder)) fun items =>
      if items.isEmpty then andThen (undo (.batchDelete folder)) fun _ => cleanupFrom folders
      else cleanupFrom folders

def cleanupCreatedFolders (created : List String) : Remote (Except BlobError Unit) :=
  cleanupFrom created.reverse

def cleanupNote (outcome : Except BlobError Unit) : String :=
  match outcome with
  | .ok _ => "created-folder cleanup succeeded"
  | .error error =>
    let text := error.display
    s!"created-folder cleanup failed: {text}"

/-- What is done when the renaming of a file failed: the file goes back to its old folder, if it
was moved, and the folders that were made for it go. -/
def rollBack (action fileId : String) (sourceParent : Option String) (created : List String)
    (error : BlobError) : Remote BlobError :=
  let failure := error.display
  match sourceParent with
  | some sourceParent =>
    (undo (.batchMove fileId sourceParent)).bind fun moved =>
      (cleanupCreatedFolders created).bind fun cleaned =>
        let note := cleanupNote cleaned
        match moved with
        | .ok _ => .pure (.upstream s!"China Mobile {action} partially moved the object before file/update failed: {failure}; remote parent rollback succeeded; {note}")
        | .error rollbackError =>
          let second := rollbackError.display
          .pure (.upstream s!"China Mobile {action} partially moved the object before file/update failed: {failure}; remote parent rollback also failed: {second}; {note}")
  | none =>
    (cleanupCreatedFolders created).bind fun cleaned =>
      let note := cleanupNote cleaned
      .pure (.upstream s!"{failure}; {note}")

/-! ## Section 5: The actions -/

def splitParentAndName (key : String) : Except BlobError (Option String × String) :=
  let normalized := normalizeObjectKey key
  if normalized = "" then .error (.notFound "object key is empty")
  else
    match rsplitOnce '/' normalized with
    | some (parent, name) =>
      if trim name ≠ "" then .ok (some parent, name)
      else .error (.notFound "object key is empty")
    | none => .ok (none, normalized)

def updateFileName (fileId newName : String) : Remote (Except BlobError Unit) :=
  andThen (.pure (ensureNonEmpty newName "China Mobile target file name")) fun _ =>
    ask (.update fileId newName)

/-- The second half of renaming and moving: the name, unless it is right already. -/
def renameEntry (action : String) (entry : DriveItem) (targetName : String)
    (sourceParent : Option String) (created : List String) : Remote (Except BlobError Unit) :=
  if displayName entry.name = some targetName then .pure (.ok ())
  else
    attempt (updateFileName entry.id targetName)
      (rollBack action entry.id sourceParent created) fun _ => .pure (.ok ())

/-- A container and a key. -/
structure ObjectPlace where
  container : String
  key : String

/-- What `rename_object` and `move_object` share: the file goes to its new folder, if that is
another one, and then gets its new name. -/
def relocate (account : MobileAccount) (action : String) (source destination : ObjectPlace)
    (entry : DriveItem) (apart : Bool) (targetName : String) : Remote (Except BlobError Unit) :=
  if apart then
    andThen (ensureManagedParentFolderId account source.container source.key) fun old =>
      andThen (ensureManagedParentFolderId account destination.container destination.key)
        fun new =>
          andThen (ask (.batchMove entry.id new.parentId)) fun _ =>
            renameEntry action entry targetName (some old.parentId) new.createdFolders
  else renameEntry action entry targetName none []

structure RenameObjectRequest where
  container : String
  key : String
  newKey : String

def renameObject (account : MobileAccount) (request : RenameObjectRequest) :
    Remote (Except BlobError Unit) :=
  andThen (resolveObjectEntry account request.container request.key) fun entry =>
    andThen (.pure (splitParentAndName request.key)) fun source =>
      andThen (.pure (splitParentAndName request.newKey)) fun target =>
        relocate account "rename" ⟨request.container, request.key⟩
          ⟨request.container, request.newKey⟩ entry (decide (source.1 ≠ target.1)) target.2

structure MoveObjectRequest where
  source : ObjectPlace
  destination : ObjectPlace

def moveObject (account : MobileAccount) (request : MoveObjectRequest) :
    Remote (Except BlobError Unit) :=
  andThen (resolveObjectEntry account request.source.container request.source.key) fun entry =>
    andThen (.pure (splitParentAndName request.source.key)) fun source =>
      andThen (.pure (splitParentAndName request.destination.key)) fun target =>
        relocate account "move" request.source request.destination entry
          (decide (request.source.container ≠ request.destination.container) ||
            decide (source.1 ≠ target.1)) target.2

/-- What `copy_object` does once the source is known to be copyable. -/
def copyEntry (account : MobileAccount) (destination : ObjectPlace) (entry : DriveItem) :
    Remote (Except BlobError Unit) :=
  andThen (ensureManagedParentFolderId account destination.container destination.key) fun new =>
    attempt (ask (.batchCopy entry.id new.parentId))
      (fun error =>
        (cleanupCreatedFolders new.createdFolders).bind fun cleaned =>
          let failure := error.display
          let note := cleanupNote cleaned
          .pure (.upstream s!"{failure}; {note}"))
      fun _ => .pure (.ok ())

def copyObject (account : MobileAccount) (request : MoveObjectRequest) :
    Remote (Except BlobError Unit) :=
  if account.copyConfigured then
    andThen (.pure (managedObjectKey account.paths request.source.container request.source.key))
      fun source =>
    andThen (.pure (managedObjectKey account.paths request.destination.container
      request.destination.key)) fun destination =>
    andThen (.pure (splitParentAndName request.destination.key)) fun target =>
    if request.source.container ≠ request.destination.container then
      .pure (.error (.notImplemented s!"China Mobile native copy does not support cross-container copies yet: source={source} destination={destination}"))
    else
      andThen (nativeRootFolderIdForContainer account request.source.container) fun sourceRoot =>
      andThen (nativeRootFolderIdForContainer account request.destination.container)
        fun destinationRoot =>
      if sourceRoot ≠ destinationRoot then
        .pure (.error (.notImplemented s!"China Mobile native copy does not support cross-scope roots yet: source={source} destination={destination}"))
      else
        andThen (resolveObjectEntry account request.source.container request.source.key)
          fun entry =>
        match displayName entry.name with
        | none => .pure (.error (.upstream
            "China Mobile file/list returned a file without a name"))
        | some sourceName =>
          if sourceName ≠ target.2 then
            .pure (.error (.notImplemented s!"China Mobile native copy with rename is not supported yet: source={source} destination={destination}"))
          else copyEntry account request.destination entry
  else .pure (.error (.notImplemented "China Mobile native copy is unavailable because capability file_batch_copy is not configured"))

/-- The deletions of `delete_child_files_by_name`, one after another. -/
def deleteFiles : List String → Remote (Except BlobError Unit)
  | [] => .pure (.ok ())
  | fileId :: fileIds => andThen (ask (.batchDelete fileId)) fun _ => deleteFiles fileIds

/-- The files of a folder with a display name. -/
def filesNamed (items : List DriveItem) (name : String) : List DriveItem :=
  items.filter (fun item => !item.isFolder && decide (displayName item.name = some name))

/-- How many files of the name were deleted. -/
def deleteChildFilesByName (parent fileName : String) : Remote (Except BlobError Nat) :=
  if trim fileName = "" then .pure (.ok 0)
  else
    andThen (ask (.list parent)) fun items =>
      let fileIds := (filesNamed items (trim fileName)).map DriveItem.id
      andThen (deleteFiles fileIds) fun _ => .pure (.ok fileIds.length)

end Netdisk2Blob.Providers.Mobile.Actions
