import Netdisk2Blob.Providers.Mobile
import Netdisk2Blob.Providers.Telecom
import Netdisk2Blob.Providers.OneDrive
import Netdisk2Blob.Library.PagedFolders
import Netdisk2Blob.Library.FirstInOrder

/-!
# Listings with a Prefix and a Limit

The `list_objects` calls of the Mobile, the Telecom and the OneDrive adapter on drives whose
folders come in pages. The first two keep a map from keys to objects that is cut to the limit
after every insertion; the third collects, sorts and truncates. All three compare keys with a
normalised prefix, and the first two skip folders that cannot hold it.

The folder of a container is a parameter: it is what the walk along the managed root answers.
Left out of the items are the content type and the time of the last change.

## Contents

- `Mobile`, `Telecom`, `OneDrive`: the items, the listers and the calls
- `objectMap_rows`: a map that is cut all the time ends as the cut of the whole map
- `Answers`, `Agree`: what a listing should return, and when the keys allow it
- `telecom_keeps_way`: the folders that the Telecom listing skips hold no object to list
- `list_objects_iff`: when each of the three calls returns what it should
- `telecom_listing_exact`: the keys of a Telecom listing, whatever is on the drive
-/

namespace Netdisk2Blob.Providers.Pages

open Library Text Library.Paged Blob

/-- The size and the tag of an object, as a listing shows them. -/
structure Listed where
  size : Nat
  etag : Option String
  deriving DecidableEq, Repr

/-- The trimmed text, unless it is missing or blank. -/
def nonBlank (value : Option String) : Option String := value.bind displayName

/-! ## Section 1: The Mobile adapter -/

namespace Mobile

structure MobileListItem where
  fileId : Option String
  name : Option String
  itemType : Option String
  size : Option Nat
  deriving DecidableEq, Repr

namespace MobileListItem

def isFolder (item : MobileListItem) : Bool := decide (item.itemType = some "folder")

def id (item : MobileListItem) : Option String := nonBlank item.fileId

def displayName (item : MobileListItem) : Option String := nonBlank item.name

def toObjectInfo (item : MobileListItem) (key : String) : ObjectInfo Listed :=
  ⟨key, item.size.getD 0, item.fileId⟩

end MobileListItem

def kind (item : MobileListItem) : Kind String :=
  if item.isFolder then .folder item.id else .file

/-- A page leads to the next one by a cursor that is not blank. -/
def view : View MobileListItem where
  name := MobileListItem.displayName
  join := Mobile.joinRelativeKey
  continues := fun page => (nonBlank page.continuation).isSome

def lister (keyPrefix : Option String) : Lister BlobError kind where
  toView := view
  nameless := fun item =>
    if item.isFolder then .upstream "China Mobile file/list returned a folder without a name"
    else .upstream "China Mobile file/list returned a file without a name"
  idless := .upstream "China Mobile file/list returned a folder without an id"
  keepFolder := fun key => keyPrefix.all (Mobile.directoryMayContainPrefix key)
  keepFile := Mobile.startsWith keyPrefix
  foldersFirst := false

/-- The container that a request names, or the root. -/
def requestContainer (request : ListObjectsRequest) : String :=
  ((request.container.map trim).filter (fun value => decide (value ≠ ""))).getD "root"

def listScopeObjects (resolveContainerRootFolderId : String → Except BlobError (Option String))
    (drive : PagedDrive kind) (request : ListObjectsRequest) :
    Except BlobError (List (ObjectInfo Listed)) :=
  let container := requestContainer request
  if container ≠ "root" ∧ container ≠ "family" then
    .error (.notFound s!"container not found: {container}")
  else do
    let normalizedPrefix := request.keyPrefix.map Mobile.normalizeObjectKey
    match ← resolveContainerRootFolderId container with
    | none => return []
    | some root => do
      let found ← walk (lister normalizedPrefix) drive [(root, "")] []
      return (objectMap request.limit
        (found.map (fun entry => entry.2.toObjectInfo entry.1))).rows

end Mobile

/-! ## Section 2: The Telecom adapter -/

namespace Telecom

structure TelecomFolderEntry where
  id : Option String
  name : Option String
  fileName : Option String
  deriving DecidableEq, Repr

structure TelecomFileEntry where
  name : Option String
  fileName : Option String
  size : Option Nat
  fileSize : Option Nat
  md5 : Option String
  deriving DecidableEq, Repr

/-- An entry of one of the two lists of a page. -/
inductive TelecomEntry where
  | folder (entry : TelecomFolderEntry)
  | file (entry : TelecomFileEntry)
  deriving DecidableEq, Repr

namespace TelecomEntry

/-- A name that is there but blank does not give way to the file name. -/
def displayName : TelecomEntry → Option String
  | .folder entry => nonBlank (entry.name.or entry.fileName)
  | .file entry => nonBlank (entry.name.or entry.fileName)

def toObjectInfo (key : String) : TelecomEntry → ObjectInfo Listed
  | .file entry => ⟨key, (entry.size.or entry.fileSize).getD 0, entry.md5⟩
  | .folder _ => ⟨key, 0, none⟩

end TelecomEntry

def kind : TelecomEntry → Kind String
  | .folder entry => .folder (nonBlank entry.id)
  | .file _ => .file

def defaultPageSize : Nat := 60

def pageSize (configured : Nat) : Nat := if configured = 0 then defaultPageSize else configured

/-- Another page is asked for behind a page that is full. -/
def view (configured : Nat) : View TelecomEntry where
  name := TelecomEntry.displayName
  join := Telecom.joinRelativeKey
  continues := fun page => decide (pageSize configured ≤ page.items.length)

def nameless : TelecomEntry → BlobError
  | .folder _ => .upstream "listFiles.action returned a folder without a name"
  | .file _ => .upstream "listFiles.action returned a file without a name"

def lister (configured : Nat) (keyPrefix : Option String) : Lister BlobError kind where
  toView := view configured
  nameless := nameless
  idless := .upstream "listFiles.action returned a folder without an id"
  keepFolder := fun key => keyPrefix.all (Telecom.directoryMayContainPrefix key)
  keepFile := Telecom.startsWith keyPrefix
  foldersFirst := true

def listObjectsInRoot (configured : Nat) (config : Telecom.TelecomConfig)
    (resolveScopeContainerRootFolderId : String → Except BlobError (Option String))
    (drive : PagedDrive kind) (container : String) (request : ListObjectsRequest) :
    Except BlobError (List (ObjectInfo Listed)) :=
  if request.limit = some 0 then .ok []
  else do
    let _ ← Telecom.containerScope config container
    let normalizedPrefix := request.keyPrefix.map Telecom.normalizeObjectKey
    match ← resolveScopeContainerRootFolderId container with
    | none => return []
    | some root => do
      let found ← walk (lister configured normalizedPrefix) drive [(root, "")] []
      return (objectMap request.limit
        (found.map (fun entry => entry.2.toObjectInfo entry.1))).rows

def listObjects (configured : Nat) (config : Telecom.TelecomConfig)
    (resolveScopeContainerRootFolderId : String → Except BlobError (Option String))
    (drive : PagedDrive kind) (request : ListObjectsRequest) :
    Except BlobError (List (ObjectInfo Listed)) :=
  match request.container with
  | none => .ok []
  | some container => do
    Telecom.validateContainer config container
    listObjectsInRoot configured config resolveScopeContainerRootFolderId drive container request

end Telecom

/-! ## Section 3: The OneDrive adapter -/

namespace OneDrive

structure DriveItemResponse where
  id : String
  name : Option String
  size : Option Nat
  etag : Option String
  /-- the item has the facet of a file -/
  file : Bool
  /-- the item has the facet of a folder -/
  folder : Bool
  deriving DecidableEq, Repr

def DriveItemResponse.toObjectInfo (item : DriveItemResponse) (key : String) :
    ObjectInfo Listed :=
  ⟨key, item.size.getD 0, item.etag⟩

/-- What has neither facet, a notebook for instance, is not an object. -/
def kind (item : DriveItemResponse) : Kind String :=
  if item.folder then .folder (some item.id) else if item.file then .file else .other

def view : View DriveItemResponse where
  name := DriveItemResponse.name
  join := OneDrive.joinRelativeKey
  continues := fun page => page.continuation.isSome

def lister (keyPrefix : Option String) : Lister BlobError kind where
  toView := view
  nameless := fun _ => .upstream "OneDrive item is missing a name"
  -- every item has an id
  idless := .upstream "OneDrive item is missing a name"
  keepFolder := fun _ => true
  keepFile := OneDrive.startsWith keyPrefix
  foldersFirst := false

def listObjects (config : OneDrive.OneDriveConfig)
    (resolveContainerFolder : String → Except BlobError String) (drive : PagedDrive kind)
    (request : ListObjectsRequest) : Except BlobError (List (ObjectInfo Listed)) := do
  OneDrive.ensureEnabled config
  match request.container with
  | none => return []
  | some container => do
    let normalizedPrefix := request.keyPrefix.map OneDrive.normalizePath
    let folder ← resolveContainerFolder container
    let found ← walk (lister normalizedPrefix) drive [(folder, "")] []
    let objects := (found.map (fun entry => entry.2.toObjectInfo entry.1)).insertionSort
      (fun left right => left.key ≤ right.key)
    return takeLimit request.limit objects

end OneDrive

/-! ## Section 4: The map of a listing -/

variable {Location : Type}

/-- Cutting before and after an insertion is cutting after it. -/
theorem take_insertRow {α κ : Type} [LinearOrder κ] {key : α → κ} (a : α) (rows : List α)
    (n : Nat) :
    (Table.insertRow key a (rows.take n)).take n = (Table.insertRow key a rows).take n := by
  induction rows generalizing n with
  | nil => simp
  | cons b rows ih =>
      cases n with
      | zero => simp
      | succ n =>
          rw [List.take_succ_cons, Table.insertRow, Table.insertRow]
          split
          · -- the new row comes in front of the rest, which is cut one row earlier
            have hcut : (b :: rows.take n).take n = (b :: rows).take n := by
              rw [← List.take_succ_cons, List.take_take, Nat.min_eq_left (Nat.le_succ n)]
            rw [List.take_succ_cons, List.take_succ_cons, hcut]
          · split
            · rw [List.take_succ_cons, List.take_succ_cons, ih]
            · rw [List.take_succ_cons, List.take_succ_cons, List.take_take, Nat.min_self]

/-- The map that is cut after every insertion ends as the whole map cut once. -/
theorem objectMap_rows (limit : Option Nat) (found : List (ObjectInfo Location)) :
    (objectMap limit found).rows = takeLimit limit (objectMap none found).rows := by
  induction found using List.reverseRecOn with
  | nil =>
      cases limit with
      | none => rfl
      | some n => exact (List.take_nil).symm
  | append_singleton found info ih =>
      have hstep : ∀ limit : Option Nat, objectMap limit (found ++ [info]) =
          insertObject limit (objectMap limit found) info := by
        intro limit
        rw [objectMap, List.foldl_append]
        rfl
      rw [hstep limit, hstep none]
      cases limit with
      | none => rfl
      | some n =>
          show (Table.insertRow ObjectInfo.key info (objectMap (some n) found).rows).take n = _
          rw [ih]
          exact take_insertRow info (objectMap none found).rows n

theorem mem_objectMap {found : List (ObjectInfo Location)} {info : ObjectInfo Location}
    (h : info ∈ objectMap none found) : info ∈ found := by
  have hrow : (objectMap none found).find? info.key = some info :=
    Table.find?_eq_some.mpr ⟨h, rfl⟩
  rw [find?_objectMap] at hrow
  exact (List.mem_filter.mp (List.mem_of_getLast? hrow)).1

/-- The keys of the map are the keys that were inserted, each once. -/
theorem objectMap_keys (found : List (ObjectInfo Location)) :
    (objectMap none found).rows.map ObjectInfo.key =
      ((found.map ObjectInfo.key).dedup).insertionSort (· ≤ ·) := by
  have hperm := List.perm_insertionSort (· ≤ ·) (found.map ObjectInfo.key).dedup
  have hmem : ∀ key, key ∈ (objectMap none found).rows.map ObjectInfo.key ↔
      key ∈ (found.map ObjectInfo.key).dedup := by
    intro key
    rw [List.mem_dedup]
    constructor
    · intro h
      obtain ⟨info, hinfo, rfl⟩ := List.mem_map.mp h
      exact List.mem_map_of_mem (mem_objectMap hinfo)
    · intro h
      obtain ⟨info, hinfo, rfl⟩ := List.mem_map.mp h
      -- the key shows what was inserted last
      have hne : found.filter (fun other => decide (other.key = info.key)) ≠ [] :=
        List.ne_nil_of_mem (List.mem_filter.mpr ⟨hinfo, decide_eq_true rfl⟩)
      have hrow := find?_objectMap found info.key
      rw [List.getLast?_eq_some_getLast hne] at hrow
      obtain ⟨hshown, hkey⟩ := Table.find?_eq_some.mp hrow
      exact List.mem_map.mpr ⟨_, hshown, hkey⟩
  have hkeys : ((objectMap none found).rows.map ObjectInfo.key).Perm
      (((found.map ObjectInfo.key).dedup).insertionSort (· ≤ ·)) :=
    ((List.perm_ext_iff_of_nodup (Table.nodup_keys _) (List.nodup_dedup _)).mpr hmem).trans
      hperm.symm
  apply hkeys.eq_of_pairwise (fun a b _ _ hab hba => le_antisymm hab hba)
  · rw [List.pairwise_map]
    exact (objectMap none found).sorted.imp (fun hlt => hlt.le)
  · exact List.pairwise_insertionSort (· ≤ ·) _

/-! ## Section 5: What a listing should return -/

section

variable {I : Type} {kind : I → Kind String}

/-- All objects below the folder of a container, as a listing shows them. -/
def files (view : View I) (info : I → String → ObjectInfo Listed) (drive : PagedDrive kind)
    (root : String) : List (ObjectInfo Listed) :=
  (objects view drive root "").map (fun object => info object.item object.key)

/-- The keys of all objects below the folder. -/
def allKeys (view : View I) (drive : PagedDrive kind) (root : String) : List String :=
  (objects view drive root "").map Placed.key

/-- The keys of the objects that the tests of the client accept. -/
def acceptedKeys (l : Lister BlobError kind) (drive : PagedDrive kind) (root : String) :
    List String :=
  ((objects l.toView drive root "").filter (accepted l)).map Placed.key

/-- The key starts with the prefix of the request, as it was given. -/
def requested (request : ListObjectsRequest) (key : String) : Bool :=
  request.keyPrefix.all (fun keyPrefix => keyPrefix.toList.isPrefixOf key.toList)

/-- The result is the first objects, up to the limit and in the order of the keys, of those
whose key starts with the prefix. -/
def Answers (request : ListObjectsRequest) (all : List (ObjectInfo Listed))
    (result : Except BlobError (List (ObjectInfo Listed))) : Prop :=
  ∃ first, result = .ok first ∧
    FirstOf ObjectInfo.key request.limit (all.filter (fun info => requested request info.key)) first

/-- Up to the limit, each key is shown as often as it is among the keys with the prefix. -/
def Agree (request : ListObjectsRequest) (all shown : List String) : Prop :=
  ∀ key, room request.limit (smaller (all.filter (requested request)) key) (shown.count key) =
    room request.limit (smaller (all.filter (requested request)) key)
      ((all.filter (requested request)).count key)

/-- A listing that presents some of what the loop finds, with the first of its keys. -/
theorem answers_walk_iff {l : Lister BlobError kind} {info : I → String → ObjectInfo Listed}
    (hinfo : ∀ item key, (info item key).key = key) {request : ListObjectsRequest}
    {present : List (ObjectInfo Listed) → List (ObjectInfo Listed)}
    {shown : List String → List String}
    (hsub : ∀ found, (present found).Subperm found)
    (hkeys : ∀ found, (present found).map ObjectInfo.key =
      takeLimit request.limit ((shown (found.map ObjectInfo.key)).insertionSort (· ≤ ·)))
    (hshown : ∀ keys keys' : List String, keys.Perm keys' → (shown keys).Perm (shown keys'))
    (drive : PagedDrive kind) (root : String) :
    Answers request (files l.toView info drive root)
        ((walk l drive [(root, "")] []).map
          (fun found => present (found.map (fun entry => info entry.2 entry.1)))) ↔
      Readable l drive root "" ∧
        Agree request (allKeys l.toView drive root) (shown (acceptedKeys l drive root)) := by
  rcases walk_spec l drive root "" with ⟨found, hwalk, hperm, hreadable⟩ | ⟨error, hwalk, hnot⟩
  · rw [hwalk]
    have hfound : (found.map (fun entry => info entry.2 entry.1)).Perm
        (((objects l.toView drive root "").filter (accepted l)).map
          (fun object => info object.item object.key)) := by
      have hmap := hperm.map (fun entry => info entry.2 entry.1)
      rw [listed, List.map_map] at hmap
      exact hmap
    have hfoundKeys : ((found.map (fun entry => info entry.2 entry.1)).map ObjectInfo.key).Perm
        (acceptedKeys l drive root) := by
      have hsame : (((objects l.toView drive root "").filter (accepted l)).map
          (fun object => info object.item object.key)).map ObjectInfo.key =
            acceptedKeys l drive root := by
        rw [acceptedKeys, List.map_map]
        exact List.map_congr_left (fun object _ => hinfo object.item object.key)
      rw [← hsame]
      exact hfound.map ObjectInfo.key
    have hall : (files l.toView info drive root).map ObjectInfo.key =
        allKeys l.toView drive root := by
      rw [files, List.map_map]
      exact List.map_congr_left (fun object _ => hinfo object.item object.key)
    have hpresent : (present (found.map (fun entry => info entry.2 entry.1))).Subperm
        (files l.toView info drive root) :=
      ((hsub _).trans hfound.subperm).trans (List.filter_sublist.map _).subperm
    have hfirst := @firstOf_filter_iff _ _ _ ObjectInfo.key request.limit _ _
      (shown (acceptedKeys l drive root)) (requested request) hpresent
      (by rw [hkeys, sort_eq_of_perm (hshown _ _ hfoundKeys)])
    rw [hall] at hfirst
    constructor
    · intro h
      obtain ⟨first, heq, hanswer⟩ := h
      obtain rfl := Except.ok.inj heq
      exact ⟨hreadable, hfirst.mp hanswer⟩
    · intro h
      exact ⟨_, rfl, hfirst.mpr h.2⟩
  · -- an error is not an answer
    rw [hwalk]
    refine iff_of_false ?_ (fun h => hnot h.1)
    intro h
    obtain ⟨first, heq, -⟩ := h
    cases heq

/-- A map that is cut to the limit shows each key once. -/
theorem answers_objectMap_iff {l : Lister BlobError kind} {info : I → String → ObjectInfo Listed}
    (hinfo : ∀ item key, (info item key).key = key) (request : ListObjectsRequest)
    (drive : PagedDrive kind) (root : String) :
    Answers request (files l.toView info drive root)
        ((walk l drive [(root, "")] []).map (fun found =>
          (objectMap request.limit (found.map (fun entry => info entry.2 entry.1))).rows)) ↔
      Readable l drive root "" ∧
        Agree request (allKeys l.toView drive root) (acceptedKeys l drive root).dedup := by
  apply @answers_walk_iff _ _ _ _ hinfo request
    (fun found => (objectMap request.limit found).rows) List.dedup
  · intro found
    rw [objectMap_rows]
    apply (takeLimit_sublist _ _).subperm.trans
    exact (Table.nodup_rows _).subperm (fun info hinfo => mem_objectMap hinfo)
  · intro found
    rw [objectMap_rows, takeLimit_map, objectMap_keys]
  · exact fun keys keys' hperm => hperm.dedup

/-- A list that is sorted and cut shows each key as often as it was found. -/
theorem answers_sort_iff {l : Lister BlobError kind} {info : I → String → ObjectInfo Listed}
    (hinfo : ∀ item key, (info item key).key = key) (request : ListObjectsRequest)
    (drive : PagedDrive kind) (root : String) :
    Answers request (files l.toView info drive root)
        ((walk l drive [(root, "")] []).map (fun found =>
          takeLimit request.limit ((found.map (fun entry => info entry.2 entry.1)).insertionSort
            (fun left right => left.key ≤ right.key)))) ↔
      Readable l drive root "" ∧
        Agree request (allKeys l.toView drive root) (acceptedKeys l drive root) := by
  have hfirst : ∀ found : List (ObjectInfo Listed), FirstOf ObjectInfo.key request.limit found
      (takeLimit request.limit (found.insertionSort (fun left right => left.key ≤ right.key))) := by
    intro found
    exact ⟨_, List.perm_insertionSort _ found, List.pairwise_insertionSort
      (fun left right : ObjectInfo Listed => left.key ≤ right.key) found, rfl⟩
  apply @answers_walk_iff _ _ _ _ hinfo request
    (fun found => takeLimit request.limit
      (found.insertionSort (fun left right => left.key ≤ right.key))) id
  · exact fun found => (firstOf_iff.mp (hfirst found)).1
  · exact fun found => (firstOf_iff.mp (hfirst found)).2
  · exact fun keys keys' hperm => hperm

end

/-! ## Section 6: What skipping folders loses -/

section

variable {I : Type} {kind : I → Kind String}

/-- No name of the drive holds a slash. -/
def SlashFree (view : View I) (drive : PagedDrive kind) : Prop :=
  ∀ folder, ∀ item ∈ (drive.pages folder).flatMap Page.items, ∀ name,
    view.name item = some name → IsSegment name

/-- Keys are joined segment by segment. -/
def JoinsKeys (view : View I) : Prop :=
  ∀ segments name, AreSegments segments → IsSegment name →
    view.join (joinKey segments) name = joinKey (segments ++ [name])

/-- The key of an object goes on behind the key of each folder on its way. -/
theorem folders_of_mem_objects {view : View I} {drive : PagedDrive kind}
    (hnames : SlashFree view drive) (hjoin : JoinsKeys view) {folder folderKey : String}
    {segments : List String} (hsegments : AreSegments segments)
    (hkey : folderKey = joinKey segments) {object : Placed I}
    (hobject : object ∈ objects view drive folder folderKey) :
    ∃ labels, labels ≠ [] ∧ object.key = joinKey (segments ++ labels) ∧
      ∀ above ∈ object.folders, ∃ way rest, rest ≠ [] ∧ way ≠ [] ∧ labels = way ++ rest ∧
        above = joinKey (segments ++ way) := by
  -- the tree is finite: the child folders are smaller
  induction hsize : drive.size folder using Nat.strong_induction_on
    generalizing folder folderKey segments object with
  | _ size ih =>
      subst hkey
      rw [objects_eq] at hobject
      obtain ⟨entry, hentry, hplaced⟩ := List.mem_flatMap.mp hobject
      have hitem : entry.2 ∈ (drive.pages folder).flatMap Page.items := by
        rw [← marked_items view.continues true]
        exact List.mem_map_of_mem hentry
      rw [placed] at hplaced
      cases hname : view.name entry.2 with
      | none =>
          rw [hname] at hplaced
          exact absurd hplaced List.not_mem_nil
      | some name =>
          have hsegment : IsSegment name := hnames folder entry.2 hitem name hname
          have hjoined := hjoin segments name hsegments hsegment
          simp only [hname, hjoined] at hplaced
          cases hkind : kind entry.2 with
          | folder id =>
              cases id with
              | none =>
                  rw [hkind] at hplaced
                  exact absurd hplaced List.not_mem_nil
              | some id =>
                  rw [hkind] at hplaced
                  obtain ⟨inner, hinner, rfl⟩ := List.mem_map.mp hplaced
                  have hdeeper : AreSegments (segments ++ [name]) :=
                    areSegments_append.mpr ⟨hsegments, areSegments_singleton.mpr hsegment⟩
                  obtain ⟨labels, hne, hinnerKey, hway⟩ :=
                    ih _ (hsize ▸ size_child_lt hentry hkind) hdeeper rfl hinner rfl
                  refine ⟨name :: labels, List.cons_ne_nil _ _, ?_, ?_⟩
                  · rw [← List.append_cons] at hinnerKey
                    exact hinnerKey
                  · intro above habove
                    rcases List.mem_cons.mp habove with rfl | habove
                    · exact ⟨[name], labels, hne, List.cons_ne_nil _ _, rfl, rfl⟩
                    · obtain ⟨way, rest, hrest, -, rfl, rfl⟩ := hway above habove
                      refine ⟨name :: way, rest, hrest, List.cons_ne_nil _ _, rfl, ?_⟩
                      rw [← List.append_cons]
          | file =>
              rw [hkind] at hplaced
              obtain rfl := List.mem_singleton.mp hplaced
              exact ⟨[name], List.cons_ne_nil _ _, rfl, fun _ hmem => absurd hmem List.not_mem_nil⟩
          | other =>
              rw [hkind] at hplaced
              exact absurd hplaced List.not_mem_nil

end

/-- The Telecom listing skips no folder of an object whose key starts with the prefix. -/
theorem telecom_keeps_way {configured : Nat} {drive : PagedDrive Telecom.kind}
    (hnames : SlashFree (Telecom.view configured) drive) {keyPrefix : Option String} {root : String}
    {object : Placed Telecom.TelecomEntry}
    (hobject : object ∈ objects (Telecom.view configured) drive root "") :
    accepted (Telecom.lister configured keyPrefix) object =
      (object.shown && Telecom.startsWith keyPrefix object.key) := by
  have hkeep : Telecom.startsWith keyPrefix object.key = true →
      object.folders.all (Telecom.lister configured keyPrefix).keepFolder = true := by
    intro hstarts
    obtain ⟨labels, -, hkey, hway⟩ := folders_of_mem_objects hnames
      (fun segments name hsegments hname => joinTrimmed_joinKey hsegments hname)
      (fun _ hmem => absurd hmem List.not_mem_nil) joinKey_nil.symm hobject
    rw [List.all_eq_true]
    intro above habove
    obtain ⟨way, rest, hrest, hne, rfl, rfl⟩ := hway above habove
    cases keyPrefix with
    | none => rfl
    | some keyPrefix =>
        rw [List.nil_append, joinKey_append hne hrest] at hkey
        have hbelow : (joinKey way ++ "/").toList <+: object.key.toList := by
          rw [hkey]
          exact ⟨(joinKey rest).toList, by simp⟩
        have hasked : keyPrefix.toList <+: object.key.toList :=
          List.isPrefixOf_iff_prefix.mp hstarts
        -- both lead to the key, so that one of them leads to the other
        have htoList : (joinKey way ++ "/").toList = (joinKey way).toList ++ ['/'] := by simp
        have hmay : (joinKey way ++ "/").toList <+: keyPrefix.toList ∨
            keyPrefix.toList <+: (joinKey way).toList := by
          rcases List.prefix_or_prefix_of_prefix hbelow hasked with habovePrefix | hinside
          · exact Or.inl habovePrefix
          · rw [htoList, List.prefix_concat_iff] at hinside
            rcases hinside with heq | hinside
            · exact Or.inl (by rw [heq, htoList])
            · exact Or.inr hinside
        show Telecom.directoryMayContainPrefix (joinKey way) keyPrefix = true
        rw [Telecom.directoryMayContainPrefix, Bool.or_eq_true, Bool.or_eq_true]
        rcases hmay with habovePrefix | hinside
        · exact Or.inl (Or.inr (List.isPrefixOf_iff_prefix.mpr habovePrefix))
        · exact Or.inr (List.isPrefixOf_iff_prefix.mpr hinside)
  rw [accepted]
  cases hstarts : Telecom.startsWith keyPrefix object.key with
  | false =>
      have hfile : (Telecom.lister configured keyPrefix).keepFile object.key = false := hstarts
      rw [hfile, Bool.and_false, Bool.and_false]
  | true =>
      have hfile : (Telecom.lister configured keyPrefix).keepFile object.key = true := hstarts
      rw [hfile, hkeep hstarts, Bool.and_true, Bool.and_true]

/-! ## Section 7: The three calls -/

/-- Each call returns what it should exactly when the folders that it opens are readable and
its own tests show each key as often as the prefix asks for, up to the limit. -/
theorem list_objects_iff (request : ListObjectsRequest) :
    (∀ (resolve : String → Except BlobError (Option String)) (drive : PagedDrive Mobile.kind)
      (root : String), Mobile.requestContainer request ∈ ["root", "family"] →
      resolve (Mobile.requestContainer request) = .ok (some root) →
      (Answers request (files Mobile.view Mobile.MobileListItem.toObjectInfo drive root)
          (Mobile.listScopeObjects resolve drive request) ↔
        Readable (Mobile.lister (request.keyPrefix.map Mobile.normalizeObjectKey)) drive root "" ∧
          Agree request (allKeys Mobile.view drive root)
            (acceptedKeys (Mobile.lister (request.keyPrefix.map Mobile.normalizeObjectKey))
              drive root).dedup)) ∧
    (∀ (configured : Nat) (config : Telecom.TelecomConfig)
      (resolve : String → Except BlobError (Option String)) (drive : PagedDrive Telecom.kind)
      (container root : String), request.container = some container →
      Telecom.validateContainer config container = .ok () →
      resolve container = .ok (some root) →
      (Answers request (files (Telecom.view configured) (fun item key => item.toObjectInfo key)
          drive root) (Telecom.listObjects configured config resolve drive request) ↔
        request.limit = some 0 ∨
        Readable (Telecom.lister configured (request.keyPrefix.map Telecom.normalizeObjectKey))
            drive root "" ∧
          Agree request (allKeys (Telecom.view configured) drive root)
            (acceptedKeys (Telecom.lister configured
              (request.keyPrefix.map Telecom.normalizeObjectKey)) drive root).dedup)) ∧
    (∀ (config : OneDrive.OneDriveConfig) (resolve : String → Except BlobError String)
      (drive : PagedDrive OneDrive.kind) (container root : String),
      request.container = some container → OneDrive.ensureEnabled config = .ok () →
      resolve container = .ok root →
      (Answers request (files OneDrive.view OneDrive.DriveItemResponse.toObjectInfo drive root)
          (OneDrive.listObjects config resolve drive request) ↔
        Readable (OneDrive.lister (request.keyPrefix.map OneDrive.normalizePath)) drive root "" ∧
          Agree request (allKeys OneDrive.view drive root)
            (acceptedKeys (OneDrive.lister (request.keyPrefix.map OneDrive.normalizePath))
              drive root))) := by
  refine ⟨?_, ?_, ?_⟩
  · intro resolve drive root hcontainer hresolve
    have hknown : ¬ (Mobile.requestContainer request ≠ "root" ∧
        Mobile.requestContainer request ≠ "family") := by
      simp only [List.mem_cons, List.not_mem_nil, or_false] at hcontainer
      tauto
    have hresult : Mobile.listScopeObjects resolve drive request =
        (walk (Mobile.lister (request.keyPrefix.map Mobile.normalizeObjectKey)) drive
          [(root, "")] []).map (fun found => (objectMap request.limit
            (found.map (fun entry => entry.2.toObjectInfo entry.1))).rows) := by
      simp only [Mobile.listScopeObjects, if_neg hknown, hresolve]
      rfl
    rw [hresult]
    exact @answers_objectMap_iff _ _
      (Mobile.lister (request.keyPrefix.map Mobile.normalizeObjectKey))
      Mobile.MobileListItem.toObjectInfo (fun _ _ => rfl) request drive root
  · intro configured config resolve drive container root hcontainer hvalid hresolve
    obtain ⟨scope, hscope, -⟩ := except_bind_ok.mp hvalid
    by_cases hlimit : request.limit = some 0
    · -- nothing is asked for, and nothing is read
      refine iff_of_true ?_ (Or.inl hlimit)
      refine ⟨[], ?_, ?_⟩
      · simp only [Telecom.listObjects, hcontainer, hvalid, Telecom.listObjectsInRoot,
          if_pos hlimit]
        rfl
      · rw [firstOf_iff, hlimit]
        exact ⟨List.nil_subperm, rfl⟩
    · have hresult : Telecom.listObjects configured config resolve drive request =
          (walk (Telecom.lister configured (request.keyPrefix.map Telecom.normalizeObjectKey)) drive
            [(root, "")] []).map (fun found => (objectMap request.limit
              (found.map (fun entry => entry.2.toObjectInfo entry.1))).rows) := by
        simp only [Telecom.listObjects, hcontainer, hvalid, Telecom.listObjectsInRoot,
          if_neg hlimit, hscope, hresolve]
        rfl
      rw [hresult, or_iff_right hlimit]
      exact @answers_objectMap_iff _ _
        (Telecom.lister configured (request.keyPrefix.map Telecom.normalizeObjectKey))
        (fun item key => item.toObjectInfo key) (by rintro (entry | entry) key <;> rfl) request
        drive root
  · intro config resolve drive container root hcontainer henabled hresolve
    have hresult : OneDrive.listObjects config resolve drive request =
        (walk (OneDrive.lister (request.keyPrefix.map OneDrive.normalizePath)) drive
          [(root, "")] []).map (fun found => takeLimit request.limit
            ((found.map (fun entry => entry.2.toObjectInfo entry.1)).insertionSort
              (fun left right => left.key ≤ right.key))) := by
      simp only [OneDrive.listObjects, hcontainer, henabled, hresolve]
      rfl
    rw [hresult]
    exact @answers_sort_iff _ _
      (OneDrive.lister (request.keyPrefix.map OneDrive.normalizePath))
      OneDrive.DriveItemResponse.toObjectInfo (fun _ _ => rfl) request drive root

/-- The folder `photos` of a container, with one folder in it, and a picture in that one. -/
def datedPhotos : PagedDrive Mobile.kind where
  pages := fun folder =>
    if folder = "0" then [⟨[⟨some "1", some "photos", some "folder", none⟩], none⟩]
    else if folder = "1" then [⟨[⟨some "2", some "2024", some "folder", none⟩], none⟩]
    else if folder = "2" then [⟨[⟨some "3", some "a.jpg", some "file", some 5⟩], none⟩]
    else []
  size := fun folder =>
    if folder = "0" then 4 else if folder = "1" then 3 else if folder = "2" then 2 else 1
  size_children := by
    intro folder
    split_ifs <;> decide

/-- With the prefix `photos` the Mobile listing does not open the folder of the picture. -/
theorem photos_below_prefix_missing :
    ¬ Answers ⟨some "root", some "photos", none⟩
      (files Mobile.view Mobile.MobileListItem.toObjectInfo datedPhotos "0")
      (Mobile.listScopeObjects (fun _ => .ok (some "0")) datedPhotos
        ⟨some "root", some "photos", none⟩) := by
  have hall : files Mobile.view Mobile.MobileListItem.toObjectInfo datedPhotos "0" =
      [⟨"photos/2024/a.jpg", ⟨5, some "3"⟩⟩] := by decide +kernel
  have hresult : (Mobile.listScopeObjects (fun _ => .ok (some "0")) datedPhotos
      ⟨some "root", some "photos", none⟩).toOption = some [] := by decide +kernel
  intro h
  obtain ⟨first, hok, hfirst⟩ := h
  rw [hok] at hresult
  obtain rfl := Option.some.inj hresult
  rw [hall, firstOf_iff] at hfirst
  exact absurd hfirst.2 (by decide +kernel)

/-- Asked for the folder itself, the listing finds the picture. -/
theorem photos_at_prefix_listed :
    Answers ⟨some "root", some "photos/2024", some 1⟩
      (files Mobile.view Mobile.MobileListItem.toObjectInfo datedPhotos "0")
      (Mobile.listScopeObjects (fun _ => .ok (some "0")) datedPhotos
        ⟨some "root", some "photos/2024", some 1⟩) := by
  have hfound : (walk (Mobile.lister (some "photos/2024")) datedPhotos [("0", "")] []).toOption =
      some [("photos/2024/a.jpg", ⟨some "3", some "a.jpg", some "file", some 5⟩)] := by
    decide +kernel
  have hreadable : Readable (Mobile.lister (some "photos/2024")) datedPhotos "0" "" := by
    cases hwalk : walk (Mobile.lister (some "photos/2024")) datedPhotos [("0", "")] [] with
    | error error =>
        rw [hwalk] at hfound
        cases hfound
    | ok found => exact Paged.walk_ok_iff.mp ⟨found, hwalk⟩ _ List.mem_cons_self
  have hkeys : (acceptedKeys (Mobile.lister (some "photos/2024")) datedPhotos "0").dedup =
      (allKeys Mobile.view datedPhotos "0").filter
        (requested ⟨some "root", some "photos/2024", some 1⟩) := by
    decide +kernel
  have hagree : Agree ⟨some "root", some "photos/2024", some 1⟩
      (allKeys Mobile.view datedPhotos "0")
      (acceptedKeys (Mobile.lister (some "photos/2024")) datedPhotos "0").dedup := by
    intro key
    rw [hkeys]
  exact ((list_objects_iff ⟨some "root", some "photos/2024", some 1⟩).1 (fun _ => .ok (some "0"))
    datedPhotos "0" (by decide) rfl).mpr ⟨hreadable, hagree⟩

/-! ## Section 8: What a Telecom listing shows -/

/-- The objects of the pages that the Telecom adapter goes on to, if their key starts with the
prefix of the request. -/
def shownObjects (configured : Nat) (drive : PagedDrive Telecom.kind) (root : String)
    (request : ListObjectsRequest) : List (Placed Telecom.TelecomEntry) :=
  (objects (Telecom.view configured) drive root "").filter (fun object => object.shown &&
    Telecom.startsWith (request.keyPrefix.map Telecom.normalizeObjectKey) object.key)

/-- **A Telecom listing is exact.** Where no name holds a slash, a listing that succeeds has the
first keys, up to its limit, of all these objects, each once and in order, and each row is one
of the objects. Neither the folders that are skipped nor the map that is cut after each insertion
lose anything. -/
theorem telecom_listing_exact {configured : Nat} {config : Telecom.TelecomConfig}
    {resolve : String → Except BlobError (Option String)} {drive : PagedDrive Telecom.kind}
    {request : ListObjectsRequest} {container root : String} {rows : List (ObjectInfo Listed)}
    (hnames : SlashFree (Telecom.view configured) drive)
    (hcontainer : request.container = some container) (hresolve : resolve container = .ok (some root))
    (hlist : Telecom.listObjects configured config resolve drive request = .ok rows) :
    rows.map ObjectInfo.key = takeLimit request.limit
        (((shownObjects configured drive root request).map Placed.key).dedup.insertionSort
          (· ≤ ·)) ∧
      ∀ row ∈ rows, ∃ object ∈ shownObjects configured drive root request,
        row = object.item.toObjectInfo object.key := by
  simp only [Telecom.listObjects, hcontainer] at hlist
  obtain ⟨_, -, hlist⟩ := except_bind_ok.mp hlist
  unfold Telecom.listObjectsInRoot at hlist
  split_ifs at hlist with hlimit
  · -- nothing is asked for
    cases hlist
    rw [hlimit]
    exact ⟨rfl, fun row hrow => absurd hrow List.not_mem_nil⟩
  obtain ⟨_, -, hlist⟩ := except_bind_ok.mp hlist
  obtain ⟨folder, hfolder, hlist⟩ := except_bind_ok.mp hlist
  rw [hresolve] at hfolder
  cases hfolder
  obtain ⟨found, hwalk, hrows⟩ := except_bind_ok.mp hlist
  cases hrows
  -- what the loop finds is what is shown
  have hfound : found.Perm ((shownObjects configured drive root request).map
      (fun object => (object.key, object.item))) := by
    have hperm := walk_perm hwalk
    have hall : listedAll (Telecom.lister configured
        (request.keyPrefix.map Telecom.normalizeObjectKey)) drive [(root, "")] =
        (shownObjects configured drive root request).map
          (fun object => (object.key, object.item)) := by
      rw [listedAll, List.flatMap_singleton, listed, shownObjects]
      congr 1
      exact List.filter_congr (fun object hobject => telecom_keeps_way hnames hobject)
    rwa [hall] at hperm
  constructor
  · rw [objectMap_rows, takeLimit_map, objectMap_keys]
    have hkeys : (found.map (fun entry => entry.2.toObjectInfo entry.1)).map ObjectInfo.key =
        found.map Prod.fst := by
      rw [List.map_map]
      refine List.map_congr_left ?_
      rintro ⟨key, entry | entry⟩ - <;> rfl
    have hperm := hfound.map Prod.fst
    rw [List.map_map] at hperm
    rw [hkeys, sort_eq_of_perm hperm.dedup]
    rfl
  · intro row hrow
    rw [objectMap_rows] at hrow
    obtain ⟨⟨key, item⟩, hentry, rfl⟩ :=
      List.mem_map.mp (mem_objectMap ((takeLimit_sublist _ _).subset hrow))
    obtain ⟨object, hobject, hsame⟩ := List.mem_map.mp (hfound.subset hentry)
    cases hsame
    exact ⟨object, hobject, rfl⟩

/-- The same picture at Telecom. -/
def telecomPhotos : PagedDrive Telecom.kind where
  pages := fun folder =>
    if folder = "0" then [⟨[.folder ⟨some "1", some "photos", none⟩], none⟩]
    else if folder = "1" then [⟨[.folder ⟨some "2", some "2024", none⟩], none⟩]
    else if folder = "2" then [⟨[.file ⟨some "a.jpg", none, some 5, none, none⟩], none⟩]
    else []
  size := fun folder =>
    if folder = "0" then 4 else if folder = "1" then 3 else if folder = "2" then 2 else 1
  size_children := by
    intro folder
    split_ifs <;> decide

theorem telecomPhotos_exact :
    Telecom.listObjects 0 ⟨none, none⟩ (fun _ => .ok (some "0")) telecomPhotos
        ⟨some "root", some "photos", none⟩ = .ok [⟨"photos/2024/a.jpg", ⟨5, none⟩⟩] ∧
      ["photos/2024/a.jpg"] = takeLimit none (((shownObjects 0 telecomPhotos "0"
        ⟨some "root", some "photos", none⟩).map Placed.key).dedup.insertionSort (· ≤ ·)) := by
  have hlist : Telecom.listObjects 0 ⟨none, none⟩ (fun _ => .ok (some "0")) telecomPhotos
      ⟨some "root", some "photos", none⟩ = .ok [⟨"photos/2024/a.jpg", ⟨5, none⟩⟩] := by
    decide +kernel
  refine ⟨hlist, (telecom_listing_exact ?_ rfl rfl hlist).1⟩
  intro folder item hitem name hname
  simp only [telecomPhotos] at hitem
  split_ifs at hitem
  all_goals
    simp at hitem
  all_goals
    subst hitem
    revert name hname
    decide +kernel

end Netdisk2Blob.Providers.Pages
