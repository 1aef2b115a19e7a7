import Netdisk2Blob.Providers.Mobile

/-!
# Mobile Paths

For which keys, and on which drives, an object that was just uploaded is found again by its
key and listed under it. The walk trims the segments of the parent path but not the file
name, and drops blank segments; a listing shows display names.

## Contents

- `putObject_spec`: what an accepted upload has walked, created and written
- `isDisplayed_key_iff`: a key is what its object is listed under exactly when every segment
  is its own display name
- `faithful_iff`: the exact condition on the key and the drive
-/

namespace Netdisk2Blob.Providers.Mobile

open Library Text Library.FileTree Blob

variable {B : Type} {config : MobileConfig}

/-! ## Section 1: Walks by display names -/

theorem findChildFolderId_of_displayed {tree : FileTree B} {parent : List String}
    {segment : String} (h : IsDisplayed segment) :
    findChildFolderId tree parent segment =
      (findFolder displayName tree parent segment).map Item.place := by
  obtain ⟨htrim, hne⟩ := isDisplayed_iff.mp h
  rw [findChildFolderId, htrim, if_neg hne]

theorem resolveChildFolders_eq {tree : FileTree B} {parent segments : List String}
    (h : ∀ segment ∈ segments, IsDisplayed segment) :
    resolveChildFolders tree parent segments = resolveFolder displayName tree parent segments := by
  induction segments generalizing parent with
  | nil => rfl
  | cons segment segments ih =>
    obtain ⟨hsegment, hrest⟩ := List.forall_mem_cons.mp h
    rw [resolveChildFolders, resolveFolder, findChildFolderId_of_displayed hsegment,
      Option.bind_map]
    apply Option.bind_congr
    intro folder _
    exact ih hrest

/-- A directory path is resolved by its trimmed segments that are not blank. -/
theorem resolveChildDirectoryPath_eq (tree : FileTree B) (parent : List String)
    (directoryPath : String) :
    resolveChildDirectoryPathIfExists tree parent directoryPath =
      resolveFolder displayName tree parent (walkSegments directoryPath) := by
  rw [← walkSegments_trimMatches]
  unfold resolveChildDirectoryPathIfExists normalizeObjectKey
  dsimp only
  split
  · rename_i hempty
    rw [hempty]
    rfl
  · exact resolveChildFolders_eq
      (fun segment hsegment => (isDisplayed_of_mem_walkSegments hsegment).1)

theorem ensuresFolder_ensureFolder : EnsuresFolder (@ensureFolder B) := by
  intro tree parent segment tree' place hsegment h
  unfold ensureFolder at h
  rw [findChildFolderId_of_displayed hsegment] at h
  cases hfound : findFolder displayName tree parent segment with
  | some folder =>
    rw [hfound] at h
    obtain ⟨rfl, rfl⟩ := Prod.mk.inj (Except.ok.inj h)
    exact Or.inl ⟨folder, rfl, rfl, rfl⟩
  | none =>
    rw [hfound] at h
    simp only [Option.map_none] at h
    split at h
    · rename_i created hadd
      obtain ⟨rfl, rfl⟩ := Prod.mk.inj (Except.ok.inj h)
      exact Or.inr ⟨rfl, hadd, rfl⟩
    · cases h

/-! ## Section 2: An accepted upload -/

/-- The folders that lead to a container. -/
def containerWalk (config : MobileConfig) (container : String) : List String :=
  walkSegments (joinKey ((normalizedRootPrefix config).toList ++ [normalizeObjectKey container]))

/-- The folders below the container that lead to the file of a key. -/
def parentWalk (key : String) : List String :=
  (((split '/' (normalizeObjectKey key)).dropLast).map trim).filter
    (fun segment => decide (segment ≠ ""))

/-- The file name of a key: its last segment as it is. -/
def fileNameOf (key : String) : String := ((split '/' (normalizeObjectKey key)).getLast?).getD ""

theorem split_normalizeObjectKey (key : String) :
    split '/' (normalizeObjectKey key) =
      (split '/' (normalizeObjectKey key)).dropLast ++ [fileNameOf key] := by
  have hne := @split_ne_nil '/' (normalizeObjectKey key)
  rw [fileNameOf, List.getLast?_eq_getLast_of_ne_nil hne, Option.getD_some,
    List.dropLast_append_getLast hne]

theorem isDisplayed_containerWalk {container segment : String}
    (h : segment ∈ containerWalk config container) : IsDisplayed segment ∧ IsSegment segment :=
  isDisplayed_of_mem_walkSegments h

theorem isDisplayed_parentWalk {key segment : String} (h : segment ∈ parentWalk key) :
    IsDisplayed segment ∧ IsSegment segment := by
  obtain ⟨hmem, hne⟩ := List.mem_filter.mp h
  obtain ⟨part, hpart, rfl⟩ := List.mem_map.mp hmem
  have hne' : trim part ≠ "" := of_decide_eq_true hne
  exact ⟨displayName_eq_some.mpr ⟨trim_trim part, hne'⟩, hne',
    not_mem_trim (not_mem_of_mem_split (List.dropLast_subset _ hpart))⟩

/-- The last slash of a managed key parts the file name from the walk to its folder. -/
theorem rsplitOnce_managedObjectKey (container key : String) :
    ∃ parentPath, rsplitOnce '/' (joinKey ((normalizedRootPrefix config).toList ++
        [normalizeObjectKey container, normalizeObjectKey key])) =
          some (parentPath, fileNameOf key) ∧
      walkSegments parentPath = containerWalk config container ++ parentWalk key := by
  obtain ⟨parts, hparts⟩ : ∃ parts, parts = (normalizedRootPrefix config).toList ++
      [normalizeObjectKey container] := ⟨_, rfl⟩
  have hne : parts ≠ [] := by
    rw [hparts]
    simp
  have hsplit : split '/' (joinKey (parts ++ [normalizeObjectKey key])) =
      (parts.flatMap (split '/') ++ (split '/' (normalizeObjectKey key)).dropLast) ++
        [fileNameOf key] := by
    rw [split_joinKey (by simp), List.flatMap_append, List.flatMap_singleton,
      split_normalizeObjectKey key, List.dropLast_concat, List.append_assoc]
  have hfolders : parts.flatMap (split '/') ++ (split '/' (normalizeObjectKey key)).dropLast ≠
      [] := by
    intro hnil
    have hnone := (List.append_eq_nil_iff.mp hnil).1
    rw [← split_joinKey hne] at hnone
    exact split_ne_nil hnone
  have hslash : ∀ part ∈ parts.flatMap (split '/') ++
      (split '/' (normalizeObjectKey key)).dropLast, '/' ∉ part.toList := by
    intro part hpart
    rcases List.mem_append.mp hpart with hpart | hpart
    · obtain ⟨whole, -, hmem⟩ := List.mem_flatMap.mp hpart
      exact not_mem_of_mem_split hmem
    · exact not_mem_of_mem_split (List.dropLast_subset _ hpart)
  have hlist : (normalizedRootPrefix config).toList ++
      [normalizeObjectKey container, normalizeObjectKey key] =
        parts ++ [normalizeObjectKey key] := by
    rw [hparts]
    simp
  refine ⟨joinKey (parts.flatMap (split '/') ++ (split '/' (normalizeObjectKey key)).dropLast),
    ?_, ?_⟩
  · rw [hlist]
    exact rsplitOnce_of_split hfolders hsplit
  · rw [walkSegments, split_joinKey_segments hfolders hslash, List.map_append, List.filter_append,
      containerWalk, ← hparts, parentWalk, walkSegments, split_joinKey hne]

/-- What an accepted upload has walked, created and written. -/
theorem putObject_spec {drive drive' : ScopedDrive B} {container key : String} {body : B}
    {scope : Scope} {place : List String}
    (h : putObject config drive container key body = .ok (drive', (scope, place))) :
    nativeRootFolder config container = .ok scope ∧ trim container ≠ "" ∧ trim key ≠ "" ∧
      ∃ tree folder tree', ensureFolders ensureFolder (drive.tree scope) []
          (containerWalk config container ++ parentWalk key) = .ok (tree, folder) ∧
        createMobileUpload tree folder (fileNameOf key) body = .ok tree' ∧
        place = folder ++ [fileNameOf key] ∧ drive' = drive.setTree scope tree' := by
  obtain ⟨⟨found, tree, folder, fileName⟩, hparent, h₁⟩ := except_bind_ok.mp h
  obtain ⟨tree', hcreate, h₂⟩ := except_bind_ok.mp h₁
  obtain ⟨rfl, hlocation⟩ := Prod.mk.inj (Except.ok.inj h₂)
  obtain ⟨rfl, rfl⟩ := Prod.mk.inj hlocation
  obtain ⟨native, hnative, h₃⟩ := except_bind_ok.mp hparent
  obtain ⟨managedKey, hmanaged, h₄⟩ := except_bind_ok.mp h₃
  obtain ⟨_, hcontainer, h₅⟩ := except_bind_ok.mp hmanaged
  obtain ⟨_, hkey, h₆⟩ := except_bind_ok.mp h₅
  obtain rfl := Except.ok.inj h₆
  obtain ⟨parentPath, hsplit, hwalk⟩ := @rsplitOnce_managedObjectKey config container key
  rw [hsplit] at h₄
  simp only [hwalk] at h₄
  obtain ⟨⟨ensured, folder'⟩, hensured, h₇⟩ := except_bind_ok.mp h₄
  cases h₇
  exact ⟨hnative, ensureNonEmpty_eq_ok.mp hcontainer, ensureNonEmpty_eq_ok.mp hkey, ensured,
    folder', tree', hensured, hcreate, rfl, rfl⟩

/-- The creation of a file keeps the folders, adds the file, and at most takes files with its
display name away, which it does exactly when its name was taken. -/
theorem createMobileUpload_spec {tree tree' : FileTree B} {folder : List String} {name : String}
    {body : B} (h : createMobileUpload tree folder name body = .ok tree') :
    KeepsFolders displayName tree tree' ∧ (tree.itemAt (folder ++ [name]) = none ∧
        tree'.items = tree.items ++ [⟨folder, name, some body⟩] ∨
      (∃ old, ⟨folder, name, some old⟩ ∈ tree.items) ∧ tree'.items =
        tree.items.filter (fun item => item.isFolder || !isChildFileNamed folder name item) ++
          [⟨folder, name, some body⟩]) := by
  unfold createMobileUpload at h
  split at h
  · rename_i hfree
    split at h
    · rename_i created hadd
      obtain rfl := Except.ok.inj h
      exact ⟨keepsFolders_add hadd, Or.inl ⟨hfree, (add_eq_some hadd).1⟩⟩
    · cases h
  · rename_i item hitem
    obtain ⟨hmem, hplace⟩ := itemAt_eq_some.mp hitem
    split at h
    · split at h
      · rename_i created hadd
        obtain rfl := Except.ok.inj h
        refine ⟨(keepsFolders_removeFiles _).trans (keepsFolders_add hadd), Or.inr ⟨?_, ?_⟩⟩
        · -- a folder under the name would not have made room
          obtain ⟨parent, itemName, content⟩ := item
          obtain ⟨rfl, rfl⟩ := Item.place_eq_append.mp hplace
          cases content with
          | some old => exact ⟨old, hmem⟩
          | none =>
            have hfree := (add_eq_some hadd).2.2.1
            exact absurd rfl (itemAt_eq_none.mp hfree ⟨parent, itemName, none⟩
              (List.mem_filter.mpr ⟨hmem, by simp⟩))
        · exact (add_eq_some hadd).1
      · cases h
    · cases h

/-! ## Section 3: Faithful paths -/

/-- Every segment of the key is its own display name. -/
def PlainKey (key : String) : Prop := ∀ segment ∈ split '/' key, IsDisplayed segment

instance (key : String) : Decidable (PlainKey key) :=
  inferInstanceAs (Decidable (∀ segment ∈ split '/' key, IsDisplayed segment))

/-- A key is its display names joined exactly when it is plain. -/
theorem isDisplayed_key_iff {key : String} :
    (key = joinKey (parentWalk key ++ [fileNameOf key]) ∧ IsDisplayed (fileNameOf key)) ↔
      PlainKey key := by
  constructor
  · rintro ⟨hkey, hname⟩ segment hsegment
    have hslash : ∀ part ∈ parentWalk key ++ [fileNameOf key], '/' ∉ part.toList := by
      intro part hpart
      rcases List.mem_append.mp hpart with hpart | hpart
      · exact (isDisplayed_parentWalk hpart).2.2
      · rw [List.mem_singleton.mp hpart]
        have hmem : fileNameOf key ∈ split '/' (normalizeObjectKey key) := by
          rw [split_normalizeObjectKey]
          exact List.mem_append_right _ List.mem_cons_self
        exact not_mem_of_mem_split hmem
    rw [hkey, split_joinKey_segments (by simp) hslash] at hsegment
    rcases List.mem_append.mp hsegment with hsegment | hsegment
    · exact (isDisplayed_parentWalk hsegment).1
    · rw [List.mem_singleton.mp hsegment]
      exact hname
  · intro hplain
    have hnormal : normalizeObjectKey key = key :=
      trimMatches_eq_self (fun part hpart => (isDisplayed_iff.mp (hplain part hpart)).2)
    have hsplit := split_normalizeObjectKey key
    rw [hnormal] at hsplit
    have hparents : parentWalk key = (split '/' key).dropLast := by
      rw [parentWalk, hnormal]
      exact walkSegments_of_displayed
        (fun segment hsegment => hplain segment (List.dropLast_subset _ hsegment))
    refine ⟨?_, hplain _ ?_⟩
    · rw [hparents, ← hsplit, joinKey_split]
    · rw [hsplit]
      exact List.mem_append_right _ List.mem_cons_self

/-- The state of a drive in which a key's object can be told apart: if the folder of the key
is there, it holds the file or no other file with its display name, and if the folder of the
container is there, nothing below it is nameless. -/
structure Distinguishes (config : MobileConfig) (tree : FileTree B) (container key : String) :
    Prop where
  alone : ∀ folder, resolveFolder displayName tree []
      (containerWalk config container ++ parentWalk key) = some folder →
    (∃ old, ⟨folder, fileNameOf key, some old⟩ ∈ tree.items) ∨
      Alone tree folder (fileNameOf key)
  displayed : ∀ root, resolveFolder displayName tree [] (containerWalk config container) =
    some root → AllDisplayed tree root

/-- The calls of the adapter on a drive. -/
def mobileAdapter (config : MobileConfig) :
    BlobAdapter (ScopedDrive B) (Scope × List String) B where
  putObject := putObject config
  headObject := headObject config
  getObject := getObject config
  deleteObject := deleteObject config
  listObjects := listObjects config
  remove := fun drive item => drive.setTree item.1 ((drive.tree item.1).removeAt item.2)
  Below := fun container item => nativeRootFolder config container = .ok item.1 ∧
    ∃ names rest, item.2 = names ++ rest ∧ rest ≠ [] ∧
      names.map displayName = (containerWalk config container).map some

theorem mobileAdapter_listObjects :
    (mobileAdapter (B := B) config).listObjects = listObjects config := rfl

theorem listing_join (keyPrefix : Option String) (folderKey childName : String) :
    (listing keyPrefix).join folderKey childName = joinTrimmed folderKey childName := by
  simp only [listing, joinRelativeKey]

theorem plain_listing : (listing none).Plain where
  label_segment := by
    intro name want hname hlabel
    simp only [listing] at hlabel
    exact isSegment_displayName hname hlabel
  join_key := by
    intro segments want hsegments hwant
    rw [listing_join]
    exact joinTrimmed_joinKey hsegments hwant
  all_folders := fun _ => rfl
  all_files := fun _ => rfl

/-- The folder of a container, if the walk to it leads somewhere. -/
theorem resolveContainerRootFolderId_eq {drive : ScopedDrive B} {container : String}
    {scope : Scope} {root : List String} (hscope : nativeRootFolder config container = .ok scope)
    (hcontainer : trim container ≠ "")
    (hroot : resolveFolder displayName (drive.tree scope) [] (containerWalk config container) =
      some root) :
    resolveContainerRootFolderId config drive container = .ok (scope, some root) := by
  have hmanaged : managedContainerRoot config container = .ok (joinKey
      ((normalizedRootPrefix config).toList ++ [normalizeObjectKey container])) :=
    except_bind_ok.mpr ⟨(), ensureNonEmpty_eq_ok.mpr hcontainer, rfl⟩
  refine except_bind_ok.mpr ⟨scope, hscope, except_bind_ok.mpr ⟨_, hmanaged, ?_⟩⟩
  rw [containerWalk] at hroot
  rw [resolveChildDirectoryPath_eq, hroot]
  rfl

/-- What a head request finds: the first file of the key's folder with the key's file name as
its display name. -/
theorem resolveObjectEntry_eq_ok {drive : ScopedDrive B} {container key : String}
    {scope : Scope} {root folder : List String}
    (hscope : nativeRootFolder config container = .ok scope) (hcontainer : trim container ≠ "")
    (hroot : resolveFolder displayName (drive.tree scope) [] (containerWalk config container) =
      some root)
    (hfolder : resolveFolder displayName (drive.tree scope) root (parentWalk key) = some folder)
    {found : Scope × Item B} :
    resolveObjectEntry config drive container key = .ok found ↔
      trim (normalizeObjectKey key) ≠ "" ∧ found.1 = scope ∧
        findFile displayName (drive.tree scope) folder (fileNameOf key) = some found.2 := by
  have hrootId := resolveContainerRootFolderId_eq hscope hcontainer hroot
  -- the parent path of the key, or the folder of the container if it has none
  have hparent : resolveParent (drive.tree scope) root (normalizeObjectKey key) =
      (some folder, fileNameOf key) := by
    have hsplit := split_normalizeObjectKey key
    rw [resolveParent]
    by_cases hnil : (split '/' (normalizeObjectKey key)).dropLast = []
    · rw [hnil, List.nil_append] at hsplit
      obtain ⟨hnone, hself⟩ := rsplitOnce_eq_none hsplit
      rw [parentWalk, hnil] at hfolder
      obtain rfl := Option.some.inj hfolder
      rw [hnone, hself]
    · rw [rsplitOnce_of_split hnil hsplit]
      simp only [resolveChildDirectoryPath_eq]
      rw [walkSegments, split_joinKey_segments hnil
        (fun part hpart => not_mem_of_mem_split (List.dropLast_subset _ hpart))]
      rw [parentWalk] at hfolder
      rw [hfolder]
  have hrun : resolveObjectEntry config drive container key = (do
      ensureNonEmpty (normalizeObjectKey key) "object key"
      (findFile displayName (drive.tree scope) folder (fileNameOf key)).elim
        (.error (.notFound s!"object not found: {container}/{normalizeObjectKey key}"))
        (fun entry => .ok (scope, entry))) := by
    simp only [resolveObjectEntry, hrootId]
    cases ensureNonEmpty (normalizeObjectKey key) "object key" with
    | error error => simp only [bind, Except.bind]
    | ok _ =>
      simp only [bind, Except.bind, hparent, Option.bind_some]
      cases findFile displayName (drive.tree scope) folder (fileNameOf key) with
      | none => rfl
      | some entry => rfl
  rw [hrun, except_bind_ok]
  constructor
  · rintro ⟨_, hkey, hfound⟩
    cases hentry : findFile displayName (drive.tree scope) folder (fileNameOf key) with
    | none =>
      rw [hentry] at hfound
      cases hfound
    | some entry =>
      rw [hentry] at hfound
      obtain rfl := Except.ok.inj hfound
      exact ⟨ensureNonEmpty_eq_ok.mp hkey, rfl, rfl⟩
  · rintro ⟨hkey, rfl, hentry⟩
    refine ⟨(), ensureNonEmpty_eq_ok.mpr hkey, ?_⟩
    rw [hentry]
    rfl

/-! ## Section 4: An uploaded object -/

/-- The two containers are the two scopes. -/
theorem container_of_nativeRootFolder {container : String} {scope : Scope}
    (h : nativeRootFolder config container = .ok scope) :
    (container = "root" ∧ scope = .personal) ∨ (container = "family" ∧ scope = .family) := by
  unfold nativeRootFolder at h
  split at h
  · rename_i hroot
    split at h
    · exact Or.inl ⟨hroot, (Except.ok.inj h).symm⟩
    · cases h
  · split at h
    · rename_i hfamily
      exact Or.inr ⟨hfamily.1, (Except.ok.inj h).symm⟩
    · cases h

/-- What a listing of a container holds: the map of what the loop finds from its folder. -/
theorem listObjects_all {drive : ScopedDrive B} {container : String} {scope : Scope}
    {root : List String} (hscope : nativeRootFolder config container = .ok scope)
    (hroot : resolveFolder displayName (drive.tree scope) [] (containerWalk config container) =
      some root) {objects : List (ObjectInfo (Scope × List String))} :
    listObjects config drive (.all container) = .ok objects ↔
      ∃ found, walk (listing none) (drive.tree scope) [(root, "")] [] = .ok found ∧
        objects = (objectMap none (found.map (reported (fun place => (scope, place))))).rows := by
  have hcontainer : container = "root" ∨ container = "family" :=
    (container_of_nativeRootFolder hscope).imp And.left And.left
  have hself : (((some container).map trim).filter (fun value => decide (value ≠ ""))).getD "root" =
      container ∧ trim container ≠ "" := by
    rcases hcontainer with rfl | rfl
    · decide +kernel
    · decide +kernel
  have hknown : ¬ (container ≠ "root" ∧ container ≠ "family") :=
    fun ⟨hnotRoot, hnotFamily⟩ => hcontainer.elim hnotRoot hnotFamily
  have hrootId := resolveContainerRootFolderId_eq hscope hself.2 hroot
  have hrun : listObjects config drive (.all container) = (do
      let found ← walk (listing none) (drive.tree scope) [(root, "")] []
      return (objectMap none (found.map (reported (fun place => (scope, place))))).rows) := by
    simp only [listObjects, ListObjectsRequest.all, hself.1, if_neg hknown, hrootId, bind,
      Except.bind]
    rfl
  rw [hrun, except_bind_ok]
  constructor
  · rintro ⟨found, hfound, hobjects⟩
    exact ⟨found, hfound, (Except.ok.inj hobjects).symm⟩
  · rintro ⟨found, hfound, rfl⟩
    exact ⟨found, hfound, rfl⟩

theorem headObject_eq_ok {drive : ScopedDrive B} {container key : String}
    {info : ObjectInfo (Scope × List String)} :
    headObject config drive container key = .ok info ↔
      ∃ scope entry, resolveObjectEntry config drive container key = .ok (scope, entry) ∧
        info = ⟨normalizeObjectKey key, (scope, entry.place)⟩ := by
  rw [headObject, except_bind_ok]
  constructor
  · rintro ⟨⟨scope, entry⟩, hentry, hinfo⟩
    exact ⟨scope, entry, hentry, (Except.ok.inj hinfo).symm⟩
  · rintro ⟨scope, entry, hentry, rfl⟩
    exact ⟨(scope, entry), hentry, rfl⟩

/-- The file of an accepted upload on the drive after it. -/
structure Uploaded (config : MobileConfig) (drive : ScopedDrive B) (container key : String)
    (body : B) (scope : Scope) (root folder : List String) (name : String) : Prop where
  scope_eq : nativeRootFolder config container = .ok scope
  container_ne : trim container ≠ ""
  key_ne : trim key ≠ ""
  root_eq : resolveFolder displayName (drive.tree scope) [] (containerWalk config container) =
    some root
  folder_eq : resolveFolder displayName (drive.tree scope) root (parentWalk key) = some folder
  name_eq : fileNameOf key = name
  mem_items : ⟨folder, name, some body⟩ ∈ (drive.tree scope).items

/-- The paths of an uploaded object are faithful exactly when its key is plain, its file is
alone with its name and everything below its container has a name. -/
theorem faithful_iff_of_uploaded {drive : ScopedDrive B} {container key : String} {body : B}
    {scope : Scope} {root folder : List String} {name : String}
    (h : Uploaded config drive container key body scope root folder name) :
    (mobileAdapter config).Faithful drive container key body (scope, folder ++ [name]) ↔
      PlainKey key ∧ Alone (drive.tree scope) folder name ∧
        AllDisplayed (drive.tree scope) root := by
  have hlocate : Function.Injective (fun place : List String => (scope, place)) :=
    fun _ _ hplace => (Prod.mk.inj hplace).2
  have hsegments : AreSegments (parentWalk key) :=
    fun segment hsegment => (isDisplayed_parentWalk hsegment).2
  have hresolve {found : Scope × Item B} := @resolveObjectEntry_eq_ok B config drive container key
    scope root folder h.scope_eq h.container_ne h.root_eq h.folder_eq found
  have hplain := @isDisplayed_key_iff key
  rw [h.name_eq] at hresolve hplain
  have hshown := @shown_iff B (Scope × List String) (listing none) (drive.tree scope) plain_listing
    rfl root folder (parentWalk key) (name) key body _ hlocate hsegments h.folder_eq
    h.mem_items
  constructor
  · intro hfaithful
    obtain ⟨info, hinfo, hitem⟩ := hfaithful.head
    obtain ⟨objects, hobjects, hlisted, -⟩ := hfaithful.list
    obtain ⟨scope', entry, hentry, rfl⟩ := headObject_eq_ok.mp hinfo
    obtain ⟨-, -, hfind⟩ := hresolve.mp hentry
    rw [mobileAdapter_listObjects] at hobjects
    obtain ⟨found, hfound, rfl⟩ := (listObjects_all h.scope_eq h.root_eq).mp hobjects
    -- the entry that was found stands where the file was written
    have hplace : entry.place = folder ++ [name] := congrArg Prod.snd hitem
    have hentryEq : entry = ⟨folder, name, some body⟩ := by
      apply eq_of_place_eq (findFile_eq_some hfind).1 h.mem_items
      rw [hplace, Item.place_mk]
    rw [hentryEq] at hfind
    obtain ⟨hkey, hname, hall, hfiles⟩ := hshown.mp ⟨hfind, found, hfound, hlisted⟩
    exact ⟨hplain.mp ⟨hkey, hname⟩,
      (filesLabelled_eq_singleton_iff h.mem_items hname).mp hfiles, hall⟩
  · rintro ⟨hkeyPlain, halone, hall⟩
    obtain ⟨hkey, hname⟩ := hplain.mpr hkeyPlain
    have hfiles := (filesLabelled_eq_singleton_iff h.mem_items hname).mpr halone
    obtain ⟨hfind, found, hfound, hlisted⟩ := hshown.mpr ⟨hkey, hname, hall, hfiles⟩
    have hnormal : normalizeObjectKey key = key :=
      trimMatches_eq_self (fun part hpart => (isDisplayed_iff.mp (hkeyPlain part hpart)).2)
    have hentry : resolveObjectEntry config drive container key =
        .ok (scope, ⟨folder, name, some body⟩) :=
      hresolve.mpr ⟨by rw [hnormal]; exact h.key_ne, rfl, hfind⟩
    obtain ⟨names, hrootPlace, hnames⟩ := resolveFolder_eq_some h.root_eq
    obtain ⟨way, hway, -⟩ := resolveFolder_eq_some h.folder_eq
    have hhead : headObject config drive container key =
        .ok ⟨normalizeObjectKey key, (scope, folder ++ [name])⟩ :=
      headObject_eq_ok.mpr ⟨scope, _, hentry, by rw [Item.place_mk]⟩
    have hget : getObject config drive container key =
        .ok (⟨normalizeObjectKey key, (scope, folder ++ [name])⟩, body) := by
      simp only [getObject, hentry, bind, Except.bind, Item.place_mk]
      rfl
    have hdelete : deleteObject config drive container key =
        .ok (drive.setTree scope ((drive.tree scope).removeAt (folder ++ [name]))) := by
      simp only [deleteObject, hentry, bind, Except.bind, Item.place_mk]
      rfl
    have hlist : ∃ objects, listObjects config drive (.all container) = .ok objects ∧
        ⟨key, (scope, folder ++ [name])⟩ ∈ objects ∧
          ∀ info ∈ objects, info.item = (scope, folder ++ [name]) → info.key = key := by
      refine ⟨_, (listObjects_all h.scope_eq h.root_eq).mpr ⟨found, hfound, rfl⟩,
        Table.mem_rows.mpr hlisted, ?_⟩
      intro info hinfo hitem
      have hinfoKey := key_of_listed plain_listing rfl hlocate h.folder_eq hname hfound
        (Table.mem_rows.mp hinfo) hitem
      exact hinfoKey.trans hkey.symm
    have hbelow : ∃ names rest, folder ++ [name] = names ++ rest ∧ rest ≠ [] ∧
        names.map displayName = (containerWalk config container).map some := by
      refine ⟨names, way ++ [name], ?_, by simp, hnames⟩
      rw [hway, hrootPlace, List.nil_append, List.append_assoc]
    rw [← mobileAdapter_listObjects] at hlist
    exact ⟨⟨h.scope_eq, hbelow⟩, ⟨_, hhead, rfl⟩, ⟨_, hget, rfl⟩, hdelete, hlist⟩

/-! ## Section 5: Before the upload -/

/-- After the creation of a file it is alone with its name if it was before, or if it took the
place of an older file. -/
theorem alone_iff_of_createMobileUpload {tree tree' : FileTree B} {folder : List String}
    {name : String} {body : B} (h : createMobileUpload tree folder name body = .ok tree')
    (hname : IsDisplayed name) :
    Alone tree' folder name ↔
      (∃ old, ⟨folder, name, some old⟩ ∈ tree.items) ∨ Alone tree folder name := by
  obtain ⟨-, ⟨hfree, hitems⟩ | ⟨hold, hitems⟩⟩ := createMobileUpload_spec h
  · have hnone : ¬ ∃ old, ⟨folder, name, some old⟩ ∈ tree.items :=
      fun ⟨old, hold⟩ => itemAt_eq_none.mp hfree _ hold rfl
    rw [or_iff_right hnone, Alone, hitems]
    constructor
    · intro halone item hitem
      exact halone item (List.mem_append_left _ hitem)
    · intro halone item hitem
      rcases List.mem_append.mp hitem with hitem | hitem
      · exact halone item hitem
      · intro _ _ _
        rw [List.mem_singleton.mp hitem]
  · refine iff_of_true ?_ (Or.inl hold)
    intro item hitem hparent hkind hlabel
    rw [hitems] at hitem
    rcases List.mem_append.mp hitem with hitem | hitem
    · -- the other files with the name were deleted first
      have hkept := (List.mem_filter.mp hitem).2
      simp [hkind, isChildFileNamed, hparent, hlabel, (isDisplayed_iff.mp hname).1] at hkept
    · rw [List.mem_singleton.mp hitem]

/-- The files that come and go with the creation of a file have display names. -/
theorem allDisplayed_iff_of_createMobileUpload {tree tree' : FileTree B}
    {folder root : List String} {name : String} {body : B}
    (h : createMobileUpload tree folder name body = .ok tree') (hname : IsDisplayed name) :
    AllDisplayed tree' root ↔ AllDisplayed tree root := by
  have hnew : ∀ item ∈ tree'.items, item ∈ tree.items ∨ displayName item.name ≠ none := by
    intro item hitem
    obtain ⟨-, ⟨-, hitems⟩ | ⟨-, hitems⟩⟩ := createMobileUpload_spec h
    · rw [hitems] at hitem
      rcases List.mem_append.mp hitem with hitem | hitem
      · exact Or.inl hitem
      · rw [List.mem_singleton.mp hitem]
        exact Or.inr (ne_of_eq_of_ne hname (Option.some_ne_none _))
    · rw [hitems] at hitem
      rcases List.mem_append.mp hitem with hitem | hitem
      · exact Or.inl (List.mem_filter.mp hitem).1
      · rw [List.mem_singleton.mp hitem]
        exact Or.inr (ne_of_eq_of_ne hname (Option.some_ne_none _))
  have hlost : ∀ item ∈ tree.items, item ∈ tree'.items ∨ displayName item.name ≠ none := by
    intro item hitem
    obtain ⟨-, ⟨-, hitems⟩ | ⟨-, hitems⟩⟩ := createMobileUpload_spec h
    · rw [hitems]
      exact Or.inl (List.mem_append_left _ hitem)
    · rw [hitems]
      by_cases hdeleted : isChildFileNamed folder name item = true
      · right
        simp only [isChildFileNamed, Bool.and_eq_true, decide_eq_true_eq] at hdeleted
        rw [hdeleted.2]
        exact Option.some_ne_none _
      · left
        apply List.mem_append_left
        exact List.mem_filter.mpr ⟨hitem, by simp [hdeleted]⟩
  constructor
  · intro hall item hitem names hne hplace
    rcases hlost item hitem with hkept | hdisplayed
    · exact hall item hkept names hne hplace
    · exact hdisplayed
  · intro hall item hitem names hne hplace
    rcases hnew item hitem with hold | hdisplayed
    · exact hall item hold names hne hplace
    · exact hdisplayed

theorem isDisplayed_of_mem_walk {container key segment : String}
    (h : segment ∈ containerWalk config container ++ parentWalk key) : IsDisplayed segment := by
  rcases List.mem_append.mp h with h | h
  · exact (isDisplayed_containerWalk h).1
  · exact (isDisplayed_parentWalk h).1

/-- What the folders that an upload makes show of the drive before it. -/
theorem distinguishes_iff_of_ensureFolders {tree tree₁ : FileTree B} {container key name : String}
    {root folder : List String}
    (h : ensureFolders ensureFolder tree []
      (containerWalk config container ++ parentWalk key) = .ok (tree₁, folder))
    (hroot : resolveFolder displayName tree₁ [] (containerWalk config container) = some root)
    (hname : fileNameOf key = name) :
    Distinguishes config tree container key ↔
      ((∃ old, ⟨folder, name, some old⟩ ∈ tree₁.items) ∨ Alone tree₁ folder name) ∧
        AllDisplayed tree₁ root := by
  subst hname
  have hwalk : ∀ segment ∈ containerWalk config container ++ parentWalk key,
      IsDisplayed segment := fun _ hsegment => isDisplayed_of_mem_walk hsegment
  obtain ⟨hkeeps, hresolved, hkept, hnew⟩ :=
    ensureFolders_spec ensuresFolder_ensureFolder hwalk h
  have hdisplayed := allDisplayed_iff_of_ensureFolders ensuresFolder_ensureFolder hwalk h hroot
  have halone := @alone_iff_of_ensureFolders B _ _ _ _ _ ensuresFolder_ensureFolder hwalk h
    (fileNameOf key)
  constructor
  · intro hdistinguishes
    refine ⟨?_, hdisplayed.mpr hdistinguishes.displayed⟩
    cases hbefore : resolveFolder displayName tree []
        (containerWalk config container ++ parentWalk key) with
    | none => exact Or.inr (halone.mpr (fun before heq => by rw [hbefore] at heq; cases heq))
    | some before =>
      obtain rfl := Option.some.inj ((resolveFolder_mono hkeeps hbefore).symm.trans hresolved)
      rcases hdistinguishes.alone before hbefore with ⟨old, hold⟩ | hpre
      · exact Or.inl ⟨old, hkept _ hold⟩
      · refine Or.inr (halone.mpr ?_)
        intro before' heq
        obtain rfl := Option.some.inj (hbefore.symm.trans heq)
        exact hpre
  · rintro ⟨hpost, hall⟩
    refine ⟨?_, hdisplayed.mp hall⟩
    intro before hbefore
    obtain rfl := Option.some.inj ((resolveFolder_mono hkeeps hbefore).symm.trans hresolved)
    rcases hpost with ⟨old, hold⟩ | hpost
    · -- the file was there before: only folders were created
      rcases hnew _ hold with hmem | ⟨hfolder, -⟩
      · exact Or.inl ⟨old, hmem⟩
      · cases hfolder
    · exact Or.inr (halone.mp hpost before hbefore)

/-- An accepted upload is faithful exactly when its key is plain and the drive before it let
the key's object be told apart. -/
theorem faithful_iff {drive drive' : ScopedDrive B} {container key : String} {body : B}
    {scope : Scope} {place : List String}
    (h : putObject config drive container key body = .ok (drive', (scope, place))) :
    (mobileAdapter config).Faithful drive' container key body (scope, place) ↔
      PlainKey key ∧ Distinguishes config (drive.tree scope) container key := by
  obtain ⟨hscope, hcontainer, hkey, tree, folder, tree', hensured, hcreated, rfl, rfl⟩ :=
    putObject_spec h
  have hwalk : ∀ segment ∈ containerWalk config container ++ parentWalk key,
      IsDisplayed segment := fun _ hsegment => isDisplayed_of_mem_walk hsegment
  obtain ⟨hkeepsFolders, hresolved, hkept, hnew⟩ :=
    ensureFolders_spec ensuresFolder_ensureFolder hwalk hensured
  rw [resolveFolder_append] at hresolved
  obtain ⟨root, hroot, hfolder⟩ := Option.bind_eq_some_iff.mp hresolved
  obtain ⟨hkeeps, hitems⟩ := createMobileUpload_spec hcreated
  obtain ⟨name, hname⟩ : ∃ name, fileNameOf key = name := ⟨_, rfl⟩
  rw [hname] at hcreated hitems ⊢
  have hmem : ⟨folder, name, some body⟩ ∈ tree'.items := by
    rcases hitems with ⟨-, hitems⟩ | ⟨-, hitems⟩
    · rw [hitems]
      exact List.mem_append_right _ List.mem_cons_self
    · rw [hitems]
      exact List.mem_append_right _ List.mem_cons_self
  have huploaded : Uploaded config (drive.setTree scope tree') container key body scope root
      folder name := by
    refine ⟨hscope, hcontainer, hkey, ?_, ?_, hname, ?_⟩
    · rw [ScopedDrive.tree_setTree]
      exact resolveFolder_mono hkeeps hroot
    · rw [ScopedDrive.tree_setTree]
      exact resolveFolder_mono hkeeps hfolder
    · rw [ScopedDrive.tree_setTree]
      exact hmem
  rw [faithful_iff_of_uploaded huploaded, ScopedDrive.tree_setTree]
  apply and_congr_right
  intro hplain
  have hdisplayed : IsDisplayed name := hname ▸ (isDisplayed_key_iff.mpr hplain).2
  have hdistinguishes := distinguishes_iff_of_ensureFolders hensured hroot hname
  rw [hdistinguishes, alone_iff_of_createMobileUpload hcreated hdisplayed,
    allDisplayed_iff_of_createMobileUpload hcreated hdisplayed]

end Netdisk2Blob.Providers.Mobile
