import Netdisk2Blob.Providers.Telecom

/-!
# Telecom Paths

For which keys, and on which drives, an object that was just uploaded is found again by its
key and listed under it. The upload trims the folder names on its way and drops blank ones,
the other calls do neither, so nothing but displayed segments can be found again.

## Contents

- `putObject_spec`: what an accepted upload has walked, created and written
- `resolveProviderFileEntry_eq_ok`: what the walk of the other calls finds
- `faithful_iff`: the exact condition on the key and the drive
-/

namespace Netdisk2Blob.Providers.Telecom

open Library Text Library.FileTree Blob

variable {B : Type} {config : TelecomConfig}

/-! ## Section 1: Segments of a key -/

/-- The segments of the root prefix. -/
def prefixSegments (config : TelecomConfig) : List String :=
  (config.rootPrefix.map nonEmptySegments).getD []

/-- The segments of the root prefix and of the key, without the last one. -/
def parentSegments (config : TelecomConfig) (key : String) : List String :=
  prefixSegments config ++ (nonEmptySegments key).dropLast

/-- The file name of a key: its last segment as it is. -/
def fileNameOf (key : String) : String := ((nonEmptySegments key).getLast?).getD ""

theorem areSegments_prefixSegments : AreSegments (prefixSegments config) := by
  unfold prefixSegments
  cases config.rootPrefix with
  | none => exact fun _ h => absurd h List.not_mem_nil
  | some value => exact areSegments_nonEmptySegments value

theorem nonEmptySegments_eq {key : String} (h : nonEmptySegments key ≠ []) :
    nonEmptySegments key = (nonEmptySegments key).dropLast ++ [fileNameOf key] := by
  rw [fileNameOf, List.getLast?_eq_getLast_of_ne_nil h, Option.getD_some,
    List.dropLast_append_getLast h]

theorem areSegments_parentSegments (key : String) : AreSegments (parentSegments config key) :=
  areSegments_append.mpr ⟨areSegments_prefixSegments,
    fun segment hsegment =>
      areSegments_nonEmptySegments key segment (List.dropLast_subset _ hsegment)⟩

theorem isSegment_fileNameOf {key : String} (h : nonEmptySegments key ≠ []) :
    IsSegment (fileNameOf key) := by
  apply areSegments_nonEmptySegments key
  rw [nonEmptySegments_eq h]
  exact List.mem_append_right _ List.mem_cons_self

theorem getD_normalizedRootPrefix :
    (normalizedRootPrefix config).getD "" = joinKey (prefixSegments config) := by
  unfold normalizedRootPrefix prefixSegments
  cases config.rootPrefix with
  | none => exact joinKey_nil.symm
  | some value =>
    simp only [Option.map_some, Option.getD_some, normalizeObjectKey]
    by_cases hempty : joinKey (nonEmptySegments value) = ""
    · simp [Option.filter, hempty]
    · simp [Option.filter, hempty]

/-- The two containers are the two scopes, however many slashes they are spelled with. -/
theorem container_of_containerScope {container : String} {scope : Scope}
    (h : containerScope config container = .ok scope) :
    (normalizeObjectKey container = "root" ∧ scope = .personal) ∨
      (normalizeObjectKey container = "family" ∧ scope = .family) := by
  unfold containerScope at h
  split at h
  · rename_i hroot
    exact Or.inl ⟨hroot, (Except.ok.inj h).symm⟩
  · split at h
    · rename_i hfamily
      split at h
      · exact Or.inr ⟨hfamily, (Except.ok.inj h).symm⟩
      · cases h
    · cases h

/-- Containers are one scope exactly when they are one after dropping empty segments. -/
theorem scope_eq_iff {container container' : String} {scope scope' : Scope}
    (h : containerScope config container = .ok scope)
    (h' : containerScope config container' = .ok scope') :
    scope = scope' ↔ normalizeObjectKey container = normalizeObjectKey container' := by
  rcases container_of_containerScope h with ⟨hname, rfl⟩ | ⟨hname, rfl⟩
  · rcases container_of_containerScope h' with ⟨hname', rfl⟩ | ⟨hname', rfl⟩
    · simp [hname, hname']
    · simp [hname, hname']
  · rcases container_of_containerScope h' with ⟨hname', rfl⟩ | ⟨hname', rfl⟩
    · simp [hname, hname']
    · simp [hname, hname']

theorem validateContainer_eq_ok {container : String} {scope : Scope}
    (h : containerScope config container = .ok scope) : validateContainer config container = .ok () :=
  except_bind_ok.mpr ⟨scope, h, rfl⟩

theorem managedContainerRoot_eq_ok {container : String} {scope : Scope}
    (h : containerScope config container = .ok scope) :
    managedContainerRoot config container = .ok (joinKey (prefixSegments config)) := by
  rw [← getD_normalizedRootPrefix]
  exact except_bind_ok.mpr ⟨(), validateContainer_eq_ok h, rfl⟩

/-- The provider key is the segments of the root prefix and of the key, joined. -/
theorem providerObjectKey_eq_ok {container key : String} {scope : Scope}
    (h : containerScope config container = .ok scope) {providerKey : String} :
    providerObjectKey config container key = .ok providerKey ↔
      nonEmptySegments key ≠ [] ∧
        providerKey = joinKey (parentSegments config key ++ [fileNameOf key]) := by
  have hempty : normalizeObjectKey key = "" ↔ nonEmptySegments key = [] :=
    joinKey_eq_empty (areSegments_nonEmptySegments key)
  have hrun : providerObjectKey config container key =
      if normalizeObjectKey key = "" then .error (.notFound "object key is empty")
      else .ok (if joinKey (prefixSegments config) = "" then normalizeObjectKey key
        else joinRelativeKey (joinKey (prefixSegments config)) (normalizeObjectKey key)) := by
    simp only [providerObjectKey, validateContainer_eq_ok h, managedContainerRoot_eq_ok h, bind,
      Except.bind]
    split_ifs <;> rfl
  rw [hrun]
  by_cases hnil : nonEmptySegments key = []
  · rw [if_pos (hempty.mpr hnil)]
    exact ⟨(nomatch ·), fun hkey => absurd hnil hkey.1⟩
  · rw [if_neg (fun h => hnil (hempty.mp h))]
    have hjoined : (if joinKey (prefixSegments config) = "" then normalizeObjectKey key
        else joinRelativeKey (joinKey (prefixSegments config)) (normalizeObjectKey key)) =
          joinKey (parentSegments config key ++ [fileNameOf key]) := by
      have hsegments : parentSegments config key ++ [fileNameOf key] =
          prefixSegments config ++ nonEmptySegments key := by
        rw [parentSegments, List.append_assoc, ← nonEmptySegments_eq hnil]
      rw [hsegments]
      by_cases hroot : prefixSegments config = []
      · rw [hroot, if_pos joinKey_nil, List.nil_append]
        rfl
      · have hrootKey : joinKey (prefixSegments config) ≠ "" :=
          fun hjoin => hroot ((joinKey_eq_empty areSegments_prefixSegments).mp hjoin)
        rw [if_neg hrootKey, joinRelativeKey, joinTrimmed,
          trimMatches_joinKey areSegments_prefixSegments, if_neg hrootKey, normalizeObjectKey,
          trimMatches_joinKey (areSegments_nonEmptySegments key), joinKey_append hroot hnil]
        rfl
    rw [hjoined]
    constructor
    · intro hkey
      exact ⟨hnil, (Except.ok.inj hkey).symm⟩
    · rintro ⟨-, rfl⟩
      rfl

theorem stripPrefix_append (a b : String) : stripPrefix a (a ++ b) = some b := by
  have hlist : (a ++ b).toList = a.toList ++ b.toList := by simp
  rw [stripPrefix, hlist, if_pos (List.isPrefixOf_iff_prefix.mpr (List.prefix_append _ _)),
    List.drop_left]
  simp

/-- The visible key of an object is the key in normal form. -/
theorem userVisibleObjectKey_eq_ok {container key : String} {scope : Scope}
    (h : containerScope config container = .ok scope) (hne : nonEmptySegments key ≠ []) :
    userVisibleObjectKey config container (joinKey (parentSegments config key ++ [fileNameOf key])) =
      .ok (normalizeObjectKey key) := by
  have hall := areSegments_append.mpr ⟨@areSegments_parentSegments config key,
    areSegments_singleton.mpr (isSegment_fileNameOf hne)⟩
  have hsegments : parentSegments config key ++ [fileNameOf key] =
      prefixSegments config ++ nonEmptySegments key := by
    rw [parentSegments, List.append_assoc, ← nonEmptySegments_eq hne]
  have hnormal : normalizeObjectKey (joinKey (parentSegments config key ++ [fileNameOf key])) =
      joinKey (prefixSegments config ++ nonEmptySegments key) := by
    rw [normalizeObjectKey, nonEmptySegments_joinKey hall, hsegments]
  have hnotEmpty : joinKey (prefixSegments config ++ nonEmptySegments key) ≠ "" := by
    rw [← hsegments]
    intro hjoin
    have hnil := (joinKey_eq_empty hall).mp hjoin
    simp at hnil
  simp only [userVisibleObjectKey, validateContainer_eq_ok h, managedContainerRoot_eq_ok h,
    hnormal, if_neg hnotEmpty, bind, Except.bind]
  by_cases hroot : prefixSegments config = []
  · rw [hroot, if_pos joinKey_nil, List.nil_append]
    rfl
  · have hrootKey : joinKey (prefixSegments config) ≠ "" :=
      fun hjoin => hroot ((joinKey_eq_empty areSegments_prefixSegments).mp hjoin)
    have hstrip := stripPrefix_append (joinKey (prefixSegments config) ++ "/")
      (joinKey (nonEmptySegments key))
    rw [← joinKey_append hroot hne] at hstrip
    rw [if_neg hrootKey]
    simp only [toString]
    rw [hstrip]
    rfl

/-! ## Section 2: Walks by display names -/

/-- The segments as the upload and the listing read them: trimmed, without blank ones. -/
def trimmedSegments (segments : List String) : List String :=
  (segments.map trim).filter (fun segment => decide (segment ≠ ""))

theorem trimmedSegments_append (segments segments' : List String) :
    trimmedSegments (segments ++ segments') =
      trimmedSegments segments ++ trimmedSegments segments' := by
  rw [trimmedSegments, List.map_append, List.filter_append]
  rfl

theorem isDisplayed_of_mem_trimmedSegments {segments : List String} {segment : String}
    (h : segment ∈ trimmedSegments segments) : IsDisplayed segment := by
  obtain ⟨hmem, hne⟩ := List.mem_filter.mp h
  obtain ⟨part, -, rfl⟩ := List.mem_map.mp hmem
  exact displayName_eq_some.mpr ⟨trim_trim part, of_decide_eq_true hne⟩

theorem walkSegments_joinKey_segments {segments : List String} (h : AreSegments segments) :
    walkSegments (joinKey segments) = trimmedSegments segments := by
  by_cases hnil : segments = []
  · subst hnil
    decide +kernel
  · rw [walkSegments, split_joinKey_segments hnil (fun segment hmem => (h segment hmem).2)]
    rfl

theorem resolveChildFolders_eq (tree : FileTree B) (parent segments : List String) :
    resolveChildFolders tree parent segments = resolveFolder displayName tree parent segments := by
  induction segments generalizing parent with
  | nil => rfl
  | cons segment segments ih =>
    rw [resolveChildFolders, resolveFolder, findChildFolderId, Option.bind_map]
    apply Option.bind_congr
    intro folder _
    exact ih folder.place

/-- The folder that a container's listing starts from. -/
theorem resolveScopeContainerRootFolderId_eq {drive : ScopedDrive B} {container : String}
    {scope : Scope} (h : containerScope config container = .ok scope) :
    resolveScopeContainerRootFolderId config drive container =
      .ok (resolveFolder displayName (drive.tree scope) []
        (trimmedSegments (prefixSegments config))) := by
  have hsegments := @areSegments_prefixSegments config
  simp only [resolveScopeContainerRootFolderId, h, managedContainerRoot_eq_ok h, bind, Except.bind]
  by_cases hroot : prefixSegments config = []
  · rw [hroot, if_pos joinKey_nil]
    rfl
  · have hrootKey : joinKey (prefixSegments config) ≠ "" :=
      fun hjoin => hroot ((joinKey_eq_empty hsegments).mp hjoin)
    have hnormal : normalizeObjectKey (joinKey (prefixSegments config)) =
        joinKey (prefixSegments config) := by
      rw [normalizeObjectKey, nonEmptySegments_joinKey hsegments]
    simp only [if_neg hrootKey, resolveChildDirectoryPathIfExists, hnormal,
      walkSegments_joinKey_segments hsegments, resolveChildFolders_eq]
    rfl

/-- The loop over the parent segments finds the folder that the segments lead to. -/
theorem resolveParentFolders_eq_ok {tree : FileTree B} {parent segments folder : List String} :
    resolveParentFolders tree parent segments = .ok folder ↔
      resolveFolder displayName tree parent segments = some folder := by
  induction segments generalizing parent with
  | nil =>
    constructor
    · intro h
      exact congrArg some (Except.ok.inj h)
    · intro h
      exact congrArg Except.ok (Option.some.inj h)
  | cons segment segments ih =>
    rw [resolveParentFolders, except_bind_ok, resolveFolder, Option.bind_eq_some_iff]
    constructor
    · rintro ⟨child, hchild, hrest⟩
      refine ⟨child, ?_, ih.mp hrest⟩
      unfold findChildFolder at hchild
      split at hchild
      · rename_i entry hentry
        rw [hentry, Except.ok.inj hchild]
      · cases hchild
    · rintro ⟨child, hchild, hrest⟩
      refine ⟨child, ?_, ih.mpr hrest⟩
      rw [findChildFolder, hchild]

/-- What the walk of a head request finds. -/
theorem resolveProviderFileEntry_eq_ok {tree : FileTree B} {parents : List String} {name : String}
    (h : AreSegments (parents ++ [name])) {entry : Item B} :
    resolveProviderFileEntry tree (joinKey (parents ++ [name])) = .ok entry ↔
      ∃ folder, resolveFolder displayName tree [] parents = some folder ∧
        findFile displayName tree folder name = some entry := by
  have hnormal : normalizeObjectKey (joinKey (parents ++ [name])) = joinKey (parents ++ [name]) := by
    rw [normalizeObjectKey, nonEmptySegments_joinKey h]
  have hnotEmpty : joinKey (parents ++ [name]) ≠ "" := by
    intro hjoin
    have hnil := (joinKey_eq_empty h).mp hjoin
    simp at hnil
  have hsplit : split '/' (joinKey (parents ++ [name])) = parents ++ [name] :=
    split_joinKey_segments (by simp) (fun segment hmem => (h segment hmem).2)
  simp only [resolveProviderFileEntry, hnormal, if_neg hnotEmpty, hsplit, List.dropLast_concat,
    List.getLast?_concat, Option.getD_some, except_bind_ok, resolveParentFolders_eq_ok]
  apply exists_congr
  intro folder
  apply and_congr_right
  intro _
  unfold findChildFile
  cases findFile displayName tree folder name with
  | none => exact ⟨(nomatch ·), (nomatch ·)⟩
  | some found =>
    exact ⟨fun hfound => congrArg some (Except.ok.inj hfound),
      fun hfound => congrArg Except.ok (Option.some.inj hfound)⟩

/-! ## Section 3: An accepted upload -/

theorem ensuresFolder_ensureFolder : EnsuresFolder (@ensureFolder B) := by
  intro tree parent segment tree' place hsegment h
  unfold ensureFolder findChildFolderId at h
  cases hfound : findFolder displayName tree parent segment with
  | some folder =>
    rw [hfound] at h
    obtain ⟨rfl, rfl⟩ := Prod.mk.inj (Except.ok.inj h)
    exact Or.inl ⟨folder, rfl, rfl, rfl⟩
  | none =>
    rw [hfound] at h
    simp only [Option.map_none] at h
    split at h
    · rename_i created hadd
      obtain ⟨rfl, rfl⟩ := Prod.mk.inj (Except.ok.inj h)
      exact Or.inr ⟨rfl, hadd, rfl⟩
    · split at h
      · cases h
      · cases h

/-- The last slash of a provider key parts the file name from the walk to its folder. -/
theorem ensureManagedParentFolderId_eq_ok {tree tree' : FileTree B} {container key : String}
    {scope : Scope} (hscope : containerScope config container = .ok scope)
    {folder : List String} {name : String} :
    ensureManagedParentFolderId config tree container key = .ok (tree', folder, name) ↔
      nonEmptySegments key ≠ [] ∧ name = fileNameOf key ∧
        ensureFolders ensureFolder tree [] (trimmedSegments (parentSegments config key)) =
          .ok (tree', folder) := by
  have hparents := @areSegments_parentSegments config key
  -- the walk is over the trimmed parent segments, none of them for a key of one segment
  have hrun (hne : nonEmptySegments key ≠ []) :
      ensureManagedParentFolderId config tree container key =
        ensureFolders ensureFolder tree [] (trimmedSegments (parentSegments config key)) >>=
          fun found => .ok (found.1, found.2, fileNameOf key) := by
    have hprovider := (@providerObjectKey_eq_ok config container key scope hscope _).mpr ⟨hne, rfl⟩
    have hsplit : split '/' (joinKey (parentSegments config key ++ [fileNameOf key])) =
        parentSegments config key ++ [fileNameOf key] := by
      apply split_joinKey_segments (by simp)
      intro segment hmem
      rcases List.mem_append.mp hmem with hmem | hmem
      · exact (hparents segment hmem).2
      · rw [List.mem_singleton.mp hmem]
        exact (isSegment_fileNameOf hne).2
    by_cases hnil : parentSegments config key = []
    · rw [hnil, List.nil_append, joinKey_singleton] at hsplit hprovider
      rw [hnil]
      simp only [ensureManagedParentFolderId, hprovider, bind, Except.bind,
        (rsplitOnce_eq_none hsplit).1]
      rfl
    · simp only [ensureManagedParentFolderId, hprovider, bind, Except.bind,
        rsplitOnce_of_split hnil hsplit, walkSegments_joinKey_segments hparents]
      cases ensureFolders ensureFolder tree [] (trimmedSegments (parentSegments config key)) with
      | error error => rfl
      | ok found => rfl
  constructor
  · intro h
    obtain ⟨providerKey, hprovider, -⟩ := except_bind_ok.mp h
    obtain ⟨hne, -⟩ := (providerObjectKey_eq_ok hscope).mp hprovider
    rw [hrun hne] at h
    obtain ⟨⟨ensured, parent⟩, hensured, hpair⟩ := except_bind_ok.mp h
    cases hpair
    exact ⟨hne, rfl, hensured⟩
  · rintro ⟨hne, rfl, hensured⟩
    rw [hrun hne]
    exact except_bind_ok.mpr ⟨(tree', folder), hensured, rfl⟩

/-- What an accepted upload has walked, created and written. -/
theorem putObject_spec {drive drive' : ScopedDrive B} {container key : String} {body : B}
    {scope : Scope} {place : List String}
    (h : putObject config drive container key body = .ok (drive', (scope, place))) :
    containerScope config container = .ok scope ∧ nonEmptySegments key ≠ [] ∧
      ∃ tree folder tree', ensureFolders ensureFolder (drive.tree scope) []
          (trimmedSegments (parentSegments config key)) = .ok (tree, folder) ∧
        tree.writeFile folder (fileNameOf key) body = some tree' ∧
        place = folder ++ [fileNameOf key] ∧ drive' = drive.setTree scope tree' := by
  obtain ⟨found, hscope, h₁⟩ := except_bind_ok.mp h
  obtain ⟨⟨tree, folder, name⟩, hensured, h₂⟩ := except_bind_ok.mp h₁
  obtain ⟨tree', hcommit, h₃⟩ := except_bind_ok.mp h₂
  obtain ⟨rfl, hlocation⟩ := Prod.mk.inj (Except.ok.inj h₃)
  obtain ⟨rfl, rfl⟩ := Prod.mk.inj hlocation
  obtain ⟨hne, rfl, hfolders⟩ := (ensureManagedParentFolderId_eq_ok hscope).mp hensured
  unfold commitMultiUpload at hcommit
  split at hcommit
  · rename_i written hwrite
    obtain rfl := Except.ok.inj hcommit
    exact ⟨hscope, hne, tree, folder, written, hfolders, hwrite, rfl, rfl⟩
  · cases hcommit

/-! ## Section 4: An uploaded object -/

/-- The key is in normal form, and every segment on the way to its file is its own display
name. -/
def PlainKey (config : TelecomConfig) (key : String) : Prop :=
  normalizeObjectKey key = key ∧
    ∀ segment ∈ parentSegments config key ++ [fileNameOf key], IsDisplayed segment

instance (key : String) : Decidable (PlainKey config key) :=
  inferInstanceAs (Decidable (_ ∧ _))

/-- The state of a drive in which a key's object can be told apart: if the folder of the key
is there, it holds no other file with the key's file name as its display name, and if the
folder of the root prefix is there, nothing below it is nameless. -/
structure Distinguishes (config : TelecomConfig) (tree : FileTree B) (key : String) : Prop where
  alone : ∀ folder, resolveFolder displayName tree [] (parentSegments config key) = some folder →
    Alone tree folder (fileNameOf key)
  displayed : ∀ root, resolveFolder displayName tree [] (prefixSegments config) = some root →
    AllDisplayed tree root

/-- The calls of the adapter on a drive. -/
def telecomAdapter (config : TelecomConfig) :
    BlobAdapter (ScopedDrive B) (Scope × List String) B where
  putObject := putObject config
  headObject := headObject config
  getObject := getObject config
  deleteObject := deleteObject config
  listObjects := listObjects config
  remove := fun drive item => drive.setTree item.1 ((drive.tree item.1).removeAt item.2)
  Below := fun container item => containerScope config container = .ok item.1 ∧
    ∃ names rest, item.2 = names ++ rest ∧ rest ≠ [] ∧
      names.map displayName = (trimmedSegments (prefixSegments config)).map some

theorem telecomAdapter_listObjects :
    (telecomAdapter (B := B) config).listObjects = listObjects config := rfl

theorem listing_join (keyPrefix : Option String) (folderKey childName : String) :
    (listing keyPrefix).join folderKey childName = joinTrimmed folderKey childName := by
  simp only [listing, joinRelativeKey]

theorem plain_listing : (listing none).Plain where
  label_segment := by
    intro name want hname hlabel
    simp only [listing] at hlabel
    exact isSegment_displayName hname hlabel
  join_key := by
    intro segments want hsegments hwant
    rw [listing_join]
    exact joinTrimmed_joinKey hsegments hwant
  all_folders := fun _ => rfl
  all_files := fun _ => rfl

/-- What a listing of a container holds: the map of what the loop finds from its folder. -/
theorem listObjects_all {drive : ScopedDrive B} {container : String} {scope : Scope}
    {root : List String} (hscope : containerScope config container = .ok scope)
    (hroot : resolveFolder displayName (drive.tree scope) []
      (trimmedSegments (prefixSegments config)) = some root)
    {objects : List (ObjectInfo (Scope × List String))} :
    listObjects config drive (.all container) = .ok objects ↔
      ∃ found, walk (listing none) (drive.tree scope) [(root, "")] [] = .ok found ∧
        objects = (objectMap none (found.map (reported (fun place => (scope, place))))).rows := by
  have hrootId := @resolveScopeContainerRootFolderId_eq B config drive container scope hscope
  rw [hroot] at hrootId
  have hrun : listObjects config drive (.all container) = (do
      let found ← walk (listing none) (drive.tree scope) [(root, "")] []
      return (objectMap none (found.map (reported (fun place => (scope, place))))).rows) := by
    simp only [listObjects, listObjectsInRoot, ListObjectsRequest.all,
      validateContainer_eq_ok hscope, hscope, hrootId, bind, Except.bind]
    rfl
  rw [hrun, except_bind_ok]
  constructor
  · rintro ⟨found, hfound, hobjects⟩
    exact ⟨found, hfound, (Except.ok.inj hobjects).symm⟩
  · rintro ⟨found, hfound, rfl⟩
    exact ⟨found, hfound, rfl⟩

theorem headObject_eq_ok {drive : ScopedDrive B} {container key : String} {scope : Scope}
    (hscope : containerScope config container = .ok scope) (hne : nonEmptySegments key ≠ [])
    {info : ObjectInfo (Scope × List String)} :
    headObject config drive container key = .ok info ↔
      ∃ entry, resolveProviderFileEntry (drive.tree scope)
          (joinKey (parentSegments config key ++ [fileNameOf key])) = .ok entry ∧
        info = ⟨normalizeObjectKey key, (scope, entry.place)⟩ := by
  have hprovider := (@providerObjectKey_eq_ok config container key scope hscope _).mpr ⟨hne, rfl⟩
  have hvisible := userVisibleObjectKey_eq_ok hscope hne
  simp only [headObject, hscope, hprovider, except_bind_ok]
  constructor
  · rintro ⟨_, hscope', _, hprovider', entry, hentry, visible, hvisible', hinfo⟩
    cases hscope'
    cases hprovider'
    rw [hvisible] at hvisible'
    cases hvisible'
    exact ⟨entry, hentry, (Except.ok.inj hinfo).symm⟩
  · rintro ⟨entry, hentry, rfl⟩
    exact ⟨scope, rfl, _, rfl, entry, hentry, _, hvisible, rfl⟩

/-- The file of an accepted upload on the drive after it. -/
structure Uploaded (config : TelecomConfig) (drive : ScopedDrive B) (container key : String)
    (body : B) (scope : Scope) (folder : List String) (name : String) : Prop where
  scope_eq : containerScope config container = .ok scope
  segments_ne : nonEmptySegments key ≠ []
  name_eq : fileNameOf key = name
  folder_eq : resolveFolder displayName (drive.tree scope) []
    (trimmedSegments (parentSegments config key)) = some folder
  mem_items : ⟨folder, name, some body⟩ ∈ (drive.tree scope).items

/-- Labels that a walk has found are display names. -/
theorem isDisplayed_of_resolveFolder {tree : FileTree B} {segments parent folder : List String}
    (h : resolveFolder displayName tree parent segments = some folder) :
    ∀ segment ∈ segments, IsDisplayed segment := by
  obtain ⟨names, -, hlabels⟩ := resolveFolder_eq_some h
  intro segment hsegment
  have hmem : some segment ∈ names.map displayName := by
    rw [hlabels]
    exact List.mem_map_of_mem hsegment
  obtain ⟨name, -, hname⟩ := List.mem_map.mp hmem
  exact isDisplayed_of_displayName hname

/-- The paths of an uploaded object are faithful exactly when its key is plain, its file is
alone with its name and everything below the root prefix has a name. -/
theorem faithful_iff_of_uploaded {drive : ScopedDrive B} {container key : String} {body : B}
    {scope : Scope} {folder : List String} {name : String}
    (h : Uploaded config drive container key body scope folder name) :
    (telecomAdapter config).Faithful drive container key body (scope, folder ++ [name]) ↔
      PlainKey config key ∧ Alone (drive.tree scope) folder name ∧
        ∀ root, resolveFolder displayName (drive.tree scope) []
          (trimmedSegments (prefixSegments config)) = some root →
            AllDisplayed (drive.tree scope) root := by
  have hlocate : Function.Injective (fun place : List String => (scope, place)) :=
    fun _ _ hplace => (Prod.mk.inj hplace).2
  have hall := areSegments_append.mpr ⟨@areSegments_parentSegments config key,
    areSegments_singleton.mpr (isSegment_fileNameOf h.segments_ne)⟩
  have hkeySegments := areSegments_nonEmptySegments key
  have hnormal := nonEmptySegments_eq h.segments_ne
  have hhead {info : ObjectInfo (Scope × List String)} :=
    @headObject_eq_ok B config drive container key scope h.scope_eq h.segments_ne info
  have hresolve {entry : Item B} :=
    @resolveProviderFileEntry_eq_ok B (drive.tree scope) _ _ hall entry
  have hplain : PlainKey config key ↔ key = joinKey (nonEmptySegments key) ∧
      ∀ segment ∈ parentSegments config key ++ [fileNameOf key], IsDisplayed segment :=
    and_congr_left (fun _ => eq_comm)
  -- the folder of the container, and the folders below it
  have hfolder := h.folder_eq
  rw [parentSegments, trimmedSegments_append, resolveFolder_append] at hfolder
  obtain ⟨root, hroot, hbelow⟩ := Option.bind_eq_some_iff.mp hfolder
  rw [h.name_eq] at hnormal hresolve hplain
  have hinit : AreSegments (nonEmptySegments key).dropLast := fun segment hsegment =>
    hkeySegments segment (List.dropLast_subset _ hsegment)
  have hshown (htrimmed : trimmedSegments (nonEmptySegments key).dropLast =
      (nonEmptySegments key).dropLast) :=
    @shown_iff B (Scope × List String) (listing none) (drive.tree scope) plain_listing rfl root
      folder (nonEmptySegments key).dropLast name key body _ hlocate hinit (htrimmed ▸ hbelow)
      h.mem_items
  constructor
  · intro hfaithful
    obtain ⟨info, hinfo, hitem⟩ := hfaithful.head
    obtain ⟨objects, hobjects, hlisted, -⟩ := hfaithful.list
    rw [telecomAdapter_listObjects] at hobjects
    obtain ⟨entry, hentry, rfl⟩ := hhead.mp hinfo
    rw [h.name_eq] at hentry
    obtain ⟨folder', hfolder', hfind⟩ := hresolve.mp hentry
    obtain ⟨hentryMem, hentryParent, -, hentryName⟩ := findFile_eq_some hfind
    have hplace : entry.place = folder ++ [name] := congrArg Prod.snd hitem
    have hentryEq : entry = ⟨folder, name, some body⟩ := by
      apply eq_of_place_eq hentryMem h.mem_items
      rw [hplace, Item.place_mk]
    obtain rfl : folder' = folder := by
      rw [← hentryParent, hentryEq]
    -- the walk that does not trim has found every segment as a display name
    have hparents := isDisplayed_of_resolveFolder hfolder'
    have hdisplayed : IsDisplayed name := by
      rw [hentryEq] at hentryName
      exact hentryName
    have htrimmed : trimmedSegments (nonEmptySegments key).dropLast =
        (nonEmptySegments key).dropLast :=
      walkSegments_of_displayed (fun segment hsegment =>
        hparents segment (List.mem_append_right _ hsegment))
    obtain ⟨found, hfound, rfl⟩ := (listObjects_all h.scope_eq hroot).mp hobjects
    rw [hentryEq] at hfind
    obtain ⟨hkey, -, hnames, hfiles⟩ :=
      (hshown htrimmed).mp ⟨hfind, found, hfound, Table.mem_rows.mp hlisted⟩
    refine ⟨hplain.mpr ⟨?_, ?_⟩, (filesLabelled_eq_singleton_iff h.mem_items hdisplayed).mp hfiles,
      ?_⟩
    · rw [hnormal]
      exact hkey
    · exact List.forall_mem_append.mpr ⟨hparents, List.forall_mem_singleton.mpr hdisplayed⟩
    · intro root' hroot'
      obtain rfl := Option.some.inj (hroot.symm.trans hroot')
      exact hnames
  · rintro ⟨hkeyPlain, halone, hnames⟩
    obtain ⟨hkey, hsegments⟩ := hplain.mp hkeyPlain
    obtain ⟨hparents, hdisplayed⟩ := List.forall_mem_append.mp hsegments
    have htrimmed : trimmedSegments (nonEmptySegments key).dropLast =
        (nonEmptySegments key).dropLast :=
      walkSegments_of_displayed (fun segment hsegment =>
        hparents segment (List.mem_append_right _ hsegment))
    have hname := List.forall_mem_singleton.mp hdisplayed
    have hfiles := (filesLabelled_eq_singleton_iff h.mem_items hname).mpr halone
    have hkeyName : key = joinKey ((nonEmptySegments key).dropLast ++ [name]) := by
      rw [← hnormal]
      exact hkey
    obtain ⟨hfind, found, hfound, hlisted⟩ :=
      (hshown htrimmed).mpr ⟨hkeyName, hname, hnames root hroot, hfiles⟩
    have hfolder' : resolveFolder displayName (drive.tree scope) [] (parentSegments config key) =
        some folder := by
      have hwhole : trimmedSegments (parentSegments config key) = parentSegments config key :=
        walkSegments_of_displayed hparents
      rw [← hwhole]
      exact h.folder_eq
    have hentry : resolveProviderFileEntry (drive.tree scope)
        (joinKey (parentSegments config key ++ [fileNameOf key])) =
          .ok ⟨folder, name, some body⟩ := by
      rw [h.name_eq]
      exact hresolve.mpr ⟨folder, hfolder', hfind⟩
    have hprovider :=
      (@providerObjectKey_eq_ok config container key scope h.scope_eq _).mpr ⟨h.segments_ne, rfl⟩
    have hvisible := userVisibleObjectKey_eq_ok h.scope_eq h.segments_ne
    have hheadOk : headObject config drive container key =
        .ok ⟨normalizeObjectKey key, (scope, folder ++ [name])⟩ :=
      hhead.mpr ⟨_, hentry, by rw [Item.place_mk]⟩
    have hget : getObject config drive container key =
        .ok (⟨normalizeObjectKey key, (scope, folder ++ [name])⟩, body) := by
      simp only [getObject, h.scope_eq, hprovider, hentry, hvisible, bind, Except.bind,
        Item.place_mk]
      rfl
    have hdelete : deleteObject config drive container key =
        .ok (drive.setTree scope ((drive.tree scope).removeAt (folder ++ [name]))) := by
      simp only [deleteObject, h.scope_eq, hprovider, hentry, bind, Except.bind, Item.place_mk]
      rfl
    have hlist : ∃ objects, listObjects config drive (.all container) = .ok objects ∧
        ⟨key, (scope, folder ++ [name])⟩ ∈ objects ∧
          ∀ info ∈ objects, info.item = (scope, folder ++ [name]) → info.key = key := by
      refine ⟨_, (listObjects_all h.scope_eq hroot).mpr ⟨found, hfound, rfl⟩,
        Table.mem_rows.mpr hlisted, ?_⟩
      intro info hinfo hitem
      have hinfoKey := key_of_listed plain_listing rfl hlocate (htrimmed ▸ hbelow) hname hfound
        (Table.mem_rows.mp hinfo) hitem
      exact hinfoKey.trans hkeyName.symm
    rw [← telecomAdapter_listObjects] at hlist
    obtain ⟨names, hrootPlace, hlabels⟩ := resolveFolder_eq_some hroot
    obtain ⟨way, hway, -⟩ := resolveFolder_eq_some hbelow
    have hbelowRoot : ∃ names rest, folder ++ [name] = names ++ rest ∧ rest ≠ [] ∧
        names.map displayName = (trimmedSegments (prefixSegments config)).map some := by
      refine ⟨names, way ++ [name], ?_, by simp, hlabels⟩
      rw [hway, hrootPlace, List.nil_append, List.append_assoc]
    exact ⟨⟨h.scope_eq, hbelowRoot⟩, ⟨_, hheadOk, rfl⟩, ⟨_, hget, rfl⟩, hdelete, hlist⟩

/-! ## Section 5: Before the upload -/

/-- A file that is written keeps its name, and changes no other name. -/
theorem alone_iff_of_writeFile {tree tree' : FileTree B} {folder : List String} {name : String}
    {body : B} (h : tree.writeFile folder name body = some tree') :
    Alone tree' folder name ↔ Alone tree folder name := by
  unfold writeFile at h
  split at h
  · split at h
    · cases h
    · obtain rfl := Option.some.inj h
      simp only [Alone, setContent, List.forall_mem_map, Item.rewrite_parent,
        Item.rewrite_isFolder, Item.rewrite_name]
  · simp only [Alone, (add_eq_some h).1, List.forall_mem_append, List.forall_mem_singleton]
    exact and_iff_left (fun _ _ _ => trivial)

theorem allDisplayed_iff_of_writeFile {tree tree' : FileTree B} {folder root : List String}
    {name : String} {body : B} (h : tree.writeFile folder name body = some tree')
    (hname : IsDisplayed name) : AllDisplayed tree' root ↔ AllDisplayed tree root := by
  unfold writeFile at h
  split at h
  · split at h
    · cases h
    · obtain rfl := Option.some.inj h
      simp only [AllDisplayed, setContent, List.forall_mem_map, Item.rewrite_place,
        Item.rewrite_name]
  · simp only [AllDisplayed, (add_eq_some h).1, List.forall_mem_append, List.forall_mem_singleton]
    exact and_iff_left (fun _ _ _ => ne_of_eq_of_ne hname (Option.some_ne_none _))

/-- An accepted upload is faithful exactly when its key is plain and the drive before it let
the key's object be told apart. -/
theorem faithful_iff {drive drive' : ScopedDrive B} {container key : String} {body : B}
    {scope : Scope} {place : List String}
    (h : putObject config drive container key body = .ok (drive', (scope, place))) :
    (telecomAdapter config).Faithful drive' container key body (scope, place) ↔
      PlainKey config key ∧ Distinguishes config (drive.tree scope) key := by
  obtain ⟨hscope, hne, tree, folder, tree', hensured, hwrite, rfl, rfl⟩ := putObject_spec h
  have htrimmed : ∀ segment ∈ trimmedSegments (parentSegments config key), IsDisplayed segment :=
    fun _ hsegment => isDisplayed_of_mem_trimmedSegments hsegment
  obtain ⟨-, hresolved, -, -⟩ := ensureFolders_spec ensuresFolder_ensureFolder htrimmed hensured
  have hkeeps := @keepsFolders_writeFile B displayName tree tree' folder (fileNameOf key) body hwrite
  have huploaded : Uploaded config (drive.setTree scope tree') container key body scope folder
      (fileNameOf key) := by
    refine ⟨hscope, hne, rfl, ?_, ?_⟩
    · rw [ScopedDrive.tree_setTree]
      exact resolveFolder_mono hkeeps hresolved
    · rw [ScopedDrive.tree_setTree]
      exact mem_writeFile hwrite
  rw [faithful_iff_of_uploaded huploaded, ScopedDrive.tree_setTree]
  apply and_congr_right
  rintro ⟨-, hsegments⟩
  obtain ⟨hparents, hname⟩ := List.forall_mem_append.mp hsegments
  -- nothing was trimmed, so the folders are those that the segments themselves lead to
  have hwhole : trimmedSegments (parentSegments config key) = parentSegments config key :=
    walkSegments_of_displayed hparents
  have hroots : trimmedSegments (prefixSegments config) = prefixSegments config :=
    walkSegments_of_displayed (fun segment hsegment =>
      hparents segment (List.mem_append_left _ hsegment))
  rw [hwhole] at hensured hresolved
  rw [alone_iff_of_writeFile hwrite, hroots,
    alone_iff_of_ensureFolders ensuresFolder_ensureFolder hparents hensured]
  rw [parentSegments, resolveFolder_append] at hresolved
  obtain ⟨root, hroot, -⟩ := Option.bind_eq_some_iff.mp hresolved
  have hnames : (∀ root', resolveFolder displayName tree' [] (prefixSegments config) = some root' →
      AllDisplayed tree' root') ↔ ∀ before, resolveFolder displayName (drive.tree scope) []
        (prefixSegments config) = some before → AllDisplayed (drive.tree scope) before := by
    rw [parentSegments] at hensured
    rw [← allDisplayed_iff_of_ensureFolders ensuresFolder_ensureFolder hparents hensured hroot,
      ← allDisplayed_iff_of_writeFile hwrite (List.forall_mem_singleton.mp hname)]
    constructor
    · intro hall
      exact hall root (resolveFolder_mono hkeeps hroot)
    · intro hall root' hroot'
      obtain rfl := Option.some.inj ((resolveFolder_mono hkeeps hroot).symm.trans hroot')
      exact hall
  rw [hnames]
  exact ⟨fun hpre => ⟨hpre.1, hpre.2⟩, fun hpre => ⟨hpre.alone, hpre.displayed⟩⟩

end Netdisk2Blob.Providers.Telecom
