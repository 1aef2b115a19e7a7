import Netdisk2Blob.Providers.MobileActions
import Netdisk2Blob.Providers.MobilePaths
import Netdisk2Blob.Providers.MobileUpload

/-!
# What a Failed Action Leaves on the Mobile Drive

The runs of `rename_object`, `move_object` and `copy_object` that end with an error, whichever of
their calls are refused. Up to the call that moves or copies the file a run has only looked and
made folders; after that call a failure is followed by the calls that undo it all.

## Contents

- `objectAt`: the object at a key; `Looked`: steps that only look
- `Grown`, `Stopped`: a drive on which folders were made, and a run that has only gone forward
- `ensureManagedParent_stopped`, `ensureManagedParent_of_folder`: the walk to a folder
- `cleanup_restores`, `rollBack_restores`: what the calls to undo bring back
- `Ended`, `Kept`, `Ended.kept_iff`: how an action can fail, and when that leaves what was there
-/

namespace Netdisk2Blob.Providers.Mobile.Actions

open Library Text Library.Program Blob

variable {account : MobileAccount} {s t : Session Request MobileDrive}

/-! ## Section 1: The object at a key -/

/-- The folder that the folders of these display names lead to. -/
def walkFolders (items : List DriveItem) : List String → String → Option String
  | [], current => some current
  | segment :: segments, current =>
    (folderNamed (childrenOf items current) segment).bind
      (fun folder => walkFolders items segments folder.id)

def nativeRoot (account : MobileAccount) (container : String) : Option String :=
  if container = "root" then account.rootFolderId
  else if container = "family" then account.familyRootFolderId
  else none

/-- The folder of an object. -/
def folderOf (account : MobileAccount) (place : ObjectPlace) (items : List DriveItem) :
    Option String :=
  (nativeRoot account place.container).bind
    (walkFolders items (containerWalk account.paths place.container ++ parentWalk place.key))

/-- The object at a key: the first file of its folder that has its file name. -/
def objectAt (account : MobileAccount) (place : ObjectPlace) (items : List DriveItem) :
    Option DriveItem :=
  (folderOf account place items).bind
    (fun folder => fileNamed (childrenOf items folder) (fileNameOf place.key))

theorem walkFolders_append (items : List DriveItem) (front back : List String) (current : String) :
    walkFolders items (front ++ back) current =
      (walkFolders items front current).bind (walkFolders items back) := by
  induction front generalizing current with
  | nil => rfl
  | cons segment segments ih =>
      rw [List.cons_append, walkFolders, walkFolders, Option.bind_assoc]
      apply Option.bind_congr
      intro folder _
      exact ih folder.id

/-- The object is a file of its folder. -/
theorem objectAt_eq_some {place : ObjectPlace} {items : List DriveItem} {entry : DriveItem}
    (h : objectAt account place items = some entry) :
    entry ∈ items ∧ entry.isFolder = false ∧ folderOf account place items = some entry.parent ∧
      displayName entry.name = some (fileNameOf place.key) := by
  obtain ⟨folder, hfolder, hfile⟩ := Option.bind_eq_some_iff.mp h
  have hmem := List.mem_of_find?_eq_some hfile
  have hfound := List.find?_some hfile
  rw [Bool.and_eq_true, Bool.not_eq_true', decide_eq_true_eq] at hfound
  obtain ⟨hitem, hparent⟩ := List.mem_filter.mp hmem
  rw [of_decide_eq_true hparent]
  exact ⟨hitem, hfound.1, hfolder, hfound.2⟩

/-! ## Section 2: Steps that only look -/

/-- The request looks at the drive. -/
def IsLook (request : Request) : Prop :=
  request.undoing = false ∧
    (request.call = .familyDiskInfo ∨ ∃ parent, request.call = .list parent)

theorem isLook_list (parent : String) : IsLook ⟨.list parent, false⟩ := ⟨rfl, Or.inr ⟨parent, rfl⟩⟩

/-- Looking changes nothing. -/
theorem calls_look {α : Type} {p : Remote α} {a : α} (hp : Makes IsLook p)
    (h : Calls perform p s a t) : t.state = s.state := by
  apply calls_keep hp _ h
  intro request drive value drive' hlook hperform
  obtain ⟨call, undoing⟩ := request
  obtain ⟨-, rfl | ⟨parent, rfl⟩⟩ := hlook
  · cases hperform
    rfl
  · cases hperform
    rfl

/-- Nothing was done but looking. -/
def Looked (s t : Session Request MobileDrive) : Prop :=
  t.state = s.state ∧ ∃ new, t.log = s.log ++ new ∧ ∀ entry ∈ new, IsLook entry.1

theorem Looked.refl (s : Session Request MobileDrive) : Looked s s :=
  ⟨rfl, [], (List.append_nil _).symm, fun _ hentry => absurd hentry List.not_mem_nil⟩

theorem Looked.trans {m : Session Request MobileDrive} (h : Looked s m) (h' : Looked m t) :
    Looked s t := by
  obtain ⟨hstate, new, hlog, hnew⟩ := h
  obtain ⟨hstate', new', hlog', hnew'⟩ := h'
  refine ⟨hstate'.trans hstate, new ++ new', ?_, ?_⟩
  · rw [hlog', hlog, List.append_assoc]
  · intro entry hentry
    rcases List.mem_append.mp hentry with hentry | hentry
    · exact hnew entry hentry
    · exact hnew' entry hentry

theorem looked_of_calls {α : Type} {p : Remote α} {a : α} (hp : Makes IsLook p)
    (h : Calls perform p s a t) : Looked s t :=
  ⟨calls_look hp h, calls_log hp h⟩

theorem makes_nativeRoot (container : String) :
    Makes IsLook (nativeRootFolderIdForContainer account container) := by
  rw [nativeRootFolderIdForContainer]
  split
  · cases account.rootFolderId with
    | none => exact makes_pure
    | some root => exact makes_pure
  · split
    · apply makes_attempt
      · exact makes_ask ⟨rfl, Or.inl rfl⟩
      · exact fun _ => makes_pure
      · intro _
        cases account.familyRootFolderId with
        | none => exact makes_pure
        | some root => exact makes_pure
    · exact makes_pure

theorem makes_findChildFolderId (parent name : String) :
    Makes IsLook (findChildFolderId parent name) := by
  rw [findChildFolderId]
  split
  · exact makes_pure
  · exact makes_andThen (makes_ask (isLook_list parent)) (fun _ => makes_pure)

theorem makes_resolveChildFolders (segments : List String) (current : String) :
    Makes IsLook (resolveChildFolders segments current) := by
  induction segments generalizing current with
  | nil => exact makes_pure
  | cons segment segments ih =>
      rw [resolveChildFolders]
      apply makes_andThen (makes_findChildFolderId current segment)
      intro child
      cases child with
      | none => exact makes_pure
      | some child => exact ih child

theorem makes_resolveChildDirectoryPath (parent path : String) :
    Makes IsLook (resolveChildDirectoryPathIfExists parent path) := by
  rw [resolveChildDirectoryPathIfExists]
  split
  · exact makes_pure
  · exact makes_resolveChildFolders _ _

theorem makes_resolveContainerRoot (container : String) :
    Makes IsLook (resolveContainerRootFolderId account container) := by
  rw [resolveContainerRootFolderId]
  apply makes_andThen (makes_nativeRoot container)
  intro root
  apply makes_andThen makes_pure
  exact fun managed => makes_resolveChildDirectoryPath root managed

theorem makes_resolveParent (root key : String) : Makes IsLook (resolveParent root key) := by
  rw [resolveParent]
  split
  · exact makes_andThen (makes_resolveChildDirectoryPath _ _) (fun _ => makes_pure)
  · exact makes_pure

theorem makes_resolveObjectEntry (container key : String) :
    Makes IsLook (resolveObjectEntry account container key) := by
  rw [resolveObjectEntry]
  apply makes_andThen makes_pure
  intro _
  apply makes_andThen (makes_resolveContainerRoot container)
  intro root
  cases root with
  | none => exact makes_pure
  | some root =>
      apply makes_andThen (makes_resolveParent root _)
      intro resolved
      obtain ⟨parent, name⟩ := resolved
      cases parent with
      | none => exact makes_pure
      | some parent =>
          apply makes_andThen (makes_ask (isLook_list parent))
          intro items
          dsimp only
          split
          · exact makes_pure
          · exact makes_pure

/-! ## Section 3: What a walk finds -/

theorem calls_list {parent : String} {items : List DriveItem}
    (h : Calls perform (ask (.list parent)) s (.ok items) t) :
    items = childrenOf s.state.items parent := by
  rcases calls_ask.mp h with ⟨error, herror, -⟩ | ⟨value, state, hperform, hvalue, -⟩
  · cases herror
  · cases hperform
    exact Except.ok.inj hvalue

theorem nativeRoot_of_calls {container root : String}
    (h : Calls perform (nativeRootFolderIdForContainer account container) s (.ok root) t) :
    nativeRoot account container = some root := by
  rw [nativeRootFolderIdForContainer] at h
  rw [nativeRoot]
  split at h
  · cases hroot : account.rootFolderId with
    | none =>
        rw [hroot] at h
        cases (calls_pure.mp h).1
    | some id =>
        rename_i hcontainer
        rw [hroot] at h
        rw [if_pos hcontainer, Except.ok.inj (calls_pure.mp h).1]
  · rename_i hcontainer
    rw [if_neg hcontainer]
    split at h
    · rcases calls_attempt.mp h with ⟨value, m, -, hnext⟩ | ⟨error, m, failure, -, -, herror⟩
      · cases hroot : account.familyRootFolderId with
        | none =>
            rw [hroot] at hnext
            cases (calls_pure.mp hnext).1
        | some id =>
            rename_i hfamily
            rw [hroot] at hnext
            rw [if_pos hfamily, Except.ok.inj (calls_pure.mp hnext).1]
      · cases herror
    · cases (calls_pure.mp h).1

theorem findChildFolderId_of_calls {parent name : String} (hname : IsDisplayed name)
    {child : Option String}
    (h : Calls perform (findChildFolderId parent name) s (.ok child) t) :
    child = (folderNamed (childrenOf s.state.items parent) name).map DriveItem.id := by
  obtain ⟨htrim, hne⟩ := isDisplayed_iff.mp hname
  rw [findChildFolderId, htrim, if_neg hne] at h
  obtain ⟨items, m, hlist, hvalue⟩ := calls_andThen_ok.mp h
  rw [calls_list hlist] at hvalue
  exact (Except.ok.inj (calls_pure.mp hvalue).1).symm

theorem resolveChildFolders_of_calls {segments : List String} {current : String}
    (hsegments : ∀ segment ∈ segments, IsDisplayed segment) {found : Option String}
    (h : Calls perform (resolveChildFolders segments current) s (.ok found) t) :
    found = walkFolders s.state.items segments current := by
  induction segments generalizing current s with
  | nil => exact (Except.ok.inj (calls_pure.mp h).1).symm
  | cons segment segments ih =>
      obtain ⟨hsegment, hrest⟩ := List.forall_mem_cons.mp hsegments
      rw [resolveChildFolders] at h
      obtain ⟨child, m, hfind, hnext⟩ := calls_andThen_ok.mp h
      have hstate := calls_look (makes_findChildFolderId current segment) hfind
      have hchild := findChildFolderId_of_calls hsegment hfind
      rw [walkFolders]
      cases hfolder : folderNamed (childrenOf s.state.items current) segment with
      | none =>
          rw [hfolder] at hchild
          rw [hchild] at hnext
          exact (Except.ok.inj (calls_pure.mp hnext).1).symm
      | some folder =>
          rw [hfolder] at hchild
          rw [hchild] at hnext
          rw [ih hrest hnext, hstate]
          rfl

theorem resolveChildDirectoryPath_of_calls {parent path : String} {found : Option String}
    (h : Calls perform (resolveChildDirectoryPathIfExists parent path) s (.ok found) t) :
    found = walkFolders s.state.items (walkSegments path) parent := by
  rw [← walkSegments_trimMatches]
  rw [resolveChildDirectoryPathIfExists] at h
  split at h
  · rename_i hempty
    rw [← Except.ok.inj (calls_pure.mp h).1]
    rw [normalizeObjectKey] at hempty
    rw [hempty]
    rfl
  · exact resolveChildFolders_of_calls
      (fun segment hsegment => (isDisplayed_of_mem_walkSegments hsegment).1) h

/-- The walk of a key below the folder of its container. -/
theorem resolveParent_of_calls {root key : String} {resolved : Option String × String}
    (h : Calls perform (resolveParent root (normalizeObjectKey key)) s (.ok resolved) t) :
    resolved = (walkFolders s.state.items (parentWalk key) root, fileNameOf key) := by
  have hsplit := split_normalizeObjectKey key
  rw [resolveParent] at h
  by_cases hnil : (split '/' (normalizeObjectKey key)).dropLast = []
  · rw [hnil, List.nil_append] at hsplit
    obtain ⟨hnone, hself⟩ := rsplitOnce_eq_none hsplit
    rw [hnone] at h
    rw [← Except.ok.inj (calls_pure.mp h).1, parentWalk, hnil, hself]
    rfl
  · rw [rsplitOnce_of_split hnil hsplit] at h
    obtain ⟨parent, m, hparent, hvalue⟩ := calls_andThen_ok.mp h
    have hfound := resolveChildDirectoryPath_of_calls hparent
    rw [walkSegments, split_joinKey_segments hnil
      (fun part hpart => not_mem_of_mem_split (List.dropLast_subset _ hpart))] at hfound
    rw [← Except.ok.inj (calls_pure.mp hvalue).1, hfound]
    rfl

/-- The walk of a container. -/
theorem resolveContainerRoot_of_calls {container : String} {found : Option String}
    (h : Calls perform (resolveContainerRootFolderId account container) s (.ok found) t) :
    found = (nativeRoot account container).bind
      (walkFolders s.state.items (containerWalk account.paths container)) := by
  rw [resolveContainerRootFolderId] at h
  obtain ⟨native, m, hnative, h⟩ := calls_andThen_ok.mp h
  obtain ⟨managed, m', hmanaged, hfound⟩ := calls_andThen_ok.mp h
  obtain ⟨hroot, rfl⟩ := calls_pure.mp hmanaged
  obtain ⟨_, -, hvalue⟩ := except_bind_ok.mp hroot
  have hstate := calls_look (makes_nativeRoot container) hnative
  rw [nativeRoot_of_calls hnative, resolveChildDirectoryPath_of_calls hfound, hstate,
    ← Except.ok.inj hvalue]
  rfl

/-- The walk of a container, and on along a key. -/
theorem folderOf_eq {place : ObjectPlace} {items : List DriveItem} {root : String}
    (h : (nativeRoot account place.container).bind
      (walkFolders items (containerWalk account.paths place.container)) = some root) :
    folderOf account place items = walkFolders items (parentWalk place.key) root := by
  obtain ⟨native, hnative, hwalk⟩ := Option.bind_eq_some_iff.mp h
  rw [folderOf, hnative, Option.bind_some, walkFolders_append, hwalk, Option.bind_some]

/-- What `resolve_object_entry` finds is the object at the key. -/
theorem objectAt_of_calls {place : ObjectPlace} {entry : DriveItem}
    (h : Calls perform (resolveObjectEntry account place.container place.key) s (.ok entry) t) :
    objectAt account place s.state.items = some entry := by
  rw [resolveObjectEntry] at h
  obtain ⟨_, m, hkey, h⟩ := calls_andThen_ok.mp h
  obtain ⟨-, rfl⟩ := calls_pure.mp hkey
  obtain ⟨root, m₁, hroot, h⟩ := calls_andThen_ok.mp h
  have hstate₁ := calls_look (makes_resolveContainerRoot place.container) hroot
  have hrootEq := resolveContainerRoot_of_calls hroot
  cases root with
  | none => cases (calls_pure.mp h).1
  | some root =>
      obtain ⟨resolved, m₂, hparent, h⟩ := calls_andThen_ok.mp h
      have hstate₂ := calls_look (makes_resolveParent root _) hparent
      have hresolved := resolveParent_of_calls hparent
      rw [hstate₁, ← folderOf_eq hrootEq.symm] at hresolved
      rw [hresolved] at h
      rw [objectAt]
      cases hfolder : folderOf account place s.state.items with
      | none =>
          rw [hfolder] at h
          cases (calls_pure.mp h).1
      | some parent =>
          rw [hfolder] at h
          obtain ⟨items, m₃, hlist, h⟩ := calls_andThen_ok.mp h
          have hitems := calls_list hlist
          rw [hstate₂, hstate₁] at hitems
          rw [hitems] at h
          dsimp only at h
          rw [Option.bind_some]
          cases hfound : fileNamed (childrenOf s.state.items parent) (fileNameOf place.key) with
          | none =>
              rw [hfound] at h
              cases (calls_pure.mp h).1
          | some found =>
              rw [hfound] at h
              rw [Except.ok.inj (calls_pure.mp h).1]

/-! ## Section 4: Folders made on the way -/

/-- Folders were made on a drive, each when nothing had its id and nothing stood in it. -/
inductive Grown (base : List DriveItem) : List String → List DriveItem → Prop where
  | none : Grown base [] base
  | folder {created : List String} {items : List DriveItem} (grown : Grown base created items)
      (id parent name : String)
      (fresh : ∀ item ∈ items, item.id ≠ id ∧ item.parent ≠ id) (apart : parent ≠ id) :
      Grown base (created ++ [id]) (items ++ [⟨id, parent, name, none⟩])

/-- The call was carried out, and made a folder. -/
def makesFolder : Request × Bool → Bool
  | (⟨.createFolder _ _, false⟩, done) => done
  | _ => false

/-- The call moved a file, or was to copy one. -/
def turns : Request × Bool → Bool
  | (⟨.batchMove _ _, false⟩, done) => done
  | (⟨.batchCopy _ _, false⟩, _) => true
  | _ => false

abbrev MadeFolder (log : List (Request × Bool)) : Prop := ∃ entry ∈ log, makesFolder entry = true

abbrev Turned (log : List (Request × Bool)) : Prop := ∃ entry ∈ log, turns entry = true

/-- The call neither made a folder nor turned the run, and it undoes nothing. -/
def Harmless (entry : Request × Bool) : Prop :=
  ¬ makesFolder entry = true ∧ ¬ turns entry = true ∧ entry.1.undoing = false

/-- The calls to undo were carried out. -/
abbrev RolledBack (log : List (Request × Bool)) : Prop :=
  ∀ entry ∈ log, entry.1.undoing = true → entry.2 = true

/-- The run has only gone forward: it made some folders, and nothing else was changed. -/
def Stopped (base : List DriveItem) (t : Session Request MobileDrive) (created : List String) :
    Prop :=
  Grown base created t.state.items ∧ (MadeFolder t.log ↔ created ≠ []) ∧
    (∀ entry ∈ t.log, ¬ turns entry = true ∧ entry.1.undoing = false)

theorem madeFolder_append {front back : List (Request × Bool)} :
    MadeFolder (front ++ back) ↔ MadeFolder front ∨ MadeFolder back := by
  simp [MadeFolder, or_and_right, exists_or]

/-- A call that was refused, or changes nothing, lets the run stand where it is. -/
theorem Stopped.stay {base : List DriveItem} {created : List String} {new : List (Request × Bool)}
    (h : Stopped base s created) (hstate : t.state = s.state) (hlog : t.log = s.log ++ new)
    (hnew : ∀ entry ∈ new, Harmless entry) :
    Stopped base t created := by
  obtain ⟨hgrown, hmade, hforward⟩ := h
  refine ⟨?_, ?_, ?_⟩
  · rw [hstate]
    exact hgrown
  · rw [hlog, madeFolder_append, ← hmade]
    apply or_iff_left
    rintro ⟨entry, hentry, hmakes⟩
    exact (hnew entry hentry).1 hmakes
  · rw [hlog]
    intro entry hentry
    rcases List.mem_append.mp hentry with hold | hadded
    · exact hforward entry hold
    · exact (hnew entry hadded).2

/-- A look lets the run stand where it is. -/
theorem Stopped.look {base : List DriveItem} {created : List String} (h : Stopped base s created)
    (hlooked : Looked s t) : Stopped base t created := by
  obtain ⟨hstate, new, hlog, hnew⟩ := hlooked
  apply h.stay hstate hlog
  intro entry hentry
  obtain ⟨⟨call, undoing⟩, done⟩ := entry
  obtain ⟨rfl, hcall | ⟨parent, hcall⟩⟩ := hnew _ hentry
  · obtain rfl : call = .familyDiskInfo := hcall
    exact ⟨Bool.false_ne_true, Bool.false_ne_true, rfl⟩
  · obtain rfl : call = .list parent := hcall
    exact ⟨Bool.false_ne_true, Bool.false_ne_true, rfl⟩

/-- A folder is made: the run has one folder more, or stands where it is. -/
theorem Stopped.createFolder {base : List DriveItem} {created : List String}
    {name parent : String} {result : Except BlobError String} (h : Stopped base s created)
    (hcalls : Calls perform (ask (.createFolder name parent)) s result t) :
    (∃ error, result = .error error ∧ Stopped base t created) ∨
      ∃ id, result = .ok id ∧ Stopped base t (created ++ [id]) := by
  rcases calls_ask.mp hcalls with ⟨error, rfl, rfl⟩ | ⟨value, state, hperform, rfl, rfl⟩
  · left
    refine ⟨error, rfl, h.stay rfl rfl ?_⟩
    intro entry hentry
    rw [List.mem_singleton.mp hentry]
    exact ⟨Bool.false_ne_true, Bool.false_ne_true, rfl⟩
  · right
    rw [perform] at hperform
    split at hperform
    · rename_i hparent
      obtain ⟨rfl, rfl⟩ := Prod.mk.inj (Except.ok.inj hperform)
      obtain ⟨hgrown, -, hforward⟩ := h
      have hfresh := s.state.freshId_not_mem
      refine ⟨_, rfl, ?_, ?_, ?_⟩
      · apply hgrown.folder
        · intro item hitem
          refine ⟨?_, ?_⟩
          · intro heq
            exact hfresh (heq ▸ s.state.issued_id item hitem)
          · intro heq
            exact hfresh (heq ▸ s.state.issued_parent item hitem)
        · intro heq
          exact hfresh (heq ▸ hparent)
      · apply iff_of_true
        · exact madeFolder_append.mpr (Or.inr ⟨_, List.mem_singleton_self _, rfl⟩)
        · exact List.append_ne_nil_of_right_ne_nil _ (List.cons_ne_nil _ _)
      · intro entry hentry
        rcases List.mem_append.mp hentry with hold | hadded
        · exact hforward entry hold
        · rw [List.mem_singleton.mp hadded]
          exact ⟨Bool.false_ne_true, rfl⟩
    · cases hperform

theorem ensureFolder_stopped {base : List DriveItem} {created : List String}
    {parent name : String} {result : Except BlobError (String × Option String)}
    (h : Stopped base s created)
    (hcalls : Calls perform (ensureFolder parent name) s result t) :
    (∃ error, result = .error error ∧ Stopped base t created) ∨
      ∃ value, result = .ok value ∧ Stopped base t (created ++ value.2.toList) := by
  rw [ensureFolder] at hcalls
  rcases calls_andThen.mp hcalls with ⟨error, hfind, rfl⟩ | ⟨existing, m, hfind, hnext⟩
  · exact Or.inl ⟨error, rfl, h.look (looked_of_calls (makes_findChildFolderId parent name) hfind)⟩
  have hlooked := h.look (looked_of_calls (makes_findChildFolderId parent name) hfind)
  cases existing with
  | some existing =>
      obtain ⟨rfl, rfl⟩ := calls_pure.mp hnext
      refine Or.inr ⟨_, rfl, ?_⟩
      rwa [Option.toList_none, List.append_nil]
  | none =>
      rcases calls_andThen.mp hnext with ⟨error, hcreate, rfl⟩ | ⟨id, m', hcreate, hvalue⟩
      · rcases hlooked.createFolder hcreate with ⟨error, -, hstopped⟩ | ⟨id, hok, -⟩
        · exact Or.inl ⟨_, rfl, hstopped⟩
        · cases hok
      · rcases hlooked.createFolder hcreate with ⟨error, herror, -⟩ | ⟨id', hok, hstopped⟩
        · cases herror
        · obtain ⟨rfl, rfl⟩ := calls_pure.mp hvalue
          obtain rfl := Except.ok.inj hok
          exact Or.inr ⟨_, rfl, hstopped⟩

/-- Walking down and making what is missing: only folders are made, and if the walk arrives it
has listed them all. -/
theorem ensureFolders_stopped {base : List DriveItem} {segments : List String} {parent : String}
    {created : List String} {result : Except BlobError (String × List String)}
    (h : Stopped base s created)
    (hcalls : Calls perform (ensureFolders segments parent created) s result t) :
    ∃ made, Stopped base t made ∧ ∀ value, result = .ok value → value.2 = made := by
  induction segments generalizing parent created s with
  | nil =>
      obtain ⟨rfl, rfl⟩ := calls_pure.mp hcalls
      refine ⟨created, h, ?_⟩
      intro value hvalue
      rw [← Except.ok.inj hvalue]
  | cons segment segments ih =>
      rw [ensureFolders] at hcalls
      rcases calls_andThen.mp hcalls with ⟨error, hstep, rfl⟩ | ⟨next, m, hstep, hrest⟩
      · rcases ensureFolder_stopped h hstep with ⟨-, -, hstopped⟩ | ⟨value, hok, -⟩
        · exact ⟨created, hstopped, fun value hvalue => nomatch hvalue⟩
        · cases hok
      · rcases ensureFolder_stopped h hstep with ⟨error, herror, -⟩ | ⟨value, hok, hstopped⟩
        · cases herror
        · obtain rfl := Except.ok.inj hok
          exact ih hstopped hrest

theorem ensureManagedParent_stopped {base : List DriveItem} {place : ObjectPlace}
    {result : Except BlobError ManagedParent} (h : Stopped base s [])
    (hcalls : Calls perform (ensureManagedParentFolderId account place.container place.key) s
      result t) :
    ∃ made, Stopped base t made ∧ ∀ value, result = .ok value → value.createdFolders = made := by
  rw [ensureManagedParentFolderId] at hcalls
  rcases calls_andThen.mp hcalls with ⟨error, hroot, rfl⟩ | ⟨root, m, hroot, hnext⟩
  · exact ⟨[], h.look (looked_of_calls (makes_nativeRoot _) hroot),
      fun value hvalue => nomatch hvalue⟩
  have hlooked := h.look (looked_of_calls (makes_nativeRoot _) hroot)
  rcases calls_andThen_pure.mp hnext with ⟨error, -, rfl, rfl⟩ | ⟨managedKey, -, hnext⟩
  · exact ⟨[], hlooked, fun value hvalue => nomatch hvalue⟩
  split at hnext
  · obtain ⟨rfl, rfl⟩ := calls_pure.mp hnext
    refine ⟨[], hlooked, ?_⟩
    intro value hvalue
    rw [← Except.ok.inj hvalue]
  · rcases calls_andThen.mp hnext with ⟨error, hfolders, rfl⟩ | ⟨ensured, m', hfolders, hvalue⟩
    · obtain ⟨made, hstopped, -⟩ := ensureFolders_stopped hlooked hfolders
      exact ⟨made, hstopped, fun value hvalue => nomatch hvalue⟩
    · obtain ⟨made, hstopped, hmade⟩ := ensureFolders_stopped hlooked hfolders
      obtain ⟨rfl, rfl⟩ := calls_pure.mp hvalue
      refine ⟨made, hstopped, ?_⟩
      intro value hvalue
      rw [← Except.ok.inj hvalue]
      exact hmade ensured rfl

/-- Where the folders are there, they are found. -/
theorem ensureFolders_of_walk {segments : List String} {parent folder : String}
    {created : List String} {result : Except BlobError (String × List String)}
    (hsegments : ∀ segment ∈ segments, IsDisplayed segment)
    (hwalk : walkFolders s.state.items segments parent = some folder)
    (hcalls : Calls perform (ensureFolders segments parent created) s result t) :
    Looked s t ∧ ∀ value, result = .ok value → value = (folder, created) := by
  induction segments generalizing parent created s with
  | nil =>
      obtain ⟨rfl, rfl⟩ := calls_pure.mp hcalls
      refine ⟨Looked.refl s, ?_⟩
      intro value hvalue
      rw [← Except.ok.inj hvalue, Option.some.inj hwalk]
  | cons segment segments ih =>
      obtain ⟨hsegment, hrest⟩ := List.forall_mem_cons.mp hsegments
      obtain ⟨found, hfound, hwalk⟩ := Option.bind_eq_some_iff.mp hwalk
      have hmakes := makes_findChildFolderId parent segment
      rw [ensureFolders] at hcalls
      rcases calls_andThen.mp hcalls with ⟨error, hstep, rfl⟩ | ⟨next, m, hstep, hnext⟩
      · -- the listing was refused: the folder is there, so none is made
        refine ⟨?_, fun value hvalue => nomatch hvalue⟩
        rw [ensureFolder] at hstep
        rcases calls_andThen.mp hstep with ⟨error, hfind, -⟩ | ⟨existing, m, hfind, hcreate⟩
        · exact looked_of_calls hmakes hfind
        · rw [findChildFolderId_of_calls hsegment hfind, hfound] at hcreate
          cases (calls_pure.mp hcreate).1
      · rw [ensureFolder] at hstep
        obtain ⟨existing, m', hfind, hvalue⟩ := calls_andThen_ok.mp hstep
        rw [findChildFolderId_of_calls hsegment hfind, hfound] at hvalue
        obtain ⟨hnextEq, rfl⟩ := calls_pure.mp hvalue
        obtain rfl := Except.ok.inj hnextEq
        have hlooked := looked_of_calls hmakes hfind
        rw [← hlooked.1] at hwalk
        rw [Option.toList_none, List.append_nil] at hnext
        obtain ⟨hlooked', hresult⟩ := ih hrest hwalk hnext
        exact ⟨hlooked.trans hlooked', hresult⟩

/-- An object whose folder is there: the folder is found, and no folder is made. -/
theorem ensureManagedParent_of_folder {place : ObjectPlace} {folder : String}
    {result : Except BlobError ManagedParent}
    (hfolder : folderOf account place s.state.items = some folder)
    (hcalls : Calls perform (ensureManagedParentFolderId account place.container place.key) s
      result t) :
    Looked s t ∧ ∀ value, result = .ok value → value = ⟨folder, fileNameOf place.key, []⟩ := by
  obtain ⟨native, hnative, hwalk⟩ := Option.bind_eq_some_iff.mp hfolder
  have hmakes : Makes IsLook (nativeRootFolderIdForContainer account place.container) :=
    makes_nativeRoot place.container
  rw [ensureManagedParentFolderId] at hcalls
  rcases calls_andThen.mp hcalls with ⟨error, hroot, rfl⟩ | ⟨root, m, hroot, hnext⟩
  · exact ⟨looked_of_calls hmakes hroot, fun value hvalue => nomatch hvalue⟩
  have hlooked := looked_of_calls hmakes hroot
  obtain rfl := Option.some.inj ((nativeRoot_of_calls hroot).symm.trans hnative)
  rcases calls_andThen_pure.mp hnext with ⟨error, -, rfl, rfl⟩ | ⟨managedKey, hkey, hnext⟩
  · exact ⟨hlooked, fun value hvalue => nomatch hvalue⟩
  obtain ⟨_, -, hkey⟩ := except_bind_ok.mp hkey
  obtain ⟨_, -, hkey⟩ := except_bind_ok.mp hkey
  obtain ⟨parentPath, hsplit, hsegments⟩ :=
    @rsplitOnce_managedObjectKey account.paths place.container place.key
  rw [← Except.ok.inj hkey, hsplit] at hnext
  dsimp only at hnext
  rw [hsegments] at hnext
  rw [← hlooked.1] at hwalk
  have hdisplayed : ∀ segment ∈ containerWalk account.paths place.container ++
      parentWalk place.key, IsDisplayed segment :=
    fun _ hsegment => isDisplayed_of_mem_walk hsegment
  rcases calls_andThen.mp hnext with ⟨error, hfolders, rfl⟩ | ⟨ensured, m', hfolders, hvalue⟩
  · obtain ⟨hlooked', -⟩ := ensureFolders_of_walk hdisplayed hwalk hfolders
    exact ⟨hlooked.trans hlooked', fun value hvalue => nomatch hvalue⟩
  · obtain ⟨hlooked', hensured⟩ := ensureFolders_of_walk hdisplayed hwalk hfolders
    obtain ⟨rfl, rfl⟩ := calls_pure.mp hvalue
    refine ⟨hlooked.trans hlooked', ?_⟩
    intro value hvalue
    rw [← Except.ok.inj hvalue, hensured ensured rfl]

/-! ## Section 5: Undoing -/

@[simp] theorem isBelow_self (items : List DriveItem) (folder : String) (steps : Nat) :
    MobileDrive.isBelow items folder steps folder = true := by
  cases steps with
  | zero => simp [MobileDrive.isBelow]
  | succ steps => simp [MobileDrive.isBelow]

/-- Nothing reaches an id in which nothing stands, but itself. -/
theorem isBelow_eq_false {items : List DriveItem} {folder : String}
    (hempty : ∀ item ∈ items, item.parent ≠ folder) {steps : Nat} {id : String}
    (hid : id ≠ folder) : MobileDrive.isBelow items folder steps id = false := by
  induction steps generalizing id with
  | zero => exact decide_eq_false hid
  | succ steps ih =>
      rw [MobileDrive.isBelow, decide_eq_false hid, Bool.false_or]
      cases hfound : items.find? (fun item => decide (item.id = id)) with
      | none => rfl
      | some item =>
          rw [Option.any_some]
          exact ih (hempty item (List.mem_of_find?_eq_some hfound))

/-- Removing a folder in which nothing stands takes the folder alone. -/
theorem remove_leaf {drive : MobileDrive} {id : String}
    (hempty : ∀ item ∈ drive.items, item.parent ≠ id) :
    (drive.remove id).items = drive.items.filter (fun item => decide (item.id ≠ id)) := by
  apply List.filter_congr
  intro item _
  by_cases hid : item.id = id
  · rw [hid, isBelow_self, decide_eq_false (not_not_intro rfl)]
    rfl
  · rw [isBelow_eq_false hempty hid, decide_eq_true hid]
    rfl

/-- A file that goes to another folder and back. -/
theorem setParent_back {drive : MobileDrive} {entry : DriveItem} {parent : String}
    (hentry : entry ∈ drive.items) (hparent : parent ∈ drive.issued)
    (hback : entry.parent ∈ (drive.setParent entry.id parent hparent).issued) :
    ((drive.setParent entry.id parent hparent).setParent entry.id entry.parent hback).items =
      drive.items := by
  show (drive.items.map _).map _ = drive.items
  rw [List.map_map]
  conv_rhs => rw [← List.map_id drive.items]
  apply List.map_congr_left
  intro item hitem
  rw [Function.comp_apply, id_eq]
  by_cases hid : item.id = entry.id
  · obtain rfl := List.inj_on_of_nodup_map drive.distinct hitem hentry hid
    rw [if_pos rfl, if_pos rfl]
  · rw [if_neg hid, if_neg hid]

theorem Grown.mem {base items : List DriveItem} {created : List String}
    (h : Grown base created items) {item : DriveItem} (hitem : item ∈ base) : item ∈ items := by
  induction h with
  | none => exact hitem
  | folder _ id parent name _ _ ih => exact List.mem_append_left _ ih

/-- A call to undo that was not refused. -/
theorem calls_undo {call : MetadataCall} {result : Except BlobError (Value ⟨call, true⟩)}
    (h : Calls perform (undo call) s result t) (hundo : RolledBack t.log) :
    ∃ value state, perform ⟨call, true⟩ s.state = .ok (value, state) ∧ result = .ok value ∧
      t = ⟨state, s.log ++ [(⟨call, true⟩, true)]⟩ := by
  rcases calls_ask.mp h with ⟨error, -, rfl⟩ | hdone
  · cases hundo _ (List.mem_append_right _ (List.mem_singleton_self _)) rfl
  · exact hdone

theorem RolledBack.of_append {front back : List (Request × Bool)}
    (h : RolledBack (front ++ back)) : RolledBack front :=
  fun entry hentry => h entry (List.mem_append_left _ hentry)

/-- What was undone before later calls. -/
theorem RolledBack.before {α : Type} {p : Remote α} {a : α} (h : RolledBack t.log)
    (hcalls : Calls perform p s a t) : RolledBack s.log := by
  obtain ⟨new, hlog, -⟩ := calls_log (makes_true p) hcalls
  rw [hlog] at h
  exact h.of_append

/-- The folders go from the innermost on: each is empty when its turn comes. -/
theorem cleanup_restores {base items : List DriveItem} {created : List String}
    (hgrown : Grown base created items) {result : Except BlobError Unit}
    (hitems : s.state.items = items)
    (hcalls : Calls perform (cleanupCreatedFolders created) s result t)
    (hundo : RolledBack t.log) : t.state.items = base := by
  rw [cleanupCreatedFolders] at hcalls
  induction hgrown generalizing s with
  | none =>
      obtain ⟨-, rfl⟩ := calls_pure.mp hcalls
      exact hitems
  | @folder created items grown id parent name fresh apart ih =>
      rw [List.reverse_append, List.reverse_singleton, List.singleton_append,
        cleanupFrom] at hcalls
      have hleaf : ∀ item ∈ s.state.items, item.parent ≠ id := by
        rw [hitems]
        intro item hitem
        rcases List.mem_append.mp hitem with hold | hnew
        · exact (fresh item hold).2
        · rw [List.mem_singleton.mp hnew]
          exact apart
      have hchildren : childrenOf s.state.items id = [] := by
        apply List.filter_eq_nil_iff.mpr
        intro item hitem
        rw [decide_eq_false (hleaf item hitem)]
        exact Bool.false_ne_true
      rcases calls_andThen.mp hcalls with ⟨error, hlist, -⟩ | ⟨children, m, hlist, hnext⟩
      · obtain ⟨_, _, -, hok, -⟩ := calls_undo hlist hundo
        cases hok
      obtain ⟨value, state, hperform, hok, rfl⟩ := calls_undo hlist (hundo.before hnext)
      obtain ⟨rfl, rfl⟩ := Prod.mk.inj (Except.ok.inj hperform)
      obtain rfl := Except.ok.inj hok
      rw [hchildren, if_pos List.isEmpty_nil] at hnext
      rcases calls_andThen.mp hnext with ⟨error, hdelete, -⟩ | ⟨_, m', hdelete, hrest⟩
      · obtain ⟨_, _, -, hok, -⟩ := calls_undo hdelete hundo
        cases hok
      obtain ⟨_, state, hperform, -, rfl⟩ := calls_undo hdelete (hundo.before hrest)
      obtain ⟨-, rfl⟩ := Prod.mk.inj (Except.ok.inj hperform)
      apply ih _ hrest
      show (s.state.remove id).items = items
      rw [remove_leaf hleaf, hitems, List.filter_append, List.filter_eq_self.mpr,
        List.filter_eq_nil_iff.mpr, List.append_nil]
      · intro item hitem
        rw [List.mem_singleton.mp hitem, decide_eq_false (not_not_intro rfl)]
        exact Bool.false_ne_true
      · intro item hitem
        exact decide_eq_true (fresh item hitem).1

/-! ## Section 6: How an action can fail -/

/-- A failed action either has only gone forward, or it has turned: then it has called to undo what
it did, and if these calls were carried out nothing is left of it. -/
def Ended (base : List DriveItem) (t : Session Request MobileDrive) : Prop :=
  (∃ created, Stopped base t created) ∨
    Turned t.log ∧ (RolledBack t.log → t.state.items = base)

theorem stopped_start (drive : MobileDrive) : Stopped drive.items ⟨drive, []⟩ [] := by
  refine ⟨Grown.none, ?_, fun _ hentry => absurd hentry List.not_mem_nil⟩
  apply iff_of_false
  · rintro ⟨_, hentry, -⟩
    exact List.not_mem_nil hentry
  · exact not_not_intro rfl

theorem Grown.eq_base {base items : List DriveItem} (h : Grown base [] items) : items = base := by
  generalize hcreated : ([] : List String) = created at h
  cases h with
  | none => rfl
  | folder _ id _ _ _ _ => exact absurd hcreated.symm (List.append_ne_nil_of_right_ne_nil _
      (List.cons_ne_nil _ _))

theorem Turned.after {α : Type} {p : Remote α} {a : α} (h : Turned s.log)
    (hcalls : Calls perform p s a t) : Turned t.log := by
  obtain ⟨new, hlog, -⟩ := calls_log (makes_true p) hcalls
  obtain ⟨entry, hentry, hturns⟩ := h
  rw [hlog]
  exact ⟨entry, List.mem_append_left _ hentry, hturns⟩

/-- A renaming that failed has changed nothing. -/
theorem updateFileName_error {fileId newName : String} {error : BlobError}
    (h : Calls perform (updateFileName fileId newName) s (.error error) t) :
    t.state = s.state ∧ ∃ new, t.log = s.log ++ new ∧ ∀ entry ∈ new, Harmless entry := by
  rw [updateFileName] at h
  rcases calls_andThen_pure.mp h with ⟨_, -, -, rfl⟩ | ⟨_, -, hask⟩
  · exact ⟨rfl, [], (List.append_nil _).symm, fun _ hentry => absurd hentry List.not_mem_nil⟩
  · rcases calls_ask.mp hask with ⟨_, -, rfl⟩ | ⟨value, state, -, hok, -⟩
    · refine ⟨rfl, _, rfl, ?_⟩
      intro entry hentry
      rw [List.mem_singleton.mp hentry]
      exact ⟨Bool.false_ne_true, Bool.false_ne_true, rfl⟩
    · cases hok

/-- The file goes back and the new folders go: the drive is as it was. -/
theorem rollBack_restores {base : List DriveItem} {created : List String} {drive : MobileDrive}
    {entry : DriveItem} {parent action : String} {error failure : BlobError}
    (hgrown : Grown base created drive.items) (hentry : entry ∈ drive.items)
    (hparent : parent ∈ drive.issued) (hstate : s.state = drive.setParent entry.id parent hparent)
    (hcalls : Calls perform (rollBack action entry.id (some entry.parent) created error) s failure
      t)
    (hundo : RolledBack t.log) : t.state.items = base := by
  rw [rollBack] at hcalls
  obtain ⟨moved, m, hmove, hnext⟩ := calls_bind.mp hcalls
  obtain ⟨cleaned, m', hcleanup, hend⟩ := calls_bind.mp hnext
  have hundo' : RolledBack m'.log := hundo.before hend
  have hend : t.state = m'.state := by
    dsimp only at hend
    split at hend
    · rw [(calls_pure.mp hend).2]
    · rw [(calls_pure.mp hend).2]
  obtain ⟨_, state, hperform, -, rfl⟩ := calls_undo hmove (hundo'.before hcleanup)
  rw [perform] at hperform
  split at hperform
  · rename_i hback
    obtain ⟨-, rfl⟩ := Prod.mk.inj (Except.ok.inj hperform)
    rw [hend]
    apply cleanup_restores hgrown _ hcleanup hundo'
    obtain ⟨current, log⟩ := s
    obtain rfl : current = drive.setParent entry.id parent hparent := hstate
    exact setParent_back hentry hparent hback
  · cases hperform

/-- The renaming of a file that was moved before. -/
theorem renameEntry_ended {base : List DriveItem} {created : List String} {drive : MobileDrive}
    {entry : DriveItem} {parent action targetName : String} {error : BlobError}
    (hgrown : Grown base created drive.items) (hentry : entry ∈ drive.items)
    (hparent : parent ∈ drive.issued) (hstate : s.state = drive.setParent entry.id parent hparent)
    (hturned : Turned s.log)
    (hcalls : Calls perform (renameEntry action entry targetName (some entry.parent) created) s
      (.error error) t) : Ended base t := by
  refine Or.inr ⟨hturned.after hcalls, ?_⟩
  intro hundo
  rw [renameEntry] at hcalls
  split at hcalls
  · cases (calls_pure.mp hcalls).1
  · rcases calls_attempt.mp hcalls with ⟨_, m, -, hok⟩ | ⟨_, m, _, hupdate, hback, -⟩
    · cases (calls_pure.mp hok).1
    · have hsame := (updateFileName_error hupdate).1
      exact rollBack_restores hgrown hentry hparent (hsame.trans hstate) hback hundo

/-- The renaming of a file that stays in its folder. -/
theorem renameEntry_stopped {base : List DriveItem} {entry : DriveItem}
    {action targetName : String} {error : BlobError} (h : Stopped base s [])
    (hcalls : Calls perform (renameEntry action entry targetName none []) s (.error error) t) :
    Ended base t := by
  rw [renameEntry] at hcalls
  split at hcalls
  · cases (calls_pure.mp hcalls).1
  · rcases calls_attempt.mp hcalls with ⟨_, m, -, hok⟩ | ⟨_, m, _, hupdate, hback, -⟩
    · cases (calls_pure.mp hok).1
    · obtain ⟨hstate, new, hlog, hnew⟩ := updateFileName_error hupdate
      rw [rollBack] at hback
      obtain ⟨cleaned, m', hcleanup, hend⟩ := calls_bind.mp hback
      obtain ⟨-, rfl⟩ := calls_pure.mp hcleanup
      obtain ⟨-, rfl⟩ := calls_pure.mp hend
      exact Or.inl ⟨[], h.stay hstate hlog hnew⟩

theorem relocate_ended {base : List DriveItem} {action targetName : String}
    {source destination : ObjectPlace} {entry : DriveItem} {apart : Bool} {error : BlobError}
    (h : Stopped base s []) (hobject : objectAt account source base = some entry)
    (hcalls : Calls perform (relocate account action source destination entry apart targetName) s
      (.error error) t) : Ended base t := by
  rw [relocate] at hcalls
  split at hcalls
  · obtain ⟨hentry, -, hfolder, -⟩ := objectAt_eq_some hobject
    rw [← h.1.eq_base] at hfolder
    rcases calls_andThen.mp hcalls with ⟨_, hold, -⟩ | ⟨old, m, hold, hcalls⟩
    · exact Or.inl ⟨[], h.look (ensureManagedParent_of_folder hfolder hold).1⟩
    obtain ⟨hlooked, hvalue⟩ := ensureManagedParent_of_folder hfolder hold
    rw [hvalue old rfl] at hcalls
    rcases calls_andThen.mp hcalls with ⟨_, hnew, -⟩ | ⟨new, m', hnew, hcalls⟩
    · -- a folder of the destination could not be made
      obtain ⟨made, hstopped, -⟩ := ensureManagedParent_stopped (h.look hlooked) hnew
      exact Or.inl ⟨made, hstopped⟩
    obtain ⟨made, hstopped, hmade⟩ := ensureManagedParent_stopped (h.look hlooked) hnew
    obtain rfl := hmade new rfl
    rcases calls_andThen.mp hcalls with ⟨_, hmove, -⟩ | ⟨_, m'', hmove, hcalls⟩
    · -- the file could not be moved
      rcases calls_ask.mp hmove with ⟨_, -, rfl⟩ | ⟨_, _, -, hok, -⟩
      · refine Or.inl ⟨_, hstopped.stay rfl rfl ?_⟩
        intro entry hentry
        rw [List.mem_singleton.mp hentry]
        exact ⟨Bool.false_ne_true, Bool.false_ne_true, rfl⟩
      · cases hok
    · rcases calls_ask.mp hmove with ⟨_, herror, -⟩ | ⟨_, state, hperform, -, rfl⟩
      · cases herror
      · rw [perform] at hperform
        split at hperform
        · rename_i hparent
          obtain ⟨-, rfl⟩ := Prod.mk.inj (Except.ok.inj hperform)
          apply renameEntry_ended hstopped.1 (hstopped.1.mem hentry) hparent rfl _ hcalls
          exact ⟨_, List.mem_append_right _ (List.mem_singleton_self _), rfl⟩
        · cases hperform
  · exact renameEntry_stopped h hcalls

theorem renameObject_ended {base : List DriveItem} {request : RenameObjectRequest}
    {error : BlobError} (h : Stopped base s [])
    (hcalls : Calls perform (renameObject account request) s (.error error) t) : Ended base t := by
  have hmakes : Makes IsLook (resolveObjectEntry account request.container request.key) :=
    makes_resolveObjectEntry request.container request.key
  rw [renameObject] at hcalls
  rcases calls_andThen.mp hcalls with ⟨_, hentry, -⟩ | ⟨entry, m, hentry, hcalls⟩
  · exact Or.inl ⟨[], h.look (looked_of_calls hmakes hentry)⟩
  have hobject : objectAt account ⟨request.container, request.key⟩ base = some entry := by
    rw [← h.1.eq_base]
    exact objectAt_of_calls hentry
  have hlooked := h.look (looked_of_calls hmakes hentry)
  rcases calls_andThen_pure.mp hcalls with ⟨_, -, -, rfl⟩ | ⟨source, -, hcalls⟩
  · exact Or.inl ⟨[], hlooked⟩
  rcases calls_andThen_pure.mp hcalls with ⟨_, -, -, rfl⟩ | ⟨target, -, hcalls⟩
  · exact Or.inl ⟨[], hlooked⟩
  exact relocate_ended hlooked hobject hcalls

theorem moveObject_ended {base : List DriveItem} {request : MoveObjectRequest}
    {error : BlobError} (h : Stopped base s [])
    (hcalls : Calls perform (moveObject account request) s (.error error) t) : Ended base t := by
  have hmakes : Makes IsLook (resolveObjectEntry account request.source.container
      request.source.key) :=
    makes_resolveObjectEntry request.source.container request.source.key
  rw [moveObject] at hcalls
  rcases calls_andThen.mp hcalls with ⟨_, hentry, -⟩ | ⟨entry, m, hentry, hcalls⟩
  · exact Or.inl ⟨[], h.look (looked_of_calls hmakes hentry)⟩
  have hobject : objectAt account request.source base = some entry := by
    rw [← h.1.eq_base]
    exact objectAt_of_calls hentry
  have hlooked := h.look (looked_of_calls hmakes hentry)
  rcases calls_andThen_pure.mp hcalls with ⟨_, -, -, rfl⟩ | ⟨source, -, hcalls⟩
  · exact Or.inl ⟨[], hlooked⟩
  rcases calls_andThen_pure.mp hcalls with ⟨_, -, -, rfl⟩ | ⟨target, -, hcalls⟩
  · exact Or.inl ⟨[], hlooked⟩
  exact relocate_ended hlooked hobject hcalls

/-- The service may refuse to copy the file: the folders that were made for the copy go. -/
theorem copyEntry_ended {base : List DriveItem} {destination : ObjectPlace} {entry : DriveItem}
    {error : BlobError} (h : Stopped base s [])
    (hcalls : Calls perform (copyEntry account destination entry) s (.error error) t) :
    Ended base t := by
  rw [copyEntry] at hcalls
  rcases calls_andThen.mp hcalls with ⟨_, hnew, -⟩ | ⟨new, m, hnew, hcalls⟩
  · obtain ⟨made, hstopped, -⟩ := ensureManagedParent_stopped h hnew
    exact Or.inl ⟨made, hstopped⟩
  obtain ⟨made, hstopped, hmade⟩ := ensureManagedParent_stopped h hnew
  obtain rfl := hmade new rfl
  rcases calls_attempt.mp hcalls with ⟨_, m', -, hok⟩ | ⟨_, m', _, hcopy, hback, -⟩
  · cases (calls_pure.mp hok).1
  rcases calls_ask.mp hcopy with ⟨_, -, rfl⟩ | ⟨_, _, -, hok, -⟩
  · right
    refine ⟨?_, ?_⟩
    · apply Turned.after _ hback
      exact ⟨_, List.mem_append_right _ (List.mem_singleton_self _), rfl⟩
    · intro hundo
      obtain ⟨cleaned, m'', hcleanup, hend⟩ := calls_bind.mp hback
      obtain ⟨-, rfl⟩ := calls_pure.mp hend
      apply cleanup_restores hstopped.1 _ hcleanup hundo
      rfl
  · cases hok

theorem copyObject_ended {base : List DriveItem} {request : MoveObjectRequest}
    {error : BlobError} (h : Stopped base s [])
    (hcalls : Calls perform (copyObject account request) s (.error error) t) : Ended base t := by
  have hnative : ∀ container,
      Makes IsLook (nativeRootFolderIdForContainer account container) := makes_nativeRoot
  have hmakes : Makes IsLook (resolveObjectEntry account request.source.container
      request.source.key) :=
    makes_resolveObjectEntry request.source.container request.source.key
  rw [copyObject] at hcalls
  split at hcalls
  · rcases calls_andThen_pure.mp hcalls with ⟨_, -, -, rfl⟩ | ⟨source, -, hcalls⟩
    · exact Or.inl ⟨[], h⟩
    rcases calls_andThen_pure.mp hcalls with ⟨_, -, -, rfl⟩ | ⟨destination, -, hcalls⟩
    · exact Or.inl ⟨[], h⟩
    rcases calls_andThen_pure.mp hcalls with ⟨_, -, -, rfl⟩ | ⟨target, -, hcalls⟩
    · exact Or.inl ⟨[], h⟩
    split at hcalls
    · obtain ⟨-, rfl⟩ := calls_pure.mp hcalls
      exact Or.inl ⟨[], h⟩
    rcases calls_andThen.mp hcalls with ⟨_, hroot, -⟩ | ⟨sourceRoot, m, hroot, hcalls⟩
    · exact Or.inl ⟨[], h.look (looked_of_calls (hnative _) hroot)⟩
    have hlooked := h.look (looked_of_calls (hnative _) hroot)
    rcases calls_andThen.mp hcalls with ⟨_, hroot', -⟩ | ⟨destinationRoot, m', hroot', hcalls⟩
    · exact Or.inl ⟨[], hlooked.look (looked_of_calls (hnative _) hroot')⟩
    have hlooked' := hlooked.look (looked_of_calls (hnative _) hroot')
    split at hcalls
    · obtain ⟨-, rfl⟩ := calls_pure.mp hcalls
      exact Or.inl ⟨[], hlooked'⟩
    rcases calls_andThen.mp hcalls with ⟨_, hentry, -⟩ | ⟨entry, m'', hentry, hcalls⟩
    · exact Or.inl ⟨[], hlooked'.look (looked_of_calls hmakes hentry)⟩
    have hlooked'' := hlooked'.look (looked_of_calls hmakes hentry)
    split at hcalls
    · obtain ⟨-, rfl⟩ := calls_pure.mp hcalls
      exact Or.inl ⟨[], hlooked''⟩
    · split at hcalls
      · obtain ⟨-, rfl⟩ := calls_pure.mp hcalls
        exact Or.inl ⟨[], hlooked''⟩
      · exact copyEntry_ended hlooked'' hcalls
  · obtain ⟨-, rfl⟩ := calls_pure.mp hcalls
    exact Or.inl ⟨[], h⟩

/-! ## Section 7: What must be left -/

/-- What a failed action must leave: the objects at its two keys, no new folder that is empty, and
every folder and every file that was there. -/
structure Kept (account : MobileAccount) (source destination : ObjectPlace)
    (before after : List DriveItem) : Prop where
  object : ∀ place, place = source ∨ place = destination → ∀ item,
    objectAt account place before = some item → objectAt account place after = some item
  new_folder : ∀ folder ∈ after, folder.isFolder = true → folder ∉ before →
    childrenOf after folder.id ≠ []
  old_item : ∀ item ∈ before, item ∈ after

theorem Kept.refl (account : MobileAccount) (source destination : ObjectPlace)
    (items : List DriveItem) : Kept account source destination items items where
  object := fun _ _ _ => id
  new_folder := fun _ hmem _ hnot => absurd hmem hnot
  old_item := fun _ => id

/-- The folder that was made last is empty. -/
theorem Grown.not_kept {base items : List DriveItem} {created : List String}
    (h : Grown base created items) (hcreated : created ≠ []) {source destination : ObjectPlace} :
    ¬ Kept account source destination base items := by
  intro hkept
  cases h with
  | none => exact hcreated rfl
  | @folder created items grown id parent name fresh apart =>
      apply hkept.new_folder ⟨id, parent, name, Option.none⟩
      · exact List.mem_append_right _ (List.mem_singleton_self _)
      · rfl
      · intro hbase
        exact (fresh _ (grown.mem hbase)).1 rfl
      · apply List.filter_eq_nil_iff.mpr
        intro item hitem
        have hparent : item.parent ≠ id := by
          rcases List.mem_append.mp hitem with hold | hnew
          · exact (fresh item hold).2
          · rw [List.mem_singleton.mp hnew]
            exact apart
        rw [decide_eq_false hparent]
        exact Bool.false_ne_true

/-- The run made a folder, and failed before the file was moved or was to be copied. -/
abbrev Stuck (log : List (Request × Bool)) : Prop := MadeFolder log ∧ ¬ Turned log

/-- **Main rule.** What was there is kept unless the run stopped with a folder made. -/
theorem Ended.kept_iff {base : List DriveItem} (h : Ended base t)
    {source destination : ObjectPlace} :
    (RolledBack t.log → Kept account source destination base t.state.items) ↔ ¬ Stuck t.log := by
  rcases h with ⟨created, hgrown, hmade, hforward⟩ | ⟨hturned, hrestored⟩
  · have hnotTurned : ¬ Turned t.log := by
      rintro ⟨entry, hentry, hturns⟩
      exact (hforward entry hentry).1 hturns
    have hrolled : RolledBack t.log := by
      intro entry hentry hundoing
      rw [(hforward entry hentry).2] at hundoing
      cases hundoing
    cases created with
    | nil =>
        apply iff_of_true
        · intro _
          rw [hgrown.eq_base]
          exact Kept.refl account source destination base
        · intro hstuck
          exact hmade.mp hstuck.1 rfl
    | cons id created =>
        apply iff_of_false
        · intro hkept
          exact hgrown.not_kept (List.cons_ne_nil _ _) (hkept hrolled)
        · intro hstuck
          exact hstuck ⟨hmade.mpr (List.cons_ne_nil _ _), hnotTurned⟩
  · apply iff_of_true
    · intro hrolled
      rw [hrestored hrolled]
      exact Kept.refl account source destination base
    · intro hstuck
      exact hstuck.2 hturned

end Netdisk2Blob.Providers.Mobile.Actions
