import Netdisk2Blob.Providers.BlobAdapter
import Netdisk2Blob.Library.FolderListing
import Netdisk2Blob.Library.Table

/-!
# Drives Read by Display Names

The Mobile and the Telecom adapter know a folder or a file by its display name, the name
with blanks trimmed; an item whose name is blank has none. Both create the folders of a
path one after another, by the trimmed segments, and list a container into a map by key.

## Contents

- `displayName`, `ScopedDrive`: names, and the trees of the personal and the family cloud
- `ensureFolders`, `ensureFolders_spec`, `nothing_below_created`: the folders of a path
- `objectMap`, `find?_objectMap`: the file that a key shows is the one found last
- `shown_iff`: when a written file is the one that is found and listed under its key
-/

namespace Netdisk2Blob.Providers

open Library Text Library.FileTree Blob

variable {B : Type}

/-! ## Section 1: Names and drives -/

/-- The trimmed name, if it is not blank. -/
def displayName (name : String) : Option String :=
  if trim name = "" then none else some (trim name)

/-- The segments of a path as the folder walks read them: trimmed, without blank ones. -/
def walkSegments (path : String) : List String :=
  ((split '/' path).map trim).filter (fun segment => decide (segment ≠ ""))

/-- A segment that is its own display name. -/
def IsDisplayed (segment : String) : Prop := displayName segment = some segment

instance (segment : String) : Decidable (IsDisplayed segment) :=
  inferInstanceAs (Decidable (_ = _))

inductive Scope where
  | personal
  | family
  deriving DecidableEq, Repr

/-- The trees of the two clouds of an account. -/
structure ScopedDrive (B : Type) where
  personal : FileTree B
  family : FileTree B

namespace ScopedDrive

def tree (drive : ScopedDrive B) : Scope → FileTree B
  | .personal => drive.personal
  | .family => drive.family

def setTree (drive : ScopedDrive B) (scope : Scope) (tree : FileTree B) : ScopedDrive B :=
  match scope with
  | .personal => { drive with personal := tree }
  | .family => { drive with family := tree }

@[simp] theorem tree_setTree (drive : ScopedDrive B) (scope : Scope) (tree : FileTree B) :
    (drive.setTree scope tree).tree scope = tree := by
  cases scope <;> rfl

end ScopedDrive

theorem displayName_eq_some {name want : String} :
    displayName name = some want ↔ trim name = want ∧ want ≠ "" := by
  unfold displayName
  split
  · rename_i hblank
    constructor
    · intro h
      cases h
    · rintro ⟨rfl, hne⟩
      exact absurd hblank hne
  · rename_i hblank
    constructor
    · intro h
      obtain rfl := Option.some.inj h
      exact ⟨rfl, hblank⟩
    · rintro ⟨rfl, -⟩
      rfl

theorem isDisplayed_iff {segment : String} :
    IsDisplayed segment ↔ trim segment = segment ∧ segment ≠ "" := displayName_eq_some

theorem not_mem_trim {segment : String} (h : '/' ∉ segment.toList) :
    '/' ∉ (trim segment).toList := fun hmem => h (mem_of_mem_trim hmem)

theorem isSegment_displayName {name want : String} (hname : IsSegment name)
    (h : displayName name = some want) : IsSegment want := by
  obtain ⟨rfl, hne⟩ := displayName_eq_some.mp h
  exact ⟨hne, not_mem_trim hname.2⟩

/-- The display name of a display name is the same. -/
theorem isDisplayed_of_displayName {name want : String} (h : displayName name = some want) :
    IsDisplayed want := by
  obtain ⟨rfl, hne⟩ := displayName_eq_some.mp h
  exact displayName_eq_some.mpr ⟨trim_trim name, hne⟩

theorem isDisplayed_of_mem_walkSegments {path segment : String}
    (h : segment ∈ walkSegments path) : IsDisplayed segment ∧ IsSegment segment := by
  obtain ⟨hmem, hne⟩ := List.mem_filter.mp h
  obtain ⟨part, hpart, rfl⟩ := List.mem_map.mp hmem
  have hne' : trim part ≠ "" := of_decide_eq_true hne
  exact ⟨displayName_eq_some.mpr ⟨trim_trim part, hne'⟩, hne',
    not_mem_trim (not_mem_of_mem_split hpart)⟩

/-- Only the segments that are not empty matter to a walk. -/
theorem walkSegments_eq (path : String) :
    walkSegments path =
      ((nonEmptySegments path).map trim).filter (fun segment => decide (segment ≠ "")) := by
  rw [walkSegments, nonEmptySegments, List.filter_map, List.filter_map, List.filter_filter]
  congr 2
  funext segment
  by_cases hempty : segment = ""
  · subst hempty
    simp [trim, trimList]
  · simp [hempty]

theorem walkSegments_trimMatches (path : String) :
    walkSegments (trimMatches '/' path) = walkSegments path := by
  rw [walkSegments_eq, nonEmptySegments_trimMatches, ← walkSegments_eq]

/-- The walk over displayed segments reads them as they are. -/
theorem walkSegments_of_displayed {segments : List String}
    (h : ∀ segment ∈ segments, IsDisplayed segment) :
    (segments.map trim).filter (fun segment => decide (segment ≠ "")) = segments := by
  have hmap : segments.map trim = segments := by
    conv_rhs => rw [← List.map_id segments]
    exact List.map_congr_left (fun segment hsegment => (isDisplayed_iff.mp (h segment hsegment)).1)
  rw [hmap, List.filter_eq_self]
  exact fun segment hsegment => decide_eq_true (isDisplayed_iff.mp (h segment hsegment)).2

/-- The key of a child, both sides without slashes at their ends. -/
def joinTrimmed (folderKey childName : String) : String :=
  let normalized := trimMatches '/' folderKey
  let child := trimMatches '/' childName
  if normalized = "" then child else s!"{normalized}/{child}"

theorem trimMatches_joinKey {segments : List String} (h : AreSegments segments) :
    trimMatches '/' (joinKey segments) = joinKey segments := by
  by_cases hnil : segments = []
  · subst hnil
    rfl
  · apply trimMatches_eq_self
    rw [split_joinKey_segments hnil (fun segment hsegment => (h segment hsegment).2)]
    exact fun segment hsegment => (h segment hsegment).1

theorem joinTrimmed_joinKey {segments : List String} {want : String}
    (hsegments : AreSegments segments) (hwant : IsSegment want) :
    joinTrimmed (joinKey segments) want = joinKey (segments ++ [want]) := by
  have hchild := trimMatches_joinKey (areSegments_singleton.mpr hwant)
  rw [joinKey_singleton] at hchild
  rw [joinTrimmed, trimMatches_joinKey hsegments, hchild]
  by_cases hnil : segments = []
  · subst hnil
    rw [if_pos joinKey_nil, List.nil_append, joinKey_singleton]
  · have hne : joinKey segments ≠ "" := by
      intro hempty
      exact hnil (joinKey_injective hsegments (fun _ hmem => absurd hmem List.not_mem_nil)
        (hempty.trans joinKey_nil.symm))
    rw [if_neg hne, joinKey_append hnil (List.cons_ne_nil _ _), joinKey_singleton]
    rfl

/-! ## Section 2: Creating the folders of a path -/

/-- The loop over the segments of a folder path. -/
def ensureFolders
    (ensure : FileTree B → List String → String → Except BlobError (FileTree B × List String)) :
    FileTree B → List String → List String → Except BlobError (FileTree B × List String)
  | tree, parent, [] => .ok (tree, parent)
  | tree, parent, segment :: segments => do
    let (tree', next) ← ensure tree parent segment
    ensureFolders ensure tree' next segments

/-- A folder is taken if it is there, and created otherwise. -/
def EnsuresFolder
    (ensure : FileTree B → List String → String → Except BlobError (FileTree B × List String)) :
    Prop :=
  ∀ tree parent segment tree' place, IsDisplayed segment →
    ensure tree parent segment = .ok (tree', place) →
      (∃ folder, findFolder displayName tree parent segment = some folder ∧ tree' = tree ∧
        place = folder.place) ∨
      (findFolder displayName tree parent segment = none ∧
        tree.add ⟨parent, segment, none⟩ = some tree' ∧ place = parent ++ [segment])

variable {ensure : FileTree B → List String → String → Except BlobError (FileTree B × List String)}

/-- The folders of the path are there afterwards, nothing is lost, and what is new is a
folder with a display name. -/
theorem ensureFolders_spec (hensure : EnsuresFolder ensure) {tree tree' : FileTree B}
    {parent place segments : List String} (hsegments : ∀ segment ∈ segments, IsDisplayed segment)
    (h : ensureFolders ensure tree parent segments = .ok (tree', place)) :
    KeepsFolders displayName tree tree' ∧
      resolveFolder displayName tree' parent segments = some place ∧
      (∀ item ∈ tree.items, item ∈ tree'.items) ∧
      ∀ item ∈ tree'.items, item ∈ tree.items ∨
        (item.isFolder = true ∧ displayName item.name ≠ none) := by
  induction segments generalizing tree parent with
  | nil =>
    obtain ⟨rfl, rfl⟩ := Prod.mk.inj (Except.ok.inj h)
    exact ⟨KeepsFolders.refl _, rfl, fun _ hmem => hmem, fun _ hmem => Or.inl hmem⟩
  | cons segment segments ih =>
    obtain ⟨hsegment, hrest⟩ := List.forall_mem_cons.mp hsegments
    obtain ⟨⟨next, folder⟩, hfirst, hlater⟩ := except_bind_ok.mp h
    obtain ⟨hkeeps, hresolved, hkept, hnew⟩ := ih hrest hlater
    rcases hensure _ _ _ _ _ hsegment hfirst with ⟨found, hfound, rfl, rfl⟩ | ⟨hmissing, hadd, rfl⟩
    · refine ⟨hkeeps, ?_, hkept, hnew⟩
      rw [resolveFolder, hkeeps _ _ _ hfound]
      exact hresolved
    · have hcreated := hkeeps _ _ _ (findFolder_add hadd hsegment hmissing)
      refine ⟨(keepsFolders_add hadd).trans hkeeps, ?_, ?_, ?_⟩
      · rw [resolveFolder, hcreated]
        exact hresolved
      · intro item hitem
        apply hkept
        rw [(add_eq_some hadd).1]
        exact List.mem_append_left _ hitem
      · intro item hitem
        rcases hnew item hitem with hmem | hfolder
        · rw [(add_eq_some hadd).1] at hmem
          rcases List.mem_append.mp hmem with hold | hadded
          · exact Or.inl hold
          · rw [List.mem_singleton.mp hadded]
            exact Or.inr ⟨rfl, by rw [hsegment]; exact Option.some_ne_none _⟩
        · exact Or.inr hfolder

/-- A folder of the path that was not there before has nothing old below it. -/
theorem nothing_below_created (hensure : EnsuresFolder ensure) {tree tree' : FileTree B}
    {parent place segments : List String} (hsegments : ∀ segment ∈ segments, IsDisplayed segment)
    (h : ensureFolders ensure tree parent segments = .ok (tree', place)) {wants rest : List String}
    (hwants : segments = wants ++ rest)
    (hmissing : resolveFolder displayName tree parent wants = none) {folder : List String}
    (hfolder : resolveFolder displayName tree' parent wants = some folder) :
    ∀ item ∈ tree.items, ¬ folder <+: item.parent := by
  induction segments generalizing tree parent wants with
  | nil =>
    obtain ⟨rfl, -⟩ := List.append_eq_nil_iff.mp hwants.symm
    cases hmissing
  | cons segment segments ih =>
    cases wants with
    | nil => cases hmissing
    | cons want wants =>
      obtain ⟨rfl, rfl⟩ := List.cons.inj hwants
      obtain ⟨hsegment, hrest⟩ := List.forall_mem_cons.mp hsegments
      obtain ⟨⟨next, created⟩, hfirst, hlater⟩ := except_bind_ok.mp h
      obtain ⟨hkeeps, -, -, -⟩ := ensureFolders_spec hensure hrest hlater
      rcases hensure _ _ _ _ _ hsegment hfirst with
        ⟨found, hfound, rfl, rfl⟩ | ⟨hnone, hadd, rfl⟩
      · rw [resolveFolder, hfound] at hmissing
        rw [resolveFolder, hkeeps _ _ _ hfound] at hfolder
        exact ih hrest hlater rfl hmissing hfolder
      · -- the created folder stood nowhere, so nothing stood below it
        have hcreated := hkeeps _ _ _ (findFolder_add hadd hsegment hnone)
        rw [resolveFolder, hcreated] at hfolder
        obtain ⟨names, rfl, -⟩ := resolveFolder_eq_some hfolder
        intro item hitem hbelow
        obtain ⟨deeper, hdeeper⟩ := hbelow
        have hplace : item.place = parent ++ segment :: (names ++ deeper ++ [item.name]) := by
          rw [Item.place, ← hdeeper]
          simp
        obtain ⟨ancestor, hancestor, -, hancestorPlace⟩ :=
          exists_ancestor hitem hplace (by simp)
        exact itemAt_eq_none.mp (add_eq_some hadd).2.2.1 ancestor hancestor hancestorPlace

/-! ## Section 3: The map of a listing -/

variable {Location : Type}

/-- Keys in order; a map beyond its limit loses its last keys. -/
def trimObjectsToLimit (objects : Table (ObjectInfo Location) ObjectInfo.key) (limit : Nat) :
    Table (ObjectInfo Location) ObjectInfo.key where
  rows := objects.rows.take limit
  sorted := objects.sorted.sublist (List.take_sublist limit objects.rows)

def insertObject (limit : Option Nat) (objects : Table (ObjectInfo Location) ObjectInfo.key)
    (info : ObjectInfo Location) : Table (ObjectInfo Location) ObjectInfo.key :=
  match limit with
  | some limit => trimObjectsToLimit (objects.upsert info) limit
  | none => objects.upsert info

/-- The map that a listing loop has built from what it found. -/
def objectMap (limit : Option Nat) (found : List (ObjectInfo Location)) :
    Table (ObjectInfo Location) ObjectInfo.key :=
  found.foldl (insertObject limit) ∅

/-- Without a limit a key shows what was inserted last. -/
theorem find?_objectMap (found : List (ObjectInfo Location)) (key : String) :
    (objectMap none found).find? key =
      (found.filter (fun info => decide (info.key = key))).getLast? := by
  induction found using List.reverseRecOn with
  | nil => rfl
  | append_singleton found info ih =>
    have hstep : objectMap none (found ++ [info]) = (objectMap none found).upsert info := by
      rw [objectMap, List.foldl_append]
      rfl
    rw [hstep, Table.find?_upsert, List.filter_append, ih]
    by_cases hkey : info.key = key
    · simp [hkey]
    · simp [hkey]

/-! ## Section 4: When a written file is found and listed -/

/-- What a client of a drive reports of a file that its listing loop found. -/
def reported (locate : List String → Location) (entry : String × Item B) : ObjectInfo Location :=
  ⟨entry.1, locate entry.2.place⟩

/-- Everything below a folder has a display name. -/
def AllDisplayed (tree : FileTree B) (folder : List String) : Prop :=
  ∀ item ∈ tree.items, ∀ names : List String, names ≠ [] → item.place = folder ++ names →
    displayName item.name ≠ none

variable {l : Listing BlobError} {tree : FileTree B}

theorem keyed_root (folder : List String) : Keyed [(folder, "")] := by
  intro top htop
  obtain rfl := List.mem_singleton.mp htop
  exact ⟨[], fun _ hmem => absurd hmem List.not_mem_nil, joinKey_nil.symm⟩

/-- The listing of a folder succeeds exactly when everything below it has a display name. -/
theorem walk_ok_iff (hl : l.Plain) (hlabel : l.label = displayName) {folder : List String} :
    (∃ found, walk l tree [(folder, "")] [] = .ok found) ↔ AllDisplayed tree folder := by
  constructor
  · rintro ⟨found, hfound⟩ item hitem names hne hplace hnone
    obtain ⟨labels, hlabels, -⟩ := walk_complete hl hfound List.mem_cons_self
      (fun _ hmem => absurd hmem List.not_mem_nil) joinKey_nil.symm hitem hplace hne
    rcases List.eq_nil_or_concat' names with rfl | ⟨init, last, rfl⟩
    · exact hne rfl
    · have hlast : item.name = last := by
        rw [← List.append_assoc] at hplace
        exact (Item.place_eq_append.mp hplace).2
      have hmem : l.label last ∈ labels.map some := by
        rw [← hlabels]
        exact List.mem_map_of_mem (List.mem_append_right _ List.mem_cons_self)
      obtain ⟨label, -, hsome⟩ := List.mem_map.mp hmem
      rw [hlabel, ← hlast, hnone] at hsome
      cases hsome
  · intro hall
    apply walk_ok_of_labelled
    intro top htop item hitem names hne hplace
    obtain rfl := List.mem_singleton.mp htop
    rw [hlabel]
    exact Option.ne_none_iff_exists'.mp (hall item hitem names hne hplace)

theorem map_label_eq {names labels labels' : List String}
    (h : names.map displayName = labels.map some) (h' : names.map displayName = labels'.map some) :
    labels = labels' :=
  List.map_injective_iff.mpr (Option.some_injective _) (h.symm.trans h')

/-- The key that a listing gives to a file is its display names below the folder. -/
theorem key_of_mem_found (hl : l.Plain) (hlabel : l.label = displayName) {folder : List String}
    {found : List (String × Item B)} (h : walk l tree [(folder, "")] [] = .ok found)
    {entry : String × Item B} (hentry : entry ∈ found) :
    ∃ names labels, entry.2 ∈ tree.items ∧ entry.2.isFolder = false ∧
      entry.2.place = folder ++ names ∧ names.map displayName = labels.map some ∧
      entry.1 = joinKey labels := by
  rcases mem_walk hl (keyed_root folder) h hentry with hmem | ⟨top, htop, segments, names, labels,
    hsegments, htopKey, hitem, hkind, hplace, -, hlabels, hkey, -⟩
  · exact absurd hmem List.not_mem_nil
  · obtain rfl := List.mem_singleton.mp htop
    obtain rfl := joinKey_injective hsegments (fun _ hmem => absurd hmem List.not_mem_nil)
      (htopKey.symm.trans joinKey_nil.symm)
    rw [hlabel] at hlabels
    exact ⟨names, labels, hitem, hkind, hplace, hlabels, hkey⟩

/-- A file is listed under the display names that lead to it, and under no other key. -/
theorem key_of_listed (hl : l.Plain) (hlabel : l.label = displayName) {root folder : List String}
    {segments : List String} {name : String} {locate : List String → Location}
    (hlocate : Function.Injective locate)
    (hfolder : resolveFolder displayName tree root segments = some folder)
    (hdisplayed : IsDisplayed name) {found : List (String × Item B)}
    (hfound : walk l tree [(root, "")] [] = .ok found) {info : ObjectInfo Location}
    (hinfo : info ∈ objectMap none (found.map (reported locate)))
    (hitem : info.item = locate (folder ++ [name])) :
    info.key = joinKey (segments ++ [name]) := by
  obtain ⟨way, hway, hwayLabels⟩ := resolveFolder_eq_some hfolder
  have hrow : (objectMap none (found.map (reported locate))).find? info.key = some info :=
    Table.find?_eq_some.mpr ⟨hinfo, rfl⟩
  rw [find?_objectMap] at hrow
  have hfoundInfo := (List.mem_filter.mp (List.mem_of_getLast? hrow)).1
  obtain ⟨entry, hentry, rfl⟩ := List.mem_map.mp hfoundInfo
  obtain ⟨names, labels, -, -, hplace, hlabels, hkey⟩ := key_of_mem_found hl hlabel hfound hentry
  have hnames : names = way ++ [name] := by
    apply @List.append_cancel_left _ root
    rw [← hplace, hlocate hitem, hway, List.append_assoc]
  have hlabelsEq : labels = segments ++ [name] := by
    apply map_label_eq hlabels
    rw [hnames, List.map_append, List.map_append, hwayLabels, List.map_singleton,
      List.map_singleton, hdisplayed]
  rw [← hlabelsEq]
  exact hkey

/-- A file in the folder that displayed segments lead to: it is the first with its label and
listed last under its key exactly when it is the only one, its label is its name, and
everything below the root of the listing has a display name. -/
theorem shown_iff (hl : l.Plain) (hlabel : l.label = displayName) {root folder : List String}
    {segments : List String} {name key : String} {body : B} {locate : List String → Location}
    (hlocate : Function.Injective locate) (hsegments : AreSegments segments)
    (hfolder : resolveFolder displayName tree root segments = some folder)
    (hmem : ⟨folder, name, some body⟩ ∈ tree.items) :
    (findFile displayName tree folder name = some ⟨folder, name, some body⟩ ∧
      ∃ found, walk l tree [(root, "")] [] = .ok found ∧
        ⟨key, locate (folder ++ [name])⟩ ∈ objectMap none (found.map (reported locate))) ↔
    key = joinKey (segments ++ [name]) ∧ IsDisplayed name ∧ AllDisplayed tree root ∧
      filesLabelled displayName (tree.children folder) name = [⟨folder, name, some body⟩] := by
  have hsegment : IsSegment name := tree.named _ hmem
  -- the last file under the key is the last one of the folder with the label
  have hlast : ∀ found, walk l tree [(root, "")] [] = .ok found →
      (⟨folder, name, some body⟩ : Item B) ∈ filesLabelled displayName (tree.children folder) name →
      (objectMap none (found.map (reported locate))).find? (joinKey (segments ++ [name])) =
        ((filesLabelled displayName (tree.children folder) name).getLast?).map
          (fun item => ⟨joinKey (segments ++ [name]), locate item.place⟩) := by
    intro found hfound hours
    rw [← hlabel] at hfolder hours ⊢
    have hfound' : walk l tree [(root, joinKey [])] [] = .ok found := by
      rw [joinKey_nil]
      exact hfound
    obtain ⟨earlier, hearlier⟩ := filter_walk hl (fun _ hmem => absurd hmem List.not_mem_nil)
      hsegments hsegment hfolder hfound'
    rw [List.nil_append] at hearlier
    rw [find?_objectMap, List.filter_map]
    have hcompose : (fun info : ObjectInfo Location =>
        decide (info.key = joinKey (segments ++ [name]))) ∘ reported locate =
          fun entry : String × Item B => decide (entry.1 = joinKey (segments ++ [name])) := rfl
    have hne : filesLabelled l.label (tree.children folder) name ≠ [] := List.ne_nil_of_mem hours
    rw [hcompose, hearlier, List.map_append, List.map_map, List.getLast?_append_of_ne_nil,
      List.getLast?_map]
    · rfl
    · simpa using hne
  constructor
  · rintro ⟨hfind, found, hfound, hlisted⟩
    obtain ⟨-, -, -, hdisplayed⟩ := findFile_eq_some hfind
    have hours : (⟨folder, name, some body⟩ : Item B) ∈
        filesLabelled displayName (tree.children folder) name :=
      List.mem_filter.mpr ⟨mem_children.mpr ⟨hmem, rfl⟩, by simpa using hdisplayed⟩
    have hkey : key = joinKey (segments ++ [name]) :=
      key_of_listed hl hlabel hlocate hfolder hdisplayed hfound hlisted rfl
    refine ⟨hkey, hdisplayed, (walk_ok_iff hl hlabel).mp ⟨found, hfound⟩, ?_⟩
    have hrow := hlast found hfound hours
    rw [← hkey, Table.find?_eq_some.mpr ⟨hlisted, rfl⟩] at hrow
    obtain ⟨final, hfinal, hfinalEq⟩ := Option.map_eq_some_iff.mp hrow.symm
    obtain ⟨-, hfinalPlace⟩ := ObjectInfo.mk.inj hfinalEq
    have hfinalMem : final ∈ tree.items :=
      (mem_children.mp (List.mem_filter.mp (List.mem_of_getLast? hfinal)).1).1
    obtain rfl := eq_of_place_eq hfinalMem hmem (hlocate hfinalPlace)
    have hfirst : (filesLabelled displayName (tree.children folder) name).head? =
        some ⟨folder, name, some body⟩ := by
      rw [filesLabelled, List.head?_filter]
      exact hfind
    -- the first and the last of a list without repetition
    have hnodup : (filesLabelled displayName (tree.children folder) name).Nodup :=
      ((List.Nodup.of_map _ tree.distinct).filter _).filter _
    cases hfiles : filesLabelled displayName (tree.children folder) name with
    | nil =>
      rw [hfiles] at hfirst
      cases hfirst
    | cons head rest =>
      rw [hfiles] at hfirst hfinal hnodup
      obtain rfl := Option.some.inj hfirst
      cases rest with
      | nil => rfl
      | cons second rest =>
        rw [List.getLast?_cons_cons] at hfinal
        exact absurd (List.mem_of_getLast? hfinal) (List.nodup_cons.mp hnodup).1
  · rintro ⟨rfl, hdisplayed, hall, hfiles⟩
    obtain ⟨found, hfound⟩ := (walk_ok_iff hl hlabel).mpr hall
    refine ⟨?_, found, hfound, ?_⟩
    · have hfirst : (filesLabelled displayName (tree.children folder) name).head? =
          some ⟨folder, name, some body⟩ := by
        rw [hfiles]
        rfl
      rw [filesLabelled, List.head?_filter] at hfirst
      exact hfirst
    · have hrow := hlast found hfound (hfiles ▸ List.mem_cons_self)
      rw [hfiles] at hrow
      exact (Table.find?_eq_some.mp hrow).1

/-! ## Section 5: The drive before the upload -/

/-- No other file of the folder has the display name. -/
def Alone (tree : FileTree B) (folder : List String) (name : String) : Prop :=
  ∀ item ∈ tree.items, item.parent = folder → item.isFolder = false →
    displayName item.name = some name → item.name = name

theorem filesLabelled_eq_singleton_iff {folder : List String} {name : String} {body : B}
    (hmem : ⟨folder, name, some body⟩ ∈ tree.items) (hname : IsDisplayed name) :
    filesLabelled displayName (tree.children folder) name = [⟨folder, name, some body⟩] ↔
      Alone tree folder name := by
  have hmemFiles : ∀ item : Item B, item ∈ filesLabelled displayName (tree.children folder) name ↔
      item ∈ tree.items ∧ item.parent = folder ∧ item.isFolder = false ∧
        displayName item.name = some name := by
    intro item
    rw [filesLabelled, List.mem_filter, mem_children, Bool.and_eq_true, decide_eq_true_eq,
      Bool.not_eq_true', and_assoc]
  constructor
  · intro hfiles item hitem hparent hkind hlabel
    have hfile := (hmemFiles item).mpr ⟨hitem, hparent, hkind, hlabel⟩
    rw [hfiles] at hfile
    rw [List.mem_singleton.mp hfile]
  · intro halone
    have hnodup : (filesLabelled displayName (tree.children folder) name).Nodup :=
      ((List.Nodup.of_map _ tree.distinct).filter _).filter _
    have hall : ∀ item ∈ filesLabelled displayName (tree.children folder) name,
        item = ⟨folder, name, some body⟩ := by
      intro item hfile
      obtain ⟨hitem, hparent, hkind, hlabel⟩ := (hmemFiles item).mp hfile
      apply eq_of_place_eq hitem hmem
      rw [Item.place, hparent, halone item hitem hparent hkind hlabel]
      rfl
    have hours := (hmemFiles _).mpr ⟨hmem, rfl, rfl, hname⟩
    cases hfiles : filesLabelled displayName (tree.children folder) name with
    | nil =>
      rw [hfiles] at hours
      exact absurd hours List.not_mem_nil
    | cons head rest =>
      rw [hfiles] at hall hnodup
      obtain ⟨hhead, hrest⟩ := List.forall_mem_cons.mp hall
      cases rest with
      | nil => rw [hhead]
      | cons second rest =>
        have hsame : head = second := hhead.trans (hrest second List.mem_cons_self).symm
        exact absurd (hsame ▸ List.mem_cons_self) (List.nodup_cons.mp hnodup).1

variable {tree₁ : FileTree B} {folder wants rest : List String}

/-- The folders of a path are made without touching its files: whether the file of a name is
alone in the last of them can be seen before. -/
theorem alone_iff_of_ensureFolders (hensure : EnsuresFolder ensure)
    (hwants : ∀ segment ∈ wants, IsDisplayed segment)
    (h : ensureFolders ensure tree [] wants = .ok (tree₁, folder)) {name : String} :
    Alone tree₁ folder name ↔ ∀ before, resolveFolder displayName tree [] wants = some before →
      Alone tree before name := by
  obtain ⟨hkeeps, hresolved, hkept, hnew⟩ := ensureFolders_spec hensure hwants h
  constructor
  · intro halone before hbefore item hitem hparent hkind hlabel
    obtain rfl := Option.some.inj ((resolveFolder_mono hkeeps hbefore).symm.trans hresolved)
    exact halone item (hkept item hitem) hparent hkind hlabel
  · intro hpre item hitem hparent hkind hlabel
    have hold : item ∈ tree.items := by
      refine (hnew item hitem).resolve_right ?_
      rintro ⟨hfolder, -⟩
      rw [hkind] at hfolder
      cases hfolder
    cases hbefore : resolveFolder displayName tree [] wants with
    | none =>
      have hnothing := nothing_below_created hensure hwants h (List.append_nil wants).symm hbefore
        hresolved
      exact absurd (hparent ▸ List.prefix_refl _) (hnothing item hold)
    | some before =>
      obtain rfl := Option.some.inj ((resolveFolder_mono hkeeps hbefore).symm.trans hresolved)
      exact hpre before hbefore item hold hparent hkind hlabel

/-- The same for the names of everything below a folder on the path. -/
theorem allDisplayed_iff_of_ensureFolders (hensure : EnsuresFolder ensure)
    (hwants : ∀ segment ∈ wants ++ rest, IsDisplayed segment)
    (h : ensureFolders ensure tree [] (wants ++ rest) = .ok (tree₁, folder)) {root : List String}
    (hroot : resolveFolder displayName tree₁ [] wants = some root) :
    AllDisplayed tree₁ root ↔ ∀ before, resolveFolder displayName tree [] wants = some before →
      AllDisplayed tree before := by
  obtain ⟨hkeeps, -, hkept, hnew⟩ := ensureFolders_spec hensure hwants h
  constructor
  · intro hall before hbefore item hitem names hne hplace
    obtain rfl := Option.some.inj ((resolveFolder_mono hkeeps hbefore).symm.trans hroot)
    exact hall item (hkept item hitem) names hne hplace
  · intro hpre item hitem names hne hplace
    rcases hnew item hitem with hold | ⟨-, hdisplayed⟩
    · cases hbefore : resolveFolder displayName tree [] wants with
      | none =>
        have hnothing := nothing_below_created hensure hwants h rfl hbefore hroot
        rcases List.eq_nil_or_concat' names with rfl | ⟨init, last, rfl⟩
        · exact absurd rfl hne
        · rw [← List.append_assoc] at hplace
          have hparent := (Item.place_eq_append.mp hplace).1
          exact absurd (hparent ▸ List.prefix_append root init) (hnothing item hold)
      | some before =>
        obtain rfl := Option.some.inj ((resolveFolder_mono hkeeps hbefore).symm.trans hroot)
        exact hpre before hbefore item hold names hne hplace
    · exact hdisplayed

end Netdisk2Blob.Providers
