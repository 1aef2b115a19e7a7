import Netdisk2Blob.Library.Results
import Mathlib

/-!
# Listing Folders Page by Page

The listing loop of a client of a remote drive whose folders come in pages: a stack of
folders still to read, each with its key; of a folder one page after another, as long as the
last page says that there is another; the items of a page in the order in which the client
goes through them. A folder is pushed and a file is kept if the client's tests accept its key.

## Contents

- `PagedDrive`: what the service returns; `Lister`: how a client reads it
- `scan`, `walk`: the loop; it ends since what is on the stack gets smaller
- `objects`: every file below a folder, with the keys of the folders on its way
- `Reads`, `Readable`: the folders that the loop opens
- `walk_spec`: the loop succeeds exactly when these are readable, and then finds the files
  that its tests accept
-/

namespace Netdisk2Blob.Library

namespace Paged

variable {I Id ε : Type}

/-! ## Section 1: The drive and its client -/

/-- What an item of a listing is; a folder may come without an id. -/
inductive Kind (Id : Type) where
  | folder (id : Option Id)
  | file
  | other
  deriving DecidableEq, Repr

/-- One page of a folder, with what the service says about the next one. -/
structure Page (I : Type) where
  items : List I
  continuation : Option String
  deriving Repr

variable {kind : I → Kind Id}

/-- The folder that an item leads to. -/
def childOf (kind : I → Kind Id) (item : I) : Option Id :=
  match kind item with
  | .folder id => id
  | _ => none

/-- The folders of a drive, page by page. A folder is larger than the folders in it together,
so that the tree is finite. -/
structure PagedDrive (kind : I → Kind Id) where
  pages : Id → List (Page I)
  size : Id → Nat
  size_children : ∀ folder, ((((pages folder).flatMap Page.items).filterMap (childOf kind)).map
    size).sum < size folder

/-- How a client sees a drive. -/
structure View (I : Type) where
  /-- the name under which an item is shown -/
  name : I → Option String
  join : String → String → String
  /-- whether another page is asked for after this one -/
  continues : Page I → Bool

/-- How a client lists a drive. -/
structure Lister (ε : Type) (kind : I → Kind Id) extends View I where
  /-- the error on an item without a name -/
  nameless : I → ε
  /-- the error on a folder without an id -/
  idless : ε
  keepFolder : String → Bool
  keepFile : String → Bool
  /-- the folders of a page are gone through before its files -/
  foldersFirst : Bool

variable {l : Lister ε kind} {view : View I} {drive : PagedDrive kind}

/-! ## Section 2: The loop -/

def isFolder (kind : I → Kind Id) (item : I) : Bool :=
  match kind item with
  | .folder _ => true
  | _ => false

/-- The items of a page in the order in which the client goes through them. -/
def Lister.arranged (l : Lister ε kind) (page : Page I) : List I :=
  if l.foldersFirst then
    page.items.filter (isFolder kind) ++ page.items.filter (fun item => !isFolder kind item)
  else page.items

/-- The page loop of one folder. Behind the last page there is an empty one. -/
def Lister.read (l : Lister ε kind) : List (Page I) → List I
  | [] => []
  | page :: pages => l.arranged page ++ if l.continues page then l.read pages else []

/-- One folder: the folders to push and the files found, with their keys. -/
def scan (l : Lister ε kind) (folderKey : String) :
    List I → Except ε (List (Id × String) × List (String × I))
  | [] => .ok ([], [])
  | item :: rest =>
    match l.name item with
    | none => .error (l.nameless item)
    | some name =>
      let key := l.join folderKey name
      match kind item with
      | .folder none => .error l.idless
      | .folder (some id) => do
        let (folders, files) ← scan l folderKey rest
        return (if l.keepFolder key then (id, key) :: folders else folders, files)
      | .file => do
        let (folders, files) ← scan l folderKey rest
        return (folders, if l.keepFile key then (key, item) :: files else files)
      | .other => scan l folderKey rest

/-- How much a stack can still make the loop read. -/
def weight (drive : PagedDrive kind) (stack : List (Id × String)) : Nat :=
  (stack.map (fun top => drive.size top.1)).sum

theorem arranged_perm (page : Page I) : (l.arranged page).Perm page.items := by
  rw [Lister.arranged]
  split
  · exact List.filter_append_perm _ page.items
  · exact List.Perm.refl _

/-- What is read of a folder is some of its items. -/
theorem read_subperm (pages : List (Page I)) :
    ∃ rest, (l.read pages ++ rest).Perm (pages.flatMap Page.items) := by
  induction pages with
  | nil => exact ⟨[], List.Perm.refl _⟩
  | cons page pages ih =>
      obtain ⟨rest, hrest⟩ := ih
      rw [List.flatMap_cons, Lister.read]
      split
      · refine ⟨rest, ?_⟩
        rw [List.append_assoc]
        exact (arranged_perm page).append hrest
      · refine ⟨pages.flatMap Page.items, ?_⟩
        rw [List.append_nil]
        exact (arranged_perm page).append_right _

/-- The folders that are pushed are children of the folder. -/
theorem scan_folders_sublist {folderKey : String} {items : List I}
    {folders : List (Id × String)} {files : List (String × I)}
    (h : scan l folderKey items = .ok (folders, files)) :
    (folders.map Prod.fst).Sublist (items.filterMap (childOf kind)) := by
  induction items generalizing folders files with
  | nil =>
      cases h
      exact List.Sublist.refl _
  | cons item items ih =>
      rw [scan] at h
      cases hname : l.name item with
      | none =>
          rw [hname] at h
          cases h
      | some name =>
          simp only [hname] at h
          cases hkind : kind item with
          | folder id =>
              cases id with
              | none =>
                  rw [hkind] at h
                  cases h
              | some id =>
                  rw [hkind] at h
                  obtain ⟨⟨folders', files'⟩, hrest, hpair⟩ := except_bind_ok.mp h
                  cases hpair
                  have hchild : childOf kind item = some id := by rw [childOf, hkind]
                  rw [List.filterMap_cons_some hchild]
                  split
                  · exact (ih hrest).cons_cons id
                  · exact (ih hrest).cons id
          | file =>
              rw [hkind] at h
              obtain ⟨⟨folders', files'⟩, hrest, hpair⟩ := except_bind_ok.mp h
              cases hpair
              have hchild : childOf kind item = none := by rw [childOf, hkind]
              rw [List.filterMap_cons_none hchild]
              exact ih hrest
          | other =>
              rw [hkind] at h
              have hchild : childOf kind item = none := by rw [childOf, hkind]
              rw [List.filterMap_cons_none hchild]
              exact ih h

/-- Reading a folder leaves less to read. -/
theorem weight_lt {folder : Id} {folderKey : String} {stack folders : List (Id × String)}
    {files : List (String × I)}
    (h : scan l folderKey (l.read (drive.pages folder)) = .ok (folders, files)) :
    weight drive (folders.reverse ++ stack) < weight drive ((folder, folderKey) :: stack) := by
  obtain ⟨rest, hrest⟩ := read_subperm (l := l) (drive.pages folder)
  have hchildren : ((folders.map Prod.fst).map drive.size).sum ≤
      ((((drive.pages folder).flatMap Page.items).filterMap (childOf kind)).map
        drive.size).sum := by
    -- what is read is among the items of the folder
    have hperm := ((hrest.filterMap (childOf kind)).map drive.size).sum_eq
    rw [← hperm, List.filterMap_append, List.map_append, List.sum_append]
    have hsum := ((scan_folders_sublist h).map drive.size).sum_le_sum (fun _ _ => Nat.zero_le _)
    exact hsum.trans (Nat.le_add_right _ _)
  have hsize := drive.size_children folder
  rw [weight, weight, List.map_append, List.sum_append, List.map_reverse, List.sum_reverse,
    List.map_cons, List.sum_cons]
  rw [List.map_map] at hchildren
  apply Nat.add_lt_add_right
  exact lt_of_le_of_lt hchildren hsize

/-- The listing loop: the folder on top of the stack is read, and its child folders are pushed. -/
def walk (l : Lister ε kind) (drive : PagedDrive kind) (stack : List (Id × String))
    (found : List (String × I)) : Except ε (List (String × I)) :=
  match stack with
  | [] => .ok found
  | (folder, folderKey) :: stack =>
    match _h : scan l folderKey (l.read (drive.pages folder)) with
    | .error error => .error error
    | .ok (folders, files) => walk l drive (folders.reverse ++ stack) (found ++ files)
termination_by weight drive stack
decreasing_by exact weight_lt _h

@[simp] theorem walk_nil (found : List (String × I)) : walk l drive [] found = .ok found := by
  rw [walk]

theorem walk_cons_error {folder : Id} {folderKey : String} {stack : List (Id × String)}
    {found : List (String × I)} {error : ε}
    (h : scan l folderKey (l.read (drive.pages folder)) = .error error) :
    walk l drive ((folder, folderKey) :: stack) found = .error error := by
  rw [walk]
  split
  · rename_i other hother
    rw [h] at hother
    cases hother
    rfl
  · rename_i folders files hok
    rw [h] at hok
    cases hok

theorem walk_cons_ok {folder : Id} {folderKey : String} {stack folders : List (Id × String)}
    {found files : List (String × I)}
    (h : scan l folderKey (l.read (drive.pages folder)) = .ok (folders, files)) :
    walk l drive ((folder, folderKey) :: stack) found =
      walk l drive (folders.reverse ++ stack) (found ++ files) := by
  rw [walk]
  split
  · rename_i other hother
    rw [h] at hother
    cases hother
  · rename_i folders' files' hok
    rw [h] at hok
    cases hok
    rfl

/-! ## Section 3: The files of a tree -/

/-- A file below a folder, under the names that lead to it. -/
structure Placed (I : Type) where
  key : String
  item : I
  /-- the keys of the folders on the way, from the outermost -/
  folders : List String
  /-- its page is among those that the client reads, and so is the page of each folder on the
  way -/
  shown : Bool

/-- A file of a child folder, seen from the folder above. -/
def Placed.below (folderKey : String) (shown : Bool) (object : Placed I) : Placed I :=
  { object with folders := folderKey :: object.folders, shown := shown && object.shown }

/-- All items of a folder, with whether the client still reads their page. -/
def marked (continues : Page I → Bool) : Bool → List (Page I) → List (Bool × I)
  | _, [] => []
  | shown, page :: pages =>
    page.items.map (fun item => (shown, item)) ++ marked continues (shown && continues page) pages

theorem marked_items (continues : Page I → Bool) (shown : Bool) (pages : List (Page I)) :
    (marked continues shown pages).map Prod.snd = pages.flatMap Page.items := by
  induction pages generalizing shown with
  | nil => rfl
  | cons page pages ih =>
      rw [marked, List.map_append, ih, List.flatMap_cons, List.map_map]
      simp

theorem size_child_lt {folder id : Id} {entry : Bool × I} {continues : Page I → Bool}
    (hentry : entry ∈ marked continues true (drive.pages folder))
    (hkind : kind entry.2 = .folder (some id)) : drive.size id < drive.size folder := by
  have hitem : entry.2 ∈ (drive.pages folder).flatMap Page.items := by
    rw [← marked_items continues true]
    exact List.mem_map_of_mem hentry
  have hchild : id ∈ ((drive.pages folder).flatMap Page.items).filterMap (childOf kind) :=
    List.mem_filterMap.mpr ⟨entry.2, hitem, by rw [childOf, hkind]⟩
  have hle := List.single_le_sum (fun _ _ => Nat.zero_le _) _
    (List.mem_map_of_mem (f := drive.size) hchild)
  exact lt_of_le_of_lt hle (drive.size_children folder)

/-- Every file below a folder, whatever its key. What has no name has no key. -/
def objects (view : View I) (drive : PagedDrive kind) (folder : Id) (folderKey : String) :
    List (Placed I) :=
  (marked view.continues true (drive.pages folder)).attach.flatMap fun entry =>
    match view.name entry.val.2 with
    | none => []
    | some name =>
      match _h : kind entry.val.2 with
      | .folder (some id) =>
        (objects view drive id (view.join folderKey name)).map
          (Placed.below (view.join folderKey name) entry.val.1)
      | .folder none => []
      | .file => [⟨view.join folderKey name, entry.val.2, [], entry.val.1⟩]
      | .other => []
termination_by drive.size folder
decreasing_by exact size_child_lt entry.property _h

/-- What one item of a folder contributes, given what its child folders hold. -/
def placed (view : View I) (kind : I → Kind Id) (inside : Id → String → List (Placed I))
    (folderKey : String) (entry : Bool × I) : List (Placed I) :=
  match view.name entry.2 with
  | none => []
  | some name =>
    match kind entry.2 with
    | .folder (some id) =>
      (inside id (view.join folderKey name)).map (Placed.below (view.join folderKey name) entry.1)
    | .folder none => []
    | .file => [⟨view.join folderKey name, entry.2, [], entry.1⟩]
    | .other => []

theorem objects_eq (folder : Id) (folderKey : String) :
    objects view drive folder folderKey =
      (marked view.continues true (drive.pages folder)).flatMap
        (placed view kind (objects view drive) folderKey) := by
  rw [objects]
  conv_rhs => rw [← List.attach_map_subtype_val (marked view.continues true (drive.pages folder)),
    List.flatMap_map]
  congr 1
  funext entry
  rw [placed]
  cases view.name entry.val.2 with
  | none => rfl
  | some name =>
      simp only
      split <;> simp_all

/-- The files that the tests of the client accept, and that stand on pages it reads. -/
def accepted (l : Lister ε kind) (object : Placed I) : Bool :=
  object.shown && object.folders.all l.keepFolder && l.keepFile object.key

/-- What the loop should find below a folder. -/
def listed (l : Lister ε kind) (drive : PagedDrive kind) (folder : Id) (folderKey : String) :
    List (String × I) :=
  ((objects l.toView drive folder folderKey).filter (accepted l)).map
    (fun object => (object.key, object.item))

/-- What the loop should find behind one item of a folder. -/
def listedBehind (l : Lister ε kind) (drive : PagedDrive kind) (folderKey : String) (item : I) :
    List (String × I) :=
  match l.name item with
  | none => []
  | some name =>
    let key := l.join folderKey name
    match kind item with
    | .folder (some id) => if l.keepFolder key then listed l drive id key else []
    | .folder none => []
    | .file => if l.keepFile key then [(key, item)] else []
    | .other => []

theorem accepted_below (folderKey : String) (shown : Bool) (object : Placed I) :
    accepted l (object.below folderKey shown) =
      (shown && l.keepFolder folderKey && accepted l object) := by
  simp only [accepted, Placed.below, List.all_cons]
  cases shown <;> cases l.keepFolder folderKey <;> simp

/-- An item on a page that is read contributes what stands behind it, any other nothing. -/
theorem filter_placed (folderKey : String) (entry : Bool × I) :
    ((placed l.toView kind (objects l.toView drive) folderKey entry).filter (accepted l)).map
        (fun object => (object.key, object.item)) =
      if entry.1 then listedBehind l drive folderKey entry.2 else [] := by
  obtain ⟨shown, item⟩ := entry
  simp only [placed, listedBehind]
  cases l.name item with
  | none => simp
  | some name =>
      simp only
      cases kind item with
      | folder id =>
          cases id with
          | none => simp
          | some id =>
              simp only [List.filter_map, List.map_map]
              have haccepted : accepted l ∘ Placed.below (l.join folderKey name) shown =
                  fun object =>
                    shown && l.keepFolder (l.join folderKey name) && accepted l object := by
                funext object
                exact accepted_below _ _ _
              rw [haccepted]
              cases shown
              · simp
              · cases l.keepFolder (l.join folderKey name)
                · simp
                · simp only [Bool.true_and, if_true, listed]
                  rfl
      | file =>
          cases shown
          · simp [accepted]
          · cases hkeep : l.keepFile (l.join folderKey name) <;> simp [accepted, hkeep]
      | other => simp

/-- What is marked as read is what the page loop reads. -/
theorem filter_marked_perm (pages : List (Page I)) :
    (((marked l.continues true pages).filter Prod.fst).map Prod.snd).Perm (l.read pages) := by
  -- behind the last page that is read, nothing is marked
  have hnothing : ∀ pages : List (Page I),
      (marked l.continues false pages).filter Prod.fst = [] := by
    intro pages
    induction pages with
    | nil => rfl
    | cons page pages ih =>
        rw [marked, List.filter_append, Bool.false_and, ih, List.filter_map]
        simp
  induction pages with
  | nil => exact List.Perm.refl _
  | cons page pages ih =>
      have hpage : (page.items.map (fun item => (true, item))).filter Prod.fst =
          page.items.map (fun item => (true, item)) := by
        rw [List.filter_eq_self]
        intro entry hentry
        obtain ⟨item, -, rfl⟩ := List.mem_map.mp hentry
        rfl
      have hitems : (page.items.map (fun item => (true, item))).map Prod.snd = page.items := by
        simp
      rw [marked, List.filter_append, List.map_append, hpage, hitems, Bool.true_and, Lister.read]
      apply (arranged_perm page).symm.append
      cases l.continues page
      · simp [hnothing]
      · simpa using ih

theorem listed_perm (folder : Id) (folderKey : String) :
    (listed l drive folder folderKey).Perm
      ((l.read (drive.pages folder)).flatMap (listedBehind l drive folderKey)) := by
  have hmarked : listed l drive folder folderKey =
      (((marked l.continues true (drive.pages folder)).filter Prod.fst).map Prod.snd).flatMap
        (listedBehind l drive folderKey) := by
    rw [listed, objects_eq, List.filter_flatMap, List.map_flatMap]
    simp only [filter_placed]
    induction marked l.continues true (drive.pages folder) with
    | nil => rfl
    | cons entry entries ih =>
        rw [List.flatMap_cons, ih, List.filter_cons]
        cases hshown : entry.1 <;> simp
  rw [hmarked]
  exact (filter_marked_perm (drive.pages folder)).flatMap_right _

/-! ## Section 4: What the loop finds -/

/-- What the loop should find below the folders of a stack. -/
def listedAll (l : Lister ε kind) (drive : PagedDrive kind) (stack : List (Id × String)) :
    List (String × I) :=
  stack.flatMap (fun top => listed l drive top.1 top.2)

/-- The files of a folder and what is below the folders that it pushes. -/
theorem scan_perm {folderKey : String} {items : List I} {folders : List (Id × String)}
    {files : List (String × I)} (h : scan l folderKey items = .ok (folders, files)) :
    (files ++ listedAll l drive folders).Perm
      (items.flatMap (listedBehind l drive folderKey)) := by
  induction items generalizing folders files with
  | nil =>
      cases h
      exact List.Perm.refl _
  | cons item items ih =>
      rw [scan] at h
      rw [List.flatMap_cons, listedBehind]
      cases hname : l.name item with
      | none =>
          rw [hname] at h
          cases h
      | some name =>
          simp only [hname] at h
          cases hkind : kind item with
          | folder id =>
              cases id with
              | none =>
                  rw [hkind] at h
                  cases h
              | some id =>
                  rw [hkind] at h
                  obtain ⟨⟨folders', files'⟩, hrest, hpair⟩ := except_bind_ok.mp h
                  cases hpair
                  have hperm := ih hrest
                  simp only
                  split
                  · -- the folder is pushed: its files come behind those of this folder
                    rw [listedAll, List.flatMap_cons]
                    have hswap := @List.perm_append_comm_assoc _ files'
                      (listed l drive id (l.join folderKey name)) (listedAll l drive folders')
                    exact hswap.trans (hperm.append_left _)
                  · exact hperm
          | file =>
              rw [hkind] at h
              obtain ⟨⟨folders', files'⟩, hrest, hpair⟩ := except_bind_ok.mp h
              cases hpair
              have hperm := ih hrest
              simp only
              split
              · exact hperm.cons _
              · exact hperm
          | other =>
              rw [hkind] at h
              exact ih h

/-- A loop that succeeds finds what its tests accept below the stack. -/
theorem walk_perm {stack : List (Id × String)} {found files : List (String × I)}
    (h : walk l drive stack found = .ok files) :
    files.Perm (found ++ listedAll l drive stack) := by
  induction stack, found using walk.induct l drive with
  | case1 found =>
      rw [walk_nil] at h
      cases h
      simp [listedAll]
  | case2 found folder folderKey stack error hscan =>
      rw [walk_cons_error hscan] at h
      cases h
  | case3 found folder folderKey stack folders fresh hscan ih =>
      rw [walk_cons_ok hscan] at h
      apply (ih h).trans
      rw [List.append_assoc]
      apply List.Perm.append_left
      rw [listedAll, List.flatMap_append, ← List.append_assoc]
      have hfolder := (@scan_perm _ _ _ _ l drive _ _ _ _ hscan).trans (listed_perm folder folderKey).symm
      have hreverse : (fresh ++ folders.reverse.flatMap
          (fun top => listed l drive top.1 top.2)).Perm (listed l drive folder folderKey) :=
        ((folders.reverse_perm.flatMap_right _).append_left fresh).trans hfolder
      exact hreverse.append_right _

/-! ## Section 5: When the loop succeeds -/

/-- An item that does not stop the loop. -/
def Visitable (l : Lister ε kind) (item : I) : Prop :=
  l.name item ≠ none ∧ kind item ≠ .folder none

/-- The folders that the loop opens below a folder, with their keys. -/
inductive Reads (l : Lister ε kind) (drive : PagedDrive kind) (folder : Id) (folderKey : String) :
    Id → String → Prop where
  | root : Reads l drive folder folderKey folder folderKey
  | child {parent id : Id} {parentKey name : String} {item : I} :
      Reads l drive folder folderKey parent parentKey →
      item ∈ l.read (drive.pages parent) →
      l.name item = some name →
      kind item = .folder (some id) →
      l.keepFolder (l.join parentKey name) = true →
      Reads l drive folder folderKey id (l.join parentKey name)

/-- No item of a folder that the loop opens stops it. -/
def Readable (l : Lister ε kind) (drive : PagedDrive kind) (folder : Id) (folderKey : String) :
    Prop :=
  ∀ opened key, Reads l drive folder folderKey opened key →
    ∀ item ∈ l.read (drive.pages opened), Visitable l item

theorem scan_ok_iff {folderKey : String} {items : List I} :
    (∃ result, scan l folderKey items = .ok result) ↔ ∀ item ∈ items, Visitable l item := by
  induction items with
  | nil => simp [scan]
  | cons item items ih =>
      rw [List.forall_mem_cons, ← ih, scan, Visitable]
      cases l.name item with
      | none => simp
      | some name =>
          cases hkind : kind item with
          | folder id =>
              cases id with
              | none => simp
              | some id =>
                  cases scan l folderKey items <;> simp [bind, Except.bind, pure, Except.pure]
          | file => cases scan l folderKey items <;> simp [bind, Except.bind, pure, Except.pure]
          | other => simp

/-- The folders that are pushed are the children that the client keeps. -/
theorem mem_scan_folders {folderKey : String} {items : List I} {folders : List (Id × String)}
    {files : List (String × I)} (h : scan l folderKey items = .ok (folders, files))
    {id : Id} {key : String} :
    (id, key) ∈ folders ↔ ∃ item ∈ items, ∃ name, l.name item = some name ∧
      kind item = .folder (some id) ∧ l.keepFolder key = true ∧ key = l.join folderKey name := by
  induction items generalizing folders files with
  | nil =>
      cases h
      simp
  | cons item items ih =>
      rw [scan] at h
      simp only [List.exists_mem_cons_iff]
      cases hname : l.name item with
      | none =>
          rw [hname] at h
          cases h
      | some name =>
          simp only [hname] at h
          cases hkind : kind item with
          | folder child =>
              cases child with
              | none =>
                  rw [hkind] at h
                  cases h
              | some child =>
                  rw [hkind] at h
                  obtain ⟨⟨folders', files'⟩, hrest, hpair⟩ := except_bind_ok.mp h
                  cases hpair
                  rw [← ih hrest]
                  by_cases hkeep : l.keepFolder (l.join folderKey name) = true
                  · rw [if_pos hkeep, List.mem_cons]
                    constructor
                    · intro hmem
                      rcases hmem with heq | hmem
                      · cases heq
                        exact Or.inl ⟨name, rfl, rfl, hkeep, rfl⟩
                      · exact Or.inr hmem
                    · intro hmem
                      rcases hmem with ⟨other, hother, hid, -, rfl⟩ | hmem
                      · cases hother
                        cases hid
                        exact Or.inl rfl
                      · exact Or.inr hmem
                  · rw [if_neg hkeep]
                    constructor
                    · exact Or.inr
                    · intro hmem
                      rcases hmem with ⟨other, hother, -, hkept, rfl⟩ | hmem
                      · cases hother
                        exact absurd hkept hkeep
                      · exact hmem
          | file =>
              rw [hkind] at h
              obtain ⟨⟨folders', files'⟩, hrest, hpair⟩ := except_bind_ok.mp h
              cases hpair
              rw [← ih hrest]
              simp
          | other =>
              rw [hkind] at h
              rw [← ih h]
              simp

/-- What is opened below a child folder is opened below the folder. -/
theorem Reads.above {folder child opened : Id} {folderKey childKey key : String}
    (hchild : Reads l drive folder folderKey child childKey)
    (h : Reads l drive child childKey opened key) : Reads l drive folder folderKey opened key := by
  induction h with
  | root => exact hchild
  | child _ hitem hname hkind hkeep ih => exact Reads.child ih hitem hname hkind hkeep

/-- What is opened is the folder itself or is opened below one of its children. -/
theorem Reads.cases_head {folder opened : Id} {folderKey key : String}
    (h : Reads l drive folder folderKey opened key) :
    (opened = folder ∧ key = folderKey) ∨ ∃ item ∈ l.read (drive.pages folder), ∃ name id,
      l.name item = some name ∧ kind item = .folder (some id) ∧
        l.keepFolder (l.join folderKey name) = true ∧
        Reads l drive id (l.join folderKey name) opened key := by
  induction h with
  | root => exact Or.inl ⟨rfl, rfl⟩
  | @child parent id parentKey name item hparent hitem hname hkind hkeep ih =>
      rcases ih with ⟨rfl, rfl⟩ | ⟨first, hfirst, other, child, hother, hchild, hkept, hreads⟩
      · exact Or.inr ⟨item, hitem, name, id, hname, hkind, hkeep, Reads.root⟩
      · exact Or.inr ⟨first, hfirst, other, child, hother, hchild, hkept,
          hreads.child hitem hname hkind hkeep⟩

/-- A folder is readable if its items are visitable and the children to open are readable. -/
theorem readable_iff_children {folder : Id} {folderKey : String} :
    Readable l drive folder folderKey ↔
      (∀ item ∈ l.read (drive.pages folder), Visitable l item) ∧
        ∀ item ∈ l.read (drive.pages folder), ∀ name id, l.name item = some name →
          kind item = .folder (some id) → l.keepFolder (l.join folderKey name) = true →
          Readable l drive id (l.join folderKey name) := by
  constructor
  · intro h
    refine ⟨h folder folderKey Reads.root, ?_⟩
    intro item hitem name id hname hkind hkeep opened key hreads
    exact h opened key ((Reads.root.child hitem hname hkind hkeep).above hreads)
  · intro h opened key hreads
    rcases hreads.cases_head with ⟨rfl, rfl⟩ | ⟨item, hitem, name, id, hname, hkind, hkeep, hbelow⟩
    · exact h.1
    · exact h.2 item hitem name id hname hkind hkeep opened key hbelow

/-- The loop succeeds exactly when every folder of the stack is readable. -/
theorem walk_ok_iff {stack : List (Id × String)} {found : List (String × I)} :
    (∃ files, walk l drive stack found = .ok files) ↔
      ∀ top ∈ stack, Readable l drive top.1 top.2 := by
  induction stack, found using walk.induct l drive with
  | case1 found => simp
  | case2 found folder folderKey stack error hscan =>
      rw [walk_cons_error hscan]
      refine iff_of_false (by simp) ?_
      intro h
      have hvisitable := (readable_iff_children.mp (h _ List.mem_cons_self)).1
      obtain ⟨result, hok⟩ := scan_ok_iff.mpr hvisitable
      rw [hscan] at hok
      cases hok
  | case3 found folder folderKey stack folders fresh hscan ih =>
      rw [walk_cons_ok hscan, ih, List.forall_mem_cons, List.forall_mem_append]
      apply and_congr_left'
      rw [readable_iff_children]
      constructor
      · intro h
        refine ⟨scan_ok_iff.mp ⟨_, hscan⟩, ?_⟩
        intro item hitem name id hname hkind hkeep
        have hpushed := (mem_scan_folders hscan).mpr ⟨item, hitem, name, hname, hkind, hkeep, rfl⟩
        exact h _ (List.mem_reverse.mpr hpushed)
      · intro h top htop
        obtain ⟨id, key⟩ := top
        obtain ⟨item, hitem, name, hname, hkind, hkeep, rfl⟩ :=
          (mem_scan_folders hscan).mp (List.mem_reverse.mp htop)
        exact h.2 item hitem name id hname hkind hkeep

/-- The listing of a folder: it succeeds exactly when the folder is readable, and then finds
the files below it that the tests of the client accept. -/
theorem walk_spec (l : Lister ε kind) (drive : PagedDrive kind) (folder : Id)
    (folderKey : String) :
    (∃ files, walk l drive [(folder, folderKey)] [] = .ok files ∧
      files.Perm (listed l drive folder folderKey) ∧ Readable l drive folder folderKey) ∨
    (∃ error, walk l drive [(folder, folderKey)] [] = .error error ∧
      ¬ Readable l drive folder folderKey) := by
  have hiff := @walk_ok_iff _ _ _ _ l drive [(folder, folderKey)] []
  rw [List.forall_mem_singleton] at hiff
  cases hwalk : walk l drive [(folder, folderKey)] [] with
  | error error =>
      refine Or.inr ⟨error, rfl, ?_⟩
      intro hreadable
      obtain ⟨files, hfiles⟩ := hiff.mpr hreadable
      rw [hwalk] at hfiles
      cases hfiles
  | ok files =>
      refine Or.inl ⟨files, rfl, ?_, hiff.mp ⟨files, hwalk⟩⟩
      have hperm := walk_perm hwalk
      simpa [listedAll] using hperm

end Paged

end Netdisk2Blob.Library
