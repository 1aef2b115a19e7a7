import Netdisk2Blob.Library.FolderWalk
import Netdisk2Blob.Library.Results
import Mathlib.Algebra.Group.Action.Defs

/-!
# Listing a Folder with Everything Below It

The listing loop of a client: a stack of folders still to read, each with the key of the
folder, from which the last one pushed is read first. A file is found under the key of its
folder and its label; an item without a label ends the loop with an error.

## Contents

- `Listing`, `scan`, `walk`: the loop; it ends (`weight_lt`)
- `walk_cons`: a stack is read from its top
- `mem_walk`, `walk_complete`, `walk_ok_of_labelled`: what the loop finds, and when it
  succeeds
- `filter_walk`: of the files that show one key, the ones that the loop finds last
-/

namespace Netdisk2Blob.Library

namespace FileTree

variable {B ε : Type}

/-! ## Section 1: The loop -/

/-- How a client lists: the label of a name, the key of a child, and what it keeps. -/
structure Listing (ε : Type) where
  label : String → Option String
  join : String → String → String
  /-- the error on an item without a label, which may be a folder -/
  nameless : Bool → ε
  keepFolder : String → Bool
  keepFile : String → Bool
  /-- the service lists the folders before the files -/
  foldersFirst : Bool

variable {l : Listing ε} {tree : FileTree B}

/-- What a folder lists, in the order in which the client goes through it. -/
def Listing.page (l : Listing ε) (tree : FileTree B) (folder : List String) : List (Item B) :=
  if l.foldersFirst then
    (tree.children folder).filter Item.isFolder ++
      (tree.children folder).filter (fun item => !item.isFolder)
  else tree.children folder

/-- One listing: the folders to read and the files found, with their keys. -/
def scan (l : Listing ε) (folderKey : String) :
    List (Item B) → Except ε (List (List String × String) × List (String × Item B))
  | [] => .ok ([], [])
  | item :: rest =>
    match l.label item.name with
    | none => .error (l.nameless item.isFolder)
    | some name => do
      let (folders, files) ← scan l folderKey rest
      let key := l.join folderKey name
      if item.isFolder then
        return (if l.keepFolder key then (item.place, key) :: folders else folders, files)
      else return (folders, if l.keepFile key then (key, item) :: files else files)

/-- An upper bound on the depth of the tree. -/
def depth (tree : FileTree B) : Nat :=
  (tree.items.map (fun item => item.place.length)).sum

/-- How much a stack can still make the loop read. -/
def weight (tree : FileTree B) (stack : List (List String × String)) : Nat :=
  (stack.map (fun entry =>
    (tree.items.length + 1) ^ (tree.depth + 1 - entry.1.length))).sum

theorem mem_page {folder : List String} {item : Item B} :
    item ∈ l.page tree folder ↔ item ∈ tree.items ∧ item.parent = folder := by
  rw [← mem_children, Listing.page]
  split
  · rw [List.mem_append, List.mem_filter, List.mem_filter]
    cases item.isFolder <;> simp
  · rfl

theorem length_page_le (folder : List String) :
    (l.page tree folder).length ≤ tree.items.length := by
  have hchildren : (tree.children folder).length ≤ tree.items.length := List.length_filter_le _ _
  rw [Listing.page]
  split
  · have hperm := List.filter_append_perm Item.isFolder (tree.children folder)
    rw [hperm.length_eq]
    exact hchildren
  · exact hchildren

/-- What one item adds to a listing that succeeds. -/
theorem scan_cons {folderKey : String} {item : Item B} {rest : List (Item B)}
    {folders : List (List String × String)} {files : List (String × Item B)}
    (h : scan l folderKey (item :: rest) = .ok (folders, files)) :
    ∃ name folders' files', l.label item.name = some name ∧
      scan l folderKey rest = .ok (folders', files') ∧
      folders = (if item.isFolder ∧ l.keepFolder (l.join folderKey name) then
        (item.place, l.join folderKey name) :: folders' else folders') ∧
      files = (if ¬ item.isFolder ∧ l.keepFile (l.join folderKey name) then
        (l.join folderKey name, item) :: files' else files') := by
  rw [scan] at h
  cases hname : l.label item.name with
  | none =>
    rw [hname] at h
    cases h
  | some name =>
    rw [hname] at h
    obtain ⟨⟨folders', files'⟩, hrest, hpair⟩ := except_bind_ok.mp h
    refine ⟨name, folders', files', rfl, hrest, ?_⟩
    cases hkind : item.isFolder
    · simp only [hkind] at hpair
      cases hpair
      simp
    · simp only [hkind] at hpair
      cases hpair
      simp

theorem mem_scan_folders {folderKey : String} {items : List (Item B)}
    {folders : List (List String × String)} {files : List (String × Item B)}
    (h : scan l folderKey items = .ok (folders, files)) {entry : List String × String}
    (hentry : entry ∈ folders) :
    ∃ item ∈ items, ∃ name, item.isFolder = true ∧ l.label item.name = some name ∧
      entry = (item.place, l.join folderKey name) := by
  induction items generalizing folders files with
  | nil =>
    cases h
    exact absurd hentry List.not_mem_nil
  | cons item items ih =>
    obtain ⟨name, folders', files', hname, hrest, hfolders, -⟩ := scan_cons h
    have htail : entry ∈ folders' → ∃ other ∈ item :: items, ∃ name, other.isFolder = true ∧
        l.label other.name = some name ∧ entry = (other.place, l.join folderKey name) := by
      intro hmem
      obtain ⟨other, hother, found⟩ := ih hrest hmem
      exact ⟨other, List.mem_cons_of_mem _ hother, found⟩
    rw [hfolders] at hentry
    split at hentry
    · rename_i hkeep
      rcases List.mem_cons.mp hentry with rfl | hmem
      · exact ⟨item, List.mem_cons_self, name, hkeep.1, hname, rfl⟩
      · exact htail hmem
    · exact htail hentry

theorem length_scan_folders_le {folderKey : String} {items : List (Item B)}
    {folders : List (List String × String)} {files : List (String × Item B)}
    (h : scan l folderKey items = .ok (folders, files)) : folders.length ≤ items.length := by
  induction items generalizing folders files with
  | nil =>
    cases h
    exact le_refl _
  | cons item items ih =>
    obtain ⟨name, folders', files', -, hrest, rfl, -⟩ := scan_cons h
    have htail := ih hrest
    split <;> simp only [List.length_cons] <;> omega

/-- Reading a folder leaves less to read: its child folders lie one level deeper. -/
theorem weight_lt {folder : List String} {folderKey : String}
    {stack folders : List (List String × String)} {files : List (String × Item B)}
    (h : scan l folderKey (l.page tree folder) = .ok (folders, files)) :
    weight tree (folders.reverse ++ stack) < weight tree ((folder, folderKey) :: stack) := by
  -- the base is larger than the number of child folders
  have hcount : folders.length ≤ tree.items.length :=
    (length_scan_folders_le h).trans (length_page_le folder)
  have hsplit : weight tree (folders.reverse ++ stack) = weight tree folders + weight tree stack := by
    rw [weight, List.map_append, List.sum_append, List.map_reverse, List.sum_reverse]
    rfl
  have hcons : weight tree ((folder, folderKey) :: stack) =
      (tree.items.length + 1) ^ (tree.depth + 1 - folder.length) + weight tree stack := by
    rw [weight, List.map_cons, List.sum_cons]
    rfl
  rw [hsplit, hcons]
  apply Nat.add_lt_add_right
  cases hfolders : folders with
  | nil => exact Nat.pow_pos (Nat.succ_pos _)
  | cons first rest =>
    -- a child folder shows that the folder is not at the greatest depth
    obtain ⟨item, hitem, name, -, -, rfl⟩ :=
      mem_scan_folders h (hfolders ▸ List.mem_cons_self : first ∈ folders)
    obtain ⟨hmem, hparent⟩ := mem_page.mp hitem
    have hlength : ∀ child : Item B, child.parent = folder →
        child.place.length = folder.length + 1 := by
      intro child hchild
      rw [Item.place, hchild, List.length_append, List.length_singleton]
    have hdepth : folder.length + 1 ≤ tree.depth := by
      rw [← hlength item hparent]
      exact List.single_le_sum (fun _ _ => Nat.zero_le _) _
        (List.mem_map_of_mem (f := fun child : Item B => child.place.length) hmem)
    rw [← hfolders]
    have hbound : weight tree folders ≤
        folders.length * (tree.items.length + 1) ^ (tree.depth - folder.length) := by
      rw [weight, ← List.length_map
        (f := fun entry : List String × String =>
          (tree.items.length + 1) ^ (tree.depth + 1 - entry.1.length)), ← smul_eq_mul]
      apply List.sum_le_card_nsmul
      intro value hvalue
      obtain ⟨entry, hentry, rfl⟩ := List.mem_map.mp hvalue
      obtain ⟨child, hchild, _, -, -, rfl⟩ := mem_scan_folders h hentry
      have hchildLength := hlength child (mem_page.mp hchild).2
      apply le_of_eq
      simp only [hchildLength]
      congr 1
      omega
    have hpow : (tree.items.length + 1) ^ (tree.depth + 1 - folder.length) =
        (tree.items.length + 1) * (tree.items.length + 1) ^ (tree.depth - folder.length) := by
      rw [show tree.depth + 1 - folder.length = (tree.depth - folder.length) + 1 by omega,
        pow_succ, mul_comm]
    have hpos : 0 < (tree.items.length + 1) ^ (tree.depth - folder.length) :=
      Nat.pow_pos (Nat.succ_pos _)
    rw [hpow]
    calc weight tree folders
        ≤ folders.length * (tree.items.length + 1) ^ (tree.depth - folder.length) := hbound
      _ ≤ tree.items.length * (tree.items.length + 1) ^ (tree.depth - folder.length) :=
        Nat.mul_le_mul_right _ hcount
      _ < (tree.items.length + 1) * (tree.items.length + 1) ^ (tree.depth - folder.length) :=
        Nat.mul_lt_mul_of_pos_right (Nat.lt_succ_self _) hpos

/-- The listing loop: the folder on top of the stack is read, its child folders are pushed
in the order of the listing. -/
def walk (l : Listing ε) (tree : FileTree B) (stack : List (List String × String))
    (found : List (String × Item B)) : Except ε (List (String × Item B)) :=
  match stack with
  | [] => .ok found
  | (folder, folderKey) :: stack =>
    match _h : scan l folderKey (l.page tree folder) with
    | .error error => .error error
    | .ok (folders, files) => walk l tree (folders.reverse ++ stack) (found ++ files)
termination_by weight tree stack
decreasing_by exact weight_lt _h

@[simp] theorem walk_nil (found : List (String × Item B)) : walk l tree [] found = .ok found := by
  rw [walk]

/-- A stack is read from its top: first the top folder with everything below it. -/
theorem walk_cons_error {folder : List String} {folderKey : String}
    {stack : List (List String × String)} {found : List (String × Item B)} {error : ε}
    (h : scan l folderKey (l.page tree folder) = .error error) :
    walk l tree ((folder, folderKey) :: stack) found = .error error := by
  rw [walk]
  split
  · rename_i other hother
    rw [h] at hother
    cases hother
    rfl
  · rename_i folders files hok
    rw [h] at hok
    cases hok

theorem walk_cons_ok {folder : List String} {folderKey : String}
    {stack folders : List (List String × String)} {found files : List (String × Item B)}
    (h : scan l folderKey (l.page tree folder) = .ok (folders, files)) :
    walk l tree ((folder, folderKey) :: stack) found =
      walk l tree (folders.reverse ++ stack) (found ++ files) := by
  rw [walk]
  split
  · rename_i other hother
    rw [h] at hother
    cases hother
  · rename_i folders' files' hok
    rw [h] at hok
    cases hok
    rfl

/-- What is on top of the stack is read before what is below it. -/
theorem walk_append (stack stack' : List (List String × String))
    (found : List (String × Item B)) :
    walk l tree (stack ++ stack') found =
      (walk l tree stack found).bind (fun found' => walk l tree stack' found') := by
  induction stack, found using walk.induct l tree with
  | case1 found =>
    rw [List.nil_append, walk_nil]
    rfl
  | case2 found folder folderKey stack error h =>
    rw [List.cons_append, walk_cons_error h, walk_cons_error h]
    rfl
  | case3 found folder folderKey stack folders files h ih =>
    rw [List.cons_append, walk_cons_ok h, walk_cons_ok h, ← List.append_assoc]
    exact ih

/-- What was found before stays in front. -/
theorem walk_found (stack : List (List String × String)) (found : List (String × Item B)) :
    walk l tree stack found = (walk l tree stack []).map (fun files => found ++ files) := by
  have hgeneral : ∀ (stack : List (List String × String)) (found old : List (String × Item B)),
      walk l tree stack (old ++ found) =
        (walk l tree stack found).map (fun files => old ++ files) := by
    intro stack found
    induction stack, found using walk.induct l tree with
    | case1 found =>
      intro old
      rw [walk_nil, walk_nil]
      rfl
    | case2 found folder folderKey stack error h =>
      intro old
      rw [walk_cons_error h, walk_cons_error h]
      rfl
    | case3 found folder folderKey stack folders files h ih =>
      intro old
      rw [walk_cons_ok h, walk_cons_ok h, List.append_assoc, ih]
  have h := hgeneral stack [] found
  rw [List.append_nil] at h
  exact h

/-! ## Section 2: What the loop finds -/

/-- A listing of everything, whose keys are the labels joined. -/
structure Listing.Plain (l : Listing ε) : Prop where
  label_segment : ∀ name want, IsSegment name → l.label name = some want → IsSegment want
  join_key : ∀ segments want, AreSegments segments → IsSegment want →
    l.join (joinKey segments) want = joinKey (segments ++ [want])
  all_folders : ∀ key, l.keepFolder key = true
  all_files : ∀ key, l.keepFile key = true

/-- The key of every folder on the stack is made of segments. -/
def Keyed (stack : List (List String × String)) : Prop :=
  ∀ entry ∈ stack, ∃ segments, AreSegments segments ∧ entry.2 = joinKey segments

theorem mem_scan_files {folderKey : String} {items : List (Item B)}
    {folders : List (List String × String)} {files : List (String × Item B)}
    (h : scan l folderKey items = .ok (folders, files)) {entry : String × Item B}
    (hentry : entry ∈ files) :
    entry.2 ∈ items ∧ entry.2.isFolder = false ∧
      ∃ name, l.label entry.2.name = some name ∧ entry.1 = l.join folderKey name := by
  induction items generalizing folders files with
  | nil =>
    cases h
    exact absurd hentry List.not_mem_nil
  | cons item items ih =>
    obtain ⟨name, folders', files', hname, hrest, -, hfiles⟩ := scan_cons h
    have htail : entry ∈ files' → entry.2 ∈ item :: items ∧ entry.2.isFolder = false ∧
        ∃ name, l.label entry.2.name = some name ∧ entry.1 = l.join folderKey name := by
      intro hmem
      obtain ⟨hitem, found⟩ := ih hrest hmem
      exact ⟨List.mem_cons_of_mem _ hitem, found⟩
    rw [hfiles] at hentry
    split at hentry
    · rename_i hkeep
      rcases List.mem_cons.mp hentry with rfl | hmem
      · exact ⟨List.mem_cons_self, by simpa using hkeep.1, name, hname, rfl⟩
      · exact htail hmem
    · exact htail hentry

/-- Every item of a listing that succeeds is pushed or found. -/
theorem scan_complete (hl : l.Plain) {folderKey : String} {items : List (Item B)}
    {folders : List (List String × String)} {files : List (String × Item B)}
    (h : scan l folderKey items = .ok (folders, files)) {item : Item B} (hitem : item ∈ items) :
    ∃ name, l.label item.name = some name ∧
      (item.isFolder = true → (item.place, l.join folderKey name) ∈ folders) ∧
      (item.isFolder = false → (l.join folderKey name, item) ∈ files) := by
  induction items generalizing folders files with
  | nil => exact absurd hitem List.not_mem_nil
  | cons other items ih =>
    obtain ⟨name, folders', files', hname, hrest, hfolders, hfiles⟩ := scan_cons h
    rcases List.mem_cons.mp hitem with rfl | hmem
    · refine ⟨name, hname, ?_, ?_⟩
      · intro hkind
        rw [hfolders, if_pos ⟨hkind, hl.all_folders _⟩]
        exact List.mem_cons_self
      · intro hkind
        rw [hfiles, if_pos ⟨by simp [hkind], hl.all_files _⟩]
        exact List.mem_cons_self
    · obtain ⟨found, hfound, hfolder, hfile⟩ := ih hrest hmem
      refine ⟨found, hfound, ?_, ?_⟩
      · intro hkind
        rw [hfolders]
        split
        · exact List.mem_cons_of_mem _ (hfolder hkind)
        · exact hfolder hkind
      · intro hkind
        rw [hfiles]
        split
        · exact List.mem_cons_of_mem _ (hfile hkind)
        · exact hfile hkind

/-- The child folders of a folder with a key have keys. -/
theorem keyed_scan (hl : l.Plain) {folder : List String} {folderKey : String}
    {folders : List (List String × String)} {files : List (String × Item B)}
    (h : scan l folderKey (l.page tree folder) = .ok (folders, files)) {segments : List String}
    (hsegments : AreSegments segments) (hkey : folderKey = joinKey segments)
    {entry : List String × String} (hentry : entry ∈ folders) :
    ∃ item ∈ tree.items, ∃ name, item.isFolder = true ∧ item.parent = folder ∧
      l.label item.name = some name ∧ entry.1 = folder ++ [item.name] ∧
      AreSegments (segments ++ [name]) ∧ entry.2 = joinKey (segments ++ [name]) := by
  obtain ⟨item, hitem, name, hkind, hname, rfl⟩ := mem_scan_folders h hentry
  obtain ⟨hmem, rfl⟩ := mem_page.mp hitem
  have hsegment := hl.label_segment _ _ (tree.named item hmem) hname
  refine ⟨item, hmem, name, hkind, rfl, hname, rfl,
    areSegments_append.mpr ⟨hsegments, areSegments_singleton.mpr hsegment⟩, ?_⟩
  rw [hkey, hl.join_key _ _ hsegments hsegment]

/-- What the loop finds lies below a folder of the stack, under the key of its labels. -/
theorem mem_walk (hl : l.Plain) {stack : List (List String × String)}
    {found files : List (String × Item B)} (hstack : Keyed stack)
    (h : walk l tree stack found = .ok files) {entry : String × Item B} (hentry : entry ∈ files) :
    entry ∈ found ∨ ∃ top ∈ stack, ∃ segments names labels, AreSegments segments ∧
      top.2 = joinKey segments ∧ entry.2 ∈ tree.items ∧ entry.2.isFolder = false ∧
      entry.2.place = top.1 ++ names ∧ names ≠ [] ∧ names.map l.label = labels.map some ∧
      entry.1 = joinKey (segments ++ labels) ∧ AreSegments labels := by
  induction stack, found using walk.induct l tree with
  | case1 found =>
    rw [walk_nil] at h
    cases h
    exact Or.inl hentry
  | case2 found folder folderKey stack error hscan =>
    rw [walk_cons_error hscan] at h
    cases h
  | case3 found folder folderKey stack folders fresh hscan ih =>
    rw [walk_cons_ok hscan] at h
    obtain ⟨segments, hsegments, hkey⟩ := hstack _ List.mem_cons_self
    have hkeyed : Keyed (folders.reverse ++ stack) := by
      intro other hother
      rcases List.mem_append.mp hother with hother | hother
      · obtain ⟨-, -, name, -, -, -, -, hname, hotherKey⟩ :=
          keyed_scan hl hscan hsegments hkey (List.mem_reverse.mp hother)
        exact ⟨segments ++ [name], hname, hotherKey⟩
      · exact hstack other (List.mem_cons_of_mem _ hother)
    rcases ih hkeyed h with hmem | ⟨top, htop, rest⟩
    · rcases List.mem_append.mp hmem with hmem | hmem
      · exact Or.inl hmem
      · -- a file of the folder that was on top
        obtain ⟨hitem, hkind, name, hname, hentryKey⟩ := mem_scan_files hscan hmem
        obtain ⟨hitems, hparent⟩ := mem_page.mp hitem
        have hsegment := hl.label_segment _ _ (tree.named _ hitems) hname
        refine Or.inr ⟨_, List.mem_cons_self, segments, [entry.2.name], [name], hsegments, hkey,
          hitems, hkind, ?_, List.cons_ne_nil _ _, by simp [hname], ?_,
          areSegments_singleton.mpr hsegment⟩
        · rw [Item.place, hparent]
        · simp only at hkey
          rw [hentryKey, hkey, hl.join_key _ _ hsegments hsegment]
    · rcases List.mem_append.mp htop with htop | htop
      · -- below a child folder of the folder that was on top
        obtain ⟨segments', names, labels, hsegments', htopKey, hitems, hkind, hplace, -, hlabels,
          hentryKey, hall⟩ := rest
        obtain ⟨item, hitem, name, -, -, hname, hfirst, hsegment, htopKey'⟩ :=
          keyed_scan hl hscan hsegments hkey (List.mem_reverse.mp htop)
        obtain rfl := joinKey_injective hsegments' hsegment (htopKey.symm.trans htopKey')
        refine Or.inr ⟨_, List.mem_cons_self, segments, item.name :: names, name :: labels,
          hsegments, hkey, hitems, hkind, ?_, List.cons_ne_nil _ _, by simp [hname, hlabels], ?_,
          ?_⟩
        · rw [hplace, hfirst]
          simp
        · rw [hentryKey]
          simp
        · exact List.forall_mem_cons.mpr
            ⟨areSegments_singleton.mp (areSegments_append.mp hsegment).2, hall⟩
      · exact Or.inr ⟨top, List.mem_cons_of_mem _ htop, rest⟩

/-- The folders on the way to an item are items. -/
theorem exists_ancestor {item : Item B} (hitem : item ∈ tree.items) {folder rest : List String}
    {name : String} (hplace : item.place = folder ++ name :: rest) (hne : rest ≠ []) :
    ∃ ancestor ∈ tree.items, ancestor.isFolder = true ∧ ancestor.place = folder ++ [name] := by
  induction rest using List.reverseRecOn generalizing item with
  | nil => exact absurd rfl hne
  | append_singleton rest last ih =>
    have hparent : item.parent = folder ++ name :: rest := by
      rw [← List.cons_append, ← List.append_assoc] at hplace
      exact (Item.place_eq_append.mp hplace).1
    rcases tree.closed item hitem with hroot | ⟨parent, hmem, hkind, hparentPlace⟩
    · rw [hroot] at hparent
      exact absurd hparent.symm (by simp)
    · by_cases hrest : rest = []
      · subst hrest
        exact ⟨parent, hmem, hkind, hparentPlace.trans hparent⟩
      · exact ih hmem (hparentPlace.trans hparent) hrest

/-- A loop that succeeds has seen everything below the stack. -/
theorem walk_complete (hl : l.Plain) {stack : List (List String × String)}
    {found files : List (String × Item B)} (h : walk l tree stack found = .ok files)
    {top : List String × String} (htop : top ∈ stack) {segments : List String}
    (hsegments : AreSegments segments) (hkey : top.2 = joinKey segments) {item : Item B}
    (hitem : item ∈ tree.items) {names : List String} (hplace : item.place = top.1 ++ names)
    (hne : names ≠ []) :
    ∃ labels, names.map l.label = labels.map some ∧
      (item.isFolder = false → (joinKey (segments ++ labels), item) ∈ files) := by
  induction stack, found using walk.induct l tree generalizing top segments names with
  | case1 found => exact absurd htop List.not_mem_nil
  | case2 found folder folderKey stack error hscan =>
    rw [walk_cons_error hscan] at h
    cases h
  | case3 found folder folderKey stack folders fresh hscan ih =>
    rw [walk_cons_ok hscan] at h
    rcases List.mem_cons.mp htop with rfl | htop
    · obtain ⟨name, rest, rfl⟩ := List.exists_cons_of_ne_nil hne
      by_cases hrest : rest = []
      · -- a child of the folder
        subst hrest
        obtain ⟨hparent, rfl⟩ := Item.place_eq_append.mp hplace
        obtain ⟨label, hlabel, -, hfile⟩ := scan_complete hl hscan (mem_page.mpr ⟨hitem, hparent⟩)
        refine ⟨[label], by simp [hlabel], ?_⟩
        intro hkind
        have hmem := hfile hkind
        have hsegment := hl.label_segment _ _ (tree.named item hitem) hlabel
        simp only at hkey
        rw [hkey, hl.join_key _ _ hsegments hsegment] at hmem
        rw [walk_found] at h
        cases hlater : walk l tree (folders.reverse ++ stack) [] with
        | error error =>
          rw [hlater] at h
          cases h
        | ok later =>
          rw [hlater] at h
          cases h
          exact List.mem_append_left _ (List.mem_append_right _ hmem)
      · -- below a child folder
        obtain ⟨ancestor, hancestor, hkind, hancestorPlace⟩ := exists_ancestor hitem hplace hrest
        obtain ⟨hparent, rfl⟩ := Item.place_eq_append.mp hancestorPlace
        obtain ⟨label, hlabel, hfolder, -⟩ :=
          scan_complete hl hscan (mem_page.mpr ⟨hancestor, hparent⟩)
        have hsegment := hl.label_segment _ _ (tree.named ancestor hancestor) hlabel
        have hpushed := hfolder hkind
        simp only at hkey
        rw [hkey, hl.join_key _ _ hsegments hsegment] at hpushed
        obtain ⟨labels, hlabels, hmem⟩ :=
          @ih h (ancestor.place, joinKey (segments ++ [label]))
            (List.mem_append_left _ (List.mem_reverse.mpr hpushed))
            (segments ++ [label])
            (areSegments_append.mpr ⟨hsegments, areSegments_singleton.mpr hsegment⟩) rfl rest
            (by rw [hplace, hancestorPlace]; simp) hrest
        refine ⟨label :: labels, by simp [hlabel, hlabels], ?_⟩
        intro hfile
        have hfound := hmem hfile
        rw [List.append_assoc] at hfound
        exact hfound
    · exact @ih h top (List.mem_append_right _ htop) segments hsegments hkey names hplace hne

/-- A listing in which every item has a label succeeds. -/
theorem scan_ok_of_labelled {folderKey : String} {items : List (Item B)}
    (h : ∀ item ∈ items, ∃ name, l.label item.name = some name) :
    ∃ folders files, scan l folderKey items = .ok (folders, files) := by
  induction items with
  | nil => exact ⟨[], [], rfl⟩
  | cons item items ih =>
    obtain ⟨⟨name, hname⟩, hitems⟩ := List.forall_mem_cons.mp h
    obtain ⟨folders, files, hscan⟩ := ih hitems
    rw [scan, hname]
    simp only [hscan]
    cases item.isFolder
    · exact ⟨_, _, rfl⟩
    · exact ⟨_, _, rfl⟩

/-- If everything below the stack has a label, the loop succeeds. -/
theorem walk_ok_of_labelled {stack : List (List String × String)}
    {found : List (String × Item B)}
    (h : ∀ top ∈ stack, ∀ item ∈ tree.items, ∀ names : List String, names ≠ [] →
      item.place = top.1 ++ names → ∃ name, l.label item.name = some name) :
    ∃ files, walk l tree stack found = .ok files := by
  induction stack, found using walk.induct l tree with
  | case1 found => exact ⟨found, walk_nil found⟩
  | case2 found folder folderKey stack error hscan =>
    have hlabelled : ∀ item ∈ l.page tree folder, ∃ name, l.label item.name = some name := by
      intro item hitem
      obtain ⟨hmem, hparent⟩ := mem_page.mp hitem
      exact h _ List.mem_cons_self item hmem [item.name] (List.cons_ne_nil _ _)
        (by rw [Item.place, hparent])
    obtain ⟨folders, files, hok⟩ := @scan_ok_of_labelled _ _ l folderKey _ hlabelled
    rw [hscan] at hok
    cases hok
  | case3 found folder folderKey stack folders fresh hscan ih =>
    rw [walk_cons_ok hscan]
    apply ih
    intro top htop item hitem names hne hplace
    rcases List.mem_append.mp htop with htop | htop
    · obtain ⟨child, hchild, name, -, -, rfl⟩ :=
        mem_scan_folders hscan (List.mem_reverse.mp htop)
      have hparent := (mem_page.mp hchild).2
      apply h _ List.mem_cons_self item hitem (child.name :: names) (List.cons_ne_nil _ _)
      rw [hplace]
      change child.parent ++ [child.name] ++ names = folder ++ child.name :: names
      rw [hparent]
      simp
    · exact h top (List.mem_cons_of_mem _ htop) item hitem names hne hplace

/-! ## Section 3: Which file shows a key last -/

/-- The files of a listing that have a label. -/
def filesLabelled (label : String → Option String) (items : List (Item B)) (want : String) :
    List (Item B) :=
  items.filter (fun item => !item.isFolder && decide (label item.name = some want))

theorem findFolder_page (folder : List String) (want : String) :
    (l.page tree folder).find?
      (fun item => item.isFolder && decide (l.label item.name = some want)) =
        findFolder l.label tree folder want := by
  rw [Listing.page, findFolder]
  split
  · have hfiles : ((tree.children folder).filter (fun item => !item.isFolder)).find?
        (fun item => item.isFolder && decide (l.label item.name = some want)) = none := by
      rw [List.find?_eq_none]
      intro item hitem
      have hkind := (List.mem_filter.mp hitem).2
      simp only [Bool.not_eq_true'] at hkind
      simp [hkind]
    rw [List.find?_append, hfiles, Option.or_none, List.find?_filter]
    congr 1
    funext item
    cases item.isFolder <;> simp
  · rfl

theorem filesLabelled_page (folder : List String) (want : String) :
    filesLabelled l.label (l.page tree folder) want =
      filesLabelled l.label (tree.children folder) want := by
  rw [Listing.page, filesLabelled, filesLabelled]
  split
  · rw [List.filter_append, List.filter_filter, List.filter_filter]
    have hfolders : (tree.children folder).filter
        (fun item => (!item.isFolder && decide (l.label item.name = some want)) && item.isFolder) =
          [] := by
      rw [List.filter_eq_nil_iff]
      intro item _
      cases item.isFolder <;> simp
    rw [hfolders, List.nil_append]
    congr 1
    funext item
    cases item.isFolder <;> simp
  · rfl

/-- The files of one listing that show a key are those with its last label, in order. -/
theorem filter_scan (hl : l.Plain) {segments : List String} (hsegments : AreSegments segments)
    {want : String} (hwant : IsSegment want) {items : List (Item B)}
    (hnamed : ∀ item ∈ items, IsSegment item.name)
    {folders : List (List String × String)} {files : List (String × Item B)}
    (h : scan l (joinKey segments) items = .ok (folders, files)) :
    files.filter (fun entry => decide (entry.1 = joinKey (segments ++ [want]))) =
      (filesLabelled l.label items want).map
        (fun item => (joinKey (segments ++ [want]), item)) := by
  induction items generalizing folders files with
  | nil =>
    cases h
    rfl
  | cons item items ih =>
    obtain ⟨hname, hrestNamed⟩ := List.forall_mem_cons.mp hnamed
    obtain ⟨name, folders', files', hlabel, hrest, -, rfl⟩ := scan_cons h
    have hsegment := hl.label_segment _ _ hname hlabel
    have hrestFilter := ih hrestNamed hrest
    rw [hl.join_key _ _ hsegments hsegment]
    have hsame : joinKey (segments ++ [name]) = joinKey (segments ++ [want]) ↔ name = want := by
      constructor
      · intro hjoin
        have hlists := joinKey_injective
          (areSegments_append.mpr ⟨hsegments, areSegments_singleton.mpr hsegment⟩)
          (areSegments_append.mpr ⟨hsegments, areSegments_singleton.mpr hwant⟩) hjoin
        exact List.singleton_inj.mp (List.append_cancel_left hlists)
      · rintro rfl
        rfl
    rw [filesLabelled, List.filter_cons]
    cases hkind : item.isFolder
    · rw [if_pos ⟨by simp, hl.all_files _⟩, List.filter_cons, hrestFilter, filesLabelled]
      by_cases heq : name = want
      · subst heq
        simp [hlabel]
      · have hne : joinKey (segments ++ [name]) ≠ joinKey (segments ++ [want]) :=
          fun hjoin => heq (hsame.mp hjoin)
        simp [hlabel, heq, hne]
    · rw [if_neg (by simp)]
      simpa [filesLabelled] using hrestFilter

/-- The pushed folders up to the first one with a label: no earlier one has it. -/
theorem scan_split (hl : l.Plain) {segments : List String} (hsegments : AreSegments segments)
    {want : String} {items : List (Item B)} (hnamed : ∀ item ∈ items, IsSegment item.name)
    {folders : List (List String × String)} {files : List (String × Item B)}
    (h : scan l (joinKey segments) items = .ok (folders, files)) {folder : Item B}
    (hfind : items.find?
      (fun item => item.isFolder && decide (l.label item.name = some want)) = some folder) :
    ∃ earlier later, folders = earlier ++ (folder.place, joinKey (segments ++ [want])) :: later ∧
      ∀ entry ∈ earlier, ∃ other, other ≠ want ∧ IsSegment other ∧
        entry.2 = joinKey (segments ++ [other]) := by
  induction items generalizing folders files with
  | nil => cases hfind
  | cons item items ih =>
    obtain ⟨hname, hrestNamed⟩ := List.forall_mem_cons.mp hnamed
    obtain ⟨name, folders', files', hlabel, hrest, rfl, -⟩ := scan_cons h
    have hsegment := hl.label_segment _ _ hname hlabel
    rw [hl.join_key _ _ hsegments hsegment]
    rw [List.find?_cons] at hfind
    split at hfind
    · -- this is the folder that is looked for
      rename_i hfound
      obtain rfl := Option.some.inj hfind
      simp only [Bool.and_eq_true, decide_eq_true_eq] at hfound
      obtain rfl := Option.some.inj (hlabel.symm.trans hfound.2)
      refine ⟨[], folders', ?_, fun entry hentry => absurd hentry List.not_mem_nil⟩
      rw [if_pos ⟨hfound.1, hl.all_folders _⟩]
      rfl
    · rename_i hother
      obtain ⟨earlier, later, rfl, hearlier⟩ := ih hrestNamed hrest hfind
      cases hkind : item.isFolder
      · rw [if_neg (by simp)]
        exact ⟨earlier, later, rfl, hearlier⟩
      · rw [if_pos ⟨rfl, hl.all_folders _⟩]
        refine ⟨(item.place, joinKey (segments ++ [name])) :: earlier, later, rfl, ?_⟩
        intro entry hentry
        rcases List.mem_cons.mp hentry with rfl | hentry
        · refine ⟨name, ?_, hsegment, rfl⟩
          rintro rfl
          simp [hkind, hlabel] at hother
        · exact hearlier entry hentry

/-- Nothing below the stack shows the key: the labels part before its end. -/
theorem filter_walk_eq_nil (hl : l.Plain) {stack : List (List String × String)}
    {files : List (String × Item B)} (hstack : Keyed stack)
    (h : walk l tree stack [] = .ok files) {key : List String} (hkey : AreSegments key)
    (hother : ∀ top ∈ stack, ∀ segments, AreSegments segments → top.2 = joinKey segments →
      ∀ labels, labels ≠ [] → segments ++ labels ≠ key) :
    files.filter (fun entry => decide (entry.1 = joinKey key)) = [] := by
  rw [List.filter_eq_nil_iff]
  intro entry hentry hshown
  rw [decide_eq_true_eq] at hshown
  rcases mem_walk hl hstack h hentry with hmem | ⟨top, htop, segments, names, labels, hsegments,
    htopKey, -, -, -, hnames, hlabels, hentryKey, hall⟩
  · exact absurd hmem List.not_mem_nil
  · have hne : labels ≠ [] := by
      rintro rfl
      exact hnames (List.map_eq_nil_iff.mp hlabels)
    exact hother top htop segments hsegments htopKey labels hne
      (joinKey_injective (areSegments_append.mpr ⟨hsegments, hall⟩) hkey
        (hentryKey.symm.trans hshown))

/-- Of the files that show a key, the loop finds last those of the folder that its labels
lead to: among folders with one label the first of a listing is read last. -/
theorem filter_walk (hl : l.Plain) {folder place : List String} {segments wants : List String}
    {want : String} (hsegments : AreSegments segments) (hwants : AreSegments wants)
    (hwant : IsSegment want) (hplace : resolveFolder l.label tree folder wants = some place)
    {files : List (String × Item B)}
    (h : walk l tree [(folder, joinKey segments)] [] = .ok files) :
    ∃ earlier, files.filter
      (fun entry => decide (entry.1 = joinKey (segments ++ wants ++ [want]))) =
        earlier ++ (filesLabelled l.label (tree.children place) want).map
          (fun item => (joinKey (segments ++ wants ++ [want]), item)) := by
  induction wants generalizing folder segments files with
  | nil =>
    obtain rfl := Option.some.inj hplace
    cases hscan : scan l (joinKey segments) (l.page tree folder) with
    | error error =>
      rw [walk_cons_error hscan] at h
      cases h
    | ok result =>
      obtain ⟨folders, fresh⟩ := result
      rw [walk_cons_ok hscan, List.append_nil, List.nil_append, walk_found] at h
      cases hlater : walk l tree folders.reverse [] with
      | error error =>
        rw [hlater] at h
        cases h
      | ok later =>
        rw [hlater] at h
        cases h
        have hnamed : ∀ item ∈ l.page tree folder, IsSegment item.name :=
          fun item hitem => tree.named item (mem_page.mp hitem).1
        have hpushed : ∀ entry ∈ folders.reverse, ∃ name, AreSegments (segments ++ [name]) ∧
            entry.2 = joinKey (segments ++ [name]) := by
          intro entry hentry
          obtain ⟨-, -, name, -, -, -, -, hname, hentryKey⟩ :=
            keyed_scan hl hscan hsegments rfl (List.mem_reverse.mp hentry)
          exact ⟨name, hname, hentryKey⟩
        -- what lies below a child folder has a longer key
        have hdeeper : later.filter
            (fun entry => decide (entry.1 = joinKey (segments ++ [want]))) = [] := by
          apply filter_walk_eq_nil hl (fun entry hentry => ?_) hlater
            (areSegments_append.mpr ⟨hsegments, areSegments_singleton.mpr hwant⟩)
          · intro top htop own hown htopKey labels hne heq
            obtain ⟨name, hname, hnameKey⟩ := hpushed top htop
            obtain rfl := joinKey_injective hown hname (htopKey.symm.trans hnameKey)
            have hlength := congrArg List.length heq
            have hpos := List.length_pos_iff.mpr hne
            simp only [List.length_append, List.length_singleton] at hlength
            omega
          · obtain ⟨name, hname, hnameKey⟩ := hpushed entry hentry
            exact ⟨_, hname, hnameKey⟩
        refine ⟨[], ?_⟩
        rw [List.append_nil, List.filter_append, hdeeper, List.append_nil,
          filter_scan hl hsegments hwant hnamed hscan, filesLabelled_page, List.nil_append]
  | cons first wants ih =>
    obtain ⟨hfirst, hrest⟩ := List.forall_mem_cons.mp hwants
    obtain ⟨child, hchild, hchildPlace⟩ := Option.bind_eq_some_iff.mp hplace
    cases hscan : scan l (joinKey segments) (l.page tree folder) with
    | error error =>
      rw [walk_cons_error hscan] at h
      cases h
    | ok result =>
      obtain ⟨folders, fresh⟩ := result
      have hnamed : ∀ item ∈ l.page tree folder, IsSegment item.name :=
        fun item hitem => tree.named item (mem_page.mp hitem).1
      rw [← findFolder_page] at hchild
      obtain ⟨before, after, rfl, hbefore⟩ := scan_split hl hsegments hnamed hscan hchild
      rw [walk_cons_ok hscan, List.append_nil, List.nil_append, walk_found] at h
      rw [List.reverse_append, List.reverse_cons, List.append_assoc, walk_append] at h
      -- the folders pushed after the child are read first, those before it last
      cases hafter : walk l tree after.reverse [] with
      | error error =>
        rw [hafter] at h
        cases h
      | ok afterFiles =>
        rw [hafter] at h
        simp only [Except.bind] at h
        rw [walk_append, walk_found] at h
        cases hbelow : walk l tree [(child.place, joinKey (segments ++ [first]))] [] with
        | error error =>
          rw [hbelow] at h
          cases h
        | ok childFiles =>
          rw [hbelow] at h
          simp only [Except.bind, Except.map] at h
          rw [walk_found] at h
          cases hlast : walk l tree before.reverse [] with
          | error error =>
            rw [hlast] at h
            cases h
          | ok beforeFiles =>
            rw [hlast] at h
            simp only [Except.map] at h
            have hchildKey : AreSegments (segments ++ [first]) :=
              areSegments_append.mpr ⟨hsegments, areSegments_singleton.mpr hfirst⟩
            obtain ⟨earlier, hearlier⟩ := ih hchildKey hrest hchildPlace hbelow
            have hassoc : segments ++ [first] ++ wants ++ [want] =
                segments ++ first :: wants ++ [want] := by simp
            rw [hassoc] at hearlier
            have hkey : AreSegments (segments ++ first :: wants ++ [want]) :=
              areSegments_append.mpr ⟨areSegments_append.mpr ⟨hsegments, hwants⟩,
                areSegments_singleton.mpr hwant⟩
            have hbeforeKeyed : ∀ entry ∈ before.reverse, ∃ other, other ≠ first ∧
                IsSegment other ∧ entry.2 = joinKey (segments ++ [other]) :=
              fun entry hentry => hbefore entry (List.mem_reverse.mp hentry)
            have hnone : beforeFiles.filter (fun entry =>
                decide (entry.1 = joinKey (segments ++ first :: wants ++ [want]))) = [] := by
              apply filter_walk_eq_nil hl (fun entry hentry => ?_) hlast hkey
              · intro top htop own hown htopKey labels _ heq
                obtain ⟨other, hne, hother, hotherKey⟩ := hbeforeKeyed top htop
                have hotherSegments : AreSegments (segments ++ [other]) :=
                  areSegments_append.mpr ⟨hsegments, areSegments_singleton.mpr hother⟩
                obtain rfl := joinKey_injective hown hotherSegments
                  (htopKey.symm.trans hotherKey)
                rw [List.append_assoc, List.append_assoc, List.append_cancel_left_eq] at heq
                exact hne (List.cons.inj heq).1
              · obtain ⟨other, -, hother, hotherKey⟩ := hbeforeKeyed entry hentry
                exact ⟨_, areSegments_append.mpr ⟨hsegments, areSegments_singleton.mpr hother⟩,
                  hotherKey⟩
            cases h
            refine ⟨fresh.filter (fun entry =>
                decide (entry.1 = joinKey (segments ++ first :: wants ++ [want]))) ++
              (afterFiles.filter (fun entry =>
                decide (entry.1 = joinKey (segments ++ first :: wants ++ [want]))) ++ earlier),
              ?_⟩
            rw [List.filter_append, List.filter_append, List.filter_append, hnone, hearlier]
            simp only [List.append_nil, List.append_assoc]

end FileTree

end Netdisk2Blob.Library
