import Netdisk2Blob.Library.PathText
import Mathlib.Data.List.Nodup

/-!
# Trees of Named Items

A drive as a tree of files and folders named by strings. An item is known by where it
stands: the names from the root down to it. That places are distinct, that every item
stands in a folder and that a name is one non-empty path segment are fields of the tree,
so a tree that a path could not describe cannot be built.

## Contents

- `Item`, `FileTree`, `children`, `itemAt`
- `add`, `setContent`, `removeFiles`, `writeFile`: what a service does to a tree
- `children_add`, `children_setContent`, `children_removeFiles`: what a folder lists
  afterwards
-/

namespace Netdisk2Blob.Library

/-! ## Section 1: Trees -/

/-- An item of a drive: a file with its content, or a folder. -/
structure Item (B : Type) where
  parent : List String
  name : String
  content : Option B
  deriving DecidableEq, Repr

namespace Item

variable {B : Type}

/-- The names from the root down to the item. -/
def place (item : Item B) : List String := item.parent ++ [item.name]

def isFolder (item : Item B) : Bool := item.content.isNone

@[simp] theorem place_mk (parent : List String) (name : String) (content : Option B) :
    (Item.mk parent name content).place = parent ++ [name] := rfl

@[simp] theorem isFolder_mk_some (parent : List String) (name : String) (body : B) :
    (Item.mk parent name (some body)).isFolder = false := rfl

@[simp] theorem isFolder_mk_none (parent : List String) (name : String) :
    (Item.mk (B := B) parent name none).isFolder = true := rfl

theorem place_eq_append {item : Item B} {parent : List String} {name : String} :
    item.place = parent ++ [name] ↔ item.parent = parent ∧ item.name = name := by
  constructor
  · intro h
    obtain ⟨hparent, hname⟩ := List.append_inj' h rfl
    exact ⟨hparent, List.singleton_inj.mp hname⟩
  · rintro ⟨rfl, rfl⟩
    rfl

end Item

/-- A tree of items named by strings. -/
structure FileTree (B : Type) where
  items : List (Item B)
  distinct : (items.map Item.place).Nodup
  closed : ∀ item ∈ items,
    item.parent = [] ∨ ∃ folder ∈ items, folder.isFolder = true ∧ folder.place = item.parent
  named : ∀ item ∈ items, IsSegment item.name

namespace FileTree

variable {B : Type}

/-- The drive with nothing on it. -/
def empty : FileTree B :=
  ⟨[], List.nodup_nil, fun _ h => absurd h List.not_mem_nil, fun _ h => absurd h List.not_mem_nil⟩

/-- What a folder lists, in the order of the service. -/
def children (tree : FileTree B) (folder : List String) : List (Item B) :=
  tree.items.filter (fun item => decide (item.parent = folder))

/-- The item at a place. -/
def itemAt (tree : FileTree B) (place : List String) : Option (Item B) :=
  tree.items.find? (fun item => decide (item.place = place))

/-- The root, or the place of a folder. -/
def isFolderAt (tree : FileTree B) (place : List String) : Bool :=
  place.isEmpty || tree.items.any (fun item => item.isFolder && decide (item.place = place))

theorem mem_children {tree : FileTree B} {folder : List String} {item : Item B} :
    item ∈ tree.children folder ↔ item ∈ tree.items ∧ item.parent = folder := by
  rw [children, List.mem_filter, decide_eq_true_eq]

/-- Two items at one place are one item. -/
theorem eq_of_place_eq {tree : FileTree B} {item other : Item B} (hitem : item ∈ tree.items)
    (hother : other ∈ tree.items) (h : item.place = other.place) : item = other :=
  List.inj_on_of_nodup_map tree.distinct hitem hother h

theorem itemAt_eq_some {tree : FileTree B} {place : List String} {item : Item B} :
    tree.itemAt place = some item ↔ item ∈ tree.items ∧ item.place = place := by
  constructor
  · intro h
    exact ⟨List.mem_of_find?_eq_some h, by simpa using List.find?_some h⟩
  · rintro ⟨hmem, hplace⟩
    have hsome : (tree.itemAt place).isSome := by
      rw [itemAt, List.find?_isSome]
      exact ⟨item, hmem, by simpa using hplace⟩
    obtain ⟨other, hother⟩ := Option.isSome_iff_exists.mp hsome
    have hotherPlace : other.place = place := by simpa using List.find?_some hother
    rw [hother, eq_of_place_eq (List.mem_of_find?_eq_some hother) hmem
      (hotherPlace.trans hplace.symm)]

theorem itemAt_eq_none {tree : FileTree B} {place : List String} :
    tree.itemAt place = none ↔ ∀ item ∈ tree.items, item.place ≠ place := by
  rw [itemAt, List.find?_eq_none]
  simp only [decide_eq_true_eq, ne_eq]

theorem isFolderAt_iff {tree : FileTree B} {place : List String} :
    tree.isFolderAt place = true ↔
      place = [] ∨ ∃ folder ∈ tree.items, folder.isFolder = true ∧ folder.place = place := by
  simp only [isFolderAt, Bool.or_eq_true, List.isEmpty_iff, List.any_eq_true, Bool.and_eq_true,
    decide_eq_true_eq]

/-! ## Section 2: What a service does to a tree -/

/-- Add an item: its parent must be a folder, its place free and its name a segment. -/
def add (tree : FileTree B) (item : Item B) : Option (FileTree B) :=
  if h : tree.isFolderAt item.parent = true ∧ tree.itemAt item.place = none ∧
      IsSegment item.name then
    some {
      items := tree.items ++ [item]
      distinct := by
        rw [List.map_append, List.nodup_append]
        refine ⟨tree.distinct, List.nodup_singleton _, ?_⟩
        intro place hplace other hother
        obtain ⟨old, hold, rfl⟩ := List.mem_map.mp hplace
        obtain rfl := List.mem_singleton.mp hother
        exact itemAt_eq_none.mp h.2.1 old hold
      closed := by
        intro old hold
        have hparent : old.parent = [] ∨
            ∃ folder ∈ tree.items, folder.isFolder = true ∧ folder.place = old.parent := by
          rcases List.mem_append.mp hold with hold | hnew
          · exact tree.closed old hold
          · rw [List.mem_singleton.mp hnew]
            exact isFolderAt_iff.mp h.1
        rcases hparent with hroot | ⟨folder, hfolder, hkind, hplace⟩
        · exact Or.inl hroot
        · exact Or.inr ⟨folder, List.mem_append_left _ hfolder, hkind, hplace⟩
      named := by
        intro old hold
        rcases List.mem_append.mp hold with hold | hnew
        · exact tree.named old hold
        · rw [List.mem_singleton.mp hnew]
          exact h.2.2 }
  else none

/-- The item with new content, if it is the file at the place. -/
def Item.rewrite (place : List String) (body : B) (item : Item B) : Item B :=
  if item.place = place ∧ item.isFolder = false then { item with content := some body } else item

@[simp] theorem Item.rewrite_parent (place : List String) (body : B) (item : Item B) :
    (Item.rewrite place body item).parent = item.parent := by
  unfold Item.rewrite
  split <;> rfl

@[simp] theorem Item.rewrite_name (place : List String) (body : B) (item : Item B) :
    (Item.rewrite place body item).name = item.name := by
  unfold Item.rewrite
  split <;> rfl

@[simp] theorem Item.rewrite_place (place : List String) (body : B) (item : Item B) :
    (Item.rewrite place body item).place = item.place := by
  rw [Item.place, Item.place, Item.rewrite_parent, Item.rewrite_name]

@[simp] theorem Item.rewrite_isFolder (place : List String) (body : B) (item : Item B) :
    (Item.rewrite place body item).isFolder = item.isFolder := by
  unfold Item.rewrite
  split
  · rename_i h
    exact h.2.symm
  · rfl

theorem Item.rewrite_of_isFolder {place : List String} {body : B} {item : Item B}
    (h : item.isFolder = true) : Item.rewrite place body item = item := by
  unfold Item.rewrite
  rw [if_neg]
  rintro ⟨-, hfile⟩
  rw [h] at hfile
  cases hfile

/-- The file at a place gets new content. -/
def setContent (tree : FileTree B) (place : List String) (body : B) : FileTree B where
  items := tree.items.map (Item.rewrite place body)
  distinct := by
    rw [List.map_map]
    have hplaces : Item.place ∘ Item.rewrite place body = Item.place (B := B) := by
      funext item
      exact Item.rewrite_place place body item
    rw [hplaces]
    exact tree.distinct
  closed := by
    intro item hitem
    obtain ⟨old, hold, rfl⟩ := List.mem_map.mp hitem
    rw [Item.rewrite_parent]
    refine (tree.closed old hold).imp id ?_
    rintro ⟨folder, hfolder, hkind, hplace⟩
    exact ⟨Item.rewrite place body folder, List.mem_map_of_mem hfolder, by simpa using hkind,
      by simpa using hplace⟩
  named := by
    intro item hitem
    obtain ⟨old, hold, rfl⟩ := List.mem_map.mp hitem
    rw [Item.rewrite_name]
    exact tree.named old hold

/-- The files that satisfy the condition go. -/
def removeFiles (tree : FileTree B) (p : Item B → Bool) : FileTree B where
  items := tree.items.filter (fun item => item.isFolder || !p item)
  distinct := tree.distinct.sublist (List.filter_sublist.map Item.place)
  closed := by
    intro item hitem
    refine (tree.closed item (List.mem_filter.mp hitem).1).imp id ?_
    rintro ⟨folder, hfolder, hkind, hplace⟩
    exact ⟨folder, List.mem_filter.mpr ⟨hfolder, by simp [hkind]⟩, hkind, hplace⟩
  named := fun item hitem => tree.named item (List.mem_filter.mp hitem).1

/-- The file at the place goes. -/
def removeAt (tree : FileTree B) (place : List String) : FileTree B :=
  tree.removeFiles (fun item => decide (item.place = place))

/-- A file is written at a name of a folder: over the file that is there, else as a new one. -/
def writeFile (tree : FileTree B) (parent : List String) (name : String) (body : B) :
    Option (FileTree B) :=
  match tree.itemAt (parent ++ [name]) with
  | some item => if item.isFolder then none else some (tree.setContent (parent ++ [name]) body)
  | none => tree.add ⟨parent, name, some body⟩

theorem add_eq_some {tree tree' : FileTree B} {item : Item B} (h : tree.add item = some tree') :
    tree'.items = tree.items ++ [item] ∧ tree.isFolderAt item.parent = true ∧
      tree.itemAt item.place = none ∧ IsSegment item.name := by
  unfold add at h
  split at h
  · rename_i hfree
    obtain rfl := Option.some.inj h
    exact ⟨rfl, hfree⟩
  · cases h

/-! ## Section 3: What a folder lists afterwards -/

theorem children_add {tree tree' : FileTree B} {item : Item B} (h : tree.add item = some tree')
    (folder : List String) :
    tree'.children folder =
      tree.children folder ++ if item.parent = folder then [item] else [] := by
  rw [children, (add_eq_some h).1, List.filter_append]
  congr 1
  split_ifs with hparent <;> simp [hparent]

theorem children_setContent (tree : FileTree B) (place : List String) (body : B)
    (folder : List String) :
    (tree.setContent place body).children folder =
      (tree.children folder).map (Item.rewrite place body) := by
  rw [children, children, setContent, List.filter_map]
  congr 2
  funext item
  simp

theorem children_removeFiles (tree : FileTree B) (p : Item B → Bool) (folder : List String) :
    (tree.removeFiles p).children folder =
      (tree.children folder).filter (fun item => item.isFolder || !p item) := by
  rw [children, children, removeFiles, List.filter_comm]

/-- The written file stands at its name, whatever stood there. -/
theorem mem_writeFile {tree tree' : FileTree B} {parent : List String} {name : String} {body : B}
    (h : tree.writeFile parent name body = some tree') :
    ⟨parent, name, some body⟩ ∈ tree'.items := by
  unfold writeFile at h
  split at h
  · rename_i item hitem
    obtain ⟨hmem, hplace⟩ := itemAt_eq_some.mp hitem
    split at h
    · cases h
    · rename_i hkind
      obtain rfl := Option.some.inj h
      refine List.mem_map.mpr ⟨item, hmem, ?_⟩
      obtain ⟨rfl, rfl⟩ := Item.place_eq_append.mp hplace
      rw [Item.rewrite, if_pos ⟨hplace, by simpa using hkind⟩]
  · rw [(add_eq_some h).1]
    exact List.mem_append_right _ List.mem_cons_self

theorem itemAt_of_mem {tree : FileTree B} {parent : List String} {name : String}
    {content : Option B} (h : ⟨parent, name, content⟩ ∈ tree.items) :
    tree.itemAt (parent ++ [name]) = some ⟨parent, name, content⟩ :=
  itemAt_eq_some.mpr ⟨h, rfl⟩

end FileTree

end Netdisk2Blob.Library
