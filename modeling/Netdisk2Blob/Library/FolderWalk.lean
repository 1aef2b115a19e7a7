import Netdisk2Blob.Library.FileTree
import Mathlib.Algebra.Order.BigOperators.Group.List
import Mathlib.Algebra.Order.Ring.Nat
import Mathlib.Algebra.BigOperators.Group.List.Basic

/-!
# Walks over a Tree of Items

Clients of a drive walk it by what they take an item's name to be, its label: they look for
the first folder of a listing with a label and create what is missing. Nothing here knows
which label a client uses.

## Contents

- `findFolder`, `findFile`, `resolveFolder`; `KeepsFolders`: changes after which every
  folder is still found where it was
- `keepsFolders_add`, `keepsFolders_writeFile`, `keepsFolders_removeFiles`
- `resolveFolder_mono`: a resolved path stays resolved
-/

namespace Netdisk2Blob.Library

namespace FileTree

variable {B ε : Type}

/-! ## Section 1: Looking for a label -/

/-- The first folder of a listing with the label. -/
def findFolder (label : String → Option String) (tree : FileTree B) (parent : List String)
    (want : String) : Option (Item B) :=
  (tree.children parent).find? (fun item => item.isFolder && decide (label item.name = some want))

/-- The first file of a listing with the label. -/
def findFile (label : String → Option String) (tree : FileTree B) (parent : List String)
    (want : String) : Option (Item B) :=
  (tree.children parent).find?
    (fun item => !item.isFolder && decide (label item.name = some want))

/-- The folder that a list of labels leads to. -/
def resolveFolder (label : String → Option String) (tree : FileTree B) :
    List String → List String → Option (List String)
  | parent, [] => some parent
  | parent, want :: wants =>
    (findFolder label tree parent want).bind
      (fun folder => resolveFolder label tree folder.place wants)

variable {label : String → Option String} {tree tree' : FileTree B}

theorem findFolder_eq_some {parent : List String} {want : String} {folder : Item B}
    (h : findFolder label tree parent want = some folder) :
    folder ∈ tree.items ∧ folder.parent = parent ∧ folder.isFolder = true ∧
      label folder.name = some want := by
  obtain ⟨hmem, hparent⟩ := mem_children.mp (List.mem_of_find?_eq_some h)
  have hfound := List.find?_some h
  simp only [Bool.and_eq_true, decide_eq_true_eq] at hfound
  exact ⟨hmem, hparent, hfound⟩

theorem findFile_eq_some {parent : List String} {want : String} {file : Item B}
    (h : findFile label tree parent want = some file) :
    file ∈ tree.items ∧ file.parent = parent ∧ file.isFolder = false ∧
      label file.name = some want := by
  obtain ⟨hmem, hparent⟩ := mem_children.mp (List.mem_of_find?_eq_some h)
  have hfound := List.find?_some h
  simp only [Bool.and_eq_true, decide_eq_true_eq, Bool.not_eq_true'] at hfound
  exact ⟨hmem, hparent, hfound⟩

theorem resolveFolder_append (parent : List String) (wants wants' : List String) :
    resolveFolder label tree parent (wants ++ wants') =
      (resolveFolder label tree parent wants).bind
        (fun folder => resolveFolder label tree folder wants') := by
  induction wants generalizing parent with
  | nil => rfl
  | cons want wants ih =>
    rw [List.cons_append, resolveFolder, resolveFolder]
    cases hfound : findFolder label tree parent want with
    | none => rfl
    | some folder => exact ih folder.place

/-- The names from a folder down to the one that the labels lead to carry these labels. -/
theorem resolveFolder_eq_some {parent place : List String} {wants : List String}
    (h : resolveFolder label tree parent wants = some place) :
    ∃ names, place = parent ++ names ∧ names.map label = wants.map some := by
  induction wants generalizing parent with
  | nil =>
    obtain rfl := Option.some.inj h
    exact ⟨[], (List.append_nil _).symm, rfl⟩
  | cons want wants ih =>
    obtain ⟨folder, hfolder, hrest⟩ := Option.bind_eq_some_iff.mp h
    obtain ⟨names, rfl, hnames⟩ := ih hrest
    obtain ⟨-, hparent, -, hlabel⟩ := findFolder_eq_some hfolder
    refine ⟨folder.name :: names, ?_, ?_⟩
    · rw [Item.place, hparent, List.append_assoc, List.singleton_append]
    · rw [List.map_cons, List.map_cons, hlabel, hnames]

/-! ## Section 2: Changes that keep the folders -/

/-- Every folder that is found before a change is found after it. -/
def KeepsFolders (label : String → Option String) (tree tree' : FileTree B) : Prop :=
  ∀ parent want folder, findFolder label tree parent want = some folder →
    findFolder label tree' parent want = some folder

theorem KeepsFolders.refl (tree : FileTree B) : KeepsFolders label tree tree :=
  fun _ _ _ h => h

theorem KeepsFolders.trans {tree'' : FileTree B} (h : KeepsFolders label tree tree')
    (h' : KeepsFolders label tree' tree'') : KeepsFolders label tree tree'' :=
  fun parent want folder hfound => h' parent want folder (h parent want folder hfound)

theorem keepsFolders_add {item : Item B} (h : tree.add item = some tree') :
    KeepsFolders label tree tree' := by
  intro parent want folder hfound
  rw [findFolder, children_add h, List.find?_append]
  exact Option.or_eq_some_iff.mpr (Or.inl hfound)

theorem findFolder_setContent (place : List String) (body : B) (parent : List String)
    (want : String) :
    findFolder label (tree.setContent place body) parent want =
      findFolder label tree parent want := by
  rw [findFolder, findFolder, children_setContent, List.find?_map]
  have hsame : (fun item : Item B => item.isFolder && decide (label item.name = some want)) ∘
      Item.rewrite place body =
        fun item : Item B => item.isFolder && decide (label item.name = some want) := by
    funext item
    simp only [Function.comp_apply, Item.rewrite_isFolder, Item.rewrite_name]
  rw [hsame]
  cases hfound : (tree.children parent).find?
      (fun item => item.isFolder && decide (label item.name = some want)) with
  | none => rfl
  | some folder =>
    have hkind := List.find?_some hfound
    rw [Bool.and_eq_true] at hkind
    rw [Option.map_some, Item.rewrite_of_isFolder hkind.1]

theorem findFolder_removeFiles (p : Item B → Bool) (parent : List String) (want : String) :
    findFolder label (tree.removeFiles p) parent want = findFolder label tree parent want := by
  rw [findFolder, findFolder, children_removeFiles, List.find?_filter]
  congr 1
  funext item
  cases item.isFolder <;> simp

theorem keepsFolders_writeFile {parent : List String} {name : String} {body : B}
    (h : tree.writeFile parent name body = some tree') : KeepsFolders label tree tree' := by
  unfold writeFile at h
  split at h
  · split at h
    · cases h
    · obtain rfl := Option.some.inj h
      intro folder want found hfound
      rw [findFolder_setContent]
      exact hfound
  · exact keepsFolders_add h

theorem keepsFolders_removeFiles (p : Item B → Bool) :
    KeepsFolders label tree (tree.removeFiles p) := by
  intro parent want folder hfound
  rw [findFolder_removeFiles]
  exact hfound

/-- A folder that was created because none had its label is the one found afterwards. -/
theorem findFolder_add {parent : List String} {name want : String}
    (h : tree.add ⟨parent, name, none⟩ = some tree') (hlabel : label name = some want)
    (hmissing : findFolder label tree parent want = none) :
    findFolder label tree' parent want = some ⟨parent, name, none⟩ := by
  rw [findFolder, children_add h, List.find?_append]
  rw [findFolder] at hmissing
  rw [hmissing]
  simp [hlabel]

theorem resolveFolder_mono (h : KeepsFolders label tree tree') {parent place : List String}
    {wants : List String} (hplace : resolveFolder label tree parent wants = some place) :
    resolveFolder label tree' parent wants = some place := by
  induction wants generalizing parent with
  | nil => exact hplace
  | cons want wants ih =>
    obtain ⟨folder, hfolder, hrest⟩ := Option.bind_eq_some_iff.mp hplace
    rw [resolveFolder, h _ _ _ hfolder]
    exact ih hrest

end FileTree

end Netdisk2Blob.Library
