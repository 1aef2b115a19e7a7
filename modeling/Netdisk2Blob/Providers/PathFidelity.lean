import Netdisk2Blob.Providers.OneDrivePaths
import Netdisk2Blob.Providers.MobilePaths
import Netdisk2Blob.Providers.TelecomPaths

/-!
# Provider Paths Are Faithful

Two uploads that an adapter accepts one after the other: when is each found again under
its own pair of container and key, below its container, and on an item of its own? The
conditions are on the pairs and on the drive before each upload.

## Contents

- `Uploads`, `Uploads.Kept`: two accepted uploads, and what must hold after them
- `OneDrive.Separate`, `Telecom.Separate`: pairs that do not run into each other
- `Mobile.pair_eq_of_place_eq`, `Telecom.key_eq_of_place_eq`: an item spells its key
- `uploads_kept_iff`: the exact condition for each of the adapters
-/

namespace Netdisk2Blob.Providers

open Library Text Library.FileTree

variable {Drive Location B : Type}

/-! ## Section 1: Two uploads -/

/-- Two uploads that were accepted one after the other. -/
structure Uploads (adapter : BlobAdapter Drive Location B) where
  before : Drive
  between : Drive
  after : Drive
  container : String
  key : String
  body : B
  item : Location
  container' : String
  key' : String
  body' : B
  item' : Location
  first : adapter.putObject before container key body = .ok (between, item)
  second : adapter.putObject between container' key' body' = .ok (after, item')

/-- Each object is found and listed right after its upload, below its container, and two
different pairs are two items. -/
structure Uploads.Kept {adapter : BlobAdapter Drive Location B} (u : Uploads adapter) : Prop where
  first : adapter.Faithful u.between u.container u.key u.body u.item
  second : adapter.Faithful u.after u.container' u.key' u.body' u.item'
  apart : (u.container, u.key) ≠ (u.container', u.key') → u.item ≠ u.item'

/-! ## Section 2: Items spell their keys -/

namespace OneDrive

/-- Different pairs whose segments do not run together alike. -/
def Separate (container key container' key' : String) : Prop :=
  (container, key) ≠ (container', key') →
    nonEmptySegments container ++ nonEmptySegments key ≠
      nonEmptySegments container' ++ nonEmptySegments key'

instance (container key container' key' : String) :
    Decidable (Separate container key container' key') :=
  inferInstanceAs (Decidable (_ → _))

theorem kept_iff {config : OneDriveConfig} (u : Uploads (oneDriveAdapter (B := B) config)) :
    u.Kept ↔ PlainPath config u.container u.key ∧ PlainPath config u.container' u.key' ∧
      Separate u.container u.key u.container' u.key' := by
  have hfirst := faithful_iff u.first
  have hsecond := faithful_iff u.second
  -- plain objects stand at the segments of their paths
  have hapart (hplain : PlainPath config u.container u.key)
      (hplain' : PlainPath config u.container' u.key') : u.item ≠ u.item' ↔
        nonEmptySegments u.container ++ nonEmptySegments u.key ≠
          nonEmptySegments u.container' ++ nonEmptySegments u.key' := by
    rw [place_of_plain u.first hplain, place_of_plain u.second hplain']
    simp only [objectSegments, containerSegments, List.append_assoc, ne_eq, List.append_cancel_left_eq]
  constructor
  · intro hkept
    have hplain := hfirst.mp hkept.first
    have hplain' := hsecond.mp hkept.second
    exact ⟨hplain, hplain', fun hne => (hapart hplain hplain').mp (hkept.apart hne)⟩
  · rintro ⟨hplain, hplain', hseparate⟩
    exact ⟨hfirst.mpr hplain, hsecond.mpr hplain',
      fun hne => (hapart hplain hplain').mpr (hseparate hne)⟩

end OneDrive

namespace Mobile

variable {config : MobileConfig}

/-- The display names on the way to the item of a plain key. -/
theorem map_displayName_of_plain {drive drive' : ScopedDrive B} {container key : String}
    {body : B} {scope : Scope} {place : List String}
    (h : putObject config drive container key body = .ok (drive', (scope, place)))
    (hplain : PlainKey key) :
    place.map displayName = (containerWalk config container ++
      (parentWalk key ++ [fileNameOf key])).map some := by
  obtain ⟨-, -, -, tree, folder, tree', hensured, -, rfl, -⟩ := putObject_spec h
  obtain ⟨-, hresolved, -, -⟩ := ensureFolders_spec ensuresFolder_ensureFolder
    (fun _ hsegment => isDisplayed_of_mem_walk hsegment) hensured
  obtain ⟨names, rfl, hnames⟩ := resolveFolder_eq_some hresolved
  have hname : displayName (fileNameOf key) = some (fileNameOf key) :=
    (isDisplayed_key_iff.mpr hplain).2
  rw [List.map_append, List.map_singleton, hnames, hname]
  simp

/-- An item is the item of one pair only. -/
theorem pair_eq_of_place_eq {drive drive' other other' : ScopedDrive B}
    {container key container' key' : String} {body body' : B} {item : Scope × List String}
    (h : putObject config drive container key body = .ok (drive', item))
    (h' : putObject config other container' key' body' = .ok (other', item))
    (hplain : PlainKey key) (hplain' : PlainKey key') :
    (container, key) = (container', key') := by
  obtain ⟨scope, place⟩ := item
  have hlabels := map_displayName_of_plain h hplain
  have hlabels' := map_displayName_of_plain h' hplain'
  have hscope := (putObject_spec h).1
  have hscope' := (putObject_spec h').1
  have hcontainer : container = container' := by
    rcases container_of_nativeRootFolder hscope with ⟨rfl, hpersonal⟩ | ⟨rfl, hfamily⟩
    · rcases container_of_nativeRootFolder hscope' with ⟨rfl, -⟩ | ⟨-, hother⟩
      · rfl
      · exact absurd (hpersonal.symm.trans hother) (by decide)
    · rcases container_of_nativeRootFolder hscope' with ⟨-, hother⟩ | ⟨rfl, -⟩
      · exact absurd (hother.symm.trans hfamily) (by decide)
      · rfl
  obtain rfl := hcontainer
  have hsegments : parentWalk key ++ [fileNameOf key] = parentWalk key' ++ [fileNameOf key'] :=
    List.append_cancel_left (map_label_eq hlabels hlabels')
  rw [(isDisplayed_key_iff.mpr hplain).1, hsegments, ← (isDisplayed_key_iff.mpr hplain').1]

theorem kept_iff (u : Uploads (mobileAdapter (B := B) config)) :
    u.Kept ↔ (PlainKey u.key ∧ Distinguishes config (u.before.tree u.item.1) u.container u.key) ∧
      PlainKey u.key' ∧
        Distinguishes config (u.between.tree u.item'.1) u.container' u.key' := by
  have hfirst := faithful_iff u.first
  have hsecond := faithful_iff u.second
  constructor
  · intro hkept
    exact ⟨hfirst.mp hkept.first, hsecond.mp hkept.second⟩
  · rintro ⟨hplain, hplain'⟩
    refine ⟨hfirst.mpr hplain, hsecond.mpr hplain', ?_⟩
    intro hne hitem
    have hput' := u.second
    rw [← hitem] at hput'
    exact hne (pair_eq_of_place_eq u.first hput' hplain.1 hplain'.1)

end Mobile

namespace Telecom

variable {config : TelecomConfig}

/-- Containers that are one after dropping empty segments are spelled alike, or the keys
differ. -/
def Separate (container key container' key' : String) : Prop :=
  normalizeObjectKey container = normalizeObjectKey container' → key = key' →
    container = container'

instance (container key container' key' : String) :
    Decidable (Separate container key container' key') :=
  inferInstanceAs (Decidable (_ → _ → _))

/-- An item is the item of one plain key only. -/
theorem key_eq_of_place_eq {drive drive' other other' : ScopedDrive B}
    {container key container' key' : String} {body body' : B} {item : Scope × List String}
    (h : putObject config drive container key body = .ok (drive', item))
    (h' : putObject config other container' key' body' = .ok (other', item))
    (hplain : PlainKey config key) (hplain' : PlainKey config key') : key = key' := by
  obtain ⟨scope, place⟩ := item
  have hlabels : ∀ {drive drive' : ScopedDrive B} {container key : String} {body : B},
      putObject config drive container key body = .ok (drive', (scope, place)) →
        PlainKey config key →
          place.map displayName = (prefixSegments config ++ nonEmptySegments key).map some := by
    intro drive drive' container key body h hplain
    obtain ⟨-, hne, tree, folder, tree', hensured, -, rfl, -⟩ := putObject_spec h
    obtain ⟨hparents, hname⟩ := List.forall_mem_append.mp hplain.2
    obtain ⟨-, hresolved, -, -⟩ := ensureFolders_spec ensuresFolder_ensureFolder
      (fun _ hsegment => isDisplayed_of_mem_trimmedSegments hsegment) hensured
    have hwhole : trimmedSegments (parentSegments config key) = parentSegments config key :=
      walkSegments_of_displayed hparents
    rw [hwhole] at hresolved
    obtain ⟨names, rfl, hnames⟩ := resolveFolder_eq_some hresolved
    have hname' : IsDisplayed (fileNameOf key) := List.forall_mem_singleton.mp hname
    have hsegments : prefixSegments config ++ nonEmptySegments key =
        parentSegments config key ++ [fileNameOf key] := by
      rw [parentSegments, List.append_assoc, ← nonEmptySegments_eq hne]
    rw [List.map_append, List.map_singleton, hnames, hname', hsegments]
    simp
  have hsegments : nonEmptySegments key = nonEmptySegments key' :=
    List.append_cancel_left (map_label_eq (hlabels h hplain) (hlabels h' hplain'))
  rw [← hplain.1, ← hplain'.1, normalizeObjectKey, normalizeObjectKey, hsegments]

/-- A second upload of a key finds the folder of the first one. -/
theorem item_eq_of_key_eq {drive between after : ScopedDrive B}
    {container container' key : String} {body body' : B} {item item' : Scope × List String}
    (h : putObject config drive container key body = .ok (between, item))
    (h' : putObject config between container' key body' = .ok (after, item'))
    (hcontainer : normalizeObjectKey container = normalizeObjectKey container') :
    item = item' := by
  obtain ⟨scope, place⟩ := item
  obtain ⟨scope', place'⟩ := item'
  obtain ⟨hscope, -, tree, folder, tree', hensured, hwrite, rfl, rfl⟩ := putObject_spec h
  obtain ⟨hscope', -, tree₂, folder', -, hensured', -, rfl, -⟩ := putObject_spec h'
  obtain rfl : scope = scope' := (scope_eq_iff hscope hscope').mpr hcontainer
  have htrimmed : ∀ segment ∈ trimmedSegments (parentSegments config key), IsDisplayed segment :=
    fun _ hsegment => isDisplayed_of_mem_trimmedSegments hsegment
  obtain ⟨-, hresolved, -, -⟩ := ensureFolders_spec ensuresFolder_ensureFolder htrimmed hensured
  obtain ⟨hkeeps', hresolved', -, -⟩ :=
    ensureFolders_spec ensuresFolder_ensureFolder htrimmed hensured'
  rw [ScopedDrive.tree_setTree] at hkeeps'
  have hfolder := resolveFolder_mono hkeeps' (resolveFolder_mono (keepsFolders_writeFile hwrite)
    hresolved)
  rw [Option.some.inj (hfolder.symm.trans hresolved')]

theorem kept_iff (u : Uploads (telecomAdapter (B := B) config)) :
    u.Kept ↔ (PlainKey config u.key ∧ Distinguishes config (u.before.tree u.item.1) u.key) ∧
      (PlainKey config u.key' ∧ Distinguishes config (u.between.tree u.item'.1) u.key') ∧
        Separate u.container u.key u.container' u.key' := by
  have hfirst := faithful_iff u.first
  have hsecond := faithful_iff u.second
  constructor
  · intro hkept
    refine ⟨hfirst.mp hkept.first, hsecond.mp hkept.second, ?_⟩
    intro hcontainer hkey
    by_contra hne
    have hput' := u.second
    rw [← hkey] at hput'
    exact hkept.apart (fun hpair => hne (congrArg Prod.fst hpair))
      (item_eq_of_key_eq u.first hput' hcontainer)
  · rintro ⟨hplain, hplain', hseparate⟩
    refine ⟨hfirst.mpr hplain, hsecond.mpr hplain', ?_⟩
    intro hne hitem
    have hput' := u.second
    rw [← hitem] at hput'
    have hkey := key_eq_of_place_eq u.first hput' hplain.1 hplain'.1
    have hcontainer := (scope_eq_iff (putObject_spec u.first).1 (putObject_spec hput').1).mp rfl
    exact hne (Prod.ext (hseparate hcontainer hkey) hkey)

end Telecom

/-! ## Section 3: Faithful and confined paths -/

/-- Two accepted uploads of an adapter are kept apart, below their containers, found and
listed under their own pairs exactly when the pairs are spelled plainly, do not run into
each other, and, for the adapters that walk by display names, the drive before each upload
lets the names be told apart. -/
theorem uploads_kept_iff :
    (∀ (config : OneDrive.OneDriveConfig) (u : Uploads (OneDrive.oneDriveAdapter (B := B) config)),
      u.Kept ↔ OneDrive.PlainPath config u.container u.key ∧
        OneDrive.PlainPath config u.container' u.key' ∧
          OneDrive.Separate u.container u.key u.container' u.key') ∧
    (∀ (config : Mobile.MobileConfig) (u : Uploads (Mobile.mobileAdapter (B := B) config)),
      u.Kept ↔ (Mobile.PlainKey u.key ∧
          Mobile.Distinguishes config (u.before.tree u.item.1) u.container u.key) ∧
        Mobile.PlainKey u.key' ∧
          Mobile.Distinguishes config (u.between.tree u.item'.1) u.container' u.key') ∧
    (∀ (config : Telecom.TelecomConfig) (u : Uploads (Telecom.telecomAdapter (B := B) config)),
      u.Kept ↔ (Telecom.PlainKey config u.key ∧
          Telecom.Distinguishes config (u.before.tree u.item.1) u.key) ∧
        (Telecom.PlainKey config u.key' ∧
          Telecom.Distinguishes config (u.between.tree u.item'.1) u.key') ∧
            Telecom.Separate u.container u.key u.container' u.key') :=
  ⟨fun _ u => OneDrive.kept_iff u, fun _ u => Mobile.kept_iff u, fun _ u => Telecom.kept_iff u⟩

/-- Two uploads one after the other, and the items that they name. -/
def uploadTwice (adapter : BlobAdapter Drive Location B) (drive : Drive) (pair pair' : String × String)
    (body body' : B) : Except Blob.BlobError (Location × Location) := do
  let (between, item) ← adapter.putObject drive pair.1 pair.2 body
  let (_, item') ← adapter.putObject between pair'.1 pair'.2 body'
  return (item, item')

theorem exists_uploads {adapter : BlobAdapter Drive Location B} {drive : Drive}
    {pair pair' : String × String} {body body' : B} {item item' : Location}
    (h : uploadTwice adapter drive pair pair' body body' = .ok (item, item')) :
    ∃ u : Uploads adapter, u.container = pair.1 ∧ u.key = pair.2 ∧ u.container' = pair'.1 ∧
      u.key' = pair'.2 ∧ u.item = item ∧ u.item' = item' := by
  obtain ⟨⟨between, first⟩, hfirst, h₁⟩ := except_bind_ok.mp h
  obtain ⟨⟨after, second⟩, hsecond, h₂⟩ := except_bind_ok.mp h₁
  obtain ⟨rfl, rfl⟩ := Prod.mk.inj (Except.ok.inj h₂)
  exact ⟨⟨drive, between, after, pair.1, pair.2, body, first, pair'.1, pair'.2, body', second,
    hfirst, hsecond⟩, rfl, rfl, rfl, rfl, rfl, rfl⟩

def sampleOneDrive : OneDrive.OneDriveConfig where
  enabled := true
  rootPrefix := none
  drivePath := ["drive"]
  driveResolved := by decide +kernel

def sampleMobile : Mobile.MobileConfig := ⟨none, true, false, false⟩

/-- Two keys that differ by an empty segment are one item, a dot-dot key leaves its
container, and a folder name with a blank is listed without it. -/
theorem uploads_not_kept :
    (∃ u : Uploads (OneDrive.oneDriveAdapter (B := Nat) sampleOneDrive),
      (u.container, u.key) ≠ (u.container', u.key') ∧ u.item = u.item') ∧
    (∃ u : Uploads (OneDrive.oneDriveAdapter (B := Nat) sampleOneDrive),
      ¬ (OneDrive.oneDriveAdapter (B := Nat) sampleOneDrive).Below u.container u.item) ∧
    ∃ u : Uploads (Mobile.mobileAdapter (B := Nat) sampleMobile),
      ¬ (Mobile.mobileAdapter sampleMobile).Faithful u.between u.container u.key u.body u.item := by
  refine ⟨?_, ?_, ?_⟩
  · have hrun : uploadTwice (OneDrive.oneDriveAdapter sampleOneDrive) FileTree.empty ("c", "a//b")
        ("c", "a/b") 1 2 = .ok (["c", "a", "b"], ["c", "a", "b"]) := by decide +kernel
    obtain ⟨u, hcontainer, hkey, hcontainer', hkey', hitem, hitem'⟩ := exists_uploads hrun
    refine ⟨u, ?_, hitem.trans hitem'.symm⟩
    rw [hcontainer, hkey, hcontainer', hkey']
    decide
  · have hrun : uploadTwice (OneDrive.oneDriveAdapter sampleOneDrive) FileTree.empty ("c", "../x")
        ("c", "y") 1 2 = .ok (["x"], ["c", "y"]) := by decide +kernel
    obtain ⟨u, hcontainer, -, -, -, hitem, -⟩ := exists_uploads hrun
    refine ⟨u, ?_⟩
    rintro ⟨rest, -, hplace⟩
    rw [hitem, hcontainer] at hplace
    have hfolder : OneDrive.containerSegments sampleOneDrive "c" = ["c"] := by decide +kernel
    rw [hfolder, List.singleton_append] at hplace
    exact absurd (List.cons.inj hplace).1 (by decide)
  · have hrun : uploadTwice (Mobile.mobileAdapter sampleMobile)
        ⟨FileTree.empty, FileTree.empty⟩ ("root", "a /b") ("root", "c") 1 2 =
          .ok ((.personal, ["root", "a", "b"]), (.personal, ["root", "c"])) := by decide +kernel
    obtain ⟨u, -, hkey, -, -, -, -⟩ := exists_uploads hrun
    refine ⟨u, ?_⟩
    intro hfaithful
    have hplain := ((Mobile.faithful_iff u.first).mp hfaithful).1
    rw [hkey] at hplain
    exact absurd hplain (by decide +kernel)

end Netdisk2Blob.Providers
