import Netdisk2Blob.Blob.Core
import Netdisk2Blob.Library.PathText

/-!
# Blob Adapters

What the provider adapters have in common: the requests and answers of the backend trait
that name objects, and what it means that an adapter's paths are faithful. A location is
where an item stands on the provider's drive.
-/

namespace Netdisk2Blob.Providers

open Library Text Blob

/-- What an adapter reports of an object: its key, and the item on the drive. -/
structure ObjectInfo (Location : Type) where
  key : String
  item : Location
  deriving DecidableEq, Repr

structure ListObjectsRequest where
  container : Option String
  keyPrefix : Option String
  limit : Option Nat

/-- The request for all objects of a container. -/
def ListObjectsRequest.all (container : String) : ListObjectsRequest := ⟨some container, none, none⟩

def ensureNonEmpty (value label : String) : Except BlobError Unit :=
  if trim value = "" then .error (.configuration s!"{label} cannot be empty") else .ok ()

theorem ensureNonEmpty_eq_ok {value label : String} :
    ensureNonEmpty value label = .ok () ↔ trim value ≠ "" := by
  unfold ensureNonEmpty
  split
  · rename_i hempty
    exact ⟨(nomatch ·), fun h => absurd hempty h⟩
  · rename_i hempty
    exact ⟨fun _ => hempty, fun _ => rfl⟩

/-- The calls of a backend on a drive; `remove` is the drive's own removal of an item. -/
structure BlobAdapter (Drive Location B : Type) where
  putObject : Drive → String → String → B → Except BlobError (Drive × Location)
  headObject : Drive → String → String → Except BlobError (ObjectInfo Location)
  getObject : Drive → String → String → Except BlobError (ObjectInfo Location × B)
  deleteObject : Drive → String → String → Except BlobError Drive
  listObjects : Drive → ListObjectsRequest → Except BlobError (List (ObjectInfo Location))
  remove : Drive → Location → Drive
  /-- the item stands below the folder of the root prefix and the container -/
  Below : String → Location → Prop

namespace BlobAdapter

variable {Drive Location B : Type}

/-- The item that was just written for a pair lies below its container, every call on the
pair finds it, and the container lists it under the pair's key and no other. -/
structure Faithful (adapter : BlobAdapter Drive Location B) (drive : Drive) (container key : String)
    (body : B) (location : Location) : Prop where
  below : adapter.Below container location
  head : ∃ info, adapter.headObject drive container key = .ok info ∧ info.item = location
  get : ∃ info, adapter.getObject drive container key = .ok (info, body) ∧ info.item = location
  delete : adapter.deleteObject drive container key = .ok (adapter.remove drive location)
  list : ∃ objects, adapter.listObjects drive (.all container) = .ok objects ∧
    ⟨key, location⟩ ∈ objects ∧ ∀ info ∈ objects, info.item = location → info.key = key

end BlobAdapter

end Netdisk2Blob.Providers
