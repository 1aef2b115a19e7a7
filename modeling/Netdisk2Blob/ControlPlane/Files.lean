import Netdisk2Blob.Blob.Core

/-!
# Files of the Gateway

Whole files are written to a temporary file that is renamed into place.
-/

namespace Netdisk2Blob.ControlPlane

open Blob

/-- A file operation that fails, and whether its file has the new content all the same: the
mode bits of a file are set after the rename that puts it in place. -/
structure FileFault where
  error : BlobError
  replaced : Bool

/-- The write of a whole file through a temporary one. -/
def atomicWrite {α : Type} (fault : Option FileFault) (new old : α) : Option BlobError × α :=
  match fault with
  | none => (none, new)
  | some fault => (some fault.error, if fault.replaced then new else old)

theorem atomicWrite_ok {α : Type} {fault : Option FileFault} {new old : α}
    (h : (atomicWrite fault new old).1 = none) : (atomicWrite fault new old).2 = new := by
  cases fault with
  | none => rfl
  | some fault => cases h

end Netdisk2Blob.ControlPlane
