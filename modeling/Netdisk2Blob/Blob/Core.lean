import Netdisk2Blob.Library.ByteStream
import Netdisk2Blob.Library.Bytes

/-!
# Blob Errors and Object Bodies

The error type of the object backends, and the body of an object as the items its stream
yields: byte strings and errors.
-/

namespace Netdisk2Blob.Blob

open Library

inductive BlobError where
  | configuration (message : String)
  | upstream (message : String)
  | interactiveInputRequired (message : String)
  | notImplemented (message : String)
  | notFound (message : String)
  | bodyStream (message : String)
  deriving DecidableEq, Repr

namespace BlobError

/-- The `Display` text. -/
def display : BlobError → String
  | configuration message => s!"configuration error: {message}"
  | upstream message => s!"upstream error: {message}"
  | interactiveInputRequired message => s!"interactive input required: {message}"
  | notImplemented message => s!"feature not implemented: {message}"
  | notFound message => s!"not found: {message}"
  | bodyStream message => s!"body stream error: {message}"

end BlobError

/-- The items of a body stream, in order. -/
abbrev ObjectBodyStream := List (Except BlobError Bytes)

/-- A stream that yields the fragments and ends. -/
def streamOf (fragments : List Bytes) : ObjectBodyStream := fragments.map Except.ok

end Netdisk2Blob.Blob
