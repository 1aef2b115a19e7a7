import Netdisk2Blob.ControlPlane.EncryptionSettings
import Netdisk2Blob.Gateway.ListObjects

/-!
# Data-Plane Applications

The applications that may use the gateway, as an update accepts them.

## Contents

- `normalizeDataPlaneApplicationsWithExisting`: an empty secret is taken from the application
  of the same id
- `currentDataPlaneApplications`: no applications stand for the default one
-/

namespace Netdisk2Blob.ControlPlane

open Library Text Blob Gateway

structure DataPlaneApplication where
  id : String
  label : Option String
  accessKeyId : String
  secretAccessKey : String
  enabled : Bool
  affiliation : Option String
  applicationRoot : Option String
  userRootTemplate : Option String
  permissions : DataPlaneApplicationPermissions
  deriving DecidableEq, Repr

structure DataPlaneApplicationInput where
  id : String
  label : Option String
  accessKeyId : String
  secretAccessKey : Option String
  enabled : Bool
  affiliation : Option String
  applicationRoot : Option String
  userRootTemplate : Option String
  permissions : Option DataPlaneApplicationPermissions
  deriving DecidableEq, Repr

def DataPlaneApplication.toInput (application : DataPlaneApplication) :
    DataPlaneApplicationInput where
  id := application.id
  label := application.label
  accessKeyId := application.accessKeyId
  secretAccessKey := some application.secretAccessKey
  enabled := application.enabled
  affiliation := application.affiliation
  applicationRoot := application.applicationRoot
  userRootTemplate := application.userRootTemplate
  permissions := some application.permissions

def normalizeApplicationPrefixField (value : Option String) : Option String :=
  (normalizePrefixList value.toList).head?

def normalizeApplicationAffiliation (value : Option String) : Option String :=
  (normalizeSecretField value).map toAsciiLowercase

def normalizeDataPlaneApplicationPermissions (input : Option DataPlaneApplicationPermissions) :
    DataPlaneApplicationPermissions :=
  let raw := input.getD
    { listBuckets := true
      listObjects := true
      readObject := true
      writeObject := true
      deleteObject := true
      allowedBuckets := []
      allowedPrefixes := [] }
  { raw with
    allowedBuckets := normalizeBucketList raw.allowedBuckets
    allowedPrefixes := normalizePrefixList raw.allowedPrefixes }

/-- The secret of an application: the one of the input, or the one it had. -/
def applicationSecret (existing : List DataPlaneApplication) (id : String)
    (input : Option String) : String :=
  let secretAccessKey := trim (input.getD "")
  if secretAccessKey.isEmpty then
    ((existing.find? fun application =>
      decide (application.id = id ∧ ¬ application.secretAccessKey.isEmpty)).map
        (·.secretAccessKey)).getD ""
  else secretAccessKey

/-- One round of the loop; `taken` are the ids and access keys of the rounds before. -/
def normalizeDataPlaneApplication (existing : List DataPlaneApplication)
    (taken : List (String × String)) (application : DataPlaneApplicationInput) :
    Except BlobError DataPlaneApplication :=
  let id := trim application.id
  let accessKeyId := trim application.accessKeyId
  let secretAccessKey := applicationSecret existing id application.secretAccessKey
  if id.isEmpty then .error (.configuration "application id must not be empty")
  else if id ∈ taken.map Prod.fst then
    .error (.configuration s!"duplicate application id: {id}")
  else if accessKeyId.isEmpty then
    .error (.configuration s!"application {id} access_key_id must not be empty")
  else if accessKeyId ∈ taken.map Prod.snd then
    .error (.configuration s!"duplicate application access_key_id: {accessKeyId}")
  else if secretAccessKey.isEmpty then
    .error (.configuration s!"application {id} secret_access_key must not be empty")
  else .ok
    { id := id
      label := normalizeSecretField application.label
      accessKeyId := accessKeyId
      secretAccessKey := secretAccessKey
      enabled := application.enabled
      affiliation := normalizeApplicationAffiliation application.affiliation
      applicationRoot := normalizeApplicationPrefixField application.applicationRoot
      userRootTemplate := normalizeApplicationPrefixField application.userRootTemplate
      permissions := normalizeDataPlaneApplicationPermissions application.permissions }

def normalizeDataPlaneApplicationsWithExisting (applications : List DataPlaneApplicationInput)
    (existing : List DataPlaneApplication) : Except BlobError (List DataPlaneApplication) :=
  normalizeDistinct (normalizeDataPlaneApplication existing)
    (fun application => (application.id, application.accessKeyId)) [] applications

def normalizeDataPlaneApplications (applications : List DataPlaneApplicationInput) :
    Except BlobError (List DataPlaneApplication) :=
  normalizeDataPlaneApplicationsWithExisting applications []

/-- The applications in force; `defaults` are those of the configuration. -/
def currentDataPlaneApplications (defaults applications : List DataPlaneApplication) :
    List DataPlaneApplication :=
  if applications.isEmpty then defaults else applications

end Netdisk2Blob.ControlPlane
