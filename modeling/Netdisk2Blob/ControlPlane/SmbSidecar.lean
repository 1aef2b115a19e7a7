import Netdisk2Blob.ControlPlane.Applications

/-!
# The SMB Sidecar

Users and shares of the SMB sidecar. A share names the application it belongs to and the
users that may use it; a user names shares.

## Contents

- `SmbSidecarConfig.normalize`, `normalizeSmbUserInputs`, `normalizeSmbShareInputs`
- `normalizeSmbSidecarWithExisting`: what an update accepts; `SmbReferences` holds of it
  (`normalizeSmbSidecarWithExisting_references`)
-/

namespace Netdisk2Blob.ControlPlane

open Library Text Blob

/-! ## Section 1: The configuration -/

structure SmbUser where
  id : String
  label : Option String
  username : String
  password : Option String
  passwordPresent : Bool
  enabled : Bool
  allowedShareIds : List String
  notes : Option String
  deriving DecidableEq, Repr

structure SmbShare where
  id : String
  label : Option String
  shareName : String
  applicationId : String
  bucket : String
  pathPrefix : String
  enabled : Bool
  readOnly : Bool
  browseable : Bool
  guestOk : Bool
  validUserIds : List String
  createMask : String
  directoryMask : String
  notes : Option String
  deriving DecidableEq, Repr

structure SmbSidecarConfig where
  enabled : Bool
  bindAddr : String
  port : Nat
  sidecarImage : String
  rcloneImage : String
  mountRoot : String
  configRoot : String
  dataRoot : String
  workgroup : String
  serverString : Option String
  createMask : String
  directoryMask : String
  disableSplice : Bool
  macosCompatible : Bool
  vfsObjects : List String
  users : List SmbUser
  shares : List SmbShare
  updatedAtUnixMs : Nat
  deriving DecidableEq, Repr

structure SmbUserInput where
  id : String
  label : Option String
  username : String
  password : Option String
  enabled : Bool
  allowedShareIds : List String
  notes : Option String
  deriving DecidableEq, Repr

structure SmbShareInput where
  id : String
  label : Option String
  shareName : String
  applicationId : String
  bucket : String
  pathPrefix : String
  enabled : Bool
  readOnly : Bool
  browseable : Bool
  guestOk : Bool
  validUserIds : List String
  createMask : Option String
  directoryMask : Option String
  notes : Option String
  deriving DecidableEq, Repr

structure SmbSidecarConfigInput where
  enabled : Bool
  bindAddr : Option String
  port : Option Nat
  pluginImage : Option String
  sidecarImage : Option String
  rcloneImage : Option String
  mountRoot : Option String
  configRoot : Option String
  dataRoot : Option String
  workgroup : Option String
  serverString : Option String
  createMask : Option String
  directoryMask : Option String
  disableSplice : Bool
  macosCompatible : Bool
  vfsObjects : List String
  users : List SmbUserInput
  shares : List SmbShareInput
  deriving DecidableEq, Repr

def normalizeRequiredText (value fallback : String) : String :=
  if (trim value).isEmpty then fallback else trim value

def normalizeSmbPort (port : Nat) : Nat := if port = 0 then 445 else port

def normalizeSmbWorkgroup (value : String) : String :=
  let normalized := String.ofList ((trim value).toList.map Char.toUpper)
  if normalized.isEmpty then "WORKGROUP" else normalized

/-- An octal mask, padded to four digits. -/
def normalizeSmbMask (value fallback : String) : String :=
  let trimmed := trim value
  if trimmed.isEmpty then fallback
  else
    let numeric := trimStartMatches '0' trimmed
    let candidate := if numeric.isEmpty then "0" else numeric
    if candidate.toList.all (fun ch => decide ('0' ≤ ch ∧ ch ≤ '7')) then
      String.ofList (List.leftpad 4 '0' trimmed.toList)
    else fallback

def SmbSidecarConfig.normalize (config : SmbSidecarConfig) : SmbSidecarConfig :=
  { config with
    bindAddr := normalizeRequiredText config.bindAddr "0.0.0.0"
    port := normalizeSmbPort config.port
    sidecarImage := normalizeRequiredText config.sidecarImage "dperson/samba:latest"
    rcloneImage := normalizeRequiredText config.rcloneImage "rclone/rclone:latest"
    mountRoot := normalizeRequiredText config.mountRoot "/mnt/ccbg/smb/mounts"
    configRoot := normalizeRequiredText config.configRoot "/var/lib/ccbg/smb-sidecar/config"
    dataRoot := normalizeRequiredText config.dataRoot "/var/lib/ccbg/smb-sidecar/data"
    workgroup := normalizeSmbWorkgroup config.workgroup
    serverString := normalizeSecretField config.serverString
    createMask := normalizeSmbMask config.createMask "0660"
    directoryMask := normalizeSmbMask config.directoryMask "0770"
    vfsObjects := normalizeStringList
      (if config.vfsObjects.isEmpty then ["streams_xattr", "catia", "fruit"]
        else config.vfsObjects) }

/-! ## Section 2: Users and shares -/

/-- The ids of users and shares; `kind` is the word for them. -/
def normalizeSmbId (kind value : String) : Except BlobError String :=
  let normalized := toAsciiLowercase (trim value)
  if normalized.isEmpty then .error (.configuration s!"SMB {kind} id must not be empty")
  else if !normalized.toList.all
      (fun ch => ch.isAlphanum || ch == '-' || ch == '_' || ch == '.') then
    .error (.configuration s!"SMB {kind} id contains unsupported characters: {normalized}")
  else .ok normalized

def normalizeSmbUserId (value : String) : Except BlobError String := normalizeSmbId "user" value

def normalizeSmbShareId (value : String) : Except BlobError String := normalizeSmbId "share" value

/-- `char::is_control`. -/
def isControl (ch : Char) : Bool :=
  decide (ch.toNat < 32 ∨ (127 ≤ ch.toNat ∧ ch.toNat < 160))

/-- The names of users and shares: `what` is the word for them. -/
def normalizeSmbName (what : String) (maxBytes : Nat) (unsupported : List Char) (value : String) :
    Except BlobError String :=
  let normalized := trim value
  if normalized.isEmpty then .error (.configuration s!"SMB {what} must not be empty")
  else if maxBytes < (asBytes normalized).length then
    .error (.configuration s!"SMB {what} is too long: {normalized}")
  else if normalized.toList.any (fun ch => isControl ch || decide (ch ∈ unsupported)) then
    .error (.configuration s!"SMB {what} contains unsupported characters: {normalized}")
  else .ok normalized

def normalizeSmbUsername (value : String) : Except BlobError String :=
  normalizeSmbName "username" 32 [':', '/', '\\'] value

def normalizeSmbShareName (value : String) : Except BlobError String :=
  normalizeSmbName "share name" 64
    ['[', ']', ':', ';', '|', ',', '+', '=', '<', '>', '?', '"', '*', '/'] value

/-- The password of a user: the one of the input, or the one it had. -/
def smbUserPassword (existing : List SmbUser) (id : String) (input : Option String) :
    Option String :=
  (normalizeSecretField input).or
    ((existing.find? fun entry => decide (entry.id = id)).bind (·.password))

/-- One round of `normalize_smb_user_inputs`; `taken` are the ids and names so far. -/
def normalizeSmbUserInput (existing : List SmbUser) (taken : List (String × String))
    (user : SmbUserInput) : Except BlobError SmbUser := do
  let id ← normalizeSmbUserId user.id
  if id ∈ taken.map Prod.fst then .error (.configuration s!"duplicate SMB user id: {id}")
  else do
    let username ← normalizeSmbUsername user.username
    if toAsciiLowercase username ∈ taken.map Prod.snd then
      .error (.configuration s!"duplicate SMB username: {username}")
    else
      match smbUserPassword existing id user.password with
      | none => .error (.configuration s!"SMB user {id} password must not be empty")
      | some password => .ok {
            id := id
            label := normalizeSecretField user.label
            username := username
            password := some password
            passwordPresent := true
            enabled := user.enabled
            allowedShareIds := normalizeStringList user.allowedShareIds
            notes := normalizeSecretField user.notes }

def normalizeSmbUserInputs (users : List SmbUserInput) (existing : List SmbUser) :
    Except BlobError (List SmbUser) :=
  normalizeDistinct (normalizeSmbUserInput existing)
    (fun user => (user.id, toAsciiLowercase user.username)) [] users

/-- One round of `normalize_smb_share_inputs`. -/
def normalizeSmbShareInput (taken : List (String × String)) (share : SmbShareInput) :
    Except BlobError SmbShare := do
  let id ← normalizeSmbShareId share.id
  if id ∈ taken.map Prod.fst then .error (.configuration s!"duplicate SMB share id: {id}")
  else do
    let shareName ← normalizeSmbShareName share.shareName
    if toAsciiLowercase shareName ∈ taken.map Prod.snd then
      .error (.configuration s!"duplicate SMB share name: {shareName}")
    else if (trim share.applicationId).isEmpty then
      .error (.configuration s!"SMB share {id} application_id must not be empty")
    else if (toAsciiLowercase (trim share.bucket)).isEmpty then
      .error (.configuration s!"SMB share {id} bucket must not be empty")
    else .ok {
        id := id
        label := normalizeSecretField share.label
        shareName := shareName
        applicationId := trim share.applicationId
        bucket := toAsciiLowercase (trim share.bucket)
        pathPrefix := (normalizePrefixList [share.pathPrefix]).headD ""
        enabled := share.enabled
        readOnly := share.readOnly
        browseable := share.browseable
        guestOk := share.guestOk
        validUserIds := normalizeStringList share.validUserIds
        createMask := normalizeSmbMask (share.createMask.getD "0660") "0660"
        directoryMask := normalizeSmbMask (share.directoryMask.getD "0770") "0770"
        notes := normalizeSecretField share.notes }

def normalizeSmbShareInputs (shares : List SmbShareInput) : Except BlobError (List SmbShare) :=
  normalizeDistinct normalizeSmbShareInput
    (fun share => (share.id, toAsciiLowercase share.shareName)) [] shares

def defaultSmbRootShare (users : List SmbUser) (applicationId : String) : SmbShare where
  id := "root"
  label := some "Root"
  shareName := "CCBGRoot"
  applicationId := applicationId
  bucket := "root"
  pathPrefix := ""
  enabled := true
  readOnly := false
  browseable := true
  guestOk := false
  validUserIds := (users.filter (·.enabled)).map (·.id)
  createMask := "0660"
  directoryMask := "0770"
  notes := some "Auto-created default root share for first-run SMB setup"

/-! ## Section 3: An update -/

def sharesWithDefault (enabled : Bool) (users : List SmbUser) (shares : List SmbShare)
    (applications : List DataPlaneApplication) : Except BlobError (List SmbShare) :=
  if enabled ∧ shares.isEmpty ∧ users.any (·.enabled) then
    match (applications.find? (·.enabled)).or applications.head? with
    | none => .error (.configuration (s!"SMB needs at least one S3 application before " ++
        s!"auto-creating the default root share"))
    | some application => .ok (shares ++ [defaultSmbRootShare users application.id])
  else .ok shares

def checkSmbShare (applications : List DataPlaneApplication) (users : List SmbUser)
    (share : SmbShare) : Except BlobError Unit :=
  if share.applicationId ∉ applications.map (·.id) then
    .error (.configuration
      s!"SMB share {share.id} references unknown application_id {share.applicationId}")
  else
    match share.validUserIds.find? (fun userId => decide (userId ∉ users.map (·.id))) with
    | some userId =>
      .error (.configuration s!"SMB share {share.id} references unknown user id {userId}")
    | none => .ok ()

def checkSmbUser (shares : List SmbShare) (user : SmbUser) : Except BlobError Unit :=
  match user.allowedShareIds.find? (fun shareId => decide (shareId ∉ shares.map (·.id))) with
  | some shareId =>
    .error (.configuration s!"SMB user {user.id} references unknown share id {shareId}")
  | none => .ok ()

def normalizeSmbSidecarWithExisting (input : SmbSidecarConfigInput) (existing : SmbSidecarConfig)
    (applications : List DataPlaneApplication) (now : Nat) : Except BlobError SmbSidecarConfig := do
  let users ← normalizeSmbUserInputs input.users existing.users
  let normalizedShares ← normalizeSmbShareInputs input.shares
  let shares ← sharesWithDefault input.enabled users normalizedShares applications
  shares.forM (checkSmbShare applications users)
  users.forM (checkSmbUser shares)
  .ok (SmbSidecarConfig.normalize
    { enabled := input.enabled
      bindAddr := input.bindAddr.getD existing.bindAddr
      port := input.port.getD existing.port
      sidecarImage := (input.pluginImage.or input.sidecarImage).getD existing.sidecarImage
      rcloneImage := input.rcloneImage.getD existing.rcloneImage
      mountRoot := input.mountRoot.getD existing.mountRoot
      configRoot := input.configRoot.getD existing.configRoot
      dataRoot := input.dataRoot.getD existing.dataRoot
      workgroup := input.workgroup.getD existing.workgroup
      serverString := (normalizeSecretField input.serverString).or existing.serverString
      createMask := input.createMask.getD existing.createMask
      directoryMask := input.directoryMask.getD existing.directoryMask
      disableSplice := input.disableSplice
      macosCompatible := input.macosCompatible
      vfsObjects := if input.vfsObjects.isEmpty then existing.vfsObjects else input.vfsObjects
      users := users
      shares := shares
      updatedAtUnixMs := now })

/-! ## Section 4: References -/

/-- Every share names applications and users that exist. -/
def SmbReferences (applications : List DataPlaneApplication) (config : SmbSidecarConfig) : Prop :=
  ∀ share ∈ config.shares, share.applicationId ∈ applications.map (·.id) ∧
    ∀ userId ∈ share.validUserIds, userId ∈ config.users.map (·.id)

theorem checkSmbShare_ok_iff {applications : List DataPlaneApplication} {users : List SmbUser}
    {share : SmbShare} : checkSmbShare applications users share = .ok () ↔
      share.applicationId ∈ applications.map (·.id) ∧
        ∀ userId ∈ share.validUserIds, userId ∈ users.map (·.id) := by
  unfold checkSmbShare
  cases hfind : share.validUserIds.find? (fun userId => decide (userId ∉ users.map (·.id))) with
  | none =>
    have hknown : ∀ userId ∈ share.validUserIds, userId ∈ users.map (·.id) := by
      intro userId huser
      simpa using List.find?_eq_none.mp hfind userId huser
    split_ifs with happlication
    · exact iff_of_true rfl ⟨happlication, hknown⟩
    · constructor
      · intro h
        cases h
      · intro h
        exact absurd h.1 happlication
  | some userId =>
    have hunknown : userId ∉ users.map (·.id) := by simpa using List.find?_some hfind
    have hmem := List.mem_of_find?_eq_some hfind
    constructor
    · intro h
      split_ifs at h
    · intro h
      exact absurd (h.2 userId hmem) hunknown

/-- What an update accepts names what exists. -/
theorem normalizeSmbSidecarWithExisting_references {input : SmbSidecarConfigInput}
    {existing config : SmbSidecarConfig} {applications : List DataPlaneApplication} {now : Nat}
    (h : normalizeSmbSidecarWithExisting input existing applications now = .ok config) :
    SmbReferences applications config := by
  obtain ⟨users, -, h⟩ := except_bind_ok.mp h
  obtain ⟨normalizedShares, -, h⟩ := except_bind_ok.mp h
  obtain ⟨shares, -, h⟩ := except_bind_ok.mp h
  obtain ⟨_, hshares, h⟩ := except_bind_ok.mp h
  obtain ⟨_, -, h⟩ := except_bind_ok.mp h
  obtain rfl := Except.ok.inj h
  intro share hshare
  exact checkSmbShare_ok_iff.mp (forM_ok_iff.mp hshares share hshare)

end Netdisk2Blob.ControlPlane
