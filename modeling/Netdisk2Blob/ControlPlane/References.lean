import Netdisk2Blob.ControlPlane.Files
import Netdisk2Blob.ControlPlane.SmbSidecar
import Netdisk2Blob.Library.Transition

/-!
# References between the Sections of the Control Plane

Content policies name profiles, profiles name key files, shares name applications and users.
An update checks its names against what it reads before it takes the lock, and it changes the
memory before it writes the file.

## Contents

- `PendingRequest`, `advance`: the requests, step by step
- `ReferencesHold`, `MemoryPersisted`
- `Guard`, `references_hold_iff`: in a run the names never dangle and the memory is that of
  the file exactly when the steps that replace or remove something meet their guards
-/

namespace Netdisk2Blob.ControlPlane

open Library Text Blob

/-! ## Section 1: Requests -/

/-- The sections of the control plane that refer to each other. -/
structure ReferenceSections extends EncryptionSettings where
  applications : List DataPlaneApplication
  smbSidecar : SmbSidecarConfig
  deriving DecidableEq, Repr

/-- What is the same for the whole run. -/
structure ReferenceEnvironment where
  base64 : Base64
  /-- the application of the configuration -/
  defaultApplications : List DataPlaneApplication
  /-- what a missing file stands for -/
  defaultState : ReferenceSections

/-- What the requests share. -/
structure SharedSections where
  memory : ReferenceSections
  file : Option ReferenceSections
  keyFiles : ManagedKeyFiles

/-- A request under way, by what it does next. -/
inductive PendingRequest where
  | checkKeys (profiles unchecked : List EncryptionProfile)
  | checkPolicies (profiles : List EncryptionProfile)
  | replaceProfiles (profiles : List EncryptionProfile)
  | replacePolicies (policies : List ContentPolicyRule)
  | removeKey (keyId : String)
  | replaceApplications (applications : List DataPlaneApplication)
  | normalizeSmb (input : SmbSidecarConfigInput) (applications : List DataPlaneApplication)
  | replaceSmb (config : SmbSidecarConfig)

/-- A request as it arrives. -/
inductive ControlPlaneRequest where
  | updateEncryptionProfiles (profiles : List EncryptionProfile)
  | updateContentPolicies (policies : List ContentPolicyRule)
  | deleteManagedEncryptionKey (keyId : String)
  | updateDataPlaneApplications (applications : List DataPlaneApplicationInput)
  | updateSmbSidecarConfig (input : SmbSidecarConfigInput)

variable (env : ReferenceEnvironment)

def SharedSections.currentApplications (shared : SharedSections) : List DataPlaneApplication :=
  currentDataPlaneApplications env.defaultApplications shared.memory.applications

/-- Up to the first step after which another request can come between. -/
def SharedSections.start (shared : SharedSections) :
    ControlPlaneRequest → Except BlobError PendingRequest
  | .updateEncryptionProfiles profiles => do
    let profiles ← normalizeEncryptionProfiles profiles
    .ok (.checkKeys profiles profiles)
  | .updateContentPolicies policies => do
    let policies ← normalizeContentPolicies policies
    validateContentPolicyEncryptionProfileRefs policies shared.memory.encryptionProfiles
    .ok (.replacePolicies policies)
  | .deleteManagedEncryptionKey keyId => do
    let keyId ← normalizeManagedEncryptionKeyId keyId
    let references :=
      encryptionProfileReferencingManagedKey shared.memory.encryptionProfiles keyId
    if !references.isEmpty then
      .error (.configuration (s!"managed encryption key {keyId} is still referenced by " ++
        "encryption profile(s): " ++ String.intercalate ", " references))
    else .ok (.removeKey keyId)
  | .updateDataPlaneApplications input => do
    let applications ← normalizeDataPlaneApplicationsWithExisting input
      (shared.currentApplications env)
    .ok (.replaceApplications applications)
  | .updateSmbSidecarConfig input => .ok (.normalizeSmb input (shared.currentApplications env))

/-- The memory is replaced under the lock, and then the file is written. -/
def SharedSections.replace (shared : SharedSections) (fault : Option FileFault)
    (memory : ReferenceSections) : SharedSections :=
  { shared with
    memory := memory
    file := (atomicWrite fault (some memory) shared.file).2 }

/-- The next step of a request: what it does, and what the request does after it. A request
that ends, with or without an error, does nothing more. -/
def SharedSections.advance (shared : SharedSections) (fault : Option FileFault) (now : Nat) :
    PendingRequest → SharedSections × Option PendingRequest
  | .checkKeys profiles [] => (shared, some (.checkPolicies profiles))
  | .checkKeys profiles (profile :: unchecked) =>
    match validateManagedEncryptionKeyRef env.base64 shared.keyFiles profile with
    | .error _ => (shared, none)
    | .ok () => (shared, some (.checkKeys profiles unchecked))
  | .checkPolicies profiles =>
    match validateContentPolicyEncryptionProfileRefs shared.memory.contentPolicies profiles with
    | .error _ => (shared, none)
    | .ok () => (shared, some (.replaceProfiles profiles))
  | .replaceProfiles profiles =>
    (shared.replace fault { shared.memory with encryptionProfiles := profiles }, none)
  | .replacePolicies policies =>
    (shared.replace fault { shared.memory with contentPolicies := policies }, none)
  | .removeKey keyId =>
    match removeManagedEncryptionKeyRecord shared.keyFiles keyId with
    | .error _ => (shared, none)
    | .ok keyFiles => ({ shared with keyFiles := keyFiles }, none)
  | .replaceApplications applications =>
    (shared.replace fault { shared.memory with applications := applications }, none)
  | .normalizeSmb input applications =>
    match normalizeSmbSidecarWithExisting input shared.memory.smbSidecar applications now with
    | .error _ => (shared, none)
    | .ok config => (shared, some (.replaceSmb config))
  | .replaceSmb config =>
    (shared.replace fault { shared.memory with smbSidecar := config }, none)

/-! ## Section 2: Interleavings -/

/-- The requests under way, in any phase. -/
structure ControlPlaneSystem where
  shared : SharedSections
  requests : List PendingRequest

inductive ControlPlaneAction where
  | start (request : ControlPlaneRequest)
  | continueRequest (i : Nat) (fault : Option FileFault) (now : Nat)

namespace ControlPlaneSystem

def step (s : ControlPlaneSystem) : ControlPlaneAction → Option ControlPlaneSystem
  | .start request =>
    match s.shared.start env request with
    | .error _ => some s
    | .ok pending => some { s with requests := s.requests ++ [pending] }
  | .continueRequest i fault now =>
    (s.requests[i]?).map fun pending =>
      match s.shared.advance env fault now pending with
      | (shared, none) => ⟨shared, s.requests.eraseIdx i⟩
      | (shared, some next) => ⟨shared, s.requests.set i next⟩

end ControlPlaneSystem

/-! ## Section 3: What is to hold -/

/-- Every enabled policy that names a profile names one of these. -/
def PoliciesNameProfiles (policies : List ContentPolicyRule)
    (profiles : List EncryptionProfile) : Prop :=
  ∀ policy ∈ policies, policy.enabled = true → ∀ profileId,
    policy.encryptionProfileId = some profileId → profileId ∈ profiles.map (·.id)

/-- Every profile of a managed key names a key file. -/
def ProfilesNameKeys (profiles : List EncryptionProfile) (keyFiles : ManagedKeyFiles) : Prop :=
  ∀ profile ∈ profiles, profile.keySourceKind = .gatewayManaged →
    (keyFiles.find? (trim profile.keySourceRef)).isSome

structure ReferencesHold (shared : SharedSections) : Prop where
  policies : PoliciesNameProfiles shared.memory.contentPolicies shared.memory.encryptionProfiles
  keys : ProfilesNameKeys shared.memory.encryptionProfiles shared.keyFiles
  shares : SmbReferences (shared.currentApplications env) shared.memory.smbSidecar

/-- The memory is what a restart would read. -/
def MemoryPersisted (shared : SharedSections) : Prop :=
  shared.memory = shared.file.getD env.defaultState

/-- The write of the file succeeds, or its content counts all the same, or there is nothing
new to write. -/
def WriteCounts (fault : Option FileFault) (unchanged : Prop) : Prop :=
  ∀ failed, fault = some failed → failed.replaced = false → unchanged

/-- What the steps that replace or remove something have to meet, in the state in which they
are made. -/
def SharedSections.Guard (shared : SharedSections) (fault : Option FileFault) :
    PendingRequest → Prop
  | .replaceProfiles profiles =>
    PoliciesNameProfiles shared.memory.contentPolicies profiles ∧
      ProfilesNameKeys profiles shared.keyFiles ∧
      WriteCounts fault (profiles = shared.memory.encryptionProfiles)
  | .replacePolicies policies =>
    PoliciesNameProfiles policies shared.memory.encryptionProfiles ∧
      WriteCounts fault (policies = shared.memory.contentPolicies)
  | .removeKey keyId =>
    ∀ profile ∈ shared.memory.encryptionProfiles, profile.keySourceKind = .gatewayManaged →
      trim profile.keySourceRef ≠ keyId
  | .replaceApplications applications =>
    (∀ share ∈ shared.memory.smbSidecar.shares, share.applicationId ∈
        (currentDataPlaneApplications env.defaultApplications applications).map (·.id)) ∧
      WriteCounts fault (applications = shared.memory.applications)
  | .replaceSmb config =>
    (∀ share ∈ config.shares,
        share.applicationId ∈ (shared.currentApplications env).map (·.id)) ∧
      WriteCounts fault (config = shared.memory.smbSidecar)
  | .checkKeys _ _ | .checkPolicies _ | .normalizeSmb _ _ => True

namespace ControlPlaneSystem

def Guard (s : ControlPlaneSystem) : ControlPlaneAction → Prop
  | .start _ => True
  | .continueRequest i fault _ => ∀ pending, s.requests[i]? = some pending →
      s.shared.Guard env fault pending

/-- Nothing dangles, and the memory is that of the file. -/
def Sound (s : ControlPlaneSystem) : Prop :=
  ReferencesHold env s.shared ∧ MemoryPersisted env s.shared

end ControlPlaneSystem

/-! ## Section 4: What a step does to it -/

/-- What a request has made sure of by itself. -/
def PendingRequest.Checked : PendingRequest → Prop
  | .removeKey keyId => normalizeManagedEncryptionKeyId keyId = .ok keyId
  | .replaceSmb config => ∀ share ∈ config.shares, ∀ userId ∈ share.validUserIds,
      userId ∈ config.users.map (·.id)
  | _ => True

section Steps

variable {env : ReferenceEnvironment} {shared : SharedSections} {fault : Option FileFault}
  {now : Nat}

theorem start_checked {request : ControlPlaneRequest} {pending : PendingRequest}
    (h : shared.start env request = .ok pending) : pending.Checked := by
  cases request with
  | updateEncryptionProfiles profiles =>
    obtain ⟨_, -, h⟩ := except_bind_ok.mp h
    obtain rfl := Except.ok.inj h
    trivial
  | updateContentPolicies policies =>
    obtain ⟨_, -, h⟩ := except_bind_ok.mp h
    obtain ⟨_, -, h⟩ := except_bind_ok.mp h
    obtain rfl := Except.ok.inj h
    trivial
  | deleteManagedEncryptionKey keyId =>
    obtain ⟨id, hid, h⟩ := except_bind_ok.mp h
    simp only at h
    split_ifs at h
    obtain rfl := Except.ok.inj h
    exact (normalizeManagedEncryptionKeyId_ok hid).2
  | updateDataPlaneApplications input =>
    obtain ⟨_, -, h⟩ := except_bind_ok.mp h
    obtain rfl := Except.ok.inj h
    trivial
  | updateSmbSidecarConfig input =>
    obtain rfl := Except.ok.inj h
    trivial

theorem advance_checked {pending next : PendingRequest}
    (h : (shared.advance env fault now pending).2 = some next) : next.Checked := by
  cases pending with
  | checkKeys profiles unchecked =>
    cases unchecked with
    | nil =>
      obtain rfl := Option.some.inj h
      trivial
    | cons profile unchecked =>
      simp only [SharedSections.advance] at h
      split at h
      · cases h
      · obtain rfl := Option.some.inj h
        trivial
  | checkPolicies profiles =>
    simp only [SharedSections.advance] at h
    split at h
    · cases h
    · obtain rfl := Option.some.inj h
      trivial
  | removeKey keyId =>
    simp only [SharedSections.advance] at h
    split at h
    · cases h
    · cases h
  | normalizeSmb input applications =>
    simp only [SharedSections.advance] at h
    split at h
    · cases h
    · rename_i config hconfig
      obtain rfl := Option.some.inj h
      intro share hshare
      exact (normalizeSmbSidecarWithExisting_references hconfig share hshare).2
  | replaceProfiles profiles => cases h
  | replacePolicies policies => cases h
  | replaceApplications applications => cases h
  | replaceSmb config => cases h

/-- After a replacement the memory is that of the file when the write counts. -/
theorem memoryPersisted_replace_iff (h : MemoryPersisted env shared) {memory : ReferenceSections} :
    MemoryPersisted env (shared.replace fault memory) ↔
      WriteCounts fault (memory = shared.memory) := by
  cases fault with
  | none => exact iff_of_true rfl nofun
  | some failed =>
    cases hreplaced : failed.replaced with
    | true =>
      have hfile : (shared.replace (some failed) memory).file = some memory := by
        simp [SharedSections.replace, atomicWrite, hreplaced]
      refine iff_of_true ?_ ?_
      · rw [MemoryPersisted, hfile]
        rfl
      · intro other hother hnot
        obtain rfl := Option.some.inj hother
        rw [hreplaced] at hnot
        cases hnot
    | false =>
      have hfile : (shared.replace (some failed) memory).file = shared.file := by
        simp [SharedSections.replace, atomicWrite, hreplaced]
      rw [MemoryPersisted, hfile, ← h]
      constructor
      · exact fun hsame _ _ _ => hsame
      · exact fun hcounts => hcounts failed rfl hreplaced

/-- Replacing a section keeps the memory exactly when the section is the one that is there. -/
theorem replaced_eq_iff (memory : ReferenceSections) :
    (∀ profiles, { memory with encryptionProfiles := profiles } = memory ↔
      profiles = memory.encryptionProfiles) ∧
    (∀ policies, { memory with contentPolicies := policies } = memory ↔
      policies = memory.contentPolicies) ∧
    (∀ applications, { memory with applications := applications } = memory ↔
      applications = memory.applications) ∧
    (∀ config, { memory with smbSidecar := config } = memory ↔ config = memory.smbSidecar) := by
  refine ⟨?_, ?_, ?_, ?_⟩
  · exact fun _ => ⟨fun h => congrArg (·.encryptionProfiles) h, fun h => h ▸ rfl⟩
  · exact fun _ => ⟨fun h => congrArg (·.contentPolicies) h, fun h => h ▸ rfl⟩
  · exact fun _ => ⟨fun h => congrArg (·.applications) h, fun h => h ▸ rfl⟩
  · exact fun _ => ⟨fun h => congrArg (·.smbSidecar) h, fun h => h ▸ rfl⟩

/-- A removal of a key file keeps the names exactly when no profile names the key. -/
theorem profilesNameKeys_remove_iff {keyId : String} {profiles : List EncryptionProfile}
    {keyFiles : ManagedKeyFiles} (h : ProfilesNameKeys profiles keyFiles) :
    ProfilesNameKeys profiles (keyFiles.delete fun record => decide (record.id = keyId)) ↔
      ∀ profile ∈ profiles, profile.keySourceKind = .gatewayManaged →
        trim profile.keySourceRef ≠ keyId := by
  constructor
  · intro hafter profile hprofile hkind heq
    have hsome := hafter profile hprofile hkind
    rw [Table.find?_delete_self] at hsome
    · cases hsome
    · intro record hrecord
      exact decide_eq_true (hrecord.trans heq)
  · intro hunnamed profile hprofile hkind
    rw [Table.find?_delete]
    · exact h profile hprofile hkind
    · intro record _ hrecord
      apply decide_eq_false
      rw [hrecord]
      exact hunnamed profile hprofile hkind

theorem removeManagedEncryptionKeyRecord_ok_or {keyId : String} {keyFiles : ManagedKeyFiles}
    (hid : normalizeManagedEncryptionKeyId keyId = .ok keyId) :
    (removeManagedEncryptionKeyRecord keyFiles keyId =
        .ok (keyFiles.delete fun record => decide (record.id = keyId))) ∨
      keyFiles.find? keyId = none := by
  unfold removeManagedEncryptionKeyRecord
  rw [hid]
  cases hfile : keyFiles.find? keyId with
  | none => exact Or.inr rfl
  | some record =>
    refine Or.inl ?_
    simp only [bind, Except.bind, hfile]
    rfl

/-- What one step of one request does to the names and to the file. -/
theorem advance_sound_iff (hreferences : ReferencesHold env shared)
    (hpersisted : MemoryPersisted env shared) {pending : PendingRequest}
    (hchecked : pending.Checked) :
    (ReferencesHold env (shared.advance env fault now pending).1 ∧
        MemoryPersisted env (shared.advance env fault now pending).1) ↔
      shared.Guard env fault pending := by
  have hsame : (ReferencesHold env shared ∧ MemoryPersisted env shared) ↔ True :=
    iff_of_true ⟨hreferences, hpersisted⟩ trivial
  obtain ⟨hprofilesEq, hpoliciesEq, happlicationsEq, hsmbEq⟩ := replaced_eq_iff shared.memory
  cases pending with
  | checkKeys profiles unchecked =>
    cases unchecked with
    | nil => exact hsame
    | cons profile unchecked =>
      simp only [SharedSections.advance]
      split
      · exact hsame
      · exact hsame
  | checkPolicies profiles =>
    simp only [SharedSections.advance]
    split
    · exact hsame
    · exact hsame
  | normalizeSmb input applications =>
    simp only [SharedSections.advance]
    split
    · exact hsame
    · exact hsame
  | replaceProfiles profiles =>
    simp only [SharedSections.advance, SharedSections.Guard]
    rw [memoryPersisted_replace_iff hpersisted, hprofilesEq, ← and_assoc]
    apply and_congr_left
    intro _
    exact ⟨fun h => ⟨h.policies, h.keys⟩, fun h => ⟨h.1, h.2, hreferences.shares⟩⟩
  | replacePolicies policies =>
    simp only [SharedSections.advance, SharedSections.Guard]
    rw [memoryPersisted_replace_iff hpersisted, hpoliciesEq]
    apply and_congr_left
    intro _
    exact ⟨fun h => h.policies, fun h => ⟨h, hreferences.keys, hreferences.shares⟩⟩
  | replaceApplications applications =>
    simp only [SharedSections.advance, SharedSections.Guard]
    rw [memoryPersisted_replace_iff hpersisted, happlicationsEq]
    apply and_congr_left
    intro _
    constructor
    · exact fun h share hshare => (h.shares share hshare).1
    · intro h
      refine ⟨hreferences.policies, hreferences.keys, ?_⟩
      exact fun share hshare => ⟨h share hshare, (hreferences.shares share hshare).2⟩
  | replaceSmb config =>
    simp only [SharedSections.advance, SharedSections.Guard]
    rw [memoryPersisted_replace_iff hpersisted, hsmbEq]
    apply and_congr_left
    intro _
    constructor
    · exact fun h share hshare => (h.shares share hshare).1
    · intro h
      refine ⟨hreferences.policies, hreferences.keys, ?_⟩
      exact fun share hshare => ⟨h share hshare, hchecked share hshare⟩
  | removeKey keyId =>
    simp only [SharedSections.advance, SharedSections.Guard]
    rcases @removeManagedEncryptionKeyRecord_ok_or keyId shared.keyFiles hchecked with
      hremoved | hmissing
    · rw [hremoved, ← profilesNameKeys_remove_iff hreferences.keys]
      exact ⟨fun h => h.1.keys, fun h => ⟨⟨hreferences.policies, h, hreferences.shares⟩, hpersisted⟩⟩
    · -- there is no such file, and every profile has its file
      have hunnamed : ∀ profile ∈ shared.memory.encryptionProfiles,
          profile.keySourceKind = .gatewayManaged → trim profile.keySourceRef ≠ keyId := by
        intro profile hprofile hkind heq
        have hsome := hreferences.keys profile hprofile hkind
        rw [heq, hmissing] at hsome
        cases hsome
      have hrefused : ∃ error, removeManagedEncryptionKeyRecord shared.keyFiles keyId =
          .error error := by
        unfold removeManagedEncryptionKeyRecord
        rw [show normalizeManagedEncryptionKeyId keyId = .ok keyId from hchecked]
        simp only [bind, Except.bind, hmissing]
        exact ⟨_, rfl⟩
      obtain ⟨error, herror⟩ := hrefused
      rw [herror]
      exact iff_of_true ⟨hreferences, hpersisted⟩ hunnamed

end Steps

namespace ControlPlaneSystem

variable {env : ReferenceEnvironment} {s s' : ControlPlaneSystem}

/-- The requests under way have checked what they can check by themselves. -/
def Inv (s : ControlPlaneSystem) : Prop := ∀ pending ∈ s.requests, pending.Checked

theorem inv_step (action : ControlPlaneAction) (h : s.Inv)
    (hstep : s.step env action = some s') : s'.Inv := by
  cases action with
  | start request =>
    simp only [step] at hstep
    split at hstep
    · obtain rfl := Option.some.inj hstep
      exact h
    · rename_i pending hpending
      obtain rfl := Option.some.inj hstep
      intro other hother
      rcases List.mem_append.mp hother with hold | hnew
      · exact h other hold
      · rw [List.mem_singleton.mp hnew]
        exact start_checked hpending
  | continueRequest i fault now =>
    obtain ⟨pending, -, rfl⟩ := Option.map_eq_some_iff.mp hstep
    split
    · intro other hother
      exact h other (List.mem_of_mem_eraseIdx hother)
    · rename_i shared next hadvance
      intro other hother
      rcases List.mem_or_eq_of_mem_set hother with hold | rfl
      · exact h other hold
      · exact advance_checked (congrArg Prod.snd hadvance)

theorem sound_step_iff (action : ControlPlaneAction) (hinv : s.Inv) (h : s.Sound env)
    (hstep : s.step env action = some s') : s'.Sound env ↔ s.Guard env action := by
  cases action with
  | start request =>
    have hshared : s'.shared = s.shared := by
      simp only [step] at hstep
      split at hstep
      · rw [← Option.some.inj hstep]
      · rw [← Option.some.inj hstep]
    rw [Sound, hshared]
    exact iff_of_true h trivial
  | continueRequest i fault now =>
    obtain ⟨pending, hpending, hs'⟩ := Option.map_eq_some_iff.mp hstep
    have hshared : s'.shared = (s.shared.advance env fault now pending).1 := by
      rw [← hs']
      split
      · rename_i hadvance
        rw [hadvance]
      · rename_i hadvance
        rw [hadvance]
    have hguard : s.Guard env (.continueRequest i fault now) ↔
        s.shared.Guard env fault pending := by
      constructor
      · exact fun hguard => hguard pending hpending
      · intro hguard other hother
        rw [hpending] at hother
        obtain rfl := Option.some.inj hother
        exact hguard
    rw [Sound, hshared, hguard]
    exact advance_sound_iff h.1 h.2 (hinv pending (List.mem_of_getElem? hpending))

/-- **References across interleavings.** From a state without requests under way in which
the names hold and the file has the memory, every state of a run is such a state exactly when
each step that replaces a section, writes the file or removes a key meets its guard. -/
theorem references_hold_iff (hidle : s.requests = []) (h : s.Sound env)
    (actions : List ControlPlaneAction) :
    Always (step env) (Sound env) s actions ↔ Guarded (step env) (Guard env) s actions := by
  have hinv : s.Inv := by
    intro pending hpending
    rw [hidle] at hpending
    cases hpending
  exact always_iff_guarded (fun _ action _ => inv_step action)
    (fun _ action _ => sound_step_iff action) hinv h

section Samples

def sampleVariableProfile : EncryptionProfile where
  id := "p"
  label := none
  enabled := true
  algorithmPreference := .auto
  chunkPlaintextBytes := minEncryptionChunkPlaintextBytes
  keyId := "k"
  keySourceKind := .envVar
  keySourceRef := "V"
  notes := none

/-- A policy for every object. -/
def sampleProfilePolicy : ContentPolicyRule where
  id := "c"
  label := none
  enabled := true
  applicationIds := []
  buckets := []
  prefixes := []
  contentTypes := []
  encryptionProfileId := some "p"
  syncTargets := []
  fallbackReadOrder := []

def sampleSmbSidecar : SmbSidecarConfig where
  enabled := false
  bindAddr := "0.0.0.0"
  port := 445
  sidecarImage := "s"
  rcloneImage := "r"
  mountRoot := "m"
  configRoot := "c"
  dataRoot := "d"
  workgroup := "W"
  serverString := none
  createMask := "0660"
  directoryMask := "0770"
  disableSplice := false
  macosCompatible := true
  vfsObjects := ["v"]
  users := []
  shares := []
  updatedAtUnixMs := 0

/-- One profile, and nothing that refers to it. -/
def sampleSections : ReferenceSections where
  encryptionProfiles := [sampleVariableProfile]
  contentPolicies := []
  applications := []
  smbSidecar := sampleSmbSidecar

def sampleReferenceEnvironment : ReferenceEnvironment := ⟨standardBase64, [], sampleSections⟩

def sampleControlPlaneSystem : ControlPlaneSystem := ⟨⟨sampleSections, none, ∅⟩, []⟩

theorem sampleControlPlaneSystem_sound :
    sampleControlPlaneSystem.Sound sampleReferenceEnvironment := by
  refine ⟨⟨?_, ?_, ?_⟩, rfl⟩
  · exact fun _ hpolicy => absurd hpolicy List.not_mem_nil
  · intro profile hprofile hkind
    rw [List.mem_singleton.mp hprofile] at hkind
    cases hkind
  · exact fun _ hshare => absurd hshare List.not_mem_nil

theorem samplePolicies_start :
    sampleControlPlaneSystem.shared.start sampleReferenceEnvironment
      (.updateContentPolicies [sampleProfilePolicy]) =
        .ok (.replacePolicies [sampleProfilePolicy]) := by
  apply except_bind_ok.mpr
  refine ⟨[sampleProfilePolicy], by decide +kernel, ?_⟩
  apply except_bind_ok.mpr
  exact ⟨(), by decide +kernel, rfl⟩

/-- The policy is put in place while its profile is there. -/
theorem references_hold_sample :
    Always (step sampleReferenceEnvironment) (Sound sampleReferenceEnvironment)
      sampleControlPlaneSystem
      [.start (.updateContentPolicies [sampleProfilePolicy]), .continueRequest 0 none 1] := by
  apply (references_hold_iff rfl sampleControlPlaneSystem_sound _).mpr
  intro started hstarted
  simp only [step, samplePolicies_start, Option.some.injEq] at hstarted
  subst hstarted
  refine ⟨trivial, fun _ _ => ⟨?_, trivial⟩⟩
  intro pending hpending
  obtain rfl := Option.some.inj hpending
  refine ⟨?_, nofun⟩
  intro policy hpolicy _ profileId hprofile
  rw [List.mem_singleton.mp hpolicy] at hprofile
  obtain rfl := Option.some.inj hprofile
  exact List.mem_singleton_self _

/-- Two updates that each check the other's old section, and an update whose file is not
written. -/
theorem updates_leave_dangling_reference :
    sampleControlPlaneSystem.Sound sampleReferenceEnvironment ∧
      (∃ final, run (step sampleReferenceEnvironment) sampleControlPlaneSystem
          [.start (.updateContentPolicies [sampleProfilePolicy]),
            .start (.updateEncryptionProfiles []), .continueRequest 1 none 1,
            .continueRequest 1 none 1, .continueRequest 0 none 1,
            .continueRequest 0 none 1] = some final ∧
        ¬ ReferencesHold sampleReferenceEnvironment final.shared) ∧
      ∃ final, run (step sampleReferenceEnvironment) sampleControlPlaneSystem
          [.start (.updateContentPolicies [sampleProfilePolicy]),
            .continueRequest 0 (some ⟨.configuration "disk is full", false⟩) 1] = some final ∧
        ¬ MemoryPersisted sampleReferenceEnvironment final.shared := by
  refine ⟨sampleControlPlaneSystem_sound, ?_, ?_⟩
  · have hfinal : (run (step sampleReferenceEnvironment) sampleControlPlaneSystem
        [.start (.updateContentPolicies [sampleProfilePolicy]),
          .start (.updateEncryptionProfiles []), .continueRequest 1 none 1,
          .continueRequest 1 none 1, .continueRequest 0 none 1,
          .continueRequest 0 none 1]).map (fun final =>
            (final.shared.memory.contentPolicies, final.shared.memory.encryptionProfiles)) =
        some ([sampleProfilePolicy], []) := by decide +kernel
    obtain ⟨final, hrun, hsections⟩ := Option.map_eq_some_iff.mp hfinal
    obtain ⟨hpolicies, hprofiles⟩ := Prod.mk.inj hsections
    refine ⟨final, hrun, ?_⟩
    intro hholds
    have hnamed := hholds.policies sampleProfilePolicy (by rw [hpolicies]; exact .head _) rfl "p" rfl
    rw [hprofiles] at hnamed
    cases hnamed
  · have hfinal : (run (step sampleReferenceEnvironment) sampleControlPlaneSystem
        [.start (.updateContentPolicies [sampleProfilePolicy]),
          .continueRequest 0 (some ⟨.configuration "disk is full", false⟩) 1]).map (fun final =>
            (final.shared.memory.contentPolicies, final.shared.file)) =
        some ([sampleProfilePolicy], none) := by decide +kernel
    obtain ⟨final, hrun, hsections⟩ := Option.map_eq_some_iff.mp hfinal
    obtain ⟨hpolicies, hfile⟩ := Prod.mk.inj hsections
    refine ⟨final, hrun, ?_⟩
    intro hpersisted
    rw [MemoryPersisted, hfile] at hpersisted
    have hnone : final.shared.memory.contentPolicies = [] :=
      congrArg (·.contentPolicies) hpersisted
    rw [hpolicies] at hnone
    cases hnone

end Samples

end ControlPlaneSystem

end Netdisk2Blob.ControlPlane
