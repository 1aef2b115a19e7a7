import Netdisk2Blob.Gateway.WritePlacement

/-!
# Placement of Stored Objects

The reconcile preview of a stored object: the home, the replicas and the encryption that the
settings of today would give it, and whether the rewrite fits. It has its own order of the
providers, which is the order of an upload without the questions that an upload asks of each
provider.

## Contents

- `desiredReconcilePreviewForExistingObject`: the preview
- `reconcileCapacityCheck`: the check of sizes, quotas and the local spool
- `recordsAfterReconcile`: what an executed reconcile leaves
- `reportsHomeChange_iff`: when the preview wants another home
- `placement_agrees_iff`: when an upload and the preview agree
-/

namespace Netdisk2Blob.Gateway.Placement

open Library Text Blob Policy Metadata ObjectCrypto ControlPlane
open Operations (providerLabel PersistedObjectProtectionPlan)

/-! ## Section 1: What is desired -/

/-- `status`, with its label. -/
inductive ReconcileStatus where
  | skipped
  | blocked
  | noChange
  | needsChanges
  deriving DecidableEq, Repr

namespace ReconcileStatus

def asStr : ReconcileStatus → String
  | skipped => "skipped"
  | blocked => "blocked"
  | noChange => "no_change"
  | needsChanges => "needs_changes"

def label : ReconcileStatus → String
  | skipped => "上下文不足"
  | blocked => "空间或缓冲阻断"
  | noChange => "无需变更"
  | needsChanges => "需要显式收敛"

end ReconcileStatus

structure DesiredObjectReconcilePlan where
  desiredHomeProvider : ProviderId
  desiredSyncTargets : List ProviderId
  desiredFallbackReadOrder : List ProviderId
  addSyncTargets : List ProviderId
  removeSyncTargets : List ProviderId
  desiredEncrypted : Bool
  desiredEncryptionProfileId : Option String
  capacityRequiredBytes : Option Nat
  providerPeakRequiredBytes : Option Nat
  localSpoolRequiredBytes : Option Nat
  status : ReconcileStatus
  note : String
  deriving DecidableEq, Repr

/-- The note about one policy that cannot be decided for the object. -/
def missingContextNote (applicationId : Option String) (bucket key : String)
    (contentType : Option String) (policy : ContentPolicyRule) : Option String :=
  if !policy.enabled then none
  else if policy.buckets ≠ [] ∧ bucket ∉ policy.buckets then none
  else if policy.prefixes ≠ [] ∧ !policy.prefixes.any (fun pre => (stripPrefix pre key).isSome)
    then none
  else if policy.applicationIds ≠ [] ∧ applicationId = none then
    some (s!"内容策略 {policy.id} 需要应用 ID 才能判断是否命中，但这个历史对象还没有持久化 " ++
      "application_id，暂不能安全预览。")
  else if policy.contentTypes ≠ [] ∧ contentType = none then
    some (s!"内容策略 {policy.id} 需要内容类型才能判断是否命中，但这个历史对象还没有可用的 " ++
      "logical content-type，暂不能安全预览。")
  else none

def reconcileStatusForDesiredChanges (record : ObjectPlacementRecord)
    (logical : Option LogicalObjectRecord) (desiredHomeProvider : ProviderId)
    (desiredEncryptionProfileId : Option String) (addCount removeCount : Nat) : ReconcileStatus :=
  let homeChanges :=
    match ProviderId.parse record.provider with
    | .error _ => false
    | .ok current => decide (current ≠ desiredHomeProvider)
  let encryptionChanges :=
    decide (logical.bind (·.encryptionProfileId) ≠ desiredEncryptionProfileId)
  if addCount = 0 ∧ removeCount = 0 ∧ homeChanges = false ∧ encryptionChanges = false then
    .noChange
  else .needsChanges

/-- The request under which an object of the record is encrypted anew. -/
def encryptRequestForProfile (profile : EncryptionProfile) (plaintextSize : Nat)
    (logicalContentType : Option String) : EncryptRequest where
  profileId := profile.id
  keyId := profile.keyId
  algorithmPreference := profile.algorithmPreference
  chunkPlaintextBytes := profile.chunkPlaintextBytes
  plaintextSize := plaintextSize
  logicalContentType := logicalContentType

structure ReconcileCapacityCheck where
  capacityRequiredBytes : Option Nat
  providerPeakRequiredBytes : Option Nat
  localSpoolRequiredBytes : Option Nat
  blockedReason : Option String
  deriving DecidableEq, Repr

/-- The message of a check that failed. -/
def failureText : Except BlobError Unit → List String
  | .ok () => []
  | .error error => [error.display]

namespace PlacementState

variable (s : PlacementState)

def reconcilePreviewMissingContextNote (record : ObjectPlacementRecord)
    (logical : Option LogicalObjectRecord) : Option String :=
  s.settings.contentPolicies.findSome? (missingContextNote (logical.bind (·.applicationId))
    record.bucket record.key (logical.bind (·.logicalContentType)))

def desiredEncryptionProfileForExistingObject (logical : Option LogicalObjectRecord)
    (bucket key : String) (contentType : Option String) :
    Except BlobError (Option EncryptionProfile) :=
  match (matchingContentPolicy s.settings.contentPolicies (logical.bind (·.applicationId)) bucket
      key contentType).bind (·.encryptionProfileId) with
  | none => .ok none
  | some profileId =>
    match s.settings.encryptionProfiles.find? (fun profile =>
        decide (profile.id = profileId ∧ profile.enabled = true)) with
    | some profile => .ok (some profile)
    | none => .error (.configuration
        (s!"content policy requested missing or disabled encryption profile {profileId} for " ++
          s!"{bucket}/{key}"))

/-- The sync targets that a put may replicate to, and the fallback order within them. -/
def restrictTopology (topology : TopologyPolicy) (bucket key : String) : TopologyPolicy :=
  let syncTargets := topology.syncTargets.filter (fun provider =>
    match s.providerAllowedForReplication provider bucket key with
    | .ok allowed => allowed
    | .error _ => false)
  { topology with
    syncTargets := syncTargets
    fallbackReadOrder := sanitizeFallbackOrderForSyncTargets syncTargets
      topology.fallbackReadOrder }

/-- `effective_topology_for_replication` of a put, for which the policy always answers; or, for
a matching policy, the mixture with what it overrides. -/
def desiredReconcileTopology (policy : Option ContentPolicyRule) (bucket key : String) :
    Except BlobError TopologyPolicy :=
  match policy with
  | none => .ok (s.restrictTopology s.topology bucket key)
  | some policy =>
    match TopologyPolicy.fromInput (overriddenTopology s.topology policy) with
    | .ok topology => .ok (s.restrictTopology topology bucket key)
    | .error error => .error (.configuration
        (s!"content policy {policy.id} produced invalid reconcile topology for " ++
          s!"{bucket}/{key}: {error.display}"))

/-! ## Section 2: The capacity check -/

def estimateReconcileTargetStoredSize (bucket key : String)
    (logical : Option LogicalObjectRecord) (desiredProfile : Option EncryptionProfile) :
    Except BlobError Nat :=
  let plaintextSize := (logical.map (·.plaintextSize)).getD 0
  match desiredProfile with
  | none => .ok plaintextSize
  | some profile =>
    match (encryptRequestForProfile profile plaintextSize
        (logical.bind (·.logicalContentType))).plannedMetadata s.crypto with
    | .ok metadata => .ok metadata.storedSize
    | .error error => .error (.configuration
        s!"failed to estimate encrypted stored size for {bucket}/{key}: {error.display}")

def ensureProviderCanAcceptReconcileBytes (provider : ProviderId) (bucket : String)
    (addedBytes : Nat) (action : String) : Except BlobError Unit := do
  let backend ← s.backendForProvider provider
  s.ensureProviderWriteAllowedByQuota provider backend bucket addedBytes action

/-- What blocks the rewrite of the home object. -/
def homeBlockedReasons (currentHomeProvider desiredHomeProvider : ProviderId)
    (currentHomeBackend : Backend) (bucket : String)
    (currentStoredSize desiredStoredSize : Nat) : List String :=
  (if currentHomeBackend.streamingGet = false ∧ s.maxInMemoryObjectBytes < currentStoredSize then
    [s!"当前归属云盘 {providerLabel currentHomeProvider} 不是流式读取路径，对象 " ++
      s!"{currentStoredSize} B 超过当前内存上限 {s.maxInMemoryObjectBytes} B"]
  else []) ++
  failureText (s.ensureProviderCanAcceptReconcileBytes desiredHomeProvider bucket
    desiredStoredSize "historical object reconcile target write")

/-- What blocks a new replica at one provider. -/
def replicaBlockedReasons (bucket : String) (desiredStoredSize : Nat) (provider : ProviderId) :
    Except BlobError (List String) := do
  let targetBackend ← s.backendForProvider provider
  return (if targetBackend.streamingPut = false ∧ s.maxInMemoryObjectBytes < desiredStoredSize then
      [s!"新增副本目标 {providerLabel provider} 不是流式写入路径，对象 {desiredStoredSize} B " ++
        s!"超过当前内存上限 {s.maxInMemoryObjectBytes} B"]
    else []) ++
    failureText (s.ensureProviderCanAcceptReconcileBytes provider bucket desiredStoredSize
      "historical object reconcile replica write")

/-- What blocks an object of the size from the local spool. -/
def spoolBlockedReasons (required : Nat) : List String :=
  (if s.maxSpooledObjectBytes ≠ 0 ∧ s.maxSpooledObjectBytes < required then
    [s!"本地 spool 单对象上限不足：需要 {required} B，当前上限 {s.maxSpooledObjectBytes} B"]
  else []) ++
  (match s.spoolAvailableBytes.or s.spoolFreeBytes with
  | none => ["本地 spool 可用空间未知，当前默认阻断显式历史对象收敛"]
  | some freeBytes =>
    if freeBytes < required then
      [s!"本地 spool 剩余空间不足：需要 {required} B，当前可用 {freeBytes} B"]
    else [])

def reconcileCapacityCheck (record : ObjectPlacementRecord) (logical : Option LogicalObjectRecord)
    (desiredHomeProvider : ProviderId) (desiredProfile : Option EncryptionProfile)
    (addSyncTargets : List ProviderId) : Except BlobError ReconcileCapacityCheck :=
  match ProviderId.parse record.provider with
  | .error error => .error (.configuration
      (s!"invalid persisted home provider {record.provider} for {record.bucket}/{record.key}: " ++
        error.display))
  | .ok currentHomeProvider =>
    let currentStoredSize := (logical.map (·.storedSize)).getD 0
    let currentPlaintextSize := (logical.map (·.plaintextSize)).getD 0
    let homeProviderChanges := decide (currentHomeProvider ≠ desiredHomeProvider)
    let encryptionChanges := decide (logical.bind (·.encryptionProfileId) ≠
      desiredProfile.map (·.id))
    if logical = none ∧ (homeProviderChanges || encryptionChanges || !addSyncTargets.isEmpty) then
      .ok
        { capacityRequiredBytes := none
          providerPeakRequiredBytes := none
          localSpoolRequiredBytes := none
          blockedReason := some
            "历史对象缺少逻辑尺寸与加密元数据，当前无法安全估算目标空间与本地缓冲预算" }
    else do
      let desiredStoredSize ← s.estimateReconcileTargetStoredSize record.bucket record.key logical
        desiredProfile
      let currentHomeBackend ← s.backendForProvider currentHomeProvider
      let desiredHomeBackend ← s.backendForProvider desiredHomeProvider
      let homeReasons :=
        if homeProviderChanges || encryptionChanges then
          s.homeBlockedReasons currentHomeProvider desiredHomeProvider currentHomeBackend
            record.bucket currentStoredSize desiredStoredSize
        else []
      let replicaReasons ← addSyncTargets.mapM
        (s.replicaBlockedReasons record.bucket desiredStoredSize)
      let maxRemoteRequired :=
        if homeProviderChanges || encryptionChanges || !addSyncTargets.isEmpty then
          some desiredStoredSize
        else none
      let localSpoolRequiredBytes :=
        if (homeProviderChanges || encryptionChanges) && !desiredHomeBackend.streamingPut then
          some desiredStoredSize
        else none
      let spoolReasons := (localSpoolRequiredBytes.map s.spoolBlockedReasons).getD []
      let blockedReasons := homeReasons ++ replicaReasons.flatten ++ spoolReasons
      return {
        capacityRequiredBytes :=
          if homeProviderChanges || encryptionChanges || !addSyncTargets.isEmpty then
            some (max desiredStoredSize currentPlaintextSize)
          else none
        providerPeakRequiredBytes :=
          if !homeProviderChanges && !encryptionChanges then maxRemoteRequired
          else if homeProviderChanges then some desiredStoredSize
          else some (saturatingAddU64 currentStoredSize desiredStoredSize)
        localSpoolRequiredBytes := localSpoolRequiredBytes
        blockedReason :=
          if blockedReasons.isEmpty then none
          else some (String.intercalate "；" blockedReasons) }

/-! ## Section 3: The preview -/

/-- The part of the note that depends on the policy. -/
def reconcileBaseNote (policy : Option ContentPolicyRule) : String :=
  match policy with
  | none => "当前没有命中内容策略；历史对象若显式收敛，将对齐当前运行态副本目标。"
  | some policy => s!"命中内容策略 {policy.id}。这个预览只比较历史对象当前副本目标与当前策略意图，" ++
      "不会自动执行迁移。"

/-- The preview of an object whose policies cannot all be decided: nothing is to change. -/
def skippedReconcilePlan (record : ObjectPlacementRecord)
    (currentPlan : Option PersistedObjectProtectionPlan) (logical : Option LogicalObjectRecord)
    (note : String) : Except BlobError DesiredObjectReconcilePlan :=
  match ProviderId.parse record.provider with
  | .error error => .error (.configuration
      (s!"invalid persisted home provider {record.provider} for {record.bucket}/{record.key}: " ++
        error.display))
  | .ok desiredHomeProvider => .ok
      { desiredHomeProvider := desiredHomeProvider
        desiredSyncTargets := (currentPlan.map (·.syncTargets)).getD []
        desiredFallbackReadOrder := (currentPlan.map (·.fallbackReadOrder)).getD []
        addSyncTargets := []
        removeSyncTargets := []
        desiredEncrypted := (logical.map (·.encrypted)).getD false
        desiredEncryptionProfileId := logical.bind (·.encryptionProfileId)
        capacityRequiredBytes := none
        providerPeakRequiredBytes := none
        localSpoolRequiredBytes := none
        status := .skipped
        note := note }

def desiredReconcilePreviewForExistingObject (record : ObjectPlacementRecord)
    (currentPlan : Option PersistedObjectProtectionPlan) (logical : Option LogicalObjectRecord) :
    Except BlobError DesiredObjectReconcilePlan :=
  match s.reconcilePreviewMissingContextNote record logical with
  | some note => skippedReconcilePlan record currentPlan logical note
  | none => do
    let currentTargets := (currentPlan.map (·.syncTargets)).getD []
    let logicalContentType := logical.bind (·.logicalContentType)
    let desiredHomeProvider := s.desiredHomeProviderForExistingObject record.bucket record.key
    let desiredProfile ← s.desiredEncryptionProfileForExistingObject logical record.bucket
      record.key logicalContentType
    let matchingPolicy := matchingContentPolicy s.settings.contentPolicies
      (logical.bind (·.applicationId)) record.bucket record.key logicalContentType
    let desiredTopology ← s.desiredReconcileTopology matchingPolicy record.bucket record.key
    let addTargets := desiredTopology.syncTargets.filter (fun provider =>
      decide (provider ∉ currentTargets))
    let removeTargets := currentTargets.filter (fun provider =>
      decide (provider ∉ desiredTopology.syncTargets))
    let status := reconcileStatusForDesiredChanges record logical desiredHomeProvider
      (desiredProfile.map (·.id)) addTargets.length removeTargets.length
    let capacity ← s.reconcileCapacityCheck record logical desiredHomeProvider desiredProfile
      addTargets
    return {
      desiredHomeProvider := desiredHomeProvider
      desiredSyncTargets := desiredTopology.syncTargets
      desiredFallbackReadOrder := desiredTopology.fallbackReadOrder
      addSyncTargets := addTargets
      removeSyncTargets := removeTargets
      desiredEncrypted := desiredProfile.isSome
      desiredEncryptionProfileId := desiredProfile.map (·.id)
      capacityRequiredBytes := capacity.capacityRequiredBytes
      providerPeakRequiredBytes := capacity.providerPeakRequiredBytes
      localSpoolRequiredBytes := capacity.localSpoolRequiredBytes
      status := if capacity.blockedReason.isSome then .blocked else status
      note :=
        match capacity.blockedReason with
        | some reason => s!"{reconcileBaseNote matchingPolicy} 当前无法执行：{reason}"
        | none => reconcileBaseNote matchingPolicy }

/-- `build_historical_object_rewrite_plan`, as far as the metadata goes; `sourceSize` and
`sourceContentType` are those of the object that was read. -/
def rewrittenLogicalRecord (bucket key : String) (logical : Option LogicalObjectRecord)
    (sourceSize : Nat) (sourceContentType : Option String) (profile : Option EncryptionProfile)
    (nowUnixMs : Nat) : Except BlobError LogicalObjectRecord :=
  let plaintextSize := (logical.map (·.plaintextSize)).getD sourceSize
  let contentType := (logical.bind (·.logicalContentType)).or sourceContentType
  match profile with
  | none => .ok
      { bucket := bucket
        key := key
        etag := logical.bind (·.etag)
        applicationId := logical.bind (·.applicationId)
        encrypted := false
        encryptionProfileId := none
        algorithm := none
        keyId := none
        keySourceKind := none
        keySourceRef := none
        chunkPlaintextBytes := none
        plaintextSize := plaintextSize
        storedSize := plaintextSize
        logicalContentType := contentType
        updatedAtUnixMs := nowUnixMs }
  | some profile =>
    match (encryptRequestForProfile profile plaintextSize contentType).plannedMetadata s.crypto with
    | .error error => .error (.upstream error.display)
    | .ok metadata => .ok
        { bucket := bucket
          key := key
          etag := logical.bind (·.etag)
          applicationId := logical.bind (·.applicationId)
          encrypted := true
          encryptionProfileId := some profile.id
          algorithm := some metadata.algorithm.asStr
          keyId := some profile.keyId
          keySourceKind := some profile.keySourceKind.asStr
          keySourceRef := some profile.keySourceRef
          chunkPlaintextBytes := some metadata.chunkPlaintextBytes
          plaintextSize := metadata.plaintextSize
          storedSize := metadata.storedSize
          logicalContentType := metadata.logicalContentType
          updatedAtUnixMs := nowUnixMs }

/-- The metadata of an object. -/
structure ObjectRecords where
  placement : ObjectPlacementRecord
  logical : Option LogicalObjectRecord
  plan : Option PersistedObjectProtectionPlan
  deriving DecidableEq, Repr

/-- The metadata that an executed reconcile leaves: only the protection plan is new when the
object stays as it is, otherwise the object was rewritten. -/
def recordsAfterReconcile (records : ObjectRecords) (desired : DesiredObjectReconcilePlan)
    (sourceSize : Nat) (sourceContentType : Option String) (nowUnixMs : Nat) :
    Except BlobError ObjectRecords :=
  let record := records.placement
  let plan := some
    { syncTargets := desired.desiredSyncTargets
      fallbackReadOrder := desired.desiredFallbackReadOrder
      updatedAtUnixMs := nowUnixMs }
  match ProviderId.parse record.provider with
  | .error error => .error (.configuration
      (s!"invalid persisted home provider {record.provider} for {record.bucket}/{record.key}: " ++
        error.display))
  | .ok currentHomeProvider => do
    let desiredProfile ← s.desiredEncryptionProfileForExistingObject records.logical record.bucket
      record.key (records.logical.bind (·.logicalContentType))
    if currentHomeProvider = desired.desiredHomeProvider ∧
        records.logical.bind (·.encryptionProfileId) = desiredProfile.map (·.id) then
      return { records with plan := plan }
    else
      let rewritten ← s.rewrittenLogicalRecord record.bucket record.key records.logical sourceSize
        sourceContentType desiredProfile nowUnixMs
      return {
        placement := { record with
          provider := desired.desiredHomeProvider.asStr
          updatedAtUnixMs := nowUnixMs }
        logical := some rewritten
        plan := plan }

/-! ## Section 4: When the rewrite fits -/

/-- The local spool takes an object of the size. -/
def SpoolFits (required : Nat) : Prop :=
  (s.maxSpooledObjectBytes = 0 ∨ required ≤ s.maxSpooledObjectBytes) ∧
    ∃ freeBytes, s.spoolAvailableBytes.or s.spoolFreeBytes = some freeBytes ∧ required ≤ freeBytes

/-- A home that is read and given up. -/
def SourceFits (provider : ProviderId) (currentStoredSize : Nat) : Prop :=
  ∃ backend, s.backends provider = some backend ∧
    (backend.streamingGet = true ∨ currentStoredSize ≤ s.maxInMemoryObjectBytes)

/-- A home that is to be written. -/
def TargetFits (provider : ProviderId) (bucket : String) (desiredStoredSize : Nat) : Prop :=
  ∃ backend, s.backends provider = some backend ∧
    s.ensureProviderWriteAllowedByQuota provider backend bucket desiredStoredSize
      "historical object reconcile target write" = .ok () ∧
    (backend.streamingPut = true ∨ s.SpoolFits desiredStoredSize)

/-- A replica that is to be written. -/
def ReplicaFits (bucket : String) (desiredStoredSize : Nat) (provider : ProviderId) : Prop :=
  ∃ backend, s.backends provider = some backend ∧
    (backend.streamingPut = true ∨ desiredStoredSize ≤ s.maxInMemoryObjectBytes) ∧
    s.ensureProviderWriteAllowedByQuota provider backend bucket desiredStoredSize
      "historical object reconcile replica write" = .ok ()

theorem backendForProvider_eq_ok {provider : ProviderId} {backend : Backend} :
    s.backendForProvider provider = .ok backend ↔ s.backends provider = some backend := by
  unfold backendForProvider
  cases s.backends provider with
  | none => exact iff_of_false (by intro h; cases h) (by intro h; cases h)
  | some other =>
    constructor
    · intro h
      rw [Except.ok.inj h]
    · intro h
      rw [Option.some.inj h]

theorem failureText_eq_nil {result : Except BlobError Unit} :
    failureText result = [] ↔ result = .ok () := by
  cases result with
  | ok value => exact iff_of_true rfl rfl
  | error error => exact iff_of_false (by intro h; cases h) (by intro h; cases h)

theorem ensureProviderCanAcceptReconcileBytes_eq_ok {provider : ProviderId} {bucket : String}
    {addedBytes : Nat} {action : String} :
    s.ensureProviderCanAcceptReconcileBytes provider bucket addedBytes action = .ok () ↔
      ∃ backend, s.backends provider = some backend ∧
        s.ensureProviderWriteAllowedByQuota provider backend bucket addedBytes action = .ok () := by
  unfold ensureProviderCanAcceptReconcileBytes
  rw [except_bind_ok]
  simp only [backendForProvider_eq_ok]

theorem homeBlockedReasons_eq_nil {current desired : ProviderId} {backend : Backend}
    {bucket : String} {currentStoredSize desiredStoredSize : Nat} :
    s.homeBlockedReasons current desired backend bucket currentStoredSize desiredStoredSize = [] ↔
      (backend.streamingGet = true ∨ currentStoredSize ≤ s.maxInMemoryObjectBytes) ∧
        s.ensureProviderCanAcceptReconcileBytes desired bucket desiredStoredSize
          "historical object reconcile target write" = .ok () := by
  unfold homeBlockedReasons
  rw [List.append_eq_nil_iff, failureText_eq_nil]
  refine and_congr_left' ?_
  split
  · rename_i hlarge
    refine iff_of_false (List.cons_ne_nil _ _) ?_
    rintro (hstream | hle)
    · rw [hlarge.1] at hstream
      cases hstream
    · exact absurd hlarge.2 (Nat.not_lt.mpr hle)
  · rename_i hfits
    refine iff_of_true rfl ?_
    by_contra hnot
    rw [not_or, Bool.not_eq_true, Nat.not_le] at hnot
    exact hfits hnot

theorem replicaBlockedReasons_eq_ok_nil {bucket : String} {desiredStoredSize : Nat}
    {provider : ProviderId} :
    s.replicaBlockedReasons bucket desiredStoredSize provider = .ok [] ↔
      s.ReplicaFits bucket desiredStoredSize provider := by
  unfold replicaBlockedReasons ReplicaFits
  rw [except_bind_ok]
  simp only [backendForProvider_eq_ok]
  refine exists_congr (fun backend => and_congr_right (fun hbackend => ?_))
  constructor
  · intro h
    obtain ⟨hsize, htext⟩ := List.append_eq_nil_iff.mp (Except.ok.inj h)
    obtain ⟨other, hother, hquota⟩ := s.ensureProviderCanAcceptReconcileBytes_eq_ok.mp
      (failureText_eq_nil.mp htext)
    rw [hbackend] at hother
    cases hother
    refine ⟨?_, hquota⟩
    by_contra hnot
    rw [not_or, Bool.not_eq_true, Nat.not_le] at hnot
    rw [if_pos hnot] at hsize
    cases hsize
  · rintro ⟨hsize, hquota⟩
    have htext := failureText_eq_nil.mpr
      (s.ensureProviderCanAcceptReconcileBytes_eq_ok.mpr ⟨backend, hbackend, hquota⟩)
    rw [htext, if_neg]
    · rfl
    · rintro ⟨hstream, hlarge⟩
      rcases hsize with hsize | hsize
      · rw [hstream] at hsize
        cases hsize
      · exact absurd hlarge (Nat.not_lt.mpr hsize)

theorem spoolBlockedReasons_eq_nil {required : Nat} :
    s.spoolBlockedReasons required = [] ↔ s.SpoolFits required := by
  unfold spoolBlockedReasons SpoolFits
  rw [List.append_eq_nil_iff]
  refine and_congr ?_ ?_
  · split
    · rename_i hlarge
      refine iff_of_false (List.cons_ne_nil _ _) ?_
      omega
    · exact iff_of_true rfl (by omega)
  · cases s.spoolAvailableBytes.or s.spoolFreeBytes with
    | none =>
      refine iff_of_false (List.cons_ne_nil _ _) ?_
      rintro ⟨_, h, -⟩
      cases h
    | some freeBytes =>
      dsimp only
      split
      · rename_i hlack
        refine iff_of_false (List.cons_ne_nil _ _) ?_
        rintro ⟨_, h, hle⟩
        cases h
        omega
      · rename_i henough
        exact iff_of_true rfl ⟨freeBytes, rfl, by omega⟩

/-- A loop of reasons that finds none. -/
theorem mapM_flatten_nil_iff {reasons : ProviderId → Except BlobError (List String)}
    {providers : List ProviderId} :
    (∃ found, providers.mapM reasons = .ok found ∧ found.flatten = []) ↔
      ∀ provider ∈ providers, reasons provider = .ok [] := by
  induction providers with
  | nil => exact iff_of_true ⟨[], rfl, rfl⟩ (by intro _ h; cases h)
  | cons provider providers ih =>
    rw [List.forall_mem_cons, ← ih, List.mapM_cons]
    constructor
    · rintro ⟨found, hfound, hnil⟩
      obtain ⟨first, hfirst, hrest⟩ := except_bind_ok.mp hfound
      obtain ⟨rest, hmap, heq⟩ := except_bind_ok.mp hrest
      cases heq
      obtain ⟨hempty, hflat⟩ := List.append_eq_nil_iff.mp hnil
      exact ⟨hempty ▸ hfirst, rest, hmap, hflat⟩
    · rintro ⟨hfirst, rest, hmap, hflat⟩
      refine ⟨[] :: rest, ?_, hflat⟩
      rw [hfirst, hmap]
      rfl

/-- The rewrite of an object from one home to another fits everywhere. -/
def RewriteFits (record : ObjectPlacementRecord) (logical : Option LogicalObjectRecord)
    (current desired : ProviderId) (desiredProfile : Option EncryptionProfile)
    (addSyncTargets : List ProviderId) : Prop :=
  ∃ stored desiredStoredSize, logical = some stored ∧
    s.estimateReconcileTargetStoredSize record.bucket record.key logical desiredProfile =
      .ok desiredStoredSize ∧
    s.SourceFits current stored.storedSize ∧
    s.TargetFits desired record.bucket desiredStoredSize ∧
    ∀ provider ∈ addSyncTargets, s.ReplicaFits record.bucket desiredStoredSize provider

section Capacity

variable {s} {record : ObjectPlacementRecord} {logical : Option LogicalObjectRecord}
  {current desired : ProviderId} {desiredProfile : Option EncryptionProfile}
  {addSyncTargets : List ProviderId}

/-- The backend of a home that is written, with what the two checks ask of it. -/
theorem targetFits_iff {backend : Backend} {bucket : String} {desiredStoredSize : Nat}
    (hbackend : s.backends desired = some backend) :
    s.TargetFits desired bucket desiredStoredSize ↔
      s.ensureProviderCanAcceptReconcileBytes desired bucket desiredStoredSize
        "historical object reconcile target write" = .ok () ∧
      (backend.streamingPut = true ∨ s.SpoolFits desiredStoredSize) := by
  rw [ensureProviderCanAcceptReconcileBytes_eq_ok]
  constructor
  · rintro ⟨other, hother, hquota, hstream⟩
    rw [hbackend] at hother
    cases hother
    exact ⟨⟨backend, hbackend, hquota⟩, hstream⟩
  · rintro ⟨⟨other, hother, hquota⟩, hstream⟩
    rw [hbackend] at hother
    cases hother
    exact ⟨backend, hbackend, hquota, hstream⟩

theorem spoolReasons_eq_nil {backend : Backend} {desiredStoredSize : Nat} :
    ((if true && !backend.streamingPut then some desiredStoredSize else none).map
      s.spoolBlockedReasons).getD [] = [] ↔
      backend.streamingPut = true ∨ s.SpoolFits desiredStoredSize := by
  cases hstream : backend.streamingPut with
  | true => exact iff_of_true rfl (Or.inl rfl)
  | false =>
    rw [← spoolBlockedReasons_eq_nil]
    constructor
    · exact fun h => Or.inr h
    · rintro (h | h)
      · cases h
      · exact h

theorem blockedReason_eq_none {reasons : List String} {joined : String} :
    (if reasons.isEmpty then none else some joined) = none ↔ reasons = [] := by
  cases reasons with
  | nil => exact iff_of_true rfl rfl
  | cons reason reasons => exact iff_of_false (by intro h; cases h) (List.cons_ne_nil _ _)

/-- The check of a change of home finds nothing that blocks it exactly when the rewrite fits. -/
theorem reconcileCapacityCheck_unblocked_iff (hcurrent : ProviderId.parse record.provider =
    .ok current) (hne : current ≠ desired) :
    (∃ check, s.reconcileCapacityCheck record logical desired desiredProfile addSyncTargets =
        .ok check ∧ check.blockedReason = none) ↔
      s.RewriteFits record logical current desired desiredProfile addSyncTargets := by
  unfold reconcileCapacityCheck RewriteFits
  rw [hcurrent]
  dsimp only
  rw [decide_eq_true hne, Bool.true_or, Bool.true_or]
  cases logical with
  | none =>
    rw [if_pos ⟨rfl, rfl⟩]
    refine iff_of_false ?_ ?_
    · rintro ⟨check, hcheck, hnone⟩
      cases hcheck
      cases hnone
    · rintro ⟨_, _, hsome, -⟩
      cases hsome
  | some stored =>
    rw [if_neg (by rintro ⟨h, -⟩; cases h)]
    constructor
    · rintro ⟨check, hcheck, hunblocked⟩
      obtain ⟨desiredStoredSize, hsize, hcheck⟩ := except_bind_ok.mp hcheck
      obtain ⟨source, hsource, hcheck⟩ := except_bind_ok.mp hcheck
      obtain ⟨target, htarget, hcheck⟩ := except_bind_ok.mp hcheck
      obtain ⟨replicas, hreplicas, hcheck⟩ := except_bind_ok.mp hcheck
      cases hcheck
      obtain ⟨hleft, hspool⟩ := List.append_eq_nil_iff.mp (blockedReason_eq_none.mp hunblocked)
      obtain ⟨hhome, hflat⟩ := List.append_eq_nil_iff.mp hleft
      obtain ⟨hread, haccept⟩ := s.homeBlockedReasons_eq_nil.mp hhome
      have htarget' := s.backendForProvider_eq_ok.mp htarget
      refine ⟨stored, desiredStoredSize, rfl, hsize,
        ⟨source, s.backendForProvider_eq_ok.mp hsource, hread⟩,
        (targetFits_iff htarget').mpr ⟨haccept, spoolReasons_eq_nil.mp hspool⟩, ?_⟩
      intro provider hprovider
      exact s.replicaBlockedReasons_eq_ok_nil.mp
        (mapM_flatten_nil_iff.mp ⟨replicas, hreplicas, hflat⟩ provider hprovider)
    · rintro ⟨_, desiredStoredSize, heq, hsize, ⟨source, hsource, hread⟩, hfits, hreplicas⟩
      cases heq
      obtain ⟨target, htarget, -⟩ := id hfits
      obtain ⟨haccept, hspool⟩ := (targetFits_iff htarget).mp hfits
      obtain ⟨found, hfound, hflat⟩ := mapM_flatten_nil_iff.mpr (fun provider hprovider =>
        s.replicaBlockedReasons_eq_ok_nil.mpr (hreplicas provider hprovider))
      rw [hsize, s.backendForProvider_eq_ok.mpr hsource, s.backendForProvider_eq_ok.mpr htarget]
      refine ⟨_, except_bind_ok.mpr ⟨desiredStoredSize, rfl, except_bind_ok.mpr ⟨source, rfl,
        except_bind_ok.mpr ⟨target, rfl, except_bind_ok.mpr ⟨found, hfound, rfl⟩⟩⟩⟩, ?_⟩
      refine blockedReason_eq_none.mpr ?_
      rw [List.append_eq_nil_iff, List.append_eq_nil_iff]
      exact ⟨⟨s.homeBlockedReasons_eq_nil.mpr ⟨hread, haccept⟩, hflat⟩,
        spoolReasons_eq_nil.mpr hspool⟩

end Capacity

/-! ## Section 5: What the preview reports -/

/-- The preview offers to move the object away from the provider. -/
def ReportsHomeChange (provider : ProviderId)
    (preview : Except BlobError DesiredObjectReconcilePlan) : Prop :=
  ∃ desired, preview = .ok desired ∧ desired.status = .needsChanges ∧
    desired.desiredHomeProvider ≠ provider

/-- Nothing stands in the way of a rewrite: every policy can be decided, the encryption profile
and the topology that the policies ask for exist, and the rewrite fits. -/
def MoveAllowed (record : ObjectPlacementRecord)
    (currentPlan : Option PersistedObjectProtectionPlan) (logical : Option LogicalObjectRecord)
    (current desired : ProviderId) : Prop :=
  s.reconcilePreviewMissingContextNote record logical = none ∧
    ∃ profile topology,
      s.desiredEncryptionProfileForExistingObject logical record.bucket record.key
        (logical.bind (·.logicalContentType)) = .ok profile ∧
      s.desiredReconcileTopology (matchingContentPolicy s.settings.contentPolicies
        (logical.bind (·.applicationId)) record.bucket record.key
        (logical.bind (·.logicalContentType))) record.bucket record.key = .ok topology ∧
      s.RewriteFits record logical current desired profile (topology.syncTargets.filter
        (fun provider => decide (provider ∉ (currentPlan.map (·.syncTargets)).getD [])))

section Preview

variable {s} {record : ObjectPlacementRecord}
  {currentPlan : Option PersistedObjectProtectionPlan} {logical : Option LogicalObjectRecord}
  {current : ProviderId}

/-- What a preview with context has asked, in its order. -/
theorem preview_eq_ok (hcontext : s.reconcilePreviewMissingContextNote record logical = none)
    {desired : DesiredObjectReconcilePlan}
    (h : s.desiredReconcilePreviewForExistingObject record currentPlan logical = .ok desired) :
    ∃ profile topology capacity,
      s.desiredEncryptionProfileForExistingObject logical record.bucket record.key
        (logical.bind (·.logicalContentType)) = .ok profile ∧
      s.desiredReconcileTopology (matchingContentPolicy s.settings.contentPolicies
        (logical.bind (·.applicationId)) record.bucket record.key
        (logical.bind (·.logicalContentType))) record.bucket record.key = .ok topology ∧
      s.reconcileCapacityCheck record logical (s.firstPlacement record.bucket record.key) profile
        (topology.syncTargets.filter (fun provider =>
          decide (provider ∉ (currentPlan.map (·.syncTargets)).getD []))) = .ok capacity ∧
      desired.desiredHomeProvider = s.firstPlacement record.bucket record.key ∧
      desired.desiredSyncTargets = topology.syncTargets ∧
      desired.desiredEncryptionProfileId = profile.map (·.id) ∧
      desired.status = if capacity.blockedReason.isSome then .blocked else
        reconcileStatusForDesiredChanges record logical
          (s.firstPlacement record.bucket record.key) (profile.map (·.id))
          (topology.syncTargets.filter (fun provider =>
            decide (provider ∉ (currentPlan.map (·.syncTargets)).getD []))).length
          (((currentPlan.map (·.syncTargets)).getD []).filter (fun provider =>
            decide (provider ∉ topology.syncTargets))).length := by
  unfold desiredReconcilePreviewForExistingObject at h
  rw [hcontext] at h
  obtain ⟨profile, hprofile, h⟩ := except_bind_ok.mp h
  obtain ⟨topology, htopology, h⟩ := except_bind_ok.mp h
  obtain ⟨capacity, hcapacity, h⟩ := except_bind_ok.mp h
  rw [s.desiredHome_eq record.bucket record.key] at h hcapacity
  cases h
  exact ⟨profile, topology, capacity, hprofile, htopology, hcapacity, rfl, rfl, rfl, rfl⟩

theorem preview_of_missing_context {note : String}
    (hnote : s.reconcilePreviewMissingContextNote record logical = some note)
    {desired : DesiredObjectReconcilePlan}
    (h : s.desiredReconcilePreviewForExistingObject record currentPlan logical = .ok desired) :
    desired.status = .skipped := by
  unfold desiredReconcilePreviewForExistingObject at h
  rw [hnote] at h
  dsimp only at h
  unfold skippedReconcilePlan at h
  split at h
  · cases h
  · cases h
    rfl

/-- A change of home is a change. -/
theorem reconcileStatus_of_ne (hcurrent : ProviderId.parse record.provider = .ok current)
    {desired : ProviderId} (hne : current ≠ desired) (profileId : Option String)
    (addCount removeCount : Nat) :
    reconcileStatusForDesiredChanges record logical desired profileId addCount removeCount =
      .needsChanges := by
  unfold reconcileStatusForDesiredChanges
  rw [hcurrent]
  dsimp only
  rw [if_neg]
  rintro ⟨-, -, h, -⟩
  rw [decide_eq_true hne] at h
  cases h

/-- **What the preview reports**: it offers to move an object away from its home exactly when
the settings put another provider first and nothing stands in the way of the rewrite. -/
theorem reportsHomeChange_iff (hcurrent : ProviderId.parse record.provider = .ok current) :
    ReportsHomeChange current
        (s.desiredReconcilePreviewForExistingObject record currentPlan logical) ↔
      current ≠ s.firstPlacement record.bucket record.key ∧
        s.MoveAllowed record currentPlan logical current
          (s.firstPlacement record.bucket record.key) := by
  constructor
  · rintro ⟨desired, hpreview, hstatus, hhome⟩
    cases hcontext : s.reconcilePreviewMissingContextNote record logical with
    | some note =>
      rw [preview_of_missing_context hcontext hpreview] at hstatus
      cases hstatus
    | none =>
      obtain ⟨profile, topology, capacity, hprofile, htopology, hcapacity, hdesired, -, -, hfinal⟩ :=
        preview_eq_ok hcontext hpreview
      have hne : current ≠ s.firstPlacement record.bucket record.key := by
        rw [← hdesired]
        exact hhome.symm
      have hunblocked : capacity.blockedReason = none := by
        cases hreason : capacity.blockedReason with
        | none => rfl
        | some reason =>
          rw [hstatus, hreason] at hfinal
          cases hfinal
      exact ⟨hne, hcontext, profile, topology, hprofile, htopology,
        (reconcileCapacityCheck_unblocked_iff hcurrent hne).mp ⟨capacity, hcapacity, hunblocked⟩⟩
  · rintro ⟨hne, hcontext, profile, topology, hprofile, htopology, hfits⟩
    obtain ⟨capacity, hcapacity, hunblocked⟩ :=
      (reconcileCapacityCheck_unblocked_iff hcurrent hne).mpr hfits
    have hpreview : ∃ desired, s.desiredReconcilePreviewForExistingObject record currentPlan
        logical = .ok desired := by
      unfold desiredReconcilePreviewForExistingObject
      rw [hcontext]
      dsimp only
      rw [s.desiredHome_eq record.bucket record.key]
      exact ⟨_, except_bind_ok.mpr ⟨profile, hprofile, except_bind_ok.mpr ⟨topology, htopology,
        except_bind_ok.mpr ⟨capacity, hcapacity, rfl⟩⟩⟩⟩
    obtain ⟨desired, hpreview⟩ := hpreview
    obtain ⟨profile', topology', capacity', hprofile', htopology', hcapacity', hdesired, -, -,
      hfinal⟩ := preview_eq_ok hcontext hpreview
    rw [hprofile] at hprofile'
    cases hprofile'
    rw [htopology] at htopology'
    cases htopology'
    rw [hcapacity] at hcapacity'
    cases hcapacity'
    refine ⟨desired, hpreview, ?_, by rw [hdesired]; exact hne.symm⟩
    rw [hfinal, hunblocked, if_neg (by decide)]
    exact reconcileStatus_of_ne hcurrent hne _ _ _

end Preview

/-! ## Section 6: A second reconcile -/

section Second

variable {s} {records after : ObjectRecords} {desired : DesiredObjectReconcilePlan}
  {profile : Option EncryptionProfile} {sourceSize nowUnixMs : Nat}
  {sourceContentType : Option String}

/-- What an executed reconcile leaves of the object, for the profile that it used. -/
structure Settled (records after : ObjectRecords) (desired : DesiredObjectReconcilePlan)
    (profile : Option EncryptionProfile) : Prop where
  bucket : after.placement.bucket = records.placement.bucket
  key : after.placement.key = records.placement.key
  provider : ProviderId.parse after.placement.provider = .ok desired.desiredHomeProvider
  applicationId : after.logical.bind (·.applicationId) = records.logical.bind (·.applicationId)
  encryptionProfileId : after.logical.bind (·.encryptionProfileId) = profile.map (·.id)
  plaintextSize : (after.logical.map (·.plaintextSize)).getD 0 =
    (records.logical.map (·.plaintextSize)).getD 0
  syncTargets : (after.plan.map (·.syncTargets)).getD [] = desired.desiredSyncTargets

theorem rewrittenLogicalRecord_eq_ok {bucket key : String} {logical rewritten :
    LogicalObjectRecord}
    (h : s.rewrittenLogicalRecord bucket key (some logical) sourceSize sourceContentType profile
      nowUnixMs = .ok rewritten) :
    rewritten.applicationId = logical.applicationId ∧
      rewritten.encryptionProfileId = profile.map (·.id) ∧
      rewritten.plaintextSize = logical.plaintextSize := by
  unfold rewrittenLogicalRecord at h
  cases profile with
  | none =>
    cases h
    exact ⟨rfl, rfl, rfl⟩
  | some profile =>
    dsimp only at h
    split at h
    · cases h
    · rename_i metadata hmetadata
      cases h
      obtain ⟨-, rfl⟩ := plannedMetadata_ok_iff.mp hmetadata
      exact ⟨rfl, rfl, rfl⟩

/-- Executing a reconcile settles the object, when a rewrite has a logical record. -/
theorem settled_of_recordsAfterReconcile {current : ProviderId}
    (hcurrent : ProviderId.parse records.placement.provider = .ok current)
    (hprofile : s.desiredEncryptionProfileForExistingObject records.logical
      records.placement.bucket records.placement.key
      (records.logical.bind (·.logicalContentType)) = .ok profile)
    (hlogical : records.logical = none →
      current = desired.desiredHomeProvider ∧ profile.map (·.id) = none)
    (h : s.recordsAfterReconcile records desired sourceSize sourceContentType nowUnixMs =
      .ok after) : Settled records after desired profile := by
  unfold recordsAfterReconcile at h
  dsimp only at h
  rw [hcurrent] at h
  dsimp only at h
  rw [hprofile] at h
  change (if _ then _ else _) = Except.ok after at h
  split at h
  · rename_i hsame
    cases h
    exact ⟨rfl, rfl, hsame.1 ▸ hcurrent, rfl, hsame.2, rfl, rfl⟩
  · rename_i hchanges
    cases hrecord : records.logical with
    | none =>
      obtain ⟨hhome, hnone⟩ := hlogical hrecord
      exact absurd ⟨hhome, by rw [hrecord, hnone]; rfl⟩ hchanges
    | some logical =>
      obtain ⟨rewritten, hrewritten, h⟩ := except_bind_ok.mp h
      cases h
      rw [hrecord] at hrewritten
      obtain ⟨happlication, hencryption, hsize⟩ := rewrittenLogicalRecord_eq_ok hrewritten
      refine ⟨rfl, rfl, ProviderId.parse_asStr _, ?_, hencryption, ?_, rfl⟩
      · rw [hrecord]
        exact happlication
      · rw [hrecord]
        exact hsize

/-- What a capacity check that blocks nothing has found. -/
theorem reconcileCapacityCheck_eq_ok {record : ObjectPlacementRecord}
    {logical : Option LogicalObjectRecord} {home : ProviderId} {addSyncTargets : List ProviderId}
    {check : ReconcileCapacityCheck}
    (h : s.reconcileCapacityCheck record logical home profile addSyncTargets = .ok check)
    (hunblocked : check.blockedReason = none) :
    ∃ current size, ProviderId.parse record.provider = .ok current ∧
      (logical = none → current = home ∧ profile.map (·.id) = none) ∧
      s.estimateReconcileTargetStoredSize record.bucket record.key logical profile = .ok size ∧
      ∃ backend, s.backendForProvider home = .ok backend := by
  unfold reconcileCapacityCheck at h
  split at h
  · cases h
  rename_i current hcurrent
  dsimp only at h
  split at h
  · cases h
    cases hunblocked
  · rename_i hchanges
    obtain ⟨size, hsize, h⟩ := except_bind_ok.mp h
    obtain ⟨_, -, h⟩ := except_bind_ok.mp h
    obtain ⟨backend, hbackend, -⟩ := except_bind_ok.mp h
    refine ⟨current, size, hcurrent, ?_, hsize, backend, hbackend⟩
    rintro rfl
    by_contra hnot
    apply hchanges
    refine ⟨rfl, ?_⟩
    rw [Bool.or_eq_true, Bool.or_eq_true, decide_eq_true_iff, decide_eq_true_iff]
    by_cases hhome : current = home
    · refine Or.inl (Or.inr ?_)
      intro hnone
      exact hnot ⟨hhome, hnone.symm⟩
    · exact Or.inl (Or.inl hhome)

/-- Where nothing changes, nothing is blocked. -/
theorem reconcileCapacityCheck_of_unchanged {record : ObjectPlacementRecord}
    {logical : Option LogicalObjectRecord} {home : ProviderId} {size : Nat} {backend : Backend}
    (hcurrent : ProviderId.parse record.provider = .ok home)
    (hencryption : logical.bind (·.encryptionProfileId) = profile.map (·.id))
    (hsize : s.estimateReconcileTargetStoredSize record.bucket record.key logical profile =
      .ok size)
    (hbackend : s.backendForProvider home = .ok backend) :
    ∃ check, s.reconcileCapacityCheck record logical home profile [] = .ok check ∧
      check.blockedReason = none := by
  unfold reconcileCapacityCheck
  rw [hcurrent]
  dsimp only
  rw [decide_eq_false (not_not.mpr rfl), decide_eq_false (not_not.mpr hencryption), if_neg]
  · refine ⟨_, except_bind_ok.mpr ⟨size, hsize, except_bind_ok.mpr ⟨backend, hbackend,
      except_bind_ok.mpr ⟨backend, hbackend, except_bind_ok.mpr ⟨[], rfl, rfl⟩⟩⟩⟩, ?_⟩
    rfl
  · rintro ⟨-, h⟩
    cases h

/-- **A second reconcile changes nothing**: after a reconcile was executed and the content type
is what it was, the preview finds no change. -/
theorem preview_after_reconcile
    (hpreview : s.desiredReconcilePreviewForExistingObject records.placement records.plan
      records.logical = .ok desired)
    (hstatus : desired.status = .needsChanges)
    (hafter : s.recordsAfterReconcile records desired sourceSize sourceContentType nowUnixMs =
      .ok after)
    (htype : after.logical.bind (·.logicalContentType) =
      records.logical.bind (·.logicalContentType)) :
    ∃ settled, s.desiredReconcilePreviewForExistingObject after.placement after.plan
        after.logical = .ok settled ∧ settled.status = .noChange := by
  cases hcontext : s.reconcilePreviewMissingContextNote records.placement records.logical with
  | some note =>
    rw [preview_of_missing_context hcontext hpreview] at hstatus
    cases hstatus
  | none =>
    obtain ⟨profile, topology, capacity, hprofile, htopology, hcapacity, hhome, hsync, -, hfinal⟩ :=
      preview_eq_ok hcontext hpreview
    have hunblocked : capacity.blockedReason = none := by
      cases hreason : capacity.blockedReason with
      | none => rfl
      | some reason =>
        rw [hstatus, hreason] at hfinal
        cases hfinal
    obtain ⟨current, size, hcurrent, hlogical, hsize, backend, hbackend⟩ :=
      reconcileCapacityCheck_eq_ok hcapacity hunblocked
    rw [← hhome] at hlogical hbackend
    have hsettled := settled_of_recordsAfterReconcile hcurrent hprofile hlogical hafter
    -- the questions of the second preview are those of the first
    have hcontext' : s.reconcilePreviewMissingContextNote after.placement after.logical = none := by
      unfold reconcilePreviewMissingContextNote at hcontext ⊢
      rw [hsettled.bucket, hsettled.key, hsettled.applicationId, htype]
      exact hcontext
    have hsize' : s.estimateReconcileTargetStoredSize after.placement.bucket after.placement.key
        after.logical profile = .ok size := by
      unfold estimateReconcileTargetStoredSize at hsize ⊢
      rw [hsettled.bucket, hsettled.key, hsettled.plaintextSize, htype]
      exact hsize
    have hprofile' : s.desiredEncryptionProfileForExistingObject after.logical
        records.placement.bucket records.placement.key
        (records.logical.bind (·.logicalContentType)) = .ok profile := by
      unfold desiredEncryptionProfileForExistingObject at hprofile ⊢
      rw [hsettled.applicationId]
      exact hprofile
    obtain ⟨check, hcheck, hopen⟩ := reconcileCapacityCheck_of_unchanged hsettled.provider
      hsettled.encryptionProfileId hsize' hbackend
    have hnone : topology.syncTargets.filter (fun provider =>
        decide (provider ∉ topology.syncTargets)) = [] := by
      rw [List.filter_eq_nil_iff]
      intro provider hprovider
      simpa using hprovider
    unfold desiredReconcilePreviewForExistingObject
    rw [hcontext']
    dsimp only
    rw [hsettled.bucket, hsettled.key, hsettled.applicationId, htype, s.desiredHome_eq, ← hhome,
      hsettled.syncTargets, hsync]
    refine ⟨_, except_bind_ok.mpr ⟨profile, hprofile', except_bind_ok.mpr ⟨topology, htopology,
      except_bind_ok.mpr ⟨check, by rw [hnone]; exact hcheck, rfl⟩⟩⟩, ?_⟩
    dsimp only
    rw [hopen, if_neg (by decide), hnone]
    unfold reconcileStatusForDesiredChanges
    rw [hsettled.provider, hsettled.encryptionProfileId]
    simp

end Second

/-! ## Section 7: Uploads and reconciles -/

/-- **Uploads and reconciles**: where an upload has placed a new object, the preview offers no
other home exactly when the upload took the provider that the settings put first, or when
something stands in the way of the rewrite. A reconcile that was executed and kept the content
type leaves nothing for a second one. -/
theorem placement_agrees_iff (s : PlacementState) :
    (∀ bucket key application contentType size provider backend,
      s.selectHomeWriteProvider (.ok none) bucket key application contentType size =
        .ok (provider, backend) →
      ∀ updatedAtUnixMs currentPlan logical,
        let record : ObjectPlacementRecord := ⟨provider.asStr, bucket, key, updatedAtUnixMs⟩
        ¬ ReportsHomeChange provider
            (s.desiredReconcilePreviewForExistingObject record currentPlan logical) ↔
          s.TakesFirst bucket key application contentType size ∨
            ¬ s.MoveAllowed record currentPlan logical provider (s.firstPlacement bucket key)) ∧
    (∀ records desired sourceSize sourceContentType nowUnixMs after,
      s.desiredReconcilePreviewForExistingObject records.placement records.plan
        records.logical = .ok desired →
      desired.status = .needsChanges →
      s.recordsAfterReconcile records desired sourceSize sourceContentType nowUnixMs =
        .ok after →
      after.logical.bind (·.logicalContentType) = records.logical.bind (·.logicalContentType) →
      ∃ settled, s.desiredReconcilePreviewForExistingObject after.placement after.plan
        after.logical = .ok settled ∧ settled.status = .noChange) := by
  constructor
  · intro bucket key application contentType size provider backend hselect updatedAtUnixMs
      currentPlan logical
    rw [← takesFirst_iff hselect]
    have hreport := @reportsHomeChange_iff s ⟨provider.asStr, bucket, key, updatedAtUnixMs⟩
      currentPlan logical provider (ProviderId.parse_asStr provider)
    exact (not_congr hreport).trans (not_and_or.trans (or_congr_left not_not))
  · intro records desired sourceSize sourceContentType nowUnixMs after
    exact preview_after_reconcile

/-! ### Two applications -/

/-- A backend that streams and takes every object. -/
def sampleBackend : Backend where
  canWrite := true
  streamingGet := true
  streamingPut := true
  health := .ok []

/-- Unicom is the primary provider, and Telecom is a write target beside it. -/
def unicomFirst : PlacementState where
  topology :=
    { primaryProvider := .unicom
      syncTargets := []
      fallbackReadOrder := []
      onedriveEnabled := false
      replicationMode := .asyncBackup }
  writeTargets := [.unicom, .telecom]
  highSpeedProviders := []
  objectPlacementMode := .preferPrimary
  onedriveEnabled := false
  onedrivePolicy := ⟨false, .all, [], [], [], []⟩
  settings := ⟨[], []⟩
  backends := fun provider =>
    if provider = .unicom ∨ provider = .telecom then some sampleBackend else none
  leaseRequiresReauth := fun _ => .ok none
  credentialQuotaPolicy := fun _ _ => .ok none
  sha256 := fun _ => FixedBytes.replicate 32 0
  crypto :=
    { autoRuntimeAlgorithm := .aes256Gcm
      utf8ErrorText := fun _ => ""
      encryptDetached := fun _ _ _ _ _ => none
      decryptDetached := fun _ _ _ _ _ _ => none }
  maxInMemoryObjectBytes := 1024
  maxSpooledObjectBytes := 0
  spoolAvailableBytes := none
  spoolFreeBytes := none

/-- The logical record of a plain upload of three bytes. -/
def uploadedRecord : LogicalObjectRecord where
  bucket := "root"
  key := "hello.txt"
  etag := none
  applicationId := some "camera"
  encrypted := false
  encryptionProfileId := none
  algorithm := none
  keyId := none
  keySourceKind := none
  keySourceRef := none
  chunkPlaintextBytes := none
  plaintextSize := 3
  storedSize := 3
  logicalContentType := some "text/plain"
  updatedAtUnixMs := 1000

/-- An application without affiliation uploads to Unicom, where the preview leaves the object. -/
theorem placement_agrees_iff_primary :
    unicomFirst.selectHomeWriteProvider (.ok none) "root" "hello.txt" (some ⟨"camera", none⟩)
        (some "text/plain") 3 = .ok (.unicom, sampleBackend) ∧
      ¬ ReportsHomeChange .unicom (unicomFirst.desiredReconcilePreviewForExistingObject
        ⟨"unicom", "root", "hello.txt", 1000⟩ none (some uploadedRecord)) := by
  have hselect : unicomFirst.selectHomeWriteProvider (.ok none) "root" "hello.txt"
      (some ⟨"camera", none⟩) (some "text/plain") 3 = .ok (.unicom, sampleBackend) := rfl
  refine ⟨hselect, ((placement_agrees_iff unicomFirst).1 _ _ _ _ _ _ _ hselect 1000 none
    (some uploadedRecord)).mpr (Or.inl ?_)⟩
  refine ⟨⟨Or.inl rfl, ?_⟩, ⟨sampleBackend, rfl, rfl, rfl, rfl⟩, ?_⟩
  · rintro ⟨hstale, -⟩
    cases hstale
  · intro provider hpreferred
    cases hpreferred

/-- An application that is affiliated with Telecom uploads there, and the preview offers to move
its object to Unicom. -/
theorem affiliated_upload_moved :
    ¬ ∀ (s : PlacementState) bucket key application contentType size provider backend,
      s.selectHomeWriteProvider (.ok none) bucket key application contentType size =
        .ok (provider, backend) →
      ∀ updatedAtUnixMs currentPlan logical,
        ¬ ReportsHomeChange provider (s.desiredReconcilePreviewForExistingObject
          ⟨provider.asStr, bucket, key, updatedAtUnixMs⟩ currentPlan logical) := by
  intro hclaim
  refine hclaim unicomFirst "root" "hello.txt" (some ⟨"camera", some "telecom"⟩)
    (some "text/plain") 3 .telecom sampleBackend rfl 1000 none (some uploadedRecord) ?_
  exact ⟨_, rfl, rfl, by decide⟩

end PlacementState

end Netdisk2Blob.Gateway.Placement
