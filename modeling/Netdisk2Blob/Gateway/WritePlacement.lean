import Mathlib.Data.List.Rotate
import Netdisk2Blob.ControlPlane.ContentPolicyTopology
import Netdisk2Blob.Gateway.ObjectWrites

/-!
# Write Placement

Where an upload goes. The providers are put in an order by the placement mode, those that
cannot take the object are left out, and the provider that the application prefers is moved to
the front.

## Contents

- `currentWriteTargets`, `placementOrder`, `balanceHighSpeed`: the order
- `ensureProviderWriteAllowedByQuota`: the quota check
- `eligibleWriteCandidatesForObject`, `selectHomeWriteProvider`: the choice
- `firstPlacement`: the provider that the settings put first
- `takesFirst_iff`: when an upload goes there
-/

namespace Netdisk2Blob.Gateway.Placement

open Library Text Blob Policy Metadata ObjectCrypto ControlPlane
open Operations (providerLabel)

/-! ## Section 1: Settings and backends -/

inductive ObjectPlacementMode where
  | preferPrimary
  | preferHighSpeed
  | balanceHighSpeed
  deriving DecidableEq, Repr

inductive OnedriveScopeMode where
  | all
  | selectedOnly
  | memoryOnly
  deriving DecidableEq, Repr

structure OnedrivePolicy where
  replicationEnabled : Bool
  scopeMode : OnedriveScopeMode
  selectedBuckets : List String
  selectedPrefixes : List String
  memoryBuckets : List String
  memoryPrefixes : List String
  deriving DecidableEq, Repr

def OnedrivePolicy.matchesObject (policy : OnedrivePolicy) (bucket key : String) : Bool :=
  match policy.scopeMode with
  | .all => true
  | .selectedOnly =>
    decide (bucket ∈ policy.selectedBuckets) ||
      policy.selectedPrefixes.any (fun pre => (stripPrefix pre key).isSome)
  | .memoryOnly =>
    decide (bucket ∈ policy.memoryBuckets) ||
      policy.memoryPrefixes.any (fun pre => (stripPrefix pre key).isSome)

structure StorageCapacity where
  totalBytes : Option Nat
  usedBytes : Option Nat
  freeBytes : Option Nat
  deriving DecidableEq, Repr

structure StorageScopeHealth where
  label : String
  writable : Bool
  container : Option String
  capacity : Option StorageCapacity
  deriving DecidableEq, Repr

/-- A configured backend: its capabilities, and the scopes of its health report. -/
structure Backend where
  canWrite : Bool
  streamingGet : Bool
  streamingPut : Bool
  health : Except BlobError (List StorageScopeHealth)

structure ProviderQuotaPolicy where
  minFreeBytes : Option Nat
  maxUsedBytes : Option Nat
  minFreeRaw : Option String
  maxUsedRaw : Option String
  deriving DecidableEq, Repr

/-- The application of a request, as far as placement reads it. -/
structure S3ApplicationIdentity where
  applicationId : String
  affiliation : Option String
  deriving DecidableEq, Repr

/-- What placement reads of the gateway. -/
structure PlacementState where
  topology : TopologyPolicy
  /-- as they were saved -/
  writeTargets : List ProviderId
  highSpeedProviders : List ProviderId
  objectPlacementMode : ObjectPlacementMode
  onedriveEnabled : Bool
  onedrivePolicy : OnedrivePolicy
  settings : EncryptionSettings
  backends : ProviderId → Option Backend
  /-- `requires_reauth` of the lease record of a provider -/
  leaseRequiresReauth : ProviderId → Except BlobError (Option Bool)
  /-- the quota limits in the credential record of a provider, for a bucket -/
  credentialQuotaPolicy : ProviderId → String → Except BlobError (Option ProviderQuotaPolicy)
  sha256 : Bytes → FixedBytes 32
  crypto : CryptoRuntime
  maxInMemoryObjectBytes : Nat
  maxSpooledObjectBytes : Nat
  spoolAvailableBytes : Option Nat
  spoolFreeBytes : Option Nat

/-- One row of `topology_provider_catalog`. -/
structure TopologyProviderOption where
  provider : ProviderId
  canBeWriteTarget : Bool
  enabled : Bool
  deriving DecidableEq, Repr

def topologyProviderCatalog (onedriveEnabled : Bool) : List TopologyProviderOption :=
  [ProviderId.unicom, .telecom, .mobile, .onedrive].map fun provider =>
    { provider := provider
      canBeWriteTarget := canBePrimary provider
      enabled := decide (provider ≠ .onedrive) || onedriveEnabled }

def normalizeWriteTargets (providers : List ProviderId) (primaryProvider : ProviderId)
    (onedriveEnabled : Bool) : List ProviderId :=
  let enabled := ((topologyProviderCatalog onedriveEnabled).filter
    (fun entry => entry.enabled && entry.canBeWriteTarget)).map (·.provider)
  let normalized := (dedupeProviderIds providers).filter (fun provider =>
    decide (provider ∈ enabled))
  if normalized.isEmpty ∧ primaryProvider ∈ enabled then normalized ++ [primaryProvider]
  else normalized

namespace PlacementState

variable (s : PlacementState)

def primaryProvider : ProviderId := s.topology.primaryProvider

def currentHighSpeedProviders : List ProviderId := dedupeProviderIds s.highSpeedProviders

def currentWriteTargets : List ProviderId :=
  let normalized := normalizeWriteTargets s.writeTargets s.primaryProvider s.onedriveEnabled
  if normalized.isEmpty then [s.primaryProvider] else normalized

/-- `balanced_targets`, which are also the providers that `preferred` starts with. -/
def highSpeedTargets : List ProviderId :=
  s.currentWriteTargets.filter (fun provider => decide (provider ∈ s.currentHighSpeedProviders))

def backendForProvider (provider : ProviderId) : Except BlobError Backend :=
  match s.backends provider with
  | some backend => .ok backend
  | none => .error (.configuration s!"backend is not configured for provider {provider.asStr}")

/-- A lease record that cannot be read does not make the primary provider stale. -/
def isPrimaryStale : Bool :=
  match s.leaseRequiresReauth s.primaryProvider with
  | .error _ => false
  | .ok requiresReauth => requiresReauth.getD false

def providerQuotaPolicy (provider : ProviderId) (bucket : String) :
    Except BlobError (Option ProviderQuotaPolicy) :=
  if provider = .stub then .ok none else s.credentialQuotaPolicy provider bucket

/-- `provider_allowed_for_replication` of a put. -/
def providerAllowedForReplication (provider : ProviderId) (bucket key : String) :
    Except BlobError Bool :=
  if provider ≠ .onedrive then .ok true
  else .ok (s.onedrivePolicy.replicationEnabled && s.onedrivePolicy.matchesObject bucket key)

/-! ## Section 2: The order of the providers -/

/-- The `match` over the placement mode. The inner loops push what is not there yet. -/
def placementOrder : List ProviderId :=
  match s.objectPlacementMode with
  | .preferPrimary => firstOccurrencesFrom [s.primaryProvider] s.currentWriteTargets
  | .preferHighSpeed | .balanceHighSpeed =>
    let preferred := firstOccurrencesFrom s.highSpeedTargets s.currentWriteTargets
    firstOccurrencesFrom (firstOccurrencesFrom [] preferred) [s.primaryProvider]

def stableObjectPlacementIndex (bucket key : String) (len : Nat) : Nat :=
  if len ≤ 1 then 0
  else
    let digest := s.sha256 (asBytes bucket ++ [0] ++ asBytes key)
    ofBeBytes (digest.slice 0 8 (by decide)).bytes % len

/-- The block for `BalanceHighSpeed`: the high-speed targets, turned, stand in front. -/
def balanceHighSpeed (bucket key : String) (ordered : List ProviderId) : List ProviderId :=
  if s.objectPlacementMode = .balanceHighSpeed ∧ 1 < s.highSpeedTargets.length then
    let pivot := s.stableObjectPlacementIndex bucket key s.highSpeedTargets.length
    firstOccurrencesFrom (firstOccurrencesFrom [] (s.highSpeedTargets.rotate pivot)) ordered
  else ordered

/-- The block that removes a stale primary provider, unless it is the only one. -/
def removeStalePrimary (ordered : List ProviderId) : List ProviderId :=
  if s.isPrimaryStale then
    let remaining := ordered.erase s.primaryProvider
    if remaining.isEmpty then [s.primaryProvider] else remaining
  else ordered

/-- The order of an upload. -/
def writeOrder (bucket key : String) : List ProviderId :=
  s.balanceHighSpeed bucket key (s.removeStalePrimary s.placementOrder)

/-- The order of a reconcile, which does not ask whether the primary provider is stale. -/
def desiredHomeProviderForExistingObject (bucket key : String) : ProviderId :=
  (s.balanceHighSpeed bucket key s.placementOrder).head?.getD s.primaryProvider

end PlacementState

/-! ## Section 3: Quotas -/

def storageScopeForQuota (scopes : List StorageScopeHealth) (bucket : String) :
    Option StorageScopeHealth :=
  let writableScopes := scopes.filter (·.writable)
  (scopes.find? (fun scope => scope.writable && decide (scope.container = some bucket))).or
    ((if writableScopes.length = 1 then writableScopes.head? else none).or
      (if scopes.length = 1 then scopes.head? else none))

def capacityUsedBytes (capacity : StorageCapacity) : Option Nat :=
  capacity.usedBytes.or
    (match capacity.totalBytes, capacity.freeBytes with
    | some total, some free => if free ≤ total then some (total - free) else none
    | _, _ => none)

def capacityFreeBytes (capacity : StorageCapacity) : Option Nat :=
  capacity.freeBytes.or
    (match capacity.totalBytes, capacity.usedBytes with
    | some total, some used => if used ≤ total then some (total - used) else none
    | _, _ => none)

/-- The first half of the checks, with the text for what is missing. -/
def minFreeViolations (blocked : String) (scope : StorageScopeHealth)
    (capacity : StorageCapacity) (policy : ProviderQuotaPolicy) (addedBytes : Nat) :
    Except BlobError (List String) :=
  match policy.minFreeBytes with
  | none => .ok []
  | some minFreeBytes =>
    match capacityFreeBytes capacity with
    | none => .error (.configuration
        (blocked ++ s!" because free capacity is unavailable for scope '{scope.label}'"))
    | some freeBefore =>
      let projectedFree := freeBefore - addedBytes
      if freeBefore < addedBytes ∨ projectedFree < minFreeBytes then
        .ok [s!"projected free {projectedFree} B would fall below min_free " ++
          policy.minFreeRaw.getD "configured threshold" ++
          s!" (current free={freeBefore} B, write={addedBytes} B)"]
      else .ok []

def maxUsedViolations (blocked : String) (scope : StorageScopeHealth)
    (capacity : StorageCapacity) (policy : ProviderQuotaPolicy) (addedBytes : Nat) :
    Except BlobError (List String) :=
  match policy.maxUsedBytes with
  | none => .ok []
  | some maxUsedBytes =>
    match capacityUsedBytes capacity with
    | none => .error (.configuration
        (blocked ++ s!" because used capacity is unavailable for scope '{scope.label}'"))
    | some usedBefore =>
      let projectedUsed := saturatingAddU64 usedBefore addedBytes
      if maxUsedBytes < projectedUsed then
        .ok [s!"projected used {projectedUsed} B would exceed max_used " ++
          policy.maxUsedRaw.getD "configured threshold" ++
          s!" (current used={usedBefore} B, write={addedBytes} B)"]
      else .ok []

namespace PlacementState

variable (s : PlacementState)

def ensureProviderWriteAllowedByQuota (provider : ProviderId) (backend : Backend)
    (bucket : String) (addedBytes : Nat) (action : String) : Except BlobError Unit := do
  match ← s.providerQuotaPolicy provider bucket with
  | none => return ()
  | some policy =>
    let blocked := s!"quota policy blocked {action} to {providerLabel provider} bucket '{bucket}'"
    let scopes ← backend.health.mapError (fun error => .configuration
      (blocked ++ s!" because live capacity could not be refreshed: {error.display}"))
    match storageScopeForQuota scopes bucket with
    | none => .error (.configuration (blocked ++
        " because provider health did not report a matching writable storage scope"))
    | some scope =>
      if !scope.writable then
        .error (.configuration (blocked ++ s!" because scope '{scope.label}' is not writable"))
      else
        match scope.capacity with
        | none => .error (.configuration
            (blocked ++ s!" because live capacity is unavailable for scope '{scope.label}'"))
        | some capacity =>
          let minFree ← minFreeViolations blocked scope capacity policy addedBytes
          let maxUsed ← maxUsedViolations blocked scope capacity policy addedBytes
          let violations := minFree ++ maxUsed
          if violations.isEmpty then return ()
          else .error (.configuration (blocked ++
            s!" on scope '{scope.label}': " ++ String.intercalate "; " violations))

/-! ## Section 4: The choice -/

/-- The loop over the order: `candidates` and `first_quota_error` are what it has so far. -/
def eligibleWriteCandidatesFrom (bucket key : String) (size : Nat) :
    List ProviderId → List (ProviderId × Backend) → Option BlobError →
      Except BlobError (List (ProviderId × Backend) × Option BlobError)
  | [], candidates, firstQuotaError => .ok (candidates, firstQuotaError)
  | provider :: ordered, candidates, firstQuotaError =>
    match s.backendForProvider provider with
    | .error _ => eligibleWriteCandidatesFrom bucket key size ordered candidates firstQuotaError
    | .ok backend =>
      if !backend.canWrite then
        eligibleWriteCandidatesFrom bucket key size ordered candidates firstQuotaError
      else do
        if !(← s.providerAllowedForReplication provider bucket key) then
          eligibleWriteCandidatesFrom bucket key size ordered candidates firstQuotaError
        else
          match s.ensureProviderWriteAllowedByQuota provider backend bucket size "object PUT" with
          | .ok () =>
            eligibleWriteCandidatesFrom bucket key size ordered
              (candidates ++ [(provider, backend)]) firstQuotaError
          | .error error =>
            eligibleWriteCandidatesFrom bucket key size ordered candidates
              (firstQuotaError.or (some error))

def eligibleWriteCandidatesForObject (bucket key : String) (size : Nat) :
    Except BlobError (List (ProviderId × Backend) × Option BlobError) :=
  s.eligibleWriteCandidatesFrom bucket key size (s.writeOrder bucket key) [] none

def preferredAffiliationProviderForApplicationWrite (application : Option S3ApplicationIdentity)
    (bucket key : String) (contentType : Option String) : Option ProviderId :=
  match application with
  | none => none
  | some application =>
    if (matchingContentPolicy s.settings.contentPolicies (some application.applicationId) bucket
        key contentType).isSome then none
    else
      match application.affiliation with
      | none => none
      | some affiliation =>
        match ProviderId.parse affiliation with
        | .error _ => none
        | .ok provider => if canBePrimary provider then some provider else none

/-- `placed_home_provider`, from what the store answers. -/
def placedHomeProvider (placement : Except String (Option ObjectPlacementRecord)) :
    Except BlobError (Option ProviderId) :=
  match placement with
  | .error error => .error (.upstream error)
  | .ok none => .ok none
  | .ok (some record) =>
    match ProviderId.parse record.provider with
    | .error error => .error (.configuration error.display)
    | .ok provider => .ok (some provider)

/-- The candidates with the preferred provider, if it is one of them, in front. -/
def preferProvider (preferred : Option ProviderId) (candidates : List (ProviderId × Backend)) :
    List (ProviderId × Backend) :=
  match preferred with
  | none => candidates
  | some provider =>
    match candidates.findIdx? (fun candidate => decide (candidate.1 = provider)) with
    | none => candidates
    | some index => candidates.rotate index

def selectEligibleProvider (bucket key : String) (application : Option S3ApplicationIdentity)
    (contentType : Option String) (size : Nat) : Except BlobError (ProviderId × Backend) := do
  let (candidates, firstQuotaError) ← s.eligibleWriteCandidatesForObject bucket key size
  let preferred :=
    s.preferredAffiliationProviderForApplicationWrite application bucket key contentType
  match preferProvider preferred candidates with
  | candidate :: _ => return candidate
  | [] => .error (firstQuotaError.getD (.configuration
      s!"no writable provider is currently eligible for {bucket}/{key}"))

def selectHomeWriteProvider (placement : Except String (Option ObjectPlacementRecord))
    (bucket key : String) (application : Option S3ApplicationIdentity)
    (contentType : Option String) (size : Nat) : Except BlobError (ProviderId × Backend) := do
  match ← placedHomeProvider placement with
  | none => s.selectEligibleProvider bucket key application contentType size
  | some provider =>
    let backend ← s.backendForProvider provider
    if backend.canWrite then
      s.ensureProviderWriteAllowedByQuota provider backend bucket size "object PUT"
      return (provider, backend)
    else s.selectEligibleProvider bucket key application contentType size

end PlacementState

/-! ## Section 5: What the settings put first -/

namespace PlacementState

variable (s : PlacementState) (bucket key : String)

/-- More than one high-speed target shares the objects. -/
def Balanced : Prop :=
  s.objectPlacementMode = .balanceHighSpeed ∧ 1 < s.highSpeedTargets.length

instance : Decidable s.Balanced :=
  inferInstanceAs (Decidable (s.objectPlacementMode = .balanceHighSpeed ∧
    1 < s.highSpeedTargets.length))

/-- The primary provider, or the first write target with the high-speed ones before the
others, or the one of several high-speed targets that the name of the object falls on. -/
def firstPlacement : ProviderId :=
  match s.objectPlacementMode with
  | .preferPrimary => s.primaryProvider
  | .preferHighSpeed =>
    (s.highSpeedTargets.head?.or s.currentWriteTargets.head?).getD s.primaryProvider
  | .balanceHighSpeed =>
    if 1 < s.highSpeedTargets.length then
      (s.highSpeedTargets[s.stableObjectPlacementIndex bucket key
        s.highSpeedTargets.length]?).getD s.primaryProvider
    else (s.highSpeedTargets.head?.or s.currentWriteTargets.head?).getD s.primaryProvider

/-- The order of an upload has the provider: a stale primary provider gives way to another
write target, unless it is one of several high-speed targets. -/
def Considered (provider : ProviderId) : Prop :=
  (provider = s.primaryProvider ∨ provider ∈ s.currentWriteTargets) ∧
    ¬ (s.isPrimaryStale = true ∧ provider = s.primaryProvider ∧
      (∃ other ∈ s.currentWriteTargets, other ≠ s.primaryProvider) ∧
      ¬ (s.Balanced ∧ provider ∈ s.highSpeedTargets))

/-- The provider can take the object. -/
def Eligible (size : Nat) (provider : ProviderId) : Prop :=
  ∃ backend, s.backends provider = some backend ∧ backend.canWrite = true ∧
    s.providerAllowedForReplication provider bucket key = .ok true ∧
    s.ensureProviderWriteAllowedByQuota provider backend bucket size "object PUT" = .ok ()

/-- An upload goes to the provider that the settings put first. -/
structure TakesFirst (application : Option S3ApplicationIdentity) (contentType : Option String)
    (size : Nat) : Prop where
  considered : s.Considered (s.firstPlacement bucket key)
  eligible : s.Eligible bucket key size (s.firstPlacement bucket key)
  /-- the application prefers no other provider that could take the object -/
  preferred : ∀ provider,
    s.preferredAffiliationProviderForApplicationWrite application bucket key contentType =
      some provider → s.Considered provider → s.Eligible bucket key size provider →
      provider = s.firstPlacement bucket key

/-! ### The order -/

theorem mem_highSpeedTargets {provider : ProviderId} (h : provider ∈ s.highSpeedTargets) :
    provider ∈ s.currentWriteTargets := (List.mem_filter.mp h).1

theorem mem_placementOrder {provider : ProviderId} :
    provider ∈ s.placementOrder ↔
      provider = s.primaryProvider ∨ provider ∈ s.currentWriteTargets := by
  unfold placementOrder
  split
  · rw [mem_firstOccurrencesFrom, List.mem_singleton]
  all_goals
    simp only [mem_firstOccurrencesFrom, List.mem_singleton, List.not_mem_nil, false_or]
    constructor
    · rintro ((hfast | htarget) | hprimary)
      · exact Or.inr (s.mem_highSpeedTargets hfast)
      · exact Or.inr htarget
      · exact Or.inl hprimary
    · rintro (hprimary | htarget)
      · exact Or.inr hprimary
      · exact Or.inl (Or.inr htarget)

theorem nodup_placementOrder : s.placementOrder.Nodup := by
  unfold placementOrder
  split
  · exact nodup_firstOccurrencesFrom (List.nodup_singleton _)
  all_goals exact nodup_firstOccurrencesFrom (nodup_firstOccurrencesFrom List.nodup_nil)

theorem mem_removeStalePrimary {provider : ProviderId} :
    provider ∈ s.removeStalePrimary s.placementOrder ↔
      (provider = s.primaryProvider ∨ provider ∈ s.currentWriteTargets) ∧
        ¬ (s.isPrimaryStale = true ∧ provider = s.primaryProvider ∧
          ∃ other ∈ s.currentWriteTargets, other ≠ s.primaryProvider) := by
  have hmem : ∀ other, other ∈ s.placementOrder.erase s.primaryProvider ↔
      other ≠ s.primaryProvider ∧ other ∈ s.currentWriteTargets := by
    intro other
    rw [s.nodup_placementOrder.mem_erase_iff, s.mem_placementOrder]
    tauto
  unfold removeStalePrimary
  split
  · rename_i hstale
    dsimp only
    split
    · -- the primary provider is the only one
      rename_i hempty
      have hnone : ∀ other ∈ s.currentWriteTargets, other = s.primaryProvider := by
        intro other hother
        by_contra hne
        have hin := (hmem other).mpr ⟨hne, hother⟩
        rw [List.isEmpty_iff.mp hempty] at hin
        cases hin
      rw [List.mem_singleton]
      constructor
      · rintro rfl
        refine ⟨Or.inl rfl, ?_⟩
        rintro ⟨-, -, other, hother, hne⟩
        exact hne (hnone other hother)
      · rintro ⟨hprimary | htarget, -⟩
        · exact hprimary
        · exact hnone provider htarget
    · rename_i hne
      have hne' : s.placementOrder.erase s.primaryProvider ≠ [] :=
        fun h => hne (List.isEmpty_iff.mpr h)
      obtain ⟨other, hother⟩ := List.exists_mem_of_ne_nil _ hne'
      have hexists : ∃ other ∈ s.currentWriteTargets, other ≠ s.primaryProvider :=
        ⟨other, ((hmem other).mp hother).2, ((hmem other).mp hother).1⟩
      rw [hmem]
      constructor
      · rintro ⟨hne, htarget⟩
        exact ⟨Or.inr htarget, fun h => hne h.2.1⟩
      · rintro ⟨hin, hnot⟩
        have hne : provider ≠ s.primaryProvider := fun h => hnot ⟨hstale, h, hexists⟩
        exact ⟨hne, hin.resolve_left hne⟩
  · rename_i hfresh
    rw [s.mem_placementOrder]
    exact ⟨fun h => ⟨h, fun hnot => hfresh hnot.1⟩, And.left⟩

theorem balanceHighSpeed_of_not (ordered : List ProviderId) (h : ¬ s.Balanced) :
    s.balanceHighSpeed bucket key ordered = ordered := if_neg h

theorem balanceHighSpeed_of (ordered : List ProviderId) (h : s.Balanced) :
    s.balanceHighSpeed bucket key ordered =
      firstOccurrencesFrom (firstOccurrencesFrom [] (s.highSpeedTargets.rotate
        (s.stableObjectPlacementIndex bucket key s.highSpeedTargets.length))) ordered := if_pos h

theorem mem_balanceHighSpeed (ordered : List ProviderId) {provider : ProviderId} :
    provider ∈ s.balanceHighSpeed bucket key ordered ↔
      (s.Balanced ∧ provider ∈ s.highSpeedTargets) ∨ provider ∈ ordered := by
  by_cases hbalanced : s.Balanced
  · rw [s.balanceHighSpeed_of bucket key ordered hbalanced]
    simp [mem_firstOccurrencesFrom, hbalanced]
  · rw [s.balanceHighSpeed_of_not bucket key ordered hbalanced]
    simp [hbalanced]

theorem mem_writeOrder {provider : ProviderId} :
    provider ∈ s.writeOrder bucket key ↔ s.Considered provider := by
  rw [writeOrder, mem_balanceHighSpeed, mem_removeStalePrimary, Considered]
  constructor
  · rintro (⟨hbalanced, hfast⟩ | ⟨hin, hnot⟩)
    · exact ⟨Or.inr (s.mem_highSpeedTargets hfast), fun h => h.2.2.2 ⟨hbalanced, hfast⟩⟩
    · exact ⟨hin, fun h => hnot ⟨h.1, h.2.1, h.2.2.1⟩⟩
  · rintro ⟨hin, hnot⟩
    by_cases hfast : s.Balanced ∧ provider ∈ s.highSpeedTargets
    · exact Or.inl hfast
    · exact Or.inr ⟨hin, fun h => hnot ⟨h.1, h.2.1, h.2.2, hfast⟩⟩

/-! ### Its first provider -/

/-- Without turning, the first high-speed target comes before the first write target. -/
theorem head?_placementOrder (hmode : s.objectPlacementMode ≠ .preferPrimary) :
    s.placementOrder.head? =
      some ((s.highSpeedTargets.head?.or s.currentWriteTargets.head?).getD s.primaryProvider) := by
  unfold placementOrder
  split
  · contradiction
  all_goals
    simp only [head?_firstOccurrencesFrom, List.head?_nil, Option.none_or]
    cases s.highSpeedTargets.head?.or s.currentWriteTargets.head? <;> rfl

/-- The turned high-speed targets start with the pivot. -/
theorem head?_balanceHighSpeed (ordered : List ProviderId) (h : s.Balanced) :
    (s.balanceHighSpeed bucket key ordered).head? = some (s.firstPlacement bucket key) := by
  have hlen : s.stableObjectPlacementIndex bucket key s.highSpeedTargets.length <
      s.highSpeedTargets.length := by
    have hseveral := h.2
    unfold stableObjectPlacementIndex
    rw [if_neg (by omega)]
    exact Nat.mod_lt _ (by omega)
  have hfirst : s.firstPlacement bucket key = s.highSpeedTargets[s.stableObjectPlacementIndex
      bucket key s.highSpeedTargets.length] := by
    unfold firstPlacement
    rw [h.1]
    dsimp only
    rw [if_pos h.2, List.getElem?_eq_getElem hlen]
    rfl
  rw [s.balanceHighSpeed_of bucket key ordered h, head?_firstOccurrencesFrom, head?_firstOccurrencesFrom,
    List.head?_rotate hlen, List.getElem?_eq_getElem hlen, hfirst]
  rfl

theorem head?_placementOrder_of_not (h : ¬ s.Balanced) :
    s.placementOrder.head? = some (s.firstPlacement bucket key) := by
  unfold firstPlacement
  split
  · rename_i hmode
    unfold placementOrder
    rw [hmode]
    dsimp only
    rw [head?_firstOccurrencesFrom]
    rfl
  · rename_i hmode
    apply s.head?_placementOrder
    rw [hmode]
    decide
  · rename_i hmode
    rw [if_neg (fun hlen => h ⟨hmode, hlen⟩)]
    apply s.head?_placementOrder
    rw [hmode]
    decide

/-- The provider that a reconcile desires is the one that the settings put first. -/
theorem desiredHome_eq :
    s.desiredHomeProviderForExistingObject bucket key = s.firstPlacement bucket key := by
  unfold desiredHomeProviderForExistingObject
  by_cases hbalanced : s.Balanced
  · rw [s.head?_balanceHighSpeed bucket key _ hbalanced]
    rfl
  · rw [s.balanceHighSpeed_of_not bucket key _ hbalanced,
      s.head?_placementOrder_of_not bucket key hbalanced]
    rfl

/-- Where the order of an upload has that provider, it starts with it. -/
theorem head?_writeOrder (h : s.Considered (s.firstPlacement bucket key)) :
    (s.writeOrder bucket key).head? = some (s.firstPlacement bucket key) := by
  have hmem := (s.mem_writeOrder bucket key).mpr h
  unfold writeOrder at hmem ⊢
  by_cases hbalanced : s.Balanced
  · exact s.head?_balanceHighSpeed bucket key _ hbalanced
  rw [s.balanceHighSpeed_of_not bucket key _ hbalanced] at hmem ⊢
  have hhead := s.head?_placementOrder_of_not bucket key hbalanced
  have hnodup := s.nodup_placementOrder
  unfold removeStalePrimary at hmem ⊢
  split
  · rename_i hstale
    rw [if_pos hstale] at hmem
    obtain ⟨rest, horder⟩ : ∃ rest, s.placementOrder = s.firstPlacement bucket key :: rest := by
      cases horder : s.placementOrder with
      | nil =>
        rw [horder] at hhead
        cases hhead
      | cons first rest =>
        rw [horder] at hhead
        cases hhead
        exact ⟨rest, rfl⟩
    rw [horder] at hmem hnodup ⊢
    by_cases hprimary : s.firstPlacement bucket key = s.primaryProvider
    · -- it is the stale provider, so it is in the order only when it stands alone
      rw [← hprimary, List.erase_cons_head] at hmem ⊢
      cases rest with
      | nil => rfl
      | cons other rest => exact absurd hmem (List.nodup_cons.mp hnodup).1
    · rw [List.erase_cons_tail (by simpa using hprimary)]
      rfl
  · exact hhead

/-! ## Section 6: The provider of an upload -/

theorem findIdx?_map_fst (candidates : List (ProviderId × Backend)) (provider : ProviderId) :
    candidates.findIdx? (fun candidate => decide (candidate.1 = provider)) =
      (candidates.map Prod.fst).findIdx? (fun name => decide (name = provider)) := by
  rw [List.findIdx?_map]
  rfl

/-- The preferred provider comes first when it is a candidate, else the first candidate does. -/
theorem head?_preferProvider (preferred : Option ProviderId)
    (candidates : List (ProviderId × Backend)) :
    ((preferProvider preferred candidates).map Prod.fst).head? =
      (preferred.filter (fun provider => decide (provider ∈ candidates.map Prod.fst))).or
        (candidates.map Prod.fst).head? := by
  unfold preferProvider
  cases preferred with
  | none => rfl
  | some provider =>
    dsimp only
    rw [findIdx?_map_fst]
    split
    · rename_i hnone
      have hnot : provider ∉ candidates.map Prod.fst := by
        intro hmem
        have := List.findIdx?_eq_none_iff.mp hnone provider hmem
        simp at this
      simp [Option.filter, hnot]
    · rename_i index hsome
      obtain ⟨hlt, hat, -⟩ := List.findIdx?_eq_some_iff_getElem.mp hsome
      have hname : (candidates.map Prod.fst)[index] = provider := by simpa using hat
      have hmem : provider ∈ candidates.map Prod.fst := hname ▸ List.getElem_mem hlt
      rw [List.map_rotate, List.head?_rotate hlt, List.getElem?_eq_getElem hlt, hname]
      simp [Option.filter, hmem]

section Upload

variable (size : Nat)

/-- One round of the loop. -/
theorem eligibleWriteCandidatesFrom_cons (provider : ProviderId) (ordered : List ProviderId)
    (candidates : List (ProviderId × Backend)) (firstQuotaError : Option BlobError) :
    (s.Eligible bucket key size provider ∧ ∃ backend,
        s.eligibleWriteCandidatesFrom bucket key size (provider :: ordered) candidates
            firstQuotaError =
          s.eligibleWriteCandidatesFrom bucket key size ordered
            (candidates ++ [(provider, backend)]) firstQuotaError) ∨
      (¬ s.Eligible bucket key size provider ∧ ∃ error,
        s.eligibleWriteCandidatesFrom bucket key size (provider :: ordered) candidates
            firstQuotaError =
          s.eligibleWriteCandidatesFrom bucket key size ordered candidates error) := by
  rw [eligibleWriteCandidatesFrom]
  unfold backendForProvider
  cases hbackend : s.backends provider with
  | none =>
    refine Or.inr ⟨?_, firstQuotaError, rfl⟩
    rintro ⟨backend, hsome, -⟩
    rw [hbackend] at hsome
    cases hsome
  | some backend =>
    have hsame : ∀ other, s.backends provider = some other → other = backend := by
      intro other hother
      rw [hbackend] at hother
      exact (Option.some.inj hother).symm
    dsimp only
    split
    · rename_i hread
      refine Or.inr ⟨?_, firstQuotaError, rfl⟩
      rintro ⟨other, hother, hwrite, -⟩
      rw [hsame other hother] at hwrite
      simp [hwrite] at hread
    rename_i hwrite
    cases hallowed : s.providerAllowedForReplication provider bucket key with
    | error error =>
      -- the policy of a put is never asked of the store
      unfold providerAllowedForReplication at hallowed
      split at hallowed <;> cases hallowed
    | ok allowed =>
      change _ ∧ (∃ backend', (if !allowed then _ else _) = _) ∨
        _ ∧ (∃ error, (if !allowed then _ else _) = _)
      cases allowed with
      | false =>
        refine Or.inr ⟨?_, firstQuotaError, rfl⟩
        rintro ⟨other, -, -, hother, -⟩
        rw [hallowed] at hother
        cases hother
      | true =>
        rw [if_neg (by decide)]
        cases hquota : s.ensureProviderWriteAllowedByQuota provider backend bucket size
            "object PUT" with
        | ok value =>
          exact Or.inl ⟨⟨backend, hbackend, by simpa using hwrite, hallowed, hquota⟩, backend, rfl⟩
        | error error =>
          refine Or.inr ⟨?_, _, rfl⟩
          rintro ⟨other, hother, -, -, hok⟩
          rw [hsame other hother, hquota] at hok
          cases hok

open Classical in
/-- The loop keeps the eligible providers, in their order. -/
theorem eligibleWriteCandidatesFrom_eq (ordered : List ProviderId)
    (candidates : List (ProviderId × Backend)) (firstQuotaError : Option BlobError) :
    ∃ kept error, s.eligibleWriteCandidatesFrom bucket key size ordered candidates
        firstQuotaError = .ok (candidates ++ kept, error) ∧
      kept.map Prod.fst = ordered.filter (fun provider => s.Eligible bucket key size provider) := by
  induction ordered generalizing candidates firstQuotaError with
  | nil => exact ⟨[], firstQuotaError, by rw [List.append_nil]; rfl, rfl⟩
  | cons provider ordered ih =>
    rcases s.eligibleWriteCandidatesFrom_cons bucket key size provider ordered candidates
      firstQuotaError with ⟨heligible, backend, hround⟩ | ⟨hnot, error, hround⟩
    · obtain ⟨kept, last, hloop, hkept⟩ := ih (candidates ++ [(provider, backend)]) firstQuotaError
      refine ⟨(provider, backend) :: kept, last, ?_, ?_⟩
      · rw [hround, hloop, List.append_assoc, List.singleton_append]
      · rw [List.map_cons, hkept, List.filter_cons_of_pos (by simpa using heligible)]
    · obtain ⟨kept, last, hloop, hkept⟩ := ih candidates error
      refine ⟨kept, last, by rw [hround, hloop], ?_⟩
      rw [hkept, List.filter_cons_of_neg (by simpa using hnot)]

variable {s bucket key size} {application : Option S3ApplicationIdentity}
  {contentType : Option String}

open Classical in
/-- The choice: the preferred provider when it is eligible and in the order, else the first
eligible provider of the order. -/
theorem selectHomeWriteProvider_eq_ok {provider : ProviderId} {backend : Backend}
    (h : s.selectHomeWriteProvider (.ok none) bucket key application contentType size =
      .ok (provider, backend)) :
    ((s.preferredAffiliationProviderForApplicationWrite application bucket key
        contentType).filter (fun preferred => decide (preferred ∈
          (s.writeOrder bucket key).filter (fun p => s.Eligible bucket key size p)))).or
      ((s.writeOrder bucket key).filter (fun p => s.Eligible bucket key size p)).head? =
        some provider := by
  obtain ⟨kept, error, hloop, hkept⟩ := s.eligibleWriteCandidatesFrom_eq bucket key size
    (s.writeOrder bucket key) [] none
  change s.selectEligibleProvider bucket key application contentType size = _ at h
  unfold selectEligibleProvider eligibleWriteCandidatesForObject at h
  rw [hloop] at h
  change (match preferProvider _ kept with
    | candidate :: _ => Except.ok candidate
    | [] => _) = _ at h
  rw [← hkept, ← head?_preferProvider]
  cases hpreferred : preferProvider (s.preferredAffiliationProviderForApplicationWrite application
      bucket key contentType) kept with
  | nil =>
    rw [hpreferred] at h
    cases h
  | cons candidate rest =>
    rw [hpreferred] at h
    cases h
    rfl

/-- **Where an upload goes**: an object that has no home yet goes to the provider that the
settings put first exactly when the order of the upload has that provider, it can take the
object, and the application prefers no other provider that could. -/
theorem takesFirst_iff {provider : ProviderId} {backend : Backend}
    (h : s.selectHomeWriteProvider (.ok none) bucket key application contentType size =
      .ok (provider, backend)) :
    provider = s.firstPlacement bucket key ↔
      s.TakesFirst bucket key application contentType size := by
  classical
  have hchoice := selectHomeWriteProvider_eq_ok h
  have hmem : ∀ p, p ∈ (s.writeOrder bucket key).filter (fun p => s.Eligible bucket key size p) ↔
      s.Considered p ∧ s.Eligible bucket key size p := by
    intro p
    rw [List.mem_filter, mem_writeOrder, decide_eq_true_iff]
  constructor
  · intro hfirst
    have hin : provider ∈ (s.writeOrder bucket key).filter
        (fun p => s.Eligible bucket key size p) := by
      rcases Option.or_eq_some_iff.mp hchoice with hpreferred | ⟨-, hhead⟩
      · exact of_decide_eq_true (Option.filter_eq_some_iff.mp hpreferred).2
      · exact List.mem_of_mem_head? hhead
    obtain ⟨hconsidered, heligible⟩ := (hmem provider).mp hin
    refine ⟨hfirst ▸ hconsidered, hfirst ▸ heligible, ?_⟩
    intro preferred hpreferred hconsidered' heligible'
    have hin' := decide_eq_true ((hmem preferred).mpr ⟨hconsidered', heligible'⟩)
    rw [hpreferred, Option.filter_some, if_pos hin'] at hchoice
    cases hchoice
    exact hfirst
  · rintro ⟨hconsidered, heligible, hpreferred⟩
    rcases Option.or_eq_some_iff.mp hchoice with hfilter | ⟨-, hhead⟩
    · obtain ⟨hname, hin⟩ := Option.filter_eq_some_iff.mp hfilter
      obtain ⟨hconsidered', heligible'⟩ := (hmem provider).mp (of_decide_eq_true hin)
      exact hpreferred provider hname hconsidered' heligible'
    · -- the first of the order is eligible, so it is the first candidate
      have horder := s.head?_writeOrder bucket key hconsidered
      cases hwrite : s.writeOrder bucket key with
      | nil =>
        rw [hwrite] at horder
        cases horder
      | cons first rest =>
        rw [hwrite] at horder hhead
        cases horder
        rw [List.filter_cons_of_pos (by simpa using heligible)] at hhead
        exact (Option.some.inj hhead).symm

end Upload

end PlacementState

end Netdisk2Blob.Gateway.Placement
