import Netdisk2Blob.Library.FirstOccurrences
import Netdisk2Blob.Library.Results
import Netdisk2Blob.Library.Text

/-!
# Replication Topology

The provider identifiers and the topology policy that a request is replicated under:
one primary provider, the sync targets and the fallback read order.

## Contents

- `ProviderId.parse`, `parseProviderList`
- `TopologyPolicy.fromInput`: the checked constructor
- `fromInput_toInput_iff`: the topologies that the constructor leaves as they are are the
  well-formed ones, and `wellFormed_of_fromInput`: it gives no others
-/

namespace Netdisk2Blob.Policy

open Library Text

/-! ## Section 1: Providers -/

inductive ProviderId where
  | stub
  | unicom
  | telecom
  | mobile
  | onedrive
  deriving DecidableEq, Repr

inductive PolicyError where
  | unknownProvider (value : String)
  | invalidPrimaryProvider (provider : String)
  | invalidSyncTarget (provider : String)
  | primaryProviderCannotBeSyncTarget (provider : String)
  | primaryProviderCannotBeFallback (provider : String)
  | fallbackProviderMustBeSyncTarget (provider : String)
  | onedriveDisabledButConfigured
  deriving DecidableEq, Repr

namespace ProviderId

def asStr : ProviderId → String
  | stub => "stub"
  | unicom => "unicom"
  | telecom => "telecom"
  | mobile => "mobile"
  | onedrive => "onedrive"

/-- Every provider, in the order of the enumeration. -/
def all : List ProviderId := [stub, unicom, telecom, mobile, onedrive]

def parse (value : String) : Except PolicyError ProviderId :=
  let normalized := toAsciiLowercase (trim value)
  match all.find? (fun provider => decide (provider.asStr = normalized)) with
  | some provider => .ok provider
  | none => .error (.unknownProvider normalized)

/-- Every provider name parses back to its provider. -/
theorem parse_asStr (provider : ProviderId) : parse provider.asStr = .ok provider := by
  cases provider <;> decide

/-- The names are lowercase words, so splitting at commas and trimming keep them. -/
theorem asStr_word (provider : ProviderId) :
    ',' ∉ provider.asStr.toList ∧ trim provider.asStr = provider.asStr ∧
      provider.asStr.isEmpty = false := by
  cases provider <;> decide

/-- Different providers have different names. -/
theorem asStr_injective : Function.Injective asStr := by
  intro p q h
  cases p <;> cases q <;> first | rfl | exact absurd h (by decide)

end ProviderId

/-- `PolicyError`'s `Display` text. -/
def PolicyError.display : PolicyError → String
  | unknownProvider value => s!"unknown provider: {value}"
  | invalidPrimaryProvider provider => s!"invalid primary provider: {provider}"
  | invalidSyncTarget provider => s!"invalid sync target: {provider}"
  | primaryProviderCannotBeSyncTarget provider =>
    s!"primary provider cannot also be a sync target: {provider}"
  | primaryProviderCannotBeFallback provider =>
    s!"primary provider cannot appear in fallback read order: {provider}"
  | fallbackProviderMustBeSyncTarget provider =>
    s!"fallback provider must also be configured as a sync target: {provider}"
  | onedriveDisabledButConfigured => "onedrive is disabled but configured as a sync target"

def parseProviderList (value : String) : Except PolicyError (List ProviderId) :=
  (((split ',' value).map trim).filter (fun part => !part.isEmpty)).mapM ProviderId.parse

/-- `csv_from_provider_ids` and back. -/
theorem parseProviderList_intercalate (providers : List ProviderId) :
    parseProviderList (String.intercalate "," (providers.map ProviderId.asStr)) =
      .ok providers := by
  have hsplit : ((split ',' (String.intercalate "," (providers.map ProviderId.asStr))).map
      trim).filter (fun part => !part.isEmpty) = providers.map ProviderId.asStr := by
    rcases eq_or_ne providers [] with rfl | hne
    · decide
    · have hcomma : ∀ part ∈ providers.map ProviderId.asStr, ',' ∉ part.toList := by
        intro part hpart
        obtain ⟨provider, -, rfl⟩ := List.mem_map.mp hpart
        exact (ProviderId.asStr_word provider).1
      have hparts := split_intercalate (by simpa using hne) hcomma
      change split ',' (String.intercalate "," _) = _ at hparts
      rw [hparts, List.map_map]
      -- every name is trimmed and not empty
      have htrim : providers.map (trim ∘ ProviderId.asStr) = providers.map ProviderId.asStr :=
        List.map_congr_left (fun provider _ => (ProviderId.asStr_word provider).2.1)
      rw [htrim, List.filter_eq_self]
      intro part hpart
      obtain ⟨provider, -, rfl⟩ := List.mem_map.mp hpart
      simp [(ProviderId.asStr_word provider).2.2]
  rw [parseProviderList, hsplit]
  clear hsplit
  induction providers with
  | nil => rfl
  | cons provider providers ih =>
    rw [List.map_cons, List.mapM_cons, ProviderId.parse_asStr, ih]
    rfl

/-! ## Section 2: Topologies -/

inductive ReplicationMode where
  | asyncBackup
  deriving DecidableEq, Repr

structure TopologyPolicy where
  primaryProvider : ProviderId
  syncTargets : List ProviderId
  fallbackReadOrder : List ProviderId
  onedriveEnabled : Bool
  replicationMode : ReplicationMode
  deriving DecidableEq, Repr

/-- The fallback providers that are sync targets, in fallback order. -/
def sanitizeFallbackOrderForSyncTargets (syncTargets fallbackReadOrder : List ProviderId) :
    List ProviderId :=
  fallbackReadOrder.filter (fun provider => decide (provider ∈ syncTargets))

/-! ## Section 3: The checked constructor -/

def canBePrimary : ProviderId → Bool
  | .stub | .unicom | .telecom | .mobile => true
  | .onedrive => false

def canBeSyncTarget : ProviderId → Bool
  | .unicom | .telecom | .mobile | .onedrive => true
  | .stub => false

structure TopologyInput where
  primaryProvider : ProviderId
  syncTargets : List ProviderId
  fallbackReadOrder : List ProviderId
  onedriveEnabled : Bool
  replicationMode : ReplicationMode
  deriving DecidableEq, Repr

def dedupPreserveOrder (providers : List ProviderId) : List ProviderId :=
  firstOccurrences providers

/-- The checks of one sync target. -/
def checkSyncTarget (input : TopologyInput) (provider : ProviderId) : Except PolicyError Unit :=
  if !canBeSyncTarget provider then .error (.invalidSyncTarget provider.asStr)
  else if provider = input.primaryProvider then
    .error (.primaryProviderCannotBeSyncTarget provider.asStr)
  else if provider = .onedrive ∧ input.onedriveEnabled = false then
    .error .onedriveDisabledButConfigured
  else .ok ()

/-- The checks of one fallback provider. -/
def checkFallbackProvider (input : TopologyInput) (syncTargets : List ProviderId)
    (provider : ProviderId) : Except PolicyError Unit :=
  if provider = input.primaryProvider then
    .error (.primaryProviderCannotBeFallback provider.asStr)
  else if provider ∉ syncTargets then
    .error (.fallbackProviderMustBeSyncTarget provider.asStr)
  else .ok ()

/-- OneDrive is the sync target of an enabled account when no other is given. -/
def defaultedSyncTargets (onedriveEnabled : Bool) (syncTargets : List ProviderId) :
    List ProviderId :=
  if syncTargets.isEmpty ∧ onedriveEnabled = true then syncTargets ++ [.onedrive]
  else syncTargets

namespace TopologyPolicy

def fromInput (input : TopologyInput) : Except PolicyError TopologyPolicy :=
  if !canBePrimary input.primaryProvider then
    .error (.invalidPrimaryProvider input.primaryProvider.asStr)
  else do
    let syncTargets := dedupPreserveOrder input.syncTargets
    let fallbackReadOrder := dedupPreserveOrder input.fallbackReadOrder
    syncTargets.forM (checkSyncTarget input)
    let syncTargets := defaultedSyncTargets input.onedriveEnabled syncTargets
    fallbackReadOrder.forM (checkFallbackProvider input syncTargets)
    return {
      primaryProvider := input.primaryProvider
      syncTargets := syncTargets
      fallbackReadOrder := fallbackReadOrder
      onedriveEnabled := input.onedriveEnabled
      replicationMode := input.replicationMode }

/-- A topology as an input of the constructor. -/
def toInput (topology : TopologyPolicy) : TopologyInput where
  primaryProvider := topology.primaryProvider
  syncTargets := topology.syncTargets
  fallbackReadOrder := topology.fallbackReadOrder
  onedriveEnabled := topology.onedriveEnabled
  replicationMode := topology.replicationMode

/-- What an accepted topology promises. -/
structure WellFormed (topology : TopologyPolicy) : Prop where
  primary : canBePrimary topology.primaryProvider = true
  targets : ∀ provider ∈ topology.syncTargets, canBeSyncTarget provider = true
  nodup_targets : topology.syncTargets.Nodup
  nodup_fallback : topology.fallbackReadOrder.Nodup
  primary_not_target : topology.primaryProvider ∉ topology.syncTargets
  primary_not_fallback : topology.primaryProvider ∉ topology.fallbackReadOrder
  fallback_subset : ∀ provider ∈ topology.fallbackReadOrder, provider ∈ topology.syncTargets
  onedrive : .onedrive ∈ topology.syncTargets → topology.onedriveEnabled = true
  onedrive_default : topology.onedriveEnabled = true → topology.syncTargets ≠ []

end TopologyPolicy

theorem checkSyncTarget_ok_iff {input : TopologyInput} {provider : ProviderId} :
    checkSyncTarget input provider = .ok () ↔
      canBeSyncTarget provider = true ∧ provider ≠ input.primaryProvider ∧
        (provider = .onedrive → input.onedriveEnabled = true) := by
  unfold checkSyncTarget
  split_ifs with htarget hprimary honedrive
  · simpa using fun h => absurd h (by simpa using htarget)
  · simp [hprimary]
  · simp [honedrive]
  · simp only [Bool.not_eq_true, Bool.not_eq_false'] at htarget
    refine iff_of_true rfl ⟨by simpa using htarget, hprimary, ?_⟩
    intro heq
    by_contra hdisabled
    exact honedrive ⟨heq, by simpa using hdisabled⟩

theorem checkFallbackProvider_ok_iff {input : TopologyInput} {syncTargets : List ProviderId}
    {provider : ProviderId} :
    checkFallbackProvider input syncTargets provider = .ok () ↔
      provider ≠ input.primaryProvider ∧ provider ∈ syncTargets := by
  unfold checkFallbackProvider
  split_ifs with hprimary htarget
  · simp [hprimary]
  · exact iff_of_true rfl ⟨hprimary, htarget⟩
  · simp [htarget]

namespace TopologyPolicy

variable {input : TopologyInput} {topology : TopologyPolicy}

theorem fromInput_eq_ok :
    fromInput input = .ok topology ↔
      canBePrimary input.primaryProvider = true ∧
      (∀ provider ∈ input.syncTargets, canBeSyncTarget provider = true ∧
        provider ≠ input.primaryProvider ∧
          (provider = .onedrive → input.onedriveEnabled = true)) ∧
      (∀ provider ∈ input.fallbackReadOrder, provider ≠ input.primaryProvider ∧
        provider ∈ defaultedSyncTargets input.onedriveEnabled
          (dedupPreserveOrder input.syncTargets)) ∧
      topology =
        { primaryProvider := input.primaryProvider
          syncTargets := defaultedSyncTargets input.onedriveEnabled
            (dedupPreserveOrder input.syncTargets)
          fallbackReadOrder := dedupPreserveOrder input.fallbackReadOrder
          onedriveEnabled := input.onedriveEnabled
          replicationMode := input.replicationMode } := by
  unfold fromInput
  split
  · rename_i hprimary
    refine iff_of_false (by simp) ?_
    rintro ⟨h, -⟩
    rw [h] at hprimary
    cases hprimary
  · rename_i hprimary
    simp only [Bool.not_eq_true, Bool.not_eq_false'] at hprimary
    rw [except_bind_ok]
    simp only [except_bind_ok, forM_ok_iff, checkSyncTarget_ok_iff, checkFallbackProvider_ok_iff,
      dedupPreserveOrder, mem_firstOccurrences]
    constructor
    · rintro ⟨_, htargets, _, hfallback, heq⟩
      cases heq
      exact ⟨by simpa using hprimary, htargets, hfallback, rfl⟩
    · rintro ⟨-, htargets, hfallback, rfl⟩
      exact ⟨(), htargets, (), hfallback, rfl⟩

/-- The constructor gives well-formed topologies only. -/
theorem wellFormed_of_fromInput (h : fromInput input = .ok topology) : topology.WellFormed := by
  obtain ⟨hprimary, htargets, hfallback, rfl⟩ := fromInput_eq_ok.mp h
  have hmem : ∀ provider, provider ∈ defaultedSyncTargets input.onedriveEnabled
      (dedupPreserveOrder input.syncTargets) →
        provider ∈ input.syncTargets ∨ (provider = .onedrive ∧ input.onedriveEnabled = true) := by
    intro provider hprovider
    unfold defaultedSyncTargets at hprovider
    split at hprovider
    · rename_i hdefault
      rw [List.mem_append, List.mem_singleton] at hprovider
      rcases hprovider with hprovider | rfl
      · exact Or.inl (mem_firstOccurrences.mp hprovider)
      · exact Or.inr ⟨rfl, hdefault.2⟩
    · exact Or.inl (mem_firstOccurrences.mp hprovider)
  refine ⟨hprimary, ?_, ?_, nodup_firstOccurrences _, ?_, ?_, ?_, ?_, ?_⟩
  · intro provider hprovider
    rcases hmem provider hprovider with hin | ⟨rfl, -⟩
    · exact (htargets provider hin).1
    · rfl
  · unfold defaultedSyncTargets
    split
    · rename_i hdefault
      rw [List.isEmpty_iff.mp hdefault.1]
      exact List.nodup_singleton _
    · exact nodup_firstOccurrences _
  · intro hin
    rcases hmem _ hin with hin | ⟨heq, -⟩
    · exact (htargets _ hin).2.1 rfl
    · change input.primaryProvider = .onedrive at heq
      rw [heq] at hprimary
      cases hprimary
  · intro hin
    exact (hfallback _ (mem_firstOccurrences.mp hin)).1 rfl
  · intro provider hprovider
    exact (hfallback provider (mem_firstOccurrences.mp hprovider)).2
  · intro hin
    rcases hmem _ hin with hin | ⟨-, henabled⟩
    · exact (htargets _ hin).2.2 rfl
    · exact henabled
  · intro henabled hnil
    simp only [defaultedSyncTargets] at hnil henabled
    split at hnil
    · simp at hnil
    · rename_i hdefault
      exact hdefault ⟨by rw [hnil]; rfl, henabled⟩

/-- The well-formed topologies are those that the constructor leaves as they are. -/
theorem fromInput_toInput_iff : fromInput topology.toInput = .ok topology ↔ topology.WellFormed := by
  constructor
  · exact wellFormed_of_fromInput
  · intro h
    have htargets : dedupPreserveOrder topology.syncTargets = topology.syncTargets :=
      firstOccurrences_of_nodup h.nodup_targets
    have hdefault : defaultedSyncTargets topology.onedriveEnabled topology.syncTargets =
        topology.syncTargets := by
      unfold defaultedSyncTargets
      rw [if_neg]
      rintro ⟨hempty, henabled⟩
      exact h.onedrive_default henabled (List.isEmpty_iff.mp hempty)
    apply fromInput_eq_ok.mpr
    simp only [toInput, htargets, hdefault]
    refine ⟨h.primary, ?_, ?_, ?_⟩
    · intro provider hprovider
      refine ⟨h.targets provider hprovider, ?_, ?_⟩
      · rintro rfl
        exact h.primary_not_target hprovider
      · rintro rfl
        exact h.onedrive hprovider
    · intro provider hprovider
      refine ⟨?_, h.fallback_subset provider hprovider⟩
      rintro rfl
      exact h.primary_not_fallback hprovider
    · rw [dedupPreserveOrder, firstOccurrences_of_nodup h.nodup_fallback]

end TopologyPolicy

end Netdisk2Blob.Policy
