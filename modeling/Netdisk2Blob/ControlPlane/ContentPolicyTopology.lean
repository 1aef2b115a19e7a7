import Netdisk2Blob.ControlPlane.EncryptionSettings

/-!
# Content Policies over the Runtime Topology

A matching content policy replaces the sync targets or the fallback order of the runtime
topology, or both, for one object. The topology and the policies are checked when they are
saved, each without the other.

## Contents

- `applyContentPolicyToTopology`: the topology of one request
- `NormalizedPolicy`, `normalizedPolicy_of_mem`: what saving a policy checks
- `PolicyFits`, `applyContentPolicyToTopology_wellFormed_iff`: for which policies the checked
  constructor accepts the mixture
-/

namespace Netdisk2Blob.ControlPlane

open Library Blob Policy

/-! ## Section 1: The topology of a request -/

/-- The runtime topology with what the policy overrides. -/
def overriddenTopology (topology : TopologyPolicy) (policy : ContentPolicyRule) : TopologyInput where
  primaryProvider := topology.primaryProvider
  syncTargets := if policy.syncTargets ≠ [] then policy.syncTargets else topology.syncTargets
  fallbackReadOrder :=
    if policy.fallbackReadOrder ≠ [] then policy.fallbackReadOrder
    else topology.fallbackReadOrder
  onedriveEnabled := topology.onedriveEnabled
  replicationMode := topology.replicationMode

def applyContentPolicyToTopology (policies : List ContentPolicyRule) (topology : TopologyPolicy)
    (applicationId : Option String) (bucket key : String) (contentType : Option String) :
    Except BlobError TopologyPolicy :=
  match matchingContentPolicy policies applicationId bucket key contentType with
  | none => .ok topology
  | some policy =>
    match TopologyPolicy.fromInput (overriddenTopology topology policy) with
    | .ok effective => .ok effective
    | .error error => .error (.configuration
        (s!"content policy {policy.id} produced invalid topology for {bucket}/{key}: " ++
          error.display))

/-! ## Section 2: What saving the policies checks -/

/-- What is known of the providers of a saved policy. -/
structure NormalizedPolicy (policy : ContentPolicyRule) : Prop where
  targets : ∀ provider ∈ policy.syncTargets, canBeSyncTarget provider = true
  fallback_subset : policy.syncTargets ≠ [] →
    ∀ provider ∈ policy.fallbackReadOrder, provider ∈ policy.syncTargets

theorem normalizedPolicy_of_normalizeContentPolicy {ids : List String}
    {given policy : ContentPolicyRule} (h : normalizeContentPolicy ids given = .ok policy) :
    NormalizedPolicy policy := by
  unfold normalizeContentPolicy at h
  dsimp only at h
  split at h
  · cases h
  split at h
  · cases h
  split at h
  · cases h
  rename_i htargets
  split at h
  · cases h
  rename_i hfallback
  cases h
  constructor
  · intro provider hprovider
    have hnone := List.find?_eq_none.mp htargets provider hprovider
    simpa using hnone
  · intro hne provider hprovider
    have hnone := List.find?_eq_none.mp hfallback provider hprovider
    by_contra hnot
    exact hnone (by simpa using ⟨hne, hnot⟩)

/-- Each entry of a normalized list comes from a round of its loop. -/
theorem exists_of_mem_normalizeDistinct {α β κ : Type} {normalize : List κ → α → Except BlobError β}
    {key : β → κ} {taken : List κ} {entries : List α} {normalized : List β}
    (h : normalizeDistinct normalize key taken entries = .ok normalized) {b : β}
    (hb : b ∈ normalized) : ∃ taken a, normalize taken a = .ok b := by
  have hrounds := forall₂_normalizeDistinct h
  clear h
  induction hrounds with
  | nil => cases hb
  | cons hround _ ih =>
    rcases List.mem_cons.mp hb with rfl | hb
    · exact ⟨_, _, hround.choose_spec⟩
    · exact ih hb

theorem normalizedPolicy_of_mem {given policies : List ContentPolicyRule}
    (h : normalizeContentPolicies given = .ok policies) {policy : ContentPolicyRule}
    (hmem : policy ∈ policies) : NormalizedPolicy policy := by
  obtain ⟨ids, rule, hrule⟩ := exists_of_mem_normalizeDistinct h hmem
  exact normalizedPolicy_of_normalizeContentPolicy hrule

/-! ## Section 3: When the mixture is a topology -/

/-- The policy and the topology go together. -/
structure PolicyFits (topology : TopologyPolicy) (policy : ContentPolicyRule) : Prop where
  /-- own sync targets are none of the primary provider, nor of a disabled OneDrive -/
  targets : ∀ provider ∈ policy.syncTargets, provider ≠ topology.primaryProvider ∧
    (provider = .onedrive → topology.onedriveEnabled = true)
  /-- an inherited fallback order is within the own sync targets -/
  inherited_fallback : policy.syncTargets ≠ [] → policy.fallbackReadOrder = [] →
    ∀ provider ∈ topology.fallbackReadOrder, provider ∈ policy.syncTargets
  /-- an own fallback order is within the inherited sync targets -/
  own_fallback : policy.syncTargets = [] →
    ∀ provider ∈ policy.fallbackReadOrder, provider ∈ topology.syncTargets

section Fits

variable {topology : TopologyPolicy} {policy : ContentPolicyRule}

/-- The sync targets of the mixture are not defaulted to OneDrive. -/
theorem defaultedSyncTargets_overridden (htopology : topology.WellFormed) :
    defaultedSyncTargets topology.onedriveEnabled
        (dedupPreserveOrder (overriddenTopology topology policy).syncTargets) =
      dedupPreserveOrder (overriddenTopology topology policy).syncTargets := by
  unfold defaultedSyncTargets
  rw [if_neg]
  rintro ⟨hempty, henabled⟩
  have hnone : ∀ provider, provider ∉ (overriddenTopology topology policy).syncTargets := by
    intro provider hprovider
    have hin : provider ∈ dedupPreserveOrder (overriddenTopology topology policy).syncTargets :=
      mem_firstOccurrences.mpr hprovider
    rw [List.isEmpty_iff.mp hempty] at hin
    cases hin
  have hnil := List.eq_nil_iff_forall_not_mem.mpr hnone
  simp only [overriddenTopology] at hnil
  split at hnil
  · contradiction
  · exact htopology.onedrive_default henabled hnil

theorem fromInput_overridden_iff (htopology : topology.WellFormed)
    (hpolicy : NormalizedPolicy policy) :
    (∃ effective, TopologyPolicy.fromInput (overriddenTopology topology policy) = .ok effective) ↔
      PolicyFits topology policy := by
  have hmem : ∀ provider, provider ∈ dedupPreserveOrder
      (overriddenTopology topology policy).syncTargets ↔
        provider ∈ (overriddenTopology topology policy).syncTargets :=
    fun _ => mem_firstOccurrences
  have haccepted : (∃ effective,
      TopologyPolicy.fromInput (overriddenTopology topology policy) = .ok effective) ↔
        (∀ provider ∈ (overriddenTopology topology policy).syncTargets,
          canBeSyncTarget provider = true ∧ provider ≠ topology.primaryProvider ∧
            (provider = .onedrive → topology.onedriveEnabled = true)) ∧
        (∀ provider ∈ (overriddenTopology topology policy).fallbackReadOrder,
          provider ≠ topology.primaryProvider ∧
            provider ∈ (overriddenTopology topology policy).syncTargets) := by
    constructor
    · rintro ⟨effective, heffective⟩
      obtain ⟨-, htargets, hfallback, -⟩ := TopologyPolicy.fromInput_eq_ok.mp heffective
      refine ⟨htargets, ?_⟩
      intro provider hprovider
      obtain ⟨hne, hin⟩ := hfallback provider hprovider
      change provider ∈ defaultedSyncTargets topology.onedriveEnabled _ at hin
      rw [defaultedSyncTargets_overridden htopology, hmem] at hin
      exact ⟨hne, hin⟩
    · rintro ⟨htargets, hfallback⟩
      refine ⟨_, TopologyPolicy.fromInput_eq_ok.mpr ⟨htopology.primary, htargets, ?_, rfl⟩⟩
      intro provider hprovider
      obtain ⟨hne, hin⟩ := hfallback provider hprovider
      change _ ∧ provider ∈ defaultedSyncTargets topology.onedriveEnabled _
      rw [defaultedSyncTargets_overridden htopology, hmem]
      exact ⟨hne, hin⟩
  rw [haccepted]
  simp only [overriddenTopology]
  by_cases htargets : policy.syncTargets = []
  · rw [if_neg (not_not.mpr htargets)]
    have hinherited : ∀ provider ∈ topology.syncTargets, canBeSyncTarget provider = true ∧
        provider ≠ topology.primaryProvider ∧
          (provider = .onedrive → topology.onedriveEnabled = true) := by
      intro provider hprovider
      refine ⟨htopology.targets provider hprovider, ?_, ?_⟩
      · rintro rfl
        exact htopology.primary_not_target hprovider
      · rintro rfl
        exact htopology.onedrive hprovider
    constructor
    · rintro ⟨-, hfallback⟩
      refine ⟨?_, fun hne => absurd htargets hne, ?_⟩
      · intro provider hprovider
        rw [htargets] at hprovider
        cases hprovider
      · intro _ provider hprovider
        rw [if_pos (List.ne_nil_of_mem hprovider)] at hfallback
        exact (hfallback provider hprovider).2
    · intro hfits
      refine ⟨hinherited, ?_⟩
      intro provider hprovider
      have hin : provider ∈ topology.syncTargets := by
        split at hprovider
        · exact hfits.own_fallback htargets provider hprovider
        · exact htopology.fallback_subset provider hprovider
      exact ⟨(hinherited provider hin).2.1, hin⟩
  · rw [if_pos htargets]
    constructor
    · rintro ⟨hown, hfallback⟩
      refine ⟨fun provider hprovider => (hown provider hprovider).2, ?_, fun h => absurd h htargets⟩
      intro _ hnone provider hprovider
      rw [if_neg (not_not.mpr hnone)] at hfallback
      exact (hfallback provider hprovider).2
    · intro hfits
      have hown : ∀ provider ∈ policy.syncTargets, canBeSyncTarget provider = true ∧
          provider ≠ topology.primaryProvider ∧
            (provider = .onedrive → topology.onedriveEnabled = true) :=
        fun provider hprovider => ⟨hpolicy.targets provider hprovider,
          hfits.targets provider hprovider⟩
      refine ⟨hown, ?_⟩
      intro provider hprovider
      have hin : provider ∈ policy.syncTargets := by
        split at hprovider
        · exact hpolicy.fallback_subset htargets provider hprovider
        · rename_i hnone
          exact hfits.inherited_fallback htargets (not_not.mp hnone) provider hprovider
      exact ⟨(hown provider hin).2.1, hin⟩

end Fits

/-- **Content policies over the topology**: for a saved topology and saved policies, a request
has a well-formed topology exactly when the policy that matches it goes together with the
runtime topology; and the checked constructor leaves its own results as they are. -/
theorem applyContentPolicyToTopology_wellFormed_iff {input : TopologyInput}
    {topology : TopologyPolicy} (htopology : TopologyPolicy.fromInput input = .ok topology)
    {given policies : List ContentPolicyRule}
    (hpolicies : normalizeContentPolicies given = .ok policies)
    (applicationId : Option String) (bucket key : String) (contentType : Option String) :
    ((∃ effective, applyContentPolicyToTopology policies topology applicationId bucket key
          contentType = .ok effective ∧ effective.WellFormed) ↔
        ∀ policy, matchingContentPolicy policies applicationId bucket key contentType =
          some policy → PolicyFits topology policy) ∧
      TopologyPolicy.fromInput topology.toInput = .ok topology := by
  have hformed := TopologyPolicy.wellFormed_of_fromInput htopology
  refine ⟨?_, TopologyPolicy.fromInput_toInput_iff.mpr hformed⟩
  unfold applyContentPolicyToTopology
  cases hmatch : matchingContentPolicy policies applicationId bucket key contentType with
  | none => exact iff_of_true ⟨topology, rfl, hformed⟩ (fun _ h => nomatch h)
  | some policy =>
    have hpolicy := normalizedPolicy_of_mem hpolicies (List.mem_of_find?_eq_some hmatch)
    have hfits := @fromInput_overridden_iff topology policy hformed hpolicy
    dsimp only
    constructor
    · rintro ⟨effective, heffective, -⟩ policy' heq
      cases heq
      apply hfits.mp
      split at heffective
      · rename_i result hresult
        exact ⟨result, hresult⟩
      · cases heffective
    · intro hall
      obtain ⟨effective, heffective⟩ := hfits.mpr (hall policy rfl)
      refine ⟨effective, ?_, TopologyPolicy.wellFormed_of_fromInput heffective⟩
      rw [heffective]

/-- OneDrive as the sync target and the fallback of a primary provider. -/
def sampleTopologyInput : TopologyInput where
  primaryProvider := .telecom
  syncTargets := [.onedrive]
  fallbackReadOrder := [.onedrive]
  onedriveEnabled := true
  replicationMode := .asyncBackup

/-- A policy for videos, with these providers. -/
def sampleVideoPolicy (syncTargets fallbackReadOrder : List ProviderId) : ContentPolicyRule where
  id := "large-video"
  label := none
  enabled := true
  applicationIds := []
  buckets := []
  prefixes := ["videos"]
  contentTypes := []
  encryptionProfileId := none
  syncTargets := syncTargets
  fallbackReadOrder := fallbackReadOrder

/-- A policy that overrides both lists is applied. -/
theorem both_overridden_applies :
    (∃ effective, applyContentPolicyToTopology [sampleVideoPolicy [.mobile] [.mobile]]
        ⟨.telecom, [.onedrive], [.onedrive], true, .asyncBackup⟩ none "root" "videos/a.mp4" none =
          .ok effective ∧ effective.WellFormed) := by
  have htopology : TopologyPolicy.fromInput sampleTopologyInput =
      .ok ⟨.telecom, [.onedrive], [.onedrive], true, .asyncBackup⟩ := by decide +kernel
  have hpolicies : normalizeContentPolicies [sampleVideoPolicy [.mobile] [.mobile]] =
      .ok [sampleVideoPolicy [.mobile] [.mobile]] := by decide +kernel
  apply (applyContentPolicyToTopology_wellFormed_iff htopology hpolicies none "root"
    "videos/a.mp4" none).1.mpr
  intro policy hmatch
  have hself : matchingContentPolicy [sampleVideoPolicy [.mobile] [.mobile]] none "root"
      "videos/a.mp4" none = some (sampleVideoPolicy [.mobile] [.mobile]) := by decide +kernel
  rw [hself] at hmatch
  cases hmatch
  exact ⟨by decide, fun _ h => absurd h (by decide), fun h => absurd h (by decide)⟩

/-- A policy that overrides the sync targets alone takes the fallback order of the topology,
which is not within them, and every upload of a video fails. -/
theorem inherited_fallback_rejected :
    ∃ topology policies, TopologyPolicy.fromInput sampleTopologyInput = .ok topology ∧
      normalizeContentPolicies [sampleVideoPolicy [.mobile] []] = .ok policies ∧
      applyContentPolicyToTopology policies topology none "root" "videos/a.mp4" none =
        .error (.configuration
          ("content policy large-video produced invalid topology for root/videos/a.mp4: " ++
            "fallback provider must also be configured as a sync target: onedrive")) := by
  refine ⟨⟨.telecom, [.onedrive], [.onedrive], true, .asyncBackup⟩,
    [sampleVideoPolicy [.mobile] []], ?_, ?_, ?_⟩
  · decide +kernel
  · decide +kernel
  · decide +kernel

end Netdisk2Blob.ControlPlane
