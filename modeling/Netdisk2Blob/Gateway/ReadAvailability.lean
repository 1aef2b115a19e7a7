import Netdisk2Blob.Gateway.ObjectRead

/-!
# Availability of Reads

A placed object is at its home, and as a copy at every fallback target whose latest job for
it is a completed put. `resolve_object_read` looks for it at the home, at the primary
provider and at the targets.

## Contents

- `ReadState`: one state of the backends and stores, and `read`, the program run in it
- `Holds`: a fallback target that may be read and has the object
- `FindsCopy`: the object is found when some provider that may be read has it
- `findsCopy_iff`: when that is so
-/

namespace Netdisk2Blob.Gateway

open Library Blob Policy Replication Metadata

/-! ## Section 1: States of the backends and stores -/

/-- What the backends and stores hold, and which requests they fail. -/
structure ReadState where
  config : GatewayConfig
  state : GatewayState
  answers : Request → Answer

namespace ReadState

variable (r : ReadState)

def reply (operation : Request) : operation.Reply :=
  (handle operation (r.answers operation) r.state).1

def read (bucket key : String) : Except BlobError ResolvedObjectRead :=
  (resolveObjectRead r.config bucket key).resultOf r.reply

/-- The requests that read an object get these replies and change nothing. -/
theorem handle_eq_reply {bucket key : String} {operation : Request}
    (h : operation.ReadsObject bucket key) :
    handle operation (r.answers operation) r.state = (r.reply operation, r.state) := by
  refine Prod.ext rfl (handle_isRead ?_)
  cases operation <;> first | exact h.elim | exact trivial

/-- `read` is the run of the program in this state. -/
theorem ends_read (bucket key : String) :
    Program.Ends handle (fun operation answer => answer = r.answers operation)
      (resolveObjectRead r.config bucket key) r.state (r.read bucket key) r.state :=
  Program.ends_resultOf (fun _ => r.handle_eq_reply) issues_resolveObjectRead

/-! ## Section 2: Who has the object -/

/-- What the backend of a provider says about the object. -/
def head (provider : ProviderId) (bucket key : String) : Except BlobError ObjectInfo :=
  r.reply (.headObject provider bucket key)

/-- The provider has a backend, and it finds the object. -/
def Serves (provider : ProviderId) (bucket key : String) : Prop :=
  r.config.configured provider = true ∧ ∃ object, r.head provider bucket key = .ok object

/-- The target may be read for the object, and has it: the policy allows it, its latest job
for the object is a completed put, and its backend finds the object. -/
structure Holds (provider : ProviderId) (bucket key : String) : Prop where
  policy : r.config.providerAllowedForFallbackObject provider bucket key = true
  replicated : ∃ job, r.state.metadataStore.latestJobForObject provider.asStr bucket key =
    some job ∧ job.operation = .put ∧ job.status = .completed
  found : ∃ object, r.head provider bucket key = .ok object

/-- A fallback target that has the object. -/
def HasCopy (provider : ProviderId) (bucket key : String) : Prop :=
  provider ∈ r.config.orderedFallbackBackends ∧ r.Holds provider bucket key

/-- The store can be asked for the latest job of the target, if it is asked at all. -/
def JobKnown (bucket key : String) (provider : ProviderId) : Prop :=
  r.config.providerAllowedForFallbackObject provider bucket key = true →
    (r.answers (.readMetadata .forward
      (.latestJobForObject provider.asStr bucket key))).metadataError = none

/-- A read of an object placed at `home` that finds it wherever it may be read. -/
structure FindsCopy (bucket key : String) (home : ProviderId) : Prop where
  copy : ¬ r.Serves home bucket key → (∃ provider, r.HasCopy provider bucket key) →
    ∃ found, r.read bucket key = .ok found ∧ r.HasCopy found.source.provider bucket key ∧
      r.head found.source.provider bucket key = .ok found.object
  error : ∀ error, r.read bucket key = .error error →
    ¬ r.Serves home bucket key ∧ ∀ provider, ¬ r.HasCopy provider bucket key

/-! ## Section 3: The loop over the targets -/

/-- Some element has `R`, and it and all elements before it have `K`. -/
def ReachedThrough (K R : ProviderId → Prop) (providers : List ProviderId) : Prop :=
  ∃ before provider after, providers = before ++ provider :: after ∧ R provider ∧
    ∀ other ∈ before ++ [provider], K other

theorem not_reachedThrough_nil {K R : ProviderId → Prop} : ¬ ReachedThrough K R [] := by
  rintro ⟨before, provider, after, h, -⟩
  simp at h

theorem reachedThrough_cons {K R : ProviderId → Prop} {provider : ProviderId}
    {providers : List ProviderId} :
    ReachedThrough K R (provider :: providers) ↔
      K provider ∧ (R provider ∨ ReachedThrough K R providers) := by
  constructor
  · rintro ⟨before, reached, after, hsplit, hreached, hknown⟩
    cases before with
    | nil =>
      obtain ⟨rfl, -⟩ := List.cons.inj hsplit
      exact ⟨hknown _ List.mem_cons_self, Or.inl hreached⟩
    | cons first before =>
      obtain ⟨rfl, rfl⟩ := List.cons.inj hsplit
      exact ⟨hknown _ List.mem_cons_self, Or.inr ⟨before, reached, after, rfl, hreached,
        fun other hother => hknown other (List.mem_cons_of_mem _ hother)⟩⟩
  · rintro ⟨hknown, hreached | ⟨before, reached, after, rfl, hreached, hrest⟩⟩
    · exact ⟨[], provider, providers, rfl, hreached, by simpa using hknown⟩
    · exact ⟨provider :: before, reached, after, rfl, hreached,
        List.forall_mem_cons.mpr ⟨hknown, hrest⟩⟩

section Loop

variable {r} {bucket key : String}

theorem resultOf_headObject {provider : ProviderId} :
    (Requests.headObject provider bucket key).resultOf r.reply = r.head provider bucket key := rfl

/-- The latest job as the store tells it. -/
theorem resultOf_latestJob {provider : ProviderId}
    (h : (r.answers (.readMetadata .forward
      (.latestJobForObject provider.asStr bucket key))).metadataError = none) :
    (Requests.latestJobForObject .forward provider.asStr bucket key).resultOf r.reply =
      .ok (r.state.metadataStore.latestJobForObject provider.asStr bucket key) := by
  show (handle _ _ _).1 = _
  rw [handle, h]
  rfl

theorem resultOf_latestJob_fails {provider : ProviderId} {error : String}
    (h : (r.answers (.readMetadata .forward
      (.latestJobForObject provider.asStr bucket key))).metadataError = some error) :
    (Requests.latestJobForObject .forward provider.asStr bucket key).resultOf r.reply =
      .error error := by
  show (handle _ _ _).1 = _
  rw [handle, h]
  rfl

theorem fallbackGateForJob_allowed {job : Option ReplicationJob} :
    fallbackGateForJob job = .allowed ↔
      ∃ latest, job = some latest ∧ latest.operation = .put ∧ latest.status = .completed := by
  cases job with
  | none => simp [fallbackGateForJob]
  | some latest =>
    by_cases h : latest.operation = .put ∧ latest.status = .completed
    · simp [fallbackGateForJob, h]
    · rw [fallbackGateForJob, if_neg h]
      constructor
      · intro hgate
        split at hgate <;> cases hgate
      · rintro ⟨_, hsame, hput⟩
        cases hsame
        exact absurd hput h

/-- The loop finds the object exactly when it reaches a target that has it: the store fails
no question about a target before. -/
theorem fallbacks_ok_iff {providers : List ProviderId} {first : Option BlobError}
    {deleted : Bool} :
    (∃ found, (resolveFromFallbacks r.config bucket key providers first deleted).resultOf r.reply =
        .ok found) ↔
      ReachedThrough (r.JobKnown bucket key) (r.Holds · bucket key) providers := by
  induction providers generalizing first deleted with
  | nil =>
    refine ⟨?_, fun h => absurd h not_reachedThrough_nil⟩
    rintro ⟨found, hfound⟩
    cases hfound
  | cons provider providers ih =>
    rw [reachedThrough_cons]
    by_cases hpolicy : r.config.providerAllowedForFallbackObject provider bucket key = true
    · rw [resolveFromFallbacks, if_pos hpolicy, Program.resultOf_attempt]
      cases hanswer : (r.answers (.readMetadata .forward
          (.latestJobForObject provider.asStr bucket key))).metadataError with
      | some error =>
        -- the store fails, and the loop ends
        rw [resultOf_latestJob_fails hanswer]
        constructor
        · rintro ⟨found, hfound⟩
          cases hfound
        · rintro ⟨hknown, -⟩
          have hnone := hknown hpolicy
          rw [hanswer] at hnone
          cases hnone
      | none =>
        have hknown : r.JobKnown bucket key provider := fun _ => hanswer
        simp only [resultOf_latestJob hanswer]
        by_cases hgate : fallbackGateForJob
            (r.state.metadataStore.latestJobForObject provider.asStr bucket key) = .allowed
        · rw [if_pos hgate, Program.resultOf_bind, resultOf_headObject]
          cases hhead : r.head provider bucket key with
          | ok object =>
            exact ⟨fun _ => ⟨hknown, Or.inl ⟨hpolicy, fallbackGateForJob_allowed.mp hgate,
              object, hhead⟩⟩, fun _ => ⟨_, rfl⟩⟩
          | error error =>
            have hnot : ¬ r.Holds provider bucket key := by
              rintro ⟨-, -, object, hobject⟩
              rw [hhead] at hobject
              cases hobject
            simp only [ih, hknown, hnot, true_and, false_or]
        · have hnot : ¬ r.Holds provider bucket key :=
            fun hholds => hgate (fallbackGateForJob_allowed.mpr hholds.replicated)
          rw [if_neg hgate]
          simp only [ih, hknown, hnot, true_and, false_or]
    · -- blocked by the policy, and never asked for
      have hknown : r.JobKnown bucket key provider := fun hallowed => absurd hallowed hpolicy
      have hnot : ¬ r.Holds provider bucket key := fun hholds => hpolicy hholds.policy
      rw [resolveFromFallbacks, if_neg hpolicy]
      simp only [ih, hknown, hnot, true_and, false_or]

/-- What the loop finds, a target has. -/
theorem fallbacks_found {providers : List ProviderId} {first : Option BlobError}
    {deleted : Bool} {found : ResolvedObjectRead}
    (h : (resolveFromFallbacks r.config bucket key providers first deleted).resultOf r.reply =
      .ok found) :
    found.source.provider ∈ providers ∧ r.Holds found.source.provider bucket key ∧
      r.head found.source.provider bucket key = .ok found.object := by
  induction providers generalizing first deleted with
  | nil => cases h
  | cons provider providers ih =>
    have hrest : ∀ {first deleted},
        (resolveFromFallbacks r.config bucket key providers first deleted).resultOf r.reply =
          .ok found →
        found.source.provider ∈ provider :: providers ∧ r.Holds found.source.provider bucket key ∧
          r.head found.source.provider bucket key = .ok found.object :=
      fun hfound => ⟨List.mem_cons_of_mem _ (ih hfound).1, (ih hfound).2⟩
    rw [resolveFromFallbacks] at h
    split at h
    · rename_i hpolicy
      rw [Program.resultOf_attempt] at h
      cases hanswer : (r.answers (.readMetadata .forward
          (.latestJobForObject provider.asStr bucket key))).metadataError with
      | some error =>
        rw [resultOf_latestJob_fails hanswer] at h
        cases h
      | none =>
        simp only [resultOf_latestJob hanswer] at h
        split at h
        · rename_i hgate
          rw [Program.resultOf_bind, resultOf_headObject] at h
          cases hhead : r.head provider bucket key with
          | ok object =>
            rw [hhead] at h
            cases h
            exact ⟨List.mem_cons_self, ⟨hpolicy, fallbackGateForJob_allowed.mp hgate, object,
              hhead⟩, hhead⟩
          | error error =>
            rw [hhead] at h
            exact hrest h
        · exact hrest h
    · exact hrest h

end Loop

/-! ## Section 4: Home, primary, targets -/

/-- The home has a backend, and it does not find the object. -/
def LacksObject (provider : ProviderId) (bucket key : String) : Prop :=
  r.config.configured provider = true ∧
    ∃ message, r.head provider bucket key = .error (.notFound message)

/-- The store can be asked where the object is. -/
def PlacementKnown (bucket key : String) : Prop :=
  (r.answers (.readMetadata .forward (.objectPlacement bucket key))).metadataError = none

/-- The object is placed at this provider. -/
def PlacedAt (home : ProviderId) (bucket key : String) : Prop :=
  ∃ record, r.state.metadataStore.objectPlacement bucket key = some record ∧
    ProviderId.parse record.provider = .ok home

section Order

variable {r} {bucket key : String} {home : ProviderId}

theorem placedHomeProvider_fails {error : String}
    (h : (r.answers (.readMetadata .forward (.objectPlacement bucket key))).metadataError =
      some error) :
    r.read bucket key = .error (.upstream error) := by
  have hplacement : (Requests.objectPlacement .forward bucket key).resultOf r.reply =
      .error error := by
    show (handle _ _ _).1 = _
    rw [handle, h]
    rfl
  rw [read, resolveObjectRead, Program.resultOf_attempt, placedHomeProvider,
    Program.resultOf_attempt, placedHomeProviderRecord, Program.resultOf_attempt, hplacement]
  rfl

/-- The read of a placed object, when the store tells where it is placed. -/
theorem read_eq (hknown : r.PlacementKnown bucket key) (hplaced : r.PlacedAt home bucket key) :
    r.read bucket key =
      match r.config.backendForProvider home with
      | .error error => .error error
      | .ok home =>
        match r.head home bucket key with
        | .ok object => .ok { source := { provider := home, fallbackFrom := none }, object := object }
        | .error (.notFound _) => (resolveWithoutHome r.config bucket key).resultOf r.reply
        | .error error => .error error := by
  obtain ⟨record, hrecord, hparse⟩ := hplaced
  have hplacement : (Requests.objectPlacement .forward bucket key).resultOf r.reply =
      .ok (some record) := by
    show (handle _ _ _).1 = _
    rw [handle, hknown, ← hrecord]
    rfl
  have hhome : (placedHomeProvider bucket key).resultOf r.reply = .ok (some home) := by
    rw [placedHomeProvider, Program.resultOf_attempt, placedHomeProviderRecord,
      Program.resultOf_attempt, hplacement]
    simp [hparse]
  rw [read, resolveObjectRead, Program.resultOf_attempt, hhome]
  dsimp only
  cases r.config.backendForProvider home with
  | error error => rfl
  | ok backend =>
    dsimp only
    rw [Program.resultOf_bind, resultOf_headObject]
    cases r.head backend bucket key with
    | ok object => rfl
    | error error => cases error <;> rfl

theorem backendForProvider_configured {provider : ProviderId}
    (h : r.config.configured provider = true) :
    r.config.backendForProvider provider = .ok provider := by
  rw [GatewayConfig.backendForProvider, if_pos h]

/-- The home answers first. -/
theorem read_of_serves (hknown : r.PlacementKnown bucket key) (hplaced : r.PlacedAt home bucket key)
    (hserves : r.Serves home bucket key) : ∃ found, r.read bucket key = .ok found := by
  obtain ⟨hconfigured, object, hobject⟩ := hserves
  rw [read_eq hknown hplaced, backendForProvider_configured hconfigured]
  simp only [hobject]
  exact ⟨_, rfl⟩

/-- Only a home that does not find the object lets the read go on. -/
theorem read_of_lacks (hknown : r.PlacementKnown bucket key) (hplaced : r.PlacedAt home bucket key)
    (hlacks : r.LacksObject home bucket key) :
    r.read bucket key = (resolveWithoutHome r.config bucket key).resultOf r.reply := by
  obtain ⟨hconfigured, message, hmessage⟩ := hlacks
  rw [read_eq hknown hplaced, backendForProvider_configured hconfigured]
  simp only [hmessage]

/-- Any other failure of the home, and a home without a backend, ends the read. -/
theorem read_of_failing_home (hknown : r.PlacementKnown bucket key)
    (hplaced : r.PlacedAt home bucket key) (hserves : ¬ r.Serves home bucket key)
    (hlacks : ¬ r.LacksObject home bucket key) : ∃ error, r.read bucket key = .error error := by
  rw [read_eq hknown hplaced]
  by_cases hconfigured : r.config.configured home = true
  · rw [backendForProvider_configured hconfigured]
    cases hhead : r.head home bucket key with
    | ok object => exact absurd ⟨hconfigured, object, hhead⟩ hserves
    | error error =>
      refine ⟨error, ?_⟩
      simp only [hhead]
      cases error with
      | notFound message => exact absurd ⟨hconfigured, message, hhead⟩ hlacks
      | _ => rfl
  · rw [GatewayConfig.backendForProvider, if_neg hconfigured]
    exact ⟨_, rfl⟩

/-- Without the home, the primary provider answers, or the first target that is reached. -/
theorem withoutHome_cases (r : ReadState) (bucket key : String) :
    (∃ object, r.Serves r.config.topology.primaryProvider bucket key ∧
      r.head r.config.topology.primaryProvider bucket key = .ok object ∧
      (resolveWithoutHome r.config bucket key).resultOf r.reply = .ok
        { source := { provider := r.config.topology.primaryProvider, fallbackFrom := none }
          object := object }) ∨
    (r.config.configured r.config.topology.primaryProvider = true ∧
      ¬ r.Serves r.config.topology.primaryProvider bucket key ∧
      ∃ first, (resolveWithoutHome r.config bucket key).resultOf r.reply =
        (resolveFromFallbacks r.config bucket key r.config.orderedFallbackBackends first
          false).resultOf r.reply) ∨
    (r.config.configured r.config.topology.primaryProvider ≠ true ∧
      ∃ error, (resolveWithoutHome r.config bucket key).resultOf r.reply = .error error) := by
  by_cases hconfigured : r.config.configured r.config.topology.primaryProvider = true
  · rw [resolveWithoutHome, backendForProvider_configured hconfigured]
    dsimp only
    rw [Program.resultOf_bind, resultOf_headObject]
    cases hhead : r.head r.config.topology.primaryProvider bucket key with
    | ok object => exact Or.inl ⟨object, ⟨hconfigured, object, hhead⟩, rfl, rfl⟩
    | error error =>
      refine Or.inr (Or.inl ⟨hconfigured, ?_, _, rfl⟩)
      rintro ⟨-, object, hobject⟩
      rw [hhead] at hobject
      cases hobject
  · refine Or.inr (Or.inr ⟨hconfigured, ?_⟩)
    rw [resolveWithoutHome, GatewayConfig.backendForProvider, if_neg hconfigured]
    exact ⟨_, rfl⟩

end Order

/-! ## Section 5: When the copy is found -/

/-- The read finds the object where nothing that may be read has it, where the home has it,
and where the home does not have it and the way to a target that has it is free: the primary
provider is such a target, or does not find the object, and the store fails no question up to
that target. -/
def CopyInReach (bucket key : String) (home : ProviderId) : Prop :=
  (¬ r.Serves home bucket key ∧ ∀ provider, ¬ r.HasCopy provider bucket key) ∨
    r.PlacementKnown bucket key ∧
      (r.Serves home bucket key ∨
        r.LacksObject home bucket key ∧
          (r.HasCopy r.config.topology.primaryProvider bucket key ∨
            r.config.configured r.config.topology.primaryProvider = true ∧
              ¬ r.Serves r.config.topology.primaryProvider bucket key ∧
              ReachedThrough (r.JobKnown bucket key) (r.Holds · bucket key)
                r.config.orderedFallbackBackends))

section Main

variable {r} {bucket key : String} {home : ProviderId}

theorem HasCopy.serves {provider : ProviderId} (h : r.HasCopy provider bucket key) :
    r.Serves provider bucket key := by
  have hmem := (List.mem_filter.mp h.1).2
  rw [Bool.and_eq_true] at hmem
  exact ⟨hmem.2, h.2.found⟩

theorem LacksObject.not_serves (h : r.LacksObject home bucket key) :
    ¬ r.Serves home bucket key := by
  obtain ⟨-, message, hmessage⟩ := h
  rintro ⟨-, object, hobject⟩
  rw [hmessage] at hobject
  cases hobject

theorem copyInReach_of_findsCopy (hplaced : r.PlacedAt home bucket key)
    (h : r.FindsCopy bucket key home) : r.CopyInReach bucket key home := by
  by_cases hnone : ¬ r.Serves home bucket key ∧ ∀ provider, ¬ r.HasCopy provider bucket key
  · exact Or.inl hnone
  right
  -- some provider has the object, so the read does not fail
  have hread : ∀ error, r.read bucket key ≠ .error error :=
    fun error herror => hnone (h.error error herror)
  have hknown : r.PlacementKnown bucket key := by
    cases hanswer : (r.answers (.readMetadata .forward
        (.objectPlacement bucket key))).metadataError with
    | none => exact hanswer
    | some error => exact absurd (placedHomeProvider_fails hanswer) (hread _)
  refine ⟨hknown, ?_⟩
  by_cases hserves : r.Serves home bucket key
  · exact Or.inl hserves
  right
  have hlacks : r.LacksObject home bucket key := by
    by_contra hlacks
    obtain ⟨error, herror⟩ := read_of_failing_home hknown hplaced hserves hlacks
    exact hread error herror
  have hcopy : ∃ provider, r.HasCopy provider bucket key := by
    by_contra hno
    exact hnone ⟨hserves, not_exists.mp hno⟩
  obtain ⟨found, hfound, hhas, -⟩ := h.copy hserves hcopy
  refine ⟨hlacks, ?_⟩
  have hrest := read_of_lacks hknown hplaced hlacks
  rcases withoutHome_cases r bucket key with
    ⟨object, -, -, hprimary⟩ | ⟨hconfigured, hnot, first, hloop⟩ | ⟨-, error, herror⟩
  · -- the primary answered, and is a target that has the object
    left
    obtain rfl := Except.ok.inj ((hfound.symm.trans hrest).trans hprimary)
    exact hhas
  · exact Or.inr ⟨hconfigured, hnot,
      fallbacks_ok_iff.mp ⟨found, hloop.symm.trans (hrest.symm.trans hfound)⟩⟩
  · exact absurd (hrest.trans herror) (hread error)

theorem findsCopy_of_ok (hok : ∃ found, r.read bucket key = .ok found ∧
      r.HasCopy found.source.provider bucket key ∧
      r.head found.source.provider bucket key = .ok found.object) :
    r.FindsCopy bucket key home := by
  refine ⟨fun _ _ => hok, ?_⟩
  intro error herror
  obtain ⟨found, hfound, -⟩ := hok
  rw [hfound] at herror
  cases herror

theorem findsCopy_of_copyInReach (hplaced : r.PlacedAt home bucket key)
    (h : r.CopyInReach bucket key home) : r.FindsCopy bucket key home := by
  rcases h with hnone | ⟨hknown, hserves | ⟨hlacks, hway⟩⟩
  · exact ⟨fun _ ⟨provider, hprovider⟩ => absurd hprovider (hnone.2 provider), fun _ _ => hnone⟩
  · refine ⟨fun hnot => absurd hserves hnot, ?_⟩
    intro error herror
    obtain ⟨found, hfound⟩ := read_of_serves hknown hplaced hserves
    rw [hfound] at herror
    cases herror
  · have hrest := read_of_lacks hknown hplaced hlacks
    apply findsCopy_of_ok
    rcases withoutHome_cases r bucket key with
      ⟨object, hserves, hobject, hprimary⟩ | ⟨-, hnot, first, hloop⟩ | ⟨hmissing, -⟩
    · rcases hway with hhas | ⟨-, hnot, -⟩
      · exact ⟨_, hrest.trans hprimary, hhas, hobject⟩
      · exact absurd hserves hnot
    · rcases hway with hhas | ⟨-, -, hreached⟩
      · exact absurd hhas.serves hnot
      · obtain ⟨found, hfound⟩ := fallbacks_ok_iff.mpr hreached
        obtain ⟨hmem, hholds, hobject⟩ := fallbacks_found hfound
        exact ⟨found, (hrest.trans hloop).trans hfound, ⟨hmem, hholds⟩, hobject⟩
    · rcases hway with hhas | ⟨hconfigured, -⟩
      · exact absurd hhas.serves.1 hmissing
      · exact absurd hconfigured hmissing

end Main

/-! ## Section 6: A home that fails -/

/-- The primary provider is the home, and OneDrive mirrors it. -/
def mirroredConfig : GatewayConfig where
  topology :=
    { primaryProvider := .unicom
      syncTargets := [.onedrive]
      fallbackReadOrder := [.onedrive]
      onedriveEnabled := true
      replicationMode := .asyncBackup }
  configured := fun _ => true
  canWrite := fun _ => true
  streamingPut := fun _ => true
  streamingGet := fun _ => true
  maxInMemoryObjectBytes := 1024
  onedriveMatchesObject := fun _ _ => true
  decryptDownload := fun _ stored => .ok stored
  sha256Hex := id
  httpLastModified := id

def completedPut : ReplicationJob where
  jobId := 1
  target := "onedrive"
  sourceProvider := some "unicom"
  operation := .put
  object :=
    { bucket := "bucket-a"
      key := "hello.txt"
      etag := some "etag-1"
      size := some 1
      contentType := some "text/plain" }
  status := .completed
  attempts := 1
  enqueuedAtUnixMs := 20
  nextAttemptAtUnixMs := none
  lastError := none

/-- An object placed at Unicom whose copy at OneDrive is complete; Unicom answers `home`. -/
def mirrored (home : Answer) : ReadState where
  config := mirroredConfig
  state :=
    { metadataStore :=
        ((MetadataStore.openFresh {}).upsertObjectPlacement "unicom" "bucket-a" "hello.txt"
          10).enqueueJobs [completedPut]
      replication := ReplicationEngine.withRecentLimit 8
      objects := fun provider bucket key =>
        if provider = .onedrive ∧ bucket = "bucket-a" ∧ key = "hello.txt" then
          some ⟨[1], some "text/plain", some "etag-1", none⟩
        else none
      logRecords := [] }
  answers := fun operation =>
    if operation = .headObject .unicom "bucket-a" "hello.txt" then home else .done

theorem mirrored_placed (home : Answer) : (mirrored home).PlacedAt .unicom "bucket-a" "hello.txt" :=
  ⟨⟨"unicom", "bucket-a", "hello.txt", 10⟩, rfl, rfl⟩

theorem mirrored_hasCopy (home : Answer) :
    (mirrored home).HasCopy .onedrive "bucket-a" "hello.txt" :=
  ⟨List.mem_singleton.mpr rfl, rfl, ⟨completedPut, rfl, rfl, rfl⟩, _, rfl⟩

end ReadState

end Netdisk2Blob.Gateway
