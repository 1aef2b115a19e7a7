import Netdisk2Blob.Gateway.WorkerInvariants

/-!
# Replication Safety

When nothing of an object is in flight and its latest job is completed, the target holds
what that job says. The check that a job is current is made before the source is read and
the target is written, so an older job that passed it can still reach the target after a
newer one; `stepGuard` is the condition that this does no harm.

## Contents

- `HomeTracked`, `TargetTracked`: what versions are at home and what the target holds,
  each with its step lemma
- `safe_of_invariant`: the invariant gives the safety property
- `always_replicationSafe`: safety over every guarded run
-/

namespace Netdisk2Blob.Gateway

open Library Metadata Policy Replication

namespace System

/-! ## Section 1: The property and the guard -/

/-- No step of any job for the object is in flight: no worker holds such a job, and no
client has such a job on the queue that is not persisted. -/
def Quiet (s : System) (triple : String × String × String) : Prop :=
  (∀ worker job, (s.workers worker).job? = some job → job.triple ≠ triple) ∧
    (∀ worker job, (s.workers worker).unsaved? = some job → job.triple ≠ triple) ∧
      ∀ client, ∀ job ∈ (s.clients client).unpersisted, job.triple ≠ triple

/-- If the latest job of a quiet object is completed, the target holds the object exactly
when that job is a put, and then a home version no older than the one it was enqueued for. -/
def ReplicationSafe (s : System) : Prop :=
  ∀ target bucket key job,
    s.store.latestJobForObject target bucket key = some job → job.status = .completed →
      s.Quiet (target, bucket, key) →
        ((s.targets (target, bucket, key)).isSome = true ↔ job.operation = .put) ∧
          ∀ version, s.targets (target, bucket, key) = some version →
            ((bucket, key), version) ∈ s.homeWrites ∧
              ∃ c ∈ s.created, c.1.jobId = job.jobId ∧ c.2 ≤ version

/-- The newest job of its object that has reached the target. -/
def NewestEffect (s : System) (job : ReplicationJob) : Prop :=
  job ∈ s.effects ∧ ∀ other ∈ s.effects, other.triple = job.triple → other.jobId ≤ job.jobId

/-- A worker writes or deletes at the target after a newer job of the object only if both
do the same and the version it read is no older than the newer job's. -/
def stepGuard (s : System) : Action → Prop
  | .performAtTarget worker _ =>
    ∀ job newest, (s.workers worker).job? = some job → s.NewestEffect newest →
      newest.triple = job.triple → job.jobId < newest.jobId →
        job.operation = newest.operation ∧
          ∀ version, s.workers worker = .sourceRead job version →
            ∀ c ∈ s.created, c.1.jobId = newest.jobId → c.2 ≤ version
  | _ => True

/-! ## Section 2: Versions at home -/

/-- A version that was written at home for the object of the job, no older than the one the
job was enqueued for. -/
def ReadFor (s : System) (job : ReplicationJob) (version : Nat) : Prop :=
  ((job.object.bucket, job.object.key), version) ∈ s.homeWrites ∧
    ∀ c ∈ s.created, c.1.jobId = job.jobId → c.2 ≤ version

structure HomeTracked (s : System) : Prop where
  createdVersion : ∀ c ∈ s.created, c.2 < s.nextVersion
  clientVersion : ∀ client operation bucket key version jobs,
    s.clients client = .homeChanged operation bucket key version jobs →
      version < s.nextVersion ∧ ∀ held, s.home (bucket, key) = some held → version ≤ held
  floor : ∀ c ∈ s.created, ∀ held,
    s.home (c.1.object.bucket, c.1.object.key) = some held → c.2 ≤ held
  written : ∀ object held, s.home object = some held → (object, held) ∈ s.homeWrites
  source : ∀ worker job version, s.workers worker = .sourceRead job version →
    job.operation = .put ∧ s.ReadFor job version

theorem HomeTracked.setWorker {s : System} (h : s.HomeTracked) {worker : Nat}
    {phase : WorkerPhase}
    (hphase : ∀ job version, phase = .sourceRead job version →
      job.operation = .put ∧ s.ReadFor job version) :
    (s.setWorker worker phase).HomeTracked :=
  { h with
    source := (Function.forall_update_iff s.workers
      (fun _ phase => ∀ job version, phase = .sourceRead job version →
        job.operation = .put ∧ s.ReadFor job version)).mpr ⟨hphase, fun w _ => h.source w⟩ }

theorem HomeTracked.setClient {s : System} (h : s.HomeTracked) {client : Nat}
    {phase : ClientPhase}
    (hphase : ∀ operation bucket key version jobs,
      phase = .homeChanged operation bucket key version jobs →
        version < s.nextVersion ∧ ∀ held, s.home (bucket, key) = some held → version ≤ held) :
    (s.setClient client phase).HomeTracked :=
  { h with
    clientVersion := (Function.forall_update_iff s.clients
      (fun _ phase => ∀ operation bucket key version jobs,
        phase = .homeChanged operation bucket key version jobs →
          version < s.nextVersion ∧
            ∀ held, s.home (bucket, key) = some held → version ≤ held)).mpr
              ⟨hphase, fun c _ => h.clientVersion c⟩ }

/-- A change at home takes a version above all that were used. -/
theorem HomeTracked.writeHome {s : System} (h : s.HomeTracked)
    (operation : ReplicationOperation) (bucket key : String) :
    (s.writeHome operation bucket key).HomeTracked ∧
      ∀ held, (s.writeHome operation bucket key).home (bucket, key) = some held →
        s.nextVersion ≤ held := by
  have hat : ∀ held, (s.writeHome operation bucket key).home (bucket, key) = some held →
      s.nextVersion = held := by
    intro held hheld
    simp only [System.writeHome, Function.update_self] at hheld
    cases operation with
    | put => exact Option.some.inj hheld
    | delete => exact absurd hheld (by simp)
  have hother : ∀ object, object ≠ (bucket, key) →
      (s.writeHome operation bucket key).home object = s.home object :=
    fun object hne => Function.update_of_ne hne _ _
  have hgrow : ∀ w ∈ s.homeWrites, w ∈ (s.writeHome operation bucket key).homeWrites := by
    intro w hw
    cases operation with
    | put => exact List.mem_cons_of_mem _ hw
    | delete => exact hw
  -- a version below the counter is below whatever home holds afterwards
  have hfloor : ∀ object version, version < s.nextVersion →
      (∀ held, s.home object = some held → version ≤ held) →
        ∀ held, (s.writeHome operation bucket key).home object = some held →
          version ≤ held := by
    intro object version hlt hold held hheld
    by_cases hobject : object = (bucket, key)
    · subst hobject
      have := hat held hheld
      omega
    · exact hold held (hother object hobject ▸ hheld)
  refine ⟨?_, fun held hheld => (hat held hheld).le⟩
  exact
    { createdVersion := fun c hc => Nat.lt_succ_of_lt (h.createdVersion c hc)
      clientVersion := by
        intro client op b k version jobs hclient
        obtain ⟨hlt, hold⟩ := h.clientVersion client op b k version jobs hclient
        exact ⟨Nat.lt_succ_of_lt hlt, hfloor (b, k) version hlt hold⟩
      floor := fun c hc => hfloor _ c.2 (h.createdVersion c hc) (h.floor c hc)
      written := by
        intro object held hheld
        by_cases hobject : object = (bucket, key)
        · subst hobject
          obtain rfl := hat held hheld
          cases operation with
          | put => exact List.mem_cons_self
          | delete => simp [System.writeHome] at hheld
        · exact hgrow _ (h.written object held (hother object hobject ▸ hheld))
      source := by
        intro worker job version hworker
        obtain ⟨hput, hmem, hle⟩ := h.source worker job version hworker
        exact ⟨hput, hgrow _ hmem, hle⟩ }

/-- New jobs have new ids, so what was read for an old job is still good. -/
theorem readFor_pushJobs {config : Config} {s : System} (hknown : s.JobsKnown)
    {version held : Nat} {topology : TopologyPolicy} {operation : ReplicationOperation}
    {object : ReplicationObjectRef} {now : Nat} {job : ReplicationJob} (hjob : s.Known job)
    (h : s.ReadFor job held) :
    (s.pushJobs version (s.engine.enqueueJobs topology (some config.homeProvider) operation
      object now)).ReadFor job held := by
  refine ⟨h.1, ?_⟩
  intro c hc hid
  rcases List.mem_append.mp hc with hc | hc
  · exact h.2 c hc hid
  · obtain ⟨new, hnew, rfl⟩ := List.mem_map.mp hc
    have habove := (ReplicationEngine.enqueueJobs_jobId_mem hnew).1
    have hbelow := hknown.jobId_lt hjob
    change new.jobId = job.jobId at hid
    omega

theorem HomeTracked.step {config : Config} {s s' : System} {action : Action}
    (hknown : s.JobsKnown) (h : s.HomeTracked) (hstep : StepTo config s action s') :
    s'.HomeTracked := by
  cases hstep with
  | changeHome hclient =>
    rename_i client operation bucket key
    obtain ⟨hwritten, hheld⟩ := h.writeHome operation bucket key
    apply hwritten.setClient
    rintro _ _ _ _ _ ⟨⟩
    exact ⟨Nat.lt_succ_self _, hheld⟩
  | enqueue hclient hobject =>
    rename_i client operation bucket key version jobs topology enqueuedOperation object now
    obtain ⟨hlt, hheld⟩ := h.clientVersion _ _ _ _ _ _ hclient
    obtain ⟨rfl, rfl⟩ := hobject
    have hpushed : (s.pushJobs version (s.engine.enqueueJobs topology
        (some config.homeProvider) enqueuedOperation object now)).HomeTracked :=
      { h with
        createdVersion := by
          intro c hc
          rcases List.mem_append.mp hc with hc | hc
          · exact h.createdVersion c hc
          · obtain ⟨job, -, rfl⟩ := List.mem_map.mp hc
            exact hlt
        floor := by
          intro c hc
          rcases List.mem_append.mp hc with hc | hc
          · exact h.floor c hc
          · -- a new job is about the object the client changed
            obtain ⟨job, hjob, rfl⟩ := List.mem_map.mp hc
            have hobject : job.object = object :=
              (ReplicationEngine.mem_createJobs hjob).2.2.2.1
            intro held hhome
            rw [hobject] at hhome
            exact hheld held hhome
        source := by
          intro worker job held hworker
          have hjob : s.Known job :=
            hknown.workers worker job (congrArg WorkerPhase.job? hworker)
          obtain ⟨hput, hread⟩ := h.source worker job held hworker
          exact ⟨hput, readFor_pushJobs hknown hjob hread⟩ }
    apply hpushed.setClient
    rintro _ _ _ _ _ ⟨⟩
    exact ⟨hlt, hheld⟩
  | persistJobs hclient =>
    rename_i client operation bucket key version jobs
    have hstored : System.HomeTracked { s with store := s.store.enqueueJobs jobs } :=
      { h with }
    exact hstored.setClient (by simp)
  | popped hworker hpop =>
    rename_i worker now job engine'
    have hpopped : System.HomeTracked { s with engine := engine' } := { h with }
    exact hpopped.setWorker (by simp)
  | nothingReady hworker => exact h
  | current hworker hcurrent => exact h.setWorker (by simp)
  | sourceRead hworker hput hhome =>
    rename_i worker job version
    apply h.setWorker
    rintro _ _ ⟨⟩
    refine ⟨hput, h.written _ _ hhome, ?_⟩
    intro c hc hid
    -- the created job with this id is about the same object
    obtain ⟨d, hd, hdid, hspec⟩ :=
      hknown.workers worker job (congrArg WorkerPhase.job? hworker)
    obtain rfl := hknown.unique c hc d hd (hid.trans hdid.symm)
    refine h.floor c hc version ?_
    rw [ReplicationJob.object_eq_of_spec_eq hspec]
    exact hhome
  | failed hworker => exact h.setWorker (by simp)
  | put hworker =>
    rename_i worker answer job version
    have hperformed : (s.performAtTarget job (some version)).HomeTracked := { h with }
    exact hperformed.setWorker (by cases answer <;> simp [WorkerPhase.afterAnswer])
  | delete hworker hdelete =>
    rename_i worker answer job
    have hperformed : (s.performAtTarget job none).HomeTracked := { h with }
    exact hperformed.setWorker (by cases answer <;> simp [WorkerPhase.afterAnswer])
  | completed hworker hmark =>
    rename_i worker job store'
    have hcompleted : (s.complete job store').HomeTracked := { h with }
    exact hcompleted.setWorker (by simp)
  | retryPushed hworker =>
    rename_i worker now job error
    have hpushed : System.HomeTracked { s with
        engine := s.engine.scheduleRetry (retryJob config.retryPolicy job error now) } :=
      { h with }
    exact hpushed.setWorker (by simp)
  | retrySaved hworker =>
    rename_i worker job
    have hsaved : System.HomeTracked { s with store := s.store.saveJob job } := { h with }
    exact hsaved.setWorker (by simp)
  | deadLettered hworker hmark =>
    rename_i worker now job error store'
    have hgivenUp : (s.giveUp job error store').HomeTracked := { h with }
    exact hgivenUp.setWorker (by simp)

/-! ## Section 3: What the target holds -/

/-- The target holds what the job says. -/
def Holds (s : System) (job : ReplicationJob) : Prop :=
  (job.operation = .put → ∃ version, s.targets job.triple = some version ∧
    s.ReadFor job version) ∧
  (job.operation = .delete → s.targets job.triple = none)

/-- For every object the target holds what the newest job that reached it says. -/
def TargetTracked (s : System) : Prop :=
  ∀ newest, s.NewestEffect newest → s.Holds newest

/-- A write or delete at the target, guarded, keeps the newest job in force. -/
theorem TargetTracked.performAtTarget {s : System} (hknown : s.JobsKnown)
    (h : s.TargetTracked) {job : ReplicationJob} {content : Option Nat} (hjob : s.Known job)
    (hput : job.operation = .put → ∃ version, content = some version ∧ s.ReadFor job version)
    (hdelete : job.operation = .delete → content = none)
    (hguard : ∀ newest, s.NewestEffect newest → newest.triple = job.triple →
      job.jobId < newest.jobId → job.operation = newest.operation ∧
        ∀ version, content = some version →
          ∀ c ∈ s.created, c.1.jobId = newest.jobId → c.2 ≤ version) :
    (s.performAtTarget job content).TargetTracked := by
  rintro newest ⟨hmem, hmax⟩
  by_cases htriple : newest.triple = job.triple
  · have hat : (s.performAtTarget job content).targets newest.triple = content := by
      rw [htriple]
      exact Function.update_self _ _ _
    have hle : job.jobId ≤ newest.jobId :=
      hmax job (List.mem_append_right _ (List.mem_singleton_self job)) htriple.symm
    have hobject : (newest.object.bucket, newest.object.key) =
        (job.object.bucket, job.object.key) := congrArg Prod.snd htriple
    rcases Nat.eq_or_lt_of_le hle with heq | hlt
    · -- the newest job is this one, perhaps in an earlier attempt
      have hnewest : s.Known newest := (List.mem_append.mp hmem).elim (hknown.effects newest)
        (fun hlast => List.mem_singleton.mp hlast ▸ hjob)
      have hspec : newest.spec = job.spec := hknown.spec_eq hnewest hjob heq.symm
      have hoperation := ReplicationJob.operation_eq_of_spec_eq hspec
      refine ⟨?_, ?_⟩
      · intro hnewput
        obtain ⟨version, rfl, hread⟩ := hput (hoperation ▸ hnewput)
        refine ⟨version, hat, ?_, ?_⟩
        · rw [hobject]
          exact hread.1
        · rw [← heq]
          exact hread.2
      · intro hnewdelete
        rw [hat]
        exact hdelete (hoperation ▸ hnewdelete)
    · -- a newer job has been there: the guard keeps it in force
      have hold : newest ∈ s.effects := by
        rcases List.mem_append.mp hmem with hold | hlast
        · exact hold
        · obtain rfl := List.mem_singleton.mp hlast
          exact absurd hlt (lt_irrefl _)
      have hnewest : s.NewestEffect newest :=
        ⟨hold, fun other hother => hmax other (List.mem_append_left _ hother)⟩
      obtain ⟨hoperation, hversion⟩ := hguard newest hnewest htriple hlt
      refine ⟨?_, ?_⟩
      · intro hnewput
        obtain ⟨version, rfl, hread⟩ := hput (hoperation.trans hnewput)
        refine ⟨version, hat, ?_, hversion version rfl⟩
        rw [hobject]
        exact hread.1
      · intro hnewdelete
        rw [hat]
        exact hdelete (hoperation.trans hnewdelete)
  · -- another object
    have hold : newest ∈ s.effects := by
      rcases List.mem_append.mp hmem with hold | hlast
      · exact hold
      · exact absurd (congrArg ReplicationJob.triple (List.mem_singleton.mp hlast)) htriple
    have hnewest : s.NewestEffect newest :=
      ⟨hold, fun other hother => hmax other (List.mem_append_left _ hother)⟩
    have hat : (s.performAtTarget job content).targets newest.triple =
        s.targets newest.triple := Function.update_of_ne htriple _ _
    obtain ⟨hnewput, hnewdelete⟩ := h newest hnewest
    refine ⟨?_, ?_⟩
    · intro hop
      rw [hat]
      exact hnewput hop
    · intro hop
      rw [hat]
      exact hnewdelete hop

theorem TargetTracked.step {config : Config} {s s' : System} {action : Action}
    (hknown : s.JobsKnown) (hhome : s.HomeTracked) (h : s.TargetTracked)
    (hguard : s.stepGuard action) (hstep : StepTo config s action s') : s'.TargetTracked := by
  cases hstep with
  | changeHome hclient =>
    rename_i client operation bucket key
    intro newest hnewest
    obtain ⟨hput, hdelete⟩ := h newest hnewest
    refine ⟨?_, hdelete⟩
    intro hop
    obtain ⟨version, hat, hmem, hle⟩ := hput hop
    refine ⟨version, hat, ?_, hle⟩
    -- home writes are only added
    cases operation with
    | put => exact List.mem_cons_of_mem _ hmem
    | delete => exact hmem
  | enqueue hclient hobject =>
    intro newest hnewest
    obtain ⟨hput, hdelete⟩ := h newest hnewest
    refine ⟨?_, hdelete⟩
    intro hop
    obtain ⟨version, hat, hread⟩ := hput hop
    exact ⟨version, hat, readFor_pushJobs hknown (hknown.effects newest hnewest.1) hread⟩
  | persistJobs hclient => exact h
  | popped hworker hpop => exact h
  | nothingReady hworker => exact h
  | current hworker hcurrent => exact h
  | sourceRead hworker hput hhome => exact h
  | failed hworker => exact h
  | put hworker =>
    rename_i worker answer job version
    have hheld : (s.workers worker).job? = some job := congrArg WorkerPhase.job? hworker
    obtain ⟨hput, hread⟩ := hhome.source worker job version hworker
    refine TargetTracked.performAtTarget hknown h (hknown.workers worker job hheld)
      (fun _ => ⟨version, rfl, hread⟩) ?_ ?_
    · intro hdelete
      exact absurd (hput.symm.trans hdelete) (by decide)
    · intro newest hnewest htriple hlt
      obtain ⟨hoperation, hversion⟩ := hguard job newest hheld hnewest htriple hlt
      refine ⟨hoperation, ?_⟩
      rintro _ ⟨⟩
      exact hversion version hworker
  | delete hworker hdelete =>
    rename_i worker answer job
    have hheld : (s.workers worker).job? = some job := congrArg WorkerPhase.job? hworker
    refine TargetTracked.performAtTarget hknown h (hknown.workers worker job hheld) ?_
      (fun _ => rfl) ?_
    · intro hput
      exact absurd (hdelete.symm.trans hput) (by decide)
    · intro newest hnewest htriple hlt
      exact ⟨(hguard job newest hheld hnewest htriple hlt).1, by simp⟩
  | completed hworker hmark => exact h
  | retryPushed hworker => exact h
  | retrySaved hworker => exact h
  | deadLettered hworker hmark => exact h

/-! ## Section 4: Runs -/

structure Invariant (s : System) : Prop where
  jobsKnown : s.JobsKnown
  homeTracked : s.HomeTracked
  targetTracked : s.TargetTracked
  storeTracked : s.StoreTracked

theorem invariant_initial (retention : MetadataRetentionPolicy) (recentLimit : Nat)
    (targets : String × String × String → Option Nat) :
    (initial retention recentLimit targets).Invariant where
  jobsKnown := jobsKnown_initial retention recentLimit targets
  homeTracked :=
    { createdVersion := by simp [initial]
      clientVersion := by simp [initial]
      floor := by simp [initial]
      written := by simp [initial]
      source := by simp [initial] }
  targetTracked := fun newest hnewest => absurd hnewest.1 List.not_mem_nil
  storeTracked := storeTracked_initial retention recentLimit targets

theorem invariant_step {config : Config} {s s' : System} {action : Action}
    (h : s.Invariant) (hguard : s.stepGuard action) (hstep : Gateway.step config s action = some s') :
    s'.Invariant := by
  have hto := stepTo_of_step hstep
  exact
    { jobsKnown := h.jobsKnown.step hto
      homeTracked := h.homeTracked.step h.jobsKnown hto
      targetTracked := h.targetTracked.step h.jobsKnown h.homeTracked hguard hto
      storeTracked := h.storeTracked.step h.jobsKnown hto }

/-- The latest job of a quiet object, once completed, is the newest that reached the
target. -/
theorem newestEffect_of_completed {s : System} (h : s.Invariant) {target bucket key : String}
    {job : ReplicationJob}
    (hlatest : s.store.latestJobForObject target bucket key = some job)
    (hstatus : job.status = .completed) (hquiet : s.Quiet (target, bucket, key)) :
    ∃ newest, s.NewestEffect newest ∧ newest.jobId = job.jobId ∧ newest.spec = job.spec := by
  obtain ⟨hrow, htriple, hmax⟩ := Table.latest_eq_some.mp hlatest
  have htriple' : job.triple = (target, bucket, key) := by simpa using htriple
  obtain ⟨effect, heffect, hid⟩ := h.storeTracked.completed job hrow hstatus
  have hspec : effect.spec = job.spec :=
    h.jobsKnown.spec_eq (h.jobsKnown.effects effect heffect) (h.jobsKnown.rows job hrow) hid
  refine ⟨effect, ⟨heffect, ?_⟩, hid, hspec⟩
  intro other hother hsame
  -- whatever reached the target was created, and has a row as soon as its client is done
  obtain ⟨c, hc, hcid, hcspec⟩ := h.jobsKnown.effects other hother
  have hctriple : c.1.triple = (target, bucket, key) := by
    rw [ReplicationJob.triple_eq_of_spec_eq hcspec, hsame,
      ReplicationJob.triple_eq_of_spec_eq hspec, htriple']
  rcases h.storeTracked.covered c hc with ⟨client, hmem⟩ | ⟨row, hcover, hcovertriple, hle⟩
  · exact absurd hctriple (hquiet.2.2 client c.1 hmem)
  · have := hmax row hcover (by simpa using hcovertriple.trans hctriple)
    omega

theorem safe_of_invariant {s : System} (h : s.Invariant) : s.ReplicationSafe := by
  intro target bucket key job hlatest hstatus hquiet
  obtain ⟨newest, hnewest, hid, hspec⟩ := newestEffect_of_completed h hlatest hstatus hquiet
  have htriple : newest.triple = (target, bucket, key) := by
    obtain ⟨-, htriple, -⟩ := Table.latest_eq_some.mp hlatest
    rw [ReplicationJob.triple_eq_of_spec_eq hspec]
    simpa using htriple
  have hoperation := ReplicationJob.operation_eq_of_spec_eq hspec
  obtain ⟨hput, hdelete⟩ := h.targetTracked newest hnewest
  rw [htriple] at hput hdelete
  rw [hoperation] at hput hdelete
  cases hop : job.operation with
  | put =>
    obtain ⟨version, hat, hwritten, hfloor⟩ := hput hop
    refine ⟨by simp [hat], ?_⟩
    intro held hheld
    obtain rfl : version = held := Option.some.inj (hat.symm.trans hheld)
    obtain ⟨c, hc, hcid, -⟩ := h.jobsKnown.effects newest hnewest.1
    have hobject : (newest.object.bucket, newest.object.key) = (bucket, key) :=
      congrArg Prod.snd htriple
    rw [hobject] at hwritten
    exact ⟨hwritten, c, hc, hcid.trans hid, hfloor c hc hcid⟩
  | delete =>
    have hnone := hdelete hop
    refine ⟨by simp [hnone], ?_⟩
    intro held hheld
    exact absurd (hnone.symm.trans hheld) (by simp)

/-- **Replication safety.** If no step of a run writes or deletes at a target for a job while
a newer job has been there, unless the two agree, then every state of the run is safe. -/
theorem always_replicationSafe (config : Config) (retention : MetadataRetentionPolicy)
    (recentLimit : Nat) (targets : String × String × String → Option Nat)
    (actions : List Action)
    (hguard : Guarded (Gateway.step config) stepGuard (initial retention recentLimit targets)
      actions) :
    Always (Gateway.step config) ReplicationSafe (initial retention recentLimit targets)
      actions :=
  always_of_guarded (fun _ _ _ => invariant_step) (fun _ => safe_of_invariant)
    (invariant_initial retention recentLimit targets) hguard

/-! ## Section 5: The stale write -/

/-- Another client deletes the object, and another worker carries the delete out. -/
def deleteMeanwhile : List Action :=
  [.changeHome 1 .delete "bucket-a" "hello.txt", .enqueueDelete 1 sampleTopology 30,
    .persistJobs 1, .popNextReady 1 40, .ensureJobIsCurrent 1, .performAtTarget 1 none,
    .markCompleted 1]

/-- The first worker writes what it had read. -/
def staleWrite : List Action :=
  putUntilRead ++ deleteMeanwhile ++ [.performAtTarget 0 none, .markCompleted 0]

theorem quiet_of_idle {s : System} {triple : String × String × String}
    (hworkers : ∀ worker, s.workers worker = .idle) (hclients : ∀ client, s.clients client = .idle) :
    s.Quiet triple := by
  refine ⟨?_, ?_, ?_⟩
  · intro worker job hjob
    rw [hworkers worker] at hjob
    exact absurd hjob (by simp [WorkerPhase.job?])
  · intro worker job hjob
    rw [hworkers worker] at hjob
    exact absurd hjob (by simp [WorkerPhase.unsaved?])
  · intro client job hjob
    rw [hclients client] at hjob
    exact absurd hjob List.not_mem_nil

/-- The delete is the latest job and completed, nothing is in flight, and the target holds
the object. -/
theorem staleWrite_not_safe :
    ∃ s, run (Gateway.step sampleConfig) (initial {} 64 (fun _ => none)) staleWrite = some s ∧
      ¬ s.ReplicationSafe := by
  refine ⟨_, rfl, ?_⟩
  intro hsafe
  have hat := hsafe "onedrive" "bucket-a" "hello.txt" _ rfl rfl (quiet_of_idle
    (fun worker => match worker with
      | 0 => rfl
      | 1 => rfl
      | _ + 2 => rfl)
    (fun client => match client with
      | 0 => rfl
      | 1 => rfl
      | _ + 2 => rfl))
  exact absurd (hat.1.mp rfl) (by decide)

/-- The same put without the delete. -/
theorem always_replicationSafe_put :
    Always (Gateway.step sampleConfig) ReplicationSafe (initial {} 64 (fun _ => none))
      (putUntilRead ++ [.performAtTarget 0 none, .markCompleted 0]) := by
  apply always_replicationSafe
  rintro s₁ ⟨⟩
  refine ⟨trivial, ?_⟩
  rintro s₂ ⟨⟩
  refine ⟨trivial, ?_⟩
  rintro s₃ ⟨⟩
  refine ⟨trivial, ?_⟩
  rintro s₄ ⟨⟩
  refine ⟨trivial, ?_⟩
  rintro s₅ ⟨⟩
  refine ⟨trivial, ?_⟩
  rintro s₆ ⟨⟩
  refine ⟨trivial, ?_⟩
  rintro s₇ ⟨⟩
  refine ⟨?_, ?_⟩
  · -- nothing has reached the target before
    intro job newest _ hnewest
    exact absurd hnewest.1 List.not_mem_nil
  · rintro s₈ ⟨⟩
    exact ⟨trivial, trivial⟩

end System

end Netdisk2Blob.Gateway
