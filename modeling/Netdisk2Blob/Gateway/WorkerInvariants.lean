import Netdisk2Blob.Gateway.ReplicationWorker

/-!
# Jobs and Rows Across Steps

Two invariants of clients and workers that hold on every run, whatever the order of the
steps: every job that is around is one of those that were created, under its id
(`JobsKnown`), and the rows of the store account for the created jobs (`StoreTracked`).
-/

namespace Netdisk2Blob.Gateway

open Library Metadata Policy Replication

namespace System

/-! ## Section 1: Every job is one of those that were created -/

def Known (s : System) (job : ReplicationJob) : Prop :=
  ∃ c ∈ s.created, c.1.jobId = job.jobId ∧ c.1.spec = job.spec

structure JobsKnown (s : System) : Prop where
  fresh : ∀ c ∈ s.created, c.1.jobId < s.engine.nextJobId
  unique : ∀ c ∈ s.created, ∀ d ∈ s.created, c.1.jobId = d.1.jobId → c = d
  queue : ∀ job ∈ s.engine.pendingJobs, s.Known job
  rows : ∀ job ∈ s.store.replicationJobs, s.Known job
  workers : ∀ worker, ∀ job, (s.workers worker).job? = some job → s.Known job
  unsaved : ∀ worker, ∀ job, (s.workers worker).unsaved? = some job → s.Known job
  clients : ∀ client, ∀ job ∈ (s.clients client).unpersisted, s.Known job
  effects : ∀ job ∈ s.effects, s.Known job

theorem known_of_same {s : System} {job job' : ReplicationJob} (h : s.Known job)
    (hid : job'.jobId = job.jobId) (hspec : job'.spec = job.spec) : s.Known job' := by
  obtain ⟨c, hc, hcid, hcspec⟩ := h
  exact ⟨c, hc, hcid.trans hid.symm, hcspec.trans hspec.symm⟩

theorem known_mono {s s' : System} (h : ∀ c ∈ s.created, c ∈ s'.created)
    {job : ReplicationJob} (hknown : s.Known job) : s'.Known job := by
  obtain ⟨c, hc, hsame⟩ := hknown
  exact ⟨c, h c hc, hsame⟩

/-- Two known jobs with one id do the same. -/
theorem JobsKnown.spec_eq {s : System} (h : s.JobsKnown) {a b : ReplicationJob}
    (ha : s.Known a) (hb : s.Known b) (hid : a.jobId = b.jobId) : a.spec = b.spec := by
  obtain ⟨c, hc, hcid, hcspec⟩ := ha
  obtain ⟨d, hd, hdid, hdspec⟩ := hb
  obtain rfl := h.unique c hc d hd (hcid.trans (hid.trans hdid.symm))
  exact hcspec.symm.trans hdspec

theorem JobsKnown.jobId_lt {s : System} (h : s.JobsKnown) {job : ReplicationJob}
    (hjob : s.Known job) : job.jobId < s.engine.nextJobId := by
  obtain ⟨c, hc, hcid, -⟩ := hjob
  exact hcid ▸ h.fresh c hc

/-- A worker moves to a phase whose jobs are known. -/
theorem JobsKnown.setWorker {s : System} (h : s.JobsKnown) {worker : Nat} {phase : WorkerPhase}
    (hjob : ∀ job, phase.job? = some job → s.Known job)
    (hunsaved : ∀ job, phase.unsaved? = some job → s.Known job) :
    (s.setWorker worker phase).JobsKnown :=
  { h with
    workers := (Function.forall_update_iff s.workers
      (fun _ phase => ∀ job, phase.job? = some job → s.Known job)).mpr
        ⟨hjob, fun w _ => h.workers w⟩
    unsaved := (Function.forall_update_iff s.workers
      (fun _ phase => ∀ job, phase.unsaved? = some job → s.Known job)).mpr
        ⟨hunsaved, fun w _ => h.unsaved w⟩ }

/-- A worker takes up a known job. -/
theorem JobsKnown.hold {s : System} (h : s.JobsKnown) {worker : Nat} {phase : WorkerPhase}
    {job : ReplicationJob} (hphase : phase.job? = some job) (hunsaved : phase.unsaved? = none)
    (hjob : s.Known job) : (s.setWorker worker phase).JobsKnown := by
  apply h.setWorker
  · intro other hother
    rw [hphase] at hother
    exact Option.some.inj hother ▸ hjob
  · simp [hunsaved]

/-- A worker lets go of its job. -/
theorem JobsKnown.release {s : System} (h : s.JobsKnown) {worker : Nat} :
    (s.setWorker worker .idle).JobsKnown :=
  h.setWorker (by simp [WorkerPhase.job?]) (by simp [WorkerPhase.unsaved?])

theorem JobsKnown.setClient {s : System} (h : s.JobsKnown) {client : Nat} {phase : ClientPhase}
    (hjobs : ∀ job ∈ phase.unpersisted, s.Known job) : (s.setClient client phase).JobsKnown :=
  { h with
    clients := (Function.forall_update_iff s.clients
      (fun _ phase => ∀ job ∈ phase.unpersisted, s.Known job)).mpr
        ⟨hjobs, fun c _ => h.clients c⟩ }

/-- The jobs of one enqueue call are new, and known once they are created. -/
theorem JobsKnown.enqueue {config : Config} {s : System} (h : s.JobsKnown)
    {client version : Nat} {operation enqueuedOperation : ReplicationOperation}
    {bucket key : String} {jobs : List ReplicationJob} {topology : TopologyPolicy}
    {object : ReplicationObjectRef} {now : Nat}
    (hclient : s.clients client = .homeChanged operation bucket key version jobs) :
    ((s.pushJobs version (s.engine.enqueueJobs topology (some config.homeProvider)
      enqueuedOperation object now)).setClient client
        (.homeChanged operation bucket key version
          (jobs ++ (s.engine.enqueueJobs topology (some config.homeProvider)
            enqueuedOperation object now).1))).JobsKnown := by
  generalize henq : s.engine.enqueueJobs topology (some config.homeProvider) enqueuedOperation
    object now = enqueued
  have hids : ∀ job ∈ enqueued.1,
      s.engine.nextJobId ≤ job.jobId ∧ job.jobId < enqueued.2.nextJobId := by
    rw [← henq]
    exact fun job hjob => ReplicationEngine.enqueueJobs_jobId_mem hjob
  have hnodup : (enqueued.1.map (·.jobId)).Nodup := by
    rw [← henq]
    exact ReplicationEngine.enqueueJobs_nodup
  have hqueue : enqueued.2.pendingJobs = s.engine.pendingJobs ++ enqueued.1 := by
    rw [← henq]
    rfl
  have hnext : enqueued.2.nextJobId = s.engine.nextJobId + enqueued.1.length := by
    rw [← henq]
    rfl
  have hold : ∀ job, s.Known job → (s.pushJobs version enqueued).Known job :=
    fun job => known_mono (fun c hc => List.mem_append_left _ hc)
  have hnew : ∀ job ∈ enqueued.1, (s.pushJobs version enqueued).Known job :=
    fun job hjob => ⟨(job, version), List.mem_append_right _ (List.mem_map_of_mem hjob), rfl, rfl⟩
  have hpushed : (s.pushJobs version enqueued).JobsKnown :=
    { fresh := by
        intro c hc
        change c.1.jobId < enqueued.2.nextJobId
        rcases List.mem_append.mp hc with hc | hc
        · have := h.fresh c hc
          omega
        · obtain ⟨job, hjob, rfl⟩ := List.mem_map.mp hc
          exact (hids job hjob).2
      unique := by
        -- an old id is below the counter, a new one is not
        have hcross : ∀ c ∈ s.created, ∀ job ∈ enqueued.1, c.1.jobId ≠ job.jobId := by
          intro c hc job hjob hid
          have hbelow := h.fresh c hc
          have habove := (hids job hjob).1
          omega
        intro c hc d hd hid
        rcases List.mem_append.mp hc with hc | hc
        · rcases List.mem_append.mp hd with hd | hd
          · exact h.unique c hc d hd hid
          · obtain ⟨job, hjob, rfl⟩ := List.mem_map.mp hd
            exact absurd hid (hcross c hc job hjob)
        · obtain ⟨job, hjob, rfl⟩ := List.mem_map.mp hc
          rcases List.mem_append.mp hd with hd | hd
          · exact absurd hid.symm (hcross d hd job hjob)
          · obtain ⟨job', hjob', rfl⟩ := List.mem_map.mp hd
            rw [List.inj_on_of_nodup_map hnodup hjob hjob' hid]
      queue := by
        intro job hjob
        change job ∈ enqueued.2.pendingJobs at hjob
        rw [hqueue] at hjob
        rcases List.mem_append.mp hjob with hjob | hjob
        · exact hold job (h.queue job hjob)
        · exact hnew job hjob
      rows := fun job hjob => hold job (h.rows job hjob)
      workers := fun worker job hjob => hold job (h.workers worker job hjob)
      unsaved := fun worker job hjob => hold job (h.unsaved worker job hjob)
      clients := fun client job hjob => hold job (h.clients client job hjob)
      effects := fun job hjob => hold job (h.effects job hjob) }
  apply hpushed.setClient
  intro job hjob
  rcases List.mem_append.mp hjob with hjob | hjob
  · refine hold job (h.clients client job ?_)
    rw [hclient]
    exact hjob
  · exact hnew job hjob

theorem jobsKnown_initial (retention : MetadataRetentionPolicy) (recentLimit : Nat)
    (targets : String × String × String → Option Nat) :
    (initial retention recentLimit targets).JobsKnown where
  fresh := by simp [initial]
  unique := by simp [initial]
  queue := by simp [initial, ReplicationEngine.withRecentLimit]
  rows := by simp [initial, MetadataStore.openFresh]
  workers := by simp [initial, WorkerPhase.job?]
  unsaved := by simp [initial, WorkerPhase.unsaved?]
  clients := by simp [initial, ClientPhase.unpersisted]
  effects := by simp [initial]

/-- No step brings up a job that was not created. -/
theorem JobsKnown.step {config : Config} {s s' : System} {action : Action} (h : s.JobsKnown)
    (hstep : StepTo config s action s') : s'.JobsKnown := by
  -- the job that a worker holds is known
  have hheld : ∀ {worker job phase}, s.workers worker = phase → phase.job? = some job →
      s.Known job := fun hworker hjob => h.workers _ _ (hworker ▸ hjob)
  cases hstep with
  | changeHome hclient =>
    rename_i client operation bucket key
    have hwritten : (s.writeHome operation bucket key).JobsKnown := { h with }
    exact hwritten.setClient (by simp [ClientPhase.unpersisted])
  | enqueue hclient hobject => exact h.enqueue hclient
  | persistJobs hclient =>
    rename_i client operation bucket key version jobs
    have hjobs : ∀ job ∈ jobs, s.Known job := by
      intro job hjob
      refine h.clients client job ?_
      rw [hclient]
      exact hjob
    have hstored : System.JobsKnown { s with store := s.store.enqueueJobs jobs } :=
      { h with
        rows := fun row hrow => (MetadataStore.enqueueJobs_origin hrow).elim (hjobs row)
          (h.rows row) }
    exact hstored.setClient (by simp [ClientPhase.unpersisted])
  | popped hworker hpop =>
    rename_i worker now job engine'
    obtain ⟨hperm, hnext⟩ := ReplicationEngine.popNextReadyAt_some hpop
    have hjob : s.Known job := h.queue job (hperm.mem_iff.mpr List.mem_cons_self)
    have hpopped : System.JobsKnown { s with engine := engine' } :=
      { h with
        fresh := fun c hc => hnext ▸ h.fresh c hc
        queue := fun other hother =>
          h.queue other (hperm.mem_iff.mpr (List.mem_cons_of_mem _ hother)) }
    exact hpopped.hold rfl rfl hjob
  | nothingReady hworker => exact h
  | current hworker hcurrent =>
    exact h.hold rfl rfl (hheld hworker rfl)
  | sourceRead hworker hput hhome =>
    exact h.hold rfl rfl (hheld hworker rfl)
  | failed hworker =>
    exact h.hold rfl rfl (h.workers _ _ (WorkerPhase.job?_of_inProcess? hworker))
  | put hworker =>
    rename_i worker answer job version
    have hjob : s.Known job := hheld hworker rfl
    have hperformed : (s.performAtTarget job (some version)).JobsKnown :=
      { h with
        effects := fun other hother => (List.mem_append.mp hother).elim (h.effects other)
          (fun hlast => List.mem_singleton.mp hlast ▸ hjob) }
    exact hperformed.hold (by simp) (by simp) hjob
  | delete hworker hdelete =>
    rename_i worker answer job
    have hjob : s.Known job := hheld hworker rfl
    have hperformed : (s.performAtTarget job none).JobsKnown :=
      { h with
        effects := fun other hother => (List.mem_append.mp hother).elim (h.effects other)
          (fun hlast => List.mem_singleton.mp hlast ▸ hjob) }
    exact hperformed.hold (by simp) (by simp) hjob
  | completed hworker hmark =>
    rename_i worker job store'
    have hrows : ∀ row ∈ store'.replicationJobs, s.Known row := by
      intro row hrow
      rcases hmark with ⟨pruned, hok⟩ | ⟨rfl, -⟩
      · obtain ⟨old, hold, hid, hspec, -⟩ := MetadataStore.markJobStatus_origin hok hrow
        exact known_of_same (h.rows old hold) hid.symm hspec.symm
      · exact h.rows row hrow
    have hcompleted : (s.complete job store').JobsKnown := { h with rows := hrows }
    exact hcompleted.release
  | retryPushed hworker =>
    rename_i worker now job error
    have hjob : s.Known (retryJob config.retryPolicy job error now) :=
      known_of_same (hheld hworker rfl) rfl rfl
    have hpushed : System.JobsKnown { s with
        engine := s.engine.scheduleRetry (retryJob config.retryPolicy job error now) } :=
      { h with
        queue := fun other hother => (List.mem_append.mp hother).elim (h.queue other)
          (fun hlast => List.mem_singleton.mp hlast ▸ hjob) }
    apply hpushed.setWorker (by simp [WorkerPhase.job?])
    intro other hother
    exact Option.some.inj hother ▸ hjob
  | retrySaved hworker =>
    rename_i worker job
    have hjob : s.Known job := h.unsaved worker job (congrArg WorkerPhase.unsaved? hworker)
    have hsaved : System.JobsKnown { s with store := s.store.saveJob job } :=
      { h with
        rows := fun row hrow => (MetadataStore.mem_saveJob.mp hrow).elim
          (fun heq => heq ▸ hjob) (fun hold => h.rows row hold.1) }
    exact hsaved.release
  | deadLettered hworker hmark =>
    rename_i worker now job error store'
    have hrows : ∀ row ∈ store'.replicationJobs, s.Known row := by
      intro row hrow
      rcases hmark with ⟨entry, hok⟩ | ⟨rfl, -⟩
      · obtain ⟨old, hold, hid, hspec, -⟩ := MetadataStore.markJobDeadLetter_origin hok hrow
        exact known_of_same (h.rows old hold) hid.symm hspec.symm
      · exact h.rows row hrow
    have hgivenUp : (s.giveUp job error store').JobsKnown := { h with rows := hrows }
    exact hgivenUp.release

/-! ## Section 2: What the store says -/

structure StoreTracked (s : System) : Prop where
  processed : ∀ worker job, s.workers worker = .processed job →
    ∃ effect ∈ s.effects, effect.jobId = job.jobId
  completed : ∀ row ∈ s.store.replicationJobs, row.status = .completed →
    ∃ effect ∈ s.effects, effect.jobId = row.jobId
  unpersisted : ∀ client, ((s.clients client).unpersisted.map (·.jobId)).Nodup ∧
    ∀ job ∈ (s.clients client).unpersisted, job.status = .pending
  unsaved : ∀ worker job, (s.workers worker).unsaved? = some job → job.status = .retryScheduled
  covered : ∀ c ∈ s.created,
    (∃ client, c.1 ∈ (s.clients client).unpersisted) ∨ s.store.Covers c.1

theorem StoreTracked.setWorker {s : System} (h : s.StoreTracked) {worker : Nat}
    {phase : WorkerPhase}
    (hprocessed : ∀ job, phase = .processed job → ∃ effect ∈ s.effects,
      effect.jobId = job.jobId)
    (hunsaved : ∀ job, phase.unsaved? = some job → job.status = .retryScheduled) :
    (s.setWorker worker phase).StoreTracked :=
  { h with
    processed := (Function.forall_update_iff s.workers
      (fun _ phase => ∀ job, phase = .processed job →
        ∃ effect ∈ s.effects, effect.jobId = job.jobId)).mpr
          ⟨hprocessed, fun w _ => h.processed w⟩
    unsaved := (Function.forall_update_iff s.workers
      (fun _ phase => ∀ job, phase.unsaved? = some job → job.status = .retryScheduled)).mpr
        ⟨hunsaved, fun w _ => h.unsaved w⟩ }

/-- Replacing the store by one whose completed rows and coverage are accounted for. -/
theorem StoreTracked.setStore {s : System} (h : s.StoreTracked) {store' : MetadataStore}
    (hcompleted : ∀ row ∈ store'.replicationJobs, row.status = .completed →
      ∃ effect ∈ s.effects, effect.jobId = row.jobId)
    (hcovers : ∀ c ∈ s.created, s.store.Covers c.1 → store'.Covers c.1) :
    System.StoreTracked { s with store := store' } :=
  { h with
    completed := hcompleted
    covered := fun c hc => (h.covered c hc).imp id (hcovers c hc) }

theorem StoreTracked.performAtTarget {s : System} (h : s.StoreTracked) {job : ReplicationJob}
    {content : Option Nat} : (s.performAtTarget job content).StoreTracked :=
  { h with
    processed := by
      intro worker other hworker
      obtain ⟨effect, heffect, hid⟩ := h.processed worker other hworker
      exact ⟨effect, List.mem_append_left _ heffect, hid⟩
    completed := by
      intro row hrow hstatus
      obtain ⟨effect, heffect, hid⟩ := h.completed row hrow hstatus
      exact ⟨effect, List.mem_append_left _ heffect, hid⟩ }

theorem StoreTracked.enqueue {config : Config} {s : System} (hknown : s.JobsKnown)
    (h : s.StoreTracked) {client version : Nat}
    {operation enqueuedOperation : ReplicationOperation} {bucket key : String}
    {jobs : List ReplicationJob} {topology : TopologyPolicy} {object : ReplicationObjectRef}
    {now : Nat} (hclient : s.clients client = .homeChanged operation bucket key version jobs) :
    ((s.pushJobs version (s.engine.enqueueJobs topology (some config.homeProvider)
      enqueuedOperation object now)).setClient client
        (.homeChanged operation bucket key version
          (jobs ++ (s.engine.enqueueJobs topology (some config.homeProvider)
            enqueuedOperation object now).1))).StoreTracked := by
  generalize henq : s.engine.enqueueJobs topology (some config.homeProvider) enqueuedOperation
    object now = enqueued
  have hpending : ∀ job ∈ enqueued.1, job.status = .pending := by
    rw [← henq]
    exact fun job hjob => (ReplicationEngine.mem_createJobs hjob).2.2.2.2.1
  have hnodup : (enqueued.1.map (·.jobId)).Nodup := by
    rw [← henq]
    exact ReplicationEngine.enqueueJobs_nodup
  have habove : ∀ job ∈ enqueued.1, s.engine.nextJobId ≤ job.jobId := by
    rw [← henq]
    exact fun job hjob => (ReplicationEngine.enqueueJobs_jobId_mem hjob).1
  obtain ⟨hjobsNodup, hjobsPending⟩ := h.unpersisted client
  have hjobs : (s.clients client).unpersisted = jobs := by
    rw [hclient]
    rfl
  rw [hjobs] at hjobsNodup hjobsPending
  -- the client that enqueues holds the old jobs and the new ones, the others hold what they held
  have hheld : ∀ c job, job ∈ (s.clients c).unpersisted →
      job ∈ (Function.update s.clients client (.homeChanged operation bucket key version
        (jobs ++ enqueued.1)) c).unpersisted := by
    intro c job hjob
    by_cases heq : c = client
    · subst heq
      rw [Function.update_self]
      rw [hjobs] at hjob
      exact List.mem_append_left _ hjob
    · rw [Function.update_of_ne heq]
      exact hjob
  exact
    { processed := h.processed
      completed := h.completed
      unpersisted := by
        apply (Function.forall_update_iff s.clients (fun _ phase =>
          (phase.unpersisted.map (·.jobId)).Nodup ∧
            ∀ job ∈ phase.unpersisted, job.status = .pending)).mpr
        refine ⟨⟨?_, ?_⟩, fun c _ => h.unpersisted c⟩
        · change ((jobs ++ enqueued.1).map (·.jobId)).Nodup
          rw [List.map_append]
          refine List.nodup_append.mpr ⟨hjobsNodup, hnodup, ?_⟩
          intro id hid id' hid' heq
          obtain ⟨job, hjob, rfl⟩ := List.mem_map.mp hid
          obtain ⟨new, hnew, rfl⟩ := List.mem_map.mp hid'
          have hbelow := hknown.jobId_lt (hknown.clients client job (hjobs ▸ hjob))
          have := habove new hnew
          omega
        · intro job hjob
          exact (List.mem_append.mp hjob).elim (hjobsPending job) (hpending job)
      unsaved := h.unsaved
      covered := by
        intro c hc
        rcases List.mem_append.mp hc with hc | hc
        · exact (h.covered c hc).imp (fun ⟨holder, hmem⟩ => ⟨holder, hheld holder c.1 hmem⟩) id
        · obtain ⟨job, hjob, rfl⟩ := List.mem_map.mp hc
          refine Or.inl ⟨client, ?_⟩
          change job ∈ (Function.update s.clients client _ client).unpersisted
          rw [Function.update_self]
          exact List.mem_append_right _ hjob }

theorem storeTracked_initial (retention : MetadataRetentionPolicy) (recentLimit : Nat)
    (targets : String × String × String → Option Nat) :
    (initial retention recentLimit targets).StoreTracked where
  processed := by simp [initial]
  completed := by simp [initial, MetadataStore.openFresh]
  unpersisted := by simp [initial, ClientPhase.unpersisted]
  unsaved := by simp [initial, WorkerPhase.unsaved?]
  covered := by simp [initial]

theorem StoreTracked.step {config : Config} {s s' : System} {action : Action}
    (hknown : s.JobsKnown) (h : s.StoreTracked) (hstep : StepTo config s action s') :
    s'.StoreTracked := by
  cases hstep with
  | changeHome hclient =>
    rename_i client operation bucket key
    have hempty : (s.clients client).unpersisted = [] := by
      rw [hclient]
      rfl
    exact
      { h with
        unpersisted := (Function.forall_update_iff s.clients (fun _ phase =>
          (phase.unpersisted.map (·.jobId)).Nodup ∧
            ∀ job ∈ phase.unpersisted, job.status = .pending)).mpr
              ⟨by simp [ClientPhase.unpersisted], fun c _ => h.unpersisted c⟩
        covered := by
          intro c hc
          refine (h.covered c hc).imp ?_ id
          rintro ⟨holder, hmem⟩
          refine ⟨holder, ?_⟩
          have hne : holder ≠ client := by
            rintro rfl
            rw [hempty] at hmem
            exact absurd hmem List.not_mem_nil
          change c.1 ∈ (Function.update s.clients client _ holder).unpersisted
          rw [Function.update_of_ne hne]
          exact hmem }
  | enqueue hclient hobject => exact h.enqueue hknown hclient
  | persistJobs hclient =>
    rename_i client operation bucket key version jobs
    have hjobs : (s.clients client).unpersisted = jobs := by
      rw [hclient]
      rfl
    obtain ⟨hnodup, hpending⟩ := h.unpersisted client
    rw [hjobs] at hnodup hpending
    have hsame : ∀ new ∈ jobs, ∀ row ∈ s.store.replicationJobs, new.jobId = row.jobId →
        new.spec = row.spec := by
      intro new hnew row hrow hid
      exact hknown.spec_eq (hknown.clients client new (hjobs ▸ hnew)) (hknown.rows row hrow) hid
    exact
      { processed := h.processed
        completed := by
          intro row hrow hstatus
          rcases (MetadataStore.mem_enqueueJobs hnodup).mp hrow with hnew | ⟨hold, -⟩
          · rw [hpending row hnew] at hstatus
            exact absurd hstatus (by decide)
          · exact h.completed row hold hstatus
        unpersisted := (Function.forall_update_iff s.clients (fun _ phase =>
          (phase.unpersisted.map (·.jobId)).Nodup ∧
            ∀ job ∈ phase.unpersisted, job.status = .pending)).mpr
              ⟨by simp [ClientPhase.unpersisted], fun c _ => h.unpersisted c⟩
        unsaved := h.unsaved
        covered := by
          intro c hc
          rcases h.covered c hc with ⟨holder, hmem⟩ | hcovers
          · by_cases heq : holder = client
            · -- the client's jobs have rows now
              rw [heq, hjobs] at hmem
              exact Or.inr (MetadataStore.covers_enqueueJobs_new hnodup hmem)
            · refine Or.inl ⟨holder, ?_⟩
              change c.1 ∈ (Function.update s.clients client _ holder).unpersisted
              rw [Function.update_of_ne heq]
              exact hmem
          · exact Or.inr (MetadataStore.covers_enqueueJobs hnodup hsame hcovers) }
  | popped hworker hpop =>
    rename_i worker now job engine'
    have hpopped : System.StoreTracked { s with engine := engine' } := { h with }
    exact hpopped.setWorker (by simp) (by simp [WorkerPhase.unsaved?])
  | nothingReady hworker => exact h
  | current hworker hcurrent => exact h.setWorker (by simp) (by simp [WorkerPhase.unsaved?])
  | sourceRead hworker hput hhome =>
    exact h.setWorker (by simp) (by simp [WorkerPhase.unsaved?])
  | failed hworker => exact h.setWorker (by simp) (by simp [WorkerPhase.unsaved?])
  | put hworker =>
    rename_i worker answer job version
    apply h.performAtTarget.setWorker
    · intro other hother
      refine ⟨job, List.mem_append_right _ (List.mem_singleton_self job), ?_⟩
      cases answer with
      | none =>
        obtain rfl : job = other := by simpa [WorkerPhase.afterAnswer] using hother
        rfl
      | some error => exact absurd hother (by simp [WorkerPhase.afterAnswer])
    · simp
  | delete hworker hdelete =>
    rename_i worker answer job
    apply h.performAtTarget.setWorker
    · intro other hother
      refine ⟨job, List.mem_append_right _ (List.mem_singleton_self job), ?_⟩
      cases answer with
      | none =>
        obtain rfl : job = other := by simpa [WorkerPhase.afterAnswer] using hother
        rfl
      | some error => exact absurd hother (by simp [WorkerPhase.afterAnswer])
    · simp
  | completed hworker hmark =>
    rename_i worker job store'
    have hstored : System.StoreTracked { s with store := store' } := by
      rcases hmark with ⟨pruned, hok⟩ | ⟨rfl, -⟩
      · apply h.setStore
        · intro row hrow hstatus
          obtain ⟨old, hold, hid, -, ⟨rfl, -⟩ | ⟨hmarked, -⟩⟩ :=
            MetadataStore.markJobStatus_origin hok hrow
          · exact h.completed row hold hstatus
          · -- the marked row is that of a processed job
            rw [hmarked]
            exact h.processed worker job hworker
        · exact fun c _ hcovers => MetadataStore.covers_markJobStatus hok hcovers
      · exact h
    have hcompleted : (s.complete job store').StoreTracked := { hstored with }
    exact hcompleted.setWorker (by simp) (by simp [WorkerPhase.unsaved?])
  | retryPushed hworker =>
    rename_i worker now job error
    have hpushed : System.StoreTracked { s with
        engine := s.engine.scheduleRetry (retryJob config.retryPolicy job error now) } :=
      { h with }
    apply hpushed.setWorker (by simp)
    intro other hother
    obtain rfl := Option.some.inj hother
    rfl
  | retrySaved hworker =>
    rename_i worker job
    have hunsaved : (s.workers worker).unsaved? = some job :=
      congrArg WorkerPhase.unsaved? hworker
    have hstored : System.StoreTracked { s with store := s.store.saveJob job } := by
      apply h.setStore
      · intro row hrow hstatus
        rcases MetadataStore.mem_saveJob.mp hrow with rfl | ⟨hold, -⟩
        · rw [h.unsaved worker row hunsaved] at hstatus
          exact absurd hstatus (by decide)
        · exact h.completed row hold hstatus
      · intro c _ hcovers
        refine MetadataStore.covers_enqueueJobs (List.nodup_singleton _) ?_ hcovers
        intro new hnew row hrow hid
        obtain rfl := List.mem_singleton.mp hnew
        exact hknown.spec_eq (hknown.unsaved worker new hunsaved) (hknown.rows row hrow) hid
    exact hstored.setWorker (by simp) (by simp [WorkerPhase.unsaved?])
  | deadLettered hworker hmark =>
    rename_i worker now job error store'
    have hstored : System.StoreTracked { s with store := store' } := by
      rcases hmark with ⟨entry, hok⟩ | ⟨rfl, -⟩
      · apply h.setStore
        · intro row hrow hstatus
          obtain ⟨old, hold, hid, -, ⟨rfl, -⟩ | ⟨-, hfailed⟩⟩ :=
            MetadataStore.markJobDeadLetter_origin hok hrow
          · exact h.completed row hold hstatus
          · rw [hfailed] at hstatus
            exact absurd hstatus (by decide)
        · exact fun c _ hcovers => MetadataStore.covers_markJobDeadLetter hok hcovers
      · exact h
    have hgivenUp : (s.giveUp job error store').StoreTracked := { hstored with }
    exact hgivenUp.setWorker (by simp) (by simp [WorkerPhase.unsaved?])

end System

end Netdisk2Blob.Gateway
