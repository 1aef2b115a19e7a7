import Netdisk2Blob.Gateway.WorkerInvariants

/-!
# Job Outcomes in the Store

Once everybody is idle and the queue is empty, the store should hold what the workers
decided about every job. A client persists its jobs after it pushed them, and a worker saves
a scheduled retry after it pushed it; a decision that another worker marks in between is
lost, because the row is not there yet or is overwritten afterwards. `recordGuard` says that
no decision is marked in between.

## Contents

- `Custody`: a created job is in exactly one place, on the queue, with one worker, or
  decided; no step needs a guard for it
- `OutcomeTracked`: a decided job is recorded and settled, any other job has a runnable row
- `always_outcomesRecorded`: recording over every guarded run
-/

namespace Netdisk2Blob.Gateway

open Library Metadata Policy Replication

namespace System

/-! ## Section 1: The property and the guard -/

/-- The store shows the outcome: the row is completed (or was pruned as history), or it is
failed and has a dead letter. -/
def Recorded (store : MetadataStore) (jobId : Nat) : Outcome → Prop
  | .completed => ∀ row ∈ store.replicationJobs, row.jobId = jobId → row.status = .completed
  | .deadLettered =>
    (∃ row ∈ store.replicationJobs, row.jobId = jobId ∧ row.status = .failed) ∧
      ∃ letter ∈ store.replicationDeadLetters, letter.originalJobId = jobId

/-- With an empty queue and everybody idle, every created job was decided once, and the
store shows it. -/
def OutcomesRecorded (s : System) : Prop :=
  s.engine.pendingJobs = [] → (∀ worker, s.workers worker = .idle) →
    (∀ client, s.clients client = .idle) →
      ∀ c ∈ s.created, ∃ outcome, (c.1.jobId, outcome) ∈ s.decided ∧
        (∀ other, (c.1.jobId, other) ∈ s.decided → other = outcome) ∧
          Recorded s.store c.1.jobId outcome

/-- No write of the job's row is still to come. -/
def Settled (s : System) (jobId : Nat) : Prop :=
  (∀ client, ∀ job ∈ (s.clients client).unpersisted, job.jobId ≠ jobId) ∧
    ∀ worker job, (s.workers worker).unsaved? = some job → job.jobId ≠ jobId

/-- A decision is marked only when no other write of the row is still to come. -/
def recordGuard (s : System) : Action → Prop
  | .markCompleted worker =>
    ∀ job, (s.workers worker).job? = some job → s.Settled job.jobId
  | .markDeadLetter worker _ =>
    ∀ job, (s.workers worker).job? = some job → s.Settled job.jobId
  | _ => True

/-! ## Section 2: Custody of a job -/

/-- Where a job is. -/
inductive Holder where
  | queue
  | worker (worker : Nat)
  | decided
  deriving DecidableEq

def HeldBy (s : System) (jobId : Nat) : Holder → Prop
  | .queue => ∃ job ∈ s.engine.pendingJobs, job.jobId = jobId
  | .worker worker => ∃ job, (s.workers worker).job? = some job ∧ job.jobId = jobId
  | .decided => ∃ outcome, (jobId, outcome) ∈ s.decided

structure Custody (s : System) : Prop where
  unique : ∀ jobId holder holder', s.HeldBy jobId holder → s.HeldBy jobId holder' →
    holder = holder'
  queueNodup : (s.engine.pendingJobs.map (·.jobId)).Nodup
  decidedNodup : (s.decided.map (·.1)).Nodup
  total : ∀ c ∈ s.created, ∃ holder, s.HeldBy c.1.jobId holder
  known : ∀ jobId holder, s.HeldBy jobId holder → ∃ c ∈ s.created, c.1.jobId = jobId

/-- A step that moves no job. -/
theorem Custody.stay {s s' : System} (h : s.Custody)
    (hqueue : s'.engine.pendingJobs = s.engine.pendingJobs) (hdecided : s'.decided = s.decided)
    (hcreated : s'.created = s.created)
    (hworkers : ∀ worker, (s'.workers worker).job? = (s.workers worker).job?) : s'.Custody := by
  have hheld : ∀ jobId holder, s'.HeldBy jobId holder ↔ s.HeldBy jobId holder := by
    intro jobId holder
    cases holder with
    | queue => simp only [HeldBy, hqueue]
    | worker worker => simp only [HeldBy, hworkers worker]
    | decided => simp only [HeldBy, hdecided]
  exact
    { unique := fun jobId l l' hl hl' =>
        h.unique jobId l l' ((hheld jobId l).mp hl) ((hheld jobId l').mp hl')
      queueNodup := hqueue ▸ h.queueNodup
      decidedNodup := hdecided ▸ h.decidedNodup
      total := by
        rw [hcreated]
        intro c hc
        obtain ⟨holder, hholder⟩ := h.total c hc
        exact ⟨holder, (hheld _ _).mpr hholder⟩
      known := by
        rw [hcreated]
        exact fun jobId l hl => h.known jobId l ((hheld jobId l).mp hl) }

/-- A step that moves one job from one place to another. -/
theorem Custody.move {s s' : System} (h : s.Custody) (jobId : Nat) (source dest : Holder)
    (hcreated : s'.created = s.created)
    (hqueue : (s'.engine.pendingJobs.map (·.jobId)).Nodup)
    (hdecided : (s'.decided.map (·.1)).Nodup) (hsource : s.HeldBy jobId source)
    (hdest : s'.HeldBy jobId dest)
    (hleft : ∀ holder, s'.HeldBy jobId holder → holder = dest ∨
      (s.HeldBy jobId holder ∧ holder ≠ source))
    (hother : ∀ id holder, id ≠ jobId → (s'.HeldBy id holder ↔ s.HeldBy id holder)) :
    s'.Custody := by
  -- the job was at its source only, so it is at its destination only
  have honly : ∀ holder, s'.HeldBy jobId holder → holder = dest := by
    intro holder hheld
    rcases hleft holder hheld with heq | ⟨hold, hne⟩
    · exact heq
    · exact absurd (h.unique jobId _ _ hold hsource) hne
  exact
    { unique := by
        intro id l l' hl hl'
        by_cases heq : id = jobId
        · subst heq
          exact (honly l hl).trans (honly l' hl').symm
        · exact h.unique id l l' ((hother id l heq).mp hl) ((hother id l' heq).mp hl')
      queueNodup := hqueue
      decidedNodup := hdecided
      total := by
        rw [hcreated]
        intro c hc
        by_cases heq : c.1.jobId = jobId
        · rw [heq]
          exact ⟨dest, hdest⟩
        · obtain ⟨holder, hholder⟩ := h.total c hc
          exact ⟨holder, (hother _ _ heq).mpr hholder⟩
      known := by
        rw [hcreated]
        intro id l hl
        by_cases heq : id = jobId
        · rw [heq]
          exact h.known jobId source hsource
        · exact h.known id l ((hother id l heq).mp hl) }

/-- Giving a worker the same job in another phase moves nothing. -/
theorem job?_setWorker {s : System} {worker : Nat} {phase : WorkerPhase}
    (hphase : phase.job? = (s.workers worker).job?) (other : Nat) :
    ((s.setWorker worker phase).workers other).job? = (s.workers other).job? := by
  change ((Function.update s.workers worker phase) other).job? = _
  by_cases heq : other = worker
  · rw [heq, Function.update_self, hphase]
  · rw [Function.update_of_ne heq]

/-- What a worker other than the one that moved holds. -/
theorem heldBy_setWorker_of_ne {s : System} {worker other jobId : Nat} {phase : WorkerPhase}
    (hne : other ≠ worker) :
    (s.setWorker worker phase).HeldBy jobId (.worker other) ↔ s.HeldBy jobId (.worker other) := by
  change (∃ job, ((Function.update s.workers worker phase) other).job? = some job ∧ _) ↔ _
  rw [Function.update_of_ne hne]
  rfl

theorem heldBy_setWorker_self {s : System} {worker jobId : Nat} {phase : WorkerPhase} :
    (s.setWorker worker phase).HeldBy jobId (.worker worker) ↔
      ∃ job, phase.job? = some job ∧ job.jobId = jobId := by
  change (∃ job, ((Function.update s.workers worker phase) worker).job? = some job ∧ _) ↔ _
  rw [Function.update_self]

/-- A worker without a job holds nothing. -/
theorem not_heldBy_worker {s : System} {worker jobId : Nat}
    (h : (s.workers worker).job? = none) : ¬ s.HeldBy jobId (.worker worker) := by
  rintro ⟨job, hjob, -⟩
  rw [h] at hjob
  exact absurd hjob (by simp)

/-- A worker with a job holds this job only. -/
theorem heldBy_worker_iff {s : System} {worker jobId : Nat} {job : ReplicationJob}
    (h : (s.workers worker).job? = some job) :
    s.HeldBy jobId (.worker worker) ↔ job.jobId = jobId := by
  constructor
  · rintro ⟨held, hheld, hid⟩
    rw [h] at hheld
    obtain rfl := Option.some.inj hheld
    exact hid
  · exact fun hid => ⟨job, h, hid⟩

/-- A pop moves the job from the queue to the worker. -/
theorem Custody.popped {s : System} (h : s.Custody) {worker now : Nat} {job : ReplicationJob}
    {engine' : ReplicationEngine} (hworker : s.workers worker = .idle)
    (hpop : s.engine.popNextReadyAt now = (some job, engine')) :
    (System.setWorker { s with engine := engine' } worker (.popped job)).Custody := by
  obtain ⟨hperm, -⟩ := ReplicationEngine.popNextReadyAt_some hpop
  have hnodup : ((job :: engine'.pendingJobs).map (·.jobId)).Nodup :=
    ((hperm.map (·.jobId)).nodup_iff).mp h.queueNodup
  rw [List.map_cons, List.nodup_cons] at hnodup
  have hidle : ∀ id, ¬ s.HeldBy id (.worker worker) :=
    fun id => not_heldBy_worker (by rw [hworker]; rfl)
  refine h.move job.jobId .queue (.worker worker) rfl hnodup.2
    h.decidedNodup ⟨job, hperm.mem_iff.mpr List.mem_cons_self, rfl⟩
    (heldBy_setWorker_self.mpr ⟨job, rfl, rfl⟩) ?_ ?_
  · intro holder hheld
    cases holder with
    | queue =>
      -- the popped id occurs once on the queue
      obtain ⟨other, hother, hid⟩ := hheld
      exact absurd (List.mem_map.mpr ⟨other, hother, hid⟩) hnodup.1
    | worker other =>
      by_cases heq : other = worker
      · rw [heq]
        exact Or.inl rfl
      · exact Or.inr ⟨(heldBy_setWorker_of_ne heq).mp hheld, by simp⟩
    | decided => exact Or.inr ⟨hheld, by simp⟩
  · intro id holder hne
    cases holder with
    | queue =>
      change (∃ other ∈ engine'.pendingJobs, other.jobId = id) ↔
        ∃ other ∈ s.engine.pendingJobs, other.jobId = id
      constructor
      · rintro ⟨other, hother, hid⟩
        exact ⟨other, hperm.mem_iff.mpr (List.mem_cons_of_mem _ hother), hid⟩
      · rintro ⟨other, hother, hid⟩
        rcases List.mem_cons.mp (hperm.mem_iff.mp hother) with rfl | hrest
        · exact absurd hid.symm hne
        · exact ⟨other, hrest, hid⟩
    | worker other =>
      by_cases heq : other = worker
      · subst heq
        rw [heldBy_setWorker_self]
        constructor
        · rintro ⟨held, hheld, hid⟩
          obtain rfl := Option.some.inj hheld
          exact absurd hid.symm hne
        · exact fun hheld => absurd hheld (hidle id)
      · exact heldBy_setWorker_of_ne heq
    | decided => exact Iff.rfl

/-- A scheduled retry moves the job from the worker back to the queue. -/
theorem Custody.retryPushed {s : System} (h : s.Custody) {worker : Nat}
    {job retry : ReplicationJob} (hworker : (s.workers worker).job? = some job)
    (hid : retry.jobId = job.jobId) :
    (System.setWorker { s with engine := s.engine.scheduleRetry retry } worker
      (.retryPushed retry)).Custody := by
  have hheld := (heldBy_worker_iff hworker).mpr rfl
  have hnotQueue : job.jobId ∉ s.engine.pendingJobs.map (·.jobId) := by
    intro hmem
    obtain ⟨other, hother, hotherid⟩ := List.mem_map.mp hmem
    exact absurd (h.unique job.jobId .queue _ ⟨other, hother, hotherid⟩ hheld) (by simp)
  have hnodup : ((s.engine.pendingJobs ++ [retry]).map (·.jobId)).Nodup := by
    rw [List.map_append, List.map_singleton, hid]
    refine List.nodup_append.mpr ⟨h.queueNodup, List.nodup_singleton _, ?_⟩
    intro id hmem id' hmem' heq
    obtain rfl := List.mem_singleton.mp hmem'
    exact hnotQueue (heq ▸ hmem)
  refine h.move job.jobId (.worker worker) .queue rfl hnodup
    h.decidedNodup hheld
    ⟨retry, List.mem_append_right _ (List.mem_singleton_self retry), hid⟩ ?_ ?_
  · intro holder hheld'
    cases holder with
    | queue => exact Or.inl rfl
    | worker other =>
      by_cases heq : other = worker
      · subst heq
        obtain ⟨held, hnone, -⟩ := heldBy_setWorker_self.mp hheld'
        exact absurd hnone (by simp [WorkerPhase.job?])
      · exact Or.inr ⟨(heldBy_setWorker_of_ne heq).mp hheld', by simpa using heq⟩
    | decided => exact Or.inr ⟨hheld', by simp⟩
  · intro id holder hne
    cases holder with
    | queue =>
      change (∃ other ∈ s.engine.pendingJobs ++ [retry], other.jobId = id) ↔
        ∃ other ∈ s.engine.pendingJobs, other.jobId = id
      constructor
      · rintro ⟨other, hother, hotherid⟩
        rcases List.mem_append.mp hother with hold | hlast
        · exact ⟨other, hold, hotherid⟩
        · obtain rfl := List.mem_singleton.mp hlast
          exact absurd (hotherid.symm.trans hid) hne
      · rintro ⟨other, hother, hotherid⟩
        exact ⟨other, List.mem_append_left _ hother, hotherid⟩
    | worker other =>
      by_cases heq : other = worker
      · subst heq
        rw [heldBy_setWorker_self]
        constructor
        · rintro ⟨held, hnone, -⟩
          exact absurd hnone (by simp [WorkerPhase.job?])
        · intro hother
          exact absurd ((heldBy_worker_iff hworker).mp hother).symm hne
      · exact heldBy_setWorker_of_ne heq
    | decided => exact Iff.rfl

/-- A decision moves the job from the worker to the decided ones. -/
theorem Custody.decide {s s' : System} (h : s.Custody) {worker : Nat} {job : ReplicationJob}
    {outcome : Outcome} (hworker : (s.workers worker).job? = some job)
    (hqueue : s'.engine.pendingJobs = s.engine.pendingJobs) (hcreated : s'.created = s.created)
    (hdecided : s'.decided = s.decided ++ [(job.jobId, outcome)])
    (hworkers : s'.workers = s.workers) : (s'.setWorker worker .idle).Custody := by
  have hheld := (heldBy_worker_iff hworker).mpr rfl
  have hnotDecided : job.jobId ∉ s.decided.map (·.1) := by
    intro hmem
    obtain ⟨⟨id, other⟩, hother, rfl⟩ := List.mem_map.mp hmem
    exact absurd (h.unique _ .decided _ ⟨other, hother⟩ hheld) (by simp)
  have hnodup : (s'.decided.map (·.1)).Nodup := by
    rw [hdecided, List.map_append]
    refine List.nodup_append.mpr ⟨h.decidedNodup, List.nodup_singleton _, ?_⟩
    intro id hmem id' hmem' heq
    obtain rfl := List.mem_singleton.mp hmem'
    have hid : id = job.jobId := heq
    exact hnotDecided (hid ▸ hmem)
  have hqueueHeld : ∀ id, (s'.setWorker worker .idle).HeldBy id .queue ↔ s.HeldBy id .queue := by
    intro id
    change (∃ other ∈ s'.engine.pendingJobs, _) ↔ _
    rw [hqueue]
    rfl
  have hworkerHeld : ∀ id other, other ≠ worker →
      ((s'.setWorker worker .idle).HeldBy id (.worker other) ↔ s.HeldBy id (.worker other)) := by
    intro id other hne
    rw [heldBy_setWorker_of_ne hne]
    simp only [HeldBy, hworkers]
  have hidle : ∀ id, ¬ (s'.setWorker worker .idle).HeldBy id (.worker worker) := by
    intro id hid
    obtain ⟨held, hnone, -⟩ := heldBy_setWorker_self.mp hid
    exact absurd hnone (by simp [WorkerPhase.job?])
  refine h.move job.jobId (.worker worker) .decided hcreated
    (hqueue ▸ h.queueNodup) hnodup hheld ⟨outcome, ?_⟩ ?_ ?_
  · change _ ∈ s'.decided
    rw [hdecided]
    exact List.mem_append_right _ (List.mem_singleton_self _)
  · intro holder hheld'
    cases holder with
    | queue => exact Or.inr ⟨(hqueueHeld _).mp hheld', by simp⟩
    | worker other =>
      by_cases heq : other = worker
      · subst heq
        exact absurd hheld' (hidle _)
      · exact Or.inr ⟨(hworkerHeld _ other heq).mp hheld', by simpa using heq⟩
    | decided => exact Or.inl rfl
  · intro id holder hne
    cases holder with
    | queue => exact hqueueHeld id
    | worker other =>
      by_cases heq : other = worker
      · subst heq
        refine iff_of_false (hidle id) ?_
        intro hother
        exact hne ((heldBy_worker_iff hworker).mp hother).symm
      · exact hworkerHeld id other heq
    | decided =>
      change (∃ other, (id, other) ∈ s'.decided) ↔ ∃ other, (id, other) ∈ s.decided
      rw [hdecided]
      constructor
      · rintro ⟨other, hother⟩
        rcases List.mem_append.mp hother with hold | hlast
        · exact ⟨other, hold⟩
        · exact absurd (Prod.mk.inj (List.mem_singleton.mp hlast)).1 hne
      · rintro ⟨other, hother⟩
        exact ⟨other, List.mem_append_left _ hother⟩

/-- New jobs go to the queue under ids that nobody holds. -/
theorem Custody.enqueue {config : Config} {s : System} (hknown : s.JobsKnown) (h : s.Custody)
    {version : Nat} {operation : ReplicationOperation} {topology : TopologyPolicy}
    {object : ReplicationObjectRef} {now : Nat} :
    (s.pushJobs version (s.engine.enqueueJobs topology (some config.homeProvider) operation
      object now)).Custody := by
  generalize henq : s.engine.enqueueJobs topology (some config.homeProvider) operation object
    now = enqueued
  have hqueue : enqueued.2.pendingJobs = s.engine.pendingJobs ++ enqueued.1 := by
    rw [← henq]
    rfl
  have hnodup : (enqueued.1.map (·.jobId)).Nodup := by
    rw [← henq]
    exact ReplicationEngine.enqueueJobs_nodup
  have habove : ∀ job ∈ enqueued.1, s.engine.nextJobId ≤ job.jobId := by
    rw [← henq]
    exact fun job hjob => (ReplicationEngine.enqueueJobs_jobId_mem hjob).1
  have hfresh : ∀ job ∈ enqueued.1, ∀ holder, ¬ s.HeldBy job.jobId holder := by
    intro job hjob holder hheld
    obtain ⟨c, hc, hid⟩ := h.known _ _ hheld
    have hbelow := hknown.fresh c hc
    have := habove job hjob
    omega
  have hheld : ∀ id holder, (s.pushJobs version enqueued).HeldBy id holder →
      s.HeldBy id holder ∨ (holder = .queue ∧ ∃ job ∈ enqueued.1, job.jobId = id) := by
    intro id holder hheld
    cases holder with
    | queue =>
      obtain ⟨job, hjob, hid⟩ := hheld
      change job ∈ enqueued.2.pendingJobs at hjob
      rw [hqueue] at hjob
      rcases List.mem_append.mp hjob with hold | hnew
      · exact Or.inl ⟨job, hold, hid⟩
      · exact Or.inr ⟨rfl, job, hnew, hid⟩
    | worker worker => exact Or.inl hheld
    | decided => exact Or.inl hheld
  exact
    { unique := by
        intro id l l' hl hl'
        rcases hheld id l hl with hold | ⟨rfl, job, hjob, rfl⟩
        · rcases hheld id l' hl' with hold' | ⟨rfl, job, hjob, rfl⟩
          · exact h.unique id l l' hold hold'
          · exact absurd hold (hfresh job hjob l)
        · rcases hheld _ l' hl' with hold' | ⟨rfl, -⟩
          · exact absurd hold' (hfresh job hjob l')
          · rfl
      queueNodup := by
        change (enqueued.2.pendingJobs.map (·.jobId)).Nodup
        rw [hqueue, List.map_append]
        refine List.nodup_append.mpr ⟨h.queueNodup, hnodup, ?_⟩
        intro id hmem id' hmem' heq
        obtain ⟨old, hold, rfl⟩ := List.mem_map.mp hmem
        obtain ⟨new, hnew, rfl⟩ := List.mem_map.mp hmem'
        exact hfresh new hnew .queue ⟨old, hold, heq⟩
      decidedNodup := h.decidedNodup
      total := by
        intro c hc
        rcases List.mem_append.mp hc with hc | hc
        · obtain ⟨holder, hholder⟩ := h.total c hc
          refine ⟨holder, ?_⟩
          cases holder with
          | queue =>
            obtain ⟨job, hjob, hid⟩ := hholder
            refine ⟨job, ?_, hid⟩
            change job ∈ enqueued.2.pendingJobs
            rw [hqueue]
            exact List.mem_append_left _ hjob
          | worker worker => exact hholder
          | decided => exact hholder
        · obtain ⟨job, hjob, rfl⟩ := List.mem_map.mp hc
          refine ⟨.queue, job, ?_, rfl⟩
          change job ∈ enqueued.2.pendingJobs
          rw [hqueue]
          exact List.mem_append_right _ hjob
      known := by
        intro id l hl
        rcases hheld id l hl with hold | ⟨-, job, hjob, rfl⟩
        · obtain ⟨c, hc, hid⟩ := h.known id l hold
          exact ⟨c, List.mem_append_left _ hc, hid⟩
        · exact ⟨(job, version), List.mem_append_right _ (List.mem_map_of_mem hjob), rfl⟩ }

theorem Custody.step {config : Config} {s s' : System} {action : Action}
    (hknown : s.JobsKnown) (h : s.Custody) (hstep : StepTo config s action s') :
    s'.Custody := by
  cases hstep with
  | changeHome hclient => exact h.stay rfl rfl rfl (fun _ => rfl)
  | enqueue hclient hobject => exact (h.enqueue hknown).stay rfl rfl rfl (fun _ => rfl)
  | persistJobs hclient => exact h.stay rfl rfl rfl (fun _ => rfl)
  | popped hworker hpop => exact h.popped hworker hpop
  | nothingReady hworker => exact h
  | current hworker hcurrent =>
    exact h.stay rfl rfl rfl (job?_setWorker (congrArg WorkerPhase.job? hworker).symm)
  | sourceRead hworker hput hhome =>
    exact h.stay rfl rfl rfl (job?_setWorker (congrArg WorkerPhase.job? hworker).symm)
  | failed hworker =>
    exact h.stay rfl rfl rfl
      (job?_setWorker (WorkerPhase.job?_of_inProcess? hworker).symm)
  | put hworker =>
    refine h.stay rfl rfl rfl (@job?_setWorker s _ _ ?_)
    rw [WorkerPhase.job?_afterAnswer]
    exact (congrArg WorkerPhase.job? hworker).symm
  | delete hworker hdelete =>
    refine h.stay rfl rfl rfl (@job?_setWorker s _ _ ?_)
    rw [WorkerPhase.job?_afterAnswer]
    exact (congrArg WorkerPhase.job? hworker).symm
  | completed hworker hmark =>
    exact h.decide (congrArg WorkerPhase.job? hworker) rfl rfl rfl rfl
  | retryPushed hworker => exact h.retryPushed (congrArg WorkerPhase.job? hworker) rfl
  | retrySaved hworker =>
    exact h.stay rfl rfl rfl (@job?_setWorker s _ _ (congrArg WorkerPhase.job? hworker).symm)
  | deadLettered hworker hmark =>
    exact h.decide (congrArg WorkerPhase.job? hworker) rfl rfl rfl rfl

/-! ## Section 3: Rows of one job across writes to others -/

/-- The stores agree on the row and the dead letter of a job. -/
structure SameFor (store store' : MetadataStore) (jobId : Nat) : Prop where
  rows : ∀ row : ReplicationJob, row.jobId = jobId →
    (row ∈ store'.replicationJobs ↔ row ∈ store.replicationJobs)
  letters : ∀ letter : DeadLetterRow, letter.originalJobId = jobId →
    (letter ∈ store'.replicationDeadLetters ↔ letter ∈ store.replicationDeadLetters)

/-- The row of a job that is still to run. -/
def HasRunnable (store : MetadataStore) (jobId : Nat) : Prop :=
  ∃ row ∈ store.replicationJobs, row.jobId = jobId ∧ row.status.isRunnable = true

section Rows

variable {store store' : MetadataStore} {jobId : Nat}

theorem SameFor.recorded (h : SameFor store store' jobId) {outcome : Outcome}
    (hrecorded : Recorded store jobId outcome) : Recorded store' jobId outcome := by
  cases outcome with
  | completed =>
    intro row hrow hid
    exact hrecorded row ((h.rows row hid).mp hrow) hid
  | deadLettered =>
    obtain ⟨⟨row, hrow, hid, hstatus⟩, letter, hletter, hletterid⟩ := hrecorded
    exact ⟨⟨row, (h.rows row hid).mpr hrow, hid, hstatus⟩, letter,
      (h.letters letter hletterid).mpr hletter, hletterid⟩

theorem SameFor.hasRunnable (h : SameFor store store' jobId) (hrow : HasRunnable store jobId) :
    HasRunnable store' jobId := by
  obtain ⟨row, hmem, hid, hstatus⟩ := hrow
  exact ⟨row, (h.rows row hid).mpr hmem, hid, hstatus⟩

/-- Retention prunes completed history only, as far as a record goes. -/
theorem recorded_pruneHistory {retention : MetadataRetentionPolicy} {outcome : Outcome}
    (h : Recorded store jobId outcome) :
    Recorded (store.pruneHistory retention).2 jobId outcome := by
  cases outcome with
  | completed =>
    intro row hrow hid
    exact h row (MetadataStore.mem_pruneHistory.mp hrow).1 hid
  | deadLettered =>
    obtain ⟨⟨row, hrow, hid, hstatus⟩, letter, hletter, hletterid⟩ := h
    refine ⟨⟨row, ?_, hid, hstatus⟩, letter, ?_, hletterid⟩
    · exact MetadataStore.pruneHistory_keeps hrow
        (Or.inr (Or.inr ⟨letter, hletter, hletterid.trans hid.symm⟩))
    · rw [MetadataStore.pruneHistory_replicationDeadLetters]
      exact hletter

theorem hasRunnable_pruneHistory {retention : MetadataRetentionPolicy}
    (h : HasRunnable store jobId) : HasRunnable (store.pruneHistory retention).2 jobId := by
  obtain ⟨row, hrow, hid, hstatus⟩ := h
  exact ⟨row, MetadataStore.pruneHistory_keeps hrow (Or.inl hstatus), hid, hstatus⟩

theorem sameFor_enqueueJobs {jobs : List ReplicationJob}
    (hnodup : (jobs.map (·.jobId)).Nodup) (hne : ∀ job ∈ jobs, job.jobId ≠ jobId) :
    SameFor store (store.enqueueJobs jobs) jobId where
  rows := by
    intro row hid
    rw [MetadataStore.mem_enqueueJobs hnodup]
    constructor
    · rintro (hnew | ⟨hold, -⟩)
      · exact absurd hid (hne row hnew)
      · exact hold
    · intro hold
      refine Or.inr ⟨hold, ?_⟩
      intro hmem
      obtain ⟨job, hjob, heq⟩ := List.mem_map.mp hmem
      exact hne job hjob (heq.trans hid)
  letters := by
    intro letter _
    rw [MetadataStore.enqueueJobs_replicationDeadLetters]

/-- An upsert of runnable rows leaves a runnable row. -/
theorem hasRunnable_enqueueJobs {jobs : List ReplicationJob}
    (hnodup : (jobs.map (·.jobId)).Nodup) (hjobs : ∀ job ∈ jobs, job.status.isRunnable = true)
    (h : HasRunnable store jobId) : HasRunnable (store.enqueueJobs jobs) jobId := by
  obtain ⟨row, hrow, hid, hstatus⟩ := h
  by_cases hmem : row.jobId ∈ jobs.map (·.jobId)
  · obtain ⟨job, hjob, heq⟩ := List.mem_map.mp hmem
    exact ⟨job, (MetadataStore.mem_enqueueJobs hnodup).mpr (Or.inl hjob), heq.trans hid,
      hjobs job hjob⟩
  · exact ⟨row, (MetadataStore.mem_enqueueJobs hnodup).mpr (Or.inr ⟨hrow, hmem⟩), hid, hstatus⟩

/-- Marking one job leaves the records and the runnable rows of the others. -/
theorem markJobStatus_others {marked attempts : Nat} {status : ReplicationStatus}
    {lastError : Option String} {pruned : MetadataPruneResult}
    (h : store.markJobStatus marked status attempts lastError = .ok (pruned, store'))
    (hne : jobId ≠ marked) :
    (∀ outcome, Recorded store jobId outcome → Recorded store' jobId outcome) ∧
      (HasRunnable store jobId → HasRunnable store' jobId) := by
  obtain ⟨job, hjob, hid, updated, rfl, hletters, hrows⟩ := MetadataStore.markJobStatus_ok h
  have hsame : SameFor store updated jobId :=
    { rows := by
        intro row hrowid
        rw [hrows]
        constructor
        · rintro (⟨hold, -⟩ | rfl)
          · exact hold
          · exact absurd (hrowid.symm.trans hid) hne
        · exact fun hold => Or.inl ⟨hold, hrowid ▸ hne⟩
      letters := by
        intro letter _
        rw [hletters] }
  exact ⟨fun outcome hrecorded => recorded_pruneHistory (hsame.recorded hrecorded),
    fun hrow => hasRunnable_pruneHistory (hsame.hasRunnable hrow)⟩

theorem markJobDeadLetter_others {marked attempts at_ : Nat} {lastError : Option String}
    {reason : String} {entry : ReplicationDeadLetterEntry}
    (h : store.markJobDeadLetter marked attempts lastError reason at_ = .ok (entry, store'))
    (hne : jobId ≠ marked) :
    (∀ outcome, Recorded store jobId outcome → Recorded store' jobId outcome) ∧
      (HasRunnable store jobId → HasRunnable store' jobId) := by
  obtain ⟨job, hjob, hid, lettered, rfl, hrows, letter, hletterid, -, hletters⟩ :=
    MetadataStore.markJobDeadLetter_ok h
  have hsame : SameFor store lettered jobId :=
    { rows := by
        intro row hrowid
        rw [hrows]
        constructor
        · rintro (⟨hold, -⟩ | rfl)
          · exact hold
          · exact absurd (hrowid.symm.trans hid) hne
        · exact fun hold => Or.inl ⟨hold, hrowid ▸ hne⟩
      letters := by
        intro other hotherid
        rw [hletters]
        constructor
        · rintro (rfl | ⟨hold, -⟩)
          · exact absurd (hotherid.symm.trans hletterid) hne
          · exact hold
        · exact fun hold => Or.inr ⟨hold, hotherid ▸ hne⟩ }
  exact ⟨fun outcome hrecorded => recorded_pruneHistory (hsame.recorded hrecorded),
    fun hrow => hasRunnable_pruneHistory (hsame.hasRunnable hrow)⟩

/-- What is marked is recorded. -/
theorem recorded_markJobStatus {attempts : Nat} {lastError : Option String}
    {pruned : MetadataPruneResult}
    (h : store.markJobStatus jobId .completed attempts lastError = .ok (pruned, store')) :
    Recorded store' jobId .completed := by
  intro row hrow hid
  obtain ⟨-, -, -, -, ⟨-, hne⟩ | ⟨-, hstatus⟩⟩ := MetadataStore.markJobStatus_origin h hrow
  · exact absurd hid hne
  · exact hstatus

theorem recorded_markJobDeadLetter {attempts at_ : Nat} {lastError : Option String}
    {reason : String} {entry : ReplicationDeadLetterEntry}
    (h : store.markJobDeadLetter jobId attempts lastError reason at_ = .ok (entry, store')) :
    Recorded store' jobId .deadLettered := by
  obtain ⟨job, hjob, hid, lettered, rfl, hrows, letter, hletterid, -, hletters⟩ :=
    MetadataStore.markJobDeadLetter_ok h
  apply recorded_pruneHistory
  exact ⟨⟨_, (hrows _).mpr (Or.inr rfl), hid, rfl⟩, letter, (hletters _).mpr (Or.inl rfl),
    hletterid⟩

end Rows

/-! ## Section 4: Decided and undecided jobs -/

structure OutcomeTracked (s : System) : Prop where
  recorded : ∀ jobId outcome, (jobId, outcome) ∈ s.decided → Recorded s.store jobId outcome
  settled : ∀ jobId outcome, (jobId, outcome) ∈ s.decided → s.Settled jobId
  awaited : ∀ c ∈ s.created, (∀ outcome, (c.1.jobId, outcome) ∉ s.decided) →
    (∃ client, c.1 ∈ (s.clients client).unpersisted) ∨ HasRunnable s.store c.1.jobId

theorem Settled.setWorker {s : System} {jobId worker : Nat} {phase : WorkerPhase}
    (h : s.Settled jobId)
    (hphase : ∀ job, phase.unsaved? = some job → job.jobId ≠ jobId) :
    (s.setWorker worker phase).Settled jobId :=
  ⟨h.1, (Function.forall_update_iff s.workers
    (fun _ phase => ∀ job, phase.unsaved? = some job → job.jobId ≠ jobId)).mpr
      ⟨hphase, fun w _ => h.2 w⟩⟩

theorem Settled.setClient {s : System} {jobId client : Nat} {phase : ClientPhase}
    (h : s.Settled jobId) (hphase : ∀ job ∈ phase.unpersisted, job.jobId ≠ jobId) :
    (s.setClient client phase).Settled jobId :=
  ⟨(Function.forall_update_iff s.clients
    (fun _ phase => ∀ job ∈ phase.unpersisted, job.jobId ≠ jobId)).mpr
      ⟨hphase, fun c _ => h.1 c⟩, h.2⟩

/-- A worker changes its phase, with nothing to save but the job it held. -/
theorem OutcomeTracked.setWorker {s : System} (h : s.OutcomeTracked) {worker : Nat}
    {phase : WorkerPhase}
    (hphase : ∀ job, phase.unsaved? = some job → ∀ outcome, (job.jobId, outcome) ∉ s.decided) :
    (s.setWorker worker phase).OutcomeTracked :=
  { h with
    settled := by
      intro jobId outcome hdecided
      apply Settled.setWorker (h.settled jobId outcome hdecided)
      intro job hjob heq
      exact hphase job hjob outcome (heq ▸ hdecided) }

/-- A decision that is marked while its job is settled. -/
theorem OutcomeTracked.decide {s s' : System} (h : s.OutcomeTracked) (hcustody : s.Custody)
    {worker : Nat} {job : ReplicationJob} {outcome : Outcome}
    (hheld : (s.workers worker).job? = some job) (hsettled : s.Settled job.jobId)
    (hworkers : s'.workers = s.workers) (hclients : s'.clients = s.clients)
    (hcreated : s'.created = s.created)
    (hdecided : s'.decided = s.decided ++ [(job.jobId, outcome)])
    (hrecorded : Recorded s'.store job.jobId outcome)
    (hothers : ∀ id, id ≠ job.jobId →
      (∀ other, Recorded s.store id other → Recorded s'.store id other) ∧
        (HasRunnable s.store id → HasRunnable s'.store id)) :
    (s'.setWorker worker .idle).OutcomeTracked := by
  -- a decided job is with no worker
  have hne : ∀ id other, (id, other) ∈ s.decided → id ≠ job.jobId := by
    rintro id other hmem rfl
    exact absurd (hcustody.unique _ .decided (.worker worker) ⟨other, hmem⟩ ⟨job, hheld, rfl⟩)
      (by simp)
  have hstay : ∀ id, s.Settled id → (s'.setWorker worker .idle).Settled id := by
    intro id hid
    refine Settled.setWorker ⟨?_, ?_⟩ (by simp [WorkerPhase.unsaved?])
    · rw [hclients]
      exact hid.1
    · rw [hworkers]
      exact hid.2
  exact
    { recorded := by
        intro id other hmem
        change (id, other) ∈ s'.decided at hmem
        rw [hdecided] at hmem
        rcases List.mem_append.mp hmem with hold | hlast
        · exact (hothers id (hne id other hold)).1 other (h.recorded id other hold)
        · obtain ⟨rfl, rfl⟩ := Prod.mk.inj (List.mem_singleton.mp hlast)
          exact hrecorded
      settled := by
        intro id other hmem
        change (id, other) ∈ s'.decided at hmem
        rw [hdecided] at hmem
        rcases List.mem_append.mp hmem with hold | hlast
        · exact hstay id (h.settled id other hold)
        · obtain ⟨rfl, -⟩ := Prod.mk.inj (List.mem_singleton.mp hlast)
          exact hstay _ hsettled
      awaited := by
        intro c hc hundecided
        change c ∈ s'.created at hc
        change ∀ other, (c.1.jobId, other) ∉ s'.decided at hundecided
        rw [hcreated] at hc
        rw [hdecided] at hundecided
        have hcne : c.1.jobId ≠ job.jobId := by
          intro heq
          exact hundecided outcome
            (List.mem_append_right _ (List.mem_singleton.mpr (by rw [heq])))
        rcases h.awaited c hc (fun other hmem =>
          hundecided other (List.mem_append_left _ hmem)) with ⟨client, hmem⟩ | hrow
        · refine Or.inl ⟨client, ?_⟩
          change c.1 ∈ (s'.clients client).unpersisted
          rw [hclients]
          exact hmem
        · exact Or.inr ((hothers _ hcne).2 hrow) }

/-- A settled job in a worker's hands has its row, so marking it succeeds. -/
theorem OutcomeTracked.exists_row {s : System} (hknown : s.JobsKnown) (hcustody : s.Custody)
    (h : s.OutcomeTracked) {worker : Nat} {job : ReplicationJob}
    (hheld : (s.workers worker).job? = some job) (hsettled : s.Settled job.jobId) :
    ∃ row ∈ s.store.replicationJobs, row.jobId = job.jobId := by
  obtain ⟨c, hc, hid, -⟩ := hknown.workers worker job hheld
  have hundecided : ∀ outcome, (c.1.jobId, outcome) ∉ s.decided := by
    intro outcome hmem
    exact absurd (hcustody.unique _ .decided (.worker worker) ⟨outcome, hmem⟩
      ⟨job, hheld, hid.symm⟩) (by simp)
  rcases h.awaited c hc hundecided with ⟨client, hmem⟩ | ⟨row, hrow, hrowid, -⟩
  · exact absurd hid (hsettled.1 client c.1 hmem)
  · exact ⟨row, hrow, hrowid.trans hid⟩

theorem OutcomeTracked.step {config : Config} {s s' : System} {action : Action}
    (hknown : s.JobsKnown) (hstored : s.StoreTracked) (hcustody : s.Custody)
    (h : s.OutcomeTracked) (hguard : s.recordGuard action) (hstep : StepTo config s action s') :
    s'.OutcomeTracked := by
  cases hstep with
  | changeHome hclient =>
    rename_i client operation bucket key
    have hempty : (s.clients client).unpersisted = [] := by
      rw [hclient]
      rfl
    exact
      { recorded := h.recorded
        settled := fun jobId outcome hmem =>
          @Settled.setClient (s.writeHome operation bucket key) jobId client _
            (h.settled jobId outcome hmem) (by simp [ClientPhase.unpersisted])
        awaited := by
          intro c hc hundecided
          refine (h.awaited c hc hundecided).imp ?_ id
          rintro ⟨holder, hmem⟩
          have hne : holder ≠ client := by
            rintro rfl
            rw [hempty] at hmem
            exact absurd hmem List.not_mem_nil
          refine ⟨holder, ?_⟩
          change c.1 ∈ (Function.update s.clients client _ holder).unpersisted
          rw [Function.update_of_ne hne]
          exact hmem }
  | enqueue hclient hobject =>
    rename_i client operation bucket key version jobs topology enqueuedOperation object now
    generalize henq : s.engine.enqueueJobs topology (some config.homeProvider)
      enqueuedOperation object now = enqueued
    have habove : ∀ job ∈ enqueued.1, s.engine.nextJobId ≤ job.jobId := by
      rw [← henq]
      exact fun job hjob => (ReplicationEngine.enqueueJobs_jobId_mem hjob).1
    have hjobs : (s.clients client).unpersisted = jobs := by
      rw [hclient]
      rfl
    exact
      { recorded := h.recorded
        settled := by
          intro jobId outcome hmem
          refine @Settled.setClient (s.pushJobs version enqueued) jobId client _
            (h.settled jobId outcome hmem) ?_
          intro job hjob
          rcases List.mem_append.mp hjob with hold | hnew
          · exact (h.settled jobId outcome hmem).1 client job (hjobs ▸ hold)
          · -- a decided id is below the counter
            obtain ⟨c, hc, hid⟩ := hcustody.known jobId .decided ⟨outcome, hmem⟩
            have hbelow := hknown.fresh c hc
            have := habove job hnew
            omega
        awaited := by
          intro c hc hundecided
          rcases List.mem_append.mp hc with hc | hc
          · refine (h.awaited c hc hundecided).imp ?_ id
            rintro ⟨holder, hmem⟩
            refine ⟨holder, ?_⟩
            change c.1 ∈ (Function.update s.clients client _ holder).unpersisted
            by_cases heq : holder = client
            · subst heq
              rw [Function.update_self]
              exact List.mem_append_left _ (hjobs ▸ hmem)
            · rw [Function.update_of_ne heq]
              exact hmem
          · obtain ⟨job, hjob, rfl⟩ := List.mem_map.mp hc
            refine Or.inl ⟨client, ?_⟩
            change job ∈ (Function.update s.clients client _ client).unpersisted
            rw [Function.update_self]
            exact List.mem_append_right _ hjob }
  | persistJobs hclient =>
    rename_i client operation bucket key version jobs
    have hjobs : (s.clients client).unpersisted = jobs := by
      rw [hclient]
      rfl
    obtain ⟨hnodup, hpending⟩ := hstored.unpersisted client
    rw [hjobs] at hnodup hpending
    have hrunnable : ∀ job ∈ jobs, job.status.isRunnable = true := by
      intro job hjob
      rw [hpending job hjob]
      rfl
    exact
      { recorded := by
          intro jobId outcome hmem
          have hne : ∀ job ∈ jobs, job.jobId ≠ jobId := by
            rw [← hjobs]
            exact (h.settled jobId outcome hmem).1 client
          exact (sameFor_enqueueJobs hnodup hne).recorded (h.recorded jobId outcome hmem)
        settled := fun jobId outcome hmem =>
          @Settled.setClient { s with store := s.store.enqueueJobs jobs } jobId client _
            (h.settled jobId outcome hmem) (by simp [ClientPhase.unpersisted])
        awaited := by
          intro c hc hundecided
          rcases h.awaited c hc hundecided with ⟨holder, hmem⟩ | hrow
          · by_cases heq : holder = client
            · -- the client's jobs have runnable rows now
              rw [heq, hjobs] at hmem
              exact Or.inr ⟨c.1, (MetadataStore.mem_enqueueJobs hnodup).mpr (Or.inl hmem), rfl,
                hrunnable c.1 hmem⟩
            · refine Or.inl ⟨holder, ?_⟩
              change c.1 ∈ (Function.update s.clients client _ holder).unpersisted
              rw [Function.update_of_ne heq]
              exact hmem
          · exact Or.inr (hasRunnable_enqueueJobs hnodup hrunnable hrow) }
  | popped hworker hpop =>
    rename_i worker now job engine'
    have hpopped : System.OutcomeTracked { s with engine := engine' } := { h with }
    exact hpopped.setWorker (by simp [WorkerPhase.unsaved?])
  | nothingReady hworker => exact h
  | current hworker hcurrent => exact h.setWorker (by simp [WorkerPhase.unsaved?])
  | sourceRead hworker hput hhome => exact h.setWorker (by simp [WorkerPhase.unsaved?])
  | failed hworker => exact h.setWorker (by simp [WorkerPhase.unsaved?])
  | put hworker =>
    rename_i worker answer job version
    have hperformed : (s.performAtTarget job (some version)).OutcomeTracked := { h with }
    exact hperformed.setWorker (by simp)
  | delete hworker hdelete =>
    rename_i worker answer job
    have hperformed : (s.performAtTarget job none).OutcomeTracked := { h with }
    exact hperformed.setWorker (by simp)
  | completed hworker hmark =>
    rename_i worker job store'
    have hheld : (s.workers worker).job? = some job := congrArg WorkerPhase.job? hworker
    have hsettled := hguard job hheld
    obtain ⟨pruned, hok⟩ : ∃ pruned, s.store.markJobStatus job.jobId .completed
        (attemptsOf job) none = .ok (pruned, store') := by
      rcases hmark with hok | ⟨-, error, herror⟩
      · exact hok
      · obtain ⟨row, hrow, hid⟩ := h.exists_row hknown hcustody hheld hsettled
        exact absurd hid (MetadataStore.markJobStatus_error_iff.mp ⟨error, herror⟩ row hrow)
    exact @OutcomeTracked.decide s (s.complete job store') h hcustody worker job _ hheld hsettled rfl rfl rfl rfl
      (recorded_markJobStatus hok) (fun id hne => markJobStatus_others hok hne)
  | retryPushed hworker =>
    rename_i worker now job error
    have hheld : (s.workers worker).job? = some job := congrArg WorkerPhase.job? hworker
    have hpushed : System.OutcomeTracked { s with
        engine := s.engine.scheduleRetry (retryJob config.retryPolicy job error now) } :=
      { h with }
    apply hpushed.setWorker
    intro other hother outcome hmem
    -- the job that is retried was with its worker, not decided
    obtain rfl := Option.some.inj hother
    exact absurd (hcustody.unique job.jobId .decided (.worker worker) ⟨outcome, hmem⟩
      ⟨job, hheld, rfl⟩) (by simp)
  | retrySaved hworker =>
    rename_i worker job
    have hunsaved : (s.workers worker).unsaved? = some job :=
      congrArg WorkerPhase.unsaved? hworker
    have hnodup : (([job] : List ReplicationJob).map (·.jobId)).Nodup := List.nodup_singleton _
    have hrunnable : ∀ saved ∈ [job], saved.status.isRunnable = true := by
      intro saved hmem
      obtain rfl := List.mem_singleton.mp hmem
      rw [hstored.unsaved worker saved hunsaved]
      rfl
    have hsaved : System.OutcomeTracked { s with store := s.store.saveJob job } :=
      { h with
        recorded := by
          intro jobId outcome hmem
          have hne : ∀ saved ∈ [job], saved.jobId ≠ jobId := by
            intro saved hmem'
            obtain rfl := List.mem_singleton.mp hmem'
            exact (h.settled jobId outcome hmem).2 worker saved hunsaved
          exact (sameFor_enqueueJobs hnodup hne).recorded (h.recorded jobId outcome hmem)
        awaited := fun c hc hundecided => (h.awaited c hc hundecided).imp id
          (hasRunnable_enqueueJobs hnodup hrunnable) }
    exact hsaved.setWorker (by simp [WorkerPhase.unsaved?])
  | deadLettered hworker hmark =>
    rename_i worker now job error store'
    have hheld : (s.workers worker).job? = some job := congrArg WorkerPhase.job? hworker
    have hsettled := hguard job hheld
    obtain ⟨entry, hok⟩ : ∃ entry, s.store.markJobDeadLetter job.jobId (attemptsOf job)
        (some error.message) (deadLetterReason error) now = .ok (entry, store') := by
      rcases hmark with hok | ⟨-, storeError, herror⟩
      · exact hok
      · obtain ⟨row, hrow, hid⟩ := h.exists_row hknown hcustody hheld hsettled
        exact absurd hid
          (MetadataStore.markJobDeadLetter_error_iff.mp ⟨storeError, herror⟩ row hrow)
    exact @OutcomeTracked.decide s (s.giveUp job error store') h hcustody worker job _ hheld hsettled rfl rfl rfl rfl
      (recorded_markJobDeadLetter hok) (fun id hne => markJobDeadLetter_others hok hne)

/-! ## Section 5: Runs -/

structure OutcomeInvariant (s : System) : Prop where
  jobsKnown : s.JobsKnown
  storeTracked : s.StoreTracked
  custody : s.Custody
  outcomeTracked : s.OutcomeTracked

theorem outcomeInvariant_initial (retention : MetadataRetentionPolicy) (recentLimit : Nat)
    (targets : String × String × String → Option Nat) :
    (initial retention recentLimit targets).OutcomeInvariant where
  jobsKnown := jobsKnown_initial retention recentLimit targets
  storeTracked := storeTracked_initial retention recentLimit targets
  custody :=
    { unique := by
        intro jobId holder holder' hheld
        -- nobody holds anything
        cases holder with
        | queue => exact absurd hheld (by simp [HeldBy, initial, ReplicationEngine.withRecentLimit])
        | worker worker => exact absurd hheld (by simp [HeldBy, initial, WorkerPhase.job?])
        | decided => exact absurd hheld (by simp [HeldBy, initial])
      queueNodup := List.nodup_nil
      decidedNodup := List.nodup_nil
      total := by simp [initial]
      known := by
        intro jobId holder hheld
        cases holder with
        | queue => exact absurd hheld (by simp [HeldBy, initial, ReplicationEngine.withRecentLimit])
        | worker worker => exact absurd hheld (by simp [HeldBy, initial, WorkerPhase.job?])
        | decided => exact absurd hheld (by simp [HeldBy, initial]) }
  outcomeTracked :=
    { recorded := by simp [initial]
      settled := by simp [initial]
      awaited := by simp [initial] }

theorem outcomeInvariant_step {config : Config} {s s' : System} {action : Action}
    (h : s.OutcomeInvariant) (hguard : s.recordGuard action)
    (hstep : Gateway.step config s action = some s') : s'.OutcomeInvariant := by
  have hto := stepTo_of_step hstep
  exact
    { jobsKnown := h.jobsKnown.step hto
      storeTracked := h.storeTracked.step h.jobsKnown hto
      custody := h.custody.step h.jobsKnown hto
      outcomeTracked := h.outcomeTracked.step h.jobsKnown h.storeTracked h.custody hguard hto }

theorem outcomesRecorded_of_invariant {s : System} (h : s.OutcomeInvariant) :
    s.OutcomesRecorded := by
  intro hqueue hworkers hclients c hc
  obtain ⟨holder, hheld⟩ := h.custody.total c hc
  cases holder with
  | queue =>
    obtain ⟨job, hjob, -⟩ := hheld
    rw [hqueue] at hjob
    exact absurd hjob List.not_mem_nil
  | worker worker =>
    exact absurd hheld (not_heldBy_worker (by rw [hworkers worker]; rfl))
  | decided =>
    obtain ⟨outcome, hmem⟩ := hheld
    refine ⟨outcome, hmem, ?_, h.outcomeTracked.recorded _ _ hmem⟩
    intro other hother
    have hsame := List.inj_on_of_nodup_map h.custody.decidedNodup hother hmem rfl
    exact (Prod.mk.inj hsame).2

/-- **No lost outcome.** If a run marks a decision only when no other write of the job's row
is still to come, then whenever everybody is idle and the queue is empty the store shows the
one outcome that was decided for each job. -/
theorem always_outcomesRecorded (config : Config) (retention : MetadataRetentionPolicy)
    (recentLimit : Nat) (targets : String × String × String → Option Nat)
    (actions : List Action)
    (hguard : Guarded (Gateway.step config) recordGuard (initial retention recentLimit targets)
      actions) :
    Always (Gateway.step config) OutcomesRecorded (initial retention recentLimit targets)
      actions :=
  always_of_guarded (fun _ _ _ => outcomeInvariant_step)
    (fun _ => outcomesRecorded_of_invariant)
    (outcomeInvariant_initial retention recentLimit targets) hguard

/-! ## Section 6: Two lost outcomes -/

/-- A worker is done with the job before the client persists it. -/
def markedBeforePersisted : List Action :=
  [.changeHome 0 .put "bucket-a" "hello.txt", .enqueuePut 0 sampleTopology none 12 none 10,
    .popNextReady 0 20, .ensureJobIsCurrent 0, .readSource 0, .performAtTarget 0 none,
    .markCompleted 0, .persistJobs 0]

/-- A second worker is done with a retry before the first one saves it. -/
def markedBeforeSaved : List Action :=
  [.changeHome 0 .put "bucket-a" "hello.txt", .enqueuePut 0 sampleTopology none 12 none 10,
    .persistJobs 0, .popNextReady 0 20, .failProcessing 0 ⟨.retryable, "upstream"⟩,
    .scheduleRetry 0 20, .popNextReady 1 5000, .ensureJobIsCurrent 1, .readSource 1,
    .performAtTarget 1 none, .markCompleted 1, .saveRetry 0]

/-- Both runs end with an empty queue and nobody at work, the job decided as completed, and
its row pending in the one and scheduled for a retry in the other. -/
theorem outcomes_lost :
    (∃ s, run (Gateway.step sampleConfig) (initial {} 64 (fun _ => none))
        markedBeforePersisted = some s ∧ ¬ s.OutcomesRecorded ∧
      s.decided = [(1, .completed)] ∧
        s.store.replicationJobs.rows.map (·.status) = [.pending]) ∧
    ∃ s, run (Gateway.step sampleConfig) (initial {} 64 (fun _ => none))
        markedBeforeSaved = some s ∧ ¬ s.OutcomesRecorded ∧
      s.decided = [(1, .completed)] ∧
        s.store.replicationJobs.rows.map (·.status) = [.retryScheduled] := by
  refine ⟨⟨_, rfl, ?_, rfl, rfl⟩, ⟨_, rfl, ?_, rfl, rfl⟩⟩
  · intro hrecorded
    obtain ⟨outcome, hdecided, -, hrow⟩ := hrecorded rfl
      (fun worker => match worker with
        | 0 => rfl
        | _ + 1 => rfl)
      (fun client => match client with
        | 0 => rfl
        | _ + 1 => rfl) _ List.mem_cons_self
    obtain rfl : outcome = .completed := (Prod.mk.inj (List.mem_singleton.mp hdecided)).2
    exact absurd (hrow _ List.mem_cons_self rfl) (by decide)
  · intro hrecorded
    obtain ⟨outcome, hdecided, -, hrow⟩ := hrecorded rfl
      (fun worker => match worker with
        | 0 => rfl
        | 1 => rfl
        | _ + 2 => rfl)
      (fun client => match client with
        | 0 => rfl
        | _ + 1 => rfl) _ List.mem_cons_self
    obtain rfl : outcome = .completed := (Prod.mk.inj (List.mem_singleton.mp hdecided)).2
    exact absurd (hrow _ List.mem_cons_self rfl) (by decide)

/-- The run in which the client persists its job before a worker takes it. -/
theorem always_outcomesRecorded_put :
    Always (Gateway.step sampleConfig) OutcomesRecorded (initial {} 64 (fun _ => none))
      (putUntilRead ++ [.performAtTarget 0 none, .markCompleted 0]) := by
  apply always_outcomesRecorded
  rintro s₁ ⟨⟩
  refine ⟨trivial, ?_⟩
  rintro s₂ ⟨⟩
  refine ⟨trivial, ?_⟩
  rintro s₃ ⟨⟩
  refine ⟨trivial, ?_⟩
  rintro s₄ ⟨⟩
  refine ⟨trivial, ?_⟩
  rintro s₅ ⟨⟩
  refine ⟨trivial, ?_⟩
  rintro s₆ ⟨⟩
  refine ⟨trivial, ?_⟩
  rintro s₇ ⟨⟩
  refine ⟨trivial, ?_⟩
  rintro s₈ ⟨⟩
  refine ⟨?_, trivial⟩
  intro job _
  refine ⟨?_, ?_⟩
  · intro client other hother
    match client with
    | 0 => exact absurd hother List.not_mem_nil
    | _ + 1 => exact absurd hother List.not_mem_nil
  · intro worker other hother
    have hnone : (none : Option ReplicationJob) = some other := by
      match worker with
      | 0 => exact hother
      | _ + 1 => exact hother
    exact absurd hnone (by simp)

end System

end Netdisk2Blob.Gateway
