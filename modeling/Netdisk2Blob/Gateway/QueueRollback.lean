import Netdisk2Blob.Gateway.ReplicationWorker

/-!
# Rolling Back the Queue

An operation takes a copy of the queue, enqueues jobs of its own, awaits a backend and,
when that fails, writes the copy back with `replace_pending`. Other requests and the
workers use the same queue in the meantime.

The state keeps, beside the engine, the queue as it would be without the operation
(`others`), and what the others put on it and took off it since the copy was made
(`pushed`, `taken`). No step reads these.

## Contents

- `QueueSystem.step`: one lock of the queue, by the operation, a request or a worker
- `Accounted`: the invariant between the three lists and the queue
- `rollBack_undisturbed_iff`: the rollback leaves the others' jobs as they are exactly
  when these put on the queue what they took off it
-/

namespace Netdisk2Blob.Gateway

open Library Replication Policy

/-! ## Section 1: The queue and its users -/

/-- How far the operation that may roll back has come. -/
inductive RollbackPhase where
  | notStarted
  | underWay (snapshot : List ReplicationJob)
  | rolledBack
  deriving DecidableEq, Repr

structure QueueSystem where
  engine : ReplicationEngine
  workers : Nat → Option ReplicationJob
  phase : RollbackPhase
  /-- The ids of the jobs that the operation created. -/
  own : List Nat
  /-- The queue as it would be without the operation. -/
  others : List ReplicationJob
  /-- What the others put on the queue since the copy was made. -/
  pushed : List ReplicationJob
  /-- What workers took of the others' jobs since the copy was made. -/
  taken : List ReplicationJob

inductive QueueAction where
  | enqueue (topology : TopologyPolicy) (sourceProvider : Option String)
      (operation : ReplicationOperation) (object : ReplicationObjectRef) (nowUnixMs : Nat)
  | allocateJobId
  | enqueueExisting (job : ReplicationJob)
  | popNextReady (worker nowUnixMs : Nat)
  | scheduleRetry (worker : Nat) (retryPolicy : ReplicationRetryPolicy)
      (error : ReplicationFailure) (nowUnixMs : Nat)
  | recordCompleted (worker : Nat)
  | recordFailed (worker : Nat) (error : ReplicationFailure)
  | takeSnapshot
  | enqueueOwn (topology : TopologyPolicy) (sourceProvider : Option String)
      (operation : ReplicationOperation) (object : ReplicationObjectRef) (nowUnixMs : Nat)
  | replacePending

namespace QueueSystem

def initial (recentLimit : Nat) : QueueSystem where
  engine := ReplicationEngine.withRecentLimit recentLimit
  workers := fun _ => none
  phase := .notStarted
  own := []
  others := []
  pushed := []
  taken := []

/-- A job that is not one of the operation's. -/
def foreign (s : QueueSystem) (job : ReplicationJob) : Bool := decide (job.jobId ∉ s.own)

def setWorker (s : QueueSystem) (worker : Nat) (job : Option ReplicationJob) : QueueSystem :=
  { s with workers := Function.update s.workers worker job }

/-- Another request or worker put jobs on the queue. -/
def notePushed (s : QueueSystem) (jobs : List ReplicationJob) : QueueSystem :=
  { s with
    others := s.others ++ jobs.filter s.foreign
    pushed := s.pushed ++ jobs.filter s.foreign }

/-- A worker took a job off the queue. -/
def noteTaken (s : QueueSystem) (job : ReplicationJob) : QueueSystem :=
  if s.foreign job then
    { s with others := s.others.erase job, taken := s.taken ++ [job] }
  else s

/-- One lock of the queue; `none` when the party is not at that point. -/
def step (s : QueueSystem) : QueueAction → Option QueueSystem
  | .enqueue topology source operation object now =>
    let enqueued := s.engine.enqueueJobs topology source operation object now
    some { s.notePushed enqueued.1 with engine := enqueued.2 }
  | .allocateJobId => some { s with engine := s.engine.allocateJobId.2 }
  | .enqueueExisting job =>
    -- a job of the store: its id was given out before, and the operation's jobs are not
    -- in the store before it ends
    if job.jobId < s.engine.nextJobId ∧ s.foreign job then
      some { s.notePushed [job] with engine := s.engine.enqueueExistingJob job }
    else none
  | .popNextReady worker now =>
    match s.workers worker with
    | none =>
      match s.engine.popNextReadyAt now with
      | (some job, engine') =>
        some ({ s.noteTaken job with engine := engine' }.setWorker worker (some job))
      | (none, engine') => some { s with engine := engine' }
    | some _ => none
  | .scheduleRetry worker retryPolicy error now =>
    match s.workers worker with
    | some job =>
      let retry := retryJob retryPolicy job error now
      some ({ s.notePushed [retry] with engine := s.engine.scheduleRetry retry }.setWorker
        worker none)
    | none => none
  | .recordCompleted worker =>
    match s.workers worker with
    | some job => some ({ s with engine := s.engine.recordCompleted job }.setWorker worker none)
    | none => none
  | .recordFailed worker error =>
    match s.workers worker with
    | some job =>
      some ({ s with engine := s.engine.recordFailed job error.message }.setWorker worker none)
    | none => none
  | .takeSnapshot =>
    match s.phase with
    | .notStarted =>
      some { s with phase := .underWay s.engine.pendingJobs, pushed := [], taken := [] }
    | _ => none
  | .enqueueOwn topology source operation object now =>
    match s.phase with
    | .underWay _ =>
      let enqueued := s.engine.enqueueJobs topology source operation object now
      some { s with engine := enqueued.2, own := s.own ++ enqueued.1.map (·.jobId) }
    | _ => none
  | .replacePending =>
    match s.phase with
    | .underWay snapshot =>
      some { s with engine := s.engine.replacePending snapshot, phase := .rolledBack }
    | _ => none

/-! ## Section 2: Accounting for the jobs of the others -/

/-- Until the rollback, the queue holds the others' jobs and some of the operation's, and
what the others have on it is the copy with what they pushed and without what was taken. -/
structure Accounted (s : QueueSystem) : Prop where
  queue : (s.engine.pendingJobs.filter s.foreign).Perm s.others
  queued_lt : ∀ job ∈ s.engine.pendingJobs, job.jobId < s.engine.nextJobId
  held_lt : ∀ worker job, s.workers worker = some job → job.jobId < s.engine.nextJobId
  own_lt : ∀ jobId ∈ s.own, jobId < s.engine.nextJobId
  own_nil : s.phase = .notStarted → s.own = []
  ledger : ∀ snapshot, s.phase = .underWay snapshot →
    (s.others ++ s.taken).Perm (snapshot ++ s.pushed)

theorem accounted_initial (recentLimit : Nat) : Accounted (initial recentLimit) where
  queue := List.Perm.refl _
  queued_lt := by simp [initial, ReplicationEngine.withRecentLimit]
  held_lt := by simp [initial]
  own_lt := by simp [initial]
  own_nil := fun _ => rfl
  ledger := by simp [initial]

section Steps

variable {s : QueueSystem}

/-- A step of the engine that leaves the queue alone. -/
theorem Accounted.withEngine (h : Accounted s) (engine' : ReplicationEngine)
    (hpending : engine'.pendingJobs = s.engine.pendingJobs)
    (hnext : s.engine.nextJobId ≤ engine'.nextJobId) :
    Accounted { s with engine := engine' } where
  queue := by
    show (engine'.pendingJobs.filter s.foreign).Perm s.others
    rw [hpending]
    exact h.queue
  queued_lt := by
    intro job hjob
    rw [hpending] at hjob
    exact lt_of_lt_of_le (h.queued_lt job hjob) hnext
  held_lt := fun worker job hjob => lt_of_lt_of_le (h.held_lt worker job hjob) hnext
  own_lt := fun jobId hown => lt_of_lt_of_le (h.own_lt jobId hown) hnext
  own_nil := h.own_nil
  ledger := h.ledger

theorem Accounted.setWorker (h : Accounted s) {worker : Nat} {held : Option ReplicationJob}
    (hheld : ∀ job, held = some job → job.jobId < s.engine.nextJobId) :
    Accounted (s.setWorker worker held) where
  queue := h.queue
  queued_lt := h.queued_lt
  held_lt := by
    intro other job hjob
    rcases eq_or_ne other worker with rfl | hne
    · apply hheld
      simpa [QueueSystem.setWorker] using hjob
    · apply h.held_lt other
      simpa [QueueSystem.setWorker, hne] using hjob
  own_lt := h.own_lt
  own_nil := h.own_nil
  ledger := h.ledger

/-- Jobs of the others, or a retry of any job, go to the back of the queue. -/
theorem Accounted.push (h : Accounted s) (engine' : ReplicationEngine)
    {jobs : List ReplicationJob}
    (hpending : engine'.pendingJobs = s.engine.pendingJobs ++ jobs)
    (hnext : s.engine.nextJobId ≤ engine'.nextJobId)
    (hids : ∀ job ∈ jobs, job.jobId < engine'.nextJobId) :
    Accounted { s.notePushed jobs with engine := engine' } where
  queue := by
    show (engine'.pendingJobs.filter s.foreign).Perm (s.others ++ jobs.filter s.foreign)
    rw [hpending, List.filter_append]
    exact h.queue.append_right _
  queued_lt := by
    intro job hjob
    rw [hpending] at hjob
    rcases List.mem_append.mp hjob with hold | hnew
    · exact lt_of_lt_of_le (h.queued_lt job hold) hnext
    · exact hids job hnew
  held_lt := fun worker job hjob => lt_of_lt_of_le (h.held_lt worker job hjob) hnext
  own_lt := fun jobId hown => lt_of_lt_of_le (h.own_lt jobId hown) hnext
  own_nil := h.own_nil
  ledger := by
    intro snapshot hphase
    -- what is pushed is added on both sides
    have hadd := (h.ledger snapshot hphase).append_right (jobs.filter s.foreign)
    show ((s.others ++ jobs.filter s.foreign) ++ s.taken).Perm
      (snapshot ++ (s.pushed ++ jobs.filter s.foreign))
    rw [List.append_assoc] at hadd ⊢
    rw [List.append_assoc] at hadd
    exact (List.perm_append_comm.append_left _).trans hadd

/-- A job is taken off the queue: one of the others' moves to `taken`, one of the
operation's is in no list. -/
theorem Accounted.pop (h : Accounted s) (engine' : ReplicationEngine) {job : ReplicationJob}
    (hpending : s.engine.pendingJobs.Perm (job :: engine'.pendingJobs))
    (hnext : engine'.nextJobId = s.engine.nextJobId) :
    Accounted { s.noteTaken job with engine := engine' } := by
  have hfilter := (hpending.filter s.foreign).symm.trans h.queue
  have hqueued : ∀ other ∈ engine'.pendingJobs, other.jobId < engine'.nextJobId := by
    intro other hother
    rw [hnext]
    exact h.queued_lt other (hpending.mem_iff.mpr (List.mem_cons_of_mem _ hother))
  by_cases hforeign : s.foreign job = true
  · have hs : s.noteTaken job =
        { s with others := s.others.erase job, taken := s.taken ++ [job] } := by
      simp [noteTaken, hforeign]
    rw [hs]
    rw [List.filter_cons_of_pos hforeign] at hfilter
    have hmem : job ∈ s.others := hfilter.mem_iff.mp List.mem_cons_self
    exact
      { queue := by
          have herase := hfilter.erase job
          rwa [List.erase_cons_head] at herase
        queued_lt := hqueued
        held_lt := by
          intro worker held hheld
          show held.jobId < engine'.nextJobId
          rw [hnext]
          exact h.held_lt worker held hheld
        own_lt := by
          intro jobId hown
          show jobId < engine'.nextJobId
          rw [hnext]
          exact h.own_lt jobId hown
        own_nil := h.own_nil
        ledger := by
          intro snapshot hphase
          -- the job moves from one list to the other
          show (s.others.erase job ++ (s.taken ++ [job])).Perm (snapshot ++ s.pushed)
          refine List.Perm.trans ?_ (h.ledger snapshot hphase)
          rw [← List.append_assoc]
          refine List.perm_append_comm.trans ?_
          rw [List.singleton_append, ← List.cons_append]
          exact (List.perm_cons_erase hmem).symm.append_right _ }
  · have hs : s.noteTaken job = s := by simp [noteTaken, hforeign]
    rw [hs]
    rw [List.filter_cons_of_neg hforeign] at hfilter
    exact
      { queue := hfilter
        queued_lt := hqueued
        held_lt := by
          intro worker held hheld
          show held.jobId < engine'.nextJobId
          rw [hnext]
          exact h.held_lt worker held hheld
        own_lt := by
          intro jobId hown
          show jobId < engine'.nextJobId
          rw [hnext]
          exact h.own_lt jobId hown
        own_nil := h.own_nil
        ledger := h.ledger }

/-- The copy is made: from here on the ledger counts. -/
theorem Accounted.takeSnapshot (h : Accounted s) (hphase : s.phase = .notStarted) :
    Accounted { s with phase := .underWay s.engine.pendingJobs, pushed := [], taken := [] } where
  queue := h.queue
  queued_lt := h.queued_lt
  held_lt := h.held_lt
  own_lt := h.own_lt
  own_nil := fun hnot => absurd hnot (by simp)
  ledger := by
    intro snapshot hsnapshot
    obtain rfl : s.engine.pendingJobs = snapshot := by simpa using hsnapshot
    -- the operation has no job yet, so every queued job is another's
    have hall : s.engine.pendingJobs.filter s.foreign = s.engine.pendingJobs := by
      rw [List.filter_eq_self]
      intro job _
      simp [foreign, h.own_nil hphase]
    have hqueue := h.queue
    rw [hall] at hqueue
    simpa using hqueue.symm

/-- The operation's jobs have new ids, so they are no job of the others. -/
theorem Accounted.enqueueOwn (h : Accounted s) {snapshot : List ReplicationJob}
    (hphase : s.phase = .underWay snapshot) (topology : TopologyPolicy) (source : Option String)
    (operation : ReplicationOperation) (object : ReplicationObjectRef) (now : Nat) :
    Accounted
      { s with
        engine := (s.engine.enqueueJobs topology source operation object now).2
        own := s.own ++
          (s.engine.enqueueJobs topology source operation object now).1.map (·.jobId) } := by
  set enqueued := s.engine.enqueueJobs topology source operation object now with henqueued
  have hids : ∀ job ∈ enqueued.1,
      s.engine.nextJobId ≤ job.jobId ∧ job.jobId < enqueued.2.nextJobId :=
    fun job hjob => ReplicationEngine.enqueueJobs_jobId_mem hjob
  have hnext : s.engine.nextJobId ≤ enqueued.2.nextJobId := by
    rw [henqueued, ReplicationEngine.enqueueJobs_nextJobId]
    exact Nat.le_add_right _ _
  have hpending : enqueued.2.pendingJobs = s.engine.pendingJobs ++ enqueued.1 := rfl
  exact
    { queue := by
        rw [hpending, List.filter_append]
        -- an old job is foreign as before, a new one is not
        have hold : s.engine.pendingJobs.filter
              (foreign { s with engine := enqueued.2, own := s.own ++ enqueued.1.map (·.jobId) }) =
            s.engine.pendingJobs.filter s.foreign := by
          apply List.filter_congr
          intro job hjob
          have hlt := h.queued_lt job hjob
          have hnew : job.jobId ∉ enqueued.1.map (·.jobId) := by
            intro hmem
            obtain ⟨created, hcreated, hid⟩ := List.mem_map.mp hmem
            have hge := (hids created hcreated).1
            omega
          simp only [foreign, List.mem_append, hnew, or_false]
        have hnone : enqueued.1.filter
              (foreign { s with engine := enqueued.2, own := s.own ++ enqueued.1.map (·.jobId) }) =
            [] := by
          rw [List.filter_eq_nil_iff]
          intro job hjob
          have hmem : job.jobId ∈ enqueued.1.map (·.jobId) := List.mem_map_of_mem hjob
          simp only [foreign, List.mem_append, hmem, or_true, not_true_eq_false, decide_false]
          exact Bool.false_ne_true
        rw [hold, hnone, List.append_nil]
        exact h.queue
      queued_lt := by
        intro job hjob
        rw [hpending] at hjob
        rcases List.mem_append.mp hjob with hold | hnew
        · exact lt_of_lt_of_le (h.queued_lt job hold) hnext
        · exact (hids job hnew).2
      held_lt := fun worker job hjob => lt_of_lt_of_le (h.held_lt worker job hjob) hnext
      own_lt := by
        intro jobId hown
        rcases List.mem_append.mp hown with hold | hnew
        · exact lt_of_lt_of_le (h.own_lt jobId hold) hnext
        · obtain ⟨job, hjob, rfl⟩ := List.mem_map.mp hnew
          exact (hids job hjob).2
      own_nil := by
        intro hnot
        rw [hphase] at hnot
        exact absurd hnot (by simp)
      ledger := h.ledger }

end Steps

/-- The invariant of a whole run: the accounts hold until the rollback. -/
def AccountedUntilRollback (s : QueueSystem) : Prop := s.phase ≠ .rolledBack → Accounted s

@[simp] theorem phase_setWorker (s : QueueSystem) (worker : Nat) (job : Option ReplicationJob) :
    (s.setWorker worker job).phase = s.phase := rfl

theorem phase_noteTaken (s : QueueSystem) (job : ReplicationJob) :
    (s.noteTaken job).phase = s.phase := by
  unfold noteTaken
  split <;> rfl

/-- **Step lemma.** Every lock of the queue keeps the accounts. -/
theorem accounted_step {s s' : QueueSystem} {action : QueueAction}
    (hs : s.AccountedUntilRollback) (h : s.step action = some s') :
    s'.AccountedUntilRollback := by
  intro hphase
  cases action with
  | enqueue topology source operation object now =>
    obtain rfl := Option.some.inj h
    apply (hs hphase).push (s.engine.enqueueJobs topology source operation object now).2 rfl
    · exact Nat.le_add_right _ _
    · exact fun job hjob => (ReplicationEngine.enqueueJobs_jobId_mem hjob).2
  | allocateJobId =>
    obtain rfl := Option.some.inj h
    exact (hs hphase).withEngine s.engine.allocateJobId.2 rfl (Nat.le_succ _)
  | enqueueExisting job =>
    simp only [step] at h
    split_ifs at h with hjob
    obtain rfl := Option.some.inj h
    apply (hs hphase).push (s.engine.enqueueExistingJob job) rfl (le_refl s.engine.nextJobId)
    intro other hother
    obtain rfl := List.mem_singleton.mp hother
    exact hjob.1
  | popNextReady worker now =>
    simp only [step] at h
    split at h
    · split at h
      · rename_i job engine' hpop
        obtain rfl := Option.some.inj h
        rw [phase_setWorker] at hphase
        have hpopped := ReplicationEngine.popNextReadyAt_some hpop
        have hold := hs (by rwa [← phase_noteTaken s job])
        apply (hold.pop engine' hpopped.1 hpopped.2).setWorker
        intro held hheld
        obtain rfl := Option.some.inj hheld
        show job.jobId < engine'.nextJobId
        rw [hpopped.2]
        exact hold.queued_lt job (hpopped.1.mem_iff.mpr List.mem_cons_self)
      · rename_i engine' hnone
        obtain rfl := Option.some.inj h
        have hsame := ReplicationEngine.popNextReadyAt_none hnone
        apply (hs hphase).withEngine engine'
        · rw [hsame]
        · rw [hsame]
    · exact absurd h (by simp)
  | scheduleRetry worker retryPolicy error now =>
    simp only [step] at h
    split at h
    · rename_i job hworker
      obtain rfl := Option.some.inj h
      have hold := hs hphase
      apply Accounted.setWorker
      · apply hold.push (s.engine.scheduleRetry (retryJob retryPolicy job error now)) rfl
          (le_refl s.engine.nextJobId)
        intro other hother
        obtain rfl := List.mem_singleton.mp hother
        exact hold.held_lt worker job hworker
      · intro held hheld
        exact absurd hheld (by simp)
    · exact absurd h (by simp)
  | recordCompleted worker =>
    simp only [step] at h
    split at h
    · rename_i job _
      obtain rfl := Option.some.inj h
      apply ((hs hphase).withEngine (s.engine.recordCompleted job) rfl (le_refl _)).setWorker
      intro held hheld
      exact absurd hheld (by simp)
    · exact absurd h (by simp)
  | recordFailed worker error =>
    simp only [step] at h
    split at h
    · rename_i job _
      obtain rfl := Option.some.inj h
      apply ((hs hphase).withEngine (s.engine.recordFailed job error.message) rfl
        (le_refl _)).setWorker
      intro held hheld
      exact absurd hheld (by simp)
    · exact absurd h (by simp)
  | takeSnapshot =>
    simp only [step] at h
    split at h
    · rename_i hnot
      obtain rfl := Option.some.inj h
      exact (hs (by rw [hnot]; simp)).takeSnapshot hnot
    · exact absurd h (by simp)
  | enqueueOwn topology source operation object now =>
    simp only [step] at h
    split at h
    · rename_i snapshot hunder
      obtain rfl := Option.some.inj h
      exact (hs hphase).enqueueOwn hunder topology source operation object now
    · exact absurd h (by simp)
  | replacePending =>
    simp only [step] at h
    split at h
    · obtain rfl := Option.some.inj h
      exact absurd rfl hphase
    · exact absurd h (by simp)

/-! ## Section 3: The rollback -/

/-- The queue is what it would be without the operation. -/
def Undisturbed (s : QueueSystem) : Prop := s.engine.pendingJobs.Perm s.others

/-- **The rollback leaves the others' jobs as they are exactly when what the others put on
the queue since the copy was made is what workers took off it.** -/
theorem rollBack_undisturbed_iff {recentLimit : Nat} {actions : List QueueAction}
    {t : QueueSystem}
    (hrun : run step (initial recentLimit) (actions ++ [.replacePending]) = some t) :
    t.Undisturbed ↔ t.pushed.Perm t.taken := by
  obtain ⟨s, hbefore, hlast⟩ := run_append.mp hrun
  obtain ⟨t', hstep, hnil⟩ := run_cons.mp hlast
  obtain rfl : t' = t := by simpa using hnil
  have hs : s.AccountedUntilRollback :=
    run_preserves_of_forall (fun s action s' hs h => accounted_step hs h)
      (fun _ => accounted_initial recentLimit) hbefore
  simp only [step] at hstep
  split at hstep
  · rename_i snapshot hphase
    obtain rfl := Option.some.inj hstep
    have hledger := (hs (by rw [hphase]; simp)).ledger snapshot hphase
    show snapshot.Perm s.others ↔ s.pushed.Perm s.taken
    constructor
    · intro hqueue
      have hcancel := (hqueue.append_right s.taken).trans hledger
      exact ((List.perm_append_left_iff snapshot).mp hcancel).symm
    · intro hpushed
      have hcancel := (hledger.trans (hpushed.append_left snapshot)).symm
      exact (List.perm_append_right_iff s.taken).mp hcancel
  · exact absurd hstep (by simp)

/-- A put of another object is on the queue when the copy is made; the operation enqueues
a put of its own. -/
def copiedThenEnqueued : List QueueAction :=
  [.enqueue sampleTopology (some "unicom") .put
      { bucket := "bucket-a", key := "a.txt", etag := none, size := some 1, contentType := none }
      10,
    .takeSnapshot,
    .enqueueOwn sampleTopology (some "unicom") .put
      { bucket := "bucket-a", key := "b.txt", etag := none, size := some 1, contentType := none }
      20]

/-- With nothing else on the queue in between, only the operation's own job goes. -/
theorem rollBack_undisturbed_iff_alone :
    ∃ t, run step (initial 8) (copiedThenEnqueued ++ [.replacePending]) = some t ∧
      (t.Undisturbed ↔ t.pushed.Perm t.taken) ∧ t.pushed.Perm t.taken :=
  ⟨_, rfl, @rollBack_undisturbed_iff 8 copiedThenEnqueued _ rfl, List.Perm.refl _⟩

/-- A worker takes the other put and completes it, and a delete of a third object is
enqueued, before the copy is written back. -/
def usedByOthers : List QueueAction :=
  copiedThenEnqueued ++
    [.popNextReady 0 30, .recordCompleted 0,
      .enqueue sampleTopology (some "unicom") .delete
        { bucket := "bucket-a", key := "c.txt", etag := none, size := none, contentType := none }
        40]

/-- The completed put is queued again and the delete is lost. -/
theorem usedByOthers_disturbed :
    ∃ t, run step (initial 8) (usedByOthers ++ [.replacePending]) = some t ∧
      ¬ t.Undisturbed ∧
      t.engine.pendingJobs.map (fun job => (job.jobId, job.object.key)) = [(1, "a.txt")] ∧
      t.others.map (fun job => (job.jobId, job.object.key)) = [(3, "c.txt")] := by
  refine ⟨_, rfl, ?_, rfl, rfl⟩
  show ¬ List.Perm _ _
  decide

end QueueSystem

end Netdisk2Blob.Gateway
