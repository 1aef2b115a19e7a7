import Netdisk2Blob.Library.RotatingQueue
import Netdisk2Blob.Library.Transition
import Netdisk2Blob.Replication.Engine

/-!
# Runs of the Replication Queue

A run pushes jobs (`enqueue_put`, `enqueue_delete`, `enqueue_existing_job`, `schedule_retry`)
and pops them at times that do not decrease. A history keeps, beside the engine, what was pushed
and what was returned.

## Contents

- `popNextReadyAt_cases`: a pop either returns the first ready job (`Library.Pops`) or finds that
  none is ready and changes nothing
- `QueueHistory.step_cases`: what one action can do to the queue and to the history
- `balanced_of_run`: queued and returned jobs are the pushed ones
- `delivered_of_run`: how long a ready job waits
-/

namespace Netdisk2Blob.Replication

open Library Policy

/-- The retry time of the job, if it has one, has come. -/
def ReplicationJob.ReadyAt (job : ReplicationJob) (nowUnixMs : Nat) : Prop :=
  ∀ nextAttemptAt ∈ job.nextAttemptAtUnixMs, nextAttemptAt ≤ nowUnixMs

instance (job : ReplicationJob) (nowUnixMs : Nat) : Decidable (job.ReadyAt nowUnixMs) :=
  inferInstanceAs
    (Decidable (∀ nextAttemptAt ∈ job.nextAttemptAtUnixMs, nextAttemptAt ≤ nowUnixMs))

/-- A job that is ready stays ready. -/
theorem ReplicationJob.ReadyAt.mono {job : ReplicationJob} {since now : Nat}
    (h : job.ReadyAt since) (hle : since ≤ now) : job.ReadyAt now := by
  intro nextAttemptAt hmem
  exact (h nextAttemptAt hmem).trans hle

namespace ReplicationEngine

/-! ## Section 1: One pop -/

/-- The scan over the jobs `front`, when the jobs `passed` have gone to the back already and none
of them is ready. -/
theorem popLoop_cases {now : Nat} (front passed : List ReplicationJob)
    (hpassed : ∀ job ∈ passed, ¬ job.ReadyAt now) :
    (∃ job rest, popLoop now front.length (front ++ passed) = (some job, rest) ∧
      ∃ skipped behind, front = skipped ++ job :: behind ∧
        (∀ b ∈ passed ++ skipped, ¬ b.ReadyAt now) ∧ job.ReadyAt now ∧
        rest = behind ++ (passed ++ skipped)) ∨
      ((popLoop now front.length (front ++ passed)).1 = none ∧
        ∀ job ∈ passed ++ front, ¬ job.ReadyAt now) := by
  -- the induction is on the jobs that are still to be looked at
  induction front generalizing passed with
  | nil =>
      right
      refine ⟨rfl, ?_⟩
      simpa using hpassed
  | cons job tail ih =>
      by_cases hready : job.ReadyAt now
      · left
        refine ⟨job, tail ++ passed, ?_, [], tail, rfl, ?_, hready, ?_⟩
        · rw [List.length_cons, List.cons_append, popLoop]
          cases hnext : job.nextAttemptAtUnixMs with
          | none => rfl
          | some nextAttemptAt =>
              have hcome : nextAttemptAt ≤ now := hready nextAttemptAt hnext
              simp only [hcome, if_true]
        · simpa using hpassed
        · simp
      · -- the job is rotated: it joins the ones that were passed
        have hrotate : popLoop now (job :: tail).length (job :: tail ++ passed) =
            popLoop now tail.length (tail ++ (passed ++ [job])) := by
          rw [List.length_cons, List.cons_append, popLoop]
          cases hnext : job.nextAttemptAtUnixMs with
          | none =>
              refine absurd ?_ hready
              intro nextAttemptAt hmem
              rw [hnext] at hmem
              simp at hmem
          | some nextAttemptAt =>
              have hlater : ¬ nextAttemptAt ≤ now := by
                intro hcome
                refine hready ?_
                intro time hmem
                rw [hnext] at hmem
                obtain rfl : nextAttemptAt = time := by simpa using hmem
                exact hcome
              simp only [hlater, if_false, List.append_assoc]
        have hpassed' : ∀ b ∈ passed ++ [job], ¬ b.ReadyAt now := by
          intro b hb
          rcases List.mem_append.mp hb with hb | hb
          · exact hpassed b hb
          · obtain rfl : b = job := by simpa using hb
            exact hready
        rw [hrotate]
        rcases ih (passed ++ [job]) hpassed' with
          ⟨found, rest, heq, skipped, behind, hfront, hskip, hfound, hrest⟩ | ⟨hnone, hall⟩
        · left
          refine ⟨found, rest, heq, job :: skipped, behind, ?_, ?_, hfound, ?_⟩
          · rw [hfront, List.cons_append]
          · simpa using hskip
          · simpa using hrest
        · right
          exact ⟨hnone, by simpa using hall⟩

/-- **One pop.** It returns the first ready job and rotates the queue past the others, or there is
no ready job and the engine stays as it is. -/
theorem popNextReadyAt_cases (engine : ReplicationEngine) (now : Nat) :
    (∃ job, (engine.popNextReadyAt now).1 = some job ∧
      Pops (·.ReadyAt now) engine.pendingJobs job (engine.popNextReadyAt now).2.pendingJobs) ∨
      ((engine.popNextReadyAt now).1 = none ∧
        (∀ job ∈ engine.pendingJobs, ¬ job.ReadyAt now) ∧
        (engine.popNextReadyAt now).2 = engine) := by
  have hpassed : ∀ job ∈ ([] : List ReplicationJob), ¬ job.ReadyAt now := by simp
  have hscan := popLoop_cases engine.pendingJobs [] hpassed
  rw [List.append_nil] at hscan
  rcases hscan with ⟨job, rest, heq, skipped, behind, hqueue, hskip, hready, hrest⟩ | ⟨hnone, hall⟩
  · left
    refine ⟨job, ?_, skipped, behind, hqueue, ?_, hready, ?_⟩
    · simp only [popNextReadyAt, heq]
    · simpa using hskip
    · simp only [popNextReadyAt, heq]
      simpa using hrest
  · right
    have hpop : (engine.popNextReadyAt now).1 = none := hnone
    refine ⟨hpop, ?_, popNextReadyAt_none (Prod.ext hpop rfl)⟩
    simpa using hall

/-- A pop returns nothing exactly when no queued job is ready. -/
theorem popNextReadyAt_eq_none_iff {engine : ReplicationEngine} {now : Nat} :
    (engine.popNextReadyAt now).1 = none ↔ ∀ job ∈ engine.pendingJobs, ¬ job.ReadyAt now := by
  rcases engine.popNextReadyAt_cases now with
    ⟨job, hsome, hpops⟩ | ⟨hnone, hall, -⟩
  · constructor
    · intro hnone
      rw [hsome] at hnone
      cases hnone
    · intro hall
      have hmem : job ∈ engine.pendingJobs := hpops.perm.mem_iff.mpr List.mem_cons_self
      exact absurd hpops.isReady (hall job hmem)
  · exact ⟨fun _ => hall, fun _ => hnone⟩

end ReplicationEngine

/-! ## Section 2: Histories -/

inductive QueueAction where
  | enqueuePut (topology : TopologyPolicy) (sourceProvider : Option String)
      (bucket key : String) (etag : Option String) (size : Nat) (contentType : Option String)
      (nowUnixMs : Nat)
  | enqueueDelete (topology : TopologyPolicy) (sourceProvider : Option String)
      (bucket key : String) (nowUnixMs : Nat)
  | enqueueExistingJob (job : ReplicationJob)
  | scheduleRetry (job : ReplicationJob)
  | popNextReadyAt (nowUnixMs : Nat)

/-- The engine, the jobs that were pushed on its queue and the jobs its pops returned, and the time
of the last pop. -/
structure QueueHistory where
  engine : ReplicationEngine
  pushed : List ReplicationJob
  returned : List ReplicationJob
  clock : Nat

/-- The times of the pops among the actions, in order. -/
def popTimes (actions : List QueueAction) : List Nat :=
  actions.filterMap fun action =>
    match action with
    | .popNextReadyAt nowUnixMs => some nowUnixMs
    | _ => none

namespace QueueHistory

def start (recentLimit : Nat) : QueueHistory where
  engine := .withRecentLimit recentLimit
  pushed := []
  returned := []
  clock := 0

/-- One call of the engine. A pop at a time before the last one does not happen. -/
def step (s : QueueHistory) : QueueAction → Option QueueHistory
  | .enqueuePut topology sourceProvider bucket key etag size contentType nowUnixMs =>
    let call := s.engine.enqueuePut topology sourceProvider bucket key etag size contentType
      nowUnixMs
    some { s with engine := call.2, pushed := s.pushed ++ call.1 }
  | .enqueueDelete topology sourceProvider bucket key nowUnixMs =>
    let call := s.engine.enqueueDelete topology sourceProvider bucket key nowUnixMs
    some { s with engine := call.2, pushed := s.pushed ++ call.1 }
  | .enqueueExistingJob job =>
    some { s with engine := s.engine.enqueueExistingJob job, pushed := s.pushed ++ [job] }
  | .scheduleRetry job =>
    some { s with engine := s.engine.scheduleRetry job, pushed := s.pushed ++ [job] }
  | .popNextReadyAt nowUnixMs =>
    if s.clock ≤ nowUnixMs then
      let call := s.engine.popNextReadyAt nowUnixMs
      some { s with
        engine := call.2
        returned := s.returned ++ call.1.toList
        clock := nowUnixMs }
    else none

/-- **One action.** It appends jobs to the queue and to the pushed ones, or it is a pop that returns
a job, or it is a pop that finds none. -/
theorem step_cases {s s' : QueueHistory} {action : QueueAction} (h : s.step action = some s') :
    (popTimes [action] = [] ∧ s'.returned = s.returned ∧
      ∃ jobs, s'.engine.pendingJobs = s.engine.pendingJobs ++ jobs ∧
        s'.pushed = s.pushed ++ jobs) ∨
      (∃ now, popTimes [action] = [now] ∧ s'.pushed = s.pushed ∧
        ∃ job, Pops (·.ReadyAt now) s.engine.pendingJobs job s'.engine.pendingJobs ∧
          s'.returned = s.returned ++ [job]) ∨
      ∃ now, popTimes [action] = [now] ∧ s'.pushed = s.pushed ∧
        (∀ job ∈ s.engine.pendingJobs, ¬ job.ReadyAt now) ∧
        s'.engine.pendingJobs = s.engine.pendingJobs ∧ s'.returned = s.returned := by
  cases action with
  | enqueuePut topology sourceProvider bucket key etag size contentType nowUnixMs =>
      left
      obtain rfl := Option.some.inj h
      exact ⟨rfl, rfl, _, ReplicationEngine.enqueueJobs_pendingJobs, rfl⟩
  | enqueueDelete topology sourceProvider bucket key nowUnixMs =>
      left
      obtain rfl := Option.some.inj h
      exact ⟨rfl, rfl, _, ReplicationEngine.enqueueJobs_pendingJobs, rfl⟩
  | enqueueExistingJob job =>
      left
      obtain rfl := Option.some.inj h
      exact ⟨rfl, rfl, [job], rfl, rfl⟩
  | scheduleRetry job =>
      left
      obtain rfl := Option.some.inj h
      exact ⟨rfl, rfl, [job], rfl, rfl⟩
  | popNextReadyAt now =>
      right
      simp only [step] at h
      split_ifs at h with hclock
      obtain rfl := Option.some.inj h
      rcases s.engine.popNextReadyAt_cases now with
        ⟨job, hsome, hpops⟩ | ⟨hnone, hall, hsame⟩
      · left
        refine ⟨now, rfl, rfl, job, hpops, ?_⟩
        show s.returned ++ (s.engine.popNextReadyAt now).1.toList = s.returned ++ [job]
        rw [hsome, Option.toList_some]
      · right
        refine ⟨now, rfl, rfl, hall, ?_, ?_⟩
        · exact congrArg (·.pendingJobs) hsame
        · show s.returned ++ (s.engine.popNextReadyAt now).1.toList = s.returned
          rw [hnone, Option.toList_none, List.append_nil]

theorem popTimes_cons (action : QueueAction) (actions : List QueueAction) :
    popTimes (action :: actions) = popTimes [action] ++ popTimes actions := by
  rw [popTimes, ← List.singleton_append, List.filterMap_append]
  rfl

/-! ## Section 3: Nothing is lost or duplicated -/

/-- The queued jobs and the returned ones are the pushed ones, with their multiplicities. -/
def Balanced (s : QueueHistory) : Prop :=
  (s.engine.pendingJobs ++ s.returned).Perm s.pushed

theorem balanced_step {s s' : QueueHistory} {action : QueueAction} (hs : s.Balanced)
    (h : s.step action = some s') : s'.Balanced := by
  rcases step_cases h with ⟨-, hreturned, jobs, hpending, hpushed⟩ |
    ⟨now, -, hpushed, job, hpops, hreturned⟩ | ⟨now, -, hpushed, -, hpending, hreturned⟩
  · show (s'.engine.pendingJobs ++ s'.returned).Perm s'.pushed
    rw [hpending, hreturned, hpushed]
    calc s.engine.pendingJobs ++ jobs ++ s.returned
        _ |>.Perm (s.engine.pendingJobs ++ (s.returned ++ jobs)) := by
          rw [List.append_assoc]
          exact List.perm_append_comm.append_left _
        _ |>.Perm (s.pushed ++ jobs) := by
          rw [← List.append_assoc]
          exact List.Perm.append_right jobs hs
  · show (s'.engine.pendingJobs ++ s'.returned).Perm s'.pushed
    rw [hreturned, hpushed]
    -- the returned job moves from the queue to the returned ones
    calc s'.engine.pendingJobs ++ (s.returned ++ [job])
        _ |>.Perm (job :: (s'.engine.pendingJobs ++ s.returned)) := by
          rw [← List.append_assoc]
          exact List.perm_append_singleton _ _
        _ |>.Perm (s.engine.pendingJobs ++ s.returned) :=
          (hpops.perm.append_right s.returned).symm
        _ |>.Perm s.pushed := hs
  · show (s'.engine.pendingJobs ++ s'.returned).Perm s'.pushed
    rw [hpending, hreturned, hpushed]
    exact hs

theorem balanced_start (recentLimit : Nat) : (start recentLimit).Balanced :=
  List.Perm.refl _

theorem balanced_of_run {recentLimit : Nat} {actions : List QueueAction} {s : QueueHistory}
    (h : run step (start recentLimit) actions = some s) : s.Balanced :=
  run_preserves_of_forall (fun _ _ _ hs hstep => balanced_step hs hstep)
    (balanced_start recentLimit) h

/-! ## Section 4: Nothing starves -/

/-- The jobs at the first `n` places that are ready at the time `since`. -/
def watchedJobs (s : QueueHistory) (since n : Nat) : List ReplicationJob :=
  (s.engine.pendingJobs.take n).filter fun job => decide (job.ReadyAt since)

/-- A push does not move a watched job. -/
theorem watchedJobs_push {s s' : QueueHistory} {jobs : List ReplicationJob}
    (hpending : s'.engine.pendingJobs = s.engine.pendingJobs ++ jobs) (since n : Nat) :
    (s.watchedJobs since n).Subperm (s'.watchedJobs since n) := by
  rw [watchedJobs, watchedJobs, hpending]
  exact (watched_append _ _ jobs n).subperm

/-- A pop returns a watched job or moves all of them at least one place forward. -/
theorem watchedJobs_pop {s s' : QueueHistory} {now since n : Nat} {job : ReplicationJob}
    (hpops : Pops (·.ReadyAt now) s.engine.pendingJobs job s'.engine.pendingJobs)
    (hsince : since ≤ now) :
    (s.watchedJobs since (n + 1)).Subperm (job :: s'.watchedJobs since n) := by
  refine hpops.watched_subperm ?_ n
  intro b hb
  exact ReplicationJob.ReadyAt.mono (of_decide_eq_true hb) hsince

/-- A pop that finds nothing has nothing to watch. -/
theorem watchedJobs_eq_nil {s : QueueHistory} {now since n : Nat}
    (hall : ∀ job ∈ s.engine.pendingJobs, ¬ job.ReadyAt now) (hsince : since ≤ now) :
    s.watchedJobs since n = [] := by
  rw [watchedJobs, List.filter_eq_nil_iff]
  intro job hmem hready
  exact hall job (List.mem_of_mem_take hmem)
    (ReplicationJob.ReadyAt.mono (of_decide_eq_true hready) hsince)

/-- **Nothing starves.** `n` pops deliver every job that stood at the first `n` places and has been
ready since, whatever else is pushed or popped in between. -/
theorem delivered_of_run {s t : QueueHistory} {later : List QueueAction} {since n : Nat}
    (h : run step s later = some t) (htimes : ∀ now ∈ popTimes later, since ≤ now)
    (hn : n ≤ (popTimes later).length) :
    ∃ delivered, t.returned = s.returned ++ delivered ∧
      (s.watchedJobs since n).Subperm delivered := by
  -- the induction is on the actions; the number of places goes down with every pop
  induction later generalizing s n with
  | nil =>
      obtain rfl : s = t := by simpa using h
      obtain rfl : n = 0 := by simpa [popTimes] using hn
      refine ⟨[], (List.append_nil _).symm, ?_⟩
      simp [watchedJobs]
  | cons action later ih =>
      obtain ⟨s', hs', hrun⟩ := run_cons.mp h
      rw [popTimes_cons] at htimes hn
      have htimes' : ∀ now ∈ popTimes later, since ≤ now := by
        intro now hnow
        exact htimes now (List.mem_append_right _ hnow)
      rcases step_cases hs' with ⟨hpush, hreturned, jobs, hpending, -⟩ |
        ⟨now, hpop, -, job, hpops, hreturned⟩ | ⟨now, hpop, -, hall, -, hreturned⟩
      · -- a push leaves the watched places as they are
        rw [hpush, List.nil_append] at hn
        obtain ⟨delivered, ht, hsub⟩ := ih hrun htimes' hn
        refine ⟨delivered, ?_, (watchedJobs_push hpending since n).trans hsub⟩
        rw [ht, hreturned]
      · -- a pop that returns a job leaves one place less to watch
        have hsince : since ≤ now := by
          refine htimes now ?_
          simp [hpop]
        cases n with
        | zero =>
            obtain ⟨delivered, ht, -⟩ := ih (n := 0) hrun htimes' (Nat.zero_le _)
            refine ⟨job :: delivered, ?_, ?_⟩
            · rw [ht, hreturned, List.append_assoc, List.singleton_append]
            · simp [watchedJobs]
        | succ n =>
            have hn' : n ≤ (popTimes later).length := by
              rw [hpop, List.length_append, List.length_singleton] at hn
              omega
            obtain ⟨delivered, ht, hsub⟩ := ih hrun htimes' hn'
            refine ⟨job :: delivered, ?_, ?_⟩
            · rw [ht, hreturned, List.append_assoc, List.singleton_append]
            · exact (watchedJobs_pop hpops hsince).trans (List.subperm_cons job |>.mpr hsub)
      · -- a pop that finds nothing shows that no watched job was there
        have hsince : since ≤ now := by
          refine htimes now ?_
          simp [hpop]
        obtain ⟨delivered, ht, -⟩ := ih (n := 0) hrun htimes' (Nat.zero_le _)
        refine ⟨delivered, ?_, ?_⟩
        · rw [ht, hreturned]
        · rw [watchedJobs_eq_nil hall hsince]
          exact List.nil_subperm

/-- **The queue over whole runs.** The queued and the returned jobs are the pushed ones; a pop finds
nothing exactly when no queued job is ready, and then the queue keeps its order; and after more
than `i` later pops, every job that stood at the places `0` to `i` and was ready from then on has
been returned, as often as it stood there. -/
theorem queue_run (recentLimit : Nat) (actions : List QueueAction) (s : QueueHistory)
    (h : run step (start recentLimit) actions = some s) :
    (s.engine.pendingJobs ++ s.returned).Perm s.pushed ∧
      (∀ now, ((s.engine.popNextReadyAt now).1 = none ↔
          ∀ job ∈ s.engine.pendingJobs, ¬ job.ReadyAt now) ∧
        ((s.engine.popNextReadyAt now).1 = none →
          (s.engine.popNextReadyAt now).2.pendingJobs = s.engine.pendingJobs)) ∧
      ∀ later t since i, run step s later = some t →
        (∀ now ∈ popTimes later, since ≤ now) → i < (popTimes later).length →
        ∃ delivered, t.returned = s.returned ++ delivered ∧
          ∀ job, job.ReadyAt since →
            (s.engine.pendingJobs.take (i + 1)).count job ≤ delivered.count job := by
  refine ⟨balanced_of_run h, ?_, ?_⟩
  · intro now
    refine ⟨ReplicationEngine.popNextReadyAt_eq_none_iff, ?_⟩
    intro hnone
    exact congrArg (·.pendingJobs) (ReplicationEngine.popNextReadyAt_none (Prod.ext hnone rfl))
  · intro later t since i hrun htimes hi
    obtain ⟨delivered, ht, hsub⟩ := delivered_of_run hrun htimes hi
    refine ⟨delivered, ht, ?_⟩
    intro job hready
    -- a ready job is watched as often as it stands at the first places
    have hcount : (s.watchedJobs since (i + 1)).count job =
        (s.engine.pendingJobs.take (i + 1)).count job := by
      rw [watchedJobs, List.count_filter]
      simpa using hready
    calc (s.engine.pendingJobs.take (i + 1)).count job
        _ = (s.watchedJobs since (i + 1)).count job := hcount.symm
        _ ≤ delivered.count job := hsub.count_le job

def sampleJob (jobId : Nat) (nextAttemptAtUnixMs : Option Nat) : ReplicationJob where
  jobId := jobId
  target := "telecom"
  sourceProvider := none
  operation := .put
  object := { bucket := "photos", key := "a", etag := none, size := some 1, contentType := none }
  status := .retryScheduled
  attempts := 1
  enqueuedAtUnixMs := 5
  nextAttemptAtUnixMs := nextAttemptAtUnixMs
  lastError := none

/-- A delayed job stands in front of one that is ready. -/
def delayedFirst : List QueueAction :=
  [.enqueueExistingJob (sampleJob 1 (some 50)), .scheduleRetry (sampleJob 2 none)]

/-- The job behind the delayed one is delivered by two pops, while another job is pushed. -/
theorem queue_run_delayedFirst :
    ∃ s t delivered, run step (start 4) delayedFirst = some s ∧
      run step s [.popNextReadyAt 10, .enqueueExistingJob (sampleJob 3 none),
        .popNextReadyAt 20] = some t ∧
      t.returned = s.returned ++ delivered ∧ 1 ≤ delivered.count (sampleJob 2 none) := by
  obtain ⟨-, -, hdelivers⟩ := queue_run 4 delayedFirst _ rfl
  obtain ⟨delivered, ht, hcount⟩ := hdelivers
    [.popNextReadyAt 10, .enqueueExistingJob (sampleJob 3 none), .popNextReadyAt 20] _ 10 1 rfl
    (by decide) (by decide)
  exact ⟨_, _, delivered, rfl, rfl, ht, hcount (sampleJob 2 none) (by decide)⟩

end QueueHistory

end Netdisk2Blob.Replication
