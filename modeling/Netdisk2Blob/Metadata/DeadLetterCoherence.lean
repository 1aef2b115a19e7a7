import Netdisk2Blob.Library.Transition
import Netdisk2Blob.Metadata.Queries

/-!
# Dead-Letter Coherence

The store as a state machine: the operations that write jobs and dead letters, called in
any order. `Coherent` says that every open dead letter belongs to a failed job.

Dead-lettering and replay keep it. The manual retry and `mark_job_status` do not look at
`replication_dead_letters`, so they keep it exactly when they leave the jobs with open
dead letters alone (`stepGuard`).

## Main results

- `step_foreignKeysHold`: dead letters refer to jobs, after every step
- `coherent_step_iff`: one case per operation
- `always_coherent_iff_guarded`: a run is coherent throughout exactly when every step of
  it meets the guard
-/

namespace Netdisk2Blob.Metadata

open Library Replication

/-! ## Section 1: The operations as actions -/

inductive StoreAction where
  | enqueueJobs (jobs : List ReplicationJob)
  | markJobStatus (jobId : Nat) (status : ReplicationStatus) (attempts : Nat)
      (lastError : Option String)
  | markJobDeadLetter (jobId attempts : Nat) (lastError : Option String) (reason : String)
      (deadLetteredAtUnixMs : Nat)
  | retryFailedJob (jobId enqueuedAtUnixMs : Nat)
  | retryFailedJobsForTarget (target : String) (enqueuedAtUnixMs : Nat)
  | replayDeadLetterJob (originalJobId newJobId enqueuedAtUnixMs : Nat)
  | replayDeadLetterJobsForTarget (target : String) (newJobIds : List Nat)
      (enqueuedAtUnixMs limit : Nat)
  | applyRetention

namespace MetadataStore

/-- Jobs as a request creates them: pending, with ids that no row has. -/
def FreshJobs (store : MetadataStore) (jobs : List ReplicationJob) : Prop :=
  (jobs.map (·.jobId)).Nodup ∧
    (∀ job ∈ jobs, job.status = .pending) ∧
    ∀ job ∈ jobs, ∀ row ∈ store.replicationJobs.rows, row.jobId ≠ job.jobId

instance (store : MetadataStore) (jobs : List ReplicationJob) :
    Decidable (store.FreshJobs jobs) :=
  inferInstanceAs (Decidable (_ ∧ _ ∧ _))

/-- One operation. A failed operation is rolled back: the store stays as it was. -/
def step (store : MetadataStore) : StoreAction → Option MetadataStore
  | .enqueueJobs jobs =>
    if store.FreshJobs jobs then some (store.enqueueJobs jobs) else none
  | .markJobStatus jobId status attempts lastError =>
    match store.markJobStatus jobId status attempts lastError with
    | .ok (_, store') => some store'
    | .error _ => some store
  | .markJobDeadLetter jobId attempts lastError reason deadLetteredAtUnixMs =>
    match store.markJobDeadLetter jobId attempts lastError reason deadLetteredAtUnixMs with
    | .ok (_, store') => some store'
    | .error _ => some store
  | .retryFailedJob jobId enqueuedAtUnixMs =>
    match store.retryFailedJob jobId enqueuedAtUnixMs with
    | .ok (_, store') => some store'
    | .error _ => some store
  | .retryFailedJobsForTarget target enqueuedAtUnixMs =>
    some (store.retryFailedJobsForTarget target enqueuedAtUnixMs).2
  | .replayDeadLetterJob originalJobId newJobId enqueuedAtUnixMs =>
    match store.replayDeadLetterJob originalJobId newJobId enqueuedAtUnixMs with
    | .ok (_, store') => some store'
    | .error _ => some store
  | .replayDeadLetterJobsForTarget target newJobIds enqueuedAtUnixMs limit =>
    match store.replayDeadLetterJobsForTarget target newJobIds enqueuedAtUnixMs limit with
    | .ok (_, store') => some store'
    | .error _ => some store
  | .applyRetention => some store.applyRetention.2

/-! ## Section 2: Coherence and its guard -/

def HasOpenLetter (store : MetadataStore) (jobId : Nat) : Prop :=
  ∃ row ∈ store.replicationDeadLetters, row.originalJobId = jobId ∧ row.status = .open

def HasFailedJob (store : MetadataStore) (jobId : Nat) : Prop :=
  ∃ job ∈ store.replicationJobs, job.jobId = jobId ∧ job.status = .failed

/-- Every open dead letter belongs to a failed job. -/
def Coherent (store : MetadataStore) : Prop :=
  ∀ row ∈ store.replicationDeadLetters, row.status = .open →
    store.HasFailedJob row.originalJobId

instance (store : MetadataStore) : Decidable store.Coherent :=
  inferInstanceAs (Decidable (∀ row ∈ store.replicationDeadLetters.rows, row.status = .open →
    ∃ job ∈ store.replicationJobs.rows, job.jobId = row.originalJobId ∧ job.status = .failed))

/-- What an operation has to spare: `mark_job_status` sets no other status than failed on a
job with an open dead letter, and a retry re-queues no such job. A retry re-queues only
jobs that are not superseded. -/
def stepGuard (store : MetadataStore) : StoreAction → Prop
  | .markJobStatus jobId status _ _ => store.HasOpenLetter jobId → status = .failed
  | .retryFailedJob jobId _ =>
    ∀ job ∈ store.replicationJobs, job.jobId = jobId → store.HasOpenLetter jobId →
      store.Superseded job
  | .retryFailedJobsForTarget target _ =>
    ∀ job ∈ store.replicationJobs, job.target = target → store.HasOpenLetter job.jobId →
      store.Superseded job
  | _ => True

theorem coherent_iff {store : MetadataStore} :
    store.Coherent ↔ ∀ jobId, store.HasOpenLetter jobId → store.HasFailedJob jobId := by
  unfold Coherent HasOpenLetter
  constructor
  · rintro h jobId ⟨row, hrow, rfl, hopen⟩
    exact h row hrow hopen
  · intro h row hrow hopen
    exact h row.originalJobId ⟨row, hrow, rfl, hopen⟩

/-- A step that opens no dead letter and leaves the failed jobs with open dead letters
failed keeps coherence. -/
theorem coherent_of_frame {store store' : MetadataStore}
    (h : ∀ jobId, store'.HasOpenLetter jobId →
      store.HasOpenLetter jobId ∧ (store.HasFailedJob jobId → store'.HasFailedJob jobId))
    (hcoherent : store.Coherent) : store'.Coherent := by
  apply coherent_iff.mpr
  intro jobId hopen
  obtain ⟨hopen', hfailed⟩ := h jobId hopen
  exact hfailed (coherent_iff.mp hcoherent jobId hopen')

/-- A failed job is the only row with its id. -/
theorem status_of_hasFailedJob {store : MetadataStore} {job : ReplicationJob}
    (h : store.HasFailedJob job.jobId) (hjob : job ∈ store.replicationJobs) :
    job.status = .failed := by
  obtain ⟨failed, hmem, hid, hstatus⟩ := h
  rwa [Table.eq_of_key_eq hmem hjob hid] at hstatus

/-! ## Section 3: Each operation -/

section Operations

variable {store : MetadataStore}

theorem coherent_pruneHistory_iff {retention : MetadataRetentionPolicy} :
    (store.pruneHistory retention).2.Coherent ↔ store.Coherent := by
  unfold Coherent
  rw [pruneHistory_replicationDeadLetters]
  constructor
  · intro h row hrow hopen
    obtain ⟨job, hjob, hid, hstatus⟩ := h row hrow hopen
    exact ⟨job, (mem_pruneHistory.mp hjob).1, hid, hstatus⟩
  · intro h row hrow hopen
    obtain ⟨job, hjob, hid, hstatus⟩ := h row hrow hopen
    -- the job of a dead letter is protected
    exact ⟨job, pruneHistory_keeps hjob (Or.inr (Or.inr ⟨row, hrow, hid.symm⟩)), hid, hstatus⟩

theorem coherent_enqueueJobs {jobs : List ReplicationJob} (hfresh : store.FreshJobs jobs)
    (hcoherent : store.Coherent) : (store.enqueueJobs jobs).Coherent := by
  refine coherent_of_frame ?_ hcoherent
  intro jobId hopen
  unfold HasOpenLetter at hopen
  rw [enqueueJobs_replicationDeadLetters] at hopen
  refine ⟨hopen, ?_⟩
  rintro ⟨job, hjob, hid, hstatus⟩
  refine ⟨job, (mem_enqueueJobs hfresh.1).mpr (Or.inr ⟨hjob, ?_⟩), hid, hstatus⟩
  intro hmem
  obtain ⟨new, hnew, hnewid⟩ := List.mem_map.mp hmem
  exact hfresh.2.2 new hnew job hjob hnewid.symm

theorem coherent_markJobStatus_iff {store' : MetadataStore} {jobId attempts : Nat}
    {status : ReplicationStatus} {lastError : Option String} {pruned : MetadataPruneResult}
    (hcoherent : store.Coherent)
    (h : store.markJobStatus jobId status attempts lastError = .ok (pruned, store')) :
    store'.Coherent ↔ (store.HasOpenLetter jobId → status = .failed) := by
  obtain ⟨job, hjob, hid, updated, rfl, hletters, hrows⟩ := markJobStatus_ok h
  rw [coherent_pruneHistory_iff]
  constructor
  · intro hupdated hopen
    -- the row of the open letter is the one that was updated
    have hopen' : updated.HasOpenLetter jobId := by
      unfold HasOpenLetter
      rw [hletters]
      exact hopen
    have hmem : job.withOutcome status attempts lastError ∈ updated.replicationJobs :=
      (hrows _).mpr (Or.inr rfl)
    have hfailed := coherent_iff.mp hupdated jobId hopen'
    rw [← hid] at hfailed
    exact @status_of_hasFailedJob _ (job.withOutcome status attempts lastError) hfailed hmem
  · intro hguard
    apply coherent_iff.mpr
    intro id hopen
    unfold HasOpenLetter at hopen
    rw [hletters] at hopen
    by_cases heq : id = jobId
    · subst heq
      exact ⟨job.withOutcome status attempts lastError, (hrows _).mpr (Or.inr rfl), hid,
        hguard hopen⟩
    · obtain ⟨other, hother, hotherid, hstatus⟩ := coherent_iff.mp hcoherent id hopen
      exact ⟨other, (hrows _).mpr (Or.inl ⟨hother, hotherid ▸ heq⟩), hotherid, hstatus⟩

theorem coherent_markJobDeadLetter {store' : MetadataStore} {jobId attempts at_ : Nat}
    {lastError : Option String} {reason : String} {entry : ReplicationDeadLetterEntry}
    (hcoherent : store.Coherent)
    (h : store.markJobDeadLetter jobId attempts lastError reason at_ = .ok (entry, store')) :
    store'.Coherent := by
  obtain ⟨job, hjob, hid, lettered, rfl, hrows, letter, hletterid, -, hletters⟩ :=
    markJobDeadLetter_ok h
  apply coherent_pruneHistory_iff.mpr
  intro row hrow hopen
  by_cases heq : row.originalJobId = jobId
  · rw [heq]
    exact ⟨_, (hrows _).mpr (Or.inr rfl), hid, rfl⟩
  · have hold : row ∈ store.replicationDeadLetters := by
      rcases (hletters row).mp hrow with rfl | ⟨hold, -⟩
      · exact absurd hletterid heq
      · exact hold
    obtain ⟨other, hother, hotherid, hstatus⟩ := hcoherent row hold hopen
    exact ⟨other, (hrows _).mpr (Or.inl ⟨hother, hotherid ▸ heq⟩), hotherid, hstatus⟩

/-- Re-queueing rows keeps coherence exactly when none of them has an open dead letter. -/
theorem coherent_requeueAll_iff {jobIds : List Nat} {now : Nat} (hcoherent : store.Coherent) :
    (jobIds.foldl (fun store jobId => store.requeueJob now jobId) store).Coherent ↔
      ∀ job ∈ store.replicationJobs, job.jobId ∈ jobIds → ¬ store.HasOpenLetter job.jobId := by
  constructor
  · intro hafter job hjob hmem hopen
    have hopen' : (jobIds.foldl (fun store jobId => store.requeueJob now jobId)
        store).HasOpenLetter job.jobId := by
      unfold HasOpenLetter
      rw [requeueAll_replicationDeadLetters]
      exact hopen
    have hfailed := coherent_iff.mp hafter job.jobId hopen'
    have hrequeued : job.requeued now ∈ (jobIds.foldl
        (fun store jobId => store.requeueJob now jobId) store).replicationJobs :=
      mem_requeueAll.mpr (Or.inr ⟨job, hjob, hmem, rfl⟩)
    have hpending := @status_of_hasFailedJob _ (job.requeued now) hfailed hrequeued
    exact absurd hpending (by simp [ReplicationJob.requeued])
  · intro hspared
    refine coherent_of_frame ?_ hcoherent
    intro jobId hopen
    unfold HasOpenLetter at hopen
    rw [requeueAll_replicationDeadLetters] at hopen
    refine ⟨hopen, ?_⟩
    rintro ⟨job, hjob, hid, hstatus⟩
    refine ⟨job, mem_requeueAll.mpr (Or.inl ⟨hjob, ?_⟩), hid, hstatus⟩
    intro hmem
    exact hspared job hjob hmem (hid ▸ hopen)

theorem coherent_retryFailedJob_iff {store' : MetadataStore} {jobId now : Nat}
    {retried : ReplicationJob} (hcoherent : store.Coherent)
    (h : store.retryFailedJob jobId now = .ok (retried, store')) :
    store'.Coherent ↔ ∀ job ∈ store.replicationJobs, job.jobId = jobId →
      store.HasOpenLetter jobId → store.Superseded job := by
  obtain ⟨job, hjob, hid, -, hnot⟩ := retryFailedJob_ok_iff.mp ⟨_, h⟩
  obtain ⟨-, -, -, -, rfl⟩ := retryFailedJob_ok h
  have hafter : (store.requeueJob now jobId).Coherent ↔ _ :=
    @coherent_requeueAll_iff store [jobId] now hcoherent
  rw [hafter]
  constructor
  · intro hspared other hother hotherid hopen
    exact absurd (hotherid ▸ hopen) (hspared other hother (by simp [hotherid]))
  · intro hguard other hother hmem hopen
    have hotherid : other.jobId = jobId := by simpa using hmem
    obtain rfl : other = job := Table.eq_of_key_eq hother hjob (hotherid.trans hid.symm)
    exact hnot (hguard other hother hotherid (hotherid ▸ hopen))

/-- The jobs that a target retry takes. -/
theorem mem_latestFailedJobsOfTarget_iff {target : String} {job : ReplicationJob} :
    job ∈ store.latestFailedJobsOfTarget target ↔
      job ∈ store.replicationJobs ∧ job.target = target ∧ job.status = .failed ∧
        ¬ store.Superseded job := by
  unfold latestFailedJobsOfTarget
  rw [latestJobsWhere_target]
  simp only [List.mem_filter, Table.mem_lastRows, decide_eq_true_eq]
  have hlast : (∀ b ∈ store.replicationJobs, b.triple = job.triple → b.jobId ≤ job.jobId) ↔
      ¬ store.Superseded job := by
    unfold Superseded
    push Not
    rfl
  rw [hlast]
  tauto

theorem coherent_retryFailedJobsForTarget_iff {target : String} {now : Nat}
    (hcoherent : store.Coherent) :
    (store.retryFailedJobsForTarget target now).2.Coherent ↔
      ∀ job ∈ store.replicationJobs, job.target = target → store.HasOpenLetter job.jobId →
        store.Superseded job := by
  unfold retryFailedJobsForTarget
  rw [coherent_requeueAll_iff hcoherent]
  constructor
  · intro hspared job hjob htarget hopen
    by_contra hnot
    -- coherence makes the job failed, so the retry takes it
    have hfailed := status_of_hasFailedJob (coherent_iff.mp hcoherent _ hopen) hjob
    have hmem := mem_latestFailedJobsOfTarget_iff.mpr ⟨hjob, htarget, hfailed, hnot⟩
    exact hspared job hjob (List.mem_map_of_mem hmem) hopen
  · intro hguard job hjob hmem hopen
    obtain ⟨taken, htaken, hid⟩ := List.mem_map.mp hmem
    obtain ⟨htakenmem, htarget, -, hnot⟩ := mem_latestFailedJobsOfTarget_iff.mp htaken
    obtain rfl : taken = job := Table.eq_of_key_eq htakenmem hjob hid
    exact hnot (hguard taken hjob htarget hopen)

/-- Inserting a job with a free id and closing dead letters. -/
theorem coherent_writeReplay {p : DeadLetterRow → Bool} {job : ReplicationJob}
    {newJobId now : Nat} (hfree : ∀ row ∈ store.replicationJobs, row.jobId ≠ newJobId)
    (hcoherent : store.Coherent) : (store.writeReplay p job newJobId now).Coherent := by
  refine coherent_of_frame ?_ hcoherent
  rintro jobId ⟨row, hrow, hid, hopen⟩
  obtain ⟨old, hold, hstep⟩ := mem_writeReplay_deadLetters.mp hrow
  constructor
  · cases hp : p old with
    | true =>
      -- a selected letter is closed, so it is not open
      rw [hp, if_pos rfl] at hstep
      rw [← hstep] at hopen
      exact absurd hopen (by simp [replayedRow])
    | false =>
      rw [hp] at hstep
      obtain rfl : old = row := by simpa using hstep
      exact ⟨old, hold, hid, hopen⟩
  · rintro ⟨failed, hfailed, hfailedid, hstatus⟩
    exact ⟨failed, mem_writeReplay.mpr (Or.inr ⟨hfailed, hfree failed hfailed⟩), hfailedid,
      hstatus⟩

end Operations

/-! ## Section 4: Foreign keys -/

section ForeignKeys

variable {store store' : MetadataStore}

/-- Job ids that stay and dead letters for existing jobs keep the foreign keys. -/
theorem foreignKeysHold_of_frame
    (hjobs : ∀ job ∈ store.replicationJobs, ∃ job' ∈ store'.replicationJobs,
      job'.jobId = job.jobId)
    (hletters : ∀ row ∈ store'.replicationDeadLetters,
      (∃ old ∈ store.replicationDeadLetters, old.originalJobId = row.originalJobId) ∨
        ∃ job ∈ store.replicationJobs, job.jobId = row.originalJobId)
    (h : store.ForeignKeysHold) : store'.ForeignKeysHold := by
  intro row hrow
  have hold : ∃ job ∈ store.replicationJobs, job.jobId = row.originalJobId := by
    rcases hletters row hrow with ⟨old, hold, hid⟩ | hjob
    · obtain ⟨job, hjob, hjobid⟩ := h old hold
      exact ⟨job, hjob, hjobid.trans hid⟩
    · exact hjob
  obtain ⟨job, hjob, hid⟩ := hold
  obtain ⟨job', hjob', hid'⟩ := hjobs job hjob
  exact ⟨job', hjob', hid'.trans hid⟩

theorem foreignKeysHold_writeReplay {p : DeadLetterRow → Bool} {job : ReplicationJob}
    {newJobId now : Nat} (h : store.ForeignKeysHold) :
    (store.writeReplay p job newJobId now).ForeignKeysHold := by
  refine foreignKeysHold_of_frame ?_ ?_ h
  · intro row hrow
    by_cases hid : row.jobId = newJobId
    · exact ⟨replayedJob job newJobId now, mem_writeReplay.mpr (Or.inl rfl), hid.symm⟩
    · exact ⟨row, mem_writeReplay.mpr (Or.inr ⟨hrow, hid⟩), rfl⟩
  · intro row hrow
    obtain ⟨old, hold, hstep⟩ := mem_writeReplay_deadLetters.mp hrow
    refine Or.inl ⟨old, hold, ?_⟩
    rw [← hstep]
    split <;> rfl

theorem foreignKeysHold_requeueAll {jobIds : List Nat} {now : Nat} (h : store.ForeignKeysHold) :
    (jobIds.foldl (fun store jobId => store.requeueJob now jobId) store).ForeignKeysHold := by
  refine foreignKeysHold_of_frame ?_ ?_ h
  · intro job hjob
    by_cases hmem : job.jobId ∈ jobIds
    · exact ⟨job.requeued now, mem_requeueAll.mpr (Or.inr ⟨job, hjob, hmem, rfl⟩), rfl⟩
    · exact ⟨job, mem_requeueAll.mpr (Or.inl ⟨hjob, hmem⟩), rfl⟩
  · intro row hrow
    rw [requeueAll_replicationDeadLetters] at hrow
    exact Or.inl ⟨row, hrow, rfl⟩

theorem foreignKeysHold_markJobStatus {jobId attempts : Nat} {status : ReplicationStatus}
    {lastError : Option String} {pruned : MetadataPruneResult} (h : store.ForeignKeysHold)
    (hok : store.markJobStatus jobId status attempts lastError = .ok (pruned, store')) :
    store'.ForeignKeysHold := by
  obtain ⟨job, hjob, hid, updated, rfl, hletters, hrows⟩ := markJobStatus_ok hok
  apply foreignKeysHold_pruneHistory
  refine foreignKeysHold_of_frame ?_ ?_ h
  · intro row hrow
    by_cases heq : row.jobId = jobId
    · exact ⟨_, (hrows _).mpr (Or.inr rfl), hid.trans heq.symm⟩
    · exact ⟨row, (hrows _).mpr (Or.inl ⟨hrow, heq⟩), rfl⟩
  · intro row hrow
    rw [hletters] at hrow
    exact Or.inl ⟨row, hrow, rfl⟩

theorem foreignKeysHold_markJobDeadLetter {jobId attempts at_ : Nat}
    {lastError : Option String} {reason : String} {entry : ReplicationDeadLetterEntry}
    (h : store.ForeignKeysHold)
    (hok : store.markJobDeadLetter jobId attempts lastError reason at_ = .ok (entry, store')) :
    store'.ForeignKeysHold := by
  obtain ⟨job, hjob, hid, lettered, rfl, hrows, letter, hletterid, -, hletters⟩ :=
    markJobDeadLetter_ok hok
  apply foreignKeysHold_pruneHistory
  refine foreignKeysHold_of_frame ?_ ?_ h
  · intro row hrow
    by_cases heq : row.jobId = jobId
    · exact ⟨_, (hrows _).mpr (Or.inr rfl), hid.trans heq.symm⟩
    · exact ⟨row, (hrows _).mpr (Or.inl ⟨hrow, heq⟩), rfl⟩
  · intro row hrow
    rcases (hletters row).mp hrow with rfl | ⟨hold, -⟩
    · exact Or.inr ⟨job, hjob, hid.trans hletterid.symm⟩
    · exact Or.inl ⟨row, hold, rfl⟩

theorem foreignKeysHold_enqueueJobs {jobs : List ReplicationJob}
    (hnodup : (jobs.map (·.jobId)).Nodup) (h : store.ForeignKeysHold) :
    (store.enqueueJobs jobs).ForeignKeysHold := by
  refine foreignKeysHold_of_frame ?_ ?_ h
  · intro job hjob
    by_cases hmem : job.jobId ∈ jobs.map (·.jobId)
    · obtain ⟨new, hnew, hid⟩ := List.mem_map.mp hmem
      exact ⟨new, (mem_enqueueJobs hnodup).mpr (Or.inl hnew), hid⟩
    · exact ⟨job, (mem_enqueueJobs hnodup).mpr (Or.inr ⟨hjob, hmem⟩), rfl⟩
  · intro row hrow
    rw [enqueueJobs_replicationDeadLetters] at hrow
    exact Or.inl ⟨row, hrow, rfl⟩

/-- No step leaves a dead letter without its job. -/
theorem step_foreignKeysHold {action : StoreAction} (h : store.ForeignKeysHold)
    (hstep : store.step action = some store') : store'.ForeignKeysHold := by
  cases action with
  | enqueueJobs jobs =>
    simp only [step, Option.ite_none_right_eq_some, Option.some.injEq] at hstep
    obtain ⟨hfresh, rfl⟩ := hstep
    exact foreignKeysHold_enqueueJobs hfresh.1 h
  | markJobStatus jobId status attempts lastError =>
    simp only [step] at hstep
    split at hstep
    · rename_i hok
      obtain rfl := Option.some.inj hstep
      exact foreignKeysHold_markJobStatus h hok
    · obtain rfl := Option.some.inj hstep
      exact h
  | markJobDeadLetter jobId attempts lastError reason at_ =>
    simp only [step] at hstep
    split at hstep
    · rename_i hok
      obtain rfl := Option.some.inj hstep
      exact foreignKeysHold_markJobDeadLetter h hok
    · obtain rfl := Option.some.inj hstep
      exact h
  | retryFailedJob jobId now =>
    simp only [step] at hstep
    split at hstep
    · rename_i hok
      obtain rfl := Option.some.inj hstep
      obtain ⟨-, -, -, -, rfl⟩ := retryFailedJob_ok hok
      exact @foreignKeysHold_requeueAll store [jobId] now h
    · obtain rfl := Option.some.inj hstep
      exact h
  | retryFailedJobsForTarget target now =>
    obtain rfl := Option.some.inj hstep
    exact foreignKeysHold_requeueAll h
  | replayDeadLetterJob originalJobId newJobId now =>
    simp only [step] at hstep
    split at hstep
    · rename_i hok
      obtain rfl := Option.some.inj hstep
      exact replayDeadLetterJob_preserves
        (fun _ _ _ _ _ hstore => foreignKeysHold_writeReplay hstore) h hok
    · obtain rfl := Option.some.inj hstep
      exact h
  | replayDeadLetterJobsForTarget target newJobIds now limit =>
    simp only [step] at hstep
    split at hstep
    · rename_i hok
      obtain rfl := Option.some.inj hstep
      exact replayDeadLetterJobsForTarget_preserves
        (fun _ _ _ _ _ hstore => foreignKeysHold_writeReplay hstore) h hok
    · obtain rfl := Option.some.inj hstep
      exact h
  | applyRetention =>
    obtain rfl := Option.some.inj hstep
    exact foreignKeysHold_pruneHistory h

end ForeignKeys

/-! ## Section 5: Runs -/

/-- From a coherent store, a step keeps coherence exactly when it meets the guard. -/
theorem coherent_step_iff {store store' : MetadataStore} {action : StoreAction}
    (hkeys : store.ForeignKeysHold) (hcoherent : store.Coherent)
    (hstep : store.step action = some store') :
    store'.Coherent ↔ store.stepGuard action := by
  cases action with
  | enqueueJobs jobs =>
    simp only [step, Option.ite_none_right_eq_some, Option.some.injEq] at hstep
    obtain ⟨hfresh, rfl⟩ := hstep
    exact iff_of_true (coherent_enqueueJobs hfresh hcoherent) trivial
  | markJobStatus jobId status attempts lastError =>
    simp only [step] at hstep
    split at hstep
    · rename_i hok
      obtain rfl := Option.some.inj hstep
      exact coherent_markJobStatus_iff hcoherent hok
    · -- the row is missing, and with it every dead letter of the id
      rename_i error herror
      obtain rfl := Option.some.inj hstep
      have hmissing := markJobStatus_error_iff.mp ⟨error, herror⟩
      refine iff_of_true hcoherent ?_
      rintro ⟨row, hrow, hid, -⟩
      obtain ⟨job, hjob, hjobid⟩ := hkeys row hrow
      exact absurd (hjobid.trans hid) (hmissing job hjob)
  | markJobDeadLetter jobId attempts lastError reason at_ =>
    simp only [step] at hstep
    split at hstep
    · rename_i hok
      obtain rfl := Option.some.inj hstep
      exact iff_of_true (coherent_markJobDeadLetter hcoherent hok) trivial
    · obtain rfl := Option.some.inj hstep
      exact iff_of_true hcoherent trivial
  | retryFailedJob jobId now =>
    simp only [step] at hstep
    split at hstep
    · rename_i hok
      obtain rfl := Option.some.inj hstep
      exact coherent_retryFailedJob_iff hcoherent hok
    · -- a job with an open dead letter is failed, so it was refused as superseded
      rename_i error herror
      obtain rfl := Option.some.inj hstep
      refine iff_of_true hcoherent ?_
      intro job hjob hid hopen
      by_contra hnot
      have hfailed := status_of_hasFailedJob
        (hid ▸ coherent_iff.mp hcoherent jobId hopen) hjob
      obtain ⟨result, hok⟩ := (@retryFailedJob_ok_iff store jobId now).mpr
        ⟨job, hjob, hid, hfailed, hnot⟩
      rw [herror] at hok
      exact absurd hok (by simp)
  | retryFailedJobsForTarget target now =>
    obtain rfl := Option.some.inj hstep
    exact coherent_retryFailedJobsForTarget_iff hcoherent
  | replayDeadLetterJob originalJobId newJobId now =>
    simp only [step] at hstep
    split at hstep
    · rename_i hok
      obtain rfl := Option.some.inj hstep
      exact iff_of_true (replayDeadLetterJob_preserves
        (fun _ _ _ _ hfree hstore => coherent_writeReplay hfree hstore) hcoherent hok) trivial
    · obtain rfl := Option.some.inj hstep
      exact iff_of_true hcoherent trivial
  | replayDeadLetterJobsForTarget target newJobIds now limit =>
    simp only [step] at hstep
    split at hstep
    · rename_i hok
      obtain rfl := Option.some.inj hstep
      exact iff_of_true (replayDeadLetterJobsForTarget_preserves
        (fun _ _ _ _ hfree hstore => coherent_writeReplay hfree hstore) hcoherent hok) trivial
    · obtain rfl := Option.some.inj hstep
      exact iff_of_true hcoherent trivial
  | applyRetention =>
    obtain rfl := Option.some.inj hstep
    exact iff_of_true (coherent_pruneHistory_iff.mpr hcoherent) trivial

theorem coherent_openFresh (retention : MetadataRetentionPolicy) :
    (openFresh retention).Coherent := by
  intro row hrow
  exact absurd hrow (Table.not_mem_empty row)

/-- In a coherent store a replay re-queues failed jobs only. -/
theorem replayDeadLetterJob_failed {store store' : MetadataStore}
    {originalJobId newJobId now : Nat} {job : ReplicationJob} (hcoherent : store.Coherent)
    (h : store.replayDeadLetterJob originalJobId newJobId now = .ok (job, store')) :
    store.HasFailedJob originalJobId := by
  obtain ⟨-, -, -, hletter, -⟩ := replayDeadLetterJob_ok h
  exact coherent_iff.mp hcoherent originalJobId hletter

theorem replayCandidates_failed {store : MetadataStore} {target : String} {limit : Nat}
    {job : ReplicationJob} (hcoherent : store.Coherent)
    (h : job ∈ store.replayCandidates target limit) : store.HasFailedJob job.jobId := by
  obtain ⟨⟨row, job'⟩, hmem, rfl⟩ := List.mem_map.mp h
  obtain ⟨hrow, hfilter, -, hid⟩ := mem_joinedDeadLetters.mp (List.mem_of_mem_take hmem)
  have hopen : row.status = .open := by
    simpa [deadLetterFilter] using (Bool.and_eq_true_iff.mp hfilter).2
  change store.HasFailedJob job'.jobId
  rw [hid]
  exact hcoherent row hrow hopen

/-- **Dead-letter coherence.** From an empty store, every open dead letter belongs to a
failed job in every state of a run exactly when every step of the run meets the guard; and
a replay in a coherent state takes failed jobs only. -/
theorem always_coherent_iff_guarded (retention : MetadataRetentionPolicy)
    (actions : List StoreAction) :
    (Always step Coherent (openFresh retention) actions ↔
      Guarded step stepGuard (openFresh retention) actions) ∧
    ∀ store : MetadataStore, store.Coherent →
      (∀ originalJobId newJobId now job store',
        store.replayDeadLetterJob originalJobId newJobId now = .ok (job, store') →
          store.HasFailedJob originalJobId) ∧
      ∀ target limit, ∀ job ∈ store.replayCandidates target limit,
        store.HasFailedJob job.jobId := by
  refine ⟨?_, ?_⟩
  · have hkeys : ∀ (store : MetadataStore) (action : StoreAction) (store' : MetadataStore),
        store.ForeignKeysHold → store.step action = some store' → store'.ForeignKeysHold :=
      fun _ _ _ => step_foreignKeysHold
    apply always_iff_guarded hkeys
    · exact fun store action store' hkeys hcoherent hstep =>
        coherent_step_iff hkeys hcoherent hstep
    · exact foreignKeysHold_openFresh retention
    · exact coherent_openFresh retention
  · intro store hcoherent
    exact ⟨fun _ _ _ _ _ h => replayDeadLetterJob_failed hcoherent h,
      fun _ _ _ h => replayCandidates_failed hcoherent h⟩

def sampleJob (jobId : Nat) (operation : ReplicationOperation) : ReplicationJob where
  jobId := jobId
  target := "onedrive"
  sourceProvider := some "unicom"
  operation := operation
  object :=
    { bucket := "bucket-a"
      key := "hello.txt"
      etag := some "etag-1"
      size := some 12
      contentType := some "text/plain" }
  status := .pending
  attempts := 0
  enqueuedAtUnixMs := 1234
  nextAttemptAtUnixMs := none
  lastError := none

/-- A dead-lettered job that is retried by hand: its dead letter stays open. -/
def retriedByHand : List StoreAction :=
  [.enqueueJobs [sampleJob 1 .put], .markJobDeadLetter 1 1 (some "boom") "boom" 20,
    .retryFailedJob 1 30]

/-- After it the job is pending and its dead letter can be replayed as a second copy. -/
theorem retriedByHand_not_coherent :
    ∃ store, run step (openFresh {}) retriedByHand = some store ∧ ¬ store.Coherent ∧
      ∃ copy store', store.replayDeadLetterJob 1 2 40 = .ok (copy, store') ∧
        store'.loadPendingJobs none =
          [{ copy with jobId := 1, enqueuedAtUnixMs := 30 }, copy] := by
  exact ⟨_, rfl, by decide, _, _, rfl, rfl⟩

end MetadataStore

end Netdisk2Blob.Metadata
