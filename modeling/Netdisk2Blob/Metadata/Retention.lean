import Netdisk2Blob.Metadata.Store

/-!
# History Retention

`prune_history` deletes old `completed` and `failed` jobs. Two sets of jobs are
protected: the latest job of every (target, bucket, key) and the original job of every
dead letter. Of the other jobs of a status it keeps the newest `limit`.

## Main results

- `pruneHistory_eq`: the loop that deletes rows one at a time deletes exactly
  `doomedJobIds`, the unprotected jobs of the status past the first `limit`
- `mem_doomedJobIds`: what a doomed job is
- `pruneHistory_keeps`, `pruneHistory_lastRows`: what survives
-/

namespace Netdisk2Blob.Metadata

open Library Replication

namespace MetadataStore

/-! ## Section 1: The operation -/

/-- `SELECT MAX(job_id) FROM replication_jobs GROUP BY target, bucket, key`. -/
def latestJobIds (store : MetadataStore) : List Nat :=
  (store.replicationJobs.lastRows ReplicationJob.triple).map (·.jobId)

def deadLetterOriginalJobIds (store : MetadataStore) : List Nat :=
  store.replicationDeadLetters.rows.map (·.originalJobId)

/-- `SELECT job_id ... WHERE status = ? ORDER BY job_id DESC`. -/
def jobIdsWithStatus (store : MetadataStore) (status : ReplicationStatus) : List Nat :=
  ((store.replicationJobs.rows.filter (fun job => decide (job.status = status))).map
    (·.jobId)).reverse

/-- The loop of `prune_status_history`: skip protected jobs, keep the first `limit` of the
others, delete the rest. -/
def pruneLoop (protectedJobIds : List Nat) (historyLimit : Nat) :
    List Nat → Nat → Nat → MetadataStore → Nat × MetadataStore
  | [], _, deleted, store => (deleted, store)
  | jobId :: jobIds, keptHistory, deleted, store =>
    if jobId ∈ protectedJobIds then
      pruneLoop protectedJobIds historyLimit jobIds keptHistory deleted store
    else if keptHistory < historyLimit then
      pruneLoop protectedJobIds historyLimit jobIds (keptHistory + 1) deleted store
    else
      pruneLoop protectedJobIds historyLimit jobIds keptHistory (deleted + 1)
        (store.deleteJobs [jobId])

def pruneStatusHistory (store : MetadataStore) (status : ReplicationStatus)
    (historyLimit : Nat) (protectedJobIds : List Nat) : Nat × MetadataStore :=
  pruneLoop protectedJobIds historyLimit (store.jobIdsWithStatus status) 0 0 store

def pruneHistory (store : MetadataStore) (retention : MetadataRetentionPolicy) :
    MetadataPruneResult × MetadataStore :=
  -- the protected ids are read once, before anything is deleted
  let protectedJobIds := store.latestJobIds ++ store.deadLetterOriginalJobIds
  let completed :=
    store.pruneStatusHistory .completed retention.completedHistoryLimit protectedJobIds
  let failed :=
    completed.2.pruneStatusHistory .failed retention.failedHistoryLimit protectedJobIds
  ({ deletedCompletedJobs := completed.1, deletedFailedJobs := failed.1 }, failed.2)

/-- `MetadataStore::apply_retention`. -/
def applyRetention (store : MetadataStore) : MetadataPruneResult × MetadataStore :=
  store.pruneHistory store.retention

/-! ## Section 2: What the loop deletes -/

/-- The unprotected jobs of a status, newest first. -/
def history (store : MetadataStore) (status : ReplicationStatus) : List Nat :=
  (store.jobIdsWithStatus status).filter
    (fun jobId => decide (jobId ∉ store.latestJobIds ++ store.deadLetterOriginalJobIds))

/-- The history past the limit of its status. -/
def doomedJobIds (store : MetadataStore) (retention : MetadataRetentionPolicy) : List Nat :=
  (store.history .completed).drop retention.completedHistoryLimit ++
    (store.history .failed).drop retention.failedHistoryLimit

theorem pruneLoop_eq (protectedJobIds : List Nat) (limit : Nat) (jobIds : List Nat)
    (kept deleted : Nat) (store : MetadataStore) :
    pruneLoop protectedJobIds limit jobIds kept deleted store =
      (deleted +
          ((jobIds.filter (fun id => decide (id ∉ protectedJobIds))).drop (limit - kept)).length,
        store.deleteJobs
          ((jobIds.filter (fun id => decide (id ∉ protectedJobIds))).drop (limit - kept))) := by
  induction jobIds generalizing kept deleted store with
  | nil => simp [pruneLoop, deleteJobs_nil]
  | cons jobId jobIds ih =>
    rw [pruneLoop]
    split_ifs with hprot hkept
    · -- a protected job is skipped
      rw [ih, List.filter_cons_of_neg (by simpa using hprot)]
    · -- the limit is not used up: the job is kept
      rw [ih, List.filter_cons_of_pos (by simpa using hprot)]
      have hdrop : limit - kept = (limit - (kept + 1)) + 1 := by omega
      rw [hdrop, List.drop_succ_cons]
    · -- past the limit every unprotected job goes
      rw [ih, List.filter_cons_of_pos (by simpa using hprot)]
      have hzero : limit - kept = 0 := by omega
      rw [hzero, List.drop_zero, List.drop_zero, deleteJobs_append, List.length_cons,
        List.singleton_append]
      congr 1
      omega

theorem mem_jobIdsWithStatus {store : MetadataStore} {status : ReplicationStatus}
    {jobId : Nat} :
    jobId ∈ store.jobIdsWithStatus status ↔
      ∃ job ∈ store.replicationJobs, job.jobId = jobId ∧ job.status = status := by
  simp only [jobIdsWithStatus, List.mem_reverse, List.mem_map, List.mem_filter,
    decide_eq_true_eq, Table.mem_rows]
  constructor
  · rintro ⟨job, ⟨hjob, hstatus⟩, hid⟩
    exact ⟨job, hjob, hid, hstatus⟩
  · rintro ⟨job, hjob, hid, hstatus⟩
    exact ⟨job, ⟨hjob, hstatus⟩, hid⟩

theorem mem_latestJobIds {store : MetadataStore} {jobId : Nat} :
    jobId ∈ store.latestJobIds ↔
      ∃ job ∈ store.replicationJobs, job.jobId = jobId ∧
        store.replicationJobs.isLast ReplicationJob.triple job = true := by
  simp only [latestJobIds, List.mem_map, Table.mem_lastRows, Table.isLast_iff]
  constructor
  · rintro ⟨job, ⟨hjob, hlast⟩, hid⟩
    exact ⟨job, hjob, hid, hlast⟩
  · rintro ⟨job, hjob, hid, hlast⟩
    exact ⟨job, ⟨hjob, hlast⟩, hid⟩

/-- A newer job exists for the object of the job. -/
def Superseded (store : MetadataStore) (job : ReplicationJob) : Prop :=
  ∃ newer ∈ store.replicationJobs, newer.triple = job.triple ∧ job.jobId < newer.jobId

theorem isLast_eq_false_iff {store : MetadataStore} {job : ReplicationJob} :
    store.replicationJobs.isLast ReplicationJob.triple job = false ↔ store.Superseded job := by
  rw [← Bool.not_eq_true, Table.isLast_iff]
  unfold Superseded
  push Not
  rfl

theorem mem_deadLetterOriginalJobIds {store : MetadataStore} {jobId : Nat} :
    jobId ∈ store.deadLetterOriginalJobIds ↔
      ∃ row ∈ store.replicationDeadLetters, row.originalJobId = jobId := by
  simp [deadLetterOriginalJobIds]

/-- A job of the history is neither the latest of its object nor dead-lettered. -/
theorem mem_history {store : MetadataStore} {status : ReplicationStatus} {jobId : Nat} :
    jobId ∈ store.history status ↔
      (∃ job ∈ store.replicationJobs, job.jobId = jobId ∧ job.status = status ∧
        store.replicationJobs.isLast ReplicationJob.triple job = false) ∧
      ∀ row ∈ store.replicationDeadLetters, row.originalJobId ≠ jobId := by
  simp only [history, List.mem_filter, decide_eq_true_eq, List.mem_append, not_or,
    mem_jobIdsWithStatus, mem_latestJobIds, mem_deadLetterOriginalJobIds]
  constructor
  · rintro ⟨⟨job, hjob, hid, hstatus⟩, hlatest, hdead⟩
    refine ⟨⟨job, hjob, hid, hstatus, ?_⟩, fun row hrow heq => hdead ⟨row, hrow, heq⟩⟩
    by_contra hlast
    exact hlatest ⟨job, hjob, hid, by simpa using hlast⟩
  · rintro ⟨⟨job, hjob, hid, hstatus, hlast⟩, hdead⟩
    refine ⟨⟨job, hjob, hid, hstatus⟩, ?_, ?_⟩
    · rintro ⟨job', hjob', hid', hlast'⟩
      have : job' = job := Table.eq_of_key_eq hjob' hjob (hid'.trans hid.symm)
      rw [this, hlast] at hlast'
      exact Bool.false_ne_true hlast'
    · rintro ⟨row, hrow, heq⟩
      exact hdead row hrow heq

/-- What a doomed job is: a finished job that is not latest and has no dead letter. -/
theorem mem_doomedJobIds {store : MetadataStore} {retention : MetadataRetentionPolicy}
    {jobId : Nat} (h : jobId ∈ store.doomedJobIds retention) :
    (∃ job ∈ store.replicationJobs, job.jobId = jobId ∧ job.status.isRunnable = false ∧
      store.replicationJobs.isLast ReplicationJob.triple job = false) ∧
    ∀ row ∈ store.replicationDeadLetters, row.originalJobId ≠ jobId := by
  rcases List.mem_append.mp h with h | h
  · obtain ⟨⟨job, hjob, hid, hstatus, hlast⟩, hdead⟩ := mem_history.mp (List.mem_of_mem_drop h)
    exact ⟨⟨job, hjob, hid, by rw [hstatus]; rfl, hlast⟩, hdead⟩
  · obtain ⟨⟨job, hjob, hid, hstatus, hlast⟩, hdead⟩ := mem_history.mp (List.mem_of_mem_drop h)
    exact ⟨⟨job, hjob, hid, by rw [hstatus]; rfl, hlast⟩, hdead⟩

/-- Deleting jobs of other statuses leaves the id list of a status alone. -/
theorem jobIdsWithStatus_deleteJobs {store : MetadataStore} {status : ReplicationStatus}
    {ids : List Nat}
    (h : ∀ job ∈ store.replicationJobs, job.status = status → job.jobId ∉ ids) :
    (store.deleteJobs ids).jobIdsWithStatus status = store.jobIdsWithStatus status := by
  simp only [jobIdsWithStatus, deleteJobs]
  congr 2
  change (store.replicationJobs.rows.filter _).filter _ = _
  rw [List.filter_filter]
  refine List.filter_congr ?_
  intro job hjob
  by_cases hstatus : job.status = status
  · simp [hstatus, h job hjob hstatus]
  · simp [hstatus]

/-- **What retention does.** The row-by-row loops delete exactly the doomed jobs, and
count them. -/
theorem pruneHistory_eq (store : MetadataStore) (retention : MetadataRetentionPolicy) :
    store.pruneHistory retention =
      ({ deletedCompletedJobs :=
          ((store.history .completed).drop retention.completedHistoryLimit).length
         deletedFailedJobs :=
          ((store.history .failed).drop retention.failedHistoryLimit).length },
        store.deleteJobs (store.doomedJobIds retention)) := by
  have hother : ∀ job ∈ store.replicationJobs, job.status = .failed →
      job.jobId ∉ (store.history .completed).drop retention.completedHistoryLimit := by
    intro job hjob hfailed hmem
    obtain ⟨⟨job', hjob', hid, hcompleted, -⟩, -⟩ :=
      mem_history.mp (List.mem_of_mem_drop hmem)
    rw [Table.eq_of_key_eq hjob' hjob hid, hfailed] at hcompleted
    exact absurd hcompleted (by decide)
  unfold pruneHistory pruneStatusHistory
  simp only [pruneLoop_eq, Nat.sub_zero, Nat.zero_add]
  -- the second loop sees the failed jobs the first loop saw
  have hids := jobIdsWithStatus_deleteJobs hother
  simp only [history] at hids
  rw [hids, deleteJobs_append]
  rfl

/-! ## Section 3: What survives -/

section Survivors

variable {store : MetadataStore} {retention : MetadataRetentionPolicy}

@[simp] theorem pruneHistory_replicationDeadLetters :
    (store.pruneHistory retention).2.replicationDeadLetters = store.replicationDeadLetters := by
  rw [pruneHistory_eq]
  apply deleteJobs_replicationDeadLetters
  intro row hrow hmem
  exact (mem_doomedJobIds hmem).2 row hrow rfl

theorem mem_pruneHistory {row : ReplicationJob} :
    row ∈ (store.pruneHistory retention).2.replicationJobs ↔
      row ∈ store.replicationJobs ∧ row.jobId ∉ store.doomedJobIds retention := by
  rw [pruneHistory_eq]
  exact mem_deleteJobs

/-- A job that is runnable, latest of its object, or dead-lettered survives. -/
theorem pruneHistory_keeps {job : ReplicationJob} (hjob : job ∈ store.replicationJobs)
    (h : job.status.isRunnable = true ∨
      store.replicationJobs.isLast ReplicationJob.triple job = true ∨
      ∃ row ∈ store.replicationDeadLetters, row.originalJobId = job.jobId) :
    job ∈ (store.pruneHistory retention).2.replicationJobs := by
  refine mem_pruneHistory.mpr ⟨hjob, ?_⟩
  intro hmem
  obtain ⟨⟨job', hjob', hid, hstatus, hlast⟩, hdead⟩ := mem_doomedJobIds hmem
  obtain rfl : job' = job := Table.eq_of_key_eq hjob' hjob hid
  rcases h with hrun | hisLast | ⟨row, hrow, hrowid⟩
  · exact absurd (hstatus.symm.trans hrun) Bool.false_ne_true
  · exact absurd (hlast.symm.trans hisLast) Bool.false_ne_true
  · exact hdead row hrow hrowid

/-- The latest job of every object is the same before and after. -/
theorem pruneHistory_lastRows :
    (store.pruneHistory retention).2.replicationJobs.lastRows ReplicationJob.triple =
      store.replicationJobs.lastRows ReplicationJob.triple := by
  rw [pruneHistory_eq]
  apply Table.lastRows_delete
  intro job hjob hlast
  have hkept : job ∈ (store.pruneHistory retention).2.replicationJobs :=
    pruneHistory_keeps hjob (Or.inr (Or.inl hlast))
  simpa using (mem_pruneHistory.mp hkept).2

theorem foreignKeysHold_pruneHistory (h : store.ForeignKeysHold) :
    (store.pruneHistory retention).2.ForeignKeysHold := by
  intro row hrow
  rw [pruneHistory_replicationDeadLetters] at hrow
  obtain ⟨job, hjob, hid⟩ := h row hrow
  exact ⟨job, pruneHistory_keeps hjob (Or.inr (Or.inr ⟨row, hrow, hid.symm⟩)), hid⟩

end Survivors

end MetadataStore

end Netdisk2Blob.Metadata
