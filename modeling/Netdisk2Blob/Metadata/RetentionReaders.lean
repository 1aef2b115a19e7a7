import Netdisk2Blob.Metadata.Queries

/-!
# Retention Is Invisible to Readers

What `prune_history` keeps, stated as a whole, and what the read queries see of it:
nothing. A query answers from runnable jobs, from last rows of a group, or from dead
letters and their jobs, and none of these is ever doomed.
-/

namespace Netdisk2Blob.Metadata

open Library Replication

namespace MetadataStore

variable {store : MetadataStore} {retention : MetadataRetentionPolicy}

/-! ## Section 1: The history that is left -/

theorem nodup_jobIdsWithStatus (store : MetadataStore) (status : ReplicationStatus) :
    (store.jobIdsWithStatus status).Nodup := by
  unfold jobIdsWithStatus
  apply List.nodup_reverse.mpr
  have hsorted : (store.replicationJobs.rows.filter
      (fun job => decide (job.status = status))).Pairwise (fun a b => a.jobId < b.jobId) :=
    store.replicationJobs.sorted.filter _
  exact (List.pairwise_map.mpr hsorted).imp (fun h => ne_of_lt h)

/-- The history of a status runs from its newest job down. -/
theorem history_sorted (store : MetadataStore) (status : ReplicationStatus) :
    (store.history status).Pairwise (fun a b => b < a) := by
  have hsorted : (store.replicationJobs.rows.filter
      (fun job => decide (job.status = status))).Pairwise (fun a b => a.jobId < b.jobId) :=
    store.replicationJobs.sorted.filter _
  exact (List.pairwise_reverse.mpr (List.pairwise_map.mpr hsorted)).filter _

/-- Jobs with dead letters and latest jobs are protected before and after alike. -/
theorem pruneHistory_latestJobIds :
    (store.pruneHistory retention).2.latestJobIds = store.latestJobIds := by
  unfold latestJobIds
  rw [pruneHistory_lastRows]

theorem pruneHistory_deadLetterOriginalJobIds :
    (store.pruneHistory retention).2.deadLetterOriginalJobIds =
      store.deadLetterOriginalJobIds := by
  unfold deadLetterOriginalJobIds
  rw [pruneHistory_replicationDeadLetters]

/-- Two histories of different statuses have no job in common. -/
theorem not_mem_history_of_ne {status status' : ReplicationStatus} {jobId : Nat}
    (hne : status ≠ status') (h : jobId ∈ store.history status) :
    jobId ∉ store.history status' := by
  intro h'
  obtain ⟨⟨job, hjob, hid, hstatus, -⟩, -⟩ := mem_history.mp h
  obtain ⟨⟨job', hjob', hid', hstatus', -⟩, -⟩ := mem_history.mp h'
  obtain rfl : job = job' := Table.eq_of_key_eq hjob hjob' (hid.trans hid'.symm)
  exact hne (hstatus.symm.trans hstatus')

theorem jobIdsWithStatus_pruneHistory (status : ReplicationStatus) :
    (store.pruneHistory retention).2.jobIdsWithStatus status =
      (store.jobIdsWithStatus status).filter
        (fun jobId => decide (jobId ∉ store.doomedJobIds retention)) := by
  rw [pruneHistory_eq]
  unfold jobIdsWithStatus
  rw [List.filter_reverse, List.filter_map, List.filter_filter]
  congr 2
  change (store.replicationJobs.rows.filter _).filter _ = _
  rw [List.filter_filter]
  refine List.filter_congr ?_
  intro job _
  simp [Bool.and_comm]

theorem history_pruneHistory (status : ReplicationStatus) :
    (store.pruneHistory retention).2.history status =
      (store.history status).filter
        (fun jobId => decide (jobId ∉ store.doomedJobIds retention)) := by
  unfold history
  rw [pruneHistory_latestJobIds, pruneHistory_deadLetterOriginalJobIds,
    jobIdsWithStatus_pruneHistory, List.filter_filter, List.filter_filter]
  refine List.filter_congr ?_
  intro jobId _
  rw [Bool.and_comm]

private theorem filter_not_mem_drop {l : List Nat} (hl : l.Nodup) (n : Nat) :
    l.filter (fun x => decide (x ∉ l.drop n)) = l.take n := by
  conv_lhs => rw [← List.take_append_drop n l]
  have hdisjoint : ∀ x ∈ l.take n, x ∉ l.drop n := by
    rw [← List.take_append_drop n l] at hl
    intro x hx hx'
    exact (List.nodup_append.mp hl).2.2 x hx x hx' rfl
  rw [List.filter_append]
  rw [List.filter_eq_self.mpr (fun x hx => by simpa using hdisjoint x hx)]
  rw [List.filter_eq_nil_iff.mpr (fun x hx => by simpa using hx), List.append_nil]

theorem nodup_history (store : MetadataStore) (status : ReplicationStatus) :
    (store.history status).Nodup :=
  (nodup_jobIdsWithStatus store status).filter _

/-- Retention keeps the newest completed jobs of the history. -/
theorem history_pruneHistory_completed :
    (store.pruneHistory retention).2.history .completed =
      (store.history .completed).take retention.completedHistoryLimit := by
  rw [history_pruneHistory, ← filter_not_mem_drop (nodup_history store .completed)]
  refine List.filter_congr ?_
  intro jobId hmem
  have hfailed : jobId ∉ (store.history .failed).drop retention.failedHistoryLimit :=
    fun h => not_mem_history_of_ne (by decide) hmem (List.mem_of_mem_drop h)
  simp [doomedJobIds, hfailed]

/-- Retention keeps the newest failed jobs of the history. -/
theorem history_pruneHistory_failed :
    (store.pruneHistory retention).2.history .failed =
      (store.history .failed).take retention.failedHistoryLimit := by
  rw [history_pruneHistory, ← filter_not_mem_drop (nodup_history store .failed)]
  refine List.filter_congr ?_
  intro jobId hmem
  have hcompleted : jobId ∉ (store.history .completed).drop retention.completedHistoryLimit :=
    fun h => not_mem_history_of_ne (by decide) hmem (List.mem_of_mem_drop h)
  simp [doomedJobIds, hcompleted]

/-- A second application finds nothing to delete. -/
theorem pruneHistory_pruneHistory :
    (store.pruneHistory retention).2.pruneHistory retention =
      ({ deletedCompletedJobs := 0, deletedFailedJobs := 0 },
        (store.pruneHistory retention).2) := by
  rw [pruneHistory_eq (store.pruneHistory retention).2]
  unfold doomedJobIds
  rw [history_pruneHistory_completed, history_pruneHistory_failed]
  simp only [List.drop_take, Nat.sub_self, List.take_zero, List.length_nil, List.append_nil,
    deleteJobs_nil]

/-! ## Section 2: Readers -/

/-- Two stores that no read query tells apart. -/
structure ReadersAgree (before after : MetadataStore) : Prop where
  latestJobForObject : ∀ target bucket key,
    after.latestJobForObject target bucket key = before.latestJobForObject target bucket key
  latestJobsForBucket : ∀ target bucket,
    after.latestJobsForBucket target bucket = before.latestJobsForBucket target bucket
  latestFailedJobs : ∀ target, after.latestFailedJobs target = before.latestFailedJobs target
  fallbackReadableBuckets : ∀ target,
    after.fallbackReadableBuckets target = before.fallbackReadableBuckets target
  loadPendingJobs : ∀ limit, after.loadPendingJobs limit = before.loadPendingJobs limit
  maxJobId : after.maxJobId = before.maxJobId
  listDeadLetterJobs : ∀ target includeReplayed limit,
    after.listDeadLetterJobs target includeReplayed limit =
      before.listDeadLetterJobs target includeReplayed limit
  countDeadLetterJobs : ∀ target includeReplayed,
    after.countDeadLetterJobs target includeReplayed =
      before.countDeadLetterJobs target includeReplayed
  openDeadLetterTargetCounts :
    after.openDeadLetterTargetCounts = before.openDeadLetterTargetCounts
  snapshotCounts : ∀ limit,
    (after.snapshot limit).pendingCount = (before.snapshot limit).pendingCount ∧
      (after.snapshot limit).retryScheduledCount = (before.snapshot limit).retryScheduledCount ∧
      (after.snapshot limit).completedCount = (before.snapshot limit).completedCount ∧
      (after.snapshot limit).failedCount = (before.snapshot limit).failedCount ∧
      (after.snapshot limit).targetStatuses = (before.snapshot limit).targetStatuses

/-- A job that is not doomed is the same row after. -/
theorem pruneHistory_replicationJobs :
    (store.pruneHistory retention).2.replicationJobs =
      store.replicationJobs.delete
        (fun job => decide (job.jobId ∈ store.doomedJobIds retention)) := by
  rw [pruneHistory_eq]
  rfl

/-- A job that is last of its object is not doomed. -/
theorem not_doomed_of_isLast {job : ReplicationJob} (hjob : job ∈ store.replicationJobs)
    (hlast : store.replicationJobs.isLast ReplicationJob.triple job = true) :
    job.jobId ∉ store.doomedJobIds retention :=
  (mem_pruneHistory.mp (pruneHistory_keeps hjob (Or.inr (Or.inl hlast)))).2

theorem latestJobForObject_pruneHistory (target bucket key : String) :
    (store.pruneHistory retention).2.latestJobForObject target bucket key =
      store.latestJobForObject target bucket key := by
  unfold latestJobForObject
  rw [pruneHistory_replicationJobs]
  apply Table.latest_delete
  intro job hlatest
  obtain ⟨hjob, -, hlast⟩ := Table.latest_eq_some_iff_isLast.mp hlatest
  simpa using not_doomed_of_isLast hjob hlast

theorem maxJobId_pruneHistory :
    (store.pruneHistory retention).2.maxJobId = store.maxJobId := by
  unfold maxJobId
  rw [pruneHistory_replicationJobs, Table.latest_delete]
  intro job hlatest
  -- the job with the largest id is the latest of its object
  obtain ⟨hjob, -, hmax⟩ := Table.latest_eq_some.mp hlatest
  have hlast : store.replicationJobs.isLast ReplicationJob.triple job = true :=
    Table.isLast_iff.mpr (fun other hother _ => hmax other hother rfl)
  simpa using not_doomed_of_isLast hjob hlast

theorem loadPendingJobs_pruneHistory (limit : Option Nat) :
    (store.pruneHistory retention).2.loadPendingJobs limit = store.loadPendingJobs limit := by
  have hrunnable :
      (store.pruneHistory retention).2.replicationJobs.rows.filter
          (fun job => job.status.isRunnable) =
        store.replicationJobs.rows.filter (fun job => job.status.isRunnable) := by
    rw [pruneHistory_replicationJobs]
    change (store.replicationJobs.rows.filter _).filter _ = _
    rw [List.filter_filter]
    refine List.filter_congr ?_
    intro job hjob
    cases hstatus : job.status.isRunnable with
    | false => rfl
    | true =>
      have hkept := (mem_pruneHistory.mp
        (@pruneHistory_keeps store retention job hjob (Or.inl hstatus))).2
      simp [hkept]
  unfold loadPendingJobs
  rw [hrunnable]

theorem joinedDeadLetters_pruneHistory (p : DeadLetterRow → Bool) :
    (store.pruneHistory retention).2.joinedDeadLetters p = store.joinedDeadLetters p := by
  unfold joinedDeadLetters
  rw [pruneHistory_replicationDeadLetters]
  refine List.filterMap_congr ?_
  intro row hrow
  have hmem : row ∈ store.replicationDeadLetters :=
    (List.mem_filter.mp ((List.mem_insertionSort _).mp hrow)).1
  rw [pruneHistory_replicationJobs, Table.find?_delete]
  intro job hjob hid
  -- the job of a dead letter is protected
  have hkept := (mem_pruneHistory.mp (@pruneHistory_keeps store retention job hjob
    (Or.inr (Or.inr ⟨row, hmem, hid.symm⟩)))).2
  simpa using hkept

/-- No read query sees a pruning. -/
theorem readersAgree_pruneHistory (store : MetadataStore)
    (retention : MetadataRetentionPolicy) :
    ReadersAgree store (store.pruneHistory retention).2 where
  latestJobForObject := latestJobForObject_pruneHistory
  latestJobsForBucket := by
    intro target bucket
    unfold latestJobsForBucket
    rw [latestJobsWhere_bucket, latestJobsWhere_bucket, pruneHistory_lastRows]
  latestFailedJobs := by
    intro target
    unfold latestFailedJobs
    cases target with
    | none => simp only [pruneHistory_lastRows]
    | some target =>
      simp only [latestJobsWhere_target_triple, pruneHistory_lastRows]
  fallbackReadableBuckets := by
    intro target
    unfold fallbackReadableBuckets
    rw [latestJobsWhere_target, latestJobsWhere_target, pruneHistory_lastRows]
  loadPendingJobs := loadPendingJobs_pruneHistory
  maxJobId := maxJobId_pruneHistory
  listDeadLetterJobs := by
    intro target includeReplayed limit
    unfold listDeadLetterJobs
    rw [joinedDeadLetters_pruneHistory]
  countDeadLetterJobs := by
    intro target includeReplayed
    unfold countDeadLetterJobs
    rw [pruneHistory_replicationDeadLetters]
  openDeadLetterTargetCounts := by
    unfold openDeadLetterTargetCounts
    rw [pruneHistory_replicationDeadLetters]
  snapshotCounts := by
    intro limit
    unfold snapshot latestStatusAggregate targetStatuses
    rw [pruneHistory_lastRows]
    exact ⟨rfl, rfl, rfl, rfl, rfl⟩

/-! ## Section 3: Retention as a whole -/

/-- A job that retention may delete: finished, not latest of its object, without a dead
letter. -/
def Unprotected (store : MetadataStore) (job : ReplicationJob) : Prop :=
  store.Superseded job ∧ ∀ row ∈ store.replicationDeadLetters, row.originalJobId ≠ job.jobId

theorem mem_history_iff_unprotected {status : ReplicationStatus} {job : ReplicationJob}
    (hjob : job ∈ store.replicationJobs) :
    job.jobId ∈ store.history status ↔ job.status = status ∧ store.Unprotected job := by
  rw [mem_history]
  unfold Unprotected
  constructor
  · rintro ⟨⟨job', hjob', hid, hstatus, hlast⟩, hdead⟩
    obtain rfl : job' = job := Table.eq_of_key_eq hjob' hjob hid
    exact ⟨hstatus, isLast_eq_false_iff.mp hlast, hdead⟩
  · rintro ⟨hstatus, hsuperseded, hdead⟩
    exact ⟨⟨job, hjob, rfl, hstatus, isLast_eq_false_iff.mpr hsuperseded⟩, hdead⟩

/-- An unprotected job of the history survives exactly when it is among the newest. -/
theorem mem_pruneHistory_iff_take {status : ReplicationStatus} {limit : Nat}
    {job : ReplicationJob}
    (htake : (store.pruneHistory retention).2.history status =
      (store.history status).take limit)
    (hjob : job ∈ store.replicationJobs) (hstatus : job.status = status)
    (hunprotected : store.Unprotected job) :
    job ∈ (store.pruneHistory retention).2.replicationJobs ↔
      job.jobId ∈ (store.history status).take limit := by
  have hmem : job.jobId ∈ store.history status :=
    (mem_history_iff_unprotected hjob).mpr ⟨hstatus, hunprotected⟩
  rw [← htake, history_pruneHistory, List.mem_filter, mem_pruneHistory]
  simp [hjob, hmem]

end MetadataStore

end Netdisk2Blob.Metadata
