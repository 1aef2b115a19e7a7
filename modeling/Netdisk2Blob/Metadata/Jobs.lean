import Netdisk2Blob.Metadata.Retention

/-!
# Operations on Replication Jobs

The operations of `MetadataStore` that write `replication_jobs`: enqueue, status
changes and the manual retry of failed jobs.

Each operation has one lemma that says everything it does to the rows; the proofs
about runs cite these and do not unfold the operations.
-/

namespace Netdisk2Blob.Metadata

open Library Replication

namespace MetadataStore

/-! ## Section 1: Enqueue -/

/-- One transaction of upserts; the status a row had is overwritten. -/
def enqueueJobs (store : MetadataStore) (jobs : List ReplicationJob) : MetadataStore :=
  jobs.foldl upsertJob store

def saveJob (store : MetadataStore) (job : ReplicationJob) : MetadataStore :=
  store.enqueueJobs [job]

theorem mem_enqueueJobs {store : MetadataStore} {jobs : List ReplicationJob}
    (hnodup : (jobs.map (·.jobId)).Nodup) {row : ReplicationJob} :
    row ∈ (store.enqueueJobs jobs).replicationJobs ↔
      row ∈ jobs ∨ (row ∈ store.replicationJobs ∧ row.jobId ∉ jobs.map (·.jobId)) := by
  induction jobs generalizing store with
  | nil => simp [enqueueJobs]
  | cons job jobs ih =>
    obtain ⟨hfresh, hrest⟩ := List.nodup_cons.mp hnodup
    change row ∈ ((store.upsertJob job).enqueueJobs jobs).replicationJobs ↔ _
    rw [ih hrest, mem_upsertJob, List.map_cons, List.mem_cons, List.mem_cons]
    constructor
    · rintro (hmem | ⟨rfl | ⟨hmem, hne⟩, hids⟩)
      · exact Or.inl (Or.inr hmem)
      · exact Or.inl (Or.inl rfl)
      · exact Or.inr ⟨hmem, fun h => h.elim hne hids⟩
    · rintro ((rfl | hmem) | ⟨hmem, hids⟩)
      · exact Or.inr ⟨Or.inl rfl, hfresh⟩
      · exact Or.inl hmem
      · exact Or.inr ⟨Or.inr ⟨hmem, fun h => hids (Or.inl h)⟩, fun h => hids (Or.inr h)⟩

@[simp] theorem enqueueJobs_replicationDeadLetters (store : MetadataStore)
    (jobs : List ReplicationJob) :
    (store.enqueueJobs jobs).replicationDeadLetters = store.replicationDeadLetters := by
  induction jobs generalizing store with
  | nil => rfl
  | cons job jobs ih => exact ih (store.upsertJob job)

theorem mem_saveJob {store : MetadataStore} {job row : ReplicationJob} :
    row ∈ (store.saveJob job).replicationJobs ↔
      row = job ∨ (row ∈ store.replicationJobs ∧ row.jobId ≠ job.jobId) :=
  mem_upsertJob

/-! ## Section 2: Status changes -/

/-- `UPDATE ... SET status = ?, attempts = ?, last_error = ?, next_attempt_at = NULL
WHERE job_id = ?`. -/
def setJobOutcome (store : MetadataStore) (jobId : Nat) (status : ReplicationStatus)
    (attempts : Nat) (lastError : Option String) : MetadataStore :=
  store.updateJob jobId (fun job => job.withOutcome status attempts lastError)
    (fun job => job.withOutcome_jobId status attempts lastError)

/-- The update of an existing row changes this row only. -/
theorem mem_setJobOutcome {store : MetadataStore} {jobId attempts : Nat}
    {status : ReplicationStatus} {lastError : Option String} {job row : ReplicationJob}
    (hjob : job ∈ store.replicationJobs) (hid : job.jobId = jobId) :
    row ∈ (store.setJobOutcome jobId status attempts lastError).replicationJobs ↔
      (row ∈ store.replicationJobs ∧ row.jobId ≠ jobId) ∨
        row = job.withOutcome status attempts lastError := by
  unfold setJobOutcome
  rw [mem_updateJob]
  constructor
  · rintro (hrow | ⟨job', hjob', hid', rfl⟩)
    · exact Or.inl hrow
    · obtain rfl : job' = job := Table.eq_of_key_eq hjob' hjob (hid'.trans hid.symm)
      exact Or.inr rfl
  · rintro (hrow | rfl)
    · exact Or.inl hrow
    · exact Or.inr ⟨job, hjob, hid, rfl⟩

def markJobStatus (store : MetadataStore) (jobId : Nat) (status : ReplicationStatus)
    (attempts : Nat) (lastError : Option String) :
    Except MetadataError (MetadataPruneResult × MetadataStore) :=
  match store.replicationJobs.find? jobId with
  | none => .error (.missingJob jobId)
  | some _ =>
    let updated := store.setJobOutcome jobId status attempts lastError
    .ok (updated.pruneHistory updated.retention)

/-- What `mark_job_status` does: the one row gets the status, other rows stay or are
pruned, dead letters stay. -/
theorem markJobStatus_ok {store store' : MetadataStore} {jobId : Nat}
    {status : ReplicationStatus} {attempts : Nat} {lastError : Option String}
    {pruned : MetadataPruneResult}
    (h : store.markJobStatus jobId status attempts lastError = .ok (pruned, store')) :
    ∃ job ∈ store.replicationJobs, job.jobId = jobId ∧
      ∃ updated, store' = (MetadataStore.pruneHistory updated updated.retention).2 ∧
        updated.replicationDeadLetters = store.replicationDeadLetters ∧
        ∀ row, row ∈ updated.replicationJobs ↔
          (row ∈ store.replicationJobs ∧ row.jobId ≠ jobId) ∨
            row = job.withOutcome status attempts lastError := by
  unfold markJobStatus at h
  split at h
  · exact absurd h (by simp)
  · rename_i job hfind
    obtain ⟨hjob, hid⟩ := Table.find?_eq_some.mp hfind
    refine ⟨job, hjob, hid, _, (congrArg Prod.snd (Except.ok.inj h)).symm, rfl, ?_⟩
    intro row
    exact mem_setJobOutcome hjob hid

/-- It fails exactly on a row that is not there. -/
theorem markJobStatus_error_iff {store : MetadataStore} {jobId : Nat}
    {status : ReplicationStatus} {attempts : Nat} {lastError : Option String} :
    (∃ error, store.markJobStatus jobId status attempts lastError = .error error) ↔
      ∀ job ∈ store.replicationJobs, job.jobId ≠ jobId := by
  rw [← Table.find?_eq_none]
  unfold markJobStatus
  constructor
  · rintro ⟨error, h⟩
    split at h
    · assumption
    · simp at h
  · intro hnone
    exact ⟨.missingJob jobId, by rw [hnone]⟩

/-! ## Section 3: Manual retry -/

/-- `SELECT ... INNER JOIN (SELECT g, MAX(job_id) ... WHERE p GROUP BY g)`. -/
def latestJobsWhere {γ : Type} [DecidableEq γ] (store : MetadataStore)
    (p : ReplicationJob → Bool) (g : ReplicationJob → γ) : List ReplicationJob :=
  (store.replicationJobs.delete (fun job => !p job)).lastRows g

/-- `latest_job_for_object`. -/
def latestJobForObject (store : MetadataStore) (target bucket key : String) :
    Option ReplicationJob :=
  store.replicationJobs.latest (fun job => decide (job.triple = (target, bucket, key)))

/-- `UPDATE ... SET status = 'pending', attempts = 0, ... WHERE job_id = ?`. -/
def requeueJob (store : MetadataStore) (enqueuedAtUnixMs jobId : Nat) : MetadataStore :=
  store.updateJob jobId (fun row => row.requeued enqueuedAtUnixMs)
    (fun row => row.requeued_jobId enqueuedAtUnixMs)

theorem mem_requeueJob {store : MetadataStore} {now jobId : Nat} {row : ReplicationJob} :
    row ∈ (store.requeueJob now jobId).replicationJobs ↔
      (row ∈ store.replicationJobs ∧ row.jobId ≠ jobId) ∨
        ∃ job ∈ store.replicationJobs, job.jobId = jobId ∧ row = job.requeued now :=
  mem_updateJob

def retryFailedJob (store : MetadataStore) (jobId enqueuedAtUnixMs : Nat) :
    Except MetadataError (ReplicationJob × MetadataStore) :=
  match store.replicationJobs.find? jobId with
  | none => .error (.missingJob jobId)
  | some job =>
    if job.status ≠ .failed then .error (.jobNotFailed jobId)
    else
      match store.latestJobForObject job.target job.object.bucket job.object.key with
      | none => .error (.missingJob jobId)
      | some latest =>
        if latest.jobId ≠ jobId then .error (.jobNotLatest jobId latest.jobId)
        else
          .ok (job.requeued enqueuedAtUnixMs, store.requeueJob enqueuedAtUnixMs jobId)

/-- The latest jobs of a target that failed, oldest first. -/
def latestFailedJobsOfTarget (store : MetadataStore) (target : String) :
    List ReplicationJob :=
  (store.latestJobsWhere (fun job => decide (job.target = target))
    (fun job => (job.object.bucket, job.object.key))).filter
      (fun job => decide (job.target = target ∧ job.status = .failed))

def retryFailedJobsForTarget (store : MetadataStore) (target : String)
    (enqueuedAtUnixMs : Nat) : List ReplicationJob × MetadataStore :=
  let failedJobs := store.latestFailedJobsOfTarget target
  (failedJobs.map (fun job => job.requeued enqueuedAtUnixMs),
    (failedJobs.map (·.jobId)).foldl (fun store jobId => store.requeueJob enqueuedAtUnixMs jobId)
      store)

theorem mem_latestFailedJobsOfTarget {store : MetadataStore} {target : String}
    {job : ReplicationJob} (h : job ∈ store.latestFailedJobsOfTarget target) :
    job ∈ store.replicationJobs ∧ job.target = target ∧ job.status = .failed := by
  obtain ⟨hjob, hp⟩ := List.mem_filter.mp h
  have hp' : job.target = target ∧ job.status = .failed := by simpa using hp
  exact ⟨(Table.mem_delete.mp (Table.mem_lastRows.mp hjob).1).1, hp'⟩

/-- A manual retry succeeds exactly on a failed job that is not superseded. -/
theorem retryFailedJob_ok_iff {store : MetadataStore} {jobId enqueuedAtUnixMs : Nat} :
    (∃ result, store.retryFailedJob jobId enqueuedAtUnixMs = .ok result) ↔
      ∃ job ∈ store.replicationJobs, job.jobId = jobId ∧ job.status = .failed ∧
        ¬ store.Superseded job := by
  have hlatest : ∀ job ∈ store.replicationJobs, ∃ latest,
      store.latestJobForObject job.target job.object.bucket job.object.key = some latest ∧
        (latest.jobId = job.jobId ↔ ¬ store.Superseded job) := by
    intro job hjob
    obtain ⟨latest, hmem, htriple, hle, hlast⟩ :=
      Table.exists_last ReplicationJob.triple hjob
    refine ⟨latest, Table.latest_eq_some_iff_isLast.mpr ⟨hmem, htriple, hlast⟩, ?_⟩
    unfold Superseded
    constructor
    · rintro hid ⟨newer, hnewer, htriple', hlt⟩
      have := Table.isLast_iff.mp hlast newer hnewer (htriple'.trans htriple.symm)
      omega
    · intro hnot
      by_contra hne
      exact hnot ⟨latest, hmem, htriple, by omega⟩
  unfold retryFailedJob
  constructor
  · rintro ⟨result, h⟩
    split at h
    · simp at h
    · rename_i job hfind
      obtain ⟨hjob, hid⟩ := Table.find?_eq_some.mp hfind
      obtain ⟨latest, hsome, hiff⟩ := hlatest job hjob
      split_ifs at h with hstatus
      rw [hsome] at h
      dsimp only at h
      split_ifs at h with hlatestId
      refine ⟨job, hjob, hid, by simpa using hstatus, hiff.mp ?_⟩
      rw [hid]
      simpa using hlatestId
  · rintro ⟨job, hjob, hid, hstatus, hnot⟩
    obtain ⟨latest, hsome, hiff⟩ := hlatest job hjob
    have hlatestId : latest.jobId = jobId := (hiff.mpr hnot).trans hid
    rw [Table.find?_eq_some.mpr ⟨hjob, hid⟩]
    simp [hstatus, hsome, hlatestId]

/-- What a manual retry does: a failed row becomes pending, nothing else changes. -/
theorem retryFailedJob_ok {store store' : MetadataStore} {jobId enqueuedAtUnixMs : Nat}
    {retried : ReplicationJob}
    (h : store.retryFailedJob jobId enqueuedAtUnixMs = .ok (retried, store')) :
    ∃ job ∈ store.replicationJobs, job.jobId = jobId ∧ job.status = .failed ∧
      store' = store.requeueJob enqueuedAtUnixMs jobId := by
  unfold retryFailedJob at h
  split at h
  · exact absurd h (by simp)
  · rename_i job hfind
    obtain ⟨hjob, hid⟩ := Table.find?_eq_some.mp hfind
    split_ifs at h with hstatus
    split at h
    · exact absurd h (by simp)
    · split_ifs at h with hlatest
      refine ⟨job, hjob, hid, by simpa using hstatus, ?_⟩
      exact (congrArg Prod.snd (Except.ok.inj h)).symm

/-- Requeueing a list of rows changes these rows only. -/
theorem mem_requeueAll {jobIds : List Nat} {now : Nat} {store : MetadataStore}
    {row : ReplicationJob} :
    row ∈ (jobIds.foldl (fun store jobId => store.requeueJob now jobId) store).replicationJobs ↔
      (row ∈ store.replicationJobs ∧ row.jobId ∉ jobIds) ∨
        ∃ job ∈ store.replicationJobs, job.jobId ∈ jobIds ∧ row = job.requeued now := by
  induction jobIds generalizing store with
  | nil => simp
  | cons head jobIds ih =>
    rw [List.foldl_cons, ih]
    simp only [mem_requeueJob, List.mem_cons]
    constructor
    · rintro (⟨⟨hrow, hne⟩ | ⟨job, hjob, hid, rfl⟩, hids⟩ |
        ⟨job, ⟨hjob, hne⟩ | ⟨job', hjob', hid', rfl⟩, hids, rfl⟩)
      · exact Or.inl ⟨hrow, fun h => h.elim hne hids⟩
      · exact Or.inr ⟨job, hjob, Or.inl hid, rfl⟩
      · exact Or.inr ⟨job, hjob, Or.inr hids, rfl⟩
      · exact Or.inr ⟨job', hjob', Or.inl hid', rfl⟩
    · rintro (⟨hrow, hids⟩ | ⟨job, hjob, hid, rfl⟩)
      · exact Or.inl ⟨Or.inl ⟨hrow, fun h => hids (Or.inl h)⟩, fun h => hids (Or.inr h)⟩
      · by_cases hhead : job.jobId = head
        · by_cases htail : head ∈ jobIds
          · -- requeued twice, which is requeued once
            exact Or.inr ⟨job.requeued now, Or.inr ⟨job, hjob, hhead, rfl⟩,
              by simpa [ReplicationJob.requeued, hhead] using htail, rfl⟩
          · exact Or.inl ⟨Or.inr ⟨job, hjob, hhead, rfl⟩,
              by simpa [ReplicationJob.requeued, hhead] using htail⟩
        · rcases hid with hid | hid
          · exact absurd hid hhead
          · exact Or.inr ⟨job, Or.inl ⟨hjob, hhead⟩, hid, rfl⟩

theorem requeueAll_replicationDeadLetters (jobIds : List Nat) (now : Nat)
    (store : MetadataStore) :
    (jobIds.foldl (fun store jobId => store.requeueJob now jobId)
      store).replicationDeadLetters = store.replicationDeadLetters := by
  induction jobIds generalizing store with
  | nil => rfl
  | cons jobId jobIds ih => exact ih _

/-! ## Section 4: Rows across a write -/

section Rows

variable {store store' : MetadataStore}

/-- A row for the object of a job that is at least as new as the job. -/
def Covers (store : MetadataStore) (job : ReplicationJob) : Prop :=
  ∃ row ∈ store.replicationJobs, row.triple = job.triple ∧ job.jobId ≤ row.jobId

/-- Rows that stay under their id and specification keep covering. -/
theorem covers_of_rows {job : ReplicationJob}
    (hrows : ∀ row ∈ store.replicationJobs, ∃ row' ∈ store'.replicationJobs,
      row'.jobId = row.jobId ∧ row'.spec = row.spec)
    (h : store.Covers job) : store'.Covers job := by
  obtain ⟨row, hrow, htriple, hle⟩ := h
  obtain ⟨row', hrow', hid, hspec⟩ := hrows row hrow
  exact ⟨row', hrow', (ReplicationJob.triple_eq_of_spec_eq hspec).trans htriple,
    hle.trans (le_of_eq hid.symm)⟩

/-- Retention leaves the latest row of every object, so it keeps covering. -/
theorem covers_pruneHistory {retention : MetadataRetentionPolicy} {job : ReplicationJob}
    (h : store.Covers job) : (store.pruneHistory retention).2.Covers job := by
  obtain ⟨row, hrow, htriple, hle⟩ := h
  obtain ⟨last, hlast, hgroup, hrowle, hislast⟩ :=
    Table.exists_last ReplicationJob.triple hrow
  exact ⟨last, pruneHistory_keeps hlast (Or.inr (Or.inl hislast)), hgroup.trans htriple,
    hle.trans hrowle⟩

/-- Where a row after an upsert of jobs comes from. -/
theorem enqueueJobs_origin {jobs : List ReplicationJob} {row : ReplicationJob}
    (h : row ∈ (store.enqueueJobs jobs).replicationJobs) :
    row ∈ jobs ∨ row ∈ store.replicationJobs := by
  induction jobs generalizing store with
  | nil => exact Or.inr h
  | cons job jobs ih =>
    rcases @ih (store.upsertJob job) h with hmem | hmem
    · exact Or.inl (List.mem_cons_of_mem _ hmem)
    · rcases mem_upsertJob.mp hmem with rfl | ⟨hold, -⟩
      · exact Or.inl List.mem_cons_self
      · exact Or.inr hold

/-- Where a row after `mark_job_status` comes from. -/
theorem markJobStatus_origin {jobId attempts : Nat} {status : ReplicationStatus}
    {lastError : Option String} {pruned : MetadataPruneResult} {row : ReplicationJob}
    (h : store.markJobStatus jobId status attempts lastError = .ok (pruned, store'))
    (hrow : row ∈ store'.replicationJobs) :
    ∃ old ∈ store.replicationJobs, old.jobId = row.jobId ∧ old.spec = row.spec ∧
      ((row = old ∧ row.jobId ≠ jobId) ∨ (row.jobId = jobId ∧ row.status = status)) := by
  obtain ⟨job, hjob, hid, updated, rfl, -, hrows⟩ := markJobStatus_ok h
  rcases (hrows row).mp (mem_pruneHistory.mp hrow).1 with ⟨hold, hne⟩ | rfl
  · exact ⟨row, hold, rfl, rfl, Or.inl ⟨rfl, hne⟩⟩
  · exact ⟨job, hjob, rfl, rfl, Or.inr ⟨hid, rfl⟩⟩

theorem covers_markJobStatus {jobId attempts : Nat} {status : ReplicationStatus}
    {lastError : Option String} {pruned : MetadataPruneResult} {job : ReplicationJob}
    (h : store.markJobStatus jobId status attempts lastError = .ok (pruned, store'))
    (hcovers : store.Covers job) : store'.Covers job := by
  obtain ⟨marked, hmarked, hid, updated, rfl, -, hrows⟩ := markJobStatus_ok h
  apply covers_pruneHistory
  refine covers_of_rows ?_ hcovers
  intro row hrow
  by_cases heq : row.jobId = jobId
  · obtain rfl : row = marked := Table.eq_of_key_eq hrow hmarked (heq.trans hid.symm)
    exact ⟨_, (hrows _).mpr (Or.inr rfl), rfl, rfl⟩
  · exact ⟨row, (hrows _).mpr (Or.inl ⟨hrow, heq⟩), rfl, rfl⟩

theorem covers_enqueueJobs_new {jobs : List ReplicationJob} {job : ReplicationJob}
    (hnodup : (jobs.map (·.jobId)).Nodup) (hjob : job ∈ jobs) :
    (store.enqueueJobs jobs).Covers job :=
  ⟨job, (mem_enqueueJobs hnodup).mpr (Or.inl hjob), rfl, le_refl _⟩

/-- An upsert that keeps what a row is about keeps covering. -/
theorem covers_enqueueJobs {jobs : List ReplicationJob} {job : ReplicationJob}
    (hnodup : (jobs.map (·.jobId)).Nodup)
    (hsame : ∀ new ∈ jobs, ∀ row ∈ store.replicationJobs, new.jobId = row.jobId →
      new.spec = row.spec)
    (hcovers : store.Covers job) : (store.enqueueJobs jobs).Covers job := by
  refine covers_of_rows ?_ hcovers
  intro row hrow
  by_cases hmem : row.jobId ∈ jobs.map (·.jobId)
  · obtain ⟨new, hnew, hid⟩ := List.mem_map.mp hmem
    exact ⟨new, (mem_enqueueJobs hnodup).mpr (Or.inl hnew), hid, hsame new hnew row hrow hid⟩
  · exact ⟨row, (mem_enqueueJobs hnodup).mpr (Or.inr ⟨hrow, hmem⟩), rfl, rfl⟩

end Rows

end MetadataStore

end Netdisk2Blob.Metadata
