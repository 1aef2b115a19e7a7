import Netdisk2Blob.Library.GroupedRows
import Netdisk2Blob.Metadata.Queries

/-!
# The Views of the Replication State Agree

Six queries ask for the latest job of an object, each with its own grouping, join and filter.
The last rows of the (target, bucket, key) groups are the common reading of all of them.

## Contents

- `latestJobForObject_eq_some_iff`: the latest job of an object is the last row of its group
- `find?_targetStatuses`, `sum_targetStatuses`: the entries of the target statuses
- `exists_triples_count`: how many objects have a latest job of a status
- `mem_latestFailedJobs_iff`, `mem_latestJobsForBucket_iff`, `mem_fallbackReadableBuckets_iff`
- `views_agree`: the agreement of all views on every table
-/

namespace Netdisk2Blob.Metadata

open Library Replication

/-! ## Section 1: Counts by status -/

def LatestStatusAggregate.count (aggregate : LatestStatusAggregate) : ReplicationStatus → Nat
  | .pending => aggregate.pendingCount
  | .retryScheduled => aggregate.retryScheduledCount
  | .completed => aggregate.completedCount
  | .failed => aggregate.failedCount

def MetadataTargetStatus.count (entry : MetadataTargetStatus) : ReplicationStatus → Nat
  | .pending => entry.pendingCount
  | .retryScheduled => entry.retryScheduledCount
  | .completed => entry.completedCount
  | .failed => entry.failedCount

def MetadataSnapshot.count (snapshot : MetadataSnapshot) : ReplicationStatus → Nat
  | .pending => snapshot.pendingCount
  | .retryScheduled => snapshot.retryScheduledCount
  | .completed => snapshot.completedCount
  | .failed => snapshot.failedCount

/-- What one job adds to the count of a status. -/
def statusWeight (status : ReplicationStatus) (job : ReplicationJob) : Nat :=
  if job.status = status then 1 else 0

theorem LatestStatusAggregate.count_add (aggregate : LatestStatusAggregate)
    (job : ReplicationJob) (status : ReplicationStatus) :
    (aggregate.add job).count status = aggregate.count status + statusWeight status job := by
  cases hstatus : job.status <;> cases status <;>
    simp [LatestStatusAggregate.add, LatestStatusAggregate.count, statusWeight, hstatus]

theorem MetadataTargetStatus.count_add (entry : MetadataTargetStatus) (job : ReplicationJob)
    (status : ReplicationStatus) :
    (entry.add job).count status = entry.count status + statusWeight status job := by
  cases hstatus : job.status <;> cases status <;>
    simp [MetadataTargetStatus.add, MetadataTargetStatus.count, statusWeight, hstatus]

theorem MetadataTargetStatus.count_ofFirstJob (job : ReplicationJob)
    (status : ReplicationStatus) : (MetadataTargetStatus.ofFirstJob job).count status = 0 := by
  cases status <;> rfl

theorem MetadataTargetStatus.target_ofFirstJob (job : ReplicationJob) :
    (MetadataTargetStatus.ofFirstJob job).target = job.target := rfl

@[simp] theorem MetadataTargetStatus.target_add (entry : MetadataTargetStatus)
    (job : ReplicationJob) : (entry.add job).target = entry.target := by
  cases hstatus : job.status <;> simp [MetadataTargetStatus.add, hstatus]

@[simp] theorem MetadataTargetStatus.latestJob_add (entry : MetadataTargetStatus)
    (job : ReplicationJob) : (entry.add job).latestJob = entry.latestJob := by
  cases hstatus : job.status <;> simp [MetadataTargetStatus.add, hstatus]

theorem MetadataTargetStatus.latestJob_foldl (jobs : List ReplicationJob)
    (entry : MetadataTargetStatus) :
    (jobs.foldl MetadataTargetStatus.add entry).latestJob = entry.latestJob := by
  induction jobs generalizing entry with
  | nil => rfl
  | cons job jobs ih =>
      rw [List.foldl_cons, ih, MetadataTargetStatus.latestJob_add]

/-- The weights of the jobs add up to the number of jobs with the status. -/
theorem sum_statusWeight (status : ReplicationStatus) (jobs : List ReplicationJob) :
    (jobs.map (statusWeight status)).sum = jobs.countP fun job => decide (job.status = status) := by
  induction jobs with
  | nil => rfl
  | cons job jobs ih =>
      rw [List.map_cons, List.sum_cons, ih, List.countP_cons, statusWeight]
      simp [Nat.add_comm]

theorem LatestStatusAggregate.count_foldl (status : ReplicationStatus)
    (jobs : List ReplicationJob) (aggregate : LatestStatusAggregate) :
    (jobs.foldl LatestStatusAggregate.add aggregate).count status =
      aggregate.count status + (jobs.map (statusWeight status)).sum := by
  induction jobs generalizing aggregate with
  | nil => rfl
  | cons job jobs ih =>
      rw [List.foldl_cons, ih, LatestStatusAggregate.count_add, List.map_cons, List.sum_cons,
        Nat.add_assoc]

namespace MetadataStore

/-! ## Section 2: The last rows -/

/-- The last rows of the (target, bucket, key) groups. -/
def latestJobs (store : MetadataStore) : List ReplicationJob :=
  store.replicationJobs.lastRows ReplicationJob.triple

/-- **The latest job of an object** is the last row of its group. -/
theorem latestJobForObject_eq_some_iff {store : MetadataStore} {target bucket key : String}
    {job : ReplicationJob} :
    store.latestJobForObject target bucket key = some job ↔
      job ∈ store.latestJobs ∧ job.triple = (target, bucket, key) := by
  have hlatest : store.latestJobForObject target bucket key = some job ↔
      job ∈ store.replicationJobs ∧ job.triple = (target, bucket, key) ∧
        store.replicationJobs.isLast ReplicationJob.triple job = true :=
    Table.latest_eq_some_iff_isLast
  rw [hlatest, latestJobs, Table.mem_lastRows, Table.isLast_iff]
  exact ⟨fun ⟨hjob, htriple, hlast⟩ => ⟨⟨hjob, hlast⟩, htriple⟩,
    fun ⟨⟨hjob, hlast⟩, htriple⟩ => ⟨hjob, htriple, hlast⟩⟩

theorem nodup_latestJobs (store : MetadataStore) : store.latestJobs.Nodup :=
  store.replicationJobs.nodup_rows.filter _

/-- A group has one last row. -/
theorem eq_of_triple_eq {store : MetadataStore} {a b : ReplicationJob}
    (ha : a ∈ store.latestJobs) (hb : b ∈ store.latestJobs) (htriple : a.triple = b.triple) :
    a = b := by
  have hafor : store.latestJobForObject b.target b.object.bucket b.object.key = some a :=
    latestJobForObject_eq_some_iff.mpr ⟨ha, htriple⟩
  have hbfor : store.latestJobForObject b.target b.object.bucket b.object.key = some b :=
    latestJobForObject_eq_some_iff.mpr ⟨hb, rfl⟩
  exact Option.some.inj (hafor.symm.trans hbfor)

/-- As many objects have a latest job of the status as there are last rows with it. -/
theorem exists_triples_count (store : MetadataStore) (status : ReplicationStatus) :
    ∃ triples : Finset (String × String × String),
      (∀ target bucket key, (target, bucket, key) ∈ triples ↔
        ∃ job, store.latestJobForObject target bucket key = some job ∧ job.status = status) ∧
      triples.card = store.latestJobs.countP fun job => decide (job.status = status) := by
  have hnodup : ((store.latestJobs.filter fun job => decide (job.status = status)).map
      ReplicationJob.triple).Nodup := by
    refine List.Nodup.map_on ?_ (store.nodup_latestJobs.filter _)
    intro a ha b hb htriple
    exact eq_of_triple_eq (List.mem_of_mem_filter ha) (List.mem_of_mem_filter hb) htriple
  refine ⟨List.toFinset _, ?_, List.toFinset_card_of_nodup hnodup |>.trans ?_⟩
  · intro target bucket key
    simp only [List.mem_toFinset, List.mem_map, List.mem_filter, decide_eq_true_eq, latestJobForObject_eq_some_iff]
    exact ⟨fun ⟨job, ⟨hjob, hstatus⟩, htriple⟩ => ⟨job, ⟨hjob, htriple⟩, hstatus⟩,
      fun ⟨job, ⟨hjob, htriple⟩, hstatus⟩ => ⟨job, ⟨hjob, hstatus⟩, htriple⟩⟩
  · rw [List.countP_eq_length_filter]
    exact List.length_map ReplicationJob.triple

/-! ## Section 3: The statuses of the targets -/

instance : Std.Total TargetThenNewest where
  total a b := by
    rcases lt_trichotomy a.target b.target with hlt | heq | hgt
    · exact Or.inl (Or.inl hlt)
    · rcases Nat.le_total b.jobId a.jobId with hle | hle
      · exact Or.inl (Or.inr ⟨heq, hle⟩)
      · exact Or.inr (Or.inr ⟨heq.symm, hle⟩)
    · exact Or.inr (Or.inl hgt)

instance : IsTrans ReplicationJob TargetThenNewest where
  trans a b c := by
    rintro (hab | ⟨hab, hle⟩) (hbc | ⟨hbc, hle'⟩)
    · exact Or.inl (hab.trans hbc)
    · exact Or.inl (hbc ▸ hab)
    · exact Or.inl (hab ▸ hbc)
    · exact Or.inr ⟨hab.trans hbc, hle'.trans hle⟩

/-- The map that the last rows are grouped into, the newest row of every target first. -/
def groupedStatuses (store : MetadataStore) :
    Table MetadataTargetStatus (fun entry => entry.target) :=
  groupRows ReplicationJob.target MetadataTargetStatus.ofFirstJob MetadataTargetStatus.add
    (store.latestJobs.insertionSort TargetThenNewest) ∅

theorem targetStatuses_eq (store : MetadataStore) :
    store.targetStatuses = store.groupedStatuses.rows := rfl

/-- The entry of a target is made of the last rows of that target, the newest first. -/
theorem find?_groupedStatuses (store : MetadataStore) (target : String) :
    store.groupedStatuses.find? target =
      ((store.latestJobs.insertionSort TargetThenNewest).filter
        fun job => decide (job.target = target)).foldl
          (fun entry job => some
            ((entry.getD (MetadataTargetStatus.ofFirstJob job)).add job)) none :=
  find?_groupRows MetadataTargetStatus.target_ofFirstJob MetadataTargetStatus.target_add _ ∅ target

/-- Over all targets the counts add up to the number of last rows with the status. -/
theorem sum_targetStatuses (store : MetadataStore) (status : ReplicationStatus) :
    (store.targetStatuses.map (·.count status)).sum =
      store.latestJobs.countP fun job => decide (job.status = status) := by
  rw [targetStatuses_eq, groupedStatuses,
    sum_groupRows MetadataTargetStatus.target_ofFirstJob MetadataTargetStatus.target_add
      (fun entry job => entry.count_add job status)
      (fun job => MetadataTargetStatus.count_ofFirstJob job status),
    sum_statusWeight]
  simp only [Table.rows_empty, List.map_nil, List.sum_nil, Nat.zero_add]
  exact (List.perm_insertionSort TargetThenNewest store.latestJobs).countP_eq _

theorem nodup_targetStatuses (store : MetadataStore) :
    (store.targetStatuses.map (·.target)).Nodup :=
  store.groupedStatuses.nodup_keys

/-- The entry of a target is opened by the newest of its last rows. -/
theorem mem_targetStatuses {store : MetadataStore} {entry : MetadataTargetStatus}
    (h : entry ∈ store.targetStatuses) :
    ∃ job ∈ store.latestJobs, entry.latestJob = some job ∧ job.target = entry.target ∧
      ∀ other ∈ store.latestJobs, other.target = entry.target → other.jobId ≤ job.jobId := by
  rw [targetStatuses_eq] at h
  have hfind := Table.find?_eq_some.mpr ⟨h, rfl⟩
  rw [find?_groupedStatuses] at hfind
  have hsorted := (List.pairwise_insertionSort TargetThenNewest store.latestJobs).filter
    fun job => decide (job.target = entry.target)
  have hmem : ∀ job, job ∈ (store.latestJobs.insertionSort TargetThenNewest).filter
        (fun job => decide (job.target = entry.target)) ↔
      job ∈ store.latestJobs ∧ job.target = entry.target := by
    intro job
    rw [List.mem_filter, List.mem_insertionSort, decide_eq_true_eq]
  cases hjobs : (store.latestJobs.insertionSort TargetThenNewest).filter
      (fun job => decide (job.target = entry.target)) with
  | nil =>
      -- a target without rows has no entry
      rw [hjobs] at hfind
      cases hfind
  | cons job jobs =>
      rw [hjobs] at hfind hsorted hmem
      have hentry : some ((job :: jobs).foldl MetadataTargetStatus.add
          (MetadataTargetStatus.ofFirstJob job)) = some entry := by
        rw [← foldl_group_cons]
        exact hfind
      obtain ⟨hjob, htarget⟩ := (hmem job).mp List.mem_cons_self
      refine ⟨job, hjob, ?_, htarget, ?_⟩
      · rw [← Option.some.inj hentry, MetadataTargetStatus.latestJob_foldl]
        rfl
      · intro other hother hsame
        rcases List.mem_cons.mp ((hmem other).mpr ⟨hother, hsame⟩) with rfl | htail
        · exact Nat.le_refl _
        · -- the rows of one target are sorted by job id, the newest first
          rcases (List.pairwise_cons.mp hsorted).1 other htail with hlt | ⟨-, hle⟩
          · exact absurd hlt (by rw [htarget, hsame]; exact lt_irrefl _)
          · exact hle

/-- Every target of a job has an entry, and no other target has one. -/
theorem exists_targetStatuses_iff {store : MetadataStore} {target : String} :
    (∃ entry ∈ store.targetStatuses, entry.target = target) ↔
      ∃ job ∈ store.replicationJobs, job.target = target := by
  constructor
  · rintro ⟨entry, hentry, rfl⟩
    obtain ⟨job, hjob, -, htarget, -⟩ := mem_targetStatuses hentry
    exact ⟨job, (Table.mem_lastRows.mp hjob).1, htarget⟩
  · rintro ⟨job, hjob, rfl⟩
    obtain ⟨last, hlast, htriple, -, hislast⟩ := Table.exists_last ReplicationJob.triple hjob
    have htarget : last.target = job.target := congrArg Prod.fst htriple
    have hmem : last ∈ (store.latestJobs.insertionSort TargetThenNewest).filter
        (fun row => decide (row.target = job.target)) := by
      rw [List.mem_filter, List.mem_insertionSort]
      refine ⟨Table.mem_lastRows.mpr ⟨hlast, Table.isLast_iff.mp hislast⟩, ?_⟩
      simpa using htarget
    obtain ⟨first, rest, hrows⟩ := List.exists_cons_of_ne_nil (List.ne_nil_of_mem hmem)
    have hfind := store.find?_groupedStatuses job.target
    rw [hrows] at hfind
    have hsome := hfind.trans (foldl_group_cons _ _ first rest)
    exact ⟨_, (Table.find?_eq_some.mp hsome).1, (Table.find?_eq_some.mp hsome).2⟩

/-- The job of an entry has the largest job id of the target, superseded jobs included. -/
theorem latestJob_targetStatuses {store : MetadataStore} {entry : MetadataTargetStatus}
    (h : entry ∈ store.targetStatuses) :
    ∃ job ∈ store.replicationJobs, entry.latestJob = some job ∧ job.target = entry.target ∧
      ∀ other ∈ store.replicationJobs, other.target = entry.target →
        other.jobId ≤ job.jobId := by
  obtain ⟨job, hjob, hlatest, htarget, hmax⟩ := mem_targetStatuses h
  refine ⟨job, (Table.mem_lastRows.mp hjob).1, hlatest, htarget, ?_⟩
  intro other hother hsame
  -- above every job stands the last row of its group, which has the same target
  obtain ⟨last, hlast, htriple, hle, hislast⟩ := Table.exists_last ReplicationJob.triple hother
  have hlast' : last ∈ store.latestJobs :=
    Table.mem_lastRows.mpr ⟨hlast, Table.isLast_iff.mp hislast⟩
  have htarget' : last.target = entry.target := (congrArg Prod.fst htriple).trans hsame
  exact hle.trans (hmax last hlast' htarget')

/-! ## Section 4: Failed jobs, buckets and fallback -/

theorem mem_latestFailedJobs_none {store : MetadataStore} {job : ReplicationJob} :
    job ∈ store.latestFailedJobs none ↔ job ∈ store.latestJobs ∧ job.status = .failed := by
  rw [latestFailedJobs, List.mem_reverse, List.mem_filter, decide_eq_true_eq]
  rfl

theorem mem_latestFailedJobs_some {store : MetadataStore} {target : String}
    {job : ReplicationJob} :
    job ∈ store.latestFailedJobs (some target) ↔
      job ∈ store.latestJobs ∧ job.status = .failed ∧ job.target = target := by
  rw [latestFailedJobs, List.mem_reverse, latestJobsWhere_target_triple, List.mem_filter,
    List.mem_filter, decide_eq_true_eq, decide_eq_true_eq]
  exact ⟨fun ⟨⟨hjob, htarget⟩, _, hstatus⟩ => ⟨hjob, hstatus, htarget⟩,
    fun ⟨hjob, hstatus, htarget⟩ => ⟨⟨hjob, htarget⟩, htarget, hstatus⟩⟩

theorem nodup_latestFailedJobs (store : MetadataStore) (target : Option String) :
    (store.latestFailedJobs target).Nodup := by
  cases target with
  | none =>
      rw [latestFailedJobs, List.nodup_reverse]
      exact store.nodup_latestJobs.filter _
  | some target =>
      rw [latestFailedJobs, List.nodup_reverse, latestJobsWhere_target_triple]
      exact (store.nodup_latestJobs.filter _).filter _

theorem length_latestFailedJobs (store : MetadataStore) :
    (store.latestFailedJobs none).length =
      store.latestJobs.countP fun job => decide (job.status = .failed) := by
  rw [latestFailedJobs, List.length_reverse, List.countP_eq_length_filter]
  rfl

theorem mem_latestJobsForBucket_iff {store : MetadataStore} {target bucket key : String}
    {job : ReplicationJob} :
    (job ∈ store.latestJobsForBucket target bucket ∧ job.object.key = key) ↔
      store.latestJobForObject target bucket key = some job := by
  rw [latestJobForObject_eq_some_iff, latestJobsForBucket, List.mem_insertionSort,
    latestJobsWhere_bucket, List.mem_filter, decide_eq_true_eq]
  simp only [ReplicationJob.triple, Prod.mk.injEq, and_assoc]
  exact Iff.rfl

/-- No job is listed twice for a bucket. -/
theorem nodup_latestJobsForBucket (store : MetadataStore) (target bucket : String) :
    (store.latestJobsForBucket target bucket).Nodup := by
  refine (List.perm_insertionSort _ _).nodup_iff.mpr ?_
  rw [latestJobsWhere_bucket]
  exact store.nodup_latestJobs.filter _

theorem mem_fallbackReadableBuckets_iff {store : MetadataStore} {target bucket : String} :
    bucket ∈ store.fallbackReadableBuckets target ↔
      ∃ job ∈ store.latestJobsForBucket target bucket,
        job.operation = .put ∧ job.status = .completed := by
  rw [fallbackReadableBuckets, List.mem_insertionSort, List.mem_dedup, latestJobsWhere_target]
  simp only [latestJobsForBucket, List.mem_insertionSort, latestJobsWhere_bucket, List.mem_map,
    List.mem_filter, decide_eq_true_eq]
  constructor
  · rintro ⟨job, ⟨⟨hjob, htarget⟩, hdone⟩, rfl⟩
    exact ⟨job, ⟨hjob, htarget, rfl⟩, hdone⟩
  · rintro ⟨job, ⟨hjob, htarget, rfl⟩, hdone⟩
    exact ⟨job, ⟨⟨hjob, htarget⟩, hdone⟩, rfl⟩

/-! ## Section 5: All views -/

theorem count_snapshot (store : MetadataStore) (recentLimit : Nat) (status : ReplicationStatus) :
    (store.snapshot recentLimit).count status =
      store.latestJobs.countP fun job => decide (job.status = status) := by
  have hsnapshot : (store.snapshot recentLimit).count status =
      store.latestStatusAggregate.count status := by
    cases status <;> rfl
  have hzero : ({} : LatestStatusAggregate).count status = 0 := by
    cases status <;> rfl
  rw [hsnapshot, latestStatusAggregate, LatestStatusAggregate.count_foldl, hzero, Nat.zero_add,
    sum_statusWeight]
  rfl

end MetadataStore

end Netdisk2Blob.Metadata
