import Netdisk2Blob.Gateway.JobIdOrder

/-!
# Runs that Keep Job Ids in Order

What every action does to the places of the jobs, the restart among them, and from it the
order of the ids over whole runs.

## Main results

- `Inv.restart`: after a restart the counter is above every id ever stored, if the table
  still had a row as large
- `always_jobIdsKept`: the ids stay in order throughout a run whose restores and restarts
  meet `idGuard`
- `restoredThenRestarted_repeats`: a run in which an id comes again
-/

namespace Netdisk2Blob.Gateway

open Library Policy Replication Metadata Backup

theorem jobWork_eq_of_spec_eq {a b : ReplicationJob} (h : a.spec = b.spec) :
    jobWork a = jobWork b := by
  simp only [ReplicationJob.spec, Prod.mk.injEq] at h
  simp [jobWork, h.1, h.2.2.1, h.2.2.2]

namespace JobSystem

variable {s s' : JobSystem}

/-! ## Section 1: Steps that write no new rows -/

/-- A row that was there under its id, with the work it has. -/
def KnownRow (s : JobSystem) (row : ReplicationJob) : Prop :=
  ∃ old ∈ s.store.replicationJobs, old.jobId = row.jobId ∧ jobWork old = jobWork row

theorem knownRow_of_mem {row : ReplicationJob} (hrow : row ∈ s.store.replicationJobs) :
    s.KnownRow row := ⟨row, hrow, rfl, rfl⟩

theorem knownRow_of_spec {old row : ReplicationJob} (hold : old ∈ s.store.replicationJobs)
    (hid : old.jobId = row.jobId) (hspec : old.spec = row.spec) : s.KnownRow row :=
  ⟨old, hold, hid, jobWork_eq_of_spec_eq hspec⟩

theorem KnownRow.known {row : ReplicationJob} (h : s.KnownRow row) : s.Known row := by
  obtain ⟨old, hold, hid, hwork⟩ := h
  exact ⟨old, .row hold, hid, hwork⟩

theorem known_queued (job : ReplicationJob) (hjob : job ∈ s.engine.pendingJobs) : s.Known job :=
  (Holds.queued hjob).known

theorem known_unsaved (job : ReplicationJob) (hjob : job ∈ s.unsaved) : s.Known job :=
  (Holds.unsaved hjob).known

theorem known_inFlight (job : ReplicationJob) (hjob : job ∈ s.inFlight) : s.Known job :=
  (Holds.inFlight hjob).known

theorem known_unpushed (job : ReplicationJob) (hjob : job ∈ s.unpushed) : s.Known job :=
  (Holds.unpushed hjob).known

theorem known_replacement (job : ReplicationJob) (hjob : ∃ jobs ∈ s.replacements, job ∈ jobs) :
    s.Known job := by
  obtain ⟨jobs, hjobs, hjob⟩ := hjob
  exact (Holds.replacement hjobs hjob).known

theorem Outside.known {job : ReplicationJob} (h : s.Outside job) : s.Known job := h.holds.known

/-- Every row has an id that was stored. -/
def RowsStored (s : JobSystem) : Prop :=
  ∀ row ∈ s.store.replicationJobs, row.jobId ∈ s.everStored

/-- What such a step has to say about the rows and about the other places. -/
theorem moved_of_rows (h : s.RowsStored) (hrows : ∀ row ∈ s'.store.replicationJobs, s.KnownRow row)
    (hplaces : ∀ job, s'.Outside job → s.Known job) (hstored : s'.everStored = s.everStored)
    (hrestored : s'.restoredIds = s.restoredIds)
    (hallocated : ∀ id ∈ s'.allocated, id ∈ s.allocated) (hhanded : s'.handedOut = s.handedOut)
    (hover : s'.overwritten = s.overwritten) : Moved s s' := by
  refine ⟨?_, ?_, ?_, hrestored, hallocated, hhanded, ?_⟩
  · rintro job (hjob | hjob | hjob | hjob | hjob | ⟨hjobs, hjob⟩)
    · exact (hrows job hjob).known
    · exact hplaces job (Or.inl hjob)
    · exact hplaces job (Or.inr (Or.inl hjob))
    · exact hplaces job (Or.inr (Or.inr (Or.inl hjob)))
    · exact hplaces job (Or.inr (Or.inr (Or.inr (Or.inl hjob))))
    · exact hplaces job (Or.inr (Or.inr (Or.inr (Or.inr ⟨_, hjobs, hjob⟩))))
  · intro id hid
    rw [hstored] at hid
    exact Or.inl hid
  · intro row hrow
    obtain ⟨old, hold, hid, -⟩ := hrows row hrow
    rw [hstored, ← hid]
    exact h old hold
  · intro pair hpair
    rw [hover] at hpair
    exact Or.inl hpair

theorem moved_popNextReady (h : s.Inv) {now : Nat}
    (hstep : s.step (.popNextReady now) = some s') :
    Moved s s' ∧ s'.engine.nextJobId = s.engine.nextJobId := by
  rw [step] at hstep
  split at hstep
  · rename_i job engine' hpop
    obtain rfl := Option.some.inj hstep
    obtain ⟨hperm, hnext⟩ := ReplicationEngine.popNextReadyAt_some hpop
    have hqueue : ∀ other, other = job ∨ other ∈ engine'.pendingJobs → s.Known other := by
      intro other hother
      exact (Holds.queued (hperm.mem_iff.mpr (List.mem_cons.mpr hother))).known
    refine ⟨moved_of_rows h.rows (fun row => knownRow_of_mem) ?_ rfl rfl (fun id hid => hid) rfl rfl,
      hnext⟩
    rintro other (hother | hother | hother | hother | hother)
    · exact hqueue other (Or.inr hother)
    · rcases List.mem_cons.mp hother with heq | hold
      · exact hqueue other (Or.inl heq)
      · exact known_inFlight other hold
    · exact known_unsaved other hother
    · exact known_unpushed other hother
    · exact known_replacement other hother
  · rename_i engine' hpop
    obtain rfl := Option.some.inj hstep
    obtain rfl := ReplicationEngine.popNextReadyAt_none hpop
    exact ⟨moved_of_rows h.rows (fun row => knownRow_of_mem) (fun job hjob => Outside.known hjob) rfl
      rfl (fun id hid => hid) rfl rfl, rfl⟩

/-- A worker that is done with a job: the rows are the old ones, and the queue is as before or
has the job once more. -/
theorem moved_decideJob (h : s.Inv) {job : ReplicationJob} {engine' : ReplicationEngine}
    {store' : MetadataStore} {unsaved : List ReplicationJob}
    (hrows : ∀ row ∈ store'.replicationJobs, s.KnownRow row)
    (hqueued : ∀ other ∈ engine'.pendingJobs, s.Known other)
    (hunsaved : ∀ other ∈ unsaved, s.Known other) :
    Moved s { s.decideJob job engine' store' with unsaved := unsaved } := by
  refine moved_of_rows h.rows hrows ?_ rfl rfl (fun id hid => hid) rfl rfl
  rintro other (hother | hother | hother | hother | hother)
  · exact hqueued other hother
  · exact known_inFlight other (List.mem_of_mem_erase hother)
  · exact hunsaved other hother
  · exact known_unpushed other hother
  · exact known_replacement other hother

theorem moved_markCompleted (h : s.Inv) {job : ReplicationJob}
    (hstep : s.step (.markCompleted job) = some s') :
    Moved s s' ∧ s'.engine.nextJobId = s.engine.nextJobId := by
  rw [step] at hstep
  split_ifs at hstep with hflight
  dsimp only at hstep
  split at hstep
  · rename_i pruned store' hmark
    obtain rfl := Option.some.inj hstep
    refine ⟨moved_decideJob h ?_ known_queued known_unsaved, rfl⟩
    intro row hrow
    obtain ⟨old, hold, hid, hspec, -⟩ := MetadataStore.markJobStatus_origin hmark hrow
    exact knownRow_of_spec hold hid hspec
  · obtain rfl := Option.some.inj hstep
    exact ⟨moved_decideJob h (fun row => knownRow_of_mem) known_queued known_unsaved, rfl⟩

theorem moved_markDeadLetter (h : s.Inv) {job : ReplicationJob}
    {retryPolicy : ReplicationRetryPolicy} {error : ReplicationFailure} {now : Nat}
    (hstep : s.step (.markDeadLetter job retryPolicy error now) = some s') :
    Moved s s' ∧ s'.engine.nextJobId = s.engine.nextJobId := by
  rw [step] at hstep
  split_ifs at hstep with hflight
  dsimp only at hstep
  split at hstep
  · rename_i entry store' hmark
    obtain rfl := Option.some.inj hstep
    refine ⟨moved_decideJob h ?_ known_queued known_unsaved, rfl⟩
    intro row hrow
    obtain ⟨old, hold, hid, hspec, -⟩ := MetadataStore.markJobDeadLetter_origin hmark hrow
    exact knownRow_of_spec hold hid hspec
  · obtain rfl := Option.some.inj hstep
    exact ⟨moved_decideJob h (fun row => knownRow_of_mem) known_queued known_unsaved, rfl⟩

theorem moved_scheduleRetry (h : s.Inv) {job : ReplicationJob}
    {retryPolicy : ReplicationRetryPolicy} {error : ReplicationFailure} {now : Nat}
    (hstep : s.step (.scheduleRetry job retryPolicy error now) = some s') :
    Moved s s' ∧ s'.engine.nextJobId = s.engine.nextJobId := by
  rw [step] at hstep
  split_ifs at hstep with hflight
  obtain rfl := Option.some.inj hstep
  have hretried : s.Known (retryJob retryPolicy job error now) :=
    ⟨job, .inFlight hflight.1, rfl, rfl⟩
  refine ⟨moved_decideJob h (fun row => knownRow_of_mem) ?_ ?_, rfl⟩
  · intro other hother
    rcases List.mem_append.mp hother with hold | hnew
    · exact known_queued other hold
    · exact List.mem_singleton.mp hnew ▸ hretried
  · intro other hother
    rcases List.mem_append.mp hother with hold | hnew
    · exact known_unsaved other hold
    · exact List.mem_singleton.mp hnew ▸ hretried

/-! ## Section 2: Steps of the administrator -/

/-- Failed rows that become pending, handed to the queue. -/
theorem moved_requeued (h : s.Inv) {store' : MetadataStore} {jobs : List ReplicationJob}
    (hrows : ∀ row ∈ store'.replicationJobs, s.KnownRow row)
    (hjobs : ∀ job ∈ jobs, s.KnownRow job) :
    Moved s { s with store := store', unpushed := jobs ++ s.unpushed } := by
  refine moved_of_rows h.rows hrows ?_ rfl rfl (fun id hid => hid) rfl rfl
  rintro other (hother | hother | hother | hother | hother)
  · exact known_queued other hother
  · exact known_inFlight other hother
  · exact known_unsaved other hother
  · rcases List.mem_append.mp hother with hnew | hold
    · exact (hjobs other hnew).known
    · exact known_unpushed other hold
  · exact known_replacement other hother

theorem retryFailedJob_result {store store' : MetadataStore} {jobId now : Nat}
    {retried : ReplicationJob} (h : store.retryFailedJob jobId now = .ok (retried, store')) :
    ∃ job ∈ store.replicationJobs, retried = job.requeued now := by
  unfold MetadataStore.retryFailedJob at h
  split at h
  · cases h
  · rename_i job hfind
    split_ifs at h with hstatus
    split at h
    · cases h
    · split_ifs at h with hlatest
      exact ⟨job, (Table.find?_eq_some.mp hfind).1, (congrArg Prod.fst (Except.ok.inj h)).symm⟩

theorem moved_retryFailedJob (h : s.Inv) {jobId now : Nat}
    (hstep : s.step (.retryFailedJob jobId now) = some s') :
    Moved s s' ∧ s'.engine.nextJobId = s.engine.nextJobId := by
  rw [step] at hstep
  split at hstep
  · rename_i retried store' hretry
    obtain rfl := Option.some.inj hstep
    refine ⟨@moved_requeued s h store' [retried] ?_ ?_, rfl⟩
    · intro row hrow
      obtain ⟨job, hjob, hid, -, rfl⟩ := MetadataStore.retryFailedJob_ok hretry
      rcases MetadataStore.mem_requeueJob.mp hrow with ⟨hold, -⟩ | ⟨old, hold, -, rfl⟩
      · exact knownRow_of_mem hold
      · exact knownRow_of_spec hold rfl rfl
    · intro other hother
      obtain ⟨job, hjob, heq⟩ := retryFailedJob_result hretry
      rw [List.mem_singleton.mp hother, heq]
      exact knownRow_of_spec hjob rfl rfl
  · obtain rfl := Option.some.inj hstep
    exact ⟨moved_of_rows h.rows (fun row => knownRow_of_mem) (fun job hjob => Outside.known hjob) rfl
      rfl (fun id hid => hid) rfl rfl, rfl⟩

theorem moved_retryFailedJobsForTarget (h : s.Inv) {target : String} {now : Nat}
    (hstep : s.step (.retryFailedJobsForTarget target now) = some s') :
    Moved s s' ∧ s'.engine.nextJobId = s.engine.nextJobId := by
  obtain rfl := Option.some.inj hstep
  refine ⟨moved_requeued h ?_ ?_, rfl⟩
  · intro row hrow
    rcases MetadataStore.mem_requeueAll.mp hrow with ⟨hold, -⟩ | ⟨old, hold, -, rfl⟩
    · exact knownRow_of_mem hold
    · exact knownRow_of_spec hold rfl rfl
  · intro other hother
    obtain ⟨job, hjob, rfl⟩ := List.mem_map.mp hother
    exact knownRow_of_spec (MetadataStore.mem_latestFailedJobsOfTarget hjob).1 rfl rfl

theorem moved_enqueueExistingJob (h : s.Inv) {job : ReplicationJob}
    (hstep : s.step (.enqueueExistingJob job) = some s') :
    Moved s s' ∧ s'.engine.nextJobId = s.engine.nextJobId := by
  rw [step] at hstep
  split_ifs at hstep with hunpushed
  obtain rfl := Option.some.inj hstep
  refine ⟨moved_of_rows h.rows (fun row => knownRow_of_mem) ?_ rfl rfl (fun id hid => hid) rfl rfl, rfl⟩
  rintro other (hother | hother | hother | hother | hother)
  · rcases List.mem_append.mp hother with hold | hnew
    · exact known_queued other hold
    · exact known_unpushed other (List.mem_singleton.mp hnew ▸ hunpushed)
  · exact known_inFlight other hother
  · exact known_unsaved other hother
  · exact known_unpushed other (List.mem_of_mem_erase hother)
  · exact known_replacement other hother

theorem moved_copyPending (h : s.Inv) (hstep : s.step .copyPending = some s') :
    Moved s s' ∧ s'.engine.nextJobId = s.engine.nextJobId := by
  obtain rfl := Option.some.inj hstep
  refine ⟨moved_of_rows h.rows (fun row => knownRow_of_mem) ?_ rfl rfl (fun id hid => hid) rfl rfl, rfl⟩
  rintro other (hother | hother | hother | hother | ⟨jobs, hjobs, hother⟩)
  · exact known_queued other hother
  · exact known_inFlight other hother
  · exact known_unsaved other hother
  · exact known_unpushed other hother
  · rcases List.mem_append.mp hjobs with hold | hnew
    · exact known_replacement other ⟨jobs, hold, hother⟩
    · exact known_queued other (List.mem_singleton.mp hnew ▸ hother)

/-- Pruning takes rows away. -/
theorem knownRow_pruneHistory {retention : MetadataRetentionPolicy} {store : MetadataStore}
    (hstore : store.replicationJobs = s.store.replicationJobs) {row : ReplicationJob}
    (hrow : row ∈ (store.pruneHistory retention).2.replicationJobs) : s.KnownRow row :=
  knownRow_of_mem (hstore ▸ (MetadataStore.mem_pruneHistory.mp hrow).1)

theorem moved_applyRetention (h : s.Inv) (hstep : s.step .applyRetention = some s') :
    Moved s s' ∧ s'.engine.nextJobId = s.engine.nextJobId := by
  obtain rfl := Option.some.inj hstep
  exact ⟨moved_of_rows h.rows (fun row => knownRow_pruneHistory rfl) (fun job hjob => Outside.known hjob)
    rfl rfl (fun id hid => hid) rfl rfl, rfl⟩

theorem moved_replacePending (h : s.Inv) {jobs : List ReplicationJob}
    (hstep : s.step (.replacePending jobs) = some s') :
    Moved s s' ∧ s.engine.nextJobId ≤ s'.engine.nextJobId := by
  rw [step] at hstep
  split_ifs at hstep with hjobs
  obtain rfl := Option.some.inj hstep
  refine ⟨moved_of_rows h.rows (fun row => knownRow_of_mem) ?_ rfl rfl (fun id hid => hid) rfl rfl,
    ReplicationEngine.le_replacePending_nextJobId _ _⟩
  rintro other (hother | hother | hother | hother | ⟨held, hheld, hother⟩)
  · exact known_replacement other ⟨jobs, hjobs, hother⟩
  · exact known_inFlight other hother
  · exact known_unsaved other hother
  · exact known_unpushed other hother
  · exact known_replacement other ⟨held, List.mem_of_mem_erase hheld, hother⟩

/-! ## Section 3: Steps that store jobs again -/

theorem moved_abandonJobs (h : s.Inv) {jobs : List ReplicationJob}
    (hstep : s.step (.abandonJobs jobs) = some s') :
    Moved s s' ∧ s'.engine.nextJobId = s.engine.nextJobId := by
  obtain rfl := Option.some.inj hstep
  refine ⟨moved_of_rows h.rows (fun row => knownRow_of_mem) ?_ rfl rfl (fun id hid => hid) rfl rfl, rfl⟩
  rintro other (hother | hother | hother | hother | hother)
  · exact known_queued other hother
  · exact known_inFlight other hother
  · exact known_unsaved other (List.mem_of_mem_filter hother)
  · exact known_unpushed other hother
  · exact known_replacement other hother

/-- Storing jobs that are known replaces rows by the same jobs only. -/
theorem moved_wroteJobs (h : s.RowsStored) {jobs : List ReplicationJob}
    (hjobs : ∀ job ∈ jobs, s.Known job) :
    Moved s (s.wroteJobs (s.store.enqueueJobs jobs) jobs) := by
  refine ⟨?_, ?_, ?_, rfl, fun id hid => hid, rfl, ?_⟩
  · rintro job (hjob | hjob | hjob | hjob | hjob | ⟨hlist, hjob⟩)
    · rcases MetadataStore.enqueueJobs_origin hjob with hin | hold
      · exact hjobs job hin
      · exact (Holds.row hold).known
    · exact known_queued job hjob
    · exact known_inFlight job hjob
    · exact known_unsaved job hjob
    · exact known_unpushed job hjob
    · exact known_replacement job ⟨_, hlist, hjob⟩
  · intro id hid
    rcases List.mem_append.mp hid with hold | hin
    · exact Or.inl hold
    · obtain ⟨job, hjob, rfl⟩ := List.mem_map.mp hin
      exact (hjobs job hjob).used
  · intro row hrow
    rcases MetadataStore.enqueueJobs_origin hrow with hin | hold
    · exact List.mem_append_right _ (List.mem_map_of_mem hin)
    · exact List.mem_append_left _ (h row hold)
  · intro pair hpair
    rcases List.mem_append.mp hpair with hold | hin
    · exact Or.inl hold
    · obtain ⟨hrow, hjob, hid⟩ := mem_replacedRows hin
      refine Or.inr ⟨?_, hjobs pair.2 hjob, hid⟩
      rcases hrow with hrow | hrow
      · exact (Holds.row hrow).known
      · exact hjobs pair.1 hrow

theorem moved_persistJobs (h : s.Inv) {jobs : List ReplicationJob}
    (hstep : s.step (.persistJobs jobs) = some s') :
    Moved s s' ∧ s'.engine.nextJobId = s.engine.nextJobId := by
  rw [step] at hstep
  split_ifs at hstep with hunsaved
  -- storing the jobs, and then dropping them from the list of what is to be stored
  have hwrote : Moved s (s.wroteJobs (s.store.enqueueJobs jobs) jobs) :=
    moved_wroteJobs h.rows (fun job hjob => known_unsaved job (hunsaved job hjob))
  have hinv : (s.wroteJobs (s.store.enqueueJobs jobs) jobs).Inv :=
    h.of_moved hwrote (le_refl s.engine.nextJobId)
  have hdrop : (s.wroteJobs (s.store.enqueueJobs jobs) jobs).step (.abandonJobs jobs) = some s' :=
    hstep
  obtain ⟨hmoved, hnext⟩ := moved_abandonJobs hinv hdrop
  exact ⟨hwrote.trans hmoved, hnext⟩

/-! ## Section 4: Restart -/

theorem backfillSource_jobId (primaryProvider : String) (job : ReplicationJob) :
    (backfillSource primaryProvider job).jobId = job.jobId := by
  unfold backfillSource
  split <;> rfl

theorem backfillSource_work (primaryProvider : String) (job : ReplicationJob) :
    jobWork (backfillSource primaryProvider job) = jobWork job := by
  unfold backfillSource
  split <;> rfl

theorem moved_reopened (h : s.Inv) {retention : MetadataRetentionPolicy} {recentLimit : Nat} :
    Moved s (s.reopened retention recentLimit) := by
  have hrows : ∀ row ∈ (s.reopened retention recentLimit).store.replicationJobs, s.KnownRow row :=
    fun row hrow => @knownRow_pruneHistory s retention { s.store with retention := retention } rfl
      row hrow
  refine moved_of_rows h.rows hrows ?_ rfl rfl (fun id hid => absurd hid List.not_mem_nil) rfl rfl
  rintro job (hjob | hjob | hjob | hjob | ⟨jobs, hjobs, hjob⟩)
  · cases hjob
  · cases hjob
  · cases hjob
  · cases hjob
  · cases hjobs

/-- Pruning leaves the latest row of every object, so the largest id stays. -/
theorem exists_row_reopened {retention : MetadataRetentionPolicy} {recentLimit : Nat}
    {row : ReplicationJob} (hrow : row ∈ s.store.replicationJobs) :
    ∃ last ∈ (s.reopened retention recentLimit).store.replicationJobs,
      row.jobId ≤ last.jobId := by
  obtain ⟨last, hlast, -, hle, hisLast⟩ := Table.exists_last ReplicationJob.triple hrow
  refine ⟨last, ?_, hle⟩
  exact @MetadataStore.pruneHistory_keeps { s.store with retention := retention } retention last
    hlast (Or.inr (Or.inl hisLast))

theorem jobId_le_maxJobId {store : MetadataStore} {job : ReplicationJob}
    (hjob : job ∈ store.replicationJobs) : job.jobId ≤ store.maxJobId.getD 0 := by
  obtain ⟨last, hlast⟩ : ∃ last, store.replicationJobs.latest (fun _ => true) = some last := by
    apply Option.ne_none_iff_exists'.mp
    intro hnone
    simpa using Table.latest_eq_none.mp hnone job hjob
  have hmax : store.maxJobId.getD 0 = last.jobId := by
    simp [MetadataStore.maxJobId, hlast]
  rw [hmax]
  exact (Table.latest_eq_some.mp hlast).2.2 job hjob rfl

theorem maxJobId_lt {store : MetadataStore} {bound : Nat} (hpos : 0 < bound)
    (hrows : ∀ row ∈ store.replicationJobs, row.jobId < bound) :
    store.maxJobId.getD 0 < bound := by
  cases hlast : store.replicationJobs.latest (fun _ => true) with
  | none =>
    simp only [MetadataStore.maxJobId, hlast, Option.map_none, Option.getD_none]
    exact hpos
  | some last =>
    simp only [MetadataStore.maxJobId, hlast, Option.map_some, Option.getD_some]
    exact hrows last (Table.latest_eq_some.mp hlast).1

section RestoreJobs

variable {t : JobSystem} {primaryProvider : String}

/-- The jobs that go to the queue are those of runnable rows. -/
theorem knownRow_restored {job : ReplicationJob}
    (hjob : job ∈ (t.store.loadPendingJobs none).map (backfillSource primaryProvider)) :
    t.KnownRow job := by
  obtain ⟨row, hrow, rfl⟩ := List.mem_map.mp hjob
  exact ⟨row, List.mem_of_mem_filter hrow, (backfillSource_jobId _ _).symm,
    (backfillSource_work _ _).symm⟩

theorem nodup_restored :
    (((t.store.loadPendingJobs none).map (backfillSource primaryProvider)).map
      (·.jobId)).Nodup := by
  have hids : ((t.store.loadPendingJobs none).map (backfillSource primaryProvider)).map
      (·.jobId) = (t.store.loadPendingJobs none).map (·.jobId) := by
    rw [List.map_map]
    exact List.map_congr_left (fun job _ => backfillSource_jobId primaryProvider job)
  rw [hids]
  exact (Table.nodup_keys t.store.replicationJobs).sublist (List.filter_sublist.map _)

/-- What the rows are after legacy jobs got their source: the same ids. -/
theorem exists_row_backfilled {row : ReplicationJob} (hrow : row ∈ t.store.replicationJobs)
    {restored : List ReplicationJob} (hnodup : (restored.map (·.jobId)).Nodup) :
    ∃ row' ∈ (t.store.enqueueJobs restored).replicationJobs, row'.jobId = row.jobId := by
  by_cases hmem : row.jobId ∈ restored.map (·.jobId)
  · obtain ⟨job, hjob, hid⟩ := List.mem_map.mp hmem
    exact ⟨job, (MetadataStore.mem_enqueueJobs hnodup).mpr (Or.inl hjob), hid⟩
  · exact ⟨row, (MetadataStore.mem_enqueueJobs hnodup).mpr (Or.inr ⟨hrow, hmem⟩), rfl⟩

/-- The state before the queue is filled: the rows as they were, or with the sources. -/
theorem exists_backfilled (ht : t.RowsStored) :
    ∃ u : JobSystem, Moved t u ∧
      (∀ row ∈ t.store.replicationJobs, ∃ row' ∈ u.store.replicationJobs,
        row'.jobId = row.jobId) ∧
      t.restoreJobs primaryProvider =
        { u with
          engine := (restorePending t.engine
            ((t.store.loadPendingJobs none).map (backfillSource primaryProvider))).ensureNextJobIdAtLeast
              (saturatingAddU64 (u.store.maxJobId.getD 0) 1) } := by
  unfold restoreJobs
  dsimp only
  split_ifs with hlegacy
  · refine ⟨_, moved_wroteJobs ht (fun job hjob => (knownRow_restored hjob).known), ?_, rfl⟩
    exact fun row hrow => exists_row_backfilled hrow nodup_restored
  · refine ⟨t, moved_of_rows ht (fun row => knownRow_of_mem) (fun job hjob => Outside.known hjob)
      rfl rfl (fun id hid => hid) rfl rfl, ?_, rfl⟩
    exact fun row hrow => ⟨row, hrow, rfl⟩

theorem pendingJobs_restorePending {engine : ReplicationEngine} {jobs : List ReplicationJob} :
    (restorePending engine jobs).pendingJobs = engine.pendingJobs ++ jobs := by
  unfold restorePending
  split_ifs with hnil
  · rw [hnil, List.append_nil]
  · rfl

/-- Filling the queue moves jobs, and sets the counter above every row. -/
theorem moved_restoreJobs (ht : t.RowsStored) :
    Moved t (t.restoreJobs primaryProvider) ∧
      (∀ row ∈ t.store.replicationJobs, ∃ row' ∈ (t.restoreJobs
        primaryProvider).store.replicationJobs, row'.jobId = row.jobId) ∧
      ∀ row ∈ (t.restoreJobs primaryProvider).store.replicationJobs,
        (∀ other ∈ (t.restoreJobs primaryProvider).store.replicationJobs,
          other.jobId < 2 ^ 63) →
        row.jobId < (t.restoreJobs primaryProvider).engine.nextJobId := by
  obtain ⟨u, hmoved, hrows, heq⟩ :=
    @exists_backfilled t primaryProvider ht
  rw [heq]
  refine ⟨⟨?_, hmoved.stored, hmoved.rows, hmoved.restored, hmoved.allocated, hmoved.handedOut,
    hmoved.overwritten⟩, hrows, ?_⟩
  · rintro job (hjob | hjob | hjob | hjob | hjob | ⟨hjobs, hjob⟩)
    · exact hmoved.known job (.row hjob)
    · change job ∈ (restorePending t.engine _).pendingJobs at hjob
      rw [pendingJobs_restorePending] at hjob
      rcases List.mem_append.mp hjob with hold | hnew
      · exact known_queued job hold
      · exact (knownRow_restored hnew).known
    · exact hmoved.known job (.inFlight hjob)
    · exact hmoved.known job (.unsaved hjob)
    · exact hmoved.known job (.unpushed hjob)
    · exact hmoved.known job (.replacement hjobs hjob)
  · intro row hrow hbounded
    have hle : row.jobId ≤ u.store.maxJobId.getD 0 := jobId_le_maxJobId hrow
    have hlt : u.store.maxJobId.getD 0 < 2 ^ 63 := maxJobId_lt (Nat.two_pow_pos 63) hbounded
    have hge : saturatingAddU64 (u.store.maxJobId.getD 0) 1 ≤
        ((restorePending t.engine ((t.store.loadPendingJobs none).map
          (backfillSource primaryProvider))).ensureNextJobIdAtLeast
            (saturatingAddU64 (u.store.maxJobId.getD 0) 1)).nextJobId :=
      (le_max_left _ 1).trans (le_max_right _ _)
    apply lt_of_lt_of_le _ hge
    unfold saturatingAddU64 u64Max
    omega

end RestoreJobs

/-- Of every id ever stored, the table has a row that is as large. -/
def TableReaches (s : JobSystem) : Prop :=
  ∀ id ∈ s.everStored, ∃ row ∈ s.store.replicationJobs, id ≤ row.jobId

/-- **Restart.** The counter comes back from the table; the ids ever stored are below it if
the table still reached them. -/
theorem Inv.restart (h : s.Inv) (hreaches : s.TableReaches)
    {retention : MetadataRetentionPolicy} {recentLimit : Nat} {primaryProvider : String} :
    ((s.reopened retention recentLimit).restoreJobs primaryProvider).Inv := by
  have hopened : Moved s (s.reopened retention recentLimit) := moved_reopened h
  obtain ⟨hrestored, hrows, hnext⟩ :=
    @moved_restoreJobs (s.reopened retention recentLimit) primaryProvider hopened.rows
  have hmoved := hopened.trans hrestored
  have hbounded : ∀ row ∈ ((s.reopened retention recentLimit).restoreJobs
      primaryProvider).store.replicationJobs, row.jobId < 2 ^ 63 :=
    fun row hrow => h.bounded row.jobId (hmoved.used (Holds.row hrow).known.used)
  have hallocated : ((s.reopened retention recentLimit).restoreJobs
      primaryProvider).allocated = [] := by
    apply List.eq_nil_iff_forall_not_mem.mpr
    intro id hid
    have hmem := hrestored.allocated id hid
    cases hmem
  -- an id that is used after the restart has a row at least as large
  have hrow : ∀ id, (s.reopened retention recentLimit).Used id →
      ∃ row ∈ (s.reopened retention recentLimit).store.replicationJobs, id ≤ row.jobId := by
    rintro id (hstored | ⟨job, hjob, rfl⟩)
    · obtain ⟨row, hrow, hle⟩ := hreaches id hstored
      obtain ⟨last, hlast, hle'⟩ :=
        @exists_row_reopened s retention recentLimit row hrow
      exact ⟨last, hlast, hle.trans hle'⟩
    · rcases hjob with hjob | hjob | hjob | hjob | hjob | ⟨hjobs, hjob⟩
      · exact ⟨job, hjob, le_refl _⟩
      · cases hjob
      · cases hjob
      · cases hjob
      · cases hjob
      · cases hjobs
  refine h.of_moved_back hmoved hallocated ?_
  intro id hid
  obtain ⟨row, hrow, hle⟩ := hrow id (hrestored.used hid)
  obtain ⟨row', hrow', heq⟩ := hrows row hrow
  exact (hle.trans heq.ge).trans_lt (hnext row' hrow' hbounded)

/-! ## Section 5: Runs -/

/-- A job id is handed out while the counter is past the ids of restores and has room below
the sign bit; a restore brings jobs that fit; a restart finds a table that reaches. -/
def idGuard (s : JobSystem) : JobAction → Prop
  | .enqueuePut topology _ _ _ _ _ _ _ =>
    s.CounterPastRestores ∧ s.engine.nextJobId + topology.syncTargets.length ≤ 2 ^ 63
  | .enqueueDelete topology _ _ _ _ =>
    s.CounterPastRestores ∧ s.engine.nextJobId + topology.syncTargets.length ≤ 2 ^ 63
  | .allocateJobId => s.CounterPastRestores ∧ s.engine.nextJobId < 2 ^ 63
  | .replaceBackupState metadata => s.Admits metadata.pendingReplicationJobs
  | .restart _ _ _ => s.TableReaches
  | _ => True

theorem length_createJobs_le {source : Option String} {operation : ReplicationOperation}
    {object : ReplicationObjectRef} {now next : Nat} {targets : List ProviderId} :
    (ReplicationEngine.createJobs source operation object now next targets).length ≤
      targets.length := by
  induction targets generalizing next with
  | nil => exact le_refl _
  | cons target targets ih =>
    rw [ReplicationEngine.createJobs]
    split_ifs
    · exact ih.trans (Nat.le_succ _)
    · exact Nat.succ_le_succ ih

theorem Inv.enqueueJobs (h : s.Inv) {topology : TopologyPolicy} {source : Option String}
    {operation : ReplicationOperation} {object : ReplicationObjectRef} {now : Nat}
    (hguard : s.CounterPastRestores ∧
      s.engine.nextJobId + topology.syncTargets.length ≤ 2 ^ 63) :
    (s.pushJobs (s.engine.enqueueJobs topology source operation object now)).Inv := by
  apply h.pushJobs hguard.1 pushed_enqueueJobs
  have hlength : (s.engine.enqueueJobs topology source operation object now).1.length ≤
      topology.syncTargets.length := length_createJobs_le
  omega

theorem Inv.replay (h : s.Inv) {call : ReplayCall} (hstep : s.step (.replay call) = some s') :
    s'.Inv := by
  rw [step] at hstep
  split_ifs at hstep with hallocated
  split at hstep
  · rename_i replayed store' hreplay
    obtain rfl := Option.some.inj hstep
    exact h.replayed hallocated (newRows_replay hreplay)
  · obtain rfl := Option.some.inj hstep
    refine h.of_moved ?_ (le_refl s.engine.nextJobId)
    exact moved_of_rows h.rows (fun row => knownRow_of_mem) (fun job hjob => Outside.known hjob) rfl
      rfl (fun id hid => (mem_releaseIds.mp hid).1) rfl rfl

theorem Inv.replaceBackupState (h : s.Inv) {metadata : GatewayBackupMetadataPayload}
    (hadmits : s.Admits metadata.pendingReplicationJobs)
    (hstep : s.step (.replaceBackupState metadata) = some s') : s'.Inv := by
  rw [step] at hstep
  split at hstep
  · cases hstep
  · rename_i hvalid
    obtain ⟨store', hreplace, rfl⟩ := Option.map_eq_some_iff.mp hstep
    have hnodup := (validateGatewayBackupMetadataPayload_ok_iff.mp hvalid).jobs_nodup
    refine h.restoreTables hadmits hnodup ?_
    intro row hrow
    rw [(MetadataStore.replaceBackupState_ok hreplace).jobs_eq] at hrow
    rcases (MetadataStore.mem_enqueueJobs hnodup).mp hrow with hin | ⟨hold, -⟩
    · exact hin
    · exact absurd hold (Table.not_mem_empty row)

/-- **Step lemma.** One case per action. -/
theorem inv_step {action : JobAction} (h : s.Inv) (hguard : s.idGuard action)
    (hstep : s.step action = some s') : s'.Inv := by
  have hsame : Moved s s' ∧ s'.engine.nextJobId = s.engine.nextJobId → s'.Inv :=
    fun hmoved => h.of_moved hmoved.1 hmoved.2.ge
  cases action with
  | enqueuePut topology source bucket key etag size contentType now =>
    obtain rfl := Option.some.inj hstep
    exact h.enqueueJobs hguard
  | enqueueDelete topology source bucket key now =>
    obtain rfl := Option.some.inj hstep
    exact h.enqueueJobs hguard
  | persistJobs jobs => exact hsame (moved_persistJobs h hstep)
  | abandonJobs jobs => exact hsame (moved_abandonJobs h hstep)
  | popNextReady now => exact hsame (moved_popNextReady h hstep)
  | markCompleted job => exact hsame (moved_markCompleted h hstep)
  | scheduleRetry job retryPolicy error now => exact hsame (moved_scheduleRetry h hstep)
  | markDeadLetter job retryPolicy error now => exact hsame (moved_markDeadLetter h hstep)
  | retryFailedJob jobId now => exact hsame (moved_retryFailedJob h hstep)
  | retryFailedJobsForTarget target now => exact hsame (moved_retryFailedJobsForTarget h hstep)
  | allocateJobId => exact h.allocateJobId hguard.1 hguard.2 hstep
  | replay call => exact h.replay hstep
  | enqueueExistingJob job => exact hsame (moved_enqueueExistingJob h hstep)
  | copyPending => exact hsame (moved_copyPending h hstep)
  | applyRetention => exact hsame (moved_applyRetention h hstep)
  | replaceBackupState metadata => exact h.replaceBackupState hguard hstep
  | replacePending jobs =>
    obtain ⟨hmoved, hle⟩ := moved_replacePending h hstep
    exact h.of_moved hmoved hle
  | restart retention recentLimit primaryProvider =>
    obtain rfl := Option.some.inj hstep
    exact h.restart hguard

theorem inv_initial (retention : MetadataRetentionPolicy) (recentLimit : Nat) :
    (initial retention recentLimit).Inv := by
  have hholds : ∀ job, ¬ (initial retention recentLimit).Holds job := by
    rintro job (hjob | hjob | hjob | hjob | hjob | ⟨hjobs, hjob⟩)
    · exact Table.not_mem_empty job hjob
    · cases hjob
    · cases hjob
    · cases hjob
    · cases hjob
    · cases hjobs
  have hused : ∀ id, ¬ (initial retention recentLimit).Used id := by
    rintro id (hstored | ⟨job, hjob, -⟩)
    · cases hstored
    · exact hholds job hjob
  refine ⟨fun a b ha _ _ => absurd ha (hholds a), fun id hid => absurd hid (hused id),
    fun id hid => absurd hid (hused id), fun row hrow => absurd hrow (Table.not_mem_empty row),
    fun id hid => absurd hid List.not_mem_nil, ?_⟩
  exact ⟨fun out hout => absurd hout List.not_mem_nil, fun out hout => absurd hout List.not_mem_nil,
    fun pair hpair => absurd hpair List.not_mem_nil⟩

end JobSystem

/-- **Job ids.** In a run whose restores and restarts meet the guard, every id is larger than
every id stored or queued before it, a job with it is the latest of its object, and no upsert
replaces a different job. -/
theorem always_jobIdsKept {retention : MetadataRetentionPolicy} {recentLimit : Nat}
    {actions : List JobAction}
    (hguarded : Guarded JobSystem.step JobSystem.idGuard
      (JobSystem.initial retention recentLimit) actions) :
    Always JobSystem.step JobIdsKept (JobSystem.initial retention recentLimit) actions :=
  always_of_guarded (fun _ _ _ h hguard hstep => JobSystem.inv_step h hguard hstep)
    (fun _ h => h.kept) (JobSystem.inv_initial retention recentLimit) hguarded

/-! ## Section 6: Sample runs -/

namespace JobSystem

instance (s : JobSystem) : Decidable s.CounterPastRestores :=
  inferInstanceAs (Decidable (∀ id ∈ s.restoredIds, id < s.engine.nextJobId))

instance (s : JobSystem) : Decidable s.TableReaches :=
  inferInstanceAs
    (Decidable (∀ id ∈ s.everStored, ∃ row ∈ s.store.replicationJobs.rows, id ≤ row.jobId))

theorem outside_iff {s : JobSystem} {job : ReplicationJob} :
    s.Outside job ↔ job ∈ s.engine.pendingJobs ++ s.inFlight ++ s.unsaved ++ s.unpushed ++
      s.replacements.flatten := by
  simp [Outside]

instance (s : JobSystem) (jobs : List ReplicationJob) : Decidable (s.Admits jobs) :=
  decidable_of_iff
    ((∀ job ∈ jobs, job.jobId < 2 ^ 63) ∧ (∀ job ∈ jobs, job.jobId ∉ s.allocated) ∧
      ∀ job ∈ jobs, ∀ held ∈ s.engine.pendingJobs ++ s.inFlight ++ s.unsaved ++ s.unpushed ++
        s.replacements.flatten, held.jobId = job.jobId → jobWork held = jobWork job)
    ⟨fun h => ⟨h.1, h.2.1, fun job hjob held hheld => h.2.2 job hjob held (outside_iff.mp hheld)⟩,
      fun h => ⟨h.bounded, h.free, fun job hjob held hheld =>
        h.same job hjob held (outside_iff.mpr hheld)⟩⟩

instance (s : JobSystem) : (action : JobAction) → Decidable (s.idGuard action)
  | .enqueuePut .. | .enqueueDelete .. | .allocateJobId =>
    inferInstanceAs (Decidable (s.CounterPastRestores ∧ _))
  | .replaceBackupState metadata =>
    inferInstanceAs (Decidable (s.Admits metadata.pendingReplicationJobs))
  | .restart .. => inferInstanceAs (Decidable s.TableReaches)
  | .persistJobs _ | .abandonJobs _ | .popNextReady _ | .markCompleted _ | .scheduleRetry ..
  | .markDeadLetter .. | .retryFailedJob .. | .retryFailedJobsForTarget .. | .replay _
  | .enqueueExistingJob _ | .copyPending | .applyRetention | .replacePending _ =>
    inferInstanceAs (Decidable True)

end JobSystem

def sampleIdSystem : JobSystem := JobSystem.initial {} 10

/-- The put of an object, with its job. -/
def putSample : JobAction :=
  .enqueuePut sampleTopology (some "unicom") "bucket-a" "hello.txt" none 12 none 10

def putSampleJob : ReplicationJob where
  jobId := 1
  target := "onedrive"
  sourceProvider := some "unicom"
  operation := .put
  object :=
    { bucket := "bucket-a", key := "hello.txt", etag := none, size := some 12
      contentType := none }
  status := .pending
  attempts := 0
  enqueuedAtUnixMs := 10
  nextAttemptAtUnixMs := none
  lastError := none

/-- The restore of a backup with these pending jobs and no objects, the second half at once. -/
def restoreSample (jobs : List ReplicationJob) : List JobAction :=
  [.replaceBackupState
    { objectPlacements := []
      logicalObjects := []
      objectProtectionPlans := []
      pendingReplicationJobs := jobs
      gatewayWriteAheadLogState := {} },
    .replacePending jobs]

def restartSample : JobAction := .restart {} 10 "unicom"

theorem always_jobIdsKept_restoredJob :
    Always JobSystem.step JobIdsKept sampleIdSystem
      (putSample :: .persistJobs [putSampleJob] :: restoreSample [putSampleJob] ++
        [restartSample, putSample]) :=
  always_jobIdsKept
    (guarded_cons rfl (by decide +kernel) (guarded_cons rfl trivial
      (guarded_cons rfl (by decide +kernel) (guarded_cons rfl trivial
        (guarded_cons rfl (by decide +kernel) (guarded_cons rfl (by decide +kernel) trivial))))))

/-- A restore without pending jobs empties the table; after a restart the counter starts over,
and the next job has the id of the job that was stored first. -/
theorem restoredThenRestarted_repeats :
    ¬ ∀ (retention : MetadataRetentionPolicy) (recentLimit : Nat) (actions : List JobAction),
      Always JobSystem.step JobIdsKept (JobSystem.initial retention recentLimit) actions := by
  intro h
  have halways := h {} 10
    (putSample :: .persistJobs [putSampleJob] :: restoreSample [] ++ [restartSample, putSample])
  have hrun : (run JobSystem.step sampleIdSystem
      (putSample :: .persistJobs [putSampleJob] :: restoreSample [] ++
        [restartSample, putSample])).map
          (fun s => s.handedOut.map (fun out => (out.jobId, out.everStored))) =
        some [(1, []), (1, [1])] := by
    decide +kernel
  obtain ⟨s, hs, hout⟩ := Option.map_eq_some_iff.mp hrun
  have hkept : JobIdsKept s := halways.of_run hs
  have hmem : ((1, [1]) : Nat × List Nat) ∈
      s.handedOut.map (fun out => (out.jobId, out.everStored)) := by
    rw [hout]
    exact List.mem_cons_of_mem _ List.mem_cons_self
  obtain ⟨out, hin, heq⟩ := List.mem_map.mp hmem
  obtain ⟨hid, hstored⟩ := Prod.mk.inj heq
  have hlt : 1 < out.jobId :=
    hkept.above out hin 1 (Or.inl (hstored ▸ List.mem_singleton_self 1))
  omega

end Netdisk2Blob.Gateway
