import Netdisk2Blob.Gateway.JobIds

/-!
# Job Ids Stay Ahead

The id counter is in memory; a restart sets it from the largest id of the job table. Pruning
never takes that row, since it is the latest of its object, but a restore replaces the whole
table: if it drops the row with the largest id and the process restarts before a larger one
is stored, ids that were in the table come again.

## Main results

- `Inv`: what holds of every job that a row, the queue, a worker or a request holds
- `Inv.of_moved`, `Inv.pushJobs`, `Inv.allocateJobId`, `Inv.replayed`, `Inv.restoreTables`:
  one lemma for each kind of step
- `counterPastRestores_replacePending`: a restore that goes through leaves the counter above
  its ids
-/

namespace Netdisk2Blob.Gateway

open Library Policy Replication Metadata Backup

/-! ## Section 1: Who holds a job -/

namespace JobSystem

/-- The places a job can be in. -/
inductive Holds (s : JobSystem) (job : ReplicationJob) : Prop where
  | row (hrow : job ∈ s.store.replicationJobs)
  | queued (hqueued : job ∈ s.engine.pendingJobs)
  | inFlight (hflight : job ∈ s.inFlight)
  | unsaved (hunsaved : job ∈ s.unsaved)
  | unpushed (hunpushed : job ∈ s.unpushed)
  | replacement {jobs : List ReplicationJob} (hjobs : jobs ∈ s.replacements) (hjob : job ∈ jobs)

/-- An id that the table had or that a job has. -/
def Used (s : JobSystem) (id : Nat) : Prop :=
  id ∈ s.everStored ∨ ∃ job, s.Holds job ∧ job.jobId = id

/-- Two jobs of one id are the same job; the counter is above every id that no restore
brought; ids fit into the signed column. -/
structure Inv (s : JobSystem) : Prop where
  agree : ∀ a b, s.Holds a → s.Holds b → a.jobId = b.jobId → jobWork a = jobWork b
  below : ∀ id, s.Used id → id < s.engine.nextJobId ∨ id ∈ s.restoredIds
  bounded : ∀ id, s.Used id → id < 2 ^ 63
  rows : ∀ row ∈ s.store.replicationJobs, row.jobId ∈ s.everStored
  allocated : ∀ id ∈ s.allocated, id < s.engine.nextJobId ∧ id < 2 ^ 63 ∧
    ∀ job, s.Holds job → job.jobId ≠ id
  kept : JobIdsKept s

end JobSystem

/-! ## Section 2: The rows that a write replaces -/

theorem mem_replacedRows {store : MetadataStore} {jobs : List ReplicationJob}
    {pair : ReplicationJob × ReplicationJob} (h : pair ∈ replacedRows store jobs) :
    (pair.1 ∈ store.replicationJobs ∨ pair.1 ∈ jobs) ∧ pair.2 ∈ jobs ∧
      pair.1.jobId = pair.2.jobId := by
  induction jobs generalizing store with
  | nil => cases h
  | cons job jobs ih =>
    rw [replacedRows] at h
    rcases List.mem_append.mp h with hhead | htail
    · obtain ⟨row, hfind, rfl⟩ := Option.map_eq_some_iff.mp (Option.mem_toList.mp hhead)
      obtain ⟨hrow, hid⟩ := Table.find?_eq_some.mp hfind
      exact ⟨Or.inl hrow, List.mem_cons_self, hid⟩
    · obtain ⟨hrow, hjob, hid⟩ := ih htail
      refine ⟨?_, List.mem_cons_of_mem job hjob, hid⟩
      rcases hrow with hrow | hrow
      · rcases MetadataStore.mem_upsertJob.mp hrow with heq | ⟨hold, -⟩
        · exact Or.inr (heq ▸ List.mem_cons_self)
        · exact Or.inl hold
      · exact Or.inr (List.mem_cons_of_mem job hrow)

/-- Writes of new ids replace nothing. -/
theorem replacedRows_eq_nil {store : MetadataStore} {jobs : List ReplicationJob}
    (hnodup : (jobs.map (·.jobId)).Nodup)
    (hnew : ∀ job ∈ jobs, ∀ row ∈ store.replicationJobs, row.jobId ≠ job.jobId) :
    replacedRows store jobs = [] := by
  induction jobs generalizing store with
  | nil => rfl
  | cons job jobs ih =>
    obtain ⟨hfresh, hrest⟩ := List.nodup_cons.mp hnodup
    have hnone : store.replicationJobs.find? job.jobId = none :=
      Table.find?_eq_none.mpr (hnew job List.mem_cons_self)
    rw [replacedRows, hnone, ih hrest]
    · rfl
    · intro other hother row hrow
      rcases MetadataStore.mem_upsertJob.mp hrow with heq | ⟨hold, -⟩
      · rw [heq]
        exact fun hid => hfresh (List.mem_map.mpr ⟨other, hother, hid.symm⟩)
      · exact hnew other (List.mem_cons_of_mem job hother) row hold

/-- A job with an id above every row is the latest of its object once it is stored. -/
theorem latestJobForObject_upsertJob {store : MetadataStore} {job : ReplicationJob}
    (habove : ∀ row ∈ store.replicationJobs, row.jobId < job.jobId) :
    (store.upsertJob job).latestJobForObject job.target job.object.bucket job.object.key =
      some job := by
  apply Table.latest_eq_some.mpr
  refine ⟨MetadataStore.mem_upsertJob.mpr (Or.inl rfl), by simp [ReplicationJob.triple], ?_⟩
  intro row hrow _
  rcases MetadataStore.mem_upsertJob.mp hrow with heq | ⟨hold, -⟩
  · rw [heq]
  · exact (habove row hold).le

/-! ## Section 3: Steps that bring no new job -/

namespace JobSystem

variable {s s' : JobSystem}

/-- What a held job of the next state comes from. -/
def Known (s : JobSystem) (job : ReplicationJob) : Prop :=
  ∃ old, s.Holds old ∧ old.jobId = job.jobId ∧ jobWork old = jobWork job

theorem Holds.known {job : ReplicationJob} (h : s.Holds job) : s.Known job := ⟨job, h, rfl, rfl⟩

theorem Known.used {job : ReplicationJob} (h : s.Known job) : s.Used job.jobId := by
  obtain ⟨old, hold, hid, -⟩ := h
  exact Or.inr ⟨old, hold, hid⟩

theorem Inv.agree_known (h : s.Inv) {a b : ReplicationJob} (ha : s.Known a) (hb : s.Known b)
    (hid : a.jobId = b.jobId) : jobWork a = jobWork b := by
  obtain ⟨a', ha', haid, hawork⟩ := ha
  obtain ⟨b', hb', hbid, hbwork⟩ := hb
  calc jobWork a = jobWork a' := hawork.symm
    _ = jobWork b' := h.agree a' b' ha' hb' (haid.trans (hid.trans hbid.symm))
    _ = jobWork b := hbwork

/-- A step that moves jobs between their places and hands out no id. -/
structure Moved (s s' : JobSystem) : Prop where
  known : ∀ job, s'.Holds job → s.Known job
  stored : ∀ id ∈ s'.everStored, s.Used id
  rows : ∀ row ∈ s'.store.replicationJobs, row.jobId ∈ s'.everStored
  restored : s'.restoredIds = s.restoredIds
  allocated : ∀ id ∈ s'.allocated, id ∈ s.allocated
  handedOut : s'.handedOut = s.handedOut
  overwritten : ∀ pair ∈ s'.overwritten,
    pair ∈ s.overwritten ∨ (s.Known pair.1 ∧ s.Known pair.2 ∧ pair.1.jobId = pair.2.jobId)

theorem Moved.used (hmoved : Moved s s') {id : Nat} (hid : s'.Used id) : s.Used id := by
  rcases hid with hstored | ⟨job, hjob, rfl⟩
  · exact hmoved.stored id hstored
  · exact (hmoved.known job hjob).used

theorem Moved.known_of_known (hmoved : Moved s s') {job : ReplicationJob} (h : s'.Known job) :
    s.Known job := by
  obtain ⟨old, hold, hid, hwork⟩ := h
  obtain ⟨older, holder, hid', hwork'⟩ := hmoved.known old hold
  exact ⟨older, holder, hid'.trans hid, hwork'.trans hwork⟩

theorem Moved.trans {t : JobSystem} (hfirst : Moved s t) (hsecond : Moved t s') : Moved s s' := by
  refine ⟨fun job hjob => hfirst.known_of_known (hsecond.known job hjob),
    fun id hid => hfirst.used (hsecond.stored id hid), hsecond.rows,
    hsecond.restored.trans hfirst.restored,
    fun id hid => hfirst.allocated id (hsecond.allocated id hid),
    hsecond.handedOut.trans hfirst.handedOut, ?_⟩
  intro pair hpair
  rcases hsecond.overwritten pair hpair with hold | ⟨hrow, hjob, hid⟩
  · exact hfirst.overwritten pair hold
  · exact Or.inr ⟨hfirst.known_of_known hrow, hfirst.known_of_known hjob, hid⟩

theorem Inv.kept_moved (h : s.Inv) (hmoved : Moved s s') : JobIdsKept s' := by
  have habove := h.kept.above
  have hlatest := h.kept.latest
  rw [← hmoved.handedOut] at habove hlatest
  refine ⟨habove, hlatest, ?_⟩
  intro pair hpair
  rcases hmoved.overwritten pair hpair with hold | ⟨hrow, hjob, hid⟩
  · exact h.kept.same pair hold
  · exact h.agree_known hrow hjob hid

/-- Such a step keeps the invariant if the counter does not go back. -/
theorem Inv.of_moved (h : s.Inv) (hmoved : Moved s s')
    (hnext : s.engine.nextJobId ≤ s'.engine.nextJobId) : s'.Inv := by
  refine ⟨?_, ?_, fun id hid => h.bounded id (hmoved.used hid), hmoved.rows, ?_,
    h.kept_moved hmoved⟩
  · intro a b ha hb
    exact h.agree_known (hmoved.known a ha) (hmoved.known b hb)
  · intro id hid
    rw [hmoved.restored]
    exact (h.below id (hmoved.used hid)).imp (fun hlt => hlt.trans_le hnext) (fun hin => hin)
  · intro id hid
    obtain ⟨hlt, hbound, hnot⟩ := h.allocated id (hmoved.allocated id hid)
    refine ⟨hlt.trans_le hnext, hbound, ?_⟩
    intro job hjob heq
    obtain ⟨old, hold, holdid, -⟩ := hmoved.known job hjob
    exact hnot old hold (holdid.trans heq)

/-- If it goes back, no id may be allocated, and it has to be above all ids there are. -/
theorem Inv.of_moved_back (h : s.Inv) (hmoved : Moved s s') (hallocated : s'.allocated = [])
    (hbelow : ∀ id, s'.Used id → id < s'.engine.nextJobId) : s'.Inv := by
  refine ⟨?_, fun id hid => Or.inl (hbelow id hid), fun id hid => h.bounded id (hmoved.used hid),
    hmoved.rows, ?_, h.kept_moved hmoved⟩
  · intro a b ha hb
    exact h.agree_known (hmoved.known a ha) (hmoved.known b hb)
  · intro id hid
    rw [hallocated] at hid
    cases hid

/-! ## Section 4: Ids that are handed out -/

/-- The counter is above every id that a restore brought. -/
def CounterPastRestores (s : JobSystem) : Prop :=
  ∀ id ∈ s.restoredIds, id < s.engine.nextJobId

theorem Inv.used_lt (h : s.Inv) (hpast : s.CounterPastRestores) {id : Nat} (hid : s.Used id) :
    id < s.engine.nextJobId :=
  (h.below id hid).elim (fun hlt => hlt) (hpast id)

/-- Ids from the counter on, handed out one after the other, are above what was there. -/
theorem mem_handOuts {everStored queued : List Nat} {store : MetadataStore} {next : Nat}
    {jobs : List ReplicationJob} {h : HandedOut}
    (hids : jobs.map (·.jobId) = List.range' next jobs.length)
    (hbelow : ∀ id, id ∈ everStored ∨ id ∈ queued → id < next)
    (hmem : h ∈ handOuts everStored store queued jobs) :
    h.store = store ∧ h.everStored = everStored ∧ next ≤ h.jobId ∧
      ∀ id, id ∈ h.everStored ∨ id ∈ h.queued → id < h.jobId := by
  induction jobs generalizing queued next with
  | nil => cases hmem
  | cons job jobs ih =>
    rw [List.map_cons, List.length_cons, List.range'_succ, List.cons.injEq] at hids
    obtain ⟨hid, hrest⟩ := hids
    rw [handOuts, List.mem_cons] at hmem
    rcases hmem with rfl | hmem
    · exact ⟨rfl, rfl, hid.ge, fun id hin => hid ▸ hbelow id hin⟩
    · have hbelow' : ∀ id, id ∈ everStored ∨ id ∈ queued ++ [job.jobId] → id < next + 1 := by
        rintro id (hin | hin)
        · exact (hbelow id (Or.inl hin)).trans (Nat.lt_succ_self next)
        · rcases List.mem_append.mp hin with hold | hnew
          · exact (hbelow id (Or.inr hold)).trans (Nat.lt_succ_self next)
          · rw [List.mem_singleton.mp hnew, hid]
            exact Nat.lt_succ_self next
      obtain ⟨hstore, hstored, hle, habove⟩ := ih hrest hbelow' hmem
      exact ⟨hstore, hstored, (Nat.le_succ next).trans hle, habove⟩

/-- What the history says after ids from the counter on were handed out. -/
theorem Inv.kept_append (h : s.Inv) (hpast : s.CounterPastRestores) {new : List HandedOut}
    (hnew : ∀ out ∈ new, out.store = s.store ∧ s.engine.nextJobId ≤ out.jobId ∧
      ∀ id, id ∈ out.everStored ∨ id ∈ out.queued → id < out.jobId)
    (hhanded : s'.handedOut = s.handedOut ++ new) (hover : s'.overwritten = s.overwritten) :
    JobIdsKept s' := by
  refine ⟨?_, ?_, hover ▸ h.kept.same⟩
  · intro out hout
    rw [hhanded] at hout
    rcases List.mem_append.mp hout with hold | hout
    · exact h.kept.above out hold
    · exact (hnew out hout).2.2
  · intro out hout job hjob
    rw [hhanded] at hout
    rcases List.mem_append.mp hout with hold | hout
    · exact h.kept.latest out hold job hjob
    · obtain ⟨hstore, hle, -⟩ := hnew out hout
      rw [hstore]
      apply latestJobForObject_upsertJob
      intro row hrow
      rw [hjob]
      exact (h.used_lt hpast (Or.inl (h.rows row hrow))).trans_le hle

/-- What a request's jobs and the engine after them look like. -/
structure Pushed (s : JobSystem) (created : List ReplicationJob) (engine' : ReplicationEngine) :
    Prop where
  pending : engine'.pendingJobs = s.engine.pendingJobs ++ created
  next : engine'.nextJobId = s.engine.nextJobId + created.length
  ids : created.map (·.jobId) = List.range' s.engine.nextJobId created.length

theorem pushed_enqueueJobs {topology : TopologyPolicy} {source : Option String}
    {operation : ReplicationOperation} {object : ReplicationObjectRef} {now : Nat} :
    s.Pushed (s.engine.enqueueJobs topology source operation object now).1
      (s.engine.enqueueJobs topology source operation object now).2 :=
  ⟨rfl, rfl, ReplicationEngine.createJobs_jobId⟩

section Pushed

variable {created : List ReplicationJob} {engine' : ReplicationEngine}

theorem Pushed.jobId_mem (hpushed : s.Pushed created engine') {job : ReplicationJob}
    (hjob : job ∈ created) :
    s.engine.nextJobId ≤ job.jobId ∧ job.jobId < s.engine.nextJobId + created.length := by
  have hmem : job.jobId ∈ created.map (·.jobId) := List.mem_map_of_mem hjob
  rw [hpushed.ids, List.mem_range'_1] at hmem
  exact hmem

/-- Every job held after the call is an old one or a created one. -/
theorem Pushed.holds (hpushed : s.Pushed created engine') {job : ReplicationJob}
    (hjob : (s.pushJobs (created, engine')).Holds job) : s.Holds job ∨ job ∈ created := by
  rcases hjob with hjob | hjob | hjob | hjob | hjob | ⟨hjobs, hjob⟩
  · exact Or.inl (.row hjob)
  · rcases List.mem_append.mp (hpushed.pending ▸ hjob) with hold | hnew
    · exact Or.inl (.queued hold)
    · exact Or.inr hnew
  · exact Or.inl (.inFlight hjob)
  · rcases List.mem_append.mp hjob with hold | hnew
    · exact Or.inl (.unsaved hold)
    · exact Or.inr hnew
  · exact Or.inl (.unpushed hjob)
  · exact Or.inl (.replacement hjobs hjob)

theorem Pushed.used (hpushed : s.Pushed created engine') {id : Nat}
    (hid : (s.pushJobs (created, engine')).Used id) :
    s.Used id ∨ ∃ job ∈ created, job.jobId = id := by
  rcases hid with hstored | ⟨job, hjob, rfl⟩
  · exact Or.inl (Or.inl hstored)
  · exact (hpushed.holds hjob).imp (fun hold => hold.known.used) (fun hnew => ⟨job, hnew, rfl⟩)

/-- The created jobs have ids that no held job has. -/
theorem Inv.agree_pushed (h : s.Inv) (hpast : s.CounterPastRestores)
    (hpushed : s.Pushed created engine') {a b : ReplicationJob}
    (ha : (s.pushJobs (created, engine')).Holds a)
    (hb : (s.pushJobs (created, engine')).Holds b) (hid : a.jobId = b.jobId) :
    jobWork a = jobWork b := by
  have hnodup : (created.map (·.jobId)).Nodup := hpushed.ids ▸ List.nodup_range'
  have hlt : ∀ job, s.Holds job → job.jobId < s.engine.nextJobId :=
    fun job hjob => h.used_lt hpast hjob.known.used
  rcases hpushed.holds ha with ha | ha
  · rcases hpushed.holds hb with hb | hb
    · exact h.agree a b ha hb hid
    · have hbelow := hlt a ha
      have hge := (hpushed.jobId_mem hb).1
      omega
  · rcases hpushed.holds hb with hb | hb
    · have hbelow := hlt b hb
      have hge := (hpushed.jobId_mem ha).1
      omega
    · rw [List.inj_on_of_nodup_map hnodup ha hb hid]

theorem Inv.pushJobs (h : s.Inv) (hpast : s.CounterPastRestores)
    (hpushed : s.Pushed created engine')
    (hbound : s.engine.nextJobId + created.length ≤ 2 ^ 63) :
    (s.pushJobs (created, engine')).Inv := by
  have hnext : s.engine.nextJobId ≤ engine'.nextJobId := hpushed.next ▸ Nat.le_add_right _ _
  refine ⟨fun a b => h.agree_pushed hpast hpushed, ?_, ?_, h.rows, ?_, ?_⟩
  · intro id hid
    left
    rcases hpushed.used hid with hold | ⟨job, hjob, rfl⟩
    · exact (h.used_lt hpast hold).trans_le hnext
    · exact (hpushed.jobId_mem hjob).2.trans_le hpushed.next.ge
  · intro id hid
    rcases hpushed.used hid with hold | ⟨job, hjob, rfl⟩
    · exact h.bounded id hold
    · exact (hpushed.jobId_mem hjob).2.trans_le hbound
  · intro id hid
    obtain ⟨hlt, hsmall, hnot⟩ := h.allocated id hid
    refine ⟨hlt.trans_le hnext, hsmall, ?_⟩
    intro job hjob
    rcases hpushed.holds hjob with hold | hjob
    · exact hnot job hold
    · exact (hlt.trans_le (hpushed.jobId_mem hjob).1).ne'
  · have hqueued : ∀ id, id ∈ s.everStored ∨ id ∈ s.queuedIds → id < s.engine.nextJobId := by
      rintro id (hstored | hqueued)
      · exact h.used_lt hpast (Or.inl hstored)
      · obtain ⟨job, hjob, rfl⟩ := List.mem_map.mp hqueued
        exact h.used_lt hpast (Holds.queued hjob).known.used
    have hnew : ∀ out ∈ handOuts s.everStored s.store s.queuedIds created,
        out.store = s.store ∧ s.engine.nextJobId ≤ out.jobId ∧
          ∀ id, id ∈ out.everStored ∨ id ∈ out.queued → id < out.jobId := by
      intro out hout
      obtain ⟨hstore, -, hle, habove⟩ := mem_handOuts hpushed.ids hqueued hout
      exact ⟨hstore, hle, habove⟩
    exact h.kept_append hpast hnew rfl rfl

end Pushed

theorem Inv.allocateJobId (h : s.Inv) (hpast : s.CounterPastRestores)
    (hbound : s.engine.nextJobId < 2 ^ 63) (hstep : s.step .allocateJobId = some s') :
    s'.Inv := by
  have heq := (Option.some.inj hstep).symm
  -- the places of the jobs are as they were
  have hholds : ∀ job, s'.Holds job → s.Holds job := by
    rw [heq]
    rintro job (hjob | hjob | hjob | hjob | hjob | ⟨hjobs, hjob⟩)
    · exact .row hjob
    · exact .queued hjob
    · exact .inFlight hjob
    · exact .unsaved hjob
    · exact .unpushed hjob
    · exact .replacement hjobs hjob
  have hstored : s'.everStored = s.everStored := by rw [heq]
  have hused : ∀ id, s'.Used id → s.Used id := by
    rintro id (hid | ⟨job, hjob, rfl⟩)
    · exact Or.inl (hstored ▸ hid)
    · exact (hholds job hjob).known.used
  have hnext : s'.engine.nextJobId = s.engine.nextJobId + 1 := by
    rw [heq]
    rfl
  have hlt : ∀ id, s.Used id → id < s.engine.nextJobId := fun id => h.used_lt hpast
  refine ⟨fun a b ha hb => h.agree a b (hholds a ha) (hholds b hb), ?_,
    fun id hid => h.bounded id (hused id hid), ?_, ?_, ?_⟩
  · intro id hid
    left
    have hbelow := hlt id (hused id hid)
    omega
  · rw [heq]
    exact h.rows
  · intro id hid
    have hcases : id = s.engine.nextJobId ∨ id ∈ s.allocated := by
      rw [heq] at hid
      exact List.mem_cons.mp hid
    rcases hcases with rfl | hold
    · refine ⟨by omega, hbound, ?_⟩
      exact fun job hjob => (hlt _ (hholds job hjob).known.used).ne
    · obtain ⟨hlt', hsmall, hnot⟩ := h.allocated id hold
      exact ⟨by omega, hsmall, fun job hjob => hnot job (hholds job hjob)⟩
  · have hnew : ∀ out ∈ [HandedOut.mk s.engine.nextJobId s.everStored s.queuedIds s.store],
        out.store = s.store ∧ s.engine.nextJobId ≤ out.jobId ∧
          ∀ id, id ∈ out.everStored ∨ id ∈ out.queued → id < out.jobId := by
      intro out hout
      rw [List.mem_singleton.mp hout]
      refine ⟨rfl, le_refl _, ?_⟩
      rintro id (hin | hin)
      · exact hlt id (Or.inl hin)
      · obtain ⟨job, hjob, rfl⟩ := List.mem_map.mp hin
        exact hlt _ (Holds.queued hjob).known.used
    apply h.kept_append hpast hnew
    · rw [heq]
      rfl
    · rw [heq]

end JobSystem

/-! ## Section 5: Replayed dead letters -/

/-- New rows under free ids of a list. -/
structure NewRows (store : MetadataStore) (jobIds : List Nat) (jobs : List ReplicationJob)
    (store' : MetadataStore) : Prop where
  nodup : (jobs.map (·.jobId)).Nodup
  ids : ∀ job ∈ jobs, job.jobId ∈ jobIds
  free : ∀ job ∈ jobs, ∀ row ∈ store.replicationJobs, row.jobId ≠ job.jobId
  rows : ∀ row ∈ store'.replicationJobs, row ∈ jobs ∨ row ∈ store.replicationJobs

theorem newRows_replayLoop {now : Nat} {picks : List (ReplicationJob × Nat)}
    {store store' : MetadataStore} {replayed : List (Nat × ReplicationJob)}
    (hnodup : (picks.map (·.2)).Nodup)
    (hfree : ∀ id ∈ picks.map (·.2), ∀ row ∈ store.replicationJobs, row.jobId ≠ id)
    (h : MetadataStore.replayLoop now picks store = .ok (replayed, store')) :
    NewRows store (picks.map (·.2)) (replayed.map (·.2)) store' ∧
      (replayed.map (·.2)).map (·.jobId) = picks.map (·.2) := by
  induction picks generalizing store replayed with
  | nil =>
    obtain ⟨rfl, rfl⟩ := Prod.mk.inj (Except.ok.inj h)
    exact ⟨⟨List.nodup_nil, fun job hjob => absurd hjob List.not_mem_nil,
      fun job hjob => absurd hjob List.not_mem_nil, fun row hrow => Or.inr hrow⟩, rfl⟩
  | cons pick picks ih =>
    obtain ⟨originalJob, newJobId⟩ := pick
    obtain ⟨tail, rfl, hloop⟩ := MetadataStore.replayLoop_cons_ok h
    obtain ⟨hhead, hrest⟩ := List.nodup_cons.mp hnodup
    have hfree' : ∀ id ∈ picks.map (·.2), ∀ row ∈ (store.writeReplay
        (fun row => decide (row.originalJobId = originalJob.jobId ∧ row.status = .open))
          originalJob newJobId now).replicationJobs, row.jobId ≠ id := by
      intro id hid row hrow
      rcases MetadataStore.mem_writeReplay.mp hrow with rfl | ⟨hold, -⟩
      · intro heq
        have heq' : newJobId = id := heq
        exact hhead (heq' ▸ hid)
      · exact hfree id (List.mem_cons_of_mem _ hid) row hold
    obtain ⟨htail, hids⟩ := ih hrest hfree' hloop
    have hmap : (((originalJob.jobId,
        MetadataStore.replayedJob originalJob newJobId now) :: tail).map (·.2)).map (·.jobId) =
          newJobId :: picks.map (·.2) := by
      rw [List.map_cons, List.map_cons, hids]
      rfl
    refine ⟨⟨hmap ▸ hnodup, ?_, ?_, ?_⟩, hmap⟩
    · intro job hjob
      have hmem : job.jobId ∈ newJobId :: picks.map (·.2) := hmap ▸ List.mem_map_of_mem hjob
      exact hmem
    · intro job hjob row hrow
      have hmem : job.jobId ∈ newJobId :: picks.map (·.2) := hmap ▸ List.mem_map_of_mem hjob
      exact hfree job.jobId hmem row hrow
    · intro row hrow
      rcases htail.rows row hrow with hnew | hold
      · exact Or.inl (List.mem_cons_of_mem _ hnew)
      · rcases MetadataStore.mem_writeReplay.mp hold with rfl | ⟨hrow, -⟩
        · exact Or.inl List.mem_cons_self
        · exact Or.inr hrow

theorem newRows_replay {store store' : MetadataStore} {call : ReplayCall}
    {replayed : List (Nat × ReplicationJob)} (h : store.replay call = .ok (replayed, store')) :
    NewRows store call.newJobIds (replayed.map (·.2)) store' := by
  cases call with
  | job originalJobId newJobId now =>
    simp only [MetadataStore.replay] at h
    split at h
    · rename_i job store'' hok
      obtain ⟨rfl, rfl⟩ := Prod.mk.inj (Except.ok.inj h)
      obtain ⟨originalJob, -, -, -, hfree, rfl, rfl⟩ := MetadataStore.replayDeadLetterJob_ok hok
      refine ⟨List.nodup_singleton _, ?_, ?_, ?_⟩
      · intro job hjob
        rw [List.mem_singleton.mp hjob]
        exact List.mem_singleton_self newJobId
      · intro job hjob row hrow
        rw [List.mem_singleton.mp hjob]
        exact hfree row hrow
      · intro row hrow
        rcases MetadataStore.mem_writeReplay.mp hrow with heq | ⟨hold, -⟩
        · exact Or.inl (List.mem_singleton.mpr heq)
        · exact Or.inr hold
    · cases h
  | jobsForTarget target newJobIds now limit =>
    rcases MetadataStore.replayDeadLetterJobsForTarget_ok h with
      ⟨rfl, rfl, -⟩ | ⟨hlength, hnodup, hfree, hloop⟩
    · exact ⟨List.nodup_nil, fun job hjob => absurd hjob List.not_mem_nil,
        fun job hjob => absurd hjob List.not_mem_nil, fun row hrow => Or.inr hrow⟩
    · have hids : ((store.replayCandidates target limit).zip newJobIds).map (·.2) =
          newJobIds.take (store.replayCandidates target limit).length := by
        change ((store.replayCandidates target limit).zip newJobIds).map Prod.snd = _
        rw [List.zip_eq_zip_take_min, List.map_snd_zip (by simp), min_eq_left hlength]
      obtain ⟨hnew, -⟩ :=
        newRows_replayLoop (by rw [hids]; exact hnodup) (by rw [hids]; exact hfree) hloop
      refine ⟨hnew.nodup, ?_, hnew.free, hnew.rows⟩
      intro job hjob
      have hmem := hnew.ids job hjob
      rw [hids] at hmem
      exact List.mem_of_mem_take hmem

namespace JobSystem

variable {s s' : JobSystem}

@[simp] theorem mem_releaseIds {jobIds : List Nat} {id : Nat} :
    id ∈ (s.releaseIds jobIds).allocated ↔ id ∈ s.allocated ∧ id ∉ jobIds := by
  simp [releaseIds]

/-- Rows under ids that the request has allocated are new to everybody. -/
theorem Inv.replayed (h : s.Inv) {jobIds : List Nat} {jobs : List ReplicationJob}
    {store' : MetadataStore} (hids : ∀ id ∈ jobIds, id ∈ s.allocated)
    (hnew : NewRows s.store jobIds jobs store') :
    ({ (s.releaseIds jobIds).wroteJobs store' jobs with
        unpushed := jobs ++ s.unpushed } : JobSystem).Inv := by
  have hallocated : ∀ job ∈ jobs, job.jobId ∈ s.allocated :=
    fun job hjob => hids job.jobId (hnew.ids job hjob)
  obtain ⟨t, ht⟩ : ∃ t : JobSystem, t = { (s.releaseIds jobIds).wroteJobs store' jobs with
    unpushed := jobs ++ s.unpushed } := ⟨_, rfl⟩
  rw [← ht]
  have hholds : ∀ job, t.Holds job → s.Holds job ∨ job ∈ jobs := by
    rw [ht]
    rintro job (hjob | hjob | hjob | hjob | hjob | ⟨hjobs, hjob⟩)
    · exact (hnew.rows job hjob).symm.imp (fun hrow => .row hrow) (fun hin => hin)
    · exact Or.inl (.queued hjob)
    · exact Or.inl (.inFlight hjob)
    · exact Or.inl (.unsaved hjob)
    · exact (List.mem_append.mp hjob).symm.imp (fun hold => .unpushed hold) (fun hin => hin)
    · exact Or.inl (.replacement hjobs hjob)
  have hused : ∀ id, t.Used id → s.Used id ∨ id ∈ s.allocated := by
    rintro id (hstored | ⟨job, hjob, rfl⟩)
    · rw [ht] at hstored
      rcases List.mem_append.mp hstored with hold | hin
      · exact Or.inl (Or.inl hold)
      · obtain ⟨job, hjob, rfl⟩ := List.mem_map.mp hin
        exact Or.inr (hallocated job hjob)
    · exact (hholds job hjob).imp (fun hold => hold.known.used) (hallocated job)
  have hnext : t.engine = s.engine := by rw [ht]; rfl
  have hrestored : t.restoredIds = s.restoredIds := by rw [ht]; rfl
  refine ⟨?_, ?_, ?_, ?_, ?_, ?_⟩
  · intro a b ha hb hid
    have hne : ∀ old new, s.Holds old → new ∈ jobs → old.jobId ≠ new.jobId :=
      fun old new hold hin => (h.allocated new.jobId (hallocated new hin)).2.2 old hold
    rcases hholds a ha with ha | ha
    · rcases hholds b hb with hb | hb
      · exact h.agree a b ha hb hid
      · exact absurd hid (hne a b ha hb)
    · rcases hholds b hb with hb | hb
      · exact absurd hid.symm (hne b a hb ha)
      · rw [List.inj_on_of_nodup_map hnew.nodup ha hb hid]
  · intro id hid
    rw [hnext, hrestored]
    rcases hused id hid with hold | hin
    · exact h.below id hold
    · exact Or.inl (h.allocated id hin).1
  · intro id hid
    rcases hused id hid with hold | hin
    · exact h.bounded id hold
    · exact (h.allocated id hin).2.1
  · rw [ht]
    intro row hrow
    rcases hnew.rows row hrow with hin | hold
    · exact List.mem_append_right _ (List.mem_map_of_mem hin)
    · exact List.mem_append_left _ (h.rows row hold)
  · intro id hid
    have hmem : id ∈ s.allocated ∧ id ∉ jobIds := by
      rw [ht] at hid
      exact mem_releaseIds.mp hid
    obtain ⟨hlt, hsmall, hnot⟩ := h.allocated id hmem.1
    refine ⟨hnext ▸ hlt, hsmall, ?_⟩
    intro job hjob
    rcases hholds job hjob with hold | hin
    · exact hnot job hold
    · exact fun heq => hmem.2 (heq ▸ hnew.ids job hin)
  · rw [ht]
    refine ⟨h.kept.above, h.kept.latest, ?_⟩
    intro pair hpair
    have hnone : replacedRows s.store jobs = [] := replacedRows_eq_nil hnew.nodup hnew.free
    rcases List.mem_append.mp hpair with hold | hin
    · exact h.kept.same pair hold
    · change pair ∈ replacedRows s.store jobs at hin
      rw [hnone] at hin
      cases hin

/-! ## Section 6: Restores -/

theorem le_foldl_max {ids : List Nat} {start : Nat} :
    start ≤ ids.foldl max start ∧ ∀ id ∈ ids, id ≤ ids.foldl max start := by
  induction ids generalizing start with
  | nil => exact ⟨le_refl _, fun id hid => absurd hid List.not_mem_nil⟩
  | cons head ids ih =>
    obtain ⟨hstart, hrest⟩ := @ih (max start head)
    refine ⟨(le_max_left start head).trans hstart, ?_⟩
    intro id hid
    rcases List.mem_cons.mp hid with rfl | hid
    · exact (le_max_right start id).trans hstart
    · exact hrest id hid

theorem jobId_lt_saturating {jobs : List ReplicationJob} {job : ReplicationJob} (hjob : job ∈ jobs)
    (hbound : job.jobId < 2 ^ 63) :
    job.jobId < saturatingAddU64 (ReplicationEngine.maxJobId jobs) 1 := by
  have hle : job.jobId ≤ ReplicationEngine.maxJobId jobs :=
    le_foldl_max.2 job.jobId (List.mem_map_of_mem hjob)
  unfold saturatingAddU64 u64Max
  omega

theorem jobId_lt_replacePending {engine : ReplicationEngine} {jobs : List ReplicationJob}
    {job : ReplicationJob} (hjob : job ∈ jobs) (hbound : job.jobId < 2 ^ 63) :
    job.jobId < (engine.replacePending jobs).nextJobId := by
  have hlt := jobId_lt_saturating hjob hbound
  change job.jobId < max engine.nextJobId
    (max (max (saturatingAddU64 (ReplicationEngine.maxJobId jobs) 1) 1) 1)
  omega

/-- A job that is held by something else than a row. -/
def Outside (s : JobSystem) (job : ReplicationJob) : Prop :=
  job ∈ s.engine.pendingJobs ∨ job ∈ s.inFlight ∨ job ∈ s.unsaved ∨ job ∈ s.unpushed ∨
    ∃ jobs ∈ s.replacements, job ∈ jobs

theorem Outside.holds {job : ReplicationJob} (h : s.Outside job) : s.Holds job := by
  rcases h with h | h | h | h | ⟨jobs, hjobs, h⟩
  · exact .queued h
  · exact .inFlight h
  · exact .unsaved h
  · exact .unpushed h
  · exact .replacement hjobs h

/-- The jobs of a restore have ids below the sign bit that no replay request holds, and say
the same as the jobs of these ids that are still about. -/
structure Admits (s : JobSystem) (jobs : List ReplicationJob) : Prop where
  bounded : ∀ job ∈ jobs, job.jobId < 2 ^ 63
  free : ∀ job ∈ jobs, job.jobId ∉ s.allocated
  same : ∀ job ∈ jobs, ∀ held, s.Outside held → held.jobId = job.jobId →
    jobWork held = jobWork job

theorem Inv.restoreTables (h : s.Inv) {store' : MetadataStore} {jobs : List ReplicationJob}
    (hadmits : s.Admits jobs) (hnodup : (jobs.map (·.jobId)).Nodup)
    (hrows : ∀ row ∈ store'.replicationJobs, row ∈ jobs) : (s.restoreTables store' jobs).Inv := by
  have hholds : ∀ job, (s.restoreTables store' jobs).Holds job → s.Outside job ∨ job ∈ jobs := by
    rintro job (hjob | hjob | hjob | hjob | hjob | ⟨hjobs, hjob⟩)
    · exact Or.inr (hrows job hjob)
    · exact Or.inl (Or.inl hjob)
    · exact Or.inl (Or.inr (Or.inl hjob))
    · exact Or.inl (Or.inr (Or.inr (Or.inl hjob)))
    · exact Or.inl (Or.inr (Or.inr (Or.inr (Or.inl hjob))))
    · rcases List.mem_append.mp hjobs with hold | hin
      · exact Or.inl (Or.inr (Or.inr (Or.inr (Or.inr ⟨_, hold, hjob⟩))))
      · rw [List.mem_singleton.mp hin] at hjob
        exact Or.inr hjob
  have hused : ∀ id, (s.restoreTables store' jobs).Used id →
      s.Used id ∨ ∃ job ∈ jobs, job.jobId = id := by
    rintro id (hstored | ⟨job, hjob, rfl⟩)
    · exact (List.mem_append.mp hstored).imp (fun hold => Or.inl hold)
        (fun hin => List.mem_map.mp hin)
    · exact (hholds job hjob).imp (fun hold => hold.holds.known.used)
        (fun hin => ⟨job, hin, rfl⟩)
  refine ⟨?_, ?_, ?_, ?_, ?_, ?_⟩
  · intro a b ha hb hid
    rcases hholds a ha with ha | ha
    · rcases hholds b hb with hb | hb
      · exact h.agree a b ha.holds hb.holds hid
      · exact hadmits.same b hb a ha hid
    · rcases hholds b hb with hb | hb
      · exact (hadmits.same a ha b hb hid.symm).symm
      · rw [List.inj_on_of_nodup_map hnodup ha hb hid]
  · intro id hid
    rcases hused id hid with hold | ⟨job, hjob, rfl⟩
    · exact (h.below id hold).imp (fun hlt => hlt) (fun hin => List.mem_append_left _ hin)
    · exact Or.inr (List.mem_append_right _ (List.mem_map_of_mem hjob))
  · intro id hid
    rcases hused id hid with hold | ⟨job, hjob, rfl⟩
    · exact h.bounded id hold
    · exact hadmits.bounded job hjob
  · intro row hrow
    exact List.mem_append_right _ (List.mem_map_of_mem (hrows row hrow))
  · intro id hid
    obtain ⟨hlt, hsmall, hnot⟩ := h.allocated id hid
    refine ⟨hlt, hsmall, ?_⟩
    intro job hjob
    rcases hholds job hjob with hold | hin
    · exact hnot job hold.holds
    · exact fun heq => hadmits.free job hin (heq ▸ hid)
  · refine ⟨h.kept.above, h.kept.latest, ?_⟩
    intro pair hpair
    have hnone : replacedRows (MetadataStore.openFresh s.store.retention) jobs = [] :=
      replacedRows_eq_nil hnodup (fun job _ row hrow => absurd hrow (Table.not_mem_empty row))
    rcases List.mem_append.mp hpair with hold | hin
    · exact h.kept.same pair hold
    · rw [hnone] at hin
      cases hin

/-- A restore whose second half follows leaves the counter above its ids. -/
theorem counterPastRestores_replacePending (hpast : s.CounterPastRestores)
    {store' : MetadataStore} {jobs : List ReplicationJob} (hbound : ∀ job ∈ jobs, job.jobId < 2 ^ 63)
    (hstep : (s.restoreTables store' jobs).step (.replacePending jobs) = some s') :
    s'.CounterPastRestores := by
  have hmem : jobs ∈ (s.restoreTables store' jobs).replacements :=
    List.mem_append_right _ (List.mem_singleton_self jobs)
  rw [step, if_pos hmem] at hstep
  obtain rfl := Option.some.inj hstep
  intro id hid
  rcases List.mem_append.mp hid with hold | hin
  · exact (hpast id hold).trans_le (ReplicationEngine.le_replacePending_nextJobId _ _)
  · obtain ⟨job, hjob, rfl⟩ := List.mem_map.mp hin
    exact jobId_lt_replacePending hjob (hbound job hjob)

end JobSystem

end Netdisk2Blob.Gateway
