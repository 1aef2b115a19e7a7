import Netdisk2Blob.Metadata.Jobs

/-!
# Dead Letters

The operations of `MetadataStore` on `replication_dead_letters`: a job that failed for
good is dead-lettered, and a dead letter is replayed as a new job, one at a time or by
target.

As in `Metadata.Jobs`, every operation has one lemma that says what it does to the two
tables.
-/

namespace Netdisk2Blob.Metadata

open Library Replication

namespace MetadataStore

/-! ## Section 1: Dead-lettering a job -/

/-- The dead-letter row of a job. On a conflict the replay count of the old row stays. -/
def deadLetterRow (store : MetadataStore) (job : ReplicationJob) (attempts : Nat)
    (lastError : Option String) (reason : String) (deadLetteredAtUnixMs : Nat) :
    DeadLetterRow where
  originalJobId := job.jobId
  target := job.target
  bucket := job.object.bucket
  key := job.object.key
  operation := job.operation
  attempts := attempts
  deadLetteredAtUnixMs := deadLetteredAtUnixMs
  lastError := lastError
  reason := reason
  status := .open
  replayCount :=
    match store.replicationDeadLetters.find? job.jobId with
    | some old => old.replayCount
    | none => 0
  lastReplayedJobId := none
  lastReplayedAtUnixMs := none

def markJobDeadLetter (store : MetadataStore) (jobId attempts : Nat)
    (lastError : Option String) (reason : String) (deadLetteredAtUnixMs : Nat) :
    Except MetadataError (ReplicationDeadLetterEntry × MetadataStore) :=
  match store.replicationJobs.find? jobId with
  | none => .error (.missingJob jobId)
  | some originalJob =>
    let updated := store.setJobOutcome jobId .failed attempts lastError
    let lettered :=
      { updated with
        replicationDeadLetters := updated.replicationDeadLetters.upsert
          (updated.deadLetterRow originalJob attempts lastError reason deadLetteredAtUnixMs) }
    .ok
      ({ originalJob := originalJob.withOutcome .failed attempts lastError
         status := .open
         deadLetteredAtUnixMs := deadLetteredAtUnixMs
         reason := reason
         replayCount := 0
         lastReplayedJobId := none
         lastReplayedAtUnixMs := none },
        (lettered.pruneHistory lettered.retention).2)

/-- What `mark_job_dead_letter` does: the row fails and gets an open dead letter, other
rows stay or are pruned. -/
theorem markJobDeadLetter_ok {store store' : MetadataStore} {jobId attempts at_ : Nat}
    {lastError : Option String} {reason : String} {entry : ReplicationDeadLetterEntry}
    (h : store.markJobDeadLetter jobId attempts lastError reason at_ = .ok (entry, store')) :
    ∃ job ∈ store.replicationJobs, job.jobId = jobId ∧
      ∃ lettered, store' = (MetadataStore.pruneHistory lettered lettered.retention).2 ∧
        (∀ row, row ∈ lettered.replicationJobs ↔
          (row ∈ store.replicationJobs ∧ row.jobId ≠ jobId) ∨
            row = job.withOutcome .failed attempts lastError) ∧
        ∃ letter : DeadLetterRow, letter.originalJobId = jobId ∧ letter.status = .open ∧
          ∀ row, row ∈ lettered.replicationDeadLetters ↔
            row = letter ∨ (row ∈ store.replicationDeadLetters ∧ row.originalJobId ≠ jobId) := by
  unfold markJobDeadLetter at h
  split at h
  · exact absurd h (by simp)
  · rename_i job hfind
    obtain ⟨hjob, hid⟩ := Table.find?_eq_some.mp hfind
    refine ⟨job, hjob, hid, _, (congrArg Prod.snd (Except.ok.inj h)).symm, ?_,
      deadLetterRow store job attempts lastError reason at_, hid, rfl, ?_⟩
    · intro row
      exact mem_setJobOutcome hjob hid
    · intro row
      have hmem : row ∈ store.replicationDeadLetters.upsert
          (store.deadLetterRow job attempts lastError reason at_) ↔ _ := Table.mem_upsert
      rw [show (store.deadLetterRow job attempts lastError reason at_).originalJobId = jobId
        from hid] at hmem
      exact hmem

/-- Where a row after `mark_job_dead_letter` comes from. -/
theorem markJobDeadLetter_origin {store store' : MetadataStore} {jobId attempts at_ : Nat}
    {lastError : Option String} {reason : String} {entry : ReplicationDeadLetterEntry}
    {row : ReplicationJob}
    (h : store.markJobDeadLetter jobId attempts lastError reason at_ = .ok (entry, store'))
    (hrow : row ∈ store'.replicationJobs) :
    ∃ old ∈ store.replicationJobs, old.jobId = row.jobId ∧ old.spec = row.spec ∧
      ((row = old ∧ row.jobId ≠ jobId) ∨ (row.jobId = jobId ∧ row.status = .failed)) := by
  obtain ⟨job, hjob, hid, lettered, rfl, hrows, -⟩ := markJobDeadLetter_ok h
  rcases (hrows row).mp (mem_pruneHistory.mp hrow).1 with ⟨hold, hne⟩ | rfl
  · exact ⟨row, hold, rfl, rfl, Or.inl ⟨rfl, hne⟩⟩
  · exact ⟨job, hjob, rfl, rfl, Or.inr ⟨hid, rfl⟩⟩

theorem covers_markJobDeadLetter {store store' : MetadataStore} {jobId attempts at_ : Nat}
    {lastError : Option String} {reason : String} {entry : ReplicationDeadLetterEntry}
    {job : ReplicationJob}
    (h : store.markJobDeadLetter jobId attempts lastError reason at_ = .ok (entry, store'))
    (hcovers : store.Covers job) : store'.Covers job := by
  obtain ⟨marked, hmarked, hid, lettered, rfl, hrows, -⟩ := markJobDeadLetter_ok h
  apply covers_pruneHistory
  refine covers_of_rows ?_ hcovers
  intro row hrow
  by_cases heq : row.jobId = jobId
  · obtain rfl : row = marked := Table.eq_of_key_eq hrow hmarked (heq.trans hid.symm)
    exact ⟨_, (hrows _).mpr (Or.inr rfl), rfl, rfl⟩
  · exact ⟨row, (hrows _).mpr (Or.inl ⟨hrow, heq⟩), rfl, rfl⟩

/-- It fails exactly on a row that is not there. -/
theorem markJobDeadLetter_error_iff {store : MetadataStore} {jobId attempts at_ : Nat}
    {lastError : Option String} {reason : String} :
    (∃ error, store.markJobDeadLetter jobId attempts lastError reason at_ = .error error) ↔
      ∀ job ∈ store.replicationJobs, job.jobId ≠ jobId := by
  rw [← Table.find?_eq_none]
  unfold markJobDeadLetter
  constructor
  · rintro ⟨error, h⟩
    split at h
    · assumption
    · simp at h
  · intro hnone
    exact ⟨.missingJob jobId, by rw [hnone]⟩

/-! ## Section 2: Listing -/

/-- `ORDER BY dead_lettered_at_unix_ms DESC, original_job_id DESC`. -/
def NewestFirst (a b : DeadLetterRow) : Prop :=
  b.deadLetteredAtUnixMs < a.deadLetteredAtUnixMs ∨
    (b.deadLetteredAtUnixMs = a.deadLetteredAtUnixMs ∧ b.originalJobId ≤ a.originalJobId)

instance : DecidableRel NewestFirst := fun _ _ => inferInstanceAs (Decidable (_ ∨ _))

/-- The dead letters that satisfy `p`, newest first, each with its job. -/
def joinedDeadLetters (store : MetadataStore) (p : DeadLetterRow → Bool) :
    List (DeadLetterRow × ReplicationJob) :=
  ((store.replicationDeadLetters.rows.filter p).insertionSort NewestFirst).filterMap
    (fun row => (store.replicationJobs.find? row.originalJobId).map (fun job => (row, job)))

/-- The `WHERE` clause of the dead-letter queries. -/
def deadLetterFilter (target : Option String) (includeReplayed : Bool) (row : DeadLetterRow) :
    Bool :=
  (match target with
    | some target => decide (row.target = target)
    | none => true) &&
  (includeReplayed || decide (row.status = .open))

def listDeadLetterJobs (store : MetadataStore) (target : Option String)
    (includeReplayed : Bool) (limit : Nat) : List ReplicationDeadLetterEntry :=
  ((store.joinedDeadLetters (deadLetterFilter target includeReplayed)).take
    (min (max limit 1) (2 ^ 63 - 1))).map (fun (row, job) =>
      { originalJob := job
        status := row.status
        deadLetteredAtUnixMs := row.deadLetteredAtUnixMs
        reason := row.reason
        replayCount := row.replayCount
        lastReplayedJobId := row.lastReplayedJobId
        lastReplayedAtUnixMs := row.lastReplayedAtUnixMs })

def countDeadLetterJobs (store : MetadataStore) (target : Option String)
    (includeReplayed : Bool) : Nat :=
  (store.replicationDeadLetters.rows.filter (deadLetterFilter target includeReplayed)).length

/-- `SELECT target, COUNT(*) ... WHERE status = 'open' GROUP BY target ORDER BY target`. -/
def openDeadLetterTargetCounts (store : MetadataStore) : List (String × Nat) :=
  let targets := (store.replicationDeadLetters.rows.filter
    (deadLetterFilter none false)).map (·.target)
  (targets.dedup.insertionSort (· ≤ ·)).map (fun target => (target, targets.count target))

theorem mem_joinedDeadLetters {store : MetadataStore} {p : DeadLetterRow → Bool}
    {row : DeadLetterRow} {job : ReplicationJob} :
    (row, job) ∈ store.joinedDeadLetters p ↔
      row ∈ store.replicationDeadLetters ∧ p row = true ∧
        job ∈ store.replicationJobs ∧ job.jobId = row.originalJobId := by
  simp only [joinedDeadLetters, List.mem_filterMap, List.mem_insertionSort, List.mem_filter,
    Option.map_eq_some_iff, Prod.mk.injEq, Table.mem_rows]
  constructor
  · rintro ⟨row', ⟨hrow, hp⟩, job', hfind, rfl, rfl⟩
    exact ⟨hrow, hp, Table.find?_eq_some.mp hfind⟩
  · rintro ⟨hrow, hp, hjob⟩
    exact ⟨row, ⟨hrow, hp⟩, job, Table.find?_eq_some.mpr hjob, rfl, rfl⟩

/-! ## Section 3: Replay -/

/-- `SELECT 1 FROM replication_jobs WHERE job_id = ?`. -/
def ensureJobIdAvailable (store : MetadataStore) (jobId : Nat) : Except MetadataError Unit :=
  if (store.replicationJobs.find? jobId).isSome then .error (.jobAlreadyExists jobId)
  else .ok ()

/-- The job a dead letter is replayed as. -/
def replayedJob (originalJob : ReplicationJob) (newJobId enqueuedAtUnixMs : Nat) :
    ReplicationJob :=
  { originalJob.requeued enqueuedAtUnixMs with jobId := newJobId }

/-- The dead letter of a replayed job. -/
def replayedRow (newJobId enqueuedAtUnixMs : Nat) (row : DeadLetterRow) : DeadLetterRow :=
  { row with
    status := .replayed
    replayCount := row.replayCount + 1
    lastReplayedJobId := some newJobId
    lastReplayedAtUnixMs := some enqueuedAtUnixMs }

/-- Insert the new job and close the dead letters selected by `p`. -/
def writeReplay (store : MetadataStore) (p : DeadLetterRow → Bool)
    (originalJob : ReplicationJob) (newJobId enqueuedAtUnixMs : Nat) : MetadataStore :=
  let inserted := store.upsertJob (replayedJob originalJob newJobId enqueuedAtUnixMs)
  { inserted with
    replicationDeadLetters := inserted.replicationDeadLetters.modify p
      (replayedRow newJobId enqueuedAtUnixMs) (fun _ => rfl) }

def replayDeadLetterJob (store : MetadataStore)
    (originalJobId newJobId enqueuedAtUnixMs : Nat) :
    Except MetadataError (ReplicationJob × MetadataStore) := do
  let originalJob ←
    match store.replicationJobs.find? originalJobId with
    | none => .error (.missingJob originalJobId)
    | some job => .ok job
  let row ←
    match store.replicationDeadLetters.find? originalJobId with
    | none => .error (.deadLetterMissing originalJobId)
    | some row => .ok row
  if row.status ≠ .open then .error (.deadLetterNotOpen originalJobId)
  else
    store.ensureJobIdAvailable newJobId
    .ok (replayedJob originalJob newJobId enqueuedAtUnixMs,
      store.writeReplay (fun row => decide (row.originalJobId = originalJobId))
        originalJob newJobId enqueuedAtUnixMs)

/-- The id check of the batch replay: no id twice, no id of an existing job. -/
def checkReplayJobIds (store : MetadataStore) : List Nat → List Nat → Except MetadataError Unit
  | _, [] => .ok ()
  | allocated, jobId :: jobIds =>
    if jobId ∈ allocated then .error (.duplicateReplayJobId jobId)
    else
      match store.ensureJobIdAvailable jobId with
      | .error error => .error error
      | .ok () => store.checkReplayJobIds (jobId :: allocated) jobIds

/-- The loop of the batch replay over the original jobs and their new ids. -/
def replayLoop (enqueuedAtUnixMs : Nat) :
    List (ReplicationJob × Nat) → MetadataStore →
      Except MetadataError (List (Nat × ReplicationJob) × MetadataStore)
  | [], store => .ok ([], store)
  | (originalJob, newJobId) :: rest, store =>
    let isOpenRow := fun (row : DeadLetterRow) =>
      decide (row.originalJobId = originalJob.jobId ∧ row.status = .open)
    match store.replicationDeadLetters.rows.find? isOpenRow with
    | none => .error (.deadLetterNotOpen originalJob.jobId)
    | some _ =>
      match replayLoop enqueuedAtUnixMs rest
          (store.writeReplay isOpenRow originalJob newJobId enqueuedAtUnixMs) with
      | .error error => .error error
      | .ok (replayed, store') =>
        .ok ((originalJob.jobId, replayedJob originalJob newJobId enqueuedAtUnixMs) :: replayed,
          store')

/-- The open dead letters a batch replay takes, in the order it takes them. -/
def replayCandidates (store : MetadataStore) (target : String) (limit : Nat) :
    List ReplicationJob :=
  ((store.joinedDeadLetters (deadLetterFilter (some target) false)).take
    (min limit (2 ^ 63 - 1))).map (·.2)

def replayDeadLetterJobsForTarget (store : MetadataStore) (target : String)
    (newJobIds : List Nat) (enqueuedAtUnixMs limit : Nat) :
    Except MetadataError (List (Nat × ReplicationJob) × MetadataStore) :=
  if limit = 0 ∨ newJobIds = [] then .ok ([], store)
  else
    let originalJobs := store.replayCandidates target limit
    if newJobIds.length < originalJobs.length then
      .error (.insufficientReplayJobIds originalJobs.length newJobIds.length)
    else
      match store.checkReplayJobIds [] (newJobIds.take originalJobs.length) with
      | .error error => .error error
      | .ok () => replayLoop enqueuedAtUnixMs (originalJobs.zip newJobIds) store

/-! ## Section 4: What a replay does -/

theorem mem_writeReplay {store : MetadataStore} {p : DeadLetterRow → Bool}
    {originalJob row : ReplicationJob} {newJobId now : Nat} :
    row ∈ (store.writeReplay p originalJob newJobId now).replicationJobs ↔
      row = replayedJob originalJob newJobId now ∨
        (row ∈ store.replicationJobs ∧ row.jobId ≠ newJobId) :=
  mem_upsertJob

theorem mem_writeReplay_deadLetters {store : MetadataStore} {p : DeadLetterRow → Bool}
    {originalJob : ReplicationJob} {newJobId now : Nat} {row : DeadLetterRow} :
    row ∈ (store.writeReplay p originalJob newJobId now).replicationDeadLetters ↔
      ∃ old ∈ store.replicationDeadLetters,
        (if p old then replayedRow newJobId now old else old) = row := by
  have hmem := @Table.mem_modify DeadLetterRow Nat _ (fun row => row.originalJobId)
    store.replicationDeadLetters p (replayedRow newJobId now) (fun _ => rfl) row
  exact hmem

theorem ensureJobIdAvailable_ok {store : MetadataStore} {jobId : Nat} {u : Unit} :
    store.ensureJobIdAvailable jobId = .ok u ↔
      ∀ job ∈ store.replicationJobs, job.jobId ≠ jobId := by
  rw [ensureJobIdAvailable, ← Table.find?_eq_none]
  cases store.replicationJobs.find? jobId <;> simp

/-- A successful single replay. -/
theorem replayDeadLetterJob_ok {store store' : MetadataStore}
    {originalJobId newJobId now : Nat} {job : ReplicationJob}
    (h : store.replayDeadLetterJob originalJobId newJobId now = .ok (job, store')) :
    ∃ originalJob ∈ store.replicationJobs, originalJob.jobId = originalJobId ∧
      (∃ row ∈ store.replicationDeadLetters,
        row.originalJobId = originalJobId ∧ row.status = .open) ∧
      (∀ row ∈ store.replicationJobs, row.jobId ≠ newJobId) ∧
      job = replayedJob originalJob newJobId now ∧
      store' = store.writeReplay (fun row => decide (row.originalJobId = originalJobId))
        originalJob newJobId now := by
  unfold replayDeadLetterJob at h
  cases hjob : store.replicationJobs.find? originalJobId with
  | none => simp [hjob, bind, Except.bind] at h
  | some originalJob =>
    cases hrow : store.replicationDeadLetters.find? originalJobId with
    | none => simp [hjob, hrow, bind, Except.bind] at h
    | some row =>
      simp only [hjob, hrow, bind, Except.bind] at h
      split_ifs at h with hopen
      cases havail : store.ensureJobIdAvailable newJobId with
      | error error => simp [havail] at h
      | ok u =>
        simp only [havail, Except.ok.injEq, Prod.mk.injEq] at h
        obtain ⟨hmem, hid⟩ := Table.find?_eq_some.mp hjob
        obtain ⟨hrowmem, hrowid⟩ := Table.find?_eq_some.mp hrow
        exact ⟨originalJob, hmem, hid, ⟨row, hrowmem, hrowid, by simpa using hopen⟩,
          ensureJobIdAvailable_ok.mp havail, h.1.symm, h.2.symm⟩

/-- The id check passes exactly on ids that are pairwise distinct and free. -/
theorem checkReplayJobIds_ok {store : MetadataStore} {allocated jobIds : List Nat} {u : Unit} :
    store.checkReplayJobIds allocated jobIds = .ok u ↔
      jobIds.Nodup ∧ (∀ id ∈ jobIds, id ∉ allocated) ∧
        ∀ id ∈ jobIds, ∀ job ∈ store.replicationJobs, job.jobId ≠ id := by
  induction jobIds generalizing allocated with
  | nil => simp [checkReplayJobIds]
  | cons head jobIds ih =>
    rw [checkReplayJobIds]
    by_cases hmem : head ∈ allocated
    · rw [if_pos hmem]
      simp [hmem]
    · rw [if_neg hmem]
      cases havail : store.ensureJobIdAvailable head with
      | error error =>
        have hnot : ¬ ∀ job ∈ store.replicationJobs, job.jobId ≠ head := by
          intro hall
          rw [(@ensureJobIdAvailable_ok store head ()).mpr hall] at havail
          exact absurd havail (by simp)
        simp only [List.mem_cons, forall_eq_or_imp]
        exact ⟨fun h => absurd h (by simp), fun h => absurd h.2.2.1 hnot⟩
      | ok v =>
        have hfree := ensureJobIdAvailable_ok.mp havail
        dsimp only
        rw [ih, List.nodup_cons]
        simp only [List.mem_cons, forall_eq_or_imp, not_or]
        constructor
        · rintro ⟨hnodup, hdisjoint, hall⟩
          exact ⟨⟨fun h => (hdisjoint head h).1 rfl, hnodup⟩,
            ⟨hmem, fun id hid => (hdisjoint id hid).2⟩, hfree, hall⟩
        · rintro ⟨⟨hhead, hnodup⟩, ⟨-, hdisjoint⟩, -, hall⟩
          exact ⟨hnodup, fun id hid => ⟨fun h => hhead (h ▸ hid), hdisjoint id hid⟩, hall⟩

/-- One step of the batch loop. -/
theorem replayLoop_cons_ok {store store' : MetadataStore} {now newJobId : Nat}
    {originalJob : ReplicationJob} {rest : List (ReplicationJob × Nat)}
    {replayed : List (Nat × ReplicationJob)}
    (h : replayLoop now ((originalJob, newJobId) :: rest) store = .ok (replayed, store')) :
    ∃ tail, replayed =
        (originalJob.jobId, replayedJob originalJob newJobId now) :: tail ∧
      replayLoop now rest
        (store.writeReplay
          (fun row => decide (row.originalJobId = originalJob.jobId ∧ row.status = .open))
          originalJob newJobId now) = .ok (tail, store') := by
  rw [replayLoop] at h
  split at h
  · exact absurd h (by simp)
  · split at h
    · exact absurd h (by simp)
    · rename_i tail store'' hloop
      obtain ⟨hhead, rfl⟩ := Prod.mk.inj (Except.ok.inj h)
      exact ⟨tail, hhead.symm, hloop⟩

/-- A successful batch replay runs the loop over the candidates and their new ids. -/
theorem replayDeadLetterJobsForTarget_ok {store store' : MetadataStore} {target : String}
    {newJobIds : List Nat} {now limit : Nat} {replayed : List (Nat × ReplicationJob)}
    (h : store.replayDeadLetterJobsForTarget target newJobIds now limit =
      .ok (replayed, store')) :
    (replayed = [] ∧ store' = store ∧ (limit = 0 ∨ newJobIds = [])) ∨
      ((store.replayCandidates target limit).length ≤ newJobIds.length ∧
        (newJobIds.take (store.replayCandidates target limit).length).Nodup ∧
        (∀ id ∈ newJobIds.take (store.replayCandidates target limit).length,
          ∀ job ∈ store.replicationJobs, job.jobId ≠ id) ∧
        replayLoop now ((store.replayCandidates target limit).zip newJobIds) store =
          .ok (replayed, store')) := by
  unfold replayDeadLetterJobsForTarget at h
  dsimp only at h
  split_ifs at h with hempty hshort
  · obtain ⟨rfl, rfl⟩ := Prod.mk.inj (Except.ok.inj h)
    exact Or.inl ⟨rfl, rfl, hempty⟩
  · split at h
    · exact absurd h (by simp)
    · rename_i hcheck
      obtain ⟨hnodup, -, hfree⟩ := checkReplayJobIds_ok.mp hcheck
      exact Or.inr ⟨not_lt.mp hshort, hnodup, hfree, h⟩

/-- **Replay rule.** What every insertion of a new job with a closed dead letter preserves,
the batch loop preserves, as long as the new ids are distinct and free. -/
theorem replayLoop_preserves {P : MetadataStore → Prop} {now : Nat}
    (hstep : ∀ (store : MetadataStore) (p : DeadLetterRow → Bool) (job : ReplicationJob)
      (newJobId : Nat), (∀ row ∈ store.replicationJobs, row.jobId ≠ newJobId) → P store →
        P (store.writeReplay p job newJobId now))
    {picks : List (ReplicationJob × Nat)} {store store' : MetadataStore}
    {replayed : List (Nat × ReplicationJob)}
    (hnodup : (picks.map (·.2)).Nodup)
    (hfree : ∀ id ∈ picks.map (·.2), ∀ job ∈ store.replicationJobs, job.jobId ≠ id)
    (hP : P store) (h : replayLoop now picks store = .ok (replayed, store')) : P store' := by
  induction picks generalizing store replayed with
  | nil =>
    obtain ⟨-, rfl⟩ := Prod.mk.inj (Except.ok.inj h)
    exact hP
  | cons pick picks ih =>
    obtain ⟨originalJob, newJobId⟩ := pick
    obtain ⟨tail, -, hloop⟩ := replayLoop_cons_ok h
    rw [List.map_cons, List.nodup_cons] at hnodup
    have hhead : ∀ row ∈ store.replicationJobs, row.jobId ≠ newJobId :=
      hfree newJobId List.mem_cons_self
    apply ih hnodup.2 _ (hstep store _ originalJob newJobId hhead hP) hloop
    intro id hid job hjob
    -- the inserted row has the id that was just used up
    rcases mem_writeReplay.mp hjob with rfl | ⟨hold, -⟩
    · intro heq
      have heq' : newJobId = id := heq
      exact hnodup.1 (heq' ▸ hid)
    · exact hfree id (List.mem_cons_of_mem _ hid) job hold

/-- The same for the two operations as they are called. -/
theorem replayDeadLetterJob_preserves {P : MetadataStore → Prop} {now : Nat}
    (hstep : ∀ (store : MetadataStore) (p : DeadLetterRow → Bool) (job : ReplicationJob)
      (newJobId : Nat), (∀ row ∈ store.replicationJobs, row.jobId ≠ newJobId) → P store →
        P (store.writeReplay p job newJobId now))
    {store store' : MetadataStore} {originalJobId newJobId : Nat} {job : ReplicationJob}
    (hP : P store) (h : store.replayDeadLetterJob originalJobId newJobId now = .ok (job, store')) :
    P store' := by
  obtain ⟨originalJob, -, -, -, hfree, -, rfl⟩ := replayDeadLetterJob_ok h
  exact hstep store _ originalJob newJobId hfree hP

theorem replayDeadLetterJobsForTarget_preserves {P : MetadataStore → Prop} {now : Nat}
    (hstep : ∀ (store : MetadataStore) (p : DeadLetterRow → Bool) (job : ReplicationJob)
      (newJobId : Nat), (∀ row ∈ store.replicationJobs, row.jobId ≠ newJobId) → P store →
        P (store.writeReplay p job newJobId now))
    {store store' : MetadataStore} {target : String} {newJobIds : List Nat} {limit : Nat}
    {replayed : List (Nat × ReplicationJob)} (hP : P store)
    (h : store.replayDeadLetterJobsForTarget target newJobIds now limit =
      .ok (replayed, store')) : P store' := by
  rcases replayDeadLetterJobsForTarget_ok h with ⟨-, rfl, -⟩ | ⟨hlength, hnodup, hfree, hloop⟩
  · exact hP
  · have hids : ((store.replayCandidates target limit).zip newJobIds).map (·.2) =
        newJobIds.take (store.replayCandidates target limit).length := by
      change ((store.replayCandidates target limit).zip newJobIds).map Prod.snd = _
      rw [List.zip_eq_zip_take_min, List.map_snd_zip (by simp), min_eq_left hlength]
    exact replayLoop_preserves hstep (by rw [hids]; exact hnodup) (by rw [hids]; exact hfree)
      hP hloop

end MetadataStore

end Netdisk2Blob.Metadata
