import Netdisk2Blob.Metadata.DeadLetterCoherence

/-!
# Replay and the Latest Job of an Object

A replay puts the operation of a dead-lettered job back at the end of its object's
history: the new job has the largest id, so from then on it is the latest. Neither replay
operation checks that the dead-lettered job was still the latest one, as the manual retry
does, and the batch walks the dead letters from the newest down while it hands out ids
going up.

## Main results

- `replay_rows`: a replay appends the new jobs to the table, in the order of the walk
- `keepsOrder_iff`, `keepsLatest_iff`: what that means for one object
- `replay_keeps_iff`: when a replay keeps the latest operation of every object
-/

namespace Netdisk2Blob.Metadata

open Library Replication

/-! ## Section 1: Both replay operations -/

inductive ReplayCall where
  | job (originalJobId newJobId enqueuedAtUnixMs : Nat)
  | jobsForTarget (target : String) (newJobIds : List Nat) (enqueuedAtUnixMs limit : Nat)

namespace ReplayCall

def newJobIds : ReplayCall → List Nat
  | .job _ newJobId _ => [newJobId]
  | .jobsForTarget _ newJobIds _ _ => newJobIds

def enqueuedAtUnixMs : ReplayCall → Nat
  | .job _ _ enqueuedAtUnixMs => enqueuedAtUnixMs
  | .jobsForTarget _ _ enqueuedAtUnixMs _ => enqueuedAtUnixMs

end ReplayCall

namespace MetadataStore

/-- Either operation, with the original ids and the new jobs. -/
def replay (store : MetadataStore) :
    ReplayCall → Except MetadataError (List (Nat × ReplicationJob) × MetadataStore)
  | .job originalJobId newJobId enqueuedAtUnixMs =>
    match store.replayDeadLetterJob originalJobId newJobId enqueuedAtUnixMs with
    | .ok (job, store') => .ok ([(originalJobId, job)], store')
    | .error error => .error error
  | .jobsForTarget target newJobIds enqueuedAtUnixMs limit =>
    store.replayDeadLetterJobsForTarget target newJobIds enqueuedAtUnixMs limit

/-- Ids as the queue hands them out: increasing, and above every id in the store. -/
def FreshIds (store : MetadataStore) (newJobIds : List Nat) : Prop :=
  newJobIds.Pairwise (· < ·) ∧
    ∀ id ∈ newJobIds, ∀ job ∈ store.replicationJobs, job.jobId < id

/-- The jobs a call puts back, in the order in which the dead letters are listed. -/
def lettersOf (store : MetadataStore) : ReplayCall → List ReplicationJob
  | .job originalJobId _ _ => (store.replicationJobs.find? originalJobId).toList
  | .jobsForTarget target newJobIds _ limit =>
    if limit = 0 ∨ newJobIds = [] then []
    else (store.listDeadLetterJobs (some target) false limit).map (·.originalJob)

/-! ## Section 2: What has to be kept -/

/-- The latest job of every object has the same operation and object reference. -/
def KeepsLatest (before after : MetadataStore) : Prop :=
  ∀ target bucket key,
    (after.latestJobForObject target bucket key).map (fun job => (job.operation, job.object)) =
      (before.latestJobForObject target bucket key).map (fun job => (job.operation, job.object))

/-- Jobs of one object are replayed in the order of their original ids. -/
def KeepsOrder (replayed : List (Nat × ReplicationJob)) : Prop :=
  ∀ a ∈ replayed, ∀ b ∈ replayed, a.2.triple = b.2.triple → a.1 < b.1 → a.2.jobId < b.2.jobId

/-- Of the dead letters a call takes, those of one object are listed from the oldest job
up, and the newest of them still says what the latest job of the object says. -/
def LettersInForce (store : MetadataStore) (call : ReplayCall) : Prop :=
  (store.lettersOf call).Pairwise (fun a b => a.triple = b.triple → a.jobId < b.jobId) ∧
    ∀ a ∈ store.lettersOf call,
      (∀ b ∈ store.lettersOf call, b.triple = a.triple → b.jobId ≤ a.jobId) →
        (store.latestJobForObject a.target a.object.bucket a.object.key).map
          (fun job => (job.operation, job.object)) = some (a.operation, a.object)

/-! ## Section 3: The rows after a replay -/

/-- The loop appends the new jobs. -/
theorem replayLoop_rows {now : Nat} {picks : List (ReplicationJob × Nat)}
    {store store' : MetadataStore} {replayed : List (Nat × ReplicationJob)}
    (hfresh : store.FreshIds (picks.map (·.2)))
    (h : replayLoop now picks store = .ok (replayed, store')) :
    replayed = picks.map (fun pick => (pick.1.jobId, replayedJob pick.1 pick.2 now)) ∧
      store'.replicationJobs.rows =
        store.replicationJobs.rows ++
          picks.map (fun pick => replayedJob pick.1 pick.2 now) := by
  induction picks generalizing store replayed with
  | nil =>
    obtain ⟨rfl, rfl⟩ := Prod.mk.inj (Except.ok.inj h)
    simp
  | cons pick picks ih =>
    obtain ⟨originalJob, newJobId⟩ := pick
    obtain ⟨tail, rfl, hloop⟩ := replayLoop_cons_ok h
    obtain ⟨hsorted, habove⟩ := hfresh
    rw [List.map_cons, List.pairwise_cons] at hsorted
    have hhead : ∀ row ∈ store.replicationJobs, row.jobId < newJobId :=
      habove newJobId List.mem_cons_self
    -- the later ids are above the stored rows and above the row just inserted
    have hrest : (store.writeReplay
        (fun row => decide (row.originalJobId = originalJob.jobId ∧ row.status = .open))
        originalJob newJobId now).FreshIds (picks.map (·.2)) := by
      refine ⟨hsorted.2, ?_⟩
      intro id hid job hjob
      rcases mem_writeReplay.mp hjob with rfl | ⟨hold, -⟩
      · exact hsorted.1 id hid
      · exact habove id (List.mem_cons_of_mem _ hid) job hold
    have hinsert : (store.replicationJobs.upsert
        (replayedJob originalJob newJobId now)).rows =
          store.replicationJobs.rows ++ [replayedJob originalJob newJobId now] :=
      Table.upsert_rows_of_forall_lt hhead
    obtain ⟨htail, hrows⟩ := ih hrest hloop
    refine ⟨by rw [htail]; rfl, ?_⟩
    rw [hrows]
    change (store.replicationJobs.upsert (replayedJob originalJob newJobId now)).rows ++ _ = _
    rw [hinsert, List.append_assoc]
    rfl

/-- The walk of the batch is the listing. -/
theorem replayCandidates_eq {store : MetadataStore} {target : String} {limit : Nat}
    (hlimit : limit ≠ 0) :
    store.replayCandidates target limit =
      (store.listDeadLetterJobs (some target) false limit).map (·.originalJob) := by
  unfold replayCandidates listDeadLetterJobs
  have hmax : max limit 1 = limit := by omega
  rw [hmax, List.map_map]
  rfl

/-- **Rows after a replay.** The new jobs are appended, one for each job taken. -/
theorem replay_rows {store store' : MetadataStore} {call : ReplayCall}
    {replayed : List (Nat × ReplicationJob)} (hfresh : store.FreshIds call.newJobIds)
    (h : store.replay call = .ok (replayed, store')) :
    ∃ picks : List (ReplicationJob × Nat), picks.map (·.1) = store.lettersOf call ∧
      (picks.map (·.2)).Pairwise (· < ·) ∧
      replayed =
        picks.map (fun pick => (pick.1.jobId, replayedJob pick.1 pick.2 call.enqueuedAtUnixMs)) ∧
      store'.replicationJobs.rows =
        store.replicationJobs.rows ++
          picks.map (fun pick => replayedJob pick.1 pick.2 call.enqueuedAtUnixMs) := by
  cases call with
  | job originalJobId newJobId now =>
    simp only [replay] at h
    split at h
    · rename_i job store'' hok
      obtain ⟨rfl, rfl⟩ := Prod.mk.inj (Except.ok.inj h)
      obtain ⟨originalJob, hmem, hid, -, hfree, rfl, rfl⟩ := replayDeadLetterJob_ok hok
      have hfind : store.replicationJobs.find? originalJobId = some originalJob :=
        Table.find?_eq_some.mpr ⟨hmem, hid⟩
      refine ⟨[(originalJob, newJobId)], by simp [lettersOf, hfind], by simp,
        by rw [← hid]; rfl, ?_⟩
      exact Table.upsert_rows_of_forall_lt (hfresh.2 newJobId (List.mem_singleton_self _))
    · exact absurd h (by simp)
  | jobsForTarget target newJobIds now limit =>
    rcases replayDeadLetterJobsForTarget_ok h with ⟨rfl, rfl, hnone⟩ | ⟨hlength, -, -, hloop⟩
    · exact ⟨[], by simp [lettersOf, hnone], by simp, by simp, by simp⟩
    · by_cases hnone : limit = 0 ∨ newJobIds = []
      · -- the call returned before the loop
        simp only [replay, replayDeadLetterJobsForTarget, if_pos hnone] at h
        obtain ⟨rfl, rfl⟩ := Prod.mk.inj (Except.ok.inj h)
        exact ⟨[], by simp [lettersOf, hnone], by simp, by simp, by simp⟩
      · obtain ⟨hlimit, -⟩ := not_or.mp hnone
        have hfst : ((store.replayCandidates target limit).zip newJobIds).map Prod.fst =
            store.replayCandidates target limit := List.map_fst_zip hlength
        have hsnd : (((store.replayCandidates target limit).zip newJobIds).map
            Prod.snd).Sublist newJobIds := by
          rw [List.zip_eq_zip_take_min, List.map_snd_zip (by simp)]
          exact List.take_sublist _ _
        have hfresh' : store.FreshIds
            (((store.replayCandidates target limit).zip newJobIds).map (·.2)) :=
          ⟨hfresh.1.sublist hsnd, fun id hid => hfresh.2 id (hsnd.subset hid)⟩
        obtain ⟨hreplayed, hrows⟩ := replayLoop_rows hfresh' hloop
        refine ⟨_, ?_, hfresh'.1, hreplayed, hrows⟩
        rw [lettersOf, if_neg hnone, ← replayCandidates_eq hlimit]
        exact hfst

/-! ## Section 4: Distinct letters -/

/-- A job is listed once. -/
theorem nodup_joinedDeadLetters (store : MetadataStore) (p : DeadLetterRow → Bool) :
    ((store.joinedDeadLetters p).map (·.2.jobId)).Nodup := by
  have hrows : (store.replicationDeadLetters.rows.filter p).Pairwise
      (fun a b => a.originalJobId ≠ b.originalJobId) :=
    (store.replicationDeadLetters.sorted.filter p).imp (fun h => ne_of_lt h)
  have hsorted : ((store.replicationDeadLetters.rows.filter p).insertionSort
      NewestFirst).Pairwise (fun a b => a.originalJobId ≠ b.originalJobId) := by
    apply List.Pairwise.perm hrows
    · exact (List.perm_insertionSort _ _).symm
    · exact fun h => Ne.symm h
  unfold joinedDeadLetters
  apply List.pairwise_map.mpr
  apply List.pairwise_filterMap.mpr
  refine hsorted.imp ?_
  intro a b hab pa hpa pb hpb
  obtain ⟨ja, hja, rfl⟩ := Option.map_eq_some_iff.mp hpa
  obtain ⟨jb, hjb, rfl⟩ := Option.map_eq_some_iff.mp hpb
  have ha : ja.jobId = a.originalJobId := (Table.find?_eq_some.mp hja).2
  have hb : jb.jobId = b.originalJobId := (Table.find?_eq_some.mp hjb).2
  intro heq
  exact hab (ha.symm.trans (heq.trans hb))

theorem nodup_lettersOf (store : MetadataStore) (call : ReplayCall) :
    ((store.lettersOf call).map (·.jobId)).Nodup := by
  cases call with
  | job originalJobId newJobId now =>
    simp only [lettersOf]
    cases store.replicationJobs.find? originalJobId <;> simp
  | jobsForTarget target newJobIds now limit =>
    simp only [lettersOf]
    split_ifs
    · simp
    · have hnodup := nodup_joinedDeadLetters store (deadLetterFilter (some target) false)
      unfold listDeadLetterJobs
      rw [List.map_map, List.map_map]
      exact hnodup.sublist ((List.take_sublist _ _).map _)

/-! ## Section 5: When the latest operation is kept -/

section Picks

variable {store store' : MetadataStore} {picks : List (ReplicationJob × Nat)} {now : Nat}

/-- Letters of one object are taken from the oldest job up. -/
def OldestFirst (picks : List (ReplicationJob × Nat)) : Prop :=
  picks.Pairwise (fun a b => a.1.triple = b.1.triple → a.1.jobId < b.1.jobId)

/-- Increasing ids keep the order of one object exactly when its letters are taken from
the oldest job up. -/
theorem keepsOrder_iff (hnodup : (picks.map (·.1.jobId)).Nodup)
    (hids : (picks.map (·.2)).Pairwise (· < ·)) :
    KeepsOrder (picks.map (fun pick => (pick.1.jobId, replayedJob pick.1 pick.2 now))) ↔
      OldestFirst picks := by
  have hwalk : picks.Pairwise (fun a b => a.2 < b.2 ∧ a.1.jobId ≠ b.1.jobId) :=
    (List.pairwise_map.mp hids).and (List.pairwise_map.mp hnodup)
  constructor
  · intro horder
    refine List.Pairwise.imp_of_mem ?_ hwalk
    intro a b ha hb hab htriple
    -- were the later pick the older job, the order would be turned around
    by_contra hle
    have hlt : b.1.jobId < a.1.jobId := by omega
    have hswap : b.2 < a.2 :=
      horder _ (List.mem_map_of_mem hb) _ (List.mem_map_of_mem ha) htriple.symm hlt
    omega
  · intro hfirst
    have hboth : picks.Pairwise (fun a b => (a.2 < b.2 ∧
        (a.1.triple = b.1.triple → a.1.jobId < b.1.jobId)) ∨ (b.2 < a.2 ∧
        (b.1.triple = a.1.triple → b.1.jobId < a.1.jobId))) :=
      (hwalk.and hfirst).imp (fun h => Or.inl ⟨h.1.1, h.2⟩)
    have hsymm : Std.Symm (fun a b : ReplicationJob × Nat => (a.2 < b.2 ∧
        (a.1.triple = b.1.triple → a.1.jobId < b.1.jobId)) ∨ (b.2 < a.2 ∧
        (b.1.triple = a.1.triple → b.1.jobId < a.1.jobId))) := ⟨fun _ _ h => h.symm⟩
    intro x hx y hy htriple hlt
    obtain ⟨a, ha, rfl⟩ := List.mem_map.mp hx
    obtain ⟨b, hb, rfl⟩ := List.mem_map.mp hy
    have hlt' : a.1.jobId < b.1.jobId := hlt
    have htriple' : a.1.triple = b.1.triple := htriple
    have hne : a ≠ b := by
      rintro rfl
      exact absurd hlt' (lt_irrefl _)
    rcases hboth.forall ha hb hne with ⟨h, -⟩ | ⟨-, h⟩
    · exact h
    · exact absurd (h htriple'.symm) (by omega)

/-- The latest job after rows were appended. -/
theorem latestJobForObject_append
    (hrows : store'.replicationJobs.rows = store.replicationJobs.rows ++
      picks.map (fun pick => replayedJob pick.1 pick.2 now)) (target bucket key : String) :
    store'.latestJobForObject target bucket key =
      ((picks.filter (fun pick => decide (pick.1.triple = (target, bucket, key)))).getLast?.map
        (fun pick => replayedJob pick.1 pick.2 now)).or
          (store.latestJobForObject target bucket key) := by
  unfold latestJobForObject Table.latest
  rw [hrows, List.filter_append, List.getLast?_append, List.filter_map, List.getLast?_map]
  rfl

/-- What replays in order do to the latest jobs: they set the operation of an object to
that of the newest job taken for it. -/
theorem keepsLatest_iff (hfirst : OldestFirst picks)
    (hrows : store'.replicationJobs.rows = store.replicationJobs.rows ++
      picks.map (fun pick => replayedJob pick.1 pick.2 now)) :
    KeepsLatest store store' ↔
      ∀ a ∈ picks.map (·.1),
        (∀ b ∈ picks.map (·.1), b.triple = a.triple → b.jobId ≤ a.jobId) →
          (store.latestJobForObject a.target a.object.bucket a.object.key).map
            (fun job => (job.operation, job.object)) = some (a.operation, a.object) := by
  -- the picks of one object are sorted by job id
  have hsorted : ∀ c : String × String × String,
      (picks.filter (fun pick => decide (pick.1.triple = c))).Pairwise
        (fun a b => a.1.jobId < b.1.jobId) := by
    intro c
    refine List.Pairwise.imp_of_mem ?_ (List.Pairwise.filter _ hfirst)
    intro a b ha hb hab
    have hta : a.1.triple = c := by simpa using (List.mem_filter.mp ha).2
    have htb : b.1.triple = c := by simpa using (List.mem_filter.mp hb).2
    exact hab (hta.trans htb.symm)
  have hlast : ∀ (c : String × String × String) (pick : ReplicationJob × Nat),
      (picks.filter (fun pick => decide (pick.1.triple = c))).getLast? = some pick ↔
        (pick ∈ picks ∧ pick.1.triple = c) ∧
          ∀ b ∈ picks, b.1.triple = c → b.1.jobId ≤ pick.1.jobId := by
    intro c pick
    have := @Table.getLast?_eq_some_iff _ _ _ (fun pick : ReplicationJob × Nat => pick.1.jobId)
      _ (hsorted c) pick
    rw [this]
    simp only [List.mem_filter, decide_eq_true_eq, and_imp]
  constructor
  · intro hkeep a ha hmax
    obtain ⟨pick, hpick, rfl⟩ := List.mem_map.mp ha
    have hsome := (hlast pick.1.triple pick).mpr ⟨⟨hpick, rfl⟩,
      fun b hb htriple => hmax b.1 (List.mem_map_of_mem hb) htriple⟩
    have hat := hkeep pick.1.target pick.1.object.bucket pick.1.object.key
    rw [latestJobForObject_append hrows] at hat
    change ((Option.map _ (picks.filter
      (fun p => decide (p.1.triple = pick.1.triple))).getLast?).or _).map _ = _ at hat
    rw [hsome] at hat
    exact hat.symm
  · intro hall target bucket key
    rw [latestJobForObject_append hrows]
    cases hpick : (picks.filter
        (fun pick => decide (pick.1.triple = (target, bucket, key)))).getLast? with
    | none => rfl
    | some pick =>
      obtain ⟨⟨hmem, htriple⟩, hmax⟩ := (hlast (target, bucket, key) pick).mp hpick
      have hkept := hall pick.1 (List.mem_map_of_mem hmem) (by
        intro b hb hb'
        obtain ⟨b', hb'mem, rfl⟩ := List.mem_map.mp hb
        exact hmax b' hb'mem (hb'.trans htriple))
      obtain ⟨rfl, rfl, rfl⟩ : pick.1.target = target ∧ pick.1.object.bucket = bucket ∧
          pick.1.object.key = key := by simpa [ReplicationJob.triple] using htriple
      exact hkept.symm

end Picks

/-- **Replay and superseded operations.** A successful replay with fresh ids keeps the
latest operation of every object, and the order of the letters of one object, exactly when
the letters it takes are in force. -/
theorem replay_keeps_iff {store store' : MetadataStore} {call : ReplayCall}
    {replayed : List (Nat × ReplicationJob)} (hfresh : store.FreshIds call.newJobIds)
    (hok : store.replay call = .ok (replayed, store')) :
    (KeepsLatest store store' ∧ KeepsOrder replayed) ↔ store.LettersInForce call := by
  obtain ⟨picks, hletters, hids, rfl, hrows⟩ := replay_rows hfresh hok
  have hnodup : (picks.map (·.1.jobId)).Nodup := by
    have := nodup_lettersOf store call
    rw [← hletters, List.map_map] at this
    exact this
  have hfirst : OldestFirst picks ↔ (store.lettersOf call).Pairwise
      (fun a b => a.triple = b.triple → a.jobId < b.jobId) := by
    rw [← hletters, List.pairwise_map]
    rfl
  unfold LettersInForce
  rw [keepsOrder_iff hnodup hids, ← hfirst, ← hletters]
  constructor
  · rintro ⟨hkeep, horder⟩
    exact ⟨horder, (keepsLatest_iff horder hrows).mp hkeep⟩
  · rintro ⟨horder, hall⟩
    exact ⟨(keepsLatest_iff horder hrows).mpr hall, horder⟩

/-- A put that was dead-lettered, and a later delete of the same object that completed. -/
def supersededLetter : List StoreAction :=
  [.enqueueJobs [sampleJob 1 .put], .markJobDeadLetter 1 1 (some "boom") "boom" 20,
    .enqueueJobs [sampleJob 2 .delete], .markJobStatus 2 .completed 1 none]

/-- A put and a later delete of the same object, both dead-lettered in this order. -/
def lettersOfOneObject : List StoreAction :=
  [.enqueueJobs [sampleJob 1 .put], .markJobDeadLetter 1 1 (some "boom") "boom" 20,
    .enqueueJobs [sampleJob 2 .delete], .markJobDeadLetter 2 1 (some "boom") "boom" 30]

/-- The single replay brings the put back after the delete; the batch replays the put of
one object after its delete. -/
theorem replay_revives_superseded :
    (∃ store, run step (openFresh {}) supersededLetter = some store ∧
      ∃ replayed store', store.replay (.job 1 3 40) = .ok (replayed, store') ∧
        ¬ KeepsLatest store store') ∧
    ∃ store, run step (openFresh {}) lettersOfOneObject = some store ∧
      ∃ replayed store',
        store.replay (.jobsForTarget "onedrive" [3, 4] 40 10) = .ok (replayed, store') ∧
        ¬ KeepsLatest store store' ∧ ¬ KeepsOrder replayed := by
  refine ⟨⟨_, rfl, _, _, rfl, ?_⟩, ⟨_, rfl, _, _, rfl, ?_, ?_⟩⟩
  · intro hkeep
    exact absurd (hkeep "onedrive" "bucket-a" "hello.txt") (by decide)
  · intro hkeep
    exact absurd (hkeep "onedrive" "bucket-a" "hello.txt") (by decide)
  · intro horder
    exact absurd (horder _ (List.mem_cons_of_mem _ List.mem_cons_self) _ List.mem_cons_self
      rfl (by decide)) (by decide)

/-- Replaying the dead letter of the latest job. -/
theorem replay_keeps_iff_latest_letter :
    ∃ store, run step (openFresh {}) (supersededLetter.take 2) = some store ∧
      ∃ replayed store', store.replay (.job 1 3 40) = .ok (replayed, store') ∧
        ((KeepsLatest store store' ∧ KeepsOrder replayed) ↔
          store.LettersInForce (.job 1 3 40)) := by
  refine ⟨_, rfl, _, _, rfl, ?_⟩
  refine replay_keeps_iff ⟨List.pairwise_singleton _ _, ?_⟩ rfl
  intro id hid job hjob
  obtain rfl : id = 3 := List.mem_singleton.mp hid
  obtain rfl := List.mem_singleton.mp hjob
  decide

end MetadataStore

end Netdisk2Blob.Metadata
