import Netdisk2Blob.Backup.CheckpointInvariant

/-!
# Steps of Requests

Every step of a logged request keeps the invariant, whatever a backup run does beside it.

## Contents

- `inv_arrive`, `inv_ended`, `inv_goesOn`: steps that leave the log alone
- `inv_allocate`, `inv_upload`: the LSN and the record of a request
- `inv_mark`: the record is marked; `inv_commitRequest` and `inv_markRolledBack`
-/

namespace Netdisk2Blob.Backup

open Library Blob Policy Replication Metadata Gateway Gateway.Operations

namespace CheckpointSystem

section RequestSteps

variable {s : CheckpointSystem} {i : Nat} {request : LoggedRequest}

theorem requests_setRequest {j : Nat} {new : Option LoggedRequest} {other : LoggedRequest}
    (h : (s.setRequest i new).requests j = some other) :
    (j = i ∧ new = some other) ∨ (j ≠ i ∧ s.requests j = some other) := by
  by_cases hij : j = i
  · subst hij
    exact Or.inl ⟨rfl, by simpa [setRequest] using h⟩
  · exact Or.inr ⟨hij, by simpa [setRequest, hij] using h⟩

/-- Another request is on another key. -/
theorem Inv.other_key (hinv : s.Inv) (hi : s.requests i = some request) {j : Nat} (hij : j ≠ i)
    {other : LoggedRequest} (hj : s.requests j = some other) :
    ¬ (request.input.bucket = other.input.bucket ∧ request.input.key = other.input.key) :=
  fun hsame => hij (hinv.serial j i other request hj hi ⟨hsame.1.symm, hsame.2.symm⟩)

/-- A request arrives. -/
theorem inv_arrive (hinv : s.Inv) {input : RequestInput}
    (hguard : ∀ j request, s.requests j = some request → ¬ SameKey request.input input) :
    (s.setRequest i (some ⟨input, s.metadataStore.objectMetadata input.bucket input.key,
      .arrived⟩)).Inv := by
  have hlog : LogUntouched s (s.setRequest i (some ⟨input,
      s.metadataStore.objectMetadata input.bucket input.key, .arrived⟩)) := by
    refine ⟨rfl, rfl, rfl, rfl, rfl, rfl, rfl, ?_⟩
    intro j other hj
    rcases requests_setRequest hj with ⟨-, hnew⟩ | ⟨-, hold⟩
    · obtain rfl := Option.some.inj hnew
      exact Or.inl rfl
    · exact Or.inr ⟨other, hold, rfl, fun _ h => h⟩
  refine ⟨hinv.counters, hinv.keys, ?_, ?_, hlog.logInv hinv.log, hlog.bundles hinv,
    hlog.backupInv (fun _ => rfl) hinv.backup⟩
  · intro j other hj
    rcases requests_setRequest hj with ⟨-, hnew⟩ | ⟨-, hold⟩
    · obtain rfl := Option.some.inj hnew
      refine ⟨rowsOnKey_objectMetadata _ _ _, rfl, ?_⟩
      -- no record of the key is open, so its rows are settled
      intro hnone
      have hsettled := (hinv.keys input.bucket input.key).settled
        fun record hopen => by cases hnone record hopen
      exact ⟨hsettled.rows, fun _ => hsettled.home⟩
    · exact hinv.requests j other hold
  · intro j k other other' hj hk hsame
    rcases requests_setRequest hj with ⟨hji, hnew⟩ | ⟨-, hold⟩
    · rcases requests_setRequest hk with ⟨hki, -⟩ | ⟨-, hold'⟩
      · rw [hji, hki]
      · obtain rfl := Option.some.inj hnew
        exact absurd ⟨hsame.1.symm, hsame.2.symm⟩ (hguard k other' hold')
    · rcases requests_setRequest hk with ⟨-, hnew⟩ | ⟨-, hold'⟩
      · obtain rfl := Option.some.inj hnew
        exact absurd hsame (hguard j other hold)
      · exact hinv.serial j k other other' hold hold' hsame

/-- Requests go away: they end, or the gateway stops. -/
theorem inv_fewer (hinv : s.Inv) {requests : Nat → Option LoggedRequest}
    (hfewer : ∀ j other, requests j = some other → s.requests j = some other) :
    ({ s with requests := requests } : CheckpointSystem).Inv := by
  have hlog : LogUntouched s { s with requests := requests } := by
    refine ⟨rfl, rfl, rfl, rfl, rfl, rfl, rfl, ?_⟩
    intro j other hj
    exact Or.inr ⟨other, hfewer j other hj, rfl, fun _ h => h⟩
  refine ⟨hinv.counters, hinv.keys, fun j other hj => hinv.requests j other (hfewer j other hj),
    ?_, hlog.logInv hinv.log, hlog.bundles hinv, hlog.backupInv (fun _ => rfl) hinv.backup⟩
  intro j k other other' hj hk hsame
  exact hinv.serial j k other other' (hfewer j other hj) (hfewer k other' hk) hsame

theorem inv_ended (hinv : s.Inv) (i : Nat) : (s.setRequest i none).Inv := by
  refine inv_fewer hinv ?_
  intro j other hj
  rcases @requests_setRequest s i j none other hj with ⟨-, hnone⟩ | ⟨-, hold⟩
  · cases hnone
  · exact hold

/-- A request with an open record goes on, with or without a step on its key. -/
theorem inv_goesOn (hinv : s.Inv) (hi : s.requests i = some request) {s' : CheckpointSystem}
    {stage : RequestStage} {record : GatewayWriteAheadLogRecord}
    (hrecord : request.stage.record? = some record)
    (hsame : LogUntouched s (s'.setRequest i (some { request with stage := stage })))
    (hothers : s'.requests = s.requests)
    (hne : ∀ bucket key, ¬ (request.input.bucket = bucket ∧ request.input.key = key) →
      s'.view bucket key = s.view bucket key)
    (hstarted : ∃ record, Started (s'.view request.input.bucket request.input.key)
      request.input request.previous record)
    (hrequest : RequestInv (s'.view request.input.bucket request.input.key)
      { request with stage := stage }) :
    (s'.setRequest i (some { request with stage := stage })).Inv := by
  have hcounters : s'.counters = s.counters := hsame.counters
  refine ⟨?_, ?_, ?_, ?_, hsame.logInv hinv.log, hsame.bundles hinv, ?_⟩
  · change CountersValid s'.counters
    rw [hcounters]
    exact hinv.counters
  · intro bucket key
    rw [view_setRequest]
    by_cases hkey : request.input.bucket = bucket ∧ request.input.key = key
    · obtain ⟨rfl, rfl⟩ := hkey
      obtain ⟨other, hstarted⟩ := hstarted
      exact inv_of_started (hinv.keys _ _) (hsame.records_eq _ _).2.2 hstarted
    · rw [hne bucket key hkey]
      exact hinv.keys bucket key
  · intro j other hj
    rw [view_setRequest]
    rcases requests_setRequest hj with ⟨-, hnew⟩ | ⟨hji, hold⟩
    · obtain rfl := Option.some.inj hnew
      exact hrequest
    · rw [hothers] at hold
      rw [hne _ _ (hinv.other_key hi hji hold)]
      exact hinv.requests j other hold
  · intro j k other other' hj hk hsame'
    have hfrom : ∀ {j : Nat} {other : LoggedRequest},
        (s'.setRequest i (some { request with stage := stage })).requests j = some other →
        ∃ old, s.requests j = some old ∧ old.input = other.input := by
      intro j other hj
      rcases requests_setRequest hj with ⟨rfl, hnew⟩ | ⟨-, hold⟩
      · obtain rfl := Option.some.inj hnew
        exact ⟨request, hi, rfl⟩
      · exact ⟨other, hothers ▸ hold, rfl⟩
    obtain ⟨old, hold, hinput⟩ := hfrom hj
    obtain ⟨old', hold', hinput'⟩ := hfrom hk
    exact hinv.serial j k old old' hold hold' (hinput ▸ hinput' ▸ hsame')
  · refine hsame.backupInv ?_ hinv.backup
    -- while an export reads, no request has a record
    intro hquiet
    rw [hquiet.requests i request hi] at hrecord
    cases hrecord

/-- The new stage has the old record, and is past the upload of it. -/
theorem logUntouched_setRequest (hi : s.requests i = some request) {s' : CheckpointSystem}
    (hs' : LogUntouched s s') (hothers : s'.requests = s.requests) {stage : RequestStage}
    (hrecord : request.stage.record? = stage.record?)
    (hallocated : ∀ record, stage ≠ .allocated record) :
    LogUntouched s (s'.setRequest i (some { request with stage := stage })) := by
  refine ⟨hs'.logRecords, hs'.prepared, hs'.committed, hs'.cleaned, hs'.archives, hs'.backup,
    hs'.counters, ?_⟩
  intro j other hj
  rcases requests_setRequest hj with ⟨rfl, hnew⟩ | ⟨-, hold⟩
  · obtain rfl := Option.some.inj hnew
    exact Or.inr ⟨request, hi, hrecord, fun record h => absurd h (hallocated record)⟩
  · exact Or.inr ⟨other, hothers ▸ hold, rfl, fun _ h => h⟩

theorem logUntouched_refl (s : CheckpointSystem) : LogUntouched s s :=
  ⟨rfl, rfl, rfl, rfl, rfl, rfl, rfl, fun _ request h => Or.inr ⟨request, h, rfl, fun _ h => h⟩⟩

theorem logUntouched_performStep (s : CheckpointSystem) (input : RequestInput)
    (step : RequestStep) :
    LogUntouched s (s.performStep input step) ∧
      (s.performStep input step).requests = s.requests := by
  cases step with
  | update change =>
    refine ⟨⟨rfl, rfl, rfl, rfl, rfl, rfl, ?_, (logUntouched_refl s).requests⟩, rfl⟩
    exact gatewayWriteAheadLogState_update change
  | putHome => exact ⟨⟨rfl, rfl, rfl, rfl, rfl, rfl, rfl, (logUntouched_refl s).requests⟩, rfl⟩
  | deleteHome =>
    exact ⟨⟨rfl, rfl, rfl, rfl, rfl, rfl, rfl, (logUntouched_refl s).requests⟩, rfl⟩

/-- A step of a request with an open record. -/
theorem inv_performStep (hinv : s.Inv) (hi : s.requests i = some request) {step : RequestStep}
    (honKey : step.OnKey request.input.bucket request.input.key) {stage : RequestStage}
    {record : GatewayWriteAheadLogRecord} (hrecord : request.stage.record? = some record)
    (hkept : stage.record? = some record) (hallocated : ∀ other, stage ≠ .allocated other)
    (hstarted : Started (s.view request.input.bucket request.input.key) request.input
      request.previous record)
    (hrequest : RequestInv
      ((s.view request.input.bucket request.input.key).after request.input.homeProvider step)
      { request with stage := stage }) :
    ((s.performStep request.input step).setRequest i
      (some { request with stage := stage })).Inv := by
  obtain ⟨hsame, hothers⟩ := logUntouched_performStep s request.input step
  have hself := @view_performStep s request.input step honKey
  refine inv_goesOn hinv hi hrecord
    (logUntouched_setRequest hi hsame hothers (hrecord.trans hkept.symm) hallocated) hothers
    (fun bucket key hne => view_performStep_ne honKey hne) ?_ ?_
  · rw [hself]
    exact ⟨record, hstarted.after_step _ step⟩
  · rw [hself]
    exact hrequest

theorem inv_proceed (hinv : s.Inv) (hi : s.requests i = some request)
    {record : GatewayWriteAheadLogRecord} {done : Nat} {step : RequestStep}
    (hstage : request.stage = .working record done)
    (hstep : request.input.steps[done]? = some step) :
    ((s.performStep request.input step).setRequest i
      (some { request with stage := .working record (done + 1) })).Inv := by
  obtain ⟨input, previous, stage⟩ := request
  subst hstage
  have hrequest := hinv.requests i _ hi
  exact inv_performStep hinv hi
    (RequestInput.onKey_steps step (List.mem_of_getElem? hstep)) rfl rfl
    (fun _ h => by cases h) hrequest.stage.1 (requestInv_proceed hrequest hstep)

theorem inv_proceedRollback (hinv : s.Inv) (hi : s.requests i = some request)
    {record : GatewayWriteAheadLogRecord} {step : RequestStep} {left : List RequestStep}
    {marks : Bool} (hstage : request.stage = .rollingBack record (step :: left) marks) :
    ((s.performStep request.input step).setRequest i
      (some { request with stage := .rollingBack record left marks })).Inv := by
  obtain ⟨input, previous, stage⟩ := request
  subst hstage
  have hrequest := hinv.requests i _ hi
  exact inv_performStep hinv hi (hrequest.stage.2.1 step List.mem_cons_self) rfl rfl
    (fun _ h => by cases h) hrequest.stage.1 (requestInv_rollingBack hrequest)

theorem inv_fail (hinv : s.Inv) (hi : s.requests i = some request)
    {record : GatewayWriteAheadLogRecord} {done : Nat} {rejected deletesHome : Bool}
    (hstage : request.stage = .working record done)
    (hkeeps : deletesHome = true → request.previous.placement.map (·.provider) ≠
      some request.input.homeProvider.asStr) :
    (s.setRequest i (some { request with
      stage := .rollingBack record
        (request.input.rollback request.previous done rejected deletesHome).1
        (request.input.rollback request.previous done rejected deletesHome).2 })).Inv := by
  obtain ⟨input, previous, stage⟩ := request
  subst hstage
  have hrequest := hinv.requests i _ hi
  exact @inv_goesOn s i _ hinv hi s _ record rfl
    (logUntouched_setRequest hi (logUntouched_refl s) rfl rfl (fun _ h => by cases h)) rfl
    (fun _ _ _ => rfl) ⟨record, hrequest.stage.1⟩ (requestInv_fail hrequest hkeeps)

/-- The request that has taken an LSN, and its record. -/
def allocatedRecord (s : CheckpointSystem) (request : LoggedRequest) (now : Nat) :
    GatewayWriteAheadLogRecord :=
  (request.input.logEntry request.previous).prepareRecord
    (s.metadataStore.allocateGatewayWriteAheadLogLsn now).1 now

def allocated (s : CheckpointSystem) (i : Nat) (request : LoggedRequest) (now : Nat) :
    CheckpointSystem :=
  { s.setRequest i (some { request with stage := .allocated (s.allocatedRecord request now) }) with
    metadataStore := (s.metadataStore.allocateGatewayWriteAheadLogLsn now).2 }

/-- What is open after an allocation was open before, or is the new record. -/
theorem open_allocated {now : Nat} {record : GatewayWriteAheadLogRecord}
    (h : (s.allocated i request now).Open record) :
    s.Open record ∨ record = s.allocatedRecord request now := by
  rcases h with hmem | ⟨j, other, hj, hrecord⟩
  · exact Or.inl (Or.inl hmem)
  · rcases requests_setRequest hj with ⟨-, hnew⟩ | ⟨-, hold⟩
    · obtain rfl := Option.some.inj hnew
      exact Or.inr (Option.some.inj hrecord).symm
    · exact Or.inl (Or.inr ⟨j, other, hold, hrecord⟩)

/-- A request takes its LSN. -/
theorem inv_allocate (hinv : s.Inv) (hi : s.requests i = some request)
    (hstage : request.stage = .arrived) {now : Nat} (hmax : s.counters.nextLsn < u64Max)
    (hnot : ∀ phase, s.backup ≠ .reading phase) : (s.allocated i request now).Inv := by
  obtain ⟨hlsn, hnext, hvalid⟩ :=
    @countersValid_allocate s.metadataStore now hinv.counters hmax
  have hnew : (s.allocatedRecord request now).lsn = s.counters.nextLsn :=
    (@prepareRecord_eq request.input request.previous _ now).2.2.2.2.2.1.trans hlsn
  have hnext' : (s.allocated i request now).counters.nextLsn = s.counters.nextLsn + 1 := hnext
  have hfloor : replayFloor (s.allocated i request now).counters = replayFloor s.counters := rfl
  have hview : ∀ bucket key, (s.allocated i request now).view bucket key = s.view bucket key :=
    fun _ _ => rfl
  have hrequests : ∀ j other, (s.allocated i request now).requests j = some other →
      (j = i ∧ other = { request with stage := .allocated (s.allocatedRecord request now) }) ∨
      (j ≠ i ∧ s.requests j = some other) := by
    intro j other hj
    rcases requests_setRequest hj with ⟨hji, hsome⟩ | hold
    · exact Or.inl ⟨hji, (Option.some.inj hsome).symm⟩
    · exact Or.inr hold
  have harrived := hinv.requests i request hi
  refine ⟨hvalid, hinv.keys, ?_, ?_, ?_, ?_, ?_⟩
  · intro j other hj
    rw [hview]
    rcases hrequests j other hj with ⟨-, rfl⟩ | ⟨-, hold⟩
    · -- everything that the log has is older
      have hrows := harrived.stage
      rw [hstage] at hrows
      refine ⟨harrived.previous_onKey, ⟨hrows, ⟨_, now, rfl⟩, ?_, ?_⟩, ?_⟩
      · intro old hold _
        rw [hnew]
        exact (hinv.log.records old (mem_records.mp hold).1).2.2
      · intro operation hoperation
        rw [hnew]
        exact hinv.log.committed_lt operation (mem_committed.mp hoperation).1
      · intro hnone
        refine harrived.found ?_
        intro record hopen
        -- no open record is the new one, which is not on the remote yet
        have hsame := Option.some.inj (hnone record hopen)
        have hlt := hinv.log.open_lt record (Or.inl (mem_prepared.mp hopen.1).1)
        rw [← hsame, hnew] at hlt
        exact absurd hlt (lt_irrefl _)
    · exact hinv.requests j other hold
  · intro j k other other' hj hk hsame
    rcases hrequests j other hj with ⟨rfl, rfl⟩ | ⟨hji, hold⟩
    · rcases hrequests k other' hk with ⟨rfl, rfl⟩ | ⟨-, hold'⟩
      · rfl
      · exact hinv.serial j k request other' hi hold' hsame
    · rcases hrequests k other' hk with ⟨rfl, rfl⟩ | ⟨-, hold'⟩
      · exact hinv.serial j k other request hold hi hsame
      · exact hinv.serial j k other other' hold hold' hsame
  · refine ⟨?_, hinv.log.unique, hinv.log.prepared, ?_, ?_, ?_, ?_, ?_⟩
    · intro record hrecord
      obtain ⟨hkeyed, hversion, hlt⟩ := hinv.log.records record hrecord
      exact ⟨hkeyed, hversion, hlt.trans (hnext' ▸ Nat.lt_succ_self _)⟩
    · intro operation hoperation
      exact (hinv.log.committed_lt operation hoperation).trans (hnext' ▸ Nat.lt_succ_self _)
    · intro record hopen
      rw [hnext']
      rcases open_allocated hopen with hold | rfl
      · exact (hinv.log.open_lt record hold).trans (Nat.lt_succ_self _)
      · rw [hnew]
        exact Nat.lt_succ_self _
    · intro record hopen
      rw [hfloor]
      rcases open_allocated hopen with hold | rfl
      · exact hinv.log.above_floor record hold
      · rw [hnew]
        exact hinv.counters.floor_lt
    · intro j other record hj hallocated old hold
      rcases hrequests j other hj with ⟨-, rfl⟩ | ⟨-, hj'⟩
      · obtain rfl := RequestStage.allocated.inj hallocated
        rw [hnew]
        exact (hinv.log.records old hold).2.2.ne
      · exact hinv.log.fresh j other record hj' hallocated old hold
    · have holder : ∀ {j : Nat} {other : LoggedRequest} {record : GatewayWriteAheadLogRecord},
          s.requests j = some other → other.stage = .allocated record →
          record.lsn < s.counters.nextLsn := by
        intro j other record hj hallocated
        exact hinv.log.open_lt record (Or.inr ⟨j, other, hj, by rw [hallocated]; rfl⟩)
      intro j k other other' record record' hj hk hallocated hallocated' hsame
      rcases hrequests j other hj with ⟨rfl, rfl⟩ | ⟨-, hj'⟩
      · obtain rfl := RequestStage.allocated.inj hallocated
        rcases hrequests k other' hk with ⟨rfl, -⟩ | ⟨-, hk'⟩
        · rfl
        · have := holder hk' hallocated'
          omega
      · rcases hrequests k other' hk with ⟨rfl, rfl⟩ | ⟨-, hk'⟩
        · obtain rfl := RequestStage.allocated.inj hallocated'
          have := holder hj' hallocated
          omega
        · exact hinv.log.apart j k other other' record record' hj' hk' hallocated hallocated'
            hsame
  · intro bundle huse
    have hbundle := hinv.bundles bundle huse
    refine ⟨hbundle.origin, hbundle.valid, ?_, hbundle.covered, hbundle.held, ?_⟩
    · rw [hnext']
      exact hbundle.next_le.trans (Nat.le_succ _)
    · intro record hopen
      rcases open_allocated hopen with hold | rfl
      · exact hbundle.open_above record hold
      · rw [hnew]
        exact hbundle.next_le
  · have hbackup := hinv.backup
    exact ⟨fun phase hphase => absurd hphase (hnot phase), hbackup.built, hbackup.stored,
      hbackup.checkpoint, hbackup.cleaning, hbackup.cleaned, hbackup.names⟩

/-- The record of a request is on the remote. -/
def uploaded (s : CheckpointSystem) (i : Nat) (request : LoggedRequest)
    (record : GatewayWriteAheadLogRecord) : CheckpointSystem :=
  { s.setRequest i (some { request with stage := .working record 0 }) with
    logRecords := putLogRecord s.logRecords record
    prepared := s.prepared ++ [record] }

/-- A record with a new LSN replaces none. -/
theorem putLogRecord_of_fresh {records : List GatewayWriteAheadLogRecord}
    {record : GatewayWriteAheadLogRecord} (hfresh : ∀ other ∈ records, other.lsn ≠ record.lsn) :
    putLogRecord records record = records ++ [record] := by
  unfold putLogRecord
  rw [List.filter_eq_self.mpr]
  intro other hother
  exact decide_eq_true fun hname => hfresh other hother (congrArg Prod.fst hname)

theorem requests_uploaded {record : GatewayWriteAheadLogRecord} {j : Nat} {other : LoggedRequest}
    (h : (s.uploaded i request record).requests j = some other) :
    (j = i ∧ other = { request with stage := .working record 0 }) ∨
      (j ≠ i ∧ s.requests j = some other) := by
  rcases requests_setRequest h with ⟨hji, hnew⟩ | hold
  · exact Or.inl ⟨hji, (Option.some.inj hnew).symm⟩
  · exact Or.inr hold

theorem open_uploaded {record other : GatewayWriteAheadLogRecord}
    (hi : s.requests i = some request) (hstage : request.stage = .allocated record)
    (h : (s.uploaded i request record).Open other) : s.Open other := by
  have hmine : s.Open record := Or.inr ⟨i, request, hi, by rw [hstage]; rfl⟩
  rcases h with hmem | ⟨j, request', hj, hrecord⟩
  · rcases List.mem_append.mp hmem with hold | hnew
    · exact Or.inl hold
    · rw [List.mem_singleton.mp hnew]
      exact hmine
  · rcases requests_uploaded hj with ⟨-, rfl⟩ | ⟨-, hold⟩
    · rw [← Option.some.inj hrecord]
      exact hmine
    · exact Or.inr ⟨j, request', hold, hrecord⟩

theorem logInv_uploaded (hinv : s.Inv) (hi : s.requests i = some request)
    {record : GatewayWriteAheadLogRecord} (hstage : request.stage = .allocated record) :
    (s.uploaded i request record).LogInv := by
  have hfresh := hinv.log.fresh i request record hi hstage
  have hlog : (s.uploaded i request record).logRecords = s.logRecords ++ [record] :=
    putLogRecord_of_fresh hfresh
  have hrequest := hinv.requests i request hi
  have hclaimed := hrequest.stage
  rw [hstage] at hclaimed
  obtain ⟨lsn, now, hrecord⟩ := hclaimed.2.eq_prepared
  obtain ⟨-, -, -, -, -, -, hphase, hversion⟩ :=
    @prepareRecord_eq request.input request.previous lsn now
  have hopen : s.Open record := Or.inr ⟨i, request, hi, by rw [hstage]; rfl⟩
  refine ⟨?_, ?_, ?_, hinv.log.committed_lt, ?_, ?_, ?_, ?_⟩
  · rw [hlog]
    intro other hother
    rcases List.mem_append.mp hother with hold | hnew
    · exact hinv.log.records other hold
    · rw [List.mem_singleton.mp hnew]
      refine ⟨?_, ?_, hinv.log.open_lt record hopen⟩
      · rw [hrecord]
        exact keyed_prepareRecord hrequest.previous_onKey
      · rw [hrecord]
        exact hversion
  · rw [hlog, List.map_append, List.nodup_append]
    refine ⟨hinv.log.unique, List.nodup_singleton _, ?_⟩
    intro lsn hlsn other hother
    obtain ⟨old, hold, rfl⟩ := List.mem_map.mp hlsn
    obtain rfl := List.mem_singleton.mp hother
    exact hfresh old hold
  · rw [hlog]
    intro other hother
    rcases List.mem_append.mp hother with hold | hnew
    · obtain ⟨hmem, hprepare⟩ := hinv.log.prepared other hold
      exact ⟨List.mem_append_left _ hmem, hprepare⟩
    · obtain rfl := List.mem_singleton.mp hnew
      refine ⟨List.mem_append_right _ (List.mem_singleton_self _), ?_⟩
      rw [hrecord]
      exact hphase
  · exact fun other hother => hinv.log.open_lt other (open_uploaded hi hstage hother)
  · exact fun other hother => hinv.log.above_floor other (open_uploaded hi hstage hother)
  · rw [hlog]
    intro j request' record' hj hallocated other hother
    rcases requests_uploaded hj with ⟨-, rfl⟩ | ⟨hji, hold⟩
    · cases hallocated
    · rcases List.mem_append.mp hother with hmem | hnew
      · exact hinv.log.fresh j request' record' hold hallocated other hmem
      · rw [List.mem_singleton.mp hnew]
        exact fun hsame => hji
          (hinv.log.apart i j request request' record record' hi hold hstage hallocated hsame).symm
  · intro j k request' request'' record' record'' hj hk hallocated hallocated' hsame
    rcases requests_uploaded hj with ⟨-, rfl⟩ | ⟨-, hold⟩
    · cases hallocated
    · rcases requests_uploaded hk with ⟨-, rfl⟩ | ⟨-, hold'⟩
      · cases hallocated'
      · exact hinv.log.apart j k request' request'' record' record'' hold hold' hallocated
          hallocated' hsame

/-- The record of a request reaches the remote. -/
theorem inv_upload (hinv : s.Inv) (hi : s.requests i = some request)
    {record : GatewayWriteAheadLogRecord} (hstage : request.stage = .allocated record) :
    (s.uploaded i request record).Inv := by
  have hfresh := hinv.log.fresh i request record hi hstage
  have hlog : (s.uploaded i request record).logRecords = s.logRecords ++ [record] :=
    putLogRecord_of_fresh hfresh
  have hrequest := hinv.requests i request hi
  have hclaimed := hrequest.stage
  rw [hstage] at hclaimed
  obtain ⟨hrows, hclaimed⟩ := hclaimed
  obtain ⟨lsn, now, hrecord⟩ := hclaimed.eq_prepared
  obtain ⟨hbucket, hkey, -⟩ := @prepareRecord_eq request.input request.previous lsn now
  rw [← hrecord] at hbucket hkey
  have hviews : ∀ bucket key,
      ¬ (request.input.bucket = bucket ∧ request.input.key = key) →
      (s.uploaded i request record).view bucket key = s.view bucket key := by
    intro bucket key hne
    have hnot : ¬ ofKey bucket key record = true := by
      intro hof
      obtain ⟨hb, hk⟩ := of_decide_eq_true hof
      exact hne ⟨hbucket.symm.trans hb, hkey.symm.trans hk⟩
    unfold view
    rw [hlog]
    simp only [uploaded, setRequest, List.filter_append, List.filter_cons_of_neg hnot,
      List.filter_nil, List.append_nil]
  have hgrows : ∀ bucket key, ∀ other ∈ (s.view bucket key).records,
      other ∈ ((s.uploaded i request record).view bucket key).records := by
    intro bucket key other hother
    obtain ⟨hmem, hon⟩ := mem_records.mp hother
    refine mem_records.mpr ⟨?_, hon⟩
    rw [hlog]
    exact List.mem_append_left _ hmem
  have hstarted : Started
      ((s.uploaded i request record).view request.input.bucket request.input.key) request.input
      request.previous record := by
    refine ⟨⟨⟨lsn, now, hrecord⟩, ?_, hclaimed.after⟩, ?_⟩
    · intro other hother hne
      obtain ⟨hmem, hon⟩ := mem_records.mp hother
      rw [hlog] at hmem
      rcases List.mem_append.mp hmem with hold | hnew
      · exact hclaimed.newest other (mem_records.mpr ⟨hold, hon⟩) hne
      · rw [List.mem_singleton.mp hnew] at hne
        exact absurd rfl hne
    · exact mem_prepared.mpr
        ⟨List.mem_append_right _ (List.mem_singleton_self _), hbucket, hkey⟩
  refine ⟨hinv.counters, ?_, ?_, ?_, logInv_uploaded hinv hi hstage, ?_, ?_⟩
  · intro bucket key
    by_cases hon : request.input.bucket = bucket ∧ request.input.key = key
    · obtain ⟨rfl, rfl⟩ := hon
      exact inv_of_started (hinv.keys _ _) rfl hstarted
    · rw [hviews bucket key hon]
      exact hinv.keys bucket key
  · intro j other hj
    rcases requests_uploaded hj with ⟨-, rfl⟩ | ⟨hji, hold⟩
    · refine ⟨hrequest.previous_onKey, ⟨hstarted, fun _ => hrows, ?_, fun _ => ⟨?_, ?_⟩⟩, ?_⟩
      · exact RequestInput.facts_steps
      · exact fun h => absurd h (by omega)
      · exact fun _ => congrArg MetadataStore.ObjectMetadata.protectionPlan hrows
      · intro hnone
        have hfound := hrequest.found ?_
        · exact ⟨hfound.rows, hfound.home⟩
        · intro other hother
          rw [hstage]
          refine hnone other ⟨?_, hother.2⟩
          obtain ⟨hmem, hon⟩ := mem_prepared.mp hother.1
          exact mem_prepared.mpr ⟨List.mem_append_left _ hmem, hon⟩
    · rw [hviews _ _ (hinv.other_key hi hji hold)]
      exact hinv.requests j other hold
  · intro j k other other' hj hk hsame
    rcases requests_uploaded hj with ⟨rfl, rfl⟩ | ⟨-, hold⟩
    · rcases requests_uploaded hk with ⟨rfl, -⟩ | ⟨-, hold'⟩
      · rfl
      · exact hinv.serial j k request other' hi hold' hsame
    · rcases requests_uploaded hk with ⟨rfl, rfl⟩ | ⟨-, hold'⟩
      · exact hinv.serial j k other request hold hi hsame
      · exact hinv.serial j k other other' hold hold' hsame
  · intro bundle huse
    have hbundle := hinv.bundles bundle huse
    refine ⟨hbundle.origin, hbundle.valid, hbundle.next_le, ?_, hbundle.held,
      fun other hother => hbundle.open_above other (open_uploaded hi hstage hother)⟩
    intro bucket key
    rcases hbundle.covered bucket key with ⟨other, hother, hle⟩ | hfacts
    · exact Or.inl ⟨other, hgrows bucket key other hother, hle⟩
    · exact Or.inr hfacts
  · have hbackup := hinv.backup
    refine ⟨?_, hbackup.built, hbackup.stored, hbackup.checkpoint, hbackup.cleaning,
      hbackup.cleaned, hbackup.names⟩
    intro phase hphase
    -- no record is on its way while an export reads
    have harrived := (hbackup.reading phase hphase).1.requests i request hi
    rw [hstage] at harrived
    cases harrived

/-- A request whose record is marked, and the operation if it is committed. -/
def ended (s : CheckpointSystem) (i : Nat) (old new : GatewayWriteAheadLogRecord)
    (operations : List CommittedOperation) : CheckpointSystem :=
  { s.mark i old new with committed := s.committed ++ operations }

/-- The mark of a record is of its key and has its name. -/
structure MarkOf (new old : GatewayWriteAheadLogRecord) : Prop where
  bucket : new.bucket = old.bucket
  key : new.key = old.key
  name : recordName new = recordName old
  version : new.schemaVersion = old.schemaVersion
  keyed : KeyedRecord new

section Mark

variable {record new : GatewayWriteAheadLogRecord} {operations : List CommittedOperation}

theorem open_ended {other : GatewayWriteAheadLogRecord}
    (h : (s.ended i record new operations).Open other) : s.Open other := by
  rcases h with hmem | ⟨j, request', hj, hrecord⟩
  · exact Or.inl (List.mem_of_mem_filter hmem)
  · rcases @requests_setRequest s i j none request' hj with ⟨-, hnone⟩ | ⟨-, hold⟩
    · cases hnone
    · exact Or.inr ⟨j, request', hold, hrecord⟩

theorem logInv_ended (hinv : s.Inv) (hopen : record ∈ s.prepared) (hmark : MarkOf new record)
    (hoperations : ∀ operation ∈ operations, operation.lsn = record.lsn) :
    (s.ended i record new operations).LogInv := by
  obtain ⟨hmem, -⟩ := hinv.log.prepared record hopen
  have hlsn : new.lsn = record.lsn := congrArg Prod.fst hmark.name
  have hrequests : ∀ j other, (s.ended i record new operations).requests j = some other →
      s.requests j = some other := by
    intro j other hj
    rcases @requests_setRequest s i j none other hj with ⟨-, hnone⟩ | ⟨-, hold⟩
    · cases hnone
    · exact hold
  have holder : ∀ {other : GatewayWriteAheadLogRecord},
      other ∈ (s.ended i record new operations).logRecords → other ∈ s.logRecords ∨ other = new := by
    intro other hother
    rcases mem_putLogRecord.mp hother with ⟨hold, -⟩ | hnew
    · exact Or.inl hold
    · exact Or.inr hnew
  refine ⟨?_, ?_, ?_, ?_, ?_, ?_, ?_, ?_⟩
  · intro other hother
    rcases holder hother with hold | rfl
    · exact hinv.log.records other hold
    · obtain ⟨-, hversion, hlt⟩ := hinv.log.records record hmem
      exact ⟨hmark.keyed, hmark.version.trans hversion, hlsn ▸ hlt⟩
  · -- the record with this LSN is the one that is replaced
    change ((putLogRecord s.logRecords new).map (·.lsn)).Nodup
    unfold putLogRecord
    rw [List.map_append, List.nodup_append]
    refine ⟨hinv.log.unique.sublist (List.filter_sublist.map _), List.nodup_singleton _, ?_⟩
    intro lsn hmemLsn other hother
    obtain ⟨old, hold, rfl⟩ := List.mem_map.mp hmemLsn
    obtain rfl := List.mem_singleton.mp hother
    obtain ⟨hold, hne⟩ := List.mem_filter.mp hold
    intro hsame
    obtain rfl := hinv.log.eq_of_lsn hold hmem (hsame.trans hlsn)
    exact absurd hmark.name.symm (of_decide_eq_true hne)
  · intro other hother
    obtain ⟨hold, hne⟩ := List.mem_filter.mp hother
    obtain ⟨hmemOther, hphase⟩ := hinv.log.prepared other hold
    refine ⟨mem_putLogRecord.mpr (Or.inl ⟨hmemOther, ?_⟩), hphase⟩
    rw [hmark.name]
    exact of_decide_eq_true hne
  · intro operation hoperation
    rcases List.mem_append.mp hoperation with hold | hnew
    · exact hinv.log.committed_lt operation hold
    · rw [hoperations operation hnew]
      exact hinv.log.open_lt record (Or.inl hopen)
  · exact fun other hother => hinv.log.open_lt other (open_ended hother)
  · exact fun other hother => hinv.log.above_floor other (open_ended hother)
  · intro j other allocated hj hallocated old hold
    rcases holder hold with hmemOld | rfl
    · exact hinv.log.fresh j other allocated (hrequests j other hj) hallocated old hmemOld
    · rw [hlsn]
      exact hinv.log.fresh j other allocated (hrequests j other hj) hallocated record hmem
  · intro j k other other' allocated allocated' hj hk hallocated hallocated' hsame
    exact hinv.log.apart j k other other' allocated allocated' (hrequests j other hj)
      (hrequests k other' hk) hallocated hallocated' hsame

/-- A request ends with its record marked, and its key is settled. -/
theorem inv_mark (hinv : s.Inv) (hi : s.requests i = some request)
    (hstarted : Started (s.view request.input.bucket request.input.key) request.input
      request.previous record)
    (hmark : MarkOf new record)
    (hoperations : ∀ operation ∈ operations,
      operation.lsn = record.lsn ∧ operation.input = request.input)
    (hsettled : ({ (s.view request.input.bucket request.input.key).marked record new with
      committed := (s.view request.input.bucket request.input.key).committed ++ operations }
        : KeyView).Inv) :
    (s.ended i record new operations).Inv := by
  obtain ⟨hopen, hbucket, hkey⟩ := mem_prepared.mp hstarted.mem_prepared
  obtain ⟨hmem, -⟩ := hinv.log.prepared record hopen
  have hlsn : new.lsn = record.lsn := congrArg Prod.fst hmark.name
  have hnamed : ∀ other ∈ s.logRecords, recordName other = recordName record → other = record :=
    fun other hother hname => hinv.log.eq_of_lsn hother hmem (congrArg Prod.fst hname)
  have hview : (s.ended i record new operations).view request.input.bucket request.input.key =
      { (s.view request.input.bucket request.input.key).marked record new with
        committed := (s.view request.input.bucket request.input.key).committed ++ operations } := by
    have hself := @view_mark s i record new request.input.bucket request.input.key
      ⟨hmark.bucket.trans hbucket, hmark.key.trans hkey⟩
    have hall : operations.filter (fun operation =>
        decide (operation.input.bucket = request.input.bucket ∧
          operation.input.key = request.input.key)) = operations := by
      refine List.filter_eq_self.mpr fun operation hoperation => decide_eq_true ?_
      rw [(hoperations operation hoperation).2]
      exact ⟨rfl, rfl⟩
    have hcommitted : ((s.ended i record new operations).view request.input.bucket
        request.input.key).committed =
        (s.view request.input.bucket request.input.key).committed ++ operations := by
      unfold view ended
      simp only [List.filter_append, hall]
    rw [← hself, ← hcommitted]
    rfl
  have hviews : ∀ bucket key, ¬ (request.input.bucket = bucket ∧ request.input.key = key) →
      (s.ended i record new operations).view bucket key = s.view bucket key := by
    intro bucket key hne
    have hof : ∀ other, other = record → ¬ (other.bucket = bucket ∧ other.key = key) := by
      rintro other rfl hon
      exact hne ⟨hbucket.symm.trans hon.1, hkey.symm.trans hon.2⟩
    have hself := @view_mark_ne s i record new bucket key hmark.name
      (by rw [hmark.bucket, hmark.key]; exact hof record rfl)
      (fun other hother hname => hof other (hnamed other hother hname))
      (fun other hother hname =>
        hof other (hnamed other (hinv.log.prepared other hother).1 hname))
    have hnone : operations.filter (fun operation =>
        decide (operation.input.bucket = bucket ∧ operation.input.key = key)) = [] := by
      refine List.filter_eq_nil_iff.mpr fun operation hoperation hon => ?_
      rw [(hoperations operation hoperation).2] at hon
      exact hne (of_decide_eq_true hon)
    have hcommitted : ((s.ended i record new operations).view bucket key).committed =
        (s.view bucket key).committed := by
      unfold view ended
      simp only [List.filter_append, hnone, List.append_nil]
    rw [← hself] at hcommitted ⊢
    exact congrArg (fun committed =>
      ({ (s.mark i record new).view bucket key with committed := committed } : KeyView)) hcommitted
  have hrequests : ∀ j other, (s.ended i record new operations).requests j = some other →
      j ≠ i ∧ s.requests j = some other := by
    intro j other hj
    rcases @requests_setRequest s i j none other hj with ⟨-, hnone⟩ | hold
    · cases hnone
    · exact hold
  refine ⟨hinv.counters, ?_, ?_, ?_,
    logInv_ended hinv hopen hmark (fun operation h => (hoperations operation h).1), ?_, ?_⟩
  · intro bucket key
    by_cases hon : request.input.bucket = bucket ∧ request.input.key = key
    · obtain ⟨rfl, rfl⟩ := hon
      rw [hview]
      exact hsettled
    · rw [hviews bucket key hon]
      exact hinv.keys bucket key
  · intro j other hj
    obtain ⟨hji, hold⟩ := hrequests j other hj
    rw [hviews _ _ (hinv.other_key hi hji hold)]
    exact hinv.requests j other hold
  · intro j k other other' hj hk hsame
    exact hinv.serial j k other other' (hrequests j other hj).2 (hrequests k other' hk).2 hsame
  · intro bundle huse
    have hbundle := hinv.bundles bundle huse
    refine ⟨hbundle.origin, hbundle.valid, hbundle.next_le, ?_, ?_,
      fun other hother => hbundle.open_above other (open_ended hother)⟩
    · intro bucket key
      by_cases hon : request.input.bucket = bucket ∧ request.input.key = key
      · -- the mark itself is from after the export
        obtain ⟨rfl, rfl⟩ := hon
        refine Or.inl ⟨new, ?_, ?_⟩
        · rw [hview]
          exact mem_putLogRecord.mpr (Or.inr rfl)
        · rw [hlsn]
          exact hbundle.open_above record (Or.inl hopen)
      · rw [hviews bucket key hon]
        exact hbundle.covered bucket key
    · intro operation hoperation hlt
      rcases List.mem_append.mp hoperation with hold | hnew
      · obtain ⟨later, hlater, hsame⟩ := hbundle.held operation hold hlt
        exact ⟨later, List.mem_append_left _ hlater, hsame⟩
      · rw [(hoperations operation hnew).1] at hlt
        exact absurd (hbundle.open_above record (Or.inl hopen)) (not_le.mpr hlt)
  · have hbackup := hinv.backup
    refine ⟨?_, hbackup.built, hbackup.stored, hbackup.checkpoint, hbackup.cleaning,
      hbackup.cleaned, hbackup.names⟩
    intro phase hphase
    rw [(hbackup.reading phase hphase).1.prepared] at hopen
    cases hopen

end Mark

theorem inv_commitRequest (hinv : s.Inv) (hi : s.requests i = some request)
    {record : GatewayWriteAheadLogRecord} {done now : Nat}
    (hstage : request.stage = .working record done) (hdone : done = request.input.steps.length)
    (hlogs : request.input.LogsWhatItLeaves) :
    (s.ended i record (GatewayWriteAheadLogRecord.committed record now)
      [⟨record.lsn, request.input⟩]).Inv := by
  obtain ⟨input, previous, stage⟩ := request
  subst hstage
  have hrequest := hinv.requests i _ hi
  obtain ⟨lsn, preparedAt, hrecord⟩ :
      ∃ lsn now, record = (input.logEntry previous).prepareRecord lsn now :=
    hrequest.stage.1.eq_prepared
  have hkeyed : KeyedRecord record := hrecord ▸ keyed_prepareRecord hrequest.previous_onKey
  refine inv_mark hinv hi hrequest.stage.1
    ⟨rfl, rfl, rfl, rfl, ⟨hkeyed.1, hkeyed.2, hkeyed.3, hkeyed.4⟩⟩ ?_
    (inv_commit (hinv.keys _ _) hrequest hdone hlogs)
  intro operation hoperation
  rw [List.mem_singleton.mp hoperation]
  exact ⟨rfl, rfl⟩

theorem inv_markRolledBack (hinv : s.Inv) (hi : s.requests i = some request)
    {record marked : GatewayWriteAheadLogRecord} {now : Nat}
    (hstage : request.stage = .rollingBack record [] true)
    (hmark : GatewayWriteAheadLogRecord.rolledBack record now = .ok marked) :
    (s.ended i record marked []).Inv := by
  obtain ⟨input, previous, stage⟩ := request
  subst hstage
  have hrequest := hinv.requests i _ hi
  obtain ⟨lsn, preparedAt, hrecord⟩ :
      ∃ lsn now, record = (input.logEntry previous).prepareRecord lsn now :=
    hrequest.stage.1.eq_prepared
  have hkeyed : KeyedRecord record := hrecord ▸ keyed_prepareRecord hrequest.previous_onKey
  obtain ⟨hbucket, hkey, hname, hversion, hkeyed'⟩ := rolledBack_keeps hkeyed hmark
  have hopen := (mem_prepared.mp hrequest.stage.1.mem_prepared).1
  have hunique : ∀ other ∈ (s.view input.bucket input.key).prepared,
      recordName other = recordName record → other = record := by
    intro other hother hsame
    have hmem := (hinv.log.prepared other (mem_prepared.mp hother).1).1
    exact hinv.log.eq_of_lsn hmem (hinv.log.prepared record hopen).1 (congrArg Prod.fst hsame)
  refine inv_mark hinv hi hrequest.stage.1 ⟨hbucket, hkey, hname, hversion, hkeyed'⟩
    (fun operation h => absurd h List.not_mem_nil) ?_
  have hsettled := inv_rolledBack (hinv.keys _ _) hrequest hunique hmark
  simp only [List.append_nil]
  exact hsettled

end RequestSteps

end CheckpointSystem

end Netdisk2Blob.Backup
