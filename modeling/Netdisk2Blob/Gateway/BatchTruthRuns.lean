import Netdisk2Blob.Gateway.BatchTruth

/-!
# Runs of Batch Requests

Every step keeps the invariant of the ledger, one lemma a step, except that a cleanup must not
change anything before the marker is written.

## Main results

- `BatchSystem.inv_step`: every step that meets `cleanUpGuard` keeps the invariant
- `always_ledgerTruthful`: the ledger is truthful throughout such a run
- `cleanedUpThenRestarted_rejected`: a run after which a record says that no provider call was
  started, although a placement is gone
-/

namespace Netdisk2Blob.Gateway

open Library Blob Policy ControlPlane Metadata

namespace BatchSystem

variable {Objects : Type} {s s' : BatchSystem Objects}

/-! ## Section 1: Steps beside a request -/

theorem LedgerInv.previewed (h : s.LedgerInv) (planId : String) (plan : ObjectBatchPlanRecord) :
    LedgerInv { s with
      plans := (planId, plan) :: s.plans
      previewed := (planId, plan) :: s.previewed } where
  plans := by
    intro entry hentry
    rcases List.mem_cons.mp hentry with rfl | hold
    · exact List.mem_cons_self
    · exact List.mem_cons_of_mem _ (h.plans entry hold)
  sound := fun id record hheld =>
    (h.sound id record hheld).mono (fun _ hentry => List.mem_cons_of_mem _ hentry)
  truthful := by
    intro id record hforgotten hheld
    have htruth := h.truthful id record hforgotten hheld
    exact ⟨htruth.silent, htruth.notStarted⟩
  stored := h.stored
  effects := h.effects
  once := h.once
  answered := by
    intro request payload hin
    obtain ⟨hbatch, planId', plan', hplan, haccounts⟩ := h.answered request payload hin
    exact ⟨hbatch, planId', plan', List.mem_cons_of_mem _ hplan, haccounts⟩

theorem inv_preview (h : s.Inv) (planId : String) (plan : ObjectBatchPlanRecord) :
    Inv { s with
      plans := (planId, plan) :: s.plans
      previewed := (planId, plan) :: s.previewed } where
  ledger := h.ledger.previewed planId plan
  running := fun run hrun => (h.running run hrun).aside
    { moves := LedgerState.Moves.refl s.ledgers
      forgotten := rfl
      previewed := fun _ hentry => List.mem_cons_of_mem _ hentry
      started := rfl
      effects := rfl }

/-- A lookup, and whatever is answered after it. -/
theorem inv_looked (h : s.Inv) {request : BatchRequest} {now : Nat} {fault : Option FileFault}
    {answers : List (BatchRequest × Except ObjectBatchApiError ObjectBatchExecutePayload)}
    (hanswers : ∀ other payload, (other, .ok payload) ∈ answers → s.Accounted other payload) :
    Inv { (s.forget s.ledgers.memory now).withLedgers
        (s.ledgers.lookupObjectBatchLedger request.input.batchId now fault).2 with
      answers := answers } where
  ledger := h.ledger.movedNothing
    (s.ledgers.moves_lookupObjectBatchLedger request.input.batchId now fault) hanswers
  running := fun run hrun => (h.running run hrun).aside
    { moves := s.ledgers.moves_lookupObjectBatchLedger request.input.batchId now fault
      forgotten := rfl
      previewed := fun _ hentry => hentry
      started := rfl
      effects := rfl }

/-- The record a lookup finds was there before. -/
theorem holds_of_looked {request : BatchRequest} {now : Nat} {fault : Option FileFault}
    {record : ObjectBatchLedgerRecord}
    (h : (s.ledgers.lookupObjectBatchLedger request.input.batchId now fault).1 =
      .ok (some record)) : s.ledgers.Holds request.input.batchId record := by
  have hmoves := s.ledgers.moves_lookupObjectBatchLedger request.input.batchId now fault
  have hfound := LedgerState.lookupObjectBatchLedger_ok h
  exact Or.inl ((hmoves.memory _ _ hfound).resolve_right id)

/-- A request that is answered from the record of its id. -/
theorem LedgerInv.answered_existing (h : s.LedgerInv) {request : BatchRequest}
    {record : ObjectBatchLedgerRecord} (hheld : s.ledgers.Holds request.input.batchId record)
    (other : BatchRequest) (payload : ObjectBatchExecutePayload)
    (hin : (other, .ok payload) ∈ (request,
      existingObjectBatchResult record request.input.batchId request.fingerprint) :: s.answers) :
    s.Accounted other payload := by
  rcases List.mem_cons.mp hin with heq | hold
  · obtain ⟨rfl, hok⟩ := Prod.mk.inj heq
    exact h.accounted_existing hheld hok.symm
  · exact h.answered other payload hold

theorem inv_lookup (h : s.Inv) {request : BatchRequest} {now : Nat} {fault : Option FileFault}
    (hstep : s.step (.lookup request now fault) = some s') : s'.Inv := by
  simp only [step] at hstep
  split at hstep
  · cases hstep
    exact inv_looked h h.ledger.answered_error
  · rename_i record hfound
    cases hstep
    exact inv_looked h (h.ledger.answered_existing (holds_of_looked hfound))
  · cases hstep
    exact inv_looked h h.ledger.answered

theorem inv_begin (h : s.Inv) {request : BatchRequest} {now : Nat} {fault : Option FileFault}
    (hstep : s.step (.begin request now fault) = some s') : s'.Inv := by
  simp only [step] at hstep
  split at hstep
  · cases hstep
  · split at hstep
    · cases hstep
      exact inv_looked h h.ledger.answered_error
    · rename_i record hfound
      cases hstep
      exact inv_looked h (h.ledger.answered_existing (holds_of_looked hfound))
    · rename_i hfound
      cases hstep
      -- the request has the lock, and memory has no record of its id
      refine ⟨(inv_looked h h.ledger.answered).ledger.running _, ?_⟩
      intro run hrun
      obtain rfl := Option.some.inj hrun
      exact ⟨LedgerState.lookupObjectBatchLedger_ok hfound, rfl, rfl⟩

theorem inv_persistControlPlane (h : s.Inv) (fault : Option FileFault) :
    (s.withLedgers (s.ledgers.persist fault).2).Inv where
  ledger := h.ledger.movedNothing (s.ledgers.moves_persist fault) h.ledger.answered
  running := fun run hrun => (h.running run hrun).aside
    { moves := s.ledgers.moves_persist fault
      forgotten := rfl
      previewed := fun _ hentry => hentry
      started := rfl
      effects := rfl }

theorem inv_changeWorld (h : s.Inv) (world : BatchWorld Objects) :
    Inv { s with world := world } where
  ledger :=
    { plans := h.ledger.plans
      sound := h.ledger.sound
      truthful := by
        intro id record hforgotten hheld
        have htruth := h.ledger.truthful id record hforgotten hheld
        exact ⟨htruth.silent, htruth.notStarted⟩
      stored := h.ledger.stored
      effects := h.ledger.effects
      once := h.ledger.once
      answered := h.ledger.answered }
  running := fun run hrun => (h.running run hrun).aside
    { moves := LedgerState.Moves.refl s.ledgers
      forgotten := rfl
      previewed := fun _ hentry => hentry
      started := rfl
      effects := rfl }

/-! ## Section 2: Stops and restarts -/

theorem inv_drop (h : s.Inv) : Inv { s with running := none } :=
  inv_of_idle (h.ledger.running none) rfl

/-- What a restart writes into memory. -/
def writesRecovered (ledger : ObjectBatchLedger) (now : Nat) :
    String → ObjectBatchLedgerRecord → Prop :=
  fun id record => ∃ stored, ledger.get id = some stored ∧ record = recoverRecord now id stored

theorem moves_restart (ledgers : LedgerState) (now : Nat) :
    ledgers.Moves
      { ledgers with
        memory := recoverObjectBatchLedgerRecords (pruneObjectBatchLedger ledgers.file now) now }
      (prunedBatchIds ledgers.file now) (writesRecovered ledgers.file now) where
  memory := by
    intro id record hget
    change (recoverObjectBatchLedgerRecords _ now).get id = some record at hget
    rw [ObjectBatchLedger.get_recoverObjectBatchLedgerRecords,
      ObjectBatchLedger.get_pruneObjectBatchLedger] at hget
    split_ifs at hget
    · obtain ⟨stored, hstored, rfl⟩ := Option.map_eq_some_iff.mp hget
      cases hstored
    · obtain ⟨stored, hstored, rfl⟩ := Option.map_eq_some_iff.mp hget
      exact Or.inr ⟨stored, hstored, rfl⟩
  file := fun _ _ hget => Or.inl (Or.inr hget)
  stores := by
    intro id hid hstored
    refine ⟨?_, hstored.2⟩
    change (recoverObjectBatchLedgerRecords _ now).get id ≠ none
    rw [ObjectBatchLedger.get_recoverObjectBatchLedgerRecords,
      ObjectBatchLedger.get_pruneObjectBatchLedger, if_neg hid]
    simpa using hstored.2

theorem LedgerInv.restarted (h : s.LedgerInv) (now : Nat) :
    LedgerInv { (s.forget s.ledgers.file now).withLedgers
        { s.ledgers with
          memory := recoverObjectBatchLedgerRecords (pruneObjectBatchLedger s.ledgers.file now)
            now } with
      running := none } := by
  refine h.moved (moves_restart s.ledgers now) ?_ ?_ h.answered
  · rintro id record ⟨stored, hstored, rfl⟩
    exact (h.sound id stored (Or.inr hstored)).recovered
  · rintro id record hforgotten ⟨stored, hstored, rfl⟩
    have htruth := h.truthful id stored hforgotten (Or.inr hstored)
    refine ⟨fun hsilent => htruth.silent (silent_of_silent_recoverRecord hsilent), ?_⟩
    rw [recoverRecord_results]
    exact htruth.notStarted

theorem LedgerInv.withoutPlans (h : s.LedgerInv) : LedgerInv { s with plans := [] } where
  plans := nofun
  sound := h.sound
  truthful := by
    intro id record hforgotten hheld
    have htruth := h.truthful id record hforgotten hheld
    exact ⟨htruth.silent, htruth.notStarted⟩
  stored := h.stored
  effects := h.effects
  once := h.once
  answered := h.answered

/-- A restart: what was in progress is rejected when it has no marker, and interrupted when it
has one. -/
theorem inv_restart (h : s.Inv) {now : Nat} (hstep : s.step (.restart now) = some s') :
    s'.Inv := by
  simp only [step] at hstep
  cases hstep
  exact inv_of_idle (h.ledger.restarted now).withoutPlans rfl

/-! ## Section 3: Before the reservation -/

theorem mem_of_lookup {plans : List (String × ObjectBatchPlanRecord)} {planId : String}
    {plan : ObjectBatchPlanRecord} (h : plans.lookup planId = some plan) :
    (planId, plan) ∈ plans := by
  induction plans with
  | nil => cases h
  | cons entry plans ih =>
    obtain ⟨otherId, other⟩ := entry
    rw [List.lookup_cons] at h
    split at h
    · rename_i heq
      obtain rfl := beq_iff_eq.mp heq
      obtain rfl := Option.some.inj h
      exact List.mem_cons_self
    · exact List.mem_cons_of_mem _ (ih h)

theorem inv_preflight (h : s.Inv) {now : Nat} {topologyFingerprint : String}
    {answers : Nat → Revalidation}
    (hstep : s.step (.preflight now topologyFingerprint answers) = some s') : s'.Inv := by
  simp only [step] at hstep
  split at hstep
  · rename_i run hrunning
    split at hstep
    · rename_i hphase
      have hrun := h.running run hrunning
      rw [RunInv, hphase] at hrun
      split at hstep
      · cases hstep
        exact inv_leave_error h.ledger
      · rename_i plan hplan
        split at hstep
        · cases hstep
          exact inv_leave_error h.ledger
        · cases hstep
          have hpreviewed := h.ledger.plans _ (mem_of_lookup hplan)
          exact inv_goTo h.ledger ⟨hrun.1, hrun.2.1, hrun.2.2, hpreviewed⟩
    · cases hstep
  · cases hstep

theorem executionOrder_perm (plan : ObjectBatchPlanRecord) :
    (plannedOrdinals (executionOrder plan)).Perm (plannedOrdinals plan.objects) :=
  (List.perm_insertionSort _ _).map _

/-- After its reservation a request has the whole plan before it. -/
theorem working_of_reserved {batchId planId fingerprint : String} {plan : ObjectBatchPlanRecord}
    {now : Nat} (hledger : s.LedgerInv) (hplan : (planId, plan) ∈ s.previewed)
    (hholds : s.ledgers.HoldsOnly batchId
      (LedgerState.reservedRecord planId plan fingerprint now))
    (hnew : batchId ∉ s.forgotten → ∀ ordinal, (batchId, ordinal) ∉ s.started) :
    s.Working batchId plan [] false (executionOrder plan) where
  previewed := ⟨planId, hplan⟩
  own := by
    intro record hget
    rw [hholds.eq (Or.inl hget)]
    exact ⟨rfl, rfl⟩
  stores := fun _ => hholds.stores
  quiet := by
    rintro - hforgotten effect heffect rfl
    exact absurd (hledger.effects effect heffect) (hnew hforgotten effect.ordinal)
  part := List.nil_subperm
  notStarted := fun _ _ hitem => absurd hitem List.not_mem_nil
  order := executionOrder_perm plan
  done := fun _ hitem => absurd hitem List.not_mem_nil
  known := fun hforgotten ordinal hstarted => absurd hstarted (hnew hforgotten ordinal)
  marked := nofun
  worked := by
    intro _ record hheld
    rw [hholds.eq hheld]
    exact fun _ hitem => absurd hitem List.not_mem_nil

theorem inv_reserve (h : s.Inv) {now : Nat} {fault : Option FileFault}
    (hstep : s.step (.reserve now fault) = some s') : s'.Inv := by
  simp only [step] at hstep
  split at hstep
  · rename_i run hrunning
    split at hstep
    · rename_i plan hphase
      have hrun := h.running run hrunning
      rw [RunInv, hphase] at hrun
      obtain ⟨hnone, hresults, hmarker, hplan⟩ := hrun
      have hledger := @LedgerInv.reserved _ s _ plan h.ledger run.request.input.planId
        run.request.fingerprint hnone hplan now fault
      split at hstep
      · cases hstep
        exact inv_leave_error hledger
      · rename_i hok
        cases hstep
        refine inv_goTo hledger ⟨plan, rfl, ?_⟩
        have hnew : ∀ ordinal, run.request.input.batchId ∉ s.forgotten →
            (run.request.input.batchId, ordinal) ∉ s.started :=
          fun ordinal hforgotten => h.ledger.not_started hforgotten hnone ordinal
        have hworking := working_of_reserved hledger hplan
          (LedgerState.reserveObjectBatchLedger_ok hok)
          (fun hforgotten ordinal =>
            hnew ordinal (fun hid => hforgotten (List.mem_append_right _ hid)))
        change Working _ run.request.input.batchId plan run.results run.markerPersisted _
        rw [hresults, hmarker]
        exact hworking.aside (aside_running _ _ _)
    · cases hstep
  · cases hstep

/-! ## Section 4: Items -/

theorem lateItem_ordinal (item : ObjectBatchItemPayload) :
    (lateItem item).ordinal = item.ordinal := by
  rw [lateItem]
  split_ifs
  · rfl
  · rfl

theorem inv_revalidate (h : s.Inv) {answer : Revalidation}
    (hstep : s.step (.revalidate answer) = some s') : s'.Inv := by
  simp only [step] at hstep
  split at hstep
  · rename_i run hrunning
    split at hstep
    · rename_i object remaining hphase
      have hrun := h.running run hrunning
      rw [RunInv, hphase] at hrun
      obtain ⟨plan, hplan, hworking⟩ := hrun
      cases hstep
      refine inv_goTo h.ledger ⟨lateItem_ordinal _, plan, hplan, ?_⟩
      exact hworking.aside (aside_running _ _ _)
    · cases hstep
  · cases hstep

/-- An item that needed no action. -/
theorem inv_skip (h : s.Inv) (hstep : s.step .skip = some s') : s'.Inv := by
  simp only [step] at hstep
  split at hstep
  · rename_i run hrunning
    split at hstep
    · rename_i object item remaining hphase
      have hrun := h.running run hrunning
      rw [RunInv, hphase] at hrun
      obtain ⟨hordinal, plan, hplan, hworking⟩ := hrun
      split_ifs at hstep with hstatus
      cases hstep
      have hdone : item.status ∈ doneStatuses := by
        rcases hstatus with hstatus | hstatus
        · simp [hstatus, doneStatuses]
        · simp [hstatus, doneStatuses]
      refine inv_goTo h.ledger ⟨plan, hplan, ?_⟩
      exact (hworking.push hordinal hdone).aside (aside_running _ _ _)
    · cases hstep
  · cases hstep

/-- An item whose action was started, and left `world`. -/
theorem inv_acted (h : s.Inv) {run : BatchRun} (hrunning : s.running = some run)
    {object : ObjectBatchPlannedObject} {item result : ObjectBatchItemPayload}
    {remaining : List ObjectBatchPlannedObject} {world : BatchWorld Objects}
    (hphase : run.phase = .revalidated object item remaining)
    (hordinal : result.ordinal = object.ordinal) (hdone : result.status ∈ doneStatuses)
    (hsame : run.markerPersisted = false → SameObjects s.world world) :
    ((s.acted run object.ordinal world).itemDone run result remaining).Inv := by
  have hrun := h.running run hrunning
  rw [RunInv, hphase] at hrun
  obtain ⟨-, plan, hplan, hworking⟩ := hrun
  -- the object has no result yet, so its action was not started before
  have hfresh : run.request.input.batchId ∉ s.forgotten →
      (run.request.input.batchId, object.ordinal) ∉ s.started :=
    fun hforgotten hstarted => hworking.fresh (hworking.known hforgotten _ hstarted)
  have hpushed := hworking.push hordinal hdone
  have hin : object.ordinal ∈ itemOrdinals (sortByOrdinal (run.results ++ [result])) :=
    mem_itemOrdinals_pushed.mpr (Or.inr hordinal.symm)
  refine inv_goTo (h.ledger.acted hpushed hfresh hsame) ⟨plan, hplan, ?_⟩
  exact (hpushed.acted hin hsame).aside (aside_running _ _ _)

/-- A cleanup before the marker is written has nothing to change: there is no metadata of the
source, and a cleanup that fails leaves everything as it was. -/
def cleanUpGuard (s : BatchSystem Objects) : BatchAction Objects → Prop
  | .cleanUp _ => ∀ run object item remaining, s.running = some run →
      run.phase = .revalidated object item remaining → run.markerPersisted = false →
        SameObjects s.world (cleanedUp s.world object.source)
  | .failCleanUp _ world => ∀ run, s.running = some run → run.markerPersisted = false →
      SameObjects s.world world
  | _ => True

theorem inv_cleanUp (h : s.Inv) {warnings : List String}
    (hguard : s.cleanUpGuard (.cleanUp warnings))
    (hstep : s.step (.cleanUp warnings) = some s') : s'.Inv := by
  simp only [step] at hstep
  split at hstep
  · rename_i run hrunning
    split at hstep
    · rename_i object item remaining hphase
      split_ifs at hstep
      cases hstep
      refine inv_acted h hrunning hphase rfl (by simp [batchItemForPlan, doneStatuses]) ?_
      exact hguard run object item remaining hrunning hphase
    · cases hstep
  · cases hstep

theorem batchErrorFromBlob_failed (error : BlobError) (object : ObjectBatchPlannedObject) :
    (batchErrorFromBlob error object).status ∈ doneStatuses := by
  simp [batchErrorFromBlob, batchItemForPlan, doneStatuses]

theorem inv_failCleanUp (h : s.Inv) {error : BlobError} {world : BatchWorld Objects}
    (hguard : s.cleanUpGuard (.failCleanUp error world))
    (hstep : s.step (.failCleanUp error world) = some s') : s'.Inv := by
  simp only [step] at hstep
  split at hstep
  · rename_i run hrunning
    split at hstep
    · rename_i object item remaining hphase
      split_ifs at hstep
      cases hstep
      exact inv_acted h hrunning hphase rfl (batchErrorFromBlob_failed error object)
        (hguard run hrunning)
    · cases hstep
  · cases hstep

theorem inv_act (h : s.Inv) {outcome : Except BlobError (List String)}
    {world : BatchWorld Objects} (hstep : s.step (.act outcome world) = some s') : s'.Inv := by
  simp only [step] at hstep
  split at hstep
  · rename_i run hrunning
    split at hstep
    · rename_i object item remaining hphase
      split_ifs at hstep with hready
      cases hstep
      have hmarked : run.markerPersisted = false → SameObjects s.world world := by
        rw [hready.2]
        exact nofun
      cases outcome with
      | ok warnings =>
        exact inv_acted h hrunning hphase rfl
          (by simp [outcomeItem, batchItemForPlan, doneStatuses]) hmarked
      | error error =>
        exact inv_acted h hrunning hphase rfl (batchErrorFromBlob_failed error object) hmarked
    · cases hstep
  · cases hstep

/-! ## Section 5: Writes of the request -/

variable {batchId : String} {plan : ObjectBatchPlanRecord}
  {results : List ObjectBatchItemPayload} {marker : Bool}
  {remaining : List ObjectBatchPlannedObject} {record : ObjectBatchLedgerRecord}

theorem final_of_done {status : ObjectBatchItemStatus} (h : status ∈ doneStatuses) :
    status ∈ finalStatuses := by
  simp only [doneStatuses, finalStatuses, List.mem_cons, List.not_mem_nil, or_false] at h ⊢
  rcases h with h | h | h | h | h <;> simp [h]

/-- A batch that stops: what has no result was not started. -/
theorem stopped_of_working (h : s.Working batchId plan results marker remaining) :
    s.Finishing batchId plan (withNotStarted plan results) marker where
  previewed := h.previewed
  own := h.own
  stores := h.stores
  quiet := h.quiet
  part := (withNotStarted_perm h.part).subperm
  notStarted := by
    intro hforgotten item hitem hstatus hstarted
    rcases mem_withNotStarted hitem with hold | ⟨-, hnew⟩
    · exact done_ne_notStarted (h.done item hold) hstatus
    · exact hnew (h.known hforgotten _ hstarted)
  order := withNotStarted_perm h.part
  final := by
    intro item hitem
    rcases mem_withNotStarted hitem with hold | ⟨hstatus, -⟩
    · exact final_of_done (h.done item hold)
    · simp [hstatus, finalStatuses]

theorem finishing_of_working (h : s.Working batchId plan results marker []) :
    s.Finishing batchId plan (sortByOrdinal results) marker := by
  have horder : (itemOrdinals (sortByOrdinal results)).Perm (plannedOrdinals plan.objects) := by
    have hall := h.order
    rw [plannedOrdinals, List.map_nil, List.append_nil] at hall
    exact (itemOrdinals_sortByOrdinal results).trans hall
  exact
    { previewed := h.previewed
      own := h.own
      stores := h.stores
      quiet := h.quiet
      part := horder.subperm
      notStarted := fun hforgotten item hitem =>
        h.notStarted hforgotten item (mem_sortByOrdinal.mp hitem)
      order := horder
      final := fun item hitem => final_of_done (h.done item (mem_sortByOrdinal.mp hitem)) }

theorem Finishing.written (h : s.Finishing batchId plan results marker) {ledgers : LedgerState}
    (hholds : ledgers.HoldsOnly batchId record) (hobjects : record.objects = plan.objects)
    (hstate : record.state = .inProgress) :
    (s.withLedgers ledgers).Finishing batchId plan results marker where
  toReserved := by
    refine h.toReserved.written ?_ (fun _ => hholds.stores)
    intro held hget
    rw [hholds.eq (Or.inl hget)]
    exact ⟨hobjects, hstate⟩
  order := h.order
  final := h.final

/-- The marker, before the first action of a provider. -/
theorem inv_persistMarker (h : s.Inv) {now : Nat} {fault : Option FileFault}
    (hstep : s.step (.persistMarker now fault) = some s') : s'.Inv := by
  simp only [step] at hstep
  split at hstep
  · rename_i run hrunning
    split at hstep
    · rename_i object item remaining hphase
      have hrun := h.running run hrunning
      rw [RunInv, hphase] at hrun
      obtain ⟨hordinal, plan, hplan, hworking⟩ := hrun
      have hledger := @LedgerInv.markerPersisted _ s _ plan _ _ h.ledger hworking.toReserved now
        fault
      split_ifs at hstep with hready
      split at hstep
      · rename_i hfailed
        cases hstep
        have hmoves := s.ledgers.moves_persistObjectBatchLedger run.request.input.batchId now
          fault (withMarker now)
        refine inv_goTo hledger ⟨plan, ?_, hready.2⟩
        exact (hworking.toReserved.failed (LedgerState.persistObjectBatchLedger_error hfailed)
          hmoves).aside (aside_running _ _ _)
      · rename_i hok
        cases hstep
        obtain ⟨existing, hget, hholds⟩ := LedgerState.persistObjectBatchLedger_ok hok
        obtain ⟨hobjects, hstate⟩ := hworking.own existing hget
        have hmarked : Working _ _ plan run.results true (object :: remaining) :=
          hworking.written hholds hobjects hstate (fun h => Bool.noConfusion h) (fun _ _ => by
            simp [LedgerState.updated])
            (fun hforgotten => hworking.worked hforgotten existing (Or.inl hget))
        rw [hphase]
        exact inv_goTo hledger ⟨hordinal, plan, hplan, hmarked.aside (aside_running _ _ _)⟩
    · cases hstep
  · cases hstep

/-- The results so far, and after a failed or stale item what was not started. -/
theorem inv_saveResult (h : s.Inv) {now : Nat} {fault : Option FileFault}
    (hstep : s.step (.saveResult now fault) = some s') : s'.Inv := by
  simp only [step] at hstep
  split at hstep
  · rename_i run hrunning
    split at hstep
    · rename_i item remaining plan hphase hplan
      have hrun := h.running run hrunning
      rw [RunInv, hphase] at hrun
      obtain ⟨plan', hplan', hworking⟩ := hrun
      obtain rfl := Option.some.inj (hplan.symm.trans hplan')
      have hledger := @LedgerInv.saved _ s _ plan _ _ h.ledger hworking.toReserved now fault
      split at hstep
      · rename_i hfailed
        cases hstep
        have hmoves := s.ledgers.moves_persistObjectBatchLedger run.request.input.batchId now
          fault (withResults run.results)
        refine inv_goTo hledger ⟨plan, ?_⟩
        exact (hworking.toReserved.failed (LedgerState.persistObjectBatchLedger_error hfailed)
          hmoves).aside (aside_running _ _ _)
      · rename_i hok
        obtain ⟨existing, hget, hholds⟩ := LedgerState.persistObjectBatchLedger_ok hok
        obtain ⟨hobjects, hstate⟩ := hworking.own existing hget
        have hmarked : run.markerPersisted = true →
            run.request.input.batchId ∉ s.forgotten →
              existing.providerCallStartedAtUnixMs ≠ none :=
          fun hmarker hforgotten hnone =>
            hworking.marked hmarker hforgotten existing (Or.inl hget) (Or.inr ⟨hstate, hnone⟩)
        have hsaved := hworking.written hholds hobjects hstate id hmarked
          (fun _ other hother => done_ne_notStarted (hworking.done other hother))
        split_ifs at hstep with hstop
        · cases hstep
          refine inv_goTo hledger ⟨plan, hplan, ?_⟩
          exact (stopped_of_working hsaved).aside (aside_running _ _ _)
        · cases hstep
          refine inv_goTo hledger ⟨plan, hplan, ?_⟩
          exact hsaved.aside (aside_running _ _ _)
    · cases hstep
  · cases hstep

theorem inv_saveStopped (h : s.Inv) {now : Nat} {fault : Option FileFault}
    (hstep : s.step (.saveStopped now fault) = some s') : s'.Inv := by
  simp only [step] at hstep
  split at hstep
  · rename_i run hrunning
    split at hstep
    · rename_i hphase
      have hrun := h.running run hrunning
      rw [RunInv, hphase] at hrun
      obtain ⟨plan, hplan, hfinishing⟩ := hrun
      have hledger := @LedgerInv.saved _ s _ plan _ _ h.ledger hfinishing.toReserved now fault
      split at hstep
      · rename_i hfailed
        cases hstep
        have hmoves := s.ledgers.moves_persistObjectBatchLedger run.request.input.batchId now
          fault (withResults run.results)
        refine inv_goTo hledger ⟨plan, ?_⟩
        exact (hfinishing.toReserved.failed (LedgerState.persistObjectBatchLedger_error hfailed)
          hmoves).aside (aside_running _ _ _)
      · rename_i hok
        cases hstep
        obtain ⟨existing, hget, hholds⟩ := LedgerState.persistObjectBatchLedger_ok hok
        obtain ⟨hobjects, hstate⟩ := hfinishing.own existing hget
        refine inv_goTo hledger ⟨plan, hplan, ?_⟩
        exact (hfinishing.written hholds hobjects hstate).aside (aside_running _ _ _)
    · cases hstep
  · cases hstep

/-- The loop is through: every planned item has a result. -/
theorem inv_next (h : s.Inv) (hstep : s.step .next = some s') : s'.Inv := by
  simp only [step] at hstep
  split at hstep
  · rename_i run hrunning
    split at hstep
    · rename_i hphase
      have hrun := h.running run hrunning
      rw [RunInv, hphase] at hrun
      obtain ⟨plan, hplan, hworking⟩ := hrun
      cases hstep
      refine inv_goTo h.ledger ⟨plan, hplan, ?_⟩
      exact (finishing_of_working hworking).aside (aside_running _ _ _)
    · cases hstep
  · cases hstep

theorem inv_complete (h : s.Inv) {fault : Option FileFault}
    (hstep : s.step (.complete fault) = some s') : s'.Inv := by
  simp only [step] at hstep
  split at hstep
  · rename_i run hrunning
    split at hstep
    · rename_i plan hphase hplan
      have hrun := h.running run hrunning
      rw [RunInv, hphase] at hrun
      obtain ⟨plan', hplan', hfinishing⟩ := hrun
      obtain rfl := Option.some.inj (hplan.symm.trans hplan')
      have hledger := @LedgerInv.completed _ s plan _ _ h.ledger run.request hfinishing fault
      split at hstep
      · rename_i hfailed
        cases hstep
        have hmoves := s.ledgers.moves_persistObjectBatchCompletion run.request.input.batchId
          (executePayload run.request plan run.results) fault
        refine inv_goTo hledger ⟨plan, ?_⟩
        exact (hfinishing.toReserved.failed (LedgerState.persistObjectBatchCompletion_error hfailed)
          hmoves).aside (aside_running _ _ _)
      · cases hstep
        have hanswers : ∀ other payload, (other, .ok payload) ∈
            (run.request, .ok (executePayload run.request plan run.results)) :: s.answers →
              s.Accounted other payload := by
          intro other payload hin
          rcases List.mem_cons.mp hin with heq | hold
          · obtain ⟨rfl, hpayload⟩ := Prod.mk.inj heq
            obtain rfl := Except.ok.inj hpayload
            obtain ⟨planId, hpreviewed⟩ := hfinishing.previewed
            exact ⟨rfl, planId, plan, hpreviewed,
              executePayload_accounts hfinishing.order hfinishing.final⟩
          · exact h.ledger.answered other payload hold
        exact inv_of_idle (hledger.movedNothing (LedgerState.Moves.refl _) hanswers) rfl
    · cases hstep
  · cases hstep

/-- A rejection: no marker was written, so nothing was changed. -/
theorem inv_reject (h : s.Inv) {now : Nat} {first second : Option FileFault}
    (hstep : s.step (.reject now first second) = some s') : s'.Inv := by
  simp only [step] at hstep
  split at hstep
  · rename_i run hrunning
    split at hstep
    · rename_i error hphase
      have hrun := h.running run hrunning
      rw [RunInv, hphase] at hrun
      obtain ⟨plan, hreserved, hmarker⟩ := hrun
      rw [hmarker] at hreserved
      cases hstep
      exact inv_leave_error (h.ledger.rejected hreserved)
    · cases hstep
  · cases hstep

theorem inv_interrupt (h : s.Inv) {now : Nat} {fault : Option FileFault}
    (hstep : s.step (.interrupt now fault) = some s') : s'.Inv := by
  simp only [step] at hstep
  split at hstep
  · rename_i run hrunning
    split at hstep
    · rename_i message recoveryMessage hphase
      have hrun := h.running run hrunning
      rw [RunInv, hphase] at hrun
      obtain ⟨plan, hreserved⟩ := hrun
      have hledger := @LedgerInv.interrupted _ s _ plan _ _ h.ledger hreserved now recoveryMessage
        fault
      split at hstep
      · cases hstep
        exact inv_leave_error hledger
      · cases hstep
        exact inv_leave_error hledger
    · cases hstep
  · cases hstep

/-- Every step keeps the invariant, if a cleanup before the marker has nothing to change. -/
theorem inv_step {action : BatchAction Objects} (h : s.Inv) (hguard : s.cleanUpGuard action)
    (hstep : s.step action = some s') : s'.Inv := by
  cases action with
  | preview planId plan =>
    simp only [step] at hstep
    cases hstep
    exact inv_preview h planId plan
  | lookup request now fault => exact inv_lookup h hstep
  | begin request now fault => exact inv_begin h hstep
  | preflight now fingerprint answers => exact inv_preflight h hstep
  | reserve now fault => exact inv_reserve h hstep
  | revalidate answer => exact inv_revalidate h hstep
  | persistMarker now fault => exact inv_persistMarker h hstep
  | skip => exact inv_skip h hstep
  | cleanUp warnings => exact inv_cleanUp h hguard hstep
  | failCleanUp error world => exact inv_failCleanUp h hguard hstep
  | act outcome world => exact inv_act h hstep
  | saveResult now fault => exact inv_saveResult h hstep
  | saveStopped now fault => exact inv_saveStopped h hstep
  | next => exact inv_next h hstep
  | complete fault => exact inv_complete h hstep
  | reject now first second => exact inv_reject h hstep
  | interrupt now fault => exact inv_interrupt h hstep
  | drop =>
    simp only [step] at hstep
    cases hstep
    exact inv_drop h
  | persistControlPlane fault =>
    simp only [step] at hstep
    cases hstep
    exact inv_persistControlPlane h fault
  | changeWorld world =>
    simp only [step] at hstep
    cases hstep
    exact inv_changeWorld h world
  | restart now => exact inv_restart h hstep

end BatchSystem

theorem always_ledgerTruthful {Objects : Type} {world : BatchWorld Objects}
    {actions : List (BatchAction Objects)}
    (hguarded : Guarded BatchSystem.step BatchSystem.cleanUpGuard (BatchSystem.initial world)
      actions) :
    Always BatchSystem.step LedgerTruthful (BatchSystem.initial world) actions :=
  always_of_guarded (fun _ _ _ h hguard hstep => BatchSystem.inv_step h hguard hstep)
    (fun _ h => h.truthful) (BatchSystem.inv_initial world) hguarded

/-! ## Section 6: Sample runs -/

def sampleBatchObject : ObjectBatchPlannedObject where
  ordinal := 0
  source := { bucket := "bucket-a", key := "old.txt" }
  destination := none
  identity := { etag := none, size := 3, lastModified := none }
  readSource := .unicom
  homeProvider := .unicom

/-- The plan to delete one object. -/
def sampleBatchPlan : ObjectBatchPlanRecord where
  action := .delete
  objects := [sampleBatchObject]
  topologyFingerprint := "topology"
  expiresAtUnixMs := 1000
  ordinals_nodup := by decide

def sampleBatchRequest : BatchRequest where
  principal := "admin"
  input :=
    { planId := "plan", batchId := "batch", operator := none, ticket := none, notes := none }
  fingerprint := "fingerprint"

def sampleMissing : Revalidation where
  status := .alreadyMissing
  reasonCode := some "source_missing"
  message := none
  warnings := []

/-- A batch whose only object is already missing, up to the cleanup of its metadata. -/
def cleanUpSample : List (BatchAction Unit) :=
  [.preview "plan" sampleBatchPlan, .begin sampleBatchRequest 10 none,
    .preflight 10 "topology" (fun _ => sampleMissing), .reserve 10 none,
    .revalidate sampleMissing, .cleanUp []]

def emptyBatchWorld : BatchWorld Unit := ⟨(), .openFresh {}⟩

/-- A placement of the object that the provider no longer has. -/
def placedBatchWorld : BatchWorld Unit :=
  ⟨(), (MetadataStore.openFresh {}).upsertObjectPlacement "unicom" "bucket-a" "old.txt" 5⟩

theorem always_ledgerTruthful_nothingToCleanUp :
    Always BatchSystem.step LedgerTruthful (BatchSystem.initial emptyBatchWorld)
      (cleanUpSample ++ [.restart 20]) :=
  always_ledgerTruthful
    (guarded_cons rfl trivial (guarded_cons rfl trivial (guarded_cons rfl trivial
      (guarded_cons rfl trivial (guarded_cons rfl trivial
        (guarded_cons rfl (fun _ _ _ _ _ _ _ => ⟨rfl, rfl, rfl, rfl⟩)
          (guarded_cons rfl trivial trivial)))))))

/-- The cleanup of an item whose source is gone deletes its placement; after a restart the record
of the batch says that no provider call was started. -/
theorem cleanedUpThenRestarted_rejected :
    ¬ ∀ (world : BatchWorld Unit) (actions : List (BatchAction Unit)),
      Always BatchSystem.step LedgerTruthful (BatchSystem.initial world) actions := by
  intro h
  have halways := h placedBatchWorld (cleanUpSample ++ [.restart 20])
  have hrun : (run BatchSystem.step (BatchSystem.initial placedBatchWorld)
      (cleanUpSample ++ [.restart 20])).map (fun s =>
        ((s.ledgers.memory.get "batch").map (·.state), s.forgotten,
          s.effects.map (fun effect =>
            (effect.batchId, effect.before.store.objectPlacements.rows.length,
              effect.after.store.objectPlacements.rows.length)))) =
        some (some .rejected, [], [("batch", 1, 0)]) := by
    decide +kernel
  obtain ⟨s, hs, hfinal⟩ := Option.map_eq_some_iff.mp hrun
  simp only [Prod.mk.injEq] at hfinal
  obtain ⟨hrecord, hforgotten, heffects⟩ := hfinal
  obtain ⟨record, hget, hstate⟩ := Option.map_eq_some_iff.mp hrecord
  have htruthful : LedgerTruthful s := halways.of_run hs
  have hquiet : s.NoEffect "batch" :=
    htruthful.rejected "batch" record (by simp [hforgotten]) (Or.inl hget) hstate
  have hmem : ("batch", 1, 0) ∈ s.effects.map (fun effect =>
      (effect.batchId, effect.before.store.objectPlacements.rows.length,
        effect.after.store.objectPlacements.rows.length)) := by
    rw [heffects]
    exact List.mem_singleton_self _
  obtain ⟨effect, hin, heq⟩ := List.mem_map.mp hmem
  simp only [Prod.mk.injEq] at heq
  have hsame := (hquiet effect hin heq.1).placements
  rw [hsame, heq.2.1] at heq
  cases heq.2.2

end Netdisk2Blob.Gateway
