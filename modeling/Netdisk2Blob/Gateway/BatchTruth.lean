import Netdisk2Blob.Gateway.BatchReports
import Mathlib.Data.List.Count

/-!
# The Invariant of the Batch Ledger

An id under which an action was started is stored in memory and in the file until pruning
removes it, and the request that has the lock knows a result for every action started under
its id. What a record says of the actions of its batch then stays so, whatever is written.

The one thing that does not follow is that a record without a marker had no effects
(`LedgerInv.acted`).

## Contents

- `LedgerTruthful`: what the ledger has to say
- `LedgerInv`, `RunInv`: the invariant of the ledger, and of the request at every point
- `Aside`: steps that write nothing; `Working.push`, `Working.acted`: the items
- `LedgerInv.saved`, `LedgerInv.rejected` and the like: the writes of a request
-/

namespace Netdisk2Blob.Gateway

open Library Blob Policy ControlPlane Metadata

namespace BatchSystem

variable {Objects : Type}

/-! ## Section 1: Truth of the ledger -/

/-- No action of the batch changed an object, a placement, a logical record or a plan. -/
def NoEffect (s : BatchSystem Objects) (batchId : String) : Prop :=
  ∀ effect ∈ s.effects, effect.batchId = batchId → SameObjects effect.before effect.after

/-- A response lists the items of a plan that was previewed. -/
def Accounted (s : BatchSystem Objects) (request : BatchRequest)
    (payload : ObjectBatchExecutePayload) : Prop :=
  payload.batchId = request.input.batchId ∧
    ∃ planId plan, (planId, plan) ∈ s.previewed ∧ payload.Accounts plan.objects

end BatchSystem

/-- At most one start of each action, and records that tell what happened. -/
structure LedgerTruthful {Objects : Type} (s : BatchSystem Objects) : Prop where
  atMostOnce : ∀ batchId ordinal, batchId ∉ s.forgotten →
    s.started.count (batchId, ordinal) ≤ 1
  planned : ∀ batchId record, s.ledgers.Holds batchId record →
    ∃ plan, (record.planId, plan) ∈ s.previewed ∧ record.objects = plan.objects
  rejected : ∀ batchId record, batchId ∉ s.forgotten → s.ledgers.Holds batchId record →
    record.state = .rejected → s.NoEffect batchId
  interrupted : ∀ batchId record, s.ledgers.Holds batchId record →
    record.state = .interrupted → ∃ recovery, record.recovery = some recovery ∧
      recovery.Accounts record.objects ∧
        ∀ item ∈ recovery.savedResults, item.status = .notStarted → batchId ∉ s.forgotten →
          (batchId, item.ordinal) ∉ s.started
  completed : ∀ batchId record, s.ledgers.Holds batchId record →
    record.state = .completed → ∃ payload, record.response = some payload ∧
      payload.Accounts record.objects
  answered : ∀ request payload, (request, .ok payload) ∈ s.answers → s.Accounted request payload

namespace BatchSystem

variable {Objects : Type} {s s' : BatchSystem Objects} {batchId : String}
  {plan : ObjectBatchPlanRecord} {results : List ObjectBatchItemPayload} {marker : Bool}
  {remaining : List ObjectBatchPlannedObject} {record : ObjectBatchLedgerRecord}

/-! ## Section 2: The invariant of the ledger -/

/-- What a record says of the actions of its batch is so. -/
structure RecordTrue (s : BatchSystem Objects) (batchId : String)
    (record : ObjectBatchLedgerRecord) : Prop where
  silent : record.Silent → s.NoEffect batchId
  notStarted : ∀ item ∈ record.results, item.status = .notStarted →
    (batchId, item.ordinal) ∉ s.started

structure LedgerInv (s : BatchSystem Objects) : Prop where
  plans : ∀ entry ∈ s.plans, entry ∈ s.previewed
  sound : ∀ id record, s.ledgers.Holds id record → RecordSound s.previewed id record
  truthful : ∀ id record, id ∉ s.forgotten → s.ledgers.Holds id record → s.RecordTrue id record
  stored : ∀ id ordinal, id ∉ s.forgotten → (id, ordinal) ∈ s.started → s.ledgers.Stores id
  effects : ∀ effect ∈ s.effects, (effect.batchId, effect.ordinal) ∈ s.started
  once : ∀ id ordinal, id ∉ s.forgotten → s.started.count (id, ordinal) ≤ 1
  answered : ∀ request payload, (request, .ok payload) ∈ s.answers → s.Accounted request payload

/-- An id that is not in memory has started nothing. -/
theorem LedgerInv.not_started (h : s.LedgerInv) (hforgotten : batchId ∉ s.forgotten)
    (hnone : s.ledgers.memory.get batchId = none) (ordinal : Nat) :
    (batchId, ordinal) ∉ s.started :=
  fun hstarted => (h.stored batchId ordinal hforgotten hstarted).1 hnone

theorem LedgerInv.noEffect (h : s.LedgerInv) (hforgotten : batchId ∉ s.forgotten)
    (hnone : s.ledgers.memory.get batchId = none) : s.NoEffect batchId := by
  rintro effect heffect rfl
  exact absurd (h.effects effect heffect) (h.not_started hforgotten hnone effect.ordinal)

/-- An operation on the ledger, with whatever answers it leads to. -/
theorem LedgerInv.moved (h : s.LedgerInv) {ledgers : LedgerState} {pruned : List String}
    {writes : String → ObjectBatchLedgerRecord → Prop} {running : Option BatchRun}
    {answers : List (BatchRequest × Except ObjectBatchApiError ObjectBatchExecutePayload)}
    (hmoves : s.ledgers.Moves ledgers pruned writes)
    (hsound : ∀ id record, writes id record → RecordSound s.previewed id record)
    (htrue : ∀ id record, id ∉ s.forgotten → writes id record → s.RecordTrue id record)
    (hanswers : ∀ request payload, (request, .ok payload) ∈ answers →
      s.Accounted request payload) :
    LedgerInv { s with
      ledgers := ledgers
      forgotten := pruned ++ s.forgotten
      running := running
      answers := answers } where
  plans := h.plans
  sound := by
    intro id record hheld
    exact (hmoves.holds hheld).elim (h.sound id record) (hsound id record)
  truthful := by
    intro id record hforgotten hheld
    have hkept : id ∉ s.forgotten := fun hid => hforgotten (List.mem_append_right _ hid)
    have htruth : s.RecordTrue id record :=
      (hmoves.holds hheld).elim (h.truthful id record hkept) (htrue id record hkept)
    exact ⟨htruth.silent, htruth.notStarted⟩
  stored := by
    intro id ordinal hforgotten hstarted
    have hforgotten' : id ∉ pruned ++ s.forgotten := hforgotten
    rw [List.mem_append, not_or] at hforgotten'
    exact hmoves.stores id hforgotten'.1 (h.stored id ordinal hforgotten'.2 hstarted)
  effects := h.effects
  once := fun id ordinal hforgotten =>
    h.once id ordinal (fun hid => hforgotten (List.mem_append_right _ hid))
  answered := hanswers

/-- An operation that writes nothing of its own. -/
theorem LedgerInv.movedNothing (h : s.LedgerInv) {ledgers : LedgerState} {pruned : List String}
    {running : Option BatchRun}
    {answers : List (BatchRequest × Except ObjectBatchApiError ObjectBatchExecutePayload)}
    (hmoves : s.ledgers.Moves ledgers pruned LedgerState.writesNothing)
    (hanswers : ∀ request payload, (request, .ok payload) ∈ answers →
      s.Accounted request payload) :
    LedgerInv { s with
      ledgers := ledgers
      forgotten := pruned ++ s.forgotten
      running := running
      answers := answers } :=
  h.moved hmoves (fun _ _ hwrites => hwrites.elim) (fun _ _ _ hwrites => hwrites.elim) hanswers

/-- The answer of a completed record is its response. -/
theorem existingObjectBatchResult_ok {fingerprint : String}
    {payload : ObjectBatchExecutePayload}
    (h : existingObjectBatchResult record batchId fingerprint = .ok payload) :
    record.state = .completed ∧ record.response = some payload := by
  rw [existingObjectBatchResult] at h
  dsimp only at h
  split_ifs at h
  split at h
  · rename_i hstate
    split at h
    · rename_i hresponse
      exact ⟨hstate, hresponse.trans (congrArg some (Except.ok.inj h))⟩
    · cases h
  · cases h
  · cases h
  · cases h

theorem LedgerInv.accounted_existing (h : s.LedgerInv) {request : BatchRequest}
    {payload : ObjectBatchExecutePayload}
    (hheld : s.ledgers.Holds request.input.batchId record)
    (hok : existingObjectBatchResult record request.input.batchId request.fingerprint =
      .ok payload) : s.Accounted request payload := by
  obtain ⟨hstate, hresponse⟩ := existingObjectBatchResult_ok hok
  have hsound := h.sound _ _ hheld
  obtain ⟨plan, hplan, hobjects⟩ := hsound.planned
  obtain ⟨saved, hsaved, hbatch, haccounts⟩ := hsound.completed hstate
  obtain rfl := Option.some.inj (hresponse.symm.trans hsaved)
  exact ⟨hbatch, record.planId, plan, hplan, hobjects ▸ haccounts⟩

/-- An error answers nothing with a response. -/
theorem LedgerInv.answered_error (h : s.LedgerInv) {request : BatchRequest}
    {error : ObjectBatchApiError} (other : BatchRequest) (payload : ObjectBatchExecutePayload)
    (hin : (other, .ok payload) ∈ (request, .error error) :: s.answers) :
    s.Accounted other payload := by
  rcases List.mem_cons.mp hin with heq | hin
  · cases heq
  · exact h.answered other payload hin

/-! ## Section 3: The invariant of the request that has the lock -/

/-- A record of the batch was reserved, and is the request's own. -/
structure Reserved (s : BatchSystem Objects) (batchId : String) (plan : ObjectBatchPlanRecord)
    (results : List ObjectBatchItemPayload) (marker : Bool) : Prop where
  previewed : ∃ planId, (planId, plan) ∈ s.previewed
  own : ∀ record, s.ledgers.memory.get batchId = some record →
    record.objects = plan.objects ∧ record.state = .inProgress
  stores : batchId ∉ s.forgotten → s.ledgers.Stores batchId
  quiet : marker = false → batchId ∉ s.forgotten → s.NoEffect batchId
  part : (itemOrdinals results).Subperm (plannedOrdinals plan.objects)
  notStarted : batchId ∉ s.forgotten → ∀ item ∈ results, item.status = .notStarted →
    (batchId, item.ordinal) ∉ s.started

/-- The statuses of items that were gone through. -/
def doneStatuses : List ObjectBatchItemStatus :=
  [.completed, .alreadyMissing, .noOp, .failed, .staleConflict]

/-- The request is at work on what remains of the plan. -/
structure Working (s : BatchSystem Objects) (batchId : String) (plan : ObjectBatchPlanRecord)
    (results : List ObjectBatchItemPayload) (marker : Bool)
    (remaining : List ObjectBatchPlannedObject) : Prop
    extends Reserved s batchId plan results marker where
  order : (itemOrdinals results ++ plannedOrdinals remaining).Perm (plannedOrdinals plan.objects)
  done : ∀ item ∈ results, item.status ∈ doneStatuses
  known : batchId ∉ s.forgotten → ∀ ordinal, (batchId, ordinal) ∈ s.started →
    ordinal ∈ itemOrdinals results
  marked : marker = true → batchId ∉ s.forgotten → ∀ record, s.ledgers.Holds batchId record →
    ¬ record.Silent
  worked : batchId ∉ s.forgotten → ∀ record, s.ledgers.Holds batchId record →
    ∀ item ∈ record.results, item.status ≠ .notStarted

/-- The request has a result for every item. -/
structure Finishing (s : BatchSystem Objects) (batchId : String) (plan : ObjectBatchPlanRecord)
    (results : List ObjectBatchItemPayload) (marker : Bool) : Prop
    extends Reserved s batchId plan results marker where
  order : (itemOrdinals results).Perm (plannedOrdinals plan.objects)
  final : ∀ item ∈ results, item.status ∈ finalStatuses

/-- What holds of the request at the point at which it is. -/
def RunInv (s : BatchSystem Objects) (run : BatchRun) : Prop :=
  let batchId := run.request.input.batchId
  match run.phase with
  | .lookedUp =>
    s.ledgers.memory.get batchId = none ∧ run.results = [] ∧ run.markerPersisted = false
  | .preflighted plan =>
    s.ledgers.memory.get batchId = none ∧ run.results = [] ∧ run.markerPersisted = false ∧
      (run.request.input.planId, plan) ∈ s.previewed
  | .next remaining =>
    ∃ plan, run.plan = some plan ∧ Working s batchId plan run.results run.markerPersisted remaining
  | .revalidated object item remaining =>
    item.ordinal = object.ordinal ∧ ∃ plan, run.plan = some plan ∧
      Working s batchId plan run.results run.markerPersisted (object :: remaining)
  | .performed _ remaining =>
    ∃ plan, run.plan = some plan ∧ Working s batchId plan run.results run.markerPersisted remaining
  | .stopped | .finishing =>
    ∃ plan, run.plan = some plan ∧ Finishing s batchId plan run.results run.markerPersisted
  | .rejecting _ =>
    ∃ plan, Reserved s batchId plan run.results run.markerPersisted ∧ run.markerPersisted = false
  | .interrupting _ _ => ∃ plan, Reserved s batchId plan run.results run.markerPersisted

structure Inv (s : BatchSystem Objects) : Prop where
  ledger : s.LedgerInv
  running : ∀ run, s.running = some run → s.RunInv run

theorem not_holds_initial {world : BatchWorld Objects} :
    ¬ (initial world).ledgers.Holds batchId record := by
  simp [initial, LedgerState.Holds]

theorem inv_initial (world : BatchWorld Objects) : (initial world).Inv where
  ledger :=
    { plans := by simp [initial]
      sound := fun _ _ hheld => absurd hheld not_holds_initial
      truthful := fun _ _ _ hheld => absurd hheld not_holds_initial
      stored := by simp [initial]
      effects := by simp [initial]
      once := by simp [initial]
      answered := by simp [initial] }
  running := by simp [initial]

theorem Inv.truthful (h : s.Inv) : LedgerTruthful s where
  atMostOnce := fun id ordinal hforgotten => h.ledger.once id ordinal hforgotten
  planned := fun id record hheld => (h.ledger.sound id record hheld).planned
  rejected := fun id record hforgotten hheld hstate =>
    (h.ledger.truthful id record hforgotten hheld).silent (Or.inl hstate)
  interrupted := by
    intro id record hheld hstate
    obtain ⟨recovery, hrecovery, hsaved, haccounts⟩ :=
      (h.ledger.sound id record hheld).interrupted hstate
    refine ⟨recovery, hrecovery, haccounts, ?_⟩
    intro item hitem hstatus hforgotten
    rw [hsaved] at hitem
    exact (h.ledger.truthful id record hforgotten hheld).notStarted item hitem hstatus
  completed := by
    intro id record hheld hstate
    obtain ⟨payload, hresponse, -, haccounts⟩ :=
      (h.ledger.sound id record hheld).completed hstate
    exact ⟨payload, hresponse, haccounts⟩
  answered := h.ledger.answered

/-! ## Section 4: Steps beside the request -/

/-- From `s` to `s'` records were pruned, and nothing was written or started. -/
structure Aside (s s' : BatchSystem Objects) (pruned : List String) : Prop where
  moves : s.ledgers.Moves s'.ledgers pruned LedgerState.writesNothing
  forgotten : s'.forgotten = pruned ++ s.forgotten
  previewed : ∀ entry ∈ s.previewed, entry ∈ s'.previewed
  started : s'.started = s.started
  effects : s'.effects = s.effects

section Aside

variable {pruned : List String}

theorem Aside.kept (h : s.Aside s' pruned) (hforgotten : batchId ∉ s'.forgotten) :
    batchId ∉ s.forgotten := by
  rw [h.forgotten] at hforgotten
  exact fun hid => hforgotten (List.mem_append_right _ hid)

theorem Aside.holds (h : s.Aside s' pruned) (hheld : s'.ledgers.Holds batchId record) :
    s.ledgers.Holds batchId record :=
  (h.moves.holds hheld).resolve_right id

theorem Aside.memory (h : s.Aside s' pruned)
    (hget : s'.ledgers.memory.get batchId = some record) :
    s.ledgers.memory.get batchId = some record :=
  (h.moves.memory batchId record hget).resolve_right id

theorem Aside.memory_none (h : s.Aside s' pruned)
    (hnone : s.ledgers.memory.get batchId = none) : s'.ledgers.memory.get batchId = none :=
  h.moves.memory_none hnone (fun _ hwrites => hwrites)

theorem Aside.stores (h : s.Aside s' pruned) (hforgotten : batchId ∉ s'.forgotten)
    (hstores : s.ledgers.Stores batchId) : s'.ledgers.Stores batchId := by
  refine h.moves.stores batchId ?_ hstores
  rw [h.forgotten] at hforgotten
  exact fun hid => hforgotten (List.mem_append_left _ hid)

theorem Aside.noEffect (h : s.Aside s' pruned) (hquiet : s.NoEffect batchId) :
    s'.NoEffect batchId := by
  rw [NoEffect, h.effects]
  exact hquiet

theorem Reserved.aside (hrun : s.Reserved batchId plan results marker) (h : s.Aside s' pruned) :
    s'.Reserved batchId plan results marker where
  previewed := hrun.previewed.imp (fun _ hplan => h.previewed _ hplan)
  own := fun record hget => hrun.own record (h.memory hget)
  stores := fun hforgotten => h.stores hforgotten (hrun.stores (h.kept hforgotten))
  quiet := fun hmarker hforgotten => h.noEffect (hrun.quiet hmarker (h.kept hforgotten))
  part := hrun.part
  notStarted := by
    intro hforgotten
    rw [h.started]
    exact hrun.notStarted (h.kept hforgotten)

theorem Working.aside (hrun : s.Working batchId plan results marker remaining)
    (h : s.Aside s' pruned) : s'.Working batchId plan results marker remaining where
  toReserved := hrun.toReserved.aside h
  order := hrun.order
  done := hrun.done
  known := by
    intro hforgotten
    rw [h.started]
    exact hrun.known (h.kept hforgotten)
  marked := fun hmarker hforgotten record hheld =>
    hrun.marked hmarker (h.kept hforgotten) record (h.holds hheld)
  worked := fun hforgotten record hheld =>
    hrun.worked (h.kept hforgotten) record (h.holds hheld)

theorem Finishing.aside (hrun : s.Finishing batchId plan results marker)
    (h : s.Aside s' pruned) : s'.Finishing batchId plan results marker where
  toReserved := hrun.toReserved.aside h
  order := hrun.order
  final := hrun.final

theorem RunInv.aside {run : BatchRun} (hrun : s.RunInv run) (h : s.Aside s' pruned) :
    s'.RunInv run := by
  rw [RunInv] at hrun ⊢
  cases hphase : run.phase with
  | lookedUp =>
    rw [hphase] at hrun
    exact ⟨h.memory_none hrun.1, hrun.2⟩
  | preflighted plan =>
    rw [hphase] at hrun
    exact ⟨h.memory_none hrun.1, hrun.2.1, hrun.2.2.1, h.previewed _ hrun.2.2.2⟩
  | next remaining =>
    rw [hphase] at hrun
    exact hrun.imp (fun _ hplan => ⟨hplan.1, hplan.2.aside h⟩)
  | revalidated object item remaining =>
    rw [hphase] at hrun
    exact hrun.imp_right (Exists.imp (fun _ hplan => ⟨hplan.1, hplan.2.aside h⟩))
  | performed item remaining =>
    rw [hphase] at hrun
    exact hrun.imp (fun _ hplan => ⟨hplan.1, hplan.2.aside h⟩)
  | stopped =>
    rw [hphase] at hrun
    exact hrun.imp (fun _ hplan => ⟨hplan.1, hplan.2.aside h⟩)
  | finishing =>
    rw [hphase] at hrun
    exact hrun.imp (fun _ hplan => ⟨hplan.1, hplan.2.aside h⟩)
  | rejecting error =>
    rw [hphase] at hrun
    exact hrun.imp (fun _ hplan => ⟨hplan.1.aside h, hplan.2⟩)
  | interrupting message recoveryMessage =>
    rw [hphase] at hrun
    exact hrun.imp (fun _ hplan => hplan.aside h)

end Aside

/-- Whoever has the lock and whatever is answered: nothing is written. -/
theorem aside_running (s : BatchSystem Objects) (running : Option BatchRun)
    (answers : List (BatchRequest × Except ObjectBatchApiError ObjectBatchExecutePayload)) :
    s.Aside { s with running := running, answers := answers } [] where
  moves := LedgerState.Moves.refl s.ledgers
  forgotten := rfl
  previewed := fun _ h => h
  started := rfl
  effects := rfl

theorem LedgerInv.running (h : s.LedgerInv) (running : Option BatchRun) :
    LedgerInv { s with running := running } :=
  h.movedNothing (LedgerState.Moves.refl s.ledgers) h.answered

theorem inv_goTo {run : BatchRun} {phase : BatchPhase} (hledger : s.LedgerInv)
    (hrun : (s.goTo run phase).RunInv { run with phase := phase }) : (s.goTo run phase).Inv where
  ledger := hledger.running _
  running := by
    intro other hother
    obtain rfl := Option.some.inj hother
    exact hrun

theorem inv_of_idle (hledger : s.LedgerInv) (hidle : s.running = none) : s.Inv where
  ledger := hledger
  running := by
    intro run hrun
    rw [hidle] at hrun
    cases hrun

/-- Leaving with an error. -/
theorem inv_leave_error {run : BatchRun} {error : ObjectBatchApiError} (hledger : s.LedgerInv) :
    (s.leave run (.error error)).Inv :=
  inv_of_idle (hledger.movedNothing (LedgerState.Moves.refl s.ledgers)
    hledger.answered_error) rfl

/-! ## Section 5: Items -/

theorem Working.fresh {object : ObjectBatchPlannedObject}
    (h : s.Working batchId plan results marker (object :: remaining)) :
    object.ordinal ∉ itemOrdinals results := by
  have hnodup := h.order.nodup_iff.mpr plan.ordinals_nodup
  have hdisjoint := (List.nodup_append.mp hnodup).2.2
  intro hin
  exact hdisjoint object.ordinal hin object.ordinal List.mem_cons_self rfl

theorem itemOrdinals_pushed {item : ObjectBatchItemPayload} :
    (itemOrdinals (sortByOrdinal (results ++ [item]))).Perm
      (itemOrdinals results ++ [item.ordinal]) := by
  refine (itemOrdinals_sortByOrdinal _).trans ?_
  rw [itemOrdinals, List.map_append]
  exact List.Perm.refl _

theorem mem_itemOrdinals_pushed {item : ObjectBatchItemPayload} {ordinal : Nat} :
    ordinal ∈ itemOrdinals (sortByOrdinal (results ++ [item])) ↔
      ordinal ∈ itemOrdinals results ∨ ordinal = item.ordinal := by
  rw [itemOrdinals_pushed.mem_iff, List.mem_append, List.mem_singleton]

theorem done_ne_notStarted {status : ObjectBatchItemStatus} (h : status ∈ doneStatuses) :
    status ≠ .notStarted := by
  rintro rfl
  simp [doneStatuses] at h

/-- The object in hand has a result. -/
theorem Working.push {object : ObjectBatchPlannedObject} {item : ObjectBatchItemPayload}
    (h : s.Working batchId plan results marker (object :: remaining))
    (hordinal : item.ordinal = object.ordinal) (hdone : item.status ∈ doneStatuses) :
    s.Working batchId plan (sortByOrdinal (results ++ [item])) marker remaining := by
  have horder : (itemOrdinals (sortByOrdinal (results ++ [item])) ++
      plannedOrdinals remaining).Perm (plannedOrdinals plan.objects) := by
    refine (itemOrdinals_pushed.append_right _).trans ?_
    rw [List.append_assoc, hordinal]
    exact h.order
  have hall : ∀ other ∈ sortByOrdinal (results ++ [item]), other.status ∈ doneStatuses := by
    intro other hother
    rw [mem_sortByOrdinal, List.mem_append, List.mem_singleton] at hother
    rcases hother with hother | rfl
    · exact h.done other hother
    · exact hdone
  exact
    { previewed := h.previewed
      own := h.own
      stores := h.stores
      quiet := h.quiet
      part := (List.sublist_append_left _ _).subperm.trans horder.subperm
      notStarted := fun _ other hother hstatus =>
        absurd hstatus (done_ne_notStarted (hall other hother))
      order := horder
      done := hall
      known := fun hforgotten ordinal hstarted =>
        mem_itemOrdinals_pushed.mpr (Or.inl (h.known hforgotten ordinal hstarted))
      marked := h.marked
      worked := h.worked }

/-- The actions that an action on one more object makes. -/
theorem mem_started_acted {run : BatchRun} {ordinal : Nat} {world : BatchWorld Objects}
    {entry : String × Nat} :
    entry ∈ (s.acted run ordinal world).started ↔
      entry = (run.request.input.batchId, ordinal) ∨ entry ∈ s.started :=
  List.mem_cons

theorem noEffect_acted_of_ne {run : BatchRun} {ordinal : Nat} {world : BatchWorld Objects}
    (hne : run.request.input.batchId ≠ batchId) (h : s.NoEffect batchId) :
    (s.acted run ordinal world).NoEffect batchId := by
  intro effect heffect hbatch
  rcases List.mem_cons.mp heffect with rfl | hold
  · exact absurd hbatch hne
  · exact h effect hold hbatch

theorem noEffect_acted {run : BatchRun} {ordinal : Nat} {world : BatchWorld Objects}
    (hsame : SameObjects s.world world) (h : s.NoEffect batchId) :
    (s.acted run ordinal world).NoEffect batchId := by
  intro effect heffect hbatch
  rcases List.mem_cons.mp heffect with rfl | hold
  · exact hsame
  · exact h effect hold hbatch

section Acted

variable {run : BatchRun} {ordinal : Nat} {world : BatchWorld Objects}

/-- An action whose object has its result. -/
theorem Working.acted (h : s.Working run.request.input.batchId plan results marker remaining)
    (hin : ordinal ∈ itemOrdinals results)
    (hsame : marker = false → SameObjects s.world world) :
    (s.acted run ordinal world).Working run.request.input.batchId plan results marker
      remaining where
  previewed := h.previewed
  own := h.own
  stores := h.stores
  quiet := fun hmarker hforgotten =>
    noEffect_acted (hsame hmarker) (h.quiet hmarker hforgotten)
  part := h.part
  notStarted := fun _ item hitem hstatus => absurd hstatus (done_ne_notStarted (h.done item hitem))
  order := h.order
  done := h.done
  known := by
    intro hforgotten other hstarted
    rcases mem_started_acted.mp hstarted with heq | hold
    · obtain ⟨-, rfl⟩ := Prod.mk.inj heq
      exact hin
    · exact h.known hforgotten other hold
  marked := h.marked
  worked := h.worked

/-- The records stay truthful when an action is started that was not started before: the record
of its batch is marked, or the action changed nothing. -/
theorem LedgerInv.acted (hledger : s.LedgerInv)
    (h : s.Working run.request.input.batchId plan results marker remaining)
    (hfresh : run.request.input.batchId ∉ s.forgotten →
      (run.request.input.batchId, ordinal) ∉ s.started)
    (hsame : marker = false → SameObjects s.world world) :
    (s.acted run ordinal world).LedgerInv where
  plans := hledger.plans
  sound := hledger.sound
  truthful := by
    intro id record hforgotten hheld
    have htruth := hledger.truthful id record hforgotten hheld
    by_cases hid : run.request.input.batchId = id
    · subst hid
      refine ⟨?_, ?_⟩
      · intro hsilent
        cases hmarker : marker with
        | true => exact absurd hsilent (h.marked hmarker hforgotten record hheld)
        | false => exact noEffect_acted (hsame hmarker) (htruth.silent hsilent)
      · intro item hitem hstatus
        exact absurd hstatus (h.worked hforgotten record hheld item hitem)
    · refine ⟨fun hsilent => noEffect_acted_of_ne hid (htruth.silent hsilent), ?_⟩
      intro item hitem hstatus hstarted
      rcases mem_started_acted.mp hstarted with heq | hold
      · exact hid (Prod.mk.inj heq).1.symm
      · exact htruth.notStarted item hitem hstatus hold
  stored := by
    intro id other hforgotten hstarted
    rcases mem_started_acted.mp hstarted with heq | hold
    · obtain ⟨rfl, -⟩ := Prod.mk.inj heq
      exact h.stores hforgotten
    · exact hledger.stored id other hforgotten hold
  effects := by
    intro effect heffect
    rcases List.mem_cons.mp heffect with rfl | hold
    · exact List.mem_cons_self
    · exact List.mem_cons_of_mem _ (hledger.effects effect hold)
  once := by
    intro id other hforgotten
    change ((run.request.input.batchId, ordinal) :: s.started).count (id, other) ≤ 1
    rw [List.count_cons]
    split_ifs with heq
    · -- the action is new
      obtain ⟨rfl, rfl⟩ := Prod.mk.inj (beq_iff_eq.mp heq)
      rw [List.count_eq_zero.mpr (hfresh hforgotten)]
    · exact hledger.once id other hforgotten
  answered := hledger.answered

end Acted

/-! ## Section 6: Writes of the request -/

/-- The record in memory is changed. -/
theorem LedgerInv.changed (h : s.LedgerInv) {ledgers : LedgerState}
    {change : ObjectBatchLedgerRecord → ObjectBatchLedgerRecord}
    (hmoves : s.ledgers.Moves ledgers [] (s.ledgers.writesChange batchId change))
    (hsound : ∀ existing, s.ledgers.memory.get batchId = some existing →
      RecordSound s.previewed batchId existing → RecordSound s.previewed batchId (change existing))
    (htrue : ∀ existing, s.ledgers.memory.get batchId = some existing → batchId ∉ s.forgotten →
      s.RecordTrue batchId existing → s.RecordTrue batchId (change existing)) :
    (s.withLedgers ledgers).LedgerInv := by
  refine h.moved hmoves ?_ ?_ h.answered
  · rintro id record ⟨rfl, existing, hget, rfl⟩
    exact hsound existing hget (h.sound id existing (Or.inl hget))
  · rintro id record hforgotten ⟨rfl, existing, hget, rfl⟩
    exact htrue existing hget hforgotten (h.truthful id existing hforgotten (Or.inl hget))

theorem Reserved.written (h : s.Reserved batchId plan results marker) {ledgers : LedgerState}
    (hown : ∀ record, ledgers.memory.get batchId = some record →
      record.objects = plan.objects ∧ record.state = .inProgress)
    (hstores : s.ledgers.Stores batchId → ledgers.Stores batchId) :
    (s.withLedgers ledgers).Reserved batchId plan results marker where
  previewed := h.previewed
  own := hown
  stores := fun hforgotten => hstores (h.stores hforgotten)
  quiet := h.quiet
  part := h.part
  notStarted := h.notStarted

/-- A write that failed leaves memory as it was. -/
theorem Reserved.failed (h : s.Reserved batchId plan results marker) {ledgers : LedgerState}
    {writes : String → ObjectBatchLedgerRecord → Prop} (hmemory : ledgers.memory = s.ledgers.memory)
    (hmoves : s.ledgers.Moves ledgers [] writes) :
    (s.withLedgers ledgers).Reserved batchId plan results marker := by
  refine h.written ?_ (hmoves.stores batchId List.not_mem_nil)
  rw [hmemory]
  exact h.own

/-- A write that succeeded, possibly of the marker. -/
theorem Working.written (h : s.Working batchId plan results marker remaining)
    {ledgers : LedgerState} {marker' : Bool} (hholds : ledgers.HoldsOnly batchId record)
    (hobjects : record.objects = plan.objects) (hstate : record.state = .inProgress)
    (hmarker : marker' = false → marker = false)
    (hmarked : marker' = true → batchId ∉ s.forgotten → record.providerCallStartedAtUnixMs ≠ none)
    (hworked : batchId ∉ s.forgotten → ∀ item ∈ record.results, item.status ≠ .notStarted) :
    (s.withLedgers ledgers).Working batchId plan results marker' remaining where
  previewed := h.previewed
  own := by
    intro held hget
    rw [hholds.eq (Or.inl hget)]
    exact ⟨hobjects, hstate⟩
  stores := fun _ => hholds.stores
  quiet := fun hmarker' => h.quiet (hmarker hmarker')
  part := h.part
  notStarted := h.notStarted
  order := h.order
  done := h.done
  known := h.known
  marked := by
    intro hmarker' hforgotten held hheld
    rw [hholds.eq hheld]
    rintro (hrejected | hsilent)
    · rw [hstate] at hrejected
      cases hrejected
    · exact hmarked hmarker' hforgotten hsilent.2
  worked := by
    intro hforgotten held hheld
    rw [hholds.eq hheld]
    exact hworked hforgotten

/-- New results in a record. -/
def withResults (results : List ObjectBatchItemPayload) (record : ObjectBatchLedgerRecord) :
    ObjectBatchLedgerRecord :=
  { record with results := results }

theorem LedgerInv.saved (h : s.LedgerInv) (hrun : s.Reserved batchId plan results marker)
    {now : Nat} {fault : Option FileFault} :
    (s.withLedgers (s.ledgers.persistObjectBatchLedger batchId now fault
      (withResults results)).2).LedgerInv := by
  refine h.changed (s.ledgers.moves_persistObjectBatchLedger batchId now fault _) ?_ ?_
  · intro existing hget hsound
    obtain ⟨hobjects, hstate⟩ := hrun.own existing hget
    exact hsound.inProgress rfl rfl (Or.inl hstate) (hobjects ▸ hrun.part)
  · intro existing _ hforgotten htruth
    exact ⟨htruth.silent, hrun.notStarted hforgotten⟩

/-- A marker in a record. -/
def withMarker (now : Nat) (record : ObjectBatchLedgerRecord) : ObjectBatchLedgerRecord :=
  { record with providerCallStartedAtUnixMs := some now }

theorem LedgerInv.markerPersisted (h : s.LedgerInv)
    (hrun : s.Reserved batchId plan results marker) {now : Nat} {fault : Option FileFault} :
    (s.withLedgers (s.ledgers.persistObjectBatchProviderMarker batchId now fault).2).LedgerInv := by
  have hmoves := s.ledgers.moves_persistObjectBatchLedger batchId now fault (withMarker now)
  refine h.changed hmoves ?_ ?_
  · intro existing hget hsound
    exact hsound.inProgress rfl rfl (Or.inl (hrun.own existing hget).2) hsound.results
  · intro existing hget _ htruth
    refine ⟨?_, htruth.notStarted⟩
    rintro (hrejected | hsilent)
    · have hstate : existing.state = .inProgress := (hrun.own existing hget).2
      have hrejected' : existing.state = .rejected := hrejected
      rw [hstate] at hrejected'
      cases hrejected'
    · cases hsilent.2

theorem LedgerInv.completed (h : s.LedgerInv) {request : BatchRequest}
    (hrun : s.Finishing request.input.batchId plan results marker) {fault : Option FileFault} :
    (s.withLedgers (s.ledgers.persistObjectBatchCompletion request.input.batchId
      (executePayload request plan results) fault).2).LedgerInv := by
  refine h.changed (s.ledgers.moves_persistObjectBatchCompletion _ _ fault) ?_ ?_
  · intro existing hget hsound
    refine hsound.completedWith rfl ?_
    rw [(hrun.own existing hget).1]
    exact executePayload_accounts hrun.order hrun.final
  · intro existing _ hforgotten _
    refine ⟨?_, hrun.notStarted hforgotten⟩
    rintro (hrejected | hsilent)
    · cases hrejected
    · cases hsilent.1

theorem LedgerInv.rejected (h : s.LedgerInv) (hrun : s.Reserved batchId plan results false)
    {now : Nat} {error : ObjectBatchApiError} {first second : Option FileFault} :
    (s.withLedgers (s.ledgers.persistObjectBatchRejection batchId now error results first
      second).2).LedgerInv := by
  refine h.changed (s.ledgers.moves_persistObjectBatchRejection _ _ _ _ first second) ?_ ?_
  · intro existing hget hsound
    refine hsound.inProgress rfl rfl (Or.inr rfl) ?_
    rw [(hrun.own existing hget).1]
    exact hrun.part
  · intro existing _ hforgotten _
    -- no marker was written, so nothing was changed
    exact ⟨fun _ => hrun.quiet rfl hforgotten, hrun.notStarted hforgotten⟩

theorem LedgerInv.interrupted (h : s.LedgerInv) (hrun : s.Reserved batchId plan results marker)
    {now : Nat} {message : Option String} {fault : Option FileFault} :
    (s.withLedgers (s.ledgers.persistObjectBatchInterruption batchId now results message
      fault).2).LedgerInv := by
  refine h.changed (s.ledgers.moves_persistObjectBatchInterruption _ _ _ _ fault) ?_ ?_
  · intro existing hget hsound
    refine hsound.interruptedWith ?_
    rw [(hrun.own existing hget).1]
    exact hrun.part
  · intro existing _ hforgotten _
    refine ⟨?_, hrun.notStarted hforgotten⟩
    rintro (hrejected | hsilent)
    · cases hrejected
    · cases hsilent.1

theorem LedgerInv.reserved (h : s.LedgerInv) {planId fingerprint : String}
    (hget : s.ledgers.memory.get batchId = none) (hplan : (planId, plan) ∈ s.previewed)
    {now : Nat} {fault : Option FileFault} :
    ((s.forget s.ledgers.memory now).withLedgers
      (s.ledgers.reserveObjectBatchLedger batchId planId plan fingerprint now fault).2).LedgerInv := by
  refine h.moved (s.ledgers.moves_reserveObjectBatchLedger batchId planId plan fingerprint now
    fault hget) ?_ ?_ h.answered
  · rintro id record ⟨rfl, rfl⟩
    exact RecordSound.reserved hplan
  · rintro id record hforgotten ⟨rfl, rfl⟩
    exact ⟨fun _ => h.noEffect hforgotten hget, nofun⟩

end BatchSystem

end Netdisk2Blob.Gateway
