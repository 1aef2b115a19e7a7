import Netdisk2Blob.Gateway.BatchMoves
import Netdisk2Blob.Gateway.BatchRuns
import Mathlib.Data.List.Perm.Subperm

/-!
# Reports of a Batch

A batch ends with a response, or with a report of what is known after an interruption. Both
list every planned ordinal once, provided that the results saved before are results of
different planned objects.

## Main results

- `recoverPayloadForRecord_accounts`, `executePayload_accounts`: the two reports
- `RecordSound`: what a record has to satisfy for a restart to make such a report of it, and
  how the operations keep it
-/

namespace Netdisk2Blob.Gateway

open Library ControlPlane

/-! ## Section 1: Reports -/

def plannedOrdinals (objects : List ObjectBatchPlannedObject) : List Nat :=
  objects.map (·.ordinal)

def itemOrdinals (items : List ObjectBatchItemPayload) : List Nat := items.map (·.ordinal)

/-- The report of an interrupted batch lists every planned ordinal once: with a saved result,
or as unresolved. -/
structure ObjectBatchRecoveryPayload.Accounts (recovery : ObjectBatchRecoveryPayload)
    (objects : List ObjectBatchPlannedObject) : Prop where
  nodup : (plannedOrdinals objects).Nodup
  listed : (itemOrdinals recovery.savedResults ++
    recovery.unresolvedItems.map (·.ordinal)).Perm (plannedOrdinals objects)

/-- The response of a completed batch lists every planned ordinal once, and its counts add
up. -/
structure ObjectBatchExecutePayload.Accounts (payload : ObjectBatchExecutePayload)
    (objects : List ObjectBatchPlannedObject) : Prop where
  nodup : (plannedOrdinals objects).Nodup
  listed : (itemOrdinals payload.results).Perm (plannedOrdinals objects)
  requested : payload.requested = objects.length
  counted : payload.completed + payload.alreadyMissing + payload.noOp + payload.failed +
    payload.staleConflict + payload.notStarted = payload.requested

theorem nodup_of_subperm {saved planned : List Nat} (hnodup : planned.Nodup)
    (hsub : saved.Subperm planned) : saved.Nodup := by
  obtain ⟨same, hperm, hsublist⟩ := hsub
  exact hperm.nodup_iff.mp (hnodup.sublist hsublist)

/-- What is saved and what is missing is the whole plan. -/
theorem append_missing_perm {saved planned : List Nat} (hnodup : planned.Nodup)
    (hsub : saved.Subperm planned) :
    (saved ++ planned.filter (fun ordinal => !saved.contains ordinal)).Perm planned := by
  have hdisjoint : saved.Disjoint (planned.filter (fun ordinal => !saved.contains ordinal)) := by
    intro ordinal hsaved hmissing
    have hnot := (List.mem_filter.mp hmissing).2
    simp [hsaved] at hnot
  have hboth := (nodup_of_subperm hnodup hsub).append (hnodup.filter _) hdisjoint
  apply (List.perm_ext_iff_of_nodup hboth hnodup).mpr
  intro ordinal
  rw [List.mem_append, List.mem_filter]
  constructor
  · rintro (hsaved | hmissing)
    · exact hsub.subset hsaved
    · exact hmissing.1
  · intro hplanned
    by_cases hsaved : ordinal ∈ saved
    · exact Or.inl hsaved
    · exact Or.inr ⟨hplanned, by simpa using hsaved⟩

theorem recoverPayloadForRecord_accounts {batchId : String} {record : ObjectBatchLedgerRecord}
    (hnodup : (plannedOrdinals record.objects).Nodup)
    (hsub : (itemOrdinals record.results).Subperm (plannedOrdinals record.objects)) :
    (recoverPayloadForRecord batchId record).Accounts record.objects where
  nodup := hnodup
  listed := by
    have hunresolved : (recoverPayloadForRecord batchId record).unresolvedItems.map (·.ordinal) =
        (plannedOrdinals record.objects).filter
          (fun ordinal => !(itemOrdinals record.results).contains ordinal) := by
      simp only [recoverPayloadForRecord, plannedOrdinals, List.map_map, List.filter_map,
        itemOrdinals]
      rfl
    rw [hunresolved]
    exact append_missing_perm hnodup hsub

theorem itemOrdinals_sortByOrdinal (items : List ObjectBatchItemPayload) :
    (itemOrdinals (sortByOrdinal items)).Perm (itemOrdinals items) :=
  (List.perm_insertionSort _ items).map _

theorem mem_sortByOrdinal {items : List ObjectBatchItemPayload} {item : ObjectBatchItemPayload} :
    item ∈ sortByOrdinal items ↔ item ∈ items :=
  (List.perm_insertionSort _ items).mem_iff

theorem missing_eq {plan : ObjectBatchPlanRecord} {results : List ObjectBatchItemPayload} :
    plan.objects.filter
      (fun candidate => !results.any (fun item => item.ordinal == candidate.ordinal)) =
      plan.objects.filter
        (fun candidate => !(itemOrdinals results).contains candidate.ordinal) := by
  apply List.filter_congr
  intro candidate _
  rw [itemOrdinals, List.contains_eq_any_beq, List.any_map]
  congr 1
  congr 1
  funext item
  exact Bool.beq_comm

theorem withNotStarted_perm {plan : ObjectBatchPlanRecord}
    {results : List ObjectBatchItemPayload}
    (hsub : (itemOrdinals results).Subperm (plannedOrdinals plan.objects)) :
    (itemOrdinals (withNotStarted plan results)).Perm (plannedOrdinals plan.objects) := by
  refine (itemOrdinals_sortByOrdinal _).trans ?_
  rw [missing_eq, itemOrdinals, List.map_append, List.map_map]
  have hmissing : (plan.objects.filter
      (fun candidate => !(itemOrdinals results).contains candidate.ordinal)).map
        ((fun item : ObjectBatchItemPayload => item.ordinal) ∘ notStartedItem) =
      (plannedOrdinals plan.objects).filter
        (fun ordinal => !(itemOrdinals results).contains ordinal) := by
    simp only [plannedOrdinals, List.filter_map]
    rfl
  rw [hmissing]
  exact append_missing_perm plan.ordinals_nodup hsub

/-- An item of a batch that stopped was there before, or is one that was not started and has
no result. -/
theorem mem_withNotStarted {plan : ObjectBatchPlanRecord} {results : List ObjectBatchItemPayload}
    {item : ObjectBatchItemPayload} (h : item ∈ withNotStarted plan results) :
    item ∈ results ∨ item.status = .notStarted ∧ item.ordinal ∉ itemOrdinals results := by
  rw [withNotStarted, mem_sortByOrdinal, missing_eq, List.mem_append] at h
  refine h.imp_right ?_
  intro hmissing
  obtain ⟨object, hobject, rfl⟩ := List.mem_map.mp hmissing
  have hnot := (List.mem_filter.mp hobject).2
  exact ⟨rfl, by simpa [notStartedItem, batchItemForPlan] using hnot⟩

/-- The statuses of the items of a batch that has come to its end. -/
def finalStatuses : List ObjectBatchItemStatus :=
  [.completed, .alreadyMissing, .noOp, .failed, .staleConflict, .notStarted]

theorem statusCounts_sum {items : List ObjectBatchItemPayload}
    (hfinal : ∀ item ∈ items, item.status ∈ finalStatuses) :
    statusCount items .completed + statusCount items .alreadyMissing + statusCount items .noOp +
      statusCount items .failed + statusCount items .staleConflict +
      statusCount items .notStarted = items.length := by
  induction items with
  | nil => rfl
  | cons item items ih =>
    have hitem : item.status ∈ finalStatuses := hfinal item List.mem_cons_self
    have hrest := ih (fun other hother => hfinal other (List.mem_cons_of_mem _ hother))
    simp only [statusCount, List.countP_cons, List.length_cons] at hrest ⊢
    -- one of the six counts counts the item
    simp only [finalStatuses, List.mem_cons, List.not_mem_nil, or_false] at hitem
    rcases hitem with h | h | h | h | h | h
    all_goals
      simp [h]
      omega

theorem executePayload_accounts {request : BatchRequest} {plan : ObjectBatchPlanRecord}
    {results : List ObjectBatchItemPayload}
    (hperm : (itemOrdinals results).Perm (plannedOrdinals plan.objects))
    (hfinal : ∀ item ∈ results, item.status ∈ finalStatuses) :
    (executePayload request plan results).Accounts plan.objects where
  nodup := plan.ordinals_nodup
  listed := hperm
  requested := rfl
  counted := by
    have hlength := hperm.length_eq
    simp only [itemOrdinals, plannedOrdinals, List.length_map] at hlength
    exact (statusCounts_sum hfinal).trans hlength

/-! ## Section 2: Records -/

/-- A record is of a plan that was previewed, and accounts for the objects of the plan. -/
structure RecordSound (previewed : List (String × ObjectBatchPlanRecord)) (batchId : String)
    (record : ObjectBatchLedgerRecord) : Prop where
  planned : ∃ plan, (record.planId, plan) ∈ previewed ∧ record.objects = plan.objects
  results : (itemOrdinals record.results).Subperm (plannedOrdinals record.objects)
  interrupted : record.state = .interrupted → ∃ recovery, record.recovery = some recovery ∧
    recovery.savedResults = record.results ∧ recovery.Accounts record.objects
  completed : record.state = .completed → ∃ payload, record.response = some payload ∧
    payload.batchId = batchId ∧ payload.Accounts record.objects

/-- A restart would say of the record, or it says, that no provider call was started. -/
def ObjectBatchLedgerRecord.Silent (record : ObjectBatchLedgerRecord) : Prop :=
  record.state = .rejected ∨
    record.state = .inProgress ∧ record.providerCallStartedAtUnixMs = none

namespace RecordSound

variable {previewed previewed' : List (String × ObjectBatchPlanRecord)} {batchId : String}
  {record : ObjectBatchLedgerRecord}

theorem nodup (h : RecordSound previewed batchId record) :
    (plannedOrdinals record.objects).Nodup := by
  obtain ⟨plan, -, hobjects⟩ := h.planned
  rw [hobjects]
  exact plan.ordinals_nodup

theorem mono (h : RecordSound previewed batchId record)
    (hsub : ∀ entry ∈ previewed, entry ∈ previewed') : RecordSound previewed' batchId record where
  planned := h.planned.imp (fun _ hplan => ⟨hsub _ hplan.1, hplan.2⟩)
  results := h.results
  interrupted := h.interrupted
  completed := h.completed

theorem reserved {planId fingerprint : String} {plan : ObjectBatchPlanRecord} {now : Nat}
    (hplan : (planId, plan) ∈ previewed) :
    RecordSound previewed batchId (LedgerState.reservedRecord planId plan fingerprint now) where
  planned := ⟨plan, hplan, rfl⟩
  results := List.nil_subperm
  interrupted := nofun
  completed := nofun

/-- New results, or a marker, in a record in progress. -/
theorem inProgress {record' : ObjectBatchLedgerRecord} (h : RecordSound previewed batchId record)
    (hplan : record'.planId = record.planId) (hobjects : record'.objects = record.objects)
    (hstate : record'.state = .inProgress ∨ record'.state = .rejected)
    (hresults : (itemOrdinals record'.results).Subperm (plannedOrdinals record.objects)) :
    RecordSound previewed batchId record' where
  planned := by
    rw [hplan, hobjects]
    exact h.planned
  results := hobjects ▸ hresults
  interrupted := by
    intro hinterrupted
    rcases hstate with hstate | hstate <;> simp [hstate] at hinterrupted
  completed := by
    intro hcompleted
    rcases hstate with hstate | hstate <;> simp [hstate] at hcompleted

theorem interruptedWith {results : List ObjectBatchItemPayload} {message : Option String}
    {now : Nat} (h : RecordSound previewed batchId record)
    (hresults : (itemOrdinals results).Subperm (plannedOrdinals record.objects)) :
    RecordSound previewed batchId (LedgerState.updated now
      (LedgerState.interruptedWith batchId results message) record) where
  planned := h.planned
  results := hresults
  interrupted := fun _ => ⟨_, rfl, rfl,
    @recoverPayloadForRecord_accounts batchId { record with results := results } h.nodup hresults⟩
  completed := nofun

theorem completedWith {payload : ObjectBatchExecutePayload}
    (h : RecordSound previewed batchId record) (hbatch : payload.batchId = batchId)
    (haccounts : payload.Accounts record.objects) :
    RecordSound previewed batchId (LedgerState.completedWith payload record) where
  planned := h.planned
  results := haccounts.listed.subperm
  interrupted := nofun
  completed := fun _ => ⟨payload, rfl, hbatch, haccounts⟩

theorem recovered {now : Nat} (h : RecordSound previewed batchId record) :
    RecordSound previewed batchId (recoverRecord now batchId record) := by
  rw [recoverRecord]
  split_ifs with hstate
  · exact h
  · split
    · exact h.inProgress rfl rfl (Or.inr rfl) h.results
    · exact
        { planned := h.planned
          results := h.results
          interrupted := fun _ => ⟨_, rfl, rfl,
            @recoverPayloadForRecord_accounts batchId { record with state := .interrupted }
              h.nodup h.results⟩
          completed := fun hcompleted => by cases hcompleted }

end RecordSound

/-- What a restart makes of a record has the same results. -/
theorem recoverRecord_results {now : Nat} {batchId : String} {record : ObjectBatchLedgerRecord} :
    (recoverRecord now batchId record).results = record.results := by
  rw [recoverRecord]
  split_ifs
  · rfl
  · split <;> rfl

/-- A restart makes silent what was silent, and nothing else. -/
theorem silent_of_silent_recoverRecord {now : Nat} {batchId : String}
    {record : ObjectBatchLedgerRecord} (h : (recoverRecord now batchId record).Silent) :
    record.Silent := by
  rw [recoverRecord] at h
  split_ifs at h with hstate
  · exact h
  · split at h
    · exact Or.inr ⟨not_not.mp hstate, ‹_›⟩
    · rcases h with hrejected | hrunning
      · cases hrejected
      · cases hrunning.1

end Netdisk2Blob.Gateway
