import Netdisk2Blob.Gateway.BatchLedger

/-!
# Moves of the Batch Ledger

Every operation on the ledger is summed up by one statement: a record that is in memory or in
the file afterwards was there before or is what the operation writes, and an id that both of
them stored is still stored unless pruning removed it.

## Main results

- `get_insert`, `get_pruneObjectBatchLedger` and the like: the record of an id after a change
- `LedgerState.Moves`, with `trans` and one lemma for each operation
- `LedgerState.HoldsOnly`: after a write that succeeded both sides hold the new record
-/

namespace Netdisk2Blob.Gateway

open Library ControlPlane

/-! ## Section 1: Lookups -/

namespace ObjectBatchLedger

variable {ledger : ObjectBatchLedger} {batchId other : String}

@[simp] theorem get_empty (batchId : String) : (∅ : ObjectBatchLedger).get batchId = none := rfl

theorem get_insert {record : ObjectBatchLedgerRecord} :
    (ledger.insert batchId record).get other =
      if batchId = other then some record else ledger.get other := by
  rw [get, insert, Table.find?_upsert]
  split_ifs
  · rfl
  · rfl

@[simp] theorem get_insert_self {record : ObjectBatchLedgerRecord} :
    (ledger.insert batchId record).get batchId = some record := by
  rw [get_insert, if_pos rfl]

theorem get_remove :
    (ledger.remove batchId).get other = if other = batchId then none else ledger.get other := by
  split_ifs with h
  · rw [get, remove, Table.find?_delete_self (by simp [h]), Option.map_none]
  · have hkept : (ledger.remove batchId).find? other = ledger.find? other := by
      apply Table.find?_delete
      intro entry _ hkey
      simpa [hkey] using h
    rw [get, hkept, get]

theorem get_pruneObjectBatchLedger {nowUnixMs : Nat} :
    (pruneObjectBatchLedger ledger nowUnixMs).get batchId =
      if batchId ∈ prunedBatchIds ledger nowUnixMs then none else ledger.get batchId := by
  split_ifs with h
  · have hgone : (pruneObjectBatchLedger ledger nowUnixMs).find? batchId = none := by
      apply Table.find?_delete_self
      intro entry hkey
      simpa [hkey] using h
    rw [get, hgone, Option.map_none]
  · have hkept : (pruneObjectBatchLedger ledger nowUnixMs).find? batchId =
        ledger.find? batchId := by
      apply Table.find?_delete
      intro entry _ hkey
      simpa [hkey] using h
    rw [get, hkept, get]

theorem get_recoverObjectBatchLedgerRecords {nowUnixMs : Nat} :
    (recoverObjectBatchLedgerRecords ledger nowUnixMs).get batchId =
      (ledger.get batchId).map (recoverRecord nowUnixMs batchId) := by
  rw [get, recoverObjectBatchLedgerRecords, Table.find?_modify, get]
  cases hfind : ledger.find? batchId with
  | none => rfl
  | some entry =>
    have hkey : entry.batchId = batchId := (Table.find?_eq_some.mp hfind).2
    simp [hkey]

end ObjectBatchLedger

/-! ## Section 2: Operations -/

namespace LedgerState

/-- A record is in memory or in the file. -/
def Holds (s : LedgerState) (batchId : String) (record : ObjectBatchLedgerRecord) : Prop :=
  s.memory.get batchId = some record ∨ s.file.get batchId = some record

/-- An id has a record in memory and in the file. -/
def Stores (s : LedgerState) (batchId : String) : Prop :=
  s.memory.get batchId ≠ none ∧ s.file.get batchId ≠ none

/-- What an operation does that prunes the ids `pruned` and writes the records `writes`. -/
structure Moves (s s' : LedgerState) (pruned : List String)
    (writes : String → ObjectBatchLedgerRecord → Prop) : Prop where
  memory : ∀ id record, s'.memory.get id = some record →
    s.memory.get id = some record ∨ writes id record
  file : ∀ id record, s'.file.get id = some record → s.Holds id record ∨ writes id record
  stores : ∀ id, id ∉ pruned → s.Stores id → s'.Stores id

/-- The operation writes nothing of its own. -/
def writesNothing : String → ObjectBatchLedgerRecord → Prop := fun _ _ => False

/-- The operation writes one record. -/
def writesOne (batchId : String) (record : ObjectBatchLedgerRecord) :
    String → ObjectBatchLedgerRecord → Prop :=
  fun id written => id = batchId ∧ written = record

variable {s s' s'' : LedgerState} {pruned pruned' : List String} {batchId : String}
  {writes writes' : String → ObjectBatchLedgerRecord → Prop} {now : Nat}
  {fault : Option FileFault}

theorem Moves.holds (h : s.Moves s' pruned writes) {id : String}
    {record : ObjectBatchLedgerRecord} (hheld : s'.Holds id record) :
    s.Holds id record ∨ writes id record := by
  rcases hheld with hmemory | hfile
  · exact (h.memory id record hmemory).imp_left Or.inl
  · exact h.file id record hfile

theorem Moves.memory_none (h : s.Moves s' pruned writes) {id : String}
    (hnone : s.memory.get id = none) (hwrites : ∀ record, ¬ writes id record) :
    s'.memory.get id = none := by
  cases hget : s'.memory.get id with
  | none => rfl
  | some record =>
    rcases h.memory id record hget with hold | hnew
    · rw [hnone] at hold
      cases hold
    · exact absurd hnew (hwrites record)

theorem Moves.refl (s : LedgerState) : s.Moves s [] writesNothing where
  memory := fun _ _ h => Or.inl h
  file := fun _ _ h => Or.inl (Or.inr h)
  stores := fun _ _ h => h

theorem Moves.trans (h : s.Moves s' pruned writes) (h' : s'.Moves s'' pruned' writes') :
    s.Moves s'' (pruned ++ pruned') (fun id record => writes id record ∨ writes' id record) where
  memory := by
    intro id record hget
    rcases h'.memory id record hget with hmid | hnew
    · exact (h.memory id record hmid).imp_right Or.inl
    · exact Or.inr (Or.inr hnew)
  file := by
    intro id record hget
    rcases h'.file id record hget with hmid | hnew
    · exact (h.holds hmid).imp_right Or.inl
    · exact Or.inr (Or.inr hnew)
  stores := by
    intro id hpruned hstored
    rw [List.mem_append, not_or] at hpruned
    exact h'.stores id hpruned.2 (h.stores id hpruned.1 hstored)

theorem Moves.mono (h : s.Moves s' pruned writes) (hpruned : ∀ id ∈ pruned, id ∈ pruned')
    (hwrites : ∀ id record, writes id record → writes' id record) :
    s.Moves s' pruned' writes' where
  memory := fun id record hget => (h.memory id record hget).imp_right (hwrites id record)
  file := fun id record hget => (h.file id record hget).imp_right (hwrites id record)
  stores := fun id hid => h.stores id (fun hmem => hid (hpruned id hmem))

/-- Memory takes back what it held. -/
theorem Moves.takeBack (h : s.Moves s' pruned writes) :
    s.Moves { s' with memory := s.memory } pruned writes where
  memory := fun _ _ hget => Or.inl hget
  file := h.file
  stores := fun id hid hstored => ⟨hstored.1, (h.stores id hid hstored).2⟩

/-! ### Writes of the file -/

theorem persist_file (s : LedgerState) (fault : Option FileFault) :
    (s.persist fault).2.file = s.memory ∨ (s.persist fault).2.file = s.file := by
  cases fault with
  | none => exact Or.inl rfl
  | some fault =>
    obtain ⟨error, replaced⟩ := fault
    cases replaced with
    | false => exact Or.inr rfl
    | true => exact Or.inl rfl

theorem persist_ok (h : (s.persist fault).1 = none) : (s.persist fault).2.file = s.memory :=
  atomicWrite_ok h

theorem moves_persist (s : LedgerState) (fault : Option FileFault) :
    s.Moves (s.persist fault).2 [] writesNothing where
  memory := fun _ _ h => Or.inl h
  file := by
    intro id record hget
    rcases persist_file s fault with hnew | hold
    · rw [hnew] at hget
      exact Or.inl (Or.inl hget)
    · rw [hold] at hget
      exact Or.inl (Or.inr hget)
  stores := by
    rintro id - ⟨hmemory, hfile⟩
    refine ⟨hmemory, ?_⟩
    rcases persist_file s fault with hnew | hold
    · rwa [hnew]
    · rwa [hold]

theorem moves_insert (s : LedgerState) (batchId : String) (record : ObjectBatchLedgerRecord) :
    s.Moves { s with memory := s.memory.insert batchId record } []
      (writesOne batchId record) where
  memory := by
    intro id written hget
    change (s.memory.insert batchId record).get id = some written at hget
    rw [ObjectBatchLedger.get_insert] at hget
    split_ifs at hget with hid
    · exact Or.inr ⟨hid.symm, (Option.some.inj hget).symm⟩
    · exact Or.inl hget
  file := fun _ _ hget => Or.inl (Or.inr hget)
  stores := by
    rintro id - ⟨hmemory, hfile⟩
    refine ⟨?_, hfile⟩
    change (s.memory.insert batchId record).get id ≠ none
    rw [ObjectBatchLedger.get_insert]
    split_ifs
    · simp
    · exact hmemory

theorem moves_prune (s : LedgerState) (now : Nat) :
    s.Moves { s with memory := pruneObjectBatchLedger s.memory now }
      (prunedBatchIds s.memory now) writesNothing where
  memory := by
    intro id record hget
    change (pruneObjectBatchLedger s.memory now).get id = some record at hget
    rw [ObjectBatchLedger.get_pruneObjectBatchLedger] at hget
    split_ifs at hget
    exact Or.inl hget
  file := fun _ _ hget => Or.inl (Or.inr hget)
  stores := by
    intro id hid hstored
    refine ⟨?_, hstored.2⟩
    change (pruneObjectBatchLedger s.memory now).get id ≠ none
    rw [ObjectBatchLedger.get_pruneObjectBatchLedger, if_neg hid]
    exact hstored.1

/-- A record put into memory and written to the file. -/
theorem moves_insert_persist (s : LedgerState) (batchId : String)
    (record : ObjectBatchLedgerRecord) (fault : Option FileFault) :
    s.Moves ({ s with memory := s.memory.insert batchId record }.persist fault).2 []
      (writesOne batchId record) :=
  ((s.moves_insert batchId record).trans (moves_persist _ fault)).mono (fun _ h => h)
    (fun _ _ h => h.resolve_right id)

/-- Both sides hold one record of an id and no other. -/
def HoldsOnly (s : LedgerState) (batchId : String) (record : ObjectBatchLedgerRecord) : Prop :=
  s.memory.get batchId = some record ∧ s.file.get batchId = some record

theorem HoldsOnly.stores {record : ObjectBatchLedgerRecord} (h : s.HoldsOnly batchId record) :
    s.Stores batchId := by
  refine ⟨?_, ?_⟩
  · rw [h.1]
    simp
  · rw [h.2]
    simp

theorem HoldsOnly.eq {record held : ObjectBatchLedgerRecord} (h : s.HoldsOnly batchId record)
    (hheld : s.Holds batchId held) : held = record := by
  rcases hheld with hmemory | hfile
  · exact Option.some.inj (hmemory.symm.trans h.1)
  · exact Option.some.inj (hfile.symm.trans h.2)

theorem holdsOnly_of_persist {record : ObjectBatchLedgerRecord}
    (h : ({ s with memory := s.memory.insert batchId record }.persist fault).1 = none) :
    ({ s with memory := s.memory.insert batchId record }.persist fault).2.HoldsOnly batchId
      record := by
  refine ⟨ObjectBatchLedger.get_insert_self, ?_⟩
  rw [persist_ok h]
  exact ObjectBatchLedger.get_insert_self

/-! ### The operations of a request -/

theorem moves_lookupObjectBatchLedger (s : LedgerState) (batchId : String) (now : Nat)
    (fault : Option FileFault) :
    s.Moves (s.lookupObjectBatchLedger batchId now fault).2 (prunedBatchIds s.memory now)
      writesNothing := by
  have hprune := s.moves_prune now
  rw [lookupObjectBatchLedger]
  split_ifs
  · have hpersist : s.Moves
        ({ s with memory := pruneObjectBatchLedger s.memory now }.persist fault).2
        (prunedBatchIds s.memory now) writesNothing :=
      (hprune.trans (moves_persist _ fault)).mono (by simp) (by simp [writesNothing])
    split
    · rename_i heq
      exact (congrArg Prod.snd heq) ▸ hpersist
    · rename_i heq
      exact (congrArg Prod.snd heq) ▸ hpersist
  · exact hprune

/-- What a lookup finds is what memory holds afterwards. -/
theorem lookupObjectBatchLedger_ok {found : Option ObjectBatchLedgerRecord}
    (h : (s.lookupObjectBatchLedger batchId now fault).1 = .ok found) :
    (s.lookupObjectBatchLedger batchId now fault).2.memory.get batchId = found := by
  rw [lookupObjectBatchLedger] at h ⊢
  split_ifs at h ⊢
  · split at h
    · cases h
    · exact Except.ok.inj h
  · exact Except.ok.inj h

theorem persistObjectBatchLedger_none
    {update : ObjectBatchLedgerRecord → ObjectBatchLedgerRecord}
    (hget : s.memory.get batchId = none) :
    s.persistObjectBatchLedger batchId now fault update =
      (some (ledgerUnavailable "batch ledger reservation is missing" .move), s) := by
  rw [persistObjectBatchLedger, hget]

/-- The record an update leaves. -/
def updated (now : Nat) (update : ObjectBatchLedgerRecord → ObjectBatchLedgerRecord)
    (existing : ObjectBatchLedgerRecord) : ObjectBatchLedgerRecord :=
  { update existing with updatedAtUnixMs := now }

/-- The operation writes what it makes of the record in memory. -/
def writesChange (s : LedgerState) (batchId : String)
    (change : ObjectBatchLedgerRecord → ObjectBatchLedgerRecord) :
    String → ObjectBatchLedgerRecord → Prop :=
  fun id record => id = batchId ∧
    ∃ existing, s.memory.get batchId = some existing ∧ record = change existing

/-- The record in memory is changed and written to the file. -/
theorem moves_change_persist {existing : ObjectBatchLedgerRecord}
    (hget : s.memory.get batchId = some existing)
    (change : ObjectBatchLedgerRecord → ObjectBatchLedgerRecord) (fault : Option FileFault) :
    s.Moves ({ s with memory := s.memory.insert batchId (change existing) }.persist fault).2 []
      (s.writesChange batchId change) :=
  (s.moves_insert_persist batchId (change existing) fault).mono (fun _ h => h)
    (fun _ _ h => ⟨h.1, existing, hget, h.2⟩)

theorem moves_nothing (s : LedgerState)
    (writes : String → ObjectBatchLedgerRecord → Prop) : s.Moves s [] writes :=
  (Moves.refl s).mono (fun _ h => h) (fun _ _ h => h.elim)

theorem moves_persistObjectBatchLedger (s : LedgerState) (batchId : String) (now : Nat)
    (fault : Option FileFault) (update : ObjectBatchLedgerRecord → ObjectBatchLedgerRecord) :
    s.Moves (s.persistObjectBatchLedger batchId now fault update).2 []
      (s.writesChange batchId (updated now update)) := by
  cases hget : s.memory.get batchId with
  | none =>
    rw [persistObjectBatchLedger_none hget]
    exact s.moves_nothing _
  | some existing =>
    have hmoves := moves_change_persist hget (updated now update) fault
    rw [persistObjectBatchLedger, hget]
    dsimp only
    split
    · rename_i heq
      rw [updated, heq] at hmoves
      exact hmoves.takeBack
    · rename_i heq
      rw [updated, heq] at hmoves
      exact hmoves

/-- A saved update is the record of its id in memory and in the file. -/
theorem persistObjectBatchLedger_ok
    {update : ObjectBatchLedgerRecord → ObjectBatchLedgerRecord}
    (h : (s.persistObjectBatchLedger batchId now fault update).1 = none) :
    ∃ existing, s.memory.get batchId = some existing ∧
      (s.persistObjectBatchLedger batchId now fault update).2.HoldsOnly batchId
        (updated now update existing) := by
  cases hget : s.memory.get batchId with
  | none =>
    rw [persistObjectBatchLedger_none hget] at h
    cases h
  | some existing =>
    refine ⟨existing, rfl, ?_⟩
    rw [persistObjectBatchLedger, hget] at h ⊢
    dsimp only at h ⊢
    split at h
    · cases h
    · rename_i heq
      have hholds := @holdsOnly_of_persist s batchId fault (updated now update existing)
        (congrArg Prod.fst heq)
      rw [updated, heq] at hholds
      exact hholds

/-- What stays of a failed update: memory is as it was. -/
theorem persistObjectBatchLedger_error
    {update : ObjectBatchLedgerRecord → ObjectBatchLedgerRecord} {error : ObjectBatchApiError}
    (h : (s.persistObjectBatchLedger batchId now fault update).1 = some error) :
    (s.persistObjectBatchLedger batchId now fault update).2.memory = s.memory := by
  cases hget : s.memory.get batchId with
  | none => rw [persistObjectBatchLedger_none hget]
  | some existing =>
    rw [persistObjectBatchLedger, hget] at h ⊢
    dsimp only at h ⊢
    split at h
    · rfl
    · cases h

theorem moves_reserveObjectBatchLedger (s : LedgerState) (batchId planId : String)
    (plan : ObjectBatchPlanRecord) (fingerprint : String) (now : Nat) (fault : Option FileFault)
    (hget : s.memory.get batchId = none) :
    s.Moves (s.reserveObjectBatchLedger batchId planId plan fingerprint now fault).2
      (prunedBatchIds s.memory now)
      (writesOne batchId (reservedRecord planId plan fingerprint now)) := by
  have hprune := s.moves_prune now
  rw [reserveObjectBatchLedger]
  dsimp only
  split_ifs
  · exact hprune.mono (fun _ h => h) (fun _ _ h => h.elim)
  · have hboth := hprune.trans (moves_insert_persist
      { s with memory := pruneObjectBatchLedger s.memory now } batchId
      (reservedRecord planId plan fingerprint now) fault)
    rw [List.append_nil] at hboth
    have hwritten := hboth.mono (fun _ h => h) (fun _ _ h => h.resolve_left id)
    split
    · rename_i heq
      rw [heq] at hwritten
      -- the reservation is removed from memory, which held none before
      refine ⟨?_, hwritten.file, ?_⟩
      · intro id record hfound
        change (ObjectBatchLedger.remove _ batchId).get id = some record at hfound
        rw [ObjectBatchLedger.get_remove] at hfound
        split_ifs at hfound
        exact hwritten.memory id record hfound
      · intro id hid hstored
        have hkept := hwritten.stores id hid hstored
        refine ⟨?_, hkept.2⟩
        change (ObjectBatchLedger.remove _ batchId).get id ≠ none
        rw [ObjectBatchLedger.get_remove, if_neg]
        · exact hkept.1
        · rintro rfl
          exact hstored.1 hget
    · rename_i heq
      rw [heq] at hwritten
      exact hwritten

theorem reserveObjectBatchLedger_ok {planId fingerprint : String} {plan : ObjectBatchPlanRecord}
    (h : (s.reserveObjectBatchLedger batchId planId plan fingerprint now fault).1 = none) :
    (s.reserveObjectBatchLedger batchId planId plan fingerprint now fault).2.HoldsOnly batchId
      (reservedRecord planId plan fingerprint now) := by
  rw [reserveObjectBatchLedger] at h ⊢
  dsimp only at h ⊢
  split_ifs at h ⊢
  split at h
  · cases h
  · rename_i heq
    have hholds := @holdsOnly_of_persist { s with memory := pruneObjectBatchLedger s.memory now }
      batchId fault (reservedRecord planId plan fingerprint now) (congrArg Prod.fst heq)
    rw [heq] at hholds
    exact hholds

def completedWith (payload : ObjectBatchExecutePayload) (record : ObjectBatchLedgerRecord) :
    ObjectBatchLedgerRecord :=
  { record with state := .completed, results := payload.results, response := some payload }

theorem moves_persistObjectBatchCompletion (s : LedgerState) (batchId : String)
    (payload : ObjectBatchExecutePayload) (fault : Option FileFault) :
    s.Moves (s.persistObjectBatchCompletion batchId payload fault).2 []
      (s.writesChange batchId (completedWith payload)) := by
  cases hget : s.memory.get batchId with
  | none =>
    rw [persistObjectBatchCompletion, hget]
    exact s.moves_nothing _
  | some record =>
    have hmoves := moves_change_persist hget (completedWith payload) fault
    rw [persistObjectBatchCompletion, hget]
    dsimp only
    split
    · rename_i heq
      rw [completedWith, heq] at hmoves
      exact hmoves.takeBack
    · rename_i heq
      rw [completedWith, heq] at hmoves
      exact hmoves

theorem persistObjectBatchCompletion_error {payload : ObjectBatchExecutePayload}
    {error : ObjectBatchApiError}
    (h : (s.persistObjectBatchCompletion batchId payload fault).1 = some error) :
    (s.persistObjectBatchCompletion batchId payload fault).2.memory = s.memory := by
  cases hget : s.memory.get batchId with
  | none => rw [persistObjectBatchCompletion, hget]
  | some record =>
    rw [persistObjectBatchCompletion, hget] at h ⊢
    dsimp only at h ⊢
    split at h
    · rfl
    · cases h

def rejectedWith (now : Nat) (error : ObjectBatchApiError)
    (results : List ObjectBatchItemPayload) (record : ObjectBatchLedgerRecord) :
    ObjectBatchLedgerRecord :=
  { record with
    updatedAtUnixMs := now
    state := .rejected
    providerCallStartedAtUnixMs := none
    results := results
    error := some { error with state := some "rejected" : ObjectBatchApiError }.persisted }

theorem moves_persistObjectBatchRejection (s : LedgerState) (batchId : String) (now : Nat)
    (error : ObjectBatchApiError) (results : List ObjectBatchItemPayload)
    (first second : Option FileFault) :
    s.Moves (s.persistObjectBatchRejection batchId now error results first second).2 []
      (s.writesChange batchId (rejectedWith now error results)) := by
  cases hget : s.memory.get batchId with
  | none =>
    rw [persistObjectBatchRejection, hget]
    exact s.moves_nothing _
  | some record =>
    have hmoves := moves_change_persist hget (rejectedWith now error results) first
    rw [persistObjectBatchRejection, hget]
    dsimp only
    split
    · rename_i heq
      rw [rejectedWith, heq] at hmoves
      exact hmoves
    · rename_i heq
      rw [rejectedWith, heq] at hmoves
      -- the second try writes the same memory
      have hboth := (hmoves.trans (moves_persist _ second)).mono (fun _ h => h)
        (fun _ _ h => h.resolve_right id)
      split
      · rename_i hsecond
        exact (congrArg Prod.snd hsecond) ▸ hboth
      · rename_i hsecond
        exact (congrArg Prod.snd hsecond) ▸ hboth

def interruptedWith (batchId : String) (results : List ObjectBatchItemPayload)
    (recoveryMessage : Option String) (record : ObjectBatchLedgerRecord) :
    ObjectBatchLedgerRecord :=
  { record with
    state := .interrupted
    results := results
    recovery := some (recoverPayloadForRecord batchId { record with results := results })
    error := recoveryMessage.map (fun message =>
      { status := 409
        code := "batch_recovery_required"
        message := message
        action := record.action.getD .move
        batchId := some batchId
        state := some "interrupted"
        items := []
        retryAfterSecs := none }) }

theorem moves_persistObjectBatchInterruption (s : LedgerState) (batchId : String) (now : Nat)
    (results : List ObjectBatchItemPayload) (recoveryMessage : Option String)
    (fault : Option FileFault) :
    s.Moves (s.persistObjectBatchInterruption batchId now results recoveryMessage fault).2 []
      (s.writesChange batchId (updated now (interruptedWith batchId results recoveryMessage))) :=
  by
  cases hget : s.memory.get batchId with
  | none =>
    rw [persistObjectBatchInterruption, hget]
    exact s.moves_nothing _
  | some record =>
    rw [persistObjectBatchInterruption, hget]
    dsimp only
    -- the update is made of the record that is still there
    have hmoves := s.moves_persistObjectBatchLedger batchId now fault (fun existing =>
      { existing with
        state := .interrupted
        results := results
        recovery := some (recoverPayloadForRecord batchId { record with results := results })
        error := (interruptedWith batchId results recoveryMessage record).error })
    have hsame := hmoves.mono (fun _ h => h)
      (fun id written (h : s.writesChange _ _ id written) =>
        (show s.writesChange batchId
            (updated now (interruptedWith batchId results recoveryMessage)) id written from by
          obtain ⟨hid, existing, hexisting, hwritten⟩ := h
          obtain rfl := Option.some.inj (hget.symm.trans hexisting)
          exact ⟨hid, record, hget, hwritten⟩))
    split
    · rename_i heq
      exact (congrArg Prod.snd heq) ▸ hsame
    · rename_i heq
      exact (congrArg Prod.snd heq) ▸ hsame

end LedgerState

end Netdisk2Blob.Gateway
