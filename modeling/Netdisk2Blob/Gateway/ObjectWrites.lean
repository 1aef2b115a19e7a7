import Netdisk2Blob.Gateway.ObjectRead

/-!
# Writing and Restoring Object State

The pieces that PUT, COPY, DELETE, the admin actions and reconcile are built from: writing
a row of an object, taking the rows back to an earlier state, and keeping the remote log.

## Contents

- `persistObjectHomeProvider` and its siblings: one row each, with the error they map to
- `restorePreviousObjectWriteState`, `ensurePreviousObjectMetadataState`: the two ways back
- `maybePrepareGatewayWriteAheadLog`, `markGatewayWriteAheadLogCommitted`,
  `markGatewayWriteAheadLogRolledBack`: the life of a log record
-/

namespace Netdisk2Blob.Gateway.Operations

open Library Blob Policy Replication Metadata

/-! ## Section 1: Rows -/

def persistObjectHomeProvider (provider : ProviderId) (bucket key : String) (nowUnixMs : Nat) :
    GatewayProgram (Except BlobError Unit) :=
  (Requests.writeMetadata .forward
    (.upsertObjectPlacement provider.asStr bucket key nowUnixMs)).mapError (fun error =>
      .upstream (s!"failed to persist object placement for {provider.asStr} {bucket}/{key}: " ++
        error))

def deletePersistedObjectHomeProvider (purpose : Purpose) (bucket key : String) :
    GatewayProgram (Except BlobError Unit) :=
  (Requests.writeMetadata purpose (.deleteObjectPlacement bucket key)).mapError (fun error =>
    .upstream s!"failed to delete object placement for {bucket}/{key}: {error}")

def deleteObjectMetadataRecords (bucket key : String) :
    GatewayProgram (Except BlobError Unit) :=
  (Requests.writeMetadata .forward (.deleteObjectMetadata bucket key)).mapError (fun error =>
    .upstream s!"failed to delete object metadata for {bucket}/{key}: {error}")

def persistLogicalObjectRecord (purpose : Purpose) (record : LogicalObjectRecord) :
    GatewayProgram (Except BlobError Unit) :=
  (Requests.writeMetadata purpose (.upsertLogicalObject record)).mapError (fun error =>
    .upstream
      s!"failed to persist logical object metadata for {record.bucket}/{record.key}: {error}")

def deleteLogicalObjectRecord (purpose : Purpose) (bucket key : String) :
    GatewayProgram (Except BlobError Unit) :=
  (Requests.writeMetadata purpose (.deleteLogicalObject bucket key)).mapError (fun error =>
    .upstream s!"failed to delete logical object metadata for {bucket}/{key}: {error}")

structure PersistedObjectProtectionPlan where
  syncTargets : List ProviderId
  fallbackReadOrder : List ProviderId
  updatedAtUnixMs : Nat
  deriving DecidableEq, Repr

/-- The row that `persist_object_protection_plan` writes. -/
def protectionPlanRecord (bucket key : String) (syncTargets fallbackReadOrder : List ProviderId)
    (updatedAtUnixMs : Nat) : ObjectProtectionPlanRecord where
  bucket := bucket
  key := key
  syncTargetsCsv := csvFromProviderIds syncTargets
  fallbackReadOrderCsv :=
    csvFromProviderIds (sanitizeFallbackOrderForSyncTargets syncTargets fallbackReadOrder)
  updatedAtUnixMs := updatedAtUnixMs

def persistObjectProtectionPlan (purpose : Purpose) (bucket key : String)
    (syncTargets fallbackReadOrder : List ProviderId) (updatedAtUnixMs : Nat) :
    GatewayProgram (Except BlobError Unit) :=
  (Requests.writeMetadata purpose
    (.upsertObjectProtectionPlan
      (protectionPlanRecord bucket key syncTargets fallbackReadOrder updatedAtUnixMs))).mapError
    (fun error =>
      .upstream s!"failed to persist object protection plan for {bucket}/{key}: {error}")

def deleteObjectProtectionPlan (purpose : Purpose) (bucket key : String) :
    GatewayProgram (Except BlobError Unit) :=
  (Requests.writeMetadata purpose (.deleteObjectProtectionPlan bucket key)).mapError
    (fun error =>
      .upstream s!"failed to delete object protection plan for {bucket}/{key}: {error}")

def parseProviderCsv (csv : String) : Except BlobError (List ProviderId) :=
  match parseProviderList csv with
  | .ok providers => .ok providers
  | .error error => .error (.configuration error.display)

/-- A plan row with its provider lists parsed. -/
def parseProtectionPlan (record : ObjectProtectionPlanRecord) :
    Except BlobError PersistedObjectProtectionPlan :=
  match parseProviderCsv record.syncTargetsCsv with
  | .error error => .error error
  | .ok syncTargets =>
    match parseProviderCsv record.fallbackReadOrderCsv with
    | .error error => .error error
    | .ok fallbackReadOrder =>
      .ok
        { syncTargets := syncTargets
          fallbackReadOrder :=
            sanitizeFallbackOrderForSyncTargets syncTargets fallbackReadOrder
          updatedAtUnixMs := record.updatedAtUnixMs }

def loadObjectProtectionPlan (bucket key : String) :
    GatewayProgram (Except BlobError (Option PersistedObjectProtectionPlan)) :=
  Program.attempt (Requests.objectProtectionPlan .forward bucket key)
    (fun error => .pure
      (.upstream s!"failed to load object protection plan for {bucket}/{key}: {error}"))
    (fun
      | none => .pure (.ok none)
      | some record => .pure ((parseProtectionPlan record).map some))

/-- The csv of a plan row is read back as it was written. -/
theorem parseProviderCsv_csvFromProviderIds (providers : List ProviderId) :
    parseProviderCsv (csvFromProviderIds providers) = .ok providers := by
  rw [parseProviderCsv, csvFromProviderIds, parseProviderList_intercalate]

theorem parseProtectionPlan_protectionPlanRecord (bucket key : String)
    (syncTargets fallbackReadOrder : List ProviderId) (now : Nat) :
    parseProtectionPlan (protectionPlanRecord bucket key syncTargets fallbackReadOrder now) =
      .ok
        { syncTargets := syncTargets
          fallbackReadOrder := sanitizeFallbackOrderForSyncTargets syncTargets fallbackReadOrder
          updatedAtUnixMs := now } := by
  simp only [parseProtectionPlan, protectionPlanRecord, parseProviderCsv_csvFromProviderIds,
    sanitizeFallbackOrderForSyncTargets, List.filter_filter, Bool.and_self]

/-! ## Section 2: Taking rows back -/

/-- The logical record goes back; a failure is dropped. -/
def restoreLogicalObjectRecord (previous : Option LogicalObjectRecord) (bucket key : String) :
    GatewayProgram Unit :=
  match previous with
  | some record => (persistLogicalObjectRecord .rollback record).bind (fun _ => .pure ())
  | none => (deleteLogicalObjectRecord .rollback bucket key).bind (fun _ => .pure ())

def restorePreviousObjectWriteState (bucket key : String)
    (previousPlacement : Option (ProviderId × Nat))
    (previousLogical : Option LogicalObjectRecord) :
    GatewayProgram (Except BlobError Unit) :=
  Program.attempt
    (match previousPlacement with
      | some (provider, updatedAtUnixMs) =>
        (Requests.writeMetadata .rollback
          (.upsertObjectPlacement provider.asStr bucket key updatedAtUnixMs)).mapError
          (fun error => .upstream s!"failed to restore object placement: {error}")
      | none =>
        (deletePersistedObjectHomeProvider .rollback bucket key).mapError (fun error =>
          .upstream s!"failed to delete persisted object home provider: {error.display}"))
    Program.pure
    (fun _ => (restoreLogicalObjectRecord previousLogical bucket key).bind (fun _ => .pure (.ok ())))

def restorePreviousObjectMetadataState (bucket key : String)
    (previousPlacement : Option ObjectPlacementRecord)
    (previousLogicalRecord : Option LogicalObjectRecord)
    (previousProtectionPlan : Option ObjectProtectionPlanRecord) :
    GatewayProgram (Except BlobError Unit) :=
  Program.attempt
    (match previousPlacement with
      | some record =>
        (Requests.writeMetadata .rollback
          (.upsertObjectPlacement record.provider record.bucket record.key
            record.updatedAtUnixMs)).mapError (fun error =>
          .upstream s!"failed to restore object placement for {bucket}/{key}: {error}")
      | none => deletePersistedObjectHomeProvider .rollback bucket key)
    Program.pure
    (fun _ =>
      Program.attempt
        (match previousLogicalRecord with
          | some record => persistLogicalObjectRecord .rollback record
          | none => deleteLogicalObjectRecord .rollback bucket key)
        Program.pure
        (fun _ =>
          match previousProtectionPlan with
          | some record =>
            (Requests.writeMetadata .rollback (.upsertObjectProtectionPlan record)).mapError
              (fun error =>
                .upstream
                  s!"failed to restore object protection plan for {bucket}/{key}: {error}")
          | none => deleteObjectProtectionPlan .rollback bucket key))

/-- The rows as they are, read one after the other for a check of a rollback. -/
def readObjectMetadata (bucket key : String) :
    GatewayProgram (Except BlobError MetadataStore.ObjectMetadata) :=
  Program.attempt (Requests.objectPlacement .rollback bucket key)
    (fun error => .pure (BlobError.upstream error))
    (fun placement =>
      Program.attempt (loadLogicalObjectRecord .rollback bucket key) Program.pure
        (fun logical =>
          Program.attempt (Requests.objectProtectionPlan .rollback bucket key)
            (fun error => .pure (BlobError.upstream error))
            (fun plan => .pure (.ok ⟨placement, logical, plan⟩))))

/-- Restore, check, and restore and check once more if the check fails. -/
def ensurePreviousObjectMetadataState (bucket key : String)
    (previous : MetadataStore.ObjectMetadata) : GatewayProgram (Except BlobError Unit) :=
  Program.attempt
    (restorePreviousObjectMetadataState bucket key previous.placement previous.logical
      previous.protectionPlan)
    Program.pure
    (fun _ =>
      Program.attempt (readObjectMetadata bucket key) Program.pure
        (fun restored =>
          if restored = previous then .pure (.ok ())
          else
            Program.attempt
              (restorePreviousObjectMetadataState bucket key previous.placement previous.logical
                previous.protectionPlan)
              Program.pure
              (fun _ =>
                Program.attempt (readObjectMetadata bucket key) Program.pure
                  (fun retried =>
                    .pure (
                      if retried = previous then .ok ()
                      else
                        .error (.upstream
                          s!"metadata rollback verification failed for {bucket}/{key}"))))))

/-! ## Section 3: The remote log -/

def providerLabel : ProviderId → String
  | .stub => "Local Stub"
  | .unicom => "China Unicom"
  | .telecom => "China Telecom"
  | .mobile => "China Mobile"
  | .onedrive => "Microsoft OneDrive"

structure GatewayWriteAheadLogContext where
  record : GatewayWriteAheadLogRecord
  remoteProvider : ProviderId
  deriving DecidableEq, Repr

def persistGatewayWriteAheadLogRecord (config : GatewayConfig) (remoteProvider : ProviderId)
    (record : GatewayWriteAheadLogRecord) : GatewayProgram (Except BlobError Unit) :=
  match config.backendForProvider remoteProvider with
  | .error error => .pure (.error error)
  | .ok remoteProvider =>
    if config.canWrite remoteProvider then Requests.putLogRecord record
    else
      .pure (.error (.configuration
        (s!"{providerLabel remoteProvider} cannot accept gateway write-ahead log records " ++
          "because write is disabled")))

/-- What an operation logs about itself before it starts. -/
structure LogEntry where
  operation : GatewayWriteAheadLogOperation
  bucket : String
  key : String
  homeProvider : ProviderId
  logicalRecord : Option LogicalObjectRecord
  syncTargets : List ProviderId
  fallbackReadOrder : List ProviderId
  previous : MetadataStore.ObjectMetadata
  deriving DecidableEq, Repr

def LogEntry.prepareRecord (entry : LogEntry) (lsn preparedAtUnixMs : Nat) :
    GatewayWriteAheadLogRecord where
  schemaVersion := gatewayWriteAheadLogFormatVersion
  lsn := lsn
  txId := s!"gwtx-{lsn}-{preparedAtUnixMs}"
  phase := .prepare
  operation := entry.operation
  bucket := entry.bucket
  key := entry.key
  homeProvider := entry.homeProvider
  logicalRecord := entry.logicalRecord
  syncTargets := entry.syncTargets
  fallbackReadOrder := entry.fallbackReadOrder
  previousPlacement := entry.previous.placement
  previousLogicalRecord := entry.previous.logical
  previousProtectionPlan := entry.previous.protectionPlan
  preparedAtUnixMs := preparedAtUnixMs
  committedAtUnixMs := none

/-- `remoteProvider` is the log's provider if the policy covers the operation. -/
def maybePrepareGatewayWriteAheadLog (config : GatewayConfig)
    (remoteProvider : Option ProviderId) (preparedAtUnixMs : Nat) (entry : LogEntry) :
    GatewayProgram (Except BlobError (Option GatewayWriteAheadLogContext)) :=
  match remoteProvider with
  | none => .pure (.ok none)
  | some remoteProvider =>
    Program.attempt (Requests.allocateLsn preparedAtUnixMs)
      (fun error => .pure (BlobError.upstream error))
      (fun lsn =>
        let record := entry.prepareRecord lsn preparedAtUnixMs
        Program.attempt (persistGatewayWriteAheadLogRecord config remoteProvider record)
          Program.pure (fun _ => .pure (.ok (some ⟨record, remoteProvider⟩))))

def GatewayWriteAheadLogRecord.committed (record : GatewayWriteAheadLogRecord)
    (committedAtUnixMs : Nat) : GatewayWriteAheadLogRecord :=
  { record with phase := .committed, committedAtUnixMs := some committedAtUnixMs }

/-- The record that takes an operation back: a committed metadata sync to the previous
state, or a committed delete when there was no placement. -/
def GatewayWriteAheadLogRecord.rolledBack (record : GatewayWriteAheadLogRecord)
    (committedAtUnixMs : Nat) : Except BlobError GatewayWriteAheadLogRecord :=
  let record := GatewayWriteAheadLogRecord.committed record committedAtUnixMs
  match record.previousPlacement with
  | none =>
    .ok
      { record with
        operation := .delete
        logicalRecord := none
        syncTargets := []
        fallbackReadOrder := [] }
  | some placement =>
    match ProviderId.parse placement.provider with
    | .error error =>
      .error (.configuration
        (s!"failed to parse previous WAL home provider {placement.provider}: " ++ error.display))
    | .ok homeProvider =>
      let record :=
        { record with
          operation := .metadataSync
          homeProvider := homeProvider
          logicalRecord := record.previousLogicalRecord }
      match record.previousProtectionPlan with
      | none => .ok { record with syncTargets := [], fallbackReadOrder := [] }
      | some previousPlan =>
        match parseProtectionPlan previousPlan with
        | .error error => .error error
        | .ok plan =>
          .ok
            { record with
              syncTargets := plan.syncTargets
              fallbackReadOrder := plan.fallbackReadOrder }

/-- A failure to mark a record is only logged. -/
def markGatewayWriteAheadLogCommitted (config : GatewayConfig)
    (context : Option GatewayWriteAheadLogContext) (committedAtUnixMs : Nat) :
    GatewayProgram Unit :=
  match context with
  | none => .pure ()
  | some context =>
    (persistGatewayWriteAheadLogRecord config context.remoteProvider
      (GatewayWriteAheadLogRecord.committed context.record committedAtUnixMs)).bind
      (fun _ => .pure ())

def markGatewayWriteAheadLogRolledBack (config : GatewayConfig)
    (context : Option GatewayWriteAheadLogContext) (committedAtUnixMs : Nat) :
    GatewayProgram Unit :=
  match context with
  | none => .pure ()
  | some context =>
    match GatewayWriteAheadLogRecord.rolledBack context.record committedAtUnixMs with
    | .error _ => .pure ()
    | .ok record =>
      (persistGatewayWriteAheadLogRecord config context.remoteProvider record).bind
        (fun _ => .pure ())

end Netdisk2Blob.Gateway.Operations
