import Netdisk2Blob.Backup.RetainedArchives
import Netdisk2Blob.Library.Transition
import Netdisk2Blob.Policy.Topology
import Mathlib.Logic.Function.Basic

/-!
# Scheduled and Manual Backup Runs

A backup run is started by the scheduler or by a request. It takes the flag `running`, notes its
start in the control plane, does its work, notes its result, gives the flag back and computes the
next run again. Other runs, ticks of the scheduler and changes of the policy come between any two
of these steps.

The two notes are written to the control plane file, and a run whose note cannot be written
returns at once. It keeps the flag, and so does a run whose request is dropped while it works.

## Contents

- `executeGatewayBackupRunInner`: the work of a run, from the outcomes of its steps
- `BackupSchedule`, its actions and `BackupSchedule.step`
- `OneRun`: no two runs at work; `Released`: the flag is held by a run or free
- `always_released_iff`, `marker_error_blocks_runs`
-/

namespace Netdisk2Blob.Backup

open Library Blob Policy

/-! ## Section 1: Policy and history -/

structure GatewayBackupPolicy where
  enabled : Bool
  localEnabled : Bool
  remoteEnabled : Bool
  intervalMinutes : Nat
  localDirectory : String
  localRetentionCount : Nat
  remoteProvider : Option ProviderId
  remoteRetentionCount : Nat
  deriving DecidableEq, Repr

structure GatewayBackupHistory where
  lastTrigger : Option String := none
  lastStartedAtUnixMs : Option Nat := none
  lastCompletedAtUnixMs : Option Nat := none
  lastSuccessAtUnixMs : Option Nat := none
  lastResult : Option String := none
  lastArchiveSizeBytes : Option Nat := none
  lastLocalFilename : Option String := none
  lastLocalPath : Option String := none
  lastRemoteProvider : Option ProviderId := none
  lastRemoteBucket : Option String := none
  lastRemoteKey : Option String := none
  lastError : Option String := none
  deriving DecidableEq, Repr

def saturatingMulU64 (a b : Nat) : Nat := min (a * b) u64Max

def gatewayBackupNextRunAtUnixMs (policy : GatewayBackupPolicy) (history : GatewayBackupHistory)
    (nowUnixMs : Nat) : Option Nat :=
  if !policy.enabled || (!policy.localEnabled && !policy.remoteEnabled) then none
  else
    let intervalMs := saturatingMulU64 policy.intervalMinutes 60000
    match history.lastCompletedAtUnixMs.or history.lastStartedAtUnixMs with
    | some lastRunAt => some (saturatingAddU64 lastRunAt intervalMs)
    | none => some nowUnixMs

/-! ## Section 2: The work of a run -/

structure GatewayBackupRunReport where
  result : String
  archiveSizeBytes : Nat
  localFilename : Option String
  localPath : Option String
  remoteProvider : Option ProviderId
  remoteBucket : Option String
  remoteKey : Option String
  error : Option String
  deriving DecidableEq, Repr

/-- How the steps of a run go: building, moving, uploading and the rest. -/
structure BackupRunSteps where
  password : Except BlobError (Option String)
  instanceId : Except String String
  nowUnixMs : Nat
  tempDir : Except BlobError String
  buildArchive : String → String → Except BlobError Nat
  archiveSize : String → Except String Nat
  moveToLocal : String → String → Except BlobError String
  retainLocal : String → Nat → Except BlobError Unit
  upload : ProviderId → String → Except BlobError String
  retainRemote : ProviderId → Nat → Except BlobError Unit
  updateCheckpointLsn : Nat → Except String Unit

/-- A report of a run that has stored an archive and could not do all the rest. -/
def GatewayBackupRunReport.partially (report : GatewayBackupRunReport) (error : BlobError) :
    GatewayBackupRunReport :=
  { report with result := "partial", error := some error.display }

def storeLocally (policy : GatewayBackupPolicy) (steps : BackupRunSteps) (filename : String)
    (report : GatewayBackupRunReport) : Except BlobError GatewayBackupRunReport :=
  if policy.localEnabled then
    match steps.moveToLocal policy.localDirectory filename with
    | .error error => .error error
    | .ok localPath =>
      let report := { report with localFilename := some filename, localPath := some localPath }
      match steps.retainLocal policy.localDirectory policy.localRetentionCount with
      | .ok () => .ok report
      | .error error => .ok (report.partially error)
  else .ok report

def storeRemotely (policy : GatewayBackupPolicy) (steps : BackupRunSteps) (filename : String)
    (report : GatewayBackupRunReport) : Except BlobError GatewayBackupRunReport :=
  if policy.remoteEnabled then
    match policy.remoteProvider with
    | none => .error (.configuration "启用云端自动备份前，必须先选择一个目标云盘")
    | some provider =>
      match steps.upload provider filename with
      | .ok objectKey =>
        let report :=
          { report with
            remoteProvider := some provider
            remoteBucket := some gatewayBackupRemoteBucket
            remoteKey := some objectKey }
        match steps.retainRemote provider policy.remoteRetentionCount with
        | .ok () => .ok report
        | .error error => .ok (report.partially error)
      | .error error =>
        if report.localPath.isSome then .ok (report.partially error) else .error error
  else .ok report

/-- `execute_gateway_backup_run_inner`; the cleanup of the log at its end has no result. -/
def executeGatewayBackupRunInner (policy : GatewayBackupPolicy) (steps : BackupRunSteps) :
    Except BlobError GatewayBackupRunReport :=
  if !policy.localEnabled && !policy.remoteEnabled then
    .error (.configuration "当前没有启用任何自动备份落点")
  else do
    let password ← steps.password
    let some password := password
      | .error (.configuration "还没有保存自动备份密码，无法执行自动备份")
    let instanceId ← steps.instanceId.mapError BlobError.configuration
    let filename := gatewayBackupFilename instanceId steps.nowUnixMs
    let tempDir ← steps.tempDir
    let tempArchivePath := s!"{tempDir}/{filename}"
    let checkpointLsn ← steps.buildArchive tempArchivePath password
    let archiveSizeBytes ← (steps.archiveSize tempArchivePath).mapError (fun error =>
      .configuration s!"failed to stat backup archive {tempArchivePath}: {error}")
    let report : GatewayBackupRunReport :=
      { result := "success"
        archiveSizeBytes := archiveSizeBytes
        localFilename := none
        localPath := none
        remoteProvider := none
        remoteBucket := none
        remoteKey := none
        error := none }
    let report ← storeLocally policy steps filename report
    let report ← storeRemotely policy steps filename report
    if report.localPath.isSome || report.remoteKey.isSome then
      (steps.updateCheckpointLsn checkpointLsn).mapError BlobError.upstream
    .ok report

/-! ## Section 3: The schedule -/

inductive BackupTrigger where
  | manual
  | scheduled
  deriving DecidableEq, Repr

def BackupTrigger.asStr : BackupTrigger → String
  | manual => "manual"
  | scheduled => "scheduled"

/-- Where a task is that has to do with the schedule: a tick of the scheduler, a call of
`execute_gateway_backup_run`, or the end of a change of the policy, which computes the next run
as a call does at its end. -/
inductive BackupTask where
  /-- the control plane has been read -/
  | tick (policy : GatewayBackupPolicy) (history : GatewayBackupHistory)
  | calling (trigger : BackupTrigger)
  | acquired (trigger : BackupTrigger)
  | marked (trigger : BackupTrigger)
  | working (trigger : BackupTrigger) (policy : GatewayBackupPolicy)
  | worked (trigger : BackupTrigger) (result : Except BlobError GatewayBackupRunReport)
  | recorded (trigger : BackupTrigger) (result : Except BlobError GatewayBackupRunReport)
  | refreshing (call : Option (BackupTrigger × Except BlobError GatewayBackupRunReport))
  | rescheduling (call : Option (BackupTrigger × Except BlobError GatewayBackupRunReport))
      (nextRunAtUnixMs : Option Nat)

/-- A call that took the flag and has ended; it has no result if it was dropped. -/
structure EndedCall where
  trigger : BackupTrigger
  result : Option (Except BlobError Unit)
  rescheduled : Bool

/-- The runtime state, the control plane, the tasks by number and the calls that have ended. -/
structure BackupSchedule where
  running : Bool
  nextRunAtUnixMs : Option Nat
  policy : GatewayBackupPolicy
  history : GatewayBackupHistory
  tasks : Nat → Option BackupTask
  ended : List EndedCall

inductive BackupAction where
  | startTick (i : Nat)
  /-- the two times are that of the computation and that of the comparison -/
  | decideTick (i nowUnixMs laterUnixMs : Nat)
  | requestRun (i : Nat)
  | acquire (i : Nat)
  | persistMarker (i nowUnixMs : Nat) (fault : Option String)
  | enter (i : Nat)
  | finish (i : Nat) (steps : BackupRunSteps)
  | persistResult (i nowUnixMs : Nat) (fault : Option String)
  | release (i : Nat)
  | readControlPlane (i nowUnixMs : Nat)
  | reschedule (i : Nat)
  /-- the client of a manual run is gone while the run works -/
  | drop (i : Nat)
  | savePolicy (i : Nat) (policy : GatewayBackupPolicy) (fault : Option String)

/-- The history when a run starts. -/
def GatewayBackupHistory.started (history : GatewayBackupHistory) (trigger : BackupTrigger)
    (nowUnixMs : Nat) : GatewayBackupHistory :=
  { history with
    lastTrigger := some trigger.asStr
    lastStartedAtUnixMs := some nowUnixMs
    lastCompletedAtUnixMs := none
    lastResult := none
    lastError := none }

/-- The history when the work of a run is over. -/
def GatewayBackupHistory.completed (history : GatewayBackupHistory)
    (result : Except BlobError GatewayBackupRunReport) (nowUnixMs : Nat) : GatewayBackupHistory :=
  match result with
  | .ok report =>
    { history with
      lastCompletedAtUnixMs := some nowUnixMs
      lastResult := some report.result
      lastArchiveSizeBytes := some report.archiveSizeBytes
      lastLocalFilename := report.localFilename
      lastLocalPath := report.localPath
      lastRemoteProvider := report.remoteProvider
      lastRemoteBucket := report.remoteBucket
      lastRemoteKey := report.remoteKey
      lastError := report.error
      lastSuccessAtUnixMs :=
        if report.result = "success" ∨ report.result = "partial" then some nowUnixMs
        else history.lastSuccessAtUnixMs }
  | .error error =>
    { history with
      lastCompletedAtUnixMs := some nowUnixMs
      lastResult := some "failed"
      lastError := some error.display }

namespace BackupSchedule

def setTask (s : BackupSchedule) (i : Nat) (task : Option BackupTask) : BackupSchedule :=
  { s with tasks := Function.update s.tasks i task }

/-- A call returns early: an error that `?` hands on. -/
def returnEarly (s : BackupSchedule) (i : Nat) (trigger : BackupTrigger) (error : String) :
    BackupSchedule :=
  { s.setTask i none with
    ended := ⟨trigger, some (.error (.configuration error)), false⟩ :: s.ended }

/-- One step; `none` when the task is not at that point. -/
def step (s : BackupSchedule) : BackupAction → Option BackupSchedule
  | .startTick i =>
    match s.tasks i with
    | none => some (s.setTask i (some (.tick s.policy s.history)))
    | _ => none
  | .decideTick i now later =>
    match s.tasks i with
    | some (.tick policy history) =>
      let nextRunAt := gatewayBackupNextRunAtUnixMs policy history now
      let shouldRun :=
        policy.enabled && !s.running && nextRunAt.any (fun deadline => decide (deadline ≤ later))
      some { s.setTask i (if shouldRun then some (.calling .scheduled) else none) with
        nextRunAtUnixMs := nextRunAt }
    | _ => none
  | .requestRun i =>
    match s.tasks i with
    | none => some (s.setTask i (some (.calling .manual)))
    | _ => none
  | .acquire i =>
    match s.tasks i with
    | some (.calling trigger) =>
      -- a run that is refused leaves everything as it is
      if s.running then some (s.setTask i none)
      else
        some { s.setTask i (some (.acquired trigger)) with
          running := true
          nextRunAtUnixMs := none }
    | _ => none
  | .persistMarker i now fault =>
    match s.tasks i with
    | some (.acquired trigger) =>
      let s' := { s with history := s.history.started trigger now }
      match fault with
      | some error => some (s'.returnEarly i trigger error)
      | none => some (s'.setTask i (some (.marked trigger)))
    | _ => none
  | .enter i =>
    match s.tasks i with
    | some (.marked trigger) => some (s.setTask i (some (.working trigger s.policy)))
    | _ => none
  | .finish i steps =>
    match s.tasks i with
    | some (.working trigger policy) =>
      some (s.setTask i (some (.worked trigger (executeGatewayBackupRunInner policy steps))))
    | _ => none
  | .persistResult i now fault =>
    match s.tasks i with
    | some (.worked trigger result) =>
      let s' := { s with history := s.history.completed result now }
      match fault with
      | some error => some (s'.returnEarly i trigger error)
      | none => some (s'.setTask i (some (.recorded trigger result)))
    | _ => none
  | .release i =>
    match s.tasks i with
    | some (.recorded trigger result) =>
      some { s.setTask i (some (.refreshing (some (trigger, result)))) with running := false }
    | _ => none
  | .readControlPlane i now =>
    match s.tasks i with
    | some (.refreshing call) =>
      some (s.setTask i (some (.rescheduling call
        (gatewayBackupNextRunAtUnixMs s.policy s.history now))))
    | _ => none
  | .reschedule i =>
    match s.tasks i with
    | some (.rescheduling call nextRunAt) =>
      some { s.setTask i none with
        nextRunAtUnixMs := nextRunAt
        ended :=
          match call with
          | some (trigger, result) =>
            ⟨trigger, some (result.map (fun _ => ())), true⟩ :: s.ended
          | none => s.ended }
    | _ => none
  | .drop i =>
    match s.tasks i with
    | some (.working .manual _) =>
      some { s.setTask i none with ended := ⟨.manual, none, false⟩ :: s.ended }
    | _ => none
  | .savePolicy i policy fault =>
    match s.tasks i with
    | none =>
      match fault with
      | some _ => some { s with policy := policy }
      | none => some { s.setTask i (some (.refreshing none)) with policy := policy }
    | _ => none

/-- The gateway has started with this policy and history. -/
def start (policy : GatewayBackupPolicy) (history : GatewayBackupHistory) (nowUnixMs : Nat) :
    BackupSchedule where
  running := false
  nextRunAtUnixMs := gatewayBackupNextRunAtUnixMs policy history nowUnixMs
  policy := policy
  history := history
  tasks := fun _ => none
  ended := []

end BackupSchedule

/-! ## Section 4: The flag -/

/-- The task is a call between taking the flag and giving it back. -/
def holdsFlag : Option BackupTask → Bool
  | some (.acquired _) | some (.marked _) | some (.working _ _) | some (.worked _ _)
  | some (.recorded _ _) => true
  | _ => false

/-- The task is inside `execute_gateway_backup_run_inner`. -/
def isWorking : Option BackupTask → Bool
  | some (.working _ _) => true
  | _ => false

theorem holdsFlag_of_isWorking {task : Option BackupTask} (h : isWorking task = true) :
    holdsFlag task = true := by
  unfold isWorking at h
  split at h
  · rfl
  · cases h

namespace BackupSchedule

/-- At most one run is at work. -/
def OneRun (s : BackupSchedule) : Prop :=
  ∀ i j, isWorking (s.tasks i) = true → isWorking (s.tasks j) = true → i = j

/-- The flag is set only while a call holds it, so that the next run can take it, and every call
that took it and has ended has computed the next run. -/
structure Released (s : BackupSchedule) : Prop where
  held : s.running = true → ∃ i, holdsFlag (s.tasks i) = true
  rescheduled : ∀ call ∈ s.ended, call.rescheduled = true

/-- Neither note of a run fails to be written, and no run is dropped. -/
def RunsReturn (_ : BackupSchedule) : BackupAction → Prop
  | .persistMarker _ _ fault => fault = none
  | .persistResult _ _ fault => fault = none
  | .drop _ => False
  | _ => True

/-- The flag is set while a call holds it, and one call holds it. -/
structure Inv (s : BackupSchedule) : Prop where
  running : ∀ i, holdsFlag (s.tasks i) = true → s.running = true
  unique : ∀ i j, holdsFlag (s.tasks i) = true → holdsFlag (s.tasks j) = true → i = j

/-- What a step of task `i` does to the flag: it leaves it, takes it, gives it back, or forgets
to give it back. -/
inductive FlagMove (s s' : BackupSchedule) (i : Nat) : Prop
  | kept (running : s'.running = s.running)
      (holds : holdsFlag (s'.tasks i) = holdsFlag (s.tasks i))
      (ended : ∀ call ∈ s'.ended, call ∈ s.ended ∨ call.rescheduled = true)
  | taken (free : s.running = false) (running : s'.running = true)
      (holds : holdsFlag (s'.tasks i) = true) (ended : s'.ended = s.ended)
  | given (held : holdsFlag (s.tasks i) = true) (holds : holdsFlag (s'.tasks i) = false)
      (running : s'.running = false) (ended : s'.ended = s.ended)

/-- A step that forgets to give the flag back. -/
structure FlagLost (s s' : BackupSchedule) (i : Nat) : Prop where
  held : holdsFlag (s.tasks i) = true
  holds : holdsFlag (s'.tasks i) = false
  running : s'.running = s.running

section Steps

variable {s s' : BackupSchedule} {i : Nat} {task : Option BackupTask}

theorem setTask_tasks_self : (s.setTask i task).tasks i = task := by
  simp only [setTask, Function.update_self]

theorem setTask_tasks_of_ne {j : Nat} (h : j ≠ i) : (s.setTask i task).tasks j = s.tasks j := by
  simp only [setTask, Function.update_of_ne h]

/-- What a step is about: one task, and what is done to the flag. With both notes written and no
run dropped it is left, taken or given back; otherwise it is lost. -/
inductive StepCase (s s' : BackupSchedule) (action : BackupAction) : Prop
  | moved (i : Nat) (others : ∀ j, j ≠ i → s'.tasks j = s.tasks j)
      (returns : s.RunsReturn action) (move : FlagMove s s' i)
  | lost (i : Nat) (others : ∀ j, j ≠ i → s'.tasks j = s.tasks j)
      (fails : ¬ s.RunsReturn action) (lost : FlagLost s s' i)

/-- A step that replaces a task, and perhaps writes the schedule, the policy or the history. -/
theorem StepCase.of_kept {action : BackupAction} (returns : s.RunsReturn action)
    (tasks : s'.tasks = (s.setTask i task).tasks) (running : s'.running = s.running)
    (ended : ∀ call ∈ s'.ended, call ∈ s.ended ∨ call.rescheduled = true)
    (holds : holdsFlag task = holdsFlag (s.tasks i)) : StepCase s s' action := by
  refine .moved i ?_ returns (.kept running ?_ ended)
  · intro j hj
    rw [tasks, setTask_tasks_of_ne hj]
  · rw [tasks, setTask_tasks_self, holds]

/-- An early return loses the flag. -/
theorem StepCase.of_lost {action : BackupAction} (fails : ¬ s.RunsReturn action)
    (tasks : s'.tasks = (s.setTask i none).tasks) (running : s'.running = s.running)
    (held : holdsFlag (s.tasks i) = true) : StepCase s s' action := by
  refine .lost i ?_ fails ⟨held, ?_, running⟩
  · intro j hj
    rw [tasks, setTask_tasks_of_ne hj]
  · rw [tasks, setTask_tasks_self]
    rfl

theorem step_cases {action : BackupAction} (h : s.step action = some s') :
    StepCase s s' action := by
  cases action with
  | startTick i =>
    rw [step] at h
    split at h
    · next hnone =>
      obtain rfl := Option.some.inj h
      exact .of_kept trivial rfl rfl (fun _ hcall => Or.inl hcall) (by rw [hnone]; rfl)
    · cases h
  | decideTick i now later =>
    rw [step] at h
    split at h
    · next policy history htick =>
      obtain rfl := Option.some.inj h
      refine .of_kept trivial rfl rfl (fun _ hcall => Or.inl hcall) ?_
      rw [htick]
      split <;> rfl
    · cases h
  | requestRun i =>
    rw [step] at h
    split at h
    · next hnone =>
      obtain rfl := Option.some.inj h
      exact .of_kept trivial rfl rfl (fun _ hcall => Or.inl hcall) (by rw [hnone]; rfl)
    · cases h
  | acquire i =>
    rw [step] at h
    split at h
    · next trigger hcalling =>
      split at h
      · obtain rfl := Option.some.inj h
        exact .of_kept trivial rfl rfl (fun _ hcall => Or.inl hcall) (by rw [hcalling]; rfl)
      · next hfree =>
        obtain rfl := Option.some.inj h
        refine .moved i (fun j hj => setTask_tasks_of_ne hj) trivial ?_
        exact .taken (Bool.eq_false_iff.mpr hfree) rfl (congrArg holdsFlag setTask_tasks_self) rfl
    · cases h
  | persistMarker i now fault =>
    rw [step] at h
    split at h
    · next trigger hacquired =>
      cases fault with
      | none =>
        obtain rfl := Option.some.inj h
        exact .of_kept rfl rfl rfl (fun _ hcall => Or.inl hcall) (by rw [hacquired]; rfl)
      | some error =>
        obtain rfl := Option.some.inj h
        exact .of_lost (Option.some_ne_none error) rfl rfl (by rw [hacquired]; rfl)
    · cases h
  | enter i =>
    rw [step] at h
    split at h
    · next trigger hmarked =>
      obtain rfl := Option.some.inj h
      exact .of_kept trivial rfl rfl (fun _ hcall => Or.inl hcall) (by rw [hmarked]; rfl)
    · cases h
  | finish i steps =>
    rw [step] at h
    split at h
    · next trigger policy hworking =>
      obtain rfl := Option.some.inj h
      exact .of_kept trivial rfl rfl (fun _ hcall => Or.inl hcall) (by rw [hworking]; rfl)
    · cases h
  | persistResult i now fault =>
    rw [step] at h
    split at h
    · next trigger result hworked =>
      cases fault with
      | none =>
        obtain rfl := Option.some.inj h
        exact .of_kept rfl rfl rfl (fun _ hcall => Or.inl hcall) (by rw [hworked]; rfl)
      | some error =>
        obtain rfl := Option.some.inj h
        exact .of_lost (Option.some_ne_none error) rfl rfl (by rw [hworked]; rfl)
    · cases h
  | release i =>
    rw [step] at h
    split at h
    · next trigger result hrecorded =>
      obtain rfl := Option.some.inj h
      refine .moved i (fun j hj => setTask_tasks_of_ne hj) trivial ?_
      exact .given (by rw [hrecorded]; rfl) (congrArg holdsFlag setTask_tasks_self) rfl rfl
    · cases h
  | readControlPlane i now =>
    rw [step] at h
    split at h
    · next call hrefreshing =>
      obtain rfl := Option.some.inj h
      exact .of_kept trivial rfl rfl (fun _ hcall => Or.inl hcall) (by rw [hrefreshing]; rfl)
    · cases h
  | reschedule i =>
    rw [step] at h
    split at h
    · next call nextRunAt hrescheduling =>
      obtain rfl := Option.some.inj h
      refine .of_kept trivial rfl rfl ?_ (by rw [hrescheduling]; rfl)
      -- a call that ends here has its next run
      intro ended hended
      cases call with
      | none => exact Or.inl hended
      | some call =>
        rcases List.mem_cons.mp hended with rfl | hended
        · exact Or.inr rfl
        · exact Or.inl hended
    · cases h
  | drop i =>
    rw [step.eq_def] at h
    dsimp only at h
    split at h
    · next policy hworking =>
      obtain rfl := Option.some.inj h
      exact .of_lost id rfl rfl (by rw [hworking]; rfl)
    · cases h
  | savePolicy i policy fault =>
    rw [step.eq_def] at h
    dsimp only at h
    split at h
    · next hnone =>
      cases fault with
      | none =>
        obtain rfl := Option.some.inj h
        exact .of_kept trivial rfl rfl (fun _ hcall => Or.inl hcall) (by rw [hnone]; rfl)
      | some error =>
        obtain rfl := Option.some.inj h
        exact .moved i (fun _ _ => rfl) trivial
          (.kept rfl rfl (fun _ hcall => Or.inl hcall))
    · cases h

end Steps

/-! ## Section 5: Runs -/

variable {s s' : BackupSchedule} {action : BackupAction}

/-- When the call that holds the flag no longer does, no call does. -/
theorem Inv.none_after {i : Nat} (h : s.Inv) (held : holdsFlag (s.tasks i) = true)
    (holds : holdsFlag (s'.tasks i) = false) (others : ∀ j, j ≠ i → s'.tasks j = s.tasks j)
    (j : Nat) : ¬ holdsFlag (s'.tasks j) = true := by
  intro hj
  by_cases hji : j = i
  · rw [hji, holds] at hj
    exact Bool.false_ne_true hj
  · rw [others j hji] at hj
    exact hji (h.unique j i hj held)

/-- The flag is only taken when it is free, so no step lets a second call hold it. -/
theorem inv_step (s : BackupSchedule) (action : BackupAction) (s' : BackupSchedule) (h : s.Inv)
    (hstep : s.step action = some s') : s'.Inv := by
  cases step_cases hstep with
  | moved i others _ move =>
    cases move with
    | kept running holds _ =>
      -- the same calls hold the flag as before
      have hsame : ∀ j, holdsFlag (s'.tasks j) = holdsFlag (s.tasks j) := by
        intro j
        by_cases hj : j = i
        · rw [hj, holds]
        · rw [others j hj]
      refine ⟨fun j hj => ?_, fun j k hj hk => ?_⟩
      · rw [running]
        exact h.running j (hsame j ▸ hj)
      · exact h.unique j k (hsame j ▸ hj) (hsame k ▸ hk)
    | taken free running _ _ =>
      -- nobody held it
      have hnone : ∀ j, j ≠ i → holdsFlag (s'.tasks j) = true → False := by
        intro j hj hholds
        rw [others j hj] at hholds
        exact Bool.false_ne_true (free.symm.trans (h.running j hholds))
      refine ⟨fun _ _ => running, fun j k hj hk => ?_⟩
      have hji : j = i := by_contra fun hne => hnone j hne hj
      have hki : k = i := by_contra fun hne => hnone k hne hk
      exact hji.trans hki.symm
    | given held holds _ _ =>
      have hnone := h.none_after held holds others
      exact ⟨fun j hj => absurd hj (hnone j), fun j _ hj _ => absurd hj (hnone j)⟩
  | lost i others _ lost =>
    have hnone := h.none_after lost.held lost.holds others
    exact ⟨fun j hj => absurd hj (hnone j), fun j _ hj _ => absurd hj (hnone j)⟩

theorem inv_start (policy : GatewayBackupPolicy) (history : GatewayBackupHistory)
    (nowUnixMs : Nat) : (start policy history nowUnixMs).Inv where
  running _ h := absurd h Bool.false_ne_true
  unique _ _ h := absurd h Bool.false_ne_true

theorem Inv.oneRun (h : s.Inv) : s.OneRun :=
  fun i j hi hj => h.unique i j (holdsFlag_of_isWorking hi) (holdsFlag_of_isWorking hj)

/-- From a state in which the flag is held or free, it is so after a step exactly when the step
writes its note and drops no run. -/
theorem released_step_iff (s : BackupSchedule) (action : BackupAction) (s' : BackupSchedule)
    (h : s.Inv) (hreleased : s.Released) (hstep : s.step action = some s') :
    s'.Released ↔ s.RunsReturn action := by
  cases step_cases hstep with
  | moved i others returns move =>
    refine iff_of_true ?_ returns
    cases move with
    | kept running holds ended =>
      refine ⟨fun hrunning => ?_, fun call hcall => ?_⟩
      · rw [running] at hrunning
        obtain ⟨j, hj⟩ := hreleased.held hrunning
        refine ⟨j, ?_⟩
        by_cases hji : j = i
        · rw [hji, holds, ← hji, hj]
        · rw [others j hji, hj]
      · exact (ended call hcall).elim (hreleased.rescheduled call) id
    | taken _ _ holds ended =>
      exact ⟨fun _ => ⟨i, holds⟩, fun call hcall => hreleased.rescheduled call (ended ▸ hcall)⟩
    | given _ _ running ended =>
      refine ⟨fun hrunning => ?_, fun call hcall => hreleased.rescheduled call (ended ▸ hcall)⟩
      rw [running] at hrunning
      exact absurd hrunning Bool.false_ne_true
  | lost i others fails lost =>
    refine iff_of_false ?_ fails
    -- the flag is still set and no call holds it
    intro hreleased'
    have hrunning : s'.running = true := lost.running.trans (h.running i lost.held)
    obtain ⟨j, hj⟩ := hreleased'.held hrunning
    exact h.none_after lost.held lost.holds others j hj

theorem released_start (policy : GatewayBackupPolicy) (history : GatewayBackupHistory)
    (nowUnixMs : Nat) : (start policy history nowUnixMs).Released where
  held h := absurd h Bool.false_ne_true
  rescheduled _ h := absurd h List.not_mem_nil

/-- In every run of the schedule at most one backup run is at work, and the flag is always held
by a call or free again, with the next run computed, exactly when every note is written and no
run is dropped. -/
theorem always_released_iff (policy : GatewayBackupPolicy) (history : GatewayBackupHistory)
    (nowUnixMs : Nat) (actions : List BackupAction) :
    Always step OneRun (start policy history nowUnixMs) actions ∧
      (Always step Released (start policy history nowUnixMs) actions ↔
        Guarded step RunsReturn (start policy history nowUnixMs) actions) := by
  refine ⟨?_, always_iff_guarded inv_step released_step_iff (inv_start _ _ _)
    (released_start _ _ _)⟩
  exact always_of_forall inv_step (fun _ h => h.oneRun) (inv_start _ _ _)

/-! ## Section 6: A flag that stays -/

/-- Once the flag is set and nobody holds it, no call can take it any more. -/
theorem blocked_step (s : BackupSchedule) (action : BackupAction) (s' : BackupSchedule)
    (h : s.running = true ∧ ∀ i, holdsFlag (s.tasks i) = false)
    (hstep : s.step action = some s') :
    s'.running = true ∧ ∀ i, holdsFlag (s'.tasks i) = false := by
  obtain ⟨hrunning, hnone⟩ := h
  cases step_cases hstep with
  | moved i others _ move =>
    cases move with
    | kept running holds _ =>
      refine ⟨running.trans hrunning, fun j => ?_⟩
      by_cases hj : j = i
      · rw [hj, holds, hnone]
      · rw [others j hj, hnone]
    | taken free _ _ _ => exact absurd (free.symm.trans hrunning) Bool.false_ne_true
    | given held _ _ _ => exact absurd ((hnone i).symm.trans held) Bool.false_ne_true
  | lost i _ _ lost => exact absurd ((hnone i).symm.trans lost.held) Bool.false_ne_true

/-- A manual run whose first note cannot be written: it has ended, the flag stays set, and no
run gets to work in whatever happens later. -/
theorem marker_error_blocks_runs :
    ∃ s, run step (start ⟨true, true, false, 60, "data/gateway-backups", 4, none, 4⟩ {} 0)
        [.requestRun 0, .acquire 0, .persistMarker 0 5 (some "No space left on device")] = some s ∧
      s.running = true ∧ (∀ i, s.tasks i = none) ∧ ¬ s.Released ∧
      ∀ actions s', run step s actions = some s' →
        s'.running = true ∧ ∀ i, isWorking (s'.tasks i) = false := by
  obtain ⟨s, hrun, hrunning, htasks⟩ : ∃ s, run step
      (start ⟨true, true, false, 60, "data/gateway-backups", 4, none, 4⟩ {} 0)
      [.requestRun 0, .acquire 0, .persistMarker 0 5 (some "No space left on device")] = some s ∧
      s.running = true ∧ ∀ i, s.tasks i = none := by
    refine ⟨_, rfl, rfl, ?_⟩
    intro i
    by_cases hi : i = 0
    · rw [hi]
      rfl
    · exact (setTask_tasks_of_ne hi).trans
        ((setTask_tasks_of_ne hi).trans (setTask_tasks_of_ne hi))
  have hblocked : s.running = true ∧ ∀ i, holdsFlag (s.tasks i) = false :=
    ⟨hrunning, fun i => by rw [htasks i]; rfl⟩
  refine ⟨s, hrun, hrunning, htasks, ?_, ?_⟩
  · intro hreleased
    obtain ⟨i, hi⟩ := hreleased.held hrunning
    exact Bool.false_ne_true ((hblocked.2 i).symm.trans hi)
  · intro actions s' hrun'
    obtain ⟨hrunning', hnone⟩ := run_preserves_of_forall blocked_step hblocked hrun'
    refine ⟨hrunning', fun i => ?_⟩
    by_contra hworking
    exact Bool.false_ne_true
      ((hnone i).symm.trans (holdsFlag_of_isWorking (Bool.eq_true_of_not_eq_false hworking)))

end BackupSchedule

end Netdisk2Blob.Backup
