import Netdisk2Blob.Gateway.Multipart
import Netdisk2Blob.Gateway.PutRollback
import Netdisk2Blob.Library.Transition

/-!
# Interleaved Multipart Requests

An UploadPart puts its file in place (`commitPart`) and writes its row (`upsertPart`) in two
steps, and checks the limit on the total size long before both. A completion checks the rows
and opens the files in separate steps. `Guard` says which steps keep out of each other's way,
`Untorn` what the rows, the files and the stored objects then agree on.

## Contents

- `Untorn`; `Settled`, `Guard`
- `Inv`: the invariant, with what each phase knows (`PhaseOk`)
- `inv_step`: a guarded step keeps the invariant
- `always_untorn`: every state of a guarded run is untorn
-/

namespace Netdisk2Blob.Gateway

open Library Blob Operations

/-! ## Section 1: What must hold -/

/-- The row says what the file is. -/
def MultipartUploadPartRecord.Describes (config : MultipartConfig)
    (part : MultipartUploadPartRecord) (content : Bytes) : Prop :=
  part.etag = config.sha256Hex content ∧ part.sizeBytes = content.length

/-- The request has not started or has returned. -/
def MultipartPhase.Quiet : MultipartPhase → Prop
  | .idle => True
  | .returned _ => True
  | _ => False

/-- No request has torn another's work. -/
structure Untorn (config : MultipartConfig) (s : MultipartState) : Prop where
  described : (∀ request, (s.requests request).Quiet) → ∀ part ∈ s.parts,
    ∃ content, s.files (.part part.partNumber) = some content ∧ part.Describes config content
  total : partsSize s.parts ≤ config.maxSpooledObjectBytes
  listed : ∀ complete contents, (complete, contents) ∈ s.stored → ∀ content ∈ contents,
    config.sha256Hex content ∈ complete.requestedParts.map Prod.snd

/-! ## Section 2: Steps that keep out of each other's way -/

namespace MultipartPhase

/-- The request has put its file of the part in place, and has neither written the row nor
taken the file back for good. -/
def Placed (partNumber : PartNumber) (content : Bytes) : MultipartPhase → Prop
  | .committed upload _ => upload.partNumber = partNumber ∧ upload.body = content
  | .upsertFailed upload _ _ => upload.partNumber = partNumber ∧ upload.body = content
  | .partRemoved upload _ => upload.partNumber = partNumber ∧ upload.body = content
  | _ => False

/-- The request has set a file of the part aside or put its own in place, and has not
finished with either. -/
def Replacing (partNumber : PartNumber) : MultipartPhase → Prop
  | .pathClear upload moved => moved = true ∧ upload.partNumber = partNumber
  | .commitFailed upload _ => upload.partNumber = partNumber
  | .committed upload _ => upload.partNumber = partNumber
  | .upsertFailed upload _ _ => upload.partNumber = partNumber
  | .partRemoved upload _ => upload.partNumber = partNumber
  | _ => False

/-- The request is not at work on any part. -/
def Aside (phase : MultipartPhase) : Prop :=
  (∀ partNumber content, ¬ phase.Placed partNumber content) ∧
    ∀ partNumber, ¬ phase.Replacing partNumber

end MultipartPhase

def HasRow (s : MultipartState) (partNumber : PartNumber) : Prop :=
  ∃ part ∈ s.parts, part.partNumber = partNumber

/-- `content` may stay at the path of the part: it is what the row was last written for, or
one of `others` is at work on the part. -/
def Settled (s : MultipartState) (others : Nat → Prop) (partNumber : PartNumber)
    (recorded : Option Bytes) : Option Bytes → Prop
  | some content =>
    recorded = some content ∨ ∃ other, others other ∧
      (s.requests other).Placed partNumber content
  | none => ∃ other, others other ∧ (s.requests other).Replacing partNumber

/-- Of a part with a row, a request that returns leaves nothing at the path that neither the
row nor another request stands for. -/
def LeavesSettled (s s' : MultipartState) (request : Nat) (partNumber : PartNumber) : Prop :=
  HasRow s partNumber →
    Settled s (· ≠ request) partNumber (s.recorded partNumber) (s'.files (.part partNumber))

/-- The condition on a step, by what the request is about to do. -/
def Guard (config : MultipartConfig) (s : MultipartState) (action : Nat × MultipartAction) :
    Prop :=
  match action.2, s.requests action.1 with
  | .upsertPart none, .committed upload _ =>
    s.session = none ∨
      -- the check of the total size would pass again
      config.checkSpooledSize upload.body.length (partsSize s.parts)
          (replacedSize s.parts upload.partNumber) = .ok () ∧
        -- and the file in place is its own, or another request is at work on it
        Settled s (· ≠ action.1) upload.partNumber (some upload.body)
          (s.files (.part upload.partNumber))
  | .removePart fails, .upsertFailed upload false _ =>
    LeavesSettled s (s.tolerate fails (s.setFile (.part upload.partNumber) none)) action.1
      upload.partNumber
  | .restoreAfterCommit fails, .commitFailed upload _ =>
    LeavesSettled s (s.tolerate fails (s.restore action.1 upload.partNumber)) action.1
      upload.partNumber
  | .restorePart fails, .partRemoved upload _ =>
    LeavesSettled s (s.tolerate fails (s.restore action.1 upload.partNumber)) action.1
      upload.partNumber
  | .openPart, .opening _ _ _ (part :: _) _ =>
    -- whatever may be at the path has the etag that was selected
    (HasRow s part.partNumber ∨ ∀ content, s.files (.part part.partNumber) = some content →
        s.recorded part.partNumber = some content) ∧
      (∀ content, s.recorded part.partNumber = some content →
        config.sha256Hex content = part.etag) ∧
      ∀ other content, (s.requests other).Placed part.partNumber content →
        config.sha256Hex content = part.etag
  | _, _ => True

/-! ## Section 3: The invariant -/

/-- The temporary file, if it is still there, holds the body. -/
def TempHolds (s : MultipartState) (request : Nat) (upload : UploadPart) : Prop :=
  ∀ content, s.files (.temp request) = some content → content = upload.body

/-- What a phase knows. -/
def PhaseOk (config : MultipartConfig) (s : MultipartState) (request : Nat) :
    MultipartPhase → Prop
  | .spooled upload => TempHolds s request upload
  | .existingSeen upload => TempHolds s request upload
  | .pathClear upload _ => TempHolds s request upload
  | .opening complete _ _ remaining opened =>
    (∀ part ∈ remaining, part.etag ∈ complete.requestedParts.map Prod.snd) ∧
      ∀ content ∈ opened, config.sha256Hex content ∈ complete.requestedParts.map Prod.snd
  | .sessionGone _ => s.session = none
  | _ => True

structure Inv (config : MultipartConfig) (s : MultipartState) : Prop where
  phases : ∀ request, PhaseOk config s request (s.requests request)
  rows : ∀ part ∈ s.parts, ∃ content, s.recorded part.partNumber = some content ∧
    part.Describes config content
  noRows : s.session = none → s.parts = ∅
  settled : ∀ part ∈ s.parts, Settled s (fun _ => True) part.partNumber
    (s.recorded part.partNumber) (s.files (.part part.partNumber))
  total : partsSize s.parts ≤ config.maxSpooledObjectBytes
  listed : ∀ complete contents, (complete, contents) ∈ s.stored → ∀ content ∈ contents,
    config.sha256Hex content ∈ complete.requestedParts.map Prod.snd

section Invariant

variable {config : MultipartConfig} {s s' : MultipartState} {request : Nat}
  {phase : MultipartPhase}

theorem inv_start (session : MultipartUploadSessionRecord) (gateway : GatewayState) :
    Inv config (MultipartState.start session gateway) where
  phases := fun _ => trivial
  rows := fun part hpart => absurd hpart (Table.not_mem_empty part)
  noRows := fun hnone => absurd hnone (by simp [MultipartState.start])
  settled := fun part hpart => absurd hpart (Table.not_mem_empty part)
  total := Nat.zero_le _
  listed := fun _ _ hmem => absurd hmem (by simp [MultipartState.start])

/-- With everybody quiet, what the invariant says is that nothing is torn. -/
theorem Inv.untorn (h : Inv config s) : Untorn config s where
  described := by
    intro hquiet part hpart
    have hidle : ∀ request, (∀ content, ¬ (s.requests request).Placed part.partNumber content) ∧
        ¬ (s.requests request).Replacing part.partNumber := by
      intro request
      have hphase := hquiet request
      cases hreq : s.requests request <;> rw [hreq] at hphase <;>
        first
        | exact hphase.elim
        | exact ⟨fun _ => id, id⟩
    have hsettled := h.settled part hpart
    cases hfile : s.files (.part part.partNumber) with
    | none =>
      rw [hfile] at hsettled
      obtain ⟨other, -, hother⟩ := hsettled
      exact absurd hother (hidle other).2
    | some content =>
      rw [hfile] at hsettled
      rcases hsettled with hrecorded | ⟨other, -, hother⟩
      · obtain ⟨content', hcontent', hdescribes⟩ := h.rows part hpart
        rw [hrecorded] at hcontent'
        cases hcontent'
        exact ⟨content, rfl, hdescribes⟩
      · exact absurd hother ((hidle other).1 content)
  total := h.total
  listed := h.listed

/-! ### What one step keeps -/

/-- What a phase knows depends on the request's own temporary file and on the session. -/
theorem phaseOk_congr
    (htemp : ∀ content, s'.files (.temp request) = some content →
      s.files (.temp request) = some content)
    (hsession : s.session = none → s'.session = none)
    (h : PhaseOk config s request phase) : PhaseOk config s' request phase := by
  have hholds : ∀ upload, TempHolds s request upload → TempHolds s' request upload :=
    fun upload hold content hfile => hold content (htemp content hfile)
  cases phase with
  | spooled upload => exact hholds upload h
  | existingSeen upload => exact hholds upload h
  | pathClear upload moved => exact hholds upload h
  | opening complete session selected remaining opened => exact h
  | sessionGone result => exact hsession h
  | idle => trivial
  | returned result => trivial
  | uploadStarted upload => trivial
  | partsListed upload existingSize replacedSize => trivial
  | commitFailed upload error => trivial
  | committed upload moved => trivial
  | upsertFailed upload moved error => trivial
  | partRemoved upload error => trivial
  | recorded upload moved => trivial
  | completeStarted complete session => trivial
  | objectStored etag => trivial
  | abortStarted => trivial

variable {partNumber : PartNumber} {recorded content : Option Bytes}

/-- What the others stand for, they still stand for when one request moves on. -/
theorem Settled.of_others (hrequests : s'.requests = Function.update s.requests request phase)
    (h : Settled s (· ≠ request) partNumber recorded content) :
    Settled s' (fun _ => True) partNumber recorded content := by
  have hother : ∀ other, other ≠ request → s'.requests other = s.requests other := by
    intro other hne
    rw [hrequests, Function.update_of_ne hne]
  cases content with
  | none =>
    obtain ⟨other, hne, hreplacing⟩ := h
    refine ⟨other, trivial, ?_⟩
    rw [hother other hne]
    exact hreplacing
  | some content =>
    rcases h with hrecorded | ⟨other, hne, hplaced⟩
    · exact Or.inl hrecorded
    · refine Or.inr ⟨other, trivial, ?_⟩
      rw [hother other hne]
      exact hplaced

/-- The request itself stands for the file that it put in place. -/
theorem Settled.of_placed {bytes : Bytes} (h : phase.Placed partNumber bytes) :
    Settled (s.setRequest request phase) (fun _ => True) partNumber recorded (some bytes) := by
  refine Or.inr ⟨request, trivial, ?_⟩
  show (Function.update s.requests request phase request).Placed partNumber bytes
  rw [Function.update_self]
  exact h

/-- And for a path that it left empty. -/
theorem Settled.of_replacing (h : phase.Replacing partNumber) :
    Settled (s.setRequest request phase) (fun _ => True) partNumber recorded none := by
  refine ⟨request, trivial, ?_⟩
  show (Function.update s.requests request phase request).Replacing partNumber
  rw [Function.update_self]
  exact h

/-- A request that stands for as much as before settles what was settled. -/
theorem Settled.keep (hrequests : s'.requests = Function.update s.requests request phase)
    (hplaced : ∀ content, (s.requests request).Placed partNumber content →
      phase.Placed partNumber content)
    (hreplacing : (s.requests request).Replacing partNumber → phase.Replacing partNumber)
    (h : Settled s (fun _ => True) partNumber recorded content) :
    Settled s' (fun _ => True) partNumber recorded content := by
  have hself : s'.requests request = phase := by rw [hrequests, Function.update_self]
  have hother : ∀ other, other ≠ request → s'.requests other = s.requests other := by
    intro other hne
    rw [hrequests, Function.update_of_ne hne]
  cases content with
  | none =>
    obtain ⟨other, -, hold⟩ := h
    refine ⟨other, trivial, ?_⟩
    by_cases heq : other = request
    · subst heq
      rw [hself]
      exact hreplacing hold
    · rw [hother other heq]
      exact hold
  | some content =>
    rcases h with hrecorded | ⟨other, -, hold⟩
    · exact Or.inl hrecorded
    · refine Or.inr ⟨other, trivial, ?_⟩
      by_cases heq : other = request
      · subst heq
        rw [hself]
        exact hplaced content hold
      · rw [hother other heq]
        exact hold

/-- A request that stands for nothing of the part leaves what the others settle. -/
theorem Settled.others (hplaced : ∀ content, ¬ (s.requests request).Placed partNumber content)
    (hreplacing : ¬ (s.requests request).Replacing partNumber)
    (h : Settled s (fun _ => True) partNumber recorded content) :
    Settled s (· ≠ request) partNumber recorded content := by
  cases content with
  | none =>
    obtain ⟨other, -, hold⟩ := h
    exact ⟨other, fun heq => hreplacing (heq ▸ hold), hold⟩
  | some content =>
    rcases h with hrecorded | ⟨other, -, hold⟩
    · exact Or.inl hrecorded
    · exact Or.inr ⟨other, fun heq => hplaced content (heq ▸ hold), hold⟩

/-- A step of one request that does not touch the rows. -/
theorem Inv.update (h : Inv config s)
    (hrequests : s'.requests = Function.update s.requests request phase)
    (hparts : s'.parts = s.parts) (hrecorded : s'.recorded = s.recorded)
    (hsession : s'.session = s.session) (hstored : s'.stored = s.stored)
    (htemp : ∀ other, other ≠ request → ∀ content, s'.files (.temp other) = some content →
      s.files (.temp other) = some content)
    (hphase : PhaseOk config s' request phase)
    (hsettled : ∀ part ∈ s.parts, Settled s' (fun _ => True) part.partNumber
      (s.recorded part.partNumber) (s'.files (.part part.partNumber))) : Inv config s' where
  phases := by
    intro other
    rw [hrequests]
    by_cases heq : other = request
    · subst heq
      rw [Function.update_self]
      exact hphase
    · rw [Function.update_of_ne heq]
      apply phaseOk_congr (htemp other heq) _ (h.phases other)
      rw [hsession]
      exact id
  rows := by
    rw [hparts, hrecorded]
    exact h.rows
  noRows := by
    rw [hparts, hsession]
    exact h.noRows
  settled := by
    rw [hparts, hrecorded]
    exact hsettled
  total := by
    rw [hparts]
    exact h.total
  listed := by
    rw [hstored]
    exact h.listed

/-- A step that touches no file either, of a request that stands for as much as before. -/
theorem Inv.setRequest (h : Inv config s) (hphase : PhaseOk config s request phase)
    (hplaced : ∀ partNumber content, (s.requests request).Placed partNumber content →
      phase.Placed partNumber content)
    (hreplacing : ∀ partNumber, (s.requests request).Replacing partNumber →
      phase.Replacing partNumber) : Inv config (s.setRequest request phase) := by
  have hrequests : (s.setRequest request phase).requests =
      Function.update s.requests request phase := rfl
  apply h.update hrequests rfl rfl rfl rfl (fun _ _ _ => id)
  · exact phaseOk_congr (fun _ => id) id hphase
  · intro part hpart
    exact (h.settled part hpart).keep rfl (hplaced part.partNumber)
      (hreplacing part.partNumber)

/-- The same, of a request that was not at work on any part. -/
theorem Inv.move (h : Inv config s) {old : MultipartPhase} (hold : s.requests request = old)
    (haside : old.Aside) (hphase : PhaseOk config s request phase) :
    Inv config (s.setRequest request phase) := by
  apply h.setRequest hphase
  · intro partNumber content hplaced
    rw [hold] at hplaced
    exact absurd hplaced (haside.1 partNumber content)
  · intro partNumber hreplacing
    rw [hold] at hreplacing
    exact absurd hreplacing (haside.2 partNumber)

/-- The files of a request that is at work on a part. -/
def Owns (request : Nat) (partNumber : PartNumber) : UploadFile → Prop
  | .part number => number = partNumber
  | .temp owner => owner = request
  | .rollback owner => owner = request

/-- A change to the files of one request and one part. -/
structure Touches (request : Nat) (partNumber : PartNumber) (s s' : MultipartState) : Prop where
  session : s'.session = s.session
  parts : s'.parts = s.parts
  recorded : s'.recorded = s.recorded
  stored : s'.stored = s.stored
  requests : s'.requests = s.requests
  files : ∀ file, ¬ Owns request partNumber file → s'.files file = s.files file

theorem Touches.setRequest_requests (h : Touches request partNumber s s')
    (phase : MultipartPhase) : (s'.setRequest request phase).requests =
      Function.update s.requests request phase := by
  show Function.update s'.requests request phase = _
  rw [h.requests]

theorem touches_refl : Touches request partNumber s s :=
  ⟨rfl, rfl, rfl, rfl, rfl, fun _ _ => rfl⟩

theorem Touches.trans {t : MultipartState} (h : Touches request partNumber s s')
    (h' : Touches request partNumber s' t) : Touches request partNumber s t where
  session := h'.session.trans h.session
  parts := h'.parts.trans h.parts
  recorded := h'.recorded.trans h.recorded
  stored := h'.stored.trans h.stored
  requests := h'.requests.trans h.requests
  files := fun file hfile => (h'.files file hfile).trans (h.files file hfile)

theorem touches_setFile {file : UploadFile} {content : Option Bytes}
    (hfile : Owns request partNumber file) :
    Touches request partNumber s (s.setFile file content) where
  session := rfl
  parts := rfl
  recorded := rfl
  stored := rfl
  requests := rfl
  files := by
    intro other hother
    apply Function.update_of_ne
    rintro rfl
    exact hother hfile

theorem touches_rename {source target : UploadFile} {content : Bytes}
    (hsource : Owns request partNumber source) (htarget : Owns request partNumber target) :
    Touches request partNumber s (s.rename source target content) :=
  (touches_setFile hsource).trans (touches_setFile htarget)

theorem touches_restore : Touches request partNumber s (s.restore request partNumber) := by
  unfold MultipartState.restore
  split
  · exact touches_rename rfl rfl
  · exact touches_refl

theorem touches_tolerate {fails : Bool} (h : Touches request partNumber s s') :
    Touches request partNumber s (s.tolerate fails s') := by
  unfold MultipartState.tolerate
  split
  · exact touches_refl
  · exact h

/-- The request is at work on no other part. -/
def MultipartPhase.On (partNumber : PartNumber) (phase : MultipartPhase) : Prop :=
  ∀ number, number ≠ partNumber →
    (∀ content, ¬ phase.Placed number content) ∧ ¬ phase.Replacing number

theorem MultipartPhase.Aside.on {old : MultipartPhase} (h : old.Aside)
    (partNumber : PartNumber) : old.On partNumber :=
  fun number _ => ⟨h.1 number, h.2 number⟩

theorem Inv.settled_of_row (h : Inv config s) (hrow : HasRow s partNumber) :
    Settled s (fun _ => True) partNumber (s.recorded partNumber) (s.files (.part partNumber)) := by
  obtain ⟨part, hpart, rfl⟩ := hrow
  exact h.settled part hpart

/-- A step of a request that changes files of its own part: the other parts stay settled. -/
theorem Inv.touch (h : Inv config s) (htouches : Touches request partNumber s s')
    {old : MultipartPhase} (hold : s.requests request = old) (hon : old.On partNumber)
    (hphase : PhaseOk config s' request phase)
    (hsettled : HasRow s partNumber → Settled (s'.setRequest request phase) (fun _ => True)
      partNumber (s.recorded partNumber) (s'.files (.part partNumber))) :
    Inv config (s'.setRequest request phase) := by
  have hrequests := htouches.setRequest_requests phase
  apply h.update hrequests htouches.parts htouches.recorded htouches.session htouches.stored
  · intro other hne content hfile
    rw [← htouches.files (.temp other) hne]
    exact hfile
  · exact phaseOk_congr (fun _ => id) id hphase
  · intro part hpart
    by_cases hnumber : part.partNumber = partNumber
    · subst hnumber
      exact hsettled ⟨part, hpart, rfl⟩
    · have hkept : (s'.setRequest request phase).files (.part part.partNumber) =
          s.files (.part part.partNumber) := htouches.files _ hnumber
      rw [hkept]
      have hothers : Settled s (· ≠ request) part.partNumber (s.recorded part.partNumber)
          (s.files (.part part.partNumber)) := by
        apply (h.settled part hpart).others
        · rw [hold]
          exact (hon _ hnumber).1
        · rw [hold]
          exact (hon _ hnumber).2
      exact hothers.of_others hrequests

/-- A request that returns after it changed files of its own part. -/
theorem Inv.leave (h : Inv config s) (htouches : Touches request partNumber s s')
    {old : MultipartPhase} (hold : s.requests request = old) (hon : old.On partNumber)
    (hleaves : LeavesSettled s s' request partNumber) (result : Except S3Error String) :
    Inv config (s'.setRequest request (.returned result)) := by
  apply h.touch htouches hold hon
  · trivial
  · intro hrow
    exact (hleaves hrow).of_others (htouches.setRequest_requests _)

/-! ### UploadPart -/

theorem inv_startUpload (h : Inv config s) {upload : UploadPart}
    (hstep : s.step config (request, .startUpload upload) = some s') : Inv config s' := by
  cases hreq : s.requests request <;> simp only [MultipartState.step, hreq] at hstep
  case idle =>
    split at hstep
    · cases hstep
      exact h.move hreq ⟨fun _ _ => id, fun _ => id⟩ trivial
    · split at hstep <;> cases hstep <;>
        exact h.move hreq ⟨fun _ _ => id, fun _ => id⟩ trivial
  all_goals cases hstep

theorem inv_listParts (h : Inv config s)
    (hstep : s.step config (request, .listParts) = some s') : Inv config s' := by
  cases hreq : s.requests request <;> simp only [MultipartState.step, hreq] at hstep
  case uploadStarted upload =>
    cases hstep
    exact h.move hreq ⟨fun _ _ => id, fun _ => id⟩ trivial
  all_goals cases hstep

theorem inv_spoolBody (h : Inv config s) {error : Option S3Error}
    (hstep : s.step config (request, .spoolBody error) = some s') : Inv config s' := by
  cases hreq : s.requests request <;> simp only [MultipartState.step, hreq] at hstep
  case partsListed upload existingSize replacedSize =>
    have haside : (MultipartPhase.partsListed upload existingSize replacedSize).Aside :=
      ⟨fun _ _ => id, fun _ => id⟩
    split at hstep
    · cases hstep
      exact h.move hreq haside trivial
    · cases hstep
      exact h.move hreq haside trivial
    · cases hstep
      -- the only new file is the temporary one
      have htouches : Touches request upload.partNumber s
          (s.setFile (.temp request) (some upload.body)) := touches_setFile rfl
      apply h.touch htouches hreq (haside.on upload.partNumber)
      · intro content hfile
        simpa [MultipartState.setFile] using hfile.symm
      · intro hrow
        rw [MultipartState.setFile_of_ne (by simp)]
        apply Settled.of_others (s := s) rfl
        apply (h.settled_of_row hrow).others
        · rw [hreq]
          exact haside.1 _
        · rw [hreq]
          exact haside.2 _
  all_goals cases hstep

theorem inv_checkExisting (h : Inv config s) {error : Option S3Error}
    (hstep : s.step config (request, .checkExisting error) = some s') : Inv config s' := by
  cases hreq : s.requests request <;> simp only [MultipartState.step, hreq] at hstep
  case spooled upload =>
    have haside : (MultipartPhase.spooled upload).Aside := ⟨fun _ _ => id, fun _ => id⟩
    have hholds : TempHolds s request upload := by
      have hphase := h.phases request
      rw [hreq] at hphase
      exact hphase
    split at hstep <;> cases hstep
    · exact h.move hreq haside trivial
    · exact h.move hreq haside hholds
    · exact h.move hreq haside hholds
  all_goals cases hstep

theorem inv_moveExisting (h : Inv config s) {error : Option S3Error}
    (hstep : s.step config (request, .moveExisting error) = some s') : Inv config s' := by
  cases hreq : s.requests request <;> simp only [MultipartState.step, hreq] at hstep
  case existingSeen upload =>
    have haside : (MultipartPhase.existingSeen upload).Aside := ⟨fun _ _ => id, fun _ => id⟩
    have hholds : TempHolds s request upload := by
      have hphase := h.phases request
      rw [hreq] at hphase
      exact hphase
    split at hstep <;> cases hstep
    · exact h.move hreq haside trivial
    · rename_i content hfound
      have htouches : Touches request upload.partNumber s
          (s.rename (.part upload.partNumber) (.rollback request) content) :=
        touches_rename rfl rfl
      apply h.touch htouches hreq (haside.on upload.partNumber)
      · intro temp htemp
        apply hholds temp
        rwa [MultipartState.rename, MultipartState.setFile_of_ne (by simp),
          MultipartState.setFile_of_ne (by simp)] at htemp
      · intro hrow
        rw [MultipartState.rename_source (by simp)]
        -- the path is empty, and the request itself will fill it
        apply Settled.of_replacing
        exact ⟨rfl, rfl⟩
  all_goals cases hstep

theorem inv_commitPart (h : Inv config s) {error : Option S3Error}
    (hstep : s.step config (request, .commitPart error) = some s') : Inv config s' := by
  cases hreq : s.requests request <;> simp only [MultipartState.step, hreq] at hstep
  case pathClear upload moved =>
    have hplaced : ∀ number content, ¬ (s.requests request).Placed number content := by
      rw [hreq]
      exact fun _ _ => id
    have hon : (MultipartPhase.pathClear upload moved).On upload.partNumber :=
      fun number hne => ⟨fun _ => id, fun hreplacing => hne hreplacing.2.symm⟩
    have hhold : TempHolds s request upload := by
      have hphase := h.phases request
      rw [hreq] at hphase
      exact hphase
    split at hstep
    · rename_i error hfailed
      have htouches : Touches request upload.partNumber s (s.setFile (.temp request) none) :=
        touches_setFile rfl
      have hpath : (s.setFile (.temp request) none).files (.part upload.partNumber) =
          s.files (.part upload.partNumber) := MultipartState.setFile_of_ne (by simp) ..
      split at hstep <;> cases hstep
      · -- it still stands for the file that it set aside
        apply h.touch htouches hreq hon
        · trivial
        intro hrow
        rw [hpath]
        apply (h.settled_of_row hrow).keep rfl
        · exact fun content hcontent => absurd hcontent (hplaced _ content)
        · exact fun _ => rfl
      · rename_i hmoved
        apply h.touch htouches hreq hon
        · trivial
        intro hrow
        rw [hpath]
        apply Settled.of_others (s := s) rfl
        apply (h.settled_of_row hrow).others (hplaced _)
        rw [hreq]
        exact fun hreplacing => hmoved hreplacing.1
    · rename_i content hfound
      cases hstep
      have htouches : Touches request upload.partNumber s
          (s.rename (.temp request) (.part upload.partNumber) content) := touches_rename rfl rfl
      apply h.touch htouches hreq hon
      · trivial
      intro hrow
      rw [MultipartState.rename_target]
      apply Settled.of_placed
      refine ⟨rfl, ?_⟩
      obtain ⟨-, hfile⟩ := MultipartState.failure_ok hfound
      exact (hhold content hfile).symm
  all_goals cases hstep

theorem inv_restoreAfterCommit (h : Inv config s) {fails : Bool}
    (hguard : Guard config s (request, .restoreAfterCommit fails))
    (hstep : s.step config (request, .restoreAfterCommit fails) = some s') : Inv config s' := by
  cases hreq : s.requests request <;> simp only [MultipartState.step, hreq] at hstep
  case commitFailed upload error =>
    cases hstep
    simp only [Guard, hreq] at hguard
    apply h.leave (touches_tolerate touches_restore) hreq _ hguard
    exact fun number hne => ⟨fun _ => id, fun hreplacing => hne hreplacing.symm⟩
  all_goals cases hstep

theorem inv_restorePart (h : Inv config s) {fails : Bool}
    (hguard : Guard config s (request, .restorePart fails))
    (hstep : s.step config (request, .restorePart fails) = some s') : Inv config s' := by
  cases hreq : s.requests request <;> simp only [MultipartState.step, hreq] at hstep
  case partRemoved upload error =>
    cases hstep
    simp only [Guard, hreq] at hguard
    apply h.leave (touches_tolerate touches_restore) hreq _ hguard
    exact fun number hne =>
      ⟨fun _ hplaced => hne hplaced.1.symm, fun hreplacing => hne hreplacing.symm⟩
  all_goals cases hstep

theorem inv_removePart (h : Inv config s) {fails : Bool}
    (hguard : Guard config s (request, .removePart fails))
    (hstep : s.step config (request, .removePart fails) = some s') : Inv config s' := by
  cases hreq : s.requests request <;> simp only [MultipartState.step, hreq] at hstep
  case upsertFailed upload moved error =>
    have hon : (MultipartPhase.upsertFailed upload moved error).On upload.partNumber :=
      fun number hne =>
        ⟨fun _ hplaced => hne hplaced.1.symm, fun hreplacing => hne hreplacing.symm⟩
    have htouches : Touches request upload.partNumber s
        (s.tolerate fails (s.setFile (.part upload.partNumber) none)) :=
      touches_tolerate (touches_setFile rfl)
    cases moved with
    | false =>
      cases hstep
      simp only [Guard, hreq] at hguard
      exact h.leave htouches hreq hon hguard _
    | true =>
      cases hstep
      apply h.touch htouches hreq hon
      · trivial
      intro hrow
      cases fails with
      | true =>
        apply (h.settled_of_row hrow).keep rfl
        · rw [hreq]
          exact fun _ => id
        · rw [hreq]
          exact id
      | false =>
        show Settled _ _ _ _ ((s.setFile (.part upload.partNumber) none).files _)
        rw [MultipartState.setFile_self]
        apply Settled.of_replacing
        rfl
  all_goals cases hstep

theorem inv_removeRollback (h : Inv config s) {fails : Bool}
    (hstep : s.step config (request, .removeRollback fails) = some s') : Inv config s' := by
  cases hreq : s.requests request <;> simp only [MultipartState.step, hreq] at hstep
  case recorded upload moved =>
    cases hstep
    have haside : (MultipartPhase.recorded upload moved).Aside := ⟨fun _ _ => id, fun _ => id⟩
    have htouches : Touches request upload.partNumber s
        (if moved then s.tolerate fails (s.setFile (.rollback request) none) else s) := by
      split
      · exact touches_tolerate (touches_setFile rfl)
      · exact touches_refl
    apply h.leave htouches hreq (haside.on _)
    intro hrow
    have hpath : (if moved then s.tolerate fails (s.setFile (.rollback request) none)
        else s).files (.part upload.partNumber) = s.files (.part upload.partNumber) := by
      cases moved <;> cases fails <;>
        simp [MultipartState.tolerate, MultipartState.setFile_of_ne]
    rw [hpath]
    apply (h.settled_of_row hrow).others
    · rw [hreq]
      exact haside.1 _
    · rw [hreq]
      exact haside.2 _
  all_goals cases hstep

/-- The row of a part is written while the size fits and the file may stay. -/
theorem Inv.upsert (h : Inv config s) {upload : UploadPart} {moved : Bool}
    (hreq : s.requests request = .committed upload moved) (hopen : s.session ≠ none)
    (hsize : config.checkSpooledSize upload.body.length (partsSize s.parts)
      (replacedSize s.parts upload.partNumber) = .ok ())
    (hfile : Settled s (· ≠ request) upload.partNumber (some upload.body)
      (s.files (.part upload.partNumber))) :
    Inv config ((s.upsertPart config upload).setRequest request (.recorded upload moved)) := by
  have hrequests : ((s.upsertPart config upload).setRequest request
      (.recorded upload moved)).requests =
        Function.update s.requests request (.recorded upload moved) := rfl
  have hrecorded : ∀ number, number ≠ upload.partNumber →
      (s.upsertPart config upload).recorded number = s.recorded number :=
    fun number hne => Function.update_of_ne hne ..
  have hself : (s.upsertPart config upload).recorded upload.partNumber = some upload.body :=
    Function.update_self ..
  constructor
  case phases =>
    intro other
    by_cases heq : other = request
    · subst heq
      rw [hrequests, Function.update_self]
      trivial
    · rw [hrequests, Function.update_of_ne heq]
      exact phaseOk_congr (fun _ => id) id (h.phases other)
  case rows =>
    intro part hpart
    rcases Table.mem_upsert.mp hpart with rfl | ⟨hold, hne⟩
    · exact ⟨upload.body, hself, rfl, rfl⟩
    · obtain ⟨content, hcontent, hdescribes⟩ := h.rows part hold
      exact ⟨content, (hrecorded _ hne).trans hcontent, hdescribes⟩
  case noRows =>
    intro hnone
    exact absurd hnone hopen
  case settled =>
    intro part hpart
    rcases Table.mem_upsert.mp hpart with rfl | ⟨hold, hne⟩
    · show Settled _ _ _ ((s.upsertPart config upload).recorded upload.partNumber) _
      rw [hself]
      exact hfile.of_others hrequests
    · show Settled _ _ _ ((s.upsertPart config upload).recorded part.partNumber) _
      rw [hrecorded _ hne]
      apply Settled.of_others hrequests
      apply (h.settled part hold).others
      · rw [hreq]
        exact fun content hplaced => hne hplaced.1.symm
      · rw [hreq]
        exact fun hreplacing => hne hreplacing.symm
  case total =>
    show partsSize (s.parts.upsert (config.partRecord upload)) ≤ _
    rw [partsSize_upsert]
    have htotal := h.total
    rcases MultipartConfig.checkSpooledSize_ok hsize with hempty | hfits
    · have hsize : (config.partRecord upload).sizeBytes = 0 := hempty
      omega
    · exact hfits
  case listed => exact h.listed

theorem inv_upsertPart (h : Inv config s) {error : Option S3Error}
    (hguard : Guard config s (request, .upsertPart error))
    (hstep : s.step config (request, .upsertPart error) = some s') : Inv config s' := by
  cases hreq : s.requests request <;> simp only [MultipartState.step, hreq] at hstep
  case committed upload moved =>
    split at hstep
    · cases hstep
      apply h.setRequest
      · trivial
      · rw [hreq]
        exact fun _ _ => id
      · rw [hreq]
        exact fun _ => id
    · rename_i session hsession
      cases hstep
      obtain ⟨rfl, hopen⟩ := MultipartState.failure_ok hsession
      simp only [Guard, hreq] at hguard
      rcases hguard with hnone | ⟨hsize, hfile⟩
      · rw [hnone] at hopen
        cases hopen
      · apply h.upsert hreq _ hsize hfile
        rw [hopen]
        exact Option.some_ne_none _
  all_goals cases hstep

/-! ### Complete and abort -/

theorem inv_startComplete (h : Inv config s) {complete : CompleteUpload}
    (hstep : s.step config (request, .startComplete complete) = some s') : Inv config s' := by
  cases hreq : s.requests request <;> simp only [MultipartState.step, hreq] at hstep
  case idle =>
    split at hstep <;> cases hstep <;>
      exact h.move hreq ⟨fun _ _ => id, fun _ => id⟩ trivial
  all_goals cases hstep

/-- Every selected part has an etag of the list. -/
theorem selectParts_listed {parts : MultipartParts} {requested : List (Nat × String)} :
    ∀ {previous : Nat} {selected : List MultipartUploadPartRecord},
      selectParts parts previous requested = .ok selected →
        ∀ part ∈ selected, part.etag ∈ requested.map Prod.snd := by
  induction requested with
  | nil =>
    intro previous selected hselect part hpart
    cases hselect
    cases hpart
  | cons head requested ih =>
    obtain ⟨partNumber, expectedEtag⟩ := head
    intro previous selected hselect part hpart
    unfold selectParts at hselect
    split at hselect
    · cases hselect
    · split at hselect
      · cases hselect
      · split at hselect
        · cases hselect
        · rename_i found _ hetag
          split at hselect
          · cases hselect
          · rename_i rest hrest
            cases hselect
            rw [List.map_cons]
            rcases List.mem_cons.mp hpart with rfl | hrestpart
            · apply List.mem_cons.mpr
              exact Or.inl (not_not.mp hetag)
            · exact List.mem_cons_of_mem _ (ih hrest part hrestpart)

theorem inv_selectParts (h : Inv config s)
    (hstep : s.step config (request, .selectParts) = some s') : Inv config s' := by
  cases hreq : s.requests request <;> simp only [MultipartState.step, hreq] at hstep
  case completeStarted complete session =>
    have haside : (MultipartPhase.completeStarted complete session).Aside :=
      ⟨fun _ _ => id, fun _ => id⟩
    split at hstep <;> cases hstep
    · exact h.move hreq haside trivial
    · rename_i selected hselect
      apply h.move hreq haside
      refine ⟨?_, fun content hcontent => by cases hcontent⟩
      unfold selectRequestedParts at hselect
      split at hselect
      · cases hselect
      · exact selectParts_listed hselect
  all_goals cases hstep

theorem inv_openPart (h : Inv config s) (hguard : Guard config s (request, .openPart))
    (hstep : s.step config (request, .openPart) = some s') : Inv config s' := by
  cases hreq : s.requests request <;> simp only [MultipartState.step, hreq] at hstep
  case opening complete session selected remaining opened =>
    have haside : (MultipartPhase.opening complete session selected remaining opened).Aside :=
      ⟨fun _ _ => id, fun _ => id⟩
    have hphase := h.phases request
    rw [hreq] at hphase
    obtain ⟨hremaining, hopened⟩ := hphase
    cases remaining with
    | nil => cases hstep
    | cons part remaining =>
      simp only [Guard, hreq] at hguard
      obtain ⟨hpath, hrecorded, hplaced⟩ := hguard
      cases hfile : s.files (.part part.partNumber) with
      | none =>
        simp only [hfile] at hstep
        cases hstep
        exact h.move hreq haside trivial
      | some content =>
        simp only [hfile] at hstep
        cases hstep
        apply h.move hreq haside
        have hetag : config.sha256Hex content = part.etag := by
          rcases hpath with hrow | hsame
          · have hsettled := h.settled_of_row hrow
            rw [hfile] at hsettled
            rcases hsettled with hlast | ⟨other, -, hother⟩
            · exact hrecorded content hlast
            · exact hplaced other content hother
          · exact hrecorded content (hsame content hfile)
        constructor
        · exact fun part hpart => hremaining part (List.mem_cons_of_mem _ hpart)
        · intro bytes hbytes
          rcases List.mem_append.mp hbytes with hold | hnew
          · exact hopened bytes hold
          · rw [List.mem_singleton.mp hnew, hetag]
            exact hremaining part List.mem_cons_self
  all_goals cases hstep

/-- The gateway behind the upload, and what was stored in it. -/
theorem Inv.store (h : Inv config s) (gateway : GatewayState)
    {stored : List (CompleteUpload × List Bytes)}
    (hlisted : ∀ complete contents, (complete, contents) ∈ stored → ∀ content ∈ contents,
      config.sha256Hex content ∈ complete.requestedParts.map Prod.snd) :
    Inv config { s with gateway := gateway, stored := stored } where
  phases := fun request => phaseOk_congr (fun _ => id) id (h.phases request)
  rows := h.rows
  noRows := h.noRows
  settled := by
    intro part hpart
    have hsettled := h.settled part hpart
    unfold Settled at hsettled ⊢
    exact hsettled
  total := h.total
  listed := hlisted

theorem inv_writeHomeObject (h : Inv config s) {reads : List Nat} {answers : List Answer}
    (hstep : s.step config (request, .writeHomeObject reads answers) = some s') :
    Inv config s' := by
  cases hreq : s.requests request <;> simp only [MultipartState.step, hreq] at hstep
  case opening complete session selected remaining opened =>
    have haside : (MultipartPhase.opening complete session selected remaining opened).Aside :=
      ⟨fun _ _ => id, fun _ => id⟩
    have hphase := h.phases request
    rw [hreq] at hphase
    cases remaining with
    | cons part remaining => cases hstep
    | nil =>
      dsimp only at hstep
      split at hstep
      · cases hstep
      · rename_i failure gateway' hexec
        cases hstep
        exact (h.store gateway' h.listed).move hreq haside trivial
      · rename_i etag gateway' hexec
        cases hstep
        have hstore : Inv config { s with
            gateway := gateway', stored := s.stored ++ [(complete, opened)] } := by
          apply h.store gateway'
          intro other contents hmem
          rcases List.mem_append.mp hmem with hold | hnew
          · exact h.listed other contents hold
          · cases List.mem_singleton.mp hnew
            exact hphase.2
        exact hstore.move hreq haside trivial
  all_goals cases hstep

theorem inv_startAbort (h : Inv config s) {abort : AbortUpload}
    (hstep : s.step config (request, .startAbort abort) = some s') : Inv config s' := by
  cases hreq : s.requests request <;> simp only [MultipartState.step, hreq] at hstep
  case idle =>
    have haside : MultipartPhase.idle.Aside := ⟨fun _ _ => id, fun _ => id⟩
    split at hstep
    · rename_i hnone
      cases hstep
      exact h.move hreq haside hnone
    · split at hstep <;> cases hstep <;> exact h.move hreq haside trivial
  all_goals cases hstep

/-- Without a session there are no rows to be settled. -/
theorem Inv.deleteSession (h : Inv config s) : Inv config s.deleteSession where
  phases := by
    intro request
    exact @phaseOk_congr config s s.deleteSession request (s.requests request) (fun _ => id)
      (fun _ => rfl) (h.phases request)
  rows := fun part hpart => absurd hpart (Table.not_mem_empty part)
  noRows := fun _ => rfl
  settled := fun part hpart => absurd hpart (Table.not_mem_empty part)
  total := Nat.zero_le _
  listed := h.listed

theorem inv_deleteSession (h : Inv config s) {error : Option S3Error}
    (hstep : s.step config (request, .deleteSession error) = some s') : Inv config s' := by
  cases hreq : s.requests request <;> simp only [MultipartState.step, hreq] at hstep
  case objectStored etag =>
    have haside : (MultipartPhase.objectStored etag).Aside := ⟨fun _ _ => id, fun _ => id⟩
    split at hstep <;> cases hstep
    · exact h.move hreq haside trivial
    · exact h.deleteSession.move hreq haside rfl
  case abortStarted =>
    have haside : MultipartPhase.abortStarted.Aside := ⟨fun _ _ => id, fun _ => id⟩
    split at hstep <;> cases hstep
    · exact h.move hreq haside trivial
    · exact h.deleteSession.move hreq haside rfl
  all_goals cases hstep

/-- Files may go once there are no rows. -/
theorem Inv.keepFiles (h : Inv config s) (hnone : s.session = none)
    (survives : UploadFile → Bool) : Inv config (s.keepFiles survives) where
  phases := by
    intro request
    apply @phaseOk_congr config s (s.keepFiles survives) request (s.requests request) _ id
      (h.phases request)
    intro content hfile
    unfold MultipartState.keepFiles at hfile
    dsimp only at hfile
    split at hfile
    · exact hfile
    · cases hfile
  rows := h.rows
  noRows := h.noRows
  settled := by
    intro part hpart
    have hrow : part ∈ s.parts := hpart
    rw [h.noRows hnone] at hrow
    exact absurd hrow (Table.not_mem_empty part)
  total := h.total
  listed := h.listed

theorem inv_removeDirectory (h : Inv config s) {survives : UploadFile → Bool}
    (hstep : s.step config (request, .removeDirectory survives) = some s') : Inv config s' := by
  cases hreq : s.requests request <;> simp only [MultipartState.step, hreq] at hstep
  case sessionGone result =>
    cases hstep
    have hnone : s.session = none := by
      have hphase := h.phases request
      rw [hreq] at hphase
      exact hphase
    exact (h.keepFiles hnone survives).move hreq ⟨fun _ _ => id, fun _ => id⟩ trivial
  all_goals cases hstep

/-! ### Runs -/

/-- A guarded step keeps the invariant. -/
theorem inv_step (s : MultipartState) (action : Nat × MultipartAction) (s' : MultipartState)
    (h : Inv config s) (hguard : Guard config s action)
    (hstep : s.step config action = some s') : Inv config s' := by
  obtain ⟨request, action⟩ := action
  cases action with
  | startUpload upload => exact inv_startUpload h hstep
  | listParts => exact inv_listParts h hstep
  | spoolBody error => exact inv_spoolBody h hstep
  | checkExisting error => exact inv_checkExisting h hstep
  | moveExisting error => exact inv_moveExisting h hstep
  | commitPart error => exact inv_commitPart h hstep
  | restoreAfterCommit fails => exact inv_restoreAfterCommit h hguard hstep
  | upsertPart error => exact inv_upsertPart h hguard hstep
  | removePart fails => exact inv_removePart h hguard hstep
  | restorePart fails => exact inv_restorePart h hguard hstep
  | removeRollback fails => exact inv_removeRollback h hstep
  | startComplete complete => exact inv_startComplete h hstep
  | selectParts => exact inv_selectParts h hstep
  | openPart => exact inv_openPart h hguard hstep
  | writeHomeObject reads answers => exact inv_writeHomeObject h hstep
  | startAbort abort => exact inv_startAbort h hstep
  | deleteSession error => exact inv_deleteSession h hstep
  | removeDirectory survives => exact inv_removeDirectory h hstep

end Invariant

/-! ## Section 4: Runs -/

variable (config : MultipartConfig) (session : MultipartUploadSessionRecord)
  (gateway : GatewayState)

/-- However the requests interleave: in a run whose steps keep out of each other's way, no
state that is reached is torn. -/
theorem always_untorn (actions : List (Nat × MultipartAction))
    (hguarded : Guarded (MultipartState.step config) (Guard config)
      (MultipartState.start session gateway) actions) :
    Always (MultipartState.step config) (Untorn config)
      (MultipartState.start session gateway) actions :=
  always_of_guarded inv_step (fun _ h => h.untorn) (inv_start session gateway) hguarded

/-- At most four bytes; the digests are those of the bodies used below. -/
def sampleMultipart : MultipartConfig where
  gateway := sampleGateway
  uploadId := "upload-1"
  maxSpooledObjectBytes := 4
  spooledBodyChunkBytes := 1
  sha256Hex := fun body =>
    if body = [1] then "4bf5122f344554c53bde2ebb8cd2b7e3d1600ad631c385a5d7cce23c7785459a"
    else if body = [2] then "dbc1b4c900ffe48d575b5da5c638040125f65db0fe3e24494b76ea986457d986"
    else ""
  md5 := fun body =>
    if body = [1] then [85, 165, 64, 8, 173, 27, 165, 137, 170, 33, 13, 38, 41, 193, 223, 65]
    else if body = [2] then
      [158, 104, 140, 88, 165, 72, 123, 142, 175, 105, 201, 225, 0, 90, 208, 191]
    else [137, 242, 120, 184, 46, 172, 80, 254, 95, 250, 16, 153, 106, 147, 52, 59]

def sampleSession : MultipartUploadSessionRecord := ⟨"bucket-a", "large.bin", none, 1000⟩

def sampleUpload (partNumber : PartNumber) (body : Bytes) : UploadPart where
  bucket := "bucket-a"
  key := "large.bin"
  partNumber := partNumber
  payloadHash := sampleMultipart.sha256Hex body
  contentLength := some body.length
  authorization := .ok ()
  body := body
  nowUnixMs := 10

/-- Two parts are uploaded at the same time, one of them for the second time. -/
theorem always_untorn_two_parts :
    Always (MultipartState.step sampleMultipart) (Untorn sampleMultipart)
      (MultipartState.start sampleSession emptyGateway)
      [(0, .startUpload (sampleUpload ⟨1, by decide⟩ [1])), (0, .listParts),
        (0, .spoolBody none), (0, .checkExisting none), (0, .commitPart none),
        (1, .startUpload (sampleUpload ⟨2, by decide⟩ [2])), (1, .listParts),
        (0, .upsertPart none), (1, .spoolBody none), (0, .removeRollback false),
        (2, .startUpload (sampleUpload ⟨1, by decide⟩ [2])), (2, .listParts),
        (2, .spoolBody none), (1, .checkExisting none), (2, .checkExisting none),
        (2, .moveExisting none), (1, .commitPart none), (2, .commitPart none),
        (2, .upsertPart none), (1, .upsertPart none), (1, .removeRollback false),
        (2, .removeRollback false)] := by
  apply always_untorn
  iterate 7 refine guarded_cons rfl trivial ?_
  refine guarded_cons rfl (Or.inr ⟨rfl, Or.inl rfl⟩) ?_
  iterate 10 refine guarded_cons rfl trivial ?_
  refine guarded_cons rfl (Or.inr ⟨rfl, Or.inl rfl⟩) ?_
  refine guarded_cons rfl (Or.inr ⟨rfl, Or.inl rfl⟩) ?_
  iterate 2 refine guarded_cons rfl trivial ?_
  trivial

/-- Two uploads of one part: the first writes its row after the second put its file in place
and wrote its own, so the row is of the first and the file of the second. -/
theorem uploads_of_one_part_torn :
    ¬ ∀ actions, Always (MultipartState.step sampleMultipart) (Untorn sampleMultipart)
      (MultipartState.start sampleSession emptyGateway) actions := by
  intro h
  have hrun : run (MultipartState.step sampleMultipart)
      (MultipartState.start sampleSession emptyGateway)
      [(0, .startUpload (sampleUpload ⟨1, by decide⟩ [1])), (0, .listParts),
        (0, .spoolBody none), (0, .checkExisting none), (0, .commitPart none),
        (1, .startUpload (sampleUpload ⟨1, by decide⟩ [2])), (1, .listParts),
        (1, .spoolBody none), (1, .checkExisting none), (1, .moveExisting none),
        (1, .commitPart none), (1, .upsertPart none), (1, .removeRollback false),
        (0, .upsertPart none), (0, .removeRollback false)] = some _ := rfl
  have hquiet := ((h _).of_run hrun).described
  obtain ⟨content, hfile, hetag, -⟩ := hquiet (by
    intro request
    rcases request with _ | _ | request <;> trivial)
    (sampleMultipart.partRecord (sampleUpload ⟨1, by decide⟩ [1])) (by
      apply Table.mem_upsert.mpr
      exact Or.inl rfl)
  cases hfile
  exact absurd hetag (by decide)

end Netdisk2Blob.Gateway
