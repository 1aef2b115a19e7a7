import Netdisk2Blob.Gateway.MultipartSafety

/-!
# Multipart Completion

Requests of one upload id that run one after another: whatever was uploaded before, and
however often it was uploaded, a completion hands over the latest upload of each listed
part, and a completion that fails leaves everything it needs for the next try.

## Contents

- `Served`: what one request at a time makes of a fresh upload
- `Acknowledged`: rows and part files are those of the latest uploads
- `Uploading`, `Completing`: an UploadPart and a completion on their way
- `completion_assembles`
-/

namespace Netdisk2Blob.Gateway

open Library Blob Operations

/-! ## Section 1: One request at a time -/

/-- A request runs with nobody else at work. -/
def Alone (config : MultipartConfig) (request : Nat) (first : MultipartAction)
    (s t : MultipartState) : Prop :=
  ∃ actions : List MultipartAction, run (MultipartState.step config) s
    ((request, first) :: actions.map (fun action => (request, action))) = some t

/-- The states after UploadPart requests that succeeded, in this order, and completions that
failed in between. -/
inductive Served (config : MultipartConfig) : List UploadPart → MultipartState → Prop where
  | start (session : MultipartUploadSessionRecord) (gateway : GatewayState) :
      Served config [] (.start session gateway)
  | upload {uploads : List UploadPart} {s t : MultipartState} {request : Nat}
      {upload : UploadPart} {etag : String} :
      Served config uploads s → Alone config request (.startUpload upload) s t →
      t.requests request = .returned (.ok etag) → Served config (uploads ++ [upload]) t
  | failedCompletion {uploads : List UploadPart} {s t : MultipartState} {request : Nat}
      {complete : CompleteUpload} {error : S3Error} :
      Served config uploads s → Alone config request (.startComplete complete) s t →
      t.requests request = .returned (.error error) → Served config uploads t

/-- The latest upload of a part. -/
def latestUpload (uploads : List UploadPart) (partNumber : Nat) : Option UploadPart :=
  uploads.reverse.find? (fun upload => decide (upload.partNumber.val = partNumber))

theorem latestUpload_append (uploads : List UploadPart) (upload : UploadPart)
    (partNumber : Nat) : latestUpload (uploads ++ [upload]) partNumber =
      if upload.partNumber.val = partNumber then some upload
      else latestUpload uploads partNumber := by
  unfold latestUpload
  rw [List.reverse_append, List.reverse_singleton, List.singleton_append, List.find?_cons]
  split <;> simp_all

/-- Rows and part files are those of the latest uploads. -/
structure Acknowledged (config : MultipartConfig) (uploads : List UploadPart)
    (s : MultipartState) : Prop where
  rows : ∀ partNumber, s.parts.find? partNumber =
    (latestUpload uploads partNumber.val).map config.partRecord
  files : ∀ partNumber, s.files (.part partNumber) =
    (latestUpload uploads partNumber.val).map (·.body)

/-! ## Section 2: An UploadPart -/

section Upload

variable {config : MultipartConfig} {s₀ s s' t : MultipartState} {request : Nat}
  {upload : UploadPart} {uploads : List UploadPart}

/-- The rows are as before, and so are the files of the other parts. -/
structure OthersKept (partNumber : PartNumber) (s₀ s : MultipartState) : Prop where
  parts : s.parts = s₀.parts
  files : ∀ number, number ≠ partNumber → s.files (.part number) = s₀.files (.part number)

/-- The part has been stored: its row and its file are those of the upload. -/
structure PartStored (config : MultipartConfig) (upload : UploadPart) (s₀ s : MultipartState) :
    Prop where
  parts : s.parts = s₀.parts.upsert (config.partRecord upload)
  files : ∀ number, number ≠ upload.partNumber → s.files (.part number) = s₀.files (.part number)
  file : s.files (.part upload.partNumber) = some upload.body

/-- What an UploadPart that started in `s₀` has done when it gets to a phase. -/
def Uploading (config : MultipartConfig) (request : Nat) (upload : UploadPart)
    (s₀ s : MultipartState) : MultipartPhase → Prop
  | .uploadStarted other => other = upload ∧ OthersKept upload.partNumber s₀ s
  | .partsListed other _ _ => other = upload ∧ OthersKept upload.partNumber s₀ s
  | .spooled other =>
    other = upload ∧ OthersKept upload.partNumber s₀ s ∧ TempHolds s request upload
  | .existingSeen other =>
    other = upload ∧ OthersKept upload.partNumber s₀ s ∧ TempHolds s request upload
  | .pathClear other _ =>
    other = upload ∧ OthersKept upload.partNumber s₀ s ∧ TempHolds s request upload
  | .committed other _ =>
    other = upload ∧ OthersKept upload.partNumber s₀ s ∧
      s.files (.part upload.partNumber) = some upload.body
  | .recorded other _ => other = upload ∧ PartStored config upload s₀ s
  | .returned (.ok _) => PartStored config upload s₀ s
  -- the ways out of an error
  | .commitFailed _ _ => True
  | .upsertFailed _ _ _ => True
  | .partRemoved _ _ => True
  | .returned (.error _) => True
  | _ => False

theorem OthersKept.touch {partNumber : PartNumber} (h : OthersKept partNumber s₀ s)
    (htouches : Touches request partNumber s s') : OthersKept partNumber s₀ s' where
  parts := htouches.parts.trans h.parts
  files := fun number hne => (htouches.files (.part number) hne).trans (h.files number hne)

theorem OthersKept.setRequest {partNumber : PartNumber} {phase : MultipartPhase}
    (h : OthersKept partNumber s₀ s) : OthersKept partNumber s₀ (s.setRequest request phase) :=
  ⟨h.parts, h.files⟩

theorem setRequest_self (m : MultipartState) (request : Nat) (phase : MultipartPhase) :
    (m.setRequest request phase).requests request = phase :=
  Function.update_self ..

/-- The first step gets the upload under way, or ends it with an error. -/
theorem uploading_start
    (hstep : s.step config (request, .startUpload upload) = some s') :
    Uploading config request upload s s' (s'.requests request) := by
  have hkept : OthersKept upload.partNumber s s := ⟨rfl, fun _ _ => rfl⟩
  cases hreq : s.requests request <;> simp only [MultipartState.step, hreq] at hstep
  case idle =>
    split at hstep
    · cases hstep
      rw [MultipartState.fail, setRequest_self]
      trivial
    · split at hstep <;> cases hstep
      · rw [MultipartState.fail, setRequest_self]
        trivial
      · rw [setRequest_self]
        exact ⟨rfl, hkept.setRequest⟩
  all_goals cases hstep

/-- One step of an UploadPart that runs alone. -/
theorem uploading_step {action : MultipartAction}
    (h : Uploading config request upload s₀ s (s.requests request))
    (hstep : s.step config (request, action) = some s') :
    Uploading config request upload s₀ s' (s'.requests request) := by
  cases action with
  | listParts =>
    cases hreq : s.requests request <;> simp only [MultipartState.step, hreq] at hstep
    case uploadStarted other =>
      rw [hreq] at h
      cases hstep
      rw [setRequest_self]
      exact ⟨h.1, h.2.setRequest⟩
    all_goals cases hstep
  | spoolBody error =>
    cases hreq : s.requests request <;> simp only [MultipartState.step, hreq] at hstep
    case partsListed other existingSize replacedSize =>
      rw [hreq] at h
      obtain ⟨rfl, hkept⟩ := h
      split at hstep <;> cases hstep
      · rw [MultipartState.fail, setRequest_self]
        trivial
      · rw [MultipartState.fail, setRequest_self]
        trivial
      · rw [setRequest_self]
        have htouches : Touches request other.partNumber s
          (s.setFile (.temp request) (some other.body)) := touches_setFile rfl
        refine ⟨rfl, (hkept.touch htouches).setRequest, ?_⟩
        intro content hfile
        simpa [MultipartState.setFile, MultipartState.setRequest] using hfile.symm
    all_goals cases hstep
  | checkExisting error =>
    cases hreq : s.requests request <;> simp only [MultipartState.step, hreq] at hstep
    case spooled other =>
      rw [hreq] at h
      obtain ⟨rfl, hkept, htemp⟩ := h
      split at hstep <;> cases hstep
      · rw [MultipartState.fail, setRequest_self]
        trivial
      · rw [setRequest_self]
        exact ⟨rfl, hkept.setRequest, htemp⟩
      · rw [setRequest_self]
        exact ⟨rfl, hkept.setRequest, htemp⟩
    all_goals cases hstep
  | moveExisting error =>
    cases hreq : s.requests request <;> simp only [MultipartState.step, hreq] at hstep
    case existingSeen other =>
      rw [hreq] at h
      obtain ⟨rfl, hkept, htemp⟩ := h
      split at hstep <;> cases hstep
      · rw [MultipartState.fail, setRequest_self]
        trivial
      · rename_i content hfound
        rw [setRequest_self]
        have htouches : Touches request other.partNumber s
          (s.rename (.part other.partNumber) (.rollback request) content) :=
            touches_rename rfl rfl
        refine ⟨rfl, (hkept.touch htouches).setRequest, ?_⟩
        intro temp hfile
        apply htemp temp
        simpa [MultipartState.rename, MultipartState.setFile, MultipartState.setRequest,
          Function.update_apply] using hfile
    all_goals cases hstep
  | commitPart error =>
    cases hreq : s.requests request <;> simp only [MultipartState.step, hreq] at hstep
    case pathClear other moved =>
      rw [hreq] at h
      obtain ⟨rfl, hkept, htemp⟩ := h
      split at hstep
      · split at hstep <;> cases hstep
        · rw [setRequest_self]
          trivial
        · rw [MultipartState.fail, setRequest_self]
          trivial
      · rename_i content hfound
        cases hstep
        rw [setRequest_self]
        have htouches : Touches request other.partNumber s
          (s.rename (.temp request) (.part other.partNumber) content) := touches_rename rfl rfl
        refine ⟨rfl, (hkept.touch htouches).setRequest, ?_⟩
        obtain ⟨-, hfile⟩ := MultipartState.failure_ok hfound
        show (s.rename _ _ content).files _ = _
        rw [MultipartState.rename_target, htemp content hfile]
    all_goals cases hstep
  | upsertPart error =>
    cases hreq : s.requests request <;> simp only [MultipartState.step, hreq] at hstep
    case committed other moved =>
      rw [hreq] at h
      obtain ⟨rfl, hkept, hfile⟩ := h
      split at hstep <;> cases hstep
      · rw [setRequest_self]
        trivial
      · rw [setRequest_self]
        refine ⟨rfl, ?_, hkept.files, hfile⟩
        show s.parts.upsert _ = _
        rw [hkept.parts]
    all_goals cases hstep
  | removeRollback fails =>
    cases hreq : s.requests request <;> simp only [MultipartState.step, hreq] at hstep
    case recorded other moved =>
      rw [hreq] at h
      obtain ⟨rfl, hstored⟩ := h
      cases hstep
      rw [setRequest_self]
      have hpart : ∀ number, (if moved then s.tolerate fails (s.setFile (.rollback request) none)
          else s).files (.part number) = s.files (.part number) := by
        intro number
        cases moved <;> cases fails <;>
          simp [MultipartState.tolerate, MultipartState.setFile_of_ne]
      refine ⟨?_, ?_, ?_⟩
      · rw [← hstored.parts]
        cases moved <;> cases fails <;> rfl
      · intro number hne
        exact (hpart number).trans (hstored.files number hne)
      · exact (hpart _).trans hstored.file
    all_goals cases hstep
  | restoreAfterCommit fails =>
    cases hreq : s.requests request <;> simp only [MultipartState.step, hreq] at hstep
    case commitFailed other error =>
      cases hstep
      rw [MultipartState.fail, setRequest_self]
      trivial
    all_goals cases hstep
  | removePart fails =>
    cases hreq : s.requests request <;> simp only [MultipartState.step, hreq] at hstep
    case upsertFailed other moved error =>
      split at hstep <;> cases hstep
      · rw [setRequest_self]
        trivial
      · rw [MultipartState.fail, setRequest_self]
        trivial
    all_goals cases hstep
  | restorePart fails =>
    cases hreq : s.requests request <;> simp only [MultipartState.step, hreq] at hstep
    case partRemoved other error =>
      cases hstep
      rw [MultipartState.fail, setRequest_self]
      trivial
    all_goals cases hstep
  -- the other steps belong to requests that are not uploads, or have not started
  | _ =>
    cases hreq : s.requests request <;> rw [hreq] at h <;>
      first
      | exact h.elim
      | simp [MultipartState.step, hreq] at hstep

/-- The run lemma of an UploadPart that runs alone. -/
theorem uploading_run {actions : List MultipartAction}
    (h : Uploading config request upload s₀ s (s.requests request))
    (hrun : run (MultipartState.step config) s
      (actions.map (fun action => (request, action))) = some t) :
    Uploading config request upload s₀ t (t.requests request) := by
  induction actions generalizing s with
  | nil =>
    obtain rfl : s = t := by simpa using hrun
    exact h
  | cons action actions ih =>
    obtain ⟨m, hstep, hrest⟩ := run_cons.mp hrun
    exact ih (uploading_step h hstep) hrest

/-- An UploadPart that succeeded has stored its part. -/
theorem partStored_of_alone {etag : String}
    (hrun : Alone config request (.startUpload upload) s t)
    (hreturned : t.requests request = .returned (.ok etag)) : PartStored config upload s t := by
  obtain ⟨actions, hactions⟩ := hrun
  obtain ⟨m, hstart, hrest⟩ := run_cons.mp hactions
  have h := uploading_run (uploading_start hstart) hrest
  rw [hreturned] at h
  exact h

/-- A stored part is acknowledged, as the latest upload of its number. -/
theorem Acknowledged.stored (h : Acknowledged config uploads s)
    (hstored : PartStored config upload s t) : Acknowledged config (uploads ++ [upload]) t where
  rows := by
    intro partNumber
    rw [hstored.parts, Table.find?_upsert, latestUpload_append, h.rows]
    by_cases hnumber : upload.partNumber = partNumber
    · rw [if_pos (show (config.partRecord upload).partNumber = partNumber from hnumber),
        if_pos (congrArg Subtype.val hnumber)]
      rfl
    · rw [if_neg (show (config.partRecord upload).partNumber ≠ partNumber from hnumber),
        if_neg (fun hval => hnumber (Subtype.ext hval))]
  files := by
    intro partNumber
    rw [latestUpload_append]
    by_cases hnumber : upload.partNumber = partNumber
    · subst hnumber
      rw [if_pos rfl, hstored.file]
      rfl
    · rw [if_neg (fun hval => hnumber (Subtype.ext hval)),
        hstored.files partNumber (fun heq => hnumber heq.symm), h.files]

end Upload

/-! ## Section 3: A completion -/

/-- Session, rows and part files are as before. -/
structure Retained (s t : MultipartState) : Prop where
  session : t.session = s.session
  parts : t.parts = s.parts
  files : ∀ partNumber, t.files (.part partNumber) = s.files (.part partNumber)

/-- The completion handed the latest uploads of the listed parts, in the order of the list,
over to `execute_put_upload`, which stored them. -/
structure HandedOver (config : MultipartConfig) (complete : CompleteUpload)
    (uploads listed : List UploadPart) (etag : String) (s t : MultipartState) : Prop where
  latest : complete.requestedParts.map (fun requested => latestUpload uploads requested.1) =
    listed.map some
  etag_eq : etag = s3MultipartCompleteEtag config.md5 (listed.map (fun part => config.md5 part.body))
  uploaded : ∃ request : PutRequest,
    request.bucket = complete.bucket ∧ request.key = complete.key ∧
    request.body = (listed.map (·.body)).flatten ∧
    request.plaintextSize = (listed.map (·.body.length)).sum ∧
    Program.Ends handle (fun _ _ => True) (executePutUpload config.gateway request) s.gateway
      (.ok (some etag)) t.gateway ∧
    ∃ (context : PutContext) (body : Bytes), context.uploadBody request = .ok body ∧
      t.gateway.objects context.homeProvider complete.bucket complete.key =
        some (context.uploaded request body)

section Complete

variable {config : MultipartConfig} {s₀ s s' t : MultipartState} {request : Nat}
  {complete : CompleteUpload} {uploads : List UploadPart}

/-- The selected rows are those of the latest uploads. -/
theorem selectParts_latest (h : Acknowledged config uploads s) :
    ∀ {requested : List (Nat × String)} {previous : Nat}
      {selected : List MultipartUploadPartRecord},
      selectParts s.parts previous requested = .ok selected →
      ∃ listed : List UploadPart,
        requested.map (fun requested => latestUpload uploads requested.1) = listed.map some ∧
        selected = listed.map config.partRecord := by
  intro requested
  induction requested with
  | nil =>
    intro previous selected hselect
    cases hselect
    exact ⟨[], rfl, rfl⟩
  | cons head requested ih =>
    obtain ⟨number, expectedEtag⟩ := head
    intro previous selected hselect
    unfold selectParts at hselect
    split at hselect
    · cases hselect
    split at hselect
    · cases hselect
    rename_i part hfind
    split at hselect
    · cases hselect
    split at hselect
    · cases hselect
    rename_i rest hrest
    cases hselect
    obtain ⟨listed, hlatest, hselected⟩ := ih hrest
    have hnumber : part.partNumber.val = number := by
      simpa using List.find?_some hfind
    have hrow : s.parts.find? part.partNumber = some part :=
      Table.find?_eq_some.mpr ⟨List.mem_of_find?_eq_some hfind, rfl⟩
    rw [h.rows, hnumber] at hrow
    obtain ⟨upload, hupload, hrecord⟩ := Option.map_eq_some_iff.mp hrow
    refine ⟨upload :: listed, ?_, ?_⟩
    · rw [List.map_cons, List.map_cons, hlatest, hupload]
    · rw [List.map_cons, hselected, hrecord]

/-- What a completion that started in `s₀` has done when it gets to a phase. -/
def Completing (config : MultipartConfig) (complete : CompleteUpload)
    (uploads : List UploadPart) (s₀ s : MultipartState) : MultipartPhase → Prop
  | .completeStarted other _ => other = complete ∧ Retained s₀ s ∧ s.gateway = s₀.gateway
  | .opening other _ selected remaining opened =>
    other = complete ∧ Retained s₀ s ∧ s.gateway = s₀.gateway ∧
      ∃ listed front rest : List UploadPart, listed ≠ [] ∧
        complete.requestedParts.map (fun requested => latestUpload uploads requested.1) =
          listed.map some ∧
        listed = front ++ rest ∧ selected = listed.map config.partRecord ∧
        remaining = rest.map config.partRecord ∧ opened = front.map (·.body)
  | .objectStored etag =>
    Retained s₀ s ∧ ∃ listed, HandedOver config complete uploads listed etag s₀ s
  | .sessionGone etag =>
    (s.session = none ∧ s.parts = ∅) ∧
      ∃ listed, HandedOver config complete uploads listed etag s₀ s
  | .returned (.ok etag) =>
    (s.session = none ∧ s.parts = ∅) ∧
      ∃ listed, HandedOver config complete uploads listed etag s₀ s
  | .returned (.error _) => Retained s₀ s
  | _ => False

theorem Retained.setRequest {phase : MultipartPhase} (h : Retained s₀ s) :
    Retained s₀ (s.setRequest request phase) :=
  ⟨h.session, h.parts, h.files⟩

theorem completing_start
    (hstep : s.step config (request, .startComplete complete) = some s') :
    Completing config complete uploads s s' (s'.requests request) := by
  have hkept : Retained s s := ⟨rfl, rfl, fun _ => rfl⟩
  cases hreq : s.requests request <;> simp only [MultipartState.step, hreq] at hstep
  case idle =>
    split at hstep <;> cases hstep
    · rw [MultipartState.fail, setRequest_self]
      exact hkept.setRequest
    · rw [setRequest_self]
      exact ⟨rfl, hkept.setRequest, rfl⟩
  all_goals cases hstep

/-- The write of a completion that opened the files of the listed parts. -/
theorem handedOver_of_exec {session : MultipartUploadSessionRecord}
    {listed : List UploadPart} (hne : listed ≠ [])
    (hlatest : complete.requestedParts.map (fun requested => latestUpload uploads requested.1) =
      listed.map some)
    (hgateway : s.gateway = s₀.gateway) {reads : List Nat} {answers : List Answer}
    {etag : Option String} {gateway : GatewayState}
    (hexec : Program.exec handle (fun _ _ => True)
      (executePutUpload config.gateway (completedUpload config complete session
        (listed.map config.partRecord) (listed.map (·.body)) reads)) s.gateway answers =
          some (.ok etag, gateway))
    (ht : t.gateway = gateway) :
    HandedOver config complete uploads listed (etag.getD "") s₀ t := by
  have hends := Program.ends_of_exec hexec
  obtain ⟨hetag, context, body, hbody, hstored⟩ := executePutUpload_ok hends
  have hparts : listed.map (fun part => part.body) ≠ [] := by simpa using hne
  rcases hetag with ⟨hnone, -⟩ | ⟨resolved, hresolved, rfl⟩
  · cases hnone
  · -- the etag is complete, so the body was handed over to its end
    obtain ⟨hconsumed, hetag⟩ := MultipartBody.consume_complete hparts
      (Option.some.inj hresolved)
    constructor
    · exact hlatest
    · rw [Option.getD_some, hetag, List.map_map]
      rfl
    · refine ⟨_, rfl, rfl, hconsumed, ?_, ?_, context, body, hbody, ?_⟩
      · show ((listed.map config.partRecord).map (·.sizeBytes)).sum = _
        rw [List.map_map]
        rfl
      · rw [← hgateway, ht]
        exact hends
      · rw [ht]
        exact hstored

/-- One step of a completion that runs alone. -/
theorem completing_step (hack : Acknowledged config uploads s₀) {action : MultipartAction}
    (h : Completing config complete uploads s₀ s (s.requests request))
    (hstep : s.step config (request, action) = some s') :
    Completing config complete uploads s₀ s' (s'.requests request) := by
  cases action with
  | selectParts =>
    cases hreq : s.requests request <;> simp only [MultipartState.step, hreq] at hstep
    case completeStarted other session =>
      rw [hreq] at h
      obtain ⟨rfl, hkept, hgateway⟩ := h
      split at hstep <;> cases hstep
      · rw [MultipartState.fail, setRequest_self]
        exact hkept.setRequest
      · rename_i selected hselect
        rw [setRequest_self]
        unfold selectRequestedParts at hselect
        split at hselect
        · cases hselect
        · rename_i hnonempty
          rw [hkept.parts] at hselect
          obtain ⟨listed, hlatest, rfl⟩ := selectParts_latest hack hselect
          refine ⟨rfl, hkept.setRequest, hgateway, listed, [], listed, ?_, hlatest, rfl, rfl,
            rfl, rfl⟩
          rintro rfl
          rw [List.map_nil, List.map_eq_nil_iff] at hlatest
          exact hnonempty (by rw [hlatest]; rfl)
    all_goals cases hstep
  | openPart =>
    cases hreq : s.requests request <;> simp only [MultipartState.step, hreq] at hstep
    case opening other session selected remaining opened =>
      rw [hreq] at h
      obtain ⟨rfl, hkept, hgateway, listed, front, rest, hne, hlatest, hlisted, rfl, rfl, rfl⟩ := h
      cases rest with
      | nil => cases hstep
      | cons part rest =>
        simp only [List.map_cons] at hstep
        split at hstep <;> cases hstep
        · rename_i content hfile
          rw [setRequest_self]
          refine ⟨rfl, hkept.setRequest, hgateway, listed, front ++ [part], rest, hne, hlatest,
            ?_, rfl, rfl, ?_⟩
          · rw [hlisted, List.append_assoc]
            rfl
          · -- the file is that of the latest upload
            have hmem : some part ∈ listed.map some := by
              rw [hlisted]
              simp
            rw [← hlatest] at hmem
            obtain ⟨requested, -, hrequested⟩ := List.mem_map.mp hmem
            have hnumber : part.partNumber.val = requested.1 := by
              have hfound := List.find?_some hrequested
              simpa using hfound
            have hbody : s.files (.part part.partNumber) = some part.body := by
              rw [hkept.files, hack.files, hnumber, hrequested]
              rfl
            have hcontent : some content = some part.body := hfile.symm.trans hbody
            rw [Option.some.inj hcontent, List.map_append]
            rfl
        · rw [MultipartState.fail, setRequest_self]
          exact hkept.setRequest
    all_goals cases hstep
  | writeHomeObject reads answers =>
    cases hreq : s.requests request <;> simp only [MultipartState.step, hreq] at hstep
    case opening other session selected remaining opened =>
      rw [hreq] at h
      obtain ⟨rfl, hkept, hgateway, listed, front, rest, hne, hlatest, hlisted, rfl, rfl, rfl⟩ := h
      cases rest with
      | cons part rest => cases hstep
      | nil =>
        rw [List.append_nil] at hlisted
        subst hlisted
        rw [List.map_nil] at hstep
        dsimp only at hstep
        split at hstep
        · cases hstep
        · cases hstep
          rw [MultipartState.fail, setRequest_self]
          exact ⟨hkept.session, hkept.parts, hkept.files⟩
        · rename_i etag gateway hexec
          cases hstep
          rw [setRequest_self]
          exact ⟨⟨hkept.session, hkept.parts, hkept.files⟩, listed,
            handedOver_of_exec hne hlatest hgateway hexec rfl⟩
    all_goals cases hstep
  | deleteSession error =>
    cases hreq : s.requests request <;> simp only [MultipartState.step, hreq] at hstep
    case objectStored etag =>
      rw [hreq] at h
      obtain ⟨hkept, listed, hover⟩ := h
      split at hstep <;> cases hstep
      · rw [MultipartState.fail, setRequest_self]
        exact hkept.setRequest
      · rw [setRequest_self]
        exact ⟨⟨rfl, rfl⟩, listed, hover.latest, hover.etag_eq, hover.uploaded⟩
    case abortStarted =>
      rw [hreq] at h
      exact h.elim
    all_goals cases hstep
  | removeDirectory survives =>
    cases hreq : s.requests request <;> simp only [MultipartState.step, hreq] at hstep
    case sessionGone etag =>
      rw [hreq] at h
      obtain ⟨hgone, listed, hover⟩ := h
      cases hstep
      rw [setRequest_self]
      exact ⟨hgone, listed, hover.latest, hover.etag_eq, hover.uploaded⟩
    all_goals cases hstep
  -- the other steps belong to requests that are not completions, or have not started
  | _ =>
    cases hreq : s.requests request <;> rw [hreq] at h <;>
      first
      | exact h.elim
      | simp [MultipartState.step, hreq] at hstep

/-- The run lemma of a completion that runs alone. -/
theorem completing_run (hack : Acknowledged config uploads s₀) {actions : List MultipartAction}
    (h : Completing config complete uploads s₀ s (s.requests request))
    (hrun : run (MultipartState.step config) s
      (actions.map (fun action => (request, action))) = some t) :
    Completing config complete uploads s₀ t (t.requests request) := by
  induction actions generalizing s with
  | nil =>
    obtain rfl : s = t := by simpa using hrun
    exact h
  | cons action actions ih =>
    obtain ⟨m, hstep, hrest⟩ := run_cons.mp hrun
    exact ih (completing_step hack h hstep) hrest

theorem completing_of_alone (hack : Acknowledged config uploads s)
    (hrun : Alone config request (.startComplete complete) s t) :
    Completing config complete uploads s t (t.requests request) := by
  obtain ⟨actions, hactions⟩ := hrun
  obtain ⟨m, hstart, hrest⟩ := run_cons.mp hactions
  exact completing_run hack (completing_start hstart) hrest

end Complete

/-! ## Section 4: Histories -/

section Main

variable {config : MultipartConfig} {s t : MultipartState} {request : Nat}
  {complete : CompleteUpload} {uploads : List UploadPart}

/-- Whatever was served, the latest uploads are acknowledged. -/
theorem acknowledged_of_served (h : Served config uploads s) : Acknowledged config uploads s := by
  induction h with
  | start session gateway => exact ⟨fun _ => rfl, fun _ => rfl⟩
  | upload hserved hrun hreturned ih => exact ih.stored (partStored_of_alone hrun hreturned)
  | failedCompletion hserved hrun hreturned ih =>
    have hkept := completing_of_alone ih hrun
    rw [hreturned] at hkept
    constructor
    · intro partNumber
      rw [hkept.parts]
      exact ih.rows partNumber
    · intro partNumber
      rw [hkept.files]
      exact ih.files partNumber

/-- **Completion assembles what was acknowledged.** A completion that succeeds has handed
over the latest uploads of the parts it lists, and session and rows are gone; one that fails
has left session, rows and part files as they were. -/
theorem completion_assembles (hserved : Served config uploads s)
    (hrun : Alone config request (.startComplete complete) s t) :
    (∀ etag, t.requests request = .returned (.ok etag) →
      (t.session = none ∧ t.parts = ∅) ∧
        ∃ listed, HandedOver config complete uploads listed etag s t) ∧
    (∀ error, t.requests request = .returned (.error error) → Retained s t) := by
  have h := completing_of_alone (acknowledged_of_served hserved) hrun
  constructor
  · intro etag hreturned
    rw [hreturned] at h
    exact h
  · intro error hreturned
    rw [hreturned] at h
    exact h

end Main

def sampleCompletion : CompleteUpload where
  bucket := "bucket-a"
  key := "large.bin"
  requestedParts := [(1, sampleMultipart.sha256Hex [1]), (2, sampleMultipart.sha256Hex [2])]
  upload := fun body => { samplePut with body := body }
  nowUnixMs := 20

def sampleCompletionSteps : List MultipartAction :=
  [.selectParts, .openPart, .openPart,
    .writeHomeObject [1, 1, 1] (List.replicate 20 Answer.done), .deleteSession none,
    .removeDirectory (fun _ => false)]

/-- Part 2 is uploaded, then part 1, then part 2 again; the completion stores the second
upload of part 2 behind part 1. -/
theorem completion_assembles_reuploaded :
    ∃ s t,
      Served sampleMultipart
        [sampleUpload ⟨2, by decide⟩ [1], sampleUpload ⟨1, by decide⟩ [1],
          sampleUpload ⟨2, by decide⟩ [2]] s ∧
      Alone sampleMultipart 3 (.startComplete sampleCompletion) s t ∧
      t.requests 3 = .returned (.ok "89f278b82eac50fe5ffa10996a93343b-2") ∧
      (t.gateway.objects .unicom "bucket-a" "large.bin").map (·.body) = some [1, 2] ∧
      (t.session = none ∧ t.parts = ∅) ∧
      ∃ listed, HandedOver sampleMultipart sampleCompletion
        [sampleUpload ⟨2, by decide⟩ [1], sampleUpload ⟨1, by decide⟩ [1],
          sampleUpload ⟨2, by decide⟩ [2]] listed "89f278b82eac50fe5ffa10996a93343b-2" s t := by
  have hserved : Served sampleMultipart
      [sampleUpload ⟨2, by decide⟩ [1], sampleUpload ⟨1, by decide⟩ [1],
        sampleUpload ⟨2, by decide⟩ [2]] _ :=
    @Served.upload _ [_, _] _ _ 2 _ (sampleMultipart.sha256Hex [2])
      (@Served.upload _ [_] _ _ 1 _ (sampleMultipart.sha256Hex [1])
        (@Served.upload _ [] _ _ 0 _ (sampleMultipart.sha256Hex [1])
          (Served.start sampleSession emptyGateway)
          ⟨[.listParts, .spoolBody none, .checkExisting none, .commitPart none,
            .upsertPart none, .removeRollback false], rfl⟩ rfl)
        ⟨[.listParts, .spoolBody none, .checkExisting none, .commitPart none,
          .upsertPart none, .removeRollback false], rfl⟩ rfl)
      ⟨[.listParts, .spoolBody none, .checkExisting none, .moveExisting none,
        .commitPart none, .upsertPart none, .removeRollback false], rfl⟩ rfl
  obtain ⟨s, hserved, t, hrun, hreturned, hstored⟩ : ∃ s,
      Served sampleMultipart
        [sampleUpload ⟨2, by decide⟩ [1], sampleUpload ⟨1, by decide⟩ [1],
          sampleUpload ⟨2, by decide⟩ [2]] s ∧
      ∃ t, Alone sampleMultipart 3 (.startComplete sampleCompletion) s t ∧
        t.requests 3 = .returned (.ok "89f278b82eac50fe5ffa10996a93343b-2") ∧
        (t.gateway.objects .unicom "bucket-a" "large.bin").map (·.body) = some [1, 2] :=
    ⟨_, hserved, _, ⟨sampleCompletionSteps, rfl⟩, rfl, rfl⟩
  exact ⟨s, t, hserved, hrun, hreturned, hstored,
    (completion_assembles hserved hrun).1 _ hreturned⟩

end Netdisk2Blob.Gateway
