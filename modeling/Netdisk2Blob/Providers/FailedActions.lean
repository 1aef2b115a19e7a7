import Netdisk2Blob.Providers.MobileActionRuns
import Netdisk2Blob.Providers.MobileUploadRuns

/-!
# Failed Writes, Renamings and Moves on the Mobile Drive

A `put_object` over an object deletes the old file when the service has a file of that name, and
only then uploads the new one. The requests of an upload are served here by the drive: the walk to
the folder and the deletion by their own calls, and a file may be added when one is created or
completed. Together with the other actions this says when a failed one leaves what was there.

## Contents

- `AfterParent`, `putObject_afterParent`: the requests of an upload after the walk to its folder
- `Serves`, `ServedBy`: requests served by the drive
- `Held`, `Gone`, `serves_step`: the old object during an upload
- `failed_action_keeps_iff`: when a failed action leaves what was there
-/

namespace Netdisk2Blob.Providers.Mobile.Actions

open Library Text Library.Program Blob
open Upload (MobileCall MobileReply MobileUploadDescriptor MobileUploadPlan MobileUploadPartInfo
  UploadPrimitives PutObjectRequest PartSource)

variable {account : MobileAccount} {s t : Session Request MobileDrive}

/-! ## Section 1: The requests of an upload -/

/-- A request after the walk to a folder: files are deleted there only, under one name. -/
def AfterParent (parent fileName : String) : MobileCall → Prop
  | .ensureManagedParentFolderId _ _ => False
  | .deleteChildFilesByName parentFileId name => parentFileId = parent ∧ name = fileName
  | _ => True

section Requests

variable {parent fileName : String}

theorem createMobileUpload_afterParent {contentType : String} {upload : MobileUploadDescriptor}
    {retryAfterDelete : Bool} {count : Nat} :
    Issues (AfterParent parent fileName)
      (Upload.createMobileUpload fileName parent contentType upload retryAfterDelete count) := by
  induction hmeasure : (3 - count) + (if retryAfterDelete then 0 else 1)
    using Nat.strong_induction_on generalizing retryAfterDelete count with
  | _ measure ih =>
      rw [Upload.createMobileUpload]
      apply issues_andThen (issues_issue trivial)
      intro response
      apply issues_andThen issues_pure
      intro data
      split
      · split
        · split
          · apply ih _ _ rfl
            omega
          · exact issues_pure
        · rename_i hretry
          apply issues_andThen (issues_issue ⟨rfl, rfl⟩)
          intro deleted
          split
          · apply ih _ _ rfl
            rw [← hmeasure, if_neg hretry]
            exact Nat.lt_succ_self _
          · split
            · apply ih _ _ rfl
              omega
            · exact issues_pure
      · exact issues_pure

theorem expandLoop_afterParent {expected : List UploadPartInfo} {plan : MobileUploadPlan}
    {nextIndex : Nat} :
    Issues (AfterParent parent fileName) (Upload.expandLoop expected plan nextIndex) := by
  induction hleft : expected.length - nextIndex using Nat.strong_induction_on
    generalizing plan nextIndex with
  | _ left ih =>
      rw [Upload.expandLoop]
      split
      · rename_i hmore
        apply issues_andThen
        · rw [Upload.getMobileUploadUrls]
          split
          · exact issues_pure
          · split
            · exact issues_pure
            · exact issues_andThen (issues_issue trivial) (fun _ => issues_pure)
        · intro more
          apply ih _ _ rfl
          rw [Upload.MOBILE_FILE_CREATE_INITIAL_PART_INFOS_LIMIT]
          omega
      · exact issues_pure

theorem planUpload_afterParent {primitives : UploadPrimitives} {request : PutObjectRequest}
    {upload : MobileUploadDescriptor} :
    Issues (AfterParent parent fileName)
      (Upload.planUpload primitives request (parent, fileName) upload) := by
  rw [Upload.planUpload]
  apply issues_andThen createMobileUpload_afterParent
  intro plan
  rw [Upload.expandMobileUploadPlan]
  split
  · exact issues_pure
  · exact expandLoop_afterParent

theorem sendParts_afterParent {σ : Type} {upload : MobileUploadDescriptor} {read : PartSource σ}
    {index partOffset : Nat} {source : σ} {parts : List MobileUploadPartInfo} :
    Issues (AfterParent parent fileName)
      (Upload.sendParts upload read index partOffset source parts) := by
  induction parts generalizing index partOffset source with
  | nil => exact issues_pure
  | cons part parts ih =>
      rw [Upload.sendParts]
      apply issues_andThen issues_pure
      intro uploadUrl
      apply issues_andThen issues_pure
      intro taken
      exact issues_andThen (issues_issue trivial) (fun _ => ih)

theorem finishUpload_afterParent {plan : MobileUploadPlan} {upload : MobileUploadDescriptor} :
    Issues (AfterParent parent fileName) (Upload.finishUpload plan upload) := by
  rw [Upload.finishUpload]
  apply issues_andThen
  · rw [Upload.completeMobileUpload]
    split
    · exact issues_pure
    · exact issues_andThen (issues_issue trivial) (fun _ => issues_pure)
  · exact fun _ => issues_pure

theorem putStreaming_afterParent {primitives : UploadPrimitives} {request : PutObjectRequest}
    {upload : MobileUploadDescriptor} :
    Issues (AfterParent parent fileName)
      (Upload.putStreaming primitives request (parent, fileName) upload) := by
  rw [Upload.putStreaming]
  apply issues_andThen planUpload_afterParent
  intro plan
  split
  · exact issues_andThen issues_pure (fun _ => issues_pure)
  · apply issues_andThen
    · rw [Upload.uploadMobilePartsStreaming]
      split
      · exact issues_pure
      · split
        · exact issues_pure
        · apply issues_andThen sendParts_afterParent
          intro sent
          split
          · exact issues_pure
          · exact issues_pure
    · exact fun _ => finishUpload_afterParent

theorem putSpooled_afterParent {primitives : UploadPrimitives} {config : MobileUploadConfig}
    {request : PutObjectRequest} :
    Issues (AfterParent parent fileName)
      (Upload.putSpooled primitives config request (parent, fileName)) := by
  rw [Upload.putSpooled]
  apply issues_andThen issues_pure
  intro prepared
  apply issues_andThen planUpload_afterParent
  intro plan
  split
  · exact issues_pure
  · apply issues_andThen
    · rw [Upload.uploadMobileParts]
      split
      · exact issues_pure
      · split
        · exact issues_pure
        · apply issues_andThen sendParts_afterParent
          intro sent
          split
          · exact issues_pure
          · exact issues_pure
    · exact fun _ => finishUpload_afterParent

/-- A run walks to the folder; if that succeeds, every later request is about that folder. -/
theorem putObject_runs {primitives : UploadPrimitives} {config : MobileUploadConfig}
    {request : PutObjectRequest} {trace : List (Event MobileReply)}
    {result : Except BlobError (Option String)}
    (h : Runs (Upload.putObject primitives config request) trace result) :
    ∃ reply rest, trace =
        ⟨.ensureManagedParentFolderId request.container request.key, reply⟩ :: rest ∧
      (∀ error, reply = .error error → rest = []) ∧
      ∀ parent, reply = .ok parent → ∀ event ∈ rest, AfterParent parent.1 parent.2 event.1 := by
  rw [Upload.putObject] at h
  rcases runs_andThen.mp h with ⟨error, hfailed, -⟩ | ⟨parent, first, rest, rfl, hdone, hnext⟩
  · exact ⟨.error error, [], Upload.runs_ask.mp hfailed, fun _ _ => rfl, fun _ hok => nomatch hok⟩
  · obtain rfl := Upload.runs_ask.mp hdone
    refine ⟨.ok parent, rest, rfl, (fun _ herror => nomatch herror), ?_⟩
    intro parent' hparent
    obtain rfl := Except.ok.inj hparent
    split at hnext
    · exact hnext.issued putStreaming_afterParent
    · exact hnext.issued putSpooled_afterParent

end Requests

/-! ## Section 2: Requests served by the drive -/

/-- The service may add a file. -/
def MayAddFile (drive drive' : MobileDrive) : Prop :=
  drive' = drive ∨ ∃ parent name content, ∃ hparent : parent ∈ drive.issued,
    drive' = drive.add parent name (some content) hparent

/-- The drive serves a request with this reply. The creation and the completion of a file may add
one, whatever is replied. -/
def Serves (account : MobileAccount) :
    Event MobileReply → Session Request MobileDrive → Session Request MobileDrive → Prop
  | ⟨.ensureManagedParentFolderId container key, reply⟩, s, t =>
    (∃ error, Calls perform (ensureManagedParentFolderId account container key) s (.error error) t ∧
      reply = .error error) ∨
    ∃ parent, Calls perform (ensureManagedParentFolderId account container key) s (.ok parent) t ∧
      reply = .ok (parent.parentId, parent.fileName)
  | ⟨.deleteChildFilesByName parent fileName, reply⟩, s, t =>
    Calls perform (deleteChildFilesByName parent fileName) s reply t
  | ⟨.fileCreate .., _⟩, s, t => t.log = s.log ∧ MayAddFile s.state t.state
  | ⟨.fileComplete .., _⟩, s, t => t.log = s.log ∧ MayAddFile s.state t.state
  | ⟨.getUploadUrl .., _⟩, s, t => t = s
  | ⟨.putPart .., _⟩, s, t => t = s

/-- The drive serves the requests of a trace. -/
def ServedBy (account : MobileAccount) :
    List (Event MobileReply) → Session Request MobileDrive → Session Request MobileDrive → Prop
  | [], s, t => s = t
  | event :: rest, s, t => ∃ m, Serves account event s m ∧ ServedBy account rest m t

section Served

variable {trace : List (Event MobileReply)} {event : Event MobileReply}

theorem servedBy_cons :
    ServedBy account (event :: trace) s t ↔
      ∃ m, Serves account event s m ∧ ServedBy account trace m t := Iff.rfl

theorem serves_ensure {container key : String}
    {reply : MobileReply (.ensureManagedParentFolderId container key)} :
    Serves account ⟨.ensureManagedParentFolderId container key, reply⟩ s t ↔
      (∃ error, Calls perform (ensureManagedParentFolderId account container key) s
        (.error error) t ∧ reply = .error error) ∨
      ∃ parent, Calls perform (ensureManagedParentFolderId account container key) s
        (.ok parent) t ∧ reply = .ok (parent.parentId, parent.fileName) := Iff.rfl

end Served

/-- The call deleted a file. -/
def deletes : Request × Bool → Bool
  | (⟨.batchDelete _, false⟩, done) => done
  | _ => false

abbrev Deleted (log : List (Request × Bool)) : Prop := ∃ entry ∈ log, deletes entry = true

theorem deleted_append {front back : List (Request × Bool)} :
    Deleted (front ++ back) ↔ Deleted front ∨ Deleted back := by
  simp [Deleted, or_and_right, exists_or]

/-! ## Section 3: The old object during an upload -/

theorem walkFolders_append_item {items : List DriveItem} {item : DriveItem}
    {segments : List String} {current folder : String}
    (h : walkFolders items segments current = some folder) :
    walkFolders (items ++ [item]) segments current = some folder := by
  induction segments generalizing current with
  | nil => exact h
  | cons segment segments ih =>
      obtain ⟨found, hfound, hrest⟩ := Option.bind_eq_some_iff.mp h
      have hfound' : folderNamed (childrenOf (items ++ [item]) current) segment = some found := by
        rw [folderNamed] at hfound ⊢
        rw [childrenOf, List.filter_append, List.find?_append]
        rw [childrenOf] at hfound
        rw [hfound, Option.some_or]
      rw [walkFolders, hfound', Option.bind_some]
      exact ih hrest

/-- A new item does not hide an object. -/
theorem objectAt_append_item {place : ObjectPlace} {items : List DriveItem}
    {entry item : DriveItem} (h : objectAt account place items = some entry) :
    objectAt account place (items ++ [item]) = some entry := by
  obtain ⟨folder, hfolder, hfile⟩ := Option.bind_eq_some_iff.mp h
  obtain ⟨native, hnative, hwalk⟩ := Option.bind_eq_some_iff.mp hfolder
  rw [objectAt, folderOf, hnative, Option.bind_some, walkFolders_append_item hwalk,
    Option.bind_some]
  rw [fileNamed] at hfile ⊢
  rw [childrenOf, List.filter_append, List.find?_append]
  rw [childrenOf] at hfile
  rw [hfile, Option.some_or]

/-- The object is where it was, and nothing was deleted. -/
def Held (account : MobileAccount) (place : ObjectPlace) (entry : DriveItem)
    (s : Session Request MobileDrive) : Prop :=
  objectAt account place s.state.items = some entry ∧ ¬ Deleted s.log

/-- The object was deleted. Its id is not given out again. -/
def Gone (entry : DriveItem) (s : Session Request MobileDrive) : Prop :=
  (∀ item ∈ s.state.items, item.id ≠ entry.id) ∧ entry.id ∈ s.state.issued ∧ Deleted s.log

section Object

variable {place : ObjectPlace} {entry : DriveItem}

theorem Held.look (h : Held account place entry s) (hlooked : Looked s t) :
    Held account place entry t := by
  obtain ⟨hobject, hdeleted⟩ := h
  obtain ⟨hstate, new, hlog, hnew⟩ := hlooked
  refine ⟨?_, ?_⟩
  · rw [hstate]
    exact hobject
  · rw [hlog, deleted_append]
    rintro (hold | ⟨⟨⟨call, undoing⟩, done⟩, hentry, hdeletes⟩)
    · exact hdeleted hold
    · obtain ⟨-, hcall | ⟨parent, hcall⟩⟩ := hnew _ hentry
      · obtain rfl : call = .familyDiskInfo := hcall
        exact Bool.false_ne_true hdeletes
      · obtain rfl : call = .list parent := hcall
        exact Bool.false_ne_true hdeletes

theorem Gone.look (h : Gone entry s) (hlooked : Looked s t) : Gone entry t := by
  obtain ⟨hnone, hissued, hdeleted⟩ := h
  obtain ⟨hstate, new, hlog, -⟩ := hlooked
  refine ⟨?_, ?_, ?_⟩
  · rwa [hstate]
  · rwa [hstate]
  · rw [hlog, deleted_append]
    exact Or.inl hdeleted

theorem Held.addFile (h : Held account place entry s) (hlog : t.log = s.log)
    (hadd : MayAddFile s.state t.state) : Held account place entry t := by
  obtain ⟨hobject, hdeleted⟩ := h
  refine ⟨?_, ?_⟩
  · rcases hadd with hsame | ⟨parent, name, content, hparent, hadded⟩
    · rwa [hsame]
    · rw [hadded]
      exact objectAt_append_item hobject
  · rwa [hlog]

theorem Gone.addFile (h : Gone entry s) (hlog : t.log = s.log)
    (hadd : MayAddFile s.state t.state) : Gone entry t := by
  obtain ⟨hnone, hissued, hdeleted⟩ := h
  rw [Gone, hlog]
  rcases hadd with hsame | ⟨parent, name, content, hparent, hadded⟩
  · rw [hsame]
    exact ⟨hnone, hissued, hdeleted⟩
  · rw [hadded]
    refine ⟨?_, List.mem_cons_of_mem _ hissued, hdeleted⟩
    intro item hitem
    rcases List.mem_append.mp hitem with hold | hnew
    · exact hnone item hold
    · rw [List.mem_singleton.mp hnew]
      intro heq
      apply s.state.freshId_not_mem
      rwa [← heq] at hissued

/-- A deletion, of whatever file, does not bring the object back. -/
theorem Gone.delete {id : String} {result : Except BlobError Unit} (h : Gone entry s)
    (hcalls : Calls perform (ask (.batchDelete id)) s result t) : Gone entry t := by
  obtain ⟨hnone, hissued, hdeleted⟩ := h
  rcases calls_ask.mp hcalls with ⟨_, -, rfl⟩ | ⟨_, state, hperform, -, rfl⟩
  · exact ⟨hnone, hissued, deleted_append.mpr (Or.inl hdeleted)⟩
  · obtain ⟨-, rfl⟩ := Prod.mk.inj (Except.ok.inj hperform)
    refine ⟨?_, hissued, deleted_append.mpr (Or.inl hdeleted)⟩
    intro item hitem
    exact hnone item (List.mem_filter.mp hitem).1

theorem Gone.deleteFiles {ids : List String} {result : Except BlobError Unit} (h : Gone entry s)
    (hcalls : Calls perform (Actions.deleteFiles ids) s result t) : Gone entry t := by
  induction ids generalizing s with
  | nil =>
      obtain ⟨-, rfl⟩ := calls_pure.mp hcalls
      exact h
  | cons id ids ih =>
      rw [Actions.deleteFiles] at hcalls
      rcases calls_andThen.mp hcalls with ⟨_, hdelete, -⟩ | ⟨_, m, hdelete, hrest⟩
      · exact h.delete hdelete
      · exact ih (h.delete hdelete) hrest

/-- The first file of the name is the object: its deletion is refused, or it is gone. -/
theorem Held.deleteFiles {ids : List String} {result : Except BlobError Unit}
    (h : Held account place entry s)
    (hcalls : Calls perform (Actions.deleteFiles (entry.id :: ids)) s result t) :
    Held account place entry t ∨ Gone entry t := by
  have hgone : ∀ {result : Except BlobError Unit} {m : Session Request MobileDrive},
      Calls perform (ask (.batchDelete entry.id)) s result m →
        Held account place entry m ∧ (∃ error, result = .error error) ∨ Gone entry m := by
    intro result m hdelete
    obtain ⟨hobject, hdeleted⟩ := h
    rcases calls_ask.mp hdelete with ⟨error, rfl, rfl⟩ | ⟨_, state, hperform, rfl, rfl⟩
    · refine Or.inl ⟨⟨hobject, ?_⟩, error, rfl⟩
      rw [deleted_append]
      rintro (hold | ⟨logged, hlogged, hdeletes⟩)
      · exact hdeleted hold
      · rw [List.mem_singleton.mp hlogged] at hdeletes
        exact Bool.false_ne_true hdeletes
    · obtain ⟨-, rfl⟩ := Prod.mk.inj (Except.ok.inj hperform)
      refine Or.inr ⟨?_, ?_, ?_⟩
      · intro item hitem
        obtain ⟨-, hkept⟩ := List.mem_filter.mp hitem
        intro hid
        rw [hid, isBelow_self] at hkept
        cases hkept
      · exact s.state.issued_id entry (objectAt_eq_some hobject).1
      · exact deleted_append.mpr (Or.inr ⟨_, List.mem_singleton_self _, rfl⟩)
  rw [Actions.deleteFiles] at hcalls
  rcases calls_andThen.mp hcalls with ⟨_, hdelete, -⟩ | ⟨_, m, hdelete, hrest⟩
  · rcases hgone hdelete with ⟨hheld, -⟩ | hgone
    · exact Or.inl hheld
    · exact Or.inr hgone
  · rcases hgone hdelete with ⟨-, error, herror⟩ | hgone
    · cases herror
    · exact Or.inr (hgone.deleteFiles hrest)

theorem Gone.deleteChildFiles {parent fileName : String} {result : Except BlobError Nat}
    (h : Gone entry s)
    (hcalls : Calls perform (deleteChildFilesByName parent fileName) s result t) :
    Gone entry t := by
  rw [deleteChildFilesByName] at hcalls
  split at hcalls
  · obtain ⟨-, rfl⟩ := calls_pure.mp hcalls
    exact h
  have hlook : Makes IsLook (ask (.list parent)) := makes_ask (isLook_list parent)
  rcases calls_andThen.mp hcalls with ⟨_, hlist, -⟩ | ⟨items, m, hlist, hnext⟩
  · exact h.look (looked_of_calls hlook hlist)
  have hgone := h.look (looked_of_calls hlook hlist)
  rcases calls_andThen.mp hnext with ⟨_, hdelete, -⟩ | ⟨_, m', hdelete, hend⟩
  · exact hgone.deleteFiles hdelete
  · obtain ⟨-, rfl⟩ := calls_pure.mp hend
    exact hgone.deleteFiles hdelete

/-- The files of the name of an object are deleted from the object on. -/
theorem Held.deleteChildFiles {parent fileName : String} {result : Except BlobError Nat}
    (h : Held account place entry s) (hparent : parent = entry.parent)
    (hfileName : fileName = fileNameOf place.key)
    (hcalls : Calls perform (deleteChildFilesByName parent fileName) s result t) :
    Held account place entry t ∨ Gone entry t := by
  obtain ⟨-, -, hfolder, hname⟩ := objectAt_eq_some h.1
  obtain ⟨htrim, hne⟩ := isDisplayed_iff.mp (isDisplayed_of_displayName hname)
  rw [deleteChildFilesByName, hparent, hfileName, htrim, if_neg hne] at hcalls
  have hlook : Makes IsLook (ask (.list entry.parent)) := makes_ask (isLook_list entry.parent)
  rcases calls_andThen.mp hcalls with ⟨_, hlist, -⟩ | ⟨items, m, hlist, hnext⟩
  · exact Or.inl (h.look (looked_of_calls hlook hlist))
  have hheld := h.look (looked_of_calls hlook hlist)
  have hfirst : fileNamed (childrenOf s.state.items entry.parent) (fileNameOf place.key) =
      some entry := by
    have hobject := h.1
    rw [objectAt, hfolder] at hobject
    exact hobject
  rw [fileNamed, ← List.head?_filter] at hfirst
  obtain ⟨rest, hfiles⟩ := List.head?_eq_some_iff.mp hfirst
  have hitems : filesNamed items (fileNameOf place.key) = entry :: rest := by
    rw [calls_list hlist]
    exact hfiles
  rw [hitems, List.map_cons] at hnext
  rcases calls_andThen.mp hnext with ⟨_, hdelete, -⟩ | ⟨_, m', hdelete, hend⟩
  · exact hheld.deleteFiles hdelete
  · obtain ⟨-, rfl⟩ := calls_pure.mp hend
    exact hheld.deleteFiles hdelete

/-- **Step lemma.** A request of the upload leaves the object, or it is gone and stays so. -/
theorem serves_step {event : Event MobileReply}
    (hafter : AfterParent entry.parent (fileNameOf place.key) event.1)
    (h : Held account place entry s ∨ Gone entry s) (hserves : Serves account event s t) :
    Held account place entry t ∨ Gone entry t := by
  obtain ⟨call, reply⟩ := event
  cases call with
  | ensureManagedParentFolderId container key => exact hafter.elim
  | fileCreate fileName parentFileId contentType size contentHash partInfos =>
      exact h.imp (fun held => held.addFile hserves.1 hserves.2)
        (fun gone => gone.addFile hserves.1 hserves.2)
  | deleteChildFilesByName parentFileId fileName =>
      rcases h with hheld | hgone
      · exact hheld.deleteChildFiles hafter.1 hafter.2 hserves
      · exact Or.inr (hgone.deleteChildFiles hserves)
  | getUploadUrl fileId uploadId partInfos =>
      obtain rfl : t = s := hserves
      exact h
  | putPart uploadUrl partNumber contentLength bytes =>
      obtain rfl : t = s := hserves
      exact h
  | fileComplete fileId uploadId contentHash =>
      exact h.imp (fun held => held.addFile hserves.1 hserves.2)
        (fun gone => gone.addFile hserves.1 hserves.2)

theorem serves_run {trace : List (Event MobileReply)}
    (hafter : ∀ event ∈ trace, AfterParent entry.parent (fileNameOf place.key) event.1)
    (h : Held account place entry s ∨ Gone entry s) (hserved : ServedBy account trace s t) :
    Held account place entry t ∨ Gone entry t := by
  induction trace generalizing s with
  | nil =>
      obtain rfl : s = t := hserved
      exact h
  | cons event rest ih =>
      obtain ⟨m, hserves, hrest⟩ := hserved
      obtain ⟨hevent, hafter⟩ := List.forall_mem_cons.mp hafter
      exact ih hafter (serves_step hevent h hserves) hrest

end Object

/-- An upload over an object leaves it, or it is gone: in both cases the log says so. -/
theorem putObject_held_or_gone {primitives : UploadPrimitives} {config : MobileUploadConfig}
    {request : PutObjectRequest} {trace : List (Event MobileReply)}
    {result : Except BlobError (Option String)} {place : ObjectPlace} {entry : DriveItem}
    (hcontainer : request.container = place.container) (hkey : request.key = place.key)
    (hheld : Held account place entry s)
    (hrun : Runs (Upload.putObject primitives config request) trace result)
    (hserved : ServedBy account trace s t) : Held account place entry t ∨ Gone entry t := by
  obtain ⟨reply, rest, rfl, hfailed, hafter⟩ := putObject_runs hrun
  obtain ⟨m, hensure, hrest⟩ := servedBy_cons.mp hserved
  rw [hcontainer, hkey] at hensure
  -- the object is there, so the walk finds its folder and makes none
  have hfolder := (objectAt_eq_some hheld.1).2.2.1
  rcases serves_ensure.mp hensure with ⟨error, hensure, hreply⟩ | ⟨parent, hensure, hreply⟩
  · obtain ⟨hlooked, -⟩ := ensureManagedParent_of_folder hfolder hensure
    rw [hfailed error hreply] at hrest
    obtain rfl : m = t := hrest
    exact Or.inl (hheld.look hlooked)
  · obtain ⟨hlooked, hvalue⟩ := ensureManagedParent_of_folder hfolder hensure
    have hrequests := hafter _ hreply
    rw [hvalue parent rfl] at hrequests
    dsimp only at hrequests
    exact serves_run hrequests (Or.inl (hheld.look hlooked)) hrest

/-- What an upload does to the object at its key: it is left unless a file was deleted. -/
theorem putObject_keeps_iff {primitives : UploadPrimitives} {config : MobileUploadConfig}
    {request : PutObjectRequest} {trace : List (Event MobileReply)}
    {result : Except BlobError (Option String)} {drive : MobileDrive}
    (hrun : Runs (Upload.putObject primitives config request) trace result)
    (hserved : ServedBy account trace ⟨drive, []⟩ t) :
    (∀ item, objectAt account ⟨request.container, request.key⟩ drive.items = some item →
        objectAt account ⟨request.container, request.key⟩ t.state.items = some item) ↔
      (objectAt account ⟨request.container, request.key⟩ drive.items = none ∨ ¬ Deleted t.log) := by
  cases hobject : objectAt account ⟨request.container, request.key⟩ drive.items with
  | none =>
      apply iff_of_true
      · exact fun _ hitem => nomatch hitem
      · exact Or.inl rfl
  | some entry =>
      have hstart : Held account ⟨request.container, request.key⟩ entry ⟨drive, []⟩ :=
        ⟨hobject, fun ⟨_, hentry, _⟩ => List.not_mem_nil hentry⟩
      rcases putObject_held_or_gone rfl rfl hstart hrun hserved with hheld | hgone
      · apply iff_of_true
        · intro item hitem
          rw [← Option.some.inj hitem]
          exact hheld.1
        · exact Or.inr hheld.2
      · apply iff_of_false
        · intro hkept
          exact hgone.1 entry (objectAt_eq_some (hkept entry rfl)).1 rfl
        · rintro (hnone | hdeleted)
          · cases hnone
          · exact hdeleted hgone.2.2

/-! ## Section 4: Failed actions -/

/-- **Main theorem.** A renaming, a move or a copy that fails leaves what was there, provided that
the calls to undo are carried out, exactly when it does not stop between making a folder and
moving or copying the file. A write that fails leaves the object exactly when none was deleted. -/
theorem failed_action_keeps_iff {drive : MobileDrive} {error : BlobError} :
    (∀ request, Calls perform (renameObject account request) ⟨drive, []⟩ (.error error) t →
      ((RolledBack t.log → Kept account ⟨request.container, request.key⟩
        ⟨request.container, request.newKey⟩ drive.items t.state.items) ↔ ¬ Stuck t.log)) ∧
    (∀ request, Calls perform (moveObject account request) ⟨drive, []⟩ (.error error) t →
      ((RolledBack t.log → Kept account request.source request.destination drive.items
        t.state.items) ↔ ¬ Stuck t.log)) ∧
    (∀ request, Calls perform (copyObject account request) ⟨drive, []⟩ (.error error) t →
      ((RolledBack t.log → Kept account request.source request.destination drive.items
        t.state.items) ↔ ¬ Stuck t.log)) ∧
    (∀ primitives config request trace,
      Runs (Upload.putObject primitives config request) trace (.error error) →
      ServedBy account trace ⟨drive, []⟩ t →
      ((∀ item, objectAt account ⟨request.container, request.key⟩ drive.items = some item →
          objectAt account ⟨request.container, request.key⟩ t.state.items = some item) ↔
        (objectAt account ⟨request.container, request.key⟩ drive.items = none ∨
          ¬ Deleted t.log))) := by
  refine ⟨?_, ?_, ?_, ?_⟩
  · intro request hcalls
    exact (renameObject_ended (stopped_start drive) hcalls).kept_iff
  · intro request hcalls
    exact (moveObject_ended (stopped_start drive) hcalls).kept_iff
  · intro request hcalls
    exact (copyObject_ended (stopped_start drive) hcalls).kept_iff
  · intro primitives config request trace hrun hserved
    exact putObject_keeps_iff hrun hserved

/-! ### Renaming, moving, copying and writing a file `root/a` -/

def sampleAccount : MobileAccount where
  paths := ⟨none, true, false, false⟩
  rootFolderId := some "/"
  familyRootFolderId := none
  copyConfigured := true

def sampleFile : DriveItem := ⟨"2", "1", "a", some (asBytes "ab")⟩

/-- The folder of the container, with one file in it. -/
def sampleDrive : MobileDrive where
  items := [⟨"1", "/", "root", none⟩, sampleFile]
  issued := ["/", "1", "2"]
  issued_id := by decide
  issued_parent := by decide
  distinct := by decide

def offline : BlobError := .upstream "offline"

/-- The run in which the call at this place is refused. -/
def sampleRun {α : Type} (refused : Nat) (p : Remote α) : α × Session Request MobileDrive :=
  carryOut perform (List.replicate refused none ++ [some offline]) p ⟨sampleDrive, []⟩

theorem sampleRun_calls {α : Type} {refused : Nat} {p : Remote α} {result : α}
    (h : (sampleRun refused p).1 = result) :
    Calls perform p ⟨sampleDrive, []⟩ result (sampleRun refused p).2 := by
  rw [← h]
  exact calls_carryOut _ p ⟨sampleDrive, []⟩

def sampleRename : Remote (Except BlobError Unit) := renameObject sampleAccount ⟨"root", "a", "b"⟩

def sampleMove : Remote (Except BlobError Unit) :=
  moveObject sampleAccount ⟨⟨"root", "a"⟩, ⟨"root", "d/b"⟩⟩

def sampleCopy : Remote (Except BlobError Unit) :=
  copyObject sampleAccount ⟨⟨"root", "a"⟩, ⟨"root", "d/a"⟩⟩

/-- How the drive answers a request of an upload, with the other answers given beforehand. -/
def answerOn (account : MobileAccount) (reply : (call : MobileCall) → MobileReply call) :
    (call : MobileCall) → Session Request MobileDrive →
      MobileReply call × Session Request MobileDrive
  | .ensureManagedParentFolderId container key, s =>
    match carryOut perform [] (ensureManagedParentFolderId account container key) s with
    | (.ok parent, t) => (.ok (parent.parentId, parent.fileName), t)
    | (.error error, t) => (.error error, t)
  | .deleteChildFilesByName parent fileName, s =>
    carryOut perform [] (deleteChildFilesByName parent fileName) s
  | call, s => (reply call, s)

/-- An upload on the drive: its trace, what it leaves, and its result. -/
def uploadOn {α : Type} (account : MobileAccount)
    (reply : (call : MobileCall) → MobileReply call) :
    Program MobileCall MobileReply α → Session Request MobileDrive →
      List (Event MobileReply) × Session Request MobileDrive × α
  | .pure value, s => ([], s, value)
  | .request call next, s =>
    let answered := answerOn account reply call s
    let rest := uploadOn account reply (next answered.1) answered.2
    (⟨call, answered.1⟩ :: rest.1, rest.2)

theorem serves_answerOn (reply : (call : MobileCall) → MobileReply call) (call : MobileCall)
    (s : Session Request MobileDrive) :
    Serves account ⟨call, (answerOn account reply call s).1⟩ s
      (answerOn account reply call s).2 := by
  cases call with
  | ensureManagedParentFolderId container key =>
      have hcalls : Calls perform (ensureManagedParentFolderId account container key) s _ _ :=
        calls_carryOut [] _ s
      rw [serves_ensure, answerOn]
      cases hrun : carryOut perform [] (ensureManagedParentFolderId account container key) s with
      | mk result t =>
          rw [hrun] at hcalls
          cases result with
          | ok parent => exact Or.inr ⟨parent, hcalls, rfl⟩
          | error error => exact Or.inl ⟨error, hcalls, rfl⟩
  | deleteChildFilesByName parent fileName =>
      exact calls_carryOut [] (deleteChildFilesByName parent fileName) s
  | fileCreate fileName parentFileId contentType size contentHash partInfos =>
      exact ⟨rfl, Or.inl rfl⟩
  | fileComplete fileId uploadId contentHash => exact ⟨rfl, Or.inl rfl⟩
  | getUploadUrl fileId uploadId partInfos => exact rfl
  | putPart uploadUrl partNumber contentLength bytes => exact rfl

theorem uploadOn_runs {α : Type} (reply : (call : MobileCall) → MobileReply call)
    (p : Program MobileCall MobileReply α) (s : Session Request MobileDrive) :
    Runs p (uploadOn account reply p s).1 (uploadOn account reply p s).2.2 ∧
      ServedBy account (uploadOn account reply p s).1 s (uploadOn account reply p s).2.1 := by
  induction p generalizing s with
  | pure value => exact ⟨⟨rfl, rfl⟩, rfl⟩
  | request call next ih =>
      obtain ⟨hruns, hserved⟩ := ih (answerOn account reply call s).1
        (answerOn account reply call s).2
      exact ⟨⟨_, _, rfl, hruns⟩, _, serves_answerOn reply call s, hserved⟩

/-- The answers of the service to an upload, with this one to `file/create`. -/
def sampleAnswers (created : Except BlobError (Upload.MobileResponse Upload.MobileFileCreateData)) :
    (call : MobileCall) → MobileReply call
  | .fileCreate .. => created
  | call => Upload.sampleReply [] call

/-- An upload of `root/a`. -/
def sampleUpload (created : Except BlobError (Upload.MobileResponse Upload.MobileFileCreateData)) :
    List (Event MobileReply) × Session Request MobileDrive × Except BlobError (Option String) :=
  uploadOn sampleAccount (sampleAnswers created)
    (Upload.putObject Upload.samplePrimitives Upload.sampleConfig Upload.sampleRequest)
    ⟨sampleDrive, []⟩

/-- There is a file of the name, and no upload is opened. -/
def alreadyThere : Upload.MobileResponse Upload.MobileFileCreateData :=
  ⟨true, none, none, some ⟨none, none, none, some true, []⟩⟩

theorem sampleUpload_runs
    {created : Except BlobError (Upload.MobileResponse Upload.MobileFileCreateData)}
    {result : Except BlobError (Option String)} (h : (sampleUpload created).2.2 = result) :
    Runs (Upload.putObject Upload.samplePrimitives Upload.sampleConfig Upload.sampleRequest)
        (sampleUpload created).1 result ∧
      ServedBy sampleAccount (sampleUpload created).1 ⟨sampleDrive, []⟩
        (sampleUpload created).2.1 := by
  rw [← h]
  exact uploadOn_runs (sampleAnswers created) _ ⟨sampleDrive, []⟩

/-- Renaming and moving with the new name refused, copying with the copy refused, and writing with
the new file refused: all is kept. -/
theorem refused_actions_keep :
    (RolledBack (sampleRun 2 sampleRename).2.log → Kept sampleAccount ⟨"root", "a"⟩ ⟨"root", "b"⟩
      sampleDrive.items (sampleRun 2 sampleRename).2.state.items) ∧
    (RolledBack (sampleRun 7 sampleMove).2.log → Kept sampleAccount ⟨"root", "a"⟩ ⟨"root", "d/b"⟩
      sampleDrive.items (sampleRun 7 sampleMove).2.state.items) ∧
    (RolledBack (sampleRun 5 sampleCopy).2.log → Kept sampleAccount ⟨"root", "a"⟩ ⟨"root", "d/a"⟩
      sampleDrive.items (sampleRun 5 sampleCopy).2.state.items) ∧
    (∀ item, objectAt sampleAccount ⟨"root", "a"⟩ sampleDrive.items = some item →
      objectAt sampleAccount ⟨"root", "a"⟩ (sampleUpload (.error offline)).2.1.state.items =
        some item) := by
  refine ⟨?_, ?_, ?_, ?_⟩
  · have hcalls : Calls perform sampleRename ⟨sampleDrive, []⟩ (.error (.upstream
        "upstream error: offline; created-folder cleanup succeeded"))
        (sampleRun 2 sampleRename).2 := sampleRun_calls (by decide +kernel)
    exact (failed_action_keeps_iff.1 _ hcalls).mpr (by decide +kernel)
  · have hcalls : Calls perform sampleMove ⟨sampleDrive, []⟩ (.error (.upstream
        "China Mobile move partially moved the object before file/update failed: upstream error: offline; remote parent rollback succeeded; created-folder cleanup succeeded"))
        (sampleRun 7 sampleMove).2 := sampleRun_calls (by decide +kernel)
    exact (failed_action_keeps_iff.2.1 _ hcalls).mpr (by decide +kernel)
  · have hcalls : Calls perform sampleCopy ⟨sampleDrive, []⟩ (.error (.upstream
        "upstream error: offline; created-folder cleanup succeeded")) (sampleRun 5 sampleCopy).2 :=
      sampleRun_calls (by decide +kernel)
    exact (failed_action_keeps_iff.2.2.1 _ hcalls).mpr (by decide +kernel)
  · have hupload : (sampleUpload (.error offline)).2.2 = .error offline := by decide +kernel
    obtain ⟨hruns, hserved⟩ := sampleUpload_runs hupload
    exact (failed_action_keeps_iff.2.2.2 _ _ _ _ hruns hserved).mpr (Or.inr (by decide +kernel))

/-- The move of a file is refused after its new folder was made, and the folder stays. A write
deletes the old file, gets no new one, and fails. -/
theorem refused_actions_lose :
    (Calls perform sampleMove ⟨sampleDrive, []⟩ (.error offline) (sampleRun 6 sampleMove).2 ∧
      RolledBack (sampleRun 6 sampleMove).2.log ∧
      ¬ Kept sampleAccount ⟨"root", "a"⟩ ⟨"root", "d/b"⟩ sampleDrive.items
        (sampleRun 6 sampleMove).2.state.items) ∧
    (∃ error, Runs (Upload.putObject Upload.samplePrimitives Upload.sampleConfig
        Upload.sampleRequest) (sampleUpload (.ok alreadyThere)).1 (.error error) ∧
      ServedBy sampleAccount (sampleUpload (.ok alreadyThere)).1 ⟨sampleDrive, []⟩
        (sampleUpload (.ok alreadyThere)).2.1) ∧
    objectAt sampleAccount ⟨"root", "a"⟩ sampleDrive.items = some sampleFile ∧
    objectAt sampleAccount ⟨"root", "a"⟩ (sampleUpload (.ok alreadyThere)).2.1.state.items =
      none := by
  refine ⟨⟨sampleRun_calls (by decide +kernel), by decide +kernel, ?_⟩, ?_, by decide +kernel,
    by decide +kernel⟩
  · intro hkept
    have hempty : childrenOf (sampleRun 6 sampleMove).2.state.items "0000" = [] := by
      decide +kernel
    exact hkept.new_folder ⟨"0000", "1", "d", none⟩ (by decide +kernel) rfl (by decide +kernel)
      hempty
  · have hupload : (sampleUpload (.ok alreadyThere)).2.2 = .error (.upstream
        "China Mobile file/create reported an existing object without an uploadId even after deleting the old object and retrying") := by
      decide +kernel
    exact ⟨_, sampleUpload_runs hupload⟩

end Netdisk2Blob.Providers.Mobile.Actions
