import Netdisk2Blob.Providers.MobileUpload

/-!
# What a Mobile Upload Delivers

The runs of `put_object`, seen as the parts that are put: their numbers, the lengths that are
announced for them, and their bytes. The service puts the parts of a file together by number.

## Contents

- `putsOf`, `partsOf`: the parts put in a run, and the parts that its answers list
- `partPlan`: the numbers and sizes under which the body is cut, in the order of the answers
- `runs_sendParts`, `putObject_puts`: what a run puts is the body, cut under this plan
- `DeliversBody`, `upload_delivers`: when the plan is in order, the parts make up the body
-/

namespace Netdisk2Blob.Providers.Mobile.Upload

open Library Text Library.Program Blob

/-! ## Section 1: What a run shows -/

/-- An upload to the address of a part. -/
structure Put where
  partNumber : Nat
  contentLength : Nat
  bytes : Bytes
  deriving DecidableEq

def putOf : Event MobileReply → Option Put
  | ⟨.putPart _ partNumber contentLength bytes, _⟩ => some ⟨partNumber, contentLength, bytes⟩
  | _ => none

def putsOf (trace : List (Event MobileReply)) : List Put := trace.filterMap putOf

/-- The bytes of the puts with the numbers of their parts. -/
def piecesOf (trace : List (Event MobileReply)) : List (Nat × Bytes) :=
  (putsOf trace).map fun put => (put.partNumber, put.bytes)

def isComplete : Event MobileReply → Bool
  | ⟨.fileComplete .., _⟩ => true
  | _ => false

/-- The run asks for the file to be completed. -/
def completes (trace : List (Event MobileReply)) : Bool := trace.any isComplete

def isRapid : Event MobileReply → Bool
  | ⟨.fileCreate .., .ok response⟩ => response.data.any (fun data => data.rapidUpload.getD false)
  | _ => false

/-- The service has the file already. -/
def rapidOf (trace : List (Event MobileReply)) : Bool := trace.any isRapid

/-- The parts that are known after an answer. A new `file/create` starts over. -/
def answeredParts (parts : List MobileUploadPartInfo) : Event MobileReply →
    List MobileUploadPartInfo
  | ⟨.fileCreate .., .ok response⟩ => (response.data.map (·.partInfos)).getD []
  | ⟨.getUploadUrl .., .ok response⟩ => parts ++ (response.data.map (·.partInfos)).getD []
  | _ => parts

def partsAfter (parts : List MobileUploadPartInfo) (trace : List (Event MobileReply)) :
    List MobileUploadPartInfo :=
  trace.foldl answeredParts parts

/-- The parts that the answers of a run list. -/
def partsOf (trace : List (Event MobileReply)) : List MobileUploadPartInfo := partsAfter [] trace

/-- The numbers and sizes of the parts, from a place in the list and an offset on. -/
def partPlan (upload : MobileUploadDescriptor) :
    Nat → Nat → List MobileUploadPartInfo → List (Nat × Nat)
  | _, _, [] => []
  | index, partOffset, part :: parts =>
    (partNumberOf index part, partSizeOf upload partOffset part) ::
      partPlan upload (index + 1)
        (saturatingAddU64 partOffset (partSizeOf upload partOffset part)) parts

section Trace

variable {first rest trace : List (Event MobileReply)}

@[simp] theorem putsOf_append : putsOf (first ++ rest) = putsOf first ++ putsOf rest :=
  List.filterMap_append

@[simp] theorem piecesOf_append : piecesOf (first ++ rest) = piecesOf first ++ piecesOf rest := by
  simp [piecesOf]

@[simp] theorem completes_append :
    completes (first ++ rest) = (completes first || completes rest) :=
  List.any_append

@[simp] theorem rapidOf_append : rapidOf (first ++ rest) = (rapidOf first || rapidOf rest) :=
  List.any_append

@[simp] theorem partsAfter_append (parts : List MobileUploadPartInfo) :
    partsAfter parts (first ++ rest) = partsAfter (partsAfter parts first) rest :=
  List.foldl_append

/-- Events that neither put a part nor complete the file. -/
def Quiet (trace : List (Event MobileReply)) : Prop := putsOf trace = [] ∧ completes trace = false

theorem quiet_nil : Quiet [] := ⟨rfl, rfl⟩

theorem Quiet.append (hfirst : Quiet first) (hrest : Quiet rest) : Quiet (first ++ rest) := by
  refine ⟨?_, ?_⟩
  · rw [putsOf_append, hfirst.1, hrest.1, List.append_nil]
  · rw [completes_append, hfirst.2, hrest.2, Bool.or_false]

theorem runs_ask {call : MobileCall} {reply : MobileReply call} :
    Runs (ask call) trace reply ↔ trace = [⟨call, reply⟩] := runs_issue

end Trace

/-! ## Section 2: Planning -/

section Planning

variable {trace : List (Event MobileReply)}

theorem accepted_ok {α : Type} {action : String} {response : MobileResponse α} {data : α}
    (h : accepted action response = .ok data) : response.data = some data := by
  unfold accepted at h
  split_ifs at h
  · cases hdata : response.data with
    | none =>
        rw [hdata] at h
        cases h
    | some other =>
        rw [hdata] at h
        cases h
        rfl

theorem planOf_ok {data : MobileFileCreateData} {plan : MobileUploadPlan}
    (h : planOf data = .ok plan) :
    plan.partInfos = data.partInfos ∧ plan.rapidUpload = data.rapidUpload.getD false := by
  unfold planOf at h
  split at h
  · cases h
  · split_ifs at h with hrapid
    · cases h
      exact ⟨rfl, hrapid.symm⟩
    · split at h
      · cases h
        exact ⟨rfl, (Bool.not_eq_true _ ▸ hrapid).symm⟩
      · cases h

/-- What the first part of an upload leaves: nothing is put, and the plan has the parts of the
answers. -/
def Plans (trace : List (Event MobileReply)) (result : Except BlobError MobileUploadPlan) : Prop :=
  Quiet trace ∧ ∀ plan, result = .ok plan →
    (∀ parts, partsAfter parts trace = plan.partInfos) ∧
      (plan.rapidUpload = true → rapidOf trace = true)

theorem Plans.prepend {first rest : List (Event MobileReply)}
    {result : Except BlobError MobileUploadPlan} (h : Plans rest result) (hfirst : Quiet first) :
    Plans (first ++ rest) result := by
  refine ⟨hfirst.append h.1, ?_⟩
  intro plan hplan
  obtain ⟨hparts, hrapid⟩ := h.2 plan hplan
  refine ⟨?_, ?_⟩
  · intro parts
    rw [partsAfter_append, hparts]
  · intro hexists
    rw [rapidOf_append, hrapid hexists, Bool.or_true]

theorem plans_error {error : BlobError} (h : Quiet trace) : Plans trace (.error error) :=
  ⟨h, fun _ hvalue => nomatch hvalue⟩

/-- The answer to `file/create` is the plan, whatever is done with the old file after it. -/
theorem plans_created {fileName parent contentType contentHash : String} {size : Nat}
    {partInfos : List UploadPartInfo} {response : MobileResponse MobileFileCreateData}
    {data : MobileFileCreateData} (hdata : response.data = some data)
    {rest : List (Event MobileReply)} (hquiet : Quiet rest)
    (hkeep : ∀ parts, partsAfter parts rest = parts) :
    Plans ([⟨.fileCreate fileName parent contentType size contentHash partInfos,
      .ok response⟩] ++ rest) (planOf data) := by
  refine ⟨Quiet.append ⟨rfl, rfl⟩ hquiet, ?_⟩
  intro plan hvalue
  obtain ⟨hparts, hrapid⟩ := planOf_ok hvalue
  refine ⟨?_, ?_⟩
  · intro parts
    rw [partsAfter_append, hkeep]
    simp [partsAfter, answeredParts, hdata, hparts]
  · intro hexists
    rw [hrapid] at hexists
    simp [rapidOf, isRapid, hdata, hexists]

/-- The plan comes from the last answer to `file/create`. -/
theorem createMobileUpload_runs {fileName parent contentType : String}
    {upload : MobileUploadDescriptor} {retryAfterDelete : Bool} {count : Nat}
    {result : Except BlobError MobileUploadPlan}
    (h : Runs (createMobileUpload fileName parent contentType upload retryAfterDelete count) trace
      result) : Plans trace result := by
  induction hmeasure : (3 - count) + (if retryAfterDelete then 0 else 1)
    using Nat.strong_induction_on generalizing retryAfterDelete count trace result with
  | _ measure ih =>
      rw [createMobileUpload] at h
      rcases runs_andThen.mp h with
        ⟨error, hfailed, rfl⟩ | ⟨response, before, after, rfl, hdone, hnext⟩
      · rw [runs_ask.mp hfailed]
        exact plans_error ⟨rfl, rfl⟩
      obtain rfl := runs_ask.mp hdone
      rcases runs_andThen_pure.mp hnext with ⟨error, -, rfl, rfl⟩ | ⟨data, hdata, hrest⟩
      · exact plans_error ⟨rfl, rfl⟩
      have hdata := accepted_ok hdata
      by_cases htaken : data.rapidUpload.getD false = false ∧ (uploadIdOf data).isNone ∧
          data.exist.getD false
      · rw [if_pos htaken] at hrest
        by_cases hretry : retryAfterDelete = true
        · rw [dif_pos hretry] at hrest
          split_ifs at hrest with hcount
          · refine (ih _ ?_ hrest rfl).prepend ⟨rfl, rfl⟩
            rw [← hmeasure]
            omega
          · obtain ⟨rfl, rfl⟩ := hrest
            exact plans_error ⟨rfl, rfl⟩
        · -- the old file is deleted, or there is none
          rw [dif_neg hretry] at hrest
          rcases runs_andThen.mp hrest with
            ⟨error, hfailed, rfl⟩ | ⟨deleted, first, last, rfl, hdeleted, hagain⟩
          · rw [runs_ask.mp hfailed]
            exact plans_error ⟨rfl, rfl⟩
          obtain rfl := runs_ask.mp hdeleted
          split_ifs at hagain with hsome hcount
          · refine ((ih _ ?_ hagain rfl).prepend ⟨rfl, rfl⟩).prepend ⟨rfl, rfl⟩
            rw [← hmeasure, if_neg hretry]
            exact Nat.lt_succ_self _
          · refine ((ih _ ?_ hagain rfl).prepend ⟨rfl, rfl⟩).prepend ⟨rfl, rfl⟩
            rw [← hmeasure]
            omega
          · obtain ⟨rfl, rfl⟩ := hagain
            exact plans_created hdata ⟨rfl, rfl⟩ (fun _ => rfl)
      · rw [if_neg htaken] at hrest
        obtain ⟨rfl, rfl⟩ := hrest
        exact plans_created hdata quiet_nil (fun _ => rfl)

theorem getMobileUploadUrls_runs {plan : MobileUploadPlan} {partInfos : List UploadPartInfo}
    {result : Except BlobError (List MobileUploadPartInfo)}
    (h : Runs (getMobileUploadUrls plan partInfos) trace result) :
    Quiet trace ∧ ∀ more, result = .ok more → ∀ parts, partsAfter parts trace = parts ++ more := by
  unfold getMobileUploadUrls at h
  split at h
  · obtain ⟨rfl, rfl⟩ := h
    refine ⟨quiet_nil, ?_⟩
    rintro more hvalue parts
    cases hvalue
    exact (List.append_nil parts).symm
  split at h
  · obtain ⟨rfl, rfl⟩ := h
    refine ⟨quiet_nil, ?_⟩
    intro more hvalue
    cases hvalue
  rcases runs_andThen.mp h with
    ⟨error, hfailed, rfl⟩ | ⟨response, before, after, rfl, hdone, hnext⟩
  · rw [runs_ask.mp hfailed]
    refine ⟨⟨rfl, rfl⟩, ?_⟩
    intro more hvalue
    cases hvalue
  obtain rfl := runs_ask.mp hdone
  obtain ⟨rfl, rfl⟩ := hnext
  refine ⟨⟨rfl, rfl⟩, ?_⟩
  intro more hvalue parts
  cases hdata : accepted "China Mobile file/getUploadUrl" response with
  | error error =>
      rw [hdata] at hvalue
      cases hvalue
  | ok data =>
      rw [hdata] at hvalue
      obtain rfl := Except.ok.inj hvalue
      simp [partsAfter, answeredParts, accepted_ok hdata]

theorem expandLoop_runs {expected : List UploadPartInfo} {plan : MobileUploadPlan}
    {nextIndex : Nat} {result : Except BlobError MobileUploadPlan}
    (h : Runs (expandLoop expected plan nextIndex) trace result) :
    Quiet trace ∧ ∀ plan', result = .ok plan' →
      partsAfter plan.partInfos trace = plan'.partInfos ∧
        plan'.rapidUpload = plan.rapidUpload := by
  induction hleft : expected.length - nextIndex using Nat.strong_induction_on
    generalizing plan nextIndex trace result with
  | _ left ih =>
      rw [expandLoop] at h
      split at h
      · rename_i hmore
        rcases runs_andThen.mp h with
          ⟨error, hfailed, rfl⟩ | ⟨more, before, after, rfl, hdone, hnext⟩
        · exact ⟨(getMobileUploadUrls_runs hfailed).1, fun _ hvalue => nomatch hvalue⟩
        obtain ⟨hquiet, hparts⟩ := getMobileUploadUrls_runs hdone
        have hless : expected.length - min (nextIndex +
            MOBILE_FILE_CREATE_INITIAL_PART_INFOS_LIMIT) expected.length < left := by
          unfold MOBILE_FILE_CREATE_INITIAL_PART_INFOS_LIMIT
          omega
        obtain ⟨hquiet', hplan⟩ := ih _ hless hnext rfl
        refine ⟨hquiet.append hquiet', ?_⟩
        intro plan' hvalue
        rw [partsAfter_append, hparts more rfl]
        exact hplan plan' hvalue
      · obtain ⟨rfl, rfl⟩ := h
        refine ⟨quiet_nil, ?_⟩
        intro plan' hvalue
        cases hvalue
        exact ⟨rfl, rfl⟩

theorem planUpload_runs {primitives : UploadPrimitives} {request : PutObjectRequest}
    {parent : String × String} {upload : MobileUploadDescriptor}
    {result : Except BlobError MobileUploadPlan}
    (h : Runs (planUpload primitives request parent upload) trace result) : Plans trace result := by
  rcases runs_andThen.mp h with
    ⟨error, hfailed, rfl⟩ | ⟨plan, before, after, rfl, hdone, hnext⟩
  · exact createMobileUpload_runs hfailed
  obtain ⟨hquiet, hcreated⟩ := createMobileUpload_runs hdone
  obtain ⟨hparts, hrapid⟩ := hcreated plan rfl
  unfold expandMobileUploadPlan at hnext
  split at hnext
  · obtain ⟨rfl, rfl⟩ := hnext
    rw [List.append_nil]
    refine ⟨hquiet, ?_⟩
    intro plan' hvalue
    cases hvalue
    exact ⟨hparts, hrapid⟩
  · obtain ⟨hquiet', hplan⟩ := expandLoop_runs hnext
    refine ⟨hquiet.append hquiet', ?_⟩
    intro plan' hvalue
    obtain ⟨hmore, hsame⟩ := hplan plan' hvalue
    refine ⟨?_, ?_⟩
    · intro parts
      rw [partsAfter_append, hparts]
      exact hmore
    · intro hexists
      rw [hsame] at hexists
      rw [rapidOf_append, hrapid hexists, Bool.true_or]

end Planning

/-! ## Section 3: Sending the parts -/

/-- The bytes that a source still has, from an offset on. -/
def Yields {σ : Type} (read : PartSource σ) (left : σ → Nat → Bytes) : Prop :=
  ∀ source partNumber partOffset partSize,
    (partSize ≤ (left source partOffset).length ∧
      ∃ source', read source partNumber partOffset partSize =
        .ok ((left source partOffset).take partSize, source') ∧
        left source' (partOffset + partSize) = (left source partOffset).drop partSize) ∨
      ∃ error, read source partNumber partOffset partSize = .error error

theorem yields_readSpool (spoolFile : Bytes) :
    Yields (readSpool spoolFile) fun _ partOffset => spoolFile.drop partOffset := by
  intro source partNumber partOffset partSize
  unfold readSpool
  by_cases hzero : partSize = 0
  · left
    rw [if_pos hzero, hzero]
    exact ⟨Nat.zero_le _, (), rfl, rfl⟩
  rw [if_neg hzero]
  by_cases hfits : partOffset + partSize ≤ spoolFile.length
  · left
    rw [if_pos hfits, List.length_drop, List.drop_drop]
    exact ⟨by omega, (), rfl, rfl⟩
  · right
    rw [if_neg hfits]
    exact ⟨_, rfl⟩

theorem yields_readBody : Yields readBody fun reader _ => reader.content := by
  intro reader partNumber partOffset partSize
  rcases reader.readPart_spec partSize s!"China Mobile request body for part {partNumber}" with
    ⟨hle, reader', hok, hcontent, -⟩ | ⟨-, error, herror⟩
  · exact Or.inl ⟨hle, reader', hok, hcontent⟩
  · exact Or.inr ⟨error, herror⟩

section Sending

variable {trace : List (Event MobileReply)} {upload : MobileUploadDescriptor}

/-- Events that only put parts, each with its own length. -/
def OnlyPuts (trace : List (Event MobileReply)) : Prop :=
  completes trace = false ∧ (∀ put ∈ putsOf trace, put.contentLength = put.bytes.length) ∧
    ∀ parts, partsAfter parts trace = parts

theorem onlyPuts_nil : OnlyPuts [] := ⟨rfl, by simp [putsOf], fun _ => rfl⟩

theorem OnlyPuts.append {first rest : List (Event MobileReply)} (hfirst : OnlyPuts first)
    (hrest : OnlyPuts rest) : OnlyPuts (first ++ rest) := by
  obtain ⟨hnone, hlengths, hkeep⟩ := hfirst
  obtain ⟨hnone', hlengths', hkeep'⟩ := hrest
  refine ⟨?_, ?_, ?_⟩
  · rw [completes_append, hnone, hnone', Bool.or_false]
  · intro put hput
    rw [putsOf_append] at hput
    exact (List.mem_append.mp hput).elim (hlengths put) (hlengths' put)
  · intro parts
    rw [partsAfter_append, hkeep, hkeep']

theorem onlyPuts_put {url : String} {partNumber partSize : Nat} {bytes : Bytes}
    {reply : Except BlobError Unit} (h : bytes.length = partSize) :
    OnlyPuts [⟨.putPart url partNumber partSize bytes, reply⟩] := by
  refine ⟨rfl, ?_, fun _ => rfl⟩
  intro put hput
  obtain rfl := List.mem_singleton.mp hput
  exact h.symm

/-- **The loop over the parts** cuts what its source has under the plan of the parts. -/
theorem sendParts_runs {σ : Type} {read : PartSource σ} {left : σ → Nat → Bytes}
    (hread : Yields read left) (parts : List MobileUploadPartInfo) {index partOffset : Nat}
    {source : σ} (hbound : partOffset + (left source partOffset).length ≤ u64Max)
    {result : Except BlobError (Nat × σ)}
    (h : Runs (sendParts upload read index partOffset source parts) trace result) :
    OnlyPuts trace ∧ ∀ sent, result = .ok sent →
      piecesOf trace = cutAt (partPlan upload index partOffset parts) (left source partOffset) ∧
        ((partPlan upload index partOffset parts).map Prod.snd).sum ≤
          (left source partOffset).length ∧
        sent.1 = partOffset + ((partPlan upload index partOffset parts).map Prod.snd).sum ∧
        left sent.2 sent.1 = (left source partOffset).drop
          ((partPlan upload index partOffset parts).map Prod.snd).sum := by
  induction parts generalizing index partOffset source trace result with
  | nil =>
      obtain ⟨rfl, rfl⟩ := h
      refine ⟨onlyPuts_nil, ?_⟩
      intro sent hvalue
      cases hvalue
      exact ⟨rfl, Nat.zero_le _, rfl, rfl⟩
  | cons part parts ih =>
      rcases runs_andThen_pure.mp h with ⟨error, -, rfl, rfl⟩ | ⟨url, -, hafter⟩
      · exact ⟨onlyPuts_nil, fun _ hvalue => nomatch hvalue⟩
      rcases runs_andThen_pure.mp hafter with ⟨error, -, rfl, rfl⟩ | ⟨taken, htaken, hput⟩
      · exact ⟨onlyPuts_nil, fun _ hvalue => nomatch hvalue⟩
      rcases hread source (partNumberOf index part) partOffset (partSizeOf upload partOffset part)
        with ⟨hle, source', hok, hleft⟩ | ⟨error, herror⟩
      · rw [hok] at htaken
        obtain rfl := Except.ok.inj htaken
        have hlength : ((left source partOffset).take (partSizeOf upload partOffset part)).length =
            partSizeOf upload partOffset part := List.length_take_of_le hle
        have hadd : saturatingAddU64 partOffset (partSizeOf upload partOffset part) =
            partOffset + partSizeOf upload partOffset part :=
          Nat.min_eq_left ((Nat.add_le_add_left hle partOffset).trans hbound)
        rcases runs_andThen.mp hput with
          ⟨error, hfailed, rfl⟩ | ⟨reply, before, after, rfl, hdone, hnext⟩
        · rw [runs_ask.mp hfailed]
          exact ⟨onlyPuts_put hlength, fun _ hvalue => nomatch hvalue⟩
        obtain rfl := runs_ask.mp hdone
        rw [hadd] at hnext
        have hbound' : partOffset + partSizeOf upload partOffset part +
            (left source' (partOffset + partSizeOf upload partOffset part)).length ≤ u64Max := by
          rw [hleft, List.length_drop, Nat.add_assoc, Nat.add_sub_cancel' hle]
          exact hbound
        obtain ⟨honly, hsent⟩ := ih hbound' hnext
        refine ⟨(onlyPuts_put hlength).append honly, ?_⟩
        intro sent hvalue
        obtain ⟨hpieces, hsum, hoffset, hrest⟩ := hsent sent hvalue
        rw [hleft, List.length_drop] at hsum
        rw [hleft] at hpieces hrest
        -- the plan goes on where the loop does
        have hplan : partPlan upload index partOffset (part :: parts) =
            (partNumberOf index part, partSizeOf upload partOffset part) ::
              partPlan upload (index + 1) (partOffset + partSizeOf upload partOffset part)
                parts := by
          rw [partPlan, hadd]
        rw [hplan, List.map_cons, List.sum_cons]
        refine ⟨?_, by omega, by omega, ?_⟩
        · rw [piecesOf_append, hpieces]
          rfl
        · rw [hrest, List.drop_drop]
      · rw [herror] at htaken
        cases htaken

/-- The parts of the plan are put, and when this succeeds they are the whole content. -/
def Sends (upload : MobileUploadDescriptor) (plan : MobileUploadPlan) (content : Bytes)
    (trace : List (Event MobileReply)) (result : Except BlobError Unit) : Prop :=
  OnlyPuts trace ∧ (result = .ok () →
    piecesOf trace = cutAt (partPlan upload 0 0 plan.partInfos) content ∧
      ((partPlan upload 0 0 plan.partInfos).map Prod.snd).sum = content.length)

variable {plan : MobileUploadPlan} {result : Except BlobError Unit}

theorem sends_error {content : Bytes} {error : BlobError} (h : OnlyPuts trace) :
    Sends upload plan content trace (.error error) :=
  ⟨h, fun hvalue => nomatch hvalue⟩

theorem uploadMobileParts_runs {spoolFile : Bytes} (hrapid : plan.rapidUpload = false)
    (hsize : upload.size = spoolFile.length)
    (h : Runs (uploadMobileParts upload spoolFile plan) trace result) :
    Sends upload plan spoolFile trace result := by
  have hbound : 0 + (spoolFile.drop 0).length ≤ u64Max := by
    rw [Nat.zero_add, List.drop_zero, ← hsize]
    exact upload.size_le
  rw [uploadMobileParts, if_neg (by rw [hrapid]; exact Bool.false_ne_true)] at h
  split at h
  · obtain ⟨rfl, rfl⟩ := h
    exact sends_error onlyPuts_nil
  rcases runs_andThen.mp h with
    ⟨error, hfailed, rfl⟩ | ⟨sent, before, after, rfl, hdone, hnext⟩
  · exact sends_error (sendParts_runs (yields_readSpool spoolFile) _ hbound hfailed).1
  obtain ⟨honly, hsent⟩ := sendParts_runs (yields_readSpool spoolFile) _ hbound hdone
  obtain ⟨hpieces, hsum, hoffset, -⟩ := hsent sent rfl
  rw [List.drop_zero] at hpieces hsum
  split at hnext
  · obtain ⟨rfl, rfl⟩ := hnext
    rw [List.append_nil]
    exact sends_error honly
  · -- the parts end at the end of the file
    rename_i hcovered
    obtain ⟨rfl, rfl⟩ := hnext
    rw [List.append_nil]
    exact ⟨honly, fun _ => ⟨hpieces, by omega⟩⟩

theorem uploadMobilePartsStreaming_runs {body : ObjectBodyStream}
    (hrapid : plan.rapidUpload = false) (hbody : (bytesOf body).length ≤ u64Max)
    (h : Runs (uploadMobilePartsStreaming upload body plan) trace result) :
    Sends upload plan (bytesOf body) trace result := by
  have hbound : 0 + (BufferedObjectBodyReader.new body).content.length ≤ u64Max := by
    rw [Nat.zero_add, BufferedObjectBodyReader.content_new]
    exact hbody
  rw [uploadMobilePartsStreaming, if_neg (by rw [hrapid]; exact Bool.false_ne_true)] at h
  split at h
  · obtain ⟨rfl, rfl⟩ := h
    exact sends_error onlyPuts_nil
  rcases runs_andThen.mp h with
    ⟨error, hfailed, rfl⟩ | ⟨sent, before, after, rfl, hdone, hnext⟩
  · exact sends_error (sendParts_runs yields_readBody _ hbound hfailed).1
  obtain ⟨honly, hsent⟩ := sendParts_runs yields_readBody _ hbound hdone
  obtain ⟨hpieces, hsum, -, hrest⟩ := hsent sent rfl
  rw [BufferedObjectBodyReader.content_new] at hpieces hsum hrest
  split at hnext
  · obtain ⟨rfl, rfl⟩ := hnext
    rw [List.append_nil]
    exact sends_error honly
  · obtain ⟨rfl, rfl⟩ := hnext
    rw [List.append_nil]
    refine ⟨honly, ?_⟩
    intro hexhausted
    rcases sent.2.ensureExhausted_spec "China Mobile request body" with
      ⟨hempty, -, -⟩ | ⟨-, error, herror⟩
    · -- the parts end where the body does
      rw [hrest, List.drop_eq_nil_iff] at hempty
      exact ⟨hpieces, Nat.le_antisymm hsum hempty⟩
    · rw [herror] at hexhausted
      cases hexhausted

end Sending

/-! ## Section 4: The whole call -/

section Call

variable {primitives : UploadPrimitives} {config : MobileUploadConfig}
  {request : PutObjectRequest} {trace : List (Event MobileReply)}
  {result : Except BlobError (Option String)}

/-- The descriptor of the upload, on the path that the request takes. -/
def uploadOf (primitives : UploadPrimitives) (config : MobileUploadConfig)
    (request : PutObjectRequest) : MobileUploadDescriptor :=
  (streamingUpload config request).getD (preparedUpload primitives config request)

/-- A file that is completed, or reported as put though it was not there, has been put whole. -/
def PutsContent (upload : MobileUploadDescriptor) (content : Bytes)
    (trace : List (Event MobileReply)) (result : Except BlobError (Option String)) : Prop :=
  (∀ put ∈ putsOf trace, put.contentLength = put.bytes.length) ∧
    (completes trace = true ∨ ((∃ etag, result = .ok etag) ∧ rapidOf trace = false) →
      piecesOf trace = cutAt (partPlan upload 0 0 (partsOf trace)) content ∧
        ((partPlan upload 0 0 (partsOf trace)).map Prod.snd).sum = content.length)

theorem finishUpload_runs {plan : MobileUploadPlan} {upload : MobileUploadDescriptor}
    (h : Runs (finishUpload plan upload) trace result) :
    putsOf trace = [] ∧ ∀ parts, partsAfter parts trace = parts := by
  have hcomplete : ∀ before outcome, Runs (completeMobileUpload plan upload) before outcome →
      putsOf before = [] ∧ ∀ parts, partsAfter parts before = parts := by
    intro before outcome hbefore
    unfold completeMobileUpload at hbefore
    split at hbefore
    · obtain ⟨rfl, rfl⟩ := hbefore
      exact ⟨rfl, fun _ => rfl⟩
    · rcases runs_andThen.mp hbefore with
        ⟨error, hfailed, rfl⟩ | ⟨response, first, last, rfl, hdone, hnext⟩
      · rw [runs_ask.mp hfailed]
        exact ⟨rfl, fun _ => rfl⟩
      · obtain ⟨rfl, rfl⟩ := hnext
        rw [runs_ask.mp hdone]
        exact ⟨rfl, fun _ => rfl⟩
  rcases runs_andThen.mp h with
    ⟨error, hfailed, rfl⟩ | ⟨data, before, after, rfl, hdone, hnext⟩
  · exact hcomplete _ _ hfailed
  · obtain ⟨rfl, rfl⟩ := hnext
    rw [List.append_nil]
    exact hcomplete _ _ hdone

/-- A run that puts nothing and asks for no completion fails, or the upload is rapid. -/
theorem putsContent_quiet {upload : MobileUploadDescriptor} {content : Bytes} (h : Quiet trace)
    (hresult : (∃ error, result = .error error) ∨ rapidOf trace = true) :
    PutsContent upload content trace result := by
  refine ⟨by simp [h.1], ?_⟩
  rintro (hcompletes | ⟨⟨etag, rfl⟩, hnot⟩)
  · rw [h.2] at hcompletes
    cases hcompletes
  · rcases hresult with ⟨error, hvalue⟩ | hrapid
    · cases hvalue
    · rw [hrapid] at hnot
      cases hnot

/-- After the plan: nothing more with a rapid upload, else the parts and the completion. -/
theorem putsContent_of_plan {upload : MobileUploadDescriptor} {content : Bytes}
    {parent : String × String} {next : MobileUploadPlan → Remote (Option String)}
    (send : MobileUploadPlan → Remote Unit)
    (hrapid : ∀ plan after outcome, plan.rapidUpload = true → Runs (next plan) after outcome →
      after = [])
    (hnext : ∀ plan, plan.rapidUpload = false →
      next plan = andThen (send plan) fun _ => finishUpload plan upload)
    (hsend : ∀ plan before outcome, plan.rapidUpload = false → Runs (send plan) before outcome →
      Sends upload plan content before outcome)
    (h : Runs (andThen (planUpload primitives request parent upload) next) trace result) :
    PutsContent upload content trace result := by
  rcases runs_andThen.mp h with
    ⟨error, hfailed, rfl⟩ | ⟨plan, before, after, rfl, hdone, hafter⟩
  · exact putsContent_quiet (planUpload_runs hfailed).1 (Or.inl ⟨error, rfl⟩)
  obtain ⟨hquiet, hplans⟩ := planUpload_runs hdone
  obtain ⟨hparts, hexists⟩ := hplans plan rfl
  cases hplan : plan.rapidUpload with
  | true =>
      obtain rfl := hrapid plan after result hplan hafter
      rw [List.append_nil]
      exact putsContent_quiet hquiet (Or.inr (hexists hplan))
  | false =>
      rw [hnext plan hplan] at hafter
      have hknown : ∀ rest, (∀ parts, partsAfter parts rest = parts) →
          partsOf (before ++ rest) = plan.partInfos := by
        intro rest hkeep
        rw [partsOf, partsAfter_append, hkeep, hparts]
      rcases runs_andThen.mp hafter with
        ⟨error, hfailed, rfl⟩ | ⟨_, sending, finishing, rfl, hsent, hfinish⟩
      · -- a part fails, and there is no completion
        obtain ⟨⟨hnone, hlengths, -⟩, -⟩ := hsend plan _ _ hplan hfailed
        refine ⟨?_, ?_⟩
        · rw [putsOf_append, hquiet.1, List.nil_append]
          exact hlengths
        · rintro (hcompletes | ⟨⟨_, hvalue⟩, -⟩)
          · rw [completes_append, hquiet.2, hnone] at hcompletes
            cases hcompletes
          · cases hvalue
      · obtain ⟨⟨-, hlengths, hkeep⟩, hwhole⟩ := hsend plan _ _ hplan hsent
        obtain ⟨hpieces, hsum⟩ := hwhole rfl
        obtain ⟨hnothing, hkeep'⟩ := finishUpload_runs hfinish
        have hputs : putsOf (before ++ (sending ++ finishing)) = putsOf sending := by
          rw [putsOf_append, putsOf_append, hquiet.1, hnothing, List.nil_append, List.append_nil]
        have hall : partsOf (before ++ (sending ++ finishing)) = plan.partInfos := by
          apply hknown
          intro parts
          rw [partsAfter_append, hkeep, hkeep']
        refine ⟨?_, fun _ => ?_⟩
        · rw [hputs]
          exact hlengths
        · rw [piecesOf, hputs, hall]
          exact ⟨hpieces, hsum⟩

theorem prepareUploadBody_ok {upload : MobileUploadDescriptor} {spoolFile : Bytes}
    (h : prepareUploadBody primitives config request = .ok (upload, spoolFile)) :
    upload = preparedUpload primitives config request ∧ spoolFile = bytesOf request.body := by
  unfold prepareUploadBody at h
  split at h
  · cases h
  split at h
  · split_ifs at h
    cases h
    exact ⟨rfl, rfl⟩
  · cases h
    exact ⟨rfl, rfl⟩

theorem putSpooled_runs {parent : String × String}
    (h : Runs (putSpooled primitives config request parent) trace result) :
    PutsContent (preparedUpload primitives config request) (bytesOf request.body) trace
      result := by
  rcases runs_andThen_pure.mp h with ⟨error, -, rfl, rfl⟩ | ⟨prepared, hprepared, hnext⟩
  · exact putsContent_quiet quiet_nil (Or.inl ⟨error, rfl⟩)
  obtain ⟨hupload, hfile⟩ := prepareUploadBody_ok hprepared
  rw [hupload, hfile] at hnext
  refine putsContent_of_plan (uploadMobileParts (preparedUpload primitives config request)
    (bytesOf request.body)) ?_ ?_ ?_ hnext
  · intro plan after outcome hplan hafter
    rw [if_pos hplan] at hafter
    exact hafter.1
  · intro plan hplan
    rw [if_neg (by rw [hplan]; exact Bool.false_ne_true)]
  · intro plan before outcome hplan hbefore
    exact uploadMobileParts_runs hplan rfl hbefore

theorem putStreaming_runs {parent : String × String} {upload : MobileUploadDescriptor}
    (h : Runs (putStreaming primitives request parent upload) trace result) :
    PutsContent upload (bytesOf request.body) trace result := by
  refine putsContent_of_plan (uploadMobilePartsStreaming upload request.body) ?_ ?_ ?_ h
  · intro plan after outcome hplan hafter
    rw [if_pos hplan] at hafter
    rcases runs_andThen_pure.mp hafter with ⟨error, -, rfl, -⟩ | ⟨_, -, rfl, -⟩
    · rfl
    · rfl
  · intro plan hplan
    rw [if_neg (by rw [hplan]; exact Bool.false_ne_true)]
  · intro plan before outcome hplan hbefore
    exact uploadMobilePartsStreaming_runs hplan request.body_le hbefore

/-- **What a call puts** is the body, cut under the plan of the answered parts. -/
theorem putObject_puts (h : Runs (putObject primitives config request) trace result) :
    PutsContent (uploadOf primitives config request) (bytesOf request.body) trace result := by
  rcases runs_andThen.mp h with
    ⟨error, hfailed, rfl⟩ | ⟨parent, before, after, rfl, hdone, hnext⟩
  · rw [runs_ask.mp hfailed]
    exact putsContent_quiet ⟨rfl, rfl⟩ (Or.inl ⟨error, rfl⟩)
  rw [runs_ask.mp hdone]
  -- the walk to the parent folder shows nothing of the parts
  show PutsContent _ _ after result
  unfold uploadOf
  cases hstreaming : streamingUpload config request with
  | none =>
      rw [hstreaming] at hnext
      exact putSpooled_runs hnext
  | some upload =>
      rw [hstreaming] at hnext
      exact putStreaming_runs hnext

/-- The numbers and sizes of the parts that the answers of a run list. -/
def answeredPlan (primitives : UploadPrimitives) (config : MobileUploadConfig)
    (request : PutObjectRequest) (trace : List (Event MobileReply)) : List (Nat × Nat) :=
  partPlan (uploadOf primitives config request) 0 0 (partsOf trace)

/-- No part number comes twice, and those of the parts that are not empty go up. -/
def InPartOrder (plan : List (Nat × Nat)) : Prop :=
  (plan.map Prod.fst).Nodup ∧ AssembledInOrder plan

instance (plan : List (Nat × Nat)) : Decidable (InPartOrder plan) :=
  inferInstanceAs (Decidable (_ ∧ _))

/-- The upload delivers the body: the lengths that are announced are right, and a file that is
completed, or reported as put without a rapid upload, has the parts of the body. -/
structure DeliversBody (body : Bytes) (trace : List (Event MobileReply))
    (result : Except BlobError (Option String)) : Prop where
  lengths : ∀ put ∈ putsOf trace, put.contentLength = put.bytes.length
  reported : (∃ etag, result = .ok etag) → rapidOf trace = false → Delivers body (piecesOf trace)
  completed : completes trace = true → Delivers body (piecesOf trace)

/-- **A Mobile upload delivers the body** when the parts that the service lists are in the order of
their numbers. A run under any other list puts the same cut of its body, and this cut does not
deliver every body of the length. -/
theorem upload_delivers (h : Runs (putObject primitives config request) trace result) :
    (InPartOrder (answeredPlan primitives config request trace) →
      DeliversBody (bytesOf request.body) trace result) ∧
    (completes trace = true →
      piecesOf trace = cutAt (answeredPlan primitives config request trace)
        (bytesOf request.body) ∧
      ((∀ body : Bytes, body.length = (bytesOf request.body).length →
        Delivers body (cutAt (answeredPlan primitives config request trace) body)) ↔
          InPartOrder (answeredPlan primitives config request trace))) := by
  obtain ⟨hlengths, hputs⟩ := putObject_puts h
  refine ⟨?_, ?_⟩
  · rintro ⟨hnodup, horder⟩
    have hdelivers : piecesOf trace = cutAt (answeredPlan primitives config request trace)
        (bytesOf request.body) ∧ ((answeredPlan primitives config request trace).map
          Prod.snd).sum = (bytesOf request.body).length →
        Delivers (bytesOf request.body) (piecesOf trace) := by
      rintro ⟨hpieces, hsum⟩
      rw [hpieces]
      exact delivers_cutAt hnodup horder hsum
    exact ⟨hlengths, fun hok hrapid => hdelivers (hputs (Or.inr ⟨hok, hrapid⟩)),
      fun hcompletes => hdelivers (hputs (Or.inl hcompletes))⟩
  · intro hcompletes
    obtain ⟨hpieces, hsum⟩ := hputs (Or.inl hcompletes)
    refine ⟨hpieces, ?_, ?_⟩
    · intro hall
      have hzero : (0 : UInt8) ≠ 1 := by decide
      refine ⟨?_, ?_⟩
      · -- the numbers are those of the cut of any body
        have hdelivers := (hall _ rfl).1
        rwa [map_fst_cutAt] at hdelivers
      · apply assembledInOrder_of_assembled hzero
        intro body hlength
        exact (hall body (hlength.trans hsum)).2
    · rintro ⟨hnodup, horder⟩ body hlength
      exact delivers_cutAt hnodup horder (hsum.trans hlength.symm)

/-! ### Two parts in either order -/

def sampleConfig : MobileUploadConfig where
  uploadPartSizeBytes := 1
  uploadMaxPartCount := 0
  partSize_le := by decide
  maxPartCount_le := by decide

def samplePrimitives : UploadPrimitives where
  sha256 := fun _ => []
  guessContentType := fun _ => none

/-- The body `ab`, with its size and hash. -/
def sampleRequest : PutObjectRequest where
  container := "root"
  key := "a"
  body := streamOf [asBytes "ab"]
  size := some 2
  contentType := none
  preferredUploadPartSizeBytes := none
  knownContentSha256Hex :=
    some "fb8e20fc2e4c3f248c60c39bd652f3c1347298bb977b8b4d5903b85055620603"
  body_le := by decide +kernel
  size_le := by decide

def samplePart (number : Nat) : MobileUploadPartInfo where
  partNumber := some number
  partSize := some 1
  uploadUrl := some "https://upload/part"

/-- Every request succeeds, and `file/create` lists parts of one byte with these numbers. -/
def sampleReply (numbers : List Nat) : (call : MobileCall) → MobileReply call
  | .ensureManagedParentFolderId .. => .ok ("/", "a")
  | .fileCreate .. =>
    .ok ⟨true, none, none, some ⟨some "file", some "upload", none, none, numbers.map samplePart⟩⟩
  | .deleteChildFilesByName .. => .ok 0
  | .getUploadUrl .. => .ok ⟨true, none, none, none⟩
  | .putPart .. => .ok ()
  | .fileComplete .. => .ok ⟨true, none, none, some ⟨none⟩⟩

def sampleRun (numbers : List Nat) : List (Event MobileReply) × Except BlobError (Option String) :=
  answered (sampleReply numbers) (putObject samplePrimitives sampleConfig sampleRequest)

theorem upload_delivers_two_parts :
    DeliversBody (asBytes "ab") (sampleRun [1, 2]).1 (sampleRun [1, 2]).2 :=
  (upload_delivers (runs_answered (sampleReply [1, 2])
    (putObject samplePrimitives sampleConfig sampleRequest))).1 (by decide +kernel)

/-- With the second part listed first, the bytes change places and the file is completed. -/
theorem swapped_parts_completed :
    Runs (putObject samplePrimitives sampleConfig sampleRequest) (sampleRun [2, 1]).1
        (sampleRun [2, 1]).2 ∧
      piecesOf (sampleRun [2, 1]).1 = [(2, asBytes "a"), (1, asBytes "b")] ∧
      ¬ DeliversBody (asBytes "ab") (sampleRun [2, 1]).1 (sampleRun [2, 1]).2 := by
  refine ⟨runs_answered (sampleReply [2, 1]) _, by decide +kernel, ?_⟩
  intro hdelivers
  have hcompletes : completes (sampleRun [2, 1]).1 = true := by decide +kernel
  have hwrong : ¬ Delivers (asBytes "ab") (piecesOf (sampleRun [2, 1]).1) := by decide +kernel
  exact hwrong (hdelivers.completed hcompletes)

end Call

end Netdisk2Blob.Providers.Mobile.Upload
