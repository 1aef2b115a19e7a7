import Netdisk2Blob.Providers.TelecomUpload

/-!
# What a Telecom Upload Sends

The runs of `put_object`, seen as the steps that matter for the content of the file: the hashes
announced for the parts, the parts sent, the hashes of the whole file, and what the service says
about the file being there already.

## Contents

- `slices`: the parts of a file, and that both paths hash and send them (`PartHasher.finish_eq`,
  `partBytes_of_slice`)
- `UploadStep`, `Performs`: the steps of a run that goes as planned or fails on the way
- `Follows`: the order of the steps of an upload, and `follows_uploadObject`
- `DeliversParts`, `upload_delivers_iff`: what an upload is for, and the runs that keep it
-/

namespace Netdisk2Blob.Providers.Telecom

open Library Text Library.Program Blob

/-! ## Section 1: The parts of a file -/

/-- The parts of a file; a file without a byte has one. -/
def slices (partSizeBytes : Nat) (file : Bytes) : List Bytes :=
  if file = [] then [[]] else chunksOf partSizeBytes file

section Slices

variable {p : Nat}

theorem slices_ne_nil (hp : 0 < p) (file : Bytes) : slices p file ≠ [] := by
  unfold slices
  split
  · simp
  · rename_i h
    rw [chunksOf_of_ne_nil hp h]
    simp

theorem slices_of_pos (file : Bytes) (h : 0 < file.length) : slices p file = chunksOf p file :=
  if_neg (List.length_pos_iff.mp h)

/-- Whole pieces and a shorter one after them. -/
theorem chunksOf_flatten_append (hp : 0 < p) {pieces : List Bytes}
    (hpieces : ∀ piece ∈ pieces, piece.length = p) (rest : Bytes) :
    chunksOf p (pieces.flatten ++ rest) = pieces ++ chunksOf p rest := by
  induction pieces with
  | nil => rfl
  | cons piece pieces ih =>
      have hpiece : piece.length = p := hpieces piece List.mem_cons_self
      have hrest := ih (fun other h => hpieces other (List.mem_cons_of_mem _ h))
      have hne : piece ++ (pieces.flatten ++ rest) ≠ [] := by
        rw [← List.length_pos_iff, List.length_append]
        omega
      rw [List.flatten_cons, List.append_assoc, chunksOf_of_ne_nil hp hne, ← hpiece,
        List.take_left, List.drop_left, hpiece, hrest, List.cons_append]

theorem getElem?_chunksOf (hp : 0 < p) {file piece : Bytes} {j : Nat}
    (h : (chunksOf p file)[j]? = some piece) : (file.drop (j * p)).take p = piece := by
  induction j generalizing file with
  | zero =>
      by_cases hfile : file = []
      · simp [hfile] at h
      · rw [chunksOf_of_ne_nil hp hfile] at h
        simpa using h
  | succ j ih =>
      by_cases hfile : file = []
      · simp [hfile] at h
      · rw [chunksOf_of_ne_nil hp hfile, List.getElem?_cons_succ] at h
        have hpiece := ih h
        rwa [List.drop_drop, Nat.add_comm, ← Nat.succ_mul] at hpiece

theorem getElem?_slices (hp : 0 < p) {file piece : Bytes} {j : Nat}
    (h : (slices p file)[j]? = some piece) :
    (file.drop (j * p)).take (min (file.length - j * p) p) = piece := by
  have htake : (file.drop (j * p)).take (min (file.length - j * p) p) =
      (file.drop (j * p)).take p := by
    rw [List.take_eq_take_iff, List.length_drop]
    omega
  unfold slices at h
  split at h
  · rename_i hfile
    rw [htake, hfile]
    have hpiece := List.mem_of_getElem? h
    rw [List.mem_singleton.mp hpiece]
    simp
  · rw [htake]
    exact getElem?_chunksOf hp h

end Slices

/-! ## Section 2: Hashing while spooling -/

namespace PartHasher

variable {p : Nat} {md5 : Bytes → Bytes} {hasher : PartHasher p} {file : Bytes}

/-- The hasher was given the file: whole parts that are hashed, and the part it is in. -/
def Hashes (md5 : Bytes → Bytes) (hasher : PartHasher p) (file : Bytes) : Prop :=
  ∃ pieces : List Bytes, (∀ piece ∈ pieces, piece.length = p) ∧
    file = pieces.flatten ++ hasher.current ∧ hasher.digests = pieces.map md5

theorem hashes_new (hpart : 0 < p) : (new hpart).Hashes md5 [] :=
  ⟨[], by simp, rfl, rfl⟩

/-- A fragment is hashed however it lies across the parts. -/
theorem Hashes.update (h : hasher.Hashes md5 file) (fragment : Bytes) :
    (hasher.update md5 fragment).Hashes md5 (file ++ fragment) := by
  fun_induction PartHasher.update md5 hasher fragment generalizing file with
  | case1 hasher =>
      rw [List.append_nil]
      exact h
  | case2 hasher remaining hremaining room hwhole =>
      rename_i ih
      obtain ⟨pieces, hpieces, hfile, hdigests⟩ := h
      -- the part is whole with what the fragment adds to it
      have hlength : (hasher.current ++ remaining.take room).length = p := by
        rw [List.length_append, List.length_take]
        omega
      have hpieces' : ∀ piece ∈ pieces ++ [hasher.current ++ remaining.take room],
          piece.length = p := by
        intro piece hpiece
        rcases List.mem_append.mp hpiece with hpiece | hpiece
        · exact hpieces piece hpiece
        · rw [List.mem_singleton.mp hpiece, hlength]
      have hnext := @ih (file ++ remaining.take room)
        ⟨_, hpieces', by simp [hfile], by simp [hdigests]⟩
      rwa [List.append_assoc, List.take_append_drop] at hnext
  | case3 hasher remaining hremaining room hwhole =>
      rename_i ih
      obtain ⟨pieces, hpieces, hfile, hdigests⟩ := h
      have hnext := @ih (file ++ remaining.take room)
        ⟨pieces, hpieces, by simp [hfile], hdigests⟩
      rwa [List.append_assoc, List.take_append_drop] at hnext

/-- The digests at the end are those of the parts of the file. -/
theorem Hashes.finish_eq (h : hasher.Hashes md5 file) :
    hasher.finish md5 = (slices p file).map md5 := by
  obtain ⟨pieces, hpieces, rfl, hdigests⟩ := h
  have hp : 0 < p := Nat.lt_of_le_of_lt (Nat.zero_le _) hasher.current_lt
  unfold finish slices
  rw [chunksOf_flatten_append hp hpieces]
  by_cases hcurrent : hasher.current = []
  · cases pieces with
    | nil => simp [hcurrent, hdigests]
    | cons piece pieces =>
        have hpiece : piece ≠ [] := by
          rw [← List.length_pos_iff, hpieces piece List.mem_cons_self]
          exact hp
        simp [hcurrent, hdigests, hpiece]
  · -- the last part is shorter than the others
    have hpos : 0 < hasher.current.length := List.length_pos_iff.mpr hcurrent
    have hlast : chunksOf p hasher.current = [hasher.current] := by
      have hlt := hasher.current_lt
      rw [chunksOf_of_ne_nil hp hcurrent, List.take_of_length_le (Nat.le_of_lt hlt),
        List.drop_of_length_le (Nat.le_of_lt hlt), chunksOf_nil]
    rw [if_pos (Or.inl hpos), hlast, if_neg (by simp [hcurrent]), hdigests]
    simp

end PartHasher

theorem spoolLoop_spec {p : Nat} {md5 : Bytes → Bytes} (stream : ObjectBodyStream)
    {spooled : Bytes} {hasher : PartHasher p} (h : hasher.Hashes md5 spooled) :
    (failureOf stream = none ∧ ∃ hasher' : PartHasher p,
      spoolLoop md5 stream spooled hasher = .ok (spooled ++ bytesOf stream, hasher') ∧
        hasher'.Hashes md5 (spooled ++ bytesOf stream)) ∨
      (failureOf stream ≠ none ∧ ∃ error, spoolLoop md5 stream spooled hasher = .error error) := by
  induction stream generalizing spooled hasher with
  | nil =>
      left
      refine ⟨rfl, hasher, ?_, ?_⟩
      · rw [spoolLoop, bytesOf, List.append_nil]
      · rwa [bytesOf, List.append_nil]
  | cons item stream ih =>
      cases item with
      | error error => exact Or.inr ⟨by simp [failureOf], error, rfl⟩
      | ok chunk =>
          have hrest := ih (h.update chunk)
          rwa [List.append_assoc] at hrest

/-- What the descriptor of a file is, on either path. -/
def descriptorOf (md5 : Bytes → Bytes) (partSizeBytes : Nat) (file : Bytes) :
    TelecomUploadDescriptor :=
  describe md5 file.length file ((slices partSizeBytes file).map md5) partSizeBytes

/-- The body of the request has the declared size, if there is one, and no error. -/
def PutObjectRequest.Complete (request : PutObjectRequest) : Prop :=
  failureOf request.body = none ∧
    ∀ size ∈ request.size, size = (bytesOf request.body).length

theorem prepareUploadBody_spec (primitives : UploadPrimitives) (config : TelecomUploadConfig)
    (request : PutObjectRequest) :
    (request.Complete ∧ prepareUploadBody primitives config request.body request.size
        request.preferredUploadPartSizeBytes =
      .ok ⟨descriptorOf primitives.md5 (partSizeOf config request) (bytesOf request.body),
        bytesOf request.body⟩) ∨
      ∃ error, prepareUploadBody primitives config request.body request.size
        request.preferredUploadPartSizeBytes = .error error := by
  have hnew : (PartHasher.new (partSizeOf_pos config request)).Hashes primitives.md5 [] :=
    PartHasher.hashes_new _
  have hspool := spoolLoop_spec request.body hnew
  unfold prepareUploadBody
  rcases hspool with ⟨hfailure, hasher, hok, hhashes⟩ | ⟨-, error, herror⟩
  · rw [List.nil_append] at hok hhashes
    have hdigests := hhashes.finish_eq
    unfold partSizeOf at hok hdigests
    simp only [hok, hdigests]
    cases hsize : request.size with
    | none =>
        left
        refine ⟨⟨hfailure, by simp [hsize]⟩, ?_⟩
        simp [descriptorOf, partSizeOf, hsize]
    | some expected =>
        by_cases hexpected : expected = (bytesOf request.body).length
        · left
          refine ⟨⟨hfailure, by simp [hsize, hexpected]⟩, ?_⟩
          simp [descriptorOf, partSizeOf, hsize, hexpected]
        · right
          simp [hexpected]
  · right
    unfold partSizeOf at herror
    simp only [herror]
    exact ⟨error, rfl⟩

/-! ## Section 3: Steps -/

/-- What a run does for the content of the file. -/
inductive UploadStep where
  | announced (partMd5Base64 : String) (partNumber : Nat)
  | put (bytes : Bytes) (partNumber : Nat)
  | answered (fileDataExists : Bool)
  | checked (fileMd5 sliceMd5 : String)
  | committed (fileMd5 sliceMd5 : String)
  deriving DecidableEq

/-- The steps of one request. At the start an answer that does not say whether the file is there
says that it is not. -/
def stepsOf : Event UploadReply → List UploadStep
  | ⟨.initMultiUpload .., .ok value⟩ => [.answered (value.fileDataExists.getD false)]
  | ⟨.getMultiUploadUrls _ _ _ partNumber md5, _⟩ => [.announced md5 partNumber]
  | ⟨.putPart _ _ partNumber bytes, _⟩ => [.put bytes partNumber]
  | ⟨.checkTransSecond _ _ _ file slice, .ok value⟩ =>
    .checked file slice :: value.fileDataExists.toList.map .answered
  | ⟨.checkTransSecond _ _ _ file slice, .error _⟩ => [.checked file slice]
  | ⟨.commitMultiUploadFile _ _ _ _ file slice, _⟩ => [.committed file slice]
  | _ => []

def steps (trace : List (Event UploadReply)) : List UploadStep := trace.flatMap stepsOf

@[simp] theorem steps_nil : steps [] = [] := rfl

@[simp] theorem steps_append (first rest : List (Event UploadReply)) :
    steps (first ++ rest) = steps first ++ steps rest :=
  List.flatMap_append

@[simp] theorem steps_singleton (event : Event UploadReply) : steps [event] = stepsOf event := by
  simp [steps]

/-- The run makes these steps, or it fails after some of them. -/
def Performs {α : Type} (expected : List UploadStep) (trace : List (Event UploadReply))
    (result : Except BlobError α) : Prop :=
  steps trace <+: expected ∧ ∀ value, result = .ok value → steps trace = expected

section Performs

variable {α β : Type} {first second : List UploadStep} {trace : List (Event UploadReply)}

theorem performs_of_eq {result : Except BlobError α} (h : steps trace = first) :
    Performs first trace result :=
  ⟨h ▸ List.prefix_refl _, fun _ _ => h⟩

theorem performs_error {error : BlobError} (h : steps trace <+: first) :
    Performs first trace (.error error : Except BlobError α) :=
  ⟨h, fun _ hvalue => nomatch hvalue⟩

/-- **Sequencing rule.** What follows a step continues its steps. -/
theorem performs_andThen {step : Upload α} {next : α → Upload β} {result : Except BlobError β}
    (h : Runs (step.andThen next) trace result)
    (hstep : ∀ trace result, Runs step trace result → Performs first trace result)
    (hnext : ∀ value trace result, Runs (next value) trace result → Performs second trace result) :
    Performs (first ++ second) trace result := by
  rcases runs_andThen.mp h with ⟨error, hfailed, rfl⟩ | ⟨value, before, after, rfl, hdone, hrest⟩
  · exact performs_error ((hstep _ _ hfailed).1.trans (List.prefix_append _ _))
  · -- the first step is complete, as it has a value
    have hbefore := (hstep _ _ hdone).2 value rfl
    obtain ⟨hstart, hall⟩ := hnext value _ _ hrest
    rw [Performs, steps_append, hbefore]
    refine ⟨(List.prefix_append_right_inj _).mpr hstart, ?_⟩
    intro outcome houtcome
    rw [hall outcome houtcome]

theorem performs_pure {outcome result : Except BlobError α}
    (h : Runs (.pure outcome : Upload α) trace result) : Performs [] trace result := by
  obtain ⟨rfl, -⟩ := h
  exact performs_of_eq rfl

/-- A computation after a step makes no step of its own. -/
theorem performs_andThen_pure {step : Upload α} {outcome : α → Except BlobError β}
    {result : Except BlobError β}
    (h : Runs (step.andThen fun value => .pure (outcome value)) trace result)
    (hstep : ∀ trace result, Runs step trace result → Performs first trace result) :
    Performs first trace result := by
  rw [← List.append_nil first]
  exact performs_andThen h hstep (fun _ _ _ => performs_pure)

/-- A computation before a step makes no step of its own. -/
theorem performs_pure_andThen {outcome : Except BlobError α} {next : α → Upload β}
    {result : Except BlobError β} (h : Runs (andThen (.pure outcome) next) trace result)
    (hnext : ∀ value trace result, Runs (next value) trace result → Performs first trace result) :
    Performs first trace result := by
  exact performs_andThen h (fun _ _ => performs_pure) hnext

end Performs

/-! ## Section 4: Sending the parts -/

theorem runs_ask {call : UploadCall} {reply : UploadReply call}
    {trace : List (Event UploadReply)} :
    Runs (ask call) trace reply ↔ trace = [⟨call, reply⟩] := runs_issue

/-- The steps that send numbered parts: the hash of a part is announced, then the part is put. -/
def partSteps (md5 : Bytes → Bytes) (parts : List (Bytes × Nat)) : List UploadStep :=
  parts.flatMap fun part =>
    [.announced (encodeBase64 (md5 part.1)) part.2, .put part.1 part.2]

@[simp] theorem partSteps_nil (md5 : Bytes → Bytes) : partSteps md5 [] = [] := rfl

@[simp] theorem partSteps_cons (md5 : Bytes → Bytes) (part : Bytes × Nat)
    (parts : List (Bytes × Nat)) :
    partSteps md5 (part :: parts) = .announced (encodeBase64 (md5 part.1)) part.2 ::
      .put part.1 part.2 :: partSteps md5 parts := rfl

section Parts

variable {primitives : UploadPrimitives} {config : TelecomUploadConfig} {scope : Scope}
  {plan : TelecomUploadPlan} {trace : List (Event UploadReply)}

theorem getMultiUploadUrl_performs {partNumber : Nat} {md5 : String}
    {result : Except BlobError (String × String)}
    (h : Runs (getMultiUploadUrl config scope plan partNumber md5) trace result) :
    Performs [.announced md5 partNumber] trace result := by
  refine performs_pure_andThen h ?_
  intro family trace result h
  apply performs_andThen_pure h
  intro trace reply h
  rw [runs_ask.mp h]
  exact performs_of_eq (steps_singleton _)

theorem uploadPartBytes_performs {url header : String} {partNumber : Nat} {bytes : Bytes}
    {result : Except BlobError Unit}
    (h : Runs (uploadPartBytes primitives url header partNumber bytes) trace result) :
    Performs [.put bytes partNumber] trace result := by
  refine performs_pure_andThen h ?_
  intro headers trace reply h
  rw [runs_ask.mp h]
  exact performs_of_eq (steps_singleton _)

/-- The loop over the parts of a spooled body. -/
theorem uploadMultiParts_performs {upload : PreparedTelecomUpload} (pieces : List Bytes)
    (index : Nat) (hpieces : ∀ j piece, pieces[j]? = some piece →
      upload.partBytes (index + j + 1) = piece)
    {result : Except BlobError Unit}
    (h : Runs (uploadMultiParts primitives config scope plan upload index
      (pieces.map fun piece => encodeBase64 (primitives.md5 piece))) trace result) :
    Performs (partSteps primitives.md5 (pieces.zipIdx (index + 1))) trace result := by
  induction pieces generalizing index trace result with
  | nil => exact performs_pure h
  | cons piece pieces ih =>
      have hfirst : upload.partBytes (index + 1) = piece := hpieces 0 piece rfl
      have hrest : ∀ j other, pieces[j]? = some other →
          upload.partBytes (index + 1 + j + 1) = other := by
        intro j other hother
        rw [Nat.add_right_comm index 1 j]
        exact hpieces (j + 1) other hother
      rw [List.map_cons, uploadMultiParts] at h
      rw [List.zipIdx_cons, partSteps_cons]
      apply performs_andThen h (fun _ _ => getMultiUploadUrl_performs)
      intro address trace result h
      rw [uploadPart, hfirst] at h
      apply performs_andThen h (fun _ _ => uploadPartBytes_performs)
      intro _ trace result h
      exact ih (index + 1) hrest h

/-- What is left to read, up to `n` bytes, begins with a part and goes on with what is left then. -/
theorem chunksOf_take {p n : Nat} (hp : 0 < p) {content : Bytes} (hn : 0 < n)
    (hread : min n p ≤ content.length) :
    chunksOf p (content.take n) = content.take (min n p) ::
      chunksOf p ((content.drop (min n p)).take (n - min n p)) := by
  have hne : content.take n ≠ [] := by
    rw [← List.length_pos_iff, List.length_take]
    omega
  rw [chunksOf_of_ne_nil hp hne, List.take_take, Nat.min_comm p n]
  rcases Nat.le_total n p with h | h
  · -- this is the last part
    have hnil : (content.take n).drop p = [] := by
      rw [List.drop_eq_nil_iff, List.length_take]
      omega
    rw [hnil, Nat.min_eq_left h, Nat.sub_self, List.take_zero]
  · rw [Nat.min_eq_right h, List.drop_take]

/-- A part is announced and put, unless the file is there already. -/
theorem sendPart_performs {partNumber : Nat} {bytes : Bytes} {result : Except BlobError Unit}
    (h : Runs (if plan.fileDataExists then .pure (.ok ())
      else andThen (getMultiUploadUrl config scope plan partNumber
        (encodeBase64 (primitives.md5 bytes))) fun address =>
          uploadPartBytes primitives address.1 address.2 partNumber bytes) trace result) :
    Performs (if plan.fileDataExists then [] else
      partSteps primitives.md5 [(bytes, partNumber)]) trace result := by
  split_ifs at h ⊢ with hexists
  · exact performs_pure h
  · rw [partSteps_cons, partSteps_nil]
    apply performs_andThen h (fun _ _ => getMultiUploadUrl_performs)
    intro address trace result h
    exact uploadPartBytes_performs h

/-- The loop over a body that is read part by part. What it has left to read becomes less with
every part. -/
theorem streamParts_performs {size p : Nat} {hp : 0 < p} (left : Nat)
    {reader : BufferedObjectBodyReader} {fileHasher : Bytes} {digests : List Bytes}
    {offset : Nat} (hleft : size - offset = left)
    {result : Except BlobError (BufferedObjectBodyReader × Bytes × List Bytes)}
    (h : Runs (streamParts primitives config scope plan size p hp reader fileHasher digests
      offset) trace result) :
    Performs (if plan.fileDataExists then [] else partSteps primitives.md5
        ((chunksOf p (reader.content.take left)).zipIdx (digests.length + 1))) trace result ∧
      ∀ read, result = .ok read → left ≤ reader.content.length ∧
        read.1.content = reader.content.drop left ∧ read.1.failure = reader.failure ∧
        read.2 = (fileHasher ++ reader.content.take left,
          digests ++ (chunksOf p (reader.content.take left)).map primitives.md5) := by
  induction left using Nat.strong_induction_on generalizing reader fileHasher digests offset
    trace result with
  | _ left ih =>
      rw [streamParts] at h
      by_cases hoffset : offset < size
      · rw [if_pos hoffset, runs_andThen_pure] at h
        have hread := reader.readPart_spec (min (size - offset) p)
          s!"China Telecom request body for part {digests.length + 1}"
        rcases hread with ⟨hle, reader', hok, hcontent, hfailure⟩ | ⟨-, error, herror⟩
        · rw [hok] at h
          rw [hleft] at hle hcontent h
          have hpos : 0 < left := by omega
          have hcut := chunksOf_take hp hpos hle
          rcases h with ⟨_, hvalue, -⟩ | ⟨read, hvalue, h⟩
          · exact nomatch hvalue
          obtain rfl := Except.ok.inj hvalue
          have hrest := fun after outcome (hafter : Runs (streamParts primitives config scope plan
              size p hp reader' (fileHasher ++ reader.content.take (min left p))
              (digests ++ [primitives.md5 (reader.content.take (min left p))])
              (offset + min left p)) after outcome) =>
            ih (left - min left p) (by omega) (by omega) hafter
          rw [hcontent, hfailure, List.length_append, List.length_singleton] at hrest
          refine ⟨?_, ?_⟩
          · have hsent := performs_andThen h (fun _ _ => sendPart_performs)
              (fun _ after outcome hafter => (hrest after outcome hafter).1)
            rw [hcut, List.zipIdx_cons]
            split_ifs at hsent ⊢ with hexists
            · exact hsent
            · exact hsent
          · intro read hvalue
            subst hvalue
            rcases runs_andThen.mp h with ⟨_, -, hfailed⟩ | ⟨_, _, after, -, -, hafter⟩
            · exact nomatch hfailed
            obtain ⟨hlength, hleftover, hfails, hhashed⟩ := (hrest after _ hafter).2 read rfl
            have hsum : min left p + (left - min left p) = left := by omega
            have htake : reader.content.take left = reader.content.take (min left p) ++
                (reader.content.drop (min left p)).take (left - min left p) := by
              rw [← List.take_add, hsum]
            rw [List.length_drop] at hlength
            rw [List.drop_drop, hsum] at hleftover
            refine ⟨by omega, hleftover, hfails, ?_⟩
            rw [hhashed, hcut, htake, List.map_cons, List.append_assoc, List.append_assoc,
              List.singleton_append]
        · -- the body ends too early
          rw [herror] at h
          rcases h with ⟨_, -, rfl, rfl⟩ | ⟨_, hvalue, -⟩
          · exact ⟨performs_error List.nil_prefix, fun _ hvalue => nomatch hvalue⟩
          · exact nomatch hvalue
      · have hzero : left = 0 := by omega
        rw [if_neg hoffset] at h
        subst hzero
        obtain ⟨rfl, rfl⟩ := h
        refine ⟨performs_of_eq ?_, ?_⟩
        · simp [partSteps]
        · intro read hvalue
          obtain rfl := Except.ok.inj hvalue
          simp

theorem chunksOf_prefix_slices (p : Nat) (file : Bytes) : chunksOf p file <+: slices p file := by
  unfold slices
  split
  · rename_i h
    rw [h, chunksOf_nil]
    exact List.nil_prefix
  · exact List.prefix_refl _

/-- The steps for the parts of a file come from its slices on both paths. -/
theorem partSteps_chunksOf_prefix (md5 : Bytes → Bytes) (p : Nat) (file : Bytes) :
    partSteps md5 ((chunksOf p file).zipIdx 1) <+: partSteps md5 ((slices p file).zipIdx 1) := by
  obtain ⟨rest, hrest⟩ := chunksOf_prefix_slices p file
  rw [← hrest, List.zipIdx_append, partSteps, partSteps, List.flatMap_append]
  exact List.prefix_append _ _

/-- **The streaming upload** sends the parts of as many bytes as were declared, and gives the
hashes of the body when it has exactly these. -/
theorem uploadMultiPartsStreaming_performs {body : ObjectBodyStream} {size p : Nat} {hp : 0 < p}
    (hsize : 0 < size) {result : Except BlobError TelecomUploadDescriptor}
    (h : Runs (uploadMultiPartsStreaming primitives config scope plan body size p hp) trace
      result) :
    Performs (if plan.fileDataExists then [] else partSteps primitives.md5
        ((slices p ((bytesOf body).take size)).zipIdx 1)) trace result ∧
      ∀ upload, result = .ok upload → failureOf body = none ∧ size = (bytesOf body).length ∧
        upload = descriptorOf primitives.md5 p (bytesOf body) := by
  have hstart := fun (before : List (Event UploadReply)) outcome
      (hbefore : Runs (streamParts primitives config scope plan size p hp
        (BufferedObjectBodyReader.new body) [] [] 0) before outcome) =>
    streamParts_performs size rfl hbefore
  simp only [BufferedObjectBodyReader.content_new, BufferedObjectBodyReader.failure_new,
    List.length_nil, Nat.zero_add, List.nil_append] at hstart
  have hslices := partSteps_chunksOf_prefix primitives.md5 p ((bytesOf body).take size)
  -- the parts that were sent are the first of the parts of the file
  have hsent : ∀ before outcome, Runs (streamParts primitives config scope plan size p hp
      (BufferedObjectBodyReader.new body) [] [] 0) before outcome →
      steps before <+: if plan.fileDataExists then [] else partSteps primitives.md5
        ((slices p ((bytesOf body).take size)).zipIdx 1) := by
    intro before outcome hbefore
    have hchunks := (hstart before outcome hbefore).1.1
    split_ifs at hchunks ⊢ with hexists
    · exact hchunks
    · exact hchunks.trans hslices
  rcases runs_andThen.mp h with ⟨error, hfailed, rfl⟩ | ⟨read, before, after, rfl, hdone, hafter⟩
  · exact ⟨performs_error (hsent _ _ hfailed), fun _ hvalue => nomatch hvalue⟩
  obtain ⟨hperforms, hread⟩ := hstart before _ hdone
  obtain ⟨hlength, hleftover, hfails, hhashed⟩ := hread read rfl
  rw [runs_andThen_pure] at hafter
  rcases read.1.ensureExhausted_spec "China Telecom request body" with
    ⟨hempty, hnone, hok⟩ | ⟨-, error, herror⟩
  · rw [hok] at hafter
    rcases hafter with ⟨_, hvalue, -⟩ | ⟨_, -, rfl, rfl⟩
    · exact nomatch hvalue
    rw [hleftover, List.drop_eq_nil_iff] at hempty
    have hsize' : size = (bytesOf body).length := Nat.le_antisymm hlength hempty
    have htake : (bytesOf body).take size = bytesOf body := List.take_of_length_le hempty
    have hfile : slices p (bytesOf body) = chunksOf p (bytesOf body) :=
      slices_of_pos _ (by omega)
    rw [htake] at hperforms hhashed ⊢
    refine ⟨?_, ?_⟩
    · rw [hfile]
      apply performs_of_eq
      rw [steps_append, steps_nil, List.append_nil]
      exact hperforms.2 read rfl
    · intro upload hupload
      obtain rfl := Except.ok.inj hupload
      refine ⟨hfails ▸ hnone, hsize', ?_⟩
      rw [hhashed, descriptorOf, hfile, hsize']
  · rw [herror] at hafter
    rcases hafter with ⟨_, -, rfl, rfl⟩ | ⟨_, hvalue, -⟩
    · refine ⟨performs_error ?_, fun _ hvalue => nomatch hvalue⟩
      rw [List.append_nil]
      exact hsent _ _ hdone
    · exact nomatch hvalue

end Parts

/-! ## Section 5: The order of the steps -/

/-- The steps of an upload with these parts and hashes. What comes after the parts needs a body
that is `complete`; a run that stops before the commit has an error. -/
inductive Follows (parts : List UploadStep) (file slice : String) (complete : Prop) :
    List UploadStep → Except BlobError String → Prop
  | unanswered (error : BlobError) : Follows parts file slice complete [] (.error error)
  | sending (fileDataExists : Bool) (sent : List UploadStep) (error : BlobError)
      (hsent : sent <+: if fileDataExists then [] else parts) :
      Follows parts file slice complete (.answered fileDataExists :: sent) (.error error)
  | checking (fileDataExists : Bool) (error : BlobError) (hcomplete : complete) :
      Follows parts file slice complete
        (.answered fileDataExists :: (if fileDataExists then [] else parts) ++
          [.checked file slice]) (.error error)
  | committing (fileDataExists : Bool) (later : Option Bool) (result : Except BlobError String)
      (hcomplete : complete) :
      Follows parts file slice complete
        (.answered fileDataExists :: (if fileDataExists then [] else parts) ++
          .checked file slice :: (later.toList.map .answered ++ [.committed file slice])) result
  /-- The file is there already, and nothing is sent or checked. -/
  | instant (result : Except BlobError String) (hcomplete : complete) :
      Follows parts file slice complete [.answered true, .committed file slice] result

section Order

variable {primitives : UploadPrimitives} {config : TelecomUploadConfig} {scope : Scope}
  {plan : TelecomUploadPlan} {trace : List (Event UploadReply)}

theorem familyIdField_of_containerScope {container : String}
    (h : containerScope config.toTelecomConfig container = .ok scope) :
    ∃ family, familyIdField config.toTelecomConfig scope = .ok family := by
  cases scope with
  | personal => exact ⟨none, rfl⟩
  | family =>
      unfold containerScope at h
      split_ifs at h with _ _ hfamily
      · cases h
      · obtain ⟨value, hvalue⟩ := Option.isSome_iff_exists.mp hfamily
        refine ⟨some value, ?_⟩
        rw [familyIdField, familyId, hvalue]
        rfl

/-- The start of an upload: it fails, or its answer is known. -/
theorem initMultiUpload_runs {parentFolderId fileName : String} {size p count : Nat}
    {md5s : Option (String × String)} {result : Except BlobError TelecomUploadPlan}
    (h : Runs (initMultiUpload primitives config scope parentFolderId fileName size p count md5s)
      trace result) :
    (∃ error, result = .error error ∧ (steps trace = [] ∨
      ∃ fileDataExists, steps trace = [.answered fileDataExists])) ∨
    (∃ plan, result = .ok plan ∧ steps trace = [.answered plan.fileDataExists]) := by
  rcases runs_andThen_pure.mp h with ⟨error, -, rfl, rfl⟩ | ⟨family, -, h⟩
  · exact Or.inl ⟨error, rfl, Or.inl rfl⟩
  rcases runs_andThen.mp h with ⟨error, hfailed, rfl⟩ | ⟨value, before, after, rfl, hdone, hafter⟩
  · rw [runs_ask.mp hfailed]
    exact Or.inl ⟨error, rfl, Or.inl rfl⟩
  · obtain ⟨rfl, rfl⟩ := hafter
    rw [runs_ask.mp hdone]
    -- the answer is known though the file may have got no id
    unfold planOf
    cases value.uploadFileId with
    | none => exact Or.inl ⟨_, rfl, Or.inr ⟨value.fileDataExists.getD false, rfl⟩⟩
    | some uploadFileId => exact Or.inr ⟨_, rfl, rfl⟩

theorem commitMultiUploadFile_runs {upload : TelecomUploadDescriptor}
    (hfamily : ∃ family, familyIdField config.toTelecomConfig scope = .ok family)
    {result : Except BlobError String}
    (h : Runs (commitMultiUploadFile config scope plan upload) trace result) :
    steps trace = [.committed upload.fileMd5Upper upload.sliceMd5Upper] := by
  obtain ⟨family, hfamily⟩ := hfamily
  rw [commitMultiUploadFile, hfamily] at h
  rcases runs_andThen_pure.mp h with ⟨_, hvalue, -⟩ | ⟨_, -, h⟩
  · exact nomatch hvalue
  rcases runs_andThen.mp h with ⟨error, hfailed, rfl⟩ | ⟨value, before, after, rfl, hdone, hafter⟩
  · rw [runs_ask.mp hfailed]
    rfl
  · obtain ⟨rfl, rfl⟩ := hafter
    rw [runs_ask.mp hdone]
    rfl

/-- The commit follows every answered check, whatever the answer is. -/
theorem closeUpload_runs {upload : TelecomUploadDescriptor}
    (hfamily : ∃ family, familyIdField config.toTelecomConfig scope = .ok family)
    {result : Except BlobError String}
    (h : Runs (closeUpload config scope plan upload) trace result) :
    (∃ error, result = .error error ∧
      steps trace = [.checked upload.fileMd5Upper upload.sliceMd5Upper]) ∨
    (∃ later : Option Bool, steps trace = .checked upload.fileMd5Upper upload.sliceMd5Upper ::
      (later.toList.map .answered ++
        [.committed upload.fileMd5Upper upload.sliceMd5Upper])) := by
  have hcommit := fun plan (after : List (Event UploadReply)) outcome
      (hafter : Runs (commitMultiUploadFile config scope plan upload) after outcome) =>
    commitMultiUploadFile_runs hfamily hafter
  obtain ⟨family, hfamily⟩ := hfamily
  have hcheck : ∀ before outcome, Runs (checkTransSecond config scope plan upload) before outcome →
      (∃ error, outcome = .error error ∧
        steps before = [.checked upload.fileMd5Upper upload.sliceMd5Upper]) ∨
      (∃ plan' later, outcome = .ok plan' ∧ steps before = .checked upload.fileMd5Upper
        upload.sliceMd5Upper :: (Option.toList later).map .answered) := by
    intro before outcome hbefore
    rw [checkTransSecond, hfamily] at hbefore
    rcases runs_andThen_pure.mp hbefore with ⟨_, hvalue, -⟩ | ⟨_, -, hbefore⟩
    · exact nomatch hvalue
    rcases runs_andThen.mp hbefore with ⟨error, hfailed, rfl⟩ | ⟨value, first, last, rfl, hdone, hlast⟩
    · rw [runs_ask.mp hfailed]
      exact Or.inl ⟨error, rfl, rfl⟩
    · obtain ⟨rfl, rfl⟩ := hlast
      rw [runs_ask.mp hdone]
      exact Or.inr ⟨_, value.fileDataExists, rfl, by simp [stepsOf]⟩
  rcases runs_andThen.mp h with ⟨error, hfailed, rfl⟩ | ⟨plan', before, after, rfl, hdone, hafter⟩
  · left
    rcases hcheck _ _ hfailed with ⟨_, -, hsteps⟩ | ⟨_, _, hvalue, -⟩
    · exact ⟨error, rfl, hsteps⟩
    · exact nomatch hvalue
  · right
    rcases hcheck _ _ hdone with ⟨_, hvalue, -⟩ | ⟨_, later, -, hsteps⟩
    · exact nomatch hvalue
    refine ⟨later, ?_⟩
    rw [steps_append, hsteps, hcommit _ _ _ hafter, List.cons_append]

/-- An upload whose parts are sent ends with the check and the commit. -/
theorem follows_closeUpload {parts : List UploadStep} {complete : Prop}
    {upload : TelecomUploadDescriptor}
    (hfamily : ∃ family, familyIdField config.toTelecomConfig scope = .ok family)
    (hcomplete : complete) (fileDataExists : Bool) {result : Except BlobError String}
    (h : Runs (closeUpload config scope plan upload) trace result) :
    Follows parts upload.fileMd5Upper upload.sliceMd5Upper complete
      (.answered fileDataExists :: (if fileDataExists then [] else parts) ++ steps trace)
      result := by
  rcases closeUpload_runs hfamily h with ⟨error, rfl, hsteps⟩ | ⟨later, hsteps⟩
  · rw [hsteps]
    exact .checking fileDataExists error hcomplete
  · rw [hsteps]
    exact .committing fileDataExists later result hcomplete

/-- An upload is what follows the answer at its start. -/
theorem follows_initMultiUpload {parts : List UploadStep} {file slice : String} {complete : Prop}
    {parentFolderId fileName : String} {size p count : Nat} {md5s : Option (String × String)}
    {next : TelecomUploadPlan → Upload String} {result : Except BlobError String}
    (h : Runs (andThen (initMultiUpload primitives config scope parentFolderId fileName size p count
      md5s) next) trace result)
    (hnext : ∀ plan after result, Runs (next plan) after result →
      Follows parts file slice complete (.answered plan.fileDataExists :: steps after) result) :
    Follows parts file slice complete (steps trace) result := by
  rcases runs_andThen.mp h with ⟨error, hfailed, rfl⟩ | ⟨plan, before, after, rfl, hinit, hafter⟩
  · rcases initMultiUpload_runs hfailed with ⟨_, -, hsteps | ⟨answer, hsteps⟩⟩ | ⟨_, hvalue, -⟩
    · rw [hsteps]
      exact .unanswered error
    · rw [hsteps]
      exact .sending answer [] error List.nil_prefix
    · exact nomatch hvalue
  · rcases initMultiUpload_runs hinit with ⟨_, hvalue, -⟩ | ⟨_, hplan, hsteps⟩
    · exact nomatch hvalue
    · obtain rfl := Except.ok.inj hplan
      rw [steps_append, hsteps, List.singleton_append]
      exact hnext plan after result hafter

variable {request : PutObjectRequest}

/-- The bytes of the body up to the declared size. -/
def PutObjectRequest.declaredPart (request : PutObjectRequest) : Bytes :=
  match request.size with
  | some size => (bytesOf request.body).take size
  | none => bytesOf request.body

theorem PutObjectRequest.Complete.declaredPart_eq (h : request.Complete) :
    request.declaredPart = bytesOf request.body := by
  unfold declaredPart
  cases hsize : request.size with
  | none => rfl
  | some size =>
      have hlength : size = (bytesOf request.body).length := h.2 size (by rw [hsize]; rfl)
      exact List.take_of_length_le (Nat.le_of_eq hlength.symm)

variable (primitives config request)

/-- The steps for all parts of the body. -/
def allParts : List UploadStep :=
  partSteps primitives.md5 ((slices (partSizeOf config request) request.declaredPart).zipIdx 1)

/-- The hashes of the body. -/
def bodyHashes : TelecomUploadDescriptor :=
  descriptorOf primitives.md5 (partSizeOf config request) (bytesOf request.body)

variable {primitives config request}

theorem follows_putStreaming {parent : String × String} {size : Nat}
    (hfamily : ∃ family, familyIdField config.toTelecomConfig scope = .ok family)
    (hsize : request.size = some size) (hlarge : partSizeOf config request < size)
    {result : Except BlobError String}
    (h : Runs (putStreaming primitives config scope parent request.body size
      (partSizeOf config request) (partSizeOf_pos config request)) trace result) :
    Follows (allParts primitives config request) (bodyHashes primitives config request).fileMd5Upper
      (bodyHashes primitives config request).sliceMd5Upper request.Complete (steps trace)
      result := by
  have hdeclared : request.declaredPart = (bytesOf request.body).take size := by
    rw [PutObjectRequest.declaredPart, hsize]
  apply follows_initMultiUpload h
  intro plan after result hafter
  have hstream := fun (sent : List (Event UploadReply)) outcome
      (hsent : Runs (uploadMultiPartsStreaming primitives config scope plan request.body size
        (partSizeOf config request) (partSizeOf_pos config request)) sent outcome) =>
    uploadMultiPartsStreaming_performs (Nat.lt_of_le_of_lt (Nat.zero_le _) hlarge) hsent
  rw [← hdeclared] at hstream
  rcases runs_andThen.mp hafter with ⟨error, hfailed, rfl⟩ | ⟨upload, sent, rest, rfl, hsent, hrest⟩
  · exact .sending plan.fileDataExists _ error (hstream _ _ hfailed).1.1
  · obtain ⟨hperforms, hupload⟩ := hstream _ _ hsent
    obtain ⟨hfailure, hlength, rfl⟩ := hupload upload rfl
    have hcomplete : request.Complete := by
      refine ⟨hfailure, ?_⟩
      intro declared hmem
      rw [hsize] at hmem
      exact (Option.some.inj hmem) ▸ hlength
    rw [steps_append, hperforms.2 _ rfl]
    exact follows_closeUpload hfamily hcomplete plan.fileDataExists hrest

/-- The parts of a spooled body are those that were hashed. -/
theorem spooledParts_performs (hcomplete : request.Complete) {result : Except BlobError Unit}
    (h : Runs (uploadMultiParts primitives config scope plan
      ⟨bodyHashes primitives config request, bytesOf request.body⟩ 0
      (bodyHashes primitives config request).partMd5Base64) trace result) :
    Performs (allParts primitives config request) trace result := by
  rw [allParts, hcomplete.declaredPart_eq]
  have hhashed : (bodyHashes primitives config request).partMd5Base64 =
      (slices (partSizeOf config request) (bytesOf request.body)).map
        fun piece => encodeBase64 (primitives.md5 piece) := by
    simp [bodyHashes, descriptorOf, describe]
  rw [hhashed] at h
  apply uploadMultiParts_performs _ 0 ?_ h
  intro j piece hpiece
  have hslice := getElem?_slices (partSizeOf_pos config request) hpiece
  simpa [PreparedTelecomUpload.partBytes, bodyHashes, descriptorOf, describe] using hslice

theorem follows_putSpooled {parent : String × String}
    (hfamily : ∃ family, familyIdField config.toTelecomConfig scope = .ok family)
    {result : Except BlobError String}
    (h : Runs (putSpooled primitives config scope parent request.body request.size
      request.preferredUploadPartSizeBytes) trace result) :
    Follows (allParts primitives config request) (bodyHashes primitives config request).fileMd5Upper
      (bodyHashes primitives config request).sliceMd5Upper request.Complete (steps trace)
      result := by
  rcases prepareUploadBody_spec primitives config request with ⟨hcomplete, hok⟩ | ⟨error, herror⟩
  · rw [putSpooled, hok] at h
    rcases runs_andThen_pure.mp h with ⟨_, hvalue, -⟩ | ⟨upload, hupload, h⟩
    · exact nomatch hvalue
    obtain rfl := Except.ok.inj hupload
    apply follows_initMultiUpload h
    intro plan after result hafter
    split_ifs at hafter with hexists
    · rw [hexists, commitMultiUploadFile_runs hfamily hafter]
      exact .instant result hcomplete
    · rw [Bool.not_eq_true] at hexists
      rw [hexists]
      rcases runs_andThen.mp hafter with ⟨error, hfailed, rfl⟩ | ⟨_, sent, rest, rfl, hsent, hrest⟩
      · exact .sending false _ error (spooledParts_performs hcomplete hfailed).1
      · rw [steps_append, (spooledParts_performs hcomplete hsent).2 _ rfl]
        exact follows_closeUpload hfamily hcomplete false hrest
  · rw [putSpooled, herror] at h
    rcases runs_andThen_pure.mp h with ⟨error, -, rfl, rfl⟩ | ⟨_, hvalue, -⟩
    · exact .unanswered error
    · exact nomatch hvalue

/-- **Order of an upload.** Every run of `put_object` follows it. -/
theorem follows_uploadObject {result : Except BlobError String}
    (h : Runs (uploadObject primitives config request) trace result) :
    Follows (allParts primitives config request) (bodyHashes primitives config request).fileMd5Upper
      (bodyHashes primitives config request).sliceMd5Upper request.Complete (steps trace)
      result := by
  rcases runs_andThen_pure.mp h with ⟨error, -, rfl, rfl⟩ | ⟨scope, hscope, h⟩
  · exact .unanswered error
  have hfamily := familyIdField_of_containerScope hscope
  rcases runs_andThen.mp h with ⟨error, hfailed, rfl⟩ | ⟨parent, before, after, rfl, hdone, h⟩
  · rw [runs_ask.mp hfailed]
    exact .unanswered error
  rw [runs_ask.mp hdone, steps_append, steps_singleton]
  rcases runs_andThen.mp h with ⟨error, hfailed, rfl⟩ | ⟨_, before, rest, rfl, hdone, h⟩
  · rw [runs_ask.mp hfailed]
    exact .unanswered error
  rw [runs_ask.mp hdone, steps_append, steps_singleton]
  show Follows _ _ _ _ (steps rest) result
  split at h
  · rename_i size hsize
    split_ifs at h with hlarge
    · exact follows_putStreaming hfamily hsize hlarge h
    · exact follows_putSpooled hfamily h
  · exact follows_putSpooled hfamily h

end Order

/-! ## Section 6: What an upload is for -/

def putsOf (steps : List UploadStep) : List (Bytes × Nat) :=
  steps.filterMap fun
    | .put bytes partNumber => some (bytes, partNumber)
    | _ => none

def announcementsOf (steps : List UploadStep) : List (String × Nat) :=
  steps.filterMap fun
    | .announced partMd5Base64 partNumber => some (partMd5Base64, partNumber)
    | _ => none

/-- What the service said about the file being there, in order. -/
def answersOf (steps : List UploadStep) : List Bool :=
  steps.filterMap fun
    | .answered fileDataExists => some fileDataExists
    | _ => none

/-- The slice hash of a file: its hash if it has one part, else the hash of the lines of the
upper-case part hashes. -/
def sliceMd5Of (md5 : Bytes → Bytes) (partSizeBytes : Nat) (file : Bytes) : String :=
  if (slices partSizeBytes file).length = 1 then fileMd5 md5 file
  else hexUpper (md5 (asBytes ("\n".intercalate
    ((slices partSizeBytes file).map fun part => hexUpper (md5 part)))))

/-- The upload announces and delivers the parts of the body. -/
structure DeliversParts (md5 : Bytes → Bytes) (partSizeBytes : Nat) (request : PutObjectRequest)
    (steps : List UploadStep) (result : Except BlobError String) : Prop where
  /-- The parts put are the first slices of the body. -/
  puts : putsOf steps <+: (slices partSizeBytes request.declaredPart).zipIdx 1
  announcements : announcementsOf steps <+: ((slices partSizeBytes request.declaredPart).map
    fun part => encodeBase64 (md5 part)).zipIdx 1
  /-- A part that is put has been announced with its hash. -/
  announced : ∀ bytes partNumber, .put bytes partNumber ∈ steps →
    .announced (encodeBase64 (md5 bytes)) partNumber ∈ steps
  hashes : ∀ file slice, (.checked file slice ∈ steps ∨ .committed file slice ∈ steps) →
    file = fileMd5 md5 (bytesOf request.body) ∧
      slice = sliceMd5Of md5 partSizeBytes (bytesOf request.body)
  /-- A commit is sent with all parts put, or with the file known to be there. -/
  backed : (∃ file slice, .committed file slice ∈ steps) →
    putsOf steps = (slices partSizeBytes (bytesOf request.body)).zipIdx 1 ∨
      (answersOf steps).getLast? = some true
  wrongLength : ¬ request.Complete →
    (∃ error, result = .error error) ∧ ∀ file slice, .committed file slice ∉ steps

section Delivery

variable {md5 : Bytes → Bytes} {parts : List (Bytes × Nat)} {sent tail : List UploadStep}

/-- Steps that are some of the first for these parts. -/
structure SendsParts (md5 : Bytes → Bytes) (parts : List (Bytes × Nat))
    (sent : List UploadStep) : Prop where
  puts : putsOf sent <+: parts
  announcements : announcementsOf sent <+:
    parts.map fun part => (encodeBase64 (md5 part.1), part.2)
  announced : ∀ bytes partNumber, .put bytes partNumber ∈ sent →
    .announced (encodeBase64 (md5 bytes)) partNumber ∈ sent
  only : ∀ step ∈ sent, (∃ hash partNumber, step = .announced hash partNumber) ∨
    ∃ bytes partNumber, step = .put bytes partNumber

theorem sendsParts_nil : SendsParts md5 parts [] :=
  ⟨List.nil_prefix, List.nil_prefix, by simp, by simp⟩

/-- A run that stops between two parts, or between the announcement of a part and the part. -/
theorem sendsParts_of_prefix (h : sent <+: partSteps md5 parts) : SendsParts md5 parts sent := by
  induction parts generalizing sent with
  | nil =>
      obtain rfl := List.prefix_nil.mp h
      exact sendsParts_nil
  | cons part parts ih =>
      rw [partSteps_cons] at h
      rcases List.prefix_cons_iff.mp h with rfl | ⟨rest, rfl, hrest⟩
      · exact sendsParts_nil
      rcases List.prefix_cons_iff.mp hrest with rfl | ⟨more, rfl, hmore⟩
      · -- announced, and not put
        refine ⟨List.nil_prefix, ?_, by simp, by simp⟩
        simp [announcementsOf]
      · obtain ⟨hputs, hannouncements, hannounced, honly⟩ := ih hmore
        refine ⟨?_, ?_, ?_, ?_⟩
        · simpa [putsOf] using hputs
        · simpa [announcementsOf] using hannouncements
        · intro bytes partNumber hput
          simp only [List.mem_cons, reduceCtorEq, false_or, UploadStep.put.injEq] at hput
          rcases hput with ⟨rfl, rfl⟩ | hput
          · exact List.mem_cons_self
          · exact List.mem_cons_of_mem _ (List.mem_cons_of_mem _ (hannounced _ _ hput))
        · intro step hstep
          rcases List.mem_cons.mp hstep with rfl | hstep
          · exact Or.inl ⟨_, _, rfl⟩
          rcases List.mem_cons.mp hstep with rfl | hstep
          · exact Or.inr ⟨_, _, rfl⟩
          · exact honly step hstep

theorem putsOf_partSteps (md5 : Bytes → Bytes) (parts : List (Bytes × Nat)) :
    putsOf (partSteps md5 parts) = parts := by
  induction parts with
  | nil => rfl
  | cons part parts ih =>
      rw [partSteps_cons]
      simpa [putsOf] using ih

theorem SendsParts.answersOf_eq (h : SendsParts md5 parts sent) : answersOf sent = [] := by
  rw [answersOf, List.filterMap_eq_nil_iff]
  intro step hstep
  rcases h.only step hstep with ⟨_, _, rfl⟩ | ⟨_, _, rfl⟩ <;> rfl

/-- The steps around the parts: answers, the check and the commit with these hashes. -/
def Closes (file slice : String) (tail : List UploadStep) : Prop :=
  ∀ step ∈ tail, step = .checked file slice ∨ step = .committed file slice ∨
    ∃ fileDataExists, step = .answered fileDataExists

variable {p : Nat} {request : PutObjectRequest} {result : Except BlobError String}

theorem Closes.putsOf_eq {file slice : String} (h : Closes file slice tail) : putsOf tail = [] := by
  rw [putsOf, List.filterMap_eq_nil_iff]
  intro step hstep
  rcases h step hstep with rfl | rfl | ⟨_, rfl⟩ <;> rfl

theorem Closes.announcementsOf_eq {file slice : String} (h : Closes file slice tail) :
    announcementsOf tail = [] := by
  rw [announcementsOf, List.filterMap_eq_nil_iff]
  intro step hstep
  rcases h step hstep with rfl | rfl | ⟨_, rfl⟩ <;> rfl

/-- The hashes in the descriptor are those of the body. -/
theorem descriptorOf_hashes (hp : 0 < p) (file : Bytes) :
    (descriptorOf md5 p file).fileMd5Upper = fileMd5 md5 file ∧
      (descriptorOf md5 p file).sliceMd5Upper = sliceMd5Of md5 p file := by
  have hpos := List.length_pos_iff.mpr (slices_ne_nil hp file)
  refine ⟨rfl, ?_⟩
  show sliceMd5 md5 (fileMd5 md5 file) (((slices p file).map md5).map hexUpper) = _
  unfold sliceMd5 sliceMd5Of
  rw [List.map_map, List.length_map]
  by_cases h : (slices p file).length = 1
  · rw [if_pos h, if_pos (by omega)]
  · rw [if_neg h, if_neg (by omega)]
    rfl

/-- **Delivery from the order.** Parts that are sent, with answers and hashes of the body around
them, deliver the body if a commit among them is backed. -/
theorem delivers_of_sendsParts (hp : 0 < p) (fileDataExists : Bool)
    (hsent : SendsParts md5 ((slices p request.declaredPart).zipIdx 1) sent)
    (htail : Closes (descriptorOf md5 p (bytesOf request.body)).fileMd5Upper
      (descriptorOf md5 p (bytesOf request.body)).sliceMd5Upper tail)
    (hcomplete : request.Complete ∨
      (∃ error, result = .error error) ∧ ∀ file slice, .committed file slice ∉ tail)
    (hbacked : (∃ file slice, .committed file slice ∈ tail) →
      putsOf sent = (slices p (bytesOf request.body)).zipIdx 1 ∨
        (answersOf (.answered fileDataExists :: (sent ++ tail))).getLast? = some true) :
    DeliversParts md5 p request (.answered fileDataExists :: (sent ++ tail)) result := by
  obtain ⟨hfile, hslice⟩ := descriptorOf_hashes hp (bytesOf request.body)
  rw [hfile, hslice] at htail
  have hputs : putsOf (.answered fileDataExists :: (sent ++ tail)) = putsOf sent := by
    show putsOf (sent ++ tail) = _
    rw [putsOf, List.filterMap_append]
    exact (congrArg (putsOf sent ++ ·) htail.putsOf_eq).trans (List.append_nil _)
  have hannouncements : announcementsOf (.answered fileDataExists :: (sent ++ tail)) =
      announcementsOf sent := by
    show announcementsOf (sent ++ tail) = _
    rw [announcementsOf, List.filterMap_append]
    exact (congrArg (announcementsOf sent ++ ·) htail.announcementsOf_eq).trans
      (List.append_nil _)
  -- a step that is neither an answer nor one for a part is in the tail
  have hmem : ∀ step ∈ UploadStep.answered fileDataExists :: (sent ++ tail),
      (∃ file slice, step = .checked file slice ∨ step = .committed file slice) → step ∈ tail := by
    intro step hstep hclosing
    rcases List.mem_cons.mp hstep with rfl | hstep
    · obtain ⟨_, _, h | h⟩ := hclosing <;> cases h
    rcases List.mem_append.mp hstep with hstep | hstep
    · obtain ⟨_, _, rfl | rfl⟩ := hclosing <;> rcases hsent.only _ hstep with ⟨_, _, h⟩ | ⟨_, _, h⟩ <;>
        cases h
    · exact hstep
  constructor
  case puts => exact hputs ▸ hsent.puts
  case announcements =>
      rw [hannouncements]
      have h := hsent.announcements
      rwa [show ((slices p request.declaredPart).zipIdx 1).map
          (fun part => (encodeBase64 (md5 part.1), part.2)) =
        ((slices p request.declaredPart).map fun part => encodeBase64 (md5 part)).zipIdx 1 by
          rw [List.zipIdx_map]; rfl] at h
  case announced =>
      intro bytes partNumber hput
      rcases List.mem_cons.mp hput with h | hput
      · cases h
      rcases List.mem_append.mp hput with hput | hput
      · exact List.mem_cons_of_mem _ (List.mem_append_left _ (hsent.announced _ _ hput))
      · rcases htail _ hput with h | h | ⟨_, h⟩ <;> cases h
  case hashes =>
      rintro file slice (h | h)
      · rcases htail _ (hmem _ h ⟨_, _, Or.inl rfl⟩) with h | h | ⟨_, h⟩
        · cases h
          exact ⟨rfl, rfl⟩
        · cases h
        · cases h
      · rcases htail _ (hmem _ h ⟨_, _, Or.inr rfl⟩) with h | h | ⟨_, h⟩
        · cases h
        · cases h
          exact ⟨rfl, rfl⟩
        · cases h
  case backed =>
      rintro ⟨file, slice, h⟩
      rw [hputs]
      exact hbacked ⟨file, slice, hmem _ h ⟨_, _, Or.inr rfl⟩⟩
  case wrongLength =>
      intro hwrong
      obtain ⟨herror, hnone⟩ := hcomplete.resolve_left hwrong
      refine ⟨herror, ?_⟩
      intro file slice h
      exact hnone file slice (hmem _ h ⟨_, _, Or.inr rfl⟩)

end Delivery

section Main

variable {primitives : UploadPrimitives} {config : TelecomUploadConfig}
  {request : PutObjectRequest} {trace : List (Event UploadReply)}
  {result : Except BlobError String}

theorem sendsParts_of_answer {fileDataExists : Bool} {sent : List UploadStep}
    (h : sent <+: if fileDataExists then [] else allParts primitives config request) :
    SendsParts primitives.md5
      ((slices (partSizeOf config request) request.declaredPart).zipIdx 1) sent := by
  split_ifs at h with hexists
  · rw [List.prefix_nil.mp h]
    exact sendsParts_nil
  · exact sendsParts_of_prefix h

/-- Parts give no answer. -/
theorem answersOf_around {sent tail : List UploadStep} {fileDataExists : Bool}
    (h : answersOf sent = []) :
    answersOf (.answered fileDataExists :: (sent ++ tail)) = fileDataExists :: answersOf tail := by
  show fileDataExists :: answersOf (sent ++ tail) = _
  rw [answersOf, List.filterMap_append]
  exact congrArg (fun before => fileDataExists :: (before ++ answersOf tail)) h

/-- **A Telecom upload announces and delivers the parts of the body** unless the service says at
the start that the file is there and at the check that it is not: then the commit is sent all the
same, with no part put. -/
theorem upload_delivers_iff (h : Runs (uploadObject primitives config request) trace result) :
    DeliversParts primitives.md5 (partSizeOf config request) request (steps trace) result ↔
      answersOf (steps trace) ≠ [true, false] := by
  have hp := partSizeOf_pos config request
  have horder := follows_uploadObject h
  generalize steps trace = all at horder ⊢
  cases horder with
  | unanswered error =>
      refine iff_of_true ?_ (by simp [answersOf])
      exact ⟨List.nil_prefix, List.nil_prefix, by simp, by simp, by simp,
        fun _ => ⟨⟨error, rfl⟩, by simp⟩⟩
  | sending fileDataExists sent error hsent =>
      have hsends := sendsParts_of_answer hsent
      rw [← List.append_nil sent]
      refine iff_of_true ?_ ?_
      · exact delivers_of_sendsParts hp fileDataExists hsends (by simp [Closes])
          (Or.inr ⟨⟨error, rfl⟩, by simp⟩) (by simp)
      · rw [answersOf_around hsends.answersOf_eq]
        simp [answersOf]
  | checking fileDataExists error hcomplete =>
      have hsends := sendsParts_of_answer
        (List.prefix_refl (if fileDataExists then [] else allParts primitives config request))
      rw [List.cons_append]
      refine iff_of_true ?_ ?_
      · exact delivers_of_sendsParts hp fileDataExists hsends (by simp [Closes, bodyHashes])
          (Or.inl hcomplete) (by simp)
      · rw [answersOf_around hsends.answersOf_eq]
        simp [answersOf]
  | committing fileDataExists later result hcomplete =>
      have hsends := sendsParts_of_answer
        (List.prefix_refl (if fileDataExists then [] else allParts primitives config request))
      rw [List.cons_append]
      have hanswers : answersOf (.checked (bodyHashes primitives config request).fileMd5Upper
          (bodyHashes primitives config request).sliceMd5Upper :: (later.toList.map .answered ++
            [.committed (bodyHashes primitives config request).fileMd5Upper
              (bodyHashes primitives config request).sliceMd5Upper])) = later.toList := by
        cases later <;> simp [answersOf]
      by_cases hlost : fileDataExists = true ∧ later = some false
      · -- nothing was put, and the last answer is that the file is not there
        obtain ⟨rfl, rfl⟩ := hlost
        refine iff_of_false ?_ (by simp [answersOf])
        intro hdelivers
        have hcommitted := hdelivers.backed ⟨(bodyHashes primitives config request).fileMd5Upper,
          (bodyHashes primitives config request).sliceMd5Upper, by simp⟩
        rcases hcommitted with hputs | hlast
        · have hnil : (slices (partSizeOf config request) (bytesOf request.body)).zipIdx 1 = [] :=
            hputs.symm
          rw [List.zipIdx_eq_nil_iff] at hnil
          exact slices_ne_nil hp _ hnil
        · simp [answersOf] at hlast
      · refine iff_of_true ?_ ?_
        · apply delivers_of_sendsParts hp fileDataExists hsends ?_ (Or.inl hcomplete)
          · intro _
            rw [answersOf_around hsends.answersOf_eq, hanswers]
            cases fileDataExists with
            | false =>
                left
                rw [← hcomplete.declaredPart_eq]
                exact putsOf_partSteps _ _
            | true =>
                right
                cases later with
                | none => rfl
                | some answer => cases answer <;> simp_all
          · intro step hstep
            simp only [List.mem_cons, List.mem_append, List.mem_map, List.not_mem_nil,
              or_false] at hstep
            rcases hstep with rfl | ⟨answer, -, rfl⟩ | rfl
            · exact Or.inl rfl
            · exact Or.inr (Or.inr ⟨answer, rfl⟩)
            · exact Or.inr (Or.inl rfl)
        · rw [answersOf_around hsends.answersOf_eq, hanswers]
          cases later with
          | none => simp
          | some answer => cases answer <;> simp_all
  | instant result hcomplete =>
      refine iff_of_true ?_ (by simp [answersOf])
      exact delivers_of_sendsParts hp true sendsParts_nil (by simp [Closes, bodyHashes])
        (Or.inl hcomplete) (fun _ => Or.inr rfl)

/-! ### A file that is there at the start only -/

/-- MD5 on the contents `a`, `b` and `ab` and on the lines of the hashes of `a` and `b`. -/
def sampleMd5 (bytes : Bytes) : Bytes :=
  if bytes = asBytes "a" then
    [0x0c, 0xc1, 0x75, 0xb9, 0xc0, 0xf1, 0xb6, 0xa8, 0x31, 0xc3, 0x99, 0xe2, 0x69, 0x77, 0x26, 0x61]
  else if bytes = asBytes "b" then
    [0x92, 0xeb, 0x5f, 0xfe, 0xe6, 0xae, 0x2f, 0xec, 0x3a, 0xd7, 0x1c, 0x77, 0x75, 0x31, 0x57, 0x8f]
  else if bytes = asBytes "ab" then
    [0x18, 0x7e, 0xf4, 0x43, 0x61, 0x22, 0xd1, 0xcc, 0x2f, 0x40, 0xdc, 0x2b, 0x92, 0xf0, 0xeb, 0xa0]
  else
    [0x8d, 0x84, 0x89, 0xf5, 0x0a, 0xc5, 0x96, 0x80, 0x24, 0x53, 0x51, 0x3e, 0x06, 0x7d, 0x9b, 0x6b]

def samplePrimitives : UploadPrimitives where
  md5 := sampleMd5
  headerName := .ok
  headerValue := .ok
  uploadControlBaseUrl := "https://upload.cloud.189.cn"

def sampleConfig : TelecomUploadConfig where
  rootPrefix := none
  familyId := none
  configuredUploadPartSizeBytes := 1
  configuredUploadMaxPartCount := 0

/-- The body `ab` in two fragments, for an upload in parts of one byte. -/
def sampleRequest : PutObjectRequest where
  container := "root"
  key := "a"
  body := streamOf [asBytes "a", asBytes "b"]
  size := some 2
  preferredUploadPartSizeBytes := none

/-- Every request succeeds; these are the answers about the file at the start and at the check. -/
def sampleReply (initial checked : Bool) : (call : UploadCall) → UploadReply call
  | .ensureManagedParentFolderId .. => .ok ("-11", "a")
  | .fetchUploadBootstrap => .ok ()
  | .initMultiUpload .. => .ok ⟨none, some "upload", some initial⟩
  | .getMultiUploadUrls .. => .ok ⟨some "https://upload.cloud.189.cn/part", some "a=b"⟩
  | .putPart .. => .ok ()
  | .checkTransSecond .. => .ok ⟨none, some checked⟩
  | .commitMultiUploadFile .. => .ok none

def sampleRun (initial checked : Bool) : List (Event UploadReply) × Except BlobError String :=
  answered (sampleReply initial checked) (uploadObject samplePrimitives sampleConfig sampleRequest)

theorem upload_delivers_iff_sent :
    DeliversParts sampleMd5 (partSizeOf sampleConfig sampleRequest) sampleRequest
      (steps (sampleRun false true).1) (sampleRun false true).2 :=
  (upload_delivers_iff (runs_answered (sampleReply false true)
    (uploadObject samplePrimitives sampleConfig sampleRequest))).mpr (by decide +kernel)

/-- The commit is sent although no part was put and the last answer is that there is no file. -/
theorem commit_without_parts :
    Runs (uploadObject samplePrimitives sampleConfig sampleRequest)
        (sampleRun true false).1 (sampleRun true false).2 ∧
      ¬ DeliversParts sampleMd5 (partSizeOf sampleConfig sampleRequest) sampleRequest
        (steps (sampleRun true false).1) (sampleRun true false).2 := by
  refine ⟨runs_answered (sampleReply true false) _, ?_⟩
  intro hdelivers
  have hcommitted : .committed "187EF4436122D1CC2F40DC2B92F0EBA0"
      "8D8489F50AC596802453513E067D9B6B" ∈ steps (sampleRun true false).1 := by decide +kernel
  have hputs : putsOf (steps (sampleRun true false).1) ≠
      (slices (partSizeOf sampleConfig sampleRequest) (bytesOf sampleRequest.body)).zipIdx 1 := by
    decide +kernel
  have hlast : (answersOf (steps (sampleRun true false).1)).getLast? ≠ some true := by
    decide +kernel
  exact (hdelivers.backed ⟨_, _, hcommitted⟩).elim hputs hlast

end Main

end Netdisk2Blob.Providers.Telecom
