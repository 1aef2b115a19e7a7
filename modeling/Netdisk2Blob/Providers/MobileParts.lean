import Netdisk2Blob.Library.Bytes
import Mathlib.Algebra.Order.Floor.Div
import Mathlib.Tactic.Common

/-!
# The Parts of a Mobile Upload

The part size of an upload and the parts that are announced for it. The sizes are `u64`; an
operation of the source that would overflow gives no value here.

## Contents

- `divCeilU64`, `roundUpToMultiple`: the arithmetic of the part sizes
- `streamingPartSizeBytes`, `preparedPartSizeBytes`: the part size on the two paths of
  `put_object`
- `uploadPartInfos`: the announced parts
- `PartPlan`, `part_plan_partitions`: they partition the body, and are not too many
-/

namespace Netdisk2Blob.Providers.Mobile

open Library

/-! ## Section 1: Part sizes -/

def DEFAULT_MOBILE_UPLOAD_MAX_PART_COUNT : Nat := 41

/-- The fields of the configuration that the parts depend on. -/
structure MobileUploadConfig where
  uploadPartSizeBytes : Nat
  uploadMaxPartCount : Nat
  partSize_le : uploadPartSizeBytes ≤ u64Max
  maxPartCount_le : uploadMaxPartCount ≤ u64Max

/-- `u64::div_ceil`: the quotient, and one more if there is a remainder. -/
def divCeilU64 (value divisor : Nat) : Option Nat :=
  if divisor = 0 then none
  else if value % divisor = 0 then some (value / divisor)
  else checkedAddU64 (value / divisor) 1

def roundUpToMultiple (value quantum : Nat) : Option Nat :=
  if quantum ≤ 1 then some (max value 1)
  else (divCeilU64 value quantum).map (fun count => max (saturatingMulU64 count quantum) quantum)

namespace MobileUploadConfig

variable (config : MobileUploadConfig)

def partSizeBytes : Nat := max config.uploadPartSizeBytes 1

def maxPartCount : Nat :=
  if config.uploadMaxPartCount = 0 then DEFAULT_MOBILE_UPLOAD_MAX_PART_COUNT
  else config.uploadMaxPartCount

def effectiveUploadPartSizeBytes (size : Nat) : Option Nat :=
  if size = 0 then some config.partSizeBytes
  else do
    let minPartSizeForCount ← divCeilU64 size config.maxPartCount
    roundUpToMultiple (max config.partSizeBytes minPartSizeForCount) config.partSizeBytes

/-- The part size of `put_object` when the size and the hash of the body are known. -/
def streamingPartSizeBytes (size : Nat) (preferredPartSizeBytes : Option Nat) : Option Nat := do
  let chosen ←
    match preferredPartSizeBytes.filter (fun value => decide (0 < value)) with
    | some preferred => do
      let minPartSizeForCount ← divCeilU64 size config.maxPartCount
      roundUpToMultiple (max preferred minPartSizeForCount) preferred
    | none => config.effectiveUploadPartSizeBytes size
  return max chosen 1

/-- The part size of `prepare_upload_body` for a spooled body of `totalLen` bytes. A preferred size
is not rounded up here. -/
def preparedPartSizeBytes (totalLen : Nat) (preferredPartSizeBytes : Option Nat) : Option Nat := do
  let chosen ←
    match preferredPartSizeBytes.filter (fun value => decide (0 < value)) with
    | some preferred =>
      if totalLen = 0 then some preferred
      else (divCeilU64 totalLen config.maxPartCount).map (max preferred)
    | none => config.effectiveUploadPartSizeBytes totalLen
  return max chosen 1

end MobileUploadConfig

/-! ## Section 2: Parts -/

structure UploadPartInfo where
  partNumber : Nat
  partOffset : Nat
  partSize : Nat
  deriving DecidableEq, Repr

/-- The loop of `upload_part_infos`. The offset grows with every part, as a part is not empty and
the offset does not saturate below the size. -/
def uploadPartLoop (size partSizeBytes : Nat) (hsize : size ≤ u64Max) (hpart : 0 < partSizeBytes)
    (partOffset partNumber : Nat) : List UploadPartInfo :=
  if partOffset < size then
    let currentSize := min (size - partOffset) partSizeBytes
    ⟨partNumber, partOffset, currentSize⟩ ::
      uploadPartLoop size partSizeBytes hsize hpart (saturatingAddU64 partOffset currentSize)
        (saturatingAddU64 partNumber 1)
  else []
termination_by size - partOffset
decreasing_by
  unfold saturatingAddU64
  omega

def uploadPartInfos (size partSizeBytes : Nat) (hsize : size ≤ u64Max) : List UploadPartInfo :=
  if size = 0 then [⟨1, 0, 0⟩]
  else uploadPartLoop size (max partSizeBytes 1) hsize (Nat.lt_of_lt_of_le Nat.one_pos (Nat.le_max_right _ _)) 0 1

/-! ## Section 3: The arithmetic does not overflow -/

section Arithmetic

variable {value divisor quantum : Nat}

/-- A ceiling division by a positive number gives the least count that covers the value. -/
theorem divCeilU64_spec (hvalue : value ≤ u64Max) (hdivisor : 0 < divisor) :
    ∃ count, divCeilU64 value divisor = some count ∧ value ≤ divisor * count ∧ count ≤ value := by
  have hsplit := Nat.div_add_mod value divisor
  have hmod := Nat.mod_lt value hdivisor
  unfold divCeilU64
  rw [if_neg hdivisor.ne']
  by_cases hexact : value % divisor = 0
  · rw [if_pos hexact]
    refine ⟨value / divisor, rfl, ?_, Nat.div_le_self _ _⟩
    omega
  · -- the remainder is positive, so the quotient is below the value
    have hquotient : value / divisor + 1 ≤ value := by
      have hle : value / divisor ≤ divisor * (value / divisor) := Nat.le_mul_of_pos_left _ hdivisor
      omega
    rw [if_neg hexact]
    refine ⟨value / divisor + 1, ?_, ?_, hquotient⟩
    · exact if_pos (hquotient.trans hvalue)
    · rw [Nat.mul_add, Nat.mul_one]
      omega

/-- Rounding up gives a value that is large enough, whether it saturates or not. -/
theorem roundUpToMultiple_spec (hvalue : value ≤ u64Max) (hquantum : quantum ≤ u64Max) :
    ∃ rounded, roundUpToMultiple value quantum = some rounded ∧ value ≤ rounded ∧ 1 ≤ rounded ∧
      rounded ≤ u64Max := by
  have hone : 1 ≤ u64Max := by decide
  unfold roundUpToMultiple
  by_cases hsmall : quantum ≤ 1
  · rw [if_pos hsmall]
    exact ⟨_, rfl, Nat.le_max_left _ _, Nat.le_max_right _ _, Nat.max_le.mpr ⟨hvalue, hone⟩⟩
  · rw [if_neg hsmall]
    obtain ⟨count, hcount, hcovers, -⟩ := divCeilU64_spec hvalue (by omega : 0 < quantum)
    rw [hcount]
    have hproduct : value ≤ saturatingMulU64 count quantum := by
      rw [saturatingMulU64, Nat.mul_comm]
      exact Nat.le_min.mpr ⟨hcovers, hvalue⟩
    refine ⟨_, rfl, hproduct.trans (Nat.le_max_left _ _), ?_, ?_⟩
    · exact (by omega : 1 ≤ quantum).trans (Nat.le_max_right _ _)
    · exact Nat.max_le.mpr ⟨Nat.min_le_right _ _, hquantum⟩

end Arithmetic

namespace MobileUploadConfig

variable {config : MobileUploadConfig} {size : Nat} {preferred : Option Nat}

theorem maxPartCount_pos : 0 < config.maxPartCount := by
  unfold maxPartCount
  split
  · decide
  · omega

theorem one_le_partSizeBytes : 1 ≤ config.partSizeBytes := Nat.le_max_right _ _

theorem partSizeBytes_le : config.partSizeBytes ≤ u64Max :=
  Nat.max_le.mpr ⟨config.partSize_le, by decide⟩

/-- The part size is positive, fits a `u64` and is large enough for the number of parts. -/
def Suits (config : MobileUploadConfig) (size partSize : Nat) : Prop :=
  1 ≤ partSize ∧ partSize ≤ u64Max ∧ size ≤ partSize * config.maxPartCount

/-- A part size of at least the ceiling division suits. -/
theorem suits_of_le {count partSize : Nat} (hcovers : size ≤ config.maxPartCount * count)
    (hle : count ≤ partSize) (hpos : 1 ≤ partSize) (hmax : partSize ≤ u64Max) :
    config.Suits size partSize := by
  refine ⟨hpos, hmax, hcovers.trans ?_⟩
  rw [Nat.mul_comm]
  exact Nat.mul_le_mul_right _ hle

theorem effectiveUploadPartSizeBytes_spec (hsize : size ≤ u64Max) :
    ∃ partSize, config.effectiveUploadPartSizeBytes size = some partSize ∧
      config.Suits size partSize := by
  unfold effectiveUploadPartSizeBytes
  by_cases hempty : size = 0
  · rw [if_pos hempty]
    refine ⟨_, rfl, one_le_partSizeBytes, partSizeBytes_le, ?_⟩
    rw [hempty]
    exact Nat.zero_le _
  · rw [if_neg hempty]
    obtain ⟨count, hcount, hcovers, hle⟩ := divCeilU64_spec hsize config.maxPartCount_pos
    have hmax : max config.partSizeBytes count ≤ u64Max :=
      Nat.max_le.mpr ⟨partSizeBytes_le, hle.trans hsize⟩
    obtain ⟨rounded, hrounded, hlarge, hpos, hbound⟩ :=
      roundUpToMultiple_spec hmax config.partSizeBytes_le
    refine ⟨rounded, ?_, suits_of_le hcovers ((Nat.le_max_right _ _).trans hlarge) hpos hbound⟩
    rw [hcount]
    exact hrounded

/-- **The part size of the streaming path.** -/
theorem streamingPartSizeBytes_spec (hsize : size ≤ u64Max)
    (hpreferred : ∀ value ∈ preferred, value ≤ u64Max) :
    ∃ partSize, config.streamingPartSizeBytes size preferred = some partSize ∧
      config.Suits size partSize := by
  unfold streamingPartSizeBytes
  cases hfilter : preferred.filter (fun value => decide (0 < value)) with
  | none =>
      obtain ⟨partSize, hchosen, hsuits⟩ := config.effectiveUploadPartSizeBytes_spec hsize
      refine ⟨partSize, ?_, hsuits⟩
      simp only [hchosen, Option.bind_eq_bind, Option.bind_some]
      rw [Nat.max_eq_left hsuits.1]
      rfl
  | some value =>
      have hvalue : value ≤ u64Max := hpreferred value (Option.filter_eq_some_iff.mp hfilter).1
      obtain ⟨count, hcount, hcovers, hle⟩ := divCeilU64_spec hsize config.maxPartCount_pos
      have hmax : max value count ≤ u64Max := Nat.max_le.mpr ⟨hvalue, hle.trans hsize⟩
      obtain ⟨rounded, hrounded, hlarge, hpos, hbound⟩ := roundUpToMultiple_spec hmax hvalue
      refine ⟨rounded, ?_, suits_of_le hcovers ((Nat.le_max_right _ _).trans hlarge) hpos hbound⟩
      simp only [hcount, hrounded, Option.bind_eq_bind, Option.bind_some]
      rw [Nat.max_eq_left hpos]
      rfl

/-- **The part size of the spooled path.** -/
theorem preparedPartSizeBytes_spec (hsize : size ≤ u64Max)
    (hpreferred : ∀ value ∈ preferred, value ≤ u64Max) :
    ∃ partSize, config.preparedPartSizeBytes size preferred = some partSize ∧
      config.Suits size partSize := by
  unfold preparedPartSizeBytes
  cases hfilter : preferred.filter (fun value => decide (0 < value)) with
  | none =>
      obtain ⟨partSize, hchosen, hsuits⟩ := config.effectiveUploadPartSizeBytes_spec hsize
      refine ⟨partSize, ?_, hsuits⟩
      simp only [hchosen, Option.bind_eq_bind, Option.bind_some]
      rw [Nat.max_eq_left hsuits.1]
      rfl
  | some value =>
      have hvalue : value ≤ u64Max := hpreferred value (Option.filter_eq_some_iff.mp hfilter).1
      have hpos : 1 ≤ value := of_decide_eq_true (Option.filter_eq_some_iff.mp hfilter).2
      by_cases hempty : size = 0
      · refine ⟨value, ?_, hpos, hvalue, ?_⟩
        · simp only [hempty, if_true, Option.bind_eq_bind, Option.bind_some]
          rw [Nat.max_eq_left hpos]
          rfl
        · rw [hempty]
          exact Nat.zero_le _
      · obtain ⟨count, hcount, hcovers, hle⟩ := divCeilU64_spec hsize config.maxPartCount_pos
        have hmax : max value count ≤ u64Max := Nat.max_le.mpr ⟨hvalue, hle.trans hsize⟩
        have hlarge : 1 ≤ max value count := hpos.trans (Nat.le_max_left _ _)
        refine ⟨max value count, ?_, suits_of_le hcovers (Nat.le_max_right _ _) hlarge hmax⟩
        simp only [hempty, if_false, hcount, Option.map_some, Option.bind_eq_bind,
          Option.bind_some]
        rw [Nat.max_eq_left hlarge]
        rfl

end MobileUploadConfig

/-! ## Section 4: The parts partition the body -/

/-- Each part begins where the one before it ends, from one offset to another. -/
def Contiguous : Nat → Nat → List UploadPartInfo → Prop
  | first, last, [] => first = last
  | first, last, part :: parts =>
    part.partOffset = first ∧ Contiguous (first + part.partSize) last parts

/-- What is expected of the parts of a body. -/
structure PartPlan (size partSize maxCount : Nat) (parts : List UploadPartInfo) : Prop where
  numbered : parts.map (·.partNumber) = List.range' 1 parts.length
  covers : Contiguous 0 size parts
  nonempty : size ≠ 0 → ∀ part ∈ parts, 0 < part.partSize
  empty : size = 0 → parts = [⟨1, 0, 0⟩]
  count_le : parts.length ≤ maxCount
  size_le : ∀ part ∈ parts, part.partSize ≤ partSize
  equal : ∀ part ∈ parts.dropLast, part.partSize = partSize

section Loop

variable {size partSize : Nat} {hsize : size ≤ u64Max} {hpart : 0 < partSize}

/-- The loop goes on behind a part without saturating. -/
theorem uploadPartLoop_of_lt {partOffset partNumber : Nat} (h : partOffset < size) :
    uploadPartLoop size partSize hsize hpart partOffset partNumber =
      ⟨partNumber, partOffset, min (size - partOffset) partSize⟩ ::
        uploadPartLoop size partSize hsize hpart
          (partOffset + min (size - partOffset) partSize) (saturatingAddU64 partNumber 1) := by
  have hadd : saturatingAddU64 partOffset (min (size - partOffset) partSize) =
      partOffset + min (size - partOffset) partSize := by
    unfold saturatingAddU64
    omega
  rw [uploadPartLoop, if_pos h]
  simp only [hadd]

theorem uploadPartLoop_of_ge {partOffset partNumber : Nat} (h : size ≤ partOffset) :
    uploadPartLoop size partSize hsize hpart partOffset partNumber = [] := by
  rw [uploadPartLoop, if_neg (Nat.not_lt.mpr h)]

/-- The parts from an offset on. The induction is on the bytes that are left. -/
theorem uploadPartLoop_spec (left partOffset partNumber count : Nat)
    (hleft : size - partOffset = left) (hoffset : partOffset ≤ size)
    (hnumber : partNumber ≤ partOffset + 1) (hcount : left ≤ partSize * count) :
    let parts := uploadPartLoop size partSize hsize hpart partOffset partNumber
    parts.map (·.partNumber) = List.range' partNumber parts.length ∧
      Contiguous partOffset size parts ∧
      (∀ part ∈ parts, 0 < part.partSize ∧ part.partSize ≤ partSize) ∧
      parts.length ≤ count ∧
      ∀ part ∈ parts.dropLast, part.partSize = partSize := by
  induction left using Nat.strong_induction_on generalizing partOffset partNumber count with
  | _ left ih =>
      rcases Nat.lt_or_ge partOffset size with hmore | hdone
      · rw [uploadPartLoop_of_lt hmore]
        obtain ⟨count, rfl⟩ : ∃ rest, count = rest + 1 := by
          refine ⟨count - 1, ?_⟩
          rcases Nat.eq_zero_or_pos count with rfl | hpos
          · omega
          · omega
        have hless : left - min left partSize ≤ partSize * count := by
          rw [Nat.mul_add, Nat.mul_one] at hcount
          omega
        rcases Nat.lt_or_ge partSize left with hlong | hlast
        · -- a full part, and more parts behind it
          have hmin : min (size - partOffset) partSize = partSize := by omega
          have hfits : partNumber + 1 ≤ size := by omega
          have hsucc : saturatingAddU64 partNumber 1 = partNumber + 1 :=
            Nat.min_eq_left (hfits.trans hsize)
          rw [hmin, hsucc]
          obtain ⟨hnumbered, hcontiguous, hsizes, hlength, hequal⟩ :=
            ih (left - partSize) (by omega) (partOffset + partSize) (partNumber + 1) count
              (by omega) (by omega) (by omega) (by omega)
          refine ⟨?_, ⟨rfl, hcontiguous⟩, ?_, ?_, ?_⟩
          · rw [List.map_cons, List.length_cons, List.range'_succ, hnumbered]
          · intro part hmem
            rcases List.mem_cons.mp hmem with rfl | hmem
            · exact ⟨hpart, Nat.le_refl _⟩
            · exact hsizes part hmem
          · rw [List.length_cons]
            omega
          · intro part hmem
            rw [uploadPartLoop_of_lt (by omega : partOffset + partSize < size)] at hmem hequal
            rcases List.mem_cons.mp hmem with rfl | hmem
            · rfl
            · exact hequal part hmem
        · -- the last part
          have hmin : min (size - partOffset) partSize = left := by omega
          rw [hmin, uploadPartLoop_of_ge (by omega : size ≤ partOffset + left)]
          refine ⟨rfl, ⟨rfl, (by omega : partOffset + left = size)⟩, ?_, ?_, ?_⟩
          · intro part hmem
            obtain rfl := List.mem_singleton.mp hmem
            exact ⟨(by omega : 0 < left), hlast⟩
          · rw [List.length_singleton]
            omega
          · intro part hmem
            cases hmem
      · rw [uploadPartLoop_of_ge hdone]
        exact ⟨rfl, Nat.le_antisymm hoffset hdone, by simp, Nat.zero_le _, by simp⟩

end Loop

/-- A suitable part size gives a part plan. -/
theorem uploadPartInfos_plan {config : MobileUploadConfig} {size partSize : Nat}
    (hsize : size ≤ u64Max) (hsuits : config.Suits size partSize) :
    PartPlan size partSize config.maxPartCount (uploadPartInfos size partSize hsize) := by
  obtain ⟨hpos, -, hcovers⟩ := hsuits
  have hmax : max partSize 1 = partSize := Nat.max_eq_left hpos
  unfold uploadPartInfos
  by_cases hempty : size = 0
  · rw [if_pos hempty]
    refine ⟨rfl, ⟨rfl, hempty.symm⟩, fun hne => absurd hempty hne, fun _ => rfl,
      config.maxPartCount_pos, ?_, ?_⟩
    · intro part hmem
      obtain rfl := List.mem_singleton.mp hmem
      exact Nat.zero_le _
    · intro part hmem
      cases hmem
  · rw [if_neg hempty]
    simp only [hmax]
    obtain ⟨hnumbered, hcontiguous, hsizes, hlength, hequal⟩ :=
      @uploadPartLoop_spec size partSize hsize hpos size 0 1 config.maxPartCount rfl
        (Nat.zero_le _) (Nat.le_refl _) hcovers
    exact ⟨hnumbered, hcontiguous, fun _ part hmem => (hsizes part hmem).1,
      fun heq => absurd heq hempty, hlength, fun part hmem => (hsizes part hmem).2, hequal⟩

/-- **The part plan partitions the body.** On both paths the part size is computed without an
overflow and is positive, and the parts for it partition the body. -/
theorem part_plan_partitions (config : MobileUploadConfig) (size : Nat) (preferred : Option Nat)
    (hsize : size ≤ u64Max) (hpreferred : ∀ value ∈ preferred, value ≤ u64Max) :
    (∃ partSize, config.streamingPartSizeBytes size preferred = some partSize ∧
      1 ≤ partSize ∧ partSize ≤ u64Max ∧
      PartPlan size partSize config.maxPartCount (uploadPartInfos size partSize hsize)) ∧
    ∃ partSize, config.preparedPartSizeBytes size preferred = some partSize ∧
      1 ≤ partSize ∧ partSize ≤ u64Max ∧
      PartPlan size partSize config.maxPartCount (uploadPartInfos size partSize hsize) := by
  obtain ⟨streamed, hstreamed, hsuits⟩ := config.streamingPartSizeBytes_spec hsize hpreferred
  obtain ⟨prepared, hprepared, hsuits'⟩ := config.preparedPartSizeBytes_spec hsize hpreferred
  exact ⟨⟨streamed, hstreamed, hsuits.1, hsuits.2.1, uploadPartInfos_plan hsize hsuits⟩,
    ⟨prepared, hprepared, hsuits'.1, hsuits'.2.1, uploadPartInfos_plan hsize hsuits'⟩⟩

/-- The largest body, with the smallest configured part size and a preferred one. -/
theorem part_plan_partitions_largest :
    let config : MobileUploadConfig := ⟨0, 0, by decide, by decide⟩
    ∃ partSize, config.streamingPartSizeBytes u64Max (some 5242880) = some partSize ∧
      PartPlan u64Max partSize 41 (uploadPartInfos u64Max partSize (Nat.le_refl _)) := by
  obtain ⟨⟨partSize, hchosen, -, -, hplan⟩, -⟩ :=
    part_plan_partitions ⟨0, 0, by decide, by decide⟩ u64Max (some 5242880) (Nat.le_refl _)
      (by decide)
  exact ⟨partSize, hchosen, hplan⟩

end Netdisk2Blob.Providers.Mobile
