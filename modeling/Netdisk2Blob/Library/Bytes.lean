import Mathlib.Data.List.Basic
import Mathlib.Data.List.Induction
import Mathlib.Data.Nat.Basic
import Mathlib.Order.Lattice
import Mathlib.Data.Nat.Init
import Mathlib.Algebra.Ring.Nat
import Mathlib.Tactic.SplitIfs

/-!
# Bytes

Byte strings as lists, machine integers and their big-endian encoding, byte strings of a
fixed length and the cut of a list into pieces.

## Contents

- the bounds of the unsigned types, saturating and checked arithmetic
- `beBytes`, `ofBeBytes`: `to_be_bytes` and `from_be_bytes`, inverse to each other on the
  values and the lengths that fit
- `FixedBytes n`: `[u8; n]`
- `chunksOf n`: pieces of `n`, the last one shorter; how many there are, that they
  join to the list, and the pieces of a prefix
-/

namespace Netdisk2Blob.Library

abbrev Bytes := List UInt8

/-! ## Section 1: Machine integers -/

def u16Max : Nat := 2 ^ 16 - 1

def u32Max : Nat := 2 ^ 32 - 1

def u64Max : Nat := 2 ^ 64 - 1

/-- `u32::saturating_add`. -/
def saturatingAddU32 (a b : Nat) : Nat := min (a + b) u32Max

/-- `u64::saturating_add`. -/
def saturatingAddU64 (a b : Nat) : Nat := min (a + b) u64Max

/-- `u64::saturating_mul`. -/
def saturatingMulU64 (a b : Nat) : Nat := min (a * b) u64Max

/-- `u64::checked_add`. -/
def checkedAddU64 (a b : Nat) : Option Nat := if a + b ≤ u64Max then some (a + b) else none

/-- `u64::checked_mul`. -/
def checkedMulU64 (a b : Nat) : Option Nat := if a * b ≤ u64Max then some (a * b) else none

theorem checkedAddU64_eq_some {a b c : Nat} :
    checkedAddU64 a b = some c ↔ a + b ≤ u64Max ∧ c = a + b := by
  unfold checkedAddU64
  split_ifs with h
  · simp [h, eq_comm]
  · simp [h]

theorem checkedMulU64_eq_some {a b c : Nat} :
    checkedMulU64 a b = some c ↔ a * b ≤ u64Max ∧ c = a * b := by
  unfold checkedMulU64
  split_ifs with h
  · simp [h, eq_comm]
  · simp [h]

/-! ### Big-endian integers -/

/-- The last `width` base-256 digits of a value, most significant first. -/
def beBytes : Nat → Nat → Bytes
  | 0, _ => []
  | width + 1, value => beBytes width (value / 256) ++ [UInt8.ofNat value]

/-- The value of base-256 digits, most significant first. -/
def ofBeBytes (bytes : Bytes) : Nat :=
  bytes.foldl (fun value byte => value * 256 + byte.toNat) 0

@[simp] theorem length_beBytes (width value : Nat) : (beBytes width value).length = width := by
  induction width generalizing value with
  | zero => rfl
  | succ width ih => simp [beBytes, ih]

theorem ofBeBytes_append_singleton (bytes : Bytes) (byte : UInt8) :
    ofBeBytes (bytes ++ [byte]) = ofBeBytes bytes * 256 + byte.toNat := by
  simp [ofBeBytes]

theorem ofBeBytes_beBytes {width value : Nat} (h : value < 256 ^ width) :
    ofBeBytes (beBytes width value) = value := by
  induction width generalizing value with
  | zero =>
    have hzero : value = 0 := by simpa using h
    simp [beBytes, ofBeBytes, hzero]
  | succ width ih =>
    have hdiv : value / 256 < 256 ^ width := by
      rw [Nat.div_lt_iff_lt_mul (by decide)]
      simpa [Nat.pow_succ] using h
    rw [beBytes, ofBeBytes_append_singleton, ih hdiv]
    simp only [UInt8.toNat_ofNat']
    omega

theorem ofBeBytes_beBytes_u16 {value : Nat} (h : value ≤ u16Max) :
    ofBeBytes (beBytes 2 value) = value :=
  ofBeBytes_beBytes (by simp only [u16Max] at h; omega)

theorem ofBeBytes_beBytes_u32 {value : Nat} (h : value ≤ u32Max) :
    ofBeBytes (beBytes 4 value) = value :=
  ofBeBytes_beBytes (by simp only [u32Max] at h; omega)

theorem ofBeBytes_beBytes_u64 {value : Nat} (h : value ≤ u64Max) :
    ofBeBytes (beBytes 8 value) = value :=
  ofBeBytes_beBytes (by simp only [u64Max] at h; omega)

theorem ofBeBytes_lt (bytes : Bytes) : ofBeBytes bytes < 256 ^ bytes.length := by
  induction bytes using List.reverseRecOn with
  | nil => simp [ofBeBytes]
  | append_singleton bytes byte ih =>
    have hbyte : byte.toNat < 256 := byte.toNat_lt
    rw [ofBeBytes_append_singleton, List.length_append, List.length_singleton, Nat.pow_succ]
    omega

theorem beBytes_ofBeBytes (bytes : Bytes) : beBytes bytes.length (ofBeBytes bytes) = bytes := by
  induction bytes using List.reverseRecOn with
  | nil => rfl
  | append_singleton bytes byte ih =>
    have hbyte : byte.toNat < 256 := byte.toNat_lt
    have hdiv : (ofBeBytes bytes * 256 + byte.toNat) / 256 = ofBeBytes bytes := by omega
    rw [ofBeBytes_append_singleton, List.length_append, List.length_singleton, beBytes, hdiv, ih]
    congr 2
    apply UInt8.toNat_inj.mp
    simp only [UInt8.toNat_ofNat']
    omega

/-! ## Section 2: Byte strings of a fixed length -/

/-- What lies between the bounds of a piece is the piece. -/
theorem drop_take_piece {α : Type*} {i j : Nat} {pieces : List (List α)} {piece : List α}
    (k : Nat) (hk : pieces[k]? = some piece) (hi : (pieces.take k).flatten.length = i)
    (hlen : i + piece.length = j) : (pieces.flatten.take j).drop i = piece := by
  have hsplit : pieces.flatten =
      (pieces.take k).flatten ++ (piece ++ (pieces.drop (k + 1)).flatten) := by
    obtain ⟨hlt, hget⟩ := List.getElem?_eq_some_iff.mp hk
    rw [← List.flatten_cons, ← hget, List.getElem_cons_drop, ← List.flatten_append,
      List.take_append_drop]
  rw [hsplit, List.drop_take, List.drop_append_of_le_length (le_of_eq hi.symm),
    List.drop_of_length_le (le_of_eq hi), List.nil_append,
    List.take_append_of_le_length (by omega), List.take_of_length_le (by omega)]

/-- What lies between two bounds, followed by the rest. -/
theorem drop_take_append_drop {α : Type*} (l : List α) {i j : Nat} (hij : i ≤ j) :
    (l.take j).drop i ++ l.drop j = l.drop i := by
  have hdrop : l.drop j = (l.drop i).drop (j - i) := by
    rw [List.drop_drop]
    congr 1
    omega
  rw [List.drop_take, hdrop, List.take_append_drop]

/-- Nonempty pieces are no more than the elements of their join. -/
theorem length_le_length_flatten {α : Type*} {pieces : List (List α)}
    (h : ∀ piece ∈ pieces, piece ≠ []) : pieces.length ≤ pieces.flatten.length := by
  induction pieces with
  | nil => simp
  | cons piece pieces ih =>
    have hpos := List.length_pos_iff.mpr (h piece (List.mem_cons_self ..))
    have hle := ih (fun piece hmem => h piece (List.mem_cons_of_mem _ hmem))
    rw [List.length_cons, List.flatten_cons, List.length_append]
    omega

/-- `[u8; n]`. -/
structure FixedBytes (n : Nat) where
  bytes : Bytes
  length_eq : bytes.length = n
  deriving DecidableEq

namespace FixedBytes

@[simp] theorem length_bytes {n : Nat} (a : FixedBytes n) : a.bytes.length = n := a.length_eq

@[ext] theorem ext {n : Nat} {a b : FixedBytes n} (h : a.bytes = b.bytes) : a = b := by
  cases a
  cases b
  simpa using h

/-- `[byte; n]`. -/
def replicate (n : Nat) (byte : UInt8) : FixedBytes n :=
  ⟨List.replicate n byte, List.length_replicate⟩

def append {n m : Nat} (a : FixedBytes n) (b : FixedBytes m) : FixedBytes (n + m) :=
  ⟨a.bytes ++ b.bytes, by simp⟩

/-- `a[i..j]`. -/
def slice {n : Nat} (a : FixedBytes n) (i j : Nat) (hj : j ≤ n) : FixedBytes (j - i) :=
  ⟨(a.bytes.take j).drop i, by simp [hj]⟩

/-- A slice at the bounds of a piece is the piece. -/
theorem slice_piece {n i j : Nat} {a : FixedBytes n} {pieces : List Bytes} {piece : Bytes}
    (k : Nat) (hj : j ≤ n) (ha : a.bytes = pieces.flatten) (hk : pieces[k]? = some piece)
    (hi : (pieces.take k).flatten.length = i) (hlen : i + piece.length = j) :
    (a.slice i j hj).bytes = piece := by
  change (a.bytes.take j).drop i = piece
  rw [ha]
  exact drop_take_piece k hk hi hlen

/-- Adjacent slices join. -/
theorem slice_append_drop {n : Nat} (a : FixedBytes n) {i j : Nat} (hij : i ≤ j) (hj : j ≤ n) :
    (a.slice i j hj).bytes ++ a.bytes.drop j = a.bytes.drop i :=
  drop_take_append_drop a.bytes hij

/-- `a[i]`. -/
def get {n : Nat} (a : FixedBytes n) (i : Nat) (hi : i < n) : UInt8 :=
  a.bytes.get ⟨i, by simp [hi]⟩

theorem ofBeBytes_lt {n : Nat} (a : FixedBytes n) : ofBeBytes a.bytes < 256 ^ n := by
  have h := Library.ofBeBytes_lt a.bytes
  rwa [a.length_eq] at h

/-- The integer in an array, encoded again. -/
theorem beBytes_ofBeBytes {n : Nat} (a : FixedBytes n) : beBytes n (ofBeBytes a.bytes) = a.bytes := by
  have h := Library.beBytes_ofBeBytes a.bytes
  rwa [a.length_eq] at h

theorem slice_succ {n : Nat} (a : FixedBytes n) {i : Nat} (hi : i < n) :
    (a.slice i (i + 1) hi).bytes = [a.get i hi] := by
  have hlen : i < a.bytes.length := by simp [hi]
  change (a.bytes.take (i + 1)).drop i = [a.bytes.get ⟨i, hlen⟩]
  rw [List.drop_take, Nat.add_sub_cancel_left, List.drop_eq_getElem_cons hlen]
  rfl

/-- A byte string of the right length, as an array. -/
def ofBytes? (n : Nat) (bytes : Bytes) : Option (FixedBytes n) :=
  if h : bytes.length = n then some ⟨bytes, h⟩ else none

theorem ofBytes?_eq_some {n : Nat} {bytes : Bytes} {a : FixedBytes n} :
    ofBytes? n bytes = some a ↔ a.bytes = bytes := by
  unfold ofBytes?
  constructor
  · intro h
    split at h
    · cases h
      rfl
    · cases h
  · rintro rfl
    rw [dif_pos a.length_eq]

@[simp] theorem ofBytes?_bytes {n : Nat} (a : FixedBytes n) : ofBytes? n a.bytes = some a :=
  ofBytes?_eq_some.mpr rfl

end FixedBytes

/-! ## Section 3: Pieces -/

section Chunks

variable {α : Type*}

/-- The list cut into pieces of `n` elements; the last piece may be shorter. -/
def chunksOf (n : Nat) (l : List α) : List (List α) :=
  if _h : n = 0 ∨ l = [] then [] else l.take n :: chunksOf n (l.drop n)
termination_by l.length
decreasing_by
  have hpos : 0 < l.length := List.length_pos_iff.mpr (fun hl => _h (Or.inr hl))
  have hn : n ≠ 0 := fun hn => _h (Or.inl hn)
  rw [List.length_drop]
  omega

@[simp] theorem chunksOf_nil (n : Nat) : chunksOf n ([] : List α) = [] := by
  rw [chunksOf, dif_pos (Or.inr rfl)]

theorem chunksOf_of_ne_nil {n : Nat} (hn : 0 < n) {l : List α} (hl : l ≠ []) :
    chunksOf n l = l.take n :: chunksOf n (l.drop n) := by
  rw [chunksOf, dif_neg]
  rintro (h | h)
  · omega
  · exact hl h

/-- Induction on a list by taking off pieces. -/
theorem chunks_induction {n : Nat} (hn : 0 < n) {P : List α → Prop} (nil : P [])
    (piece : ∀ l, l ≠ [] → P (l.drop n) → P l) (l : List α) : P l := by
  induction hlen : l.length using Nat.strong_induction_on generalizing l with
  | _ length ih =>
    by_cases hl : l = []
    · rw [hl]
      exact nil
    · have hpos : 0 < l.length := List.length_pos_iff.mpr hl
      exact piece l hl (ih (l.drop n).length (by rw [List.length_drop]; omega) _ rfl)

@[simp] theorem flatten_chunksOf {n : Nat} (hn : 0 < n) (l : List α) :
    (chunksOf n l).flatten = l := by
  induction l using chunks_induction hn with
  | nil => simp
  | piece l hl ih => rw [chunksOf_of_ne_nil hn hl, List.flatten_cons, ih, List.take_append_drop]

theorem mem_chunksOf {n : Nat} (hn : 0 < n) {l piece : List α} (h : piece ∈ chunksOf n l) :
    0 < piece.length ∧ piece.length ≤ n := by
  induction l using chunks_induction hn with
  | nil => simp at h
  | piece l hl ih =>
    rw [chunksOf_of_ne_nil hn hl] at h
    rcases List.mem_cons.mp h with rfl | h
    · have hpos : 0 < l.length := List.length_pos_iff.mpr hl
      rw [List.length_take]
      omega
    · exact ih h

/-- The number of pieces. -/
theorem length_chunksOf {n : Nat} (hn : 0 < n) (l : List α) :
    (chunksOf n l).length = if l.length = 0 then 0 else (l.length - 1) / n + 1 := by
  induction l using chunks_induction hn with
  | nil => simp
  | piece l hl ih =>
    have hpos : 0 < l.length := List.length_pos_iff.mpr hl
    rw [chunksOf_of_ne_nil hn hl, List.length_cons, ih, List.length_drop, if_neg hpos.ne']
    split_ifs with hlast
    · rw [Nat.div_eq_of_lt (by omega)]
    · have hsub : l.length - 1 = (l.length - n - 1) + n := by omega
      rw [hsub, Nat.add_div_right _ hn]

/-- The first pieces are a prefix of the list. -/
theorem flatten_take_chunksOf {n : Nat} (hn : 0 < n) (l : List α) (m : Nat) :
    ((chunksOf n l).take m).flatten = l.take (m * n) := by
  induction m generalizing l with
  | zero => simp
  | succ m ih =>
    by_cases hl : l = []
    · rw [hl, chunksOf_nil, List.take_nil, List.take_nil, List.flatten_nil]
    · rw [chunksOf_of_ne_nil hn hl, List.take_succ_cons, List.flatten_cons, ih, Nat.succ_mul,
        Nat.add_comm (m * n), List.take_add]

end Chunks

end Netdisk2Blob.Library
