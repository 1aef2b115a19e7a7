import Netdisk2Blob.Library.Bytes
import Mathlib.Order.Nat

/-!
# Decimal Digits

Numbers written with a fixed number of decimal digits, as the ASCII bytes of the digits.

## Contents

- `digits width n`, `decimalValue`: writing and reading, inverse to each other
- `append_lt_append_iff`, `digits_lt_iff`: the order of texts is the order of the numbers
-/

namespace Netdisk2Blob.Library

/-- `u8::is_ascii_digit`. -/
def isDigitByte (byte : UInt8) : Bool := 48 ≤ byte.toNat && byte.toNat ≤ 57

/-- The last `width` decimal digits of a number. -/
def digits : Nat → Nat → Bytes
  | 0, _ => []
  | width + 1, n => digits width (n / 10) ++ [UInt8.ofNat (48 + n % 10)]

/-- The number that digits stand for. -/
def decimalValue (bytes : Bytes) : Nat :=
  bytes.foldl (fun n byte => 10 * n + (byte.toNat - 48)) 0

@[simp] theorem length_digits (width n : Nat) : (digits width n).length = width := by
  induction width generalizing n with
  | zero => rfl
  | succ width ih => simp [digits, ih]

theorem toNat_digit (n : Nat) : (UInt8.ofNat (48 + n % 10)).toNat = 48 + n % 10 := by
  simp only [UInt8.toNat_ofNat']
  omega

theorem all_digits (width n : Nat) : (digits width n).all isDigitByte = true := by
  induction width generalizing n with
  | zero => rfl
  | succ width ih =>
    have hlast : isDigitByte (UInt8.ofNat (48 + n % 10)) = true := by
      simp only [isDigitByte, toNat_digit, Bool.and_eq_true, decide_eq_true_eq]
      omega
    rw [digits, List.all_append, ih, List.all_cons, hlast]
    rfl

theorem decimalValue_append_singleton (bytes : Bytes) (byte : UInt8) :
    decimalValue (bytes ++ [byte]) = 10 * decimalValue bytes + (byte.toNat - 48) := by
  simp [decimalValue]

theorem decimalValue_digits {width n : Nat} (h : n < 10 ^ width) :
    decimalValue (digits width n) = n := by
  induction width generalizing n with
  | zero =>
    have hzero : n = 0 := by simpa using h
    simp [digits, decimalValue, hzero]
  | succ width ih =>
    have hdiv : n / 10 < 10 ^ width := by
      rw [Nat.pow_succ] at h
      omega
    rw [digits, decimalValue_append_singleton, ih hdiv, toNat_digit]
    omega

/-- Digits are read as the number that is written with them. -/
theorem digits_decimalValue {bytes : Bytes} (h : bytes.all isDigitByte = true) :
    digits bytes.length (decimalValue bytes) = bytes := by
  induction bytes using List.reverseRecOn with
  | nil => rfl
  | append_singleton bytes byte ih =>
    rw [List.all_append, Bool.and_eq_true] at h
    obtain ⟨hbytes, hbyte⟩ := h
    simp only [List.all_cons, List.all_nil, Bool.and_true, isDigitByte, Bool.and_eq_true,
      decide_eq_true_eq] at hbyte
    have hdiv : (10 * decimalValue bytes + (byte.toNat - 48)) / 10 = decimalValue bytes := by omega
    have hmod : 48 + (10 * decimalValue bytes + (byte.toNat - 48)) % 10 = byte.toNat := by omega
    rw [decimalValue_append_singleton, List.length_append, List.length_singleton, digits, hdiv,
      hmod, ih hbytes, UInt8.ofNat_toNat]

theorem decimalValue_lt {bytes : Bytes} (h : bytes.all isDigitByte = true) :
    decimalValue bytes < 10 ^ bytes.length := by
  induction bytes using List.reverseRecOn with
  | nil => simp [decimalValue]
  | append_singleton bytes byte ih =>
    rw [List.all_append, Bool.and_eq_true] at h
    obtain ⟨hbytes, hbyte⟩ := h
    have hlt := ih hbytes
    simp only [List.all_cons, List.all_nil, Bool.and_true, isDigitByte, Bool.and_eq_true,
      decide_eq_true_eq] at hbyte
    rw [decimalValue_append_singleton, List.length_append, List.length_singleton, Nat.pow_succ]
    omega

theorem digits_injective {width m n : Nat} (hm : m < 10 ^ width) (hn : n < 10 ^ width)
    (h : digits width m = digits width n) : m = n := by
  rw [← decimalValue_digits hm, h, decimalValue_digits hn]

/-! ## The order of texts -/

/-- Texts that begin with parts of one length are compared by these parts first. -/
theorem append_lt_append_iff {α : Type*} [LT α] {l l' s t : List α}
    (h : l.length = l'.length) : l ++ s < l' ++ t ↔ l < l' ∨ l = l' ∧ s < t := by
  induction l generalizing l' with
  | nil =>
    obtain rfl := List.length_eq_zero_iff.mp h.symm
    simp
  | cons a l ih =>
    cases l' with
    | nil => simp at h
    | cons b l' =>
      rw [List.cons_append, List.cons_append, List.cons_lt_cons_iff, List.cons_lt_cons_iff,
        ih (by simpa using h), List.cons.injEq]
      tauto

/-- Digits are ordered as their numbers. -/
theorem digits_lt_iff {width m n : Nat} (hm : m < 10 ^ width) (hn : n < 10 ^ width) :
    digits width m < digits width n ↔ m < n := by
  induction width generalizing m n with
  | zero =>
    have hm' : m = 0 := by simpa using hm
    have hn' : n = 0 := by simpa using hn
    simp [digits, hm', hn']
  | succ width ih =>
    rw [Nat.pow_succ] at hm hn
    have hmdiv : m / 10 < 10 ^ width := by omega
    have hndiv : n / 10 < 10 ^ width := by omega
    have hlast : ([UInt8.ofNat (48 + m % 10)] : Bytes) < [UInt8.ofNat (48 + n % 10)] ↔
        m % 10 < n % 10 := by
      rw [List.cons_lt_cons_iff, UInt8.lt_iff_toNat_lt, toNat_digit, toNat_digit]
      simp
    rw [digits, digits, append_lt_append_iff (by simp), ih hmdiv hndiv, hlast]
    constructor
    · rintro (hlt | ⟨heq, hlt⟩)
      · omega
      · have hdiv := digits_injective hmdiv hndiv heq
        omega
    · intro hlt
      by_cases hdiv : m / 10 = n / 10
      · exact Or.inr ⟨by rw [hdiv], by omega⟩
      · exact Or.inl (by omega)

end Netdisk2Blob.Library
