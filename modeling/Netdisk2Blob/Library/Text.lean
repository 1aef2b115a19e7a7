import Netdisk2Blob.Library.Bytes
import Mathlib.Data.List.DropRight
import Mathlib.Data.List.Flatten
import Mathlib.Data.String.Basic

/-!
# Text Operations

The string operations of the standard library that the crates rely on, on lists of
scalar values: `trim` removes leading and trailing characters of the Unicode
`White_Space` property, `toAsciiLowercase` maps `A`-`Z` only; `asBytes` and `fromUtf8?` go
between strings and their UTF-8 encoding.
-/

namespace Netdisk2Blob.Library.Text

/-- The Unicode `White_Space` property. -/
def isWhitespace (c : Char) : Bool :=
  let n := c.toNat
  (9 ≤ n && n ≤ 13) || n == 32 || n == 0x85 || n == 0xA0 || n == 0x1680 ||
    (0x2000 ≤ n && n ≤ 0x200A) || n == 0x2028 || n == 0x2029 || n == 0x202F ||
    n == 0x205F || n == 0x3000

/-- Trimming on lists: drop the prefix and the suffix whose elements satisfy `p`. -/
def trimList {α : Type*} (p : α → Bool) (l : List α) : List α :=
  (l.dropWhile p).rdropWhile p

/-- `str::trim`. -/
def trim (s : String) : String := String.ofList (trimList isWhitespace s.toList)

/-- `str::to_ascii_lowercase`. -/
def toAsciiLowercase (s : String) : String := String.ofList (s.toList.map Char.toLower)

/-- `str::split` at a character. -/
def split (c : Char) (s : String) : List String := (s.toList.splitOn c).map String.ofList

/-- A lowercase hexadecimal digit. -/
def hexDigit (n : Nat) : Char := "0123456789abcdef".toList.getD n '0'

/-- `hex::encode`. -/
def hexEncode (bytes : Bytes) : String :=
  String.ofList (bytes.flatMap (fun byte => [hexDigit (byte.toNat / 16), hexDigit (byte.toNat % 16)]))

theorem toLower_eq_self {c : Char} (h : ¬ (65 ≤ c.toNat ∧ c.toNat ≤ 90)) : c.toLower = c := by
  unfold Char.toLower
  exact dif_neg h

theorem toNat_toLower {c : Char} (h : 65 ≤ c.toNat ∧ c.toNat ≤ 90) :
    c.toLower.toNat = c.toNat + 32 := by
  unfold Char.toLower
  split
  · show (c.val + 32).toNat = c.val.toNat + 32
    rw [UInt32.toNat_add]
    show (c.toNat + 32) % 2 ^ 32 = c.toNat + 32
    omega
  · rename_i hother
    exact absurd h hother

theorem toLower_toLower (c : Char) : c.toLower.toLower = c.toLower := by
  by_cases h : 65 ≤ c.toNat ∧ c.toNat ≤ 90
  · have hval := toNat_toLower h
    exact toLower_eq_self (by omega)
  · rw [toLower_eq_self h, toLower_eq_self h]

@[simp] theorem toAsciiLowercase_toAsciiLowercase (s : String) :
    toAsciiLowercase (toAsciiLowercase s) = toAsciiLowercase s := by
  simp only [toAsciiLowercase, String.toList_ofList, List.map_map]
  congr 1
  exact List.map_congr_left (fun c _ => toLower_toLower c)

/-- Joining parts without the separator and splitting again gives the parts. -/
theorem split_intercalate {c : Char} {parts : List String} (hne : parts ≠ [])
    (hparts : ∀ part ∈ parts, c ∉ part.toList) :
    split c (String.intercalate (String.singleton c) parts) = parts := by
  have hlists : ∀ l ∈ parts.map String.toList, c ∉ l := by
    intro l hl
    obtain ⟨part, hpart, rfl⟩ := List.mem_map.mp hl
    exact hparts part hpart
  rw [split, String.toList_intercalate, String.toList_singleton,
    List.splitOn_intercalate c hlists (by simpa using hne), List.map_map]
  simp

theorem intercalate_injective {c : Char} {parts parts' : List String} (hne : parts ≠ [])
    (hne' : parts' ≠ []) (hparts : ∀ part ∈ parts, c ∉ part.toList)
    (hparts' : ∀ part ∈ parts', c ∉ part.toList)
    (h : String.intercalate (String.singleton c) parts =
      String.intercalate (String.singleton c) parts') : parts = parts' := by
  rw [← split_intercalate hne hparts, h, split_intercalate hne' hparts']

theorem hexDigit_injective : ∀ m < 16, ∀ n < 16, hexDigit m = hexDigit n → m = n := by
  decide

theorem hexEncode_injective {bytes bytes' : Bytes} (h : hexEncode bytes = hexEncode bytes') :
    bytes = bytes' := by
  have hchars := congrArg String.toList h
  simp only [hexEncode, String.toList_ofList] at hchars
  clear h
  induction bytes generalizing bytes' with
  | nil =>
    cases bytes' with
    | nil => rfl
    | cons byte' bytes' => cases hchars
  | cons byte bytes ih =>
    cases bytes' with
    | nil => cases hchars
    | cons byte' bytes' =>
      simp only [List.flatMap_cons, List.cons_append, List.nil_append, List.cons.injEq] at hchars
      obtain ⟨hhigh, hlow, hrest⟩ := hchars
      have hlt : byte.toNat < 256 := byte.toNat_lt
      have hlt' : byte'.toNat < 256 := byte'.toNat_lt
      have hdiv := hexDigit_injective _ (by omega) _ (by omega) hhigh
      have hmod := hexDigit_injective _ (by omega) _ (by omega) hlow
      have hbyte : byte = byte' := UInt8.toNat_inj.mp (by omega)
      rw [hbyte, ih hrest]

/-- No part of a list that is split contains what it is split at. -/
theorem forall_splitOnP {α : Type*} {p : α → Bool} (l : List α) :
    ∀ part ∈ l.splitOnP p, ∀ a ∈ part, p a = false := by
  induction l with
  | nil =>
    intro part hpart
    rw [List.splitOnP_nil, List.mem_singleton] at hpart
    subst hpart
    exact fun a ha => absurd ha List.not_mem_nil
  | cons x xs ih =>
    intro part hpart
    rw [List.splitOnP_cons_eq_if_modifyHead] at hpart
    split at hpart
    · rcases List.mem_cons.mp hpart with rfl | hrest
      · exact fun a ha => absurd ha List.not_mem_nil
      · exact ih part hrest
    · rename_i hx
      cases hxs : xs.splitOnP p with
      | nil => exact absurd hxs (List.splitOnP_ne_nil p xs)
      | cons head tail =>
        rw [hxs] at hpart ih
        rcases List.mem_cons.mp hpart with rfl | hrest
        · intro a ha
          rcases List.mem_cons.mp ha with rfl | hhead
          · exact Bool.eq_false_iff.mpr hx
          · exact ih head List.mem_cons_self a hhead
        · exact ih part (List.mem_cons_of_mem _ hrest)

theorem mem_of_mem_splitOnP {α : Type*} {p : α → Bool} (l : List α) :
    ∀ part ∈ l.splitOnP p, ∀ a ∈ part, a ∈ l := by
  induction l with
  | nil =>
    intro part hpart a ha
    rw [List.splitOnP_nil, List.mem_singleton] at hpart
    exact hpart ▸ ha
  | cons x xs ih =>
    intro part hpart a ha
    rw [List.splitOnP_cons_eq_if_modifyHead] at hpart
    split at hpart
    · rcases List.mem_cons.mp hpart with rfl | hrest
      · exact absurd ha List.not_mem_nil
      · exact List.mem_cons_of_mem x (ih part hrest a ha)
    · cases hxs : xs.splitOnP p with
      | nil => exact absurd hxs (List.splitOnP_ne_nil p xs)
      | cons head tail =>
        rw [hxs] at hpart ih
        rcases List.mem_cons.mp hpart with rfl | hrest
        · rcases List.mem_cons.mp ha with rfl | hhead
          · exact List.mem_cons_self
          · exact List.mem_cons_of_mem x (ih head List.mem_cons_self a hhead)
        · exact List.mem_cons_of_mem x (ih part (List.mem_cons_of_mem _ hrest) a ha)

theorem mem_of_mem_split {c a : Char} {s part : String} (h : part ∈ split c s)
    (ha : a ∈ part.toList) : a ∈ s.toList := by
  obtain ⟨l, hl, rfl⟩ := List.mem_map.mp h
  rw [String.toList_ofList] at ha
  exact mem_of_mem_splitOnP s.toList l hl a ha

theorem split_ne_nil {c : Char} {s : String} : split c s ≠ [] := by
  intro h
  rw [split, List.map_eq_nil_iff] at h
  exact List.splitOnP_ne_nil _ _ h

theorem not_mem_of_mem_split {c : Char} {s part : String} (h : part ∈ split c s) :
    c ∉ part.toList := by
  obtain ⟨l, hl, rfl⟩ := List.mem_map.mp h
  intro hc
  rw [String.toList_ofList] at hc
  have hne := forall_splitOnP s.toList l hl c hc
  simp at hne

/-- `str::split_once` at a character. -/
def splitOnce (c : Char) (s : String) : Option (String × String) :=
  if c ∈ s.toList then
    some (String.ofList (s.toList.takeWhile (fun a => decide (a ≠ c))),
      String.ofList (s.toList.dropWhile (fun a => decide (a ≠ c))).tail)
  else none

/-- `str::rsplit_once` at a character. -/
def rsplitOnce (c : Char) (s : String) : Option (String × String) :=
  if c ∈ s.toList then
    some (String.ofList (s.toList.rdropWhile (fun a => decide (a ≠ c))).dropLast,
      String.ofList (s.toList.rtakeWhile (fun a => decide (a ≠ c))))
  else none

theorem splitOnce_append {c : Char} {before after : String} (h : c ∉ before.toList) :
    splitOnce c (before ++ String.singleton c ++ after) = some (before, after) := by
  have hbefore : ∀ a ∈ before.toList, decide (a ≠ c) = true := by
    intro a ha
    apply decide_eq_true
    rintro rfl
    exact h ha
  have hlist : (before ++ String.singleton c ++ after).toList =
      before.toList ++ (c :: after.toList) := by simp
  rw [splitOnce, hlist, if_pos (by simp), List.takeWhile_append_of_pos hbefore,
    List.dropWhile_append_of_pos hbefore]
  simp

theorem rsplitOnce_append {c : Char} {before after : String} (h : c ∉ after.toList) :
    rsplitOnce c (before ++ String.singleton c ++ after) = some (before, after) := by
  have hafter : ∀ a ∈ after.toList.reverse, decide (a ≠ c) = true := by
    intro a ha
    apply decide_eq_true
    rintro rfl
    exact h (List.mem_reverse.mp ha)
  have hlist : (before ++ String.singleton c ++ after).toList =
      before.toList ++ (c :: after.toList) := by simp
  rw [rsplitOnce, hlist, if_pos (by simp), List.rdropWhile, List.rtakeWhile, List.reverse_append,
    List.reverse_cons, List.append_assoc, List.takeWhile_append_of_pos hafter,
    List.dropWhile_append_of_pos hafter]
  simp

/-- Two texts with the same first separator have the same two parts. -/
theorem append_separator_injective {c : Char} {separator before before' after after' : String}
    (hseparator : separator = String.singleton c) (h : c ∉ before.toList)
    (h' : c ∉ before'.toList)
    (heq : before ++ separator ++ after = before' ++ separator ++ after') :
    before = before' ∧ after = after' := by
  subst hseparator
  have hsplit := @splitOnce_append c before after h
  rw [heq, splitOnce_append h'] at hsplit
  obtain ⟨hbefore, hafter⟩ := Prod.mk.inj (Option.some.inj hsplit)
  exact ⟨hbefore.symm, hafter.symm⟩

theorem splitOnce_eq_some {c : Char} {s before after : String}
    (h : splitOnce c s = some (before, after)) :
    c ∉ before.toList ∧ s = before ++ String.singleton c ++ after := by
  unfold splitOnce at h
  split at h
  · rename_i hmem
    obtain ⟨hbefore, hafter⟩ := Prod.mk.inj (Option.some.inj h)
    subst hbefore hafter
    constructor
    · intro hc
      rw [String.toList_ofList] at hc
      have hne := List.mem_takeWhile_imp hc
      simp at hne
    · rw [← String.toList_inj]
      have hsplit := List.takeWhile_append_dropWhile (p := fun a => decide (a ≠ c)) (l := s.toList)
      cases hdrop : s.toList.dropWhile (fun a => decide (a ≠ c)) with
      | nil =>
        rw [List.dropWhile_eq_nil_iff] at hdrop
        have hne := hdrop c hmem
        simp at hne
      | cons head tail =>
        have hhead : head = c := by
          have hfirst := List.head_dropWhile_not (fun a => decide (a ≠ c))
            (by rw [hdrop]; exact List.cons_ne_nil _ _)
          simp only [hdrop, List.head_cons] at hfirst
          simpa using hfirst
        rw [hdrop, hhead] at hsplit
        simp only [String.toList_append, String.toList_ofList, String.toList_singleton,
          List.append_assoc, List.singleton_append, List.tail_cons]
        exact hsplit.symm
  · cases h

theorem mem_of_splitOnce {c a : Char} {s before after : String}
    (h : splitOnce c s = some (before, after)) (ha : a ∈ before.toList ∨ a ∈ after.toList) :
    a ∈ s.toList := by
  obtain ⟨-, hs⟩ := splitOnce_eq_some h
  rw [hs]
  simp only [String.toList_append, List.mem_append]
  exact ha.imp Or.inl id

/-- `str::strip_prefix`. -/
def stripPrefix (pre s : String) : Option String :=
  if pre.toList.isPrefixOf s.toList then some (String.ofList (s.toList.drop pre.toList.length))
  else none

/-- `str::trim_start_matches` with a character. -/
def trimStartMatches (c : Char) (s : String) : String :=
  String.ofList (s.toList.dropWhile (fun a => decide (a = c)))

/-- `str::split_whitespace`. -/
def splitWhitespace (s : String) : List String :=
  ((s.toList.splitOnP isWhitespace).filter (fun part => !part.isEmpty)).map String.ofList

theorem mem_of_stripPrefix {a : Char} {pre s rest : String} (h : stripPrefix pre s = some rest)
    (ha : a ∈ rest.toList) : a ∈ s.toList := by
  unfold stripPrefix at h
  split at h
  · obtain rfl := Option.some.inj h
    rw [String.toList_ofList] at ha
    exact List.mem_of_mem_drop ha
  · cases h

theorem not_isWhitespace_of_mem_splitWhitespace {a : Char} {s part : String}
    (h : part ∈ splitWhitespace s) (ha : a ∈ part.toList) : isWhitespace a = false := by
  obtain ⟨l, hl, rfl⟩ := List.mem_map.mp h
  rw [String.toList_ofList] at ha
  exact forall_splitOnP s.toList l (List.mem_filter.mp hl).1 a ha

/-- `parse` of an unsigned integer type with the given maximum. -/
def parseUnsigned (max : Nat) (s : String) : Option Nat :=
  let digits := (stripPrefix "+" s).getD s
  if digits.toList.isEmpty ∨ ¬ digits.toList.all Char.isDigit then none
  else
    let value := digits.toList.foldl (fun n c => 10 * n + (c.toNat - '0'.toNat)) 0
    if value ≤ max then some value else none

variable {α : Type*} {p : α → Bool}

/-- A list whose head survives and whose last element survives is not trimmed. -/
theorem trimList_eq_self {l : List α} (hhead : ∀ hl : 0 < l.length, ¬ p (l.get ⟨0, hl⟩))
    (hlast : ∀ hl : l ≠ [], ¬ p (l.getLast hl)) : trimList p l = l := by
  rw [trimList, List.dropWhile_eq_self_iff.mpr hhead]
  exact List.rdropWhile_eq_self_iff.mpr hlast

/-- The result of trimming starts with a character that survives. -/
theorem trimList_head {l : List α} (hl : 0 < (trimList p l).length) :
    ¬ p ((trimList p l).get ⟨0, hl⟩) := by
  have hpre : trimList p l <+: l.dropWhile p := List.rdropWhile_prefix p _
  obtain ⟨rest, hrest⟩ := hpre
  have hpos : 0 < (l.dropWhile p).length := by
    rw [← hrest, List.length_append]
    omega
  have hget : (trimList p l).get ⟨0, hl⟩ = (l.dropWhile p).get ⟨0, hpos⟩ := by
    simp only [List.get_eq_getElem]
    rw [List.getElem_of_eq hrest.symm]
    exact (List.getElem_append_left hl).symm
  rw [hget]
  exact List.dropWhile_get_zero_not p l hpos

/-- Trimming is idempotent. -/
theorem trimList_trimList (l : List α) : trimList p (trimList p l) = trimList p l :=
  trimList_eq_self (fun hl => trimList_head hl)
    (fun hl => List.rdropWhile_last_not p (l.dropWhile p) hl)

/-- `trim` is idempotent. -/
@[simp] theorem trim_trim (s : String) : trim (trim s) = trim s := by
  simp only [trim, String.toList_ofList, trimList_trimList]

/-- Trimming keeps a contiguous part of the list. -/
theorem trimList_sublist (l : List α) : (trimList p l).Sublist l :=
  (List.rdropWhile_prefix p _).sublist.trans (List.dropWhile_sublist p)

/-! ## UTF-8 -/

/-- `str::as_bytes`. -/
def asBytes (s : String) : Bytes := s.toByteArray.data.toList

/-- `std::str::from_utf8`. -/
def fromUtf8? (bytes : Bytes) : Option String := String.fromUTF8? ⟨bytes.toArray⟩

theorem fromUtf8?_eq_some {bytes : Bytes} {s : String} :
    fromUtf8? bytes = some s ↔ asBytes s = bytes := by
  unfold fromUtf8? asBytes String.fromUTF8?
  constructor
  · intro h
    split at h
    · cases h
      rfl
    · cases h
  · rintro rfl
    have hbytes : (⟨s.toByteArray.data.toList.toArray⟩ : ByteArray) = s.toByteArray := rfl
    have hvalid : (⟨s.toByteArray.data.toList.toArray⟩ : ByteArray).IsValidUTF8 :=
      hbytes ▸ s.isValidUTF8
    rw [dif_pos hvalid]
    rfl

@[simp] theorem fromUtf8?_asBytes (s : String) : fromUtf8? (asBytes s) = some s :=
  fromUtf8?_eq_some.mpr rfl

theorem asBytes_injective {s t : String} (h : asBytes s = asBytes t) : s = t := by
  have hs := fromUtf8?_asBytes s
  rw [h, fromUtf8?_asBytes] at hs
  exact (Option.some.inj hs).symm

theorem asBytes_ofList (l : List Char) :
    asBytes (String.ofList l) = l.flatMap String.utf8EncodeChar := by
  change (l.flatMap String.utf8EncodeChar).toByteArray.data.toList = _
  simp

theorem asBytes_eq_flatMap (s : String) : asBytes s = s.toList.flatMap String.utf8EncodeChar := by
  rw [← asBytes_ofList, String.ofList_toList]

@[simp] theorem asBytes_eq_nil {s : String} : asBytes s = [] ↔ s = "" := by
  constructor
  · intro h
    have hempty : fromUtf8? [] = some s := fromUtf8?_eq_some.mpr h
    have hnil : fromUtf8? [] = some "" := fromUtf8?_eq_some.mpr rfl
    exact Option.some.inj (hempty.symm.trans hnil)
  · rintro rfl
    rfl

@[simp] theorem asBytes_empty : asBytes "" = [] := asBytes_eq_nil.mpr rfl

theorem mem_of_mem_trim {a : Char} {s : String} (ha : a ∈ (trim s).toList) : a ∈ s.toList := by
  rw [trim, String.toList_ofList] at ha
  exact (trimList_sublist s.toList).subset ha

/-- A trimmed string is no longer than the string. -/
theorem length_asBytes_trim_le (s : String) :
    (asBytes (trim s)).length ≤ (asBytes s).length := by
  rw [asBytes_eq_flatMap s, trim, asBytes_ofList]
  exact ((trimList_sublist s.toList).flatMap String.utf8EncodeChar).length_le

end Netdisk2Blob.Library.Text
