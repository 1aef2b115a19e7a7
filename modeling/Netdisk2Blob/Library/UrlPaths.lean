import Netdisk2Blob.Library.Text

/-!
# Paths of URLs

Percent-encoding of everything that is not an ASCII letter or digit, the decoding of a
path segment, and the resolution of dot segments that a URL library makes before it sends
a request: a segment `.` is dropped and a segment `..` takes its parent away, plain or
percent-encoded.

## Contents

- `percentEncode`, `percentDecode`: the round trip of a segment (`percentDecode_percentEncode`)
- `percentDecode_append_slash`, `percentDecode_parts`, `length_percentDecode_le`: decoding goes
  part by part and makes nothing longer
- `resolveDotSegments`: a path without dot segments stays as it is, and a resolved path has
  none (`not_dot_of_mem_resolve`) and no segment that was not there (`resolve_sublist`)
- `isSingleDot_percentEncode`, `isDoubleDot_percentEncode`: encoding a dot segment does not
  hide it
-/

namespace Netdisk2Blob.Library.UrlPaths

open Library.Text

/-! ## Section 1: Percent-encoding -/

/-- An uppercase hexadecimal digit. -/
def upperHexDigit (n : Nat) : Char := "0123456789ABCDEF".toList.getD n '0'

/-- The value of a hexadecimal digit of either case. -/
def hexValue (c : Char) : Option Nat :=
  if '0' ≤ c ∧ c ≤ '9' then some (c.toNat - '0'.toNat)
  else if 'A' ≤ c ∧ c ≤ 'F' then some (c.toNat - 'A'.toNat + 10)
  else if 'a' ≤ c ∧ c ≤ 'f' then some (c.toNat - 'a'.toNat + 10)
  else none

/-- The code of an ASCII letter or digit. -/
def isAsciiAlphanumeric (n : Nat) : Bool :=
  (48 ≤ n && n ≤ 57) || (65 ≤ n && n ≤ 90) || (97 ≤ n && n ≤ 122)

/-- What stands for a byte in an encoded segment. -/
def encodeByte (n : Nat) : List Char :=
  if isAsciiAlphanumeric n then [Char.ofNat n]
  else ['%', upperHexDigit (n / 16), upperHexDigit (n % 16)]

/-- Every byte of the text that is not an ASCII letter or digit is written as `%XX`. -/
def percentEncode (segment : String) : String :=
  String.ofList ((asBytes segment).flatMap (fun byte => encodeByte byte.toNat))

/-- The bytes that an encoded text stands for. -/
def decodedBytes : List Char → Bytes
  | [] => []
  | '%' :: a :: b :: rest =>
    match hexValue a, hexValue b with
    | some high, some low => UInt8.ofNat (16 * high + low) :: decodedBytes rest
    | _, _ => 37 :: decodedBytes (a :: b :: rest)
  | c :: rest => String.utf8EncodeChar c ++ decodedBytes rest

/-- The text that an encoded segment stands for. -/
def percentDecode (segment : String) : Option String :=
  fromUtf8? (decodedBytes segment.toList)

/-- One encoded byte is read back, whatever follows it. -/
theorem decodedBytes_encodeByte (byte : UInt8) (rest : List Char) :
    decodedBytes (encodeByte byte.toNat ++ rest) = byte :: decodedBytes rest := by
  -- the letters and digits stand for themselves, every other byte for its two digits
  have hplain : ∀ n < 256, isAsciiAlphanumeric n →
      Char.ofNat n ≠ '%' ∧ String.utf8EncodeChar (Char.ofNat n) = [UInt8.ofNat n] := by
    decide +kernel
  have hdigits : ∀ n < 256, hexValue (upperHexDigit (n / 16)) = some (n / 16) ∧
      hexValue (upperHexDigit (n % 16)) = some (n % 16) := by
    decide +kernel
  have hlt : byte.toNat < 256 := byte.toNat_lt
  unfold encodeByte
  split
  · rename_i halpha
    obtain ⟨hne, hutf8⟩ := hplain byte.toNat hlt halpha
    rw [List.singleton_append, decodedBytes, hutf8, UInt8.ofNat_toNat, List.singleton_append]
    intro a b tail hpercent
    exact absurd hpercent hne
  · obtain ⟨hhigh, hlow⟩ := hdigits byte.toNat hlt
    simp only [List.cons_append, List.nil_append, decodedBytes, hhigh, hlow]
    rw [Nat.div_add_mod, UInt8.ofNat_toNat]

/-- A segment is read back from its encoding. -/
@[simp] theorem percentDecode_percentEncode (segment : String) :
    percentDecode (percentEncode segment) = some segment := by
  have hbytes : ∀ bytes : Bytes,
      decodedBytes (bytes.flatMap (fun byte => encodeByte byte.toNat)) = bytes := by
    intro bytes
    induction bytes with
    | nil => rfl
    | cons byte bytes ih => rw [List.flatMap_cons, decodedBytes_encodeByte, ih]
  rw [percentDecode, percentEncode, String.toList_ofList, hbytes, fromUtf8?_asBytes]

/-- An encoded segment holds none of the characters that structure a path. -/
theorem not_mem_percentEncode {c : Char} {segment : String}
    (hc : c = '/' ∨ c = ':' ∨ c = '.') : c ∉ (percentEncode segment).toList := by
  have hbytes : ∀ n < 256, '/' ∉ encodeByte n ∧ ':' ∉ encodeByte n ∧ '.' ∉ encodeByte n := by
    decide +kernel
  rw [percentEncode, String.toList_ofList]
  intro hmem
  obtain ⟨byte, -, hbyte⟩ := List.mem_flatMap.mp hmem
  obtain ⟨hslash, hcolon, hdot⟩ := hbytes byte.toNat byte.toNat_lt
  rcases hc with rfl | rfl | rfl
  · exact hslash hbyte
  · exact hcolon hbyte
  · exact hdot hbyte

/-! ### Decoding in parts -/

theorem decodedBytes_cons_of_ne {c : Char} (h : c ≠ '%') (rest : List Char) :
    decodedBytes (c :: rest) = String.utf8EncodeChar c ++ decodedBytes rest := by
  rw [decodedBytes]
  intro a b tail hpercent
  exact absurd hpercent h

/-- A percent sign without two hexadecimal digits stands for itself. -/
theorem decodedBytes_percent {rest : List Char}
    (h : ∀ a b tail, rest = a :: b :: tail → hexValue a = none ∨ hexValue b = none) :
    decodedBytes ('%' :: rest) = 37 :: decodedBytes rest := by
  match rest, h with
  | [], _ => rfl
  | [a], _ => rfl
  | a :: b :: tail, h =>
    rw [decodedBytes]
    rcases h a b tail rfl with hnone | hnone
    · rw [hnone]
    · rw [hnone]
      cases hexValue a <;> rfl

/-- Decoding goes part by part, since a slash is no hexadecimal digit. -/
theorem decodedBytes_append_slash (first rest : List Char) :
    decodedBytes (first ++ '/' :: rest) = decodedBytes first ++ 47 :: decodedBytes rest := by
  have hslash : decodedBytes ('/' :: rest) = 47 :: decodedBytes rest :=
    decodedBytes_cons_of_ne (by decide) rest
  induction first using decodedBytes.induct with
  | case1 => exact hslash
  | case2 a b tail high low hhigh hlow ih =>
    simp only [List.cons_append, decodedBytes, hhigh, hlow, ih]
  | case3 a b tail hnone ih =>
    have hdigits : hexValue a = none ∨ hexValue b = none := by
      cases ha : hexValue a with
      | none => exact Or.inl rfl
      | some high =>
        cases hb : hexValue b with
        | none => exact Or.inr rfl
        | some low => exact absurd hb (hnone high low ha)
    rw [List.cons_append, decodedBytes_percent, decodedBytes_percent, ih, List.cons_append]
    · intro a' b' tail' heq
      cases heq
      exact hdigits
    · intro a' b' tail' heq
      cases heq
      exact hdigits
  | case4 c tail hnot ih =>
    rw [List.cons_append]
    by_cases hpercent : c = '%'
    · -- fewer than two characters of the part follow the percent sign
      subst hpercent
      rw [decodedBytes_percent, decodedBytes_percent, ih, List.cons_append]
      · intro a b tail' heq
        exact absurd heq (hnot a b tail' rfl)
      · intro a b tail' heq
        match tail, hnot with
        | [], _ =>
          cases heq
          exact Or.inl (by decide)
        | [d], _ =>
          cases heq
          exact Or.inr (by decide)
        | d :: e :: tail, hnot => exact absurd rfl (hnot d e tail rfl)
    · rw [decodedBytes_cons_of_ne hpercent, decodedBytes_cons_of_ne hpercent, ih,
        List.append_assoc]

theorem asBytes_append_slash (first rest : String) :
    asBytes (first ++ "/" ++ rest) = asBytes first ++ 47 :: asBytes rest := by
  rw [asBytes_eq_flatMap, asBytes_eq_flatMap, asBytes_eq_flatMap, String.toList_append,
    String.toList_append, List.append_assoc, List.flatMap_append, List.flatMap_append]
  rfl

theorem percentDecode_eq_some {segment text : String} :
    percentDecode segment = some text ↔ asBytes text = decodedBytes segment.toList :=
  fromUtf8?_eq_some

/-- A text without a percent sign stands for itself. -/
theorem percentDecode_plain {segment : String} (h : '%' ∉ segment.toList) :
    percentDecode segment = some segment := by
  have hbytes : ∀ l : List Char, '%' ∉ l → decodedBytes l = l.flatMap String.utf8EncodeChar := by
    intro l
    induction l with
    | nil =>
      intro _
      rfl
    | cons c l ih =>
      intro hmem
      rw [List.mem_cons, not_or] at hmem
      rw [decodedBytes_cons_of_ne (Ne.symm hmem.1), ih hmem.2, List.flatMap_cons]
  rw [percentDecode_eq_some, hbytes _ h, asBytes_eq_flatMap]

theorem percentDecode_append_slash {first rest first' rest' : String}
    (hfirst : percentDecode first = some first') (hrest : percentDecode rest = some rest') :
    percentDecode (first ++ "/" ++ rest) = some (first' ++ "/" ++ rest') := by
  rw [percentDecode_eq_some] at hfirst hrest ⊢
  rw [asBytes_append_slash, hfirst, hrest, String.toList_append, String.toList_append,
    List.append_assoc]
  exact (decodedBytes_append_slash _ _).symm

/-! ### What decoding leaves as it is -/

/-- Decoding makes nothing longer, as to bytes. -/
theorem length_decodedBytes_le (l : List Char) :
    (decodedBytes l).length ≤ (l.flatMap String.utf8EncodeChar).length := by
  have hchar : ∀ c, 1 ≤ (String.utf8EncodeChar c).length := fun c =>
    List.length_pos_iff.mpr String.utf8EncodeChar_ne_nil
  induction l using decodedBytes.induct with
  | case1 => exact le_refl _
  | case2 a b tail high low hhigh hlow ih =>
    have ha := hchar a
    simp only [decodedBytes, hhigh, hlow, List.flatMap_cons, List.length_append, List.length_cons]
    omega
  | case3 a b tail hnone ih =>
    have hpercent := hchar '%'
    rw [decodedBytes, List.flatMap_cons, List.length_append]
    split
    · rename_i high low hhigh hlow
      exact absurd hlow (hnone high low hhigh)
    · rw [List.length_cons]
      omega
  | case4 c tail hnot ih =>
    rw [decodedBytes, List.flatMap_cons, List.length_append, List.length_append]
    · omega
    · exact hnot

/-- The parts of a text without escapes have none. -/
theorem percentDecode_parts {first rest : String}
    (h : percentDecode (first ++ "/" ++ rest) = some (first ++ "/" ++ rest)) :
    percentDecode first = some first ∧ percentDecode rest = some rest := by
  rw [percentDecode_eq_some, asBytes_append_slash, String.toList_append, String.toList_append,
    List.append_assoc] at h
  change _ = decodedBytes (first.toList ++ '/' :: rest.toList) at h
  rw [decodedBytes_append_slash] at h
  have hfirst := length_decodedBytes_le first.toList
  have hrest := length_decodedBytes_le rest.toList
  rw [← asBytes_eq_flatMap] at hfirst hrest
  have hlength := congrArg List.length h
  simp only [List.length_append, List.length_cons] at hlength
  obtain ⟨hone, htwo⟩ := List.append_inj h (by omega)
  exact ⟨percentDecode_eq_some.mpr hone, percentDecode_eq_some.mpr (List.cons.inj htwo).2⟩

/-- A nonempty segment stands for a nonempty text. -/
theorem percentDecode_ne_empty {segment text : String} (h : percentDecode segment = some text)
    (hne : segment ≠ "") : text ≠ "" := by
  rintro rfl
  rw [percentDecode_eq_some, asBytes_empty] at h
  cases hsegment : segment.toList with
  | nil => exact hne (String.toList_inj.mp hsegment)
  | cons c tail =>
    rw [hsegment] at h
    rw [decodedBytes.eq_def] at h
    split at h
    · rename_i hnil
      cases hnil
    · split at h <;> cases h
    · exact absurd (List.append_eq_nil_iff.mp h.symm).1 String.utf8EncodeChar_ne_nil

/-- Only the slash is encoded with the byte of the slash in front. -/
theorem eq_slash_of_utf8EncodeChar {c : Char} {rest : Bytes}
    (h : String.utf8EncodeChar c = 47 :: rest) : c = '/' := by
  have hcode : c.toNat = 47 := by
    change c.val.toNat = 47
    unfold String.utf8EncodeChar at h
    dsimp only at h
    split_ifs at h with hone htwo hthree
    all_goals
      have hfirst := congrArg UInt8.toNat (List.cons.inj h).1
      simp only [UInt8.toNat_ofNat'] at hfirst
      have hslash : (47 : UInt8).toNat = 47 := rfl
      omega
  exact Char.toNat_inj.mp hcode

theorem percentDecode_slash {rest text : String} (h : percentDecode ("/" ++ rest) = some text) :
    ∃ text', text = "/" ++ text' := by
  rw [percentDecode_eq_some, asBytes_eq_flatMap, String.toList_append] at h
  change _ = decodedBytes ([] ++ '/' :: rest.toList) at h
  rw [decodedBytes_append_slash] at h
  cases htext : text.toList with
  | nil =>
    rw [htext] at h
    cases h
  | cons c tail =>
    rw [htext, List.flatMap_cons] at h
    have hslash : c = '/' := by
      cases hc : String.utf8EncodeChar c with
      | nil => exact absurd hc String.utf8EncodeChar_ne_nil
      | cons byte bytes =>
        rw [hc] at h
        have hbyte : byte = 47 := (List.cons.inj h).1
        exact eq_slash_of_utf8EncodeChar (hbyte ▸ hc)
    refine ⟨String.ofList tail, ?_⟩
    rw [← String.toList_inj, htext, hslash]
    simp

/-- The first bytes of characters. -/
def firstBytes (bytes : Bytes) : Nat := bytes.countP (fun byte => decide byte.IsUTF8FirstByte)

theorem firstBytes_utf8EncodeChar (c : Char) : firstBytes (String.utf8EncodeChar c) = 1 := by
  have hfirst : ∀ (i : Nat) (hi : i < (String.utf8EncodeChar c).length),
      (String.utf8EncodeChar c)[i].IsUTF8FirstByte ↔ i = 0 :=
    fun i hi => UInt8.isUTF8FirstByte_getElem_utf8EncodeChar
  have hne : String.utf8EncodeChar c ≠ [] := String.utf8EncodeChar_ne_nil
  unfold firstBytes
  generalize String.utf8EncodeChar c = l at hfirst hne
  cases l with
  | nil => exact absurd rfl hne
  | cons byte tail =>
    have hhead : byte.IsUTF8FirstByte := (hfirst 0 (by simp)).mpr rfl
    have htail : tail.countP (fun byte => decide byte.IsUTF8FirstByte) = 0 := by
      rw [List.countP_eq_zero]
      intro other hother hdecide
      obtain ⟨i, hi, rfl⟩ := List.getElem_of_mem hother
      have hzero := (hfirst (i + 1) (by simpa using hi)).mp (of_decide_eq_true hdecide)
      cases hzero
    rw [List.countP_cons, htail, if_pos (decide_eq_true hhead)]

theorem firstBytes_asBytes (s : String) : firstBytes (asBytes s) = s.toList.length := by
  rw [asBytes_eq_flatMap]
  induction s.toList with
  | nil => rfl
  | cons c tail ih =>
    have happend : firstBytes (String.utf8EncodeChar c ++ tail.flatMap String.utf8EncodeChar) =
        firstBytes (String.utf8EncodeChar c) + firstBytes (tail.flatMap String.utf8EncodeChar) :=
      List.countP_append
    rw [List.flatMap_cons, happend, firstBytes_utf8EncodeChar, ih, List.length_cons]
    omega

theorem firstBytes_decodedBytes_le (l : List Char) : firstBytes (decodedBytes l) ≤ l.length := by
  have hcons : ∀ (byte : UInt8) (bytes : Bytes),
      firstBytes (byte :: bytes) ≤ firstBytes bytes + 1 := by
    intro byte bytes
    unfold firstBytes
    rw [List.countP_cons]
    split <;> omega
  induction l using decodedBytes.induct with
  | case1 => exact le_refl _
  | case2 a b tail high low hhigh hlow ih =>
    have hbyte := hcons (UInt8.ofNat (16 * high + low)) (decodedBytes tail)
    simp only [decodedBytes, hhigh, hlow, List.length_cons]
    omega
  | case3 a b tail hnone ih =>
    have hbyte := hcons 37 (decodedBytes (a :: b :: tail))
    rw [decodedBytes]
    split
    · rename_i high low hhigh hlow
      exact absurd hlow (hnone high low hhigh)
    · rw [List.length_cons]
      omega
  | case4 c tail hnot ih =>
    have happend : firstBytes (String.utf8EncodeChar c ++ decodedBytes tail) =
        firstBytes (String.utf8EncodeChar c) + firstBytes (decodedBytes tail) :=
      List.countP_append
    rw [decodedBytes, happend, firstBytes_utf8EncodeChar, List.length_cons]
    · omega
    · exact hnot

/-- Decoding makes nothing longer, as to characters. -/
theorem length_percentDecode_le {segment text : String} (h : percentDecode segment = some text) :
    text.toList.length ≤ segment.toList.length := by
  rw [← firstBytes_asBytes, percentDecode_eq_some.mp h]
  exact firstBytes_decodedBytes_le _

/-! ## Section 2: Dot segments -/

/-- A segment that a URL library drops. -/
def isSingleDot (segment : String) : Bool :=
  [".", "%2e"].contains (toAsciiLowercase segment)

/-- A segment that a URL library takes for the parent. -/
def isDoubleDot (segment : String) : Bool :=
  ["..", ".%2e", "%2e.", "%2e%2e"].contains (toAsciiLowercase segment)

/-- One segment of a path that is being resolved. -/
def resolveSegment (resolved : List String) (segment : String) : List String :=
  if isDoubleDot segment then resolved.dropLast
  else if isSingleDot segment then resolved
  else resolved ++ [segment]

/-- The segments of a path after its dot segments are resolved. -/
def resolveDotSegments (segments : List String) : List String :=
  segments.foldl resolveSegment []

/-- A segment that is one of the two dot segments. -/
def isDotSegment (segment : String) : Bool := isSingleDot segment || isDoubleDot segment

theorem resolveSegment_of_not_dot {resolved : List String} {segment : String}
    (h : isDotSegment segment = false) : resolveSegment resolved segment = resolved ++ [segment] := by
  obtain ⟨hsingle, hdouble⟩ := Bool.or_eq_false_iff.mp h
  simp [resolveSegment, hsingle, hdouble]

/-- A path without dot segments stays as it is. -/
theorem resolve_of_forall_not_dot {segments : List String}
    (h : ∀ segment ∈ segments, isDotSegment segment = false) (resolved : List String) :
    segments.foldl resolveSegment resolved = resolved ++ segments := by
  induction segments generalizing resolved with
  | nil => simp
  | cons segment segments ih =>
    obtain ⟨hsegment, hsegments⟩ := List.forall_mem_cons.mp h
    rw [List.foldl_cons, resolveSegment_of_not_dot hsegment, ih hsegments]
    simp

theorem resolveDotSegments_of_forall_not_dot {segments : List String}
    (h : ∀ segment ∈ segments, isDotSegment segment = false) :
    resolveDotSegments segments = segments :=
  resolve_of_forall_not_dot h []

/-- Resolving only takes segments away. -/
theorem resolve_sublist (segments resolved : List String) :
    (segments.foldl resolveSegment resolved).Sublist (resolved ++ segments) := by
  induction segments generalizing resolved with
  | nil => simp
  | cons segment segments ih =>
    have hstep : (resolveSegment resolved segment).Sublist (resolved ++ [segment]) := by
      unfold resolveSegment
      split_ifs
      · exact (List.dropLast_sublist resolved).trans (List.sublist_append_left _ _)
      · exact List.sublist_append_left _ _
      · exact List.Sublist.refl _
    have hrest := (ih (resolveSegment resolved segment)).trans (hstep.append_right segments)
    rw [List.append_assoc] at hrest
    exact hrest

/-- What a resolved path adds to what was there is no dot segment. -/
theorem not_dot_of_mem_resolve {segments resolved : List String} {segment : String}
    (h : segment ∈ segments.foldl resolveSegment resolved) :
    segment ∈ resolved ∨ isDotSegment segment = false := by
  induction segments generalizing resolved with
  | nil => exact Or.inl h
  | cons other segments ih =>
    rcases ih h with hmem | hdot
    · unfold resolveSegment at hmem
      split_ifs at hmem with hdouble hsingle
      · exact Or.inl ((List.dropLast_subset resolved) hmem)
      · exact Or.inl hmem
      · rcases List.mem_append.mp hmem with hmem | hmem
        · exact Or.inl hmem
        · obtain rfl := List.mem_singleton.mp hmem
          exact Or.inr (by simp [isDotSegment, hdouble, hsingle])
    · exact Or.inr hdot

/-! ## Section 3: Encoded dot segments -/

/-- A character below the lowercase letters is the only one with this lowercase form. -/
theorem eq_of_toLower_eq {c d : Char} (hd : d.toNat < 97) (h : c.toLower = d) : c = d := by
  by_cases hupper : 65 ≤ c.toNat ∧ c.toNat ≤ 90
  · have hval := toNat_toLower hupper
    rw [h] at hval
    omega
  · rw [← h, toLower_eq_self hupper]

theorem eq_of_toLower_eq_e {c : Char} (h : c.toLower = 'e') : c = 'e' ∨ c = 'E' := by
  by_cases hupper : 65 ≤ c.toNat ∧ c.toNat ≤ 90
  · have hval := toNat_toLower hupper
    rw [h] at hval
    have hcode : c.toNat = 'E'.toNat := by
      change 101 = c.toNat + 32 at hval
      change c.toNat = 69
      omega
    exact Or.inr (Char.toNat_inj.mp hcode)
  · exact Or.inl (by rw [← h, toLower_eq_self hupper])

/-- The spellings of an encoded dot. -/
theorem encodedDot_of_toLower {l rest : List Char} (h : l.map Char.toLower = '%' :: '2' :: 'e' :: rest) :
    ∃ tail, (l = '%' :: '2' :: 'e' :: tail ∨ l = '%' :: '2' :: 'E' :: tail) ∧
      tail.map Char.toLower = rest := by
  obtain ⟨a, l₁, rfl, ha, h₁⟩ := List.map_eq_cons_iff.mp h
  obtain ⟨b, l₂, rfl, hb, h₂⟩ := List.map_eq_cons_iff.mp h₁
  obtain ⟨c, tail, rfl, hc, hrest⟩ := List.map_eq_cons_iff.mp h₂
  obtain rfl := eq_of_toLower_eq (by decide) ha
  obtain rfl := eq_of_toLower_eq (by decide) hb
  refine ⟨tail, ?_, hrest⟩
  rcases eq_of_toLower_eq_e hc with rfl | rfl
  · exact Or.inl rfl
  · exact Or.inr rfl

/-- An encoded segment stands for the text that its characters decode to. -/
theorem eq_of_toList_percentEncode {segment text : String} {l : List Char}
    (hl : (percentEncode segment).toList = l) (h : fromUtf8? (decodedBytes l) = some text) :
    segment = text := by
  have hself := percentDecode_percentEncode segment
  rw [percentDecode, hl, h] at hself
  exact (Option.some.inj hself).symm

theorem toList_map_toLower {s t : String} (h : toAsciiLowercase s = t) :
    s.toList.map Char.toLower = t.toList := by
  rw [← h, toAsciiLowercase, String.toList_ofList]

/-- A lowercase form with a plain dot is not that of an encoded segment. -/
theorem not_toLower_percentEncode {segment : String} {t : List Char} (hdot : '.' ∈ t) :
    (percentEncode segment).toList.map Char.toLower ≠ t := by
  rintro rfl
  obtain ⟨c, hc, hlower⟩ := List.mem_map.mp hdot
  obtain rfl := eq_of_toLower_eq (by decide) hlower
  exact not_mem_percentEncode (Or.inr (Or.inr rfl)) hc

/-- Encoding does not hide a `.` from the URL library, and makes no other text one. -/
theorem isSingleDot_percentEncode {segment : String} :
    isSingleDot (percentEncode segment) = true ↔ segment = "." := by
  constructor
  · intro h
    rw [isSingleDot, List.contains_iff_mem] at h
    rcases List.mem_cons.mp h with h | h
    · exact absurd (toList_map_toLower h) (not_toLower_percentEncode (by decide))
    · have hlower := toList_map_toLower (List.mem_singleton.mp h)
      obtain ⟨tail, hspelled, htail⟩ := encodedDot_of_toLower hlower
      obtain rfl := List.map_eq_nil_iff.mp htail
      rcases hspelled with hspelled | hspelled
      · exact eq_of_toList_percentEncode hspelled (by decide +kernel)
      · exact eq_of_toList_percentEncode hspelled (by decide +kernel)
  · rintro rfl
    decide +kernel

theorem isDoubleDot_percentEncode {segment : String} :
    isDoubleDot (percentEncode segment) = true ↔ segment = ".." := by
  constructor
  · intro h
    rw [isDoubleDot, List.contains_iff_mem] at h
    simp only [List.mem_cons, List.not_mem_nil, or_false] at h
    rcases h with h | h | h | h
    · exact absurd (toList_map_toLower h) (not_toLower_percentEncode (by decide))
    · exact absurd (toList_map_toLower h) (not_toLower_percentEncode (by decide))
    · exact absurd (toList_map_toLower h) (not_toLower_percentEncode (by decide))
    · obtain ⟨tail, hspelled, htail⟩ := encodedDot_of_toLower (toList_map_toLower h)
      obtain ⟨tail', hspelled', htail'⟩ := encodedDot_of_toLower htail
      obtain rfl := List.map_eq_nil_iff.mp htail'
      rcases hspelled' with rfl | rfl <;> rcases hspelled with hspelled | hspelled <;>
        exact eq_of_toList_percentEncode hspelled (by decide +kernel)
  · rintro rfl
    decide +kernel

theorem isDotSegment_percentEncode {segment : String} :
    isDotSegment (percentEncode segment) = true ↔ segment = "." ∨ segment = ".." := by
  rw [isDotSegment, Bool.or_eq_true, isSingleDot_percentEncode, isDoubleDot_percentEncode]

/-- A segment that holds a colon or another character of no dot segment is not resolved. -/
theorem isDotSegment_eq_false {c : Char} {segment : String} (hmem : c ∈ segment.toList)
    (hc : c.toLower ∉ ['.', '%', '2', 'e']) : isDotSegment segment = false := by
  have hlower : c.toLower ∈ (toAsciiLowercase segment).toList := by
    rw [toAsciiLowercase, String.toList_ofList]
    exact List.mem_map_of_mem hmem
  rw [isDotSegment, Bool.or_eq_false_iff]
  constructor
  · rw [← Bool.not_eq_true, isSingleDot, List.contains_iff_mem]
    intro h
    simp only [List.mem_cons, List.not_mem_nil, or_false] at h
    rcases h with h | h <;> rw [h] at hlower <;> revert hlower <;> simp at hc ⊢ <;> tauto
  · rw [← Bool.not_eq_true, isDoubleDot, List.contains_iff_mem]
    intro h
    simp only [List.mem_cons, List.not_mem_nil, or_false] at h
    rcases h with h | h | h | h <;> rw [h] at hlower <;> revert hlower <;> simp at hc ⊢ <;> tauto

end Netdisk2Blob.Library.UrlPaths
