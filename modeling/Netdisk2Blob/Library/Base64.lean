import Netdisk2Blob.Library.Text

/-!
# Base64

The standard alphabet with padding, as an encoder and a strict decoder.

## Contents

- `encodeBase64`, `decodeBase64`
- `decodeBase64_encodeBase64`: the round trip
- `trim_encodeBase64`: an encoding has no whitespace
-/

namespace Netdisk2Blob.Library.Text

def base64Alphabet : List Char :=
  "ABCDEFGHIJKLMNOPQRSTUVWXYZabcdefghijklmnopqrstuvwxyz0123456789+/".toList

/-- The character of a value below 64. -/
def sextetChar (n : Nat) : Char := base64Alphabet.getD n 'A'

def charSextet (c : Char) : Option Nat := base64Alphabet.idxOf? c

theorem charSextet_sextetChar : ∀ n < 64, charSextet (sextetChar n) = some n := by
  decide +kernel

theorem sextetChar_ne_pad : ∀ n < 64, sextetChar n ≠ '=' := by
  decide +kernel

theorem not_isWhitespace_sextetChar : ∀ n < 64, isWhitespace (sextetChar n) = false := by
  decide +kernel

/-- Three bytes at a time; one or two bytes at the end are padded. -/
def base64Chars : List UInt8 → List Char
  | [] => []
  | [a] =>
    let n := 16 * a.toNat
    [sextetChar (n / 64), sextetChar (n % 64), '=', '=']
  | [a, b] =>
    let n := 4 * (256 * a.toNat + b.toNat)
    [sextetChar (n / 4096), sextetChar (n / 64 % 64), sextetChar (n % 64), '=']
  | a :: b :: c :: rest =>
    let n := 65536 * a.toNat + 256 * b.toNat + c.toNat
    sextetChar (n / 262144) :: sextetChar (n / 4096 % 64) :: sextetChar (n / 64 % 64) ::
      sextetChar (n % 64) :: base64Chars rest

/-- The last four characters, padded. -/
def base64PaddedBytes (w x y : Char) : Option (List UInt8) := do
  let high ← charSextet w
  let next ← charSextet x
  if y = '=' then
    let n := 64 * high + next
    if n % 16 = 0 then some [UInt8.ofNat (n / 16)] else none
  else
    let low ← charSextet y
    let n := 4096 * high + 64 * next + low
    if n % 4 = 0 then some [UInt8.ofNat (n / 1024), UInt8.ofNat (n / 4 % 256)] else none

/-- The decoder takes padding at the end only, with no bits left over. -/
def base64Bytes : List Char → Option (List UInt8)
  | [] => some []
  | w :: x :: y :: z :: rest =>
    if z = '=' then
      if rest.isEmpty then base64PaddedBytes w x y else none
    else do
      let n := 262144 * (← charSextet w) + 4096 * (← charSextet x) + 64 * (← charSextet y) +
        (← charSextet z)
      let bytes ← base64Bytes rest
      some (UInt8.ofNat (n / 65536) :: UInt8.ofNat (n / 256 % 256) :: UInt8.ofNat (n % 256) ::
        bytes)
  | _ => none

def encodeBase64 (bytes : Bytes) : String := String.ofList (base64Chars bytes)

def decodeBase64 (s : String) : Option Bytes := base64Bytes s.toList

/-- A byte from a number that is equal to it. -/
theorem ofNat_eq_of_toNat {a : UInt8} {n : Nat} (h : n = a.toNat) : UInt8.ofNat n = a := by
  rw [h]
  exact UInt8.ofNat_toNat

theorem base64Bytes_base64Chars (bytes : List UInt8) :
    base64Bytes (base64Chars bytes) = some bytes := by
  induction bytes using base64Chars.induct with
  | case1 => rfl
  | case2 a =>
    have ha := a.toNat_lt
    simp only [base64Chars, base64Bytes, base64PaddedBytes, List.isEmpty_nil, if_true]
    rw [charSextet_sextetChar _ (by omega), charSextet_sextetChar _ (by omega)]
    have hwhole : 64 * (16 * a.toNat / 64) + 16 * a.toNat % 64 = 16 * a.toNat := by omega
    simp only [Option.bind_eq_bind, Option.bind_some, hwhole]
    rw [if_pos (by omega), ofNat_eq_of_toNat (a := a) (by omega)]
  | case3 a b =>
    have ha := a.toNat_lt
    have hb := b.toNat_lt
    simp only [base64Chars, base64Bytes, base64PaddedBytes, List.isEmpty_nil, if_true]
    have hlow : sextetChar (4 * (256 * a.toNat + b.toNat) % 64) ≠ '=' :=
      sextetChar_ne_pad _ (by omega)
    rw [charSextet_sextetChar _ (by omega), charSextet_sextetChar _ (by omega),
      charSextet_sextetChar _ (by omega)]
    have hwhole : 4096 * (4 * (256 * a.toNat + b.toNat) / 4096) +
        64 * (4 * (256 * a.toNat + b.toNat) / 64 % 64) + 4 * (256 * a.toNat + b.toNat) % 64 =
        4 * (256 * a.toNat + b.toNat) := by omega
    simp only [Option.bind_eq_bind, Option.bind_some, hlow, if_false, hwhole]
    rw [if_pos (by omega), ofNat_eq_of_toNat (a := a) (by omega),
      ofNat_eq_of_toNat (a := b) (by omega)]
  | case4 a b c rest ih =>
    have ha := a.toNat_lt
    have hb := b.toNat_lt
    have hc := c.toNat_lt
    simp only [base64Chars, base64Bytes]
    rw [if_neg (sextetChar_ne_pad _ (by omega)), charSextet_sextetChar _ (by omega),
      charSextet_sextetChar _ (by omega), charSextet_sextetChar _ (by omega),
      charSextet_sextetChar _ (by omega), ih]
    -- the four values are the digits of the three bytes
    have hwhole : ∀ n, 262144 * (n / 262144) + 4096 * (n / 4096 % 64) + 64 * (n / 64 % 64) +
        n % 64 = n := by
      intro n
      omega
    simp only [Option.bind_eq_bind, Option.bind_some, hwhole]
    rw [ofNat_eq_of_toNat (a := a) (by omega), ofNat_eq_of_toNat (a := b) (by omega),
      ofNat_eq_of_toNat (a := c) (by omega)]

theorem decodeBase64_encodeBase64 (bytes : Bytes) :
    decodeBase64 (encodeBase64 bytes) = some bytes := by
  rw [decodeBase64, encodeBase64, String.toList_ofList, base64Bytes_base64Chars]

theorem not_isWhitespace_of_mem_base64Chars {bytes : List UInt8} {c : Char}
    (hc : c ∈ base64Chars bytes) : isWhitespace c = false := by
  have hpad : isWhitespace '=' = false := by decide
  induction bytes using base64Chars.induct with
  | case1 => cases hc
  | case2 a =>
    have ha := a.toNat_lt
    simp only [base64Chars, List.mem_cons, List.not_mem_nil, or_false] at hc
    rcases hc with rfl | rfl | rfl | rfl
    · exact not_isWhitespace_sextetChar _ (by omega)
    · exact not_isWhitespace_sextetChar _ (by omega)
    · exact hpad
    · exact hpad
  | case3 a b =>
    have ha := a.toNat_lt
    have hb := b.toNat_lt
    simp only [base64Chars, List.mem_cons, List.not_mem_nil, or_false] at hc
    rcases hc with rfl | rfl | rfl | rfl
    · exact not_isWhitespace_sextetChar _ (by omega)
    · exact not_isWhitespace_sextetChar _ (by omega)
    · exact not_isWhitespace_sextetChar _ (by omega)
    · exact hpad
  | case4 a b c rest ih =>
    have ha := a.toNat_lt
    have hb := b.toNat_lt
    have hc := c.toNat_lt
    rename_i hmem
    simp only [base64Chars, List.mem_cons] at hmem
    rcases hmem with rfl | rfl | rfl | rfl | hrest
    · exact not_isWhitespace_sextetChar _ (by omega)
    · exact not_isWhitespace_sextetChar _ (by omega)
    · exact not_isWhitespace_sextetChar _ (by omega)
    · exact not_isWhitespace_sextetChar _ (by omega)
    · exact ih hrest

/-- A text without whitespace is not trimmed. -/
theorem trim_eq_self {s : String} (h : ∀ c ∈ s.toList, isWhitespace c = false) : trim s = s := by
  have htrim : trimList isWhitespace s.toList = s.toList := by
    apply trimList_eq_self
    · intro hl
      rw [h _ (List.get_mem _ _)]
      exact Bool.false_ne_true
    · intro hl
      rw [h _ (List.getLast_mem hl)]
      exact Bool.false_ne_true
  rw [trim, htrim, String.ofList_toList]

theorem trim_encodeBase64 (bytes : Bytes) : trim (encodeBase64 bytes) = encodeBase64 bytes := by
  apply trim_eq_self
  intro c hc
  rw [encodeBase64, String.toList_ofList] at hc
  exact not_isWhitespace_of_mem_base64Chars hc

end Netdisk2Blob.Library.Text
