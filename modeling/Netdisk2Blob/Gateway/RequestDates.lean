import Netdisk2Blob.Gateway.Authorization
import Netdisk2Blob.Library.Calendar
import Netdisk2Blob.Library.DecimalDigits
import Netdisk2Blob.Library.Panics
import Mathlib.Tactic.IntervalCases

/-!
# Request Dates

Every signed request carries the date at which it was signed, as sixteen bytes of the form
`YYYYMMDDTHHMMSSZ`. The gateway turns it into seconds and accepts the request within a window
around its own clock.

## Contents

- `parseAmzDatetimeToUnix`, `daysFromCivil`: the date of a request
- `validateSignedRequestTimeWindow`, `validatePresignedTimeWindow`
- `amzText`: the text of an instant of the calendar
- `ReadAsCalendar`: the text is read as the calendar defines it
- `TornCut`, `SignedDate`: cuts inside a character, signs in the place of digits
- `readAsCalendar_iff`
-/

namespace Netdisk2Blob.Gateway.RequestDates

open Library Library.Calendar Gateway

/-! ## Section 1: The date of a request -/

def i32Max : Nat := 2 ^ 31 - 1

/-- The digits of a number behind its sign, if they fit. -/
def parseDigits (max : Nat) (text : Bytes) : Option Nat :=
  if text.isEmpty || !text.all isDigitByte then none
  else if decimalValue text ≤ max then some (decimalValue text) else none

/-- `parse` of an unsigned integer type; a `+` may stand in front. -/
def parseUnsigned (max : Nat) : Bytes → Option Nat
  | 43 :: text => parseDigits max text
  | text => parseDigits max text

/-- `parse::<i32>`. -/
def parseI32 : Bytes → Option Int
  | 43 :: text => (parseDigits i32Max text).map Int.ofNat
  | 45 :: text => (parseDigits (i32Max + 1) text).map (fun n : Nat => -(n : Int))
  | text => (parseDigits i32Max text).map Int.ofNat

def isLeapYear (year : Int) : Bool := (year % 4 == 0 && year % 100 != 0) || year % 400 == 0

def monthDays (year : Int) : Nat → Option Nat
  | 1 => some 31
  | 2 => some (if isLeapYear year then 29 else 28)
  | 3 => some 31
  | 4 => some 30
  | 5 => some 31
  | 6 => some 30
  | 7 => some 31
  | 8 => some 31
  | 9 => some 30
  | 10 => some 31
  | 11 => some 30
  | 12 => some 31
  | _ => none

def monthOffsets : List Nat := [0, 31, 59, 90, 120, 151, 181, 212, 243, 273, 304, 334]

/-- The loop over the years since 1970. -/
def daysOfPastYears (year : Int) : Nat :=
  (List.range' 1970 (year.toNat - 1970)).foldl
    (fun (totalDays y : Nat) =>
      saturatingAddU64 totalDays (if isLeapYear (y : Int) then 366 else 365)) 0

def daysFromCivil (year : Int) (month day : Nat) : Option Nat :=
  match monthDays year month with
  | none => none
  | some monthDays =>
    if day = 0 ∨ monthDays < day then none
    else if year < 1970 then none
    else
      let totalDays := saturatingAddU64 (daysOfPastYears year) (monthOffsets.getD (month - 1) 0)
      let totalDays :=
        if 2 < month ∧ isLeapYear year = true then saturatingAddU64 totalDays 1 else totalDays
      some (saturatingAddU64 totalDays (day - 1))

/-- The numbers of a date as they are read. -/
structure AmzFields where
  year : Int
  month : Nat
  day : Nat
  hour : Nat
  minute : Nat
  second : Nat
  deriving DecidableEq, Repr

def readField {α : Type} (parse : Bytes → Option α) (value : Bytes) (i j : Nat)
    (message : String) : Panicking S3Error α := do
  let text ← strSlice value i j
  match parse text with
  | some field => .returns field
  | none => .fails (.signatureMismatch message)

def formatError : S3Error :=
  .signatureMismatch "X-Amz-Date must be in yyyyMMddTHHmmssZ format."

/-- The first half of the function: the form of the text and its numbers. -/
def readFields (value : Bytes) : Panicking S3Error AmzFields :=
  if value.length ≠ 16 then .fails formatError
  else do
    -- the second letter is only looked at when the first one stands
    let separator ← strSlice value 8 9
    if separator ≠ [84] then .fails formatError
    else do
      let zone ← strSlice value 15 16
      if zone ≠ [90] then .fails formatError
      else do
        let year ← readField parseI32 value 0 4 "X-Amz-Date has invalid year."
        let month ← readField (parseUnsigned u32Max) value 4 6 "X-Amz-Date has invalid month."
        let day ← readField (parseUnsigned u32Max) value 6 8 "X-Amz-Date has invalid day."
        let hour ← readField (parseUnsigned u64Max) value 9 11 "X-Amz-Date has invalid hour."
        let minute ← readField (parseUnsigned u64Max) value 11 13 "X-Amz-Date has invalid minute."
        let second ← readField (parseUnsigned u64Max) value 13 15 "X-Amz-Date has invalid second."
        .returns ⟨year, month, day, hour, minute, second⟩

/-- The second half: the ranges of the numbers and the seconds. -/
def secondsOfFields (fields : AmzFields) : Except S3Error Nat :=
  if ¬ (1 ≤ fields.month ∧ fields.month ≤ 12) ∨ ¬ (1 ≤ fields.day ∧ fields.day ≤ 31) ∨
      23 < fields.hour ∨ 59 < fields.minute ∨ 59 < fields.second then
    .error (.signatureMismatch "X-Amz-Date contains out-of-range values.")
  else
    match daysFromCivil fields.year fields.month fields.day with
    | none => .error (.signatureMismatch "X-Amz-Date is not a valid UTC date.")
    | some days =>
      .ok (saturatingAddU64
        (saturatingAddU64
          (saturatingAddU64 (saturatingMulU64 days 86400) (saturatingMulU64 fields.hour 3600))
          (saturatingMulU64 fields.minute 60))
        fields.second)

def parseAmzDatetimeToUnix (value : Bytes) : Panicking S3Error Nat := do
  let fields ← readFields value
  match secondsOfFields fields with
  | .ok seconds => .returns seconds
  | .error error => .fails error

/-! ## Section 2: The windows -/

/-- `current_unix_ms() / 1000` is the clock of both windows. -/
def validatePresignedTimeWindow (currentUnixMs : Nat) (amzDate : Bytes) (expires : Nat) :
    Panicking S3Error Unit := do
  let issuedAt ← parseAmzDatetimeToUnix amzDate
  let now := currentUnixMs / 1000
  if saturatingAddU64 now maxS3RequestTimeSkewSecs < issuedAt then
    .fails (.accessDenied "Request timestamp is too far in the future.")
  else if saturatingAddU64 issuedAt expires < now then
    .fails (.accessDenied "Request has expired.")
  else .returns ()

def validateSignedRequestTimeWindow (currentUnixMs : Nat) (amzDate : Bytes) :
    Panicking S3Error Unit := do
  let signedAt ← parseAmzDatetimeToUnix amzDate
  let now := currentUnixMs / 1000
  if saturatingAddU64 now maxS3RequestTimeSkewSecs < signedAt then
    .fails (.accessDenied "Request timestamp is too far in the future.")
  else if saturatingAddU64 signedAt maxS3RequestTimeSkewSecs < now then
    .fails (.accessDenied "Request timestamp is too old.")
  else .returns ()

/-! ## Section 3: Days -/

theorem saturatingAddU64_of_le {a b : Nat} (h : a + b ≤ u64Max) :
    saturatingAddU64 a b = a + b := Nat.min_eq_left h

theorem saturatingMulU64_of_le {a b : Nat} (h : a * b ≤ u64Max) :
    saturatingMulU64 a b = a * b := Nat.min_eq_left h

theorem isLeapYear_natCast (year : Nat) : isLeapYear (year : Int) = isLeap year := by
  have hmod : ∀ n : Nat, ((year : Int) % (n : Int) == 0) = (year % n == 0) := by
    intro n
    rw [Bool.eq_iff_iff, beq_iff_eq, beq_iff_eq]
    omega
  have h4 := hmod 4
  have h100 := hmod 100
  have h400 := hmod 400
  simp only [Nat.cast_ofNat] at h4 h100 h400
  simp only [isLeapYear, isLeap, bne, h4, h100, h400]

/-- The loop adds up the years. -/
theorem foldl_years {first years total : Nat}
    (hsmall : total + 366 * years ≤ u64Max) :
    (List.range' first years).foldl
        (fun (totalDays y : Nat) =>
          saturatingAddU64 totalDays (if isLeapYear (y : Int) then 366 else 365)) total =
      total + daysOfYears first years := by
  induction years with
  | zero => simp [daysOfYears]
  | succ years ih =>
    have hle := daysOfYears_le first years
    have hyear : (if isLeap (first + years) then 366 else 365) = daysInYear (first + years) := rfl
    have hyear_le := daysInYear_le (first + years)
    rw [List.range'_1_concat, List.foldl_append, ih (by omega), List.foldl_cons, List.foldl_nil,
      isLeapYear_natCast, hyear, daysOfYears, saturatingAddU64, Nat.min_eq_left (by omega)]
    omega

theorem daysOfPastYears_eq {year : Nat} (hyear : year ≤ 9999) :
    daysOfPastYears year = daysOfYears 1970 (year - 1970) := by
  rw [daysOfPastYears, Int.toNat_natCast, foldl_years (by simp only [u64Max]; omega), Nat.zero_add]

/-- The table of the months, with the leap day behind February. -/
theorem monthOffsets_eq (year : Nat) {month : Nat} (hpos : 1 ≤ month) (hle : month ≤ 12) :
    monthOffsets.getD (month - 1) 0 + (if 2 < month ∧ isLeap year = true then 1 else 0) =
      daysOfMonths year (month - 1) := by
  cases hleap : isLeap year <;> interval_cases month <;>
    simp [monthOffsets, daysOfMonths, daysInMonth, hleap]

theorem monthDays_natCast (year : Nat) {month : Nat} (hpos : 1 ≤ month) (hle : month ≤ 12) :
    monthDays year month = some (daysInMonth year month) := by
  interval_cases month <;> simp [monthDays, daysInMonth, isLeapYear_natCast]

theorem daysOfMonths_le (year : Nat) {months : Nat} (h : months ≤ 12) :
    daysOfMonths year months ≤ 366 := by
  have hmono := daysOfMonths_mono year h
  rw [daysOfMonths_twelve] at hmono
  exact hmono.trans (daysInYear_le year)

/-- The day of a date of the calendar. -/
theorem daysFromCivil_date {d : Date} (hfirst : 1970 ≤ d.year) (hyear : d.year ≤ 9999) :
    daysFromCivil d.year d.month d.day = some (d.number 1970) := by
  have hday := d.day_pos
  have hmonth := monthDays_natCast d.year d.month_pos d.month_le
  have hoffsets := monthOffsets_eq d.year d.month_pos d.month_le
  have hmonths := daysOfMonths_le d.year (show d.month - 1 ≤ 12 by have := d.month_le; omega)
  have hyears := daysOfYears_le 1970 (d.year - 1970)
  have hin := d.day_le
  have hin' := daysInMonth_le d.year d.month
  have hpast : ¬ (d.year : Int) < 1970 := by omega
  have hrange : ¬ (d.day = 0 ∨ daysInMonth d.year d.month < d.day) := by omega
  simp only [daysFromCivil, hmonth, if_neg hrange, if_neg hpast, daysOfPastYears_eq hyear,
    isLeapYear_natCast, Date.number, saturatingAddU64, Option.some.injEq]
  have hmax : 366 * 9999 + 366 + 31 < u64Max := by decide
  -- nothing saturates within the years of four digits
  split at hoffsets
  · rename_i hleap
    rw [if_pos hleap, Nat.min_eq_left (by omega), Nat.min_eq_left (by omega),
      Nat.min_eq_left (by omega)]
    omega
  · rename_i hplain
    rw [if_neg hplain, Nat.min_eq_left (by omega), Nat.min_eq_left (by omega)]
    omega

/-- Only dates of the calendar have a day. -/
theorem exists_date_of_daysFromCivil {year : Int} {month day days : Nat}
    (h : daysFromCivil year month day = some days) :
    ∃ d : Date, 1970 ≤ d.year ∧ (d.year : Int) = year ∧ d.month = month ∧ d.day = day := by
  unfold daysFromCivil at h
  split at h
  · cases h
  · rename_i length hlength
    split at h
    · cases h
    rename_i hday
    split at h
    · cases h
    rename_i hyear
    obtain ⟨year, rfl⟩ := Int.eq_ofNat_of_zero_le (by omega : 0 ≤ year)
    have hmonth : 1 ≤ month ∧ month ≤ 12 := by
      unfold monthDays at hlength
      split at hlength <;> first | omega | cases hlength
    rw [monthDays_natCast year hmonth.1 hmonth.2] at hlength
    obtain rfl := Option.some.inj hlength
    have hfirst : 1970 ≤ year := by omega
    exact ⟨⟨year, month, day, hmonth.1, hmonth.2, by omega, by omega⟩, hfirst, rfl, rfl, rfl⟩

/-! ## Section 4: Seconds -/

/-- The numbers of an instant. -/
def fieldsOf (t : Instant) : AmzFields where
  year := t.date.year
  month := t.date.month
  day := t.date.day
  hour := t.hour
  minute := t.minute
  second := t.second

/-- The instants whose year has four digits and is not before 1970. -/
def InRange (t : Instant) : Prop := 1970 ≤ t.date.year ∧ t.date.year ≤ 9999

theorem seconds_le {t : Instant} (h : InRange t) : t.seconds 1970 ≤ 1000000000000 := by
  have hyears := daysOfYears_le 1970 (t.date.year - 1970)
  have hmonths := daysOfMonths_le t.date.year
    (show t.date.month - 1 ≤ 12 by have := t.date.month_le; omega)
  have hday := t.date.day_le
  have hlength := daysInMonth_le t.date.year t.date.month
  have hhour := t.hour_lt
  have hminute := t.minute_lt
  have hsecond := t.second_lt
  obtain ⟨hfirst, hlast⟩ := h
  simp only [Instant.seconds, Date.number]
  omega

theorem secondsOfFields_fieldsOf {t : Instant} (h : InRange t) :
    secondsOfFields (fieldsOf t) = .ok (t.seconds 1970) := by
  have hsmall := seconds_le h
  have hhour := t.hour_lt
  have hminute := t.minute_lt
  have hsecond := t.second_lt
  have hmonth := t.date.month_le
  have hmonth' := t.date.month_pos
  have hday' := t.date.day_pos
  have hday := t.date.day_le.trans (daysInMonth_le t.date.year t.date.month)
  have hrange : ¬ (¬ (1 ≤ t.date.month ∧ t.date.month ≤ 12) ∨
      ¬ (1 ≤ t.date.day ∧ t.date.day ≤ 31) ∨ 23 < t.hour ∨ 59 < t.minute ∨ 59 < t.second) := by
    omega
  have hdays := daysFromCivil_date h.1 h.2
  have hmax : 1000000000000 ≤ u64Max := by decide
  -- nothing saturates: every summand is below the sum
  obtain ⟨days, hdaysEq⟩ : ∃ days, days = t.date.number 1970 := ⟨_, rfl⟩
  obtain ⟨a, ha⟩ : ∃ a, a = days * 86400 := ⟨_, rfl⟩
  obtain ⟨b, hb⟩ : ∃ b, b = t.hour * 3600 := ⟨_, rfl⟩
  obtain ⟨c, hc⟩ : ∃ c, c = t.minute * 60 := ⟨_, rfl⟩
  have hseconds : t.seconds 1970 = a + b + c + t.second := by
    rw [Instant.seconds, ← hdaysEq, ha, hb, hc]
  rw [hseconds] at hsmall
  have hdays' : saturatingMulU64 days 86400 = a := by
    rw [saturatingMulU64_of_le (by omega), ha]
  have hhours : saturatingMulU64 t.hour 3600 = b := by
    rw [saturatingMulU64_of_le (by omega), hb]
  have hminutes : saturatingMulU64 t.minute 60 = c := by
    rw [saturatingMulU64_of_le (by omega), hc]
  rw [← hdaysEq] at hdays
  simp only [secondsOfFields, fieldsOf, if_neg hrange, hdays, hdays', hhours, hminutes]
  have hab : saturatingAddU64 a b = a + b := saturatingAddU64_of_le (by omega)
  have habc : saturatingAddU64 (a + b) c = a + b + c := saturatingAddU64_of_le (by omega)
  have hsum : saturatingAddU64 (a + b + c) t.second = a + b + c + t.second :=
    saturatingAddU64_of_le (by omega)
  rw [hab, habc, hsum, hseconds]

/-- The numbers that have seconds are those of the instants of the calendar. -/
theorem exists_instant_of_secondsOfFields {fields : AmzFields} {seconds : Nat}
    (hyear : fields.year ≤ 9999) (h : secondsOfFields fields = .ok seconds) :
    ∃ t, InRange t ∧ fieldsOf t = fields ∧ seconds = t.seconds 1970 := by
  have hfields := h
  unfold secondsOfFields at h
  split at h
  · cases h
  rename_i hrange
  split at h
  · cases h
  rename_i days hdays
  obtain ⟨d, hfirst, hyear', hmonth, hday⟩ := exists_date_of_daysFromCivil hdays
  have heq : fieldsOf ⟨d, fields.hour, fields.minute, fields.second, by omega, by omega,
      by omega⟩ = fields := by
    simp only [fieldsOf, hyear', hmonth, hday]
  refine ⟨_, ⟨hfirst, ?_⟩, heq, ?_⟩
  · show d.year ≤ 9999
    omega
  · rw [← heq, secondsOfFields_fieldsOf ⟨hfirst, by show d.year ≤ 9999; omega⟩] at hfields
    exact (Except.ok.inj hfields).symm

/-! ## Section 5: Texts -/

/-- The parts of a date in their order. -/
def amzPieces (t : Instant) : List Bytes :=
  [digits 4 t.date.year, digits 2 t.date.month, digits 2 t.date.day, [84], digits 2 t.hour,
    digits 2 t.minute, digits 2 t.second, [90]]

/-- `YYYYMMDDTHHMMSSZ`. -/
def amzText (t : Instant) : Bytes := (amzPieces t).flatten

@[simp] theorem length_amzText (t : Instant) : (amzText t).length = 16 := by
  simp [amzText, amzPieces]

theorem ascii_amzText (t : Instant) : ∀ byte ∈ amzText t, byte.toNat < 128 := by
  have hdigits : ∀ width n, ∀ byte ∈ digits width n, byte.toNat < 128 := by
    intro width n byte hbyte
    have hdigit := List.all_eq_true.mp (all_digits width n) byte hbyte
    simp only [isDigitByte, Bool.and_eq_true, decide_eq_true_eq] at hdigit
    omega
  intro byte hbyte
  simp only [amzText, amzPieces, List.flatten_cons, List.flatten_nil, List.mem_append,
    List.mem_singleton, List.not_mem_nil, or_false] at hbyte
  rcases hbyte with h | h | h | rfl | h | h | h | rfl
  all_goals first | exact hdigits _ _ byte h | decide

/-- The part of a date between the positions where it stands. -/
theorem piece_amzText (t : Instant) {part : Bytes} {i j : Nat} (k : Nat)
    (hk : (amzPieces t)[k]? = some part) (hi : ((amzPieces t).take k).flatten.length = i)
    (hj : i + part.length = j) : piece (amzText t) i j = part :=
  drop_take_piece k hk hi hj

/-- Digits are no sign. -/
theorem parseUnsigned_digits {max : Nat} {text : Bytes} (h : text.all isDigitByte = true) :
    parseUnsigned max text = parseDigits max text := by
  unfold parseUnsigned
  split
  · simp [isDigitByte] at h
  · rfl

theorem parseI32_digits {text : Bytes} (h : text.all isDigitByte = true) :
    parseI32 text = (parseDigits i32Max text).map Int.ofNat := by
  unfold parseI32
  split
  · simp [isDigitByte] at h
  · simp [isDigitByte] at h
  · rfl

theorem parseDigits_digits {max width n : Nat} (hwidth : 0 < width) (hn : n < 10 ^ width)
    (hmax : n ≤ max) : parseDigits max (digits width n) = some n := by
  have hempty : (digits width n).isEmpty = false := by
    rw [List.isEmpty_eq_false_iff, ← List.length_pos_iff, length_digits]
    exact hwidth
  simp [parseDigits, hempty, all_digits, decimalValue_digits hn, hmax]

/-- What is parsed without a sign is written with digits. -/
theorem eq_digits_of_parseDigits {max n : Nat} {text : Bytes} (h : parseDigits max text = some n) :
    text = digits text.length n ∧ n < 10 ^ text.length := by
  unfold parseDigits at h
  split at h
  · cases h
  rename_i hdigits
  simp only [Bool.or_eq_true, Bool.not_eq_true', not_or, Bool.not_eq_false] at hdigits
  split at h
  · obtain rfl := Option.some.inj h
    exact ⟨(digits_decimalValue hdigits.2).symm, decimalValue_lt hdigits.2⟩
  · cases h

theorem eq_digits_of_parseUnsigned {max n : Nat} {text : Bytes}
    (h : parseUnsigned max text = some n) (hsign : text[0]? ≠ some 43) :
    text = digits text.length n ∧ n < 10 ^ text.length := by
  unfold parseUnsigned at h
  split at h
  · simp at hsign
  · exact eq_digits_of_parseDigits h

/-- A year of four bytes that is not before 1970 has no sign. -/
theorem eq_digits_of_parseI32 {year : Nat} {text : Bytes} (hlength : text.length = 4)
    (h : parseI32 text = some (year : Int)) (hfirst : 1970 ≤ year) :
    text = digits 4 year ∧ year < 10 ^ 4 := by
  unfold parseI32 at h
  split at h
  · -- behind a plus there is room for three digits
    obtain ⟨n, hn, heq⟩ := Option.map_eq_some_iff.mp h
    have hlt := (eq_digits_of_parseDigits hn).2
    rw [List.length_cons] at hlength
    rw [Nat.succ.inj hlength] at hlt
    have hyear : n = year := Int.ofNat.inj heq
    omega
  · -- behind a minus no year is positive
    obtain ⟨n, -, heq⟩ := Option.map_eq_some_iff.mp h
    omega
  · obtain ⟨n, hn, heq⟩ := Option.map_eq_some_iff.mp h
    obtain rfl : n = year := Int.ofNat.inj heq
    rw [← hlength]
    exact eq_digits_of_parseDigits hn

/-! ## Section 6: Reading a text -/

/-- A cut at the two positions does not panic. -/
def CutsAt (value : Bytes) (i j : Nat) : Prop :=
  i ≤ j ∧ isCharBoundary value i = true ∧ isCharBoundary value j = true

instance (value : Bytes) (i j : Nat) : Decidable (CutsAt value i j) :=
  inferInstanceAs (Decidable (_ ∧ _))

section Reading

variable {α β : Type} {value : Bytes} {i j : Nat} {message : String} {parse : Bytes → Option α}

theorem strSlice_eq_returns {text : Bytes} :
    (strSlice value i j : Panicking S3Error Bytes) = .returns text ↔
      CutsAt value i j ∧ piece value i j = text := by
  unfold strSlice CutsAt
  split_ifs with h <;> simp [h]

theorem strSlice_eq_panics :
    (strSlice value i j : Panicking S3Error Bytes) = .panics ↔ ¬ CutsAt value i j := by
  unfold strSlice CutsAt
  split_ifs with h <;> simp [h]

theorem readField_eq_returns {field : α} :
    readField parse value i j message = .returns field ↔
      CutsAt value i j ∧ parse (piece value i j) = some field := by
  unfold readField
  rw [Panicking.bind_eq_returns]
  constructor
  · rintro ⟨text, hslice, hparse⟩
    obtain ⟨hcut, rfl⟩ := strSlice_eq_returns.mp hslice
    split at hparse
    · rename_i other hother
      exact ⟨hcut, by rw [hother, Panicking.returns_inj.mp hparse]⟩
    · exact absurd hparse Panicking.fails_ne_returns
  · rintro ⟨hcut, hparse⟩
    exact ⟨_, strSlice_eq_returns.mpr ⟨hcut, rfl⟩, by rw [hparse]⟩

theorem readField_eq_panics :
    readField parse value i j message = .panics ↔ ¬ CutsAt value i j := by
  unfold readField
  rw [Panicking.bind_eq_panics, strSlice_eq_panics]
  constructor
  · rintro (hcut | ⟨text, -, hparse⟩)
    · exact hcut
    · split at hparse
      · exact absurd hparse Panicking.returns_ne_panics
      · exact absurd hparse Panicking.fails_ne_panics
  · exact Or.inl

/-- A field that is read before the rest. -/
theorem readField_bind_eq_panics {f : α → Panicking S3Error β} :
    (readField parse value i j message >>= f) = .panics ↔
      ¬ CutsAt value i j ∨ ∃ field, CutsAt value i j ∧ parse (piece value i j) = some field ∧
        f field = .panics := by
  rw [Panicking.bind_eq_panics, readField_eq_panics]
  simp only [readField_eq_returns, and_assoc]

/-- A letter that is looked at before the rest. -/
theorem letter_bind_eq_panics {letter : Bytes} {rest : Panicking S3Error β} {error : S3Error} :
    ((strSlice value i j : Panicking S3Error Bytes) >>= fun text =>
        if text ≠ letter then .fails error else rest) = .panics ↔
      ¬ CutsAt value i j ∨ CutsAt value i j ∧ piece value i j = letter ∧ rest = .panics := by
  rw [Panicking.bind_eq_panics, strSlice_eq_panics]
  constructor
  · rintro (hcut | ⟨text, hslice, hrest⟩)
    · exact Or.inl hcut
    · obtain ⟨hcut, rfl⟩ := strSlice_eq_returns.mp hslice
      split at hrest
      · exact absurd hrest Panicking.fails_ne_panics
      · rename_i hletter
        exact Or.inr ⟨hcut, not_not.mp hletter, hrest⟩
  · rintro (hcut | ⟨hcut, rfl, hrest⟩)
    · exact Or.inl hcut
    · exact Or.inr ⟨_, strSlice_eq_returns.mpr ⟨hcut, rfl⟩, by simpa using hrest⟩

theorem letter_bind_eq_returns {letter : Bytes} {rest : Panicking S3Error β} {error : S3Error}
    {result : β} :
    ((strSlice value i j : Panicking S3Error Bytes) >>= fun text =>
        if text ≠ letter then .fails error else rest) = .returns result ↔
      CutsAt value i j ∧ piece value i j = letter ∧ rest = .returns result := by
  rw [Panicking.bind_eq_returns]
  constructor
  · rintro ⟨text, hslice, hrest⟩
    obtain ⟨hcut, rfl⟩ := strSlice_eq_returns.mp hslice
    split at hrest
    · exact absurd hrest Panicking.fails_ne_returns
    · rename_i hletter
      exact ⟨hcut, not_not.mp hletter, hrest⟩
  · rintro ⟨hcut, rfl, hrest⟩
    exact ⟨_, strSlice_eq_returns.mpr ⟨hcut, rfl⟩, by simpa using hrest⟩

end Reading

/-- The numbers of a text, each between the positions where it should stand. -/
structure Numbers (value : Bytes) (fields : AmzFields) : Prop where
  year : parseI32 (piece value 0 4) = some fields.year
  month : parseUnsigned u32Max (piece value 4 6) = some fields.month
  day : parseUnsigned u32Max (piece value 6 8) = some fields.day
  hour : parseUnsigned u64Max (piece value 9 11) = some fields.hour
  minute : parseUnsigned u64Max (piece value 11 13) = some fields.minute
  second : parseUnsigned u64Max (piece value 13 15) = some fields.second

/-- A text of sixteen bytes with the two letters at their places. -/
structure Lettered (value : Bytes) : Prop where
  length : value.length = 16
  separator : piece value 8 9 = [84]
  zone : piece value 15 16 = [90]

/-- The cuts of the function in its order, each with what lets it go on. -/
def cuts : List (Nat × Nat × (Bytes → Bool)) :=
  [(8, 9, fun text => text == [84]),
    (15, 16, fun text => text == [90]),
    (0, 4, fun text => (parseI32 text).isSome),
    (4, 6, fun text => (parseUnsigned u32Max text).isSome),
    (6, 8, fun text => (parseUnsigned u32Max text).isSome),
    (9, 11, fun text => (parseUnsigned u64Max text).isSome),
    (11, 13, fun text => (parseUnsigned u64Max text).isSome),
    (13, 15, fun text => (parseUnsigned u64Max text).isSome)]

/-- The first cut that does not fit falls inside a character, and is reached. -/
def TornIn (value : Bytes) : List (Nat × Nat × (Bytes → Bool)) → Prop
  | [] => False
  | (i, j, passes) :: cuts =>
    ¬ CutsAt value i j ∨ CutsAt value i j ∧ passes (piece value i j) = true ∧ TornIn value cuts

def TornCut (value : Bytes) : Prop := value.length = 16 ∧ TornIn value cuts

theorem readFields_eq_panics {value : Bytes} : readFields value = .panics ↔ TornCut value := by
  unfold readFields TornCut
  split
  · rename_i hlength
    simp [hlength]
  · rename_i hlength
    simp only [letter_bind_eq_panics, readField_bind_eq_panics, Panicking.returns_ne_panics,
      not_not.mp hlength, cuts, TornIn, beq_iff_eq, Option.isSome_iff_exists, true_and,
      and_false, exists_false, or_false, exists_and_left, exists_and_right]

theorem readFields_eq_returns {value : Bytes} {fields : AmzFields} :
    readFields value = .returns fields ↔
      Lettered value ∧ Numbers value fields ∧ ¬ TornCut value := by
  constructor
  · intro h
    have htorn : ¬ TornCut value := by
      rw [← readFields_eq_panics, h]
      exact Panicking.returns_ne_panics
    unfold readFields at h
    split at h
    · exact absurd h Panicking.fails_ne_returns
    rename_i hlength
    rw [letter_bind_eq_returns, letter_bind_eq_returns] at h
    simp only [Panicking.bind_eq_returns, readField_eq_returns, Panicking.returns_inj] at h
    obtain ⟨-, hseparator, -, hzone, year, ⟨-, hyear⟩, month, ⟨-, hmonth⟩, day, ⟨-, hday⟩,
      hour, ⟨-, hhour⟩, minute, ⟨-, hminute⟩, second, ⟨-, hsecond⟩, rfl⟩ := h
    exact ⟨⟨not_not.mp hlength, hseparator, hzone⟩,
      ⟨hyear, hmonth, hday, hhour, hminute, hsecond⟩, htorn⟩
  · rintro ⟨hletters, hnumbers, htorn⟩
    -- every cut is reached, so every cut fits
    have hfit : CutsAt value 8 9 ∧ CutsAt value 15 16 ∧ CutsAt value 0 4 ∧ CutsAt value 4 6 ∧
        CutsAt value 6 8 ∧ CutsAt value 9 11 ∧ CutsAt value 11 13 ∧ CutsAt value 13 15 := by
      simp only [TornCut, hletters.length, cuts, TornIn, hletters.separator, hletters.zone,
        hnumbers.year, hnumbers.month, hnumbers.day, hnumbers.hour, hnumbers.minute,
        hnumbers.second, Option.isSome_some, beq_self_eq_true, true_and, and_false, or_false]
        at htorn
      tauto
    obtain ⟨hseparator, hzone, hyear, hmonth, hday, hhour, hminute, hsecond⟩ := hfit
    unfold readFields
    rw [if_neg (not_not.mpr hletters.length), letter_bind_eq_returns, letter_bind_eq_returns]
    refine ⟨hseparator, hletters.separator, hzone, hletters.zone, ?_⟩
    simp only [Panicking.bind_eq_returns, readField_eq_returns, Panicking.returns_inj]
    exact ⟨_, ⟨hyear, hnumbers.year⟩, _, ⟨hmonth, hnumbers.month⟩, _, ⟨hday, hnumbers.day⟩, _,
      ⟨hhour, hnumbers.hour⟩, _, ⟨hminute, hnumbers.minute⟩, _, ⟨hsecond, hnumbers.second⟩, rfl⟩

/-- A text of ASCII characters is cut nowhere inside a character. -/
theorem not_tornCut_of_ascii {value : Bytes} (h : ∀ byte ∈ value, byte.toNat < 128) :
    ¬ TornCut value := by
  rintro ⟨hlength, htorn⟩
  have hcut : ∀ i j, i ≤ j → j ≤ 16 → CutsAt value i j := fun i j hij hj =>
    ⟨hij, isCharBoundary_of_ascii h (by omega), isCharBoundary_of_ascii h (by omega)⟩
  have hnone : ∀ l : List (Nat × Nat × (Bytes → Bool)), (∀ cut ∈ l, cut.1 ≤ cut.2.1 ∧
      cut.2.1 ≤ 16) → ¬ TornIn value l := by
    intro l hl
    induction l with
    | nil => exact fun hin => hin
    | cons cut l ih =>
      obtain ⟨hij, hj⟩ := hl cut List.mem_cons_self
      rintro (htorn | ⟨-, -, htorn⟩)
      · exact htorn (hcut _ _ hij hj)
      · exact ih (fun other hother => hl other (List.mem_cons_of_mem cut hother)) htorn
  exact hnone cuts (by decide) htorn

theorem numbers_amzText {t : Instant} (h : InRange t) : Numbers (amzText t) (fieldsOf t) := by
  have hmonth := t.date.month_le
  have hday := t.date.day_le
  have hlength := daysInMonth_le t.date.year t.date.month
  have hhour := t.hour_lt
  have hminute := t.minute_lt
  have hsecond := t.second_lt
  obtain ⟨-, hlast⟩ := h
  have hu32 : 60 ≤ u32Max := by decide
  have hu64 : 60 ≤ u64Max := by decide
  have hi32 : 9999 ≤ i32Max := by decide
  have htwo : ∀ {max n : Nat}, n ≤ 60 → 60 ≤ max → parseUnsigned max (digits 2 n) = some n := by
    intro max n hn hmax
    rw [parseUnsigned_digits (all_digits 2 n),
      parseDigits_digits (by decide) (by omega) (hn.trans hmax)]
  constructor
  · rw [piece_amzText t 0 rfl (by simp [amzPieces]) (by simp), parseI32_digits (all_digits 4 _),
      parseDigits_digits (by decide) (by omega) (by omega)]
    rfl
  · rw [piece_amzText t 1 rfl (by simp [amzPieces]) (by simp)]
    exact htwo (by omega) hu32
  · rw [piece_amzText t 2 rfl (by simp [amzPieces]) (by simp)]
    exact htwo (by omega) hu32
  · rw [piece_amzText t 4 rfl (by simp [amzPieces]) (by simp)]
    exact htwo (by omega) hu64
  · rw [piece_amzText t 5 rfl (by simp [amzPieces]) (by simp)]
    exact htwo (by omega) hu64
  · rw [piece_amzText t 6 rfl (by simp [amzPieces]) (by simp)]
    exact htwo (by omega) hu64

/-- Every date of the calendar in these years is read, with its seconds. -/
theorem parseAmzDatetimeToUnix_amzText {t : Instant} (h : InRange t) :
    parseAmzDatetimeToUnix (amzText t) = .returns (t.seconds 1970) := by
  have hletters : Lettered (amzText t) :=
    ⟨length_amzText t, piece_amzText t 3 rfl (by simp [amzPieces]) rfl,
      piece_amzText t 7 rfl (by simp [amzPieces]) rfl⟩
  have hread : readFields (amzText t) = .returns (fieldsOf t) :=
    readFields_eq_returns.mpr
      ⟨hletters, numbers_amzText h, not_tornCut_of_ascii (ascii_amzText t)⟩
  rw [parseAmzDatetimeToUnix, hread, Panicking.returns_bind, secondsOfFields_fieldsOf h]

/-! ## Section 7: The order of texts -/

/-- **Texts of dates are ordered as the dates.** -/
theorem amzText_lt_iff {t u : Instant} (ht : t.date.year ≤ 9999) (hu : u.date.year ≤ 9999) :
    amzText t < amzText u ↔ t.Before u := by
  have hmonth := t.date.month_le
  have hday := t.date.day_le.trans (daysInMonth_le _ _)
  have hhour := t.hour_lt
  have hminute := t.minute_lt
  have hsecond := t.second_lt
  have hmonth' := u.date.month_le
  have hday' := u.date.day_le.trans (daysInMonth_le _ _)
  have hhour' := u.hour_lt
  have hminute' := u.minute_lt
  have hsecond' := u.second_lt
  have htwo : ∀ {m n : Nat} {s s' : Bytes}, m < 100 → n < 100 →
      (digits 2 m ++ s < digits 2 n ++ s' ↔ m < n ∨ m = n ∧ s < s') := by
    intro m n s s' hm hn
    rw [append_lt_append_iff (by simp), digits_lt_iff (by omega) (by omega)]
    exact or_congr_right (and_congr_left fun _ =>
      ⟨digits_injective (by omega) (by omega), fun h => by rw [h]⟩)
  have hfour : ∀ {m n : Nat} {s s' : Bytes}, m ≤ 9999 → n ≤ 9999 →
      (digits 4 m ++ s < digits 4 n ++ s' ↔ m < n ∨ m = n ∧ s < s') := by
    intro m n s s' hm hn
    rw [append_lt_append_iff (by simp), digits_lt_iff (by omega) (by omega)]
    exact or_congr_right (and_congr_left fun _ =>
      ⟨digits_injective (by omega) (by omega), fun h => by rw [h]⟩)
  have hletter : ∀ {letter : UInt8} {s s' : Bytes}, ([letter] ++ s < [letter] ++ s' ↔ s < s') := by
    intro letter s s'
    rw [append_lt_append_iff rfl]
    simp [List.lt_irrefl]
  simp only [amzText, amzPieces, List.flatten_cons, List.flatten_nil]
  rw [hfour ht hu, htwo (by omega) (by omega), htwo (by omega) (by omega), hletter,
    htwo (by omega) (by omega), htwo (by omega) (by omega), htwo (by omega) (by omega)]
  have hend : ¬ (([90] : Bytes) ++ [] < [90] ++ []) := List.lt_irrefl _
  simp only [hend, and_false, or_false, Instant.Before, Date.Before, Date.ext_iff]
  tauto

/-! ## Section 8: When a text is read as the calendar defines it -/

/-- The clock of a window, in seconds. -/
def clock (currentUnixMs : Nat) : Nat := currentUnixMs / 1000

/-- What the calendar says of a text: it is a date with these seconds since 1970. -/
def Denotes (value : Bytes) (seconds : Nat) : Prop :=
  ∃ t, InRange t ∧ value = amzText t ∧ Instant.tick^[seconds] (Instant.newYear 1970) = t

/-- The text is read as the calendar defines it, and the windows take it for that. -/
structure ReadAsCalendar (value : Bytes) : Prop where
  /-- no cut falls inside a character -/
  returns : parseAmzDatetimeToUnix value ≠ .panics
  /-- it has seconds if and only if it is a date, and they are those of the date -/
  denotes : ∀ seconds, parseAmzDatetimeToUnix value = .returns seconds ↔ Denotes value seconds
  /-- later texts are later dates -/
  monotone : ∀ other seconds seconds', parseAmzDatetimeToUnix value = .returns seconds →
    Denotes other seconds' →
      (value < other ↔ seconds < seconds') ∧ (other < value ↔ seconds' < seconds)
  /-- the window of a signed header -/
  signed : ∀ currentUnixMs ≤ u64Max,
    validateSignedRequestTimeWindow currentUnixMs value = .returns () ↔
      ∃ seconds, Denotes value seconds ∧
        seconds ≤ clock currentUnixMs + maxS3RequestTimeSkewSecs ∧
        clock currentUnixMs ≤ seconds + maxS3RequestTimeSkewSecs
  /-- the window of a presigned request -/
  presigned : ∀ currentUnixMs ≤ u64Max, ∀ expires ≤ u64Max,
    validatePresignedTimeWindow currentUnixMs value expires = .returns () ↔
      ∃ seconds, Denotes value seconds ∧
        seconds ≤ clock currentUnixMs + maxS3RequestTimeSkewSecs ∧
        clock currentUnixMs ≤ seconds + expires

/-- A plus stands where a number of two digits begins, and with it the numbers are a date. -/
def SignedDate (value : Bytes) : Prop :=
  Lettered value ∧ (∃ i ∈ [4, 6, 9, 11, 13], value[i]? = some 43) ∧
    ∃ t, InRange t ∧ Numbers value (fieldsOf t)

section Calendar

variable {value : Bytes} {t : Instant} {seconds : Nat}

theorem denotes_amzText (h : InRange t) : Denotes (amzText t) (t.seconds 1970) :=
  ⟨t, h, rfl, Instant.iterate_tick h.1⟩

theorem denotes_iff : Denotes value seconds ↔
    ∃ t, InRange t ∧ value = amzText t ∧ seconds = t.seconds 1970 := by
  constructor
  · rintro ⟨t, ht, rfl, htick⟩
    refine ⟨t, ht, rfl, ?_⟩
    rw [← htick, (Instant.seconds_iterate seconds).2]
  · rintro ⟨t, ht, rfl, rfl⟩
    exact denotes_amzText ht

/-- A year of four bytes. -/
theorem parseI32_le {text : Bytes} {year : Int} (hlength : text.length = 4)
    (h : parseI32 text = some year) : year ≤ 9999 := by
  have hsmall : ∀ {max n : Nat} {rest : Bytes}, rest.length ≤ 4 →
      parseDigits max rest = some n → n ≤ 9999 := by
    intro max n rest hrest hparse
    have hlt := (eq_digits_of_parseDigits hparse).2
    have hpow := Nat.pow_le_pow_right (show 0 < 10 by decide) hrest
    omega
  unfold parseI32 at h
  split at h
  · obtain ⟨n, hn, rfl⟩ := Option.map_eq_some_iff.mp h
    rw [List.length_cons] at hlength
    have hle := hsmall (by omega) hn
    show (n : Int) ≤ 9999
    omega
  · obtain ⟨n, -, rfl⟩ := Option.map_eq_some_iff.mp h
    omega
  · obtain ⟨n, hn, rfl⟩ := Option.map_eq_some_iff.mp h
    have hle := hsmall (le_of_eq hlength) hn
    show (n : Int) ≤ 9999
    omega

theorem parseAmzDatetimeToUnix_eq_panics :
    parseAmzDatetimeToUnix value = .panics ↔ TornCut value := by
  rw [parseAmzDatetimeToUnix, Panicking.bind_eq_panics, readFields_eq_panics]
  constructor
  · rintro (htorn | ⟨fields, -, hpanics⟩)
    · exact htorn
    · -- the second half does not panic
      split at hpanics
      · exact absurd hpanics Panicking.returns_ne_panics
      · exact absurd hpanics Panicking.fails_ne_panics
  · exact Or.inl

/-- What the function accepts: the letters, and numbers that are a date. -/
theorem parseAmzDatetimeToUnix_eq_returns :
    parseAmzDatetimeToUnix value = .returns seconds ↔
      Lettered value ∧ ¬ TornCut value ∧
        ∃ t, InRange t ∧ Numbers value (fieldsOf t) ∧ seconds = t.seconds 1970 := by
  rw [parseAmzDatetimeToUnix, Panicking.bind_eq_returns]
  constructor
  · rintro ⟨fields, hfields, hseconds⟩
    obtain ⟨hletters, hnumbers, htorn⟩ := readFields_eq_returns.mp hfields
    have hlength : (piece value 0 4).length = 4 := length_piece (by rw [hletters.length]; decide)
    split at hseconds
    · rename_i other hother
      rw [Panicking.returns_inj] at hseconds
      obtain ⟨t, ht, rfl, hother'⟩ :=
        exists_instant_of_secondsOfFields (parseI32_le hlength hnumbers.year) hother
      exact ⟨hletters, htorn, t, ht, hnumbers, by rw [← hseconds, hother']⟩
    · exact absurd hseconds Panicking.fails_ne_returns
  · rintro ⟨hletters, htorn, t, ht, hnumbers, rfl⟩
    refine ⟨fieldsOf t, readFields_eq_returns.mpr ⟨hletters, hnumbers, htorn⟩, ?_⟩
    rw [secondsOfFields_fieldsOf ht]

theorem getElem?_piece {i j : Nat} (h : i < j) : (piece value i j)[0]? = value[i]? := by
  rw [piece, List.getElem?_drop, Nat.add_zero, List.getElem?_take_of_lt h]

/-- Without a sign the text is the text of its date. -/
theorem eq_amzText_of_numbers (hletters : Lettered value) (ht : InRange t)
    (hnumbers : Numbers value (fieldsOf t))
    (hsign : ∀ i ∈ [4, 6, 9, 11, 13], value[i]? ≠ some 43) : value = amzText t := by
  have hlength : ∀ i j, j ≤ 16 → (piece value i j).length = j - i :=
    fun i j hj => length_piece (by rw [hletters.length]; exact hj)
  have htwo : ∀ {max i j n : Nat}, i ∈ [4, 6, 9, 11, 13] → j = i + 2 →
      parseUnsigned max (piece value i j) = some n → piece value i j = digits 2 n := by
    intro max i j n hi hj hparse
    have hwidth : (piece value i j).length = 2 := by
      simp only [List.mem_cons, List.not_mem_nil, or_false] at hi
      rw [hlength i j (by omega)]
      omega
    have hdigits := eq_digits_of_parseUnsigned hparse
      (by rw [getElem?_piece (by omega)]; exact hsign i hi)
    rw [hwidth] at hdigits
    exact hdigits.1
  have hyear := (eq_digits_of_parseI32 (hlength 0 4 (by decide)) hnumbers.year ht.1).1
  have hmonth := htwo (by decide) rfl hnumbers.month
  have hday := htwo (by decide) rfl hnumbers.day
  have hhour := htwo (by decide) rfl hnumbers.hour
  have hminute := htwo (by decide) rfl hnumbers.minute
  have hsecond := htwo (by decide) rfl hnumbers.second
  calc value = piece value 0 16 := (piece_zero (le_of_eq hletters.length)).symm
    _ = piece value 0 4 ++ (piece value 4 6 ++ (piece value 6 8 ++ (piece value 8 9 ++
          (piece value 9 11 ++ (piece value 11 13 ++ (piece value 13 15 ++
            piece value 15 16)))))) := by
        rw [piece_append (by decide) (by decide), piece_append (by decide) (by decide),
          piece_append (by decide) (by decide), piece_append (by decide) (by decide),
          piece_append (by decide) (by decide), piece_append (by decide) (by decide),
          piece_append (by decide) (by decide)]
    _ = amzText t := by
        rw [hyear, hmonth, hday, hletters.separator, hhour, hminute, hsecond, hletters.zone]
        simp [amzText, amzPieces, fieldsOf]

/-- No date of the calendar is written with a plus. -/
theorem plus_not_mem_amzText (t : Instant) : 43 ∉ amzText t := by
  have hdigits : ∀ width n, (43 : UInt8) ∉ digits width n := by
    intro width n hmem
    exact absurd (List.all_eq_true.mp (all_digits width n) 43 hmem) (by decide)
  simp [amzText, amzPieces, hdigits]

/-- The two comparisons of a window; what saturates is later than every clock. -/
theorem window_eq_returns {currentUnixMs issuedAt width : Nat} {future expired : S3Error}
    (hclock : currentUnixMs ≤ u64Max) :
    (if saturatingAddU64 (clock currentUnixMs) maxS3RequestTimeSkewSecs < issuedAt then
        (Panicking.fails future : Panicking S3Error Unit)
      else if saturatingAddU64 issuedAt width < clock currentUnixMs then .fails expired
      else .returns ()) = .returns () ↔
      issuedAt ≤ clock currentUnixMs + maxS3RequestTimeSkewSecs ∧
        clock currentUnixMs ≤ issuedAt + width := by
  have hskew : maxS3RequestTimeSkewSecs = 900 := rfl
  have hmax : u64Max = 18446744073709551615 := rfl
  have hnow : clock currentUnixMs + 900 ≤ u64Max := by
    rw [clock]
    omega
  have hfuture : saturatingAddU64 (clock currentUnixMs) maxS3RequestTimeSkewSecs =
      clock currentUnixMs + 900 := saturatingAddU64_of_le (by rw [hskew]; exact hnow)
  have hwidth : saturatingAddU64 issuedAt width < clock currentUnixMs ↔
      issuedAt + width < clock currentUnixMs := by
    rw [saturatingAddU64]
    omega
  rw [hfuture, hskew]
  by_cases hlate : clock currentUnixMs + 900 < issuedAt
  · rw [if_pos hlate]
    simp only [Panicking.fails_ne_returns, false_iff]
    omega
  · rw [if_neg hlate]
    by_cases hold : saturatingAddU64 issuedAt width < clock currentUnixMs
    · rw [if_pos hold]
      simp only [Panicking.fails_ne_returns, false_iff]
      omega
    · rw [if_neg hold]
      simp only [true_iff]
      omega

theorem signedWindow_iff {currentUnixMs : Nat} (hclock : currentUnixMs ≤ u64Max) :
    validateSignedRequestTimeWindow currentUnixMs value = .returns () ↔
      ∃ seconds, parseAmzDatetimeToUnix value = .returns seconds ∧
        seconds ≤ clock currentUnixMs + maxS3RequestTimeSkewSecs ∧
        clock currentUnixMs ≤ seconds + maxS3RequestTimeSkewSecs := by
  rw [validateSignedRequestTimeWindow, Panicking.bind_eq_returns]
  exact exists_congr fun signedAt => and_congr_right fun _ => window_eq_returns hclock

theorem presignedWindow_iff {currentUnixMs expires : Nat} (hclock : currentUnixMs ≤ u64Max) :
    validatePresignedTimeWindow currentUnixMs value expires = .returns () ↔
      ∃ seconds, parseAmzDatetimeToUnix value = .returns seconds ∧
        seconds ≤ clock currentUnixMs + maxS3RequestTimeSkewSecs ∧
        clock currentUnixMs ≤ seconds + expires := by
  rw [validatePresignedTimeWindow, Panicking.bind_eq_returns]
  exact exists_congr fun issuedAt => and_congr_right fun _ => window_eq_returns hclock

end Calendar

/-- **When a request date is read as the calendar defines it.** Exactly when no cut falls inside
a character and no sign stands in the place of a digit. -/
theorem readAsCalendar_iff (value : Bytes) :
    ReadAsCalendar value ↔ ¬ TornCut value ∧ ¬ SignedDate value := by
  constructor
  · intro h
    have htorn : ¬ TornCut value := by
      rw [← parseAmzDatetimeToUnix_eq_panics]
      exact h.returns
    refine ⟨htorn, ?_⟩
    rintro ⟨hletters, ⟨i, -, hplus⟩, t, ht, hnumbers⟩
    -- the text is accepted, and is not the text of a date
    have hparse := parseAmzDatetimeToUnix_eq_returns.mpr ⟨hletters, htorn, t, ht, hnumbers, rfl⟩
    obtain ⟨u, -, rfl, -⟩ := (h.denotes _).mp hparse
    exact plus_not_mem_amzText u (List.mem_of_getElem? hplus)
  · rintro ⟨htorn, hsigned⟩
    have hdenotes : ∀ seconds, parseAmzDatetimeToUnix value = .returns seconds ↔
        Denotes value seconds := by
      intro seconds
      rw [denotes_iff]
      constructor
      · intro hparse
        obtain ⟨hletters, -, t, ht, hnumbers, rfl⟩ :=
          parseAmzDatetimeToUnix_eq_returns.mp hparse
        refine ⟨t, ht, eq_amzText_of_numbers hletters ht hnumbers ?_, rfl⟩
        intro i hi hplus
        exact hsigned ⟨hletters, ⟨i, hi, hplus⟩, t, ht, hnumbers⟩
      · rintro ⟨t, ht, rfl, rfl⟩
        exact parseAmzDatetimeToUnix_amzText ht
    refine ⟨?_, hdenotes, ?_, ?_, ?_⟩
    · rw [ne_eq, parseAmzDatetimeToUnix_eq_panics]
      exact htorn
    · intro other seconds seconds' hparse hother
      obtain ⟨t, ht, rfl, rfl⟩ := denotes_iff.mp ((hdenotes seconds).mp hparse)
      obtain ⟨u, hu, rfl, rfl⟩ := denotes_iff.mp hother
      rw [amzText_lt_iff ht.2 hu.2, amzText_lt_iff hu.2 ht.2, Instant.seconds_lt_iff ht.1 hu.1,
        Instant.seconds_lt_iff hu.1 ht.1]
      exact ⟨Iff.rfl, Iff.rfl⟩
    · intro currentUnixMs hclock
      rw [signedWindow_iff hclock]
      simp only [hdenotes]
    · intro currentUnixMs hclock expires _
      rw [presignedWindow_iff hclock]
      simp only [hdenotes]

/-- `2026+1+1T000000Z` is read as the first of January 2026. -/
theorem plus_date_read :
    parseAmzDatetimeToUnix (Text.asBytes "2026+1+1T000000Z") =
        .returns ((Instant.newYear 2026).seconds 1970) ∧
      ¬ ReadAsCalendar (Text.asBytes "2026+1+1T000000Z") := by
  have htext : Text.asBytes "2026+1+1T000000Z" =
      [50, 48, 50, 54, 43, 49, 43, 49, 84, 48, 48, 48, 48, 48, 48, 90] := by decide
  rw [htext]
  have hparse : parseAmzDatetimeToUnix
      [50, 48, 50, 54, 43, 49, 43, 49, 84, 48, 48, 48, 48, 48, 48, 90] =
        .returns ((Instant.newYear 2026).seconds 1970) :=
    parseAmzDatetimeToUnix_eq_returns.mpr
      ⟨⟨rfl, rfl, rfl⟩, not_tornCut_of_ascii (forall_mem_of_all (by decide)), Instant.newYear 2026,
        ⟨by decide, by decide⟩, ⟨rfl, rfl, rfl, rfl, rfl, rfl⟩, rfl⟩
  refine ⟨hparse, ?_⟩
  intro h
  obtain ⟨u, -, heq, -⟩ := (h.denotes _).mp hparse
  have hplus : (43 : UInt8) ∈
      ([50, 48, 50, 54, 43, 49, 43, 49, 84, 48, 48, 48, 48, 48, 48, 90] : Bytes) := by decide
  rw [heq] at hplus
  exact plus_not_mem_amzText u hplus

end Netdisk2Blob.Gateway.RequestDates
