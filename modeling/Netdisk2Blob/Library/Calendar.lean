import Mathlib.Data.List.Basic
import Mathlib.Logic.Function.Iterate
import Mathlib.Order.Nat
import Mathlib.Data.Nat.Basic
import Mathlib.Tactic.SplitIfs

/-!
# The Gregorian Calendar

Dates and instants as the calendar defines them: which days there are, and which day or second
comes next. How far an instant lies behind the first one of a year is the number of seconds
that pass until it.

## Contents

- `Date`, `Date.next`, `Instant`, `Instant.tick`
- `Date.number`: the days since the first of January of a year; `number_next`
- `Instant.seconds`: the seconds since the beginning of a year; `seconds_tick`,
  `seconds_lt_iff` and `iterate_tick`, that so many ticks lead to the instant
-/

namespace Netdisk2Blob.Library.Calendar

/-! ## Section 1: Years and months -/

def isLeap (year : Nat) : Bool :=
  (year % 4 == 0 && year % 100 != 0) || year % 400 == 0

def daysInMonth (year : Nat) : Nat → Nat
  | 2 => if isLeap year then 29 else 28
  | 4 | 6 | 9 | 11 => 30
  | _ => 31

def daysInYear (year : Nat) : Nat := if isLeap year then 366 else 365

/-- The days of the first months of a year. -/
def daysOfMonths (year : Nat) : Nat → Nat
  | 0 => 0
  | months + 1 => daysOfMonths year months + daysInMonth year (months + 1)

/-- The days of so many years from the first one on. -/
def daysOfYears (first : Nat) : Nat → Nat
  | 0 => 0
  | years + 1 => daysOfYears first years + daysInYear (first + years)

theorem daysInMonth_pos (year month : Nat) : 0 < daysInMonth year month := by
  unfold daysInMonth
  split
  · split <;> decide
  all_goals decide

theorem daysInMonth_le (year month : Nat) : daysInMonth year month ≤ 31 := by
  unfold daysInMonth
  split
  · split <;> decide
  all_goals decide

/-- The twelve months make the year. -/
theorem daysOfMonths_twelve (year : Nat) : daysOfMonths year 12 = daysInYear year := by
  simp only [daysOfMonths, daysInMonth, daysInYear]
  split <;> rfl

theorem daysOfMonths_mono (year : Nat) {m n : Nat} (h : m ≤ n) :
    daysOfMonths year m ≤ daysOfMonths year n := by
  induction h with
  | refl => exact le_refl _
  | step h ih => exact ih.trans (Nat.le_add_right _ _)

theorem daysOfYears_mono (first : Nat) {m n : Nat} (h : m ≤ n) :
    daysOfYears first m ≤ daysOfYears first n := by
  induction h with
  | refl => exact le_refl _
  | step h ih => exact ih.trans (Nat.le_add_right _ _)

theorem daysInYear_le (year : Nat) : daysInYear year ≤ 366 := by
  unfold daysInYear
  split <;> decide

theorem daysOfYears_le (first years : Nat) : daysOfYears first years ≤ 366 * years := by
  induction years with
  | zero => simp [daysOfYears]
  | succ years ih =>
    have hyear := daysInYear_le (first + years)
    simp only [daysOfYears]
    omega

/-! ## Section 2: Dates -/

@[ext] structure Date where
  year : Nat
  month : Nat
  day : Nat
  month_pos : 1 ≤ month
  month_le : month ≤ 12
  day_pos : 1 ≤ day
  day_le : day ≤ daysInMonth year month
  deriving DecidableEq

namespace Date

/-- The day after a day. -/
def next (d : Date) : Date :=
  if hday : d.day < daysInMonth d.year d.month then
    { d with day := d.day + 1, day_pos := by omega, day_le := hday }
  else if hmonth : d.month < 12 then
    { year := d.year, month := d.month + 1, day := 1, month_pos := by omega, month_le := hmonth,
      day_pos := le_refl 1, day_le := daysInMonth_pos _ _ }
  else
    { year := d.year + 1, month := 1, day := 1, month_pos := le_refl 1, month_le := by decide,
      day_pos := le_refl 1, day_le := daysInMonth_pos _ _ }

/-- The first of January. -/
def newYear (year : Nat) : Date where
  year := year
  month := 1
  day := 1
  month_pos := le_refl 1
  month_le := by decide
  day_pos := le_refl 1
  day_le := daysInMonth_pos _ _

/-- The days since the first of January of the year `first`. -/
def number (first : Nat) (d : Date) : Nat :=
  daysOfYears first (d.year - first) + daysOfMonths d.year (d.month - 1) + (d.day - 1)

/-- The order of the calendar: by year, month and day. -/
def Before (d e : Date) : Prop :=
  d.year < e.year ∨ d.year = e.year ∧ (d.month < e.month ∨ d.month = e.month ∧ d.day < e.day)

variable {first : Nat} {d e : Date}

theorem le_year_next : d.year ≤ d.next.year := by
  unfold next
  split_ifs <;> simp

@[simp] theorem number_newYear : number first (newYear first) = 0 := by
  simp [number, newYear, daysOfYears, daysOfMonths]

theorem daysOfMonths_month (year : Nat) {month : Nat} (h : 1 ≤ month) :
    daysOfMonths year month = daysOfMonths year (month - 1) + daysInMonth year month := by
  obtain ⟨months, rfl⟩ : ∃ months, month = months + 1 := ⟨month - 1, by omega⟩
  rfl

theorem daysOfYears_year {year : Nat} (h : first ≤ year) :
    daysOfYears first (year + 1 - first) = daysOfYears first (year - first) + daysInYear year := by
  have hsucc : year + 1 - first = year - first + 1 := by omega
  have hyear : first + (year - first) = year := by omega
  rw [hsucc, daysOfYears, hyear]

/-- The number counts the days one by one. -/
theorem number_next (h : first ≤ d.year) : number first d.next = number first d + 1 := by
  have hday := d.day_pos
  have hmonths := daysOfMonths_month d.year d.month_pos
  unfold next
  split_ifs with hlast hmonth
  · simp only [number]
    omega
  · -- the last day of the month is followed by the first of the next
    have hend : d.day = daysInMonth d.year d.month := le_antisymm d.day_le (not_lt.mp hlast)
    simp only [number, Nat.add_sub_cancel]
    omega
  · -- the last day of the year
    have hend : d.day = daysInMonth d.year d.month := le_antisymm d.day_le (not_lt.mp hlast)
    have htwelve : d.month = 12 := le_antisymm d.month_le (not_lt.mp hmonth)
    have hyear := daysOfYears_year h
    have hlength := daysOfMonths_twelve d.year
    rw [htwelve, hlength] at hmonths
    rw [htwelve] at hend
    have hnumber : number first d = daysOfYears first (d.year - first) +
        daysOfMonths d.year (12 - 1) + (d.day - 1) := by rw [number, htwelve]
    have hnewYear : number first (newYear (d.year + 1)) =
        daysOfYears first (d.year + 1 - first) := by simp [number, newYear, daysOfMonths]
    show number first (newYear (d.year + 1)) = _
    omega

/-- A day of a year lies in it. -/
theorem number_lt_year (h : first ≤ d.year) :
    number first d < daysOfYears first (d.year + 1 - first) := by
  have hmonths := daysOfMonths_month d.year d.month_pos
  have hyear := daysOfMonths_mono d.year d.month_le
  rw [daysOfMonths_twelve] at hyear
  have hday := d.day_le
  have hpos := d.day_pos
  rw [number, daysOfYears_year h]
  omega

theorem number_lt_of_before (hd : first ≤ d.year) (h : d.Before e) :
    number first d < number first e := by
  rcases h with hyear | ⟨hyear, hmonth | ⟨hmonth, hday⟩⟩
  · have hmono := daysOfYears_mono first (show d.year + 1 - first ≤ e.year - first by omega)
    have hlt := number_lt_year hd
    have hnumber : number first e = daysOfYears first (e.year - first) +
        daysOfMonths e.year (e.month - 1) + (e.day - 1) := rfl
    omega
  · have hmonths := daysOfMonths_month d.year d.month_pos
    have hmono := daysOfMonths_mono d.year (show d.month ≤ e.month - 1 by omega)
    have hday := d.day_le
    have hpos := d.day_pos
    rw [number, number, ← hyear]
    omega
  · have hpos := d.day_pos
    rw [number, number, ← hyear, ← hmonth]
    omega

theorem before_trichotomy (d e : Date) : d.Before e ∨ d = e ∨ e.Before d := by
  rcases Nat.lt_trichotomy d.year e.year with hyear | hyear | hyear
  · exact Or.inl (Or.inl hyear)
  · rcases Nat.lt_trichotomy d.month e.month with hmonth | hmonth | hmonth
    · exact Or.inl (Or.inr ⟨hyear, Or.inl hmonth⟩)
    · rcases Nat.lt_trichotomy d.day e.day with hday | hday | hday
      · exact Or.inl (Or.inr ⟨hyear, Or.inr ⟨hmonth, hday⟩⟩)
      · exact Or.inr (Or.inl (Date.ext hyear hmonth hday))
      · exact Or.inr (Or.inr (Or.inr ⟨hyear.symm, Or.inr ⟨hmonth.symm, hday⟩⟩))
    · exact Or.inr (Or.inr (Or.inr ⟨hyear.symm, Or.inl hmonth⟩))
  · exact Or.inr (Or.inr (Or.inl hyear))

end Date

/-! ## Section 3: Instants -/

@[ext] structure Instant where
  date : Date
  hour : Nat
  minute : Nat
  second : Nat
  hour_lt : hour < 24
  minute_lt : minute < 60
  second_lt : second < 60
  deriving DecidableEq

namespace Instant

/-- The second after a second; no second is left out or put in. -/
def tick (t : Instant) : Instant :=
  if hsecond : t.second + 1 < 60 then { t with second := t.second + 1, second_lt := hsecond }
  else if hminute : t.minute + 1 < 60 then
    { t with minute := t.minute + 1, second := 0, minute_lt := hminute, second_lt := by decide }
  else if hhour : t.hour + 1 < 24 then
    { t with
      hour := t.hour + 1, minute := 0, second := 0
      hour_lt := hhour, minute_lt := by decide, second_lt := by decide }
  else
    { date := t.date.next, hour := 0, minute := 0, second := 0,
      hour_lt := by decide, minute_lt := by decide, second_lt := by decide }

/-- The beginning of a year. -/
def newYear (year : Nat) : Instant where
  date := .newYear year
  hour := 0
  minute := 0
  second := 0
  hour_lt := by decide
  minute_lt := by decide
  second_lt := by decide

/-- The seconds since the beginning of the year `first`. -/
def seconds (first : Nat) (t : Instant) : Nat :=
  t.date.number first * 86400 + t.hour * 3600 + t.minute * 60 + t.second

/-- The order of time: by date, hour, minute and second. -/
def Before (t u : Instant) : Prop :=
  t.date.Before u.date ∨ t.date = u.date ∧ (t.hour < u.hour ∨ t.hour = u.hour ∧
    (t.minute < u.minute ∨ t.minute = u.minute ∧ t.second < u.second))

variable {first : Nat} {t u : Instant}

@[simp] theorem seconds_newYear : seconds first (newYear first) = 0 := by
  simp [seconds, newYear]

theorem le_year_tick (h : first ≤ t.date.year) : first ≤ t.tick.date.year := by
  unfold tick
  split_ifs
  · exact h
  · exact h
  · exact h
  · exact h.trans Date.le_year_next

/-- The seconds are counted one by one. -/
theorem seconds_tick (h : first ≤ t.date.year) : seconds first t.tick = seconds first t + 1 := by
  have hhour := t.hour_lt
  have hminute := t.minute_lt
  have hsecond := t.second_lt
  unfold tick
  split_ifs
  · simp only [seconds]
    omega
  · simp only [seconds]
    omega
  · simp only [seconds]
    omega
  · simp only [seconds, Date.number_next h]
    omega

theorem before_trichotomy (t u : Instant) : t.Before u ∨ t = u ∨ u.Before t := by
  unfold Before
  rcases Date.before_trichotomy t.date u.date with hdate | hdate | hdate
  · exact Or.inl (Or.inl hdate)
  · rcases Nat.lt_trichotomy t.hour u.hour with hhour | hhour | hhour
    · exact Or.inl (Or.inr ⟨hdate, Or.inl hhour⟩)
    · rcases Nat.lt_trichotomy t.minute u.minute with hminute | hminute | hminute
      · exact Or.inl (Or.inr ⟨hdate, Or.inr ⟨hhour, Or.inl hminute⟩⟩)
      · rcases Nat.lt_trichotomy t.second u.second with hsecond | hsecond | hsecond
        · exact Or.inl (Or.inr ⟨hdate, Or.inr ⟨hhour, Or.inr ⟨hminute, hsecond⟩⟩⟩)
        · exact Or.inr (Or.inl (Instant.ext hdate hhour hminute hsecond))
        · exact Or.inr (Or.inr (Or.inr ⟨hdate.symm, Or.inr ⟨hhour.symm,
            Or.inr ⟨hminute.symm, hsecond⟩⟩⟩))
      · exact Or.inr (Or.inr (Or.inr ⟨hdate.symm, Or.inr ⟨hhour.symm, Or.inl hminute⟩⟩))
    · exact Or.inr (Or.inr (Or.inr ⟨hdate.symm, Or.inl hhour⟩))
  · exact Or.inr (Or.inr (Or.inl hdate))

theorem seconds_lt_of_before (ht : first ≤ t.date.year) (h : t.Before u) :
    seconds first t < seconds first u := by
  have hhour := t.hour_lt
  have hminute := t.minute_lt
  have hsecond := t.second_lt
  unfold seconds
  rcases h with hdate | ⟨hdate, h⟩
  · have hlt := Date.number_lt_of_before ht hdate
    omega
  · rw [hdate]
    omega

/-- The seconds keep the order of time. -/
theorem seconds_lt_iff (ht : first ≤ t.date.year) (hu : first ≤ u.date.year) :
    seconds first t < seconds first u ↔ t.Before u := by
  constructor
  · intro hlt
    rcases before_trichotomy t u with h | rfl | h
    · exact h
    · exact absurd hlt (lt_irrefl _)
    · exact absurd (seconds_lt_of_before hu h) (by omega)
  · exact seconds_lt_of_before ht

theorem seconds_injective (ht : first ≤ t.date.year) (hu : first ≤ u.date.year)
    (h : seconds first t = seconds first u) : t = u := by
  rcases before_trichotomy t u with hbefore | heq | hbefore
  · exact absurd (seconds_lt_of_before ht hbefore) (by omega)
  · exact heq
  · exact absurd (seconds_lt_of_before hu hbefore) (by omega)

/-- So many ticks after the beginning of the year, so many seconds have passed. -/
theorem seconds_iterate (n : Nat) :
    first ≤ (tick^[n] (newYear first)).date.year ∧
      seconds first (tick^[n] (newYear first)) = n := by
  induction n with
  | zero => exact ⟨le_refl first, seconds_newYear⟩
  | succ n ih =>
    obtain ⟨hyear, hseconds⟩ := ih
    rw [Function.iterate_succ_apply']
    exact ⟨le_year_tick hyear, by rw [seconds_tick hyear, hseconds]⟩

/-- **The seconds of an instant are the ticks that lead to it.** -/
theorem iterate_tick (ht : first ≤ t.date.year) : tick^[seconds first t] (newYear first) = t := by
  have hiterate : first ≤ (tick^[seconds first t] (newYear first)).date.year ∧
      seconds first (tick^[seconds first t] (newYear first)) = seconds first t :=
    seconds_iterate (seconds first t)
  obtain ⟨hyear, hseconds⟩ := hiterate
  exact seconds_injective hyear ht hseconds

end Instant

end Netdisk2Blob.Library.Calendar
