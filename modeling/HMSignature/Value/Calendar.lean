/-!
# Days and moments

Days of the calendar with its leap years, from the year one to the year 9999, and moments, which are days with a time
down to a microsecond. A moment may tell how far its clock is ahead of the universal one; two such moments are the same
when their universal clocks agree, whatever their own ones show.

1. `isValid_of_ofDate?`: a day that is made by year, month and day is one of the calendar;
2. `sameMoment_self`: every moment is the same as itself.
-/

namespace HMSignature

/-! ## Days -/

/-- A day by year, month and day of the month, all counted from one. -/
structure Day where
  year : Nat
  month : Nat
  day : Nat
deriving DecidableEq, Repr

namespace Day

def isLeap (year : Nat) : Bool :=
  year % 4 = 0 ∧ (year % 100 ≠ 0 ∨ year % 400 = 0)

/-- The numbers of days in the months. -/
def monthLengths (year : Nat) : List Nat :=
  [31, if isLeap year then 29 else 28, 31, 30, 31, 30, 31, 31, 30, 31, 30, 31]

/-- The number of days in a month; there is none outside the year. -/
def monthLength (year month : Nat) : Nat :=
  if month = 0 then 0 else (monthLengths year)[month - 1]?.getD 0

/-- The number of days before a year. -/
def daysBefore (year : Nat) : Nat :=
  let past := year - 1
  365 * past + past / 4 - past / 100 + past / 400

/-- The number of a day, counted from one at the first day of the year one. -/
def ordinal (d : Day) : Nat :=
  daysBefore d.year + ((monthLengths d.year).take (d.month - 1)).foldl (· + ·) 0 + d.day

/-- The calendar has the day. -/
def IsValid (d : Day) : Prop :=
  (1 ≤ d.year ∧ d.year ≤ 9999) ∧ 1 ≤ d.day ∧ d.day ≤ monthLength d.year d.month

instance (d : Day) : Decidable d.IsValid :=
  inferInstanceAs (Decidable (_ ∧ _))

/-- The day of a year, a month and a day of the month. -/
def ofDate? (year month day : Nat) : Option Day :=
  let d : Day := ⟨year, month, day⟩
  if d.IsValid then some d else none

theorem isValid_of_ofDate? {year month day : Nat} {d : Day} (found : ofDate? year month day = some d) :
    d.IsValid := by
  simp only [ofDate?] at found
  split at found
  · simp only [Option.some.injEq] at found
    exact found ▸ ‹_›
  · simp at found

/-- The day so many days after the last day of a month, if it comes before the end of the list of months. -/
def ofDayCount? (year : Nat) : (month : Nat) → List Nat → Nat → Option Day
  | _, [], _ => none
  | month, length :: others, count =>
      if count ≤ length then ofDate? year month count
      else ofDayCount? year (month + 1) others (count - length)

/-- The day with a number near a year. -/
def ofOrdinal? (year ordinal : Nat) : Option Day :=
  if ordinal ≤ daysBefore year then
    ofDayCount? (year - 1) 1 (monthLengths (year - 1)) (ordinal - daysBefore (year - 1))
  else if ordinal ≤ daysBefore (year + 1) then
    ofDayCount? year 1 (monthLengths year) (ordinal - daysBefore year)
  else ofDayCount? (year + 1) 1 (monthLengths (year + 1)) (ordinal - daysBefore (year + 1))

/-- The first day of a year, counted from zero for a Monday. -/
def firstWeekday (year : Nat) : Nat :=
  daysBefore year % 7

/-- The number of weeks in a year. A week belongs to the year that has most of its days. -/
def weekCount (year : Nat) : Nat :=
  if firstWeekday year = 3 ∨ (firstWeekday year = 2 ∧ isLeap year) then 53 else 52

/-- The number of the last day before the first week of a year, and a week more, so that it is never below zero. -/
def beforeWeeks (year : Nat) : Nat :=
  daysBefore year + (if firstWeekday year ≤ 3 then 7 else 14) - firstWeekday year

/-- The day of a year, a week and a day of the week, counted from one for a Monday. -/
def ofWeek? (year week day : Nat) : Option Day :=
  if 1 ≤ year ∧ year ≤ 9999 ∧ 1 ≤ week ∧ week ≤ weekCount year ∧ 1 ≤ day ∧ day ≤ 7 then
    ofOrdinal? year (beforeWeeks year + 7 * week + day - 14)
  else none

end Day

/-! ## Moments -/

/-- A time of day, or a span of time below one hundred hours. -/
structure Clock where
  hour : Nat
  minute : Nat
  second : Nat
  microsecond : Nat
deriving DecidableEq, Repr

namespace Clock

def midnight : Clock := ⟨0, 0, 0, 0⟩

/-- The whole seconds since midnight. -/
def seconds (c : Clock) : Nat :=
  3600 * c.hour + 60 * c.minute + c.second

/-- The microseconds since midnight. -/
def microseconds (c : Clock) : Nat :=
  1000000 * c.seconds + c.microsecond

/-- A time of day. -/
def IsTimeOfDay (c : Clock) : Prop :=
  c.hour < 24 ∧ c.minute < 60 ∧ c.second < 60 ∧ c.microsecond < 1000000

instance (c : Clock) : Decidable c.IsTimeOfDay :=
  inferInstanceAs (Decidable (_ ∧ _))

/-- A span of time as a clock shows it. -/
def ofMicroseconds (n : Nat) : Clock :=
  let seconds := n / 1000000
  ⟨seconds / 3600, seconds / 60 % 60, seconds % 60, n % 1000000⟩

end Clock

/-- The microseconds of a day. -/
def dayLength : Nat := 86400000000

/-- A time on a day. The offset says by how many microseconds the clock is ahead of the universal one. -/
structure Moment where
  day : Day
  clock : Clock
  offset : Option Int
deriving DecidableEq, Repr

namespace Moment

/-- The microseconds up to a moment on its own clock. -/
def localInstant (m : Moment) : Int :=
  dayLength * m.day.ordinal + m.clock.microseconds

/-- Equality of moments: by the universal clock if both know it, and not at all if only one does. -/
def sameMoment (a b : Moment) : Bool :=
  match a.offset, b.offset with
  | some x, some y => a.localInstant - x == b.localInstant - y
  | none, none => a.day == b.day && a.clock == b.clock
  | _, _ => false

@[simp]
theorem sameMoment_self (m : Moment) : m.sameMoment m = true := by
  unfold sameMoment
  cases m.offset <;> simp

end Moment

end HMSignature
