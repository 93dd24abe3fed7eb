import TreeShell.Text.Split

/-!
# Moments

The time of a session, as a calendar shows it. It is written in two ways: for the user, to the
second; and as a stamp in a record, to the microsecond and with its offset from universal time,
which is always zero.
-/

set_option autoImplicit false

namespace TreeShell

/-- A date and a time of day. -/
structure Moment where
  year : Nat
  month : Nat
  day : Nat
  hour : Nat
  minute : Nat
  second : Nat
  microsecond : Nat
deriving DecidableEq, Repr

namespace Moment

/-- The year, the month and the day that lie a number of days after the first of January 1970. Years
are counted from March, so that a leap day comes last; four hundred of them have 146097 days. -/
def calendarDay (days : Nat) : Nat × Nat × Nat :=
  let day := days + 719468
  let era := day / 146097
  let inEra := day % 146097
  let year := (inEra - inEra / 1460 + inEra / 36524 - inEra / 146096) / 365
  let inYear := inEra - (365 * year + year / 4 - year / 100)
  let march := (5 * inYear + 2) / 153
  let month := if march < 10 then march + 3 else march - 9
  (400 * era + year + if month ≤ 2 then 1 else 0, month, inYear - (153 * march + 2) / 5 + 1)

/-- The moment that lies a number of microseconds after the beginning of 1970. -/
def ofMicroseconds (n : Nat) : Moment :=
  let seconds := n / 1000000
  let (year, month, day) := calendarDay (seconds / 86400)
  ⟨year, month, day, seconds / 3600 % 24, seconds / 60 % 60, seconds % 60, n % 1000000⟩

/-- A number in at least `width` digits. -/
def digits (width n : Nat) : String :=
  let plain := toString n
  .ofList (List.replicate (width - plain.length) '0') ++ plain

/-- The day. -/
def dayText (m : Moment) : String :=
  digits 4 m.year ++ "-" ++ digits 2 m.month ++ "-" ++ digits 2 m.day

/-- The time of day, to the second. -/
def timeText (m : Moment) : String :=
  digits 2 m.hour ++ ":" ++ digits 2 m.minute ++ ":" ++ digits 2 m.second

/-- A moment as it is shown to users. -/
def text (m : Moment) : String :=
  m.dayText ++ " " ++ m.timeText

/-- A moment as it is written into records. Whole seconds are written without a fraction. -/
def stamp (m : Moment) : String :=
  let fraction := if m.microsecond = 0 then "" else "." ++ digits 6 m.microsecond
  m.dayText ++ "T" ++ m.timeText ++ fraction ++ "+00:00"

/-- A day of a leap year after its leap day. -/
example : calendarDay 19783 = (2024, 3, 1) := by decide

end Moment

end TreeShell
