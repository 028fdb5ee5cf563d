/-!
This module contains moments in time and how they are written. A moment is counted from the
beginning of the year 1970 at the zero meridian, and it is written as a date and a time of that
meridian.
-/

namespace DeprecatedUse

structure Moment where
  seconds : Nat
  nanoseconds : Nat := 0
deriving DecidableEq, Repr, Inhabited

structure Date where
  year : Nat
  month : Nat
  day : Nat
deriving DecidableEq, Repr, Inhabited

namespace Date

/--
The day that comes this many days after the first of March of the year zero. Years that begin in
March have their leap day at the end, so that the days before a month are a linear function of the
month.
-/
def ofDaysSinceMarch (n : Nat) : Date :=
  let era := n / 146097
  let dayOfEra := n % 146097
  let yearOfEra := (dayOfEra - dayOfEra / 1460 + dayOfEra / 36524 - dayOfEra / 146096) / 365
  let dayOfYear := dayOfEra - (365 * yearOfEra + yearOfEra / 4 - yearOfEra / 100)
  let month := (5 * dayOfYear + 2) / 153
  let year := 400 * era + yearOfEra
  let day := dayOfYear - (153 * month + 2) / 5 + 1
  if month < 10 then ⟨year, month + 3, day⟩ else ⟨year + 1, month - 9, day⟩

def ofDays (n : Nat) : Date :=
  ofDaysSinceMarch (n + 719468)

example : ofDays 0 = ⟨1970, 1, 1⟩ := by decide

example : ofDays 11016 = ⟨2000, 2, 29⟩ := by decide

example : ofDays 11017 = ⟨2000, 3, 1⟩ := by decide

end Date

namespace Moment

def date (m : Moment) : Date :=
  Date.ofDays (m.seconds / 86400)

def padded (width n : Nat) : String :=
  let digits := toString n
  String.ofList (List.replicate (width - digits.length) '0') ++ digits

def fraction (nanoseconds : Nat) : String :=
  if nanoseconds = 0 then
    ""
  else if nanoseconds % 1000000 = 0 then
    "." ++ padded 3 (nanoseconds / 1000000)
  else if nanoseconds % 1000 = 0 then
    "." ++ padded 6 (nanoseconds / 1000)
  else
    "." ++ padded 9 nanoseconds

def render (m : Moment) : String :=
  let date := m.date
  let second := m.seconds % 86400
  padded 4 date.year ++ "-" ++ padded 2 date.month ++ "-" ++ padded 2 date.day ++ "T"
    ++ padded 2 (second / 3600) ++ ":" ++ padded 2 (second / 60 % 60) ++ ":"
    ++ padded 2 (second % 60) ++ fraction m.nanoseconds ++ "+00:00"

end Moment

end DeprecatedUse
