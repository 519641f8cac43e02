import PrintFarm.Timestamp.Calendar
import PrintFarm.Text.Column

/-!
# Points in time

A timestamp counts seconds from 1970-01-01T00:00:00Z and nanoseconds within the second. The second
before a leap second goes on for twice its length, so there the nanoseconds run up to two billion.

Tables keep whole microseconds; `stored` cuts the rest off, toward the year 2000. They begin with
24 November 4714 BC, the first day of the Julian period, and end with the year 294276.
-/

namespace PrintFarm

/-- A point in time. -/
structure Timestamp where
  seconds : Int
  nanos : Nat
  deriving DecidableEq, Repr

namespace Timestamp

def nanosPerSecond : Nat := 1000000000

def secondsPerDay : Int := 86400

/-- 2000-01-01T00:00:00Z, from which tables count. -/
def tableEpoch : Int := 946684800

/-- Nanoseconds since 1970. -/
def toNanos (t : Timestamp) : Int :=
  t.seconds * nanosPerSecond + t.nanos

/-- The point in time that many nanoseconds after 1970. -/
def ofNanos (n : Int) : Timestamp :=
  ⟨n / nanosPerSecond, (n % nanosPerSecond).toNat⟩

/-- The microseconds that a table keeps of `t`. -/
def tableMicros (t : Timestamp) : Int :=
  Int.tdiv (t.toNanos - tableEpoch * nanosPerSecond) 1000

/-- The first microsecond that a table can keep. -/
def firstMicro : Int := -211813488000000000

/-- The first microsecond that comes too late for a table. -/
def endMicro : Int := 9223371331200000000

example : firstMicro = (Date.toDays ⟨-4713, 11, 24⟩ * secondsPerDay - tableEpoch) * 1000000 := by
  decide

example : endMicro = (Date.toDays ⟨294277, 1, 1⟩ * secondsPerDay - tableEpoch) * 1000000 := by
  decide

/-- Whether a table can keep `t`. -/
def isStorable (t : Timestamp) : Bool :=
  firstMicro ≤ t.tableMicros && t.tableMicros < endMicro

/-- The point in time that a table keeps in microseconds. -/
def ofTableMicros (micros : Int) : Timestamp :=
  ⟨micros / 1000000 + tableEpoch, (micros % 1000000).toNat * 1000⟩

/-- What a table gives back of `t`. -/
def stored (t : Timestamp) : Timestamp :=
  ofTableMicros t.tableMicros

/-- Whether `a` is later than `b`. -/
def after (a b : Timestamp) : Bool :=
  b.toNanos < a.toNanos

/-- The whole seconds from `start` to `finish`, and zero if they are the other way round. -/
def elapsedSeconds (start finish : Timestamp) : Nat :=
  (Int.tdiv (finish.toNanos - start.toNanos) nanosPerSecond).toNat

/-- The day in UTC. -/
def date (t : Timestamp) : Date :=
  Date.ofDays (t.seconds / secondsPerDay)

/-- The second of the day in UTC. -/
def secondOfDay (t : Timestamp) : Nat :=
  (t.seconds % secondsPerDay).toNat

/-- A year has four digits, and outside the years 0 to 9999 a sign too. -/
def yearText (year : Int) : String :=
  if 0 ≤ year ∧ year ≤ 9999 then Text.zeroPadded 4 year.toNat
  else (if year < 0 then "-" else "+") ++ Text.zeroPadded 4 year.natAbs

/-- The day with hyphens. -/
def dateText (t : Timestamp) : String :=
  let d := t.date
  yearText d.year ++ "-" ++ Text.zeroPadded 2 d.month ++ "-" ++ Text.zeroPadded 2 d.day

/-- Hour and minute. -/
def minuteText (t : Timestamp) : String :=
  let s := t.secondOfDay
  Text.zeroPadded 2 (s / 3600) ++ ":" ++ Text.zeroPadded 2 (s / 60 % 60)

/-- The second of the minute, which is 60 in a leap second. -/
def secondText (t : Timestamp) : String :=
  Text.zeroPadded 2 (t.secondOfDay % 60 + t.nanos / nanosPerSecond)

/-- The fraction of the second in 0, 3, 6 or 9 digits: the fewest that lose nothing. -/
def fractionText (t : Timestamp) : String :=
  let n := t.nanos % nanosPerSecond
  if n = 0 then ""
  else if n % 1000000 = 0 then "." ++ Text.zeroPadded 3 (n / 1000000)
  else if n % 1000 = 0 then "." ++ Text.zeroPadded 6 (n / 1000)
  else "." ++ Text.zeroPadded 9 n

/-- The full form in UTC. -/
def text (t : Timestamp) : String :=
  t.dateText ++ "T" ++ t.minuteText ++ ":" ++ t.secondText ++ t.fractionText ++ "Z"

/-- Day and minute, as lists of runs show them. -/
def shortText (t : Timestamp) : String :=
  t.dateText ++ " " ++ t.minuteText

/-- Day and second, as the view of one run shows them. -/
def longText (t : Timestamp) : String :=
  t.shortText ++ ":" ++ t.secondText ++ " UTC"

/-- The day as eight digits. -/
def dayNumber (t : Timestamp) : String :=
  let d := t.date
  Text.zeroPadded 4 d.year.toNat ++ Text.zeroPadded 2 d.month ++ Text.zeroPadded 2 d.day

end Timestamp

end PrintFarm
