import PrintFarm.Timestamp.Basic
import PrintFarm.Text.Blank

/-!
# Reading timestamps

A timestamp is a date, one of `T`, `t` or a space, a time, and a zone. Blanks may stand in front of
every number and around the zone; months and the parts of the time may have one digit. A year has
at most four digits unless it has a sign. Digits beyond nanoseconds are dropped. The second 60 is
a leap second. The calendar has a first and a last day, in UTC too.
-/

namespace PrintFarm.Timestamp

/-- A reader takes something off the front of the text, or refuses it. -/
abbrev Reader (α : Type) := StateT (List Char) Option α

/-- Drops blanks. -/
def blanks : Reader Unit :=
  modify Text.skipBlanks

/-- Takes exactly `c`. -/
def mark (c : Char) : Reader Unit := do
  match ← get with
  | d :: rest => if d = c then set rest else failure
  | [] => failure

/-- The value of the digits at the front, at most `most` of them and at least one. -/
def digits (most : Nat) : Reader (Nat × Nat) := do
  let cs ← get
  let taken := (cs.take most).takeWhile Char.isDigit
  if taken.isEmpty then failure
  else
    set (cs.drop taken.length)
    pure (taken.foldl (fun n c => n * 10 + (c.toNat - '0'.toNat)) 0, taken.length)

/-- A number of one or two digits from `low` to `high`, after blanks. -/
def twoDigits (low high : Nat) : Reader Nat := do
  blanks
  let (n, _) ← digits 2
  if low ≤ n && n ≤ high then pure n else failure

/-- The first and the last year of the calendar. -/
def firstYear : Int := -262143

def lastYear : Int := 262142

/-- Whether the day that many days after 1970-01-01 is in the calendar. -/
def inCalendar (days : Int) : Bool :=
  Date.toDays ⟨firstYear, 1, 1⟩ ≤ days && days ≤ Date.toDays ⟨lastYear, 12, 31⟩

/-- A year, with a sign and any number of digits or without one and at most four. -/
def year : Reader Int := do
  blanks
  let cs ← get
  let (n, negative) ← match cs with
    | '-' :: rest => do set rest; let (n, _) ← digits rest.length; pure (n, true)
    | '+' :: rest => do set rest; let (n, _) ← digits rest.length; pure (n, false)
    | _ => do let (n, _) ← digits 4; pure (n, false)
  let year : Int := if negative then -(n : Int) else n
  if firstYear ≤ year && year ≤ lastYear then pure year else failure

/-- A day of the calendar. -/
def day : Reader Date := do
  let y ← year
  blanks; mark '-'
  let m ← twoDigits 1 12
  blanks; mark '-'
  let d ← twoDigits 1 31
  let date : Date := ⟨y, m, d⟩
  if date.isValid then pure date else failure

/-- A fraction of a second in nanoseconds, if there is one. -/
def fraction : Reader Nat := do
  match ← get with
  | '.' :: rest =>
    set rest
    let (n, count) ← digits 9
    modify (List.dropWhile Char.isDigit)
    pure (n * Nat.pow 10 (9 - count))
  | _ => pure 0

/-- A time of day: seconds since midnight, and nanoseconds. -/
def timeOfDay : Reader (Nat × Nat) := do
  let hour ← twoDigits 0 23
  blanks; mark ':'
  let minute ← twoDigits 0 59
  blanks; mark ':'
  let second ← twoDigits 0 60
  let nanos ← fraction
  if second = 60 then pure (hour * 3600 + minute * 60 + 59, nanos + nanosPerSecond)
  else pure (hour * 3600 + minute * 60 + second, nanos)

/-- Exactly two digits. -/
def pair (high : Nat) : Reader Nat := do
  let (n, count) ← digits 2
  if count = 2 && n ≤ high then pure n else failure

/-- A sign, hours and minutes, with colons or blanks between those, as seconds. -/
def numericZone : Reader Int := do
  let negative ← match ← get with
    | '+' :: rest => do set rest; pure false
    | '-' :: rest => do set rest; pure true
    | '\u2212' :: rest => do set rest; pure true
    | _ => failure
  let hours ← pair 99
  modify (List.dropWhile fun c => c = ':' || Text.isBlank c)
  let minutes ← pair 59
  let offset : Int := hours * 3600 + minutes * 60
  if offset < secondsPerDay then pure (if negative then -offset else offset) else failure

/-- The distance of the zone from UTC in seconds. -/
def zone : Reader Int := do
  let cs ← get
  if (cs.take 3).map Char.toUpper = ['U', 'T', 'C'] then
    set (cs.drop 3)
    pure 0
  else
    match cs with
    | c :: rest =>
      if c = 'Z' || c = 'z' then
        set rest
        pure 0
      else numericZone
    | [] => failure

/-- A date, a separator, a time and a zone. -/
def moment : Reader Timestamp := do
  let date ← day
  match ← get with
  | c :: rest => if c = 'T' || c = 't' || c = ' ' then set rest else failure
  | [] => failure
  let (second, nanos) ← timeOfDay
  blanks
  let offset ← zone
  blanks
  let seconds := date.toDays * secondsPerDay + second - offset
  if inCalendar (seconds / secondsPerDay) then pure ⟨seconds, nanos⟩ else failure

/-- Reads a timestamp that fills the whole text. -/
def ofText? (s : String) : Option Timestamp := do
  let (t, rest) ← moment.run s.toList
  if rest.isEmpty then some t else none

end PrintFarm.Timestamp
