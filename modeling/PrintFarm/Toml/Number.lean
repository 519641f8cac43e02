import PrintFarm.Decimal.Literal
import PrintFarm.Text.Hexadecimal
import PrintFarm.Timestamp.Calendar
import PrintFarm.Toml.Reader

/-!
# Numbers and moments in settings files

Only whole numbers are kept. Numbers with a point or an exponent, days and times of day are read so
that a file that breaks their rules is refused. Underscores may stand between two digits.
-/

namespace PrintFarm.Toml.Reader

/-- Digits, of which the first one fulfils `first`, with single underscores between. The
underscores are left out. -/
def digitRun (first digit : Char → Bool) : Reader (List Char) := do
  let c ← one first
  let more ← many <| either (one digit) do
    mark '_'
    must (one digit)
  return c :: more

/-- A sign: whether it is a minus. -/
def sign : Reader Bool := do
  match ← attempt (one fun c => c = '+' || c = '-') with
  | some c => return c == '-'
  | none => return false

/-- A sign and decimal digits without leading zeros. -/
def decimalDigits : Reader (Bool × List Char) := do
  let negative ← sign
  let digits ← either
    (digitRun (fun c => c.isDigit && c ≠ '0') Char.isDigit)
    (do return [← one Char.isDigit])
  return (negative, digits)

/-! ## Numbers with a point or an exponent -/

/-- An exponent: its value. -/
def exponent : Reader Int := do
  let _ ← one fun c => c = 'e' || c = 'E'
  let negative ← sign
  let n : Int := Decimal.digitsValue (← must (digitRun Char.isDigit Char.isDigit))
  return if negative then -n else n

/-- A number with a point or an exponent. It must not be too large. -/
def pointed : Reader Unit := do
  let start ← left
  let (negative, whole) ← decimalDigits
  let (fraction, power) ← either
    (do return ([], ← exponent))
    (do
      mark '.'
      let fraction ← must (digitRun Char.isDigit Char.isDigit)
      return (fraction, (← attempt exponent).getD 0))
  let literal : Decimal.Literal :=
    ⟨negative, Decimal.digitsValue (whole ++ fraction), power - fraction.length⟩
  if !negative && literal.value.isInf then must (haltAt start) else return

/-- The words for infinity and for no number. -/
def wordNumber : Reader Unit := do
  let _ ← sign
  either (word ['i', 'n', 'f']) (word ['n', 'a', 'n'])

/-! ## Whole numbers -/

/-- The digits after a base mark. Halts before the mark where the number is too large. -/
def based (base : Nat) (digit : Char → Bool) : Reader Int := do
  let start ← left
  set ((← get).drop 2)
  let digits ← digitRun digit digit
  let n := digits.foldl (fun n c => n * base + (Text.hexDigit? c).getD 0) 0
  if n < Nat.pow 2 63 then return n else haltAt start

/-- A whole number of 64 bits. -/
def whole : Reader Int := do
  match ← get with
  | '0' :: 'x' :: _ => must (based 16 Text.isHexDigit)
  | '0' :: 'o' :: _ => must (based 8 fun c => '0' ≤ c && c ≤ '7')
  | '0' :: 'b' :: _ => must (based 2 fun c => c = '0' || c = '1')
  | _ =>
    let start ← left
    let (negative, digits) ← decimalDigits
    let n : Int := Decimal.digitsValue digits
    let n := if negative then -n else n
    if -(Int.pow 2 63) ≤ n ∧ n < Int.pow 2 63 then return n else must (haltAt start)

/-! ## Days and times -/

/-- A number of exactly `count` digits from `low` to `high`. Halts before the digits. -/
def fixedDigits (count low high : Nat) : Reader Nat := do
  let start ← left
  let n := Decimal.digitsValue (← exactly count Char.isDigit)
  if low ≤ n && n ≤ high then return n else haltAt start

/-- A day. After the year and its hyphen nothing else can be meant. -/
def day : Reader Unit := do
  let year ← fixedDigits 4 0 9999
  mark '-'
  must do
    let month ← fixedDigits 2 1 12
    mark '-'
    let _ ← fixedDigits 2 1 (Date.daysInMonth year month)

/-- A time of day. After the hour and its colon nothing else can be meant. -/
def timeOfDay : Reader Unit := do
  let _ ← fixedDigits 2 0 23
  mark ':'
  must do
    let _ ← fixedDigits 2 0 59
    mark ':'
    let _ ← fixedDigits 2 0 60
    let _ ← attempt do
      mark '.'
      let _ ← one Char.isDigit
      takeWhile Char.isDigit

/-- A zone: `Z`, or hours and minutes after a sign. -/
def zone : Reader Unit :=
  either (do let _ ← one fun c => c = 'Z' || c = 'z') do
    let _ ← one fun c => c = '+' || c = '-'
    must do
      let _ ← fixedDigits 2 0 23
      mark ':'
      let _ ← fixedDigits 2 0 59

/-- A day, a time of day, or both with a zone if one is given. -/
def moment : Reader Unit :=
  either
    (do
      day
      let _ ← attempt do
        let _ ← one fun c => c = 'T' || c = 't' || c = ' '
        timeOfDay
        attempt zone)
    timeOfDay

end PrintFarm.Toml.Reader
