import PrintFarm.Decimal.Notation

/-!
# Values written as JSON

Answers are built as values and written by `Value.render`. Whole numbers and fractions are told
apart: a fraction always has a point or an exponent. What JSON cannot say, it says by `null`.
-/

namespace PrintFarm.Json

/-- A JSON value to be written. -/
inductive Value
  | null
  | bool (b : Bool)
  | whole (n : Int)
  | real (x : Float)
  | text (s : String)
  | list (items : List Value)
  | record (fields : List (String × Value))

namespace Value

/-- How one character stands between quotation marks. -/
def escaped (c : Char) : List Char :=
  if c = '"' then ['\\', '"']
  else if c = '\\' then ['\\', '\\']
  else if c = '\n' then ['\\', 'n']
  else if c = '\r' then ['\\', 'r']
  else if c = '\t' then ['\\', 't']
  else if c.toNat < 32 then
    let digits := Nat.toDigits 16 c.toNat
    ['\\', 'u'] ++ List.replicate (4 - digits.length) '0' ++ digits
  else [c]

/-- A text between quotation marks. -/
def quote (s : String) : String :=
  String.ofList ('"' :: s.toList.flatMap escaped ++ ['"'])

/-- A fraction; what is not a finite number is written as `null`. -/
def realText (x : Float) : String :=
  match Decimal.magnitude x with
  | .finite b => Decimal.Notation.document.finite b
  | _ => "null"

mutual

/-- The value as one line of JSON. -/
def render : Value → String
  | null => "null"
  | bool b => if b then "true" else "false"
  | whole n => toString n
  | real x => realText x
  | text s => quote s
  | list items => "[" ++ renderItems items ++ "]"
  | record fields => "\x7b" ++ renderFields fields ++ "\x7d"

def renderItems : List Value → String
  | [] => ""
  | [v] => render v
  | v :: vs => render v ++ "," ++ renderItems vs

def renderFields : List (String × Value) → String
  | [] => ""
  | [(name, v)] => quote name ++ ":" ++ render v
  | (name, v) :: fields => quote name ++ ":" ++ render v ++ "," ++ renderFields fields

end

/-- A value that may be absent. -/
def optional {β : Type} (f : β → Value) : Option β → Value
  | none => null
  | some b => f b

end Value

end PrintFarm.Json
