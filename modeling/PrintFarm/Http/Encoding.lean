import PrintFarm.Text.Hexadecimal

/-!
# Percent encoding

Paths and queries write characters as a percent sign and two hexadecimal digits for each byte. A
percent sign that no two digits follow stands for itself.
-/

namespace PrintFarm.Http

/-- The value of a byte that is a hexadecimal digit. -/
def hexByte? (b : UInt8) : Option UInt8 :=
  (Text.hexDigit? (Char.ofNat b.toNat)).map UInt8.ofNat

/-- The percent sign. -/
def percentSign : UInt8 := 37

/-- The bytes that are meant. -/
def percentBytes : List UInt8 → List UInt8
  | [] => []
  | [b] => [b]
  | [b, c] => [b, c]
  | b :: high :: low :: rest =>
    if b = percentSign then
      match hexByte? high, hexByte? low with
      | some h, some l => (h * 16 + l) :: percentBytes rest
      | _, _ => b :: percentBytes (high :: low :: rest)
    else b :: percentBytes (high :: low :: rest)

/-- The text that is meant, unless its bytes are no text. -/
def percentDecoded? (s : String) : Option String :=
  String.fromUTF8? ⟨(percentBytes s.toUTF8.toList).toArray⟩

/-- The text that a part of a query means: there a plus sign is a space. -/
def formDecoded? (s : String) : Option String :=
  percentDecoded? (s.map fun c => if c = '+' then ' ' else c)

/-- The names and values of a query. A part without `=` has an empty value. -/
def queryPairs (query : String) : List (Option String × Option String) :=
  ((query.splitOn "&").filter fun part => !part.isEmpty).map fun part =>
    let cs := part.toList
    let name := String.ofList (cs.takeWhile (· != '='))
    let value := String.ofList ((cs.dropWhile (· != '=')).drop 1)
    (formDecoded? name, formDecoded? value)

end PrintFarm.Http
