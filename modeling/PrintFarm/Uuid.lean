import PrintFarm.Text.Hexadecimal

/-!
# Identifiers

Every row has an identifier of 128 bits. It is written in groups of hexadecimal digits, and read in
four forms. Identifiers are ordered by their bytes, which is the order of the numbers they are.
-/

namespace PrintFarm

/-- An identifier of 128 bits. -/
structure Uuid where
  bits : BitVec 128
  deriving DecidableEq

namespace Uuid

/-- The order of identifiers: byte by byte. -/
def before (a b : Uuid) : Bool :=
  a.bits.toNat < b.bits.toNat

/-- How many digits each group has. -/
def groups : List Nat := [8, 4, 4, 4, 12]

/-- Takes the hyphens out of the grouped form, if they stand in the right places. -/
def ungrouped? : List Nat → List Char → Option (List Char)
  | [], _ => none
  | [n], cs => if cs.length = n then some cs else none
  | n :: ns, cs =>
    match cs.drop n with
    | '-' :: rest => (ungrouped? ns rest).map (cs.take n ++ ·)
    | _ => none

/-- Reads 32 digits without hyphens. -/
def ofDigits? (cs : List Char) : Option Uuid :=
  if cs.length = 32 then (Text.hexNumber? cs).map fun n => ⟨BitVec.ofNat 128 n⟩ else none

/-- Reads the grouped form. -/
def ofGrouped? (cs : List Char) : Option Uuid :=
  (ungrouped? groups cs).bind ofDigits?

/-- The tag in front of an identifier that is written as a resource name. -/
def resourceTag : List Char := "urn:uuid:".toList

/-- Reads an identifier: digits alone, in groups, in groups within braces, or in groups after the
resource tag in any letter case. -/
def ofText? (s : String) : Option Uuid :=
  match s.toList with
  | '\x7b' :: rest =>
    if rest.getLast? = some '\x7d' then ofGrouped? rest.dropLast else none
  | cs =>
    if cs.length = 32 then ofDigits? cs
    else if resourceTag.isPrefixOf (cs.map Char.toLower) then
      ofGrouped? (cs.drop resourceTag.length)
    else ofGrouped? cs

/-- The 32 hexadecimal digits, in lower case. -/
def digits (u : Uuid) : List Char :=
  let ds := Nat.toDigits 16 u.bits.toNat
  List.replicate (32 - ds.length) '0' ++ ds

/-- Puts the hyphens between the groups. -/
def grouped : List Nat → List Char → List Char
  | [], cs => cs
  | [_], cs => cs
  | n :: ns, cs => cs.take n ++ '-' :: grouped ns (cs.drop n)

/-- The grouped form in lower case. -/
def text (u : Uuid) : String :=
  String.ofList (grouped groups u.digits)

instance : ToString Uuid := ⟨text⟩

/-- The identifier whose bits are all zero. -/
def nil : Uuid := ⟨0⟩

/-- The `n`-th identifier of a table: the first digit tells the table, the last group is `n`. -/
def numbered (table n : Nat) : Uuid :=
  ⟨BitVec.ofNat 128 (table * Nat.pow 2 124 + 0x4000 * Nat.pow 2 64 + 0x8000 * Nat.pow 2 48 + n)⟩

end Uuid

end PrintFarm
