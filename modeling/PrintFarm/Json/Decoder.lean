import PrintFarm.Json.Document
import PrintFarm.Timestamp.Reader
import PrintFarm.Uuid

/-!
# Decoding documents

A decoder turns a document into what is asked for, or gives the first fault of the text from left
to right. Records are described by `Fields`: the names they declare and how to read them. A record
may be written as a record or as a list of its values in declaration order; a name that is not
declared or is repeated is a fault, and so is a value that is missing or left over.
-/

namespace PrintFarm.Json

/-- Reads one kind of value out of a document. -/
abbrev Decoder (α : Type) := Document → Except Fault α

/-- The fault of finding this document where another kind of value is asked for. -/
def Document.mismatch : Document → Fault
  | .broken fault => fault
  | .number n => if n.overflows then .malformed else .mistyped
  | .text (.error fault) _ => fault
  | _ => .mistyped

namespace Decoder

def text : Decoder String
  | .text content _ => content
  | d => .error d.mismatch

/-- Any number; one that is too large for a double breaks the rules of the text. -/
def real : Decoder Float
  | .number n => if n.overflows then .error .malformed else .ok n.real
  | d => .error d.mismatch

/-- A whole number from `low` to `high`. -/
def whole (low high : Int) : Decoder Int
  | .number n =>
    if n.overflows then .error .malformed
    else
      match n.whole? with
      | some i => if low ≤ i ∧ i ≤ high then .ok i else .error .mistyped
      | none => .error .mistyped
  | d => .error d.mismatch

/-- A whole number of 32 bits. -/
def int32 : Decoder Int := whole (-2147483648) 2147483647

/-- A text that `read?` accepts. -/
def parsed {α : Type} (read? : String → Option α) : Decoder α := fun d => do
  match read? (← text d) with
  | some a => .ok a
  | none => .error .mistyped

def uuid : Decoder Uuid := parsed Uuid.ofText?

def timestamp : Decoder Timestamp := parsed Timestamp.ofText?

/-- A value that may be `null`. -/
def optional {α : Type} (decode : Decoder α) : Decoder (Option α)
  | .null => .ok none
  | d => (decode d).map some

/-- A list of values. -/
def list {α : Type} (decode : Decoder α) : Decoder (List α)
  | .list items ending => do
    let values ← items.mapM decode
    match ending with
    | none => .ok values
    | some fault => .error fault
  | d => .error d.mismatch

/-- One word of a fixed set, as a text or as a record whose only field has that name and the value
`null`. -/
def choice {α : Type} (read? : String → Option α) : Decoder α
  | .text content skipped => parsed read? (.text content skipped)
  | .broken fault => .error fault
  | .record [] ending => .error (ending.getD .malformed)
  | .record ((name, value) :: others) ending => do
    let a ← parsed read? name
    match value with
    | .null =>
      match others, ending with
      | [], none => .ok a
      | _, some fault => .error fault
      | _ :: _, none => .error .malformed
    | d => .error d.mismatch
  | _ => .error .malformed

end Decoder

/-- A fault and its place: how many fields or items of the record stand before it. -/
structure Placed where
  place : Nat
  fault : Fault

/-- The earlier of two faults, if there is any. -/
def Placed.earliest : Option Placed → Option Placed → Option Placed
  | some a, some b => if b.place < a.place then some b else some a
  | some a, none => some a
  | none, b => b

/-- The values of a record: under their names, or listed in declaration order. -/
inductive Source
  | named (fields : List (Document × Document))
  | listed (items : List Document)

/-- The place behind all values, where a missing one is noticed. -/
def Source.finish : Source → Nat
  | .named fields => fields.length + 1
  | .listed items => items.length + 1

/-- The first field of that name and its place. -/
def findField? (name : String) : Nat → List (Document × Document) → Option (Nat × Document)
  | _, [] => none
  | place, (.text (.ok n) _, d) :: fields =>
    if n = name then some (place, d) else findField? name (place + 1) fields
  | place, _ :: fields => findField? name (place + 1) fields

/-- The value with that name, or with that position in the declaration, and its place. -/
def Source.find? (s : Source) (name : String) (position : Nat) : Option (Nat × Document) :=
  match s with
  | .named fields => findField? name 0 fields
  | .listed items => items[position]?.map fun d => (position, d)

/-- Declared fields, and how what they hold is read from the values of a record. The number given
to `read` is how many fields are declared before these. -/
structure Fields (α : Type) where
  names : List String
  read : Source → Nat → Except Placed α

namespace Fields

variable {α β : Type}

instance : Functor Fields where
  map f x := ⟨x.names, fun source before => (x.read source before).map f⟩

instance : Applicative Fields where
  pure a := ⟨[], fun _ _ => .ok a⟩
  seq f x :=
    let x := x ()
    { names := f.names ++ x.names
      read := fun source before =>
        match f.read source before, x.read source (before + f.names.length) with
        | .ok f, .ok a => .ok (f a)
        | .error a, .ok _ => .error a
        | .ok _, .error b => .error b
        | .error a, .error b => if b.place < a.place then .error b else .error a }

/-- A field that is read by `decode`, and by `absent` where it is missing. -/
def field (name : String) (decode : Decoder α) (absent : Source → Option α) : Fields α where
  names := [name]
  read source before :=
    match source.find? name before with
    | some (place, d) => (decode d).mapError fun fault => ⟨place, fault⟩
    | none =>
      match absent source with
      | some a => .ok a
      | none => .error ⟨source.finish, .mistyped⟩

/-- A field that must be there. -/
def required (name : String) (decode : Decoder α) : Fields α :=
  field name decode fun _ => none

/-- A field that may be absent or `null`; a list of values has to hold it. -/
def optional (name : String) (decode : Decoder α) : Fields (Option α) :=
  field name decode.optional fun
    | .named _ => some none
    | .listed _ => none

/-- A field that may be absent, but not `null`. -/
def defaulted (name : String) (default : α) (decode : Decoder α) : Fields α :=
  field name decode fun _ => some default

/-- The first name that is unreadable, undeclared or repeated. Where other names are allowed, the
values under them are skipped. What stands for a name and is no text ends the record, and that is
its ending's fault. -/
def nameFault? (declared : List String) (others : Bool) :
    Nat → List String → List (Document × Document) → Option Placed
  | _, _, [] => none
  | place, seen, (name, d) :: fields =>
    match name with
    | .text (.error fault) _ => some ⟨place, fault⟩
    | .text (.ok n) _ =>
      if n ∈ declared then
        if n ∈ seen then some ⟨place, .mistyped⟩
        else nameFault? declared others (place + 1) (n :: seen) fields
      else if others then
        match d.skipFault? with
        | some fault => some ⟨place, fault⟩
        | none => nameFault? declared others (place + 1) seen fields
      else some ⟨place, .mistyped⟩
    | _ => nameFault? declared others (place + 1) seen fields

/-- The record that the fields describe. -/
def recordWith (others : Bool) (fields : Fields α) : Decoder α := fun d =>
  let settle (source : Source) (shape : Option Placed) : Except Fault α :=
    match fields.read source 0 with
    | .ok a =>
      match shape with
      | none => .ok a
      | some p => .error p.fault
    | .error p =>
      match Placed.earliest shape (some p) with
      | none => .error p.fault
      | some first => .error first.fault
  match d with
  | .record values ending =>
    settle (.named values)
      (Placed.earliest (nameFault? fields.names others 0 [] values)
        (ending.map fun fault => ⟨values.length, fault⟩))
  | .list items ending =>
    settle (.listed items)
      (Placed.earliest
        (if fields.names.length < items.length then some ⟨fields.names.length, .malformed⟩
          else none)
        (ending.map fun fault => ⟨items.length, fault⟩))
  | d => .error d.mismatch

/-- The record that the fields describe; it has no other fields. -/
def record (fields : Fields α) : Decoder α := recordWith false fields

/-- The record that the fields describe; other fields are skipped. -/
def openRecord (fields : Fields α) : Decoder α := recordWith true fields

end Fields

/-- Decodes a whole text. After the value only spaces may follow. -/
def decode {α : Type} (decoder : Decoder α) (s : String) : Except Fault α := do
  let (document, more) := readDocument s
  let a ← decoder document
  if more then .error .malformed else .ok a

end PrintFarm.Json
