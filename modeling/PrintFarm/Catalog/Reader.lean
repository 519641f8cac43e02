import PrintFarm.Catalog
import PrintFarm.Text.Quoted
import PrintFarm.Toml.Document
import PrintFarm.Toml.Position

/-!
# Catalogs in files

A catalog file lists its reasons under the key `reasons`. Each one is a table with a value, a label
and a description, or a list of these. The description may be left out. Other keys are ignored.
-/

namespace PrintFarm

/-- Why a text is no catalog: it cannot be read, or what it says makes none. -/
inductive CatalogTextFault
  | unreadable (position : Toml.Position)
  | unfit (fault : CatalogFault)
  deriving DecidableEq, Repr

/-- How a list of reasons that is no catalog is reported. -/
def CatalogFault.message : CatalogFault → String
  | .empty => "catalog defines no failure reasons"
  | .duplicate value => s!"duplicate failure reason value: {Text.quoted value}"

/-- How a text that is no catalog is reported. -/
def CatalogTextFault.message : CatalogTextFault → String
  | .unreadable p => s!"invalid catalog TOML: TOML parse error at line {p.line}, column {p.column}"
  | .unfit fault => fault.message

namespace FailureReason

open Toml (Node Entries)

/-- The keys of a reason. -/
def keys : List String := ["value", "label", "description"]

/-- The text of a node. The fault is the place of a node of another kind. -/
def textOf (node : Node) : Except Nat String :=
  match node.text? with
  | some s => .ok s
  | none => .error node.place

/-- The text under a key of the entries, if there is one. -/
def under (key : String) (entries : Entries) : Option String :=
  (entries.find? key).bind Node.text?

/-- A reason that is written as a table at `place`. The first entry of the wrong kind is the fault,
or else the place of the table. -/
def ofEntries (place : Nat) (entries : Entries) : Except Nat FailureReason := do
  (entries.filter fun e => e.1 ∈ keys).forM fun e => discard (textOf e.2)
  match under "value" entries, under "label" entries with
  | some value, some label => .ok ⟨value, label, (under "description" entries).getD ""⟩
  | _, _ => .error place

/-- A reason that is written as a list at `place`. -/
def ofItems (place : Nat) : List Node → Except Nat FailureReason
  | [] => .error place
  | [value] => do
    let _ ← textOf value
    .error place
  | [value, label] => return ⟨← textOf value, ← textOf label, ""⟩
  | value :: label :: description :: _ =>
    return ⟨← textOf value, ← textOf label, ← textOf description⟩

/-- Reads a reason. -/
def ofNode (node : Node) : Except Nat FailureReason :=
  match node with
  | .table place _ entries => ofEntries place entries
  | _ =>
    match node.items? with
    | some items => ofItems node.place items
    | none => .error node.place

end FailureReason

namespace Catalog

/-- The reasons that a file lists. The fault of a file that does not is its very beginning, which
is `size` characters from its end. -/
def reasonsOf (size : Nat) (entries : Toml.Entries) : Except Nat (List FailureReason) :=
  match entries.find? "reasons" with
  | none => .error size
  | some node =>
    match node.items? with
    | some items => items.mapM FailureReason.ofNode
    | none => .error node.place

/-- Reads a catalog. -/
def ofText (s : String) : Except CatalogTextFault Catalog :=
  match Toml.readFile s >>= reasonsOf s.length with
  | .error left => .error (.unreadable (.ofLeft s.toList left))
  | .ok reasons => (ofReasons reasons).mapError .unfit

end Catalog

end PrintFarm
