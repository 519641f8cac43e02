/-!
# Trees of settings

A settings file is read into a tree. Its tables are opened by headers, by dotted keys or between
braces, and each way may go on with other tables than the next; `Origin` keeps which it was.
`insert?`, `openTable?` and `openElement?` are the three ways in which a line of a file changes the
tree; `none` means that the line defines something a second time.

Every node knows its place in the file, counted as the number of characters from there to the end.
-/

namespace PrintFarm.Toml

/-- A key as it stands in a file. -/
structure Key where
  name : String
  place : Nat
  deriving DecidableEq, Repr

/-- How a table came to be: by its own header, by the header of a table below it, by a dotted key,
or between braces. -/
inductive Origin
  | header
  | implied
  | dotted
  | braces
  deriving DecidableEq, Repr

/-- A value in a file. Nothing asks for numbers with a point, truth values and dates, so what they
say is not kept. -/
inductive Node
  | text (place : Nat) (s : String)
  | whole (place : Nat) (n : Int)
  | other (place : Nat)
  | list (place : Nat) (items : List Node)
  | tables (place : Nat) (items : List Node)
  | table (place : Nat) (origin : Origin) (entries : List (String × Node))
  deriving Inhabited

/-- What a table holds, in the order of the file. -/
abbrev Entries := List (String × Node)

namespace Node

/-- Where the value begins. -/
def place : Node → Nat
  | text p _ | whole p _ | other p | list p _ | tables p _ | table p _ _ => p

/-- The items of a list, however it is written. -/
def items? : Node → Option (List Node)
  | list _ items | tables _ items => some items
  | _ => none

def text? : Node → Option String
  | text _ s => some s
  | _ => none

def whole? : Node → Option Int
  | whole _ n => some n
  | _ => none

end Node

namespace Entries

/-- The value of that name. -/
def find? (name : String) (entries : Entries) : Option Node :=
  entries.lookup name

/-- Puts `node` where the value of that name stood. -/
def replace (name : String) (node : Node) (entries : Entries) : Entries :=
  entries.map fun e => if e.1 = name then (name, node) else e

/-- The other values. -/
def without (name : String) (entries : Entries) : Entries :=
  entries.filter fun e => e.1 ≠ name

/-- Changes the entries of the table under `key`. Where there is none, one is made with the origin
`made`; where there is a list of tables, its last one is meant. Only tables of a `passable` origin
may be changed. -/
def change? (made : Origin) (passable : Origin → Bool) (key : Key)
    (change : Entries → Option Entries) (entries : Entries) : Option Entries :=
  match entries.find? key.name with
  | none => (change []).map fun below => entries ++ [(key.name, .table key.place made below)]
  | some (.table place origin below) =>
    if passable origin then
      (change below).map fun below => entries.replace key.name (.table place origin below)
    else none
  | some (.tables place items) =>
    match items.getLast? with
    | some (.table p origin below) =>
      if passable .header then
        (change below).map fun below =>
          entries.replace key.name (.tables place (items.dropLast ++ [.table p origin below]))
      else none
    | _ => none
  | some _ => none

/-- Sets the value under a dotted key. The last table on the way must be one of dotted keys alone;
before that, tables that a header implied and the last table of a list may be passed. -/
def insert? (node : Node) : List Key → Entries → Option Entries
  | [], _ => none
  | [key], entries =>
    if (entries.find? key.name).isSome then none else some (entries ++ [(key.name, node)])
  | [outer, key], entries =>
    entries.change? .dotted (· == .dotted) outer (insert? node [key])
  | outer :: path, entries =>
    match entries.find? outer.name with
    | some (.tables ..) => entries.change? .dotted (fun _ => true) outer (insert? node path)
    | _ =>
      entries.change? .dotted (fun o => o == .dotted || o == .implied) outer (insert? node path)

/-- Changes the entries of the table that a header names. All tables may be passed but those between
braces. -/
def within? (change : Entries → Option Entries) : List Key → Entries → Option Entries
  | [], entries => change entries
  | key :: path, entries => entries.change? .implied (· != .braces) key (within? change path)

/-- Opens the table of a header. It must be new, or implied by a header so far. -/
def openTable? (place : Nat) (path : List Key) (entries : Entries) : Option Entries :=
  match path.getLast? with
  | none => none
  | some key =>
    entries.within? (fun above =>
      match above.find? key.name with
      | none => some (above ++ [(key.name, .table place .header [])])
      | some (.table _ .implied below) =>
        some (above.without key.name ++ [(key.name, .table place .header below)])
      | some _ => none) path.dropLast

/-- Opens a further table in the list of a header. The list must be new, or be one of headers. -/
def openElement? (place : Nat) (path : List Key) (entries : Entries) : Option Entries :=
  match path.getLast? with
  | none => none
  | some key =>
    entries.within? (fun above =>
      match above.find? key.name with
      | none => some (above ++ [(key.name, .tables place [.table place .header []])])
      | some (.tables p items) =>
        some (above.replace key.name (.tables p (items ++ [.table place .header []])))
      | some _ => none) path.dropLast

end Entries

end PrintFarm.Toml
