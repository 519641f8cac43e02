import PrintFarm.Toml.Document
import PrintFarm.Toml.Writer

/-!
# The settings file

The file has a section on the database and may have one on the server, and may name a catalog of
failure reasons. Sections may be written as lists of their values. A file that cannot be read, or
holds a value of the wrong kind, counts as no file at all.
-/

namespace PrintFarm

/-- Where the server listens. -/
structure ServerSettings where
  bind : String
  port : Nat
  deriving DecidableEq, Repr

/-- The address and port on which the server listens unless others are set. -/
def ServerSettings.default : ServerSettings := ⟨"127.0.0.1", 3000⟩

/-- The largest port. -/
def largestPort : Nat := 65535

/-- What a settings file says. -/
structure SettingsFile where
  databaseUrl : String
  server : ServerSettings
  catalogPath : Option String
  deriving DecidableEq, Repr

namespace SettingsFile

open Toml (Node Entries)

/-- The value of a section: the entry of that name of a table, or the item at that position of a
list. -/
def part? (node : Node) (name : String) (position : Nat) : Option Node :=
  match node with
  | .table _ _ entries => Entries.find? name entries
  | other => other.items?.bind fun items => items[position]?

/-- A port. -/
def port? (node : Node) : Option Nat :=
  node.whole?.bind fun n => if 0 ≤ n ∧ n ≤ largestPort then some n.toNat else none

/-- Reads the section on the server, which has to be complete. -/
def server? (node : Node) : Option ServerSettings := do
  let bind ← (part? node "bind" 0).bind Node.text?
  let port ← (part? node "port" 1).bind port?
  return ⟨bind, port⟩

/-- Reads what the entries of a file say. -/
def ofEntries? (entries : Entries) : Option SettingsFile := do
  let database ← Entries.find? "database" entries
  let url ← (part? database "url" 0).bind Node.text?
  let server ←
    match Entries.find? "server" entries with
    | some node => server? node
    | none => some .default
  let catalogPath ←
    match Entries.find? "catalog_path" entries with
    | some node => node.text?.map some
    | none => some none
  return ⟨url, server, catalogPath⟩

/-- Reads a settings file. -/
def ofText? (s : String) : Option SettingsFile :=
  match Toml.readFile s with
  | .ok entries => ofEntries? entries
  | .error _ => none

/-- A line that sets a text. -/
def setting (key value : String) : String :=
  key ++ " = " ++ Toml.writtenText value ++ "\n"

/-- The file as it is written. -/
def text (f : SettingsFile) : String :=
  (match f.catalogPath with
    | some path => setting "catalog_path" path ++ "\n"
    | none => "") ++
  "[database]\n" ++ setting "url" f.databaseUrl ++
  "\n[server]\n" ++ setting "bind" f.server.bind ++ s!"port = {f.server.port}\n"

end SettingsFile

end PrintFarm
