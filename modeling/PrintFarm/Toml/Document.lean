import PrintFarm.Toml.Number
import PrintFarm.Toml.Text
import PrintFarm.Toml.Tree

/-!
# Settings files

A file consists of lines that set a key, open a table or open a further table of a list; blank lines
and comments may stand between. `readFile` gives the entries of the whole file, or the place of its
first fault.
-/

namespace PrintFarm.Toml

/-- How deep lists and braces may be nested, and how many parts a dotted key has at most. -/
def deepest : Nat := 79

namespace Reader

/-! ## Keys -/

def isBare (c : Char) : Bool :=
  c.isAlphanum || c = '_' || c = '-'

/-- One part of a dotted key: a bare word, or a text on one line. -/
def keyPart : Reader Key := do
  let place ← left
  match ← get with
  | '"' :: _ => return ⟨← basicText, place⟩
  | '\'' :: _ => return ⟨← literalText, place⟩
  | _ =>
    let c ← one isBare
    return ⟨String.ofList (c :: (← takeWhile isBare)), place⟩

/-- A dotted key. -/
def key : Reader (List Key) := do
  let start ← left
  let path ← separated (do spaces; let part ← keyPart; spaces; return part) (mark '.')
  if path.length ≤ deepest then return path else haltAt start

/-! ## Values -/

/-- The items of a list, after its bracket. -/
def listItems (value : Reader Node) : Reader (List Node) := do
  let comma := mark ','
  let items ← attempt do
    let items ← separated (do gap; let item ← value; gap; return item) comma
    let _ ← attempt comma
    return items
  gap
  return items.getD []

/-- The values between braces, after the brace. All are read before a second value for one key is
noticed. -/
def braceEntries (value : Reader Node) : Reader Entries := do
  let start ← left
  let setting : Reader (List Key × Node) := do
    let path ← key
    must do
      mark '='
      spaces
      let node ← value
      spaces
      return (path, node)
  let settings := (← attempt (separated setting (mark ','))).getD []
  spaces
  match settings.foldlM (fun entries (path, node) => Entries.insert? node path entries) [] with
  | some entries => return entries
  | none => haltAt start

/-- A value. The values in lists and between braces are read by `inner?`; without it they are
nested too deep. -/
def valueOf (inner? : Option (Reader Node)) : Reader Node := do
  let place ← left
  let inner : Reader (Reader Node) :=
    match inner? with
    | some inner => return inner
    | none => must halt
  match ← get with
  | [] => halt
  | c :: _ =>
    if c = '"' || c = '\'' then return .text place (← anyText)
    else if c = '[' then
      mark c
      let items ← must (listItems (← inner))
      must (mark ']')
      return .list place items
    else if c = '\x7b' then
      mark c
      let entries ← must (braceEntries (← inner))
      must (mark '\x7d')
      return .table place .braces entries
    else if c = 't' then
      must (word ['t', 'r', 'u', 'e'])
      return .other place
    else if c = 'f' then
      must (word ['f', 'a', 'l', 's', 'e'])
      return .other place
    else if c = '_' then return .whole place (← whole)
    else if c = '+' || c = '-' || c.isDigit then
      either (do either moment (either pointed wordNumber); return .other place)
        (do return .whole place (← whole))
    else
      either pointed wordNumber
      return .other place

/-- A value in which lists and braces are nested at most `depth` deep. -/
def valueWithin : Nat → Reader Node
  | 0 => valueOf none
  | depth + 1 => valueOf (some (valueWithin depth))

/-- A value. -/
def value : Reader Node := valueWithin deepest

/-! ## Lines -/

/-- What one line does to the entries of the file: it sets a key, or opens a table. -/
inductive Line
  | setting (path : List Key) (node : Node)
  | table (path : List Key)
  | element (path : List Key)

/-- A line that sets a key. -/
def setting : Reader Line := do
  let path ← key
  mark '='
  spaces
  let node ← value
  restOfLine
  return .setting path node

/-- A line with a header. -/
def header : Reader Line := do
  match ← get with
  | '[' :: '[' :: rest =>
    set rest
    let path ← key
    word [']', ']']
    restOfLine
    return .element path
  | '[' :: rest =>
    if rest.isEmpty then halt
    set rest
    let path ← key
    mark ']'
    restOfLine
    return .table path
  | _ => halt

end Reader

/-- A file as far as it has been read: the header that is in force, and all entries. -/
structure Draft where
  header : List Key
  entries : Entries

/-- Adds a line that begins at `place`. -/
def Draft.add? (draft : Draft) (place : Nat) : Reader.Line → Option Draft
  | .setting path node =>
    (draft.entries.within? (Entries.insert? node path) draft.header).map fun entries =>
      { draft with entries }
  | .table path => (draft.entries.openTable? place path).map fun entries => ⟨path, entries⟩
  | .element path => (draft.entries.openElement? place path).map fun entries => ⟨path, entries⟩

open Reader in
/-- Reads the rest of a file; it has at most `steps` lines. -/
def readLines : Nat → Draft → Reader Draft
  | 0, draft => return draft
  | steps + 1, draft => do
    spaces
    match ← get with
    | [] => return draft
    | '#' :: _ =>
      comment
      lineEnd
      readLines steps draft
    | c :: _ =>
      if c = '\n' || c = '\r' then
        match ← attempt newline with
        | some _ => readLines steps draft
        | none => halt
      else
        let place ← left
        let line ← if c = '[' then header else setting
        match draft.add? place line with
        | some draft => readLines steps draft
        | none => haltAt place

/-- Reads a file. A mark of the byte order may stand in front. Where it cannot be read, the result
is how many characters are left from the first fault on. -/
def readFile (s : String) : Except Nat Entries :=
  let cs := match s.toList with
    | '\ufeff' :: rest => rest
    | cs => cs
  match readLines (cs.length + 1) ⟨[], []⟩ cs with
  | .ok (draft, _) => .ok draft.entries
  | .error halt => .error halt.left

end PrintFarm.Toml
