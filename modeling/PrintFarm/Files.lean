/-!
# Files

The program reads and writes a few small files. Paths that do not begin with a slash start from the
working directory; directories exist as far as files are in them.
-/

namespace PrintFarm

/-- The directories on the way to a file, and its name. -/
abbrev FilePath := List String

/-- The files there are, and the working directory. -/
structure Files where
  directory : FilePath
  entries : List (FilePath × String)

/-- Why a file cannot be read. -/
inductive FileFault
  | missing
  | notDirectory
  | isDirectory
  | badName
  deriving DecidableEq, Repr

/-- How the fault is reported. -/
def FileFault.message : FileFault → String
  | .missing => "No such file or directory (os error 2)"
  | .notDirectory => "Not a directory (os error 20)"
  | .isDirectory => "Is a directory (os error 21)"
  | .badName => "file name contained an unexpected NUL byte"

namespace Files

/-- The text of a file. -/
def text? (f : Files) (path : FilePath) : Option String :=
  f.entries.lookup path

def isFile (f : Files) (path : FilePath) : Bool :=
  (f.text? path).isSome

def isDirectory (f : Files) (path : FilePath) : Bool :=
  path.isPrefixOf f.directory ||
    f.entries.any fun e => path.isPrefixOf e.1 && path.length < e.1.length

/-- Where one step leads. -/
def step (path : FilePath) (part : String) : FilePath :=
  if part = "" || part = "." then path
  else if part = ".." then path.dropLast
  else path ++ [part]

/-- Goes along the parts of a path; each one has to start from a directory. -/
def walk (f : Files) : FilePath → List String → Except FileFault FilePath
  | here, [] => .ok here
  | here, part :: parts =>
    if f.isFile here then .error .notDirectory
    else if f.isDirectory here then walk f (step here part) parts
    else .error .missing

/-- Where a path starts that is written with slashes. -/
def start (f : Files) (path : String) : FilePath :=
  if path.toList.head? = some '/' then [] else f.directory

/-- Where a path leads, if its directories are made where they are missing. -/
def place (f : Files) (path : String) : FilePath :=
  (path.splitOn "/").foldl step (f.start path)

/-- Where a path leads. -/
def locate (f : Files) (path : String) : Except FileFault FilePath :=
  if path.toList.any fun c => c.toNat = 0 then .error .badName
  else if path.isEmpty then .error .missing
  else f.walk (f.start path) (path.splitOn "/")

/-- Reads a file. -/
def read (f : Files) (path : String) : Except FileFault String := do
  let place ← f.locate path
  match f.text? place with
  | some s => .ok s
  | none => .error (if f.isDirectory place then .isDirectory else .missing)

/-- Whether something is there. -/
def holds (f : Files) (path : FilePath) : Bool :=
  f.isFile path || f.isDirectory path

/-- Whether the directories on the way to a file are there or can be made. -/
def canHold (f : Files) (path : FilePath) : Bool :=
  f.entries.all fun e => !(e.1.isPrefixOf path && e.1.length < path.length)

/-- Writes a file. -/
def write (f : Files) (path : FilePath) (text : String) : Files :=
  { f with entries := (path, text) :: f.entries.filter fun e => e.1 ≠ path }

end Files

end PrintFarm
