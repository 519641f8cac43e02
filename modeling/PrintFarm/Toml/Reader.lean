/-!
# Readers of settings files

A reader takes something off the front of the text or halts. A halt says how many characters were
left, and whether it is final: while it is not, the text may still be read as something else.
The readers here are those of blanks, comments and ends of lines.
-/

namespace PrintFarm.Toml

/-- Where a reader came to a halt. -/
structure Halt where
  left : Nat
  final : Bool
  deriving DecidableEq, Repr

abbrev Reader := StateT (List Char) (Except Halt)

namespace Reader

variable {α β : Type}

/-- How many characters are left. -/
def left : Reader Nat := do
  return (← get).length

/-- Halts with `n` characters left. -/
def haltAt (n : Nat) : Reader α :=
  throw ⟨n, false⟩

/-- Halts in front of the next character. -/
def halt : Reader α := do
  haltAt (← left)

/-- Reads what `r` reads; a halt of it is final. -/
def must (r : Reader α) : Reader α := fun cs =>
  (r cs).mapError fun h => { h with final := true }

/-- Reads what `r` reads, or nothing where it halts without being final. -/
def attempt (r : Reader α) : Reader (Option α) := fun cs =>
  match r cs with
  | .ok (a, rest) => .ok (some a, rest)
  | .error h => if h.final then .error h else .ok (none, cs)

/-- Reads what `first` reads, or what `second` does where it halts without being final. -/
def either (first : Reader α) (second : Reader α) : Reader α := do
  match ← attempt first with
  | some a => return a
  | none => second

/-- The next character, if `ok` holds for it. -/
def one (ok : Char → Bool) : Reader Char := do
  match ← get with
  | c :: rest => if ok c then do set rest; return c else halt
  | [] => halt

def mark (c : Char) : Reader Unit := do
  let _ ← one (· = c)

/-- The text `word`. Halts before it. -/
def word (w : List Char) : Reader Unit := do
  let cs ← get
  if w.isPrefixOf cs then set (cs.drop w.length) else halt

/-- The characters for which `ok` holds. -/
def takeWhile (ok : Char → Bool) : Reader (List Char) := do
  let cs ← get
  set (cs.dropWhile ok)
  return cs.takeWhile ok

/-- Exactly `count` characters for which `ok` holds. -/
def exactly (count : Nat) (ok : Char → Bool) : Reader (List Char) := do
  let cs ← get
  let taken := (cs.take count).takeWhile ok
  if taken.length = count then do set (cs.drop count); return taken else halt

/-- What `r` reads, as often as it can be read, at most `steps` times. -/
def repeated (r : Reader α) : Nat → Reader (List α)
  | 0 => return []
  | steps + 1 => do
    match ← attempt r with
    | some a => return a :: (← repeated r steps)
    | none => return []

/-- What `r` reads, as often as it can be read. Every time takes at least one character. -/
def many (r : Reader α) : Reader (List α) := do
  repeated r (← left)

/-- What `item` reads, once or more, with `separator` between. -/
def separated (item : Reader α) (separator : Reader β) : Reader (List α) := do
  let first ← item
  return first :: (← many do let _ ← separator; item)

/-! ## Blanks, comments and ends of lines -/

def isSpace (c : Char) : Bool := c = ' ' || c = '\t'

/-- Spaces and tabs. -/
def spaces : Reader Unit := do
  let _ ← takeWhile isSpace

/-- One end of a line. Halts behind a character that is something else. -/
def newline : Reader Unit := do
  match ← get with
  | '\n' :: rest => set rest
  | '\r' :: '\n' :: rest => set rest
  | _ :: rest => haltAt rest.length
  | [] => halt

/-- Whether `c` may stand in a comment: all but the controls. -/
def isPlain (c : Char) : Bool :=
  c = '\t' || (' ' ≤ c && c ≠ '\x7f')

def comment : Reader Unit := do
  mark '#'
  let _ ← takeWhile isPlain

/-- The end of a line or of the file. -/
def lineEnd : Reader Unit := do
  if (← get).isEmpty then return
  match ← attempt newline with
  | some _ => return
  | none => halt

/-- What may follow on a line that says something: spaces and a comment. -/
def restOfLine : Reader Unit := do
  spaces
  let _ ← attempt comment
  lineEnd

/-- Spaces, ends of lines, and comments that end with their line; at most `steps` lines of them. -/
def blankLines : Nat → Reader Unit
  | 0 => return
  | steps + 1 => do
    spaces
    match ← get with
    | '#' :: _ =>
      comment
      newline
      blankLines steps
    | '\n' :: _ | '\r' :: _ =>
      newline
      blankLines steps
    | _ => return

/-- What may stand between the items of a list. -/
def gap : Reader Unit := do
  blankLines (1 + (← left))

end Reader

end PrintFarm.Toml
