/-!
# Lines and columns

A fault in a text is told by line and column, both counted from 1.
-/

namespace PrintFarm.Toml

/-- A line and a column. -/
structure Position where
  line : Nat
  column : Nat
  deriving DecidableEq, Repr

namespace Position

/-- What stands behind the last line end. -/
def lastLine (cs : List Char) : List Char :=
  (cs.reverse.takeWhile (· != '\n')).reverse

/-- The position of what stands behind `before`, `distance` columns into its line. -/
def behind (before : List Char) (distance : Nat) : Position :=
  ⟨1 + before.count '\n', 1 + distance⟩

/-- The position at which `left` characters of the text are left. Columns count characters, but in
front of a character beyond ASCII they count bytes. The end of the text is on the line of its last
character. -/
def ofLeft (text : List Char) (left : Nat) : Position :=
  let before := text.take (text.length - left)
  match text.drop (text.length - left) with
  | c :: _ =>
    let line := lastLine before
    behind before (if c.utf8Size = 1 then line.length else (String.ofList line).utf8ByteSize)
  | [] =>
    let before := text.dropLast
    behind before (if text.isEmpty then 0 else (lastLine before).length + 1)

end Position

end PrintFarm.Toml
