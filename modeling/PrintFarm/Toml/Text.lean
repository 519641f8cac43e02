import PrintFarm.Text.Hexadecimal
import PrintFarm.Toml.Reader

/-!
# Texts in settings files

A text stands between quotation marks, where backslashes escape, or between apostrophes, where all
stands for itself; and between one mark, on one line, or between three, on any number of lines. A
line end straight after three opening marks is dropped, and up to two further marks may stand before
three closing ones.
-/

namespace PrintFarm.Toml.Reader

/-- The character of a code of exactly `count` hexadecimal digits. Halts before the digits. -/
def codePoint (count : Nat) : Reader Char := do
  let start ← left
  let digits ← exactly count Text.isHexDigit
  match Text.hexNumber? digits with
  | some n => if n.isValidChar then return Char.ofNat n else haltAt start
  | none => haltAt start

/-- What an escape stands for. A character that cannot be escaped is read before the halt. -/
def escape : Reader Char := do
  mark '\\'
  match ← one (fun _ => true) with
  | 'b' => return '\x08'
  | 'f' => return '\x0c'
  | 'n' => return '\n'
  | 'r' => return '\r'
  | 't' => return '\t'
  | '"' => return '"'
  | '\\' => return '\\'
  | 'u' => must (codePoint 4)
  | 'U' => must (codePoint 8)
  | _ => must halt

/-- Text on one line between quotation marks. -/
def basicText : Reader String := do
  mark '"'
  let parts ← many <| either
    (one fun c => isPlain c && c ≠ '"' && c ≠ '\\')
    escape
  must (mark '"')
  return String.ofList parts

/-- Text on one line between apostrophes. -/
def literalText : Reader String := do
  mark '\''
  let cs ← takeWhile fun c => isPlain c && c ≠ '\''
  must (mark '\'')
  return String.ofList cs

/-- A backslash at the end of a line: the line end and all blanks after it are left out. -/
def joinedLines : Reader Unit := do
  mark '\\'
  spaces
  newline
  let _ ← many (either newline (do let _ ← one isSpace))

/-- One or two marks among the text of several lines, which nothing but another mark follows. -/
def looseMarks (c : Char) : Reader (List Char) := do
  let marks ← takeWhile (· = c)
  if marks.isEmpty || 2 < marks.length || (← get).isEmpty then halt
  else return marks

/-- Three closing marks, after at most two that belong to the text. -/
def closingMarks (c : Char) : Reader (List Char) := do
  let marks := (← get).takeWhile (· = c)
  if marks.length < 3 then halt
  else
    let own := marks.take (min 2 (marks.length - 3))
    set ((← get).drop (own.length + 3))
    return own

/-- A character or line end that stands for itself in text of several lines. -/
def lineOrPlain (ok : Char → Bool) : Reader (List Char) :=
  either (do return [← one fun c => isPlain c && ok c]) (do newline; return ['\n'])

/-- Text on several lines between quotation marks. -/
def basicLines : Reader String := do
  word ['"', '"', '"']
  let _ ← attempt newline
  let content : Reader (List Char) :=
    either (do joinedLines; return [])
      (either (do return [← escape]) (lineOrPlain fun c => c ≠ '"' && c ≠ '\\'))
  let parts ← must (many (either content (looseMarks '"')))
  let own ← must (closingMarks '"')
  return String.ofList (parts.flatten ++ own)

/-- Text on several lines between apostrophes. -/
def literalLines : Reader String := do
  word ['\'', '\'', '\'']
  let _ ← attempt newline
  let content := lineOrPlain (· ≠ '\'')
  let parts ← must <| many <| either content do
    let marks ← looseMarks '\''
    return marks ++ (← content)
  let own ← must (closingMarks '\'')
  return String.ofList (parts.flatten ++ own)

/-- A text, however it is written. -/
def anyText : Reader String :=
  either basicLines (either basicText (either literalLines literalText))

end PrintFarm.Toml.Reader
