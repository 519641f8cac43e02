import PrintFarm.Text.Column

/-!
# Writing texts of settings files

A text is written in the plainest of four styles that shows it without escapes: between quotation
marks, between apostrophes, or between three of either. If none does, it is escaped.
-/

namespace PrintFarm.Toml

/-- How a text can be written. -/
inductive TextStyle
  | basic
  | literal
  | basicLines
  | literalLines
  deriving DecidableEq, Repr

/-- Whether `c` has to be escaped wherever it stands: the controls but tabs and line ends. -/
def isControl (c : Char) : Bool :=
  (c < ' ' && c ≠ '\t' && c ≠ '\n') || c = '\x7f'

/-- The length of the longest run of `c`, where `before` of them stand in front. -/
def longestRun (c : Char) (before : Nat) : List Char → Nat
  | [] => before
  | d :: rest => if d = c then longestRun c (before + 1) rest else max before (longestRun c 0 rest)

namespace TextStyle

/-- The style in which a text is written. -/
def ofText (cs : List Char) : TextStyle :=
  let controls := cs.any isControl
  let backslash := cs.contains '\\'
  let lines := cs.contains '\n'
  let marks := longestRun '"' 0 cs
  let apostrophes := longestRun '\'' 0 cs
  if !controls && !backslash && !lines && marks = 0 then basic
  else if !controls && !lines && apostrophes = 0 then literal
  else if !controls && !backslash && marks ≤ 2 then basicLines
  else if !controls && apostrophes ≤ 2 then literalLines
  else if lines then basicLines
  else basic

/-- What stands at both ends of the text. -/
def mark : TextStyle → List Char
  | basic => ['"']
  | literal => ['\'']
  | basicLines => ['"', '"', '"']
  | literalLines => ['\'', '\'', '\'']

/-- Whether the text may go on over several lines. -/
def hasLines : TextStyle → Bool
  | basicLines | literalLines => true
  | _ => false

/-- Whether backslashes escape. -/
def hasEscapes : TextStyle → Bool
  | basic | basicLines => true
  | _ => false

/-- How many quotation marks may come in a row without an escape. -/
def freeMarks (style : TextStyle) : Nat :=
  if style.hasLines then 2 else 0

end TextStyle

/-- One character other than a quotation mark, as it stands between quotation marks. -/
def escapedChar (style : TextStyle) (c : Char) : List Char :=
  if c = '\x08' then ['\\', 'b']
  else if c = '\t' then ['\\', 't']
  else if c = '\n' then (if style.hasLines then ['\n'] else ['\\', 'n'])
  else if c = '\x0c' then ['\\', 'f']
  else if c = '\r' then ['\\', 'r']
  else if c = '\\' then ['\\', '\\']
  else if isControl c then
    '\\' :: 'u' ::
      (Text.fillLeft '0' 4 (String.ofList ((Nat.toDigits 16 c.toNat).map Char.toUpper))).toList
  else [c]

/-- The characters as they stand between quotation marks, where `before` quotation marks without
escapes stand in front. -/
def escapedChars (style : TextStyle) (before : Nat) : List Char → List Char
  | [] => []
  | c :: rest =>
    if c = '"' then
      if before < style.freeMarks then c :: escapedChars style (before + 1) rest
      else '\\' :: c :: escapedChars style 0 rest
    else escapedChar style c ++ escapedChars style 0 rest

/-- The text as it stands behind a key. -/
def writtenText (s : String) : String :=
  let cs := s.toList
  let style := TextStyle.ofText cs
  let start := if style.hasLines && cs.contains '\n' then ['\n'] else []
  let body := if style.hasEscapes then escapedChars style 0 cs else cs
  String.ofList (style.mark ++ start ++ body ++ style.mark)

end PrintFarm.Toml
