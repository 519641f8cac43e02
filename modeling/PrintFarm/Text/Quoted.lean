import PrintFarm.Text.Concealed

/-!
# Quoted text

Messages quote foreign text so that it stays on one line and every character of it can be told:
quotation marks and backslashes are escaped, the four usual controls have short escapes, and
concealed characters are written by their code point.
-/

namespace PrintFarm.Text

/-- How one character is written between quotation marks. -/
def escaped (c : Char) : List Char :=
  if c = '"' then ['\\', '"']
  else if c = '\\' then ['\\', '\\']
  else if c = '\n' then ['\\', 'n']
  else if c = '\r' then ['\\', 'r']
  else if c = '\t' then ['\\', 't']
  else if c.toNat = 0 then ['\\', '0']
  else if isConcealed c then ['\\', 'u', '\x7b'] ++ Nat.toDigits 16 c.toNat ++ ['\x7d']
  else [c]

/-- The text in quotation marks. -/
def quoted (s : String) : String :=
  String.ofList ('"' :: s.toList.flatMap escaped ++ ['"'])

end PrintFarm.Text
