/-!
# Columns

Tables on the command line are set in columns. A text shorter than its column is filled up, a
longer one is left as it is. Widths count characters.
-/

namespace PrintFarm.Text

/-- Fills `s` with `filler` on the left up to `width` characters. -/
def fillLeft (filler : Char) (width : Nat) (s : String) : String :=
  String.ofList (List.replicate (width - s.length) filler) ++ s

/-- Fills `s` with spaces on the right up to `width` characters. -/
def padRight (width : Nat) (s : String) : String :=
  s ++ String.ofList (List.replicate (width - s.length) ' ')

/-- Fills `s` with spaces on the left up to `width` characters. -/
def padLeft (width : Nat) (s : String) : String :=
  fillLeft ' ' width s

/-- The digits of `n`, with zeros in front up to `width` of them. -/
def zeroPadded (width n : Nat) : String :=
  fillLeft '0' width (String.ofList (Nat.toDigits 10 n))

end PrintFarm.Text
