import PrintFarm.Json.Numeral
import PrintFarm.Text.Hexadecimal

/-!
# Reading JSON

A text is first read into a `Document`, as far as it can be read, and then decoded into what is
asked for. Where the text breaks off or breaks the rules, the document holds the fault in that
place. So a decoder that goes through the document from left to right finds the first fault of the
text, be it one of the text itself or one of meaning.

`readDocument` gives its recursion as many steps as twice the length of the text, which is more
than there are values and separators to read.
-/

namespace PrintFarm.Json

/-- What can be wrong with a text: it ends early, it breaks the rules of JSON, or it says
something that is not asked for. -/
inductive Fault
  | truncated
  | malformed
  | mistyped
  deriving DecidableEq, Repr

/-- A JSON text as far as it can be read. A text between quotation marks holds what it says, or its
first fault, and the fault that one finds who skips it. The names of a record are documents too,
and only the last one can be anything but a text. The `ending` of a list or record is `none` if it
is closed. -/
inductive Document
  | null
  | bool (b : Bool)
  | number (n : Numeral)
  | text (content : Except Fault String) (skipped : Option Fault)
  | list (items : List Document) (ending : Option Fault)
  | record (fields : List (Document × Document)) (ending : Option Fault)
  | broken (fault : Fault)
  deriving Inhabited

/-- The fault of finding `rest` where something else has to stand. -/
def unexpected : List Char → Fault
  | [] => .truncated
  | _ => .malformed

def isSpace (c : Char) : Bool :=
  c = ' ' || c = '\n' || c = '\t' || c = '\r'

def skipSpaces (cs : List Char) : List Char :=
  cs.dropWhile isSpace

/-- A text between quotation marks that has been read, and what follows it. -/
structure Quote where
  content : Except Fault String
  skipped : Option Fault
  rest : List Char

/-- The fault of a character that is no hexadecimal digit after `count` digits of a code: the text
is taken to end early if less than four bytes of it are left for the code. -/
def hexFault (count : Nat) (left : List Char) : Fault :=
  if count + (left.take 4).foldl (fun n c => n + c.utf8Size) 0 < 4 then .truncated
  else .malformed

/-- What one short escape stands for. -/
def shortEscape? (c : Char) : Option Char :=
  if c = '"' then some '"'
  else if c = '\\' then some '\\'
  else if c = '/' then some '/'
  else if c = 'b' then some '\x08'
  else if c = 'f' then some '\x0c'
  else if c = 'n' then some '\n'
  else if c = 'r' then some '\r'
  else if c = 't' then some '\t'
  else none

def isHighHalf (n : Nat) : Bool := 0xD800 ≤ n && n ≤ 0xDBFF

def isLowHalf (n : Nat) : Bool := 0xDC00 ≤ n && n ≤ 0xDFFF

/-- The character of two halves. -/
def joinHalves (high low : Nat) : Char :=
  Char.ofNat (0x10000 + (high - 0xD800) * 0x400 + (low - 0xDC00))

/-- Where a reader is within a quotation: between characters, after a backslash, after `count`
digits of a code (with the high half before it, if there was one), after a high half, or after a
backslash behind a high half. -/
inductive QuoteState
  | plain
  | escape
  | code (high : Option Nat) (value count : Nat)
  | half (high : Nat)
  | halfEscape (high : Nat)

/-- What a quotation says so far, in reverse, or its first fault. -/
abbrev Said := Except Fault (List Char)

/-- Adds a character. -/
def Said.push (said : Said) (c : Char) : Said :=
  said.map (c :: ·)

/-- Notes a fault that matters only to one who asks for the text. -/
def Said.spoil (said : Said) (fault : Fault) : Said :=
  said.bind fun _ => .error fault

/-- What a character does to a quotation: it goes on, is closed, or breaks. -/
inductive QuoteStep
  | go (state : QuoteState) (said : Said)
  | close (said : Said)
  | fail (fault : Fault)

def plainStep (said : Said) (c : Char) : QuoteStep :=
  if c = '"' then .close said
  else if c = '\\' then .go .escape said
  else if c.toNat < 32 then .fail .malformed
  else .go .plain (said.push c)

def escapeStep (said : Said) (c : Char) : QuoteStep :=
  if c = 'u' then .go (.code none 0 0) said
  else
    match shortEscape? c with
    | some e => .go .plain (said.push e)
    | none => .fail .malformed

/-- A code of four digits. A half character spoils the text unless its other half belongs to it. -/
def codeStep (said : Said) (high : Option Nat) (n : Nat) : QuoteStep :=
  match high with
  | some h =>
    if isLowHalf n then .go .plain (said.push (joinHalves h n))
    else .go .plain (said.spoil .malformed)
  | none =>
    if isHighHalf n then .go (.half n) said
    else if isLowHalf n then .go .plain (said.spoil .malformed)
    else .go .plain (said.push (Char.ofNat n))

/-- The effect of character `c`, with `rest` behind it. -/
def quoteStep (state : QuoteState) (said : Said) (c : Char) (rest : List Char) : QuoteStep :=
  match state with
  | .plain => plainStep said c
  | .escape => escapeStep said c
  | .code high value count =>
    match Text.hexDigit? c with
    | none => .fail (hexFault count (c :: rest))
    | some d =>
      if count < 3 then .go (.code high (value * 16 + d) (count + 1)) said
      else codeStep said high (value * 16 + d)
  | .half h => if c = '\\' then .go (.halfEscape h) said else plainStep (said.spoil .malformed) c
  | .halfEscape h =>
    if c = 'u' then .go (.code (some h) 0 0) said else escapeStep (said.spoil .malformed) c

/-- Reads a text after its opening quotation mark. -/
def readQuote (state : QuoteState) (said : Said) : List Char → Quote
  | [] => ⟨said.bind fun _ => .error .truncated, some .truncated, []⟩
  | c :: rest =>
    match quoteStep state said c rest with
    | .go state said => readQuote state said rest
    | .close said => ⟨said.map fun cs => String.ofList cs.reverse, none, rest⟩
    | .fail fault => ⟨said.bind fun _ => .error fault, some fault, []⟩

/-- The exponent of a number, after its mark: its value and the rest. -/
def readExponent (cs : List Char) : Except Fault (Int × List Char) :=
  let (negative, rest) := Decimal.takeSign cs
  let digits := rest.takeWhile Char.isDigit
  if digits.isEmpty then .error (unexpected rest)
  else
    let n : Int := Decimal.digitsValue digits
    .ok (if negative then -n else n, rest.dropWhile Char.isDigit)

/-- Point and exponent of a number whose whole part has been read. -/
def readFraction (negative : Bool) (whole : List Char) (cs : List Char) :
    Except Fault (Numeral × List Char) := do
  let (fraction, rest) ← match cs with
    | '.' :: r =>
      let digits := r.takeWhile Char.isDigit
      if digits.isEmpty then .error (unexpected r)
      else .ok (digits, r.dropWhile Char.isDigit)
    | r => .ok ([], r)
  let marked := match rest with
    | c :: _ => c = 'e' || c = 'E'
    | [] => false
  if marked then
    let (exponent, rest) ← readExponent (rest.drop 1)
    .ok (⟨negative, whole, fraction, some exponent⟩, rest)
  else .ok (⟨negative, whole, fraction, none⟩, rest)

/-- Reads a number after its sign. Only the number zero begins with a zero. -/
def readNumeral (negative : Bool) (cs : List Char) : Except Fault (Numeral × List Char) :=
  let whole := cs.takeWhile Char.isDigit
  if whole.isEmpty then .error (unexpected cs)
  else if whole.head? = some '0' && 1 < whole.length then .error .malformed
  else readFraction negative whole (cs.dropWhile Char.isDigit)

/-- What follows `word`, if the text begins with it. -/
def readWord : List Char → List Char → Except Fault (List Char)
  | [], cs => .ok cs
  | _ :: _, [] => .error .truncated
  | w :: ws, c :: cs => if w = c then readWord ws cs else .error .malformed

/-- A document that is read in one go, and what follows it. -/
def readPlain (d : Document) (read : Except Fault (List Char)) : Document × List Char :=
  match read with
  | .ok rest => (d, rest)
  | .error fault => (.broken fault, [])

mutual

/-- Reads one value. -/
def readValue : Nat → List Char → Document × List Char
  | 0, _ => (.broken .truncated, [])
  | steps + 1, cs =>
    match skipSpaces cs with
    | [] => (.broken .truncated, [])
    | 'n' :: rest => readPlain .null (readWord "ull".toList rest)
    | 't' :: rest => readPlain (.bool true) (readWord "rue".toList rest)
    | 'f' :: rest => readPlain (.bool false) (readWord "alse".toList rest)
    | '"' :: rest =>
      let quote := readQuote .plain (.ok []) rest
      (.text quote.content quote.skipped, quote.rest)
    | '[' :: rest =>
      match skipSpaces rest with
      | ']' :: rest => (.list [] none, rest)
      | [] => (.list [] (some .truncated), [])
      | rest =>
        let (items, ending, rest) := readItems steps rest
        (.list items ending, rest)
    | '\x7b' :: rest =>
      match skipSpaces rest with
      | '\x7d' :: rest => (.record [] none, rest)
      | rest =>
        let (fields, ending, rest) := readFields steps rest
        (.record fields ending, rest)
    | c :: rest =>
      let numeral :=
        if c = '-' then readNumeral true rest
        else if c.isDigit then readNumeral false (c :: rest)
        else .error .malformed
      match numeral with
      | .ok (n, rest) => (.number n, rest)
      | .error fault => (.broken fault, [])

/-- Reads the items of a list from the first one on, and its end. -/
def readItems : Nat → List Char → List Document × Option Fault × List Char
  | 0, _ => ([], some .truncated, [])
  | steps + 1, cs =>
    let (item, rest) := readValue steps cs
    match skipSpaces rest with
    | ']' :: rest => ([item], none, rest)
    | ',' :: rest =>
      match skipSpaces rest with
      | ']' :: _ => ([item, .broken .malformed], some .malformed, [])
      | rest =>
        let (items, ending, rest) := readItems steps rest
        (item :: items, ending, rest)
    | rest => ([item], some (unexpected rest), [])

/-- Reads the fields of a record from the first one on, and its end. -/
def readFields : Nat → List Char → List (Document × Document) × Option Fault × List Char
  | 0, _ => ([], some .truncated, [])
  | steps + 1, cs =>
    match skipSpaces cs with
    | '"' :: rest =>
      let quote := readQuote .plain (.ok []) rest
      let name := Document.text quote.content quote.skipped
      match quote.skipped, skipSpaces quote.rest with
      | some fault, _ => ([(name, .broken fault)], some fault, [])
      | none, ':' :: rest =>
        let (value, rest) := readValue steps rest
        match skipSpaces rest with
        | '\x7d' :: rest => ([(name, value)], none, rest)
        | ',' :: rest =>
          let (fields, ending, rest) := readFields steps rest
          ((name, value) :: fields, ending, rest)
        | rest => ([(name, value)], some (unexpected rest), [])
      | none, rest => ([(name, .broken (unexpected rest))], some (unexpected rest), [])
    | rest =>
      let (found, _) := readValue steps rest
      ([(found, .broken (unexpected rest))], some (unexpected rest), [])

end

/-- Reads the value at the front of a text: the document, and whether anything but spaces follows
it. -/
def readDocument (s : String) : Document × Bool :=
  let cs := s.toList
  let (document, rest) := readValue (2 * cs.length + 1) cs
  (document, !(skipSpaces rest).isEmpty)

mutual

/-- The first fault that one finds who skips the value. -/
def Document.skipFault? : Document → Option Fault
  | .null | .bool _ | .number _ => none
  | .text _ skipped => skipped
  | .broken fault => some fault
  | .list items ending => (itemsFault? items).or ending
  | .record fields ending => (fieldsFault? fields).or ending

def itemsFault? : List Document → Option Fault
  | [] => none
  | d :: ds => d.skipFault?.or (itemsFault? ds)

def fieldsFault? : List (Document × Document) → Option Fault
  | [] => none
  | (_, d) :: fields => d.skipFault?.or (fieldsFault? fields)

end

end PrintFarm.Json
