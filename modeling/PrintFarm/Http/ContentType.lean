/-!
# Content types

A content type is a type and a subtype, with parameters after semicolons. Spaces stand only right
after a semicolon or a quoted value. The letter case does not matter.
-/

namespace PrintFarm.Http

/-- Whether `c` can stand in a type, a subtype, or an unquoted parameter. -/
def isTokenChar (c : Char) : Bool :=
  c.isAlphanum || "!#$%&'*+-.^_`|~".toList.contains c

/-- Whether `c` can stand in a quoted value. Only ASCII can. -/
def isQuotedChar (c : Char) : Bool :=
  31 < c.toNat && c.toNat < 127

/-- Where a reader is within parameters: before a name, in a name, at a value, in an unquoted one,
at the first character of a quoted one, further in it, behind a backslash, or after it. -/
inductive ParameterState
  | beforeName
  | name
  | atValue
  | value
  | atQuoted
  | quoted
  | escaped
  | afterQuoted
  deriving DecidableEq, Repr

namespace ParameterState

/-- What `c` does to the state, if it can stand there. -/
def next? (s : ParameterState) (c : Char) : Option ParameterState :=
  match s with
  | beforeName => if c = ' ' then some beforeName else if isTokenChar c then some name else none
  | name => if isTokenChar c then some name else if c = '=' then some atValue else none
  | atValue => if c = '"' then some atQuoted else if isTokenChar c then some value else none
  | value => if isTokenChar c then some value else if c = ';' then some beforeName else none
  | atQuoted => if c = '\\' then some escaped else if isQuotedChar c then some quoted else none
  | quoted =>
    if c = '"' then some afterQuoted
    else if c = '\\' then some escaped
    else if isQuotedChar c then some quoted
    else none
  | escaped => if isQuotedChar c then some quoted else none
  | afterQuoted => if c = ';' then some beforeName else if c = ' ' then some afterQuoted else none

/-- Whether parameters can end here. -/
def isFinal : ParameterState → Bool
  | beforeName | atValue | value | afterQuoted => true
  | _ => false

end ParameterState

/-- Whether parameters are well formed. -/
def areParameters : ParameterState → List Char → Bool
  | s, [] => s.isFinal
  | s, c :: rest =>
    match s.next? c with
    | some t => areParameters t rest
    | none => false

/-- Splits a subtype at its last plus sign, unless it begins with it. -/
def splitSuffix (subtype : List Char) : List Char × Option (List Char) :=
  let tail := subtype.reverse.takeWhile (· != '+')
  if tail.length + 1 < subtype.length then
    (subtype.take (subtype.length - tail.length - 1), some tail.reverse)
  else (subtype, none)

/-- The text in lower case. -/
def lowered (cs : List Char) : String :=
  String.ofList (cs.map Char.toLower)

/-- Whether a content type says that the body is JSON: by its subtype, or by a suffix of it. -/
def isJsonType (s : String) : Bool :=
  let cs := s.toList
  let kind := cs.takeWhile isTokenChar
  match cs.dropWhile isTokenChar with
  | '/' :: rest =>
    let subtype := rest.takeWhile isTokenChar
    let (base, suffix) := splitSuffix subtype
    let isWellFormed := match rest.dropWhile isTokenChar with
      | [] => true
      | ';' :: parameters => !subtype.isEmpty && areParameters .beforeName parameters
      | _ => false
    isWellFormed && lowered kind = "application" &&
      (lowered base = "json" || suffix.any fun t => lowered t = "json")
  | _ => false

end PrintFarm.Http
