import PrintFarm.Command.Basic
import PrintFarm.Settings.Storage
import PrintFarm.Usage.Entry

/-!
# Command lines

A command line is the name of a command with options and words. An option has its value behind an
equals sign or in the next argument, which must not look like an option; behind `--` all is words.
Options that may not be repeated, words that nothing asks for, and values that cannot be read make
the command line invalid.
-/

namespace PrintFarm

/-- One argument: an option with the value behind its equals sign, or a word. -/
inductive Argument
  | option (name : String) (value : Option String)
  | word (s : String)
  deriving DecidableEq, Repr

/-- Reads an argument. There are no options with a single hyphen. -/
def Argument.ofText? (s : String) : Option Argument :=
  match s.toList with
  | '-' :: '-' :: cs =>
    let value := match cs.dropWhile (· != '=') with
      | _ :: value => some (String.ofList value)
      | [] => none
    some (.option (String.ofList (cs.takeWhile (· != '='))) value)
  | ['-'] => some (.word s)
  | '-' :: _ => none
  | _ => some (.word s)

/-- Whether an argument can be the value of the option in front of it. -/
def canBeValue (s : String) : Bool :=
  s = "-" || s.toList.head? != some '-'

/-- The names of the options that a command takes: those with a value and those without. -/
structure Options where
  valued : List String
  flags : List String

/-- The arguments of a command, sorted: options with their values, options without, and words. -/
structure Arguments where
  values : List (String × String)
  flags : List String
  words : List String

namespace Arguments

def empty : Arguments := ⟨[], [], []⟩

def withValue (name value : String) (a : Arguments) : Arguments :=
  { a with values := (name, value) :: a.values }

def withFlag (name : String) (a : Arguments) : Arguments :=
  { a with flags := name :: a.flags }

def withWord (s : String) (a : Arguments) : Arguments :=
  { a with words := s :: a.words }

/-- Sorts arguments. -/
def sort? (o : Options) : List String → Option Arguments
  | [] => some empty
  | arg :: rest =>
    if arg = "--" then some { empty with words := rest }
    else
      match Argument.ofText? arg with
      | none => none
      | some (.word s) => (sort? o rest).map (withWord s)
      | some (.option name (some value)) =>
        if name ∈ o.valued then (sort? o rest).map (withValue name value) else none
      | some (.option name none) =>
        if name ∈ o.flags then (sort? o rest).map (withFlag name)
        else if name ∈ o.valued then
          match rest with
          | value :: rest =>
            if canBeValue value then (sort? o rest).map (withValue name value) else none
          | [] => none
        else none

/-- All values of an option. -/
def all (a : Arguments) (name : String) : List String :=
  (a.values.filter fun v => v.1 = name).map Prod.snd

/-- What a list holds that may hold one thing. -/
def atMostOne? {β : Type} : List β → Option (Option β)
  | [] => some none
  | [b] => some (some b)
  | _ => none

/-- The value of an option that may be given once. -/
def one? (a : Arguments) (name : String) : Option (Option String) :=
  atMostOne? (a.all name)

/-- The value of an option that may be given once, or `absent`. -/
def oneOr? (a : Arguments) (name absent : String) : Option String :=
  (a.one? name).map fun value => value.getD absent

/-- Whether a flag that may be given once is given. -/
def flag? (a : Arguments) (name : String) : Option Bool :=
  (atMostOne? (a.flags.filter (· = name))).map Option.isSome

/-- The word, where one may stand. -/
def word? (a : Arguments) : Option (Option String) :=
  atMostOne? a.words

/-- The usage in the values of an option. -/
def usage? (a : Arguments) (name : String) : Option (List (SpoolUsage Float)) :=
  (a.all name).mapM fun entry => (SpoolUsage.ofEntry entry).toOption

end Arguments

/-- A port, with an optional sign. -/
def readPort? (s : String) : Option Nat :=
  let (negative, digits) := Decimal.takeSign s.toList
  if digits.isEmpty || !digits.all Char.isDigit then none
  else
    let n := Decimal.digitsValue digits
    if n ≤ largestPort && !(negative && n ≠ 0) then some n else none

/-- The option for the URL of the database, which every command takes. -/
def databaseOption : String := "database-url"

namespace Command

/-- The options that each command takes besides; `none` if there is no such command. -/
def options? : String → Option Options
  | "init" => some ⟨["db-url", "bind", "port"], ["force"]⟩
  | "db-init" | "complete" | "reasons" | "spools" => some ⟨[], []⟩
  | "runs" => some ⟨["status"], []⟩
  | "cancel" => some ⟨["mode", "usage", "notes"], []⟩
  | "fail" => some ⟨["reason", "waste", "notes"], []⟩
  | _ => none

/-- The command of that name with these arguments. -/
def ofArguments? (name : String) (a : Arguments) : Option Command := do
  let word ← a.word?
  match name, word with
  | "init", none => do
    let url ← a.oneOr? "db-url" StorageSettings.defaultUrl
    let bind ← a.oneOr? "bind" ServerSettings.default.bind
    let port ← match ← a.one? "port" with
      | some raw => readPort? raw
      | none => some ServerSettings.default.port
    let force ← a.flag? "force"
    return .writeSettings ⟨url, ⟨bind, port⟩, none⟩ force
  | "db-init", none => return .prepareDatabase
  | "reasons", none => return .listReasons
  | "spools", none => return .task .spools
  | "runs", run => do
    let status ← match ← a.one? "status" with
      | some raw => (RunStatus.ofWord? raw).map some
      | none => some none
    match run with
    | some run => return .task (.showRun run)
    | none => return .task (.listRuns status)
  | "complete", some run => return .task (.complete run)
  | "cancel", some run => do
    let mode ← (← a.one? "mode").bind CancelMode.ofWord?
    let usage ← a.usage? "usage"
    let notes ← a.one? "notes"
    return .task (.cancel run ⟨mode, usage, notes⟩)
  | "fail", some run => do
    let reason ← ← a.one? "reason"
    let waste ← a.usage? "waste"
    let notes ← a.one? "notes"
    return .task (.fail run ⟨reason, waste, notes⟩)
  | _, _ => none

end Command

namespace Invocation

/-- The URLs of the database that stand before the name of the command, the name, and what follows
it. -/
def leading? : List String → Option (List String × String × List String)
  | [] => none
  | arg :: rest =>
    match Argument.ofText? arg with
    | some (.word name) => some ([], name, rest)
    | some (.option name value) =>
      if name = databaseOption then
        match value, rest with
        | some url, rest => (leading? rest).map fun (urls, found) => (url :: urls, found)
        | none, url :: rest =>
          if canBeValue url then (leading? rest).map fun (urls, found) => (url :: urls, found)
          else none
        | none, [] => none
      else none
    | none => none

/-- Reads a command line; `none` if it is invalid. A URL behind the name of the command counts more
than one before it. -/
def ofArguments? (args : List String) : Option Invocation := do
  let (urls, name, rest) ← leading? args
  let before ← Arguments.atMostOne? urls
  let o ← Command.options? name
  let a ← Arguments.sort? { o with valued := databaseOption :: o.valued } rest
  let behind ← a.one? databaseOption
  let command ← Command.ofArguments? name a
  return ⟨behind.or before, command⟩

end Invocation

end PrintFarm
