import PrintFarm.Decimal.Literal
import PrintFarm.Text.Blank
import PrintFarm.Text.Quoted
import PrintFarm.Usage

/-!
# Usage as it is typed

On the command line, what a spool has given is typed as its identifier, `=` and the grams.
-/

namespace PrintFarm

/-- What can be wrong with an entry. -/
inductive UsageFault
  | noSeparator (entry : String)
  | badSpool (part : String)
  | badGrams (part : String)
  deriving DecidableEq, Repr

/-- How a fault is reported. -/
def UsageFault.message : UsageFault → String
  | .noSeparator entry => s!"expected SPOOL_ID=GRAMS, got {Text.quoted entry}"
  | .badSpool part => s!"invalid spool id {Text.quoted part}"
  | .badGrams part => s!"invalid gram amount {Text.quoted part}"

/-- Reads an entry. Blanks around its two parts do not matter. -/
def SpoolUsage.ofEntry (entry : String) : Except UsageFault (SpoolUsage Float) :=
  let cs := entry.toList
  match cs.dropWhile (· != '=') with
  | [] => .error (.noSeparator entry)
  | _ :: grams =>
    let spool := String.ofList (cs.takeWhile (· != '='))
    let grams := String.ofList grams
    match Uuid.ofText? (Text.trim spool) with
    | none => .error (.badSpool spool)
    | some id =>
      match Decimal.readAmount? (Text.trim grams) with
      | none => .error (.badGrams grams)
      | some x => .ok ⟨id, x⟩

end PrintFarm
