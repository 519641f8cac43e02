import PrintFarm.Run.Basic

/-!
# The index page

The page at `/` lists the runs in progress. Text from the tables is escaped, so that it cannot add
markup.
-/

namespace PrintFarm.Http

/-- The characters that mean markup, each with the reference that stands for it, in the order in
which they are replaced. Every reference begins with an ampersand, so ampersands come first. -/
def references : List (Char × String) :=
  [('&', "&amp;"), ('<', "&lt;"), ('>', "&gt;"), ('"', "&quot;"), ('\'', "&#39;")]

/-- The text with `reference` in place of every `mark`. -/
def replaceAll (mark : Char) (reference : String) (s : String) : String :=
  String.ofList (s.toList.flatMap fun c => if c = mark then reference.toList else [c])

/-- The text without characters that mean markup. -/
def escapeMarkup (s : String) : String :=
  references.foldl (fun text r => replaceAll r.1 r.2 text) s

/-- The row of a run. -/
def pageRow {α : Type} (r : Run α) : String :=
  let number := escapeMarkup r.number
  let printer := escapeMarkup (r.printerName.getD "-")
  s!"<tr><td><a href=\"/api/runs/{r.id}\">{number}</a></td>" ++
    s!"<td>{r.startedAt.shortText}</td><td>{printer}</td></tr>"

/-- The rows of the table of runs. -/
def pageRows {α : Type} (runs : List (Run α)) : String :=
  if runs.isEmpty then "<tr><td colspan=\"3\">No runs in progress.</td></tr>"
  else "\n".intercalate (runs.map pageRow)

/-- What stands before the rows. -/
def pageHead : String :=
  "<!DOCTYPE html><html><head><title>printrun</title></head><body><h1>printrun</h1>" ++
  "<p><a href=\"/api/runs\">/api/runs</a> | <a href=\"/api/spools\">/api/spools</a> | " ++
  "<a href=\"/api/failure-reasons\">/api/failure-reasons</a></p>" ++
  "<table><tr><th>Run</th><th>Started</th><th>Printer</th></tr>"

/-- The page that lists these runs. -/
def indexPage {α : Type} (runs : List (Run α)) : String :=
  pageHead ++ pageRows runs ++ "</table></body></html>"

end PrintFarm.Http
