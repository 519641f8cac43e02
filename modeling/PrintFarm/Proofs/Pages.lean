import PrintFarm.Proofs.Identifiers
import PrintFarm.Proofs.Listing
import PrintFarm.Proofs.Markup

/-!
# What the index page shows

The page at the root shows the runs in progress.

* `reads_indexPage` takes the page apart: its head, a row for each run, and its end.
* What a reader of the page sees is a table with a row for each run (`tableRows_indexPage`).
* Of what is stored, nothing but the identifiers of the runs gets into the tags of the page
  (`tags_indexPage_congr`).  Which runs are shown, and in which order, does not depend on the names
  of their printers (`Tables.ids_listed_congr`).
* `respond_index` is about the page that is served, and `stored_text_adds_no_markup` puts all
  together.
-/

namespace PrintFarm.Http

/-! ## Texts that need no escaping -/

/-- An identifier is written without quotation marks. -/
theorem not_mem_text (id : Uuid) : '"' ∉ id.text.toList := by
  intro h
  rcases Uuid.mem_text h with h | h <;> exact nomatch h

/-- A time is written in digits and the characters between them. -/
theorem mem_shortText (t : Timestamp) :
    ∀ c ∈ t.shortText.toList, c.isDigit = true ∨ c ∈ ['+', '-', ' ', ':'] := by
  have hdigits (width n : Nat) : ∀ c ∈ (Text.zeroPadded width n).toList,
      c.isDigit = true ∨ c ∈ ['+', '-', ' ', ':'] :=
    fun c hc => Or.inl (isDigit_of_mem_zeroPadded hc)
  have hyear (year : Int) : ∀ c ∈ (Timestamp.yearText year).toList,
      c.isDigit = true ∨ c ∈ ['+', '-', ' ', ':'] := by
    rw [Timestamp.yearText]
    split
    · exact hdigits _ _
    · rw [String.toList_append, List.forall_mem_append]
      refine ⟨?_, hdigits _ _⟩
      split <;> simp
  simp only [Timestamp.shortText, Timestamp.dateText, Timestamp.minuteText, String.toList_append,
    List.forall_mem_append]
  refine ⟨⟨⟨⟨⟨⟨hyear _, ?_⟩, hdigits _ _⟩, ?_⟩, hdigits _ _⟩, ?_⟩, ⟨hdigits _ _, ?_⟩, hdigits _ _⟩
  all_goals simp

/-- So a time needs no escaping. -/
theorem not_mem_shortText (t : Timestamp) {mark : Char} (hmark : mark ∈ ['<', '&']) :
    mark ∉ t.shortText.toList := by
  intro h
  have hplain := mem_shortText t mark h
  simp only [List.mem_cons, List.not_mem_nil, or_false] at hmark
  rcases hmark with rfl | rfl <;> exact absurd hplain (by decide)

/-- Where the row of a run leads to. -/
def runTarget (id : Uuid) : String :=
  "/api/runs/" ++ id.text

theorem not_mem_runTarget (id : Uuid) : '"' ∉ (runTarget id).toList := by
  rw [runTarget, String.toList_append]
  exact List.not_mem_append (by decide) (not_mem_text id)

/-! ## The tokens of the page -/

section

variable {α : Type}

/-- The tokens of the row of a run. -/
def rowTokens (r : Run α) : List Token :=
  [Token.tag "tr", .tag "td", linkTo (runTarget r.id)] ++ shown (escapeMarkup r.number) ++
    [Token.tag "/a", .tag "/td", .tag "td"] ++ shown r.startedAt.shortText ++
    [Token.tag "/td", .tag "td"] ++ shown (escapeMarkup (r.printerName.getD "-")) ++
    [Token.tag "/td", .tag "/tr"]

/-- The row in parts that leave no tag open. -/
theorem pageRow_eq (r : Run α) : pageRow r =
    "<tr><td>" ++ ("<a href=\"" ++ runTarget r.id ++ "\">") ++ escapeMarkup r.number ++
      "</a></td>" ++ ("<td>" ++ r.startedAt.shortText ++ "</td><td>" ++
      escapeMarkup (r.printerName.getD "-") ++ "</td></tr>") := by
  have hopen : "<tr><td><a href=\"/api/runs/" = "<tr><td>" ++ ("<a href=\"" ++ "/api/runs/") := rfl
  show ("<tr><td><a href=\"/api/runs/" ++ r.id.text ++ "\">" ++ escapeMarkup r.number ++
      "</a></td>") ++ ("<td>" ++ r.startedAt.shortText ++ "</td><td>" ++
      escapeMarkup (r.printerName.getD "-") ++ "</td></tr>") = _
  rw [hopen]
  simp only [runTarget, String.append_assoc]

theorem reads_pageRow (r : Run α) : Reads (pageRow r) (rowTokens r) := by
  have hlink := reads_linkTo (not_mem_runTarget r.id)
  have hopen : Reads "<tr><td>" [.tag "tr", .tag "td"] := rfl
  have hnumber : Reads "</a></td>" [.tag "/a", .tag "/td"] := rfl
  have hcell : Reads "<td>" [.tag "td"] := rfl
  have hnext : Reads "</td><td>" [.tag "/td", .tag "td"] := rfl
  have hclose : Reads "</td></tr>" [.tag "/td", .tag "/tr"] := rfl
  have hstart := reads_shown (not_mem_shortText r.startedAt (by decide))
  have hfirst := ((hopen.append hlink).append (reads_escapeMarkup r.number)).append hnumber
  have hrest := (((hcell.append hstart).append hnext).append
    (reads_escapeMarkup (r.printerName.getD "-"))).append hclose
  have hrow := hfirst.append hrest
  rw [← pageRow_eq] at hrow
  simpa only [rowTokens, List.append_assoc, List.cons_append, List.nil_append] using hrow

/-- The tokens between the head and the end of the page. -/
def rowsTokens (runs : List (Run α)) : List Token :=
  if runs.isEmpty then
    [Token.tag "tr", .tag "td colspan=\"3\""] ++ shown "No runs in progress." ++
      [Token.tag "/td", .tag "/tr"]
  else [.char '\n'].intercalate (runs.map rowTokens)

theorem reads_pageRows (runs : List (Run α)) : Reads (pageRows runs) (rowsTokens runs) := by
  rw [pageRows, rowsTokens]
  split
  · rfl
  · refine reads_intercalate ?_
    rw [List.forall₂_map_left_iff, List.forall₂_map_right_iff, List.forall₂_same]
    exact fun r _ => reads_pageRow r

/-- The tokens of the headings of the table. -/
def headingTokens : List Token :=
  [Token.tag "table", .tag "tr", .tag "th"] ++ shown "Run" ++ [Token.tag "/th", .tag "th"] ++
    shown "Started" ++ [Token.tag "/th", .tag "th"] ++ shown "Printer" ++
    [Token.tag "/th", .tag "/tr"]

/-- The head of the page ends with the headings, and there is no row before them. -/
theorem reads_pageHead : ∃ lead, Reads pageHead (lead ++ headingTokens) ∧
    ∀ t ∈ lead, t.body?.map tagName ≠ some "/tr" := by
  have hheadings : Reads "<table><tr><th>Run</th><th>Started</th><th>Printer</th></tr>"
    headingTokens := reads_ofList (by decide +kernel)
  -- of the three texts before the headings it counts only that they leave no tag open
  refine ⟨_, (((reads_ofList (Prod.ext ?_ rfl)).append (reads_ofList (Prod.ext ?_ rfl))).append
    (reads_ofList (Prod.ext ?_ rfl))).append hheadings, ?_⟩
  all_goals decide +kernel

/-- The tags behind the rows. -/
def endTokens : List Token :=
  [.tag "/table", .tag "/body", .tag "/html"]

theorem reads_indexPage {head : List Token} (hhead : Reads pageHead head) (runs : List (Run α)) :
    Reads (indexPage runs) (head ++ rowsTokens runs ++ endTokens) := by
  have hend : Reads "</table></body></html>" endTokens := rfl
  exact (hhead.append (reads_pageRows runs)).append hend

end

/-! ## The table of the page -/

namespace Table

/-- The headings of the table of runs. -/
def headings : List Cell :=
  [⟨none, "Run"⟩, ⟨none, "Started"⟩, ⟨none, "Printer"⟩]

/-- The row of a run. -/
def ofRun {α : Type} (r : Run α) : List Cell :=
  [⟨some (runTarget r.id), r.number⟩, ⟨none, r.startedAt.shortText⟩,
    ⟨none, r.printerName.getD "-"⟩]

section

variable {α : Type} (known : Table)

theorem next_linkTo_run (id : Uuid) : known.next (linkTo (runTarget id)) =
    { known with link := some (runTarget id) } :=
  known.next_linkTo (not_mem_runTarget id)

theorem foldl_headingTokens : headingTokens.foldl next known =
    ⟨known.rows ++ [headings], headings, none, "Printer".toList⟩ := by
  simp (disch := decide) only [headingTokens, List.foldl_append, List.foldl_cons, List.foldl_nil,
    foldl_shown, next_other, next_row, next_cell, next_cell_end, next_row_end, List.nil_append]
  rw [ofList_unescape (by decide), ofList_unescape (by decide), ofList_unescape (by decide)]
  rfl

theorem foldl_rowTokens (r : Run α) : (rowTokens r).foldl next known =
    ⟨known.rows ++ [ofRun r], ofRun r, none, (escapeMarkup (r.printerName.getD "-")).toList⟩ := by
  simp (disch := decide) only [rowTokens, List.foldl_append, List.foldl_cons, List.foldl_nil,
    foldl_shown, next_linkTo_run, next_other, next_row, next_cell, next_cell_end, next_row_end,
    List.nil_append]
  rw [unescape_escapeMarkup, unescape_escapeMarkup,
    ofList_unescape (not_mem_shortText r.startedAt (by decide)), String.ofList_toList,
    String.ofList_toList]
  rfl

theorem rows_foldl_runs (runs : List (Run α)) :
    (([Token.char '\n'].intercalate (runs.map rowTokens)).foldl next known).rows =
      known.rows ++ runs.map ofRun := by
  induction runs generalizing known with
  | nil => exact (List.append_nil _).symm
  | cons r runs ih =>
    cases runs with
    | nil =>
      rw [List.map_singleton, List.intercalate_singleton, foldl_rowTokens]
      rfl
    | cons q runs =>
      rw [List.map_cons, List.map_cons, List.intercalate_cons_cons, List.foldl_append,
        List.foldl_append, foldl_rowTokens, List.foldl_cons, List.foldl_nil, ← List.map_cons, ih,
        next, List.append_assoc]
      rfl

theorem rows_foldl_rowsTokens (runs : List (Run α)) :
    ((rowsTokens runs).foldl next known).rows = known.rows ++
      if runs.isEmpty then [[⟨none, "No runs in progress."⟩]] else runs.map ofRun := by
  rw [rowsTokens]
  split
  · simp (disch := decide) only [List.foldl_append, List.foldl_cons, List.foldl_nil, foldl_shown,
      next_row, next_cell, next_cell_end, next_row_end, List.nil_append]
    rw [ofList_unescape (by decide)]
  · exact rows_foldl_runs known runs

end

end Table

/-- The page shows the headings and a row for each run in turn, or says that there is none. -/
theorem tableRows_indexPage {α : Type} (runs : List (Run α)) : tableRows (indexPage runs) =
    Table.headings ::
      if runs.isEmpty then [[⟨none, "No runs in progress."⟩]] else runs.map Table.ofRun := by
  obtain ⟨lead, hhead, hlead⟩ := reads_pageHead
  have hend : ∀ t ∈ endTokens, t.body?.map tagName ≠ some "/tr" := by decide +kernel
  rw [tableRows, reads_indexPage hhead, List.foldl_append, List.foldl_append, List.foldl_append,
    Table.rows_foldl _ hend, Table.rows_foldl_rowsTokens, Table.foldl_headingTokens,
    Table.rows_foldl _ hlead]
  rfl

/-! ## The tags of the page -/

/-- The tags of the row of a run. -/
def rowTags (run : Uuid) : List String :=
  ["tr", "td", "a href=\"" ++ runTarget run ++ "\"", "/a", "/td", "td", "/td", "td", "/td", "/tr"]

/-- The tags of the rows of some runs. -/
def rowsTags (runs : List Uuid) : List String :=
  if runs.isEmpty then ["tr", "td colspan=\"3\"", "/td", "/tr"] else runs.flatMap rowTags

section

variable {α : Type}

/-- The texts of a row add no tags. -/
theorem filterMap_rowTokens (r : Run α) :
    (rowTokens r).filterMap Token.body? = rowTags r.id := by
  simp only [rowTokens, List.filterMap_append, filterMap_shown, List.append_nil]
  rfl

theorem filterMap_runs (runs : List (Run α)) :
    ([Token.char '\n'].intercalate (runs.map rowTokens)).filterMap Token.body? =
      (runs.map Run.id).flatMap rowTags := by
  induction runs with
  | nil => rfl
  | cons r runs ih =>
    cases runs with
    | nil =>
      rw [List.map_singleton, List.intercalate_singleton, filterMap_rowTokens, List.map_singleton,
        List.flatMap_singleton]
    | cons q runs =>
      rw [List.map_cons, List.map_cons, List.intercalate_cons_cons, ← List.map_cons,
        List.filterMap_append, List.filterMap_append, ih, filterMap_rowTokens, List.map_cons,
        List.flatMap_cons]
      rfl

theorem filterMap_rowsTokens (runs : List (Run α)) :
    (rowsTokens runs).filterMap Token.body? = rowsTags (runs.map Run.id) := by
  rw [rowsTokens, rowsTags, List.isEmpty_map]
  split
  · simp only [List.filterMap_append, filterMap_shown, List.append_nil]
    rfl
  · exact filterMap_runs runs

/-- The tags of the page depend on nothing but the identifiers of the runs. -/
theorem tags_indexPage_congr {runs runs' : List (Run α)}
    (h : runs.map Run.id = runs'.map Run.id) : tags (indexPage runs) = tags (indexPage runs') := by
  obtain ⟨lead, hhead, -⟩ := reads_pageHead
  rw [(reads_indexPage hhead runs).tags_eq, (reads_indexPage hhead runs').tags_eq]
  simp only [List.filterMap_append, filterMap_rowsTokens, h]

end

end PrintFarm.Http

namespace PrintFarm

/-! ## Runs and their printers -/

/-- The run without the name of its printer. -/
def Run.withoutPrinter {α : Type} (r : Run α) : Run α :=
  { r with printerName := none }

/-- Which runs are listed, and in which order, does not depend on the names of printers. -/
theorem Tables.ids_listed_congr {α : Type} {t t' : Tables α} (status : Option RunStatus)
    (h : t.runs.map Run.withoutPrinter = t'.runs.map Run.withoutPrinter) :
    (t.listed status).map Run.id = (t'.listed status).map Run.id := by
  have hlisted (t : Tables α) : (t.listed status).map Run.withoutPrinter =
      inOrder Store.runOrder ((t.runs.map Run.withoutPrinter).filter fun r =>
        status.all fun s => r.status = s) := by
    have horder (a b : Run α) : Store.runOrder a.withoutPrinter b.withoutPrinter =
      Store.runOrder a b := rfl
    rw [Tables.listed, map_inOrder horder, List.filter_map]
    rfl
  calc (t.listed status).map Run.id
      = ((t.listed status).map Run.withoutPrinter).map Run.id := by rw [List.map_map]; rfl
    _ = ((t'.listed status).map Run.withoutPrinter).map Run.id := by rw [hlisted, hlisted, h]
    _ = (t'.listed status).map Run.id := by rw [List.map_map]; rfl

end PrintFarm

namespace PrintFarm.Http

/-! ## The page that is served -/

/-- The request asks for the index page. -/
structure Request.AsksForIndex (r : Request) : Prop where
  method : r.method = .get
  path : (splitTarget r.target).1 = "/"

/-- The page that is served from a database. -/
def servedPage (db : Database Float) : String :=
  indexPage (db.tables.listed (some .inProgress))

theorem respond_index (catalog : Catalog) (now : Timestamp) {r : Request} (h : r.AsksForIndex)
    (db : Database Float) : (respond catalog now r).run db = (.page (servedPage db), db) := by
  have hcall : r.call .get = .ok .index := by
    have hplace : Place.ofPath? "/" = some .index := by decide
    unfold Request.call
    simp only [h.path, hplace]
    rfl
  have hanswer : respond catalog now r = answer catalog now r .get := by
    unfold respond
    rw [h.method]
  rw [hanswer, answer, hcall]
  rfl

/-- Texts are escaped so that nothing in them is markup and all of them can be read back.  The page
at the root lists the runs in progress as they are listed elsewhere, and its tags are the same
whatever the printers are called. -/
theorem stored_text_adds_no_markup :
    (∀ s, StandsFor (escapeMarkup s) s) ∧ Function.Injective escapeMarkup ∧
    (∀ (catalog : Catalog) (now : Timestamp) (r : Request) (db : Database Float), r.AsksForIndex →
      (respond catalog now r).run db = (.page (servedPage db), db)) ∧
    (∀ db : Database Float,
      let runs := db.tables.listed (some .inProgress)
      (∀ e : Event Float, e.operation = .listRuns (some .inProgress) →
        (e.run db).1 = .ok (.runs runs)) ∧
      runs.Perm (db.tables.runs.filter fun r => r.status = .inProgress) ∧
      tableRows (servedPage db) = Table.headings ::
        if runs.isEmpty then [[⟨none, "No runs in progress."⟩]] else runs.map Table.ofRun) ∧
    ∀ db db' : Database Float,
      db.tables.runs.map Run.withoutPrinter = db'.tables.runs.map Run.withoutPrinter →
      tags (servedPage db) = tags (servedPage db') := by
  refine ⟨standsFor_escapeMarkup, escapeMarkup_injective, fun catalog now r db h =>
    respond_index catalog now h db, fun db => ⟨fun e hop => Event.run_listRuns hop db, ?_,
    tableRows_indexPage _⟩, fun db db' h => tags_indexPage_congr (Tables.ids_listed_congr _ h)⟩
  have hperm := inOrder_perm Store.runOrder
    (db.tables.runs.filter fun r => (some RunStatus.inProgress).all fun s => r.status = s)
  exact hperm

/-- A run on a printer whose name is markup. -/
def scriptSession : List (Event Float) :=
  let item : NewItem Float := ⟨.numbered 9 1, none, 1, none, none, none⟩
  let run : NewRun Float := ⟨none, 1.0, some "<script>alert(1)</script>", none, none, none, none⟩
  [⟨.builtin, ⟨1767225600, 0⟩, .createRun ⟨run, [item], []⟩⟩]

/-- The name is shown as it is, and adds no tags to the page. -/
theorem script_shown_as_text :
    let db := (Database.fresh {}).afterAll scriptSession
    let db' := { db with tables := { db.tables with
      runs := db.tables.runs.map Run.withoutPrinter } }
    let request : Request := ⟨.get, "/", none, ""⟩
    (respond .builtin ⟨1767225600, 0⟩ request).run db = (.page (servedPage db), db) ∧
      tableRows (servedPage db) = [Table.headings,
        [⟨some "/api/runs/20000000-0000-4000-8000-000000000001", "RUN-20260101-0001"⟩,
          ⟨none, "2026-01-01 00:00"⟩, ⟨none, "<script>alert(1)</script>"⟩]] ∧
      tags (servedPage db) = tags (servedPage db') := by
  intro db db' request
  obtain ⟨-, -, hserved, hlists, htags⟩ := stored_text_adds_no_markup
  have hrows : (db.tables.listed (some .inProgress)).map Table.ofRun =
      [[⟨some "/api/runs/20000000-0000-4000-8000-000000000001", "RUN-20260101-0001"⟩,
        ⟨none, "2026-01-01 00:00"⟩, ⟨none, "<script>alert(1)</script>"⟩]] := by decide +kernel
  have hsome : (db.tables.listed (some .inProgress)).isEmpty = false := by decide +kernel
  have hsame : db.tables.runs.map Run.withoutPrinter = db'.tables.runs.map Run.withoutPrinter := by
    rw [List.map_map]
    rfl
  refine ⟨hserved _ _ request db ⟨rfl, by decide +kernel⟩, ?_, htags db db' hsame⟩
  rw [(hlists db).2.2, hsome, hrows]
  rfl

end PrintFarm.Http
