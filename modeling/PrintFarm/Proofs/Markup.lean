import PrintFarm.Proofs.Escaping

/-!
# Markup

How a reader of markup sees a page.

* `Position.read` takes a text apart into tags and characters.  Texts that leave no tag open can be
  read one after the other (`Reads.append`), and what has no bracket in it is shown as it is
  (`reads_shown`).
* `tags` are the tags of a page with their attributes.
* `tableRows` are the rows of its tables.  They are read by `Table.next`, of which the lemmas in the
  namespace `Table` say what each kind of tag does.
-/

namespace PrintFarm.Http

/-! ## Tags and characters -/

/-- What a text with markup is made of: tags, each with what stands between its brackets, and
characters that are shown. -/
inductive Token
  | tag (body : String)
  | char (c : Char)
  deriving DecidableEq

/-- What stands between the brackets of a tag. -/
def Token.body? : Token → Option String
  | tag body => some body
  | char _ => none

/-- The name of a tag stands before its attributes. -/
def tagName (body : String) : String :=
  String.ofList (body.toList.takeWhile (· ≠ ' '))

/-- The first quoted value of a tag. -/
def tagValue (body : String) : String :=
  String.ofList (((body.toList.dropWhile (· ≠ '"')).drop 1).takeWhile (· ≠ '"'))

/-- Where a reader of markup is, with what it has read of a tag. -/
inductive Position
  | text
  | tag (body : List Char)
  | quoted (mark : Char) (body : List Char)
  deriving DecidableEq

namespace Position

/-- Where the reader is after the next character, and what that character completes.  Within quotes
a bracket does not end a tag. -/
def next : Position → Char → Position × List Token
  | text, c => if c = '<' then (tag [], []) else (text, [.char c])
  | tag body, c =>
    if c = '>' then (text, [.tag (String.ofList body)])
    else if c = '"' ∨ c = '\'' then (quoted c (body ++ [c]), [])
    else (tag (body ++ [c]), [])
  | quoted mark body, c =>
    if c = mark then (tag (body ++ [c]), []) else (quoted mark (body ++ [c]), [])

/-- Where the reader is after some characters, and what they complete. -/
def read : Position → List Char → Position × List Token
  | p, [] => (p, [])
  | p, c :: cs => (((p.next c).1.read cs).1, (p.next c).2 ++ ((p.next c).1.read cs).2)

theorem read_append (p : Position) (cs ds : List Char) : p.read (cs ++ ds) =
    (((p.read cs).1.read ds).1, (p.read cs).2 ++ ((p.read cs).1.read ds).2) := by
  induction cs generalizing p with
  | nil => rfl
  | cons c cs ih => rw [List.cons_append, read, ih, read, List.append_assoc]

theorem read_append_of {p q r : Position} {cs ds : List Char} {ts us : List Token}
    (hcs : p.read cs = (q, ts)) (hds : q.read ds = (r, us)) :
    p.read (cs ++ ds) = (r, ts ++ us) := by
  rw [read_append, hcs, hds]

/-- Outside of tags nothing but an opening bracket is markup. -/
theorem read_text {cs : List Char} (h : '<' ∉ cs) : text.read cs = (text, cs.map .char) := by
  induction cs with
  | nil => rfl
  | cons c cs ih =>
    obtain ⟨hc, hcs⟩ := not_or.mp (mt List.mem_cons.mpr h)
    rw [read, next, if_neg fun heq => hc heq.symm, ih hcs]
    rfl

/-- A quoted value goes on up to its mark. -/
theorem read_quoted {mark : Char} {cs : List Char} (h : mark ∉ cs) (body : List Char) :
    (quoted mark body).read cs = (quoted mark (body ++ cs), []) := by
  induction cs generalizing body with
  | nil => rw [read, List.append_nil]
  | cons c cs ih =>
    obtain ⟨hc, hcs⟩ := not_or.mp (mt List.mem_cons.mpr h)
    rw [read, next, if_neg fun heq => hc heq.symm, ih hcs, List.append_assoc]
    rfl

end Position

/-! ## Texts that leave no tag open -/

/-- The text is read as these tokens, and no tag is left open. -/
def Reads (s : String) (tokens : List Token) : Prop :=
  Position.text.read s.toList = (.text, tokens)

/-- The tags of a text in their order, with their attributes. -/
def tags (s : String) : List String :=
  (Position.text.read s.toList).2.filterMap Token.body?

/-- The tokens of a text that is shown as it is. -/
def shown (s : String) : List Token :=
  s.toList.map .char

/-- The tag that begins a link. -/
def linkTo (target : String) : Token :=
  .tag ("a href=\"" ++ target ++ "\"")

section

variable {s t : String} {ts us : List Token}

theorem Reads.append (hs : Reads s ts) (ht : Reads t us) : Reads (s ++ t) (ts ++ us) := by
  rw [Reads, String.toList_append]
  exact Position.read_append_of hs ht

theorem Reads.tags_eq (hs : Reads s ts) : tags s = ts.filterMap Token.body? := by
  rw [tags, hs]

theorem reads_ofList {cs : List Char} (h : Position.text.read cs = (.text, ts)) :
    Reads (String.ofList cs) ts := by
  rw [Reads, String.toList_ofList, h]

theorem reads_intercalate {texts : List String} {parts : List (List Token)}
    (h : List.Forall₂ Reads texts parts) :
    Reads ("\n".intercalate texts) ([.char '\n'].intercalate parts) := by
  induction h with
  | nil => rfl
  | @cons s ts texts parts hs hrest ih =>
    cases hrest with
    | nil => simpa using hs
    | cons ht _ =>
      have hbreak : Reads "\n" [.char '\n'] := rfl
      rw [String.intercalate_cons_cons, List.intercalate_cons_cons]
      exact (hs.append hbreak).append ih

theorem reads_shown (h : '<' ∉ s.toList) : Reads s (shown s) :=
  Position.read_text h

/-- An escaped text is shown, whatever it was. -/
theorem reads_escapeMarkup (s : String) : Reads (escapeMarkup s) (shown (escapeMarkup s)) :=
  reads_shown (not_mem_escapeMarkup s '<' (by decide))

theorem filterMap_shown (s : String) : (shown s).filterMap Token.body? = [] := by
  rw [shown, List.filterMap_map]
  exact List.filterMap_eq_nil_iff.mpr fun _ _ => rfl

theorem reads_linkTo {target : String} (h : '"' ∉ target.toList) :
    Reads ("<a href=\"" ++ target ++ "\">") [linkTo target] := by
  have hopen : Position.text.read "<a href=\"".toList = (.quoted '"' "a href=\"".toList, []) := rfl
  have hclose (body : List Char) : (Position.quoted '"' body).read "\">".toList =
    (.text, [.tag (String.ofList (body ++ ['"']))]) := rfl
  have hbody : String.ofList ("a href=\"".toList ++ target.toList ++ ['"']) =
      "a href=\"" ++ target ++ "\"" := by
    rw [← String.toList_inj, String.toList_ofList, String.toList_append, String.toList_append]
    rfl
  have hread := Position.read_append_of
    (Position.read_append_of hopen (Position.read_quoted h _)) (hclose _)
  rw [← String.toList_append, ← String.toList_append, hbody] at hread
  exact hread

end

/-! ## Tables -/

/-- A cell of a table: its text, and where it leads to. -/
structure Cell where
  link : Option String
  text : String
  deriving DecidableEq

/-- What is known of the tables of a page: the rows so far, the cells of the row that is being read,
and the link and the text of the cell. -/
structure Table where
  rows : List (List Cell)
  cells : List Cell
  link : Option String
  text : List Char
  deriving DecidableEq

/-- What is known after one more token.  The text of a cell has marks in place of its references. -/
def Table.next (known : Table) : Token → Table
  | .char c => { known with text := known.text ++ [c] }
  | .tag body =>
    match tagName body with
    | "tr" => { known with cells := [] }
    | "th" | "td" => { known with link := none, text := [] }
    | "a" => { known with link := some (tagValue body) }
    | "/th" | "/td" =>
      { known with cells := known.cells ++ [⟨known.link, String.ofList (unescape known.text)⟩] }
    | "/tr" => { known with rows := known.rows ++ [known.cells] }
    | _ => known

/-- The rows of the tables of a page. -/
def tableRows (page : String) : List (List Cell) :=
  ((Position.text.read page.toList).2.foldl Table.next ⟨[], [], none, []⟩).rows

namespace Table

variable (known : Table)

theorem foldl_shown (s : String) :
    (shown s).foldl next known = { known with text := known.text ++ s.toList } := by
  unfold shown
  induction s.toList generalizing known with
  | nil => rw [List.append_nil]; rfl
  | cons c cs ih =>
    rw [List.map_cons, List.foldl_cons, ih, next, List.append_assoc]
    rfl

section

variable {body : String}

theorem next_row (h : tagName body = "tr") :
    known.next (.tag body) = { known with cells := [] } := by
  rw [next, h]
  rfl

theorem next_cell (h : tagName body ∈ ["th", "td"]) :
    known.next (.tag body) = { known with link := none, text := [] } := by
  simp only [List.mem_cons, List.not_mem_nil, or_false] at h
  rcases h with h | h <;> rw [next, h] <;> rfl

theorem next_cell_end (h : tagName body ∈ ["/th", "/td"]) : known.next (.tag body) =
    { known with
      cells := known.cells ++ [⟨known.link, String.ofList (unescape known.text)⟩] } := by
  simp only [List.mem_cons, List.not_mem_nil, or_false] at h
  rcases h with h | h <;> rw [next, h] <;> rfl

theorem next_row_end (h : tagName body = "/tr") :
    known.next (.tag body) = { known with rows := known.rows ++ [known.cells] } := by
  rw [next, h]
  rfl

theorem next_other (h : tagName body ∈ ["table", "/a"]) : known.next (.tag body) = known := by
  simp only [List.mem_cons, List.not_mem_nil, or_false] at h
  rcases h with h | h <;> rw [next, h] <;> rfl

end

theorem next_linkTo {target : String} (h : '"' ∉ target.toList) :
    known.next (linkTo target) = { known with link := some target } := by
  have hbody : ("a href=\"" ++ target ++ "\"").toList =
      "a href=".toList ++ '"' :: (target.toList ++ ['"']) := by
    rw [String.toList_append, String.toList_append]
    rfl
  have hname : tagName ("a href=\"" ++ target ++ "\"") = "a" := by
    rw [tagName, hbody]
    rfl
  have hvalue : tagValue ("a href=\"" ++ target ++ "\"") = target := by
    have hrest : ("a href=".toList ++ '"' :: (target.toList ++ ['"'])).dropWhile (· ≠ '"') =
      '"' :: (target.toList ++ ['"']) := rfl
    have hmark : ∀ c ∈ target.toList, decide (c ≠ '"') = true := by
      intro c hc
      exact decide_eq_true fun heq => h (heq ▸ hc)
    rw [tagValue, hbody, hrest, List.drop_one, List.tail_cons,
      List.takeWhile_append_of_pos hmark]
    simp
  rw [linkTo, next, hname, hvalue]
  rfl

/-- Nothing but the end of a row adds a row. -/
theorem rows_foldl {tokens : List Token} (h : ∀ t ∈ tokens, t.body?.map tagName ≠ some "/tr") :
    (tokens.foldl next known).rows = known.rows := by
  induction tokens generalizing known with
  | nil => rfl
  | cons t tokens ih =>
    obtain ⟨ht, htokens⟩ := List.forall_mem_cons.mp h
    rw [List.foldl_cons, ih _ htokens]
    cases t with
    | char c => rfl
    | tag body =>
      rw [next]
      split
      case h_7 hname => exact absurd (congrArg some hname) ht
      all_goals rfl

end Table

end PrintFarm.Http
