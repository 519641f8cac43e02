import Mathlib
import PrintFarm.Settings.Storage

/-!
# URLs of databases

A URL of a database has a scheme and an authority.  A slash and the name of the database may follow,
and a question mark and a query.  `DatabaseUrl` is such a URL by its parts.

Two things are read off a URL.  Its database is looked for behind the last slash before the query,
and the database from which others are created takes the place of what stands behind the last slash
of all.

* `StorageSettings.databaseName?_of_split` and `StorageSettings.maintenanceUrl_of_split` read both
  off a text that is cut at its last slash.
* `DatabaseUrl.databaseName?_text` says which database is found: the one that is named, and where
  no slash follows the authority, the authority is taken for one.
* `DatabaseUrl.maintenanceUrl_text` and `DatabaseUrl.maintenanceUrl_text_of_slash` say what becomes
  of the URL: the name is replaced, unless there is a slash in the query.
-/

namespace PrintFarm

/-! ## Texts cut at their last slash -/

namespace StorageSettings

variable {s : StorageSettings} {before after : String}

theorem bne_of_not_mem {mark : Char} {cs : List Char} (h : mark ∉ cs) :
    ∀ c ∈ cs, (c != mark) = true := by
  intro c hc
  exact bne_iff_ne.mpr fun heq => h (heq ▸ hc)

theorem takeWhile_reverse_split (h : '/' ∉ after.toList) :
    (before ++ "/" ++ after).toList.reverse.takeWhile (· != '/') = after.toList.reverse := by
  have hafter := bne_of_not_mem (mt List.mem_reverse.mp h)
  rw [String.toList_append, String.toList_append, List.reverse_append,
    List.takeWhile_append_of_pos hafter]
  simp

theorem dropWhile_reverse_split (h : '/' ∉ after.toList) :
    (before ++ "/" ++ after).toList.reverse.dropWhile (· != '/') =
      (before ++ "/").toList.reverse := by
  have hafter := bne_of_not_mem (mt List.mem_reverse.mp h)
  rw [String.toList_append, String.toList_append, List.reverse_append,
    List.dropWhile_append_of_pos hafter]
  simp

/-- The database is what stands behind the last slash before the query. -/
theorem databaseName?_of_split
    (hurl : s.url.toList.takeWhile (· != '?') = (before ++ "/" ++ after).toList)
    (h : '/' ∉ after.toList) : s.databaseName? = if after = "" then none else some after := by
  rw [databaseName?, hurl, takeWhile_reverse_split h, List.reverse_reverse, String.ofList_toList]
  simp

/-- What stands behind the last slash of all gives way to the database from which others are
created. -/
theorem maintenanceUrl_of_split (hurl : s.url = before ++ "/" ++ after) (h : '/' ∉ after.toList) :
    s.maintenanceUrl = before ++ "/postgres" := by
  rw [maintenanceUrl, hurl, dropWhile_reverse_split h, List.reverse_reverse, String.ofList_toList,
    if_neg (by simp), String.append_assoc]
  rfl

/-- A text with a slash can be cut at its last one. -/
theorem exists_split {text : String} (h : '/' ∈ text.toList) :
    ∃ before after, text = before ++ "/" ++ after ∧ '/' ∉ after.toList := by
  obtain ⟨after, before, hsplit, hafter⟩ :=
    List.eq_append_cons_of_mem (List.mem_reverse.mpr h)
  refine ⟨String.ofList before.reverse, String.ofList after.reverse, ?_, by simpa using hafter⟩
  refine String.toList_injective ?_
  rw [← List.reverse_reverse text.toList, hsplit]
  simp

end StorageSettings

/-! ## URLs by their parts -/

/-- A part of a URL in which neither a slash nor a question mark stands. -/
def IsUrlPart (s : String) : Prop :=
  '/' ∉ s.toList ∧ '?' ∉ s.toList

instance (s : String) : Decidable (IsUrlPart s) :=
  inferInstanceAs (Decidable (_ ∧ _))

/-- A URL of a database by its parts.  The name is that of the path, which may be missing or be
empty; anything may stand in the query. -/
structure DatabaseUrl where
  scheme : String
  authority : String
  name : Option String
  query : Option String
  plainScheme : IsUrlPart scheme := by decide
  plainAuthority : IsUrlPart authority := by decide
  plainName : ∀ n ∈ name, IsUrlPart n := by decide

namespace DatabaseUrl

variable {u : DatabaseUrl}

/-- The URL up to its path. -/
def server (u : DatabaseUrl) : String :=
  u.scheme ++ "://" ++ u.authority

/-- The URL up to its query. -/
def base (u : DatabaseUrl) : String :=
  u.server ++ u.name.elim "" ("/" ++ ·)

/-- The URL as it is written. -/
def text (u : DatabaseUrl) : String :=
  u.base ++ u.query.elim "" ("?" ++ ·)

/-- The database that the URL names. -/
def database? (u : DatabaseUrl) : Option String :=
  match u.name with
  | some name => if name = "" then none else some name
  | none => none

/-- The database from which others are created, on the same server. -/
def maintenance (u : DatabaseUrl) : DatabaseUrl :=
  { u with name := some "postgres", query := none, plainName := by decide }

theorem text_maintenance (u : DatabaseUrl) : u.maintenance.text = u.server ++ "/postgres" := by
  simp [text, base, server, maintenance]

/-- A name stands behind the last slash of what is in front of the query. -/
theorem base_of_name {name : String} (hname : u.name = some name) :
    u.base = u.server ++ "/" ++ name := by
  simp [base, hname, String.append_assoc]

/-- Without a path that is the slash in front of the authority. -/
theorem base_of_no_name (hname : u.name = none) :
    u.base = u.scheme ++ ":/" ++ "/" ++ u.authority := by
  simp [base, server, hname, String.append_assoc]

/-- No question mark stands in front of the query. -/
theorem question_not_mem_base (u : DatabaseUrl) : '?' ∉ u.base.toList := by
  have hscheme := u.plainScheme.2
  have hauthority := u.plainAuthority.2
  cases hname : u.name with
  | none => simp [base_of_no_name hname, hscheme, hauthority]
  | some name =>
    have hpart := (u.plainName name hname).2
    simp [base_of_name hname, server, hscheme, hauthority, hpart]

theorem takeWhile_text (u : DatabaseUrl) :
    u.text.toList.takeWhile (· != '?') = u.base.toList := by
  have hbase := StorageSettings.bne_of_not_mem u.question_not_mem_base
  rw [text, String.toList_append, List.takeWhile_append_of_pos hbase]
  cases u.query <;> simp

/-- The name is found, and where there is no path the last slash is the one before the
authority. -/
theorem databaseName?_text (u : DatabaseUrl) (connections : Nat) :
    (⟨u.text, connections⟩ : StorageSettings).databaseName? =
      match u.name with
      | some name => if name = "" then none else some name
      | none => if u.authority = "" then none else some u.authority := by
  cases hname : u.name with
  | some name =>
    have hbase := u.takeWhile_text.trans (congrArg String.toList (base_of_name hname))
    exact StorageSettings.databaseName?_of_split hbase (u.plainName name hname).1
  | none =>
    have hbase := u.takeWhile_text.trans (congrArg String.toList (base_of_no_name hname))
    exact StorageSettings.databaseName?_of_split hbase u.plainAuthority.1

/-- Where a name stands in the path, all in front of it is kept.  Without a slash in the query the
name and the query give way to the database from which others are created. -/
theorem maintenanceUrl_text {name : String} (hname : u.name = some name)
    (hquery : ∀ q ∈ u.query, '/' ∉ q.toList) (connections : Nat) :
    (⟨u.text, connections⟩ : StorageSettings).maintenanceUrl = u.server ++ "/postgres" := by
  have htext : u.text = u.server ++ "/" ++ (name ++ u.query.elim "" ("?" ++ ·)) := by
    rw [text, base_of_name hname, String.append_assoc]
  refine StorageSettings.maintenanceUrl_of_split htext ?_
  have hpart := (u.plainName name hname).1
  cases hq : u.query with
  | none => simp [hpart]
  | some q => simp [hpart, hquery q hq]

/-- A query with a slash can be cut at its last one. -/
theorem exists_split_query (h : ¬∀ q ∈ u.query, '/' ∉ q.toList) :
    ∃ front back, u.query = some (front ++ "/" ++ back) ∧ '/' ∉ back.toList := by
  simp only [not_forall, not_not] at h
  obtain ⟨q, hq, hmem⟩ := h
  obtain ⟨front, back, rfl, hback⟩ := StorageSettings.exists_split hmem
  exact ⟨front, back, hq, hback⟩

/-- A slash in the query is taken for the one in front of the name, and the name stays. -/
theorem maintenanceUrl_text_of_slash {front back : String}
    (hquery : u.query = some (front ++ "/" ++ back)) (hback : '/' ∉ back.toList)
    (connections : Nat) :
    (⟨u.text, connections⟩ : StorageSettings).maintenanceUrl =
      text { u with query := some (front ++ "/postgres") } := by
  have htext : u.text = u.base ++ "?" ++ front ++ "/" ++ back := by
    simp [text, hquery, String.append_assoc]
  rw [StorageSettings.maintenanceUrl_of_split htext hback]
  simp [text, base, server, String.append_assoc]

end DatabaseUrl

/-! ## What is read off a URL -/

/-- The database that is found is the one that the URL names, unless the URL ends behind the
authority, which is then taken for a name. -/
theorem database_located (u : DatabaseUrl) (connections : Nat) :
    let found := (⟨u.text, connections⟩ : StorageSettings).databaseName?
    (found = match u.name with
      | some name => if name = "" then none else some name
      | none => if u.authority = "" then none else some u.authority) ∧
    (found = u.database? ↔ u.name.isSome = true ∨ u.authority = "") := by
  intro found
  have hfound := u.databaseName?_text connections
  refine ⟨hfound, ?_⟩
  show StorageSettings.databaseName? _ = _ ↔ _
  rw [hfound, DatabaseUrl.database?]
  cases u.name with
  | some name => simp
  | none => by_cases h : u.authority = "" <;> simp [h]

/-- A URL without a path names no database, but the server and its port are found as one. -/
theorem server_taken_for_database :
    let u : DatabaseUrl :=
      { scheme := "postgresql", authority := "localhost:5432", name := none, query := none }
    u.text = "postgresql://localhost:5432" ∧ u.database? = none ∧
      (StorageSettings.ofUrl u.text).databaseName? = some "localhost:5432" := by
  decide +kernel

/-- The URL of the database from which others are created keeps all in front of the name.  It is on
the same server and names that database, unless there is a slash in the query: what stands behind
the last such slash gives way, and the URL goes on naming the database that it named. -/
theorem maintenance_located (u : DatabaseUrl) {name : String} (hname : u.name = some name)
    (connections : Nat) :
    let s : StorageSettings := ⟨u.text, connections⟩
    let m : StorageSettings := ⟨s.maintenanceUrl, connections⟩
    (∃ rest, m.url = u.server ++ "/" ++ rest) ∧
    ((∀ q ∈ u.query, '/' ∉ q.toList) → m.url = u.server ++ "/postgres") ∧
    (∀ front back, u.query = some (front ++ "/" ++ back) → '/' ∉ back.toList →
      m.url = u.server ++ "/" ++ name ++ "?" ++ front ++ "/postgres" ∧
        m.databaseName? = s.databaseName?) ∧
    (m.databaseName? = some "postgres" ↔
      (∀ q ∈ u.query, '/' ∉ q.toList) ∨ name = "postgres") := by
  intro s m
  have hplain : (∀ q ∈ u.query, '/' ∉ q.toList) → m.url = u.server ++ "/postgres" :=
    fun hquery => DatabaseUrl.maintenanceUrl_text hname hquery connections
  have hslash : ∀ front back, u.query = some (front ++ "/" ++ back) → '/' ∉ back.toList →
      m.url = u.server ++ "/" ++ name ++ "?" ++ front ++ "/postgres" ∧
        m.databaseName? = s.databaseName? := by
    intro front back hquery hback
    have hurl := DatabaseUrl.maintenanceUrl_text_of_slash hquery hback connections
    refine ⟨hurl.trans ?_, ?_⟩
    · simp [DatabaseUrl.text, DatabaseUrl.base, DatabaseUrl.server, hname, String.append_assoc]
    · show StorageSettings.databaseName? ⟨s.maintenanceUrl, connections⟩ = _
      rw [show s.maintenanceUrl = _ from hurl, DatabaseUrl.databaseName?_text,
        DatabaseUrl.databaseName?_text]
  by_cases hquery : ∀ q ∈ u.query, '/' ∉ q.toList
  · have hurl := hplain hquery
    have hfound : m.databaseName? = some "postgres" := by
      show StorageSettings.databaseName? ⟨m.url, connections⟩ = _
      rw [hurl, ← u.text_maintenance, DatabaseUrl.databaseName?_text]
      rfl
    refine ⟨⟨"postgres", ?_⟩, hplain, hslash, iff_of_true hfound (Or.inl hquery)⟩
    rw [hurl, String.append_assoc]
    rfl
  · obtain ⟨front, back, hcut, hback⟩ := DatabaseUrl.exists_split_query hquery
    obtain ⟨hurl, hfound⟩ := hslash front back hcut hback
    refine ⟨⟨name ++ "?" ++ front ++ "/postgres", ?_⟩, hplain, hslash, ?_⟩
    · rw [hurl]
      simp [String.append_assoc]
    · rw [hfound, DatabaseUrl.databaseName?_text, hname]
      by_cases hempty : name = ""
      · simp [hempty, hcut]
      · simp [hempty, hcut]

/-- Without a slash in the query the URL leads to the same server. -/
theorem maintenance_beside_farm :
    let u : DatabaseUrl :=
      { scheme := "postgresql", authority := "localhost:5432", name := some "farm",
        query := some "sslmode=disable" }
    let s := StorageSettings.ofUrl u.text
    let m := StorageSettings.ofUrl s.maintenanceUrl
    u.name = some "farm" ∧ u.text = "postgresql://localhost:5432/farm?sslmode=disable" ∧
      m.url = "postgresql://localhost:5432/postgres" ∧ m.databaseName? = some "postgres" := by
  intro u s m
  have hname : u.name = some "farm" := rfl
  have hplain : ∀ q ∈ u.query, '/' ∉ q.toList := by decide
  obtain ⟨-, hurl, -, hfound⟩ :=
    maintenance_located u hname StorageSettings.defaultMaxConnections
  exact ⟨hname, by decide +kernel, (hurl hplain).trans (by decide +kernel),
    hfound.mpr (Or.inl hplain)⟩

/-- Where the query names a directory, the URL leads to the database that is to be created. -/
theorem maintenance_of_directory :
    let u : DatabaseUrl :=
      { scheme := "postgresql", authority := "localhost:5432", name := some "farm",
        query := some "host=/var/run/postgresql" }
    let s := StorageSettings.ofUrl u.text
    let m := StorageSettings.ofUrl s.maintenanceUrl
    u.text = "postgresql://localhost:5432/farm?host=/var/run/postgresql" ∧
      m.url = "postgresql://localhost:5432/farm?host=/var/run/postgres" ∧
      m.databaseName? = some "farm" := by
  decide +kernel

end PrintFarm
