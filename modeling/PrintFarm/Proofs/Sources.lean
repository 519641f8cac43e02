import Mathlib
import PrintFarm.Command.Execution

/-!
# Where settings come from

Each setting has its own sources: an option of the command line for the URL of the database, the
variables of the environment, the settings file, and a default.  `SettingsFile.Given` is what a file
gives, each setting for itself, and `Settings.chained` takes every setting from the first of its
sources that has it.

A file is read as a whole, though.  `SettingsFile.Given.Complete` says which files are heeded: those
that give the URL of the database, and the server with both of its settings or not at all.

* `SettingsFile.Given.In.ofEntries?_eq` says what is read of the entries of a file, and
  `SettingsFile.Given.Complete.readAs` and `SettingsFile.Given.file?_eq_none` whether it is all that
  they give, or nothing.
* `Settings.resolve_of_readAs` says what the settings are after that.
* `settings_chained` puts these together from the text of the file on.
-/

namespace PrintFarm

namespace SettingsFile

open Toml (Node Entries)

/-! ## What a file gives -/

/-- What a section on the server gives. -/
structure GivenServer where
  bind : Option String
  port : Option Nat
  deriving DecidableEq

/-- What a file gives of the settings.  The section on the server may be there without one of its
settings or without both. -/
structure Given where
  databaseUrl : Option String
  server : Option GivenServer
  catalogPath : Option String
  deriving DecidableEq

namespace Given

/-- No setting at all. -/
def nothing : Given := ⟨none, none, none⟩

def bind? (g : Given) : Option String :=
  g.server.bind GivenServer.bind

def port? (g : Given) : Option Nat :=
  g.server.bind GivenServer.port

/-- The URL of the database is given, and the server is given with both of its settings or not at
all. -/
def Complete (g : Given) : Prop :=
  g.databaseUrl.isSome = true ∧ ∀ s ∈ g.server, s.bind.isSome = true ∧ s.port.isSome = true

instance (g : Given) : Decidable g.Complete :=
  inferInstanceAs (Decidable (_ ∧ _))

/-- The entries of a file give these settings: what is there of them has the right kind, and what is
not given is not there.  Other entries do not matter. -/
structure In (g : Given) (entries : Entries) : Prop where
  databaseUrl : ((Entries.find? "database" entries).bind (part? · "url" 0)).map Node.text? =
    g.databaseUrl.map some
  server : (Entries.find? "server" entries).isSome = g.server.isSome
  bind : ((Entries.find? "server" entries).bind (part? · "bind" 0)).map Node.text? =
    g.bind?.map some
  port : ((Entries.find? "server" entries).bind (part? · "port" 1)).map SettingsFile.port? =
    g.port?.map some
  catalogPath : (Entries.find? "catalog_path" entries).map Node.text? = g.catalogPath.map some

instance (g : Given) (entries : Entries) : Decidable (g.In entries) :=
  decidable_of_iff (_ ∧ _ ∧ _ ∧ _ ∧ _)
    ⟨fun ⟨h₁, h₂, h₃, h₄, h₅⟩ => ⟨h₁, h₂, h₃, h₄, h₅⟩,
      fun ⟨h₁, h₂, h₃, h₄, h₅⟩ => ⟨h₁, h₂, h₃, h₄, h₅⟩⟩

/-- Whatever is given is the default. -/
structure OnlyDefaults (g : Given) : Prop where
  databaseUrl : g.databaseUrl.getD StorageSettings.defaultUrl = StorageSettings.defaultUrl
  bind : g.bind?.getD ServerSettings.default.bind = ServerSettings.default.bind
  port : g.port?.getD ServerSettings.default.port = ServerSettings.default.port
  catalogPath : g.catalogPath = none

/-- The text of a file is well formed and gives these settings. -/
def InText (g : Given) (text : String) : Prop :=
  ∃ entries, Toml.readFile text = .ok entries ∧ g.In entries

instance (g : Given) (text : String) : Decidable (g.InText text) :=
  match h : Toml.readFile text with
  | .ok entries => decidable_of_iff (g.In entries)
    ⟨fun hin => ⟨entries, h, hin⟩, fun ⟨_, hread, hin⟩ => Except.ok.inj (h.symm.trans hread) ▸ hin⟩
  | .error _ => .isFalse fun ⟨_, hread, _⟩ => nomatch h.symm.trans hread

/-! ## What is read of a file -/

/-- The server that is read: the default one where there is no section, and one with both settings
where there is one. -/
def server? (g : Given) : Option ServerSettings :=
  match g.server with
  | none => some .default
  | some s => s.bind.bind fun bind => s.port.map fun port => ⟨bind, port⟩

/-- The file that is read. -/
def file? (g : Given) : Option SettingsFile :=
  g.databaseUrl.bind fun url => g.server?.map fun server => ⟨url, server, g.catalogPath⟩

section

variable {α β : Type} {read : α → Option β} {found : Option α} {given : Option β}

/-- A value of the right kind is what it is read as. -/
theorem bind_eq_of_map (h : found.map read = given.map some) : found.bind read = given := by
  cases found with
  | none => exact (Option.map_eq_none_iff.mp h.symm).symm
  | some node =>
    have hread : some (read node) = given.map some := h
    cases given with
    | none => exact nomatch hread
    | some value => exact Option.some.inj hread

/-- The same where it may be missing. -/
theorem elim_eq_of_map (h : found.map read = given.map some) :
    found.elim (some none) (fun node => (read node).map some) = some given := by
  cases found with
  | none => exact congrArg some (Option.map_eq_none_iff.mp h.symm).symm
  | some node =>
    have hread : some (read node) = given.map some := h
    cases given with
    | none => exact nomatch hread
    | some value => exact congrArg (Option.map some) (Option.some.inj hread)

end

/-- The parts of a file are read one after the other. -/
theorem ofEntries?_eq (entries : Entries) : ofEntries? entries =
    (((Entries.find? "database" entries).bind (part? · "url" 0)).bind Node.text?).bind fun url =>
      ((Entries.find? "server" entries).elim (some .default) SettingsFile.server?).bind
        fun server =>
          ((Entries.find? "catalog_path" entries).elim (some none) fun node =>
            node.text?.map some).bind fun catalogPath => some ⟨url, server, catalogPath⟩ := by
  unfold ofEntries?
  cases Entries.find? "database" entries <;> cases Entries.find? "server" entries <;>
    cases Entries.find? "catalog_path" entries <;> rfl

variable {g : Given} {entries : Entries}

theorem In.server?_eq (h : g.In entries) :
    (Entries.find? "server" entries).elim (some .default) SettingsFile.server? = g.server? := by
  have hserver := h.server
  have hbind := bind_eq_of_map h.bind
  have hport := bind_eq_of_map h.port
  rw [bind?] at hbind
  rw [port?] at hport
  unfold server?
  cases hsection : g.server with
  | none =>
    rw [hsection, Option.isSome_none, Option.isSome_eq_false_iff, Option.isNone_iff_eq_none]
      at hserver
    rw [hserver]
    rfl
  | some s =>
    rw [hsection] at hserver hbind hport
    obtain ⟨node, hnode⟩ := Option.isSome_iff_exists.mp hserver
    rw [hnode, Option.bind_some, Option.bind_some] at hbind hport
    rw [hnode]
    show ((part? node "bind" 0).bind Node.text?).bind (fun bind =>
      ((part? node "port" 1).bind SettingsFile.port?).bind fun port =>
        some (ServerSettings.mk bind port)) = _
    rw [hbind, hport]
    cases hb : s.bind <;> cases hp : s.port <;> simp [hb, hp]

/-- What is read of the entries is made up of what they give. -/
theorem In.ofEntries?_eq (h : g.In entries) : ofEntries? entries = g.file? := by
  rw [Given.ofEntries?_eq, bind_eq_of_map h.databaseUrl, h.server?_eq,
    elim_eq_of_map h.catalogPath, file?]
  cases g.databaseUrl <;> cases g.server? <;> rfl

/-- A file that is not complete is not read at all. -/
theorem file?_eq_none (hg : ¬g.Complete) : g.file? = none := by
  unfold file? server?
  cases hurl : g.databaseUrl with
  | none => rfl
  | some url =>
    cases hserver : g.server with
    | none => exact absurd ⟨by simp [hurl], by simp [hserver]⟩ hg
    | some s =>
      cases hbind : s.bind with
      | none => simp [hbind]
      | some bind =>
        cases hport : s.port with
        | none => simp [hport]
        | some port => exact absurd ⟨by simp [hurl], by simp [hserver, hbind, hport]⟩ hg

/-- What was read, if anything, has these settings, and the defaults for the server. -/
structure ReadAs (g : Given) (file : Option SettingsFile) : Prop where
  databaseUrl : file.map SettingsFile.databaseUrl = g.databaseUrl
  bind : ((file.map SettingsFile.server).getD .default).bind =
    g.bind?.getD ServerSettings.default.bind
  port : ((file.map SettingsFile.server).getD .default).port =
    g.port?.getD ServerSettings.default.port
  catalogPath : file.bind SettingsFile.catalogPath = g.catalogPath

theorem nothing_readAs : nothing.ReadAs none :=
  ⟨rfl, rfl, rfl, rfl⟩

/-- Of a complete file all is read. -/
theorem Complete.readAs (hg : g.Complete) : g.ReadAs g.file? := by
  obtain ⟨hurl, hserver⟩ := hg
  obtain ⟨url, hurl⟩ := Option.isSome_iff_exists.mp hurl
  unfold file? server?
  cases hsection : g.server with
  | none =>
    rw [hurl]
    constructor <;> simp [hurl, bind?, port?, hsection]
  | some s =>
    obtain ⟨hbind, hport⟩ := hserver s hsection
    obtain ⟨bind, hbind⟩ := Option.isSome_iff_exists.mp hbind
    obtain ⟨port, hport⟩ := Option.isSome_iff_exists.mp hport
    rw [hurl]
    constructor <;> simp [hurl, bind?, port?, hsection, hbind, hport]

end Given

end SettingsFile

/-! ## What the settings are -/

namespace Settings

open SettingsFile (Given)

/-- Every setting from the first of its own sources that has it. -/
def chained (option : Option String) (env : Variables) (g : Given) : Settings where
  storage :=
    { url := ((option.or (env "PRINTRUN_DATABASE_URL")).or g.databaseUrl).getD
        StorageSettings.defaultUrl
      maxConnections := maxConnections env }
  server :=
    { bind := ((env "PRINTRUN_BIND").or g.bind?).getD ServerSettings.default.bind
      port := (((env "PRINTRUN_PORT").bind (Decimal.readNatural? largestPort)).or g.port?).getD
        ServerSettings.default.port }
  catalogPath := g.catalogPath

/-- The variable for the port holds one, if it is there. -/
def HasPort (env : Variables) : Prop :=
  ∀ raw ∈ env "PRINTRUN_PORT", (Decimal.readNatural? largestPort raw).isSome = true

theorem port_eq_ok {env : Variables} (henv : HasPort env) (server : ServerSettings) :
    port env server = .ok (((env "PRINTRUN_PORT").bind
      (Decimal.readNatural? largestPort)).getD server.port) := by
  unfold port
  cases hraw : env "PRINTRUN_PORT" with
  | none => rfl
  | some raw =>
    obtain ⟨n, hn⟩ := Option.isSome_iff_exists.mp (henv raw hraw)
    simp only [Option.bind_some, hn, Option.getD_some]

theorem resolve_of_readAs {g : Given} {file : Option SettingsFile} (h : g.ReadAs file)
    {env : Variables} (henv : HasPort env) (option : Option String) :
    resolve option env file = .ok (chained option env g) := by
  have hresolved : resolve option env file =
      (port env ((file.map SettingsFile.server).getD .default)).bind fun port => .ok
        { storage := ⟨databaseUrl option env file, maxConnections env⟩
          server := ⟨(env "PRINTRUN_BIND").getD ((file.map SettingsFile.server).getD .default).bind,
            port⟩
          catalogPath := file.bind SettingsFile.catalogPath } := rfl
  rw [hresolved, port_eq_ok henv, databaseUrl, h.databaseUrl, h.bind, h.port, h.catalogPath,
    chained]
  simp only [Option.getD_or]
  rfl

/-- To give nothing but defaults is to give nothing, whatever the other sources have. -/
theorem chained_eq_nothing_iff {g : Given} :
    (∀ option env, HasPort env → chained option env g = chained option env .nothing) ↔
      g.OnlyDefaults := by
  constructor
  · intro h
    -- without an option and variables nothing hides what the file gives
    have hsame := h none (fun _ => none) nofun
    exact ⟨congrArg (fun s => s.storage.url) hsame, congrArg (fun s => s.server.bind) hsame,
      congrArg (fun s => s.server.port) hsame, congrArg Settings.catalogPath hsame⟩
  · intro h option env _
    simp only [chained, Option.getD_or, h.databaseUrl, h.bind, h.port, h.catalogPath]
    rfl

end Settings

open SettingsFile (Given) in
/-- Where a file is complete, every setting comes from the first of its own sources, whatever the
others give.  Any other file counts as none, with all that it gives, and that makes a difference
unless it gives nothing but defaults. -/
theorem settings_chained {g : Given} {text : String} (hg : g.InText text) :
    (∀ option env, Settings.HasPort env →
      Settings.resolve option env (SettingsFile.ofText? text) =
        .ok (Settings.chained option env (if g.Complete then g else .nothing))) ∧
    ((∀ option env, Settings.HasPort env →
      Settings.resolve option env (SettingsFile.ofText? text) =
        .ok (Settings.chained option env g)) ↔ g.Complete ∨ g.OnlyDefaults) := by
  obtain ⟨entries, hread, hin⟩ := hg
  have hfile : SettingsFile.ofText? text = g.file? := by
    rw [SettingsFile.ofText?, hread]
    exact hin.ofEntries?_eq
  rw [hfile]
  by_cases hcomplete : g.Complete
  · have hresolved option env (henv : Settings.HasPort env) :=
      Settings.resolve_of_readAs hcomplete.readAs henv option
    rw [if_pos hcomplete]
    exact ⟨hresolved, iff_of_true hresolved (Or.inl hcomplete)⟩
  · have hresolved option env (henv : Settings.HasPort env) :=
      Settings.resolve_of_readAs Given.nothing_readAs henv option
    rw [if_neg hcomplete, Given.file?_eq_none hcomplete]
    refine ⟨hresolved, ?_⟩
    rw [or_iff_right hcomplete, ← Settings.chained_eq_nothing_iff]
    refine forall₃_congr fun option env henv => ?_
    rw [hresolved option env henv, Except.ok.injEq, eq_comm]

/-- A complete file beside a variable for the port. -/
theorem complete_file_heeded :
    let text := "[database]\nurl = \"postgresql://filehost:5432/filedb\"\n\n" ++
      "[server]\nbind = \"0.0.0.0\"\nport = 8088\n"
    let g : SettingsFile.Given :=
      ⟨some "postgresql://filehost:5432/filedb", some ⟨some "0.0.0.0", some 8088⟩, none⟩
    let env : Variables := fun name => if name = "PRINTRUN_PORT" then some "9123" else none
    g.InText text ∧ Settings.HasPort env ∧
      Settings.resolve none env (SettingsFile.ofText? text) =
        .ok ⟨⟨"postgresql://filehost:5432/filedb", 10⟩, ⟨"0.0.0.0", 9123⟩, none⟩ := by
  intro text g env
  have hg : g.InText text := by decide +kernel
  have henv : Settings.HasPort env := by
    intro raw hraw
    obtain rfl : "9123" = raw := Option.some.inj hraw
    decide +kernel
  refine ⟨hg, henv, ((settings_chained hg).1 none env henv).trans ?_⟩
  decide +kernel

/-- Where a port is given without an address to listen on, neither it nor the URL of the database
is heeded. -/
theorem halved_server_drops_url :
    let text :=
      "[database]\nurl = \"postgresql://filehost:5432/filedb\"\n\n[server]\nport = 8088\n"
    let g : SettingsFile.Given :=
      ⟨some "postgresql://filehost:5432/filedb", some ⟨none, some 8088⟩, none⟩
    g.InText text ∧
      Settings.resolve none (fun _ => none) (SettingsFile.ofText? text) =
        .ok ⟨⟨"postgresql://localhost:5432/printrun", 10⟩, ⟨"127.0.0.1", 3000⟩, none⟩ ∧
      Settings.chained none (fun _ => none) g =
        ⟨⟨"postgresql://filehost:5432/filedb", 10⟩, ⟨"127.0.0.1", 8088⟩, none⟩ := by
  decide +kernel

end PrintFarm
