/-!
# Where the tables are kept

The tables are in a database that a URL names. The database itself is created from a second one on
the same server.
-/

namespace PrintFarm

/-- How the database is reached. -/
structure StorageSettings where
  url : String
  maxConnections : Nat
  deriving DecidableEq, Repr

namespace StorageSettings

def defaultUrl : String := "postgresql://localhost:5432/printrun"

def defaultMaxConnections : Nat := 10

/-- How long a free connection is waited for. -/
def acquireTimeoutSeconds : Nat := 10

/-- The database at `url`, with the default number of connections. -/
def ofUrl (url : String) : StorageSettings := ⟨url, defaultMaxConnections⟩

/-- The same with at most `n` connections, but at least one. -/
def withMaxConnections (s : StorageSettings) (n : Nat) : StorageSettings :=
  { s with maxConnections := max n 1 }

/-- The name of the database: what stands behind the last slash before the query. -/
def databaseName? (s : StorageSettings) : Option String :=
  let base := s.url.toList.takeWhile (· != '?')
  let name := (base.reverse.takeWhile (· != '/')).reverse
  if name.isEmpty then none else some (String.ofList name)

/-- The database from which others are created: what stands behind the last slash is replaced. -/
def maintenanceUrl (s : StorageSettings) : String :=
  let upToSlash := (s.url.toList.reverse.dropWhile (· != '/')).reverse
  if upToSlash.isEmpty then s.url else String.ofList upToSlash ++ "postgres"

end StorageSettings

end PrintFarm
