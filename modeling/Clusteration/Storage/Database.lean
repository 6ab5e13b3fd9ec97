import Clusteration.Panel.Json

namespace Clusteration.Storage

/-- The settings these functions read. -/
structure Settings where
  environment : String := "development"
  databaseUrl : String
  backupDir : String := "/data/backups"
  backupKeep : Int := 28

/-- What they read of a `sqlalchemy.engine.URL`. -/
structure Url where
  backendName : String
  database : Option String := none
  host : Option String := none
  deriving DecidableEq

/-- `make_url`; `none` stands for an exception. -/
abbrev MakeUrl := String → Option Url

/-- `x or ""` -/
def orEmpty (x : Option String) : String := x.getD ""

def startsWith (s pre : String) : Bool := pre.toList.isPrefixOf s.toList

/-- `repr` of a string or `None`. -/
def reprOption : Option String → String
  | none => "None"
  | some s => Json.reprStr s

/-- The path of the database file of a SQLite URL. -/
def sqliteDbPath (makeUrl : MakeUrl) (databaseUrl : String) : Option String :=
  match makeUrl databaseUrl with
  | none => none
  | some url => if url.backendName ≠ "sqlite" then none
    else if orEmpty url.database = "" then none else url.database

/-- `_assert_durable_db`: in production the panel does not start on a SQLite file outside `/data`. -/
def assertDurableDb (makeUrl : MakeUrl) (settings : Settings) : Except Exc Unit :=
  if settings.environment ≠ "production" then .ok ()
  else match makeUrl settings.databaseUrl with
    | none => .ok ()
    | some url =>
      if url.backendName = "sqlite" && !startsWith (orEmpty url.database) "/data" then
        .error (.runtimeError ("Produção com SQLite fora de /data (" ++ reprOption url.database ++
          ") — risco de perda de dados. Configure DATABASE_URL=sqlite+aiosqlite:////data/vmpanel.db" ++
          " (volume persistente) ou use Postgres."))
      else .ok ()

/-- The report of `database_durability`. -/
structure Durability where
  backend : String
  database : String
  durable : Bool
  backupDir : Option String := none
  message : String

def databaseDurability (makeUrl : MakeUrl) (settings : Settings) : Durability :=
  match makeUrl settings.databaseUrl with
  | none =>
    { backend := "unknown", database := "", durable := false, message := "DATABASE_URL inválida" }
  | some url =>
    if url.backendName = "sqlite" then
      let dbPath := orEmpty url.database
      let durable := startsWith dbPath "/data/"
      { backend := "sqlite", database := dbPath, durable, backupDir := some settings.backupDir
        message := if durable then "SQLite em /data com volume persistente"
          else "SQLite fora de /data: risco de reset em rebuild/redeploy" }
    else
      { backend := url.backendName, durable := true
        database := if orEmpty url.host = "" then url.backendName else orEmpty url.host
        message := "Banco externo/persistente gerenciado fora do container" }

end Clusteration.Storage
