import QueryGate.Connection.Config
import QueryGate.Settings.EnvFile
/-! The settings of the program, read from environment variables in whatever case, and from a file of
variables for those that the environment does not have. -/

namespace QueryGate

structure Settings where
  host : String
  httpPath : String
  catalog : String
  token : String
  url : Option String
  maxRows : Nat
  statementTimeout : Float
  retries : Nat
  retryPause : Float
  retryTimeout : Float
  workers : Nat
  nullText : String
  breakerFailMax : Nat
  breakerReset : Float
  logLevel : String
  logJson : Bool
  debug : Bool

/-- The variables that settings are read from. -/
def settingNames : List String :=
  ["DATABRICKS_HOST", "DATABRICKS_HTTP_PATH", "DATABRICKS_CATALOG", "DATABRICKS_TOKEN",
   "SQLALCHEMY_URL", "MAX_ROWS", "STATEMENT_TIMEOUT_SEC", "RETRIES", "RETRY_PAUSE_SEC",
   "RETRY_TIMEOUT_SEC", "EXEC_WORKERS", "NULL_TEXT", "BREAKER_FAIL_MAX", "BREAKER_RESET_SEC",
   "LOG_LEVEL", "LOG_JSON", "DEBUG"]

/-- Variables under their names in small letters; of several spellings the last counts. -/
def loweredNames (e : Environment) : Environment :=
  e.foldl (fun done (name, value) => Members.put done (toLowerText name) value) []

/-- A setting by the name of its variable. -/
def settingOr {α : Type} (e : Environment) (name : String) (default : α)
    (read : Json → Checked α) : Checked α :=
  match e.find? (toLowerText name) with
  | some value => (read (.string value)).under name
  | none => .ok default

/-- The settings of variables whose names are in small letters. -/
def Settings.ofVariables (e : Environment) : Checked Settings :=
  Settings.mk <$> settingOr e "DATABRICKS_HOST" "" readText
    <*> settingOr e "DATABRICKS_HTTP_PATH" "" readText
    <*> settingOr e "DATABRICKS_CATALOG" "" readText
    <*> settingOr e "DATABRICKS_TOKEN" "" readText
    <*> settingOr e "SQLALCHEMY_URL" none (readOptional readText)
    <*> settingOr e "MAX_ROWS" 10000 (readNat 0)
    <*> settingOr e "STATEMENT_TIMEOUT_SEC" 60.0 readPositiveNumber
    <*> settingOr e "RETRIES" 5 (readNat 0)
    <*> settingOr e "RETRY_PAUSE_SEC" 0.0 readNumberFromZero
    <*> settingOr e "RETRY_TIMEOUT_SEC" 40.0 readNumberFromZero
    <*> settingOr e "EXEC_WORKERS" 4 (readNat 1)
    <*> settingOr e "NULL_TEXT" "" readText
    <*> settingOr e "BREAKER_FAIL_MAX" 5 (readNat 1)
    <*> settingOr e "BREAKER_RESET_SEC" 30.0 readPositiveNumber
    <*> settingOr e "LOG_LEVEL" "INFO" readText
    <*> settingOr e "LOG_JSON" false readBoolean
    <*> settingOr e "DEBUG" false readBoolean

/-- The text of a file in the working directory, if the file is there. -/
abbrev Files := Members String

/-- The settings of an environment, with the file of variables below it. -/
def Settings.load (e : Environment) (files : Files) : Checked Settings :=
  let below := match files.find? ".env" with
    | some text => loweredNames (readEnvFile e text)
    | none => []
  Settings.ofVariables ((loweredNames e).foldl (fun done (n, v) => Members.put done n v) below)

/-- The environment after the file of a named environment has been put over it. -/
def configuredEnvironment (name : String) (e : Environment) (files : Files) : Environment :=
  match files.find? (".env." ++ name) with
  | some text => (readEnvFile e text).foldl (fun done (n, v) => Members.put done n v) e
  | none => e

/-- The settings after a named environment has been chosen; the empty name chooses none. -/
def Settings.configure (s : Settings) (name : String) (e : Environment) (files : Files) :
    Checked Settings :=
  if name.isEmpty then .ok s else Settings.load (configuredEnvironment name e files) files

def Settings.config (s : Settings) : ConnectionConfig where
  host := s.host
  httpPath := s.httpPath
  catalog := s.catalog
  credential := s.token
  rowCap := s.maxRows
  statementTimeout := .real s.statementTimeout
  retryCount := s.retries
  retryPause := .real s.retryPause
  retryTimeout := .real s.retryTimeout
  url := s.url
  debug := s.debug

end QueryGate
