import QueryGate.Connection.Config
import QueryGate.Session
import QueryGate.Text.WordChar
/-! Which engine a URL asks for. Only one is always at hand; the others are plugins. -/

namespace QueryGate

/-- The name before `://`, if it is one. -/
def urlDriver? (url : String) : Option String :=
  let named (c : Char) : Bool := isWordChar c || c = '+'
  let name := url.toList.takeWhile named
  if name.isEmpty || !"://".toList.isPrefixOf (url.toList.dropWhile named) then none
  else some (String.ofList name)

/-- The drivers that come without a plugin, with their dialects. -/
def builtInDrivers : List (String × String) :=
  [("sqlite", "sqlite"), ("sqlite+pysqlite", "sqlite")]

/-- The dialect of the engine at a URL. -/
def engineDialect (url : String) : Except Fault String :=
  match urlDriver? url with
  | none => .error ⟨.argument, "Could not parse SQLAlchemy URL from given URL string"⟩
  | some driver =>
    match List.lookup driver builtInDrivers with
    | some dialect => .ok dialect
    | none =>
      .error ⟨.missingPlugin, "Can't load plugin: sqlalchemy.dialects:"
        ++ String.ofList (driver.toList.map fun c => if c = '+' then '.' else c)⟩

/-- Makes the engine of a config; the log keeps the reason why there is none. -/
def createEngine {σ : Type} (config : ConnectionConfig) : Act σ String :=
  match engineDialect config.engineUrl with
  | .ok dialect => return dialect
  | .error fault => do
    Act.log .error "connection"
      ("Failed to create engine for " ++ config.name ++ ": " ++ fault.message)
    Act.raise (.fault fault)

end QueryGate
