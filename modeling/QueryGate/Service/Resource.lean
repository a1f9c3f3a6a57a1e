import QueryGate.Json.Value
import QueryGate.Service.Namespace
/-! Lookups by the path of a resource, with parameters for the catalog, the schema and the table. -/

namespace QueryGate

variable {σ : Type}

def resourceLogger : String := "resources"

abbrev Parameters := Members String

/-- A parameter that is given and not empty. -/
def Parameters.filled? (p : Parameters) (name : String) : Option String :=
  (Members.find? p name).filter (!·.isEmpty)

/-- A path without slashes round it and in small letters. -/
def resourceName (path : String) : String :=
  toLowerText (String.ofList (trimOf (· = '/') path.toList))

inductive ResourceKind
  | schemas
  | tables
  | columns
deriving DecidableEq, Repr

def ResourceKind.ofName? : String → Option ResourceKind
  | "schemas" | "databases" => some .schemas
  | "tables" => some .tables
  | "columns" => some .columns
  | _ => none

def callResource (handle : Handle σ) (timeout : Amount) (defaultCatalog path : String)
    (p : Parameters) : Act σ (List String) := do
  let name := resourceName path
  let catalog := (p.filled? "catalog").getD defaultCatalog
  let schema := ((p.filled? "schema").orElse fun () => p.filled? "database").getD ""
  let table := (p.filled? "table").getD ""
  match ResourceKind.ofName? name with
  | some .schemas => listSchemas handle timeout catalog
  | some .tables =>
    let tables ← listTables handle timeout catalog schema
    if tables.isEmpty then
      Act.fail .notFound ("No tables found in " ++ catalog ++ "." ++ schema)
    else return tables
  | some .columns => listColumns handle timeout catalog schema table
  | none =>
    Act.log .warning resourceLogger ("Unknown resource path: " ++ name)
    Act.fail .notFound "Invalid endpoint"

end QueryGate
