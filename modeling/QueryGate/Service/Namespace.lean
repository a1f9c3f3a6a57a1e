import QueryGate.Connection.Handle
import QueryGate.Sql.Identifier
import QueryGate.Text.Blank
import QueryGate.Text.CaseMap
import QueryGate.Value.Literal
/-! Looking up the schemas, tables and columns of a catalog. What is required is looked at before the
engine is asked. -/

namespace QueryGate

variable {σ : Type}

def namespaceLogger : String := "namespace_resolver"

/-- A name in a statement of its own, without blanks at its ends. -/
def nameText (name : String) : List Char :=
  trimBlanks (nameChars name)

/-- The names of a path with points between them. -/
def pathChars (names : List String) : List Char :=
  ['.'].intercalate (names.map nameText)

def lookupStatement (words : String) (names : List String) : String :=
  String.ofList (words.toList ++ pathChars names)

def schemasStatement (catalog : String) : String :=
  lookupStatement "SHOW SCHEMAS IN " [catalog]

def tablesStatement (catalog schema : String) : String :=
  lookupStatement "SHOW TABLES IN " [catalog, schema]

def columnsStatement (catalog schema table : String) : String :=
  lookupStatement "DESCRIBE TABLE " [catalog, schema, table]

/-- The text of a cell of a row. -/
def cellName (index : Nat) (cells : List Cell) : Except Raised String :=
  match cells[index]? with
  | none => fault .index "tuple index out of range"
  | some cell => cell.plainText.mapError Raised.fault

/-- The text of one cell of every row. -/
def pickNames (index : Nat) (cursor : Cursor σ) : Act σ (List String) := do
  let names ← cursor.rows.fold
    (fun names cells => do return .yield ((← Act.given (cellName index cells)) :: names)) []
  return names.reverse

def tableNameColumns : List String := ["tablename", "table_name", "name"]

/-- The place of the column with the names of tables. -/
def tableNameIndex (columns : List String) : Nat :=
  match tableNameColumns.find? columns.contains with
  | some name => columns.idxOf name
  | none => if 1 < columns.length then 1 else 0

def pickTables (cursor : Cursor σ) : Act σ (List String) := do
  let columns ← cursor.columns
  pickNames (tableNameIndex (columns.map toLowerText)) cursor

/-- The name of a column, or nothing where the description of columns ends. -/
def columnName (cells : List Cell) : Except Raised (Option String) :=
  match cells.head? with
  | none => fault .index "tuple index out of range"
  | some .null => .ok none
  | some cell =>
    match cell.plainText with
    | .error f => .error (.fault f)
    | .ok name =>
      .ok (if isBlankText name || name.toList.head? = some '#' then none else some name)

/-- The names of columns up to the first row that is blank or begins with a number sign. -/
def pickColumns (cursor : Cursor σ) : Act σ (List String) := do
  let names ← cursor.rows.fold
    (fun names cells => do
      match ← Act.given (columnName cells) with
      | some name => return .yield (name :: names)
      | none => return .done names) []
  return names.reverse

/-- Sends a statement and picks the names from its result. Any fault is a failure of the engine. -/
def lookUp (handle : Handle σ) (timeout : Amount) (sql : String)
    (pick : Cursor σ → Act σ (List String)) : Act σ (List String) :=
  Act.onFault
    (do
      let cursor ← handle.execute sql timeout
      cursor.use pick)
    fun f => do
      Act.log .error namespaceLogger ("Namespace query failed: " ++ f.message)
      Act.fail .remote ("Failed to run '" ++ sql ++ "': " ++ f.message) (some f.kind)

/-- What is missing from a path, told in the order of its parts. -/
inductive PathPart
  | catalog
  | schema
  | table
deriving DecidableEq, Repr

def PathPart.failure : PathPart → Failure
  | .catalog => ⟨.catalogRequired, "Catalog name is required", none⟩
  | .schema => ⟨.schemaRequired, "Database is required", none⟩
  | .table => ⟨.tableRequired, "Table is required", none⟩

/-- Raises for the first part that is empty. -/
def requireParts : List (PathPart × String) → Act σ Unit
  | [] => return ()
  | (part, name) :: rest =>
    if name.isEmpty then Act.raise (.failure part.failure) else requireParts rest

def listSchemas (handle : Handle σ) (timeout : Amount) (catalog : String) :
    Act σ (List String) := do
  requireParts [(.catalog, catalog)]
  lookUp handle timeout (schemasStatement catalog) (pickNames 0)

def listTables (handle : Handle σ) (timeout : Amount) (catalog schema : String) :
    Act σ (List String) := do
  requireParts [(.catalog, catalog), (.schema, schema)]
  lookUp handle timeout (tablesStatement catalog schema) pickTables

def listColumns (handle : Handle σ) (timeout : Amount) (catalog schema table : String) :
    Act σ (List String) := do
  requireParts [(.catalog, catalog), (.schema, schema), (.table, table)]
  lookUp handle timeout (columnsStatement catalog schema table) pickColumns

end QueryGate
