import QueryGate.Json.Value
import QueryGate.Shape
/-! The command line of the query tool: options before a command choose the environment, the command
has arguments and options of its own. -/

namespace QueryGate

inductive QueryCommand
  | query (sql : String) (shape : OutputShape)
  | schemas (catalog : Option String)
  | tables (schema : String) (catalog : Option String)
  | columns (schema table : String) (catalog : Option String)
  | health

/-- What the words of a command line ask for. -/
inductive Invocation
  | run (environment : Option String) (command : QueryCommand)
  | help
  | misused

/-- An option that takes a value, with its spellings. -/
structure OptionSpec where
  name : String
  spellings : List String

/-- The options of a command. Arguments may stand between them unless they end them. -/
structure CommandSpec where
  options : List OptionSpec
  mixed : Bool

def CommandSpec.option? (spec : CommandSpec) (spelling : String) : Option String :=
  (spec.options.find? (·.spellings.contains spelling)).map (·.name)

/-- The words of a command line, sorted. -/
structure SortedWords where
  values : Members String := []
  help : Bool := false
  arguments : List String := []

/-- How a word that begins with a hyphen is to be read. -/
inductive OptionWord
  | option (name : String) (value : Option String)
  | help
  | unknown

/-- The letter of a short option with its value joined to it. -/
def shortOption (spec : CommandSpec) (word : String) : OptionWord :=
  match word.toList with
  | dash :: letter :: value =>
    match spec.option? (String.ofList [dash, letter]) with
    | some name => .option name (if value.isEmpty then none else some (String.ofList value))
    | none => .unknown
  | _ => .unknown

/-- Long options are written in full, and may hold their value after a sign of equality. -/
def OptionWord.of (spec : CommandSpec) (word : String) : OptionWord :=
  let cs := word.toList
  let name := String.ofList (cs.takeWhile (· ≠ '='))
  let value := match cs.dropWhile (· ≠ '=') with
    | _ :: value => some (String.ofList value)
    | [] => none
  if "--".toList.isPrefixOf cs then
    if name = "--help" then (if value.isNone then .help else .unknown)
    else
      match spec.option? name with
      | some named => .option named value
      | none => .unknown
  else shortOption spec word

/-- Sorts words; nothing if one of them is no option or lacks its value. -/
def sortWords (spec : CommandSpec) (done : SortedWords) : List String → Option SortedWords
  | [] => some done
  | word :: rest =>
    if word = "--" then some { done with arguments := done.arguments ++ rest }
    else if word = "-" || !"-".toList.isPrefixOf word.toList then
      if spec.mixed then sortWords spec { done with arguments := done.arguments ++ [word] } rest
      else some { done with arguments := done.arguments ++ word :: rest }
    else
      match OptionWord.of spec word with
      | .unknown => none
      | .help => sortWords spec { done with help := true } rest
      | .option name (some value) =>
        sortWords spec { done with values := done.values.put name value } rest
      | .option name none =>
        match rest with
        | [] => none
        | value :: after =>
          sortWords spec { done with values := done.values.put name value } after

def environmentSpec : CommandSpec :=
  ⟨[⟨"env", ["--env", "-e"]⟩], false⟩

def catalogSpec : CommandSpec :=
  ⟨[⟨"catalog", ["--catalog", "-c"]⟩], true⟩

def formatSpec : CommandSpec :=
  ⟨[⟨"format", ["--format", "-f"]⟩], true⟩

/-- The options that each command knows. -/
def commandSpecs : List (String × CommandSpec) :=
  [("query", formatSpec), ("schemas", catalogSpec), ("tables", catalogSpec),
   ("columns", catalogSpec), ("health", ⟨[], true⟩)]

/-- The shape that a word names exactly. -/
def shapeNamed? (word : String) : Option OutputShape :=
  [OutputShape.table, .timeSeries].find? (·.label = word)

/-- The command of a name with its words. -/
def QueryCommand.of (name : String) (words : SortedWords) : Option QueryCommand :=
  let catalog := words.values.find? "catalog"
  match name, words.arguments with
  | "query", [sql] =>
    match words.values.find? "format" with
    | some format => (shapeNamed? format).map (.query sql)
    | none => some (.query sql .table)
  | "schemas", [] => some (.schemas catalog)
  | "tables", [schema] => some (.tables schema catalog)
  | "columns", [schema, table] => some (.columns schema table catalog)
  | "health", [] => some .health
  | _, _ => none

/-- Reads the words after the name of a command. -/
def Invocation.ofCommand (environment : Option String) (name : String) (rest : List String) :
    Invocation :=
  match (List.lookup name commandSpecs).bind fun spec => sortWords spec {} rest with
  | none => .misused
  | some words =>
    if words.help then .help
    else
      match QueryCommand.of name words with
      | some command => .run environment command
      | none => .misused

def Invocation.read (words : List String) : Invocation :=
  match sortWords environmentSpec {} words with
  | none => .misused
  | some outer =>
    if outer.help then .help
    else
      match outer.arguments with
      | name :: rest => .ofCommand (outer.values.find? "env") name rest
      | [] => .misused

end QueryGate
