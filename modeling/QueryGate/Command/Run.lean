import QueryGate.Command.Invocation
import QueryGate.Console.Report
import QueryGate.Service.Health
import QueryGate.Service.Namespace
import QueryGate.Service.Query
/-! Running a command over a handle, which is let go before anything is printed. -/

namespace QueryGate

variable {σ : Type}

/-- What a command leaves: its exit code, what it printed, and the fault that it did not expect. -/
structure CommandOutcome where
  exitCode : Nat
  output : String
  fault : Option Raised := none

/-- What a report prints, unless it cannot be laid out. -/
def CommandOutcome.ofReport (exitCode : Nat) (report : Except Fault String) : CommandOutcome :=
  match report with
  | .ok output => ⟨exitCode, output, none⟩
  | .error fault => ⟨1, "", some (.fault fault)⟩

/-- The message of a failure, with its code. -/
def failureMessage (f : Failure) : String :=
  "[" ++ f.code.label ++ "] " ++ f.safe

/-- Runs a call, lets go of the handle, and reports the result or the failure. -/
def reported {α : Type} (handle : Handle σ) (act : Act σ α) (report : α → CommandOutcome) :
    Act σ CommandOutcome := do
  match ← Act.caught (Act.andFinally act handle.dispose) with
  | .ok a => return report a
  | .error (.failure f) => return .ofReport 1 (errorReport (failureMessage f))
  | .error (.fault f) => return ⟨1, "", some (.fault f)⟩

def namesOutcome (title : String) (names : List String) : CommandOutcome :=
  .ofReport 0 (namesReport title names)

def healthOutcome (h : Health) : CommandOutcome :=
  if h.healthy then .ofReport 0 (successReport h.message) else .ofReport 1 (errorReport h.message)

/-- The catalog that is named, or the configured one. -/
def chosenCatalog (plan : ServicePlan) (catalog : Option String) : String :=
  (catalog.filter (!·.isEmpty)).getD plan.catalog

def QueryCommand.run (plan : ServicePlan) (handle : Handle σ) (command : QueryCommand) :
    Act σ CommandOutcome :=
  match command with
  | .query sql shape =>
    reported handle (executeQuery plan handle ⟨"A", some sql, shape, none⟩)
      fun frame => .ofReport 0 (frameReport frame)
  | .schemas catalog =>
    reported handle (listSchemas handle plan.timeout (chosenCatalog plan catalog))
      (namesOutcome "Schemas")
  | .tables schema catalog =>
    reported handle (listTables handle plan.timeout (chosenCatalog plan catalog) schema)
      (namesOutcome ("Tables in " ++ schema))
  | .columns schema table catalog =>
    reported handle (listColumns handle plan.timeout (chosenCatalog plan catalog) schema table)
      (namesOutcome ("Columns of " ++ schema ++ "." ++ table))
  | .health => reported handle (checkHealth handle plan.timeout) healthOutcome

/-- The outcome of a command line. Only a command makes use of a handle; `handle` makes one, or tells
why there is none. -/
def Invocation.outcome (plan : ServicePlan) (handle : Act σ (Handle σ)) (invocation : Invocation) :
    Act σ CommandOutcome := do
  match invocation with
  | .misused => return ⟨2, "", none⟩
  | .help => return ⟨0, "", none⟩
  | .run _ command =>
    match ← Act.caught handle with
    | .ok handle => command.run plan handle
    | .error e => return ⟨1, "", some e⟩

end QueryGate
