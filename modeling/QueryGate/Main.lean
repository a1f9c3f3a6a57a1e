import QueryGate.Command.Run
import QueryGate.Connection.Dialect
import QueryGate.Settings.Basic
/-! The query tool. It reads its settings from the environment and from files of variables in the
working directory, runs one command, and prints the outcome. -/

namespace QueryGate

def readEnvironment : IO Environment := do
  let found ← settingNames.mapM fun name => return (name, ← IO.getEnv name)
  return found.filterMap fun (name, value) => value.map (name, ·)

def readFiles (names : List String) : IO Files := do
  let mut files : Files := []
  for name in names do
    try
      files := files ++ [(name, ← IO.FS.readFile name)]
    catch _ => pure ()
  return files

def Invocation.environment : Invocation → String
  | .run (some name) _ => name
  | _ => ""

/-- The settings under which an invocation runs. -/
def settingsFor (invocation : Invocation) (environment : Environment) (files : Files) :
    Checked Settings :=
  (Settings.load environment files).andThen fun settings =>
    settings.configure invocation.environment environment files

/-- A handle for the configured engine. No engine is linked into this program. -/
def linkedHandle (config : ConnectionConfig) : Act Unit (Handle Unit) := do
  let dialect ← createEngine config
  Act.raise (.fault ⟨.missingPlugin, "No engine is linked for " ++ dialect⟩)

def usage : String :=
  "Usage: querygate [--env NAME] (query SQL [--format SHAPE] | schemas | tables SCHEMA"
    ++ " | columns SCHEMA TABLE | health) [--catalog CATALOG]"

/-- Prints what a command left behind and gives its exit code. -/
def printOutcome (outcome : CommandOutcome) (log : List LogEntry) : IO UInt32 := do
  for entry in log do
    if entry.level ≠ .info then IO.eprintln entry.message
  IO.print outcome.output
  match outcome.fault with
  | some raised => IO.eprintln (raised.label ++ ": " ++ raised.message)
  | none => pure ()
  return UInt32.ofNat outcome.exitCode

def runTool (words : List String) : IO UInt32 := do
  let invocation := Invocation.read words
  let environment ← readEnvironment
  let files ← readFiles [".env", ".env." ++ invocation.environment]
  match settingsFor invocation environment files, invocation with
  | _, .help => IO.println usage; return 0
  | _, .misused => IO.eprintln usage; return 2
  | .wrong issue _, _ =>
    IO.eprintln (".".intercalate issue.place ++ ": " ++ issue.kind.text)
    return 1
  | .ok settings, invocation =>
    let plan := ServicePlan.ofConfig settings.config settings.nullText
    let act := invocation.outcome plan (linkedHandle settings.config)
    match act.outcome (Session.start ()) with
    | (.ok outcome, session) => printOutcome outcome session.log
    | (.error raised, session) => printOutcome ⟨1, "", some raised⟩ session.log

end QueryGate

def main (words : List String) : IO UInt32 :=
  QueryGate.runTool words
