import QueryGate.Number.Integer
/-! The command line of the server: where it listens, and whether it follows changes. -/

namespace QueryGate

/-- How the server is to run. -/
structure ServerPlan where
  host : String := "127.0.0.1"
  port : Int := 8000
  reload : Bool := false

inductive ServerCommand
  | run (plan : ServerPlan)
  | help
  | misused

inductive ServerOption
  | help
  | host
  | port
  | reload
deriving DecidableEq, Repr

def serverOptions : List (String × ServerOption) :=
  [("-h", .help), ("--help", .help), ("--host", .host), ("--port", .port), ("--reload", .reload)]

/-- A word of the command line. An option may be written short of its end, and may hold its value;
`joined` tells that the value follows a letter without a sign between them. -/
inductive CommandWord
  | plain
  | option (named : ServerOption) (value : Option String) (joined : Bool)
  | unclear
  | unknown

/-- Whether a word is a negative number, which is no option. -/
def isNegativeNumber (word : String) : Bool :=
  match word.toList with
  | '-' :: rest =>
    match rest.dropWhile isDigitChar with
    | [] => !rest.isEmpty
    | '.' :: fraction => !fraction.isEmpty && fraction.all isDigitChar
    | _ => false
  | _ => false

/-- The parts before and after the first sign of equality. -/
def splitValue (word : String) : String × Option String :=
  let cs := word.toList
  match cs.dropWhile (· ≠ '=') with
  | _ :: value => (String.ofList (cs.takeWhile (· ≠ '=')), some (String.ofList value))
  | [] => (word, none)

/-- The options that a word may be short for. -/
def shortenedOptions (word : String) : List (ServerOption × Option String × Bool) :=
  if "--".toList.isPrefixOf word.toList then
    let (name, value) := splitValue word
    (serverOptions.filter (name.toList.isPrefixOf ·.1.toList)).map (·.2, value, false)
  else
    (serverOptions.filter (·.1.toList = word.toList.take 2)).map
      (·.2, some (String.ofList (word.toList.drop 2)), true)

def CommandWord.of (word : String) : CommandWord :=
  let (name, value) := splitValue word
  if !"-".toList.isPrefixOf word.toList then .plain
  else
    match List.lookup word serverOptions, List.lookup name serverOptions with
    | some named, _ => .option named none false
    | none, some named => .option named value false
    | none, none =>
      if word = "-" then .plain
      else
        match shortenedOptions word with
        | [(named, value, joined)] => .option named value joined
        | _ :: _ :: _ => .unclear
        | [] => if isNegativeNumber word || word.contains ' ' then .plain else .unknown

/-- Letters after the letter for help are further options, and only help has a letter. -/
def afterHelp (letters : List Char) : ServerCommand :=
  match letters with
  | '-' :: _ => .misused
  | 'h' :: '=' :: _ => .misused
  | 'h' :: rest => afterHelp rest
  | _ => .help

def ServerPlan.set (plan : ServerPlan) (option : ServerOption) (value : String) :
    Option ServerPlan :=
  match option with
  | .host => some { plan with host := value }
  | .port => (readTypedInteger value).map fun port => { plan with port }
  | _ => none

/-- Reads words in turn. `extra` tells that a word was left over, which only help excuses. -/
def ServerPlan.read (plan : ServerPlan) (extra : Bool) : List String → ServerCommand
  | [] => if extra then .misused else .run plan
  | "--" :: _ => .misused
  | word :: rest =>
    match CommandWord.of word with
    | .plain | .unknown => plan.read true rest
    | .unclear => .misused
    | .option .help none _ => .help
    | .option .help (some letters) true => afterHelp letters.toList
    | .option .help (some _) false => .misused
    | .option .reload none _ => ServerPlan.read { plan with reload := true } extra rest
    | .option .reload (some _) _ => .misused
    | .option option (some value) _ =>
      match plan.set option value with
      | some plan => plan.read extra rest
      | none => .misused
    | .option option none _ =>
      match rest with
      | value :: after =>
        match CommandWord.of value, plan.set option value with
        | .plain, some plan => if value = "--" then .misused else plan.read extra after
        | _, _ => .misused
      | [] => .misused

def ServerCommand.read (words : List String) : ServerCommand :=
  ServerPlan.read {} false words

/-- The exit code of the command. -/
def ServerCommand.exitCode : ServerCommand → Nat
  | .misused => 2
  | _ => 0

/-- The application that the server runs. -/
def servedApplication : String := "bricksql.api.main:app"

end QueryGate
