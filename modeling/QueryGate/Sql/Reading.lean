import QueryGate.Sql.Token
import QueryGate.Sql.Tree
/-! Readers of token lists, as scripts of what they do, and what running one gives. The state is a place
in the tokens; a reader either fails or gives a result and the place where it stopped. -/

namespace QueryGate

/-- How a query may be written where one is wanted. -/
structure QueryPlace where
  /-- Parentheses round the query are read here. -/
  nested : Bool
  /-- Parentheses may also hold a table. -/
  table : Bool
  /-- A parenthesised query may have an alias. -/
  aliased : Bool
  /-- A set operation may follow. -/
  combined : Bool
deriving DecidableEq

/-- What a reader may ask for inside its own construct, with the type of what is found. Where that is
an `Option`, the construct need not start here. -/
inductive Construct : Type → Type
  | statement : Construct (Option Tree)
  /-- What follows a keyword that starts a statement which is no query. -/
  | action (t : Token) : Construct (Option (Action × List Tree))
  /-- A statement that stands where a query is wanted. -/
  | described : Construct (Option Tree)
  | called : Construct (Option Tree)
  | query (place : QueryPlace) : Construct (Option Tree)
  /-- The names that `WITH` defines. -/
  | ctes : Construct (Option Tree)
  | source : Construct (Option Tree)
  /-- The parts of a selection up to its source, given a source that stood in front of it. -/
  | head (leading : Option Tree) : Construct (List Tree)
  /-- What stands in parentheses where a query may, and then the query with its parentheses. -/
  | parenthesised (table : Bool) : Construct (Option Tree)
  | wrapped (place : QueryPlace) : Construct (Option Tree)
  /-- What a query may be other than a selection, with whether a set operation may follow. -/
  | otherQuery : Construct (Option Tree × Bool)
  /-- Rows inserted by the statements that follow a leading source. -/
  | inserts (source : Tree) : Construct (Option Tree)
  | laterals : Construct (List Tree)
  /-- Clauses behind a query, with the keyword that starts them. -/
  | clause : Construct (String × List Tree)
  /-- What may follow a query: joins, then clauses in any order. -/
  | modifiers (this : Tree) : Construct Tree
  /-- The words of a set operation. -/
  | operation : Construct (Option (SetOperation × String))
  /-- The set operations that may follow a query. -/
  | combinations (this : Tree) : Construct Tree
  /-- Wraps a parenthesised query, with an alias where one is allowed. -/
  | subquery (this : Tree) (aliased : Bool) : Construct Tree
  | table (schema : Bool) : Construct (Option Tree)
  | joins : Construct (List Tree)
  | expression : Construct (Option Tree)
  | assignment : Construct (Option Tree)
  | disjunction : Construct (Option Tree)
  | equality : Construct (Option Tree)
  | bitwise : Construct (Option Tree)
  | term : Construct (Option Tree)
  | unary : Construct (Option Tree)
  /-- A literal with its type in front, or a column. -/
  | operand : Construct (Option Tree)
  | column : Construct (Option Tree)
  | primary : Construct (Option Tree)
  /-- An interval, with its keyword or without. -/
  | interval (marked : Bool) : Construct (Option Tree)
  /-- A type; whether a call of the type's name is none, and whether a name may stand for one. -/
  | type (call allowNames : Bool) : Construct (Option Tree)

inductive Reading : Type → Type 1
  | give {α : Type} (a : α) : Reading α
  | andThen {α β : Type} (r : Reading α) (next : α → Reading β) : Reading β
  /-- Refuses; the token that stands here may be named. -/
  | refuse {α : Type} (e : Option Token → SyntaxError) : Reading α
  /-- Goes past the token here if it fits, the one behind it being known. -/
  | take (p : Token → Option Token → Bool) : Reading (Option Token)
  /-- Whether the token here, or the end of the text, fits; nothing is read. -/
  | look (q : Option Token → Bool) : Reading Bool
  /-- The place where the reader stands. -/
  | here : Reading Nat
  /-- Goes back to a place. -/
  | back (place : Nat) : Reading Unit
  /-- Reads, but on failure or if nothing was found stays where it was. -/
  | attempt {α : Type} (r : Reading (Option α)) : Reading (Option α)
  /-- Repeats a step from a value until it gives nothing or reads nothing. -/
  | loop {σ : Type} (step : σ → Reading (Option σ)) (s : σ) : Reading σ
  /-- Whether a keyword stands here that starts a clause behind a query; nothing is read. -/
  | opens (names : List String) : Reading Bool
  | inner {α : Type} (c : Construct α) : Reading α

instance : Monad Reading where
  pure := Reading.give
  bind := Reading.andThen

/-- A result with the place reached. -/
abbrev Outcome (α : Type) := Except SyntaxError (α × Nat)

def isOneOf (names : List String) (t : Token) : Bool :=
  t.kind = .keyword && names.contains t.name

namespace Reading

/-- Repeats a step, at most so many times. -/
def repeated {σ : Type} (step : σ → Nat → Outcome (Option σ)) : Nat → σ → Nat → Outcome σ
  | 0, s, i => .ok (s, i)
  | fuel + 1, s, i =>
    match step s i with
    | .error e => .error e
    | .ok (none, j) => .ok (s, j)
    | .ok (some s', j) => if i < j then repeated step fuel s' j else .ok (s', j)

/-- Runs a reader at a place, with an answer for each construct inside. -/
def run (tokens : Array Token) (answer : {α : Type} → Construct α → Nat → Outcome α) :
    {α : Type} → Reading α → Nat → Outcome α
  | _, .give a, i => .ok (a, i)
  | _, .andThen r next, i =>
    match run tokens answer r i with
    | .error e => .error e
    | .ok (a, j) => run tokens answer (next a) j
  | _, .refuse e, i => .error (e tokens[i]?)
  | _, .take p, i =>
    match tokens[i]? with
    | some t => if p t tokens[i + 1]? then .ok (some t, i + 1) else .ok (none, i)
    | none => .ok (none, i)
  | _, .look q, i => .ok (q tokens[i]?, i)
  | _, .here, i => .ok (i, i)
  | _, .back place, i => .ok ((), min place i)
  | _, .attempt r, i =>
    match run tokens answer r i with
    | .ok (some a, j) => .ok (some a, j)
    | .error .tooDeep => .error .tooDeep
    | _ => .ok (none, i)
  | _, .loop step s, i =>
    repeated (fun s j => run tokens answer (step s) j) (tokens.size - i + 1) s i
  | _, .opens names, i => .ok (tokens[i]?.any (isOneOf names), i)
  | _, .inner c, i => answer c i

end Reading

end QueryGate
