import QueryGate.Statement.Denied
import QueryGate.Sql.Parser
import QueryGate.Failure
/-! The read-only policy: a statement must hold no denied word, be valid SQL, and be one query with
nothing in it that changes data. The words are looked for first, in the plain text. -/

namespace QueryGate

/-- Why a statement is refused. -/
inductive Rejection
  | deniedWord (word : String)
  | invalid (e : SyntaxError)
  | empty
  | several
  | notQuery (root : String)
  | changesData
deriving DecidableEq

def Rejection.failure : Rejection → Failure
  | .deniedWord word =>
    ⟨.deniedKeyword, "Statement contains forbidden keyword: " ++ word, none⟩
  | .invalid e => ⟨.unparsable, "Invalid SQL: " ++ e.message, none⟩
  | .empty => ⟨.unparsable, "Empty statement", none⟩
  | .several => ⟨.notSelect, "Only a single statement is allowed", none⟩
  | .notQuery root => ⟨.notSelect, "Only SELECT statements are allowed, got " ++ root, none⟩
  | .changesData => ⟨.notSelect, "Statement contains a non-SELECT clause", none⟩

/-- Statements that must not stand anywhere in a query. -/
def Kind.changesData : Kind → Bool
  | .action .insert | .action .update | .action .delete | .action .drop | .action .create
  | .action .merge | .action .command => true
  | _ => false

/-- Judges the statements of a text. -/
def judge : List Tree → Except Rejection Tree
  | [] => .error .empty
  | [t] =>
    if !t.kind.isQuery then .error (.notQuery t.kind.label)
    else if t.anyKind Kind.changesData then .error .changesData
    else .ok t
  | _ => .error .several

/-- The tree of a statement that the policy accepts. -/
def validate (denied : List String) (sql : String) : Except Rejection Tree :=
  match (findDenied denied sql).filter (!·.isEmpty) with
  | some word => .error (.deniedWord word)
  | none =>
    match parseSql sql with
    | .error e => .error (.invalid e)
    | .ok trees => judge trees

end QueryGate
