/-! Syntax trees of SQL statements. A tree has a kind, a text where the kind leaves one open, and its
parts in reading order. -/

namespace QueryGate

/-- Statements that are no queries. -/
inductive Action
  | alter | analyze | cache | command | comment | commit | copy | create | delete | describe | drop
  | grant | insert | kill | loadData | merge | multiInsert | pragma | refresh | revoke | rollback
  | semicolon | set | transaction | truncate | uncache | update | use
deriving DecidableEq, Repr

def Action.label : Action → String
  | .alter => "ALTER"
  | .analyze => "ANALYZE"
  | .cache => "CACHE"
  | .command => "COMMAND"
  | .comment => "COMMENT"
  | .commit => "COMMIT"
  | .copy => "COPY"
  | .create => "CREATE"
  | .delete => "DELETE"
  | .describe => "DESCRIBE"
  | .drop => "DROP"
  | .grant => "GRANT"
  | .insert => "INSERT"
  | .kill => "KILL"
  | .loadData => "LOADDATA"
  | .merge => "MERGE"
  | .multiInsert => "MULTITABLEINSERTS"
  | .pragma => "PRAGMA"
  | .refresh => "REFRESH"
  | .revoke => "REVOKE"
  | .rollback => "ROLLBACK"
  | .semicolon => "SEMICOLON"
  | .set => "SET"
  | .transaction => "TRANSACTION"
  | .truncate => "TRUNCATETABLE"
  | .uncache => "UNCACHE"
  | .update => "UPDATE"
  | .use => "USE"

/-- Parts of a query or of something it reads from. -/
inductive Clause
  | ctes | cte | hint | distinct | projections | into | source | join | lateral | filter | group
  | rollup | cube | groupingSets | having | qualify | windows | order | ordered | limit | offset
  | fetch | lock | sample | cluster | distribute | sort | connect | start | pivot | version
  | tableAlias | columnList | joinOn | joinUsing | partition | frame
deriving DecidableEq, Repr

inductive Kind
  | select
  | union
  | intersect
  | except
  | subquery
  | values
  | tuple
  | paren
  | action (a : Action)
  | clause (c : Clause)
  /-- A name, with whether it was written in quotes. -/
  | identifier (quoted : Bool)
  | column
  | table
  | star
  | string
  | number
  | null
  | boolean
  | placeholder
  | parameter
  | aliased
  | type
  /-- A function by the key of its node; the text is the name as written. -/
  | call (key : String)
  /-- An operator or another expression by the key of its node. -/
  | op (key : String)
deriving DecidableEq, Repr

inductive Tree where
  | node (kind : Kind) (text : String) (parts : List Tree)
deriving Repr, BEq

instance : Inhabited Tree where
  default := .node .null "" []

def Tree.kind : Tree → Kind
  | .node kind _ _ => kind

def Tree.text : Tree → String
  | .node _ text _ => text

def Tree.parts : Tree → List Tree
  | .node _ _ parts => parts

/-- A tree with one more part at its end. -/
def Tree.append : Tree → Tree → Tree
  | .node kind text parts, part => .node kind text (parts ++ [part])

mutual
/-- Whether some place of the tree has a kind that satisfies the test. -/
def Tree.anyKind (p : Kind → Bool) : Tree → Bool
  | .node kind _ parts => p kind || anyKindIn p parts

def anyKindIn (p : Kind → Bool) : List Tree → Bool
  | [] => false
  | t :: ts => t.anyKind p || anyKindIn p ts
end

/-- The name that a refusal gives to the root of a tree. -/
def Kind.label : Kind → String
  | .select => "SELECT"
  | .union => "UNION"
  | .intersect => "INTERSECT"
  | .except => "EXCEPT"
  | .subquery => "SUBQUERY"
  | .values => "VALUES"
  | .tuple => "TUPLE"
  | .paren => "PAREN"
  | .action a => a.label
  | .clause _ => "CLAUSE"
  | .identifier _ => "IDENTIFIER"
  | .column => "COLUMN"
  | .table => "TABLE"
  | .star => "STAR"
  | .string => "LITERAL"
  | .number => "LITERAL"
  | .null => "NULL"
  | .boolean => "BOOLEAN"
  | .placeholder => "PLACEHOLDER"
  | .parameter => "PARAMETER"
  | .aliased => "ALIAS"
  | .type => "DATATYPE"
  | .call key => key
  | .op key => key

/-- Whether a kind is that of a part of a query. -/
def Kind.isClause : Kind → Bool
  | .clause _ => true
  | _ => false

/-- Operations on the rows of two queries. -/
inductive SetOperation
  | union | except | intersect
deriving DecidableEq

def SetOperation.kind : SetOperation → Kind
  | .union => .union
  | .except => .except
  | .intersect => .intersect

/-- What stands alone in parentheses. -/
def Tree.alone? : Tree → Option Tree
  | .node .subquery _ [inside] => if inside.kind.isClause then none else some inside
  | _ => none

/-- Roots that are queries. -/
def Kind.isQuery : Kind → Bool
  | .select | .union | .intersect | .except | .subquery => true
  | _ => false

end QueryGate
