import QueryGate.Query.Select
import QueryGate.Sql.Tree
import QueryGate.Sql.Token
import QueryGate.Sql.Token.Keyword
/-! What a query put together in an editor looks like as SQL: the tokens of each of its parts and the
tree that those stand for. -/

namespace QueryGate

/-! Tokens. -/

def wordToken (word : String) : Token :=
  ⟨.word, word, "", false⟩

/-- What a word is split off as. -/
def wordLexeme (word : String) : Token :=
  match keywordName? (toUpperText word) with
  | some name => ⟨.keyword, word, name, false⟩
  | none => wordToken word

/-- A name, in backticks where it has to be. -/
def writtenToken (name : String) : Token :=
  if isBareName name.toList then wordLexeme name else ⟨.quoted, name, "", false⟩

/-- A keyword in capitals. -/
def keywordToken (name : String) : Token :=
  ⟨.keyword, name, name, false⟩

def symbolToken (symbol : String) : Token :=
  ⟨.symbol, symbol, symbol, false⟩

def textToken (value : String) : Token :=
  ⟨.text, value, "", false⟩

def numberToken (digits : String) : Token :=
  ⟨.number, digits, "", false⟩

/-- The token without the note that a comment belongs to it. -/
def Token.bare (t : Token) : Token :=
  { t with noted := false }

/-- Items with a token between them. -/
def separatedTokens (sep : Token) : List (List Token) → List Token
  | [] => []
  | item :: rest => item ++ rest.flatMap (sep :: ·)

def commaTokens (items : List (List Token)) : List Token :=
  separatedTokens (symbolToken ",") items

def ColumnRef.token : ColumnRef → Token
  | .star => symbolToken "*"
  | .named name => writtenToken name

def Projection.valueTokens (p : Projection) : List Token :=
  match p.aggregation with
  | some a => [wordToken a.label, symbolToken "(", p.column.token, symbolToken ")"]
  | none => [p.column.token]

def Projection.tokens (p : Projection) : List Token :=
  p.valueTokens ++
    match p.outputName with
    | some name => [keywordToken "AS", writtenToken name]
    | none => []

def Predicate.tokens : Predicate → List Token
  | .compare column how value => [column.token, symbolToken how.label, textToken value]
  | .fits column .like value => [column.token, keywordToken "LIKE", textToken value]
  | .fits column .ilike value => [column.token, keywordToken "ILIKE", textToken value]
  | .fits column .regexp value =>
    [wordToken "REGEXP_LIKE", symbolToken "(", column.token, symbolToken ",", textToken value,
      symbolToken ")"]
  | .isNull column => [column.token, keywordToken "IS", keywordToken "NULL"]
  | .oneOf column values =>
    column.token :: keywordToken "IN" :: symbolToken "(" ::
      (commaTokens (values.map fun value => [textToken value]) ++ [symbolToken ")"])
  | .between column low high =>
    [column.token, keywordToken "BETWEEN", textToken low, keywordToken "AND", textToken high]
  | .negated p => keywordToken "NOT" :: p.tokens

def Condition.tokens : Condition → List Token
  | .test p => p.tokens
  | .both c p => c.tokens ++ keywordToken "AND" :: p.tokens
  | .either c p => c.tokens ++ keywordToken "OR" :: p.tokens

def orderTokens (column : ColumnRef) (descending : Bool) : List Token :=
  [keywordToken "ORDER BY", column.token] ++
    if descending then [keywordToken "DESC"]
    else [keywordToken "ASC", wordToken "NULLS", wordToken "LAST"]

def Select.clauseTokens (s : Select) : List Token :=
  (match s.condition with
    | some c => keywordToken "WHERE" :: c.tokens
    | none => [])
  ++ (if s.group.isEmpty then [] else
      keywordToken "GROUP BY" :: commaTokens (s.group.map fun column => [column.token]))
  ++ (match s.order with
    | some (column, descending) => orderTokens column descending
    | none => [])
  ++ (match s.limit with
    | some n => [keywordToken "LIMIT", numberToken (String.ofList (Nat.toDigits 10 n))]
    | none => [])

def Select.tokens (s : Select) : List Token :=
  keywordToken "SELECT" :: (commaTokens (s.projections.map (·.tokens))
    ++ keywordToken "FROM" :: writtenToken s.database :: symbolToken "." :: writtenToken s.table ::
      s.clauseTokens)

/-! Trees. -/

def nameTree (name : String) : Tree :=
  .node (.identifier (!isBareName name.toList)) name []

def stringTree (value : String) : Tree :=
  .node .string value []

def ColumnRef.tree : ColumnRef → Tree
  | .star => .node .star "" []
  | .named name => .node .column "" [nameTree name]

def Projection.valueTree (p : Projection) : Tree :=
  match p.aggregation with
  | some a => .node (.call a.label) a.label [p.column.tree]
  | none => p.column.tree

def Projection.tree (p : Projection) : Tree :=
  match p.outputName with
  | some name => .node .aliased "" [p.valueTree, nameTree name]
  | none => p.valueTree

/-- The key of a comparison. -/
def Comparison.key : Comparison → String
  | .equal => "EQ"
  | .unequal => "NEQ"
  | .greater => "GT"
  | .less => "LT"
  | .greaterOrEqual => "GTE"
  | .lessOrEqual => "LTE"

def Predicate.tree : Predicate → Tree
  | .compare column how value => .node (.op how.key) "" [column.tree, stringTree value]
  | .fits column .like value => .node (.op "LIKE") "" [column.tree, stringTree value]
  | .fits column .ilike value => .node (.op "ILIKE") "" [column.tree, stringTree value]
  | .fits column .regexp value =>
    .node (.call "REGEXPLIKE") "REGEXP_LIKE" [column.tree, stringTree value]
  | .isNull column => .node (.op "IS") "" [column.tree, .node .null "" []]
  | .oneOf column values => .node (.op "IN") "" (column.tree :: values.map stringTree)
  | .between column low high =>
    .node (.op "BETWEEN") "" [column.tree, stringTree low, stringTree high]
  | .negated p => .node (.op "NOT") "" [p.tree]

/-- The predicates of a condition as SQL joins them: groups joined by `OR`, in each of them predicates
joined by `AND`. -/
def Condition.groups : Condition → List (List Predicate)
  | .test p => [[p]]
  | .both c p =>
    match c.groups.getLast? with
    | some last => c.groups.dropLast ++ [last ++ [p]]
    | none => [[p]]
  | .either c p => c.groups ++ [[p]]

/-- Operands joined from left to right. -/
def joinedTree (key : String) : List Tree → Tree
  | [] => .node .null "" []
  | first :: rest => rest.foldl (fun left right => .node (.op key) "" [left, right]) first

def Condition.tree (c : Condition) : Tree :=
  joinedTree "OR" (c.groups.map fun group => joinedTree "AND" (group.map (·.tree)))

def orderTree (column : ColumnRef) (descending : Bool) : Tree :=
  .node (.clause .order) ""
    [.node (.clause .ordered) (if descending then "DESC" else "ASC NULLS LAST") [column.tree]]

def limitTree (digits : String) : Tree :=
  .node (.clause .limit) "" [.node .number digits []]

def Select.tree (s : Select) : Tree :=
  .node .select ""
    ([.node (.clause .projections) "" (s.projections.map (·.tree)),
      .node (.clause .source) "" [.node .table "" [nameTree s.database, nameTree s.table]]]
    ++ (match s.condition with
      | some c => [.node (.clause .filter) "" [c.tree]]
      | none => [])
    ++ (if s.group.isEmpty then [] else [.node (.clause .group) "" (s.group.map (·.tree))])
    ++ (match s.order with
      | some (column, descending) => [orderTree column descending]
      | none => [])
    ++ (match s.limit with
      | some n => [limitTree (String.ofList (Nat.toDigits 10 n))]
      | none => []))

end QueryGate
