import QueryGate.Text.CaseMap
/-! The keywords of the dialect and the sets they fall into. Where two keywords mean the same they go
by one name. -/

namespace QueryGate

/-- Keywords for types, which are also names and functions. -/
def typeKeywords : List String :=
  ["ARRAY", "BIGINT", "BINARY", "BIT", "BLOB", "BOOLEAN", "BPCHAR", "CHAR", "DATE", "DATETIME",
   "DECIMAL", "DOUBLE", "FLOAT", "GEOGRAPHY", "GEOMETRY", "INET", "INT", "INT128", "INT256", "JSON",
   "JSONB", "LIST", "LONGBLOB", "LONGTEXT", "MAP", "MEDIUMBLOB", "MEDIUMINT", "MEDIUMTEXT", "MONEY",
   "NCHAR", "NESTED", "NULL", "NULLABLE", "NVARCHAR", "OBJECT", "POINT", "POLYGON", "RANGE",
   "ROWVERSION", "SMALLINT", "SMALLMONEY", "STRUCT", "SUPER", "TEXT", "TIME", "TIMESTAMP",
   "TIMESTAMPLTZ", "TIMESTAMPNTZ", "TIMESTAMPTZ", "TIMETZ", "TINYBLOB", "TINYINT", "TINYTEXT",
   "UBIGINT", "UINT", "UNKNOWN", "USMALLINT", "UTINYINT", "UUID", "VARBINARY", "VARCHAR", "VARIANT",
   "VECTOR", "VOID", "XML", "YEAR", "INTERVAL", "FILE"]

/-- Other spellings of types. -/
def typeSynonyms : List (String × String) :=
  [("BOOL", "BOOLEAN"), ("BYTE", "TINYINT"), ("INT1", "TINYINT"), ("INT16", "SMALLINT"),
   ("SHORT", "SMALLINT"), ("INT2", "SMALLINT"), ("HUGEINT", "INT128"), ("INTEGER", "INT"),
   ("INT4", "INT"), ("INT32", "INT"), ("INT64", "BIGINT"), ("INT8", "BIGINT"), ("LONG", "BIGINT"),
   ("NUMERIC", "DECIMAL"), ("FIXED", "DECIMAL"), ("BIGDECIMAL", "DECIMAL"), ("REAL", "FLOAT"),
   ("FLOAT4", "FLOAT"), ("FLOAT8", "DOUBLE"), ("DOUBLE PRECISION", "DOUBLE"),
   ("CHARACTER", "CHAR"), ("CHAR VARYING", "VARCHAR"), ("CHARACTER VARYING", "VARCHAR"),
   ("VARCHAR2", "VARCHAR"), ("NVARCHAR2", "NVARCHAR"), ("STR", "TEXT"), ("STRING", "TEXT"),
   ("CLOB", "TEXT"), ("LONGVARCHAR", "TEXT"), ("BYTEA", "VARBINARY"),
   ("TIMESTAMP_LTZ", "TIMESTAMPLTZ"), ("TIMESTAMP_NTZ", "TIMESTAMPNTZ")]

/-- Kinds of things that statements define. -/
def objectKeywords : List String :=
  ["COLUMN", "CONSTRAINT", "FOREIGN KEY", "FUNCTION", "INDEX", "PROCEDURE", "TRIGGER", "DATABASE",
   "NAMESPACE", "SCHEMA", "TABLE", "VIEW"]

def quantifierKeywords : List String :=
  ["ALL", "ANY", "EXISTS", "SOME"]

/-- Functions that are called without parentheses. -/
def clockKeywords : List String :=
  ["CURRENT_DATE", "CURRENT_TIME", "CURRENT_TIMESTAMP", "CURRENT_USER", "CURRENT_SCHEMA",
   "CURRENT_CATALOG", "LOCALTIME", "LOCALTIMESTAMP", "SESSION_USER"]

/-- Keywords that may be names wherever a bare word may be one. -/
def nameKeywords : List String :=
  ["ANALYZE", "ANTI", "ASC", "ASOF", "AUTO_INCREMENT", "BEGIN", "CACHE", "CASE", "COLLATE",
   "COMMAND", "COMMENT", "COMMIT", "COPY", "CUBE", "DEFAULT", "DELETE", "DESC", "DESCRIBE", "DIV",
   "END", "EXECUTE", "ESCAPE", "FALSE", "FIRST", "FILTER", "FORMAT", "FULL", "IS", "ISNULL", "KEEP",
   "KILL", "LEFT", "LIMIT", "LOAD", "LOCK", "MERGE", "NATURAL", "NEXT", "OFFSET", "ORDINALITY",
   "OVER", "OVERLAPS", "OVERWRITE", "PARTITION", "PERCENT", "PIVOT", "PRAGMA", "RECURSIVE",
   "REFERENCES", "REFRESH", "RENAME", "REPLACE", "RIGHT", "ROLLUP", "ROW", "ROWS", "SEMI", "SESSION",
   "SET", "SETTINGS", "SHOW", "TEMPORARY", "TRUE", "TRUNCATE", "UNIQUE", "UNNEST", "UNPIVOT",
   "UPDATE", "USE", "VOLATILE", "WINDOW"]
  ++ objectKeywords ++ quantifierKeywords ++ clockKeywords ++ typeKeywords

/-- Names that cannot stand as the alias of a table without `AS`. -/
def joinKeywords : List String :=
  ["ANTI", "ASOF", "FULL", "LEFT", "LOCK", "NATURAL", "RIGHT", "SEMI", "WINDOW"]

/-- Keywords that may be called like a function. -/
def callKeywords : List String :=
  ["COLLATE", "COMMAND", "FILTER", "FIRST", "FORMAT", "GLOB", "INDEX", "ISNULL", "ILIKE", "INSERT",
   "LIKE", "MERGE", "NEXT", "OFFSET", "PRIMARY KEY", "REPLACE", "RLIKE", "ROW", "SESSION_USER",
   "UNNEST", "LEFT", "RIGHT", "TABLE", "TRUNCATE", "WINDOW", "XOR"]
  ++ quantifierKeywords ++ clockKeywords ++ typeKeywords

/-- Keywords that start a statement whose text is not read any further. -/
def commandKeywords : List String :=
  ["COMMAND", "EXECUTE", "FETCH", "SHOW", "RENAME"]

/-- Keywords that are never a name. -/
def clauseKeywords : List String :=
  ["ALTER", "AND", "AS", "BETWEEN", "CREATE", "CROSS", "DISTINCT", "DROP", "ELSE", "EXCEPT",
   "FETCH", "FOR", "FROM", "GLOB", "GRANT", "HAVING", "ILIKE", "IN", "INNER", "INSERT", "INTERSECT",
   "INTO", "JOIN", "LATERAL", "LIKE", "NOT", "NOTNULL", "ON", "OR", "OUTER", "QUALIFY", "RETURNING",
   "REVOKE", "RLIKE", "ROLLBACK", "SELECT", "STRAIGHT_JOIN", "TABLESAMPLE", "THEN", "UNCACHE",
   "UNION", "USING", "VALUES", "WHEN", "WHERE", "WITH", "XOR"]

def keywordSynonyms : List (String × String) :=
  [("MINUS", "EXCEPT"), ("REGEXP", "RLIKE"), ("TEMP", "TEMPORARY"), ("CALL", "COMMAND"),
   ("EXPLAIN", "COMMAND"), ("OPTIMIZE", "COMMAND"), ("PREPARE", "COMMAND"), ("VACUUM", "COMMAND"),
   ("AUTOINCREMENT", "AUTO_INCREMENT"), ("PARTITIONED_BY", "PARTITIONED BY")] ++ typeSynonyms

/-- Keywords of several words, the longer before the shorter where one starts another. -/
def phraseKeywords : List (String × String) :=
  [("VERSION AS OF", "VERSION AS OF"), ("TIMESTAMP AS OF", "TIMESTAMP AS OF"),
   ("FOR VERSION", "VERSION AS OF"), ("FOR TIMESTAMP", "TIMESTAMP AS OF"),
   ("CHARACTER SET", "CHARACTER SET"), ("CHARACTER VARYING", "VARCHAR"),
   ("CHAR VARYING", "VARCHAR"), ("DOUBLE PRECISION", "DOUBLE"), ("CLUSTER BY", "CLUSTER BY"),
   ("CONNECT BY", "CONNECT BY"), ("DISTRIBUTE BY", "DISTRIBUTE BY"), ("FOREIGN KEY", "FOREIGN KEY"),
   ("GROUP BY", "GROUP BY"), ("GROUPING SETS", "GROUPING SETS"), ("ORDER BY", "ORDER BY"),
   ("PARTITION BY", "PARTITION BY"), ("PARTITIONED BY", "PARTITIONED BY"),
   ("PRIMARY KEY", "PRIMARY KEY"), ("SIMILAR TO", "SIMILAR TO"), ("SORT BY", "SORT BY"),
   ("START WITH", "START WITH"), ("MSCK REPAIR", "COMMAND"), ("ADD ARCHIVES", "COMMAND"),
   ("ADD ARCHIVE", "COMMAND"), ("ADD FILES", "COMMAND"), ("ADD FILE", "COMMAND"),
   ("ADD JARS", "COMMAND"), ("ADD JAR", "COMMAND")]

/-- What a bare word in upper case is called as a keyword. -/
def keywordName? (upper : String) : Option String :=
  match keywordSynonyms.lookup upper with
  | some name => some name
  | none => if upper ∈ clauseKeywords ∨ upper ∈ nameKeywords then some upper else none

end QueryGate
