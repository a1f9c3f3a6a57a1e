/-! Functions that the dialect knows: the key of the node of each and how many arguments it takes. A
function that is not listed takes any number. -/

namespace QueryGate

structure Signature where
  key : String
  least : Nat
  /-- No upper bound when absent. -/
  most : Option Nat

def anonymousKey : String := "ANONYMOUS"

def knownFunctions : List (String × Signature) :=
  [("ABS", ⟨"ABS", 1, some 1⟩), ("ACOS", ⟨"ACOS", 1, some 1⟩), ("ANY_VALUE", ⟨"ANYVALUE", 1, some 1⟩),
   ("APPROX_COUNT_DISTINCT", ⟨"APPROXDISTINCT", 1, some 2⟩), ("ARRAY", ⟨"ARRAY", 0, none⟩),
   ("ARRAY_AGG", ⟨"ARRAYAGG", 1, some 2⟩), ("ARRAY_CONTAINS", ⟨"ARRAYCONTAINS", 2, some 3⟩),
   ("ASCII", ⟨"ASCII", 1, some 1⟩), ("ASIN", ⟨"ASIN", 1, some 1⟩), ("ATAN", ⟨"ATAN", 1, some 2⟩),
   ("AVG", ⟨"AVG", 1, some 1⟩), ("CBRT", ⟨"CBRT", 1, some 1⟩), ("COALESCE", ⟨"COALESCE", 1, none⟩),
   ("IFNULL", ⟨"COALESCE", 1, none⟩), ("NVL", ⟨"COALESCE", 1, none⟩),
   ("COLLECT_LIST", ⟨"ARRAYAGG", 1, some 2⟩), ("COLLECT_SET", ⟨"ARRAYUNIQUEAGG", 1, some 1⟩),
   ("CONCAT", ⟨"CONCAT", 1, none⟩), ("CONCAT_WS", ⟨"CONCATWS", 1, none⟩), ("COS", ⟨"COS", 1, some 1⟩),
   ("COUNT", ⟨"COUNT", 0, none⟩), ("COUNT_IF", ⟨"COUNTIF", 1, some 1⟩),
   ("CURRENT_DATE", ⟨"CURRENTDATE", 0, some 1⟩),
   ("CURRENT_TIMESTAMP", ⟨"CURRENTTIMESTAMP", 0, some 2⟩), ("DAY", ⟨"DAY", 1, some 1⟩),
   ("DEGREES", ⟨"DEGREES", 1, some 1⟩), ("EXP", ⟨"EXP", 1, some 1⟩),
   ("EXPLODE", ⟨"EXPLODE", 1, none⟩), ("POSEXPLODE", ⟨"POSEXPLODE", 1, none⟩),
   ("FIRST", ⟨"FIRST", 1, none⟩), ("FIRST_VALUE", ⟨"FIRSTVALUE", 1, some 1⟩),
   ("GREATEST", ⟨"GREATEST", 1, none⟩), ("HEX", ⟨"HEX", 1, some 1⟩), ("HOUR", ⟨"HOUR", 1, some 1⟩),
   ("IF", ⟨"IF", 2, some 3⟩), ("INITCAP", ⟨"INITCAP", 1, some 2⟩), ("INLINE", ⟨"INLINE", 1, some 1⟩),
   ("LAG", ⟨"LAG", 1, some 3⟩), ("LAST", ⟨"LAST", 1, none⟩), ("LAST_VALUE", ⟨"LASTVALUE", 1, some 1⟩),
   ("LEAD", ⟨"LEAD", 1, some 3⟩), ("LEAST", ⟨"LEAST", 1, none⟩), ("LEFT", ⟨"LEFT", 2, some 2⟩),
   ("RIGHT", ⟨"RIGHT", 2, some 2⟩), ("LENGTH", ⟨"LENGTH", 1, some 3⟩), ("LEN", ⟨"LENGTH", 1, some 3⟩),
   ("LN", ⟨"LN", 1, some 1⟩), ("LOG", ⟨"LOG", 1, some 2⟩), ("LOWER", ⟨"LOWER", 1, some 1⟩),
   ("LCASE", ⟨"LOWER", 1, some 1⟩), ("UPPER", ⟨"UPPER", 1, some 1⟩), ("UCASE", ⟨"UPPER", 1, some 1⟩),
   ("MAX", ⟨"MAX", 1, none⟩), ("MIN", ⟨"MIN", 1, none⟩), ("MD5", ⟨"MD5", 1, some 1⟩),
   ("MINUTE", ⟨"MINUTE", 1, some 1⟩), ("MONTH", ⟨"MONTH", 1, some 1⟩),
   ("NULLIF", ⟨"NULLIF", 2, some 2⟩), ("NVL2", ⟨"NVL2", 2, some 3⟩), ("POW", ⟨"POW", 2, some 2⟩),
   ("POWER", ⟨"POW", 2, some 2⟩), ("RADIANS", ⟨"RADIANS", 1, some 1⟩), ("RANK", ⟨"RANK", 0, none⟩),
   ("DENSE_RANK", ⟨"DENSERANK", 0, none⟩), ("REPEAT", ⟨"REPEAT", 2, some 2⟩),
   ("ROUND", ⟨"ROUND", 1, some 3⟩), ("ROW_NUMBER", ⟨"ROWNUMBER", 0, some 1⟩),
   ("REGEXP_LIKE", ⟨"REGEXPLIKE", 2, some 4⟩), ("REVERSE", ⟨"REVERSE", 1, some 1⟩),
   ("SECOND", ⟨"SECOND", 1, some 1⟩), ("SIGN", ⟨"SIGN", 1, some 1⟩), ("SIN", ⟨"SIN", 1, some 1⟩),
   ("SIZE", ⟨"ARRAYSIZE", 1, some 2⟩), ("SPLIT", ⟨"SPLIT", 2, some 3⟩), ("SQRT", ⟨"SQRT", 1, some 1⟩),
   ("STDDEV", ⟨"STDDEV", 1, some 1⟩), ("STRUCT", ⟨"STRUCT", 0, none⟩), ("SUM", ⟨"SUM", 1, some 1⟩),
   ("TAN", ⟨"TAN", 1, some 1⟩), ("VARIANCE", ⟨"VARIANCE", 1, some 1⟩), ("YEAR", ⟨"YEAR", 1, some 1⟩)]

/-- The five functions of a visual query, and the others that gather rows. -/
def aggregateKeys : List String :=
  ["COUNT", "SUM", "AVG", "MIN", "MAX", "ANYVALUE", "APPROXDISTINCT", "ARRAYAGG", "ARRAYUNIQUEAGG",
   "COUNTIF", "FIRST", "LAST", "STDDEV", "VARIANCE"]

def Signature.allows (s : Signature) (count : Nat) : Bool :=
  s.least ≤ count && s.most.all (count ≤ ·)

end QueryGate
