import QueryGate.Text.Blank
/-! Failures reported to a caller: their kinds, the code and status of each, and their one-line text.
A fault is any other failure, raised by a driver or by a value; it has no code. -/

namespace QueryGate

inductive ErrorCode
  | invalidPayload
  | parseError
  | notSelect
  | dangerousKeyword
  | missingTimeColumn
  | catalogRequired
  | schemaRequired
  | tableRequired
  | notFound
  | remoteQueryFailure
  | statementTimeout
  | scanFailure
  | serializationFailure
  | serviceUnavailable
deriving DecidableEq, Repr

def ErrorCode.label : ErrorCode → String
  | .invalidPayload => "INVALID_PAYLOAD"
  | .parseError => "PARSE_ERROR"
  | .notSelect => "NOT_SELECT"
  | .dangerousKeyword => "DANGEROUS_KEYWORD"
  | .missingTimeColumn => "MISSING_TIME_COLUMN"
  | .catalogRequired => "CATALOG_REQUIRED"
  | .schemaRequired => "SCHEMA_REQUIRED"
  | .tableRequired => "TABLE_REQUIRED"
  | .notFound => "NOT_FOUND"
  | .remoteQueryFailure => "REMOTE_QUERY_FAILURE"
  | .statementTimeout => "STATEMENT_TIMEOUT"
  | .scanFailure => "SCAN_FAILURE"
  | .serializationFailure => "SERIALIZATION_FAILURE"
  | .serviceUnavailable => "SERVICE_UNAVAILABLE"

def ErrorCode.all : List ErrorCode :=
  [.invalidPayload, .parseError, .notSelect, .dangerousKeyword, .missingTimeColumn,
   .catalogRequired, .schemaRequired, .tableRequired, .notFound, .remoteQueryFailure,
   .statementTimeout, .scanFailure, .serializationFailure, .serviceUnavailable]

def ErrorCode.ofLabel? (label : String) : Option ErrorCode :=
  ErrorCode.all.find? (·.label = label)

/-- Mistakes of the caller are 400, a missing thing is 404, all else is 500. -/
def ErrorCode.status : ErrorCode → Nat
  | .invalidPayload | .parseError | .notSelect | .dangerousKeyword | .missingTimeColumn
  | .catalogRequired | .schemaRequired | .tableRequired => 400
  | .notFound => 404
  | .remoteQueryFailure | .statementTimeout | .scanFailure | .serializationFailure
  | .serviceUnavailable => 500

inductive FailureKind
  | general
  | invalidPayload
  | rejected
  | unparsable
  | notSelect
  | deniedKeyword
  | missingTimeColumn
  | missingArgument
  | catalogRequired
  | schemaRequired
  | tableRequired
  | notFound
  | remote
  | timeout
  | unavailable
  | scan
  | serialization
deriving DecidableEq, Repr

def FailureKind.label : FailureKind → String
  | .general => "BricksError"
  | .invalidPayload => "InvalidPayload"
  | .rejected => "RejectedStatement"
  | .unparsable => "StatementParseError"
  | .notSelect => "NotSelect"
  | .deniedKeyword => "DangerousKeyword"
  | .missingTimeColumn => "MissingTimeColumn"
  | .missingArgument => "MissingArgument"
  | .catalogRequired => "CatalogRequired"
  | .schemaRequired => "SchemaRequired"
  | .tableRequired => "TableRequired"
  | .notFound => "NotFound"
  | .remote => "RemoteQueryFailure"
  | .timeout => "StatementTimeout"
  | .unavailable => "ServiceUnavailable"
  | .scan => "ScanFailure"
  | .serialization => "SerializationFailure"

def FailureKind.all : List FailureKind :=
  [.general, .invalidPayload, .rejected, .unparsable, .notSelect, .deniedKeyword,
   .missingTimeColumn, .missingArgument, .catalogRequired, .schemaRequired, .tableRequired,
   .notFound, .remote, .timeout, .unavailable, .scan, .serialization]

def FailureKind.code : FailureKind → ErrorCode
  | .general | .remote => .remoteQueryFailure
  | .invalidPayload | .missingArgument => .invalidPayload
  | .rejected | .notSelect => .notSelect
  | .unparsable => .parseError
  | .deniedKeyword => .dangerousKeyword
  | .missingTimeColumn => .missingTimeColumn
  | .catalogRequired => .catalogRequired
  | .schemaRequired => .schemaRequired
  | .tableRequired => .tableRequired
  | .notFound => .notFound
  | .timeout => .statementTimeout
  | .unavailable => .serviceUnavailable
  | .scan => .scanFailure
  | .serialization => .serializationFailure

/-- A kind with the wider kinds it belongs to, the widest last. -/
def FailureKind.lineage : FailureKind → List FailureKind
  | .general => [.general]
  | .unparsable => [.unparsable, .rejected, .general]
  | .notSelect => [.notSelect, .rejected, .general]
  | .deniedKeyword => [.deniedKeyword, .rejected, .general]
  | .catalogRequired => [.catalogRequired, .missingArgument, .general]
  | .schemaRequired => [.schemaRequired, .missingArgument, .general]
  | .tableRequired => [.tableRequired, .missingArgument, .general]
  | .timeout => [.timeout, .remote, .general]
  | .unavailable => [.unavailable, .remote, .general]
  | k => [k, .general]

/-- Kinds of faults. A timeout is one of the system's faults, and each kind is a general fault. -/
inductive FaultKind
  | general
  | runtime
  | value
  | timeout
  | system
  | database
  | index
  | type
  | key
  | attribute
  | recursion
  | unicode
  | openCircuit
  | missingPlugin
  | argument
  | overflow
  | markup
deriving DecidableEq, Repr

def FaultKind.label : FaultKind → String
  | .general => "Exception"
  | .runtime => "RuntimeError"
  | .value => "ValueError"
  | .timeout => "TimeoutError"
  | .system => "OSError"
  | .database => "SQLAlchemyError"
  | .index => "IndexError"
  | .type => "TypeError"
  | .key => "KeyError"
  | .attribute => "AttributeError"
  | .recursion => "RecursionError"
  | .unicode => "UnicodeDecodeError"
  | .openCircuit => "CircuitBreakerError"
  | .missingPlugin => "NoSuchModuleError"
  | .argument => "ArgumentError"
  | .overflow => "OverflowError"
  | .markup => "MarkupError"

def FaultKind.all : List FaultKind :=
  [.general, .runtime, .value, .timeout, .system, .database, .index, .type, .key, .attribute,
   .recursion, .unicode, .openCircuit, .missingPlugin, .argument, .overflow, .markup]

def FaultKind.lineage : FaultKind → List FaultKind
  | .general => [.general]
  | .timeout => [.timeout, .system, .general]
  | .recursion => [.recursion, .runtime, .general]
  | .unicode => [.unicode, .value, .general]
  | .missingPlugin => [.missingPlugin, .argument, .database, .general]
  | .argument => [.argument, .database, .general]
  | k => [k, .general]

/-- A failure with its code. A failure of the remote engine may know the fault behind it. -/
structure Failure where
  kind : FailureKind
  message : String
  cause : Option FaultKind := none
deriving DecidableEq

structure Fault where
  kind : FaultKind
  message : String
deriving DecidableEq

/-- Whatever a call may raise. -/
inductive Raised
  | failure (f : Failure)
  | fault (f : Fault)
deriving DecidableEq

def Failure.code (f : Failure) : ErrorCode :=
  f.kind.code

def Failure.status (f : Failure) : Nat :=
  f.code.status

/-- The message on a single line. -/
def Failure.safe (f : Failure) : String :=
  singleSpaced f.message

def Raised.message : Raised → String
  | .failure f => f.message
  | .fault f => f.message

def Raised.label : Raised → String
  | .failure f => f.kind.label
  | .fault f => f.kind.label

/-- The names of the kinds that a raised value belongs to, its own first. -/
def Raised.lineage : Raised → List String
  | .failure f => f.kind.lineage.map (·.label) ++ [FaultKind.general.label]
  | .fault f => f.kind.lineage.map (·.label)

def failure {α : Type} (kind : FailureKind) (message : String) : Except Raised α :=
  .error (.failure ⟨kind, message, none⟩)

def fault {α : Type} (kind : FaultKind) (message : String) : Except Raised α :=
  .error (.fault ⟨kind, message⟩)

end QueryGate
