import RowMapper.Duration

/-!
Everything that can go wrong, with its text.
-/
namespace RowMapper

structure ServerError where
  code : String
  message : String
  constraint : Option String
  deriving DecidableEq, Repr, Inhabited

inductive ClientFault where
  | server (e : ServerError)
  | disconnected
  | parameterCount (expected got : Nat)
  | parameter (index : Nat)
  | column (index : Nat)
  | noColumn (index : Nat)
  | rowCount
  deriving DecidableEq, Repr, Inhabited

def ClientFault.message : ClientFault → String
  | .server _ => "db error"
  | .disconnected => "connection closed"
  | .parameterCount expected got =>
    "expected " ++ toString expected ++ " parameters but got " ++ toString got
  | .parameter index => "error serializing parameter " ++ toString index
  | .column index => "error deserializing column " ++ toString index
  | .noColumn index => "invalid column `" ++ toString index ++ "`"
  | .rowCount => "query returned an unexpected number of rows"

inductive Error where
  | configUnset (item : String)
  | alreadyOpen
  | closed
  | connection (reason : String)
  | pool (reason : String)
  | cacheUnset
  | labelUnset
  | noPrimaryKey (table : String)
  | invalidIds (reason : String)
  | unmappedType (typeName : String)
  | unsettable (reason : String)
  | tooManyRows (reason : String)
  | query (fault : ClientFault)
  | uniqueViolation (reason : String)
  | foreignKeyViolation (reason : String)
  | checkViolation (reason : String)
  | decode (column reason : String)
  | validation (reason : String)
  | serialization (reason : String)
  | timeout (after : Duration)
  | cancelled
  /-- A consumer or a population broke off. -/
  | panic (reason : String)
  /-- The same with an error already in flight. -/
  | panicAfter (reason : String) (before : Error)
  | other (reason : String)
  deriving DecidableEq, Repr, Inhabited

namespace Error

def message : Error → String
  | .configUnset item => "config unset: " ++ item
  | .alreadyOpen => "connection already open"
  | .closed => "connection closed"
  | .connection reason => "Connection error: " ++ reason
  | .pool reason => "Pool error: " ++ reason
  | .cacheUnset => "statement cache unset"
  | .labelUnset => "statement label unset"
  | .noPrimaryKey table => "no primary key on type `" ++ table ++ "`"
  | .invalidIds reason => "invalid ids: " ++ reason
  | .unmappedType typeName => "destination is not a mapped struct: `" ++ typeName ++ "`"
  | .unsettable reason => "field unsettable: " ++ reason
  | .tooManyRows reason => "too many rows: " ++ reason
  | .query fault => "Query error: " ++ fault.message
  | .uniqueViolation reason => "Unique constraint violation: " ++ reason
  | .foreignKeyViolation reason => "Foreign key violation: " ++ reason
  | .checkViolation reason => "Check constraint violation: " ++ reason
  | .decode column reason => "Decode error on column '" ++ column ++ "': " ++ reason
  | .validation reason => "Validation error: " ++ reason
  | .serialization reason => "Serialization error: " ++ reason
  | .timeout after => "Query timeout after " ++ after.text
  | .cancelled => "query cancelled"
  | .panic reason => "panic recovered: " ++ reason
  | .panicAfter reason _ => "panic recovered: " ++ reason
  | .other reason => reason

def kind : Error → String
  | .configUnset _ => "ConfigUnset"
  | .alreadyOpen => "ConnectionAlreadyOpen"
  | .closed => "ConnectionClosed"
  | .connection _ => "Connection"
  | .pool _ => "Pool"
  | .cacheUnset => "StatementCacheUnset"
  | .labelUnset => "StatementLabelUnset"
  | .noPrimaryKey _ => "NoPrimaryKey"
  | .invalidIds _ => "InvalidIds"
  | .unmappedType _ => "DestinationNotStruct"
  | .unsettable _ => "FieldUnsettable"
  | .tooManyRows _ => "TooManyRows"
  | .query _ => "Query"
  | .uniqueViolation _ => "UniqueViolation"
  | .foreignKeyViolation _ => "ForeignKeyViolation"
  | .checkViolation _ => "CheckViolation"
  | .decode _ _ => "Decode"
  | .validation _ => "Validation"
  | .serialization _ => "Serialization"
  | .timeout _ => "Timeout"
  | .cancelled => "Cancelled"
  | .panic _ => "Panic"
  | .panicAfter _ _ => "Panic"
  | .other _ => "Other"

def ofKind? (kind reason : String) : Option Error :=
  [configUnset reason, alreadyOpen, closed, connection reason, pool reason, cacheUnset, labelUnset,
    noPrimaryKey reason, invalidIds reason, unmappedType reason, unsettable reason,
    tooManyRows reason, uniqueViolation reason, foreignKeyViolation reason, checkViolation reason,
    validation reason, serialization reason, cancelled, panic reason, other reason].find?
      (·.kind == kind)

/-- The kind in lower case, its words joined by low lines: what an error can be asked to be. -/
def family (e : Error) : String :=
  String.ofList ((e.kind.toList.flatMap fun c =>
    if c.isUpper then ['_', c.toLower] else [c]).drop 1)

/-- The code of a server error that kept its form. -/
def sqlState? : Error → Option String
  | .query (.server e) => some e.code
  | _ => none

/-- A broken constraint becomes an error of its own, named after the constraint. -/
def ofFault : ClientFault → Error
  | .server e =>
    let reason := e.constraint.getD "unknown" ++ ": " ++ e.message
    if e.code = "23505" then .uniqueViolation reason
    else if e.code = "23503" then .foreignKeyViolation reason
    else if e.code = "23514" then .checkViolation reason
    else .query (.server e)
  | fault => .query fault

end Error

inductive PanicPayload where
  | text (s : String)
  | opaqueValue
  deriving DecidableEq, Repr, Inhabited

def PanicPayload.reason : PanicPayload → String
  | .text s => s
  | .opaqueValue => "non-string panic payload"

def Error.ofPanic (payload : PanicPayload) : Option Error → Error
  | none => .panic payload.reason
  | some before => .panicAfter payload.reason before

def Error.before? : Error → Option Error
  | .panicAfter _ before => some before
  | _ => none

end RowMapper
