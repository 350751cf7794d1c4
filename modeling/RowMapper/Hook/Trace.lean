import RowMapper.Hook.Context
import RowMapper.Text.Quoted

/-!
Trace events, and the hook that writes one for each statement.
-/
namespace RowMapper

inductive TraceLevel where
  | error
  | warn
  | info
  | debug
  | trace
  deriving DecidableEq, Repr, Inhabited

def TraceLevel.all : List TraceLevel := [.error, .warn, .info, .debug, .trace]

def TraceLevel.name : TraceLevel → String
  | .error => "ERROR"
  | .warn => "WARN"
  | .info => "INFO"
  | .debug => "DEBUG"
  | .trace => "TRACE"

inductive TraceValue where
  | text (s : String)
  | number (n : Nat)
  | duration (d : Duration)
  deriving DecidableEq, Repr, Inhabited

structure TraceEvent where
  level : TraceLevel
  target : String
  fields : List (String × TraceValue)
  deriving DecidableEq, Repr, Inhabited

def Kind.name : Kind → String
  | .select => "Select"
  | .insert => "Insert"
  | .update => "Update"
  | .delete => "Delete"
  | .other => "Other"

structure StatementTrace where
  level : TraceLevel
  /-- Longer statement texts are cut; none is no limit. -/
  maxSql : Option Nat
  deriving DecidableEq, Repr, Inhabited

namespace StatementTrace

def target : String := "pgmap.sql"

def clip (t : StatementTrace) (sql : String) : String :=
  match t.maxSql with
  | some limit => Text.clipMarked limit sql
  | none => sql

def fieldsText (fields : List (String × String)) : String :=
  "\x7b" ++ ", ".intercalate (fields.map fun f => Text.quoted f.1 ++ ": " ++ Text.quoted f.2) ++
    "\x7d"

def before (t : StatementTrace) (ctx : Context) : TraceEvent :=
  ⟨t.level, target,
    [("query_type", .text ctx.kind.name), ("label", .text (ctx.label.getD "-")),
      ("engine", .text ctx.engine), ("param_count", .number ctx.paramCount),
      ("sql", .text (t.clip ctx.execSql)), ("fields", .text (fieldsText ctx.fields))]⟩

/-- Only failures are written when a statement ends. -/
def after (t : StatementTrace) (ctx : Context) (duration : Duration) :
    Outcome → List TraceEvent
  | .failed reason =>
    [⟨.warn, target,
      [("message", .text "statement failed"), ("label", .text (ctx.label.getD "-")),
        ("duration", .duration duration), ("error", .text reason),
        ("sql", .text (t.clip ctx.execSql))]⟩]
  | _ => []

end StatementTrace

end RowMapper
