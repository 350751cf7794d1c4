import RowMapper.Duration
import RowMapper.Kind
import RowMapper.KeyOrder
import RowMapper.Text.Clip

/-!
What a hook sees of a statement, what it may answer, and how a statement ends.
-/
namespace RowMapper

structure Context where
  /-- The text as it was generated. -/
  canonicalSql : String
  /-- The text that is sent. -/
  execSql : String
  paramCount : Nat
  kind : Kind
  label : Option String
  engine : String
  database : Option String
  username : Option String
  fields : List (String × String)
  deriving DecidableEq, Repr, Inhabited

namespace Context

def ofSql (sql : String) (paramCount : Nat) (engine : String) : Context :=
  { canonicalSql := sql, execSql := sql, paramCount := paramCount, kind := Kind.ofSql sql
    label := none, engine := engine, database := none, username := none, fields := [] }

def addField (ctx : Context) (key value : String) : Context :=
  { ctx with fields := insertByKey key value ctx.fields }

/-- Takes new texts; the kind is read again from the canonical one. -/
def withTexts (ctx : Context) (execSql : String) (canonicalSql : Option String) : Context :=
  let canonical := canonicalSql.getD ctx.canonicalSql
  { ctx with execSql := execSql, canonicalSql := canonical, kind := Kind.ofSql canonical }

end Context

inductive Action where
  | proceed
  | modify (execSql : String) (canonicalSql : Option String)
  | abort (reason : String)
  deriving DecidableEq, Repr, Inhabited

def Action.apply (ctx : Context) : Action → Except String Context
  | .proceed => .ok ctx
  | .modify execSql canonicalSql => .ok (ctx.withTexts execSql canonicalSql)
  | .abort reason => .error reason

inductive Outcome where
  | rows (count : Nat)
  | affected (count : Nat)
  | failed (reason : String)
  deriving DecidableEq, Repr, Inhabited

namespace Outcome

/-- Longer failure texts are cut. -/
def maxReason : Nat := 512

def ofReason (reason : String) : Outcome :=
  .failed (Text.clipMarked maxReason reason)

def isFailed : Outcome → Bool
  | .failed _ => true
  | _ => false

def text : Outcome → String
  | .rows n => toString n ++ " rows"
  | .affected n => toString n ++ " affected"
  | .failed reason => "error: " ++ reason

end Outcome

end RowMapper
