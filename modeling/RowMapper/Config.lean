import RowMapper.Dsn
import RowMapper.Error
import RowMapper.Text.Blank

/-!
The settings of a connection.
-/
namespace RowMapper

structure Config where
  dsn : Option String
  engine : String
  maxConnections : Nat
  cacheEnabled : Bool
  /-- The most labels that are kept; none is no limit. -/
  cacheCapacity : Option Nat
  bufferCount : Nat
  queryTimeout : Option Duration
  deriving DecidableEq, Repr, Inhabited

namespace Config

def initial : Config := ⟨none, "postgres", 16, true, none, 32, none⟩

inductive Setting where
  | dsn (s : String)
  | engine (s : String)
  | maxConnections (n : Nat)
  | capacity (n : Nat)
  | noCache
  | buffers (n : Nat)
  | timeout (d : Duration)
  deriving DecidableEq, Repr, Inhabited

def set (c : Config) : Setting → Config
  | .dsn s => { c with dsn := some s }
  | .engine s => { c with engine := s }
  | .maxConnections n => { c with maxConnections := n }
  | .capacity n => { c with cacheEnabled := true, cacheCapacity := some n }
  | .noCache => { c with cacheEnabled := false }
  | .buffers n => { c with bufferCount := n }
  | .timeout d => { c with queryTimeout := some d }

def ofSettings (settings : List Setting) : Config :=
  settings.foldl set initial

/-- The connection string without white space around it; an empty one counts as none. -/
def dsn? (c : Config) : Option String :=
  match c.dsn.map Text.trimmed with
  | some s => if s.isEmpty then none else some s
  | none => none

def parseDsn (s : String) : Except Error Dsn :=
  match Dsn.parse? s with
  | some d => .ok d
  | none => .error (.connection Dsn.invalid)

def poolSize (c : Config) : Except Error Nat :=
  match c.dsn? with
  | none => .error (.configUnset "dsn")
  | some dsn =>
    if c.maxConnections = 0 then .error (.configUnset "max_connections")
    else (parseDsn dsn).map fun _ => c.maxConnections

def poolSizeOf (dsn : String) : Except Error Nat :=
  (parseDsn dsn).map fun _ => initial.maxConnections

end Config

end RowMapper
