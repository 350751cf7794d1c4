import RowMapper.Text.Hex
import RowMapper.Text.Search
import RowMapper.Text.Utf8

/-!
Connection strings, as a URL or as a list of `key=value` pairs. Only the database and the user are
kept; all else is checked and left.
-/
namespace RowMapper

structure Dsn where
  database : Option String
  username : Option String
  deriving DecidableEq, Repr, Inhabited

namespace Dsn

def invalid : String := "invalid connection string"

def knownKeys : List String :=
  ["user", "password", "dbname", "options", "application_name", "sslmode", "sslnegotiation", "host",
    "hostaddr", "port", "connect_timeout", "tcp_user_timeout", "keepalives", "keepalives_idle",
    "keepalives_interval", "keepalives_retries", "target_session_attrs", "channel_binding",
    "load_balance_hosts"]

/-- The number of a service at a host: empty, or a number of 16 bits. -/
def isService (cs : List Char) : Bool :=
  let digits := match cs with
    | '+' :: rest => rest
    | rest => rest
  cs.isEmpty || (!digits.isEmpty && digits.all Char.isDigit &&
    digits.foldl (fun n d => n * 10 + (d.toNat - 48)) 0 < 65536)

def set (d : Dsn) (key value : String) : Option Dsn :=
  if !knownKeys.contains key then none
  else if key = "user" then some { d with username := some value }
  else if key = "dbname" then some { d with database := some value }
  else if key = "port" then
    if (Text.splitAt ',' value.toList).all isService then some d else none
  else some d

/-- The bytes of a text in which `%` and two digits stand for a byte. -/
def percentBytes : List Char → List UInt8
  | '%' :: a :: b :: rest =>
    match Text.hexValue? a, Text.hexValue? b with
    | some x, some y => UInt8.ofNat (x * 16 + y) :: percentBytes rest
    | _, _ => '%'.toUInt8 :: percentBytes (a :: b :: rest)
  | c :: rest => String.utf8EncodeChar c ++ percentBytes rest
  | [] => []

def percentDecode? (cs : List Char) : Option String :=
  (Text.Utf8.decode (percentBytes cs)).toOption

def isStop (stops : List Char) (c : Char) : Bool := stops.contains c

def upTo (stops cs : List Char) : List Char × List Char :=
  (cs.takeWhile fun c => !isStop stops c, cs.dropWhile fun c => !isStop stops c)

def checkHost (chunk : List Char) : Bool :=
  match chunk with
  | '[' :: rest =>
    let (_, rest) := upTo [']'] rest
    match rest with
    | [] => false
    | _ :: [] => true
    | _ :: ':' :: service => isService service
    | _ => false
  | _ =>
    match upTo [':'] chunk with
    | (_, _ :: service) => isService service
    | (_, []) => true

def urlParams : Nat → List Char → Dsn → Option Dsn
  | 0, _, d => some d
  | fuel + 1, cs, d =>
    if cs.isEmpty then some d
    else match upTo ['='] cs with
      | (_, []) => none
      | (key, _ :: rest) =>
        let (value, rest) := upTo ['&'] rest
        match percentDecode? key, percentDecode? value with
        | some key, some value =>
          match d.set key value with
          | some d => urlParams fuel (rest.drop 1) d
          | none => none
        | _, _ => none

def parseUrl (cs : List Char) : Option Dsn := do
  let (user, rest) ← match upTo ['@'] cs with
    | (_, []) => some (none, cs)
    | (creds, _ :: rest) => (percentDecode? (upTo [':'] creds).1).map fun u => (some u, rest)
  let (host, rest) := upTo ['/', '?'] rest
  if !host.isEmpty && !(Text.splitAt ',' host).all checkHost then none
  else
    let (database, rest) ← match rest with
      | '/' :: path =>
        let (name, rest) := upTo ['?'] path
        if name.isEmpty then some (none, rest)
        else (percentDecode? name).map fun n => (some n, rest)
      | rest => some (none, rest)
    urlParams (rest.length + 1) (rest.drop 1) ⟨database, user⟩

def isSpace (c : Char) : Bool :=
  c = ' ' || c = '\t' || c = '\n' || c = '\r' || c.toNat = 11 || c.toNat = 12

def quotedValue : List Char → List Char → Option (String × List Char)
  | acc, '\'' :: rest => some (String.ofList acc.reverse, rest)
  | acc, '\\' :: c :: rest => quotedValue (c :: acc) rest
  | acc, c :: rest => quotedValue (c :: acc) rest
  | _, [] => none

def plainValue : List Char → List Char → Option (String × List Char)
  | acc, '\\' :: c :: rest => plainValue (c :: acc) rest
  | acc, c :: rest =>
    if isSpace c then some (String.ofList acc.reverse, c :: rest) else plainValue (c :: acc) rest
  | acc, [] => if acc.isEmpty then none else some (String.ofList acc.reverse, [])

def parsePairs : Nat → List Char → Dsn → Option Dsn
  | 0, _, d => some d
  | fuel + 1, cs, d =>
    let cs := cs.dropWhile isSpace
    let key := cs.takeWhile fun c => !isSpace c && c != '='
    if key.isEmpty then (if cs.isEmpty then some d else none)
    else
      match (cs.drop key.length).dropWhile isSpace with
      | '=' :: rest =>
        let rest := rest.dropWhile isSpace
        let value? := match rest with
          | '\'' :: rest => quotedValue [] rest
          | rest => plainValue [] rest
        match value? with
        | none => none
        | some (value, rest) =>
          match d.set (String.ofList key) value with
          | some d => parsePairs fuel rest d
          | none => none
      | _ => none

def parse? (s : String) : Option Dsn :=
  let cs := s.toList
  match Text.dropFront? "postgres://".toList cs with
  | some rest => parseUrl rest
  | none =>
    match Text.dropFront? "postgresql://".toList cs with
    | some rest => parseUrl rest
    | none => parsePairs (cs.length + 1) cs ⟨none, none⟩

end Dsn

end RowMapper
