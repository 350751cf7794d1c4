/-!
The column types of the database that values can be sent as.
-/
namespace RowMapper

inductive WireType where
  | bool
  | bytea
  | int2
  | int4
  | int8
  | float8
  | text
  | varchar
  | bpchar
  | name
  | unknown
  | json
  | jsonb
  | uuid
  deriving DecidableEq, Repr, Inhabited

namespace WireType

def all : List WireType :=
  [.bool, .bytea, .int2, .int4, .int8, .float8, .text, .varchar, .bpchar, .name, .unknown, .json,
    .jsonb, .uuid]

def label : WireType → String
  | .bool => "bool"
  | .bytea => "bytea"
  | .int2 => "int2"
  | .int4 => "int4"
  | .int8 => "int8"
  | .float8 => "float8"
  | .text => "text"
  | .varchar => "varchar"
  | .bpchar => "bpchar"
  | .name => "name"
  | .unknown => "unknown"
  | .json => "json"
  | .jsonb => "jsonb"
  | .uuid => "uuid"

def ofLabel? (s : String) : Option WireType :=
  all.find? fun t => t.label == s

def isText : WireType → Bool
  | .text | .varchar | .bpchar | .name | .unknown => true
  | _ => false

end WireType

end RowMapper
