import RowMapper.Declaration.Attribute
import RowMapper.Record

/-!
The `db` attributes of a declaration: settings of the whole type, and the tag of a field. What comes
last wins.
-/
namespace RowMapper.Declaration

inductive Fault where
  | notStructure
  | unnamedFields
  | withoutArguments
  | assigned
  /-- With the keyword that stands there, if one does. -/
  | nameExpected (keyword : Option String)
  | unknownSetting
  | markExpected (c : Char)
  | textExpected (atEnd : Bool)
  | unexpectedToken
  deriving DecidableEq, Repr, Inhabited

def Fault.message : Fault → String
  | .notStructure => "DatabaseMapped can only be derived for structs"
  | .unnamedFields => "DatabaseMapped can only be derived for structs with named fields"
  | .withoutArguments => "expected attribute arguments in parentheses: #[db(...)]"
  | .assigned => "expected parentheses: #[db(...)]"
  | .nameExpected none => "expected identifier"
  | .nameExpected (some keyword) => "expected identifier, found keyword `" ++ keyword ++ "`"
  | .unknownSetting => "expected `table = \"...\"`, `cache_key = \"...\"` or `populatable`"
  | .markExpected c => "expected `" ++ String.singleton c ++ "`"
  | .textExpected false => "expected string literal"
  | .textExpected true => "unexpected end of input, expected string literal"
  | .unexpectedToken => "unexpected token"

namespace Attribute

def isMapping (a : Attribute) : Bool := a.path == "db"

def content (a : Attribute) : Except Fault (List Tree) :=
  match a.body with
  | .bare => .error .withoutArguments
  | .assigned _ => .error .assigned
  | .listed content => .ok content

end Attribute

/-! ### Settings -/

inductive Setting where
  | table (name : String)
  | cacheKey (key : String)
  | populatable
  deriving DecidableEq, Repr, Inhabited

namespace Setting

def ofText? (name value : String) : Option Setting :=
  if name = "table" then some (.table value)
  else if name = "cache_key" then some (.cacheKey value)
  else none

/-- What a list of settings starts with if it does not start with one of the three names. -/
def faultAt : Tree → Fault
  | .leaf (.word name raw) =>
    if (Token.word name raw).isName then .unknownSetting else .nameExpected (some name)
  | _ => .nameExpected none

/-- Settings with commas between them; a comma may come last. -/
def readAll : List Tree → Except Fault (List Setting)
  | [] => .ok []
  | .leaf (.word "populatable" false) :: rest =>
    match rest with
    | [] => .ok [.populatable]
    | .leaf (.mark ',' _) :: more => (readAll more).map (.populatable :: ·)
    | _ => .error (.markExpected ',')
  | .leaf (.word name false) :: rest =>
    if (ofText? name "").isNone then .error (faultAt (.leaf (.word name false)))
    else match rest with
      | .leaf (.mark '=' _) :: .leaf (.text value _) :: [] => .ok (ofText? name value).toList
      | .leaf (.mark '=' _) :: .leaf (.text value _) :: .leaf (.mark ',' _) :: more =>
        (readAll more).map ((ofText? name value).toList ++ ·)
      | .leaf (.mark '=' _) :: .leaf (.text _ _) :: _ => .error (.markExpected ',')
      | .leaf (.mark '=' _) :: rest => .error (.textExpected rest.isEmpty)
      | _ => .error (.markExpected '=')
  | t :: _ => .error (faultAt t)

end Setting

structure Options where
  table : Option String
  cacheKey : Option String
  populatable : Bool
  deriving DecidableEq, Repr, Inhabited

namespace Options

def none : Options := ⟨.none, .none, false⟩

def set (o : Options) : Setting → Options
  | .table name => { o with table := some name }
  | .cacheKey key => { o with cacheKey := some key }
  | .populatable => { o with populatable := true }

def ofSettings (settings : List Setting) : Options := settings.foldl set none

def merge (first second : Options) : Options :=
  { table := second.table.or first.table
    cacheKey := second.cacheKey.or first.cacheKey
    populatable := first.populatable || second.populatable }

def ofAttribute (a : Attribute) : Except Fault Options :=
  match a.content with
  | .error f => .error f
  | .ok content => (Setting.readAll content).map ofSettings

def ofAttributesAfter (before : Options) : List Attribute → Except Fault Options
  | [] => .ok before
  | a :: rest =>
    if a.isMapping then
      match ofAttribute a with
      | .error f => .error f
      | .ok o => ofAttributesAfter (before.merge o) rest
    else ofAttributesAfter before rest

def ofAttributes : List Attribute → Except Fault Options := ofAttributesAfter none

end Options

/-! ### Tags -/

def readTag : List Tree → Except Fault String
  | [] => .error (.textExpected true)
  | [.leaf (.text value _)] => .ok value
  | .leaf (.text _ _) :: _ => .error .unexpectedToken
  | _ => .error (.textExpected false)

def tagAfter (before : String) : List Attribute → Except Fault String
  | [] => .ok before
  | a :: rest =>
    if a.isMapping then
      match a.content with
      | .error f => .error f
      | .ok content =>
        match readTag content with
        | .error f => .error f
        | .ok tag => tagAfter tag rest
    else tagAfter before rest

def tagOf : List Attribute → Except Fault String := tagAfter ""

end RowMapper.Declaration

namespace RowMapper

/-- What a tag alone says about the access to its field. -/
def Role.ofTag (tag : List Char) : Role :=
  let tag := Text.trim tag
  if tag = ['-'] then .skipped
  else
    let flags := Text.lower (Text.joinWith [','] ((Text.splitAt ',' tag).drop 1))
    if Text.hasPart "inline".toList flags then .inlined
    else if Text.hasPart "json".toList flags then .json
    else .plain

end RowMapper
