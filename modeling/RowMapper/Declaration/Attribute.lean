import RowMapper.Declaration.Grammar.Levels

/-!
Attributes in front of a declaration or of a part of it.
-/
namespace RowMapper.Declaration

open TreeReader

inductive AttributeBody where
  | bare
  | assigned (value : List Tree)
  | listed (content : List Tree)
  deriving Repr, Inhabited

structure Attribute where
  path : String
  body : AttributeBody
  deriving Repr, Inhabited

namespace Attribute

def ofInside? (ts : List Tree) : Option Attribute :=
  (Grammar.attributePath ts).map fun (path, rest) =>
    let body := match rest with
      | [] => AttributeBody.bare
      | .group _ content :: _ => .listed content
      | _ :: value => .assigned value
    ⟨Tree.compact path, body⟩

def ofTrees : List Tree → List Attribute
  | .leaf _ :: .group .square inner :: rest => (ofInside? inner).toList ++ ofTrees rest
  | _ => []

end Attribute

end RowMapper.Declaration
