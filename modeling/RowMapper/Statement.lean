import RowMapper.Columns

/-!
The statements of the record operations and their texts. A text is made of pieces, so that the
places of the bound values can be told from everything else.
-/
namespace RowMapper

inductive Piece where
  | text (s : String)
  /-- The place of a bound value, counted from one. -/
  | param (number : Nat)
  deriving DecidableEq, Repr, Inhabited

def Piece.render : Piece → String
  | .text s => s
  | .param n => "$" ++ toString n

def renderPieces (ps : List Piece) : String :=
  String.join (ps.map Piece.render)

inductive Conflict where
  | none
  | doNothing (target : List String)
  /-- With nothing to set it does nothing. -/
  | doUpdate (target set : List String)
  deriving DecidableEq, Repr, Inhabited

inductive Statement where
  | selectByKey (table : String) (columns keys : List String)
  | selectAll (table : String) (columns : List String)
  | insert (table : String) (columns : List String) (rows : Nat) (conflict : Conflict)
    (returning : List String)
  | update (table : String) (set keys : List String)
  | exists (table : String) (keys : List String)
  | delete (table : String) (keys : List String)
  | truncate (table : String)
  deriving DecidableEq, Repr, Inhabited

namespace Statement

def between (sep : String) (lists : List (List Piece)) : List Piece :=
  (lists.intersperse [.text sep]).flatten

def placesFrom (start count : Nat) : List (List Piece) :=
  (List.range' start count).map fun n => [.param n]

def tokens (start count : Nat) : List Piece :=
  between "," (placesFrom start count)

def pairsFrom (start : Nat) (names : List String) : List (List Piece) :=
  names.zipIdx.map fun (name, i) => [.text (name ++ " = "), .param (start + i)]

def keyTest (start : Nat) (keys : List String) : List Piece :=
  between " AND " (pairsFrom start keys)

def nameList (names : List String) : List Piece :=
  [.text (",".intercalate names)]

def rowPlaces (columns rows : Nat) : List (List Piece) :=
  (List.range rows).map fun row =>
    .text "(" :: tokens (1 + row * columns) columns ++ [.text ")"]

def conflictPieces : Conflict → List Piece
  | .none => []
  | .doNothing target =>
    if target.isEmpty then []
    else [.text " ON CONFLICT ("] ++ nameList target ++ [.text ") DO NOTHING"]
  | .doUpdate target set =>
    if target.isEmpty then []
    else
      [.text " ON CONFLICT ("] ++ nameList target ++
        (if set.isEmpty then [.text ") DO NOTHING"]
        else [.text ") DO UPDATE SET "] ++
          between ", " (set.map fun name => [.text (name ++ " = EXCLUDED." ++ name)]))

def selectPieces (table : String) (columns : List String) : List Piece :=
  [.text "SELECT "] ++ nameList columns ++ [.text (" FROM " ++ table)]

def pieces : Statement → List Piece
  | .selectByKey table columns keys =>
    selectPieces table columns ++ [.text " WHERE "] ++ keyTest 1 keys
  | .selectAll table columns => selectPieces table columns
  | .insert table columns rows conflict returning =>
    (if columns.isEmpty then [.text ("INSERT INTO " ++ table ++ " DEFAULT VALUES")]
      else [.text ("INSERT INTO " ++ table ++ " (")] ++ nameList columns ++ [.text ") VALUES "] ++
        between "," (rowPlaces columns.length rows)) ++
      conflictPieces conflict ++
      (if returning.isEmpty then [] else [.text " RETURNING "] ++ nameList returning)
  | .update table set keys =>
    [.text ("UPDATE " ++ table ++ " SET ")] ++ between ", " (pairsFrom 1 set) ++
      [.text " WHERE "] ++ keyTest (set.length + 1) keys
  | .exists table keys => [.text ("SELECT 1 FROM " ++ table ++ " WHERE ")] ++ keyTest 1 keys
  | .delete table keys => [.text ("DELETE FROM " ++ table ++ " WHERE ")] ++ keyTest 1 keys
  | .truncate table => [.text ("TRUNCATE " ++ table)]

def render (s : Statement) : String :=
  renderPieces s.pieces

end Statement

def paramNumbers (ps : List Piece) : List Nat :=
  ps.filterMap fun
    | .param n => some n
    | .text _ => none

def paramTokens (start count : Nat) : String :=
  renderPieces (Statement.tokens start count)

def whereText (keys : List String) (start : Nat) : String :=
  renderPieces (Statement.keyTest start keys)

end RowMapper
