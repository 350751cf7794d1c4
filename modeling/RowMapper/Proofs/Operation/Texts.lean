import RowMapper.Proofs.Operation.Places

/-!
The texts of the statements, put together from names.
-/
namespace RowMapper

def pairText (sep : String) (first : Nat) (names : List String) : String :=
  sep.intercalate (names.zipIdx.map fun (name, i) => name ++ " = $" ++ toString (first + i))

def placeText (first count : Nat) : String :=
  ",".intercalate ((List.range' first count).map fun n => "$" ++ toString n)

def insertHead (table : String) (columns : List String) (rows : Nat) : String :=
  if columns.isEmpty then "INSERT INTO " ++ table ++ " DEFAULT VALUES"
  else "INSERT INTO " ++ table ++ " (" ++ ",".intercalate columns ++ ") VALUES " ++
    ",".intercalate ((List.range rows).map fun j =>
      "(" ++ placeText (1 + j * columns.length) columns.length ++ ")")

def conflictText (target set : List String) : String :=
  if target.isEmpty then ""
  else " ON CONFLICT (" ++ ",".intercalate target ++
    if set.isEmpty then ") DO NOTHING"
    else ") DO UPDATE SET " ++ ", ".intercalate (set.map fun name => name ++ " = EXCLUDED." ++ name)

def returningText (columns : List String) : String :=
  if columns.isEmpty then "" else " RETURNING " ++ ",".intercalate columns

def Conflict.target : Conflict → List String
  | .none => []
  | .doNothing target | .doUpdate target _ => target

def Conflict.set : Conflict → List String
  | .none | .doNothing _ => []
  | .doUpdate _ set => set

theorem renderPieces_nil : renderPieces [] = "" := rfl

theorem renderPieces_cons (p : Piece) (ps : List Piece) :
    renderPieces (p :: ps) = p.render ++ renderPieces ps := by
  simp [renderPieces]

theorem renderPieces_append (ps qs : List Piece) :
    renderPieces (ps ++ qs) = renderPieces ps ++ renderPieces qs := by
  simp [renderPieces]

theorem renderPieces_text (s : String) : renderPieces [.text s] = s := by
  simp [renderPieces, Piece.render]

theorem renderPieces_between (sep : String) (lists : List (List Piece)) :
    renderPieces (Statement.between sep lists) = sep.intercalate (lists.map renderPieces) := by
  induction lists with
  | nil => simp [Statement.between, renderPieces]
  | cons a rest ih =>
    cases rest with
    | nil => simp [Statement.between]
    | cons b rest =>
      rw [Statement.between_cons_cons, renderPieces_append, renderPieces_cons, ih, List.map_cons,
        List.map_cons, List.map_cons, String.intercalate_cons_cons, String.append_assoc]
      rfl

theorem renderPieces_pairsFrom (sep : String) (first : Nat) (names : List String) :
    renderPieces (Statement.between sep (Statement.pairsFrom first names)) =
      pairText sep first names := by
  have sign : " = $" = " = " ++ "$" := by decide
  rw [renderPieces_between, Statement.pairsFrom_eq, List.map_map, pairText]
  congr 2
  funext e
  simp only [Function.comp_apply, renderPieces_cons, renderPieces_nil, Piece.render, String.append_empty,
    sign, String.append_assoc]

theorem renderPieces_nameList (names : List String) :
    renderPieces (Statement.nameList names) = ",".intercalate names :=
  renderPieces_text _

theorem renderPieces_selectPieces (table : String) (columns : List String) :
    renderPieces (Statement.selectPieces table columns) =
      "SELECT " ++ ",".intercalate columns ++ " FROM " ++ table := by
  simp only [Statement.selectPieces, renderPieces_append, renderPieces_nameList, renderPieces_text,
    String.append_assoc]

theorem renderPieces_tokens (first count : Nat) :
    renderPieces (Statement.tokens first count) = placeText first count := by
  have each : renderPieces ∘ (fun n => [Piece.param n]) = fun n => "$" ++ toString n := by
    funext n
    simp only [Function.comp_apply, renderPieces_cons, renderPieces_nil, Piece.render, String.append_empty]
  rw [Statement.tokens, renderPieces_between, Statement.placesFrom, List.map_map, each, placeText]

theorem renderPieces_rowPlaces (columns rows : Nat) :
    renderPieces (Statement.between "," (Statement.rowPlaces columns rows)) =
      ",".intercalate ((List.range rows).map fun j =>
        "(" ++ placeText (1 + j * columns) columns ++ ")") := by
  rw [renderPieces_between, Statement.rowPlaces, List.map_map]
  congr 2
  funext j
  simp only [Function.comp_apply, List.cons_append, renderPieces_cons, renderPieces_append,
    renderPieces_tokens, renderPieces_nil, Piece.render, String.append_empty, String.append_assoc]

theorem renderPieces_conflictPieces (c : Conflict) :
    renderPieces (Statement.conflictPieces c) = conflictText c.target c.set := by
  cases c with
  | none => rfl
  | doNothing target =>
    simp only [Statement.conflictPieces, conflictText, Conflict.target, Conflict.set]
    cases target with
    | nil => rfl
    | cons name more =>
      simp only [List.isEmpty_cons, Bool.false_eq_true, ↓reduceIte, List.isEmpty_nil,
        renderPieces_append, renderPieces_nameList, renderPieces_text]
  | doUpdate target set =>
    have each : renderPieces ∘ (fun name => [Piece.text (name ++ " = EXCLUDED." ++ name)]) =
        fun name => name ++ " = EXCLUDED." ++ name := by
      funext name
      exact renderPieces_text _
    simp only [Statement.conflictPieces, conflictText, Conflict.target, Conflict.set]
    cases target with
    | nil => rfl
    | cons name more =>
      cases set with
      | nil =>
        simp only [List.isEmpty_cons, Bool.false_eq_true, ↓reduceIte, List.isEmpty_nil,
          renderPieces_append, renderPieces_nameList, renderPieces_text]
      | cons first others =>
        simp only [List.isEmpty_cons, Bool.false_eq_true, ↓reduceIte, renderPieces_append,
          renderPieces_nameList, renderPieces_text, renderPieces_between, List.map_map, each]

namespace Statement

theorem render_selectByKey (table : String) (columns keys : List String) :
    (selectByKey table columns keys).render =
      "SELECT " ++ ",".intercalate columns ++ " FROM " ++ table ++ " WHERE " ++
        pairText " AND " 1 keys := by
  simp only [render, pieces, keyTest, renderPieces_append, renderPieces_selectPieces,
    renderPieces_pairsFrom, renderPieces_text]

theorem render_exists (table : String) (keys : List String) :
    (Statement.exists table keys).render =
      "SELECT 1 FROM " ++ table ++ " WHERE " ++ pairText " AND " 1 keys := by
  simp only [render, pieces, keyTest, renderPieces_append, renderPieces_pairsFrom, renderPieces_text]

theorem render_delete (table : String) (keys : List String) :
    (delete table keys).render =
      "DELETE FROM " ++ table ++ " WHERE " ++ pairText " AND " 1 keys := by
  simp only [render, pieces, keyTest, renderPieces_append, renderPieces_pairsFrom, renderPieces_text]

theorem render_update (table : String) (set keys : List String) :
    (update table set keys).render =
      "UPDATE " ++ table ++ " SET " ++ pairText ", " 1 set ++ " WHERE " ++
        pairText " AND " (set.length + 1) keys := by
  simp only [render, pieces, keyTest, renderPieces_append, renderPieces_pairsFrom, renderPieces_text]

theorem render_insert (table : String) (columns : List String) (rows : Nat) (conflict : Conflict)
    (returning : List String) :
    (insert table columns rows conflict returning).render =
      insertHead table columns rows ++ conflictText conflict.target conflict.set ++
        returningText returning := by
  have asked : renderPieces (if returning.isEmpty then [] else
      [.text " RETURNING "] ++ nameList returning) = returningText returning := by
    rw [returningText]
    split
    · rfl
    · simp only [renderPieces_append, renderPieces_nameList, renderPieces_text]
  have head : renderPieces (if columns.isEmpty then [.text ("INSERT INTO " ++ table ++ " DEFAULT VALUES")]
      else [.text ("INSERT INTO " ++ table ++ " (")] ++ nameList columns ++ [.text ") VALUES "] ++
        between "," (rowPlaces columns.length rows)) = insertHead table columns rows := by
    rw [insertHead]
    split
    · exact renderPieces_text _
    · simp only [renderPieces_append, renderPieces_nameList, renderPieces_text, renderPieces_rowPlaces]
  rw [render, pieces, renderPieces_append, renderPieces_append, head, renderPieces_conflictPieces, asked]

end Statement

end RowMapper
