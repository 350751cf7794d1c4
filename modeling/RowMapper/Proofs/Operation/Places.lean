import RowMapper.Statement

/-!
The places of the bound values among the pieces of a statement. They are numbered from one on, without a
gap and in the order of the text.
-/
namespace RowMapper

theorem paramNumbers_append (ps qs : List Piece) :
    paramNumbers (ps ++ qs) = paramNumbers ps ++ paramNumbers qs :=
  List.filterMap_append

theorem paramNumbers_nil : paramNumbers [] = [] := rfl

theorem paramNumbers_text (s : String) (ps : List Piece) :
    paramNumbers (.text s :: ps) = paramNumbers ps := rfl

theorem paramNumbers_param (n : Nat) (ps : List Piece) :
    paramNumbers (.param n :: ps) = n :: paramNumbers ps := rfl

namespace Statement

theorem between_cons_cons (sep : String) (a b : List Piece) (rest : List (List Piece)) :
    between sep (a :: b :: rest) = a ++ .text sep :: between sep (b :: rest) := by
  simp [between]

theorem paramNumbers_between (sep : String) (lists : List (List Piece)) :
    paramNumbers (between sep lists) = (lists.map paramNumbers).flatten := by
  induction lists with
  | nil => rfl
  | cons a rest ih =>
    cases rest with
    | nil => simp [between]
    | cons b rest =>
      rw [between_cons_cons, paramNumbers_append, paramNumbers_text, ih]
      rfl

theorem paramNumbers_tokens (start count : Nat) :
    paramNumbers (tokens start count) = List.range' start count := by
  rw [tokens, paramNumbers_between, placesFrom, List.map_map]
  induction count generalizing start with
  | zero => rfl
  | succ count ih => simpa [List.range'_succ, paramNumbers] using ih (start + 1)

theorem pairsFrom_eq (start : Nat) (names : List String) :
    pairsFrom start names =
      names.zipIdx.map fun e => [.text (e.1 ++ " = "), .param (start + e.2)] := rfl

theorem pairsFrom_cons (start : Nat) (name : String) (rest : List String) :
    pairsFrom start (name :: rest) =
      [.text (name ++ " = "), .param start] :: pairsFrom (start + 1) rest := by
  rw [pairsFrom_eq, pairsFrom_eq, List.zipIdx_cons, List.map_cons, Nat.zero_add, List.zipIdx_succ,
    List.map_map]
  congr 2
  funext e
  simp only [Function.comp_apply]
  rw [Nat.add_assoc, Nat.add_comm 1]

theorem paramNumbers_pairsFrom (sep : String) (start : Nat) (names : List String) :
    paramNumbers (between sep (pairsFrom start names)) = List.range' start names.length := by
  rw [paramNumbers_between]
  induction names generalizing start with
  | nil => rfl
  | cons name rest ih =>
    rw [pairsFrom_cons, List.map_cons, List.flatten_cons, ih, List.length_cons, List.range'_succ]
    rfl

theorem paramNumbers_rowPlaces (columns rows : Nat) :
    paramNumbers (between "," (rowPlaces columns rows)) = List.range' 1 (rows * columns) := by
  rw [paramNumbers_between, rowPlaces, List.map_map]
  have row (r : Nat) : (paramNumbers ∘ fun row =>
      .text "(" :: tokens (1 + row * columns) columns ++ [.text ")"]) r =
        List.range' (1 + r * columns) columns := by
    simp only [Function.comp_apply, List.cons_append, paramNumbers_text, paramNumbers_append,
      paramNumbers_tokens]
    exact List.append_nil _
  rw [funext row]
  induction rows with
  | zero => simp
  | succ rows ih =>
    rw [List.range_succ, List.map_append, List.flatten_append, ih, Nat.succ_mul,
      List.range'_append_1.symm]
    simp

theorem paramNumbers_conflictPieces (conflict : Conflict) :
    paramNumbers (conflictPieces conflict) = [] := by
  cases conflict with
  | none => rfl
  | doNothing target =>
    simp only [conflictPieces]
    split <;> rfl
  | doUpdate target set =>
    simp only [conflictPieces]
    split
    · rfl
    · split
      · rfl
      · have none_there : (set.map fun name => [Piece.text (name ++ " = EXCLUDED." ++ name)]).map
            paramNumbers = set.map fun _ => [] := by
          rw [List.map_map]
          rfl
        simp only [nameList, List.cons_append, List.nil_append, paramNumbers_text,
          paramNumbers_between, none_there]
        simp

def arity : Statement → Nat
  | .selectByKey _ _ keys => keys.length
  | .selectAll _ _ => 0
  | .insert _ columns rows _ _ => rows * columns.length
  | .update _ set keys => set.length + keys.length
  | .exists _ keys => keys.length
  | .delete _ keys => keys.length
  | .truncate _ => 0

theorem paramNumbers_pieces (s : Statement) : paramNumbers s.pieces = List.range' 1 s.arity := by
  cases s with
  | selectByKey table columns keys =>
    simp only [pieces, selectPieces, nameList, keyTest, List.cons_append, List.nil_append,
      paramNumbers_text, paramNumbers_pairsFrom, arity]
  | selectAll table columns => rfl
  | insert table columns rows conflict returning =>
    have asked : paramNumbers (if returning.isEmpty then []
        else [Piece.text " RETURNING "] ++ nameList returning) = [] := by
      split <;> rfl
    simp only [pieces, paramNumbers_append, paramNumbers_conflictPieces, asked, List.append_nil, arity]
    split
    · rename_i empty
      rw [List.isEmpty_iff.mp empty]
      rfl
    · simp only [nameList, List.cons_append, List.nil_append, paramNumbers_text,
        paramNumbers_rowPlaces]
  | update table set keys =>
    simp only [pieces, keyTest, List.cons_append, List.nil_append, paramNumbers_append,
      paramNumbers_text, paramNumbers_nil, paramNumbers_pairsFrom, List.append_nil, arity]
    rw [Nat.add_comm set.length 1, List.range'_append_1]
  | «exists» table keys =>
    simp only [pieces, keyTest, List.cons_append, List.nil_append, paramNumbers_text,
      paramNumbers_pairsFrom, arity]
  | delete table keys =>
    simp only [pieces, keyTest, List.cons_append, List.nil_append, paramNumbers_text,
      paramNumbers_pairsFrom, arity]
  | truncate table => rfl

end Statement

end RowMapper
