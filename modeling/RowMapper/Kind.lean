import RowMapper.Text.Blank
import RowMapper.Text.Search

/-!
The kind of a statement, read off its first keyword. White space, comments and opening parentheses
before the keyword are skipped; a comment without an end leaves nothing.
-/
namespace RowMapper

inductive Kind where
  | select
  | insert
  | update
  | delete
  | other
  deriving DecidableEq, Repr, Inhabited

namespace Kind

theorem length_afterPart? {part cs rest : List Char} (h : Text.afterPart? part cs = some rest) :
    rest.length ≤ cs.length := by
  induction cs with
  | nil =>
    simp only [Text.afterPart?] at h
    split at h <;> simp_all
  | cons c cs ih =>
    simp only [Text.afterPart?] at h
    split at h
    · simp only [Option.some.injEq] at h
      rw [← h, List.length_drop]
      omega
    · have := ih h
      simp only [List.length_cons]
      omega

def skipPiece? : List Char → Option (List Char)
  | '-' :: '-' :: rest => some ((Text.afterPart? ['\n'] rest).getD [])
  | '/' :: '*' :: rest => some ((Text.afterPart? ['*', '/'] rest).getD [])
  | '(' :: rest => some rest
  | _ => none

theorem length_skipPiece? {cs rest : List Char} (h : skipPiece? cs = some rest) :
    rest.length < cs.length := by
  have part : ∀ part cs : List Char, ((Text.afterPart? part cs).getD []).length ≤ cs.length := by
    intro part cs
    cases e : Text.afterPart? part cs with
    | none => simp
    | some r => simpa using length_afterPart? e
  unfold skipPiece? at h
  split at h <;> simp only [Option.some.injEq, reduceCtorEq] at h
  · rename_i rest
    rw [← h]
    have := part ['\n'] rest
    simp only [List.length_cons]
    omega
  · rename_i rest
    rw [← h]
    have := part ['*', '/'] rest
    simp only [List.length_cons]
    omega
  · rw [← h]
    simp

theorem length_trimStart (cs : List Char) : (Text.trimStart cs).length ≤ cs.length := by
  simpa [Text.trimStart] using (List.dropWhile_sublist Text.isBlank).length_le

def skipPieces (cs : List Char) : List Char :=
  match _h : skipPiece? (Text.trimStart cs) with
  | some rest => skipPieces rest
  | none => Text.trimStart cs
termination_by cs.length
decreasing_by
  have := length_skipPiece? _h
  have := length_trimStart cs
  omega

/-- The keyword stands at the front, in any case of its letters. -/
def startsWith (keyword : String) (cs : List Char) : Bool :=
  (cs.take keyword.length).map Char.toUpper == keyword.toList

def ofChars (cs : List Char) : Kind :=
  let cs := skipPieces cs
  if startsWith "SELECT" cs || startsWith "WITH" cs then .select
  else if startsWith "INSERT" cs then .insert
  else if startsWith "UPDATE" cs then .update
  else if startsWith "DELETE" cs then .delete
  else .other

def ofSql (sql : String) : Kind :=
  ofChars sql.toList

end Kind

end RowMapper
