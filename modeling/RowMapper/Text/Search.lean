/-!
Searching and splitting texts, on lists of characters.
-/
namespace RowMapper.Text

def hasPart (part : List Char) : List Char → Bool
  | [] => part.isEmpty
  | c :: rest => part.isPrefixOf (c :: rest) || hasPart part rest

def afterPart? (part : List Char) : List Char → Option (List Char)
  | [] => if part.isEmpty then some [] else none
  | c :: rest =>
    if part.isPrefixOf (c :: rest) then some ((c :: rest).drop part.length)
    else afterPart? part rest

def dropFront? (part : List Char) : List Char → Option (List Char) :=
  fun cs => if part.isPrefixOf cs then some (cs.drop part.length) else none

theorem dropFront?_eq_some {part cs rest : List Char} :
    dropFront? part cs = some rest ↔ cs = part ++ rest := by
  rw [dropFront?, Option.ite_none_right_eq_some, List.isPrefixOf_iff_prefix, Option.some.injEq]
  constructor
  · rintro ⟨⟨later, rfl⟩, rfl⟩
    rw [List.drop_left]
  · rintro rfl
    exact ⟨List.prefix_append part rest, List.drop_left⟩

/-- Pieces between the separators; always at least one. -/
def splitAt (sep : Char) : List Char → List (List Char)
  | [] => [[]]
  | c :: rest =>
    if c = sep then [] :: splitAt sep rest
    else match splitAt sep rest with
      | [] => [[c]]
      | piece :: more => (c :: piece) :: more

def joinWith (sep : List Char) : List (List Char) → List Char
  | [] => []
  | [piece] => piece
  | piece :: more => piece ++ sep ++ joinWith sep more

end RowMapper.Text
