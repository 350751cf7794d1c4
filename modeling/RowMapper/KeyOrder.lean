/-!
Lists of pairs in the order of their keys, one pair for each key.
-/
namespace RowMapper

variable {α : Type}

/-- Adds a pair in its place; a pair of the same key is replaced. -/
def insertByKey (key : String) (value : α) : List (String × α) → List (String × α)
  | [] => [(key, value)]
  | (k, v) :: rest =>
    if key < k then (key, value) :: (k, v) :: rest
    else if key = k then (key, value) :: rest
    else (k, v) :: insertByKey key value rest

def orderByKey (pairs : List (String × α)) : List (String × α) :=
  pairs.foldl (fun acc p => insertByKey p.1 p.2 acc) []

def valueOf? (key : String) (pairs : List (String × α)) : Option α :=
  (pairs.find? (·.1 == key)).map (·.2)

theorem valueOf?_cons (key k : String) (v : α) (rest : List (String × α)) :
    valueOf? key ((k, v) :: rest) = if k = key then some v else valueOf? key rest := by
  by_cases same : k = key <;> simp [valueOf?, same]

theorem valueOf?_insertByKey (key other : String) (value : α) (pairs : List (String × α)) :
    valueOf? other (insertByKey key value pairs) =
      if key = other then some value else valueOf? other pairs := by
  induction pairs with
  | nil => simp only [insertByKey, valueOf?_cons]
  | cons p rest ih =>
    obtain ⟨k, v⟩ := p
    simp only [insertByKey]
    split
    · simp only [valueOf?_cons]
    · split
      · rename_i same
        subst same
        simp only [valueOf?_cons]
        split <;> rfl
      · rename_i different
        simp only [valueOf?_cons, ih]
        by_cases here : key = other
        · have elsewhere : k ≠ other := fun same => different (here.trans same.symm)
          rw [if_neg elsewhere, if_pos here, if_pos here]
        · rw [if_neg here, if_neg here]

end RowMapper
