/-!
Labels with a value each, in the order of their last use. With a capacity, the labels used longest
ago make room for new ones.
-/
namespace RowMapper

structure Labels (α : Type) where
  capacity : Option Nat
  /-- The one used longest ago comes first. -/
  entries : List (String × α)
  deriving DecidableEq, Repr, Inhabited

namespace Labels

variable {α : Type}

def empty (capacity : Option Nat) : Labels α := ⟨capacity, []⟩

def value? (m : Labels α) (label : String) : Option α :=
  (m.entries.find? (·.1 == label)).map (·.2)

def has (m : Labels α) (label : String) : Bool :=
  m.entries.any (·.1 == label)

def size (m : Labels α) : Nat := m.entries.length

def without (m : Labels α) (label : String) : List (String × α) :=
  m.entries.filter (·.1 != label)

/-- The value of a label, which counts as a use. -/
def get (m : Labels α) (label : String) : Option α × Labels α :=
  match m.value? label with
  | some v => (some v, { m with entries := m.without label ++ [(label, v)] })
  | none => (none, m)

def excess (capacity : Option Nat) (count : Nat) : Nat :=
  match capacity with
  | some n => count - n
  | none => 0

/-- Adds a label unless it is there; then its value stays and the call counts as a use. Answers the
value of the label and the values that had to make room, the oldest first. -/
def insertNew (m : Labels α) (label : String) (v : α) : (α × List α) × Labels α :=
  match m.get label with
  | (some old, m) => ((old, []), m)
  | (none, m) =>
    let entries := m.entries ++ [(label, v)]
    let n := excess m.capacity entries.length
    ((v, (entries.take n).map (·.2)), { m with entries := entries.drop n })

def remove (m : Labels α) (label : String) : Option α × Labels α :=
  (m.value? label, { m with entries := m.without label })

def clear (m : Labels α) : Labels α :=
  { m with entries := [] }

end Labels

end RowMapper
