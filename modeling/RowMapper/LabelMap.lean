import RowMapper.Labels
import Std.Data.HashMap

/-!
Labels with a value each, kept in two places: a map that has the values, and a queue that has the order of their last
use. Each call has to keep the two in step. `Labels` is both in one list, and the statement cache goes by that.
-/
namespace RowMapper

structure LabelMap (α : Type) where
  /-- None is no limit. -/
  capacity : Option Nat
  map : Std.HashMap String α
  /-- The label used longest ago is in front. -/
  order : List String

namespace LabelMap

variable {α : Type}

def new (capacity : Option Nat) : LabelMap α := ⟨capacity, ∅, []⟩

def size (m : LabelMap α) : Nat := m.map.size

def touch (m : LabelMap α) (label : String) : LabelMap α :=
  match m.order.idxOf? label with
  | none => m
  | some place =>
    match m.order[place]? with
    | none => m
    | some l => { m with order := m.order.eraseIdx place ++ [l] }

def get (m : LabelMap α) (label : String) : Option α × LabelMap α :=
  match m.map[label]? with
  | none => (none, m)
  | some v => (some v, m.touch label)

/-- Takes labels from the front of the queue as long as the map is too large. Answers the values that went. -/
def evict (capacity : Nat) (evicted : List α) (map : Std.HashMap String α) :
    List String → List α × Std.HashMap String α × List String
  | [] => (evicted, map, [])
  | oldest :: order =>
    if capacity < map.size then evict capacity (evicted ++ map[oldest]?.toList) (map.erase oldest) order
    else (evicted, map, oldest :: order)

def evictIfNeeded (m : LabelMap α) : List α × LabelMap α :=
  match m.capacity with
  | none => ([], m)
  | some capacity =>
    let (evicted, map, order) := evict capacity [] m.map m.order
    (evicted, { m with map := map, order := order })

/-- Adds a label unless it is there; then its value stays. Answers the value of the label and the values that had to
make room. -/
def insertNew (m : LabelMap α) (label : String) (v : α) : (α × List α) × LabelMap α :=
  match m.map[label]? with
  | some old => ((old, []), m.touch label)
  | none =>
    let (evicted, m) := { m with map := m.map.insert label v, order := m.order ++ [label] : LabelMap α }.evictIfNeeded
    ((v, evicted), m)

def remove (m : LabelMap α) (label : String) : Option α × LabelMap α :=
  match m.map[label]? with
  | none => (none, { m with map := m.map.erase label })
  | some v => (some v, { m with map := m.map.erase label, order := m.order.filter (· != label) })

def clear (m : LabelMap α) : LabelMap α :=
  { m with map := ∅, order := [] }

end LabelMap

end RowMapper
