import Mathlib.Data.List.Forall2
import RowMapper.Proofs.Record.Leaves

/-!
The columns of a type are those of its leaves.
-/
namespace RowMapper

def pathBefore : List Parent → List Nat
  | p :: _ => p.path
  | [] => []

/-- The column of a leaf: its path goes on from the given one, and it is flagged as a document when the
accessors treat the field as one. -/
structure Column.IsOf (before : List Nat) (c : Column) (l : List Nat × Field) : Prop where
  path : c.path = before ++ l.1
  fieldName : c.fieldName = l.2.name
  index : c.index = l.2.index
  json : c.flags.json = true ↔ l.2.role = .json

def Field.columnName (f : Field) : String :=
  ((Tag.parse? f.tag.toList).bind (·.columnName)).getD (Text.lowered f.name)

def Field.asParent (f : Field) (table : String) (before : List Nat) : Parent :=
  ⟨f.name, f.columnName, table, before ++ [f.index]⟩

namespace Column

variable (table : String) (parents : List Parent) {f : Field}

theorem ofTree_skipped (role : f.role = .skipped) : ofTree table parents f = [] := by
  cases f with
  | mk index name tag typeText holding nested =>
    cases parsed : Tag.parse? tag.toList with
    | none =>
      rw [ofTree]
      simp [ofField?, Field.tag, parsed]
    | some t =>
      simp only [Field.role, Field.tag, parsed] at role
      split at role
      · cases role
      · split at role <;> cases role

theorem ofTree_asParent {name : String} {inner : List Field} (role : f.role = .inlined)
    (nested : f.nested = some (name, inner)) :
    ofTree table parents f = flatten table (f.asParent table (pathBefore parents) :: parents) inner := by
  cases f with
  | mk index fieldName tag typeText holding below =>
    obtain rfl : below = some (name, inner) := nested
    cases parsed : Tag.parse? tag.toList with
    | none => simp [Field.role, Field.tag, parsed] at role
    | some t =>
      have inlined : t.flags.inlined = true := by
        simp only [Field.role, Field.tag, parsed] at role
        split at role
        · rename_i both
          exact (Bool.and_eq_true_iff.mp both).1
        · split at role <;> cases role
      rw [ofTree]
      simp only [ofField?, Field.tag, parsed, Option.map_some, placed, inlined, if_true, Field.asParent,
        Field.columnName, Option.bind_some]
      cases parents <;> rfl

theorem ofTree_inlined {name : String} {inner : List Field} (role : f.role = .inlined)
    (nested : f.nested = some (name, inner)) :
    ∃ p : Parent, pathBefore (p :: parents) = pathBefore parents ++ [f.index] ∧
      ofTree table parents f = flatten table (p :: parents) inner :=
  ⟨_, rfl, ofTree_asParent table parents role nested⟩

theorem alone_of_leaf (leaf : f.IsLeaf) {t : Tag} (parsed : Tag.parse? f.tag.toList = some t) :
    (t.flags.inlined && f.nested.isSome) = false := by
  cases both : t.flags.inlined && f.nested.isSome with
  | false => rfl
  | true =>
    have role : f.role = .inlined := by simp only [Field.role, parsed, both, if_true]
    exact absurd role leaf.not_inlined

/-- A leaf has the column of the field on its own, put in its place. -/
theorem ofTree_placed (leaf : f.IsLeaf) :
    ∃ c, ofField? f = some c ∧ ofTree table parents f = [c.placed table parents] := by
  cases f with
  | mk index name tag typeText holding nested =>
    cases parsed : Tag.parse? tag.toList with
    | none => simp [Field.IsLeaf, Field.role, Field.tag, parsed] at leaf
    | some t =>
      have alone := alone_of_leaf leaf parsed
      refine ⟨_, by rw [ofField?, Field.tag, parsed, Option.map_some], ?_⟩
      rw [ofTree]
      simp only [ofField?, Field.tag, parsed, Option.map_some]
      cases nested with
      | none => rfl
      | some n =>
        rw [Field.nested, Option.isSome_some, Bool.and_true] at alone
        have kept : ¬t.flags.inlined = true := by simp [alone]
        exact if_neg kept

theorem ofTree_leaf (leaf : f.IsLeaf) :
    ∃ c, ofTree table parents f = [c] ∧ c.IsOf (pathBefore parents) ([f.index], f) := by
  obtain ⟨c, own, columns⟩ := ofTree_placed table parents leaf
  obtain ⟨t, parsed, rfl⟩ := Option.map_eq_some_iff.mp own
  have json : t.flags.json = true ↔ f.role = .json := by
    simp only [Field.role, parsed, alone_of_leaf leaf parsed]
    cases t.flags.json <;> simp
  exact ⟨_, columns, by cases parents <;> rfl, rfl, rfl, json⟩

theorem flatten_leaves {fields : List Field} (numbered : Numbered fields) (table : String)
    (parents : List Parent) :
    List.Forall₂ (IsOf (pathBefore parents)) (flatten table parents fields) (leaves fields) := by
  induction numbered generalizing parents with
  | nil => simp [flatten, leaves]
  | @cons f fields _ _ _ ih_below ih =>
    rw [flatten, leaves]
    refine List.rel_append ?_ (ih parents)
    cases role : f.role with
    | skipped =>
      rw [ofTree_skipped table parents role, Field.ownLeaves_skipped role]
      exact .nil
    | inlined =>
      obtain ⟨name, inner, nested⟩ := Field.nested_of_inlined role
      obtain ⟨p, path, columns⟩ := ofTree_inlined table parents role nested
      rw [columns, Field.ownLeaves_inlined role nested, List.forall₂_map_right_iff]
      refine (ih_below name inner nested (p :: parents)).imp fun c l h => ?_
      exact ⟨by rw [h.path, path, List.append_assoc]; rfl, h.fieldName, h.index, h.json⟩
    | plain =>
      obtain ⟨c, columns, isOf⟩ := ofTree_leaf table parents (.inl role)
      rw [columns, Field.ownLeaves_leaf (.inl role)]
      exact .cons isOf .nil
    | json =>
      obtain ⟨c, columns, isOf⟩ := ofTree_leaf table parents (.inr role)
      rw [columns, Field.ownLeaves_leaf (.inr role)]
      exact .cons isOf .nil

theorem paths_flatten {fields : List Field} (numbered : Numbered fields) (table : String) :
    (flatten table [] fields).map (·.path) = (leaves fields).map (·.1) := by
  have same := (flatten_leaves numbered table []).imp fun _ _ h => h.path
  rw [← List.forall₂_eq_eq_eq, List.forall₂_map_left_iff, List.forall₂_map_right_iff]
  exact same

theorem exists_leaf {fields : List Field} (numbered : Numbered fields) {table : String} {c : Column}
    (h : c ∈ flatten table [] fields) : ∃ l ∈ leaves fields, c.IsOf [] l := by
  obtain ⟨length, each⟩ := List.forall₂_iff_get.mp (flatten_leaves numbered table [])
  obtain ⟨i, hi, rfl⟩ := List.getElem_of_mem h
  exact ⟨_, List.getElem_mem (length ▸ hi), each i hi (length ▸ hi)⟩

theorem exists_column {fields : List Field} (numbered : Numbered fields) {l : List Nat × Field}
    (h : l ∈ leaves fields) (table : String) : ∃ c ∈ flatten table [] fields, c.IsOf [] l := by
  obtain ⟨length, each⟩ := List.forall₂_iff_get.mp (flatten_leaves numbered table [])
  obtain ⟨i, hi, rfl⟩ := List.getElem_of_mem h
  exact ⟨_, List.getElem_mem (length ▸ hi), each i (length ▸ hi) hi⟩

end Column

end RowMapper
