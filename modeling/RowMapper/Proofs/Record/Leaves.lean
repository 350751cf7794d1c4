import RowMapper.Mapped
import RowMapper.Proofs.Values.Codecs

/-!
The leaves of a record type: the fields that are read and written, each with its path. The columns of the
type are those of its leaves, in order, and a path leads to a leaf or nowhere.
-/
namespace RowMapper

namespace Field

variable {f : Field}

def IsLeaf (f : Field) : Prop := f.role = .plain ∨ f.role = .json

theorem IsLeaf.not_inlined (h : f.IsLeaf) : f.role ≠ .inlined := by
  intro role
  rcases h with known | known <;> cases role.symm.trans known

theorem IsLeaf.not_skipped (h : f.IsLeaf) : f.role ≠ .skipped := by
  intro role
  rcases h with known | known <;> cases role.symm.trans known

/-- The role of a field does not depend on what is below it. -/
theorem role_below (index : Nat) (name tag typeText : String) (holding : Holding)
    (nested : Option (String × List Field)) :
    (Field.mk index name tag typeText holding (nested.map fun n => (n.1, []))).role =
      (Field.mk index name tag typeText holding nested).role := by
  cases nested <;> rfl

theorem nested_of_inlined (h : f.role = .inlined) : ∃ name inner, f.nested = some (name, inner) := by
  cases nested : f.nested with
  | some n => exact ⟨n.1, n.2, rfl⟩
  | none =>
    simp only [role, nested, Option.isSome_none, Bool.and_false, Bool.false_eq_true, if_false] at h
    split at h
    · cases h
    · split at h <;> cases h

theorem matchesPath_other {i : Nat} (other : i ≠ f.index) (rest : List Nat) :
    f.matchesPath (i :: rest) = false := by
  simp only [matchesPath]
  split <;> simp [other]

theorem matchesPath_leaf (leaf : f.IsLeaf) : f.matchesPath [f.index] = true := by
  rcases leaf with role | role <;> simp [matchesPath, role]

theorem matchesPath_inlined (role : f.role = .inlined) (rest : List Nat) :
    f.matchesPath (f.index :: rest) = true := by
  simp [matchesPath, role]

theorem matchesPath_skipped (role : f.role = .skipped) (path : List Nat) :
    f.matchesPath path = false := by
  cases path <;> simp [matchesPath, role]

theorem path_of_matches {path : List Nat} (enters : f.matchesPath path = true) :
    ∃ rest, path = f.index :: rest := by
  cases path with
  | nil => cases enters
  | cons i rest =>
    by_cases same : i = f.index
    · exact ⟨rest, by rw [same]⟩
    · rw [matchesPath_other same] at enters
      cases enters

theorem path_of_matches_leaf {path : List Nat} (leaf : f.IsLeaf) (enters : f.matchesPath path = true) :
    path = [f.index] := by
  obtain ⟨rest, rfl⟩ := path_of_matches enters
  rcases leaf with role | role <;> simpa [matchesPath, role] using enters

end Field

/-! ### Leaves -/

mutual
def leaves : List Field → List (List Nat × Field)
  | [] => []
  | f :: rest => f.ownLeaves ++ leaves rest

def Field.ownLeaves : Field → List (List Nat × Field)
  | .mk index name tag typeText holding nested =>
    match (Field.mk index name tag typeText holding (nested.map fun n => (n.1, []))).role, nested with
    | .inlined, some (_, inner) => (leaves inner).map fun l => (index :: l.1, l.2)
    | .skipped, _ => []
    | _, _ => [([index], .mk index name tag typeText holding nested)]
end

theorem Field.ownLeaves_inlined {f : Field} {name : String} {inner : List Field}
    (role : f.role = .inlined) (nested : f.nested = some (name, inner)) :
    f.ownLeaves = (leaves inner).map fun l => (f.index :: l.1, l.2) := by
  cases f with
  | mk index fieldName tag typeText holding below =>
    obtain rfl : below = some (name, inner) := nested
    rw [ownLeaves.eq_def]
    dsimp only
    rw [role_below, role]
    rfl

theorem Field.ownLeaves_skipped {f : Field} (role : f.role = .skipped) : f.ownLeaves = [] := by
  cases f with
  | mk index fieldName tag typeText holding below =>
    rw [ownLeaves.eq_def]
    dsimp only
    rw [role_below, role]

theorem Field.ownLeaves_leaf {f : Field} (leaf : f.IsLeaf) : f.ownLeaves = [([f.index], f)] := by
  cases f with
  | mk index fieldName tag typeText holding below =>
    rw [ownLeaves.eq_def]
    dsimp only
    rw [role_below]
    rcases leaf with role | role <;> rw [role] <;> rfl

inductive Numbered : List Field → Prop where
  | nil : Numbered []
  | cons {f : Field} {fields : List Field} (new : f.index ∉ fields.map Field.index)
    (below : ∀ name inner, f.nested = some (name, inner) → Numbered inner) (rest : Numbered fields) :
    Numbered (f :: fields)

theorem Numbered.tail {f : Field} {fields : List Field} (h : Numbered (f :: fields)) :
    Numbered fields := by
  cases h
  assumption

theorem Numbered.inside {f : Field} {name : String} {inner fields : List Field}
    (h : Numbered (f :: fields)) (nested : f.nested = some (name, inner)) : Numbered inner := by
  obtain _ | ⟨_, below, _⟩ := h
  exact below name inner nested

/-- A record has for each field what its role asks for: a value of its type, a document, or a record that
fits in turn. -/
inductive Fits : List Field → Record → Prop where
  | nil : Fits [] []
  | plain {f : Field} {type : HostType} {v : Value} {fields : List Field} {slots : Record}
    (role : f.role = .plain) (holding : f.holding = .plain type) (has : type.has v = true)
    (rest : Fits fields slots) : Fits (f :: fields) (.plain v :: slots)
  | json {f : Field} {form : Json.Form} {d : Json.Document} {fields : List Field} {slots : Record}
    (role : f.role = .json) (holding : f.holding = .document form) (rest : Fits fields slots) :
    Fits (f :: fields) (.document d :: slots)
  | inlined {f : Field} {name : String} {inner : List Field} {within : Record} {fields : List Field}
    {slots : Record} (role : f.role = .inlined) (nested : f.nested = some (name, inner))
    (below : Fits inner within) (rest : Fits fields slots) :
    Fits (f :: fields) (.record within :: slots)
  | skipped {f : Field} {s : Slot} {fields : List Field} {slots : Record} (role : f.role = .skipped)
    (rest : Fits fields slots) : Fits (f :: fields) (s :: slots)

inductive LeafFits : Field × Slot → Prop where
  | plain {f : Field} {type : HostType} {v : Value} (role : f.role = .plain)
    (holding : f.holding = .plain type) (has : type.has v = true) : LeafFits (f, .plain v)
  | json {f : Field} {form : Json.Form} {d : Json.Document} (role : f.role = .json)
    (holding : f.holding = .document form) : LeafFits (f, .document d)

/-! ### Paths -/

section
variable {f : Field} {s : Slot} {fields : List Field} {slots : Record} {typeName : String}
  {path : List Nat}

theorem leafAt_pass (pass : f.matchesPath path = false) :
    leafAt typeName path (f :: fields) (s :: slots) = leafAt typeName path fields slots := by
  cases path with
  | nil => rfl
  | cons i rest =>
    rw [leafAt, leafAt, enter?, pass]
    rfl

theorem leafAt_leaf (leaf : f.IsLeaf) :
    leafAt typeName [f.index] (f :: fields) (s :: slots) = .ok (f, s) := by
  rw [leafAt, enter?, Field.matchesPath_leaf leaf]
  rcases leaf with role | role <;> simp [role]

theorem leafAt_inlined {name : String} {inner : List Field} {within : Record}
    (role : f.role = .inlined) (nested : f.nested = some (name, inner)) (rest : List Nat) :
    leafAt typeName (f.index :: rest) (f :: fields) (.record within :: slots) =
      leafAt name rest inner within := by
  rw [leafAt, enter?, Field.matchesPath_inlined role]
  simp [role, nested]

theorem setLeaf_pass (new : Slot) (pass : f.matchesPath path = false) :
    setLeaf new path (f :: fields) (s :: slots) = s :: setLeaf new path fields slots := by
  cases path with
  | nil => rfl
  | cons i rest =>
    rw [setLeaf, setLeaf, enter?, pass]
    cases enter? (i :: rest) fields slots with
    | none => simp
    | some e =>
      simp only [Bool.false_eq_true, if_false]
      split <;> simp [replaceEntered, pass]

theorem setLeaf_leaf (new : Slot) (leaf : f.IsLeaf) :
    setLeaf new [f.index] (f :: fields) (s :: slots) = new :: slots := by
  have enters := Field.matchesPath_leaf leaf
  rw [setLeaf, enter?, enters]
  rcases leaf with role | role <;> simp [role, replaceEntered, enters]

theorem setLeaf_inlined (new : Slot) {name : String} {inner : List Field} {within : Record}
    (role : f.role = .inlined) (nested : f.nested = some (name, inner)) (rest : List Nat) :
    setLeaf new (f.index :: rest) (f :: fields) (.record within :: slots) =
      .record (setLeaf new rest inner within) :: slots := by
  rw [setLeaf, enter?, Field.matchesPath_inlined role]
  simp [role, nested, replaceEntered, Field.matchesPath_inlined]

end

/-- How a path reaches a leaf: it passes fields by, goes on below an inlined one, and ends. -/
inductive Reaches : List Nat → List Field → Record → Field × Slot → Prop where
  | here {f : Field} {s : Slot} {fields : List Field} {slots : Record} (leaf : f.IsLeaf) :
    Reaches [f.index] (f :: fields) (s :: slots) (f, s)
  | inside {f : Field} {name : String} {inner : List Field} {within : Record} {rest : List Nat}
    {fields : List Field} {slots : Record} {leaf : Field × Slot} (role : f.role = .inlined)
    (nested : f.nested = some (name, inner)) (ends : Reaches rest inner within leaf) :
    Reaches (f.index :: rest) (f :: fields) (.record within :: slots) leaf
  | later {f : Field} {s : Slot} {path : List Nat} {fields : List Field} {slots : Record}
    {leaf : Field × Slot} (pass : f.matchesPath path = false) (behind : Reaches path fields slots leaf) :
    Reaches path (f :: fields) (s :: slots) leaf

theorem Reaches.leafAt {path : List Nat} {fields : List Field} {slots : Record} {leaf : Field × Slot}
    (h : Reaches path fields slots leaf) (typeName : String) :
    leafAt typeName path fields slots = .ok leaf := by
  induction h generalizing typeName with
  | here leaf => exact leafAt_leaf leaf
  | inside role nested _ ih => exact (leafAt_inlined role nested _).trans (ih _)
  | later pass _ ih => exact (leafAt_pass pass).trans (ih typeName)

theorem Fits.split {f : Field} {s : Slot} {fields : List Field} {slots : Record}
    (h : Fits (f :: fields) (s :: slots)) :
    Fits fields slots ∧ ∀ others, Fits fields others → Fits (f :: fields) (s :: others) := by
  cases h with
  | plain role holding has rest => exact ⟨rest, fun _ => .plain role holding has⟩
  | json role holding rest => exact ⟨rest, fun _ => .json role holding⟩
  | inlined role nested below rest => exact ⟨rest, fun _ => .inlined role nested below⟩
  | skipped role rest => exact ⟨rest, fun _ => .skipped role⟩

theorem Fits.inside {f : Field} {name : String} {inner : List Field} {within : Record} {fields : List Field}
    {slots : Record} (h : Fits (f :: fields) (.record within :: slots)) (role : f.role = .inlined)
    (nested : f.nested = some (name, inner)) : Fits inner within := by
  cases h with
  | inlined _ nested' below _ =>
    cases nested.symm.trans nested'
    exact below
  | skipped role' _ => cases role.symm.trans role'

theorem Reaches.leafFits {path : List Nat} {fields : List Field} {slots : Record} {leaf : Field × Slot}
    (h : Reaches path fields slots leaf) (fits : Fits fields slots) : LeafFits leaf := by
  induction h with
  | here isLeaf =>
    cases fits with
    | plain role holding has _ => exact .plain role holding has
    | json role holding _ => exact .json role holding
    | inlined role _ _ _ => exact absurd role isLeaf.not_inlined
    | skipped role _ => exact absurd role isLeaf.not_skipped
  | inside role nested _ ih => exact ih (fits.inside role nested)
  | later _ _ ih => exact ih fits.split.1

theorem reaches_of_leafAt {fields : List Field} {slots : Record} (fits : Fits fields slots)
    {typeName : String} {path : List Nat} {leaf : Field × Slot}
    (found : leafAt typeName path fields slots = .ok leaf) : Reaches path fields slots leaf := by
  have ends {f : Field} {s : Slot} {fields : List Field} {slots : Record} {typeName : String}
      {path : List Nat} (isLeaf : f.IsLeaf) (enters : f.matchesPath path = true)
      (found : leafAt typeName path (f :: fields) (s :: slots) = .ok leaf) :
      Reaches path (f :: fields) (s :: slots) leaf := by
    obtain rfl := Field.path_of_matches_leaf isLeaf enters
    rw [leafAt_leaf isLeaf] at found
    cases found
    exact .here isLeaf
  induction fits generalizing typeName path with
  | nil => cases path <;> cases found
  | @plain f _ _ _ _ role _ _ _ ih =>
    cases enters : f.matchesPath path with
    | false => exact .later enters (ih (leafAt_pass enters ▸ found))
    | true => exact ends (.inl role) enters found
  | @json f _ _ _ _ role _ _ ih =>
    cases enters : f.matchesPath path with
    | false => exact .later enters (ih (leafAt_pass enters ▸ found))
    | true => exact ends (.inr role) enters found
  | @inlined f _ _ _ _ _ role nested _ _ ih_below ih =>
    cases enters : f.matchesPath path with
    | false => exact .later enters (ih (leafAt_pass enters ▸ found))
    | true =>
      obtain ⟨rest, rfl⟩ := Field.path_of_matches enters
      rw [leafAt_inlined role nested] at found
      exact .inside role nested (ih_below found)
  | skipped role _ ih =>
    have pass := Field.matchesPath_skipped role path
    exact .later pass (ih (leafAt_pass pass ▸ found))

theorem Reaches.leafAt_setLeaf {path : List Nat} {fields : List Field} {slots : Record} {f : Field}
    {s : Slot} (h : Reaches path fields slots (f, s)) (typeName : String) (new : Slot) :
    RowMapper.leafAt typeName path fields (setLeaf new path fields slots) = .ok (f, new) := by
  generalize leaf : (f, s) = l at h
  induction h generalizing typeName with
  | here isLeaf =>
    cases leaf
    rw [setLeaf_leaf new isLeaf, leafAt_leaf isLeaf]
  | inside role nested _ ih =>
    rw [setLeaf_inlined new role nested, leafAt_inlined role nested]
    exact ih _ leaf
  | later pass _ ih =>
    rw [setLeaf_pass new pass, leafAt_pass pass]
    exact ih typeName leaf

theorem Reaches.mem_leaves {path : List Nat} {fields : List Field} {slots : Record}
    {leaf : Field × Slot} (h : Reaches path fields slots leaf) : (path, leaf.1) ∈ leaves fields := by
  induction h with
  | here isLeaf =>
    rw [leaves, Field.ownLeaves_leaf isLeaf]
    exact List.mem_cons_self
  | inside role nested _ ih =>
    rw [leaves, Field.ownLeaves_inlined role nested]
    exact List.mem_append_left _ (List.mem_map_of_mem (f := fun l => (_, l.2)) ih)
  | later _ _ ih => exact List.mem_append_right _ ih

theorem head_of_mem_leaves {fields : List Field} {l : List Nat × Field} (h : l ∈ leaves fields) :
    ∃ i rest, l.1 = i :: rest ∧ i ∈ fields.map Field.index := by
  induction fields with
  | nil => simp [leaves] at h
  | cons f fields ih =>
    rw [leaves, List.mem_append] at h
    rcases h with own | later
    · refine ⟨f.index, ?_⟩
      cases role : f.role with
      | plain =>
        rw [Field.ownLeaves_leaf (.inl role), List.mem_singleton] at own
        exact ⟨[], by rw [own], by simp⟩
      | json =>
        rw [Field.ownLeaves_leaf (.inr role), List.mem_singleton] at own
        exact ⟨[], by rw [own], by simp⟩
      | inlined =>
        obtain ⟨name, inner, nested⟩ := Field.nested_of_inlined role
        rw [Field.ownLeaves_inlined role nested, List.mem_map] at own
        obtain ⟨l, _, rfl⟩ := own
        exact ⟨l.1, rfl, by simp⟩
      | skipped => simp [Field.ownLeaves_skipped role] at own
    · obtain ⟨i, rest, path, mem⟩ := ih later
      exact ⟨i, rest, path, List.mem_cons_of_mem _ mem⟩

theorem other_of_mem_leaves {f : Field} {fields : List Field} (new : f.index ∉ fields.map Field.index)
    {l : List Nat × Field} (h : l ∈ leaves fields) : ∃ i rest, l.1 = i :: rest ∧ i ≠ f.index := by
  obtain ⟨i, rest, path, mem⟩ := head_of_mem_leaves h
  exact ⟨i, rest, path, fun same => new (same ▸ mem)⟩

theorem leafAt_later {f : Field} {s : Slot} {fields : List Field} {slots : Record} {typeName : String}
    (new : f.index ∉ fields.map Field.index) {l : List Nat × Field} (h : l ∈ leaves fields) :
    leafAt typeName l.1 (f :: fields) (s :: slots) = leafAt typeName l.1 fields slots := by
  obtain ⟨i, rest, path, other⟩ := other_of_mem_leaves new h
  rw [path, leafAt_pass (Field.matchesPath_other other rest)]

theorem leafAt_of_mem_leaves {fields : List Field} {slots : Record} (fits : Fits fields slots)
    (numbered : Numbered fields) (typeName : String) {l : List Nat × Field} (h : l ∈ leaves fields) :
    ∃ s, leafAt typeName l.1 fields slots = .ok (l.2, s) ∧ LeafFits (l.2, s) := by
  induction fits generalizing typeName l with
  | nil => simp [leaves] at h
  | plain role holding has _ ih =>
    rcases numbered with _ | ⟨new, _, numbered⟩
    rw [leaves, Field.ownLeaves_leaf (.inl role), List.mem_append, List.mem_singleton] at h
    rcases h with rfl | later
    · exact ⟨_, leafAt_leaf (.inl role), .plain role holding has⟩
    · simpa only [leafAt_later new later] using ih numbered typeName later
  | json role holding _ ih =>
    rcases numbered with _ | ⟨new, _, numbered⟩
    rw [leaves, Field.ownLeaves_leaf (.inr role), List.mem_append, List.mem_singleton] at h
    rcases h with rfl | later
    · exact ⟨_, leafAt_leaf (.inr role), .json role holding⟩
    · simpa only [leafAt_later new later] using ih numbered typeName later
  | inlined role nested _ _ ih_below ih =>
    rcases numbered with _ | ⟨new, below, numbered⟩
    rw [leaves, Field.ownLeaves_inlined role nested, List.mem_append, List.mem_map] at h
    rcases h with ⟨l, inside, rfl⟩ | later
    · simpa only [leafAt_inlined role nested] using ih_below (below _ _ nested) _ inside
    · simpa only [leafAt_later new later] using ih numbered typeName later
  | skipped role _ ih =>
    rcases numbered with _ | ⟨new, _, numbered⟩
    rw [leaves, Field.ownLeaves_skipped role, List.nil_append] at h
    simpa only [leafAt_later new h] using ih numbered typeName h

end RowMapper
