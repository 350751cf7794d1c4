import RowMapper.Populate
import RowMapper.Proofs.Record.Leaves

/-!
Filling a record leaf by leaf. When each cell reads as what another record has at the leaf, the record gets all of it,
and keeps what it has in the fields that are left out and where the other one has the document `null`.
-/
namespace RowMapper

/-! ### New records -/

theorem Field.initial_inlined {f : Field} {name : String} {inner : List Field}
    (role : f.role = .inlined) (nested : f.nested = some (name, inner)) :
    f.initial = .record (initialSlots inner) := by
  cases f with
  | mk index fieldName tag typeText holding below =>
    obtain rfl : below = some (name, inner) := nested
    rw [initial.eq_def]
    dsimp only
    rw [role_below, role]

theorem Field.initial_json {f : Field} {form : Json.Form} (role : f.role = .json)
    (holding : f.holding = .document form) : f.initial = .document form.initial := by
  cases f with
  | mk index fieldName tag typeText held below =>
    obtain rfl : held = .document form := holding
    rw [initial.eq_def]
    dsimp only
    rw [role_below, role]

theorem Field.initial_plain {f : Field} {type : HostType} (role : f.role = .plain)
    (holding : f.holding = .plain type) : f.initial = .plain type.zero := by
  cases f with
  | mk index fieldName tag typeText held below =>
    obtain rfl : held = .plain type := holding
    rw [initial.eq_def]
    dsimp only
    rw [role_below, role]

theorem Fits.initial {fields : List Field} {slots : Record} (fits : Fits fields slots) :
    Fits fields (initialSlots fields) := by
  induction fits with
  | nil => exact .nil
  | plain role holding _ _ ih =>
    rw [initialSlots, Field.initial_plain role holding]
    exact .plain role holding (HostType.has_zero _) ih
  | json role holding _ ih =>
    rw [initialSlots, Field.initial_json role holding]
    exact .json role holding ih
  | inlined role nested _ _ ih_below ih =>
    rw [initialSlots, Field.initial_inlined role nested]
    exact .inlined role nested ih_below ih
  | skipped role _ ih => exact .skipped role ih

/-- What a leaf holds after it was sent what another record has there. The document `null` is sent as NULL, which
leaves the leaf as it was. -/
def Slot.over : Slot → Slot → Slot
  | .document .null, old => old
  | new, _ => new

theorem Slot.over_of_ne {s old : Slot} (sent : s ≠ .document .null) : s.over old = s := by
  rw [over.eq_def]
  split
  · exact absurd rfl sent
  · rfl

theorem Slot.over_self_of_null {s old : Slot} (same : s = .document .null → old = s) : s.over old = s := by
  by_cases null : s = .document .null
  · rw [same null, null]
    rfl
  · exact over_of_ne null

/-- A record that another one was laid over: at every leaf it has what came of that, and in the fields that are left out
what it had. -/
inductive Restored : List Field → Record → Record → Record → Prop where
  | nil : Restored [] [] [] []
  | leaf {f : Field} {old s : Slot} {fields : List Field} {start slots again : Record} (isLeaf : f.IsLeaf)
    (rest : Restored fields start slots again) :
    Restored (f :: fields) (old :: start) (s :: slots) (s.over old :: again)
  | inlined {f : Field} {name : String} {inner : List Field} {before within back : Record}
    {fields : List Field} {start slots again : Record} (role : f.role = .inlined)
    (nested : f.nested = some (name, inner)) (inside : Restored inner before within back)
    (rest : Restored fields start slots again) :
    Restored (f :: fields) (.record before :: start) (.record within :: slots) (.record back :: again)
  | skipped {f : Field} {old s : Slot} {fields : List Field} {start slots again : Record}
    (role : f.role = .skipped) (rest : Restored fields start slots again) :
    Restored (f :: fields) (old :: start) (s :: slots) (old :: again)

theorem Restored.unique {fields : List Field} {start slots again other : Record}
    (h : Restored fields start slots again) (h' : Restored fields start slots other) : again = other := by
  induction h generalizing other with
  | nil =>
    cases h'
    rfl
  | leaf isLeaf _ ih =>
    cases h' with
    | leaf _ rest => rw [ih rest]
    | inlined role _ _ _ => exact absurd role isLeaf.not_inlined
    | skipped role _ => exact absurd role isLeaf.not_skipped
  | inlined role nested _ _ ih_inside ih =>
    cases h' with
    | leaf isLeaf _ => exact absurd role isLeaf.not_inlined
    | inlined _ nested' inside rest =>
      cases nested.symm.trans nested'
      rw [ih_inside inside, ih rest]
    | skipped skipped _ => cases role.symm.trans skipped
  | skipped role _ ih =>
    cases h' with
    | leaf isLeaf _ => exact absurd role isLeaf.not_skipped
    | inlined inlined _ _ _ => cases role.symm.trans inlined
    | skipped _ rest => rw [ih rest]

/-- What a path reaches in the record that was laid over another one, it reaches in the other one too, and what came of
both in the restored one. -/
theorem Reaches.restored {path : List Nat} {fields : List Field} {start slots again : Record}
    {leaf : Field × Slot} (reaches : Reaches path fields slots leaf) (h : Restored fields start slots again) :
    ∃ old, Reaches path fields start (leaf.1, old) ∧ Reaches path fields again (leaf.1, leaf.2.over old) := by
  induction reaches generalizing start again with
  | here isLeaf =>
    cases h with
    | leaf _ _ => exact ⟨_, .here isLeaf, .here isLeaf⟩
    | inlined role _ _ _ => exact absurd role isLeaf.not_inlined
    | skipped role _ => exact absurd role isLeaf.not_skipped
  | inside role nested _ ih =>
    cases h with
    | leaf isLeaf _ => exact absurd role isLeaf.not_inlined
    | inlined _ nested' inside _ =>
      cases nested.symm.trans nested'
      obtain ⟨old, before, after⟩ := ih inside
      exact ⟨old, .inside role nested before, .inside role nested after⟩
    | skipped skipped _ => cases role.symm.trans skipped
  | later pass _ ih =>
    cases h with
    | leaf _ rest | inlined _ _ _ rest | skipped _ rest =>
      obtain ⟨old, before, after⟩ := ih rest
      exact ⟨old, .later pass before, .later pass after⟩

/-! ### Records that fit -/

theorem Fits.of_cons {f : Field} {fields : List Field} {slots : Record} (fits : Fits (f :: fields) slots) :
    ∃ s rest, slots = s :: rest ∧ Fits fields rest := by
  cases fits with
  | plain _ _ _ rest | json _ _ rest | inlined _ _ _ rest | skipped _ rest => exact ⟨_, _, rfl, rest⟩

theorem Fits.of_inlined {f : Field} {name : String} {inner fields : List Field} {slots : Record}
    (role : f.role = .inlined) (nested : f.nested = some (name, inner)) (fits : Fits (f :: fields) slots) :
    ∃ within rest, slots = .record within :: rest ∧ Fits inner within ∧ Fits fields rest := by
  cases fits with
  | plain other _ _ _ | json other _ _ | skipped other _ => cases role.symm.trans other
  | inlined _ nested' below rest =>
    cases nested.symm.trans nested'
    exact ⟨_, _, rfl, below, rest⟩

/-! ### Filling -/

/-- Reads the cells from a position on into the leaves at these paths, up to the first failure. -/
def fill (row : Row) (typeName : String) (fields : List Field) :
    Nat → List (List Nat) → Record → Record × Except Error Unit
  | _, [], r => (r, .ok ())
  | i, path :: rest, r =>
    match leafAt typeName path fields r with
    | .error stray => (r, .error stray.error)
    | .ok leaf =>
      match readLeaf row i leaf with
      | .error e => (r, .error e)
      | .ok new => fill row typeName fields (i + 1) rest (setLeaf new path fields r)

section
variable {row : Row} {typeName : String} {f : Field} {fields : List Field} {r filled : Record}
  {paths : List (List Nat)} {i : Nat}

theorem fill_append {more : List (List Nat)}
    (first : fill row typeName fields i paths r = (filled, .ok ())) :
    fill row typeName fields i (paths ++ more) r =
      fill row typeName fields (i + paths.length) more filled := by
  induction paths generalizing i r with
  | nil =>
    cases first
    rfl
  | cons path rest ih =>
    rw [List.cons_append, fill]
    rw [fill] at first
    split at first
    · cases first
    · split at first
      · cases first
      · rw [ih first, List.length_cons, Nat.add_assoc, Nat.add_comm 1]

theorem fill_later {s : Slot} (pass : ∀ path ∈ paths, f.matchesPath path = false)
    (behind : fill row typeName fields i paths r = (filled, .ok ())) :
    fill row typeName (f :: fields) i paths (s :: r) = (s :: filled, .ok ()) := by
  induction paths generalizing i r with
  | nil =>
    cases behind
    rfl
  | cons path rest ih =>
    obtain ⟨first, others⟩ := List.forall_mem_cons.mp pass
    rw [fill, leafAt_pass first]
    rw [fill] at behind
    split at behind
    · cases behind
    · split at behind
      · cases behind
      · rw [setLeaf_pass _ first]
        exact ih others behind

theorem fill_inside {name : String} {inner : List Field} {within back : Record}
    (role : f.role = .inlined) (nested : f.nested = some (name, inner))
    (inside : fill row name inner i paths within = (back, .ok ())) :
    fill row typeName (f :: fields) i (paths.map (f.index :: ·)) (.record within :: r) =
      (.record back :: r, .ok ()) := by
  induction paths generalizing i within with
  | nil =>
    cases inside
    rfl
  | cons path rest ih =>
    rw [List.map_cons, fill, leafAt_inlined role nested]
    rw [fill] at inside
    split at inside
    · cases inside
    · split at inside
      · cases inside
      · rw [setLeaf_inlined _ role nested]
        exact ih inside

theorem fill_leaf {s new : Slot} (isLeaf : f.IsLeaf) (taken : readLeaf row i (f, s) = .ok new) :
    fill row typeName (f :: fields) i [[f.index]] (s :: r) = (new :: r, .ok ()) := by
  rw [fill, leafAt_leaf isLeaf]
  simp only [taken]
  rw [setLeaf_leaf new isLeaf]
  rfl

end

/-- Each cell from a position on is read over a leaf of the first record as what the second one has there. -/
def Readable (row : Row) (i : Nat) (fields : List Field) (start slots : Record) : Prop :=
  ∀ j l old s, (leaves fields)[j]? = some l → Reaches l.1 fields start (l.2, old) →
    Reaches l.1 fields slots (l.2, s) → readLeaf row (i + j) (l.2, old) = .ok (s.over old)

theorem pass_of_numbered {f : Field} {fields : List Field} (numbered : Numbered (f :: fields)) :
    ∀ path ∈ (leaves fields).map (·.1), f.matchesPath path = false := by
  rcases numbered with _ | ⟨new, _, _⟩
  intro path hp
  obtain ⟨l, hl, rfl⟩ := List.mem_map.mp hp
  obtain ⟨k, rest, path, other⟩ := other_of_mem_leaves new hl
  rw [path]
  exact Field.matchesPath_other other rest

section
variable {row : Row} {i : Nat} {f : Field} {old s : Slot} {fields : List Field} {start slots : Record}

theorem Readable.behind (h : Readable row i (f :: fields) (old :: start) (s :: slots))
    (numbered : Numbered (f :: fields)) : Readable row (i + f.ownLeaves.length) fields start slots := by
  intro j l old s at_j before reaches
  have found : (leaves (f :: fields))[f.ownLeaves.length + j]? = some l := by
    rw [leaves, List.getElem?_append_right (Nat.le_add_right _ _), Nat.add_sub_cancel_left, at_j]
  have pass := pass_of_numbered numbered l.1 (List.mem_map_of_mem (List.mem_of_getElem? at_j))
  rw [Nat.add_assoc]
  exact h _ l old s found (.later pass before) (.later pass reaches)

theorem Readable.leaf (h : Readable row i (f :: fields) (old :: start) (s :: slots)) (isLeaf : f.IsLeaf) :
    readLeaf row i (f, old) = .ok (s.over old) := by
  have found : (leaves (f :: fields))[0]? = some ([f.index], f) := by
    rw [leaves, Field.ownLeaves_leaf isLeaf]
    rfl
  exact h 0 _ old s found (.here isLeaf) (.here isLeaf)

theorem Readable.inside {name : String} {inner : List Field} {before within : Record}
    (h : Readable row i (f :: fields) (.record before :: start) (.record within :: slots))
    (role : f.role = .inlined) (nested : f.nested = some (name, inner)) : Readable row i inner before within := by
  intro j l old s at_j former reaches
  have found : (leaves (f :: fields))[j]? = some (f.index :: l.1, l.2) := by
    have here : j < (leaves inner).length := (List.getElem?_eq_some_iff.mp at_j).1
    rw [leaves, Field.ownLeaves_inlined role nested, List.getElem?_append_left (by simpa using here),
      List.getElem?_map, at_j]
    rfl
  exact h j (f.index :: l.1, l.2) old s found (.inside role nested former) (.inside role nested reaches)

theorem fill_cons {typeName : String} {new : Slot} {again : Record} (numbered : Numbered (f :: fields))
    (first : fill row typeName (f :: fields) i (f.ownLeaves.map (·.1)) (old :: start) = (new :: start, .ok ()))
    (behind : fill row typeName fields (i + f.ownLeaves.length) ((leaves fields).map (·.1)) start =
      (again, .ok ())) :
    fill row typeName (f :: fields) i ((leaves (f :: fields)).map (·.1)) (old :: start) = (new :: again, .ok ()) := by
  rw [leaves, List.map_append, fill_append first, List.length_map]
  exact fill_later (pass_of_numbered numbered) behind

end

theorem fill_leaves {fields : List Field} {start slots : Record} (former : Fits fields start)
    (fits : Fits fields slots) (numbered : Numbered fields) (row : Row) (typeName : String) (i : Nat)
    (readable : Readable row i fields start slots) :
    ∃ again, fill row typeName fields i ((leaves fields).map (·.1)) start = (again, .ok ()) ∧
      Restored fields start slots again := by
  -- Along the record that is sent; the one it is laid over has the same shape.
  induction fits generalizing start typeName i with
  | nil =>
    cases former
    exact ⟨[], rfl, .nil⟩
  | plain role holding has _ ih =>
    obtain ⟨old, start, rfl, starts⟩ := former.of_cons
    obtain ⟨again, filled, restored⟩ := ih starts numbered.tail typeName _ (readable.behind numbered)
    refine ⟨_, fill_cons numbered ?_ filled, .leaf (.inl role) restored⟩
    rw [Field.ownLeaves_leaf (.inl role)]
    exact fill_leaf (.inl role) (readable.leaf (.inl role))
  | json role holding _ ih =>
    obtain ⟨old, start, rfl, starts⟩ := former.of_cons
    obtain ⟨again, filled, restored⟩ := ih starts numbered.tail typeName _ (readable.behind numbered)
    refine ⟨_, fill_cons numbered ?_ filled, .leaf (.inr role) restored⟩
    rw [Field.ownLeaves_leaf (.inr role)]
    exact fill_leaf (.inr role) (readable.leaf (.inr role))
  | @inlined f name inner _ _ _ role nested _ _ ih_below ih =>
    have paths : f.ownLeaves.map (·.1) = ((leaves inner).map (·.1)).map (f.index :: ·) := by
      rw [Field.ownLeaves_inlined role nested, List.map_map, List.map_map]
      rfl
    obtain ⟨before, start, rfl, starts_below, starts⟩ := former.of_inlined role nested
    obtain ⟨again, filled, restored⟩ := ih starts numbered.tail typeName _ (readable.behind numbered)
    obtain ⟨back, filled_inside, restored_inside⟩ :=
      ih_below starts_below (numbered.inside nested) _ i (readable.inside role nested)
    refine ⟨_, fill_cons numbered ?_ filled, .inlined role nested restored_inside restored⟩
    rw [paths]
    exact fill_inside role nested filled_inside
  | skipped role _ ih =>
    obtain ⟨old, start, rfl, starts⟩ := former.of_cons
    obtain ⟨again, filled, restored⟩ := ih starts numbered.tail typeName _ (readable.behind numbered)
    refine ⟨_, fill_cons numbered ?_ filled, .skipped role restored⟩
    rw [Field.ownLeaves_skipped role]
    rfl

end RowMapper
