import Mathlib.Data.List.Nodup
import RowMapper.Populate
import RowMapper.Proofs.Operation.ColumnNames
import RowMapper.Proofs.Record.Flattening
import RowMapper.Proofs.Record.Frames

/-!
Reading a row into the leaves of some columns, one cell after the other. No other leaf changes, also when a cell
fails half-way; when none fails, every leaf has what its own cell says.
-/
namespace RowMapper

variable {t : MappedType} {r r' : Record} {row : Row} {columns : List Column} {cs : Columns}

def MappedType.pathsOf (t : MappedType) (keep : Column → Bool) (path : List Nat) : Prop :=
  ∃ c ∈ t.columns.items, keep c = true ∧ c.path = path

def Received (t : MappedType) (row : Row) (i : Nat) (path : List Nat) (r r' : Record) : Prop :=
  ∃ f old new, leafAt t.typeName path t.fields r = .ok (f, old) ∧ f.reading row i = .ok new ∧
    leafAt t.typeName path t.fields r' = .ok (f, new.getD old)

theorem confined_populateColumns (fits : Fits t.fields r) (row : Row) (i : Nat) (columns : List Column) :
    Confined t (· ∈ columns.map (·.path)) r (t.populateColumns row i columns r).1 := by
  induction columns generalizing i r with
  | nil => exact .refl t _ r
  | cons c rest ih =>
    have first : Confined t (· ∈ (c :: rest).map (·.path)) r (t.read r c.path row i).1 :=
      (confined_read fits c.path row i).mono fun path here => here ▸ List.mem_cons_self
    simp only [MappedType.populateColumns]
    split <;> rename_i read <;> rw [read] at first
    · exact first
    · exact first.trans ((ih (first.fits fits) (i + 1)).mono fun path there => List.mem_cons_of_mem _ there)

theorem confined_populateInOrder (fits : Fits t.fields r) (cs : Columns) (row : Row) :
    Confined t (· ∈ cs.items.map (·.path)) r (t.populateInOrder cs row r).1 := by
  simp only [MappedType.populateInOrder]
  split
  · exact .refl t _ r
  · exact confined_populateColumns fits row 0 cs.items

theorem received_of_read (fits : Fits t.fields r) {path : List Nat} {i : Nat}
    (fine : t.read r path row i = (r', .ok ())) : Received t row i path r r' := by
  cases found : leafAt t.typeName path t.fields r with
  | error stray => simp [MappedType.read, found] at fine
  | ok leaf =>
    obtain ⟨f, old⟩ := leaf
    have reaches := reaches_of_leafAt fits found
    rw [read_eq found (reaches.leafFits fits)] at fine
    cases said : f.reading row i with
    | error e => simp [said] at fine
    | ok new =>
      rw [said] at fine
      obtain rfl := congrArg Prod.fst fine
      exact ⟨f, old, new, found, said, reaches.leafAt_setLeaf t.typeName _⟩

/-- When no cell fails, each leaf has what its cell says: the cells before it and after it are for other leaves. -/
theorem received_of_populateColumns (fits : Fits t.fields r) (apart : (columns.map (·.path)).Nodup) {i : Nat}
    (fine : t.populateColumns row i columns r = (r', .ok ())) {j : Nat} {c : Column}
    (there : columns[j]? = some c) : Received t row (i + j) c.path r r' := by
  induction columns generalizing i r j with
  | nil => simp at there
  | cons d rest ih =>
    obtain ⟨new, apart⟩ := List.nodup_cons.mp apart
    have first := confined_read fits d.path row i
    simp only [MappedType.populateColumns] at fine
    split at fine <;> rename_i q read <;> rw [read] at first
    · cases fine
    · cases j with
      | zero =>
        obtain rfl := Option.some.inj there
        obtain ⟨f, old, said, before, reads, put⟩ := received_of_read fits read
        have later := confined_populateColumns (first.fits fits) row (i + 1) rest
        rw [fine] at later
        exact ⟨f, old, said, before, reads, (later.kept d.path new).trans put⟩
      | succ j =>
        have later : c.path ∈ rest.map (·.path) := List.mem_map_of_mem (List.mem_of_getElem? there)
        have other : c.path ≠ d.path := by
          intro same
          rw [same] at later
          exact new later
        obtain ⟨f, old, said, before, reads, put⟩ := ih (first.fits fits) apart fine there
        rw [Nat.add_right_comm] at reads
        exact ⟨f, old, said, (first.kept c.path other).symm.trans before, reads, put⟩

theorem received_of_populateInOrder (fits : Fits t.fields r) (apart : (cs.items.map (·.path)).Nodup)
    (fine : t.populateInOrder cs row r = (r', .ok ())) {i : Nat} {c : Column} (there : cs.items[i]? = some c) :
    Received t row i c.path r r' := by
  simp only [MappedType.populateInOrder] at fine
  split at fine
  · cases fine
  · have all := received_of_populateColumns fits apart fine there
    rwa [Nat.zero_add] at all

theorem eq_of_asBreakdown {x : Record × Except Error Unit}
    (fine : (MappedType.asBreakdown x).2 = .ok ()) : x = (x.1, .ok ()) := by
  obtain ⟨r, _ | _⟩ := x
  · cases fine
  · rfl

/-! ### Paths of columns -/

theorem nodup_leafPaths {fields : List Field} (numbered : Numbered fields) :
    ((leaves fields).map (·.1)).Nodup := by
  induction numbered with
  | nil => exact List.nodup_nil
  | @cons f fields new below rest ih_below ih =>
    rw [leaves, List.map_append, List.nodup_append]
    refine ⟨?_, ih, ?_⟩
    · cases role : f.role with
      | plain => simp [Field.ownLeaves_leaf (.inl role)]
      | json => simp [Field.ownLeaves_leaf (.inr role)]
      | skipped => simp [Field.ownLeaves_skipped role]
      | inlined =>
        obtain ⟨name, inner, nested⟩ := Field.nested_of_inlined role
        have inside := List.Nodup.map (f := (f.index :: ·)) List.cons_injective (ih_below name inner nested)
        rw [List.map_map] at inside
        rwa [Field.ownLeaves_inlined role nested, List.map_map]
    · -- The own leaves start with the position of the field, and the later ones do not.
      rintro path own _ later rfl
      obtain ⟨l, own, rfl⟩ := List.mem_map.mp own
      obtain ⟨l', later, same⟩ := List.mem_map.mp later
      have alone : l ∈ leaves [f] := by rwa [leaves, leaves, List.append_nil]
      obtain ⟨i, tail, path, here⟩ := head_of_mem_leaves alone
      obtain ⟨j, tail', path', other⟩ := other_of_mem_leaves new later
      rw [same, path] at path'
      exact other ((List.cons.inj path').1 ▸ List.mem_singleton.mp here)

theorem mem_flatten_of_mem_columns {c : Column} (there : c ∈ t.columns.items) :
    c ∈ Column.flatten t.table [] t.fields :=
  (Columns.mem_addAll .empty there).resolve_left List.not_mem_nil

theorem MappedType.nodup_paths (numbered : Numbered t.fields) : (t.columns.items.map (·.path)).Nodup := by
  have paths := nodup_leafPaths numbered
  rw [← Column.paths_flatten numbered t.table] at paths
  have columns : t.columns.items.Nodup := List.Nodup.of_map Column.columnName t.nodup_columns
  refine columns.map_on fun c hc d hd same => ?_
  exact List.inj_on_of_nodup_map paths (mem_flatten_of_mem_columns hc) (mem_flatten_of_mem_columns hd) same

theorem MappedType.nodup_view_paths (numbered : Numbered t.fields) (v : View) :
    ((t.columns.view v).items.map (·.path)).Nodup := by
  rw [Columns.items_view t.nodup_columns]
  exact (nodup_paths numbered).sublist (List.filter_sublist.map _)

theorem mem_view_paths {v : View} {path : List Nat} :
    path ∈ ((t.columns.view v).items.map (·.path)) ↔ t.pathsOf v.keeps path := by
  rw [Columns.items_view t.nodup_columns, List.mem_map]
  simp only [MappedType.pathsOf, List.mem_filter, and_assoc]

end RowMapper
