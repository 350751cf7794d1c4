import Mathlib.Data.List.Perm.Basic
import RowMapper.Proofs.Columns.Views
import RowMapper.Proofs.Record.Populating

/-!
Records populated by the names of the cells. A row whose first cells are the columns', in order, comes to what
reading by position comes to, also half-way. In any other row the order of the cells does not matter, because two
cells with different known names are for different leaves, and cells without a column are not looked at.
-/
namespace RowMapper

variable {t : MappedType} {cs : Columns} {row : Row} {r r' : Record} {path other : List Nat} {cell cell' : Cell}

/-! ### By name and by position -/

theorem populateCells_unknown {cells : List (Nat × Option String)}
    (unknown : ∀ x ∈ cells, x.2.bind cs.lookup = none) : t.populateCells cs row cells r = (r, .ok ()) := by
  induction cells with
  | nil => rfl
  | cons x rest ih =>
    obtain ⟨first, others⟩ := List.forall_mem_cons.mp unknown
    rw [MappedType.populateCells, first]
    exact ih others

theorem populateCells_append {columns : List Column} {i : Nat} (others : List (Nat × Option String))
    (named : ∀ j c, columns[j]? = some c → (row.name? (i + j)).bind cs.lookup = some c) :
    t.populateCells cs row ((List.range' i columns.length).map (fun i => (i, row.name? i)) ++ others) r =
      match t.populateColumns row i columns r with
      | (r, .error e) => (r, .error e)
      | (r, .ok ()) => t.populateCells cs row others r := by
  induction columns generalizing i r with
  | nil => rfl
  | cons c rest ih =>
    have first : (row.name? i).bind cs.lookup = some c := named 0 c rfl
    have later : ∀ j d, rest[j]? = some d → (row.name? (i + 1 + j)).bind cs.lookup = some d := by
      intro j d there
      rw [Nat.add_assoc, Nat.add_comm 1]
      exact named (j + 1) d there
    rw [List.length_cons, List.range'_succ, List.map_cons, List.cons_append, MappedType.populateCells, first,
      MappedType.populateColumns]
    dsimp only
    rcases t.read r c.path row i with ⟨r, e | _⟩
    · rfl
    · exact ih later

/-- Where a reading into columns stops: at the end, or at the first cell that cannot be read. The columns before it
have been read into, and the others have not. -/
def StopsAt (t : MappedType) (row : Row) (i : Nat) (columns : List Column) (r : Record) (k : Nat)
    (x : Record × Except Error Unit) : Prop :=
  ∃ before, t.populateColumns row i (columns.take k) r = (before, .ok ()) ∧
    (k = columns.length ∧ x = (before, .ok ()) ∨
      ∃ c e, columns[k]? = some c ∧ t.read before c.path row (i + k) = (before, .error e) ∧
        x = (before, .error e))

theorem read_error {i : Nat} {e : Error} (failed : t.read r path row i = (r', .error e)) : r' = r := by
  simp only [MappedType.read] at failed
  repeat' split at failed
  all_goals cases failed <;> rfl

theorem stops_populateColumns (t : MappedType) (row : Row) (i : Nat) (columns : List Column) (r : Record) :
    ∃ k, StopsAt t row i columns r k (t.populateColumns row i columns r) := by
  induction columns generalizing i r with
  | nil => exact ⟨0, r, rfl, .inl ⟨rfl, rfl⟩⟩
  | cons c rest ih =>
    rw [MappedType.populateColumns]
    rcases read : t.read r c.path row i with ⟨r', e | _⟩
    · obtain rfl := read_error read
      exact ⟨0, r', rfl, .inr ⟨c, e, rfl, read, rfl⟩⟩
    · obtain ⟨k, before, well, ends⟩ := ih (i + 1) r'
      refine ⟨k + 1, before, ?_, ?_⟩
      · rw [List.take_succ_cons, MappedType.populateColumns, read]
        exact well
      · rw [List.length_cons, Nat.add_right_cancel_iff, ← Nat.add_assoc, Nat.add_right_comm]
        exact ends

/-- In a row that begins with the columns' cells, and has no other cell of theirs, the cells lead to the columns in
the same places. -/
theorem lookup_of_named (distinct : cs.bareNames.Nodup) {further : List (Option String)}
    (named : row.cells.map (·.name) = cs.names.map some ++ further)
    (unreported : ∀ name ∈ cs.names, some name ∉ further) (i : Nat) :
    (row.name? i).bind cs.lookup = cs.items[i]? := by
  have count : (cs.names.map some).length = cs.items.length := by simp [Columns.names, Columns.bareNames]
  have name_at : row.name? i = ((cs.names.map some ++ further)[i]?).join := by
    rw [← named, List.getElem?_map, Row.name?]
    cases row.cells[i]? <;> rfl
  by_cases inside : i < cs.items.length
  · have there : cs.items[i]? = some cs.items[i] := List.getElem?_eq_getElem inside
    have reported : row.name? i = some (cs.qualifier ++ cs.items[i].columnName) := by
      rw [name_at, List.getElem?_append_left (count ▸ inside)]
      simp [Columns.names, Columns.bareNames, there]
    rw [reported, there]
    exact Columns.lookup_name distinct (List.mem_of_getElem? there)
  · have past := Nat.le_of_not_lt inside
    rw [List.getElem?_eq_none past, name_at, List.getElem?_append_right (count ▸ past),
      Option.eq_none_iff_forall_not_mem]
    intro d hd
    obtain ⟨name, there, found⟩ := Option.bind_eq_some_iff.mp hd
    obtain ⟨mem, rfl⟩ := (Columns.lookup_eq_some_iff distinct).mp found
    have later := List.mem_of_getElem? (Option.join_eq_some_iff.mp there)
    exact unreported _ (List.mem_map_of_mem (List.mem_map_of_mem mem)) later

/-- A row that begins with the columns' cells, in order and under their reported names, populates a record by name
as it does by position: with the same result, or the same failure, and the same record then. -/
theorem populateByName_eq_inOrder {c : Collection} (reached : c.Reachable) (t : MappedType) (r : Record) {row : Row}
    {further : List (Option String)} (named : row.cells.map (·.name) = c.plain.names.map some ++ further)
    (unreported : ∀ name ∈ c.plain.names, some name ∉ further) :
    t.populateByName c.plain row r = t.populateInOrder c.plain row r ∧
      ∃ k, StopsAt t row 0 c.columns r k (t.populateByName c.plain row r) := by
  have distinct : c.plain.bareNames.Nodup := (Collection.sound_of_reachable reached).indexed.distinct
  have leads : ∀ i, (row.name? i).bind c.plain.lookup = c.columns[i]? := lookup_of_named distinct named unreported
  have size : row.size = c.columns.length + further.length := by
    rw [Row.size, ← List.length_map, named]
    simp [Columns.names, Columns.bareNames, Collection.plain]
  have byName : t.populateByName c.plain row r = t.populateColumns row 0 c.columns r := by
    have own : ∀ j d, c.columns[j]? = some d → (row.name? (0 + j)).bind c.plain.lookup = some d := by
      intro j d there
      rw [Nat.zero_add, leads, there]
    rw [MappedType.populateByName, MappedType.numberedNames, size, List.range_eq_range', ← List.range'_append_1,
      List.map_append, populateCells_append _ own]
    rcases t.populateColumns row 0 c.columns r with ⟨r', e | _⟩
    · rfl
    · refine populateCells_unknown fun x hx => ?_
      obtain ⟨i, hi, rfl⟩ := List.mem_map.mp hx
      have past : c.columns.length ≤ i := by
        have := (List.mem_range'_1.mp hi).1
        omega
      exact (leads i).trans (List.getElem?_eq_none past)
  have inOrder : t.populateInOrder c.plain row r = t.populateColumns row 0 c.columns r := by
    have enough : ¬row.size < c.plain.size := by
      rw [size]
      exact Nat.not_lt.mpr (Nat.le_add_right _ _)
    rw [MappedType.populateInOrder, if_neg enough, Collection.plain]
  refine ⟨byName.trans inOrder.symm, ?_⟩
  rw [byName]
  exact stops_populateColumns t row 0 c.columns r

def posting : Collection :=
  (Collection.ofList (Column.flatten parcel.table [] parcel.fields)).withQualifier "p_"

def torn : Row :=
  ⟨.server, [⟨some "p_id", .int8, some [0, 0, 0, 0, 0, 0, 0, 9]⟩, ⟨some "p_street", .text, none⟩,
    ⟨some "p_marks", .jsonb, none⟩, ⟨some "id", .int8, none⟩]⟩

/-- Both ways the number is taken before the reading fails, and nothing after it. -/
theorem populateByName_eq_inOrder_torn :
    parcel.populateByName posting.plain torn posted = parcel.populateInOrder posting.plain torn posted ∧
      (parcel.populateByName posting.plain torn posted).2 =
        .error (.decode "p_street" "error deserializing column 1") ∧
      posting.plain.values parcel (parcel.populateByName posting.plain torn posted).1 =
        .ok [.field ⟨.plain .int64, .int64 9⟩, .field ⟨.plain .text, .text "Elm Street"⟩, .json (some "true")] := by
  have reached : posting.Reachable := .withQualifier "p_" (.ofList _)
  have named : torn.cells.map (·.name) = posting.plain.names.map some ++ [some "id"] := by decide +kernel
  exact ⟨(populateByName_eq_inOrder reached parcel posted named (by decide +kernel)).1, by decide +kernel,
    by decide +kernel⟩

/-! ### Cells in any order -/

def MappedType.given? (t : MappedType) (path : List Nat) (cell : Cell) (r : Record) : Option Slot :=
  match leafAt t.typeName path t.fields r with
  | .error _ => none
  | .ok leaf => (readLeaf ⟨.memory, [cell]⟩ 0 leaf).toOption

def MappedType.taken? (t : MappedType) (path : List Nat) (cell : Cell) (r : Record) : Option Record :=
  (t.given? path cell r).map fun new => setLeaf new path t.fields r

def MappedType.takenAll? (t : MappedType) : List (Column × Cell) → Record → Option Record
  | [], r => some r
  | (c, cell) :: rest, r => (t.taken? c.path cell r).bind (t.takenAll? rest)

def Columns.known (cs : Columns) (cells : List Cell) : List (Column × Cell) :=
  cells.filterMap fun cell => (cell.name.bind cs.lookup).map (·, cell)

/-- What is read from a cell does not depend on where it stands, nor on the kind of the row. Errors do. -/
theorem scan_alone {i : Nat} (at_i : row.cells[i]? = some cell) (type : HostType) :
    (∃ v, row.scan type i = .ok v ∧ Row.scan ⟨.memory, [cell]⟩ type 0 = .ok v) ∨
      ∃ e e', row.scan type i = .error e ∧ Row.scan ⟨.memory, [cell]⟩ type 0 = .error e' := by
  simp only [Row.scan, at_i, List.getElem?_cons_zero]
  split
  · exact .inr ⟨_, _, rfl, rfl⟩
  · split
    · exact .inl ⟨_, rfl, rfl⟩
    · exact .inr ⟨_, _, rfl, rfl⟩

theorem readLeaf_alone {i : Nat} (at_i : row.cells[i]? = some cell) (leaf : Field × Slot) :
    (readLeaf row i leaf).toOption = (readLeaf ⟨.memory, [cell]⟩ 0 leaf).toOption := by
  have plain (type : HostType) : ((row.scan type i).map Slot.plain).toOption =
      ((Row.scan ⟨.memory, [cell]⟩ type 0).map Slot.plain).toOption := by
    obtain ⟨v, here, alone⟩ | ⟨e, e', here, alone⟩ := scan_alone at_i type
    · rw [here, alone]
    · rw [here, alone]
      rfl
  obtain ⟨f, old | old | slots⟩ := leaf
  · exact plain _
  · obtain ⟨v, here, alone⟩ | ⟨e, e', here, alone⟩ := scan_alone at_i (.maybe .document)
    · simp only [readLeaf, readDocument, here, alone]
      cases v with
      | text s =>
        dsimp only
        split
        · rfl
        · split <;> rfl
      | _ => rfl
    · simp only [readLeaf, readDocument, here, alone]
      rfl
  · rfl

theorem read_ok_iff {i : Nat} (at_i : row.cells[i]? = some cell) :
    t.read r path row i = (r', .ok ()) ↔ t.taken? path cell r = some r' := by
  simp only [MappedType.read, MappedType.taken?, MappedType.given?]
  cases leafAt t.typeName path t.fields r with
  | error stray => simp
  | ok leaf =>
    have same := readLeaf_alone at_i leaf
    dsimp only
    rw [← same]
    cases readLeaf row i leaf with
    | error e => simp [Except.toOption]
    | ok new => simp [Except.toOption]

theorem populateByName_ok_iff :
    t.populateByName cs row r = (r', .ok ()) ↔ t.takenAll? (cs.known row.cells) r = some r' := by
  have run : ∀ (cells : List Cell) (i : Nat) (r : Record), (∀ j, row.cells[i + j]? = cells[j]?) →
      (t.populateCells cs row ((List.range' i cells.length).map fun i => (i, row.name? i)) r = (r', .ok ()) ↔
        t.takenAll? (cs.known cells) r = some r') := by
    intro cells
    induction cells with
    | nil =>
      intro i r _
      simp [MappedType.populateCells, Columns.known, MappedType.takenAll?]
    | cons cell rest ih =>
      intro i r same
      have here : row.cells[i]? = some cell := same 0
      have later : ∀ j, row.cells[i + 1 + j]? = rest[j]? := by
        intro j
        rw [Nat.add_assoc, Nat.add_comm 1]
        exact same (j + 1)
      have name : row.name? i = cell.name := by rw [Row.name?, here, Option.bind_some]
      rw [List.length_cons, List.range'_succ, List.map_cons, MappedType.populateCells, name]
      cases found : cell.name.bind cs.lookup with
      | none => simpa only [Columns.known, List.filterMap_cons, found, Option.map_none] using ih (i + 1) r later
      | some c =>
        simp only [Columns.known, List.filterMap_cons, found, Option.map_some, MappedType.takenAll?]
        cases taken : t.taken? c.path cell r with
        | some r₁ =>
          rw [(read_ok_iff here).mpr taken]
          exact ih (i + 1) r₁ later
        | none =>
          rcases read : t.read r c.path row i with ⟨r₁, e | _⟩
          · simp
          · rw [(read_ok_iff here).mp read] at taken
            cases taken
  have all := run row.cells 0 r fun j => by rw [Nat.zero_add]
  rwa [← List.range_eq_range'] at all

theorem taken?_eq_some (h : t.taken? path cell r = some r') :
    ∃ f old new, leafAt t.typeName path t.fields r = .ok (f, old) ∧ t.given? path cell r = some new ∧
      setLeaf new path t.fields r = r' := by
  obtain ⟨new, given, rfl⟩ := Option.map_eq_some_iff.mp h
  cases found : leafAt t.typeName path t.fields r with
  | error stray => simp [MappedType.given?, found] at given
  | ok leaf => exact ⟨leaf.1, leaf.2, new, rfl, given, rfl⟩

theorem confined_taken (fits : Fits t.fields r) (h : t.taken? path cell r = some r') :
    Confined t (· = path) r r' := by
  have read : t.read r path ⟨.memory, [cell]⟩ 0 = (r', .ok ()) := (read_ok_iff rfl).mpr h
  have confined := confined_read fits path ⟨.memory, [cell]⟩ 0
  rwa [read] at confined

theorem given?_congr {r' : Record} (same : leafAt t.typeName path t.fields r' = leafAt t.typeName path t.fields r)
    (cell : Cell) : t.given? path cell r' = t.given? path cell r := by
  rw [MappedType.given?, same, MappedType.given?]

theorem bind_taken? (fits : Fits t.fields r) (apart : other ≠ path) (cell cell' : Cell) :
    (t.taken? path cell r).bind (t.taken? other cell') = (t.given? path cell r).bind fun new =>
      (t.given? other cell' r).map fun new' => setLeaf new' other t.fields (setLeaf new path t.fields r) := by
  cases given : t.given? path cell r with
  | none => rw [MappedType.taken?, given, Option.map_none, Option.bind_none, Option.bind_none]
  | some new =>
    have taken : t.taken? path cell r = some (setLeaf new path t.fields r) := by
      rw [MappedType.taken?, given, Option.map_some]
    rw [taken, Option.bind_some, Option.bind_some, MappedType.taken?,
      given?_congr ((confined_taken fits taken).kept other apart)]

/-- Cells for different leaves can be read in either order. -/
theorem taken?_comm (fits : Fits t.fields r) (apart : other ≠ path) (cell cell' : Cell) :
    (t.taken? path cell r).bind (t.taken? other cell') = (t.taken? other cell' r).bind (t.taken? path cell) := by
  rw [bind_taken? fits apart, bind_taken? fits apart.symm]
  cases first : t.given? path cell r with
  | none => cases t.given? other cell' r <;> rfl
  | some new =>
    cases t.given? other cell' r with
    | none => rfl
    | some new' =>
      have taken : t.taken? path cell r = some (setLeaf new path t.fields r) := by
        rw [MappedType.taken?, first, Option.map_some]
      obtain ⟨f, old, _, found, -, -⟩ := taken?_eq_some taken
      exact congrArg some ((reaches_of_leafAt fits found).setLeaf_comm apart new new')

/-- Whether a cell can be read into a leaf does not depend on what was read before, even into the same leaf. -/
theorem isSome_taken? (fits : Fits t.fields r) (h : t.taken? path cell r = some r') (other : List Nat) (cell' : Cell) :
    (t.taken? other cell' r').isSome = (t.taken? other cell' r).isSome := by
  obtain ⟨f, old, new, found, -, rfl⟩ := taken?_eq_some h
  have confined := confined_taken fits h
  simp only [MappedType.taken?, Option.isSome_map]
  by_cases same : other = path
  · subst same
    have reaches := reaches_of_leafAt fits found
    have again := reaches.leafAt_setLeaf t.typeName new
    have fit := (reaches_of_leafAt (confined.fits fits) again).leafFits (confined.fits fits)
    simp only [MappedType.given?, found, again, readLeaf_eq fit, readLeaf_eq (reaches.leafFits fits)]
    cases f.reading ⟨.memory, [cell']⟩ 0 <;> rfl
  · rw [given?_congr (confined.kept other same)]

theorem takenAll?_perm {cells cells' : List (Column × Cell)} (arranged : cells.Perm cells') (fits : Fits t.fields r)
    (apart : (cells.map (·.1.path)).Nodup) : t.takenAll? cells r = t.takenAll? cells' r := by
  induction arranged generalizing r with
  | nil => rfl
  | cons x _ ih =>
    have later := (List.nodup_cons.mp apart).2
    rw [MappedType.takenAll?, MappedType.takenAll?]
    cases taken : t.taken? x.1.path x.2 r with
    | none => rfl
    | some r' => exact ih ((confined_taken fits taken).fits fits) later
  | swap x y cells =>
    have different : x.1.path ≠ y.1.path := by
      intro same
      exact (List.nodup_cons.mp apart).1 (List.mem_map.mpr ⟨x, List.mem_cons_self, same⟩)
    simp only [MappedType.takenAll?]
    rw [← Option.bind_assoc, ← Option.bind_assoc, taken?_comm fits different]
  | trans first _ ih ih' =>
    have apart' := (first.map fun x : Column × Cell => x.1.path).nodup_iff.mp apart
    exact (ih fits apart).trans (ih' fits apart')

theorem isSome_takenAll? {cells : List (Column × Cell)} (fits : Fits t.fields r) :
    (t.takenAll? cells r).isSome ↔ ∀ x ∈ cells, (t.taken? x.1.path x.2 r).isSome := by
  induction cells generalizing r with
  | nil => simp [MappedType.takenAll?]
  | cons x rest ih =>
    rw [MappedType.takenAll?, List.forall_mem_cons]
    cases taken : t.taken? x.1.path x.2 r with
    | none => simp
    | some r' =>
      rw [Option.bind_some, ih ((confined_taken fits taken).fits fits)]
      simp only [isSome_taken? fits taken, Option.isSome_some, true_and]

theorem mem_known {cells : List Cell} {x : Column × Cell} :
    x ∈ cs.known cells ↔ x.2 ∈ cells ∧ x.2.name.bind cs.lookup = some x.1 := by
  rw [Columns.known, List.mem_filterMap]
  constructor
  · rintro ⟨cell, there, paired⟩
    obtain ⟨c, found, rfl⟩ := Option.map_eq_some_iff.mp paired
    exact ⟨there, found⟩
  · rintro ⟨there, found⟩
    exact ⟨x.2, there, by rw [found, Option.map_some]⟩

theorem known_filter (cells : List Cell) :
    cs.known (cells.filter fun cell => (cell.name.bind cs.lookup).isSome) = cs.known cells := by
  rw [Columns.known, List.filterMap_filter, Columns.known]
  refine List.filterMap_congr fun cell _ => ?_
  cases cell.name.bind cs.lookup <;> rfl

theorem names_known (distinct : cs.bareNames.Nodup) (cells : List Cell) :
    (cs.known cells).map (fun x => cs.qualifier ++ x.1.columnName) =
      (cells.filterMap (·.name)).filter fun name => (cs.lookup name).isSome := by
  induction cells with
  | nil => rfl
  | cons cell rest ih =>
    simp only [Columns.known, List.filterMap_cons] at ih ⊢
    cases cell.name with
    | none => exact ih
    | some name =>
      cases found : cs.lookup name with
      | none => simpa [found] using ih
      | some c =>
        have named := ((Columns.lookup_eq_some_iff distinct).mp found).2
        simp only [Option.bind_some, found, Option.map_some, List.map_cons, Option.isSome_some, List.filter_cons_of_pos]
        rw [ih, ← named]

theorem column_eq_of_path (numbered : Numbered t.fields) {c d : Column}
    (hc : c ∈ Column.flatten t.table [] t.fields) (hd : d ∈ Column.flatten t.table [] t.fields)
    (same : c.path = d.path) : c = d := by
  have paths := nodup_leafPaths numbered
  rw [← Column.paths_flatten numbered t.table] at paths
  exact List.inj_on_of_nodup_map paths hc hd same

theorem nodup_known_paths (columns : cs.bareNames.Nodup) {cells : List Cell}
    (distinct : ((cells.filterMap (·.name)).filter fun name => (cs.lookup name).isSome).Nodup)
    (apart : ∀ x ∈ cs.known cells, ∀ y ∈ cs.known cells, x.1.path = y.1.path → x.1 = y.1) :
    ((cs.known cells).map (·.1.path)).Nodup := by
  rw [← names_known columns] at distinct
  refine (List.Nodup.of_map _ distinct).map_on fun x hx y hy same => ?_
  exact List.inj_on_of_nodup_map distinct hx hy (by rw [apart x hx y hy same])

theorem mem_items_of_known (columns : cs.bareNames.Nodup) {cells : List Cell} {x : Column × Cell}
    (hx : x ∈ cs.known cells) : x.1 ∈ cs.items := by
  obtain ⟨name, -, found⟩ := Option.bind_eq_some_iff.mp (mem_known.mp hx).2
  exact ((Columns.lookup_eq_some_iff columns).mp found).1

theorem Collection.mem_columns_of_lookup {c : Collection} (reached : c.Reachable) {name : Option String} {d : Column}
    (found : name.bind c.lookup = some d) : d ∈ c.columns := by
  obtain ⟨name, -, found⟩ := Option.bind_eq_some_iff.mp found
  exact ((Collection.lookup_iff (Collection.sound_of_reachable reached).indexed name d).mp found).1

theorem name?_of_mem_known {x : Column × Cell} (hx : x ∈ cs.known row.cells) :
    ∃ i, (row.name? i).bind cs.lookup = some x.1 := by
  obtain ⟨there, found⟩ := mem_known.mp hx
  obtain ⟨i, at_i⟩ := List.mem_iff_getElem?.mp there
  exact ⟨i, by rwa [Row.name?, at_i, Option.bind_some]⟩

/-- Whether a record is populated well can be told from each cell and the record as it was. -/
theorem populateByName_snd_iff (fits : Fits t.fields r) :
    (t.populateByName cs row r).2 = .ok () ↔
      ∀ i d, (row.name? i).bind cs.lookup = some d → (t.read r d.path row i).2 = .ok () := by
  have well : (t.populateByName cs row r).2 = .ok () ↔ (t.takenAll? (cs.known row.cells) r).isSome := by
    rw [Option.isSome_iff_exists]
    simp only [← populateByName_ok_iff, Prod.ext_iff, exists_and_right, exists_eq', true_and]
  rw [well, isSome_takenAll? fits]
  constructor
  · intro each i d found
    obtain ⟨name, named, -⟩ := Option.bind_eq_some_iff.mp found
    obtain ⟨cell, at_i, same⟩ := Option.bind_eq_some_iff.mp named
    have taken := each (d, cell) (mem_known.mpr ⟨List.mem_of_getElem? at_i, by rwa [same, ← named]⟩)
    obtain ⟨r', taken⟩ := Option.isSome_iff_exists.mp taken
    rw [(read_ok_iff at_i).mpr taken]
  · rintro each ⟨d, cell⟩ hx
    obtain ⟨there, found⟩ := mem_known.mp hx
    obtain ⟨i, at_i⟩ := List.mem_iff_getElem?.mp there
    have name : row.name? i = cell.name := by rw [Row.name?, at_i, Option.bind_some]
    have fine := each i d (by rwa [name])
    exact Option.isSome_iff_exists.mpr ⟨_, (read_ok_iff at_i).mp (Prod.ext rfl fine)⟩

/-- The order of the cells does not matter, nor do cells without a column: populating a record of a type goes well on
all such rows or on none, and gives one record. It goes well when each cell with a column can be read into its leaf of
the record as it was. Of the collection this asks that columns with a cell are for different leaves, as those of one
type are. -/
theorem populateByName_perm {c : Collection} (reached : c.Reachable) (fits : Fits t.fields r) {row' : Row}
    (arranged : row.cells.Perm row'.cells)
    (distinct : ((row.cells.filterMap (·.name)).filter fun name => (c.lookup name).isSome).Nodup)
    (apart : ∀ i j d e, (row.name? i).bind c.lookup = some d → (row.name? j).bind c.lookup = some e →
      d.path = e.path → d = e) :
    (∀ again, t.populateByName c.plain row r = (again, .ok ()) ↔
      t.populateByName c.plain row' r = (again, .ok ())) ∧
    (∀ again, t.populateByName c.plain row r = (again, .ok ()) ↔ t.populateByName c.plain
      { row with cells := row.cells.filter fun cell => (cell.name.bind c.lookup).isSome } r = (again, .ok ())) ∧
    ((t.populateByName c.plain row r).2 = .ok () ↔
      ∀ i d, (row.name? i).bind c.lookup = some d → (t.read r d.path row i).2 = .ok ()) := by
  have indexed := (Collection.sound_of_reachable reached).indexed
  have lookup := Collection.lookup_plain indexed
  rw [← lookup] at distinct apart ⊢
  refine ⟨fun again => ?_, fun again => ?_, populateByName_snd_iff fits⟩
  · have apart := nodup_known_paths indexed.distinct distinct fun x hx y hy => by
      obtain ⟨i, found⟩ := name?_of_mem_known hx
      obtain ⟨j, found'⟩ := name?_of_mem_known hy
      exact apart i j x.1 y.1 found found'
    have known : (c.plain.known row.cells).Perm (c.plain.known row'.cells) := arranged.filterMap _
    rw [populateByName_ok_iff, populateByName_ok_iff, takenAll?_perm known fits apart]
  · rw [populateByName_ok_iff, populateByName_ok_iff, known_filter]

def shuffled : List Cell :=
  [⟨some "x", .text, none⟩, ⟨some "p_marks", .jsonb, none⟩, ⟨some "p_street", .text, some [79, 97, 107]⟩,
    ⟨some "id", .int8, none⟩, ⟨some "x", .int8, none⟩, ⟨some "p_id", .int8, some [0, 0, 0, 0, 0, 0, 0, 9]⟩]

theorem populateByName_perm_shuffled :
    ∃ again, parcel.populateByName posting.plain ⟨.server, shuffled⟩ posted = (again, .ok ()) ∧
      parcel.populateByName posting.plain ⟨.memory, shuffled.reverse⟩ posted = (again, .ok ()) ∧
      parcel.populateByName posting.plain
        ⟨.server, [⟨some "p_marks", .jsonb, none⟩, ⟨some "p_street", .text, some [79, 97, 107]⟩,
          ⟨some "p_id", .int8, some [0, 0, 0, 0, 0, 0, 0, 9]⟩]⟩ posted = (again, .ok ()) ∧
      posting.plain.values parcel again =
        .ok [.field ⟨.plain .int64, .int64 9⟩, .field ⟨.plain .text, .text "Oak"⟩, .json (some "true")] := by
  have fits : Fits parcel.fields posted :=
    .plain (by decide +kernel) rfl (by decide) (.skipped (by decide +kernel)
      (.inlined (by decide +kernel) rfl
        (.plain (by decide +kernel) rfl (by decide) (.json (by decide +kernel) rfl .nil)) .nil))
  have numbered_below : Numbered [street, marks] := .cons (by decide) nofun (.cons (by decide) nofun .nil)
  have numbered : Numbered parcel.fields :=
    .cons (by decide) nofun (.cons (by decide) nofun (.cons (by decide)
      (fun _ _ same => by cases same; exact numbered_below) .nil))
  have reached : posting.Reachable := .withQualifier "p_" (.ofList _)
  have subset : ∀ d ∈ posting.columns, d ∈ Column.flatten parcel.table [] parcel.fields := by decide +kernel
  have arranged : (Row.mk .server shuffled).cells.Perm (Row.mk .memory shuffled.reverse).cells :=
    (List.reverse_perm shuffled).symm
  obtain ⟨reversed, dropped, -⟩ := populateByName_perm reached fits arranged (by decide +kernel)
    fun _ _ _ _ found found' => column_eq_of_path numbered (subset _ (Collection.mem_columns_of_lookup reached found))
      (subset _ (Collection.mem_columns_of_lookup reached found'))
  have left : shuffled.filter (fun cell => (cell.name.bind posting.lookup).isSome) =
      [⟨some "p_marks", .jsonb, none⟩, ⟨some "p_street", .text, some [79, 97, 107]⟩,
        ⟨some "p_id", .int8, some [0, 0, 0, 0, 0, 0, 0, 9]⟩] := by decide +kernel
  rw [left] at dropped
  have fine : (parcel.populateByName posting.plain ⟨.server, shuffled⟩ posted).2 = .ok () := by decide +kernel
  have values : posting.plain.values parcel (parcel.populateByName posting.plain ⟨.server, shuffled⟩ posted).1 =
      .ok [.field ⟨.plain .int64, .int64 9⟩, .field ⟨.plain .text, .text "Oak"⟩, .json (some "true")] := by
    decide +kernel
  generalize parcel.populateByName posting.plain ⟨.server, shuffled⟩ posted = x
    at fine values reversed dropped ⊢
  obtain ⟨again, result⟩ := x
  obtain rfl : result = .ok () := fine
  exact ⟨again, rfl, (reversed again).mp rfl, (dropped again).mp rfl, values⟩

end RowMapper
