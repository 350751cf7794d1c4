import Mathlib.Data.List.Induction
import RowMapper.Proofs.Columns.Positions
import RowMapper.Proofs.Record.Flattening

/-!
The columns of a tree of fields. They are those of the leaves, in the order in which the leaves are declared, each with
the inlined fields above it, and a collection of them has one for each name.
-/
namespace RowMapper

/-! ### Places -/

/-- A field lies at a place of a tree, below a chain of inlined fields, outermost first. The place counts the fields
before it, and before each field of the chain, in their own lists. -/
inductive Lies : List Nat → List Field → List Field → Field → Prop where
  | here {i : Nat} {fields : List Field} {f : Field} (at_i : fields[i]? = some f) : Lies [i] fields [] f
  | inside {i : Nat} {place : List Nat} {fields inner chain : List Field} {f g : Field} {name : String}
    (at_i : fields[i]? = some f) (role : f.role = .inlined) (nested : f.nested = some (name, inner))
    (below : Lies place inner chain g) : Lies (i :: place) fields (f :: chain) g

/-- What holds of no fields, and of some when it holds of those behind and of those inside the first one, holds of
all. -/
theorem forest_induction {motive : List Field → Prop} (nil : motive [])
    (cons : ∀ f fields, (∀ name inner, f.nested = some (name, inner) → motive inner) → motive fields →
      motive (f :: fields)) : ∀ fields, motive fields
  | [] => nil
  | .mk index name tag typeText holding nested :: rest =>
    cons _ rest (fun below inner _same => forest_induction nil cons inner) (forest_induction nil cons rest)
termination_by fields => sizeOf fields
decreasing_by
  · obtain rfl : nested = some (below, inner) := _same
    simp only [List.cons.sizeOf_spec, Field.mk.sizeOf_spec, Option.some.sizeOf_spec, Prod.mk.sizeOf_spec]
    omega
  · simp only [List.cons.sizeOf_spec]
    omega

section
variable {place other : List Nat} {fields chain : List Field} {f g : Field}

theorem Lies.ne_nil (h : Lies place fields chain f) : place ≠ [] := by
  cases h <;> exact List.cons_ne_nil _ _

def behind : List Nat → List Nat
  | [] => []
  | i :: place => (i + 1) :: place

theorem behind_lt (h : place < other) : behind place < behind other := by
  rcases other with _ | ⟨j, rest⟩
  · exact absurd h (List.not_lt_nil _)
  rcases place with _ | ⟨i, more⟩
  · exact List.nil_lt_cons _ _
  · rcases List.cons_lt_cons_iff.mp h with earlier | ⟨rfl, later⟩
    · exact List.cons_lt_cons_iff.mpr (.inl (Nat.succ_lt_succ earlier))
    · exact List.cons_lt_cons_iff.mpr (.inr ⟨rfl, later⟩)

theorem lies_behind {i : Nat} :
    Lies ((i + 1) :: place) (f :: fields) chain g ↔ Lies (i :: place) fields chain g := by
  constructor
  · rintro (⟨at_i⟩ | ⟨at_i, role, nested, below⟩)
    · exact .here at_i
    · exact .inside at_i role nested below
  · rintro (⟨at_i⟩ | ⟨at_i, role, nested, below⟩)
    · exact .here at_i
    · exact .inside at_i role nested below

theorem lies_first : Lies (0 :: place) (f :: fields) chain g ↔ (place = [] ∧ chain = [] ∧ g = f) ∨
    ∃ name inner below, f.role = .inlined ∧ f.nested = some (name, inner) ∧ chain = f :: below ∧
      Lies place inner below g := by
  constructor
  · rintro (⟨at_0⟩ | @⟨_, _, _, inner, below, _, _, name, at_0, role, nested, lies⟩)
    · exact .inl ⟨rfl, rfl, (Option.some.inj at_0).symm⟩
    · obtain rfl := Option.some.inj at_0
      exact .inr ⟨name, inner, below, role, nested, rfl, lies⟩
  · rintro (⟨rfl, rfl, rfl⟩ | ⟨name, inner, below, role, nested, rfl, lies⟩)
    · exact .here rfl
    · exact .inside rfl role nested lies

end

/-- The indices of the fields increase in the list, and in the lists of the inlined fields. -/
inductive Ascending : List Field → Prop where
  | intro {fields : List Field} (level : (fields.map Field.index).Pairwise (· < ·))
    (below : ∀ f ∈ fields, ∀ name inner, f.role = .inlined → f.nested = some (name, inner) → Ascending inner) :
    Ascending fields

section
variable {place other : List Nat} {fields chain chain' : List Field} {f f' : Field}

theorem Lies.path_cons {i : Nat} (h : Lies (i :: place) fields chain f) :
    ∃ g more, fields[i]? = some g ∧ (chain ++ [f]).map Field.index = g.index :: more := by
  cases h with
  | here at_i => exact ⟨f, [], at_i, rfl⟩
  | inside at_i role nested below => exact ⟨_, _, at_i, rfl⟩

theorem Ascending.index_lt (h : Ascending fields) {i j : Nat} (earlier : i < j) (at_i : fields[i]? = some f)
    (at_j : fields[j]? = some f') : f.index < f'.index := by
  obtain ⟨level, -⟩ := h
  obtain ⟨hi, rfl⟩ := List.getElem?_eq_some_iff.mp at_i
  obtain ⟨hj, rfl⟩ := List.getElem?_eq_some_iff.mp at_j
  have lt := List.pairwise_iff_getElem.mp level i j (by simpa) (by simpa) earlier
  simpa using lt

theorem Ascending.path_lt (ascending : Ascending fields) {i j : Nat} (earlier : i < j)
    (h : Lies (i :: place) fields chain f) (h' : Lies (j :: other) fields chain' f') :
    (chain ++ [f]).map Field.index < (chain' ++ [f']).map Field.index := by
  obtain ⟨g, path, at_i, same⟩ := h.path_cons
  obtain ⟨g', path', at_j, same'⟩ := h'.path_cons
  rw [same, same']
  exact List.cons_lt_cons_iff.mpr (.inl (ascending.index_lt earlier at_i at_j))

theorem Lies.path_lt (h : Lies place fields chain f) (ascending : Ascending fields)
    (h' : Lies other fields chain' f') (later : place < other) :
    (chain ++ [f]).map Field.index < (chain' ++ [f']).map Field.index := by
  obtain ⟨j, rest, rfl⟩ := List.exists_cons_of_ne_nil h'.ne_nil
  induction h generalizing j rest chain' with
  | @here i fields f at_i =>
    rcases List.cons_lt_cons_iff.mp later with earlier | ⟨rfl, more⟩
    · exact ascending.path_lt earlier (.here at_i) h'
    · -- The field comes before what lies inside it.
      cases h' with
      | here => exact absurd more (List.not_lt_nil _)
      | @inside _ _ _ inner chain g _ _ at_i' role nested below =>
        obtain rfl : f = g := Option.some.inj (at_i.symm.trans at_i')
        refine List.cons_lt_cons_iff.mpr (.inr ⟨rfl, ?_⟩)
        cases chain <;> exact List.nil_lt_cons _ _
  | @inside i place fields inner chain f g name at_i role nested below ih =>
    rcases List.cons_lt_cons_iff.mp later with earlier | ⟨rfl, more⟩
    · exact ascending.path_lt earlier (.inside at_i role nested below) h'
    · cases h' with
      | here => exact absurd more (List.not_lt_nil _)
      | inside at_i' role' nested' below' =>
        obtain rfl := Option.some.inj (at_i.symm.trans at_i')
        obtain ⟨rfl, rfl⟩ := Prod.mk.inj (Option.some.inj (nested.symm.trans nested'))
        obtain ⟨-, inside⟩ := ascending
        have ascending := inside _ (List.mem_of_getElem? at_i) _ _ role nested
        obtain ⟨j, rest, rfl⟩ := List.exists_cons_of_ne_nil below'.ne_nil
        exact List.cons_lt_cons_iff.mpr (.inr ⟨rfl, ih ascending j rest below' more⟩)

end

/-! ### Columns -/

def chainParents (table : String) (before : List Nat) (chain : List Field) : List Parent :=
  chain.mapIdx fun k g => ⟨g.name, g.columnName, table, before ++ (chain.take (k + 1)).map Field.index⟩

theorem chainParents_cons (table : String) (before : List Nat) (f : Field) (chain : List Field) :
    chainParents table before (f :: chain) =
      f.asParent table before :: chainParents table (before ++ [f.index]) chain := by
  simp [chainParents, List.mapIdx_cons, Field.asParent]

/-- A column stands for a field below a chain of inlined ones, and below those that the given parents are for: it says
of the field what the field says on its own, and has its path, the table and the chain, innermost first. -/
structure Column.StandsFor (table : String) (above : List Parent) (chain : List Field) (f : Field) (c : Column) :
    Prop where
  own : Column.ofField? f = some { c with tableName := "", path := [c.index], parents := [] }
  tableName : c.tableName = table
  path : c.path = pathBefore above ++ (chain ++ [f]).map Field.index
  parents : c.parents = (chainParents table (pathBefore above) chain).reverse ++ above

namespace Column

variable {table : String} {above : List Parent} {chain : List Field} {f g : Field} {c : Column}

theorem standsFor_placed (own : ofField? f = some c) : (c.placed table above).StandsFor table above [] f := by
  obtain ⟨t, parsed, rfl⟩ := Option.map_eq_some_iff.mp own
  exact ⟨own, rfl, by cases above <;> rfl, rfl⟩

theorem StandsFor.below (h : c.StandsFor table (f.asParent table (pathBefore above) :: above) chain g) :
    c.StandsFor table above (f :: chain) g := by
  refine ⟨h.own, h.tableName, ?_, ?_⟩
  · rw [h.path]
    simp [pathBefore, Field.asParent]
  · rw [h.parents, chainParents_cons]
    simp [pathBefore, Field.asParent]

theorem StandsFor.path_eq (h : c.StandsFor table above chain f) : c.path = pathBefore c.parents ++ [c.index] := by
  have index : f.index = c.index := by
    obtain ⟨t, -, same⟩ := Option.map_eq_some_iff.mp h.own
    exact congrArg Column.index same
  rw [h.path, h.parents, ← index]
  clear h index
  induction chain generalizing above with
  | nil => rfl
  | cons g chain ih =>
    have deeper := @ih (g.asParent table (pathBefore above) :: above)
    simpa [chainParents_cons, pathBefore, Field.asParent] using deeper

theorem StandsFor.count_parents (h : c.StandsFor table [] chain f) : c.parents.length + 1 = c.path.length := by
  rw [h.parents, h.path]
  simp [chainParents, pathBefore]

theorem StandsFor.table_parents (h : c.StandsFor table [] chain f) : ∀ p ∈ c.parents, p.tableName = table := by
  intro p hp
  rw [h.parents, List.append_nil, List.mem_reverse, chainParents] at hp
  obtain ⟨k, hk, rfl⟩ := List.mem_mapIdx.mp hp
  rfl

end Column

/-- Places that are those of the leaves, in order, with columns that stand for the leaves there. -/
structure Census (table : String) (above : List Parent) (fields : List Field) (places : List (List Nat))
    (columns : List Column) : Prop where
  ordered : places.Pairwise (· < ·)
  all : ∀ place, place ∈ places ↔ ∃ chain f, Lies place fields chain f ∧ f.IsLeaf
  each : List.Forall₂ (fun place c => ∃ chain f, Lies place fields chain f ∧ f.IsLeaf ∧
    c.StandsFor table above chain f) places columns

structure CensusAtFirst (table : String) (above : List Parent) (f : Field) (fields : List Field)
    (places : List (List Nat)) (columns : List Column) : Prop where
  ordered : places.Pairwise (· < ·)
  starts : ∀ place ∈ places, ∃ more, place = 0 :: more
  all : ∀ more, 0 :: more ∈ places ↔ ∃ chain g, Lies (0 :: more) (f :: fields) chain g ∧ g.IsLeaf
  each : List.Forall₂ (fun place c => ∃ chain g, Lies place (f :: fields) chain g ∧ g.IsLeaf ∧
    c.StandsFor table above chain g) places columns

section
variable {table : String} {above : List Parent} {fields inner : List Field} {f : Field} {name : String}
  {places own : List (List Nat)} {columns first : List Column}

theorem CensusAtFirst.append (here : CensusAtFirst table above f fields own first)
    (rest : Census table above fields places columns) :
    Census table above (f :: fields) (own ++ places.map behind) (first ++ columns) := by
  -- The places behind the first field begin with a number above zero, those at it with zero.
  have counted : ∀ place ∈ places.map behind, ∃ i more, place = (i + 1) :: more ∧ i :: more ∈ places := by
    intro place there
    obtain ⟨place, hp, rfl⟩ := List.mem_map.mp there
    obtain ⟨chain, g, lies, -⟩ := (rest.all place).mp hp
    obtain ⟨i, more, rfl⟩ := List.exists_cons_of_ne_nil lies.ne_nil
    exact ⟨i, more, rfl, hp⟩
  refine ⟨List.pairwise_append.mpr ⟨here.ordered, List.pairwise_map.mpr (rest.ordered.imp behind_lt), ?_⟩, ?_, ?_⟩
  · intro place hp later hl
    obtain ⟨more, rfl⟩ := here.starts place hp
    obtain ⟨i, others, rfl, -⟩ := counted later hl
    exact List.cons_lt_cons_iff.mpr (.inl (Nat.succ_pos i))
  · intro place
    rw [List.mem_append]
    rcases place with _ | ⟨_ | i, more⟩
    · refine iff_of_false ?_ (fun ⟨_, _, lies, _⟩ => lies.ne_nil rfl)
      rintro (hp | hp)
      · obtain ⟨_, same⟩ := here.starts _ hp
        cases same
      · obtain ⟨_, _, same, -⟩ := counted _ hp
        cases same
    · rw [← here.all]
      refine or_iff_left fun hp => ?_
      obtain ⟨_, _, same, -⟩ := counted _ hp
      cases same
    · simp only [lies_behind, ← rest.all]
      refine ⟨?_, fun hp => .inr (List.mem_map.mpr ⟨_, hp, rfl⟩)⟩
      rintro (hp | hp)
      · obtain ⟨_, same⟩ := here.starts _ hp
        cases same
      · obtain ⟨_, _, same, hp⟩ := counted _ hp
        cases same
        exact hp
  · refine List.rel_append here.each (List.forall₂_map_left_iff.mpr (rest.each.imp ?_))
    rintro place c ⟨chain, g, lies, leaf, stands⟩
    obtain ⟨i, more, rfl⟩ := List.exists_cons_of_ne_nil lies.ne_nil
    exact ⟨chain, g, lies_behind.mpr lies, leaf, stands⟩

theorem censusAtFirst_skipped (role : f.role = .skipped) :
    CensusAtFirst table above f fields [] (Column.ofTree table above f) := by
  rw [Column.ofTree_skipped table above role]
  refine ⟨.nil, fun _ none => (nomatch none), fun more => iff_of_false List.not_mem_nil ?_, .nil⟩
  rintro ⟨chain, g, lies, leaf⟩
  rcases lies_first.mp lies with ⟨-, -, rfl⟩ | ⟨-, -, -, inlined, -⟩
  · exact leaf.not_skipped role
  · cases role.symm.trans inlined

theorem censusAtFirst_leaf (leaf : f.IsLeaf) :
    CensusAtFirst table above f fields [[0]] (Column.ofTree table above f) := by
  obtain ⟨c, own, columns⟩ := Column.ofTree_placed table above leaf
  rw [columns]
  refine ⟨List.pairwise_singleton _ _, fun place hp => ⟨[], List.mem_singleton.mp hp⟩, fun more => ?_,
    .cons ⟨[], f, .here rfl, leaf, Column.standsFor_placed own⟩ .nil⟩
  constructor
  · intro hp
    obtain rfl : more = [] := List.tail_eq_of_cons_eq (List.mem_singleton.mp hp)
    exact ⟨[], f, .here rfl, leaf⟩
  · rintro ⟨chain, g, lies, -⟩
    rcases lies_first.mp lies with ⟨rfl, -, -⟩ | ⟨-, -, -, inlined, -⟩
    · exact List.mem_singleton_self _
    · exact absurd inlined leaf.not_inlined

theorem censusAtFirst_inlined (role : f.role = .inlined) (nested : f.nested = some (name, inner))
    (inside : Census table (f.asParent table (pathBefore above) :: above) inner places
      (Column.flatten table (f.asParent table (pathBefore above) :: above) inner)) :
    CensusAtFirst table above f fields (places.map (0 :: ·)) (Column.ofTree table above f) := by
  rw [Column.ofTree_asParent table above role nested]
  refine ⟨List.pairwise_map.mpr (inside.ordered.imp fun lt => List.cons_lt_cons_iff.mpr (.inr ⟨rfl, lt⟩)),
    fun place hp => ?_, fun more => ?_, List.forall₂_map_left_iff.mpr (inside.each.imp ?_)⟩
  · obtain ⟨more, -, rfl⟩ := List.mem_map.mp hp
    exact ⟨more, rfl⟩
  · rw [List.mem_map_of_injective List.cons_injective, inside.all]
    constructor
    · rintro ⟨chain, g, lies, leaf⟩
      exact ⟨f :: chain, g, .inside rfl role nested lies, leaf⟩
    · rintro ⟨chain, g, lies, leaf⟩
      rcases lies_first.mp lies with ⟨-, -, rfl⟩ | ⟨name', inner', below, -, nested', -, lies⟩
      · exact absurd role leaf.not_inlined
      · obtain ⟨rfl, rfl⟩ := Prod.mk.inj (Option.some.inj (nested.symm.trans nested'))
        exact ⟨below, g, lies, leaf⟩
  · rintro place c ⟨chain, g, lies, leaf, stands⟩
    exact ⟨f :: chain, g, .inside rfl role nested lies, leaf, stands.below⟩

theorem exists_census (table : String) (above : List Parent) (fields : List Field) :
    ∃ places, Census table above fields places (Column.flatten table above fields) := by
  induction fields using forest_induction generalizing above with
  | nil =>
    refine ⟨[], .nil, fun place => iff_of_false List.not_mem_nil ?_, by rw [Column.flatten]; exact .nil⟩
    rintro ⟨chain, f, lies, -⟩
    cases lies with
    | here at_i => cases at_i
    | inside at_i => cases at_i
  | cons f fields ih_inside ih =>
    obtain ⟨places, rest⟩ := ih above
    rw [Column.flatten]
    cases role : f.role with
    | skipped => exact ⟨_, (censusAtFirst_skipped role).append rest⟩
    | inlined =>
      obtain ⟨name, inner, nested⟩ := Field.nested_of_inlined role
      obtain ⟨inside, census⟩ := ih_inside name inner nested (f.asParent table (pathBefore above) :: above)
      exact ⟨_, (censusAtFirst_inlined role nested census).append rest⟩
    | plain => exact ⟨_, (censusAtFirst_leaf (.inl role)).append rest⟩
    | json => exact ⟨_, (censusAtFirst_leaf (.inr role)).append rest⟩

theorem Census.paths_increase (h : Census table above fields places columns) (ascending : Ascending fields) :
    (columns.map (·.path)).Pairwise (· < ·) := by
  obtain ⟨count, each⟩ := List.forall₂_iff_get.mp h.each
  rw [List.pairwise_map, List.pairwise_iff_getElem]
  intro i j hi hj earlier
  have lt := List.pairwise_iff_getElem.mp h.ordered i j (count ▸ hi) (count ▸ hj) earlier
  obtain ⟨chain, f, lies, -, stands⟩ := each i (count ▸ hi) hi
  obtain ⟨chain', f', lies', -, stands'⟩ := each j (count ▸ hj) hj
  have path := stands.path
  have path' := stands'.path
  rw [List.get_eq_getElem] at path path'
  rw [path, path']
  exact List.append_left_lt (lies.path_lt ascending lies' lt)

end

/-! ### Collections -/

theorem Columns.find?_putIn (c : Column) (items : List Column) (name : String) :
    (putIn c items).find? (·.columnName == name) =
      if c.columnName = name then some c else items.find? (·.columnName == name) := by
  induction items with
  | nil => by_cases same : c.columnName = name <;> simp [putIn, same]
  | cons d rest ih =>
    rw [putIn]
    by_cases taken : d.columnName = c.columnName
    · by_cases same : c.columnName = name <;> simp [taken, same]
    · rw [if_neg taken, List.find?_cons, List.find?_cons, ih]
      by_cases same : c.columnName = name
      · have other : (d.columnName == name) = false := beq_eq_false_iff_ne.mpr (same ▸ taken)
        simp only [if_pos same, other]
      · rw [if_neg same, if_neg same]

theorem Collection.columns_ofList_append (front : List Column) (c : Column) :
    (ofList (front ++ [c])).columns = Columns.putIn c (ofList front).columns := by
  have plain (columns : List Column) : (ofList columns).columns = (Columns.empty.addAll columns).items :=
    congrArg Columns.items (plain_gather "" columns)
  rw [plain, plain, Columns.addAll, List.foldl_append]
  rfl

/-- A collection has each name where it occurs first. -/
theorem Collection.names_ofList (columns : List Column) :
    (ofList columns).columns.map (·.columnName) = (columns.map (·.columnName)).eraseDups := by
  induction columns using List.reverseRecOn with
  | nil => rfl
  | append_singleton front c ih =>
    rw [columns_ofList_append, Columns.names_putIn, ih, List.map_append, List.map_singleton, List.eraseDups_append]
    simp only [List.mem_eraseDups]
    generalize front.map (·.columnName) = names
    by_cases there : c.columnName ∈ names
    · have nothing : [c.columnName].removeAll names = [] := by simp [List.removeAll, there]
      rw [if_pos there, nothing, List.eraseDups_nil, List.append_nil]
    · have all : [c.columnName].removeAll names = [c.columnName] := by simp [List.removeAll, there]
      rw [if_neg there, all, List.eraseDups_cons, List.filter_nil, List.eraseDups_nil]

/-- A collection has of each name the column that occurs last. -/
theorem Collection.find?_ofList (columns : List Column) (name : String) :
    (ofList columns).columns.find? (·.columnName == name) = columns.findRev? (·.columnName == name) := by
  induction columns using List.reverseRecOn with
  | nil => rfl
  | append_singleton front c ih =>
    rw [columns_ofList_append, Columns.find?_putIn, ih, List.findRev?_eq_find?_reverse,
      List.findRev?_eq_find?_reverse, List.reverse_append, List.reverse_singleton, List.singleton_append,
      List.find?_cons]
    by_cases same : c.columnName = name
    · rw [if_pos same, beq_iff_eq.mpr same]
    · rw [if_neg same, beq_eq_false_iff_ne.mpr same]

/-- The columns of a tree of fields are those of its leaves, in the order of their places. Each goes one index further
than the nearest inlined field above it, and has as many fields above it as indices before its own, all of the table.
Where the indices increase in each list of fields, so do the paths. A collection of the columns has one for each name,
where the name occurs first, and the one that occurs last. -/
theorem columns_of_tree (table : String) (fields : List Field) :
    (∃ places, Census table [] fields places (Column.flatten table [] fields)) ∧
    (∀ c ∈ Column.flatten table [] fields, c.path = pathBefore c.parents ++ [c.index] ∧
      c.parents.length + 1 = c.path.length ∧ c.tableName = table ∧ ∀ p ∈ c.parents, p.tableName = table) ∧
    (Ascending fields → ((Column.flatten table [] fields).map (·.path)).Pairwise (· < ·) ∧
      ((Column.flatten table [] fields).map (·.path)).Nodup) ∧
    (Collection.ofList (Column.flatten table [] fields)).columns.map (·.columnName) =
      ((Column.flatten table [] fields).map (·.columnName)).eraseDups ∧
    ∀ name, (Collection.ofList (Column.flatten table [] fields)).columns.find? (·.columnName == name) =
      (Column.flatten table [] fields).findRev? (·.columnName == name) := by
  obtain ⟨places, census⟩ := exists_census table [] fields
  refine ⟨⟨places, census⟩, fun c hc => ?_, fun ascending => ?_, Collection.names_ofList _, Collection.find?_ofList _⟩
  · obtain ⟨count, each⟩ := List.forall₂_iff_get.mp census.each
    obtain ⟨i, hi, rfl⟩ := List.getElem_of_mem hc
    obtain ⟨chain, f, -, -, stands⟩ := each i (count ▸ hi) hi
    exact ⟨stands.path_eq, stands.count_parents, stands.tableName, stands.table_parents⟩
  · have increase := census.paths_increase ascending
    refine ⟨increase, increase.imp ?_⟩
    rintro path _ lt rfl
    exact List.lt_irrefl path lt

def harbor : List Field :=
  [.mk 0 "id" "id" "String" (.plain (.plain .text)) none,
    .mk 2 "spot" "spot,inline" "Spot" (.plain (.plain .text)) (some ("Spot",
      [.mk 0 "seen" "-" "bool" (.plain (.plain .bool)) none,
        .mk 1 "lat" "" "String" (.plain (.plain .text)) none]))]

def voyage : List Field :=
  [.mk 0 "id" "id,pk" "i64" (.plain (.plain .int64)) none,
    .mk 1 "memo" "-" "String" (.plain (.plain .text)) none,
    .mk 3 "home" "home,inline" "Harbor" (.plain (.plain .text)) (some ("Harbor", harbor)),
    .mk 4 "log" "log,json" "Log" (.document .any) none]

def latitude : Column :=
  ⟨"lat", "lat", "String", "voyages", 1, [3, 2, 1],
    [⟨"spot", "spot", "voyages", [3, 2]⟩, ⟨"home", "home", "voyages", [3]⟩], .none⟩

theorem columns_of_tree_voyage :
    Ascending voyage ∧ latitude ∈ Column.flatten "voyages" [] voyage ∧
      latitude.path = pathBefore latitude.parents ++ [latitude.index] ∧
      (Column.flatten "voyages" [] voyage).map (·.path) = [[0], [3, 0], [3, 2, 1], [4]] ∧
      ((Column.flatten "voyages" [] voyage).map (·.path)).Pairwise (· < ·) ∧
      (Collection.ofList (Column.flatten "voyages" [] voyage)).columns.map (fun c => (c.columnName, c.path)) =
        [("id", [3, 0]), ("lat", [3, 2, 1]), ("log", [4])] := by
  have spot : Ascending [.mk 0 "seen" "-" "bool" (.plain (.plain .bool)) none,
      .mk 1 "lat" "" "String" (.plain (.plain .text)) none] := by
    refine ⟨by decide, fun f hf name inner role nested => ?_⟩
    simp only [List.mem_cons, List.not_mem_nil, or_false] at hf
    rcases hf with rfl | rfl <;> cases nested
  have inside : Ascending harbor := by
    refine ⟨by decide, fun f hf name inner role nested => ?_⟩
    simp only [harbor, List.mem_cons, List.not_mem_nil, or_false] at hf
    rcases hf with rfl | rfl
    · cases nested
    · cases nested
      exact spot
  have ascending : Ascending voyage := by
    refine ⟨by decide, fun f hf name inner role nested => ?_⟩
    simp only [voyage, List.mem_cons, List.not_mem_nil, or_false] at hf
    rcases hf with rfl | rfl | rfl | rfl
    · cases nested
    · cases nested
    · cases nested
      exact inside
    · cases nested
  have there : latitude ∈ Column.flatten "voyages" [] voyage := by decide +kernel
  obtain ⟨-, each, increase, -⟩ := columns_of_tree "voyages" voyage
  exact ⟨ascending, there, (each latitude there).1, by decide +kernel, (increase ascending).1, by decide +kernel⟩

end RowMapper
