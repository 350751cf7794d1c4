import Mathlib.Data.List.Perm.Basic
import Mathlib.Data.List.Lattice
import RowMapper.Proofs.Columns.Positions

/-!
The views of a collection. A view that has been made stays as it is, and it is still the view of the
current columns: whatever changes the columns gives up the views of them.
-/
namespace RowMapper.Collection

variable {c : Collection} {v : View} {path : List View}

/-- A collection made by any of the constructors and changed in any way. Asking for a view, or for a view
of a view, changes what a collection keeps, and gives a collection as well. -/
inductive Reachable : Collection → Prop where
  | qualified (qualifier : String) : Reachable (qualified qualifier)
  | ofList (columns : List Column) : Reachable (ofList columns)
  | filter {c : Collection} (keep : Column → Bool) : Reachable c → Reachable (c.filter keep)
  | copy {c : Collection} : Reachable c → Reachable c.copy
  | withQualifier {c : Collection} (qualifier : String) :
    Reachable c → Reachable (c.withQualifier qualifier)
  | concat {c d : Collection} : Reachable c → Reachable d → Reachable (c.concat d)
  | zero {c : Collection} (t : MappedType) (r : Record) : Reachable c → Reachable (c.zero t r)
  | notZero {c : Collection} (t : MappedType) (r : Record) : Reachable c → Reachable (c.notZero t r)
  | view {c : Collection} (path : List View) : Reachable c → Reachable (c.request path).1
  | asked {c : Collection} (path : List View) : Reachable c → Reachable (c.request path).2
  | add {c : Collection} (d : Column) : Reachable c → Reachable (c.add d)
  | remove {c : Collection} (name : String) : Reachable c → Reachable (c.remove name)

def IsView (v : View) (c made : Collection) : Prop :=
  made.qualifier = c.qualifier ∧ made.columns = c.columns.filter v.keeps

/-- The index is right, and every view that is kept is the view of the current columns. So it is for the
views of these views. -/
inductive Sound : Collection → Prop where
  | intro {c : Collection} (indexed : c.Indexed) (current : ∀ e ∈ c.made, IsView e.1 c e.2)
    (below : ∀ e ∈ c.made, Sound e.2) : Sound c

theorem Sound.indexed (h : Sound c) : c.Indexed := by
  cases h
  assumption

theorem Sound.of_made_nil (indexed : c.Indexed) (none : c.made = []) : Sound c :=
  .intro indexed (by simp [none]) (by simp [none])

theorem sound_gather (qualifier : String) (columns : List Column) : Sound (gather qualifier columns) :=
  .of_made_nil (indexed_gather qualifier columns) (made_gather qualifier columns)

theorem columns_gather (qualifier : String) {columns : List Column}
    (distinct : (columns.map (·.columnName)).Nodup) : (gather qualifier columns).columns = columns := by
  have gathered := congrArg Columns.items (plain_gather qualifier columns)
  exact gathered.trans (Columns.items_addAll (.qualified qualifier) columns distinct)

theorem qualifier_gather (qualifier : String) (columns : List Column) :
    (gather qualifier columns).qualifier = qualifier := by
  have keeps (c : Collection) : (c.pushAll columns).qualifier = c.qualifier := by
    induction columns generalizing c with
    | nil => rfl
    | cons d rest ih => exact (ih (c.push d)).trans (qualifier_push c d)
  exact keeps (qualified qualifier)

theorem columns_filter (h : c.Indexed) (keep : Column → Bool) :
    (c.filter keep).columns = c.columns.filter keep :=
  columns_gather c.qualifier (h.distinct.sublist (List.filter_sublist.map _))

theorem Sound.remove (h : Sound c) (name : String) : Sound (c.remove name) := by
  cases known : c.position? name with
  | none => simpa only [Collection.remove, known] using h
  | some i => exact .of_made_nil (h.indexed.remove name) (by simp only [Collection.remove, known])

theorem Sound.add (h : Sound c) (d : Column) : Sound (c.add d) := by
  have pushed := h.indexed.push d
  exact .of_made_nil ⟨pushed.distinct, pushed.found⟩ rfl

theorem mem_of_made? {made : Collection} (known : c.made? v = some made) : (v, made) ∈ c.made := by
  obtain ⟨⟨w, other⟩, found, rfl⟩ := Option.map_eq_some_iff.mp known
  have same : (w == v) = true := List.find?_some (p := fun e : View × Collection => e.1 == v) found
  rw [← eq_of_beq same]
  exact List.mem_of_find?_eq_some found

theorem isView_view (h : Sound c) (v : View) : IsView v c (c.view v) := by
  cases known : c.made? v with
  | none =>
    simp only [view, known, Option.getD_none]
    exact ⟨qualifier_gather _ _, columns_filter h.indexed v.keeps⟩
  | some made =>
    simp only [view, known, Option.getD_some]
    obtain ⟨_, current, _⟩ := h
    exact current _ (mem_of_made? known)

theorem Sound.view (h : Sound c) (v : View) : Sound (c.view v) := by
  cases known : c.made? v with
  | none =>
    simp only [Collection.view, known, Option.getD_none]
    exact sound_gather _ _
  | some made =>
    simp only [Collection.view, known, Option.getD_some]
    obtain ⟨_, _, below⟩ := h
    exact below _ (mem_of_made? known)

theorem Sound.keep {made : Collection} (h : Sound c) (current : IsView v c made) (sound : Sound made) :
    Sound (c.keep v made) := by
  obtain ⟨indexed, kept, below⟩ := h
  have older {e} (he : e ∈ (c.keep v made).made) : e = (v, made) ∨ e ∈ c.made := by
    rcases List.mem_cons.mp he with new | old
    · exact .inl new
    · exact .inr (List.mem_of_mem_filter old)
  refine .intro ⟨indexed.distinct, indexed.found⟩ (fun e he => ?_) fun e he => ?_
  · rcases older he with rfl | old
    · exact current
    · exact kept e old
  · rcases older he with rfl | old
    · exact sound
    · exact below e old

theorem plain_request (c : Collection) (path : List View) : (c.request path).2.plain = c.plain := by
  cases path <;> rfl

theorem Sound.request (h : Sound c) (path : List View) :
    Sound (c.request path).1 ∧ Sound (c.request path).2 := by
  induction path generalizing c with
  | nil => exact ⟨h, h⟩
  | cons v rest ih =>
    obtain ⟨answer, made⟩ := ih (h.view v)
    have same : ((c.view v).request rest).2.plain = (c.view v).plain := plain_request _ _
    obtain ⟨qualifier, columns⟩ := isView_view h v
    refine ⟨answer, h.keep ⟨?_, ?_⟩ made⟩
    · exact (congrArg Columns.qualifier same).trans qualifier
    · exact (congrArg Columns.items same).trans columns

theorem sound_of_reachable (h : Reachable c) : Sound c := by
  induction h with
  | qualified qualifier => exact .of_made_nil (indexed_qualified qualifier) rfl
  | ofList | filter | copy | withQualifier | concat | zero | notZero => exact sound_gather _ _
  | view path _ ih => exact (ih.request path).1
  | asked path _ ih => exact (ih.request path).2
  | add d _ ih => exact ih.add d
  | remove name _ ih => exact ih.remove name

theorem answer_request (h : Sound c) (path : List View) :
    (c.request path).1.qualifier = c.qualifier ∧
      (c.request path).1.columns = c.columns.filter fun d => path.all (·.keeps d) := by
  induction path generalizing c with
  | nil => exact ⟨rfl, by simp [Collection.request]⟩
  | cons v rest ih =>
    obtain ⟨qualifier, columns⟩ := isView_view h v
    obtain ⟨ih_qualifier, ih_columns⟩ := ih (h.view v)
    refine ⟨ih_qualifier.trans qualifier, ih_columns.trans ?_⟩
    rw [columns, List.filter_filter]
    refine List.filter_congr fun d _ => ?_
    rw [List.all_cons, Bool.and_comm]

theorem lookup_iff (h : c.Indexed) (name : String) (d : Column) :
    c.lookup name = some d ↔ d ∈ c.columns ∧ name = c.qualifier ++ d.columnName := by
  have named (bare : String) (i : Nat) (known : c.position? bare = some i) :
      ∃ e, c.columns[i]? = some e ∧ e.columnName = bare := by
    have there := (h.found bare i).mp known
    rwa [plain, Columns.bareNames, List.getElem?_map, Option.map_eq_some_iff] at there
  have bare_of (bare : List Char) (front : name.toList = c.qualifier.toList ++ bare) :
      name = c.qualifier ++ String.ofList bare := by
    rw [← String.toList_inj, String.toList_append, String.toList_ofList, front]
  constructor
  · intro found
    simp only [lookup] at found
    split at found
    · rename_i bare front
      obtain ⟨i, known, there⟩ := Option.bind_eq_some_iff.mp found
      obtain ⟨e, same_place, e_name⟩ := named _ i known
      obtain rfl : e = d := Option.some.inj (same_place.symm.trans there)
      exact ⟨List.mem_of_getElem? there, e_name ▸ bare_of bare (Text.dropFront?_eq_some.mp front)⟩
    · cases found
  · rintro ⟨there, rfl⟩
    obtain ⟨i, hi⟩ := List.mem_iff_getElem?.mp there
    have front : Text.dropFront? c.qualifier.toList (c.qualifier ++ d.columnName).toList =
        some d.columnName.toList := Text.dropFront?_eq_some.mpr String.toList_append
    have known : c.position? d.columnName = some i := by
      rw [h.found, plain, Columns.bareNames, List.getElem?_map, hi, Option.map_some]
    simp only [lookup, front, String.ofList_toList, known, Option.bind_some, hi]

/-- The index finds what a search through the columns finds. -/
theorem lookup_plain (h : c.Indexed) : c.plain.lookup = c.lookup := by
  funext name
  ext d
  rw [Columns.lookup_eq_some_iff h.distinct, lookup_iff h, plain]

def Split (whole left right : Collection) : Prop :=
  left.columns.Disjoint right.columns ∧ (left.columns ++ right.columns).Perm whole.columns

theorem split_of_filter {left right : Collection} (keep : Column → Bool)
    (left_columns : left.columns = c.columns.filter keep)
    (right_columns : right.columns = c.columns.filter fun d => !keep d) : Split c left right := by
  rw [Split, left_columns, right_columns]
  refine ⟨fun d hl hr => ?_, List.filter_append_perm keep c.columns⟩
  have kept := (List.mem_filter.mp hl).2
  have dropped := (List.mem_filter.mp hr).2
  simp [kept] at dropped

def sides : List (View × View) :=
  [(.primaryKeys, .notPrimaryKeys), (.uniqueKeys, .notUniqueKeys), (.autos, .notAutos),
    (.readOnly, .notReadOnly)]

theorem keeps_sides {left right : View} (h : (left, right) ∈ sides) (d : Column) :
    right.keeps d = !left.keeps d := by
  simp only [sides, List.mem_cons, List.not_mem_nil, Prod.mk.injEq, or_false] at h
  rcases h with ⟨rfl, rfl⟩ | ⟨rfl, rfl⟩ | ⟨rfl, rfl⟩ | ⟨rfl, rfl⟩ <;> rfl

/-- However a collection came about and whichever views were asked for on the way, its names are different,
its index is right, and whatever view is asked for now has the columns of now. -/
theorem views_current {c : Collection} (reached : Reachable c) :
    c.plain.bareNames.Nodup ∧
      (∀ name i, c.position? name = some i ↔ (c.columns[i]?).map (·.columnName) = some name) ∧
      (∀ name d, c.lookup name = some d ↔ d ∈ c.columns ∧ name = c.qualifier ++ d.columnName) ∧
      (∀ v, IsView v c (c.request [v]).1) ∧
      (∀ path, (c.request path).1.qualifier = c.qualifier ∧
        (c.request path).1.columns = c.columns.filter fun d => path.all (·.keeps d)) ∧
      (∀ path, (c.request path).2.plain = c.plain) ∧
      (∀ left right, (left, right) ∈ sides → Split c (c.request [left]).1 (c.request [right]).1) ∧
      ∀ t r, Split c (c.zero t r) (c.notZero t r) := by
  have sound := sound_of_reachable reached
  have indexed := sound.indexed
  refine ⟨indexed.distinct, fun name i => ?_, lookup_iff indexed, isView_view sound,
    answer_request sound, plain_request c, fun left right pair => ?_, fun t r => ?_⟩
  · rw [indexed.found, plain, Columns.bareNames, List.getElem?_map]
  · refine split_of_filter left.keeps (isView_view sound left).2 ?_
    exact (isView_view sound right).2.trans (List.filter_congr fun d _ => keeps_sides pair d)
  · exact split_of_filter _ (columns_filter indexed _) (columns_filter indexed _)

def key : Column := ⟨"id", "id", "i64", "", 0, [0], [], ⟨true, false, true, false, false, false, false⟩⟩

def note : Column := ⟨"note", "note", "String", "", 1, [1], [], .none⟩

def asked : Collection := ((ofList [note]).request [.primaryKeys]).2

def changed : Collection := (asked.add key).remove "note"

theorem views_current_changed :
    asked.made.map (·.1) = [.primaryKeys] ∧ (asked.request [.primaryKeys]).1.columns = [] ∧
      (changed.request [.primaryKeys]).1.columns = [key] ∧ changed.position? "id" = some 0 := by
  have reached : Reachable asked := .asked _ (.ofList [note])
  obtain ⟨_, _, _, none, _⟩ := views_current reached
  obtain ⟨_, positions, _, keys, _⟩ := views_current (.remove "note" (.add key reached))
  have columns : changed.columns = [key] := by decide +kernel
  refine ⟨by decide +kernel, (none .primaryKeys).2.trans (by decide +kernel), ?_, ?_⟩
  · exact (keys .primaryKeys).2.trans (congrArg (List.filter _) columns)
  · exact (positions "id" 0).mpr (by rw [← changed, columns]; rfl)

end RowMapper.Collection
