import RowMapper.Proofs.Columns.Trees
import RowMapper.Proofs.Columns.Views

/-!
Collections put together. A column that comes later takes the place of the one with its name, so the order is
that of the first collection that has a name and the column is that of the last one. Columns that were put
together before are put in as they were, and so it does not matter which two of three come first.
-/
namespace RowMapper

namespace Columns

variable {c : Column} {items : List Column} {cs ds : Columns}

theorem filter_putIn (c : Column) (items : List Column) :
    (putIn c items).filter (·.columnName != c.columnName) = items.filter (·.columnName != c.columnName) := by
  induction items with
  | nil => simp [putIn]
  | cons d rest ih =>
    rw [putIn]
    by_cases same : d.columnName = c.columnName
    · simp [same]
    · rw [if_neg same, List.filter_cons, List.filter_cons, ih]

theorem items_addAll_congr (same : cs.items = ds.items) (more : List Column) :
    (cs.addAll more).items = (ds.addAll more).items := by
  induction more generalizing cs ds with
  | nil => exact same
  | cons c rest ih => exact ih (congrArg (putIn c) same)

theorem bareNames_addAll (cs : Columns) {more : List Column} (distinct : (more.map (·.columnName)).Nodup) :
    (cs.addAll more).bareNames =
      cs.bareNames ++ (more.map (·.columnName)).filter (· ∉ cs.bareNames) := by
  induction more generalizing cs with
  | nil => exact (List.append_nil _).symm
  | cons c rest ih =>
    obtain ⟨unique, distinct⟩ := List.nodup_cons.mp distinct
    have put : (cs.add c).bareNames =
        if c.columnName ∈ cs.bareNames then cs.bareNames else cs.bareNames ++ [c.columnName] :=
      names_putIn c cs.items
    have rest_put : (cs.addAll (c :: rest)).bareNames = _ := ih (cs.add c) distinct
    rw [rest_put, put, List.map_cons, List.filter_cons]
    by_cases there : c.columnName ∈ cs.bareNames
    · simp [there]
    · -- The name is not among the later ones, so these are new as they were before.
      have as_before : (rest.map (·.columnName)).filter (· ∉ cs.bareNames ++ [c.columnName]) =
          (rest.map (·.columnName)).filter (· ∉ cs.bareNames) := by
        refine List.filter_congr fun name later => ?_
        have other : name ≠ c.columnName := by
          rintro rfl
          exact unique later
        simp [other]
      have new : decide (c.columnName ∉ cs.bareNames) = true := decide_eq_true there
      simp only [if_neg there, as_before, if_pos new, List.append_assoc, List.singleton_append]

/-- The column of a name is the last one that was added, or the one that was there. -/
theorem find?_addAll (cs : Columns) {more : List Column} (distinct : (more.map (·.columnName)).Nodup)
    (name : String) :
    (cs.addAll more).items.find? (·.columnName == name) =
      (more.find? (·.columnName == name)).or (cs.items.find? (·.columnName == name)) := by
  induction more generalizing cs with
  | nil => rfl
  | cons c rest ih =>
    obtain ⟨unique, distinct⟩ := List.nodup_cons.mp distinct
    have rest_added : (cs.addAll (c :: rest)).items.find? (·.columnName == name) = _ :=
      ih (cs.add c) distinct
    have added : (cs.add c).items.find? (·.columnName == name) = _ := find?_putIn c cs.items name
    rw [rest_added, added, List.find?_cons]
    by_cases same : c.columnName = name
    · have none_later : rest.find? (·.columnName == name) = none := by
        rw [List.find?_eq_none]
        intro d later
        have other : d.columnName ≠ c.columnName := by
          intro e
          exact unique (List.mem_map.mpr ⟨d, later, e⟩)
        simpa [← same] using other
      rw [if_pos same, none_later, beq_iff_eq.mpr same]
      rfl
    · rw [if_neg same, beq_eq_false_iff_ne.mpr same]

end Columns

namespace Collection

variable {a b c : Collection} {d e : Column}

theorem Indexed.names_distinct (h : c.Indexed) : (c.columns.map (·.columnName)).Nodup := h.distinct

theorem pushAll_append (c : Collection) (ds es : List Column) :
    c.pushAll (ds ++ es) = (c.pushAll ds).pushAll es :=
  List.foldl_append

theorem push_push_of_same (c : Collection) (same : d.columnName = e.columnName) :
    (c.push d).push e = c.push e := by
  have place := position?_push c d e.columnName
  rw [if_pos same] at place
  rw [push_of_there place]
  cases known : c.position? d.columnName with
  | some i =>
    rw [push_of_there known, push_of_there (same ▸ known), ← same, known, Option.getD_some, List.set_set]
  | none =>
    rw [push_of_new known, push_of_new (same ▸ known), ← same, known, Option.getD_none,
      List.set_append_right _ _ (Nat.le_refl _), Nat.sub_self, List.set_cons_zero]

theorem push_push_comm (h : c.Indexed) {i : Nat} (there : c.position? d.columnName = some i)
    (other : d.columnName ≠ e.columnName) : (c.push e).push d = (c.push d).push e := by
  have after_e := position?_push c e d.columnName
  have after_d := position?_push c d e.columnName
  rw [if_neg other.symm, there] at after_e
  rw [if_neg other] at after_d
  have named := (h.found _ i).mp there
  rw [push_of_there after_e, push_of_there there]
  cases known : c.position? e.columnName with
  | some j =>
    have apart : i ≠ j := by
      rintro rfl
      exact other (Option.some.inj (named.symm.trans ((h.found _ i).mp known)))
    rw [push_of_there there, known] at after_d
    rw [push_of_there known, push_of_there after_d, List.set_comm _ _ apart.symm]
  | none =>
    have inside : i < c.columns.length := by
      have bound := (List.getElem?_eq_some_iff.mp named).1
      rwa [plain, Columns.bareNames, List.length_map] at bound
    rw [push_of_there there, known] at after_d
    rw [push_of_new known, push_of_new after_d, List.set_append_left _ _ inside, List.length_set]

theorem push_pushAll_comm (h : c.Indexed) {i : Nat} (there : c.position? d.columnName = some i)
    {es : List Column} (others : d.columnName ∉ es.map (·.columnName)) :
    (c.pushAll es).push d = (c.push d).pushAll es := by
  induction es generalizing c with
  | nil => rfl
  | cons e rest ih =>
    obtain ⟨other, others⟩ := not_or.mp (others ∘ List.mem_cons.mpr)
    have still : (c.push e).position? d.columnName = some i := by
      rw [position?_push, if_neg (Ne.symm other), there]
    calc (c.pushAll (e :: rest)).push d
      _ = ((c.push e).push d).pushAll rest := ih (h.push e) still others
      _ = (c.push d).pushAll (e :: rest) := by rw [push_push_comm h there other]; rfl

/-- To replace a column in a list and to put the new one in after all others comes to the same. -/
theorem pushAll_putIn (h : c.Indexed) {es : List Column} (distinct : (es.map (·.columnName)).Nodup)
    (d : Column) : c.pushAll (Columns.putIn d es) = (c.pushAll es).push d := by
  induction es generalizing c with
  | nil => rfl
  | cons e rest ih =>
    obtain ⟨unique, distinct⟩ := List.nodup_cons.mp distinct
    rw [Columns.putIn]
    by_cases same : e.columnName = d.columnName
    · have there : (c.push e).position? d.columnName = some ((c.position? d.columnName).getD c.columns.length) := by
        rw [position?_push, if_pos same]
      calc c.pushAll (if e.columnName = d.columnName then d :: rest else e :: Columns.putIn d rest)
        _ = (c.push d).pushAll rest := by rw [if_pos same]; rfl
        _ = ((c.push e).push d).pushAll rest := by rw [push_push_of_same c same]
        _ = (c.pushAll (e :: rest)).push d := (push_pushAll_comm (h.push e) there (same ▸ unique)).symm
    · rw [if_neg same]
      exact ih (h.push e) distinct

theorem pushAll_gather (h : c.Indexed) (qualifier : String) (ds : List Column) :
    c.pushAll (gather qualifier ds).columns = c.pushAll ds := by
  induction ds using List.reverseRecOn with
  | nil => rfl
  | append_singleton front d ih =>
    have gathered : gather qualifier (front ++ [d]) = (gather qualifier front).push d :=
      pushAll_append _ front [d]
    have front_indexed := indexed_gather qualifier front
    rw [gathered, columns_push front_indexed, pushAll_putIn h front_indexed.names_distinct, ih,
      pushAll_append]
    rfl

theorem push_of_mem (h : c.Indexed) (there : d ∈ c.columns) : c.push d = c := by
  obtain ⟨i, hi⟩ := List.mem_iff_getElem?.mp there
  have known : c.position? d.columnName = some i := by
    rw [h.found, plain, Columns.bareNames, List.getElem?_map, hi, Option.map_some]
  obtain ⟨inside, rfl⟩ := List.getElem?_eq_some_iff.mp hi
  rw [push_of_there known, List.set_getElem_self inside]
  cases c
  rfl

theorem pushAll_of_subset (h : c.Indexed) {ds : List Column} (there : ds ⊆ c.columns) : c.pushAll ds = c := by
  induction ds with
  | nil => rfl
  | cons d rest ih =>
    obtain ⟨first, later⟩ := List.cons_subset.mp there
    calc c.pushAll (d :: rest)
      _ = (c.push d).pushAll rest := rfl
      _ = c := by rw [push_of_mem h first, ih later]

theorem columns_withQualifier (h : a.Indexed) (qualifier : String) :
    (a.withQualifier qualifier).columns = a.columns :=
  columns_gather qualifier h.distinct

theorem indexed_withQualifier (a : Collection) (qualifier : String) : (a.withQualifier qualifier).Indexed :=
  indexed_gather qualifier a.columns

theorem concat_eq (a b : Collection) : a.concat b = (a.withQualifier "").pushAll b.columns :=
  pushAll_append _ a.columns b.columns

theorem concat_assoc (a b c : Collection) : (a.concat b).concat c = a.concat (b.concat c) := by
  have front : (a.concat b).withQualifier "" = a.concat b :=
    pushAll_gather (indexed_qualified "") "" (a.columns ++ b.columns)
  have back : (a.withQualifier "").pushAll (b.concat c).columns =
      (a.withQualifier "").pushAll (b.columns ++ c.columns) :=
    pushAll_gather (indexed_withQualifier a "") "" (b.columns ++ c.columns)
  calc (a.concat b).concat c
    _ = ((a.withQualifier "").pushAll b.columns).pushAll c.columns := by rw [concat_eq, front, concat_eq]
    _ = (a.withQualifier "").pushAll (b.columns ++ c.columns) := (pushAll_append _ _ _).symm
    _ = a.concat (b.concat c) := by rw [concat_eq, back]

theorem concat_self (h : a.Indexed) : a.concat a = a.withQualifier "" := by
  rw [concat_eq]
  refine pushAll_of_subset (indexed_withQualifier a "") ?_
  rw [columns_withQualifier h]
  exact List.Subset.refl _

theorem items_concat (h : a.Indexed) (b : Collection) :
    (a.concat b).plain.items = (a.plain.addAll b.columns).items := by
  have put : (a.concat b).plain = (a.withQualifier "").plain.addAll b.columns := by
    rw [concat_eq]
    exact plain_pushAll (indexed_withQualifier a "") b.columns
  have own : (a.withQualifier "").plain.items = a.plain.items := columns_withQualifier h ""
  rw [put, Columns.items_addAll_congr own]

theorem plain_addEach (h : a.Indexed) (ds : List Column) : (ds.foldl add a).plain = a.plain.addAll ds := by
  induction ds generalizing a with
  | nil => rfl
  | cons d rest ih =>
    have pushed := h.push d
    have put : (a.add d).plain = a.plain.add d := by
      simp only [plain, add, columns_push h, qualifier_push]
      rfl
    have rest_put := ih (a := a.add d) ⟨pushed.distinct, pushed.found⟩
    rwa [put] at rest_put

theorem lookup_qualified (h : a.Indexed) (name : String) :
    a.lookup (a.qualifier ++ name) = a.columns.find? (·.columnName == name) := by
  have front : Text.dropFront? a.plain.qualifier.toList (a.qualifier ++ name).toList = some name.toList :=
    Text.dropFront?_eq_some.mpr String.toList_append
  rw [← lookup_plain h, Columns.lookup, front]
  simp only [String.ofList_toList]
  rfl

/-- The same columns at the same positions, and the same views, however they came about. -/
structure Agree (c d : Collection) : Prop where
  plain : c.plain = d.plain
  positions : ∀ name, c.position? name = d.position? name
  views : ∀ path, (c.request path).1.plain = (d.request path).1.plain

theorem agree_of_plain {d : Collection} (hc : Sound c) (hd : Sound d) (same : c.plain = d.plain) : Agree c d := by
  refine ⟨same, fun name => ?_, fun path => ?_⟩
  · ext i
    rw [hc.indexed.found, hd.indexed.found, same]
  · obtain ⟨qualifier, columns⟩ := answer_request hc path
    obtain ⟨qualifier', columns'⟩ := answer_request hd path
    have same_qualifier : c.qualifier = d.qualifier := congrArg Columns.qualifier same
    have same_columns : c.columns = d.columns := congrArg Columns.items same
    rw [Collection.plain, Collection.plain, qualifier, columns, qualifier', columns', same_qualifier, same_columns]

theorem columns_remove_add (h : a.Indexed) (d : Column) :
    ((a.remove d.columnName).add d).columns = a.columns.filter (·.columnName != d.columnName) ++ [d] := by
  have removed := h.remove d.columnName
  have gone : d.columnName ∉ (a.remove d.columnName).columns.map (·.columnName) := by
    rw [columns_remove h]
    simp
  rw [add, columns_push removed, Columns.putIn_of_new gone, columns_remove h]

theorem plain_add_remove (h : a.Indexed) (d : Column) :
    ((a.add d).remove d.columnName).plain = (a.remove d.columnName).plain := by
  have pushed := h.push d
  have added : (a.add d).Indexed := ⟨pushed.distinct, pushed.found⟩
  have keeps (c : Collection) (name : String) : (c.remove name).qualifier = c.qualifier := by
    simp only [remove]
    split <;> rfl
  have columns : (a.add d).columns = Columns.putIn d a.columns := columns_push h d
  rw [plain, plain, columns_remove added, columns_remove h, keeps, keeps, columns, Columns.filter_putIn]
  exact congrArg (Columns.mk · _) (qualifier_push a d)

/-- Collections are ordered maps from names to columns. Two of them put together have the names of the first and then
the new ones of the second, each with the column of the second if it has one, and no qualifier. Which of three are
put together first makes no difference; without columns there is nothing to put in, and what is there changes
nothing. To add the columns one by one comes to the same columns. A name that is taken out after it was put in is
gone, and a column that is added after that comes last. -/
theorem concat_ordered {a b : Collection} (reached : Reachable a) (reached' : Reachable b) (c : Collection) :
    (a.concat b).qualifier = "" ∧
      (a.concat b).plain.bareNames =
        a.plain.bareNames ++ b.plain.bareNames.filter (· ∉ a.plain.bareNames) ∧
      (a.concat b).plain.bareNames.Nodup ∧
      (∀ name, (a.concat b).lookup name =
        (b.lookup (b.qualifier ++ name)).or (a.lookup (a.qualifier ++ name))) ∧
      (a.concat b).concat c = a.concat (b.concat c) ∧
      (∀ qualifier, (qualified qualifier).concat a = a.withQualifier "" ∧
        a.concat (qualified qualifier) = a.withQualifier "") ∧
      a.concat a = a.withQualifier "" ∧
      (∀ qualifier, (a.withQualifier qualifier).plain = { a.plain with qualifier := qualifier }) ∧
      (b.columns.foldl add a).columns = (a.concat b).columns ∧
      ∀ d : Column,
        Agree ((a.add d).remove d.columnName) (a.remove d.columnName) ∧
        (a.remove d.columnName).columns = a.columns.filter (·.columnName != d.columnName) ∧
        ((a.remove d.columnName).add d).columns = a.columns.filter (·.columnName != d.columnName) ++ [d] ∧
        (((a.add d).remove d.columnName).add d).columns =
          a.columns.filter (·.columnName != d.columnName) ++ [d] := by
  have sound := sound_of_reachable reached
  have indexed := sound.indexed
  have indexed' := (sound_of_reachable reached').indexed
  have whole : (a.concat b).Indexed := indexed_gather "" (a.columns ++ b.columns)
  have unqualified : (a.concat b).qualifier = "" := qualifier_gather "" _
  refine ⟨unqualified, ?_, whole.distinct, fun name => ?_, concat_assoc a b c, fun qualifier => ⟨rfl, ?_⟩,
    concat_self indexed, fun qualifier => ?_, ?_,
    fun d => ⟨?_, columns_remove indexed _, columns_remove_add indexed d, ?_⟩⟩
  · rw [Columns.bareNames, items_concat indexed]
    exact Columns.bareNames_addAll a.plain indexed'.names_distinct
  · -- Without a qualifier on the whole, the parts are asked for the name behind their own.
    have bare := lookup_qualified whole name
    rw [unqualified, String.empty_append] at bare
    rw [bare, lookup_qualified indexed, lookup_qualified indexed']
    calc (a.concat b).columns.find? (·.columnName == name)
      _ = (a.plain.addAll b.columns).items.find? (·.columnName == name) :=
        congrArg (List.find? _) (items_concat indexed b)
      _ = _ := Columns.find?_addAll a.plain indexed'.names_distinct name
  · exact congrArg (gather "") (List.append_nil _)
  · rw [plain, columns_withQualifier indexed, withQualifier, qualifier_gather]
    rfl
  · exact (congrArg Columns.items (plain_addEach indexed b.columns)).trans (items_concat indexed b).symm
  · exact agree_of_plain ((sound.add d).remove _) (sound.remove _) (plain_add_remove indexed d)
  · have pushed := indexed.push d
    have added : (a.add d).Indexed := ⟨pushed.distinct, pushed.found⟩
    have columns : (a.add d).columns = Columns.putIn d a.columns := columns_push indexed d
    rw [columns_remove_add added, columns, Columns.filter_putIn]

def noted : Collection := (ofList [key, note]).withQualifier "n_"

def noteKey : Column := { note with flags := key.flags }

def rank : Column := ⟨"rank", "rank", "i64", "", 2, [2], [], .none⟩

def ranked : Collection := ofList [noteKey, rank]

theorem concat_ordered_ranked :
    noted.lookup "n_note" = some note ∧
      (noted.concat ranked).plain = ⟨"", [key, noteKey, rank]⟩ ∧
      (noted.concat ranked).lookup "note" = some noteKey ∧
      (noted.concat ranked).concat noted = noted.concat (ranked.concat noted) ∧
      ((noted.concat ranked).concat noted).columns = [key, note, rank] ∧
      (ranked.columns.foldl add noted).plain = ⟨"n_", [key, noteKey, rank]⟩ ∧
      ((noted.remove "id").add key).columns = [note, key] := by
  have reached : Reachable noted := .withQualifier _ (.ofList _)
  have reached' : Reachable ranked := .ofList _
  obtain ⟨-, -, -, named, assoc, -, -, -, -, each⟩ := concat_ordered reached reached' noted
  obtain ⟨-, -, last, -⟩ := each key
  refine ⟨by decide +kernel, by decide +kernel, ?_, assoc, by decide +kernel, by decide +kernel, ?_⟩
  · exact (named "note").trans (by decide +kernel)
  · exact last.trans (by decide +kernel)

end Collection

end RowMapper
