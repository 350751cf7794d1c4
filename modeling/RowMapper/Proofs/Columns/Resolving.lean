import Mathlib.Data.List.Basic
import RowMapper.Catalog

/-!
What a catalog hands out over any sequence of look-ups. Everything goes by the key: the first type that is
looked up under a key makes the columns of all that have this key. A key is a name and a mark joined by a
character that both may hold, so that two types of different names can have one key.
-/
namespace RowMapper

/-- Two texts split at a separator are one text when they are split at the same place, or one is split
within a part of the other. -/
theorem append_cons_eq_append_cons_iff {α : Type} {x : α} {a b a' b' : List α} :
    a ++ x :: b = a' ++ x :: b' ↔ (a = a' ∧ b = b') ∨
      ∃ m, (a' = a ++ x :: m ∧ b = m ++ x :: b') ∨ (a = a' ++ x :: m ∧ b' = m ++ x :: b) := by
  constructor
  · intro joined
    rcases List.append_eq_append_iff.mp joined with ⟨m, rfl, rest⟩ | ⟨m, rfl, rest⟩
    · cases m with
      | nil => exact .inl ⟨(List.append_nil a).symm, (List.cons.inj rest).2⟩
      | cons y m =>
        obtain ⟨rfl, rfl⟩ := List.cons.inj rest
        exact .inr ⟨m, .inl ⟨rfl, rfl⟩⟩
    · cases m with
      | nil => exact .inl ⟨List.append_nil a', (List.cons.inj rest).2.symm⟩
      | cons y m =>
        obtain ⟨rfl, rfl⟩ := List.cons.inj rest
        exact .inr ⟨m, .inr ⟨rfl, rfl⟩⟩
  · rintro (⟨rfl, rfl⟩ | ⟨m, ⟨rfl, rfl⟩ | ⟨rfl, rfl⟩⟩) <;> simp

namespace MappedType

def mark (t : MappedType) : String := t.cacheKey.getD t.table

/-- The name of one type goes on into the mark of the other, and both have the same key. -/
def Overlaps (t u : MappedType) : Prop :=
  ∃ shared, (u.typeName = t.typeName ++ "_" ++ shared ∧ t.mark = shared ++ "_" ++ u.mark) ∨
    (t.typeName = u.typeName ++ "_" ++ shared ∧ u.mark = shared ++ "_" ++ t.mark)

theorem catalogKey_eq_iff {t u : MappedType} : t.catalogKey = u.catalogKey ↔
    (t.typeName = u.typeName ∧ t.mark = u.mark) ∨ t.Overlaps u := by
  have parts (v : MappedType) : v.catalogKey.toList = v.typeName.toList ++ '_' :: v.mark.toList := by
    simp [catalogKey, mark]
  rw [← String.toList_inj, parts, parts, append_cons_eq_append_cons_iff]
  simp only [Overlaps, ← String.toList_inj, String.toList_append]
  constructor
  · rintro (same | ⟨m, inside⟩)
    · exact .inl same
    · exact .inr ⟨.ofList m, by simpa using inside⟩
  · rintro (same | ⟨shared, inside⟩)
    · exact .inl same
    · exact .inr ⟨shared.toList, by simpa using inside⟩

theorem not_overlaps_self (t : MappedType) : ¬ t.Overlaps t := by
  rintro ⟨shared, ⟨name, -⟩ | ⟨name, -⟩⟩ <;>
  · have longer := congrArg String.length name
    simp only [String.length_append] at longer
    have : "_".length = 1 := rfl
    omega

end MappedType

namespace Catalog

variable {c : Catalog} {key : String} {cs : Columns} {i : Nat}

theorem find?_append (key k : String) (es : List (String × Columns)) (cs : Columns) :
    find? key (es ++ [(k, cs)]) = (find? key es).or (if k = key then some (es.length, cs) else none) := by
  induction es with
  | nil => by_cases same : k = key <;> simp [find?, same]
  | cons e es ih =>
    by_cases same : e.1 = key
    · simp [find?, same]
    · simp only [List.cons_append, find?, if_neg same, ih, Option.map_or, List.length_cons]
      split <;> rfl

theorem getElem?_of_find? {es : List (String × Columns)} (found : find? key es = some (i, cs)) :
    es[i]? = some (key, cs) := by
  induction es generalizing i with
  | nil => simp [find?] at found
  | cons e es ih =>
    by_cases same : e.1 = key
    · simp only [find?, same, if_true, Option.some.injEq, Prod.mk.injEq] at found
      obtain ⟨rfl, rfl⟩ := found
      simp [← same]
    · simp only [find?, same, if_false, Option.map_eq_some_iff, Prod.mk.injEq] at found
      obtain ⟨⟨j, cs'⟩, found, rfl, rfl⟩ := found
      simpa using ih found

theorem resolve_of_find? {t : MappedType} (found : find? t.catalogKey c.entries = some (i, cs)) :
    c.resolve t = (⟨i, cs, false⟩, c) := by
  simp [resolve, resolveWith, found]

theorem resolve_of_new {t : MappedType} (new : find? t.catalogKey c.entries = none) :
    c.resolve t = (⟨c.entries.length, t.columns, true⟩, ⟨c.entries ++ [(t.catalogKey, t.columns)]⟩) := by
  simp [resolve, resolveWith, new]

def resolveAll (c : Catalog) : List MappedType → List Resolved × Catalog
  | [] => ([], c)
  | t :: ts =>
    let (r, c) := c.resolve t
    let (rs, c) := c.resolveAll ts
    (r :: rs, c)

/-- Each key has the columns of the first type that was looked up under it. -/
def Files (past : List MappedType) (c : Catalog) : Prop :=
  ∀ key, (find? key c.entries).map (·.2) = (past.find? (·.catalogKey == key)).map (·.columns)

def Within (c d : Catalog) : Prop :=
  ∀ key found, find? key c.entries = some found → find? key d.entries = some found

theorem files_empty : Files [] empty := fun _ => rfl

theorem files_resolve {past : List MappedType} (h : Files past c) (t : MappedType) :
    Files (past ++ [t]) (c.resolve t).2 := by
  intro key
  have before := h key
  cases found : find? t.catalogKey c.entries with
  | some entry =>
    rw [resolve_of_find? found, List.find?_append]
    by_cases same : t.catalogKey = key
    · subst same
      rw [before]
      rw [found] at before
      cases first : past.find? (·.catalogKey == t.catalogKey) with
      | none => simp [first] at before
      | some u => simp
    · simp [before, same]
  | none =>
    rw [resolve_of_new found, List.find?_append, find?_append]
    by_cases same : t.catalogKey = key
    · subst same
      have fresh : past.find? (·.catalogKey == t.catalogKey) = none := by
        simpa [found] using (h t.catalogKey).symm
      simp [found, fresh]
    · simp [before, same]

theorem files_resolveAll {past : List MappedType} (h : Files past c) (ts : List MappedType) :
    Files (past ++ ts) (c.resolveAll ts).2 := by
  induction ts generalizing past c with
  | nil => simpa [resolveAll] using h
  | cons t ts ih => simpa [resolveAll] using ih (files_resolve h t)

theorem within_resolve (c : Catalog) (t : MappedType) : c.Within (c.resolve t).2 := by
  intro key entry there
  cases found : find? t.catalogKey c.entries with
  | some entry => rwa [resolve_of_find? found]
  | none => simp [resolve_of_new found, find?_append, there]

theorem within_resolveAll (c : Catalog) (ts : List MappedType) : c.Within (c.resolveAll ts).2 := by
  induction ts generalizing c with
  | nil => exact fun _ _ there => there
  | cons t ts ih => exact fun key entry there => ih _ key entry (within_resolve c t key entry there)

theorem find?_resolve (c : Catalog) (t : MappedType) : find? t.catalogKey (c.resolve t).2.entries =
    some ((c.resolve t).1.instanceNumber, (c.resolve t).1.columns) := by
  cases found : find? t.catalogKey c.entries with
  | some entry => rw [resolve_of_find? found]; exact found
  | none => simp [resolve_of_new found, find?_append, found]

theorem getElem?_resolveAll (c : Catalog) (ts : List MappedType) (i : Nat) :
    (c.resolveAll ts).1[i]? = ts[i]?.map fun t => ((c.resolveAll (ts.take i)).2.resolve t).1 := by
  induction ts generalizing c i with
  | nil => simp [resolveAll]
  | cons t ts ih =>
    cases i with
    | zero => simp [resolveAll]
    | succ i => simp [resolveAll, ih]

theorem find?_resolveAll {ts : List MappedType} {t : MappedType} {r : Resolved} (asked : ts[i]? = some t)
    (given : (c.resolveAll ts).1[i]? = some r) :
    find? t.catalogKey (c.resolveAll ts).2.entries = some (r.instanceNumber, r.columns) := by
  induction ts generalizing c i with
  | nil => simp at asked
  | cons u ts ih =>
    cases i with
    | zero =>
      obtain rfl : u = t := by simpa using asked
      obtain rfl : (c.resolve u).1 = r := by simpa [resolveAll] using given
      exact within_resolveAll _ ts _ _ (find?_resolve c u)
    | succ i =>
      have rest : ((c.resolve u).2.resolveAll ts).1[i]? = some r := by simpa [resolveAll] using given
      exact ih (by simpa using asked) rest

theorem built_resolve (c : Catalog) (t : MappedType) :
    (c.resolve t).1.built = true ↔ find? t.catalogKey c.entries = none := by
  cases found : find? t.catalogKey c.entries with
  | some entry => simp [resolve_of_find? found]
  | none => simp [resolve_of_new found]

theorem Files.built_iff {past : List MappedType} (h : Files past c) (t : MappedType) :
    (c.resolve t).1.built = true ↔ ∀ u ∈ past, u.catalogKey ≠ t.catalogKey := by
  have same := h t.catalogKey
  rw [built_resolve]
  constructor
  · intro new
    have none_before : past.find? (·.catalogKey == t.catalogKey) = none := by simpa [new] using same.symm
    simpa using none_before
  · intro other
    have none_before : past.find? (·.catalogKey == t.catalogKey) = none := by simpa using other
    simpa [none_before] using same

theorem instanceNumber_eq_iff {ts : List MappedType} {t u : MappedType} {r q : Resolved} {j : Nat}
    (asked : ts[i]? = some t) (given : (c.resolveAll ts).1[i]? = some r)
    (asked' : ts[j]? = some u) (given' : (c.resolveAll ts).1[j]? = some q) :
    q.instanceNumber = r.instanceNumber ↔ u.catalogKey = t.catalogKey := by
  have one := find?_resolveAll asked given
  have other := find?_resolveAll asked' given'
  constructor
  · intro same
    have filed := getElem?_of_find? other
    rw [same, getElem?_of_find? one] at filed
    exact (Prod.mk.inj (Option.some.inj filed)).1.symm
  · intro same
    rw [same, one] at other
    exact (Prod.mk.inj (Option.some.inj other)).1.symm

theorem columns_resolveAll {ts : List MappedType} {t : MappedType} {r : Resolved} (asked : ts[i]? = some t)
    (given : (empty.resolveAll ts).1[i]? = some r) :
    ∃ k u, k ≤ i ∧ ts[k]? = some u ∧ u.catalogKey = t.catalogKey ∧
      (∀ v ∈ ts.take k, v.catalogKey ≠ t.catalogKey) ∧ r.columns = u.columns := by
  have filed : Files ts (empty.resolveAll ts).2 := files_resolveAll files_empty ts
  have shown := filed t.catalogKey
  rw [find?_resolveAll asked given] at shown
  obtain ⟨u, first, same⟩ := Option.map_eq_some_iff.mp shown.symm
  obtain ⟨key, k, inside, rfl, before⟩ := List.find?_eq_some_iff_getElem.mp first
  refine ⟨k, ts[k], ?_, List.getElem?_eq_getElem inside, by simpa using key, ?_, same.symm⟩
  -- The look-up itself is of a type with the key, so the first one does not come after it.
  · by_contra later
    have := before i (Nat.lt_of_not_le later)
    obtain ⟨_, here⟩ := List.getElem?_eq_some_iff.mp asked
    simp [here] at this
  · intro v earlier
    obtain ⟨j, bound, rfl⟩ := List.mem_take_iff_getElem.mp earlier
    simpa using before j (by omega)

/-- What the operations of a type go by is what a catalog hands out for it, whatever was looked up before, as long as
the types under its key have its columns. -/
theorem mappedColumns_eq_resolved {ts : List MappedType} {t : MappedType} {r : Resolved} (asked : ts[i]? = some t)
    (given : (empty.resolveAll ts).1[i]? = some r)
    (own : ∀ u ∈ ts, u.catalogKey = t.catalogKey → u.columns = t.columns) :
    t.mappedColumns = if r.columns.isEmpty then .error (.unmappedType t.typeName) else .ok r.columns := by
  obtain ⟨k, u, -, first, key, -, same⟩ := columns_resolveAll asked given
  rw [same, own u (List.mem_of_getElem? first) key, MappedType.mappedColumns]

/-- Types of different names, looked up in any order and any number of times. A type gets the columns of the
first type that has its key: its own, made at its first look-up and never again, unless a type whose name
and mark overlap with its own was looked up before. All results of a type are one instance, and it is shared
with just the types that overlap with it. -/
theorem resolved_by_key (ts : List MappedType)
    (named : ∀ t ∈ ts, ∀ u ∈ ts, t.typeName = u.typeName → t = u) {t : MappedType} (asked : ts[i]? = some t) :
    ∃ r, (empty.resolveAll ts).1[i]? = some r ∧
      (∃ k u, k ≤ i ∧ ts[k]? = some u ∧ (u = t ∨ u.Overlaps t) ∧
        (∀ v ∈ ts.take k, v ≠ t ∧ ¬ v.Overlaps t) ∧ r.columns = u.columns) ∧
      ((∀ v ∈ ts.take i, ¬ v.Overlaps t) → r.columns = t.columns) ∧
      (r.built = true ↔ ∀ v ∈ ts.take i, v ≠ t ∧ ¬ v.Overlaps t) ∧
      ∀ (j : Nat) (u : MappedType) (q : Resolved), ts[j]? = some u → (empty.resolveAll ts).1[j]? = some q →
        (q.instanceNumber = r.instanceNumber ↔ u = t ∨ u.Overlaps t) := by
  have here : t ∈ ts := List.mem_of_getElem? asked
  have shared (u : MappedType) (there : u ∈ ts) : u.catalogKey = t.catalogKey ↔ u = t ∨ u.Overlaps t := by
    rw [MappedType.catalogKey_eq_iff]
    refine or_congr_left ⟨fun same => named u there t here same.1, ?_⟩
    rintro rfl
    exact ⟨rfl, rfl⟩
  have apart (k : Nat) : (∀ v ∈ ts.take k, v.catalogKey ≠ t.catalogKey) ↔
      ∀ v ∈ ts.take k, v ≠ t ∧ ¬ v.Overlaps t :=
    forall₂_congr fun v earlier => by rw [ne_eq, shared v (List.mem_of_mem_take earlier), not_or]
  have given : (empty.resolveAll ts).1[i]? = some ((empty.resolveAll (ts.take i)).2.resolve t).1 := by
    rw [getElem?_resolveAll, asked, Option.map_some]
  have filed : Files (ts.take i) (empty.resolveAll (ts.take i)).2 := files_resolveAll files_empty _
  obtain ⟨k, u, early, first, key, before, same⟩ := columns_resolveAll asked given
  have owner : u = t ∨ u.Overlaps t := (shared u (List.mem_of_getElem? first)).mp key
  refine ⟨_, given, ⟨k, u, early, first, owner, (apart k).mp before, same⟩, ?_, ?_, ?_⟩
  · intro clear
    rcases Nat.lt_or_eq_of_le early with earlier | rfl
    · have taken : (ts.take i)[k]? = some u := by rw [List.getElem?_take_of_lt earlier, first]
      rw [same, owner.resolve_right (clear u (List.mem_of_getElem? taken))]
    · rw [same, Option.some.inj (first.symm.trans asked)]
  · rw [filed.built_iff, apart]
  · intro j v q asked' given'
    rw [instanceNumber_eq_iff asked given asked' given', shared v (List.mem_of_getElem? asked')]

def orderNumber : Field := .mk 0 "id" "id,pk" "i64" (.plain (.plain .int64)) none

def order : MappedType where
  typeName := "shop::Order"
  table := "orders"
  cacheKey := some "archive_v2"
  fields := [orderNumber, .mk 1 "total" "total" "i64" (.plain (.plain .int64)) none]
  ownPopulation := none

def orderSummary : MappedType where
  typeName := "shop::OrderSummary"
  table := "orders"
  cacheKey := some "summary"
  fields := [orderNumber]
  ownPopulation := none

/-- Its table is named for the version, so that its key is that of an order. -/
def orderArchive : MappedType where
  typeName := "shop::Order_archive"
  table := "v2"
  cacheKey := none
  fields := [orderNumber, .mk 1 "note" "note" "String" (.plain (.plain .text)) none]
  ownPopulation := none

theorem resolved_by_key_summary :
    (∀ t ∈ [order, orderSummary, order], ∀ u ∈ [order, orderSummary, order],
      t.typeName = u.typeName → t = u) ∧
    ∃ r q, (empty.resolveAll [order, orderSummary, order]).1[2]? = some r ∧
      (empty.resolveAll [order, orderSummary, order]).1[0]? = some q ∧
      r.columns = order.columns ∧ r.built = false ∧ q.instanceNumber = r.instanceNumber := by
  have named : ∀ t ∈ [order, orderSummary, order], ∀ u ∈ [order, orderSummary, order],
      t.typeName = u.typeName → t = u := by
    simp [order, orderSummary]
  have clear : ∀ v ∈ [order, orderSummary], ¬ v.Overlaps order := by
    have other : orderSummary.catalogKey ≠ order.catalogKey := by decide +kernel
    simp only [List.mem_cons, List.not_mem_nil, or_false]
    rintro v (rfl | rfl)
    · exact MappedType.not_overlaps_self order
    · exact fun overlap => other (MappedType.catalogKey_eq_iff.mpr (.inr overlap))
  obtain ⟨r, given, -, own, built, one⟩ := resolved_by_key [order, orderSummary, order] named (i := 2) rfl
  refine ⟨named, r, _, given, rfl, own clear, ?_, (one 0 order _ rfl rfl).mpr (.inl rfl)⟩
  rw [Bool.eq_false_iff, ne_eq, built]
  exact fun fresh => (fresh order List.mem_cons_self).1 rfl

/-- After an order the archive gets the order's columns. -/
theorem order_columns_for_archive : order.typeName ≠ orderArchive.typeName ∧
    (empty.resolveAll [order, orderArchive]).1 = [⟨0, order.columns, true⟩, ⟨0, order.columns, false⟩] ∧
    order.columns.names = ["id", "total"] ∧ orderArchive.columns.names = ["id", "note"] := by
  have key : orderArchive.catalogKey = order.catalogKey := by decide +kernel
  have made : empty.resolve order = (⟨0, order.columns, true⟩, ⟨[(order.catalogKey, order.columns)]⟩) :=
    resolve_of_new rfl
  have found : (⟨[(order.catalogKey, order.columns)]⟩ : Catalog).resolve orderArchive =
      (⟨0, order.columns, false⟩, ⟨[(order.catalogKey, order.columns)]⟩) :=
    resolve_of_find? (by rw [key, find?, if_pos rfl])
  refine ⟨by decide +kernel, ?_, by decide +kernel, by decide +kernel⟩
  simp only [resolveAll, made, found]

end Catalog

end RowMapper
