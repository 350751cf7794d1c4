import Mathlib.Algebra.Order.Group.Multiset
import Mathlib.Data.List.Nodup
import Mathlib.Tactic.Abel
import RowMapper.LabelMap
import RowMapper.Proofs.Cache.Recovery

/-!
The map and the queue of labels, used in any way, stay in step: they are one list of labels with their values in the
order of the last use, and every call answers what it answers on that list. From this follows what is dropped to make
room, and that no value is lost or answered twice.
-/
namespace RowMapper

variable {α : Type}

namespace Labels

variable {r : Labels α} {label : String} {v : α}

theorem perm_cons_without (distinct : (r.entries.map (·.1)).Nodup) (bound : r.value? label = some v) :
    r.entries.Perm ((label, v) :: r.without label) := by
  have once : r.entries.Nodup := distinct.of_map _
  have apart : (label, v) ∉ r.without label := fun there => (mem_without.mp there).2 rfl
  refine (List.perm_ext_iff_of_nodup once (List.nodup_cons.mpr ⟨apart, once.filter _⟩)).mpr fun e => ?_
  rw [List.mem_cons, mem_without]
  constructor
  · intro there
    by_cases own : e.1 = label
    · have value := value?_of_mem distinct there
      rw [own, bound] at value
      exact .inl (Prod.ext own (Option.some.inj value).symm)
    · exact .inr ⟨there, own⟩
  · rintro (rfl | ⟨there, -⟩)
    · exact mem_of_value? bound
    · exact there

theorem perm_rebound (distinct : (r.entries.map (·.1)).Nodup) (bound : r.value? label = some v) :
    (r.rebound label v).Perm r.entries :=
  (List.perm_append_singleton _ _).trans (perm_cons_without distinct bound).symm

def Fits (r : Labels α) : Prop := ∀ n, r.capacity = some n → r.entries.length ≤ n

theorem Fits.of_length_le {r' : Labels α} (h : r.Fits) (capacity : r'.capacity = r.capacity)
    (fewer : r'.entries.length ≤ r.entries.length) : r'.Fits :=
  fun n limit => Nat.le_trans fewer (h n (capacity ▸ limit))

theorem Fits.get (h : r.Fits) (distinct : (r.entries.map (·.1)).Nodup) (label : String) : (r.get label).2.Fits := by
  cases bound : r.value? label with
  | none => rwa [get_of_none bound]
  | some v =>
    rw [get_of_some bound]
    exact h.of_length_le rfl (perm_rebound distinct bound).length_eq.le

theorem Fits.insertNew (h : r.Fits) (distinct : (r.entries.map (·.1)).Nodup) (label : String) (v : α) :
    (r.insertNew label v).2.Fits := by
  have used := h.get distinct label
  cases bound : r.value? label with
  | none =>
    rw [insertNew_of_none bound]
    exact fun n limit => length_drop_excess r.capacity _ limit
  | some old =>
    rw [get_of_some bound] at used
    simpa only [Labels.insertNew, get_of_some bound] using used

theorem Fits.remove (h : r.Fits) (label : String) : (r.remove label).2.Fits :=
  h.of_length_le rfl (without_sublist r label).length_le

end Labels

namespace LabelMap

/-- The map and the queue together are one list. -/
structure Represents (m : LabelMap α) (r : Labels α) : Prop where
  capacity : m.capacity = r.capacity
  order : m.order = r.entries.map (·.1)
  distinct : m.order.Nodup
  values : ∀ label, m.map[label]? = r.value? label

variable {m : LabelMap α} {r : Labels α} {label : String} {v : α}

theorem represents_new (capacity : Option Nat) : (new capacity : LabelMap α).Represents (.empty capacity) :=
  ⟨rfl, rfl, List.nodup_nil, fun label => by simp [new, Labels.empty, Labels.value?]⟩

theorem Represents.distinct_entries (h : m.Represents r) : (r.entries.map (·.1)).Nodup := h.order ▸ h.distinct

theorem Represents.toList_perm (h : m.Represents r) : m.map.toList.Perm r.entries := by
  have once : m.map.toList.Nodup :=
    List.Nodup.of_map (·.1) (Std.HashMap.map_fst_toList_eq_keys (m := m.map) ▸ Std.HashMap.nodup_keys)
  refine (List.perm_ext_iff_of_nodup once (h.distinct_entries.of_map _)).mpr fun e => ?_
  rw [Std.HashMap.mem_toList_iff_getElem?_eq_some, h.values]
  exact ⟨Labels.mem_of_value?, Labels.value?_of_mem h.distinct_entries⟩

theorem Represents.size_eq (h : m.Represents r) : m.size = r.entries.length := by
  rw [size, ← Std.HashMap.length_toList, h.toList_perm.length_eq]

theorem Represents.mem_order_iff (h : m.Represents r) : label ∈ m.order ↔ label ∈ m.map := by
  rw [h.order, Std.HashMap.mem_iff_isSome_getElem?, h.values, Option.isSome_iff_ne_none, ne_eq,
    Labels.value?_eq_none_iff]
  simp

section Touch

theorem capacity_touch (m : LabelMap α) (label : String) : (m.touch label).capacity = m.capacity := by
  simp only [touch]
  split
  · rfl
  · split <;> rfl

theorem map_touch (m : LabelMap α) (label : String) : (m.touch label).map = m.map := by
  simp only [touch]
  split
  · rfl
  · split <;> rfl

theorem order_touch (distinct : m.order.Nodup) (there : label ∈ m.order) :
    (m.touch label).order = m.order.filter (· != label) ++ [label] := by
  obtain ⟨i, found⟩ := Option.isSome_iff_exists.mp (List.isSome_idxOf?.mpr there)
  obtain ⟨inside, at_, -⟩ := List.idxOf?_eq_some_iff.mp found
  have place : m.order.idxOf label = i := by rw [List.idxOf_eq_getD_idxOf?, found, Option.getD_some]
  have read : m.order[i]? = some label := by rw [List.getElem?_eq_getElem inside, at_]
  simp only [touch, found, read]
  rw [← place, List.eraseIdx_idxOf_eq_erase, distinct.erase_eq_filter]

theorem map_fst_without (r : Labels α) (label : String) :
    (r.without label).map (·.1) = (r.entries.map (·.1)).filter (· != label) := by
  rw [Labels.without, List.filter_map]
  rfl

theorem Represents.touch (h : m.Represents r) (bound : r.value? label = some v) :
    (m.touch label).Represents { r with entries := r.rebound label v } := by
  have there : label ∈ m.order := by
    rw [h.order]
    exact List.mem_map_of_mem (Labels.mem_of_value? bound)
  have order : (m.touch label).order = (r.rebound label v).map (·.1) := by
    rw [order_touch h.distinct there, Labels.rebound, List.map_append, map_fst_without, h.order]
    rfl
  refine ⟨(capacity_touch m label).trans h.capacity, order, ?_, fun name => ?_⟩
  · rw [order]
    exact Labels.nodup_rebound label v h.distinct_entries
  · rw [map_touch, h.values, Labels.value?_rebound]
    split
    · rename_i same
      rw [same, bound]
    · rfl

end Touch

section Eviction

theorem Represents.tail {capacity : Option Nat} {map : Std.HashMap String α} {e : String × α} {es : List (String × α)}
    {order : List String} (h : Represents ⟨capacity, map, order⟩ ⟨capacity, e :: es⟩) :
    Represents ⟨capacity, map.erase e.1, es.map (·.1)⟩ ⟨capacity, es⟩ := by
  have distinct := List.nodup_cons.mp h.distinct_entries
  refine ⟨rfl, rfl, distinct.2, fun label => ?_⟩
  rw [Std.HashMap.getElem?_erase]
  split
  · rename_i first
    refine (Labels.value?_eq_none_iff.mpr fun d there same => distinct.1 ?_).symm
    exact List.mem_map.mpr ⟨d, there, same.trans (beq_iff_eq.mp first).symm⟩
  · rename_i other
    rw [h.values]
    simp [Labels.value?, other]

/-- The loop drops labels from the front until there are no more than the capacity allows. -/
theorem Represents.evict {capacity : Option Nat} {map : Std.HashMap String α} {es : List (String × α)}
    {order : List String} (h : Represents ⟨capacity, map, order⟩ ⟨capacity, es⟩) (n : Nat) (evicted : List α) :
    ∃ map', LabelMap.evict n evicted map order =
        (evicted ++ (es.take (es.length - n)).map (·.2), map', (es.drop (es.length - n)).map (·.1)) ∧
      Represents ⟨capacity, map', (es.drop (es.length - n)).map (·.1)⟩ ⟨capacity, es.drop (es.length - n)⟩ := by
  obtain rfl : order = es.map (·.1) := h.order
  induction es generalizing map evicted with
  | nil => exact ⟨map, by simp [LabelMap.evict], by simpa using h⟩
  | cons e es ih =>
    have size : map.size = es.length + 1 := h.size_eq
    have oldest : map[e.1]? = some e.2 := (h.values e.1).trans (by simp [Labels.value?])
    simp only [List.map_cons, LabelMap.evict, size, oldest, Option.toList_some]
    split
    · rename_i full
      obtain ⟨map', dropped, rest⟩ := ih (evicted ++ [e.2]) h.tail
      have one_more : (e :: es).length - n = es.length - n + 1 := by
        rw [List.length_cons]
        omega
      refine ⟨map', ?_, by simpa only [one_more, List.drop_succ_cons] using rest⟩
      rw [dropped, one_more]
      simp
    · rename_i fits
      have none_more : (e :: es).length - n = 0 := by
        rw [List.length_cons]
        omega
      rw [none_more]
      exact ⟨map, by simp, h⟩

theorem Represents.evictIfNeeded (h : m.Represents r) :
    m.evictIfNeeded.1 = (r.entries.take (Labels.excess r.capacity r.entries.length)).map (·.2) ∧
      m.evictIfNeeded.2.Represents
        { r with entries := r.entries.drop (Labels.excess r.capacity r.entries.length) } := by
  obtain ⟨capacity, map, order⟩ := m
  obtain ⟨limit, entries⟩ := r
  obtain rfl : capacity = limit := h.capacity
  cases capacity with
  | none => exact ⟨rfl, h⟩
  | some n =>
    obtain ⟨map', dropped, rest⟩ := h.evict n []
    simp only [LabelMap.evictIfNeeded, dropped, Labels.excess]
    exact ⟨rfl, rest⟩

end Eviction

theorem Represents.get (h : m.Represents r) (label : String) :
    (m.get label).1 = (r.get label).1 ∧ (m.get label).2.Represents (r.get label).2 := by
  cases bound : r.value? label with
  | none =>
    simp only [Labels.get_of_none bound, LabelMap.get, h.values, bound]
    exact ⟨trivial, h⟩
  | some v =>
    simp only [Labels.get_of_some bound, LabelMap.get, h.values, bound]
    exact ⟨trivial, h.touch bound⟩

theorem Represents.append (h : m.Represents r) (unbound : r.value? label = none) (v : α) :
    Represents { m with map := m.map.insert label v, order := m.order ++ [label] }
      { r with entries := r.entries ++ [(label, v)] } := by
  have appended : r.entries ++ [(label, v)] = r.rebound label v := by
    rw [Labels.rebound, Labels.without_of_value?_eq_none unbound]
  have order : m.order ++ [label] = (r.rebound label v).map (·.1) := by
    rw [h.order, ← appended, List.map_append]
    rfl
  rw [appended]
  refine ⟨h.capacity, order, ?_, fun name => ?_⟩
  · rw [order]
    exact Labels.nodup_rebound label v h.distinct_entries
  · rw [Std.HashMap.getElem?_insert, h.values, Labels.value?_rebound]
    by_cases same : label = name
    · simp [same]
    · simp [same, Ne.symm same]

theorem Represents.insertNew (h : m.Represents r) (label : String) (v : α) :
    (m.insertNew label v).1 = (r.insertNew label v).1 ∧
      (m.insertNew label v).2.Represents (r.insertNew label v).2 := by
  cases bound : r.value? label with
  | some old =>
    simp only [LabelMap.insertNew, Labels.insertNew, h.values, bound, Labels.get_of_some bound]
    exact ⟨trivial, h.touch bound⟩
  | none =>
    obtain ⟨evicted, rest⟩ := (h.append bound v).evictIfNeeded
    simp only [LabelMap.insertNew, Labels.insertNew, h.values, bound, Labels.get_of_none bound, evicted]
    exact ⟨trivial, rest⟩

theorem Represents.remove (h : m.Represents r) (label : String) :
    (m.remove label).1 = (r.remove label).1 ∧ (m.remove label).2.Represents (r.remove label).2 := by
  have values (name : String) : (m.map.erase label)[name]? = (r.remove label).2.value? name := by
    rw [Std.HashMap.getElem?_erase, h.values]
    by_cases same : label = name
    · subst same
      simp [Labels.value?_remove]
    · simp [same, Labels.value?_remove_of_ne r (Ne.symm same)]
  have kept : m.order.filter (· != label) = (r.without label).map (·.1) := by
    rw [map_fst_without, h.order]
  cases bound : r.value? label with
  | none =>
    have all : (r.remove label).2 = r := by
      simp only [Labels.remove, Labels.without_of_value?_eq_none bound]
    simp only [LabelMap.remove, h.values, bound]
    refine ⟨bound.symm, h.capacity, ?_, h.distinct, values⟩
    rw [all]
    exact h.order
  | some v =>
    simp only [LabelMap.remove, h.values, bound]
    exact ⟨bound.symm, h.capacity, kept, h.distinct.filter _, values⟩

theorem Represents.clear (h : m.Represents r) : m.clear.Represents r.clear :=
  ⟨h.capacity, rfl, List.nodup_nil, fun label => by simp [LabelMap.clear, Labels.clear, Labels.value?]⟩

end LabelMap

inductive LabelUse (α : Type) where
  | get (label : String)
  | insert (label : String) (v : α)
  | remove (label : String)
  | clear

/-- What a use answers: the value of the label, and the values that had to make room. -/
structure LabelAnswer (α : Type) where
  value : Option α
  evicted : List α

namespace Labels

def use (r : Labels α) : LabelUse α → LabelAnswer α × Labels α
  | .get label => (⟨(r.get label).1, []⟩, (r.get label).2)
  | .insert label v => (⟨some (r.insertNew label v).1.1, (r.insertNew label v).1.2⟩, (r.insertNew label v).2)
  | .remove label => (⟨(r.remove label).1, []⟩, (r.remove label).2)
  | .clear => (⟨none, []⟩, r.clear)

def run (r : Labels α) : List (LabelUse α) → List (LabelAnswer α) × Labels α
  | [] => ([], r)
  | u :: us => ((r.use u).1 :: ((r.use u).2.run us).1, ((r.use u).2.run us).2)

end Labels

namespace LabelMap

def use (m : LabelMap α) : LabelUse α → LabelAnswer α × LabelMap α
  | .get label => (⟨(m.get label).1, []⟩, (m.get label).2)
  | .insert label v => (⟨some (m.insertNew label v).1.1, (m.insertNew label v).1.2⟩, (m.insertNew label v).2)
  | .remove label => (⟨(m.remove label).1, []⟩, (m.remove label).2)
  | .clear => (⟨none, []⟩, m.clear)

def run (m : LabelMap α) : List (LabelUse α) → List (LabelAnswer α) × LabelMap α
  | [] => ([], m)
  | u :: us => ((m.use u).1 :: ((m.use u).2.run us).1, ((m.use u).2.run us).2)

variable {m : LabelMap α} {r : Labels α}

theorem Represents.use (h : m.Represents r) (u : LabelUse α) :
    (m.use u).1 = (r.use u).1 ∧ (m.use u).2.Represents (r.use u).2 := by
  cases u with
  | get label =>
    obtain ⟨same, next⟩ := h.get label
    simp only [LabelMap.use, Labels.use, same]
    exact ⟨trivial, next⟩
  | insert label v =>
    obtain ⟨same, next⟩ := h.insertNew label v
    simp only [LabelMap.use, Labels.use, same]
    exact ⟨trivial, next⟩
  | remove label =>
    obtain ⟨same, next⟩ := h.remove label
    simp only [LabelMap.use, Labels.use, same]
    exact ⟨trivial, next⟩
  | clear => exact ⟨rfl, h.clear⟩

theorem Represents.run (h : m.Represents r) (uses : List (LabelUse α)) :
    (m.run uses).1 = (r.run uses).1 ∧ (m.run uses).2.Represents (r.run uses).2 := by
  induction uses generalizing m r with
  | nil => exact ⟨rfl, h⟩
  | cons u us ih =>
    obtain ⟨same, next⟩ := h.use u
    obtain ⟨rest, last⟩ := ih next
    exact ⟨List.cons_eq_cons.mpr ⟨same, rest⟩, last⟩

end LabelMap

/-! What becomes of the values: each one that is taken in is there, or has made room, or was removed, or went when
everything was cleared. -/

structure Turnover (α : Type) where
  inserted : Multiset α
  evicted : Multiset α
  removed : Multiset α
  cleared : Multiset α

namespace Turnover

def none : Turnover α := ⟨0, 0, 0, 0⟩

def append (t t' : Turnover α) : Turnover α :=
  ⟨t.inserted + t'.inserted, t.evicted + t'.evicted, t.removed + t'.removed, t.cleared + t'.cleared⟩

/-- Nothing is lost on the way from the values that were there to those that are there now, and nothing is there or
goes twice. -/
def Accounts (t : Turnover α) (before after : Multiset α) : Prop :=
  before + t.inserted = after + t.evicted + t.removed + t.cleared

theorem Accounts.append {t t' : Turnover α} {before between after : Multiset α} (first : t.Accounts before between)
    (second : t'.Accounts between after) : (t.append t').Accounts before after := by
  unfold Accounts at first second ⊢
  simp only [Turnover.append]
  calc
    before + (t.inserted + t'.inserted) = before + t.inserted + t'.inserted := (add_assoc _ _ _).symm
    _ = between + t'.inserted + (t.evicted + t.removed + t.cleared) := by rw [first]; abel
    _ = after + (t.evicted + t'.evicted) + (t.removed + t'.removed) + (t.cleared + t'.cleared) := by
      rw [second]; abel

end Turnover

namespace LabelMap

def values (m : LabelMap α) : Multiset α := m.map.toList.map (·.2)

/-- What one use makes of the values. A value for a label that has one already is not taken in. -/
def turnover (m : LabelMap α) : LabelUse α → Turnover α
  | .get _ => .none
  | .insert label v =>
    { Turnover.none with
      inserted := if label ∈ m.map then 0 else {v}
      evicted := (m.insertNew label v).1.2 }
  | .remove label => { Turnover.none with removed := (m.remove label).1.toList }
  | .clear => { Turnover.none with cleared := m.values }

def turnovers (m : LabelMap α) : List (LabelUse α) → Turnover α
  | [] => .none
  | u :: us => (m.turnover u).append ((m.use u).2.turnovers us)

variable {m : LabelMap α} {r : Labels α} {label : String} {v : α}

theorem Represents.values_eq (h : m.Represents r) : m.values = (r.entries.map (·.2) : List α) :=
  Multiset.coe_eq_coe.mpr (h.toList_perm.map _)

theorem Represents.accounts (h : m.Represents r) (u : LabelUse α) :
    (m.turnover u).Accounts m.values (m.use u).2.values := by
  unfold Turnover.Accounts
  rw [(h.use u).2.values_eq, h.values_eq]
  cases u with
  | get label =>
    simp only [turnover, Turnover.none, add_zero, Labels.use]
    cases bound : r.value? label with
    | none => rw [Labels.get_of_none bound]
    | some v =>
      rw [Labels.get_of_some bound]
      exact Multiset.coe_eq_coe.mpr ((Labels.perm_rebound h.distinct_entries bound).symm.map _)
  | insert label v =>
    simp only [turnover, Turnover.none, add_zero, Labels.use, (h.insertNew label v).1]
    cases bound : r.value? label with
    | some old =>
      have there : label ∈ m.map := by
        rw [Std.HashMap.mem_iff_isSome_getElem?, h.values, bound, Option.isSome_some]
      simp only [Labels.insertNew, Labels.get_of_some bound, there, ↓reduceIte, add_zero, Multiset.coe_nil]
      exact Multiset.coe_eq_coe.mpr ((Labels.perm_rebound h.distinct_entries bound).symm.map _)
    | none =>
      have new : label ∉ m.map := by
        rw [Std.HashMap.mem_iff_isSome_getElem?, h.values, bound]
        simp
      simp only [Labels.insertNew, Labels.get_of_none bound, new, ↓reduceIte]
      -- The front part of the list went, the rest stayed; together they are the list with the new entry.
      set n := Labels.excess r.capacity (r.entries ++ [(label, v)]).length
      calc
        _ = (((r.entries ++ [(label, v)]).map (·.2) : List α) : Multiset α) := by
          rw [List.map_append, ← Multiset.coe_add]
          rfl
        _ = _ := by
          rw [← List.take_append_drop n (r.entries ++ [(label, v)]), List.map_append, ← Multiset.coe_add, add_comm]
          simp
  | remove label =>
    simp only [turnover, Turnover.none, add_zero, Labels.use, (h.remove label).1]
    simp only [Labels.remove]
    cases bound : r.value? label with
    | none => simp [Labels.without_of_value?_eq_none bound]
    | some v =>
      rw [Multiset.coe_eq_coe.mpr ((Labels.perm_cons_without h.distinct_entries bound).map _), List.map_cons,
        ← Multiset.cons_coe, ← Multiset.singleton_add, add_comm]
      rfl
  | clear =>
    simp only [turnover, Turnover.none, add_zero, Labels.use, Labels.clear, h.values_eq]
    simp

theorem Represents.turnovers (h : m.Represents r) (uses : List (LabelUse α)) :
    (m.turnovers uses).Accounts m.values (m.run uses).2.values := by
  induction uses generalizing m r with
  | nil => simp [LabelMap.turnovers, LabelMap.run, Turnover.Accounts, Turnover.none]
  | cons u us ih => exact (h.accounts u).append (ih (h.use u).2)

structure MakesRoom (capacity : Option Nat) (all dropped kept : List (String × α)) : Prop where
  front : all = dropped ++ kept
  fits : ∀ n, capacity = some n → kept.length ≤ n
  least : dropped ≠ [] → capacity = some kept.length

/-- A new label is appended, and the values that are answered as evicted are those that made room, the oldest
first. -/
theorem Represents.makesRoom (h : m.Represents r) (new : label ∉ m.map) (v : α) :
    ∃ dropped kept, MakesRoom r.capacity (r.entries ++ [(label, v)]) dropped kept ∧
      (m.insertNew label v).1 = (v, dropped.map (·.2)) ∧
      (m.insertNew label v).2.Represents ⟨r.capacity, kept⟩ := by
  have unbound : r.value? label = none := by
    rw [Std.HashMap.mem_iff_isSome_getElem?, h.values, Option.not_isSome_iff_eq_none] at new
    exact new
  obtain ⟨answer, next⟩ := h.insertNew label v
  simp only [Labels.insertNew, Labels.get_of_none unbound] at answer next
  set all := r.entries ++ [(label, v)]
  refine ⟨_, _, ⟨(List.take_append_drop (Labels.excess r.capacity all.length) all).symm, ?_, ?_⟩, answer, next⟩
  · exact fun n limit => Labels.length_drop_excess r.capacity all limit
  · intro dropped
    cases limit : r.capacity with
    | none => simp [limit, Labels.excess] at dropped
    | some n =>
      simp only [limit, Labels.excess, ne_eq, List.take_eq_nil_iff, not_or] at dropped ⊢
      rw [List.length_drop]
      congr 1
      omega

theorem Represents.fits (h : m.Represents r) (fits : r.Fits) (u : LabelUse α) : (r.use u).2.Fits := by
  cases u with
  | get label => exact fits.get h.distinct_entries label
  | insert label v => exact fits.insertNew h.distinct_entries label v
  | remove label => exact fits.remove label
  | clear => exact fits.of_length_le rfl (Nat.zero_le _)

theorem Represents.fits_run (h : m.Represents r) (fits : r.Fits) (uses : List (LabelUse α)) :
    (r.run uses).2.Fits := by
  induction uses generalizing m r with
  | nil => exact fits
  | cons u us ih => exact ih (h.use u).2 (h.fits fits u)

theorem capacity_use (r : Labels α) (u : LabelUse α) : (r.use u).2.capacity = r.capacity := by
  have get (label : String) : (r.get label).2.capacity = r.capacity := by
    simp only [Labels.get]
    split <;> rfl
  cases u with
  | get label => exact get label
  | insert label v =>
    have used := get label
    simp only [Labels.use, Labels.insertNew]
    split <;> rename_i e <;> rw [e] at used <;> exact used
  | remove label => rfl
  | clear => rfl

theorem capacity_run (r : Labels α) (uses : List (LabelUse α)) : (r.run uses).2.capacity = r.capacity := by
  induction uses generalizing r with
  | nil => rfl
  | cons u us ih => exact (ih _).trans (capacity_use r u)

/-- Labels that are kept in a map and a queue, used in any way, act as one list in the order of the last use. -/
theorem acts_by_recency (capacity : Option Nat) (uses : List (LabelUse α)) :
    let m : LabelMap α := ((new capacity).run uses).2
    let r : Labels α := ((Labels.empty capacity).run uses).2
    ((new capacity).run uses).1 = ((Labels.empty capacity).run uses).1 ∧ m.Represents r ∧
      (∀ label, label ∈ m.order ↔ label ∈ m.map) ∧
      (∀ n, capacity = some n → m.size ≤ n) ∧
      (∀ label v, label ∉ m.map → ∃ dropped kept,
        MakesRoom capacity (r.entries ++ [(label, v)]) dropped kept ∧
          (m.insertNew label v).1 = (v, dropped.map (·.2)) ∧
          (m.insertNew label v).2.Represents ⟨capacity, kept⟩) ∧
      ((new capacity).turnovers uses).inserted = m.values + ((new capacity).turnovers uses).evicted +
        ((new capacity).turnovers uses).removed + ((new capacity).turnovers uses).cleared := by
  have start := represents_new (α := α) capacity
  obtain ⟨same, h⟩ := start.run uses
  have limit : ((Labels.empty capacity : Labels α).run uses).2.capacity = capacity := capacity_run _ uses
  refine ⟨same, h, fun _ => h.mem_order_iff, fun n full => ?_, fun label v new => ?_, ?_⟩
  · rw [h.size_eq]
    exact start.fits_run (fun _ _ => Nat.zero_le _) uses n (limit.trans full)
  · have room := h.makesRoom new v
    rwa [limit] at room
  · have accounts := start.turnovers uses
    have nothing : (new capacity : LabelMap α).values = 0 := by simp [values, new]
    rw [Turnover.Accounts, nothing, zero_add] at accounts
    exact accounts

end LabelMap

end RowMapper
