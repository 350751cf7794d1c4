import RowMapper.StatementCache

/-!
What a label cache does when a label is bound: the labels that are left, the plans that are left, and
the texts that lose theirs.
-/
namespace RowMapper

namespace Labels

variable {α : Type}

def rebound (m : Labels α) (label : String) (v : α) : List (String × α) :=
  m.without label ++ [(label, v)]

def surplus (m : Labels α) (label : String) (v : α) : Nat :=
  excess m.capacity (m.rebound label v).length

theorem mem_without {m : Labels α} {label : String} {e : String × α} :
    e ∈ m.without label ↔ e ∈ m.entries ∧ e.1 ≠ label := by
  simp [without]

theorem without_sublist (m : Labels α) (label : String) : (m.without label).Sublist m.entries :=
  List.filter_sublist

theorem mem_of_value? {m : Labels α} {label : String} {v : α} (h : m.value? label = some v) :
    (label, v) ∈ m.entries := by
  simp only [value?, Option.map_eq_some_iff] at h
  obtain ⟨e, he, rfl⟩ := h
  have same := List.find?_some he
  simp only [beq_iff_eq] at same
  exact same ▸ List.mem_of_find?_eq_some he

theorem ne_of_value?_eq_none {m : Labels α} {label : String} (h : m.value? label = none)
    {e : String × α} (he : e ∈ m.entries) : e.1 ≠ label := by
  simp only [value?, Option.map_eq_none_iff, List.find?_eq_none, beq_iff_eq] at h
  exact h e he

theorem without_of_value?_eq_none {m : Labels α} {label : String} (h : m.value? label = none) :
    m.without label = m.entries := by
  simp only [without, List.filter_eq_self, bne_iff_ne, ne_eq]
  exact fun e he => ne_of_value?_eq_none h he

theorem value?_eq_none_iff {m : Labels α} {label : String} :
    m.value? label = none ↔ ∀ e ∈ m.entries, e.1 ≠ label := by
  simp [value?]

theorem value?_of_mem {m : Labels α} (distinct : (m.entries.map (·.1)).Nodup) {e : String × α}
    (he : e ∈ m.entries) : m.value? e.1 = some e.2 := by
  obtain ⟨capacity, entries⟩ := m
  simp only [value?] at distinct he ⊢
  induction entries with
  | nil => simp at he
  | cons d rest ih =>
    simp only [List.map_cons, List.nodup_cons] at distinct
    rcases List.mem_cons.mp he with rfl | he
    · simp
    · have other : (d.1 == e.1) = false := by
        rw [beq_eq_false_iff_ne]
        intro same
        exact distinct.1 (same ▸ List.mem_map_of_mem he)
      rw [List.find?_cons, other]
      exact ih distinct.2 he

theorem get_of_some {m : Labels α} {label : String} {v : α} (h : m.value? label = some v) :
    m.get label = (some v, { m with entries := m.rebound label v }) := by
  simp [get, h, rebound]

theorem get_of_none {m : Labels α} {label : String} (h : m.value? label = none) :
    m.get label = (none, m) := by
  simp [get, h]

theorem insertNew_of_none {m : Labels α} {label : String} (h : m.value? label = none) (v : α) :
    m.insertNew label v =
      ((v, ((m.rebound label v).take (m.surplus label v)).map (·.2)),
        { m with entries := (m.rebound label v).drop (m.surplus label v) }) := by
  simp [insertNew, get_of_none h, rebound, surplus, without_of_value?_eq_none h]

theorem without_without (m : Labels α) (label : String) :
    ({ m with entries := m.without label } : Labels α).without label = m.without label := by
  simp [without]

theorem value?_remove (m : Labels α) (label : String) : (m.remove label).2.value? label = none := by
  rw [value?_eq_none_iff]
  intro e he
  exact (mem_without.mp he).2

theorem insertNew_remove (m : Labels α) (label : String) (v : α) :
    (m.remove label).2.insertNew label v =
      ((v, ((m.rebound label v).take (m.surplus label v)).map (·.2)),
        { m with entries := (m.rebound label v).drop (m.surplus label v) }) := by
  rw [insertNew_of_none (value?_remove m label)]
  simp only [remove, rebound, surplus, without_without]

theorem nodup_rebound {m : Labels α} (label : String) (v : α)
    (distinct : (m.entries.map (·.1)).Nodup) : ((m.rebound label v).map (·.1)).Nodup := by
  rw [rebound, List.map_append, List.nodup_append]
  refine ⟨distinct.sublist ((without_sublist m label).map _), by simp, ?_⟩
  intro a ha b hb
  simp only [List.map_cons, List.map_nil, List.mem_singleton] at hb
  obtain ⟨e, he, rfl⟩ := List.mem_map.mp ha
  exact hb ▸ (mem_without.mp he).2

theorem length_drop_excess (capacity : Option Nat) (entries : List (String × α)) {n : Nat}
    (h : capacity = some n) : (entries.drop (excess capacity entries.length)).length ≤ n := by
  subst h
  simp only [excess, List.length_drop]
  omega

theorem surplus_le {m : Labels α} (room : m.capacity ≠ some 0) (label : String) (v : α) :
    m.surplus label v ≤ (m.without label).length := by
  simp only [surplus, rebound, excess]
  split
  · rename_i n hn
    have : n ≠ 0 := fun h => room (h ▸ hn)
    simp only [List.length_append, List.length_cons, List.length_nil]
    omega
  · omega

theorem mem_drop_rebound {m : Labels α} (room : m.capacity ≠ some 0) (label : String) (v : α) :
    (label, v) ∈ (m.rebound label v).drop (m.surplus label v) := by
  rw [rebound, List.drop_append_of_le_length (surplus_le room label v)]
  exact List.mem_append_right _ (List.mem_singleton.mpr rfl)

end Labels

namespace StatementCache

theorem forgetAll_eq (c : StatementCache) (texts : List String) :
    c.forgetAll texts =
      { c with plans := c.plans.filter fun p => p.prepared.sql ∉ texts } := by
  induction texts generalizing c with
  | nil =>
    have all : c.plans.filter (fun p => p.prepared.sql ∉ ([] : List String)) = c.plans :=
      List.filter_eq_self.mpr (by simp)
    rw [all]
    rfl
  | cons sql rest ih =>
    have step : c.forgetAll (sql :: rest) = (c.forget sql).forgetAll rest := rfl
    rw [step, ih, forget]
    simp only [List.filter_filter]
    congr 2
    funext p
    by_cases h : p.prepared.sql = sql <;> simp [h]

/-- The texts that lose their plans when a label is bound to a text: the one that the label had, and
those of the labels that make room. -/
def displaced (c : StatementCache) (label sql : String) : List String :=
  (c.labels.value? label).toList ++
    ((c.labels.rebound label sql).take (c.labels.surplus label sql)).map (·.2)

theorem bind_of_bound {c : StatementCache} {label sql : String}
    (h : c.labels.value? label = some sql) :
    c.bind label sql =
      (true, { c with labels := { c.labels with entries := c.labels.rebound label sql } }) := by
  simp [bind, Labels.get_of_some h]

theorem bind_of_unbound {c : StatementCache} {label sql : String}
    (h : c.labels.value? label ≠ some sql) :
    c.bind label sql =
      (false,
        { labels := { c.labels with
            entries := (c.labels.rebound label sql).drop (c.labels.surplus label sql) }
          plans := c.plans.filter fun p => p.prepared.sql ∉ c.displaced label sql }) := by
  cases hv : c.labels.value? label with
  | none =>
    simp only [bind, Labels.get_of_none hv, Labels.insertNew_of_none hv, forgetAll_eq, displaced, hv,
      Option.toList_none, List.nil_append]
  | some bound =>
    have other : bound ≠ sql := fun same => h (same ▸ hv)
    have touched : (⟨c.labels.capacity, c.labels.without label ++ [(label, bound)]⟩ :
        Labels String).without label = c.labels.without label := by
      simp [Labels.without]
    simp only [bind, Labels.get_of_some hv, other, ↓reduceIte, Labels.insertNew_remove, forgetAll_eq,
      displaced, hv, Option.toList_some, List.cons_append, List.nil_append, Labels.surplus,
      Labels.rebound, touched]

end StatementCache

end RowMapper
