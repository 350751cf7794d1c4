import RowMapper.Proofs.Cache.Reachable

/-!
Giving up a label: which bindings and plans are left, and on which connections a text that is asked for
again has to be prepared anew.
-/
namespace RowMapper

theorem Labels.value?_remove_of_ne {α : Type} (m : Labels α) {label other : String}
    (h : other ≠ label) : (m.remove label).2.value? other = m.value? other := by
  have keep (e : String × α) : (decide ((e.1 != label) = true ∧ (e.1 == other) = true)) =
      (e.1 == other) := by
    by_cases he : e.1 = other <;> simp [he, h]
  simp only [remove, value?, without, List.find?_filter, keep]

theorem Labels.value?_rebound {α : Type} (m : Labels α) (label : String) (v : α) (name : String) :
    ({ m with entries := m.rebound label v } : Labels α).value? name =
      if name = label then some v else m.value? name := by
  by_cases same : name = label
  · subst same
    have apart : (m.without name).find? (·.1 == name) = none := by
      simp only [List.find?_eq_none, beq_iff_eq]
      exact fun e there => (mem_without.mp there).2
    simp [value?, rebound, List.find?_append, apart]
  · have kept := value?_remove_of_ne m same
    simp only [value?, remove] at kept
    have other : ([(label, v)].find? (·.1 == name)) = none := by simp [Ne.symm same]
    rw [if_neg same]
    simp only [value?, rebound, List.find?_append, other, Option.or_none]
    exact kept

namespace StatementCache

variable {capacity : Option Nat} {c : StatementCache} {link : Nat} {label sql name text : String}

theorem labels_invalidate (c : StatementCache) (label : String) :
    (c.invalidate label).2.labels = (c.labels.remove label).2 := by
  simp only [invalidate]
  split <;> rename_i e <;> rw [e]
  rfl

theorem mem_plans_invalidate {p : Plan} :
    p ∈ (c.invalidate label).2.plans ↔
      p ∈ c.plans ∧ c.labels.value? label ≠ some p.prepared.sql := by
  simp only [invalidate, Labels.remove]
  split <;> rename_i e <;> simp only [Prod.mk.injEq] at e <;> obtain ⟨hv, rfl⟩ := e
  · rename_i bound _
    rw [hv]
    simp only [forget, List.mem_filter, bne_iff_ne, ne_eq, Option.some.injEq]
    exact and_congr_right fun _ => not_congr eq_comm
  · simp [hv]

theorem value?_invalidate (c : StatementCache) (label : String) :
    (c.invalidate label).2.labels.value? label = none := by
  rw [labels_invalidate]
  exact Labels.value?_remove c.labels label

theorem value?_invalidate_of_ne (c : StatementCache) {other : String} (h : other ≠ label) :
    (c.invalidate label).2.labels.value? other = c.labels.value? other := by
  rw [labels_invalidate]
  exact Labels.value?_remove_of_ne c.labels h

theorem seek_of_named (named : label ≠ "") :
    c.seek link label sql =
      (.ok ⟨(c.bind label sql).1, (c.bind label sql).2.plan? link sql⟩, (c.bind label sql).2) := by
  have full : label.isEmpty = false := by
    rw [Bool.eq_false_iff, ne_eq, String.isEmpty_iff]
    exact named
  simp only [seek, full]
  rfl

/-- A text under a label that is not bound to it has a plan if it had one before and no label that makes
room takes it away. -/
theorem plan?_bind_eq_none_iff (unbound : c.labels.value? label ≠ some sql) :
    (c.bind label sql).2.plan? link sql = none ↔
      sql ∉ c.textsOn link ∨ sql ∈ c.displaced label sql := by
  rw [plan?_eq_none_iff, bind_of_unbound unbound, mem_textsOn, mem_textsOn]
  simp only [List.mem_filter, decide_eq_true_eq]
  constructor
  · intro gone
    by_cases hd : sql ∈ c.displaced label sql
    · exact .inr hd
    · left
      rintro ⟨p, hp, hl, rfl⟩
      exact gone ⟨p, ⟨hp, hd⟩, hl, rfl⟩
  · rintro gone ⟨p, ⟨hp, hd⟩, hl, rfl⟩
    rcases gone with gone | gone
    · exact gone ⟨p, hp, hl, rfl⟩
    · exact hd gone

theorem mem_displaced_of_full (full : c.labels.capacity = some 0) (label sql : String) :
    sql ∈ c.displaced label sql := by
  have all : c.labels.surplus label sql = (c.labels.rebound label sql).length := by
    simp [Labels.surplus, Labels.excess, full]
  refine List.mem_append_right _ ?_
  rw [all, List.take_length]
  exact List.mem_map_of_mem (List.mem_append_right _ (List.mem_singleton.mpr rfl))

theorem value?_bind (h : c.Tidy capacity) (label sql : String) :
    (c.bind label sql).2.labels.value? label = some sql ∨ capacity = some 0 := by
  by_cases full : capacity = some 0
  · exact .inr full
  · left
    have there := mem_bind (h.limit ▸ full) label sql
    exact Labels.value?_of_mem (tidy_bind label sql h).distinct there

theorem value?_of_full (h : c.Tidy (some 0)) (label : String) : c.labels.value? label = none := by
  have none_kept : c.labels.entries = [] :=
    List.eq_nil_of_length_eq_zero (Nat.le_zero.mp (h.fits 0 rfl))
  simp [Labels.value?, none_kept]

theorem mem_of_bind {e : String × String} (there : e ∈ (c.bind label sql).2.labels.entries) :
    e ∈ c.labels.entries ∨ e = (label, sql) := by
  have rebound : e ∈ c.labels.rebound label sql → e ∈ c.labels.entries ∨ e = (label, sql) := fun there =>
    (List.mem_append.mp there).imp (fun kept => (Labels.mem_without.mp kept).1) List.mem_singleton.mp
  by_cases bound : c.labels.value? label = some sql
  · rw [bind_of_bound bound] at there
    exact rebound there
  · rw [bind_of_unbound bound] at there
    exact rebound (List.mem_of_mem_drop there)

theorem value?_of_bind (tidy : c.Tidy capacity) (bound : (c.bind label sql).2.labels.value? name = some text) :
    c.labels.value? name = some text ∨ (name, text) = (label, sql) :=
  (mem_of_bind (Labels.mem_of_value? bound)).imp_left (Labels.value?_of_mem tidy.distinct)

theorem bound_of_bind (h : (c.bind label sql).1 = true) : c.labels.value? label = some sql := by
  refine Decidable.byContradiction fun unbound => ?_
  rw [bind_of_unbound unbound] at h
  cases h

end StatementCache

end RowMapper
