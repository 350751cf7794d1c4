import RowMapper.Proofs.Cache.Binding

/-!
The statement cache under any sequence of calls. Labels are distinct and fit the capacity, a connection
keeps one plan for a text, and with room for one label at least every plan belongs to a label.
-/
namespace RowMapper.StatementCache

/-- One call on a statement cache, with every way in which it can end. -/
inductive Turn : StatementCache → StatementCache → Prop where
  | reuse {c c' : StatementCache} {link : Nat} {label sql : String} {sought : Sought} {p : Prepared} :
    c.seek link label sql = (.ok sought, c') → sought.plan = some p → Turn c c'
  | abandon {c c' : StatementCache} {link : Nat} {label sql : String} {sought : Sought} :
    c.seek link label sql = (.ok sought, c') → sought.plan = none → Turn c c'
  | fail {c c' : StatementCache} {link : Nat} {label sql : String} {sought : Sought}
    (fault : ClientFault) : c.seek link label sql = (.ok sought, c') → sought.plan = none →
      Turn c (c'.settle link label sought (.error fault))
  | keep {c c' : StatementCache} {link : Nat} {label sql : String} {sought : Sought} {p : Prepared} :
    c.seek link label sql = (.ok sought, c') → sought.plan = none → p.sql = sql →
      Turn c (c'.settle link label sought (.ok p))
  | invalidate (c : StatementCache) (label : String) : Turn c (c.invalidate label).2
  | close (c : StatementCache) : Turn c c.close

inductive Reachable (capacity : Option Nat) : StatementCache → Prop where
  | empty : Reachable capacity (.empty capacity)
  | turn {c c' : StatementCache} : Reachable capacity c → Turn c c' → Reachable capacity c'

def textsOn (c : StatementCache) (link : Nat) : List String :=
  (c.plans.filter (·.link == link)).map (·.prepared.sql)

/-- Labels are distinct and no more than the capacity, and no connection has two plans of a text. -/
structure Tidy (capacity : Option Nat) (c : StatementCache) : Prop where
  limit : c.labels.capacity = capacity
  distinct : (c.labels.entries.map (·.1)).Nodup
  fits : ∀ n, capacity = some n → c.size ≤ n
  once : ∀ link, (c.textsOn link).Nodup

def Covered (c : StatementCache) : Prop :=
  ∀ p ∈ c.plans, ∃ e ∈ c.labels.entries, e.2 = p.prepared.sql

def CoveredWithout (c : StatementCache) (label : String) : Prop :=
  ∀ p ∈ c.plans, ∃ e ∈ c.labels.entries, e.1 ≠ label ∧ e.2 = p.prepared.sql

variable {capacity : Option Nat} {c c' : StatementCache} {link : Nat} {label sql : String}
  {sought : Sought}

theorem seek_eq (h : c.seek link label sql = (.ok sought, c')) :
    label ≠ "" ∧ c.bind label sql = (sought.bound, c') ∧ sought.plan = c'.plan? link sql := by
  simp only [seek] at h
  split at h
  · simp at h
  · rename_i named
    simp only [Prod.mk.injEq, Except.ok.injEq] at h
    obtain ⟨rfl, rfl⟩ := h
    exact ⟨fun e => named (by simp [e]), rfl, rfl⟩

theorem mem_textsOn : sql ∈ c.textsOn link ↔ ∃ p ∈ c.plans, p.link = link ∧ p.prepared.sql = sql := by
  simp [textsOn, and_assoc]

theorem plan?_eq_none_iff : c.plan? link sql = none ↔ sql ∉ c.textsOn link := by
  simp only [plan?, Option.map_eq_none_iff, List.find?_eq_none, Bool.and_eq_true, beq_iff_eq,
    mem_textsOn, not_exists, not_and]

theorem plan?_of_subset (fewer : ∀ p ∈ c'.plans, p ∈ c.plans) (new : c.plan? link sql = none) :
    c'.plan? link sql = none := by
  rw [plan?_eq_none_iff, mem_textsOn] at new ⊢
  rintro ⟨p, there, at_link⟩
  exact new ⟨p, fewer p there, at_link⟩

theorem textsOn_filter (keep : Plan → Bool) (labels : Labels String) (link : Nat) :
    (StatementCache.textsOn ⟨labels, c.plans.filter keep⟩ link).Sublist (c.textsOn link) := by
  simp only [textsOn, List.filter_filter]
  rw [show (fun p => (p.link == link && keep p)) = fun p : Plan => (keep p && (p.link == link)) from
    funext fun p => Bool.and_comm _ _, ← List.filter_filter]
  exact List.filter_sublist.map _

theorem tidy_bind (label sql : String) (h : c.Tidy capacity) : (c.bind label sql).2.Tidy capacity := by
  by_cases hv : c.labels.value? label = some sql
  · rw [bind_of_bound hv]
    refine ⟨h.limit, Labels.nodup_rebound label sql h.distinct, ?_, h.once⟩
    intro n hn
    -- The label was there, so without it there is one entry fewer.
    have gone : c.labels.without label ≠ c.labels.entries := by
      intro same
      have := same.symm ▸ Labels.mem_of_value? hv
      exact (Labels.mem_without.mp this).2 rfl
    have shorter : (c.labels.without label).length < c.labels.entries.length := by
      refine Nat.lt_of_le_of_ne (Labels.without_sublist _ _).length_le fun same => gone ?_
      exact (Labels.without_sublist _ _).eq_of_length same
    have := h.fits n hn
    simp only [size, Labels.size, Labels.rebound, List.length_append, List.length_cons,
      List.length_nil] at this ⊢
    omega
  · rw [bind_of_unbound hv]
    refine ⟨h.limit, ?_, ?_, ?_⟩
    · exact (Labels.nodup_rebound label sql h.distinct).sublist ((List.drop_sublist _ _).map _)
    · intro n hn
      exact Labels.length_drop_excess c.labels.capacity _ (h.limit.trans hn)
    · exact fun l => (h.once l).sublist (textsOn_filter _ _ l)

/-- Binding a label leaves every plan covered; when the label is new to the text, by other labels. -/
theorem coveredWithout_bind (distinct : (c.labels.entries.map (·.1)).Nodup) (h : c.Covered)
    (unbound : c.labels.value? label ≠ some sql) :
    (c.bind label sql).2.CoveredWithout label := by
  rw [bind_of_unbound unbound]
  intro p hp
  simp only [List.mem_filter, decide_eq_true_eq] at hp
  obtain ⟨hp, stays⟩ := hp
  obtain ⟨e, he, text⟩ := h p hp
  simp only [displaced, List.mem_append, Option.mem_toList, not_or] at stays
  have other : e.1 ≠ label := by
    rintro rfl
    exact stays.1 (text ▸ Labels.value?_of_mem distinct he)
  have kept : e ∈ c.labels.rebound label sql :=
    List.mem_append_left _ (Labels.mem_without.mpr ⟨he, other⟩)
  refine ⟨e, ?_, other, text⟩
  rw [← List.take_append_drop (c.labels.surplus label sql) (c.labels.rebound label sql)] at kept
  rcases List.mem_append.mp kept with evicted | kept
  · exact absurd (text ▸ List.mem_map_of_mem evicted) stays.2
  · exact kept

theorem covered_bind (label sql : String) (distinct : (c.labels.entries.map (·.1)).Nodup)
    (h : c.Covered) : (c.bind label sql).2.Covered := by
  by_cases hv : c.labels.value? label = some sql
  · rw [bind_of_bound hv]
    intro p hp
    obtain ⟨e, he, text⟩ := h p hp
    by_cases same : e.1 = label
    · refine ⟨(label, sql), List.mem_append_right _ (List.mem_singleton.mpr rfl), ?_⟩
      have := Labels.value?_of_mem distinct he
      rw [same, hv] at this
      exact (Option.some.inj this).trans text
    · exact ⟨e, List.mem_append_left _ (Labels.mem_without.mpr ⟨he, same⟩), text⟩
  · intro p hp
    obtain ⟨e, he, -, text⟩ := coveredWithout_bind distinct h hv p hp
    exact ⟨e, he, text⟩

theorem mem_bind (room : c.labels.capacity ≠ some 0) (label sql : String) :
    (label, sql) ∈ (c.bind label sql).2.labels.entries := by
  by_cases hv : c.labels.value? label = some sql
  · rw [bind_of_bound hv]
    exact List.mem_append_right _ (List.mem_singleton.mpr rfl)
  · rw [bind_of_unbound hv]
    exact Labels.mem_drop_rebound room label sql

theorem tidy_keep {p : Prepared} (h : c.Tidy capacity) (new : c.plan? link p.sql = none) :
    StatementCache.Tidy capacity ⟨c.labels, c.plans ++ [⟨link, p⟩]⟩ := by
  refine ⟨h.limit, h.distinct, h.fits, fun l => ?_⟩
  have tail : StatementCache.textsOn ⟨c.labels, c.plans ++ [⟨link, p⟩]⟩ l =
      c.textsOn l ++ if link = l then [p.sql] else [] := by
    by_cases hl : link = l <;> simp [textsOn, hl]
  rw [tail, List.nodup_append]
  refine ⟨h.once l, by split <;> simp, ?_⟩
  intro a ha b hb
  split at hb
  · rename_i hl
    subst hl
    rintro rfl
    exact plan?_eq_none_iff.mp new (List.mem_singleton.mp hb ▸ ha)
  · simp at hb

theorem tidy_remove (label : String) (h : c.Tidy capacity) :
    StatementCache.Tidy capacity { c with labels := (c.labels.remove label).2 } := by
  have fewer := Labels.without_sublist c.labels label
  refine ⟨h.limit, h.distinct.sublist (fewer.map _), ?_, h.once⟩
  intro n hn
  exact Nat.le_trans fewer.length_le (h.fits n hn)

theorem tidy_settle_error {link : Nat} {sought : Sought} {fault : ClientFault} (h : c.Tidy capacity) :
    (c.settle link label sought (.error fault)).Tidy capacity := by
  simp only [settle]
  split
  · exact h
  · exact tidy_remove label h

theorem tidy_close (h : c.Tidy capacity) : c.close.Tidy capacity :=
  ⟨h.limit, List.nodup_nil, fun _ _ => Nat.zero_le _, fun _ => List.nodup_nil⟩

theorem tidy_empty (capacity : Option Nat) : (empty capacity).Tidy capacity :=
  ⟨rfl, List.nodup_nil, fun _ _ => Nat.zero_le _, fun _ => List.nodup_nil⟩

theorem tidy_forget (sql : String) (h : c.Tidy capacity) : (c.forget sql).Tidy capacity :=
  ⟨h.limit, h.distinct, h.fits, fun l => (h.once l).sublist (textsOn_filter _ _ l)⟩

theorem tidy_invalidate (label : String) (h : c.Tidy capacity) :
    (c.invalidate label).2.Tidy capacity := by
  have removed := tidy_remove label h
  simp only [invalidate]
  split
  · rename_i e
    rw [e] at removed
    exact tidy_forget _ removed
  · rename_i e
    rw [e] at removed
    exact removed

theorem covered_invalidate (label : String) (distinct : (c.labels.entries.map (·.1)).Nodup)
    (h : c.Covered) : (c.invalidate label).2.Covered := by
  simp only [invalidate, Labels.remove]
  split <;> rename_i e <;> simp only [Prod.mk.injEq] at e <;> obtain ⟨hv, rfl⟩ := e
  · rename_i bound _
    intro p hp
    simp only [forget, List.mem_filter, bne_iff_ne, ne_eq] at hp
    obtain ⟨d, hd, text⟩ := h p hp.1
    refine ⟨d, Labels.mem_without.mpr ⟨hd, ?_⟩, text⟩
    rintro rfl
    have := Labels.value?_of_mem distinct hd
    rw [hv] at this
    exact hp.2 (text ▸ (Option.some.inj this).symm)
  · intro p hp
    obtain ⟨d, hd, text⟩ := h p hp
    exact ⟨d, Labels.mem_without.mpr ⟨hd, Labels.ne_of_value?_eq_none hv hd⟩, text⟩

theorem tidy_turn (h : c.Tidy capacity) (t : Turn c c') : c'.Tidy capacity := by
  have bound {d : StatementCache} {link : Nat} {label sql : String} {sought : Sought}
      (hs : c.seek link label sql = (.ok sought, d)) : d.Tidy capacity := by
    have := tidy_bind label sql h
    rwa [(seek_eq hs).2.1] at this
  cases t with
  | reuse hs _ => exact bound hs
  | abandon hs _ => exact bound hs
  | fail _ hs _ => exact tidy_settle_error (bound hs)
  | keep hs hp text =>
    subst text
    exact tidy_keep (bound hs) ((seek_eq hs).2.2.symm.trans hp)
  | invalidate label => exact tidy_invalidate label h
  | close => exact tidy_close h

theorem covered_turn (tidy : c.Tidy capacity) (room : capacity ≠ some 0) (h : c.Covered)
    (t : Turn c c') : c'.Covered := by
  have bound {d : StatementCache} {link : Nat} {label sql : String} {sought : Sought}
      (hs : c.seek link label sql = (.ok sought, d)) : d.Covered := by
    have := covered_bind label sql tidy.distinct h
    rwa [(seek_eq hs).2.1] at this
  cases t with
  | reuse hs _ => exact bound hs
  | abandon hs _ => exact bound hs
  | @fail d link label sql sought fault hs _ =>
    obtain ⟨-, hb, -⟩ := seek_eq hs
    simp only [settle]
    split
    · exact bound hs
    · rename_i new
      -- The label that is given up was bound by this call, so every plan has another label.
      have unbound : c.labels.value? label ≠ some sql := by
        intro hv
        rw [bind_of_bound hv] at hb
        exact new (congrArg Prod.fst hb).symm
      have rest := coveredWithout_bind tidy.distinct h unbound
      rw [hb] at rest
      intro p hp
      obtain ⟨e, he, other, text⟩ := rest p hp
      exact ⟨e, Labels.mem_without.mpr ⟨he, other⟩, text⟩
  | @keep d link label sql sought p hs _ text =>
    obtain ⟨-, hb, -⟩ := seek_eq hs
    intro q hq
    rcases List.mem_append.mp hq with hq | hq
    · exact bound hs q hq
    · have there := mem_bind (tidy.limit ▸ room) label sql
      rw [hb] at there
      exact ⟨(label, sql), there, by rw [List.mem_singleton.mp hq, text]⟩
  | invalidate label => exact covered_invalidate label tidy.distinct h
  | close => exact fun p hp => absurd hp List.not_mem_nil

theorem tidy_of_reachable (h : Reachable capacity c) : c.Tidy capacity := by
  induction h with
  | empty => exact tidy_empty capacity
  | turn _ t ih => exact tidy_turn ih t

theorem covered_of_reachable (room : capacity ≠ some 0) (h : Reachable capacity c) : c.Covered := by
  induction h with
  | empty => exact fun p hp => absurd hp List.not_mem_nil
  | turn hc t ih => exact covered_turn (tidy_of_reachable hc) room ih t

theorem length_textsOn_le (tidy : c.Tidy capacity) (h : c.Covered) (link : Nat) :
    (c.textsOn link).length ≤ c.size := by
  have texts : c.textsOn link ⊆ c.labels.entries.map (·.2) := by
    intro sql hs
    obtain ⟨p, hp, -, rfl⟩ := mem_textsOn.mp hs
    obtain ⟨e, he, text⟩ := h p hp
    exact text ▸ List.mem_map_of_mem he
  have := (tidy.once link).length_le_of_subset texts
  rwa [List.length_map] at this

end RowMapper.StatementCache
