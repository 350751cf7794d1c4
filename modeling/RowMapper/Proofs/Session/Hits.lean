import RowMapper.Proofs.Session.Caching
import RowMapper.Proofs.Session.StalePlans
import RowMapper.Proofs.Cache.Recovery

/-!
When a statement that is looked up under its label is reported as a hit. The report goes by the number of plans
before and after, and comes to this: the label was bound to the text, and the connection had the plan. Then the
server is not asked and nothing but the order of use changes. In every other case the plan is there afterwards, and
the texts that labels have lost on the way are gone from all other connections.
-/
namespace RowMapper

namespace StatementCache

variable {capacity : Option Nat} {c c' : StatementCache} {link : Nat} {label sql text : String} {sought : Sought}

/-- A label stood for a text and does not any more. Where there is no room for labels, the one that is bound loses
its text at once. -/
def Loses (c c' : StatementCache) (label sql text : String) : Prop :=
  (∃ name, c.labels.value? name = some text ∧ c'.labels.value? name ≠ some text) ∨
    text = sql ∧ c'.labels.value? label ≠ some sql

theorem displaced_of_loses (tidy : c.Tidy capacity) (unbound : c.labels.value? label ≠ some sql)
    (loses : Loses c (c.bind label sql).2 label sql text) : text ∈ c.displaced label sql := by
  have after := (tidy_bind label sql tidy).distinct
  rw [bind_of_unbound unbound] at loses after
  -- An entry that does not make room is still there, and its label stands for its text.
  have made_room {name : String} (there : (name, text) ∈ c.labels.rebound label sql)
      (gone : Labels.value? ⟨c.labels.capacity,
        (c.labels.rebound label sql).drop (c.labels.surplus label sql)⟩ name ≠ some text) :
      text ∈ c.displaced label sql := by
    rw [← List.take_append_drop (c.labels.surplus label sql) (c.labels.rebound label sql)] at there
    rcases List.mem_append.mp there with evicted | kept
    · exact List.mem_append_right _ (List.mem_map_of_mem evicted)
    · exact absurd (Labels.value?_of_mem after kept) gone
  rcases loses with ⟨name, stood, gone⟩ | ⟨rfl, gone⟩
  · by_cases own : name = label
    · exact List.mem_append_left _ (Option.mem_toList.mpr (own ▸ stood))
    · exact made_room (List.mem_append_left _ (Labels.mem_without.mpr ⟨Labels.mem_of_value? stood, own⟩)) gone
  · exact made_room (List.mem_append_right _ (List.mem_singleton.mpr rfl)) gone

theorem not_mem_textsOn_of_displaced (unbound : c.labels.value? label ≠ some sql)
    (displaced : text ∈ c.displaced label sql) (link : Nat) : text ∉ (c.bind label sql).2.textsOn link := by
  rw [bind_of_unbound unbound, mem_textsOn]
  rintro ⟨p, there, -, rfl⟩
  simp only [List.mem_filter, decide_eq_true_eq] at there
  exact there.2 displaced

theorem loses_nothing (bound : c.labels.value? label = some sql) : ¬ Loses c (c.bind label sql).2 label sql text := by
  rw [bind_of_bound bound]
  rintro (⟨name, stood, gone⟩ | ⟨-, gone⟩)
  · rw [Labels.value?_rebound] at gone
    split at gone
    · rename_i own
      exact gone (by rw [← bound, ← own, stood])
    · exact gone stood
  · exact gone (by rw [Labels.value?_rebound, if_pos rfl])

theorem gone_of_loses (tidy : c.Tidy capacity) (loses : Loses c (c.bind label sql).2 label sql text) (link : Nat) :
    text ∉ (c.bind label sql).2.textsOn link := by
  by_cases bound : c.labels.value? label = some sql
  · exact absurd loses (loses_nothing bound)
  · exact not_mem_textsOn_of_displaced bound (displaced_of_loses tidy bound loses) link

theorem textsOn_settle_of_ne {p : Prepared} {other : Nat} (apart : other ≠ link) :
    (c.settle link label sought (.ok p)).textsOn other = c.textsOn other := by
  simp [textsOn, settle, Ne.symm apart]

theorem plan?_settle {p : Prepared} (new : c.plan? link p.sql = none) :
    (c.settle link label sought (.ok p)).plan? link p.sql = some p := by
  simp only [plan?, Option.map_eq_none_iff] at new
  simp [plan?, settle, List.find?_append, new]

theorem plan?_of_bind {p : Prepared} (there : (c.bind label sql).2.plan? link text = some p) :
    c.plan? link text = some p := by
  by_cases bound : c.labels.value? label = some sql
  · rw [bind_of_bound bound] at there
    exact there
  · rw [bind_of_unbound bound] at there
    simp only [plan?, List.find?_filter, Option.map_eq_some_iff] at there ⊢
    obtain ⟨plan, found, rfl⟩ := there
    have mine := List.find?_some found
    simp only [decide_eq_true_eq, Bool.and_eq_true, beq_iff_eq] at mine
    -- No plan of the text was displaced, so the search goes by the connection and the text alone.
    refine ⟨plan, Eq.trans (congrArg (List.find? · c.plans) (funext fun q => ?_)) found, rfl⟩
    by_cases own : q.prepared.sql = text
    · have kept : q.prepared.sql ∉ c.displaced label sql := own ▸ mine.2.2 ▸ mine.1
      rw [Bool.eq_iff_iff]
      simp [own, own ▸ kept]
    · simp [own]

theorem isHit_iff (found : c.seek link label sql = (.ok sought, c')) :
    sought.isHit = true ↔ c.labels.value? label = some sql ∧ (c.plan? link sql).isSome = true := by
  obtain ⟨-, binds, planned⟩ := seek_eq found
  have was : (c.bind label sql).1 = sought.bound := congrArg Prod.fst binds
  have placed : (c.bind label sql).2 = c' := congrArg Prod.snd binds
  rw [Sought.isHit, Bool.and_eq_true, ← was, planned, ← placed]
  by_cases bound : c.labels.value? label = some sql
  · rw [bind_of_bound bound]
    simp [bound, plan?]
  · rw [bind_of_unbound bound]
    simp [bound]

end StatementCache

namespace Session

variable {config : Config} {s t : Session} {c c' : StatementCache} {link generation : Nat} {label sql : String}
  {ready : Ready}

/-- The statement came from the label and the connection alone. The session is as it was but for the order in which
labels were used. -/
structure TookFromCache (s : Session) (c : StatementCache) (link : Nat) (label sql : String) (p : Prepared)
    (t : Session) (c' : StatementCache) : Prop where
  planned : c.plan? link sql = some p
  /-- Nothing was sent, nothing was noted, and no time has passed. -/
  silent : t = s.setCache c'
  bindings : ∀ name, c'.labels.value? name = c.labels.value? name
  recency : c'.labels.entries = c.labels.without label ++ [(label, sql)]
  plans : c'.plans = c.plans

/-- The connection has the plan now: it had it before and the server was not asked, or it was prepared there. The
texts that labels have lost are gone from all other connections. -/
structure MadeReady (s : Session) (c : StatementCache) (link : Nat) (label sql : String) (p : Prepared) (t : Session)
    (c' : StatementCache) : Prop where
  planned : c'.plan? link sql = some p
  sent : c.plan? link sql = some p ∧ t = s.setCache c' ∨ SentBetween s t link sql
  gone : ∀ text, StatementCache.Loses c c' label sql text → ∀ other, other ≠ link → text ∉ c'.textsOn other

theorem cache?_after (cached : s.cache? = some c) (w : Waited (s.setCache c') t) (d : StatementCache) :
    (t.setCache d).cache? = some d := by
  have there : t.isOpen = true := by
    rw [w.isOpen]
    exact isOpen_of_cache? (by rw [cache?_setCache, if_pos (isOpen_of_cache? cached)])
  rw [cache?_setCache, if_pos there]

theorem source_underLabel {sought : StatementCache.Sought} {p : Prepared} :
    (Ready.underLabel generation link label sought p).source = .hit ↔ sought.isHit = true := by
  simp [Ready.underLabel]

theorem not_isHit_of_unplanned {sought : StatementCache.Sought} (none : sought.plan = .none) :
    sought.isHit = false := by
  simp [StatementCache.Sought.isHit, none]

theorem Prepares.hit_iff {x : Except Halt Ready × Session} (named : label ≠ "")
    (prepares : Prepares s generation c link label sql x) :
    (∃ ready t, x = (.ok ready, t) ∧ ready.source = .hit) ↔
      c.labels.value? label = some sql ∧ (c.plan? link sql).isSome = true := by
  cases prepares with
  | unlabeled empty => exact absurd empty named
  | reused found planned => simp [source_underLabel, StatementCache.isHit_iff found]
  | halted found unplanned => simp [← StatementCache.isHit_iff found, not_isHit_of_unplanned unplanned]
  | refused found unplanned => simp [← StatementCache.isHit_iff found, not_isHit_of_unplanned unplanned]
  | prepared found unplanned =>
    simp [source_underLabel, ← StatementCache.isHit_iff found, not_isHit_of_unplanned unplanned]

theorem Prepares.source_of_ne (prepares : Prepares s generation c link label sql (.ok ready, t))
    (other : ready.source ≠ .hit) : ready.source = .miss := by
  have apart {sought : StatementCache.Sought} (no : ¬ sought.isHit = true) :
      (if sought.isHit then Source.hit else .miss) = .miss := if_neg no
  cases prepares with
  | reused => exact apart (mt source_underLabel.mpr other)
  | prepared => exact apart (mt source_underLabel.mpr other)

theorem Prepares.tookFromCache (prepares : Prepares s generation c link label sql (.ok ready, t))
    (hit : ready.source = .hit) : ∃ c', t = s.setCache c' ∧ TookFromCache s c link label sql ready.statement t c' := by
  cases prepares with
  | @reused sought c' p found planned =>
    have bound := ((StatementCache.isHit_iff found).mp (source_underLabel.mp hit)).1
    obtain ⟨-, binds, plan⟩ := StatementCache.seek_eq found
    have placed : (c.bind label sql).2 = c' := congrArg Prod.snd binds
    have there : c.plan? link sql = some p := StatementCache.plan?_of_bind (placed ▸ plan ▸ planned)
    rw [StatementCache.bind_of_bound bound] at placed
    refine ⟨c', rfl, there, rfl, fun name => ?_, placed ▸ rfl, placed ▸ rfl⟩
    rw [← placed, Labels.value?_rebound]
    split
    · rename_i own
      rw [own, bound]
    · rfl
  | prepared found unplanned =>
    rw [source_underLabel, not_isHit_of_unplanned unplanned] at hit
    cases hit

theorem Prepares.madeReady (prepares : Prepares s generation c link label sql (.ok ready, t))
    (cached : s.cache? = some c) (ticketed : s.server.Ticketed) {capacity : Option Nat} (tidy : c.Tidy capacity) :
    ∃ c', t.cache? = some c' ∧ MadeReady s c link label sql ready.statement t c' := by
  cases prepares with
  | @reused sought c' p found planned =>
    obtain ⟨-, binds, plan⟩ := StatementCache.seek_eq found
    have placed : (c.bind label sql).2 = c' := congrArg Prod.snd binds
    have there : c.plan? link sql = some p := StatementCache.plan?_of_bind (placed ▸ plan ▸ planned)
    refine ⟨c', by rw [cache?_setCache, if_pos (isOpen_of_cache? cached)], plan ▸ planned, .inl ⟨there, rfl⟩, ?_⟩
    subst placed
    exact fun text loses other _ => StatementCache.gone_of_loses tidy loses other
  | @prepared sought c' p u found unplanned waited sent =>
    obtain ⟨-, binds, plan⟩ := StatementCache.seek_eq found
    have placed : (c.bind label sql).2 = c' := congrArg Prod.snd binds
    obtain ⟨rfl, sent⟩ := sent ticketed
    refine ⟨_, cache?_after cached waited _, StatementCache.plan?_settle (plan ▸ unplanned), .inr sent, ?_⟩
    subst placed
    intro text loses other apart
    rw [StatementCache.textsOn_settle_of_ne apart]
    exact StatementCache.gone_of_loses tidy loses other

/-- A call for a labeled statement reports a hit exactly if the label stood for the text and the connection had the
plan, and then it does nothing else than to use the label. Every other call that succeeds leaves the plan on the
connection, and no other connection keeps a plan of a text that a label has lost. -/
theorem hit_iff_bound_and_planned (reached : Reachable config s) (cached : s.cache? = some c) (named : label ≠ "")
    (l : Limits) (generation link : Nat) (sql : String) :
    ((∃ ready t, s.prepareLabeled l generation c link label sql = (.ok ready, t) ∧ ready.source = .hit) ↔
        c.labels.value? label = some sql ∧ (c.plan? link sql).isSome = true) ∧
      ∀ ready t, s.prepareLabeled l generation c link label sql = (.ok ready, t) →
        ∃ c', t.cache? = some c' ∧
          (ready.source = .hit → TookFromCache s c link label sql ready.statement t c') ∧
          (ready.source ≠ .hit → ready.source = .miss ∧ MadeReady s c link label sql ready.statement t c') := by
  have regular := regular_of_reachable reached
  have tidy := StatementCache.tidy_of_reachable (regular.cache c cached)
  have prepares := prepareLabeled_prepares s l generation c link label sql
  refine ⟨prepares.hit_iff named, fun ready t e => ?_⟩
  rw [e] at prepares
  by_cases hit : ready.source = .hit
  · obtain ⟨c', rfl, took⟩ := prepares.tookFromCache hit
    exact ⟨c', by rw [cache?_setCache, if_pos (isOpen_of_cache? cached)], fun _ => took, fun other => absurd hit other⟩
  · obtain ⟨c', there, made⟩ := prepares.madeReady cached regular.ticketed tidy
    exact ⟨c', there, fun same => absurd same hit, fun _ => ⟨prepares.source_of_ne hit, made⟩⟩

def sharedText : Session := ((twoLabels []).afterPrepare "a" "SELECT 1").afterPrepare "b" "SELECT 1"

/-- A third label makes room by taking the text from the first one. The second one still stands for it, but has to
prepare it again. -/
theorem hit_iff_bound_and_planned_of_sharedText :
    ∃ c d, sharedText.cache? = some c ∧ (sharedText.afterPrepare "c" "SELECT 2").cache? = some d ∧
      (∃ ready t, sharedText.prepareLabeled (.patient .none) 0 c 1 "b" "SELECT 1" = (.ok ready, t) ∧
        ready.source = .hit) ∧
      d.labels.value? "b" = some "SELECT 1" ∧
      ¬ ∃ ready t, (sharedText.afterPrepare "c" "SELECT 2").prepareLabeled (.patient .none) 0 d 1 "b" "SELECT 1" =
          (.ok ready, t) ∧ ready.source = .hit := by
  have start : Reachable (Config.initial.set (.capacity 2)) (twoLabels []) := .ofPool _ _ _
  have reached : Reachable (Config.initial.set (.capacity 2)) sharedText :=
    (start.step (.prepare _ (.patient .none) "a" "SELECT 1")).step (.prepare _ (.patient .none) "b" "SELECT 1")
  have next := reached.step (.prepare _ (.patient .none) "c" "SELECT 2")
  refine ⟨_, _, rfl, rfl, ?_, by decide, ?_⟩
  · exact (hit_iff_bound_and_planned reached rfl (by decide) _ 0 1 "SELECT 1").1.mpr (by decide)
  · exact mt (hit_iff_bound_and_planned next rfl (by decide) _ 0 1 "SELECT 1").1.mp (by decide)

end Session

end RowMapper
