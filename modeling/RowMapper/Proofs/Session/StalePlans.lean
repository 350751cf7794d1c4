import RowMapper.Proofs.Cache.Recovery
import RowMapper.Proofs.Session.Caching
import RowMapper.Proofs.Session.Following

/-!
Failures of statements that were prepared under a label. A stale plan costs the label its binding; every
other failure leaves the cache alone. The text is prepared anew the next time if the label still stood
for it when the failure came, which a cursor that is read late cannot be sure of.
-/
namespace RowMapper.Session

variable {config : Config} {s t u v w : Session} {c : Call} {usual : Option String} {sql : String}
  {label : String}

def HasLink (s : Session) (link : Nat) : Prop :=
  0 < link ∧ s.server.isClosed s.now link = false

/-- Whatever connection is handed out, a text under a label goes to the server before it is ready. -/
def PreparesAnew (s : Session) (label sql : String) : Prop :=
  ∀ (l : Limits) (generation link : Nat) (c : StatementCache) (ready : Ready) (t : Session),
    s.HasLink link → s.cache? = some c →
      s.prepareLabeled l generation c link label sql = (.ok ready, t) →
        .wire (.prepare link sql) ∈ t.log.drop s.log.length

def KeepsOthers (c c' : StatementCache) (label sql : String) : Prop :=
  ∀ other bound, other ≠ label → c.labels.value? other = some bound → bound ≠ sql →
    c'.labels.value? other = some bound ∧ ∀ p ∈ c.plans, p.prepared.sql = bound → p ∈ c'.plans

/-- When giving up a label is enough to get rid of the plans of a text, and of no others that are
wanted. -/
structure Recoverable (t : Session) (c : StatementCache) (label sql : String) : Prop where
  /-- The label stands for the text, or no connection has a plan of it, or binding the label again takes
  its plans away. -/
  gone : c.labels.value? label = some sql ∨ (∀ link, t.HasLink link → sql ∉ c.textsOn link) ∨
    sql ∈ (c.invalidate label).2.displaced label sql
  /-- If the label stands for another text, it is the only one that needs the plans of that. -/
  unshared : ∀ bound, c.labels.value? label = some bound → bound ≠ sql →
    ∀ other, other ≠ label → c.labels.value? other = some bound →
      ∀ p ∈ c.plans, p.prepared.sql ≠ bound

theorem opened_complete (s : Session) (r : Run) (outcome : Outcome) :
    (s.complete r outcome).opened = s.opened := by
  simp only [complete]
  split <;> rfl

theorem cache?_of_opened (h : t.opened = s.opened) : t.cache? = s.cache? := by
  rw [cache?, cache?, h]

theorem isOpen_of_cache? {d : StatementCache} (h : s.cache? = some d) : s.isOpen = true := by
  cases ho : s.opened with
  | none => simp [cache?, ho] at h
  | some o => simp [isOpen, ho]

theorem isOpen_of_generation? {generation : Nat} (h : s.generation? = some generation) :
    s.isOpen = true := by
  cases ho : s.opened with
  | none => simp [generation?, ho] at h
  | some o => simp [isOpen, ho]

theorem cache?_report_of_fresh (s : Session) (r : Run) {h : Halt}
    (fresh : ∀ e, h = .error e → e.isStalePlan = false) :
    (s.report (α := Unit) r (fun _ => .rows 0) (.error h)).cache? = s.cache? := by
  cases h with
  | dropped => rfl
  | error e =>
    have stays : s.dropStale r.cached e = s := by
      simp only [dropStale, fresh e rfl, Bool.false_and]
      split <;> rfl
    simp only [report, fail, stays]
    exact cache?_of_opened (opened_complete s r _)

/-- A later opening does not pay for what an earlier one has prepared. -/
theorem cache?_report_of_reopened (s : Session) (r : Run) {h : Halt} {generation : Nat} {label : String}
    (prepared : r.cached = some (generation, label)) (reopened : s.generation? ≠ some generation) :
    (s.report (α := Unit) r (fun _ => .rows 0) (.error h)).cache? = s.cache? := by
  cases h with
  | dropped => rfl
  | error e =>
    have other : (s.opened.map (·.generation) == some generation) = false :=
      beq_eq_false_iff_ne.mpr reopened
    have stays : s.dropStale r.cached e = s := by
      simp only [dropStale, prepared, other, Bool.and_false]
      rfl
    simp only [report, fail, stays]
    exact cache?_of_opened (opened_complete s r _)

theorem cache?_report_of_stale {r : Run} {e : Error} {generation : Nat} {d : StatementCache}
    (prepared : r.cached = some (generation, label)) (same : s.generation? = some generation)
    (hd : s.cache? = some d) (stale : e.isStalePlan = true) :
    (s.report (α := Unit) r (fun _ => .rows 0) (.error (.error e))).cache? =
      some (d.invalidate label).2 := by
  have current : (s.opened.map (·.generation) == some generation) = true := beq_iff_eq.mpr same
  have drops : s.dropStale r.cached e = (s.invalidate label).2 := by
    simp only [dropStale, prepared, stale, current, Bool.and_self, ↓reduceIte]
  have given : (s.invalidate label).2.cache? = (s.setCache (d.invalidate label).2).cache? := by
    simp only [invalidate, cache_eq_ok.mpr hd]
    rfl
  simp only [report, fail, drops]
  rw [cache?_of_opened (opened_complete _ r _), given, cache?_setCache,
    if_pos (isOpen_of_cache? hd)]

theorem sql_of_plan? {d : StatementCache} {link : Nat} {p : Prepared}
    (h : d.plan? link sql = some p) : p.sql = sql := by
  simp only [StatementCache.plan?, Option.map_eq_some_iff] at h
  obtain ⟨plan, found, rfl⟩ := h
  have same := List.find?_some found
  simp only [Bool.and_eq_true, beq_iff_eq] at same
  exact same.2

theorem Prepares.ready {generation link : Nat} {d : StatementCache} {ready : Ready}
    (p : Prepares s generation d link label sql (.ok ready, t)) (ticketed : s.server.Ticketed)
    (opened : s.isOpen = true) :
    label ≠ "" ∧ ready.cached = some (generation, label) ∧ ready.statement.sql = sql ∧
      t.generation? = s.generation? ∧
      ∃ d', t.cache? = some d' ∧ d'.labels = (d.bind label sql).2.labels := by
  cases p with
  | @reused sought d' p hs hp =>
    obtain ⟨named, bound, plan⟩ := StatementCache.seek_eq hs
    refine ⟨named, rfl, sql_of_plan? (plan ▸ hp), generation?_setCache s d', d', ?_, ?_⟩
    · rw [cache?_setCache, if_pos opened]
    · rw [bound]
  | @prepared sought d' p u hs hp waited sent =>
    obtain ⟨named, bound, -⟩ := StatementCache.seek_eq hs
    have there : u.isOpen = true := by
      rw [waited.isOpen, isOpen_of_cache? (d := d')]
      rw [cache?_setCache, if_pos opened]
    refine ⟨named, rfl, (sent ticketed).1, ?_, _, by rw [cache?_setCache, if_pos there], ?_⟩
    · rw [generation?_setCache, waited.generation?, generation?_setCache]
    · rw [bound]
      rfl

theorem preparesAnew_iff {d : StatementCache} (ticketed : s.server.Ticketed)
    (hd : s.cache? = some d) (named : label ≠ "") (unbound : d.labels.value? label = .none) :
    s.PreparesAnew label sql ↔
      ∀ link, s.HasLink link → sql ∉ d.textsOn link ∨ sql ∈ d.displaced label sql := by
  have free (link : Nat) : (d.bind label sql).2.plan? link sql = .none ↔
      sql ∉ d.textsOn link ∨ sql ∈ d.displaced label sql :=
    StatementCache.plan?_bind_eq_none_iff (by simp [unbound])
  constructor
  · intro anew link there
    rw [← free link]
    cases hp : (d.bind label sql).2.plan? link sql with
    | none => rfl
    | some p =>
      have reused : s.prepareLabeled (.patient .none) 0 d link label sql =
          (.ok (.underLabel 0 link label ⟨(d.bind label sql).1, some p⟩ p),
            s.setCache (d.bind label sql).2) := by
        simp only [prepareLabeled, StatementCache.seek_of_named named, hp]
        rw [StatementCache.reportsHit_of_plan (p := p) rfl]
        rfl
      have sent := anew _ _ link d _ _ there hd reused
      simp [setCache, updateOpened] at sent
  · intro gone l generation link d' ready t there hd' e
    obtain rfl : d = d' := Option.some.inj (hd.symm.trans hd')
    have p := prepareLabeled_prepares s l generation d link label sql
    rw [e] at p
    have noPlan := (free link).mpr (gone link there)
    cases p with
    | reused hs hp =>
      obtain ⟨-, bound, plan⟩ := StatementCache.seek_eq hs
      rw [bound, ← plan, hp] at noPlan
      simp at noPlan
    | prepared _ _ _ sent =>
      obtain ⟨-, seen, log, hw⟩ := sent ticketed
      rw [setCache, updateOpened, log, List.drop_left]
      rw [Nat.sub_add_cancel there.1] at hw
      exact List.mem_map_of_mem hw

theorem mem_textsOn_invalidate {d : StatementCache} {link : Nat} :
    sql ∈ (d.invalidate label).2.textsOn link ↔
      sql ∈ d.textsOn link ∧ d.labels.value? label ≠ some sql := by
  simp only [StatementCache.mem_textsOn, StatementCache.mem_plans_invalidate]
  constructor
  · rintro ⟨p, ⟨hp, other⟩, hl, rfl⟩
    exact ⟨⟨p, hp, hl, rfl⟩, other⟩
  · rintro ⟨⟨p, hp, hl, rfl⟩, other⟩
    exact ⟨p, ⟨hp, other⟩, hl, rfl⟩

theorem keepsOthers_invalidate_iff {d : StatementCache} :
    KeepsOthers d (d.invalidate label).2 label sql ↔
      ∀ bound, d.labels.value? label = some bound → bound ≠ sql →
        ∀ other, other ≠ label → d.labels.value? other = some bound →
          ∀ p ∈ d.plans, p.prepared.sql ≠ bound := by
  constructor
  · intro kept bound hb different other ho hv p hp text
    have stays := ((kept other bound ho hv different).2 p hp text)
    exact (StatementCache.mem_plans_invalidate.mp stays).2 (text ▸ hb)
  · intro unshared other bound ho hv different
    refine ⟨(StatementCache.value?_invalidate_of_ne d ho).trans hv, fun p hp text => ?_⟩
    refine StatementCache.mem_plans_invalidate.mpr ⟨hp, fun hb => ?_⟩
    exact unshared bound (text ▸ hb) different other ho hv p hp text

/-- After a label was given up, its text goes to the server again and no other label loses a plan exactly
when that was recoverable. -/
theorem recovers_iff {d : StatementCache} (ticketed : t.server.Ticketed) (named : label ≠ "")
    (hd : t.cache? = some (d.invalidate label).2) :
    t.PreparesAnew label sql ∧ KeepsOthers d (d.invalidate label).2 label sql ↔
      Recoverable t d label sql := by
  have unbound := StatementCache.value?_invalidate d label
  rw [preparesAnew_iff ticketed hd named unbound, keepsOthers_invalidate_iff]
  constructor
  · rintro ⟨gone, unshared⟩
    refine ⟨?_, unshared⟩
    by_cases same : d.labels.value? label = some sql
    · exact .inl same
    · by_cases evicted : sql ∈ (d.invalidate label).2.displaced label sql
      · exact .inr (.inr evicted)
      · refine .inr (.inl fun link there kept => ?_)
        rcases gone link there with absent | evicted'
        · exact absent (mem_textsOn_invalidate.mpr ⟨kept, same⟩)
        · exact evicted evicted'
  · rintro ⟨gone, unshared⟩
    refine ⟨fun link there => ?_, unshared⟩
    rcases gone with same | absent | evicted
    · exact .inl fun kept => (mem_textsOn_invalidate.mp kept).2 same
    · exact .inl fun kept => absent link there (mem_textsOn_invalidate.mp kept).1
    · exact .inr evicted

theorem recoverable_of_bound {d : StatementCache} (tidy : d.Tidy config.cacheCapacity)
    (bound : d.labels.value? label = some sql ∨ config.cacheCapacity = some 0) :
    Recoverable t d label sql := by
  rcases bound with same | full
  · refine ⟨.inl same, fun text ht different => absurd ?_ different⟩
    exact Option.some.inj (ht.symm.trans same)
  · rw [full] at tidy
    have kept : (d.invalidate label).2.labels.capacity = some 0 := by
      rw [StatementCache.labels_invalidate]
      exact tidy.limit
    refine ⟨.inr (.inr (StatementCache.mem_displaced_of_full kept label sql)), fun text ht => ?_⟩
    rw [StatementCache.value?_of_full tidy label] at ht
    simp at ht

theorem begun_label {n : Nat} {b : Begun} (h : s.Regular config)
    (on : config.cacheEnabled = true) (begun : s.begin c usual sql n = (.ok b, u))
    (outside : c.transaction = .none) (given : (c.label <|> usual) = some label) :
    ∃ generation d, b.run.cached = some (generation, label) ∧ label ≠ "" ∧
      u.generation? = some generation ∧ u.cache? = some d ∧
      (d.labels.value? label = some b.ready.statement.sql ∨ config.cacheCapacity = some 0) := by
  have p := begin_begins s c usual sql n
  rw [begun] at p
  cases p with
  | @ready ctx x _ ready connected asked staged =>
    have noted : x.Regular config := by
      rw [askHook_eq] at asked
      exact (Prod.mk.inj asked).2 ▸ h.afterAsking _
    have opened : x.isOpen = true := by
      rw [askHook_eq] at asked
      have there : s.isOpen = true := by simpa [lacksConnection, outside] using connected
      exact (Prod.mk.inj asked).2 ▸ there
    have stages := prepareStage_stages x c (s.limitsOf c) (c.label <|> usual) ctx.execSql
    rw [staged, outside] at stages
    cases stages with
    | waited _ unlooked =>
      obtain ⟨d, hd⟩ := noted.enabled on opened
      rcases (unlooked ready rfl).2 rfl with unlabeled | uncached
      · simp [given] at unlabeled
      · simp [hd] at uncached
    | @labeled y t _ generation link d name _ hn out number cache prepares back =>
      obtain rfl : label = name := Option.some.inj (given.symm.trans hn)
      have regular := noted.waited out
      obtain ⟨named, cached, text, same, d', hd', labels⟩ :=
        prepares.ready regular.ticketed (isOpen_of_cache? cache)
      refine ⟨generation, d', cached, named, ?_, back.cache?.trans hd', ?_⟩
      · rw [back.generation?, same, number]
      · rw [labels, text]
        exact StatementCache.value?_bind
          (StatementCache.tidy_of_reachable (regular.cache d cache)) label ctx.execSql

/-- When the step of a statement fails, its caller gets the failure. One that shows no stale plan leaves
all labels and plans. A stale plan costs the label its binding; its text is prepared anew and the labels
of other texts keep what they have exactly when that is recoverable, which it is unless other calls came
between the beginning of the statement and its failure. -/
theorem stale_failure_recovers {n : Nat} {b : Begun} {a : Errand} {e : Error}
    (on : config.cacheEnabled = true) (reached : Reachable config s)
    (begun : s.begin c usual sql n = (.ok b, u)) (later : v = u ∨ Reachable config v)
    (failed : v.stage b a = (.error (.error e), w)) :
    ∃ t, v.follow b a = (.error (.error e), t) ∧
      (e.isStalePlan = false → t.cache? = v.cache?) ∧
      (e.isStalePlan = true → c.transaction = .none → (c.label <|> usual) = some label →
        (v.generation? ≠ u.generation? → t.cache? = v.cache?) ∧
        (v.generation? = u.generation? → ∃ d d', v.cache? = some d ∧ t.cache? = some d' ∧
          d'.labels.value? label = .none ∧
          (∀ other, other ≠ label → d'.labels.value? other = d.labels.value? other) ∧
          (t.PreparesAnew label b.ready.statement.sql ∧
              KeepsOthers d d' label b.ready.statement.sql ↔
            Recoverable t d label b.ready.statement.sql) ∧
          (v = u → Recoverable t d label b.ready.statement.sql))) := by
  have regular := regular_of_reachable reached
  have regular_u : u.Regular config := by
    have := regular.begin c usual sql n
    rwa [begun] at this
  have regular_v : v.Regular config := by
    rcases later with rfl | reached_v
    · exact regular_u
    · exact regular_of_reachable reached_v
  have waited : Waited v w := by
    have := waited_stage v b a
    rwa [failed] at this
  have back := waited_releaseReady
    (w.report (α := Unit) b.run (fun _ => .rows 0) (.error (.error e))) b.ready
  refine ⟨_, follow_of_error failed, fun fresh => ?_, fun stale outside given => ?_⟩
  · rw [back.cache?, cache?_report_of_fresh w b.run (by simpa using fresh), waited.cache?]
  obtain ⟨generation, d, cached, named, number, hd, bound⟩ :=
    begun_label regular on begun outside given
  refine ⟨fun reopened => ?_, fun same => ?_⟩
  · rw [back.cache?, cache?_report_of_reopened w b.run cached ?_, waited.cache?]
    rwa [waited.generation?, ← number]
  · have opened : v.isOpen = true := isOpen_of_generation? (same.trans number)
    obtain ⟨d₀, hd₀⟩ := regular_v.enabled on opened
    have hw : w.generation? = some generation := by rw [waited.generation?, same, number]
    have after := cache?_report_of_stale cached hw (waited.cache?.trans hd₀) stale
    refine ⟨d₀, _, hd₀, back.cache?.trans after, StatementCache.value?_invalidate d₀ label,
      fun other ho => StatementCache.value?_invalidate_of_ne d₀ ho, ?_, ?_⟩
    · have regular_t := ((regular_v.waited waited).report (α := Unit) b.run (fun _ => .rows 0)
        (.error (.error e))).waited back
      exact recovers_iff regular_t.ticketed named (back.cache?.trans after)
    · rintro rfl
      obtain rfl : d = d₀ := Option.some.inj (hd.symm.trans hd₀)
      exact recoverable_of_bound (StatementCache.tidy_of_reachable (regular_v.cache d hd)) bound

/-- A server that breaks off the first answer because a plan is lost, and a session that talks to it. -/
def losing : Session :=
  twoLabels [{ RunStep.quiet with setback := some (.refuse ⟨"26000", "plan is lost", .none⟩) }, .quiet]

def lost : Error := .query (.server ⟨"26000", "plan is lost", .none⟩)

def under (label : String) : Call := Call.plain.withLabel label

theorem stale_failure_recovers_at_once :
    ∃ b u t d, losing.begin (under "a") .none "SELECT 1" 0 = (.ok b, u) ∧
      u.follow b (.execute []) = (.error (.error lost), t) ∧ t.cache? = some d ∧
      d.labels.value? "a" = .none ∧ t.PreparesAnew "a" "SELECT 1" := by
  have reached : Reachable (Config.initial.set (.capacity 2)) losing := .ofPool _ _ _
  obtain ⟨b, u, w, begun, text, failed⟩ : ∃ b u w,
      losing.begin (under "a") .none "SELECT 1" 0 = (.ok b, u) ∧
        b.ready.statement.sql = "SELECT 1" ∧ u.stage b (.execute []) = (.error (.error lost), w) :=
    ⟨_, _, _, rfl, rfl, rfl⟩
  obtain ⟨t, followed, -, stale⟩ := stale_failure_recovers rfl reached begun (.inl rfl) failed
  obtain ⟨d, d', -, hd', unbound, -, recovers, at_once⟩ := (stale (by decide) rfl rfl).2 rfl
  exact ⟨b, u, t, d', begun, followed, hd', unbound, text ▸ (recovers.mpr (at_once rfl)).1⟩

/-- While rows of a statement wait to be read, its label is bound to another text and its text to another
label. The failure that comes with the rows gives up the other text, and the lost plan is run again. -/
theorem stale_plan_is_run_again :
    ∃ cursor u v t, losing.query (under "a") .none "SELECT 1" [] = (.ok cursor, u) ∧
      v = (u.afterPrepare "a" "SELECT 2").afterPrepare "b" "SELECT 1" ∧
      Reachable (Config.initial.set (.capacity 2)) v ∧
      v.consume cursor Reader.collect [] = (([], .error (.error lost)), t) ∧
      lost.isStalePlan = true ∧ ¬ t.PreparesAnew "a" "SELECT 1" ∧
      (t.execute (under "a") .none "SELECT 1" []).2.log.drop t.log.length =
        [.wire (.run 2 ⟨"SELECT 1", [], [("v", .int8)]⟩ [])] := by
  have reached : Reachable (Config.initial.set (.capacity 2)) losing := .ofPool _ _ _
  refine ⟨_, _, _, _, rfl, rfl, ?_, rfl, by decide, ?_, by decide⟩
  · exact ((reached.step (.query _ (under "a") .none "SELECT 1" [])).step
      (.prepare _ (.patient .none) "a" "SELECT 2")).step (.prepare _ (.patient .none) "b" "SELECT 1")
  · intro anew
    have sent := anew (.patient .none) 0 2 _ _ _ ⟨by decide, rfl⟩ rfl rfl
    revert sent
    decide

end RowMapper.Session
