import RowMapper.Proofs.Session.Bindings

/-!
Sessions with a record of the statements that got ready under their labels, and of those that were severed. After
any calls with any ends, no label stands for anything else.
-/
namespace RowMapper

namespace Session

def Unbinds (s t : Session) : Prop := ∀ name text, t.textOf? name = some text → s.textOf? name = some text

variable {s t u : Session}

theorem Unbinds.trans (h : Unbinds s t) (k : Unbinds t u) : Unbinds s u :=
  fun name text there => h name text (k name text there)

theorem unbinds_of_opened (same : t.opened = s.opened) : Unbinds s t :=
  fun name _ there => textOf?_of_opened same name ▸ there

theorem Waited.unbinds (w : Waited s t) : Unbinds s t :=
  fun name _ there => w.textOf? name ▸ there

theorem unbinds_finish (s : Session) (callback : Option Nat) : Unbinds s (s.finish callback) :=
  unbinds_of_opened rfl

theorem unbinds_invalidate (s : Session) (label : String) : Unbinds s (s.invalidate label).2 := by
  simp only [invalidate]
  split
  · exact unbinds_of_opened rfl
  · rename_i c e
    have cached := cache_eq_ok.mp e
    intro name text there
    have given : (s.setCache (c.invalidate label).2).textOf? name = some text := there
    rw [textOf?_setCache (isOpen_of_cache? cached)] at given
    rw [textOf?_of_cache cached]
    by_cases same : name = label
    · rw [same, StatementCache.value?_invalidate] at given
      cases given
    · rwa [StatementCache.value?_invalidate_of_ne c same] at given

theorem unbinds_dropStale (s : Session) (cached : Option (Nat × String)) (e : Error) :
    Unbinds s (s.dropStale cached e) := by
  simp only [dropStale]
  split
  · exact unbinds_of_opened rfl
  · split
    · exact unbinds_invalidate s _
    · exact unbinds_of_opened rfl

theorem unbinds_complete (s : Session) (r : Run) (outcome : Outcome) : Unbinds s (s.complete r outcome) :=
  unbinds_of_opened (opened_complete s r outcome)

theorem unbinds_report {α : Type} (s : Session) (r : Run) (summary : α → Outcome) (result : Except Halt α) :
    Unbinds s (s.report r summary result) := by
  cases result with
  | ok a => exact unbinds_complete s r _
  | error h =>
    cases h with
    | error e => exact (unbinds_dropStale s r.cached e).trans (unbinds_complete _ r _)
    | dropped => exact unbinds_finish s r.callback

theorem unbinds_executeReady (s : Session) (b : Begun) (values : List Param) :
    Unbinds s (s.executeReady b values).2 :=
  ((waited_executeStage s b values).unbinds.trans (unbinds_report _ b.run _ _)).trans
    (waited_releaseReady _ b.ready).unbinds

theorem unbinds_queryReady (s : Session) (b : Begun) (values : List Param) :
    Unbinds s (s.queryReady b values).2 := by
  have ran := (waited_runStage s b values).unbinds
  simp only [queryReady]
  split <;> rename_i e <;> rw [e] at ran
  · exact ran.trans (waited_openCursor _ _ b).unbinds
  · exact (ran.trans (unbinds_report _ b.run _ _)).trans (waited_releaseReady _ b.ready).unbinds

theorem unbinds_consume {σ : Type} (s : Session) (c : Cursor) (reader : Reader σ) (state : σ) :
    Unbinds s (s.consume c reader state).2 := by
  rw [consume_eq]
  exact (((waited_unblock s c).trans (waited_advance _ _)).unbinds.trans (unbinds_report _ _ _ _)).trans
    (waited_releaseReady _ c.begun.ready).unbinds

theorem unbinds_discard (s : Session) (c : Cursor) : Unbinds s (s.discard c) :=
  ((waited_unblock s c).unbinds.trans (unbinds_finish _ _)).trans (waited_releaseReady _ c.begun.ready).unbinds

theorem unbinds_useReady (s : Session) (b : Begun) (values : List Param) (use : Use) :
    Unbinds s (s.useReady b values use).2 := by
  have queried := unbinds_queryReady s b values
  cases use with
  | count =>
    have ran := unbinds_executeReady s b values
    simp only [useReady]
    split <;> rename_i e <;> rw [e] at ran <;> exact ran
  | read reader state =>
    simp only [useReady]
    split <;> rename_i e <;> rw [e] at queried
    · exact queried
    · have read := queried.trans (unbinds_consume _ ‹Cursor› reader state)
      split <;> rename_i e' <;> rw [e'] at read <;> exact read
  | drop =>
    simp only [useReady]
    split <;> rename_i e <;> rw [e] at queried
    · exact queried
    · exact queried.trans (unbinds_discard _ _)

theorem unbinds_clearCache (s : Session) : Unbinds s s.clearCache := by
  intro name text there
  cases opened : s.opened with
  | none => simp [textOf?, cache?, clearCache, updateOpened, opened] at there
  | some o =>
    cases cached : o.cache with
    | none => simp [textOf?, cache?, clearCache, updateOpened, opened, cached] at there
    | some c => simp [textOf?, cache?, clearCache, updateOpened, opened, cached, StatementCache.close, Labels.clear,
        Labels.value?] at there

theorem unbinds_close (s : Session) : Unbinds s s.close := by
  simp only [close]
  split
  · exact unbinds_of_opened rfl
  · intro name text there
    simp [textOf?, cache?, note] at there

theorem unbinds_install (s : Session) (max : Nat) (dsn : Dsn) : Unbinds s (s.install max dsn) := by
  intro name text there
  cases on : s.config.cacheEnabled <;>
    simp [textOf?, cache?, install, on, StatementCache.empty, Labels.empty, Labels.value?] at there

theorem unbinds_openPool (s : Session) (l : Limits) : Unbinds s (s.openPool l).2 := by
  simp only [openPool]
  split
  · exact unbinds_of_opened rfl
  · rename_i dsn _
    have connected := waited_connect s l
    split <;> rename_i e <;> rw [e] at connected
    · exact connected.unbinds
    · exact connected.unbinds
    · rename_i link u
      have greeted := connected.trans (waited_greet u l link)
      split <;> rename_i e' <;> rw [e'] at greeted
      · exact greeted.unbinds
      · rename_i v
        have installed := unbinds_install (v.note [.trace (v.openedTrace dsn)]) v.config.maxConnections dsn
        exact (greeted.unbinds.trans installed).trans (waited_updatePool _ _).unbinds

theorem textOf?_of_full {config : Config} (regular : s.Regular config) (full : config.cacheCapacity = some 0)
    (name : String) : s.textOf? name = Option.none := by
  cases cached : s.cache? with
  | none => simp [textOf?, cached]
  | some c =>
    have tidy := StatementCache.tidy_of_reachable (regular.cache c cached)
    rw [textOf?_of_cache cached]
    exact StatementCache.value?_of_full (full ▸ tidy) name

def beginLabeled (s : Session) (c : Call) (usual : Option String) (sql : String) (paramCount : Nat) :
    Except Halt (Option (String × String)) × Session :=
  ((s.begin c usual sql paramCount).1.map (·.ready.labeled?), (s.begin c usual sql paramCount).2)

end Session

inductive Labeling : Type 1 where
  | invoke (c : Call) (i : Invocation)
  | query (c : Call) (usual : Option String) (sql : String) (values : List Param)
  | prepare (l : Limits) (label sql : String)

namespace Labeling

def run (s : Session) : Labeling → Session
  | invoke c i => s.invoke c i
  | query c usual sql values => (s.query c usual sql values).2
  | prepare l label sql => (s.prepareOnly l label sql).2

/-- The call up to the point where its statement is prepared, or has failed to be: the label and the text that
got ready, if the statement has a label. -/
def begun (s : Session) : Labeling → Except Halt (Option (String × String)) × Session
  | invoke c i =>
    match i.planned? with
    | none => (.ok none, s.finish c.callback)
    | some p => s.beginLabeled c p.usual p.sql p.values.length
  | query c usual sql values => s.beginLabeled c usual sql values.length
  | prepare l label sql =>
    ((s.prepareOnly l label sql).1.map fun p => some (label, p.2.sql), (s.prepareOnly l label sql).2)

def readied? (s : Session) (q : Labeling) : Option (String × String) :=
  match (q.begun s).1 with
  | .ok found => found
  | .error _ => none

def severed? (s : Session) : Labeling → Option (String × String)
  | invoke c i => i.planned?.bind fun p => s.severing? c p.usual p.sql p.values.length
  | query c usual sql values => s.severing? c usual sql values.length
  | prepare l label sql => s.severedAt? l (some label) sql

variable {config : Config} {s : Session}

theorem relabels_begun (regular : s.Regular config) (q : Labeling) :
    Session.Relabels config.cacheCapacity s id (q.severed? s) (q.begun s) := by
  have statement (c : Call) (usual : Option String) (sql : String) (n : Nat) :
      Session.Relabels config.cacheCapacity s id (s.severing? c usual sql n) (s.beginLabeled c usual sql n) := by
    refine (Session.relabels_begin regular c usual sql n).map (fun _ => rfl) (fun b e => ?_) fun h e => ?_
    · exact ⟨_, by rw [Session.beginLabeled, e]; rfl, rfl⟩
    · rw [Session.beginLabeled, e]; rfl
  cases q with
  | invoke c i =>
    simp only [begun, severed?]
    cases i.planned? with
    | none => exact Session.relabels_same fun _ => rfl
    | some p => exact statement c p.usual p.sql p.values.length
  | query c usual sql values => exact statement c usual sql values.length
  | prepare l label sql =>
    refine (Session.relabels_prepareOnly regular l label sql).map (fun _ => rfl) (fun p e => ?_) fun h e => ?_
    · exact ⟨_, by rw [begun, e]; rfl, rfl⟩
    · rw [begun, e]; rfl

/-- A call does nothing more when its statement failed to be prepared, and gives labels up otherwise. -/
theorem run_begun (s : Session) (q : Labeling) :
    Session.Unbinds (q.begun s).2 (q.run s) ∧ ∀ h, (q.begun s).1 = .error h → q.run s = (q.begun s).2 := by
  cases q with
  | invoke c i =>
    simp only [run, begun, Session.invoke_eq]
    cases i.planned? with
    | none => exact ⟨Session.unbinds_of_opened rfl, fun _ _ => rfl⟩
    | some p =>
      simp only [Session.beginLabeled, Session.carryOut_eq]
      obtain ⟨h | b, t⟩ := s.begin c p.usual p.sql p.values.length
      · exact ⟨Session.unbinds_of_opened rfl, fun _ _ => rfl⟩
      · exact ⟨Session.unbinds_useReady t b p.values p.use, fun _ e => by cases e⟩
  | query c usual sql values =>
    simp only [run, begun, Session.beginLabeled, Session.query_eq]
    obtain ⟨h | b, t⟩ := s.begin c usual sql values.length
    · exact ⟨Session.unbinds_of_opened rfl, fun _ _ => rfl⟩
    · exact ⟨Session.unbinds_queryReady t b values, fun _ e => by cases e⟩
  | prepare l label sql => exact ⟨Session.unbinds_of_opened rfl, fun _ _ => rfl⟩

theorem regular_run (regular : s.Regular config) (q : Labeling) : (q.run s).Regular config := by
  cases q with
  | invoke c i =>
    rw [run, Session.invoke_eq]
    split
    · exact regular.finish c.callback
    · exact regular.carryOut c _ _ _ _
  | query c usual sql values => exact regular.query c usual sql values
  | prepare l label sql => exact regular.prepareOnly l label sql

theorem textOf?_run (regular : s.Regular config) (q : Labeling) {name text : String}
    (there : (q.run s).textOf? name = some text) :
    s.textOf? name = some text ∨ q.readied? s = some (name, text) ∨ q.severed? s = some (name, text) := by
  refine ((relabels_begun regular q).stands name text ((run_begun s q).1 name text there)).imp_right
    (Or.imp_left ?_)
  rintro ⟨found, ok, same⟩
  rw [readied?, ok]
  exact same

/-- A call that severed a label has failed, cut short. It leaves the label bound if there is room for any. -/
theorem run_of_severed (regular : s.Regular config) {q : Labeling} {name text : String}
    (severed : q.severed? s = some (name, text)) :
    ∃ h, (q.begun s).1 = .error h ∧ h.isCut = true ∧
      (config.cacheCapacity ≠ some 0 → (q.run s).textOf? name = some text) := by
  obtain ⟨h, failed, isCut, bound⟩ := (relabels_begun regular q).cut name text severed
  exact ⟨h, failed, isCut, fun room => (run_begun s q).2 h failed ▸ bound room⟩

end Labeling

/-- A session with the labels and texts that got ready in the calls so far, and those that were severed. -/
structure Ledger where
  session : Session
  ready : List (String × String)
  severed : List (String × String)

namespace Ledger

def run (b : Ledger) (q : Labeling) : Ledger :=
  ⟨q.run b.session, (q.readied? b.session).toList ++ b.ready, (q.severed? b.session).toList ++ b.severed⟩

inductive Turn : Ledger → Ledger → Prop where
  | run (b : Ledger) (q : Labeling) : Turn b (b.run q)
  | consume {σ : Type} (b : Ledger) (c : Cursor) (reader : Reader σ) (state : σ) :
    Turn b { b with session := (b.session.consume c reader state).2 }
  | discard (b : Ledger) (c : Cursor) : Turn b { b with session := b.session.discard c }
  | invalidate (b : Ledger) (label : String) : Turn b { b with session := (b.session.invalidate label).2 }
  | clearCache (b : Ledger) : Turn b { b with session := b.session.clearCache }
  | beginTransaction (b : Ledger) (l : Limits) : Turn b { b with session := (b.session.beginTransaction l).2 }
  | openPool (b : Ledger) (l : Limits) : Turn b { b with session := (b.session.openPool l).2 }
  | close (b : Ledger) : Turn b { b with session := b.session.close }
  | sleep (b : Ledger) (l : Limits) (d : Duration) : Turn b { b with session := (b.session.sleep l d).2 }
  | settle (b : Ledger) : Turn b { b with session := b.session.settle }

inductive Reachable (config : Config) : Ledger → Prop where
  | closed (hook : Option Hook) (rules : List Rule) (startups : List StartupStep) :
    Reachable config ⟨.closed config hook (.ofScript rules startups), [], []⟩
  | ofPool (hook : Option Hook) (rules : List Rule) (startups : List StartupStep) :
    Reachable config ⟨.ofPool config hook (.ofScript rules startups), [], []⟩
  | turn {b d : Ledger} : Reachable config b → Turn b d → Reachable config d

/-- Every label that is bound got ready with its text, or was severed with it. -/
structure Kept (config : Config) (b : Ledger) : Prop where
  regular : b.session.Regular config
  recorded : ∀ name text, b.session.textOf? name = some text → (name, text) ∈ b.ready ∨ (name, text) ∈ b.severed

variable {config : Config} {b d : Ledger}

theorem Kept.run (h : b.Kept config) (q : Labeling) : (b.run q).Kept config := by
  refine ⟨q.regular_run h.regular, fun name text there => ?_⟩
  rcases q.textOf?_run h.regular there with stood | readied | severed
  · exact (h.recorded name text stood).imp (List.mem_append_right _) (List.mem_append_right _)
  · exact .inl (List.mem_append_left _ (Option.mem_toList.mpr readied))
  · exact .inr (List.mem_append_left _ (Option.mem_toList.mpr severed))

theorem Kept.unbinds (h : b.Kept config) {t : Session} (regular : t.Regular config)
    (given : Session.Unbinds b.session t) : Kept config { b with session := t } :=
  ⟨regular, fun name text there => h.recorded name text (given name text there)⟩

theorem Kept.waited (h : b.Kept config) {t : Session} (w : Session.Waited b.session t) :
    Kept config { b with session := t } :=
  h.unbinds (h.regular.waited w) w.unbinds

theorem Kept.turn (h : b.Kept config) (step : Turn b d) : d.Kept config := by
  cases step with
  | run b q => exact h.run q
  | consume b c reader state =>
    exact h.unbinds (h.regular.consume c reader state) (Session.unbinds_consume _ c reader state)
  | discard b c => exact h.unbinds (h.regular.discard c) (Session.unbinds_discard _ c)
  | invalidate b label => exact h.unbinds (h.regular.invalidate label) (Session.unbinds_invalidate _ label)
  | clearCache b => exact h.unbinds h.regular.clearCache (Session.unbinds_clearCache _)
  | beginTransaction b l => exact h.waited (Session.waited_beginTransaction _ l)
  | openPool b l => exact h.unbinds (h.regular.openPool l) (Session.unbinds_openPool _ l)
  | close b => exact h.unbinds h.regular.close (Session.unbinds_close _)
  | sleep b l d => exact h.waited (Session.waited_pass _ l _)
  | settle b => exact h.waited (Session.waited_advance _ _)

theorem kept_of_reachable (reached : Reachable config b) : b.Kept config := by
  induction reached with
  | closed hook rules startups => exact ⟨Session.regular_closed config hook rules startups, fun _ _ e => by cases e⟩
  | ofPool hook rules startups =>
    refine ⟨(Session.regular_closed config hook rules startups).install _ _, fun name text there => ?_⟩
    cases Session.unbinds_install _ _ _ name text there
  | turn _ step ih => exact ih.turn step

/-- After any calls, a label stands for nothing but a text that got ready under it or was severed. What a call
leaves bound that was not bound before, when its statement failed to be prepared, is what it severed, for which
there must be room; and that happens only to a call that was cut short. -/
theorem bound_ready_or_severed (reached : Reachable config b) :
    (∀ name text, b.session.textOf? name = some text → (name, text) ∈ b.ready ∨ (name, text) ∈ b.severed) ∧
    ∀ q : Labeling,
      (q.readied? b.session = none → ∀ name, b.session.textOf? name = none → ∀ text,
        ((q.run b.session).textOf? name = some text ↔
          config.cacheCapacity ≠ some 0 ∧ q.severed? b.session = some (name, text))) ∧
      (q.severed? b.session ≠ none → ∃ h, (q.begun b.session).1 = .error h ∧ h.isCut = true) := by
  have kept := kept_of_reachable reached
  refine ⟨kept.recorded, fun q => ⟨fun unready name unbound text => ⟨fun there => ?_, fun ⟨room, severed⟩ => ?_⟩,
    fun severed => ?_⟩⟩
  · refine ⟨fun full => ?_, ?_⟩
    · -- Without room a label loses its text in the moment that it gets it.
      cases there.symm.trans (Session.textOf?_of_full (q.regular_run kept.regular) full name)
    · rcases q.textOf?_run kept.regular there with stood | readied | severed
      · cases unbound.symm.trans stood
      · cases unready.symm.trans readied
      · exact severed
  · obtain ⟨h, -, -, bound⟩ := q.run_of_severed kept.regular severed
    exact bound room
  · obtain ⟨⟨name, text⟩, there⟩ := Option.ne_none_iff_exists'.mp severed
    obtain ⟨h, failed, isCut, -⟩ := q.run_of_severed kept.regular there
    exact ⟨h, failed, isCut⟩

def tardy : Session :=
  .ofPool Config.initial none (.ofScript
    [⟨"SELECT 2", true, .fixed [], [], [⟨⟨60⟩, none⟩], []⟩, Session.selection []] [])

def hasty : Labeling := .invoke ((Session.under "l").withTimeout ⟨50⟩) (.statement "SELECT 2" [] .count)

theorem bound_ready_or_severed_hasty :
    ∃ b, Reachable Config.initial b ∧ b.session.textOf? "a" = some "SELECT 1" ∧
      (("a", "SELECT 1") ∈ b.ready ∨ ("a", "SELECT 1") ∈ b.severed) ∧ b.severed = [] ∧
      (hasty.run b.session).textOf? "l" = some "SELECT 2" ∧
      ∃ h, (hasty.begun b.session).1 = .error h ∧ h.isCut = true := by
  have start : Reachable Config.initial ⟨tardy, [], []⟩ := .ofPool _ _ _
  have reached := start.turn (.run _ (.prepare (.patient none) "a" "SELECT 1"))
  obtain ⟨recorded, calls⟩ := bound_ready_or_severed reached
  obtain ⟨left, cut⟩ := calls hasty
  exact ⟨_, reached, by decide, recorded "a" "SELECT 1" (by decide), by decide,
    (left (by decide) "l" (by decide) "SELECT 2").mpr ⟨by decide, by decide⟩, cut (by decide)⟩

/-- The call times out, and the label stays with a text that was never prepared. -/
theorem hasty_label_stays :
    ∃ u, (tardy.execute ((Session.under "l").withTimeout ⟨50⟩) none "SELECT 2" []) =
        (.error (.error (.timeout ⟨50⟩)), u) ∧
      tardy.textOf? "l" = none ∧ u.textOf? "l" = some "SELECT 2" ∧
      u.cache?.map (·.plans) = some [] ∧ (Ledger.run ⟨tardy, [], []⟩ hasty).ready = [] :=
  ⟨_, rfl, by decide, by decide, by decide, by decide⟩

end Ledger

end RowMapper
