import RowMapper.Proofs.Operation.ReadOnly
import RowMapper.Proofs.Session.Handling

/-!
A session that any number of callers open, close and use at once. An opening waits for its turn, looks at the
settings, and then waits twice for the server before it puts a pool in place. Closings do not wait for a turn, and
calls in flight keep the pool and the cache that were in place when they began.
-/
namespace RowMapper

open Relation (ReflTransGen)

inductive Opening where
  | connecting (dsn : Dsn)
  | greeting (dsn : Dsn) (link : Nat)

/-- What is left of an open connection when it is closed: a pool that hands out nothing, and a cache without labels
and plans. -/
def Opened.shut (o : Opened) : Opened :=
  { o with pool := { o.pool with max := 0, idle := [] }, cache := o.cache.map StatementCache.close }

structure Traffic where
  session : Session
  queued : Nat
  underWay : Option Opening
  retired : List Opened
  /-- Of each call in flight, the opening whose pool and cache it has. -/
  holders : List Nat

inductive Happening : Type 1 where
  | quiet
  | opened
  | refused (e : Error)
  | closed (o : Opened)
  | unconnected (c : Call) (i : Invocation) (returned : Returned)

namespace Happening

def isOpened : Happening → Bool
  | .opened => true
  | _ => false

def isQuiet : Happening → Bool
  | .quiet => true
  | _ => false

def ofOpening : Except Halt Unit → List Happening
  | .ok () => [.opened]
  | .error (.error e) => [.refused e]
  | .error .dropped => []

end Happening

namespace Traffic

/-- What happens between two waits. -/
inductive Step : Traffic → Happening → Traffic → Prop where
  /-- Time passes, the server works, the hook and the callbacks run. -/
  | world {h : Traffic} {t : Session} : t.config = h.session.config → t.openings = h.session.openings →
    t.opened = h.session.opened → Step h .quiet { h with session := t }
  | call (h : Traffic) : Step h .quiet { h with queued := h.queued + 1 }
  /-- An opening gets its turn and fails before it talks to the server. -/
  | refuse {h : Traffic} {n : Nat} {e : Error} : h.queued = n + 1 → h.underWay = none →
    h.session.openingDsn = .error e → Step h (.refused e) { h with queued := n }
  | enter {h : Traffic} {n : Nat} {dsn : Dsn} : h.queued = n + 1 → h.underWay = none →
    h.session.openingDsn = .ok dsn → Step h .quiet { h with queued := n, underWay := some (.connecting dsn) }
  | connect {h : Traffic} {dsn : Dsn} (link : Nat) : h.underWay = some (.connecting dsn) →
    Step h .quiet { h with underWay := some (.greeting dsn link) }
  /-- There is no connection, or no answer, or the wrong one. -/
  | fail {h : Traffic} {p : Opening} (e : Error) : h.underWay = some p →
    Step h (.refused e) { h with underWay := none }
  | install {h : Traffic} {dsn : Dsn} {link : Nat} {row : Option Row} : h.underWay = some (.greeting dsn link) →
    Session.checkReply row = .ok () →
      Step h .opened { h with session := h.session.installGreeted dsn link, underWay := none }
  /-- The caller of an opening does not wait any more. -/
  | leave {h : Traffic} {n : Nat} : h.queued = n + 1 → Step h .quiet { h with queued := n }
  | abandon (h : Traffic) : Step h .quiet { h with underWay := none }
  | close {h : Traffic} {o : Opened} : h.session.opened = some o →
    Step h (.closed o.shut) { h with session := h.session.close, retired := o.shut :: h.retired }
  | begin {h : Traffic} {o : Opened} : h.session.opened = some o →
    Step h .quiet { h with holders := o.generation :: h.holders }
  | handle {h : Traffic} {o o' : Opened} : h.session.opened = some o → o.generation ∈ h.holders → o.Touch o' →
    Step h .quiet { h with session := { h.session with opened := some o' } }
  /-- A call goes on with a pool and a cache that were closed in the meantime. -/
  | late {h : Traffic} {o o' : Opened} {i : Nat} : h.retired[i]? = some o → o.generation ∈ h.holders → o.Touch o' →
    Step h .quiet { h with retired := h.retired.set i o' }
  | finish (h : Traffic) (i : Nat) : Step h .quiet { h with holders := h.holders.eraseIdx i }
  | unconnected {h : Traffic} {c : Call} (i : Invocation) : h.session.opened = none → c.transaction = none →
    Step h (.unconnected c i (h.session.outcome c i).1) { h with session := (h.session.outcome c i).2 }

inductive Run : Traffic → List Happening → Traffic → Prop where
  | done (h : Traffic) : Run h [] h
  | step {h h' h'' : Traffic} {e : Happening} {es : List Happening} : Step h e h' → Run h' es h'' →
    Run h (e :: es) h''

inductive Reachable (config : Config) : Traffic → Prop where
  | start {s : Session} : s.Reachable config → Reachable config ⟨s, 0, none, [], []⟩
  | step {h h' : Traffic} {e : Happening} : Reachable config h → Step h e h' → Reachable config h'

variable {config : Config} {h h' h'' : Traffic} {e : Happening} {es ds : List Happening} {s t : Session}

theorem Run.append (r : Run h es h') (k : Run h' ds h'') : Run h (es ++ ds) h'' := by
  induction r with
  | done => exact k
  | step first _ ih => exact .step first (ih k)

theorem Step.run (step : Step h e h') : Run h [e] h' := .step step (.done h')

/-! ### Calls that find no open connection -/

theorem begin_unconnected {c : Call} (shut : s.opened = none) (pooled : c.transaction = none) (usual : Option String)
    (sql : String) (n : Nat) : s.begin c usual sql n = (.error (.error .closed), s.finish c.callback) := by
  have lacks : s.lacksConnection c = true := by simp [Session.lacksConnection, Session.isOpen, shut, pooled]
  exact if_pos lacks

theorem query_unconnected {c : Call} (shut : s.opened = none) (pooled : c.transaction = none) (usual : Option String)
    (sql : String) (values : List Param) :
    s.query c usual sql values = (.error (.error .closed), s.finish c.callback) := by
  rw [Session.query_eq, begin_unconnected shut pooled]

/-- A call that has a statement to begin fails, and no call does anything but run its callback. -/
theorem outcome_unconnected {c : Call} (shut : s.opened = none) (pooled : c.transaction = none) (i : Invocation) :
    (s.outcome c i).2 = s.finish c.callback ∧
      (i.planned?.isSome = true → (s.outcome c i).1.halt? = some (.error .closed)) := by
  cases planned : i.planned? with
  | some p =>
    obtain ⟨a, passes, -, accounts⟩ := Session.outcome_account planned
    rw [accounts, Session.account_eq, begin_unconnected shut pooled]
    exact ⟨rfl, fun _ => passes.refusal _⟩
  | none =>
    obtain ⟨returned, ended⟩ := Session.outcome_unplanned planned
    rw [ended]
    exact ⟨rfl, fun there => by cases there⟩

/-! ### Calls that come one after the other -/

theorem run_touches {o o' : Opened} (touches : ReflTransGen Opened.Touch o o') (there : h.session.opened = some o)
    (held : o.generation ∈ h.holders) :
    ∃ es, Run h es { h with session := { h.session with opened := some o' } } ∧ ∀ e ∈ es, e = .quiet := by
  have generation {o'' : Opened} (some_of : ReflTransGen Opened.Touch o o'') : o''.generation = o.generation := by
    induction some_of with
    | refl => rfl
    | tail _ last same => exact last.generation.trans same
  induction touches with
  | refl => exact ⟨[], by rw [← there]; exact .done h, by simp⟩
  | @tail b c first last ih =>
    obtain ⟨es, r, quiet⟩ := ih
    have next : Step { h with session := { h.session with opened := some b } } .quiet
        { h with session := { h.session with opened := some c } } := .handle rfl (generation first ▸ held) last
    exact ⟨es ++ [.quiet], r.append next.run, fun e there =>
      (List.mem_append.mp there).elim (quiet e) List.mem_singleton.mp⟩

theorem run_handled (handled : Session.Handled h.session t) :
    ∃ es, Run h es { h with session := t } ∧ ∀ e ∈ es, e = .quiet := by
  have touched := handled.opened
  cases there : h.session.opened with
  | none =>
    rw [there] at touched
    have same : t.opened = h.session.opened := by
      generalize t.opened = after at touched
      cases touched
      exact there.symm
    exact ⟨[.quiet], (Step.world handled.config handled.openings same).run, by simp⟩
  | some o =>
    rw [there] at touched
    obtain ⟨o', after, touches⟩ : ∃ o', t.opened = some o' ∧ ReflTransGen Opened.Touch o o' := by
      generalize t.opened = after at touched
      cases touched with
      | some touches => exact ⟨_, rfl, touches⟩
    let held : Traffic := { h with holders := o.generation :: h.holders }
    obtain ⟨es, r, quiet⟩ := run_touches (h := held) touches there List.mem_cons_self
    have moved : Step { held with session := { h.session with opened := some o' } } .quiet { held with session := t } :=
      .world handled.config handled.openings after
    refine ⟨.quiet :: (es ++ [.quiet, .quiet]), .step (.begin there) (r.append (.step moved (Step.finish _ 0).run)), ?_⟩
    intro e noticed
    rcases List.mem_cons.mp noticed with rfl | noticed
    · rfl
    · exact (List.mem_append.mp noticed).elim (quiet e) (by simp)

theorem run_halted {p : Opening} (busy : h.underWay = some p) (halt : Halt) :
    Run h (match halt with | .error e => [.refused e] | .dropped => [.quiet]) { h with underWay := none } := by
  cases halt with
  | error e => exact (Step.fail e busy).run
  | dropped => exact (Step.abandon h).run

theorem checkReply_of_greet {l : Limits} {link : Nat} (greeted : s.greet l link = (.ok (), t)) :
    ∃ row, Session.checkReply row = .ok () := by
  simp only [Session.greet] at greeted
  split at greeted
  · cases greeted
  · cases greeted
  · split at greeted
    · cases greeted
    · cases greeted
    · simp only [Session.readReply] at greeted
      split at greeted
      · cases greeted
      · split at greeted
        · rename_i right
          exact ⟨_, right⟩
        · cases greeted

theorem run_openPool (idle : h.underWay = none) (l : Limits) :
    ∃ es, Run h es { h with session := (h.session.openPool l).2 } ∧
      es.filter (!·.isQuiet) = Happening.ofOpening (h.session.openPool l).1 := by
  obtain ⟨s, queued, underWay, retired, holders⟩ := h
  obtain rfl : underWay = none := idle
  cases looked : s.openingDsn with
  | error e =>
    simp only [Session.openPool, looked]
    exact ⟨_, .step (.call _) (Step.refuse (n := queued) rfl rfl looked).run, rfl⟩
  | ok dsn =>
    -- Each wait of the opening may end it; what it has come to by then is the run so far.
    have entered : Run ⟨s, queued, none, retired, holders⟩ [.quiet, .quiet]
        ⟨s, queued, some (.connecting dsn), retired, holders⟩ :=
      .step (.call _) (Step.enter (n := queued) rfl rfl looked).run
    have waited {t u : Session} {p : Opening} (same : Session.Handled t u) (opened : u.opened = t.opened) :
        Step ⟨t, queued, some p, retired, holders⟩ .quiet ⟨u, queued, some p, retired, holders⟩ :=
      .world same.config same.openings opened
    have connected := Session.handled_connect s l
    have still := (Session.waited_connect s l).opened (Session.connect_pooling l s).1
    simp only [Session.openPool, looked]
    split <;> rename_i e <;> rw [e] at connected still
    · rename_i halt u
      have halted := run_halted (h := ⟨u, queued, some (.connecting dsn), retired, holders⟩) rfl halt
      exact ⟨_, entered.append (.step (waited connected still) halted), by cases halt <;> rfl⟩
    · rename_i fault u
      have failed : Step ⟨u, queued, some (.connecting dsn), retired, holders⟩ _ _ :=
        .fail (Session.creationFailed fault) rfl
      exact ⟨_, entered.append (.step (waited connected still) failed.run), rfl⟩
    · rename_i link u
      have met : Run ⟨s, queued, none, retired, holders⟩ ([.quiet, .quiet] ++ [.quiet, .quiet])
          ⟨u, queued, some (.greeting dsn link), retired, holders⟩ :=
        entered.append (.step (waited connected still) (Step.connect link rfl).run)
      have greeted := (Session.waited_greet u l link).handled (Session.abides_greet l u link).pooling
      have still' := (Session.waited_greet u l link).opened (Session.abides_greet l u link).pooling
      split <;> rename_i e' <;> rw [e'] at greeted still'
      · rename_i halt v
        have halted := run_halted (h := ⟨v, queued, some (.greeting dsn link), retired, holders⟩) rfl halt
        exact ⟨_, met.append (.step (waited greeted still') halted), by cases halt <;> rfl⟩
      · rename_i v
        obtain ⟨row, right⟩ := checkReply_of_greet e'
        have put : Step ⟨v, queued, some (.greeting dsn link), retired, holders⟩ _ _ := .install rfl right
        exact ⟨_, met.append (.step (waited greeted still') put.run), rfl⟩

theorem run_close (h : Traffic) : ∃ es, Run h es { h with
    session := h.session.close, retired := (h.session.opened.map Opened.shut).toList ++ h.retired } := by
  cases there : h.session.opened with
  | none =>
    have same : h.session.close = h.session := by simp only [Session.close, there]
    exact ⟨[], by rw [same]; exact .done h⟩
  | some o => exact ⟨_, (Step.close there).run⟩

theorem run_of_step (idle : h.underWay = none) (step : Session.Step h.session t) :
    ∃ es h', Run h es h' ∧ h'.session = t ∧ h'.underWay = none := by
  rcases step.handled with handled | ⟨l, rfl⟩ | rfl
  · obtain ⟨es, r, -⟩ := run_handled handled
    exact ⟨es, _, r, rfl, idle⟩
  · obtain ⟨es, r, -⟩ := run_openPool idle l
    exact ⟨es, _, r, rfl, idle⟩
  · obtain ⟨es, r⟩ := run_close h
    exact ⟨es, _, r, rfl, idle⟩

/-! ### What is kept -/

/-- The settings stay. No opening is past its first look at the settings while a connection is open. -/
structure Guarded (config : Config) (h : Traffic) : Prop where
  settings : h.session.config = config
  apart : h.underWay.isSome = true → h.session.opened = none

theorem shut_of_openingDsn {dsn : Dsn} (looked : s.openingDsn = .ok dsn) : s.opened = none :=
  Option.map_eq_none_iff.mp (Session.pooling_of_openingDsn looked)

theorem openingDsn_of_open (there : s.opened ≠ none) : s.openingDsn = .error .alreadyOpen := by
  have isOpen : s.isOpen = true := Option.isSome_iff_ne_none.mpr there
  simp only [Session.openingDsn, isOpen, ↓reduceIte]

theorem opened_close (s : Session) : s.close.opened = none := by
  simp only [Session.close]
  split
  · assumption
  · rfl

theorem config_close (s : Session) : s.close.config = s.config := by
  simp only [Session.close]
  split <;> rfl

theorem Guarded.step (g : h.Guarded config) (step : Step h e h') : h'.Guarded config := by
  cases step with
  | world settings _ same => exact ⟨settings.trans g.settings, fun busy => same.trans (g.apart busy)⟩
  | call => exact ⟨g.settings, g.apart⟩
  | refuse => exact ⟨g.settings, g.apart⟩
  | enter _ _ looked => exact ⟨g.settings, fun _ => shut_of_openingDsn looked⟩
  | connect link busy => exact ⟨g.settings, fun _ => g.apart (busy ▸ rfl)⟩
  | fail => exact ⟨g.settings, fun busy => by cases busy⟩
  | install => exact ⟨g.settings, fun busy => by cases busy⟩
  | leave => exact ⟨g.settings, g.apart⟩
  | abandon => exact ⟨g.settings, fun busy => by cases busy⟩
  | close => exact ⟨(config_close _).trans g.settings, fun _ => opened_close _⟩
  | begin => exact ⟨g.settings, g.apart⟩
  | handle there => exact ⟨g.settings, fun busy => by simp [g.apart busy] at there⟩
  | late => exact ⟨g.settings, g.apart⟩
  | finish => exact ⟨g.settings, g.apart⟩
  | unconnected i shut pooled =>
    have ended := (outcome_unconnected shut pooled i).1
    exact ⟨by rw [ended]; exact g.settings, fun _ => by rw [ended]; exact shut⟩

theorem guarded_of_reachable (reached : Reachable config h) : h.Guarded config := by
  induction reached with
  | start from_ => exact ⟨(Session.regular_of_reachable from_).settings, fun busy => by cases busy⟩
  | step _ next ih => exact ih.step next

/-- A connection that is put in place: nobody has anything of it yet. -/
structure IsNew (config : Config) (openings : Nat) (o : Opened) : Prop where
  generation : o.generation = openings
  cache : o.cache = if config.cacheEnabled then some (.empty config.cacheCapacity) else none
  out : o.pool.out = []

theorem isNew_installGreeted (settings : s.config = config) (dsn : Dsn) (link : Nat) :
    ∃ o, (s.installGreeted dsn link).opened = some o ∧ IsNew config s.openings o := by
  refine ⟨_, rfl, rfl, settings ▸ rfl, ?_⟩
  simp [Pool.empty, Pool.takeIn, Pool.giveBack]

/-- An opening succeeds only where nothing is open, and what it puts in place is new. -/
theorem Guarded.opened (g : h.Guarded config) (step : Step h .opened h') :
    h.session.opened = none ∧ ∃ o, h'.session.opened = some o ∧ IsNew config h.session.openings o := by
  cases step with
  | install busy _ => exact ⟨g.apart (busy ▸ rfl), isNew_installGreeted g.settings _ _⟩

theorem Guarded.refused (g : h.Guarded config) {reason : Error} (step : Step h (.refused reason) h') :
    h'.session = h.session ∧ h'.retired = h.retired ∧ h'.holders = h.holders ∧
      (h.session.opened ≠ none → reason = .alreadyOpen ∧ h'.underWay = h.underWay) := by
  cases step with
  | refuse _ _ looked =>
    refine ⟨rfl, rfl, rfl, fun there => ⟨?_, rfl⟩⟩
    rw [openingDsn_of_open there] at looked
    exact (Except.error.inj looked).symm
  | fail _ busy => exact ⟨rfl, rfl, rfl, fun there => absurd (g.apart (busy ▸ rfl)) there⟩

def IsEmptied (o : Opened) : Prop := ∀ c, o.cache = some c → c.labels.entries = [] ∧ c.plans = []

theorem isEmptied_shut (o : Opened) : IsEmptied o.shut := by
  intro c cached
  obtain ⟨d, -, rfl⟩ := Option.map_eq_some_iff.mp cached
  exact ⟨rfl, rfl⟩

theorem closed_emptied {o : Opened} (step : Step h (.closed o) h') :
    h'.session.opened = none ∧ h'.retired = o :: h.retired ∧ IsEmptied o := by
  cases step with
  | close there => exact ⟨opened_close _, rfl, isEmptied_shut _⟩

theorem Guarded.count_step (g : h.Guarded config) (step : Step h e h') (unclosed : ∀ o, e ≠ .closed o) :
    e.isOpened.toNat + h.session.isOpen.toNat = h'.session.isOpen.toNat := by
  cases step with
  | world _ _ same => simp [Session.isOpen, same, Happening.isOpened]
  | install busy _ =>
    have shut : h.session.isOpen = false := by simp [Session.isOpen, g.apart (busy ▸ rfl)]
    rw [shut]
    rfl
  | close => exact absurd rfl (unclosed _)
  | handle there => simp [Session.isOpen, there, Happening.isOpened]
  | unconnected i shut pooled =>
    rw [(outcome_unconnected shut pooled i).1]
    exact Nat.zero_add _
  | call | refuse | enter | connect | fail | leave | abandon | begin | late | finish => exact Nat.zero_add _

theorem Guarded.count_run (g : h.Guarded config) (r : Run h es h') (unclosed : ∀ o, .closed o ∉ es) :
    es.countP Happening.isOpened + h.session.isOpen.toNat = h'.session.isOpen.toNat := by
  induction r with
  | done => simp
  | @step h m h'' e es first _ ih =>
    have now := g.count_step first fun o same => unclosed o (same ▸ List.mem_cons_self)
    have later := ih (g.step first) fun o there => unclosed o (List.mem_cons_of_mem _ there)
    have counted : (e :: es).countP Happening.isOpened = es.countP Happening.isOpened + e.isOpened.toNat := by
      rw [List.countP_cons]
      cases e.isOpened <;> rfl
    omega

theorem Guarded.stays_step (g : h.Guarded config) (step : Step h e h') {o : Opened}
    (there : h.session.opened = some o) :
    (∃ o', h'.session.opened = some o' ∧ o'.generation = o.generation) ∨
      ∃ o', e = .closed o' ∧ o'.generation = o.generation ∧ IsEmptied o' := by
  have kept : ∃ o', h.session.opened = some o' ∧ o'.generation = o.generation := ⟨o, there, rfl⟩
  cases step with
  | world _ _ same => exact .inl (same ▸ kept)
  | install busy _ =>
    rw [g.apart (busy ▸ rfl)] at there
    cases there
  | close here =>
    obtain rfl := Option.some.inj (here.symm.trans there)
    exact .inr ⟨_, rfl, rfl, isEmptied_shut _⟩
  | handle here _ touch =>
    obtain rfl := Option.some.inj (here.symm.trans there)
    exact .inl ⟨_, rfl, touch.generation⟩
  | unconnected _ shut _ =>
    rw [shut] at there
    cases there
  | call | refuse | enter | connect | fail | leave | abandon | begin | late | finish => exact .inl kept

theorem Guarded.stays_run (g : h.Guarded config) (r : Run h es h') {o : Opened} (there : h.session.opened = some o) :
    (∃ o', h'.session.opened = some o' ∧ o'.generation = o.generation) ∨
      ∃ o', .closed o' ∈ es ∧ o'.generation = o.generation ∧ IsEmptied o' := by
  induction r generalizing o with
  | done => exact .inl ⟨o, there, rfl⟩
  | step first _ ih =>
    rcases g.stays_step first there with ⟨o', there', same⟩ | ⟨o', rfl, same, emptied⟩
    · rcases ih (g.step first) there' with ⟨o'', last, same'⟩ | ⟨o'', later, same', emptied⟩
      · exact .inl ⟨o'', last, same'.trans same⟩
      · exact .inr ⟨o'', List.mem_cons_of_mem _ later, same'.trans same, emptied⟩
    · exact .inr ⟨o', List.mem_cons_self, same, emptied⟩

/-- However openings, closings and calls are interleaved, a connection is put in place only where none is, and stays
there until it is closed. Openings, closings and calls of a session that come one after the other are such an
interleaving. -/
theorem one_connection_at_a_time (reached : Reachable config h) :
    (∀ h', Step h .opened h' →
      h.session.opened = none ∧ ∃ o, h'.session.opened = some o ∧ IsNew config h.session.openings o) ∧
    (∀ es h', Run h es h' → (∀ o, .closed o ∉ es) →
      es.countP Happening.isOpened + h.session.isOpen.toNat ≤ 1) ∧
    (∀ reason h', Step h (.refused reason) h' →
      h'.session = h.session ∧ h'.retired = h.retired ∧ h'.holders = h.holders ∧
        (h.session.opened ≠ none → reason = .alreadyOpen ∧ h'.underWay = h.underWay)) ∧
    (h.session.opened ≠ none → h.underWay = none ∧ h.session.openingDsn = .error .alreadyOpen ∧
      ∀ n, h.queued = n + 1 → Step h (.refused .alreadyOpen) { h with queued := n }) ∧
    (∀ es h' o, Run h es h' → h.session.opened = some o →
      (∃ o', h'.session.opened = some o' ∧ o'.generation = o.generation) ∨
        ∃ o', .closed o' ∈ es ∧ o'.generation = o.generation ∧ IsEmptied o') ∧
    (∀ o h', Step h (.closed o) h' → h'.session.opened = none ∧ h'.retired = o :: h.retired ∧ IsEmptied o) ∧
    (h.session.opened = none → ∀ c, c.transaction = none →
      (∀ i : Invocation, i.planned?.isSome = true →
        (h.session.outcome c i).1.halt? = some (.error .closed) ∧
          (h.session.outcome c i).2 = h.session.finish c.callback) ∧
      ∀ usual sql values,
        h.session.query c usual sql values = (.error (.error .closed), h.session.finish c.callback)) ∧
    (h.underWay = none →
      (∀ l, ∃ es, Run h es { h with session := (h.session.openPool l).2 } ∧
        es.filter (!·.isQuiet) = Happening.ofOpening (h.session.openPool l).1) ∧
      ∀ t, Session.Step h.session t → ∃ es h', Run h es h' ∧ h'.session = t ∧ h'.underWay = none) ∧
    ∃ es, Run h es { h with
      session := h.session.close, retired := (h.session.opened.map Opened.shut).toList ++ h.retired } := by
  have g := guarded_of_reachable reached
  refine ⟨fun h' => g.opened, fun es h' r unclosed => ?_, fun reason h' => g.refused, fun there => ?_,
    fun es h' o r there => g.stays_run r there, fun o h' => closed_emptied,
    fun shut c pooled => ⟨fun i planned => ?_, fun _ _ _ => ?_⟩,
    fun idle => ⟨run_openPool idle, fun t => run_of_step idle⟩, run_close h⟩
  · rw [g.count_run r unclosed]
    exact Bool.toNat_le _
  · have idle : h.underWay = none := Option.not_isSome_iff_eq_none.mp fun busy => there (g.apart busy)
    exact ⟨idle, openingDsn_of_open there, fun n queued => .refuse queued idle (openingDsn_of_open there)⟩
  · have ended := outcome_unconnected shut pooled i
    exact ⟨ended.2 planned, ended.1⟩
  · exact query_unconnected shut pooled _ _ _

def remote : Config := Config.initial.set (.dsn "postgres://app@localhost/app")

def greetingRow : Row := ⟨.server, [⟨none, .text, some (Text.Utf8.encode Server.greetingReply)⟩]⟩

/-- Of two openings that were called at once, the one that did not come first fails, and no other succeeds before a
closing. -/
theorem one_connection_at_a_time_rivals :
    ∃ h : Traffic, Reachable remote h ∧ h.queued = 1 ∧ h.session.isOpen = true ∧
      Step h (.refused .alreadyOpen) { h with queued := 0 } ∧
      ∀ es h', Run h es h' → (∀ o, .closed o ∉ es) → es.countP Happening.isOpened + 1 ≤ 1 := by
  have called : Reachable remote ⟨.closed remote none (.ofScript [] []), 2, none, [], []⟩ :=
    ((Reachable.start (.closed none [] [])).step (.call _)).step (.call _)
  have settled : (Session.closed remote none (.ofScript [] [])).openingDsn = .ok ⟨some "app", some "app"⟩ := rfl
  have replied : Session.checkReply (some greetingRow) = .ok () := rfl
  have there (s : Session) (dsn : Dsn) (link : Nat) : (s.installGreeted dsn link).opened ≠ none := by
    simp [Session.installGreeted, Session.updateOpened, Session.install]
  have greeting := (called.step (.enter (n := 1) rfl rfl settled)).step (.connect 1 rfl)
  have won := greeting.step (.install rfl replied)
  obtain ⟨-, once, -, busy, -⟩ := one_connection_at_a_time won
  exact ⟨_, won, rfl, rfl, (busy (there _ _ _)).2.2 0 rfl, once⟩

end Traffic

end RowMapper
