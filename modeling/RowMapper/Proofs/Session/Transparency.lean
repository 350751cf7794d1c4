import RowMapper.Proofs.Operation.Labels
import RowMapper.Proofs.Session.Operating

/-!
The statement cache makes no difference. Whatever is done with a session, one thing after the other, it
comes to the same with a cache as without: what the caller gets, and what is run with which values on
which connection. And what is run for a text is always a plan of that text that the connection has.
-/
namespace RowMapper

inductive Origin where
  | closed
  /-- It is open from the beginning, on a pool that was made elsewhere. -/
  | ofPool
  deriving DecidableEq, Repr

def Origin.session : Origin → Config → Option Hook → Server → Session
  | .closed => Session.closed
  | .ofPool => Session.ofPool

def Origin.play (o : Origin) (config : Config) (hook : Option Hook) (rules : List Rule)
    (startups : List StartupStep) : Play :=
  ⟨o.session config hook (.ofScript rules startups), []⟩

namespace Scene

def IsUnlimited (x : Scene) : Prop := ∀ h ∈ x.returned.halt?, h.isLimit = false

def IsWhole (x : Scene) : Prop := ∀ h ∈ x.returned.halt?, h.isCut = false

instance : DecidablePred IsUnlimited := fun x =>
  inferInstanceAs (Decidable (∀ h ∈ x.returned.halt?, h.isLimit = false))

instance : DecidablePred IsWhole := fun x =>
  inferInstanceAs (Decidable (∀ h ∈ x.returned.halt?, h.isCut = false))

/-- What was run is the plan of the text that the hook left. -/
def IsGenuine (rules : List Rule) (x : Scene) : Prop :=
  ∀ r ∈ x.ran, x.sent = some r.statement.sql ∧
    Server.preparing rules r.statement.sql = .ok r.statement

end Scene

def Play.Like (rules : List Rule) (p p' : Play) : Prop :=
  Session.Alike ⟨rules, p.held, p'.held, p.session.ran, fun _ => False⟩ p.session p'.session

/-- What two plays are compared with while an act goes on: what is run has to be what the act sends. -/
def Act.view (rules : List Rule) (p p' : Play) (a : Act) : Session.View :=
  ⟨rules, p.held, p'.held, p.session.ran,
    fun q => a.sent? p.session = some q.sql ∧ Server.preparing rules q.sql = .ok q⟩

variable {rules : List Rule} {p p' : Play}

theorem Play.Like.viewed (like : p.Like rules p') (a : Act) :
    Session.Alike (a.view rules p p') p.session p'.session :=
  ⟨like.here, like.there, like.gist, like.cursors, like.uncached, like.script,
    [], (List.append_nil _).symm, by simp⟩

theorem Session.Alike.like {v : View} (a : Alike v p.session p'.session) (held : v.held = p.held)
    (held' : v.held' = p'.held) : p.Like v.script p' :=
  ⟨held ▸ a.here, held' ▸ a.there, a.gist, held ▸ held' ▸ a.cursors, a.uncached, a.script,
    [], (List.append_nil _).symm, by simp⟩

theorem Play.Like.held_cases (like : p.Like rules p') (place : Nat) :
    (p.held[place]? = none ∧ p'.held[place]? = none) ∨
      ∃ c c', p.held[place]? = some c ∧ p'.held[place]? = some c' := by
  have same := congrArg (·[place]?) like.cursors
  simp only [List.getElem?_map] at same
  cases h : p.held[place]? with
  | none => exact .inl ⟨rfl, by simpa [h] using same.symm⟩
  | some c =>
    obtain ⟨c', h', -⟩ : ∃ c', p'.held[place]? = some c' ∧ c'.gist = c.gist := by
      simpa [h] using same.symm
    exact .inr ⟨c, c', rfl, h'⟩

namespace Act

variable {a : Act}

/-- An act comes to the same in both plays, unless a limit ends it in the first or it is cut in the
second. -/
inductive Agrees (rules : List Rule) (a : Act) (p p' : Play) :
    Returned × Play → Returned × Play → Prop where
  | limited {r : Returned} {q : Play} {x' : Returned × Play} {h : Halt} : r.halt? = some h →
    h.isLimit = true → Agrees rules a p p' (r, q) x'
  | cut {r : Returned} {q' : Play} {x : Returned × Play} {h : Halt} : r.halt? = some h →
    h.isCut = true → Agrees rules a p p' x (r, q')
  | same {r : Returned} {q q' : Play} :
    Session.Alike { a.view rules p p' with held := q.held, held' := q'.held } q.session q'.session →
      Agrees rules a p p' (r, q) (r, q')

theorem agrees_of_session {x x' : Returned × Session}
    (g : Session.Agrees Returned.halt? (a.view rules p p') x x') :
    a.Agrees rules p p' (x.1, ⟨x.2, p.held⟩) (x'.1, ⟨x'.2, p'.held⟩) := by
  cases g with
  | limited halt limit => exact .limited halt limit
  | cut halt cut => exact .cut halt cut
  | same b => exact .same b

theorem agrees_step (like : p.Like rules p') (proper : a.IsProper) :
    a.Agrees rules p p' (a.step p) (a.step p') := by
  have viewed := like.viewed a
  cases a with
  | operate c t o =>
    obtain ⟨label, patient⟩ := proper
    refine agrees_of_session (Session.agrees_operate viewed patient fun d drafted => ?_)
    refine ⟨Call.labeled label (MappedType.label_of_draft? drafted), fun ctx q answered text given => ?_⟩
    -- The text that is prepared is the one that the hook left, and the rules answer that one alike.
    have sent : (Act.operate c t o).sent? p.session = some ctx.execSql := by
      simp only [sent?, drafted, Session.sent?_of_answered answered]
    exact ⟨sent.trans (congrArg some text.symm), given⟩
  | execute c sql values =>
    obtain ⟨label, patient⟩ := proper
    have m := Session.matches_execute viewed patient (Call.labeled label (by simp)) sql values
      fun ctx q answered text given =>
        ⟨(Session.sent?_of_answered answered).trans (congrArg some text.symm), given⟩
    exact agrees_of_session (m.agrees .count fun _ => rfl)
  | query c sql values =>
    obtain ⟨label, patient⟩ := proper
    have m := Session.matches_query viewed patient (Call.labeled label (by simp)) sql values
      fun ctx q answered text given =>
        ⟨(Session.sent?_of_answered answered).trans (congrArg some text.symm), given⟩
    simp only [step]
    generalize p.session.query c none sql values = x at m ⊢
    generalize p'.session.query c none sql values = x' at m ⊢
    cases m with
    | limited limit => exact .limited rfl limit
    | cut cut => exact .cut rfl cut
    | failed b => exact .same b
    | done b => exact .same b
  | read place reader state =>
    rcases like.held_cases place with ⟨h, h'⟩ | ⟨c, c', h, h'⟩
    · simp only [step, h, h']
      exact .same viewed
    · have read := Session.agrees_consume viewed h h' reader state
      simp only [step, h, h']
      generalize p.session.consume c reader state = y at read ⊢
      generalize p'.session.consume c' reader state = y' at read ⊢
      cases read with
      | limited halt limit => exact .limited halt limit
      | cut halt cut => exact .cut halt cut
      | same b => exact .same b
  | drop place =>
    rcases like.held_cases place with ⟨h, h'⟩ | ⟨c, c', h, h'⟩
    · simp only [step, h, h']
      exact .same viewed
    · simp only [step, h, h']
      exact .same (viewed.discard h h')
  | beginTransaction l =>
    exact agrees_of_session
      ((Session.matches_beginTransaction viewed proper).agrees .count fun _ => rfl)
  | openPool l =>
    have m := Session.matches_openPool viewed proper fun q text given =>
      ⟨congrArg some text.symm, given⟩
    exact agrees_of_session ((m.mono fun _ _ _ _ b => ⟨b, rfl⟩).agrees .done fun _ => rfl)
  | close => exact .same viewed.close
  | invalidate label =>
    exact .same (viewed.quietly (Session.quietly_invalidate _ label) (Session.quietly_invalidate _ label))
  | clearCache =>
    exact .same (viewed.quietly (Session.quietly_clearCache _) (Session.quietly_clearCache _))

end Act

theorem Play.Like.sent? (like : p.Like rules p') (a : Act) :
    a.sent? p.session = a.sent? p'.session := by
  cases a with
  | operate c t o =>
    simp only [Act.sent?]
    split
    · exact Session.Alike.sent? like c _ _ _
    · rfl
  | execute c sql values | query c sql values => exact Session.Alike.sent? like c _ _ _
  | read | drop | beginTransaction | openPool | close | invalidate | clearCache => rfl

theorem Play.Like.ran (like : p.Like rules p') : p.session.ran = p'.session.ran :=
  congrArg Session.Gist.ran like.gist

theorem Play.Like.run (like : p.Like rules p') {acts : List Act} (proper : ∀ a ∈ acts, a.IsProper)
    (unlimited : ∀ x ∈ (p.run acts).1, x.IsUnlimited) (whole : ∀ x ∈ (p'.run acts).1, x.IsWhole) :
    (p.run acts).1 = (p'.run acts).1 ∧ (p.run acts).2.Like rules (p'.run acts).2 ∧
      (∀ x ∈ (p.run acts).1, x.IsGenuine rules) ∧
      (p.run acts).2.session.ran = p.session.ran ++ (p.run acts).1.flatMap (·.ran) := by
  -- What was run earlier does not matter for the next act: likeness is taken anew at every step.
  induction acts generalizing p p' with
  | nil => exact ⟨rfl, like, by simp [Play.run], (List.append_nil _).symm⟩
  | cons a rest ih =>
    have agrees := Act.agrees_step like (proper a List.mem_cons_self)
    have sent := like.sent? a
    simp only [Play.run] at unlimited whole ⊢
    generalize a.step p = x at agrees unlimited ⊢
    generalize a.step p' = x' at agrees whole ⊢
    cases agrees with
    | limited halt limit =>
      exact absurd (unlimited _ List.mem_cons_self _ halt) (by simp [limit])
    | cut halt cut => exact absurd (whole _ List.mem_cons_self _ halt) (by simp [cut])
    | @same r q q' alike =>
      have next : q.Like rules q' := alike.like rfl rfl
      obtain ⟨new, past, own⟩ := alike.own
      have past : q.session.ran = p.session.ran ++ new := past
      obtain ⟨scenes, last, genuine, ran⟩ := ih next
        (fun b hb => proper b (List.mem_cons_of_mem a hb))
        (fun x hx => unlimited x (List.mem_cons_of_mem _ hx))
        (fun x hx => whole x (List.mem_cons_of_mem _ hx))
      refine ⟨?_, last, fun x hx => ?_, ?_⟩
      · simp only [scenes, sent, like.ran, next.ran]
      · rcases List.mem_cons.mp hx with rfl | hx
        · intro r hr
          simp only [past, List.drop_left] at hr
          exact own r hr
        · exact genuine x hx
      · simp only [ran, past, List.drop_left, List.flatMap_cons, List.append_assoc]

theorem script_ofScript (rules : List Rule) (startups : List StartupStep) :
    (Server.ofScript rules startups).gist.script = rules := by
  simp only [Server.script_gist, Server.ofScript, List.map_map, Function.comp_def, List.map_id']

theorem settled_closed (steady : ∀ r ∈ rules, r.IsSteady) (startups : List StartupStep) (config : Config)
    (hook : Option Hook) :
    Session.Settled [] (.closed config hook (.ofScript rules startups)) where
  idle := fun k hk => absurd hk List.not_mem_nil
  shut := fun k hk => absurd hk List.not_mem_nil
  steady := fun r hr => steady r (script_ofScript rules startups ▸ hr)
  genuine := fun c hc => by simp [Session.cache?, Session.closed] at hc
  founded := fun i e r he => by simp [Session.closed] at he
  blocked := rfl
  numbered := fun c hc => absurd hc List.not_mem_nil
  distinct := List.nodup_nil
  patient := fun c hc => absurd hc List.not_mem_nil

theorem like_origin (steady : ∀ r ∈ rules, r.IsSteady) (startups : List StartupStep) (o : Origin)
    (config : Config) (hook : Option Hook) :
    (o.play config hook rules startups).Like rules
      (o.play (config.set .noCache) hook rules startups) := by
  have closed : Session.Alike ⟨rules, [], [], [], fun _ => False⟩
      (.closed config hook (.ofScript rules startups))
      (.closed (config.set .noCache) hook (.ofScript rules startups)) :=
    ⟨settled_closed steady startups config hook, settled_closed steady startups _ hook, rfl, rfl,
      ⟨rfl, rfl⟩, script_ofScript rules startups, [], rfl, by simp⟩
  cases o with
  | closed => exact closed
  | ofPool => exact closed.install _ _

/-- Whatever is done with a session, it comes to the same with any cache as without one: what is given
back, the texts that are sent, and what is run on which connection with which values. Every statement
that is run is the plan of its act's own text, as the server gives it to everyone, and was prepared on the
connection before.

The server may not mind where and how often a text was prepared before, no limit may end an act, and
without a cache all acts have to end. -/
theorem cache_transparent (steady : ∀ r ∈ rules, r.IsSteady) (startups : List StartupStep) (o : Origin)
    (config : Config) (hook : Option Hook) {acts : List Act} (proper : ∀ a ∈ acts, a.IsProper)
    (unlimited : ∀ x ∈ ((o.play config hook rules startups).run acts).1, x.IsUnlimited)
    (whole : ∀ x ∈ ((o.play (config.set .noCache) hook rules startups).run acts).1, x.IsWhole) :
    ((o.play config hook rules startups).run acts).1 =
        ((o.play (config.set .noCache) hook rules startups).run acts).1 ∧
      (∀ x ∈ ((o.play config hook rules startups).run acts).1, x.IsGenuine rules) ∧
      ((o.play config hook rules startups).run acts).2.session.ran =
        ((o.play config hook rules startups).run acts).1.flatMap (·.ran) ∧
      ((o.play (config.set .noCache) hook rules startups).run acts).2.session.ran =
        ((o.play (config.set .noCache) hook rules startups).run acts).1.flatMap (·.ran) ∧
      Founded ((o.play config hook rules startups).run acts).2.session.log := by
  have like := like_origin steady startups o config hook
  obtain ⟨scenes, last, genuine, ran⟩ := like.run proper unlimited whole
  have fresh : (o.play config hook rules startups).session.ran = [] := by cases o <;> rfl
  rw [fresh, List.nil_append] at ran
  exact ⟨scenes, genuine, ran, by rw [← scenes, ← ran, last.ran], last.here.founded⟩

def relabeling : List Act :=
  [.query (Call.plain.withLabel "a") "SELECT 1" [], .read 0 Reader.collect [],
    .execute (Call.plain.withLabel "a") "SELECT 2" [],
    .execute (Call.plain.withLabel "b") "SELECT 1" [],
    .execute (Call.plain.withLabel "a") "SELECT 1" []]

def narrow (settings : List Config.Setting) : Play :=
  Origin.ofPool.play (.ofSettings settings) (some (.editing "2" (.append "3")))
    [Session.selection [.quiet]] []

theorem cache_transparent_relabeled :
    ((narrow [.capacity 1]).run relabeling).1 = ((narrow [.capacity 1, .noCache]).run relabeling).1 ∧
      ((narrow [.capacity 1]).run relabeling).1.map (·.sent) =
        [some "SELECT 1", none, some "SELECT 23", some "SELECT 1", some "SELECT 1"] :=
  have proper : ∀ a ∈ relabeling, a.IsProper := by
    simp [relabeling, Act.IsProper, Call.withLabel, Call.plain]
  ⟨(cache_transparent (by decide) [] .ofPool (.ofSettings [.capacity 1]) _ proper (by decide +kernel)
    (by decide +kernel)).1, by decide +kernel⟩

end RowMapper
