import RowMapper.Proofs.Session.Readying

/-!
Two sessions side by side, the second one without a statement cache. As long as no limit ends a call on the
first and every call on the second ends, requests come to the same on both.
-/
namespace RowMapper.Session

/-- What two sessions are compared with: the script of the server, the cursors that are held on the one and
on the other, what had been run at some earlier time, and which statements may have been run since then. -/
structure View where
  script : List Rule
  held : List Cursor
  held' : List Cursor
  past : List Ran
  may : Prepared → Prop

/-- The sessions are in the same situation but for the statement cache, the clock and the tallies. -/
structure Alike (v : View) (s s' : Session) : Prop where
  here : Settled v.held s
  there : Settled v.held' s'
  gist : s.gist = s'.gist
  cursors : v.held.map Cursor.gist = v.held'.map Cursor.gist
  uncached : s'.Uncached
  script : s.script = v.script
  own : ∃ new, s.ran = v.past ++ new ∧ ∀ r ∈ new, v.may r.statement

/-- What is done on the first session matches what is done on the second one: it ends alike, unless a
limit ends the first or the second is cut. -/
inductive Matches {α β : Type} (v : View) (same : α → Session → β → Session → Prop) :
    Except Halt α × Session → Except Halt β × Session → Prop where
  | limited {h : Halt} {t : Session} {x' : Except Halt β × Session} : h.isLimit = true →
    Matches v same (.error h, t) x'
  | cut {h : Halt} {t' : Session} {x : Except Halt α × Session} : h.isCut = true →
    Matches v same x (.error h, t')
  | failed {h : Halt} {t t' : Session} : Alike v t t' →
    Matches v same (.error h, t) (.error h, t')
  | done {a : α} {b : β} {t t' : Session} : same a t b t' → Matches v same (.ok a, t) (.ok b, t')

variable {v : View} {s s' t t' : Session} {l l' : Limits}

namespace Alike

theorem server (a : Alike v s s') : s.server.gist = s'.server.gist :=
  congrArg Gist.server a.gist

theorem sameScript (a : Alike v s s') : s.script = s'.script :=
  congrArg (fun g => g.server.script) a.gist

theorem isBlocked (a : Alike v s s') (link : Nat) : s.isBlocked link = s'.isBlocked link := by
  have byGist (cs : List Cursor) : (cs.filterMap Cursor.block?).any (·.2 == link) =
      (cs.map Cursor.gist).any fun g => g.1.isBlocking && g.2.1 == link := by
    induction cs with
    | nil => rfl
    | cons c rest ih =>
      simp only [List.map_cons, List.any_cons, Cursor.gist, Feed.isBlocking_timeless, ← ih]
      cases blocking : c.feed.isBlocking <;> simp [Cursor.block?, blocking]
  rw [Session.isBlocked, Session.isBlocked, a.here.blocked, a.there.blocked, byGist, byGist, a.cursors]

theorem quietly (a : Alike v s s') (h : Quietly s t) (h' : Quietly s' t') :
    Alike v t t' :=
  ⟨h.keeps v.held a.here, h'.keeps v.held' a.there, h.gist.trans (a.gist.trans h'.gist.symm), a.cursors,
    h'.uncached a.uncached, (congrArg (·.server.script) h.gist).trans a.script, h.ran ▸ a.own⟩

theorem after (a : Alike v s s') {i : Nat} {start now start' now' : Instant} {job : Job}
    (later : s.now ≤ now) (answered : (s.server.carry (i + 1) start job).1.answer.time ≤ now)
    (later' : s'.now ≤ now') (answered' : (s'.server.carry (i + 1) start' job).1.answer.time ≤ now')
    (based : ∀ p values, job = .run p values → v.may p ∧
      .wire (.prepare (i + 1) p.sql) ∈ s.log ∧ .wire (.prepare (i + 1) p.sql) ∈ s'.log) :
    Alike v
      (s.after (s.server.taken i start job) now (s.server.carry (i + 1) start job).2.1)
      (s'.after (s'.server.taken i start' job) now' (s'.server.carry (i + 1) start' job).2.1) where
  here := a.here.after later answered fun p values e => (based p values e).2.1
  there := a.there.after later' answered' fun p values e => (based p values e).2.2
  gist := by
    rw [gist_after, gist_after, a.gist, Server.gist_taken_alike a.server a.here.steady i start start' job,
      Server.wire_carry (a := s.server) (b := s'.server) (i + 1) start start' job]
  cursors := a.cursors
  uncached := ⟨a.uncached.cache, a.uncached.setting⟩
  script := (Server.script_taken s.server i start job).trans a.script
  own := by
    obtain ⟨new, ran, texts⟩ := a.own
    have grew := congrArg Gist.ran (gist_after s (s.server.taken i start job) now
      (s.server.carry (i + 1) start job).2.1)
    refine ⟨new ++ (s.server.carry (i + 1) start job).2.1.ran?.toList, ?_, fun r hr => ?_⟩
    · rw [← List.append_assoc, ← ran]
      exact grew
    · rcases List.mem_append.mp hr with hr | hr
      · exact texts r hr
      · cases job with
        | run p values =>
          obtain rfl := Option.mem_toList.mp hr |> Option.some.inj
          exact (based p values rfl).1
        | startup | prepare sql | begin => simp [Server.carry, Wire.ran?] at hr

theorem grown (a : Alike v s s') : Alike v s.grown s'.grown :=
  ⟨a.here.grown, a.there.grown, by rw [gist_grown, gist_grown, a.gist], a.cursors,
    ⟨a.uncached.cache, a.uncached.setting⟩, a.script, a.own⟩

theorem updatePool (a : Alike v s s') (f : Pool → Pool) :
    Alike v (s.updateOpened fun o => { o with pool := f o.pool })
      (s'.updateOpened fun o => { o with pool := f o.pool }) := by
  have kept (u : Session) : (u.updateOpened fun o => { o with pool := f o.pool }).cache? = u.cache? := by
    simp only [cache?, updateOpened]
    cases u.opened <;> rfl
  have settled {cs : List Cursor} {u : Session} (h : Settled cs u) :
      Settled cs (u.updateOpened fun o => { o with pool := f o.pool }) :=
    h.of_frame rfl rfl (Nat.le_refl _) (fun c hc => h.genuine c (kept u ▸ hc)) (List.append_nil _).symm
      (by simp)
  have there (u : Session) : (u.updateOpened fun o => { o with pool := f o.pool }).gist =
      { u.gist with opened := u.gist.opened.map fun o => (f o.1, o.2) } := by
    simp only [Session.gist, updateOpened, Option.map_map, Session.ran]
    rfl
  exact ⟨settled a.here, settled a.there, by rw [there, there, a.gist], a.cursors,
    ⟨(kept s').trans a.uncached.cache, a.uncached.setting⟩, a.script, a.own⟩

theorem release (a : Alike v s s') (link : Nat) :
    Alike v (s.release link) (s'.release link) :=
  a.updatePool (·.giveBack link)

end Alike

theorem matches_ask (a : Alike v s s') (patient : l.patience = .none)
    (patient' : l'.patience = .none) (link : Nat) (job : Job)
    (based : ∀ p values, job = .run p values → v.may p ∧
      .wire (.prepare (link - 1 + 1) p.sql) ∈ s.log ∧ .wire (.prepare (link - 1 + 1) p.sql) ∈ s'.log) :
    Matches v (fun c t c' t' => Alike v t t' ∧ c.map Content.timeless = c'.map Content.timeless)
      (s.ask l link job) (s'.ask l' link job) := by
  have x := a.here.asked patient link job
  have x' := a.there.asked patient' link job
  generalize s.ask l link job = y at x
  generalize s'.ask l' link job = y' at x'
  have closed := a.server
  cases x' with
  | stalled _ _ cut => exact .cut cut
  | limited limit => exact .cut (Halt.isCut_of_isLimit limit)
  | closed shut' =>
    rw [← a.server] at shut'
    cases x with
    | closed _ => exact .done ⟨a, rfl⟩
    | stalled isOpen _ _ => simp [shut'] at isOpen
    | limited limit => exact .limited limit
    | answered isOpen _ _ _ => simp [shut'] at isOpen
  | answered isOpen' free' later' answered' =>
    rw [← a.server] at isOpen'
    rw [← a.isBlocked] at free'
    cases x with
    | closed shut => simp [shut] at isOpen'
    | stalled _ blocked _ => simp [free'] at blocked
    | limited limit => exact .limited limit
    | answered _ _ later answered =>
      exact .done ⟨a.after later answered later' answered' based,
        (Server.carry_alike a.server a.here.steady _ _ _ job).1⟩

theorem Settled.connected {held : List Cursor} (h : Settled held s) (patient : l.patience = .none) :
    (∃ halt t, s.connect l = (.error halt, t) ∧ halt.isLimit = true) ∨
      ∃ start now, s.now ≤ now ∧
        (s.grown.server.carry (s.server.links.length + 1) start .startup).1.answer.time ≤ now ∧
        s.connect l =
          (.ok ((s.grown.server.carry (s.server.links.length + 1) start .startup).1.answer.content.map
              fun _ => s.server.links.length + 1),
            s.grown.after (s.grown.server.taken s.server.links.length start .startup) now
              (s.grown.server.carry (s.server.links.length + 1) start .startup).2.1) := by
  have there : s.grown.server.links[s.server.links.length]? = some ⟨s.now, .none, []⟩ := by
    simp [Session.grown]
  -- A new connection is one that is there already, with a request on it.
  have sent : (s.server.connect s.now).2.2 =
      (s.grown.server.send s.now (s.server.links.length + 1) .startup).2 := rfl
  have waited := awaitTicket_one (s := { s with server := (s.server.connect s.now).2.2 }) patient sent
    h.grown.idle there rfl
  simp only [connect]
  rcases waited with ⟨halt, t, e, limit⟩ | ⟨start, now, later, answered, e⟩
  · refine .inl ⟨halt, t, ?_, limit⟩
    have e' : { s with server := (s.server.connect s.now).2.2 }.awaitTicket l
        (s.server.connect s.now).2.1 = _ := e
    simp only [e']
  · refine .inr ⟨start, now, later, answered, ?_⟩
    have e' : { s with server := (s.server.connect s.now).2.2 }.awaitTicket l
        (s.server.connect s.now).2.1 = _ := e
    simp only [e']
    cases (s.grown.server.carry (s.server.links.length + 1) start .startup).1.answer.content <;> rfl

theorem matches_connect (a : Alike v s s') (patient : l.patience = .none)
    (patient' : l'.patience = .none) :
    Matches v
      (fun c t c' t' => Alike v t t' ∧ c = c' ∧
        ∀ link, c = .ok link → t.server.gist.isClosed link = false)
      (s.connect l) (s'.connect l') := by
  have length : s.server.links.length = s'.server.links.length := by
    have := congrArg (fun g : Server.Gist => g.hungUp.length) a.server
    simpa [Server.gist] using this
  rcases a.there.connected patient' with ⟨halt, t, e', limit⟩ | ⟨start', now', later', answered', e'⟩
  · exact e' ▸ .cut (Halt.isCut_of_isLimit limit)
  rcases a.here.connected patient with ⟨halt, t, e, limit⟩ | ⟨start, now, later, answered, e⟩
  · exact e ▸ .limited limit
  rw [e, e']
  rw [← length] at answered' ⊢
  have g := a.grown
  have content := (Server.carry_alike g.server g.here.steady (s.server.links.length + 1) start start'
    .startup).1
  refine .done ⟨g.after later answered later' answered' (by simp), ?_, fun link linked => ?_⟩
  · cases h : (s.grown.server.carry (s.server.links.length + 1) start .startup).1.answer.content <;>
      cases h' : (s'.grown.server.carry (s.server.links.length + 1) start' .startup).1.answer.content <;>
        simp [h, h', Except.map] at content ⊢
    exact content
  · cases h : (s.grown.server.carry (s.server.links.length + 1) start .startup).1.answer.content with
    | error fault => simp [h, Except.map] at linked
    | ok c =>
      simp only [h, Except.map, Except.ok.injEq] at linked
      have there : s.server.links.length < s.grown.server.links.length := by simp [Session.grown]
      exact linked ▸ (Server.isClosed_taken there start .startup).trans (Server.hangsUp_of_started h)

theorem isClosed_of_reuse {p pool : Pool} {isClosed : Nat → Bool} {link : Nat}
    (h : p.checkout isClosed = (.reuse link, pool)) : isClosed link = false := by
  simp only [Pool.checkout] at h
  split at h
  · simp at h
  · split at h
    · simp at h
    · rename_i first rest e
      simp only [Prod.mk.injEq, Checkout.reuse.injEq] at h
      have head := List.head?_dropWhile_not isClosed p.idle
      rw [e] at head
      exact h.1 ▸ head

theorem Alike.opened (a : Alike v s s') :
    s.opened.map (fun o => (o.pool, o.database, o.username)) =
      s'.opened.map (fun o => (o.pool, o.database, o.username)) :=
  congrArg Gist.opened a.gist

theorem Alike.isClosed (a : Alike v s s') : s.server.isClosed s.now = s'.server.isClosed s'.now := by
  funext link
  rw [Server.isClosed_gist a.here.shut, Server.isClosed_gist a.there.shut, a.server]

theorem Alike.pool (a : Alike v s s') {o : Opened} (ho : s.opened = some o) :
    ∃ o', s'.opened = some o' ∧ o'.pool = o.pool := by
  have opened := a.opened
  cases ho' : s'.opened with
  | none => simp [ho, ho'] at opened
  | some o' =>
    simp only [ho, ho', Option.map_some, Option.some.injEq, Prod.mk.injEq] at opened
    exact ⟨o', rfl, opened.1.symm⟩

theorem matches_checkout (a : Alike v s s') (patient : l.patience = .none)
    (patient' : l'.patience = .none) :
    Matches v
      (fun link t link' t' => Alike v t t' ∧ link = link' ∧ t.server.gist.isClosed link = false)
      (s.checkout l) (s'.checkout l') := by
  simp only [checkout]
  cases ho : s.opened with
  | none =>
    have ho' : s'.opened = .none := by simpa [ho] using a.opened.symm
    rw [ho']
    exact .failed a
  | some o =>
    obtain ⟨o', ho', same⟩ := a.pool ho
    simp only [ho', same, a.isClosed]
    cases handed : o.pool.checkout (s'.server.isClosed s'.now) with
    | mk found pool =>
      cases found with
      | reuse link =>
        refine .done ⟨a.updatePool fun _ => pool, rfl, ?_⟩
        have isOpen := isClosed_of_reuse handed
        rw [Server.isClosed_gist a.there.shut, ← a.server] at isOpen
        exact isOpen
      | full =>
        obtain ⟨halt, t, e, cut⟩ := stall_cut (α := Nat) s' patient'
        simp only [e]
        exact .cut cut
      | connect =>
        have m := matches_connect (a.updatePool fun _ => pool) patient patient'
        simp only [setPool]
        generalize (s.updateOpened fun o => { o with pool := pool }).connect l = y at m ⊢
        generalize (s'.updateOpened fun o => { o with pool := pool }).connect l' = y' at m ⊢
        cases m with
        | limited limit => exact .limited limit
        | cut cut => exact .cut cut
        | failed b => exact .failed b
        | @done c c' t t' same =>
          obtain ⟨b, rfl, isOpen⟩ := same
          cases c with
          | error fault => exact .failed b
          | ok link => exact .done ⟨b.updatePool (·.takeIn link), rfl, isOpen link rfl⟩

structure SameReady (v : View) (sql : String) (r : Ready) (t : Session) (r' : Ready) (t' : Session) :
    Prop where
  alike : Alike v t t'
  link : r.link = r'.link
  isPooled : r.isPooled = r'.isPooled
  statement : r.statement = r'.statement
  text : r.statement.sql = sql
  plan : t.HasPlan r.link r.statement
  plan' : t'.HasPlan r'.link r'.statement

theorem Alike.becomes (a : Alike v s s') {g g' : Gist} (b : Becomes v.held s g t)
    (b' : Becomes v.held' s' g' t') (same : g = g') (ran : g.ran = s.ran)
    (script : g.server.script = s.script) : Alike v t t' := by
  have quiet : t.ran = s.ran := (congrArg Gist.ran b.gist).trans ran
  have known : t.script = s.script := (congrArg (·.server.script) b.gist).trans script
  exact ⟨b.settled, b'.settled, b.gist.trans (same.trans b'.gist.symm), a.cursors,
    b'.uncached a.uncached, known.trans a.script, quiet ▸ a.own⟩

theorem matches_readies (a : Alike v s s') {link : Nat} {isPooled : Bool} {sql : String}
    {x x' : Except Halt Ready × Session} (h : Readies v.held s link isPooled sql x)
    (h' : Readies v.held' s' link isPooled sql x') : Matches v (SameReady v sql) x x' := by
  cases h' with
  | stalled _ _ cut => exact .cut cut
  | limited limit => exact .cut (Halt.isCut_of_isLimit limit)
  | closed shut' became' =>
    rw [← a.server] at shut'
    cases h with
    | closed _ became => exact .failed (a.becomes became became' a.gist rfl rfl)
    | limited limit => exact .limited limit
    | stalled isOpen _ _ | refused isOpen _ _ _ | ready isOpen _ _ _ _ _ _ =>
      simp [shut'] at isOpen
  | @refused fault' _ isOpen' free' reply' became' =>
    rw [← a.server] at isOpen'
    rw [← a.sameScript] at reply'
    have free := (a.isBlocked link).trans (free' a.uncached.cache)
    cases h with
    | closed shut _ => simp [shut] at isOpen'
    | stalled _ blocked _ => simp [free] at blocked
    | limited limit => exact .limited limit
    | refused _ _ reply became =>
      obtain rfl := Except.error.inj (reply.symm.trans reply')
      exact .failed (a.becomes became became' (by rw [a.gist]) rfl rfl)
    | ready _ _ reply _ _ _ _ => simp [reply'] at reply
  | @ready r' t' isOpen' free' reply' became' link' isPooled' plan' =>
    rw [← a.server] at isOpen'
    rw [← a.sameScript] at reply'
    have free := (a.isBlocked link).trans (free' a.uncached.cache)
    cases h with
    | closed shut _ => simp [shut] at isOpen'
    | stalled _ blocked _ => simp [free] at blocked
    | limited limit => exact .limited limit
    | refused _ _ reply _ => simp [reply'] at reply
    | @ready r t _ _ reply became rlink isPooled plan =>
      have statement := Except.ok.inj (reply.symm.trans reply')
      refine .done ⟨a.becomes became became' (by rw [a.gist]) rfl rfl, rlink.trans link'.symm,
        isPooled.trans isPooled'.symm, statement, ?_, rlink ▸ plan, link' ▸ plan'⟩
      exact Server.preparing_sql (prepareReply_ok.mp reply)

theorem Settled.readies_on {held : List Cursor} (h : Settled held s) (patient : l.patience = .none)
    {label : Option String} (named : label ≠ some "") {link : Nat}
    (isOpen : s.server.gist.isClosed link = false) (sql : String) :
    Readies held s link true sql (s.prepareOn l label link sql) := by
  have fresh := h.readies_fresh patient link true .bypass sql
  simp only [prepareOn]
  cases label with
  | none => exact fresh
  | some name =>
    have filled : name ≠ "" := fun e => named (congrArg some e)
    cases ho : s.opened with
    | none => exact fresh
    | some o =>
      cases hc : o.cache with
      | none => simpa only [hc] using fresh
      | some c =>
        have cache : s.cache? = some c := by simp [cache?, ho, hc]
        have labeled := h.readies_labeled patient cache filled isOpen o.generation sql
        simpa only [hc] using labeled

theorem matches_prepareStage (a : Alike v s s') (patient : l.patience = .none)
    (patient' : l'.patience = .none) (c : Call) {label : Option String} (named : label ≠ some "")
    (sql : String) :
    Matches v (SameReady v sql) (s.prepareStage c l label sql) (s'.prepareStage c l' label sql) := by
  simp only [prepareStage]
  by_cases refused : l.isRefused s.now s.waits = true
  · rw [if_pos refused]
    exact .limited rfl
  by_cases refused' : l'.isRefused s'.now s'.waits = true
  · rw [if_pos refused']
    exact .cut rfl
  · rw [if_neg refused, if_neg refused']
    cases c.transaction with
    | some link =>
      exact matches_readies a (a.here.readies_fresh patient link false .transaction sql)
        (a.there.readies_fresh patient' link false .transaction sql)
    | none =>
      have out := matches_checkout a patient patient'
      simp only [preparePooled]
      generalize s.checkout l = x at out ⊢
      generalize s'.checkout l' = x' at out ⊢
      cases out with
      | limited limit => exact .limited limit
      | cut cut => exact .cut cut
      | failed b => exact .failed b
      | @done link link' t t' same =>
        obtain ⟨b, rfl, isOpen⟩ := same
        have ready := matches_readies b (b.here.readies_on patient named isOpen sql)
          (b.there.readies_on patient' named (b.server ▸ isOpen) sql)
        change Matches v (SameReady v sql) (unlessReady link (t.prepareOn l label link sql))
          (unlessReady link (t'.prepareOn l' label link sql))
        generalize t.prepareOn l label link sql = y at ready ⊢
        generalize t'.prepareOn l' label link sql = y' at ready ⊢
        cases ready with
        | limited limit => exact .limited limit
        | cut cut => exact .cut cut
        | failed b => exact .failed (b.release link)
        | done same => exact .done same

end RowMapper.Session
