import RowMapper.Proofs.Session.Lockstep

/-!
Two like sessions are opened and closed, begin transactions and give up labels.
-/
namespace RowMapper.Session

variable {v : View} {s s' t t' : Session} {l l' : Limits}

theorem matches_prepare (a : Alike v s s') (patient : l.patience = .none) (patient' : l'.patience = .none)
    (link : Nat) (sql : String) :
    Matches v (fun r t r' t' => Alike v t t' ∧ r = r' ∧ ∀ p, r = .ok p → p.sql = sql ∧
      t.HasPlan link p ∧ t'.HasPlan link p) (s.prepare l link sql) (s'.prepare l' link sql) := by
  have x := a.here.obtains patient link sql
  have x' := a.there.obtains patient' link sql
  generalize s.prepare l link sql = y at x ⊢
  generalize s'.prepare l' link sql = y' at x' ⊢
  cases x' with
  | stalled _ _ cut => exact .cut cut
  | limited limit => exact .cut (Halt.isCut_of_isLimit limit)
  | closed shut' =>
    rw [← a.server] at shut'
    cases x with
    | closed _ => exact .done ⟨a, rfl, by simp⟩
    | limited limit => exact .limited limit
    | stalled isOpen _ _ | answered isOpen _ _ _ _ => simp [shut'] at isOpen
  | answered isOpen' free' became' _ plan' =>
    rw [← a.server] at isOpen'
    rw [← a.isBlocked] at free'
    rw [← a.sameScript] at plan' ⊢
    cases x with
    | closed shut => simp [shut] at isOpen'
    | stalled _ blocked _ => simp [free'] at blocked
    | limited limit => exact .limited limit
    | answered _ _ became _ plan =>
      refine .done ⟨a.becomes became became' (by rw [a.gist]) rfl rfl, rfl, fun p reply => ?_⟩
      exact ⟨Server.preparing_sql (prepareReply_ok.mp reply), plan p reply, plan' p reply⟩

theorem matches_readReply (a : Alike v s s') (patient : l.patience = .none)
    (patient' : l'.patience = .none) {f f' : Feed} (timeless : f.timeless = f'.timeless) :
    Matches v (fun _ t _ t' => Alike v t t') (s.readReply l f) (s'.readReply l' f') := by
  simp only [readReply]
  generalize read : (f.under l s.now s.waits).read theRow Option.none = r
  generalize read' : (f'.under l' s'.now s'.waits).read theRow Option.none = r'
  have ended := a.quietly (quietly_advance a.here.idle r.time) (quietly_advance a.there.idle r'.time)
  rcases f'.under_cases patient' s'.now s'.waits theRow Option.none with ⟨h, result, limit⟩ | whole'
  · rw [read'] at result
    simp only [result]
    exact .cut (Halt.isCut_of_isLimit limit)
  rcases f.under_cases patient s.now s.waits theRow Option.none with ⟨h, result, limit⟩ | whole
  · rw [read] at result
    simp only [result]
    exact .limited limit
  · have same : r.gist = r'.gist := by
      rw [← read, ← read', whole, whole', Feed.readWhole_timeless timeless]
    simp only [Reading.gist, Prod.mk.injEq] at same
    obtain ⟨state, -, result⟩ := same
    rw [state, result]
    cases r'.result with
    | error h => exact .failed ended
    | ok u =>
      simp only
      cases checkReply r'.state with
      | error e => exact .failed ended
      | ok u => exact .done ended

theorem matches_greet (a : Alike v s s') (patient : l.patience = .none) (patient' : l'.patience = .none)
    (link : Nat) (own : ∀ p, p.sql = Server.greeting → Server.preparing v.script p.sql = .ok p → v.may p) :
    Matches v (fun _ t _ t' => Alike v t t') (s.greet l link) (s'.greet l' link) := by
  have m := matches_prepare a patient patient' link Server.greeting
  simp only [greet]
  generalize s.prepare l link Server.greeting = x at m ⊢
  generalize s'.prepare l' link Server.greeting = x' at m ⊢
  cases m with
  | limited limit => exact .limited limit
  | cut cut => exact .cut cut
  | failed b => exact .failed b
  | @done r r' t t' same =>
    obtain ⟨b, rfl, plans⟩ := same
    cases r with
    | error fault => exact .failed b
    | ok p =>
      obtain ⟨text, plan, plan'⟩ := plans p rfl
      have given := plan.given
      rw [b.script] at given
      have m := matches_run b patient patient' (own p text given) plan plan' []
      simp only
      generalize t.run l link p [] = y at m ⊢
      generalize t'.run l' link p [] = y' at m ⊢
      cases m with
      | limited limit => exact .limited limit
      | cut cut => exact .cut cut
      | failed b => exact .failed b
      | @done f f' u u' same =>
        obtain ⟨k, timeless⟩ := same
        cases f with
        | error fault =>
          cases f' with
          | error fault' =>
            obtain rfl := Except.error.inj timeless
            exact .failed k
          | ok feed' => simp [Except.map] at timeless
        | ok feed =>
          cases f' with
          | error fault' => simp [Except.map] at timeless
          | ok feed' => exact matches_readReply k patient patient' (Except.ok.inj timeless)

theorem Alike.setting (a : Alike v s s') : s.config.set .noCache = s'.config.set .noCache :=
  congrArg Gist.config a.gist

theorem Alike.openingDsn (a : Alike v s s') : s.openingDsn = s'.openingDsn := by
  have dsn : (s.config.set .noCache).dsn? = (s'.config.set .noCache).dsn? :=
    congrArg Config.dsn? a.setting
  have size : (s.config.set .noCache).poolSize = (s'.config.set .noCache).poolSize :=
    congrArg Config.poolSize a.setting
  change s.config.dsn? = s'.config.dsn? at dsn
  change s.config.poolSize = s'.config.poolSize at size
  simp only [Session.openingDsn, a.isOpen, dsn, size]

theorem gist_install (s : Session) (max : Nat) (dsn : Dsn) :
    (s.install max dsn).gist =
      { s.gist with opened := some (.empty max, dsn.database, dsn.username) } := rfl

theorem Alike.install (a : Alike v s s') (max : Nat) (dsn : Dsn) :
    Alike v (s.install max dsn) (s'.install max dsn) where
  here := a.here.of_frame rfl rfl (Nat.le_refl _) (fun c hc => by
    simp only [cache?, Session.install, Option.bind_some, Option.ite_none_right_eq_some,
      Option.some.injEq] at hc
    rw [← hc.2]
    exact fun p hp => absurd hp List.not_mem_nil) (List.append_nil _).symm (by simp)
  there := a.there.of_frame rfl rfl (Nat.le_refl _) (fun c hc => by
    simp [cache?, Session.install, a.uncached.setting] at hc) (List.append_nil _).symm (by simp)
  gist := by
    rw [gist_install, gist_install, a.gist]
  cursors := a.cursors
  uncached := ⟨by simp [cache?, Session.install, a.uncached.setting], a.uncached.setting⟩
  script := a.script
  own := a.own

theorem matches_openPool (a : Alike v s s') (patient : l.patience = .none)
    (own : ∀ p, p.sql = Server.greeting → Server.preparing v.script p.sql = .ok p → v.may p) :
    Matches v (fun _ t _ t' => Alike v t t') (s.openPool l) (s'.openPool l) := by
  simp only [openPool, a.openingDsn]
  cases s'.openingDsn with
  | error e => exact .failed a
  | ok dsn =>
    have m := matches_connect a patient patient
    simp only
    generalize s.connect l = x at m ⊢
    generalize s'.connect l = x' at m ⊢
    cases m with
    | limited limit => exact .limited limit
    | cut cut => exact .cut cut
    | failed b => exact .failed b
    | @done c c' t t' same =>
      obtain ⟨b, rfl, -⟩ := same
      cases c with
      | error fault => exact .failed b
      | ok link =>
        have m := matches_greet b patient patient link own
        simp only
        generalize t.greet l link = y at m ⊢
        generalize t'.greet l link = y' at m ⊢
        cases m with
        | limited limit => exact .limited limit
        | cut cut => exact .cut cut
        | failed b => exact .failed b
        | @done _ _ u u' k =>
          have max : u.config.maxConnections = u'.config.maxConnections :=
            congrArg (·.maxConnections) k.setting
          have told (w : Session) : ∀ e ∈ [Event.trace (w.openedTrace dsn)], e.ran? = .none :=
            fun e he => List.mem_singleton.mp he ▸ rfl
          have noted := k.quietly (quietly_note u (told u)) (quietly_note u' (told u'))
          simp only [installGreeted, max]
          exact .done ((noted.install u'.config.maxConnections dsn).updatePool
            fun p => (p.takeIn link).giveBack link)

theorem Settled.close {held : List Cursor} (h : Settled held s) : Settled held s.close := by
  simp only [Session.close]
  split
  · exact h
  · exact h.of_frame rfl rfl (Nat.le_refl _) (by simp [cache?, note]) rfl
      fun e he => List.mem_singleton.mp he ▸ rfl

theorem gist_close (s : Session) : s.close.gist = { s.gist with opened := .none } := by
  simp only [Session.close]
  split
  · rename_i closed
    simp [Session.gist, closed]
  · simp [Session.gist, note, Session.ran, Event.ran?]

theorem script_close (s : Session) : s.close.script = s.script :=
  congrArg (·.server.script) (gist_close s)

theorem Alike.close (a : Alike v s s') : Alike v s.close s'.close where
  here := a.here.close
  there := a.there.close
  gist := by rw [gist_close, gist_close, a.gist]
  cursors := a.cursors
  uncached := by
    simp only [Session.close]
    split
    · exact a.uncached
    · exact ⟨by simp [cache?, note], a.uncached.setting⟩
  script := (script_close s).trans a.script
  own := by
    have ran : s.close.ran = s.ran := congrArg Gist.ran (gist_close s)
    exact ran ▸ a.own

theorem matches_beginTransaction (a : Alike v s s') (patient : l.patience = .none) :
    Matches v (fun link t link' t' => Alike v t t' ∧ link = link') (s.beginTransaction l)
      (s'.beginTransaction l) := by
  have m := matches_connect a patient patient
  simp only [beginTransaction]
  generalize s.connect l = x at m ⊢
  generalize s'.connect l = x' at m ⊢
  cases m with
  | limited limit => exact .limited limit
  | cut cut => exact .cut cut
  | failed b => exact .failed b
  | @done c c' t t' same =>
    obtain ⟨b, rfl, -⟩ := same
    cases c with
    | error fault => exact .failed b
    | ok link =>
      have m := matches_ask b patient patient link .begin (by simp)
      simp only
      generalize t.ask l link .begin = y at m ⊢
      generalize t'.ask l link .begin = y' at m ⊢
      cases m with
      | limited limit => exact .limited limit
      | cut cut => exact .cut cut
      | failed k => exact .failed k
      | @done r r' u u' same =>
        obtain ⟨k, contents⟩ := same
        cases r with
        | error fault =>
          cases r' with
          | error fault' =>
            obtain rfl := Except.error.inj contents
            exact .failed k
          | ok content' => simp [Except.map] at contents
        | ok content =>
          cases r' with
          | error fault' => simp [Except.map] at contents
          | ok content' => exact .done ⟨k, rfl⟩

theorem quietly_clearCache (s : Session) : Quietly s s.clearCache := by
  have emptied : s.clearCache.cache? = s.cache?.map StatementCache.close := by
    simp only [cache?, Session.clearCache, updateOpened]
    cases s.opened <;> rfl
  refine ⟨?_, rfl, fun none => ⟨by rw [emptied, none.cache]; rfl, none.setting⟩, fun held h => ?_⟩
  · simp only [Session.gist, Session.clearCache, updateOpened, Session.ran, Option.map_map]
    rfl
  · refine h.of_frame rfl rfl (Nat.le_refl _) (fun c hc p hp => ?_) (List.append_nil _).symm (by simp)
    rw [emptied, Option.map_eq_some_iff] at hc
    obtain ⟨d, -, rfl⟩ := hc
    exact absurd hp List.not_mem_nil

end RowMapper.Session
