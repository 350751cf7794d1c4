import RowMapper.Proofs.Session.Preparing

/-!
How a statement begins. Either nothing begins, or the hook aborts it, or it fails to be prepared, or it
is ready; the hook is asked before anything is sent.
-/
namespace RowMapper.Session

inductive Stages (s : Session) (pooled : Bool) (label : Option String) (sql : String) :
    Except Halt Ready × Session → Prop where
  | waited {result : Except Halt Ready} {t : Session} : Waited s t →
    (∀ ready, result = .ok ready →
      ready.cached = none ∧ (pooled = true → label = none ∨ s.cache? = none)) →
        Stages s pooled label sql (result, t)
  | labeled {u t v : Session} {generation link : Nat} {c : StatementCache} {name : String}
    {result : Except Halt Ready} : label = some name → Waited s u →
      u.generation? = some generation → u.cache? = some c →
        Prepares u generation c link name sql (result, t) → Waited t v →
          Stages s pooled label sql (result, v)

theorem prepareFresh_cached (s : Session) (l : Limits) (link : Nat) (isPooled : Bool)
    (source : Source) (sql : String) (ready : Ready)
    (h : (s.prepareFresh l link isPooled source sql).1 = .ok ready) : ready.cached = none := by
  simp only [prepareFresh] at h
  split at h
  · simp at h
  · rename_i r _ _
    cases r with
    | error fault => simp [callerResult, Except.map] at h
    | ok p =>
      simp only [callerResult, Except.map, Except.ok.injEq] at h
      rw [← h]

/-- The connection goes back to the pool unless a statement is ready on it. -/
def unlessReady (link : Nat) : Except Halt Ready × Session → Except Halt Ready × Session
  | (.ok ready, s) => (.ok ready, s)
  | (.error h, s) => (.error h, s.release link)

def prepareOn (s : Session) (l : Limits) (label : Option String) (link : Nat) (sql : String) :
    Except Halt Ready × Session :=
  match label, s.opened with
  | some label, some o =>
    match o.cache with
    | some c => s.prepareLabeled l o.generation c link label sql
    | .none => s.prepareFresh l link true .bypass sql
  | _, _ => s.prepareFresh l link true .bypass sql

theorem preparePooled_stages (s : Session) (l : Limits) (label : Option String) (sql : String) :
    Stages s true label sql (s.preparePooled l label sql) := by
  have out := waited_checkout s l
  simp only [preparePooled]
  split <;> rename_i e <;> rw [e] at out
  · exact .waited out (by simp)
  · rename_i link u
    have fresh (unlooked : label = none ∨ s.cache? = none) :
        Stages s true label sql (unlessReady link (u.prepareFresh l link true .bypass sql)) := by
      have w := out.trans (waited_prepareFresh u l link true .bypass sql)
      have cached := prepareFresh_cached u l link true .bypass sql
      cases e' : u.prepareFresh l link true .bypass sql with
      | mk result v =>
        rw [e'] at w cached
        cases result with
        | ok ready => exact .waited w fun ready h => ⟨cached ready h, fun _ => unlooked⟩
        | error h => exact .waited (w.trans (waited_release _ link)) (by simp)
    have same : u.cache? = s.cache? := out.cache?
    cases label with
    | none => exact fresh (.inl rfl)
    | some name =>
      cases ho : u.opened with
      | none => exact fresh (.inr (same.symm.trans (by simp [Session.cache?, ho])))
      | some o =>
        cases hc : o.cache with
        | none =>
          simp only [hc]
          exact fresh (.inr (same.symm.trans (by simp [Session.cache?, ho, hc])))
        | some c =>
          have p := prepareLabeled_prepares u l o.generation c link name sql
          have number : u.generation? = some o.generation := by simp [Session.generation?, ho]
          have cache : u.cache? = some c := by simp [Session.cache?, ho, hc]
          simp only [hc]
          split <;> rename_i e' <;> rw [e'] at p
          · exact .labeled rfl out number cache p (.refl _)
          · exact .labeled rfl out number cache p (waited_release _ link)

theorem prepareStage_stages (s : Session) (c : Call) (l : Limits) (label : Option String)
    (sql : String) : Stages s c.transaction.isNone label sql (s.prepareStage c l label sql) := by
  simp only [prepareStage]
  split
  · exact .waited (.refl s) (by simp)
  · split
    · rename_i link inside
      have cached := prepareFresh_cached s l link false .transaction sql
      exact .waited (waited_prepareFresh s l link false .transaction sql)
        fun ready h => ⟨cached ready h, by simp [inside]⟩
    · rename_i outside
      rw [outside]
      exact preparePooled_stages s l label sql

def asked (s : Session) (c : Call) (usual : Option String) (sql : String) (paramCount : Nat) :
    Context :=
  s.contextOf (c.label <|> usual) sql paramCount

def answer (s : Session) (ctx : Context) : Action :=
  match s.hook with
  | none => .proceed
  | some h => (h.before ctx).2.2

def heardBefore (s : Session) (ctx : Context) : List HookEvent :=
  match s.hook with
  | none => []
  | some h => (h.before ctx).2.1

def afterAsking (s : Session) (ctx : Context) : Session :=
  { s with hook := s.hook.map fun h : Hook => (h.before ctx).1 }.note ((s.heardBefore ctx).map .hook)

theorem askHook_eq (s : Session) (ctx : Context) : s.askHook ctx = ((s.answer ctx).apply ctx, s.afterAsking ctx) := by
  cases h : s.hook with
  | none =>
    simp only [askHook, answer, afterAsking, heardBefore, h, Action.apply, List.map_nil, note, List.append_nil,
      Option.map_none]
    rw [← h]
  | some hook => simp only [askHook, answer, afterAsking, heardBefore, h, Option.map_some]

def lacksConnection (s : Session) (c : Call) : Bool := c.transaction.isNone && !s.isOpen

def booksOf (s : Session) (c : Call) (ctx : Context) : Run :=
  ⟨ctx, s.now, s.limitsOf c, none, c.callback⟩

def booksWith (s : Session) (c : Call) (ctx : Context) (ready : Ready) : Run :=
  ⟨Ready.mark ready ctx, s.now, s.limitsOf c, ready.cached, c.callback⟩

inductive Begins (s : Session) (c : Call) (usual : Option String) (sql : String)
    (paramCount : Nat) : Except Halt Begun × Session → Prop where
  | closed : s.lacksConnection c = true →
    Begins s c usual sql paramCount (.error (.error .closed), s.finish c.callback)
  | aborted {reason : String} {u : Session} : s.lacksConnection c = false →
    s.askHook (s.asked c usual sql paramCount) = (.error reason, u) →
      Begins s c usual sql paramCount
        (.error (.error (.validation ("query aborted by hook: " ++ reason))), u.finish c.callback)
  | failed {ctx : Context} {u v : Session} {h : Halt} : s.lacksConnection c = false →
    s.askHook (s.asked c usual sql paramCount) = (.ok ctx, u) →
      u.prepareStage c (s.limitsOf c) (c.label <|> usual) ctx.execSql = (.error h, v) →
        Begins s c usual sql paramCount (.error h,
          v.report (α := Unit) (u.booksOf c ctx) (fun _ => .rows 0) (.error h))
  | ready {ctx : Context} {u v : Session} {ready : Ready} : s.lacksConnection c = false →
    s.askHook (s.asked c usual sql paramCount) = (.ok ctx, u) →
      u.prepareStage c (s.limitsOf c) (c.label <|> usual) ctx.execSql = (.ok ready, v) →
        Begins s c usual sql paramCount (.ok ⟨ready, u.booksWith c ctx ready⟩, v)

theorem limitsOf_afterAsking (s : Session) (c : Call) (ctx : Context) :
    (s.afterAsking ctx).limitsOf c = s.limitsOf c := rfl

theorem begin_begins (s : Session) (c : Call) (usual : Option String) (sql : String)
    (paramCount : Nat) : Begins s c usual sql paramCount (s.begin c usual sql paramCount) := by
  simp only [begin]
  split
  · rename_i lacks
    exact .closed lacks
  · rename_i lacks
    have there : s.lacksConnection c = false := Bool.eq_false_iff.mpr lacks
    split
    · rename_i e
      exact .aborted there e
    · rename_i ctx u e
      have noted : u.limitsOf c = s.limitsOf c := by
        rw [askHook_eq] at e
        exact (Prod.mk.inj e).2 ▸ limitsOf_afterAsking s c _
      split
      · rename_i e'
        have begun : Begins s c usual sql paramCount _ := .ready there e e'
        rwa [booksWith, noted] at begun
      · rename_i e'
        have begun : Begins s c usual sql paramCount _ := .failed there e e'
        rwa [booksOf, noted] at begun

end RowMapper.Session
