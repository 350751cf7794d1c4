import RowMapper.Hook.Basic

/-!
The names of database and user that a hook is shown. Only rules can go by them: what other hooks answer, what they
make known and what they keep is the same under any names, but for the names themselves.
-/
namespace RowMapper

def Context.unnamed (ctx : Context) : Context := { ctx with database := none, username := none }

def HookEvent.unnamed : HookEvent → HookEvent
  | .before name ctx => .before name ctx.unnamed
  | .after name ctx outcome => .after name ctx.unnamed outcome
  | .trace event => .trace event

namespace Context

variable {ctx ctx' : Context}

def named (ctx : Context) (database username : Option String) : Context :=
  { ctx with database := database, username := username }

theorem eq_named (same : ctx'.unnamed = ctx.unnamed) : ctx' = ctx.named ctx'.database ctx'.username := by
  obtain ⟨canonicalSql, execSql, paramCount, kind, label, engine, database, username, fields⟩ := ctx
  obtain ⟨canonicalSql', execSql', paramCount', kind', label', engine', database', username', fields'⟩ := ctx'
  simp only [unnamed, mk.injEq, true_and] at same
  obtain ⟨rfl, rfl, rfl, rfl, rfl, rfl, rfl⟩ := same
  rfl

theorem unnamed_addField (same : ctx'.unnamed = ctx.unnamed) (key value : String) :
    (ctx'.addField key value).unnamed = (ctx.addField key value).unnamed := by
  rw [eq_named same]
  rfl

end Context

theorem Action.apply_unnamed {ctx ctx' : Context} (same : ctx'.unnamed = ctx.unnamed) (a : Action) :
    (a.apply ctx').map Context.unnamed = (a.apply ctx).map Context.unnamed := by
  rw [Context.eq_named same]
  cases a <;> rfl

namespace Hook

variable (ctx : Context) (database username : Option String)

mutual

theorem after_named (d : Duration) (o : Outcome) : (h : Hook) →
    (h.after (ctx.named database username) d o).1 = (h.after ctx d o).1 ∧
      (h.after (ctx.named database username) d o).2.map HookEvent.unnamed =
        (h.after ctx d o).2.map HookEvent.unnamed
  | .idle | .rule _ _ | .record _ => ⟨rfl, rfl⟩
  | .stats _ => ⟨rfl, rfl⟩
  | .trace settings => by cases o <;> exact ⟨rfl, rfl⟩
  | .composite hooks => by
    obtain ⟨same, events⟩ := afterAll_named d o hooks
    exact ⟨congrArg Hook.composite same, events⟩

theorem afterAll_named (d : Duration) (o : Outcome) : (hooks : List Hook) →
    (afterAll (ctx.named database username) d o hooks).1 = (afterAll ctx d o hooks).1 ∧
      (afterAll (ctx.named database username) d o hooks).2.map HookEvent.unnamed =
        (afterAll ctx d o hooks).2.map HookEvent.unnamed
  | [] => ⟨rfl, rfl⟩
  | h :: rest => by
    obtain ⟨same, events⟩ := after_named d o h
    obtain ⟨same', events'⟩ := afterAll_named d o rest
    simp only [afterAll, List.map_append, same, same', events, events', and_self]

end

mutual

def IgnoresNames : Hook → Prop
  | .rule _ decide => ∀ notes ctx database username,
    decide notes (Context.named ctx database username) = decide notes ctx
  | .composite hooks => AllIgnoreNames hooks
  | _ => True

def AllIgnoreNames : List Hook → Prop
  | [] => True
  | h :: rest => h.IgnoresNames ∧ AllIgnoreNames rest

end

theorem apply_named (a : Action) :
    a.apply (ctx.named database username) = (a.apply ctx).map (Context.named · database username) := by
  cases a <;> rfl

/-- Two hooks that answered alike: they are the same now, and have made the same known but for the names. -/
structure Heard (x y : Hook × List HookEvent × Action) : Prop where
  hook : x.1 = y.1
  events : x.2.1.map HookEvent.unnamed = y.2.1.map HookEvent.unnamed
  action : x.2.2 = y.2.2

mutual

theorem before_named : (h : Hook) → h.IgnoresNames → ∀ ctx database username,
    Heard (h.before (Context.named ctx database username)) (h.before ctx)
  | .rule notes choose, ignores, ctx, database, username =>
    have same := ignores notes ctx database username
    ⟨congrArg (fun chosen : Action × List String => rule chosen.2 choose) same, rfl, congrArg Prod.fst same⟩
  | .idle, _, _, _, _ | .record _, _, _, _, _ | .stats _, _, _, _, _ | .trace _, _, _, _, _ => ⟨rfl, rfl, rfl⟩
  | .composite hooks, ignores, ctx, database, username => by
    obtain ⟨same, events, last⟩ := beforeAll_named hooks ignores ctx database username
    simp only [before]
    generalize beforeAll (ctx.named database username) hooks = x at same events last
    generalize beforeAll ctx hooks = y at same events last
    obtain ⟨hooks', seen, result⟩ := x
    obtain ⟨hooks'', seen', result'⟩ := y
    obtain rfl : hooks' = hooks'' := same
    obtain rfl : result = result'.map (Context.named · database username) := last
    cases result' <;> exact ⟨rfl, events, rfl⟩

theorem beforeAll_named : (hooks : List Hook) → AllIgnoreNames hooks → ∀ ctx database username,
    (beforeAll (Context.named ctx database username) hooks).1 = (beforeAll ctx hooks).1 ∧
      (beforeAll (Context.named ctx database username) hooks).2.1.map HookEvent.unnamed =
        (beforeAll ctx hooks).2.1.map HookEvent.unnamed ∧
      (beforeAll (Context.named ctx database username) hooks).2.2 =
        (beforeAll ctx hooks).2.2.map (Context.named · database username)
  | [], _, _, _, _ => ⟨rfl, rfl, rfl⟩
  | h :: rest, ignores, ctx, database, username => by
    obtain ⟨same, events, action⟩ := before_named h ignores.1 ctx database username
    simp only [beforeAll, same, action, apply_named]
    cases (h.before ctx).2.2.apply ctx with
    | error reason => exact ⟨rfl, events, rfl⟩
    | ok next =>
      obtain ⟨same', events', last⟩ := beforeAll_named rest ignores.2 next database username
      simp only [Except.map, List.map_append, events, events', same']
      exact ⟨trivial, trivial, last⟩

end

end Hook

end RowMapper
