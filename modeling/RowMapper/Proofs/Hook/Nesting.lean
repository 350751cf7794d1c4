import RowMapper.Proofs.Session.Beginning

/-!
Composites in composites. However the leaves are grouped, a statement is shown to them from left to right,
each on the texts that the ones before left, and what comes out is what a connection makes of their actions
that takes them one by one. This needs that a statement comes with the kind of its canonical text: then the
texts alone tell a composite whether there is anything to answer.
-/
namespace RowMapper

/-- From one statement to the other only the texts have changed, and the kind is that of the new text. -/
def Context.Rewritten (ctx last : Context) : Prop :=
  last = ctx.withTexts last.execSql (some last.canonicalSql)

namespace Context

variable {ctx next last : Context}

theorem rewritten_self_iff : ctx.Rewritten ctx ↔ ctx.kind = Kind.ofSql ctx.canonicalSql := by
  cases ctx
  simp [Rewritten, withTexts]

theorem rewritten_withTexts (ctx : Context) (execSql : String) (canonicalSql : Option String) :
    ctx.Rewritten (ctx.withTexts execSql canonicalSql) := by
  simp [Rewritten, withTexts]

theorem Rewritten.kind (h : ctx.Rewritten last) : last.kind = Kind.ofSql last.canonicalSql := by
  rw [h]
  rfl

theorem Rewritten.self (h : ctx.Rewritten last) : last.Rewritten last := rewritten_self_iff.mpr h.kind

theorem Rewritten.trans (h : ctx.Rewritten next) (k : next.Rewritten last) : ctx.Rewritten last := by
  rw [Rewritten, k, h]
  rfl

end Context

theorem Action.apply_rewritten {a : Action} {ctx next : Context} (consistent : ctx.Rewritten ctx)
    (taken : a.apply ctx = .ok next) : ctx.Rewritten next := by
  cases a with
  | proceed =>
    obtain rfl := Except.ok.inj taken
    exact consistent
  | modify execSql canonicalSql =>
    obtain rfl := Except.ok.inj taken
    exact ctx.rewritten_withTexts execSql canonicalSql
  | abort reason => cases taken

namespace Hook

open Context

/-- What a composite answers is taken for what its hooks have made of the statement. Nothing is lost when
their changes cancel out, or when only one of the texts has changed. -/
theorem summary_apply {ctx last : Context} (consistent : ctx.Rewritten ctx) (h : ctx.Rewritten last) :
    (summary ctx last).apply ctx = .ok last := by
  by_cases canonical : last.canonicalSql = ctx.canonicalSql
  · by_cases exec : last.execSql = ctx.execSql
    -- Both texts are as they were. Only the kind could tell the statements apart, and it goes by the text.
    · have same : last = ctx := by rw [h, exec, canonical, ← consistent]
      rw [summary, if_pos ⟨exec, canonical⟩, same]
      rfl
    · rw [summary, if_neg fun both => exec both.1, if_pos canonical, Action.apply]
      refine congrArg Except.ok (Eq.trans ?_ h.symm)
      rw [canonical]
      rfl
  · rw [summary, if_neg fun both => canonical both.2, if_neg canonical, Action.apply]
    exact congrArg Except.ok h.symm

/-- How hooks that are no composites behave. They may remember what they were told, also together. -/
structure Behavior (σ : Type) where
  before : Hook → Context → σ → Action × σ
  after : Hook → Context → Duration → Outcome → σ → σ

structure Round (α σ : Type) where
  calls : List (Hook × Context)
  answer : α
  memory : σ

namespace Behavior

variable {σ : Type} (b : Behavior σ) {ctx last : Context} {m : σ}

mutual
/-- Asks a hook; a composite asks its own hooks and answers with what has changed. -/
def ask (ctx : Context) (m : σ) : Hook → Round Action σ
  | .composite hooks =>
    let round := askAll ctx m hooks
    match round.answer with
    | .ok last => ⟨round.calls, summary ctx last, round.memory⟩
    | .error reason => ⟨round.calls, .abort reason, round.memory⟩
  | leaf => ⟨[(leaf, ctx)], (b.before leaf ctx m).1, (b.before leaf ctx m).2⟩

def askAll (ctx : Context) (m : σ) : List Hook → Round (Except String Context) σ
  | [] => ⟨[], .ok ctx, m⟩
  | h :: rest =>
    let round := ask ctx m h
    match round.answer.apply ctx with
    | .error reason => ⟨round.calls, .error reason, round.memory⟩
    | .ok next =>
      let others := askAll next round.memory rest
      ⟨round.calls ++ others.calls, others.answer, others.memory⟩
end

mutual
def tell (ctx : Context) (d : Duration) (o : Outcome) (m : σ) : Hook → σ
  | .composite hooks => tellAll ctx d o m hooks
  | leaf => b.after leaf ctx d o m

def tellAll (ctx : Context) (d : Duration) (o : Outcome) (m : σ) : List Hook → σ
  | [] => m
  | h :: rest => tellAll ctx d o (tell ctx d o m h) rest
end

/-- Hooks without composites: each action is taken at once, and the first that aborts ends the round. -/
def thread (ctx : Context) (m : σ) : List Hook → Round (Except String Context) σ
  | [] => ⟨[], .ok ctx, m⟩
  | leaf :: rest =>
    let (action, m) := b.before leaf ctx m
    match action.apply ctx with
    | .error reason => ⟨[(leaf, ctx)], .error reason, m⟩
    | .ok next =>
      let others := thread next m rest
      ⟨(leaf, ctx) :: others.calls, others.answer, others.memory⟩

theorem thread_append (ctx : Context) (m : σ) (hooks more : List Hook) :
    b.thread ctx m (hooks ++ more) =
      match (b.thread ctx m hooks).answer with
      | .error reason => ⟨(b.thread ctx m hooks).calls, .error reason, (b.thread ctx m hooks).memory⟩
      | .ok next =>
        let others := b.thread next (b.thread ctx m hooks).memory more
        ⟨(b.thread ctx m hooks).calls ++ others.calls, others.answer, others.memory⟩ := by
  induction hooks generalizing ctx m with
  | nil => rfl
  | cons leaf rest ih =>
    simp only [List.cons_append, thread]
    cases (b.before leaf ctx m).1.apply ctx with
    | error reason => rfl
    | ok next =>
      simp only [ih]
      cases (b.thread next (b.before leaf ctx m).2 rest).answer <;> rfl

/-- Every statement that a hook sees, and the one that comes out, differs from the first in its texts only. -/
theorem thread_rewritten (hooks : List Hook) (consistent : ctx.Rewritten ctx) :
    (∀ call ∈ (b.thread ctx m hooks).calls, ctx.Rewritten call.2) ∧
      ∀ last, (b.thread ctx m hooks).answer = .ok last → ctx.Rewritten last := by
  induction hooks generalizing ctx m with
  | nil =>
    refine ⟨fun _ there => absurd there List.not_mem_nil, fun last answer => ?_⟩
    obtain rfl := Except.ok.inj answer
    exact consistent
  | cons leaf rest ih =>
    simp only [thread]
    cases taken : (b.before leaf ctx m).1.apply ctx with
    | error reason => simpa using consistent
    | ok next =>
      have changed : ctx.Rewritten next := Action.apply_rewritten consistent taken
      obtain ⟨calls, answer⟩ := ih (m := (b.before leaf ctx m).2) changed.self
      simp only [List.mem_cons, forall_eq_or_imp]
      exact ⟨⟨consistent, fun call there => changed.trans (calls call there)⟩,
        fun last ends => changed.trans (answer last ends)⟩

theorem thread_calls (hooks : List Hook) (answer : (b.thread ctx m hooks).answer = .ok last) :
    (b.thread ctx m hooks).calls.map (·.1) = hooks := by
  induction hooks generalizing ctx m with
  | nil => rfl
  | cons leaf rest ih =>
    simp only [thread] at answer ⊢
    cases taken : (b.before leaf ctx m).1.apply ctx with
    | error reason => simp [taken] at answer
    | ok next =>
      rw [taken] at answer
      simpa using ih answer

theorem thread_aborted {reason : String} (hooks : List Hook)
    (answer : (b.thread ctx m hooks).answer = .error reason) :
    ∃ earlier leaf seen m', (b.thread ctx m hooks).calls = earlier ++ [(leaf, seen)] ∧
      (b.before leaf seen m').1 = .abort reason ∧ earlier.map (·.1) ++ [leaf] <+: hooks := by
  induction hooks generalizing ctx m with
  | nil => cases answer
  | cons leaf rest ih =>
    simp only [thread] at answer ⊢
    cases taken : (b.before leaf ctx m).1.apply ctx with
    | error stop =>
      rw [taken] at answer
      obtain rfl := Except.error.inj answer
      refine ⟨[], leaf, ctx, m, rfl, ?_, List.prefix_append [leaf] rest⟩
      cases said : (b.before leaf ctx m).1 <;> simp_all [Action.apply]
    | ok next =>
      rw [taken] at answer
      obtain ⟨earlier, last, seen, m', calls, said, asked⟩ := ih answer
      exact ⟨(leaf, ctx) :: earlier, last, seen, m', by simp [calls], said,
        by simpa using asked⟩

theorem thread_leaf (ctx : Context) (m : σ) (leaf : Hook) : b.thread ctx m [leaf] =
    ⟨[(leaf, ctx)], (b.before leaf ctx m).1.apply ctx, (b.before leaf ctx m).2⟩ := by
  simp only [thread]
  cases (b.before leaf ctx m).1.apply ctx <;> rfl

mutual
/-- A tree of hooks makes the round of its leaves. -/
theorem thread_leaves (b : Behavior σ) {ctx : Context} (consistent : ctx.Rewritten ctx) (m : σ) :
    (h : Hook) → b.thread ctx m h.leaves =
      ⟨(b.ask ctx m h).calls, (b.ask ctx m h).answer.apply ctx, (b.ask ctx m h).memory⟩
  | .composite hooks => by
    have round := thread_leavesAll b consistent m hooks
    rw [leaves, round, ask]
    cases answer : (b.askAll ctx m hooks).answer with
    | error reason => simp only [Action.apply, ← answer]
    | ok last =>
      have changed : ctx.Rewritten last :=
        (b.thread_rewritten (leavesAll hooks) consistent).2 last (round ▸ answer)
      simp only [summary_apply consistent changed, ← answer]
  | .idle | .record _ | .rule _ _ | .stats _ | .trace _ => by
    rw [leaves, ask, thread_leaf]
    all_goals simp

theorem thread_leavesAll (b : Behavior σ) {ctx : Context} (consistent : ctx.Rewritten ctx) (m : σ) :
    (hooks : List Hook) → b.thread ctx m (leavesAll hooks) = b.askAll ctx m hooks
  | [] => by rw [leavesAll, thread, askAll]
  | h :: rest => by
    have first := thread_leaves b consistent m h
    rw [leavesAll, thread_append, first, askAll]
    cases taken : (b.ask ctx m h).answer.apply ctx with
    | error reason => rfl
    | ok next =>
      -- The others are asked on a statement that is of the kind of its text again.
      have changed : ctx.Rewritten next :=
        (b.thread_rewritten h.leaves consistent).2 next (by rw [first, taken])
      simp only [thread_leavesAll b changed.self (b.ask ctx m h).memory rest]
end

mutual
theorem tell_eq (b : Behavior σ) (ctx : Context) (d : Duration) (o : Outcome) (m : σ) :
    (h : Hook) → b.tell ctx d o m h = h.leaves.foldl (fun m leaf => b.after leaf ctx d o m) m
  | .composite hooks => by rw [tell, leaves, tellAll_eq b ctx d o m hooks]
  | .idle | .record _ | .rule _ _ | .stats _ | .trace _ => by
    rw [tell, leaves, List.foldl_cons, List.foldl_nil]
    all_goals simp

theorem tellAll_eq (b : Behavior σ) (ctx : Context) (d : Duration) (o : Outcome) (m : σ) :
    (hooks : List Hook) →
      b.tellAll ctx d o m hooks = (leavesAll hooks).foldl (fun m leaf => b.after leaf ctx d o m) m
  | [] => by rw [tellAll, leavesAll, List.foldl_nil]
  | h :: rest => by
    rw [tellAll, leavesAll, List.foldl_append, tell_eq b ctx d o m h,
      tellAll_eq b ctx d o _ rest]
end

def own : Behavior (List HookEvent) where
  before h ctx events := ((h.before ctx).2.2, events ++ (h.before ctx).2.1)
  after h ctx d o events := events ++ (h.after ctx d o).2

mutual
theorem ask_own (ctx : Context) (events : List HookEvent) : (h : Hook) →
    (own.ask ctx events h).answer = (h.before ctx).2.2 ∧
      (own.ask ctx events h).memory = events ++ (h.before ctx).2.1
  | .composite hooks => by
    obtain ⟨answer, memory⟩ := askAll_own ctx events hooks
    rw [ask, Hook.before]
    simp only [answer, memory]
    obtain ⟨hooks', seen, outcome⟩ := beforeAll ctx hooks
    cases outcome <;> exact ⟨rfl, rfl⟩
  | .idle | .record _ | .rule _ _ | .stats _ | .trace _ => by
    rw [ask]
    all_goals simp [own]

theorem askAll_own (ctx : Context) (events : List HookEvent) : (hooks : List Hook) →
    (own.askAll ctx events hooks).answer = (beforeAll ctx hooks).2.2 ∧
      (own.askAll ctx events hooks).memory = events ++ (beforeAll ctx hooks).2.1
  | [] => by
    rw [askAll, beforeAll]
    exact ⟨rfl, (List.append_nil events).symm⟩
  | h :: rest => by
    obtain ⟨answer, memory⟩ := ask_own ctx events h
    rw [askAll, beforeAll]
    simp only [answer, memory]
    cases (h.before ctx).2.2.apply ctx with
    | error reason => exact ⟨rfl, rfl⟩
    | ok next =>
      obtain ⟨more, others⟩ := askAll_own next (events ++ (h.before ctx).2.1) rest
      exact ⟨more, by rw [others, List.append_assoc]⟩
end

mutual
theorem tell_own (ctx : Context) (d : Duration) (o : Outcome) (events : List HookEvent) :
    (h : Hook) → own.tell ctx d o events h = events ++ (h.after ctx d o).2
  | .composite hooks => by rw [tell, Hook.after, tellAll_own ctx d o events hooks]
  | .idle | .record _ | .rule _ _ | .stats _ | .trace _ => by
    rw [tell]
    all_goals simp [own]

theorem tellAll_own (ctx : Context) (d : Duration) (o : Outcome) (events : List HookEvent) :
    (hooks : List Hook) → own.tellAll ctx d o events hooks = events ++ (afterAll ctx d o hooks).2
  | [] => by rw [tellAll, afterAll, List.append_nil]
  | h :: rest => by
    rw [tellAll, afterAll, tell_own ctx d o events h, tellAll_own ctx d o _ rest, List.append_assoc]
end

end Behavior

mutual
theorem leaves_after (ctx : Context) (d : Duration) (o : Outcome) :
    (h : Hook) → (h.after ctx d o).1.leaves = h.leaves.map fun leaf => (leaf.after ctx d o).1
  | .composite hooks => by rw [after, leaves, leaves, leavesAll_afterAll ctx d o hooks]
  | .idle | .record _ | .rule _ _ | .stats _ | .trace _ => by
    simp only [leaves, after, List.map_cons, List.map_nil]

theorem leavesAll_afterAll (ctx : Context) (d : Duration) (o : Outcome) : (hooks : List Hook) →
    leavesAll (afterAll ctx d o hooks).1 = (leavesAll hooks).map fun leaf => (leaf.after ctx d o).1
  | [] => by rw [afterAll, leavesAll, List.map_nil]
  | h :: rest => by
    rw [afterAll, leavesAll, leavesAll, List.map_append, leaves_after ctx d o h,
      leavesAll_afterAll ctx d o rest]
end

theorem events_after (ctx : Context) (d : Duration) (o : Outcome) (h : Hook) :
    (h.after ctx d o).2 = h.leaves.flatMap fun leaf => (leaf.after ctx d o).2 := by
  have told := Behavior.tell_own ctx d o [] h
  rw [Behavior.tell_eq, List.nil_append] at told
  rw [← told, List.flatMap_eq_foldl]
  rfl

/-- Hooks that are asked together with others come first, and the others are not asked if they end it. -/
theorem beforeAll_append (ctx : Context) (hooks more : List Hook) :
    beforeAll ctx (hooks ++ more) =
      match (beforeAll ctx hooks).2.2 with
      | .error reason => ((beforeAll ctx hooks).1 ++ more, (beforeAll ctx hooks).2.1, .error reason)
      | .ok next =>
        ((beforeAll ctx hooks).1 ++ (beforeAll next more).1, (beforeAll ctx hooks).2.1 ++ (beforeAll next more).2.1,
          (beforeAll next more).2.2) := by
  induction hooks generalizing ctx with
  | nil => rfl
  | cons h rest ih =>
    simp only [List.cons_append, beforeAll]
    cases (h.before ctx).2.2.apply ctx with
    | error reason => rfl
    | ok next =>
      simp only [ih]
      cases (beforeAll next rest).2.2 <;> simp only [List.cons_append, List.append_assoc]

theorem beforeAll_rewritten {ctx last : Context} (hooks : List Hook) (consistent : ctx.Rewritten ctx)
    (answer : (beforeAll ctx hooks).2.2 = .ok last) : ctx.Rewritten last := by
  induction hooks generalizing ctx with
  | nil =>
    obtain rfl := Except.ok.inj answer
    exact consistent
  | cons h rest ih =>
    simp only [beforeAll] at answer
    cases taken : (h.before ctx).2.2.apply ctx with
    | error reason => simp [taken] at answer
    | ok next =>
      rw [taken] at answer
      have changed : ctx.Rewritten next := Action.apply_rewritten consistent taken
      exact changed.trans (ih changed.self answer)

mutual
/-- A tree makes known what its leaves do, answers the same, and its leaves are afterwards what they are. -/
theorem beforeAll_leaves {ctx : Context} (consistent : ctx.Rewritten ctx) : (h : Hook) →
    beforeAll ctx h.leaves = ((h.before ctx).1.leaves, (h.before ctx).2.1, (h.before ctx).2.2.apply ctx)
  | .composite hooks => by
    have changed {last : Context} (answer : (beforeAll ctx hooks).2.2 = .ok last) : ctx.Rewritten last :=
      beforeAll_rewritten hooks consistent answer
    rw [leaves, beforeAll_leavesAll consistent hooks, before]
    generalize beforeAll ctx hooks = round at changed
    obtain ⟨hooks', events, result⟩ := round
    cases result with
    | error reason => rfl
    | ok last => simp only [summary_apply consistent (changed rfl), leaves]
  | .idle | .record _ | .rule _ _ | .stats _ | .trace _ => by
    simp only [leaves, beforeAll, before, List.append_nil]
    split <;> simp only [*]

theorem beforeAll_leavesAll {ctx : Context} (consistent : ctx.Rewritten ctx) : (hooks : List Hook) →
    beforeAll ctx (leavesAll hooks) =
      (leavesAll (beforeAll ctx hooks).1, (beforeAll ctx hooks).2)
  | [] => rfl
  | h :: rest => by
    rw [leavesAll, beforeAll_append, beforeAll_leaves consistent h, beforeAll]
    cases taken : (h.before ctx).2.2.apply ctx with
    | error reason => simp only [taken, leavesAll]
    | ok next =>
      -- The others are asked on a statement that is of the kind of its text again.
      have changed : ctx.Rewritten next := Action.apply_rewritten consistent taken
      simp only [taken, beforeAll_leavesAll changed.self rest, leavesAll]
end

end Hook

namespace Session

/-- Asks hooks one after the other, each as if it were the only one of the connection: what comes of it, and the
hooks as they are afterwards. -/
def askEach (s : Session) (ctx : Context) : List Hook → Except String Context × Session × List Hook
  | [] => (.ok ctx, s, [])
  | h :: rest =>
    match { s with hook := some h }.askHook ctx with
    | (.error reason, t) => (.error reason, { t with hook := s.hook }, t.hook.toList ++ rest)
    | (.ok next, t) =>
      let (result, u, asked) := askEach { t with hook := s.hook } next rest
      (result, u, t.hook.toList ++ asked)

theorem askEach_eq (s : Session) (ctx : Context) (hooks : List Hook) :
    s.askEach ctx hooks = ((Hook.beforeAll ctx hooks).2.2, s.note ((Hook.beforeAll ctx hooks).2.1.map .hook),
      (Hook.beforeAll ctx hooks).1) := by
  induction hooks generalizing s ctx with
  | nil => simp [askEach, Hook.beforeAll, note]
  | cons h rest ih =>
    simp only [askEach, askHook, Hook.beforeAll]
    cases (h.before ctx).2.2.apply ctx with
    | error reason => rfl
    | ok next => simp [ih, note]

variable {s : Session} {ctx : Context} {h : Hook}

theorem askHook_leaves (hooked : s.hook = some h) (consistent : ctx.Rewritten ctx) :
    s.askEach ctx h.leaves =
      ((s.askHook ctx).1, { (s.askHook ctx).2 with hook := some h }, (h.before ctx).1.leaves) := by
  rw [askEach_eq, Hook.beforeAll_leaves consistent, askHook_eq]
  simp only [Session.answer, afterAsking, heardBefore, hooked, note]

theorem askHook_rewritten {last : Context} (consistent : ctx.Rewritten ctx)
    (answer : (s.askHook ctx).1 = .ok last) : ctx.Rewritten last := by
  rw [askHook_eq] at answer
  exact Action.apply_rewritten consistent answer

end Session

open Hook in
/-- Grouping hooks into composites changes nothing, whatever the hooks do and remember. A tree that is asked
on a statement of the kind of its text asks its leaves from left to right, on the same statements, and comes
to the same texts and kind or the same reason to stop as when the connection took the action of each leaf
itself. The leaf that aborts is the last to be asked. After the statement every leaf is told once, in order. -/
theorem nesting_invisible {σ : Type} (b : Behavior σ) (h : Hook) (ctx : Context) (m : σ)
    (consistent : ctx.kind = Kind.ofSql ctx.canonicalSql) :
    b.thread ctx m h.leaves =
      ⟨(b.ask ctx m h).calls, (b.ask ctx m h).answer.apply ctx, (b.ask ctx m h).memory⟩ ∧
    (∀ call ∈ (b.ask ctx m h).calls, call.2.kind = Kind.ofSql call.2.canonicalSql) ∧
    (∀ last, (b.ask ctx m h).answer.apply ctx = .ok last →
      last.kind = Kind.ofSql last.canonicalSql ∧ (b.ask ctx m h).calls.map (·.1) = h.leaves) ∧
    (∀ reason, (b.ask ctx m h).answer.apply ctx = .error reason →
      ∃ earlier leaf seen m', (b.ask ctx m h).calls = earlier ++ [(leaf, seen)] ∧
        (b.before leaf seen m').1 = .abort reason ∧ earlier.map (·.1) ++ [leaf] <+: h.leaves) ∧
    (∀ s : Session, s.hook = some h →
      s.askEach ctx h.leaves =
        ((s.askHook ctx).1, { (s.askHook ctx).2 with hook := some h }, (h.before ctx).1.leaves) ∧
      (s.askHook ctx).2.hook = some (h.before ctx).1 ∧
      ∀ last, (s.askHook ctx).1 = .ok last → last.kind = Kind.ofSql last.canonicalSql ∧
        ∀ ready, (Session.Ready.mark ready last).kind =
          Kind.ofSql (Session.Ready.mark ready last).canonicalSql) ∧
    ∀ (ended : Context) (d : Duration) (o : Outcome),
      (∀ m, b.tell ended d o m h = h.leaves.foldl (fun m leaf => b.after leaf ended d o m) m) ∧
      (h.after ended d o).2 = h.leaves.flatMap (fun leaf => (leaf.after ended d o).2) ∧
      (h.after ended d o).1.leaves = h.leaves.map fun leaf => (leaf.after ended d o).1 := by
  have itself : ctx.Rewritten ctx := Context.rewritten_self_iff.mpr consistent
  -- What is known of the round of the leaves is carried over to the tree.
  have round := b.thread_leaves itself m h
  obtain ⟨seen, final⟩ := b.thread_rewritten (m := m) h.leaves itself
  rw [round] at seen final
  refine ⟨round, fun call there => (seen call there).kind, fun last answer => ⟨(final last answer).kind, ?_⟩,
    fun reason answer => ?_, fun s hooked => ⟨Session.askHook_leaves hooked itself, ?_, fun last answer => ?_⟩,
    fun ended d o => ⟨fun m => b.tell_eq ended d o m h, events_after ended d o h, leaves_after ended d o h⟩⟩
  · have whole : (b.thread ctx m h.leaves).answer = .ok last := by rw [round, answer]
    have all := b.thread_calls h.leaves whole
    rwa [round] at all
  · have ended : (b.thread ctx m h.leaves).answer = .error reason := by rw [round, answer]
    have cut := b.thread_aborted h.leaves ended
    rwa [round] at cut
  · simp only [Session.askHook, hooked, Session.note]
  · have kind := (Session.askHook_rewritten itself answer).kind
    exact ⟨kind, fun _ => kind⟩

/-- The first composite changes the text, the second takes the change back. -/
def detour : Hook :=
  .composite [.composite [.editing "" (.append " -- noted"), .record "inner"],
    .composite [.editing "noted" (.set (some "SELECT 1") none), .composite []], .record "outer"]

/-- A change that is taken back in another composite is no change, and all four hooks are asked. -/
theorem nesting_invisible_detour : (Context.ofSql "SELECT 1" 0 "").kind = Kind.ofSql "SELECT 1" ∧
    (detour.before (.ofSql "SELECT 1" 0 "")).2.2 = .proceed ∧
    (Hook.Behavior.own.ask (.ofSql "SELECT 1" 0 "") [] detour).calls.map (·.1) = detour.leaves ∧
    detour.leaves.length = 4 := by
  have back : (detour.before (.ofSql "SELECT 1" 0 "")).2.2 = .proceed := by decide +kernel
  have answer : (Hook.Behavior.own.ask (.ofSql "SELECT 1" 0 "") [] detour).answer = .proceed :=
    (Hook.Behavior.ask_own _ [] detour).1.trans back
  obtain ⟨-, -, all, -⟩ := nesting_invisible Hook.Behavior.own detour (.ofSql "SELECT 1" 0 "") [] rfl
  exact ⟨rfl, back, (all (.ofSql "SELECT 1" 0 "") (by rw [answer]; rfl)).2, by decide +kernel⟩

end RowMapper
