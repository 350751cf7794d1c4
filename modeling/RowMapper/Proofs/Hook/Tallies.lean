import RowMapper.Hook.Basic

/-!
The tallies of a hook only count. What a hook answers does not depend on them, and hearing of a statement
changes nothing else in a hook.
-/
namespace RowMapper.Hook

mutual
theorem before_reset (ctx : Context) : (h : Hook) →
    before ctx h.reset = ((before ctx h).1.reset, (before ctx h).2)
  | .idle | .record _ | .rule _ _ | .trace _ => rfl
  | .stats counters => rfl
  | .composite hooks => by
    rw [reset, before, before, beforeAll_resetAll ctx hooks]
    obtain ⟨hooks', events, result⟩ := beforeAll ctx hooks
    cases result <;> rfl

theorem beforeAll_resetAll (ctx : Context) : (hooks : List Hook) →
    beforeAll ctx (resetAll hooks) = (resetAll (beforeAll ctx hooks).1, (beforeAll ctx hooks).2)
  | [] => rfl
  | h :: rest => by
    rw [resetAll, beforeAll, beforeAll, before_reset ctx h]
    obtain ⟨h', events, action⟩ := before ctx h
    dsimp only
    cases action.apply ctx with
    | error reason => rfl
    | ok next =>
      dsimp only
      rw [beforeAll_resetAll next rest]
      rfl
end

mutual
theorem reset_after (ctx : Context) (duration : Duration) (outcome : Outcome) :
    (h : Hook) → (after ctx duration outcome h).1.reset = h.reset
  | .idle | .record _ | .rule _ _ | .trace _ => by rw [after]; all_goals simp
  | .stats counters => by rw [after, reset, reset]
  | .composite hooks => by
    rw [after, reset, reset, resetAll_afterAll ctx duration outcome hooks]

theorem resetAll_afterAll (ctx : Context) (duration : Duration) (outcome : Outcome) :
    (hooks : List Hook) → resetAll (afterAll ctx duration outcome hooks).1 = resetAll hooks
  | [] => by rw [afterAll]
  | h :: rest => by
    rw [afterAll, resetAll, resetAll, reset_after ctx duration outcome h,
      resetAll_afterAll ctx duration outcome rest]
end

theorem before_eq_of_reset_eq {h h' : Hook} (same : h.reset = h'.reset) (ctx : Context) :
    (before ctx h).1.reset = (before ctx h').1.reset ∧ (before ctx h).2 = (before ctx h').2 := by
  have alike := (before_reset ctx h).symm.trans ((congrArg (before ctx) same).trans (before_reset ctx h'))
  exact Prod.mk.inj alike

end RowMapper.Hook
