/-!
Results that may be failures. What came out well has come out well in all its parts.
-/
namespace RowMapper

variable {ε α β : Type}

theorem bind_eq_ok {x : Except ε α} {f : α → Except ε β} {b : β} :
    x >>= f = .ok b ↔ ∃ a, x = .ok a ∧ f a = .ok b := by
  cases x with
  | error e => simp [bind, Except.bind]
  | ok a => simp [bind, Except.bind]

theorem bind_eq_error {x : Except ε α} {f : α → Except ε β} {e : ε} :
    x >>= f = .error e ↔ x = .error e ∨ ∃ a, x = .ok a ∧ f a = .error e := by
  cases x with
  | error e' => simp [bind, Except.bind]
  | ok a => simp [bind, Except.bind]

theorem map_eq_ok {x : Except ε α} {f : α → β} {b : β} :
    x.map f = .ok b ↔ ∃ a, x = .ok a ∧ f a = b := by
  cases x with
  | error e => simp [Except.map]
  | ok a => simp [Except.map]

theorem some_of_map {x : Except ε α} {a : α} (h : x.map some = .ok (some a)) : x = .ok a := by
  obtain ⟨b, rfl, same⟩ := map_eq_ok.mp h
  rw [Option.some.inj same]

theorem map_eq_error {x : Except ε α} {f : α → β} {e : ε} : x.map f = .error e ↔ x = .error e := by
  cases x with
  | error e' => simp [Except.map]
  | ok a => simp [Except.map]

theorem mapM_ok_of_forall {f : α → Except ε β} {xs : List α} (h : ∀ x ∈ xs, ∃ y, f x = .ok y) :
    ∃ ys, xs.mapM f = .ok ys := by
  induction xs with
  | nil => exact ⟨[], rfl⟩
  | cons x xs ih =>
    obtain ⟨⟨y, hx⟩, others⟩ := List.forall_mem_cons.mp h
    obtain ⟨rest, hxs⟩ := ih others
    exact ⟨y :: rest, by rw [List.mapM_cons, hx, hxs]; rfl⟩

theorem mapM_ok_getElem? {f : α → Except ε β} {xs : List α} {ys : List β} (h : xs.mapM f = .ok ys) :
    ys.length = xs.length ∧ ∀ (i : Nat) (x : α), xs[i]? = some x → ∃ y, ys[i]? = some y ∧ f x = .ok y := by
  induction xs generalizing ys with
  | nil =>
    obtain rfl : [] = ys := Except.ok.inj h
    simp
  | cons x xs ih =>
    rw [List.mapM_cons] at h
    obtain ⟨y, hx, h⟩ := bind_eq_ok.mp h
    obtain ⟨rest, hxs, h⟩ := bind_eq_ok.mp h
    obtain rfl : y :: rest = ys := Except.ok.inj h
    obtain ⟨length, each⟩ := ih hxs
    refine ⟨by simp [length], fun i z hz => ?_⟩
    cases i with
    | zero =>
      obtain rfl : x = z := Option.some.inj hz
      exact ⟨y, rfl, hx⟩
    | succ i => exact each i z hz

def FirstFailure (f : α → Except ε β) (xs : List α) (e : ε) : Prop :=
  ∃ front x back, xs = front ++ x :: back ∧ (∀ y ∈ front, ∃ b, f y = .ok b) ∧ f x = .error e

theorem firstFailure_cons {f : α → Except ε β} {x : α} {xs : List α} {e : ε} :
    FirstFailure f (x :: xs) e ↔ f x = .error e ∨ (∃ b, f x = .ok b) ∧ FirstFailure f xs e := by
  constructor
  · rintro ⟨front, y, back, split, well, failed⟩
    cases front with
    | nil =>
      obtain ⟨rfl, -⟩ := List.cons.inj split
      exact .inl failed
    | cons z front =>
      obtain ⟨rfl, rfl⟩ := List.cons.inj split
      obtain ⟨first, others⟩ := List.forall_mem_cons.mp well
      exact .inr ⟨first, front, y, back, rfl, others, failed⟩
  · rintro (failed | ⟨first, front, y, back, rfl, well, failed⟩)
    · exact ⟨[], x, xs, rfl, fun _ none => absurd none List.not_mem_nil, failed⟩
    · exact ⟨x :: front, y, back, rfl, List.forall_mem_cons.mpr ⟨first, well⟩, failed⟩

theorem mapM_eq_error {f : α → Except ε β} {xs : List α} {e : ε} :
    xs.mapM f = .error e ↔ FirstFailure f xs e := by
  induction xs with
  | nil =>
    refine iff_of_false (fun failed => by cases failed) ?_
    rintro ⟨front, x, back, split, -⟩
    simp at split
  | cons x xs ih =>
    rw [List.mapM_cons, bind_eq_error, firstFailure_cons, ← ih]
    refine or_congr_right ⟨?_, ?_⟩
    · rintro ⟨b, first, later⟩
      refine ⟨⟨b, first⟩, ?_⟩
      rcases bind_eq_error.mp later with failed | ⟨_, -, done⟩
      · exact failed
      · cases done
    · rintro ⟨⟨b, first⟩, failed⟩
      exact ⟨b, first, bind_eq_error.mpr (.inl failed)⟩

theorem exists_firstFailure {f : α → Except ε β} {xs : List α} :
    (∃ e, FirstFailure f xs e) ↔ ∃ x ∈ xs, ∃ e, f x = .error e := by
  constructor
  · rintro ⟨e, front, x, back, rfl, -, failed⟩
    exact ⟨x, by simp, e, failed⟩
  · rintro ⟨x, hx, e, failed⟩
    cases mapped : xs.mapM f with
    | error e => exact ⟨e, mapM_eq_error.mp mapped⟩
    | ok ys =>
      obtain ⟨i, hi⟩ := List.mem_iff_getElem?.mp hx
      obtain ⟨y, -, well⟩ := (mapM_ok_getElem? mapped).2 i x hi
      rw [failed] at well
      cases well

theorem mapM_flatMap {γ : Type} {f : α → List β} {g : β → Except ε γ} {xs : List α} :
    (xs.flatMap f).mapM g = (xs.mapM fun x => (f x).mapM g).map List.flatten := by
  induction xs with
  | nil => rfl
  | cons x xs ih =>
    rw [List.flatMap_cons, List.mapM_append, List.mapM_cons, ih]
    cases (f x).mapM g with
    | error e => rfl
    | ok ys => cases xs.mapM fun x => (f x).mapM g <;> rfl

end RowMapper
