import Mathlib.Data.List.Nodup
import RowMapper.Buffers
import RowMapper.Proofs.Operation.Keys
import RowMapper.Proofs.Session.Operations

/-!
Buffers that statements are written in. However many are held at a time, and whatever is written in them before they
come back, each is in one place only, and all that are idle are empty. So the text that an operation comes to is that of
its own statement, whatever was written before it or is written meanwhile.
-/
namespace RowMapper

/-! ### Buffers in hand -/

structure Buffers.Clean (b : Buffers) (hands : List Buffer) : Prop where
  fits : b.idle.length ≤ b.maxIdle
  blank : ∀ x ∈ b.idle, x.text = ""
  distinct : ((b.idle ++ hands).map (·.serial)).Nodup
  known : ∀ x ∈ b.idle ++ hands, x.serial < b.made

namespace Buffers.Clean

variable {b : Buffers} {hands hands' : List Buffer} {x : Buffer}

theorem empty (maxIdle : Nat) : (Buffers.empty maxIdle).Clean [] :=
  ⟨Nat.zero_le _, nofun, List.nodup_nil, nofun⟩

theorem perm (h : b.Clean hands) (same : hands.Perm hands') : b.Clean hands' := by
  have places := same.append_left b.idle
  exact ⟨h.fits, h.blank, (places.map _).nodup_iff.mp h.distinct,
    fun x there => h.known x (places.mem_iff.mpr there)⟩

theorem sublist (h : b.Clean hands) (fewer : hands'.Sublist hands) : b.Clean hands' := by
  have places := fewer.append_left b.idle
  exact ⟨h.fits, h.blank, h.distinct.sublist (places.map _), fun x there => h.known x (places.subset there)⟩

theorem take (h : b.Clean hands) : b.take.1.text = "" ∧ b.take.2.Clean (b.take.1 :: hands) := by
  obtain ⟨fits, blank, distinct, known⟩ := h
  rw [Buffers.take]
  split
  · rename_i top rest idle
    rw [idle] at fits blank distinct known
    have moved : (rest ++ top :: hands).Perm (top :: rest ++ hands) := List.perm_middle
    exact ⟨blank top List.mem_cons_self, Nat.le_of_succ_le fits,
      fun x there => blank x (List.mem_cons_of_mem _ there), (moved.map _).nodup_iff.mpr distinct,
      fun x there => known x (moved.mem_iff.mp there)⟩
  · rename_i none
    rw [none, List.nil_append] at distinct known
    -- The serial of the new buffer is above all that there have been.
    have new : b.made ∉ hands.map (·.serial) := fun there => by
      obtain ⟨x, held, same⟩ := List.mem_map.mp there
      exact absurd (known x held) (same ▸ Nat.lt_irrefl _)
    refine ⟨rfl, fits, blank, ?_, ?_⟩
    · rw [none, List.nil_append, List.map_cons]
      exact List.nodup_cons.mpr ⟨new, distinct⟩
    · rw [none, List.nil_append]
      intro x there
      rcases List.mem_cons.mp there with rfl | held
      · exact Nat.lt_succ_self _
      · exact Nat.lt_succ_of_lt (known x held)

/-- Only the serials of what is in hand matter, not what is written there. -/
theorem edited (h : b.Clean hands) (same : hands'.map (·.serial) = hands.map (·.serial)) : b.Clean hands' := by
  have serials : (b.idle ++ hands').map (·.serial) = (b.idle ++ hands).map (·.serial) := by
    rw [List.map_append, List.map_append, same]
  refine ⟨h.fits, h.blank, serials ▸ h.distinct, fun x there => ?_⟩
  have listed : x.serial ∈ (b.idle ++ hands).map (·.serial) := serials ▸ List.mem_map_of_mem there
  obtain ⟨y, place, eq⟩ := List.mem_map.mp listed
  exact eq ▸ h.known y place

theorem giveBack (h : b.Clean (x :: hands)) : (b.giveBack x).Clean hands := by
  rw [Buffers.giveBack]
  split
  · rename_i room
    -- As if it had been emptied in hand, and then put on the others.
    obtain ⟨-, blank, distinct, known⟩ : b.Clean (x.clear :: hands) := h.edited rfl
    have moved : (b.idle ++ x.clear :: hands).Perm (x.clear :: b.idle ++ hands) := List.perm_middle
    refine ⟨room, fun y there => ?_, (moved.map _).nodup_iff.mp distinct,
      fun y there => known y (moved.mem_iff.mpr there)⟩
    rcases List.mem_cons.mp there with rfl | before
    · rfl
    · exact blank y before
  · exact h.sublist (List.sublist_cons_self x hands)

end Buffers.Clean

namespace BufferDesk

variable {d : BufferDesk} {name other : String} {f : String → String}

/-! ### Holders -/

/-- What happens to buffers. Whoever holds one may change what is in it, and may let go of it at any time. -/
inductive Handling where
  | take (name : String)
  | edit (name : String) (f : String → String)
  | drop (name : String)

namespace Handling

def holder : Handling → String
  | .take name | .edit name _ | .drop name => name

def write (name text : String) : Handling := .edit name (· ++ text)

end Handling

def act (d : BufferDesk) : Handling → BufferDesk
  | .take name => d.take name
  | .edit name f => d.edit name f
  | .drop name => d.drop name

def run (d : BufferDesk) (handlings : List Handling) : BufferDesk := handlings.foldl act d

theorem run_append (before after : List Handling) : d.run (before ++ after) = (d.run before).run after :=
  List.foldl_append

/-! ### What each one holds -/

theorem valueOf?_filter_ne (key other : String) (pairs : List (String × Buffer)) :
    valueOf? other (pairs.filter (·.1 != key)) = if key = other then none else valueOf? other pairs := by
  induction pairs with
  | nil => simp [valueOf?]
  | cons p rest ih =>
    obtain ⟨k, v⟩ := p
    rw [List.filter_cons, valueOf?_cons]
    by_cases mine : k = key
    · subst mine
      rw [if_neg (by simp), ih]
      split <;> rfl
    · rw [if_pos (by simpa using mine), valueOf?_cons, ih]
      by_cases same : key = other
      · rw [if_neg (same ▸ mine), if_pos same, if_pos same]
      · rw [if_neg same, if_neg same]

theorem buffer?_drop : (d.drop name).buffer? other = if name = other then none else d.buffer? other := by
  rw [drop]
  split
  · exact valueOf?_filter_ne name other d.held
  · rename_i none
    split
    · rename_i same
      exact same ▸ none
    · rfl

theorem buffer?_take :
    (d.take name).buffer? other = if name = other then some d.buffers.take.1 else d.buffer? other := by
  have kept : (drop ⟨d.buffers.take.2, d.held⟩ name).buffer? other = _ := buffer?_drop
  rw [buffer?, take, valueOf?_cons]
  split
  · rfl
  · rename_i different
    exact kept.trans (if_neg different)

theorem buffer?_edit :
    (d.edit name f).buffer? other = if name = other then (d.buffer? other).map (·.edit f) else d.buffer? other := by
  rw [buffer?, buffer?, edit]
  induction d.held with
  | nil => simp [valueOf?]
  | cons p rest ih =>
    obtain ⟨k, v⟩ := p
    by_cases mine : k = name
    · subst mine
      rw [List.map_cons, if_pos (by simp), valueOf?_cons, valueOf?_cons, ih]
      split <;> rfl
    · rw [List.map_cons, if_neg (by simpa using mine), valueOf?_cons, valueOf?_cons, ih]
      by_cases same : name = other
      · rw [if_neg (same ▸ mine), if_pos same, if_pos same, if_neg (same ▸ mine)]
      · rw [if_neg same, if_neg same]

theorem text?_act_of_other {h : Handling} (different : h.holder ≠ name) : (d.act h).text? name = d.text? name := by
  rw [text?, text?]
  cases h with
  | take holder => exact congrArg _ (buffer?_take.trans (if_neg different))
  | edit holder f => exact congrArg _ (buffer?_edit.trans (if_neg different))
  | drop holder => exact congrArg _ (buffer?_drop.trans (if_neg different))

theorem text?_write (text : String) : (d.act (.write name text)).text? name = (d.text? name).map (· ++ text) := by
  rw [text?, Handling.write, act, buffer?_edit, if_pos rfl, text?, Option.map_map, Option.map_map]
  rfl

/-- What a holder writes in portions stands one after the other, whatever others do meanwhile. -/
theorem text?_run_of_writes (during : List Handling) (portions : List String)
    (own : during.filter (·.holder == name) = portions.map (.write name)) :
    (d.run during).text? name = (d.text? name).map (· ++ String.join portions) := by
  induction during generalizing d portions with
  | nil =>
    cases portions with
    | nil => simp [run]
    | cons portion rest => cases own
  | cons h rest ih =>
    change ((d.act h).run rest).text? name = _
    by_cases mine : h.holder = name
    · rw [List.filter_cons_of_pos (by simpa using mine)] at own
      cases portions with
      | nil => cases own
      | cons portion more =>
        obtain ⟨rfl, later⟩ := List.cons.inj own
        rw [ih more later, text?_write, Option.map_map, String.join_cons]
        simp only [Function.comp_def, String.append_assoc]
    · rw [List.filter_cons_of_neg (by simpa using mine)] at own
      rw [ih portions own, text?_act_of_other mine]

/-! ### All buffers -/

def Clean (d : BufferDesk) : Prop := d.buffers.Clean (d.held.map (·.2))

theorem clean_empty (maxIdle : Nat) : (BufferDesk.empty maxIdle).Clean := Buffers.Clean.empty maxIdle

/-- Letting go of a buffer keeps all in order, also while a further one is in hand. -/
theorem clean_drop (more : List Buffer) (h : d.buffers.Clean (more ++ d.held.map (·.2))) :
    (d.drop name).buffers.Clean (more ++ (d.drop name).held.map (·.2)) := by
  rw [drop]
  split
  · rename_i back found
    obtain ⟨⟨holder, x⟩, listed, rfl⟩ := Option.map_eq_some_iff.mp found
    -- The first one of that name comes back; should there be more, they are no longer in hand.
    obtain ⟨named, before, after, held, -⟩ := List.find?_eq_some_iff_append.mp listed
    rw [held, List.map_append, List.map_cons] at h
    have first : (more ++ (before.map (·.2) ++ x :: after.map (·.2))).Perm
        (x :: (more ++ (before.map (·.2) ++ after.map (·.2)))) :=
      (List.perm_middle.append_left more).trans List.perm_middle
    have fewer : (d.held.filter (·.1 != name)).Sublist (before ++ after) := by
      rw [held, List.filter_append, List.filter_cons_of_neg (by simpa using named)]
      exact List.filter_sublist.append List.filter_sublist
    rw [← List.map_append] at first
    exact (h.perm first).giveBack.sublist ((fewer.map _).append_left more)
  · exact h

theorem Clean.drop (h : d.Clean) : (d.drop name).Clean := clean_drop [] h

theorem Clean.take (h : d.Clean) : (d.take name).Clean :=
  clean_drop (d := ⟨d.buffers.take.2, d.held⟩) [d.buffers.take.1] (Buffers.Clean.take h).2

theorem Clean.edit (h : d.Clean) : (d.edit name f).Clean := by
  refine Buffers.Clean.edited h ?_
  rw [BufferDesk.edit, List.map_map, List.map_map, List.map_map]
  refine List.map_congr_left fun g _ => ?_
  simp only [Function.comp_apply]
  split <;> rfl

theorem Clean.act (h : d.Clean) : ∀ handling, (d.act handling).Clean
  | .take _ => h.take
  | .edit _ _ => h.edit
  | .drop _ => h.drop

theorem Clean.run (h : d.Clean) (handlings : List Handling) : (d.run handlings).Clean := by
  induction handlings generalizing d with
  | nil => exact h
  | cons handling rest ih => exact ih (h.act handling)

theorem Clean.text?_take (h : d.Clean) : (d.act (.take name)).text? name = some "" := by
  rw [text?, BufferDesk.act, buffer?_take, if_pos rfl, Option.map_some, (Buffers.Clean.take h).1]

theorem maxIdle_drop : (d.drop name).buffers.maxIdle = d.buffers.maxIdle := by
  rw [drop]
  split
  · rw [Buffers.giveBack]
    split <;> rfl
  · rfl

theorem maxIdle_act (handling : Handling) : (d.act handling).buffers.maxIdle = d.buffers.maxIdle := by
  have taken : d.buffers.take.2.maxIdle = d.buffers.maxIdle := by
    rw [Buffers.take]
    split <;> rfl
  cases handling with
  | take name => exact (maxIdle_drop (d := ⟨d.buffers.take.2, d.held⟩)).trans taken
  | edit name f => rfl
  | drop name => exact maxIdle_drop

theorem maxIdle_run (handlings : List Handling) : (d.run handlings).buffers.maxIdle = d.buffers.maxIdle := by
  induction handlings generalizing d with
  | nil => rfl
  | cons handling rest ih => exact ih.trans (maxIdle_act handling)

theorem Clean.text?_of_own (h : d.Clean) {during : List Handling} {portions : List String}
    (own : during.filter (·.holder == name) = .take name :: portions.map (.write name)) :
    (d.run during).text? name = some (String.join portions) := by
  obtain ⟨others, rest, rfl, -, -, later⟩ := List.filter_eq_cons_iff.mp own
  rw [run_append]
  change (((d.run others).act (.take name)).run rest).text? name = _
  rw [text?_run_of_writes rest portions later, (h.run others).text?_take, Option.map_some, String.empty_append]

/-! ### Operations at the desk -/

def composing (name text : String) (early late : List Handling) : List Handling :=
  .take name :: (early.filter (·.holder != name) ++ .write name text :: late.filter (·.holder != name))

/-- What goes on at a desk beside a session: a buffer is handled, or an operation writes its statement in one and runs
what then stands there. One that is refused may have handled its buffer until then. -/
inductive Turn where
  | handling (h : Handling)
  | operation (name : String) (early late : List Handling) (c : Call) (t : MappedType) (o : Operation)

def turn (s : Session) (d : BufferDesk) : Turn → Session × BufferDesk
  | .handling h => (s, d.act h)
  | .operation name early late c t o =>
    match o.draft? t with
    | .error _ | .ok none => (s.finish c.callback, (d.run early).drop name)
    | .ok (some draft) =>
      let d := d.run (composing name draft.statement.render early late)
      ((s.carryOut c draft.label ((d.text? name).getD "") draft.values (o.use t)).2, d.drop name)

def serve (s : Session) (d : BufferDesk) : List Turn → Session × BufferDesk
  | [] => (s, d)
  | now :: rest => serve (turn s d now).1 (turn s d now).2 rest

/-- What a turn does to the session where operations have their texts from nowhere else. -/
def Turn.perform (s : Session) : Turn → Session
  | .handling _ => s
  | .operation _ _ _ c t o => s.perform c t o

theorem Clean.text?_composing (h : d.Clean) (text : String) (early late : List Handling) :
    (d.run (composing name text early late)).text? name = some text := by
  have none_own (handlings : List Handling) :
      (handlings.filter (·.holder != name)).filter (·.holder == name) = [] := by
    rw [List.filter_filter, List.filter_eq_nil_iff]
    intro x _
    simp
  have own : (composing name text early late).filter (·.holder == name) = .take name :: [text].map (.write name) := by
    rw [composing, List.filter_cons_of_pos (by simp [Handling.holder]), List.filter_append, none_own,
      List.filter_cons_of_pos (by simp [Handling.holder, Handling.write]), none_own]
    rfl
  rw [h.text?_of_own own, String.join_cons, String.join_nil, String.append_empty]

theorem Clean.turn_fst (h : d.Clean) (s : Session) (now : Turn) : (turn s d now).1 = now.perform s := by
  cases now with
  | handling => rfl
  | operation name early late c t o =>
    rw [Turn.perform, Session.perform_eq, turn]
    cases o.draft? t with
    | error => rfl
    | ok draft? =>
      cases draft? with
      | none => rfl
      | some draft =>
        dsimp only
        rw [h.text?_composing, Option.getD_some]

theorem turn_snd (s : Session) (d : BufferDesk) (now : Turn) : ∃ handlings, (turn s d now).2 = d.run handlings := by
  have dropped (handlings : List Handling) (name : String) :
      (d.run handlings).drop name = d.run (handlings ++ [.drop name]) := by
    rw [run_append]
    rfl
  cases now with
  | handling handling => exact ⟨[handling], rfl⟩
  | operation name early late c t o =>
    rw [turn]
    split <;> exact ⟨_, dropped _ _⟩

theorem Clean.serve (h : d.Clean) (s : Session) (turns : List Turn) :
    (serve s d turns).1 = turns.foldl Turn.perform s ∧
      ∃ handlings, (BufferDesk.serve s d turns).2 = d.run handlings := by
  induction turns generalizing s d with
  | nil => exact ⟨rfl, [], rfl⟩
  | cons now rest ih =>
    obtain ⟨handlings, reached⟩ := turn_snd s d now
    obtain ⟨session, later, desk⟩ := ih (d := (turn s d now).2) (reached ▸ h.run handlings) (turn s d now).1
    refine ⟨?_, handlings ++ later, ?_⟩
    · rw [BufferDesk.serve, session, h.turn_fst, List.foldl_cons]
    · rw [BufferDesk.serve, desk, reached, run_append]

/-- Whatever happened before, no buffer is in two places, and none comes to a holder with anything in it. An operation
that writes its statement in a buffer, in any portions and with any others at work between them, comes to the text of
its own draft. So operations that share a desk leave it in order, and do what they do without one. -/
theorem clean_and_text_of_draft (maxIdle : Nat) (before : List Handling) :
    let d := (BufferDesk.empty maxIdle).run before
    d.buffers.idle.length ≤ maxIdle ∧
    (∀ x ∈ d.buffers.idle, x.text = "" ∧ ∀ h ∈ d.held, x.serial ≠ h.2.serial) ∧
    (d.held.map (·.2.serial)).Nodup ∧
    (∀ name, (d.act (.take name)).text? name = some "") ∧
    (∀ (t : MappedType) (o : Operation) (draft : Draft), o.draft? t = .ok (some draft) →
      ∀ (name : String) (during : List Handling) (portions : List String),
        during.filter (·.holder == name) = .take name :: portions.map (.write name) →
        String.join portions = draft.statement.render →
        (d.run during).text? name = some draft.statement.render ∧
        ∀ text, (d.run during).text? name = some text → ∀ (s : Session) (c : Call),
          s.perform c t o = (s.carryOut c draft.label text draft.values (o.use t)).2) ∧
    ∀ (s : Session) (turns : List Turn),
      (serve s d turns).1 = turns.foldl Turn.perform s ∧
      ∃ handlings, (serve s d turns).2 = (BufferDesk.empty maxIdle).run handlings := by
  intro d
  have clean : d.Clean := (clean_empty maxIdle).run before
  have apart := clean.distinct
  rw [List.map_append, List.map_map] at apart
  obtain ⟨-, held, apart⟩ := List.nodup_append.mp apart
  refine ⟨?_, fun x idle => ⟨clean.blank x idle, fun h there => ?_⟩, held, fun name => clean.text?_take, ?_, ?_⟩
  · have bound := clean.fits
    rwa [maxIdle_run] at bound
  · exact apart _ (List.mem_map_of_mem idle) _ (List.mem_map_of_mem there)
  · intro t o draft drafted name during portions own whole
    have written : (d.run during).text? name = some draft.statement.render :=
      whole ▸ clean.text?_of_own own
    refine ⟨written, fun text read s c => ?_⟩
    obtain rfl := Option.some.inj (written.symm.trans read)
    rw [Session.perform_eq, drafted]
  · intro s turns
    obtain ⟨session, handlings, desk⟩ := clean.serve s turns
    exact ⟨session, before ++ handlings, by rw [desk, run_append]⟩

theorem clean_and_text_of_draft_abandoned :
    ∃ draft, (Operation.getAll []).draft? tenanted = .ok (some draft) ∧
      ((BufferDesk.empty 1).run
          [.take "first", .write "first" "DELETE FROM do", .take "second", .drop "first", .take "third",
            .take "first", .write "first" "SELECT id,body", .write "second" "TRUNCATE docs", .drop "second",
            .write "first" " FROM docs"]).text? "first" = some draft.statement.render := by
  have drafted : (Operation.getAll []).draft? tenanted =
      .ok (some ⟨.selectAll "docs" ["id", "body"], [], some "docs_get_all"⟩) := by decide +kernel
  obtain ⟨-, -, -, -, texts, -⟩ := clean_and_text_of_draft 1
    [.take "first", .write "first" "DELETE FROM do", .take "second", .drop "first"]
  exact ⟨_, drafted, (texts tenanted (.getAll []) _ drafted "first"
    [.take "third", .take "first", .write "first" "SELECT id,body", .write "second" "TRUNCATE docs",
      .drop "second", .write "first" " FROM docs"] ["SELECT id,body", " FROM docs"] rfl (by decide +kernel)).1⟩

end BufferDesk

end RowMapper
