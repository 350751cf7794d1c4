import Mathlib.Data.List.Perm.Basic
import RowMapper.Proofs.Session.Lending

/-!
Sessions with the cursors that are held on them, through any calls with any ends. The connections that the
pool has handed out between calls are those of the cursors that are held, one for each.
-/
namespace RowMapper

/-- A session with the cursors that nobody has read or dropped yet, each with the number of openings there had
been when its rows were left to it. -/
structure Desk where
  session : Session
  held : List (Nat × Cursor)

namespace Desk

/-- One call. The one who reads or drops a cursor may have any patience of their own. -/
inductive Turn : Desk → Desk → Prop where
  | operate (s : Session) (held : List (Nat × Cursor)) (c : Call) (t : MappedType) (o : Operation) :
    Turn ⟨s, held⟩ ⟨(s.operate c t o).2, held⟩
  | execute (s : Session) (held : List (Nat × Cursor)) (c : Call) (usual : Option String) (sql : String)
    (values : List Param) : Turn ⟨s, held⟩ ⟨(s.execute c usual sql values).2, held⟩
  | query {s t : Session} {cursor : Cursor} (held : List (Nat × Cursor)) (c : Call) (usual : Option String)
    (sql : String) (values : List Param) : s.query c usual sql values = (.ok cursor, t) →
      Turn ⟨s, held⟩ ⟨t, (t.openings, cursor) :: held⟩
  | failQuery {s t : Session} {h : Halt} (held : List (Nat × Cursor)) (c : Call) (usual : Option String)
    (sql : String) (values : List Param) : s.query c usual sql values = (.error h, t) →
      Turn ⟨s, held⟩ ⟨t, held⟩
  | read {σ : Type} (s : Session) {held : List (Nat × Cursor)} {place opening : Nat} {cursor : Cursor}
    (patience : Option Instant) (reader : Reader σ) (state : σ) : held[place]? = some (opening, cursor) →
      Turn ⟨s, held⟩ ⟨(s.consume (cursor.withPatience patience) reader state).2, held.eraseIdx place⟩
  | drop (s : Session) {held : List (Nat × Cursor)} {place opening : Nat} {cursor : Cursor} :
    held[place]? = some (opening, cursor) → Turn ⟨s, held⟩ ⟨s.discard cursor, held.eraseIdx place⟩
  | prepare (s : Session) (held : List (Nat × Cursor)) (l : Limits) (label sql : String) :
    Turn ⟨s, held⟩ ⟨(s.prepareOnly l label sql).2, held⟩
  | invalidate (s : Session) (held : List (Nat × Cursor)) (label : String) :
    Turn ⟨s, held⟩ ⟨(s.invalidate label).2, held⟩
  | clearCache (s : Session) (held : List (Nat × Cursor)) : Turn ⟨s, held⟩ ⟨s.clearCache, held⟩
  | beginTransaction (s : Session) (held : List (Nat × Cursor)) (l : Limits) :
    Turn ⟨s, held⟩ ⟨(s.beginTransaction l).2, held⟩
  | openPool (s : Session) (held : List (Nat × Cursor)) (l : Limits) : Turn ⟨s, held⟩ ⟨(s.openPool l).2, held⟩
  | close (s : Session) (held : List (Nat × Cursor)) : Turn ⟨s, held⟩ ⟨s.close, held⟩
  | sleep (s : Session) (held : List (Nat × Cursor)) (l : Limits) (d : Duration) :
    Turn ⟨s, held⟩ ⟨(s.sleep l d).2, held⟩
  | settle (s : Session) (held : List (Nat × Cursor)) : Turn ⟨s, held⟩ ⟨s.settle, held⟩

inductive Reachable : Desk → Prop where
  | closed (config : Config) (hook : Option Hook) (rules : List Rule) (startups : List StartupStep) :
    Reachable ⟨.closed config hook (.ofScript rules startups), []⟩
  | ofPool (config : Config) (hook : Option Hook) (rules : List Rule) (startups : List StartupStep) :
    Reachable ⟨.ofPool config hook (.ofScript rules startups), []⟩
  | turn {d e : Desk} : Reachable d → Turn d e → Reachable e

def hand (h : Nat × Cursor) : List Hand :=
  if h.2.begun.ready.isPooled then [⟨h.1, h.2.begun.ready.link⟩] else []

def Accounted (d : Desk) : Prop := d.session.Accounted (d.held.flatMap hand)

variable {d e : Desk} {held : List (Nat × Cursor)}

theorem hands_perm {place : Nat} {h : Nat × Cursor} (there : held[place]? = some h) :
    (held.flatMap hand).Perm (hand h ++ (held.eraseIdx place).flatMap hand) := by
  obtain ⟨inside, rfl⟩ := List.getElem?_eq_some_iff.mp there
  exact ((List.getElem_cons_eraseIdx_perm inside).flatMap_right hand).symm

theorem Accounted.turn (a : d.Accounted) (step : Turn d e) : e.Accounted := by
  cases step with
  | operate s held c t o => exact Session.Accounted.operate a c t o
  | execute s held c usual sql values => exact Session.Accounted.execute a c usual sql values
  | query held c usual sql values came =>
    have queried := Session.Accounted.query a c usual sql values
    rw [came] at queried
    exact queried
  | failQuery held c usual sql values came =>
    have queried := Session.Accounted.query a c usual sql values
    rw [came] at queried
    exact queried
  | @read σ s held place opening cursor patience reader state there =>
    have first := Lends.perm a (hands_perm there)
    have inHand : s.Accounted (hand (opening, cursor.withPatience patience) ++
        (held.eraseIdx place).flatMap hand) := first
    exact inHand.consume reader state
  | drop s there => exact Session.Accounted.discard (Lends.perm a (hands_perm there))
  | prepare s held l label sql => exact Session.Accounted.prepareOnly a l label sql
  | invalidate s held label =>
    exact Session.Accounted.abides a (Session.abides_invalidate (.patient none) s label)
  | clearCache s held => exact Session.Accounted.clearCache a
  | beginTransaction s held l => exact Session.Accounted.beginTransaction a l
  | openPool s held l => exact Session.Accounted.openPool a l
  | close s held => exact Session.Accounted.close a
  | sleep s held l d =>
    have passed := Session.abides_pass l s (some (s.now + d.nanos))
    exact Session.Accounted.abides a passed
  | settle s held =>
    have settled : Session.Abides (.patient none) s s.settle := Session.abides_advance (.refl _ s.now)
    exact Session.Accounted.abides a settled

theorem accounted_of_reachable (reached : Reachable d) : d.Accounted := by
  induction reached with
  | closed config hook rules startups =>
    exact ⟨(fun _ e => nomatch e), List.nodup_nil, (fun _ there => nomatch there), fun _ there => nomatch there⟩
  | ofPool config hook rules startups =>
    refine ⟨fun p e => ?_, List.nodup_nil, (fun _ there => nomatch there), fun _ there => nomatch there⟩
    obtain rfl := Option.some.inj e
    exact List.Perm.nil
  | turn _ step ih => exact ih.turn step

def heldOfPool (d : Desk) : List Cursor :=
  (d.held.filter fun h => h.2.begun.ready.isPooled && h.1 == d.session.openings).map (·.2)

theorem linksOf_hands (opening : Nat) (held : List (Nat × Cursor)) :
    linksOf opening (held.flatMap hand) =
      ((held.filter fun h => h.2.begun.ready.isPooled && h.1 == opening).map (·.2)).map
        (·.begun.ready.link) := by
  induction held with
  | nil => rfl
  | cons h rest ih =>
    rw [List.flatMap_cons, linksOf, List.filter_append, List.map_append, ← linksOf, ← linksOf, ih]
    cases pooled : h.2.begun.ready.isPooled <;> cases own : h.1 == opening <;> simp [hand, linksOf, pooled, own]

/-- However the calls so far ended, the connections that the pool has handed out are those of the cursors that
were obtained from it and not read or dropped yet, one for each. -/
theorem lent_to_cursors (reached : Reachable d) {o : Opened} (opened : d.session.opened = some o) :
    o.pool.out.Perm (d.heldOfPool.map (·.begun.ready.link)) ∧ o.pool.out.Nodup := by
  have a := accounted_of_reachable reached
  have exact := a.exact o.pool (by simp [Session.pooling, opened])
  have fewer : (linksOf d.session.openings (d.held.flatMap hand)).Sublist ((d.held.flatMap hand).map (·.link)) :=
    List.filter_sublist.map _
  have once := (List.nodup_append.mp a.distinct).2.1.sublist fewer
  exact ⟨linksOf_hands d.session.openings d.held ▸ exact, exact.nodup_iff.mpr once⟩

def panicking : Reader Unit := Reader.every fun _ _ _ => ((), .error (.panic (.text "boom")))

def oneRow : Session := Session.twoLabels [{ RunStep.quiet with rows := [[none]] }]

/-- Of two cursors the older one is held; the consumer of the other panicked. -/
theorem lent_to_cursors_panicked :
    ∃ d o, Reachable d ∧ d.session.opened = some o ∧ o.pool.out.Perm (d.heldOfPool.map (·.begun.ready.link)) ∧
      d.heldOfPool.map (·.begun.ready.link) = [1] ∧ o.pool.idle = [2] := by
  obtain ⟨first, second, s, t, begun, again, rest⟩ : ∃ first second s t,
      oneRow.query Call.plain none "SELECT 1" [] = (.ok first, s) ∧
        s.query Call.plain none "SELECT 1" [] = (.ok second, t) ∧
        ∃ o, (t.consume (second.withPatience none) panicking ()).2.opened = some o ∧ o.pool.idle = [2] ∧
          (Desk.mk (t.consume (second.withPatience none) panicking ()).2
            [(s.openings, first)]).heldOfPool.map (·.begun.ready.link) = [1] :=
    ⟨_, _, _, _, rfl, rfl, _, rfl, rfl, rfl⟩
  obtain ⟨o, opened, idle, held⟩ := rest
  have newest : [(t.openings, second), (s.openings, first)][0]? = some (t.openings, second) := rfl
  have reached := (((Reachable.ofPool _ _ _ _).turn (.query [] Call.plain none "SELECT 1" [] begun)).turn
    (.query _ Call.plain none "SELECT 1" [] again)).turn (.read t none panicking () newest)
  exact ⟨_, o, reached, opened, (lent_to_cursors reached opened).1, held, idle⟩

end Desk

end RowMapper
