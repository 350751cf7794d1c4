import RowMapper.Proofs.Session.Abiding
import RowMapper.Proofs.Session.Outcomes

/-!
Connections of the pool in the hands of calls and cursors. What is handed out is what is held, one by one; a
call that fails gives back what it took, at whatever stage it was, and a call that succeeds holds on to a
connection only for rows that are still to be read.
-/
namespace RowMapper

/-- A connection that was taken from a pool, with the number of openings there had been by then. -/
structure Hand where
  opening : Nat
  link : Nat
  deriving DecidableEq, Repr

def linksOf (opening : Nat) (hands : List Hand) : List Nat :=
  (hands.filter (·.opening == opening)).map (·.link)

def idleIn (pool? : Option Pool) : List Nat := (pool?.map (·.idle)).getD []

/-- What is handed out is in hand, and no connection is in two places: for the open pool, if there is one, the
number of openings and the number of connections. -/
structure Lends (pool? : Option Pool) (openings links : Nat) (hands : List Hand) : Prop where
  exact : ∀ p, pool? = some p → p.out.Perm (linksOf openings hands)
  distinct : (idleIn pool? ++ hands.map (·.link)).Nodup
  known : ∀ link ∈ idleIn pool? ++ hands.map (·.link), link ≤ links
  past : ∀ h ∈ hands, h.opening ≤ openings

namespace Lends

variable {pool? : Option Pool} {openings links link : Nat} {p : Pool} {h : Hand} {hands hands' : List Hand}

theorem linksOf_cons_same (link : Nat) (hands : List Hand) :
    linksOf openings (⟨openings, link⟩ :: hands) = link :: linksOf openings hands := by
  simp [linksOf]

theorem linksOf_cons_other (other : h.opening ≠ openings) (hands : List Hand) :
    linksOf openings (h :: hands) = linksOf openings hands := by
  simp [linksOf, other]

theorem mem_of_linksOf (there : link ∈ linksOf openings hands) : link ∈ hands.map (·.link) :=
  (List.filter_sublist.map Hand.link).subset there

theorem perm (l : Lends pool? openings links hands) (same : hands.Perm hands') :
    Lends pool? openings links hands' := by
  have places := (same.map Hand.link).append_left (idleIn pool?)
  exact ⟨fun p e => (l.exact p e).trans ((same.filter _).map _), places.nodup_iff.mp l.distinct,
    fun link there => l.known link (places.mem_iff.mpr there), fun k there => l.past k (same.mem_iff.mpr there)⟩

theorem grow {more : Nat} (l : Lends pool? openings links hands) (le : links ≤ more) :
    Lends pool? openings more hands :=
  ⟨l.exact, l.distinct, fun link there => Nat.le_trans (l.known link there) le, l.past⟩

theorem forget (l : Lends pool? openings links (h :: hands))
    (elsewhere : pool?.isSome = true → h.opening ≠ openings) : Lends pool? openings links hands := by
  have fewer : (idleIn pool? ++ hands.map (·.link)).Sublist (idleIn pool? ++ (h :: hands).map (·.link)) :=
    (List.sublist_cons_self h.link _).append_left _
  refine ⟨fun p e => ?_, l.distinct.sublist fewer, fun link there => l.known link (fewer.subset there),
    fun k there => l.past k (List.mem_cons_of_mem h there)⟩
  exact linksOf_cons_other (elsewhere (e ▸ rfl)) hands ▸ l.exact p e

/-- A connection comes back: to the open pool if it is from there, else it is let go. -/
theorem giveBack (l : Lends (some p) openings links (h :: hands)) :
    Lends (some (p.giveBack h.link)) openings links hands := by
  have exact := l.exact p rfl
  by_cases own : h.opening = openings
  · subst own
    rw [linksOf_cons_same] at exact
    have there : p.out.contains h.link = true := by simp [exact.mem_iff]
    have moved : (p.idle ++ [h.link] ++ hands.map (·.link)).Perm (p.idle ++ (h :: hands).map (·.link)) := by
      simp
    simp only [Pool.giveBack, there, if_true]
    refine ⟨fun p' e => ?_, moved.nodup_iff.mpr l.distinct,
      fun link there => l.known link (moved.mem_iff.mp there),
      fun k there => l.past k (List.mem_cons_of_mem h there)⟩
    obtain rfl := Option.some.inj e
    have erased := exact.erase h.link
    rwa [List.erase_cons_head] at erased
  · have absent : p.out.contains h.link = false := by
      have apart := (List.nodup_append.mp l.distinct).2.1
      simp only [List.map_cons, List.nodup_cons] at apart
      rw [linksOf_cons_other own] at exact
      simpa [exact.mem_iff] using fun there => apart.1 (mem_of_linksOf there)
    simp only [Pool.giveBack, absent, Bool.false_eq_true, if_false]
    exact l.forget fun _ => own

theorem thin {idle : List Nat} (l : Lends (some p) openings links hands) (fewer : idle.Sublist p.idle) :
    Lends (some { p with idle := idle }) openings links hands := by
  have less : (idle ++ hands.map (·.link)).Sublist (p.idle ++ hands.map (·.link)) :=
    fewer.append_right _
  refine ⟨fun p' e => ?_, l.distinct.sublist less, fun link there => l.known link (less.subset there), l.past⟩
  obtain rfl := Option.some.inj e
  exact l.exact p rfl

theorem handOut {rest : List Nat} (l : Lends (some p) openings links hands)
    (distinct : (link :: rest ++ hands.map (·.link)).Nodup)
    (known : ∀ k ∈ link :: rest ++ hands.map (·.link), k ≤ links) :
    Lends (some { p with idle := rest, out := p.out ++ [link] }) openings links (⟨openings, link⟩ :: hands) := by
  have moved : (rest ++ (⟨openings, link⟩ :: hands : List Hand).map (·.link)).Perm
      (link :: rest ++ hands.map (·.link)) :=
    List.perm_middle
  refine ⟨fun p' e => ?_, moved.nodup_iff.mpr distinct, fun k there => known k (moved.mem_iff.mp there),
    fun k there => ?_⟩
  · obtain rfl := Option.some.inj e
    rw [linksOf_cons_same]
    exact (List.perm_append_singleton link p.out).trans ((l.exact p rfl).cons link)
  · rcases List.mem_cons.mp there with rfl | there
    · exact Nat.le_refl openings
    · exact l.past k there

theorem checkout (l : Lends (some p) openings links hands) (isClosed : Nat → Bool) :
    match p.checkout isClosed with
    | (.reuse link, q) => Lends (some q) openings links (⟨openings, link⟩ :: hands)
    | (.connect, q) => Lends (some q) openings links hands
    | (.full, _) => True := by
  simp only [Pool.checkout]
  by_cases full : p.max ≤ p.out.length
  · simp only [if_pos full]
  · have left : (p.idle.dropWhile isClosed).Sublist p.idle := (List.dropWhile_suffix isClosed).sublist
    simp only [if_neg full]
    cases idle : p.idle.dropWhile isClosed with
    | nil => exact l.thin (List.nil_sublist p.idle)
    | cons link rest =>
      have fewer : (link :: rest ++ hands.map (·.link)).Sublist (p.idle ++ hands.map (·.link)) :=
        (idle ▸ left).append_right _
      exact l.handOut (l.distinct.sublist fewer) fun k there => l.known k (fewer.subset there)

theorem takeIn (l : Lends (some p) openings links hands) :
    Lends (some (p.takeIn (links + 1))) openings (links + 1) (⟨openings, links + 1⟩ :: hands) := by
  have fresh : links + 1 ∉ p.idle ++ hands.map (·.link) := fun there =>
    Nat.not_succ_le_self links (l.known _ there)
  refine (l.grow (Nat.le_succ links)).handOut (List.nodup_cons.mpr ⟨fresh, l.distinct⟩) fun k there => ?_
  rcases List.mem_cons.mp there with rfl | there
  · exact Nat.le_refl _
  · exact Nat.le_succ_of_le (l.known k there)

theorem close (l : Lends pool? openings links hands) : Lends none openings links hands := by
  have fewer : (idleIn none ++ hands.map (·.link)).Sublist (idleIn pool? ++ hands.map (·.link)) :=
    List.sublist_append_right _ _
  exact ⟨(fun _ e => nomatch e), l.distinct.sublist fewer, fun link there => l.known link (fewer.subset there),
    l.past⟩

/-- A pool is put in place with idle connections that nobody has. What is in hand is not from there. -/
theorem install {max : Nat} {idle : List Nat} (l : Lends none openings links hands)
    (distinct : (idle ++ hands.map (·.link)).Nodup) (known : ∀ k ∈ idle ++ hands.map (·.link), k ≤ links) :
    Lends (some ⟨max, idle, []⟩) (openings + 1) links hands := by
  refine ⟨fun p e => ?_, distinct, known, fun k there => Nat.le_succ_of_le (l.past k there)⟩
  obtain rfl := Option.some.inj e
  have old : hands.filter (·.opening == openings + 1) = [] :=
    List.filter_eq_nil_iff.mpr fun k there => by simpa using Nat.ne_of_lt (Nat.lt_succ_of_le (l.past k there))
  simp [linksOf, old]

end Lends

namespace Session

def Accounted (s : Session) (hands : List Hand) : Prop :=
  Lends s.pooling.2 s.openings s.server.links.length hands

variable {s t : Session} {hands : List Hand} {l : Limits}

theorem Accounted.of_pooling (a : s.Accounted hands) (pooling : t.pooling = s.pooling)
    (links : s.server.links.length ≤ t.server.links.length) : t.Accounted hands := by
  have openings : t.openings = s.openings := congrArg Prod.fst pooling
  rw [Accounted, pooling, openings]
  exact Lends.grow a links

theorem Accounted.abides (a : s.Accounted hands) (k : Abides l s t) : t.Accounted hands :=
  a.of_pooling k.pooling (Nat.le_of_eq k.links.symm)

def handOf (s : Session) (r : Ready) : List Hand := if r.isPooled then [⟨s.openings, r.link⟩] else []

theorem pooling_updatePool (s : Session) (f : Pool → Pool) :
    (s.updateOpened fun o => { o with pool := f o.pool }).pooling.2 = s.pooling.2.map f := by
  simp only [pooling, updateOpened, Option.map_map]
  rfl

theorem pooling_release (s : Session) (link : Nat) :
    (s.release link).pooling.2 = s.pooling.2.map (·.giveBack link) :=
  pooling_updatePool s (·.giveBack link)

theorem Accounted.release {h : Hand} (a : s.Accounted (h :: hands)) : (s.release h.link).Accounted hands := by
  have server : (s.release h.link).server = s.server := rfl
  have openings : (s.release h.link).openings = s.openings := rfl
  rw [Accounted, pooling_release, server, openings]
  rw [Accounted] at a
  cases open? : s.pooling.2 with
  | none =>
    rw [open?] at a
    exact a.forget fun there => nomatch there
  | some p =>
    rw [open?] at a
    exact a.giveBack

theorem Accounted.releaseReady {r : Ready} {opening : Nat}
    (a : s.Accounted ((if r.isPooled then [⟨opening, r.link⟩] else []) ++ hands)) :
    (s.releaseReady r).Accounted hands := by
  simp only [Session.releaseReady]
  cases pooled : r.isPooled <;> rw [pooled] at a
  · exact a
  · exact a.release

/-- What comes of a call that takes connections in hand when it succeeds, and none when it fails. -/
def Takes {α : Type} (hands : List Hand) (taken : α → Session → List Hand) (x : Except Halt α × Session) :
    Prop :=
  match x with
  | (.ok a, t) => t.Accounted (taken a t ++ hands)
  | (.error _, t) => t.Accounted hands

theorem connect_pooling (l : Limits) (s : Session) :
    (s.connect l).2.pooling = s.pooling ∧
      (s.connect l).2.server.links.length = s.server.links.length + 1 := by
  have h := abides_awaitTicket l { s with server := (s.server.connect s.now).2.2 } (s.server.connect s.now).2.1
  have grown := h.links.trans (s.server.length_connect s.now)
  simp only [connect]
  split <;> rename_i e <;> rw [e] at h grown <;> exact ⟨h.pooling, grown⟩

theorem connect_ok {link : Nat} (e : s.connect l = (.ok (.ok link), t)) :
    link = s.server.links.length + 1 := by
  simp only [connect] at e
  split at e <;> cases e
  rfl

theorem Accounted.connect (a : s.Accounted hands) (l : Limits) : (s.connect l).2.Accounted hands := by
  obtain ⟨pooling, grown⟩ := connect_pooling l s
  exact a.of_pooling pooling (Nat.le_of_lt (Nat.lt_of_lt_of_eq (Nat.lt_succ_self _) grown.symm))

theorem setPool_pooling (s : Session) {p : Pool} (open? : s.pooling.2 = some p) (q : Pool) :
    (s.setPool q).pooling.2 = some q := by
  have replaced := pooling_updatePool s fun _ => q
  rwa [open?] at replaced

theorem takes_stall {α : Type} {taken : α → Session → List Hand} (a : s.Accounted hands) (l : Limits) :
    Takes hands taken (s.stall l) := by
  have stalled := abides_pass l s Option.none
  simp only [stall]
  split <;> rename_i e <;> rw [e] at stalled <;> exact a.abides stalled

theorem Accounted.takeIn {p : Pool} {link : Nat} (a : s.Accounted hands) (open? : s.pooling.2 = some p)
    (came : s.connect l = (.ok (.ok link), t)) :
    (t.updateOpened fun o => { o with pool := o.pool.takeIn link }).Accounted (⟨t.openings, link⟩ :: hands) := by
  have kept := connect_pooling l s
  rw [came] at kept
  obtain ⟨pooling, grown⟩ := kept
  have openings : t.openings = s.openings := congrArg Prod.fst pooling
  obtain rfl := connect_ok came
  have placed : (t.updateOpened fun o => { o with pool := o.pool.takeIn (s.server.links.length + 1) }).pooling.2 =
      some (p.takeIn (s.server.links.length + 1)) := by
    rw [pooling_updatePool t (·.takeIn (s.server.links.length + 1)), pooling, open?]
    rfl
  have waiting : Lends (some p) s.openings s.server.links.length hands := open? ▸ a
  have taken := waiting.takeIn
  rw [← openings] at taken
  have links : (t.updateOpened fun o => { o with
      pool := o.pool.takeIn (s.server.links.length + 1) }).server.links.length = s.server.links.length + 1 := grown
  rw [Accounted, placed, links]
  exact taken

theorem Accounted.checkout (a : s.Accounted hands) (l : Limits) :
    Takes hands (fun link t => [⟨t.openings, link⟩]) (s.checkout l) := by
  simp only [Session.checkout]
  cases opened : s.opened with
  | none => exact a
  | some o =>
    have open? : s.pooling.2 = some o.pool := by simp [pooling, opened]
    have asked : Lends (some o.pool) s.openings s.server.links.length hands := open? ▸ a
    have met := asked.checkout (s.server.isClosed s.now)
    have placed {q : Pool} {inHand : List Hand} (l : Lends (some q) s.openings s.server.links.length inHand) :
        (s.setPool q).Accounted inHand := by
      rw [Accounted, setPool_pooling s open?]
      exact l
    simp only
    generalize o.pool.checkout (s.server.isClosed s.now) = x at met
    obtain ⟨link | _ | _, q⟩ := x
    · exact placed met
    · have connected := (placed met).connect l
      simp only
      split <;> rename_i came <;> rw [came] at connected
      · exact connected
      · exact connected
      · exact (placed met).takeIn (setPool_pooling s open? q) came
    · exact takes_stall a l

theorem prepareFresh_ok {link : Nat} {isPooled : Bool} {source : Source} {sql : String} {r : Ready}
    (e : s.prepareFresh l link isPooled source sql = (.ok r, t)) : r.isPooled = isPooled ∧ r.link = link := by
  simp only [prepareFresh] at e
  split at e
  · cases e
  · obtain ⟨same, -⟩ := Prod.mk.inj e
    obtain ⟨p, -, rfl⟩ := map_eq_ok.mp same
    exact ⟨rfl, rfl⟩

theorem prepareLabeled_ok {generation link : Nat} {c : StatementCache} {label sql : String} {r : Ready}
    (e : s.prepareLabeled l generation c link label sql = (.ok r, t)) : r.isPooled = true ∧ r.link = link := by
  have prepares := prepareLabeled_prepares s l generation c link label sql
  rw [e] at prepares
  cases prepares <;> exact ⟨rfl, rfl⟩

theorem prepareOn_ok {label : Option String} {link : Nat} {sql : String} {r : Ready}
    (e : s.prepareOn l label link sql = (.ok r, t)) : r.isPooled = true ∧ r.link = link := by
  simp only [prepareOn] at e
  split at e
  · split at e
    · exact prepareLabeled_ok e
    · exact prepareFresh_ok e
  · exact prepareFresh_ok e

/-- A statement that is ready keeps the connection that was taken for it; else that goes back. -/
theorem Accounted.preparePooled (a : s.Accounted hands) (l : Limits) (label : Option String) (sql : String) :
    Takes hands (fun r t => t.handOf r) (s.preparePooled l label sql) := by
  have taken := a.checkout l
  rw [preparePooled_eq]
  split <;> rename_i e <;> rw [e] at taken
  · exact taken
  · rename_i link u
    have inHand : u.Accounted (⟨u.openings, link⟩ :: hands) := taken
    have prepared := abides_prepareOn l u label link sql
    have openings : (u.prepareOn l label link sql).2.openings = u.openings := congrArg Prod.fst prepared.pooling
    simp only [unlessReady]
    split <;> rename_i e' <;> rw [e'] at prepared openings
    · rename_i ready v
      obtain ⟨pooled, same⟩ := prepareOn_ok e'
      have own : v.handOf ready = [⟨u.openings, link⟩] := by
        simp only [handOf, pooled, same, if_true, List.cons.injEq, Hand.mk.injEq, and_true]
        exact openings
      simp only [Takes, own]
      exact inHand.abides prepared
    · exact (inHand.abides prepared).release

theorem Accounted.prepareStage (a : s.Accounted hands) (c : Call) (l : Limits) (label : Option String)
    (sql : String) : Takes hands (fun r t => t.handOf r) (s.prepareStage c l label sql) := by
  simp only [Session.prepareStage]
  split
  · exact a
  · split
    · rename_i link _
      have fresh := a.abides (abides_prepareFresh l s link false .transaction sql)
      generalize e : s.prepareFresh l link false .transaction sql = x at fresh ⊢
      obtain ⟨h | r, t⟩ := x
      · exact fresh
      · have own : t.handOf r = [] := by simp [handOf, (prepareFresh_ok e).1]
        simp only [Takes, own]
        exact fresh
    · exact a.preparePooled l label sql

theorem Accounted.note (a : s.Accounted hands) (events : List Event) : (s.note events).Accounted hands := a

theorem Accounted.afterAsking (a : s.Accounted hands) (ctx : Context) : (s.afterAsking ctx).Accounted hands := a

theorem Accounted.begin (a : s.Accounted hands) (c : Call) (usual : Option String) (sql : String) (n : Nat) :
    Takes hands (fun b t => t.handOf b.ready) (s.begin c usual sql n) := by
  have begun := begin_begins s c usual sql n
  generalize s.begin c usual sql n = x at begun
  have asked {y : Except String Context} {u : Session}
      (e : s.askHook (s.asked c usual sql n) = (y, u)) : u.Accounted hands := by
    rw [askHook_eq] at e
    exact (Prod.mk.inj e).2 ▸ a.afterAsking _
  cases begun with
  | closed => exact a
  | aborted _ e =>
    have heard := asked e
    exact heard.note _
  | @failed ctx u v h _ e e' =>
    have staged := (asked e).prepareStage c (s.limitsOf c) (c.label <|> usual) ctx.execSql
    rw [e'] at staged
    exact Accounted.abides staged (abides_report (s.limitsOf c) v _ _ _)
  | @ready ctx u v ready _ e e' =>
    have staged := (asked e).prepareStage c (s.limitsOf c) (c.label <|> usual) ctx.execSql
    rwa [e'] at staged

theorem Abides.handOf (k : Abides l s t) (r : Ready) : t.handOf r = s.handOf r := by
  have openings : t.openings = s.openings := congrArg Prod.fst k.pooling
  rw [Session.handOf, openings, Session.handOf]

theorem Accounted.executeReady {b : Begun} (a : s.Accounted (s.handOf b.ready ++ hands)) (values : List Param) :
    (s.executeReady b values).2.Accounted hands :=
  (a.abides ((abides_executeStage s b values).trans (abides_report _ _ b.run _ _))).releaseReady

theorem Accounted.queryReady {b : Begun} (a : s.Accounted (s.handOf b.ready ++ hands)) (values : List Param) :
    Takes hands (fun cursor t => t.handOf cursor.begun.ready) (s.queryReady b values) := by
  have started := abides_runStage s b values
  simp only [Session.queryReady]
  split <;> rename_i e <;> rw [e] at started
  · rename_i feed u
    have opened := started.trans (abides_openCursor _ u feed b)
    have kept := a.abides opened
    rw [← opened.handOf b.ready] at kept
    exact kept
  · exact (a.abides (started.trans (abides_report _ _ b.run _ _))).releaseReady

theorem Accounted.consume {σ : Type} {cursor : Cursor} {opening : Nat}
    (a : s.Accounted ((if cursor.begun.ready.isPooled then [⟨opening, cursor.begun.ready.link⟩] else []) ++ hands))
    (reader : Reader σ) (state : σ) : (s.consume cursor reader state).2.Accounted hands :=
  (a.abides (abides_read s cursor reader state)).releaseReady

theorem Accounted.discard {cursor : Cursor} {opening : Nat}
    (a : s.Accounted ((if cursor.begun.ready.isPooled then [⟨opening, cursor.begun.ready.link⟩] else []) ++ hands)) :
    (s.discard cursor).Accounted hands :=
  Accounted.releaseReady (s := (s.unblock cursor).finish cursor.begun.run.callback) a

theorem Accounted.execute (a : s.Accounted hands) (c : Call) (usual : Option String) (sql : String)
    (values : List Param) : (s.execute c usual sql values).2.Accounted hands := by
  have begun := a.begin c usual sql values.length
  rw [execute_eq]
  split <;> rename_i e <;> rw [e] at begun
  · exact begun
  · exact Accounted.executeReady begun values

theorem Accounted.query (a : s.Accounted hands) (c : Call) (usual : Option String) (sql : String)
    (values : List Param) :
    Takes hands (fun cursor t => t.handOf cursor.begun.ready) (s.query c usual sql values) := by
  have begun := a.begin c usual sql values.length
  rw [query_eq]
  split <;> rename_i e <;> rw [e] at begun
  · exact begun
  · exact Accounted.queryReady begun values

theorem Accounted.account (a : s.Accounted hands) (c : Call) (usual : Option String) (sql : String)
    (values : List Param) (way : Account) : (s.account c usual sql values way).2.Accounted hands := by
  have queried := a.query c usual sql values
  cases way with
  | count give => exact a.execute c usual sql values
  | read reader state give =>
    simp only [Session.account, readAll]
    split <;> rename_i e <;> rw [e] at queried
    · exact queried
    · exact Accounted.consume queried reader state
  | drop give =>
    simp only [Session.account, dropAll]
    split <;> rename_i e <;> rw [e] at queried
    · exact queried
    · exact Accounted.discard queried

/-- An operation that is done leaves nothing in hand, however it ended. -/
theorem Accounted.operate (a : s.Accounted hands) (c : Call) (t : MappedType) (o : Operation) :
    (s.operate c t o).2.Accounted hands := by
  cases drafted : o.draft? t with
  | error e =>
    rw [(operate_refused drafted s c).2]
    exact a.note _
  | ok draft =>
    cases draft with
    | none =>
      rw [operate_idle drafted]
      exact a.note _
    | some d =>
      obtain ⟨way, -, -, accounts⟩ := operate_account drafted
      rw [accounts]
      exact a.account c d.label d.statement.render d.values way

theorem Accounted.prepareOnly (a : s.Accounted hands) (l : Limits) (label sql : String) :
    (s.prepareOnly l label sql).2.Accounted hands := by
  have taken := a.checkout l
  simp only [Session.prepareOnly]
  split
  · rename_i e
    rw [e] at taken
    exact taken
  · rename_i link u generation pool c database username e _
    rw [e] at taken
    have prepared := abides_prepareLabeled l u generation c link label sql
    have inHand : u.Accounted (⟨u.openings, link⟩ :: hands) := taken
    split <;> rename_i e' <;> rw [e'] at prepared <;> exact (inHand.abides prepared).release
  · rename_i e _
    rw [e] at taken
    exact Accounted.release taken

theorem Accounted.close (a : s.Accounted hands) : s.close.Accounted hands := by
  simp only [Session.close]
  split
  · exact a
  · exact Lends.close a

theorem Accounted.clearCache (a : s.Accounted hands) : s.clearCache.Accounted hands := by
  have pooling : s.clearCache.pooling = s.pooling := by
    simp only [Session.clearCache, Session.pooling, updateOpened, Option.map_map]
    rfl
  exact a.of_pooling pooling (Nat.le_refl _)

theorem Accounted.beginTransaction (a : s.Accounted hands) (l : Limits) :
    (s.beginTransaction l).2.Accounted hands := by
  have connected := a.connect l
  simp only [Session.beginTransaction]
  split <;> rename_i e <;> rw [e] at connected
  · exact connected
  · exact connected
  · rename_i link u
    have asked := Accounted.abides connected (abides_ask l u link .begin)
    split <;> rename_i e' <;> rw [e'] at asked <;> exact asked

theorem pooling_installGreeted (s : Session) (dsn : Dsn) (link : Nat) :
    (s.installGreeted dsn link).pooling = (s.openings + 1, some ⟨s.config.maxConnections, [link], []⟩) := by
  simp [installGreeted, pooling, updateOpened, Session.install, Session.note, Pool.empty, Pool.takeIn, Pool.giveBack]

theorem pooling_of_openingDsn {dsn : Dsn} (h : s.openingDsn = .ok dsn) : s.pooling.2 = Option.none := by
  simp only [openingDsn] at h
  split at h
  · cases h
  · rename_i shut
    have none : s.opened = Option.none := by simpa [isOpen] using shut
    simp [pooling, none]

/-- The connection that an opening is tried with is the first of the new pool. -/
theorem Accounted.openPool (a : s.Accounted hands) (l : Limits) : (s.openPool l).2.Accounted hands := by
  have connected := a.connect l
  have kept := connect_pooling l s
  simp only [Session.openPool]
  split
  · exact a
  · rename_i dsn settled
    split <;> rename_i e <;> rw [e] at connected kept
    · exact connected
    · exact connected
    · rename_i link u
      have greeted := abides_greet l u link
      have there := Accounted.abides connected greeted
      split <;> rename_i e' <;> rw [e'] at greeted there
      · exact there
      · rename_i v
        have shut := pooling_of_openingDsn settled
        have known : ∀ k ∈ hands.map (·.link), k ≤ s.server.links.length := fun k there =>
          a.known k (List.mem_append_right _ there)
        have links : v.server.links.length = link :=
          (greeted.links.trans kept.2).trans (connect_ok e).symm
        have pooling : v.pooling = s.pooling := greeted.pooling.trans kept.1
        have closed : Lends Option.none v.openings link hands := by
          rw [Accounted, pooling, shut, links] at there
          exact there
        have server : (v.installGreeted dsn link).server = v.server := rfl
        have opening : (v.installGreeted dsn link).openings = v.openings + 1 := rfl
        rw [Accounted, pooling_installGreeted, server, opening, links]
        have fresh : link ∉ hands.map (·.link) := fun mine =>
          absurd (known link mine) (connect_ok e ▸ Nat.not_succ_le_self _)
        refine closed.install (List.nodup_cons.mpr ⟨fresh, ?_⟩) fun k mine => ?_
        · exact (List.nodup_append.mp closed.distinct).2.1
        · rcases List.mem_cons.mp mine with rfl | mine
          · exact Nat.le_refl k
          · exact closed.known k mine

end Session

end RowMapper
