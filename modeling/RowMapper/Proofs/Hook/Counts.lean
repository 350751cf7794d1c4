import Mathlib.Data.Int.ModEq
import Mathlib.Data.List.Induction
import RowMapper.Hook.Basic

/-!
A hook that counts, against the statements that it has heard of since it was reset last. Each statement moves every
count by what it adds to the list; so the counts are those of the list, in words, whatever was heard before.
-/
namespace RowMapper

structure Heard where
  context : Context
  duration : Duration
  outcome : Outcome
  deriving DecidableEq, Repr, Inhabited

namespace Heard

def source (e : Heard) : Option String := valueOf? Tally.sourceKey e.context.fields

/-- The duration as far as one word holds it. -/
def nanos (e : Heard) : Nat := min e.duration.nanos (UInt64.size - 1)

/-- It came neither from the cache nor into it. -/
def bypasses (e : Heard) : Bool := e.source.isSome && e.source != some "hit" && e.source != some "miss"

end Heard

inductive Tallying where
  | hear (e : Heard)
  | reset

def Hook.tallying (h : Hook) : Tallying → Hook
  | .hear e => (h.after e.context e.duration e.outcome).1
  | .reset => h.reset

def heardSince (steps : List Tallying) : List Heard :=
  steps.foldl (fun heard step => match step with
    | .hear e => heard ++ [e]
    | .reset => []) []

def longest (lengths : List Nat) : Nat := lengths.foldr max 0

/-- The text of the first statement that took longest, if any took some time. -/
def slowest? (heard : List Heard) : Option String :=
  if longest (heard.map (·.nanos)) = 0 then none
  else (heard.find? (·.nanos == longest (heard.map (·.nanos)))).map (·.context.canonicalSql)

/-- The counts are those of what was heard, as far as the relation tells. -/
structure Tally.Reflects (same : Nat → Nat → Prop) (heard : List Heard) (t : Tally) : Prop where
  total : same t.total heard.length
  failed : same t.failed (heard.countP (·.outcome.isFailed))
  selects : same t.selects (heard.countP (·.context.kind == .select))
  inserts : same t.inserts (heard.countP (·.context.kind == .insert))
  updates : same t.updates (heard.countP (·.context.kind == .update))
  deletes : same t.deletes (heard.countP (·.context.kind == .delete))
  others : same t.total
    (t.selects + t.inserts + t.updates + t.deletes + heard.countP (·.context.kind == .other))
  hits : same t.hits (heard.countP (·.source == some "hit"))
  misses : same t.misses (heard.countP (·.source == some "miss"))
  bypasses : same t.bypasses (heard.countP (·.bypasses))
  sources : same (t.hits + t.misses + t.bypasses) (heard.countP (·.source.isSome))

variable {heard : List Heard} {e : Heard} {c : Counters}

theorem longest_append (lengths : List Nat) (n : Nat) : longest (lengths ++ [n]) = max (longest lengths) n := by
  induction lengths with
  | nil => simp [longest]
  | cons m rest ih =>
    simp only [longest, List.cons_append, List.foldr_cons] at ih ⊢
    rw [ih, Nat.max_assoc]

theorem le_longest {lengths : List Nat} {n : Nat} (there : n ∈ lengths) : n ≤ longest lengths := by
  induction lengths with
  | nil => cases there
  | cons m rest ih =>
    simp only [longest, List.foldr_cons] at ih ⊢
    rcases List.mem_cons.mp there with rfl | later
    · exact Nat.le_max_left _ _
    · exact Nat.le_trans (ih later) (Nat.le_max_right _ _)

theorem longest_mem {lengths : List Nat} (some_time : longest lengths ≠ 0) : longest lengths ∈ lengths := by
  induction lengths with
  | nil => exact absurd rfl some_time
  | cons m rest ih =>
    simp only [longest, List.foldr_cons] at ih some_time ⊢
    rcases Nat.le_total (rest.foldr max 0) m with shorter | longer
    · rw [Nat.max_eq_left shorter]
      exact List.mem_cons_self
    · rw [Nat.max_eq_right longer] at some_time ⊢
      exact List.mem_cons_of_mem m (ih some_time)

theorem longest_nanos (heard : List Heard) :
    longest (heard.map (·.nanos)) = min (longest (heard.map (·.duration.nanos))) (UInt64.size - 1) := by
  induction heard with
  | nil => rfl
  | cons e rest ih =>
    simp only [longest, List.map_cons, List.foldr_cons, Heard.nanos] at ih ⊢
    rw [ih]
    omega

theorem slowest?_of_longer (longer : longest (heard.map (·.nanos)) < e.nanos) :
    slowest? (heard ++ [e]) = some e.context.canonicalSql := by
  have shorter : heard.find? (·.nanos == e.nanos) = none := by
    rw [List.find?_eq_none]
    intro d there
    have bound : d.nanos ≤ longest (heard.map (·.nanos)) := le_longest (List.mem_map_of_mem there)
    have other : d.nanos ≠ e.nanos := by omega
    simpa using other
  rw [slowest?, List.map_append, List.map_singleton, longest_append, Nat.max_eq_right (Nat.le_of_lt longer),
    if_neg (by omega), List.find?_append, shorter]
  simp

theorem slowest?_of_not_longer (not_longer : e.nanos ≤ longest (heard.map (·.nanos))) :
    slowest? (heard ++ [e]) = slowest? heard := by
  rw [slowest?, List.map_append, List.map_singleton, longest_append, Nat.max_eq_left not_longer, slowest?]
  split
  · rfl
  · rename_i some_time
    obtain ⟨d, there, length⟩ := List.mem_map.mp (longest_mem some_time)
    have found : (heard.find? (·.nanos == longest (heard.map (·.nanos)))).isSome := by
      rw [List.find?_isSome]
      exact ⟨d, there, beq_iff_eq.mpr length⟩
    obtain ⟨first, first_found⟩ := Option.isSome_iff_exists.mp found
    rw [List.find?_append, first_found, Option.some_or]

theorem countP_kinds (heard : List Heard) :
    heard.countP (·.context.kind == .select) + heard.countP (·.context.kind == .insert) +
        heard.countP (·.context.kind == .update) + heard.countP (·.context.kind == .delete) +
        heard.countP (·.context.kind == .other) = heard.length := by
  induction heard with
  | nil => rfl
  | cons e rest ih =>
    simp only [List.countP_cons, List.length_cons]
    cases e.context.kind <;> simp <;> omega

theorem countP_sources (heard : List Heard) :
    heard.countP (·.source == some "hit") + heard.countP (·.source == some "miss") +
        heard.countP (·.bypasses) = heard.countP (·.source.isSome) := by
  induction heard with
  | nil => rfl
  | cons e rest ih =>
    have one : (if e.source == some "hit" then 1 else 0) + (if e.source == some "miss" then 1 else 0) +
        (if e.bypasses then 1 else 0) = if e.source.isSome then 1 else 0 := by
      rw [Heard.bypasses]
      cases e.source with
      | none => rfl
      | some source =>
        by_cases hit : source = "hit"
        · simp [hit]
        · by_cases miss : source = "miss" <;> simp [hit, miss]
    simp only [List.countP_cons]
    omega

namespace Counters

def tick (there : Bool) (n : UInt64) : UInt64 := if there then n + 1 else n

theorem tick_countP {n : UInt64} {p : Heard → Bool} (counted : n = .ofNat (heard.countP p)) (e : Heard) :
    tick (p e) n = .ofNat ((heard ++ [e]).countP p) := by
  rw [counted, List.countP_append, List.countP_singleton, tick]
  split
  · exact (UInt64.ofNat_add _ _).symm
  · rfl

theorem toNat_largest : largest.toNat = UInt64.size - 1 := by decide

theorem toNat_ofNat (n : Nat) : (ofNat n).toNat = min n (UInt64.size - 1) := by
  rw [ofNat]
  split
  · rename_i fits
    rw [UInt64.toNat_ofNat_of_lt' fits]
    omega
  · rw [toNat_largest]
    omega

/-- The sum stops at the largest word, and stays there. -/
theorem toNat_addNanos (c : Counters) (nanos : UInt64) :
    (c.addNanos nanos).totalNanos.toNat = min (c.totalNanos.toNat + nanos.toNat) (UInt64.size - 1) := by
  rw [addNanos, checkedSum]
  split <;> rename_i sum
  · have fits : c.totalNanos.toNat + nanos.toNat < UInt64.size := by
      by_contra beyond
      rw [if_neg beyond] at sum
      cases sum
    rw [UInt64.toNat_add, Nat.mod_eq_of_lt fits]
    omega
  · have beyond : ¬ c.totalNanos.toNat + nanos.toNat < UInt64.size := by
      intro fits
      rw [if_pos fits] at sum
      cases sum
    rw [toNat_largest]
    omega

theorem addNanos_eq (c : Counters) (nanos : UInt64) :
    c.addNanos nanos = { c with totalNanos := (c.addNanos nanos).totalNanos } := by
  rw [addNanos]
  split <;> rfl

theorem addKind_eq (c : Counters) (k : Kind) :
    c.addKind k = { c with
      selects := tick (k == .select) c.selects
      inserts := tick (k == .insert) c.inserts
      updates := tick (k == .update) c.updates
      deletes := tick (k == .delete) c.deletes } := by
  cases k <;> rfl

theorem addSource_eq (c : Counters) (e : Heard) :
    c.addSource e.source = { c with
      hits := tick (e.source == some "hit") c.hits
      misses := tick (e.source == some "miss") c.misses
      bypasses := tick e.bypasses c.bypasses } := by
  rw [Heard.bypasses]
  cases e.source with
  | none => rfl
  | some source =>
    rw [addSource]
    by_cases hit : source = "hit"
    · subst hit
      rfl
    · by_cases miss : source = "miss"
      · subst miss
        rfl
      · simp [hit, miss, tick]

theorem addFailure_eq (c : Counters) (outcome : Outcome) :
    c.addFailure outcome = { c with failed := tick outcome.isFailed c.failed } := by
  rw [addFailure, tick]
  split <;> rfl

def hear (c : Counters) (e : Heard) : Counters := c.count e.context e.duration e.outcome

theorem raise_eq (c : Counters) (nanos : UInt64) (sql : String) :
    c.raise nanos sql = { c with
      maxNanos := if c.maxNanos < nanos then nanos else c.maxNanos
      slowest := if c.maxNanos < nanos then some sql else c.slowest } := by
  rw [raise]
  split <;> rfl

theorem hear_eq (c : Counters) (e : Heard) :
    c.hear e =
      { total := c.total + 1
        failed := tick e.outcome.isFailed c.failed
        totalNanos := (c.addNanos (ofNat e.duration.nanos)).totalNanos
        selects := tick (e.context.kind == .select) c.selects
        inserts := tick (e.context.kind == .insert) c.inserts
        updates := tick (e.context.kind == .update) c.updates
        deletes := tick (e.context.kind == .delete) c.deletes
        maxNanos := if c.maxNanos < ofNat e.duration.nanos then ofNat e.duration.nanos else c.maxNanos
        slowest := if c.maxNanos < ofNat e.duration.nanos then some e.context.canonicalSql else c.slowest
        hits := tick (e.source == some "hit") c.hits
        misses := tick (e.source == some "miss") c.misses
        bypasses := tick e.bypasses c.bypasses } := by
  have sum : ({ c with total := c.total + 1 }.addNanos (ofNat e.duration.nanos)).totalNanos =
      (c.addNanos (ofNat e.duration.nanos)).totalNanos := by
    simp only [addNanos]
    split <;> rfl
  have source : valueOf? Tally.sourceKey e.context.fields = e.source := rfl
  simp only [hear, count, source]
  rw [addFailure_eq, addSource_eq, addKind_eq, addNanos_eq, sum, raise_eq]

structure Holds (heard : List Heard) (c : Counters) : Prop where
  total : c.total = .ofNat heard.length
  failed : c.failed = .ofNat (heard.countP (·.outcome.isFailed))
  selects : c.selects = .ofNat (heard.countP (·.context.kind == .select))
  inserts : c.inserts = .ofNat (heard.countP (·.context.kind == .insert))
  updates : c.updates = .ofNat (heard.countP (·.context.kind == .update))
  deletes : c.deletes = .ofNat (heard.countP (·.context.kind == .delete))
  hits : c.hits = .ofNat (heard.countP (·.source == some "hit"))
  misses : c.misses = .ofNat (heard.countP (·.source == some "miss"))
  bypasses : c.bypasses = .ofNat (heard.countP (·.bypasses))
  totalNanos : c.totalNanos.toNat = min (heard.map (·.duration.nanos)).sum (UInt64.size - 1)
  maxNanos : c.maxNanos.toNat = longest (heard.map (·.nanos))
  slowest : c.slowest = slowest? heard

theorem holds_empty : Holds [] empty :=
  ⟨rfl, rfl, rfl, rfl, rfl, rfl, rfl, rfl, rfl, rfl, rfl, rfl⟩

theorem Holds.longer (h : c.Holds heard) (e : Heard) :
    c.maxNanos < ofNat e.duration.nanos ↔ longest (heard.map (·.nanos)) < e.nanos := by
  have word : (ofNat e.duration.nanos).toNat = e.nanos := toNat_ofNat _
  rw [UInt64.lt_iff_toNat_lt, h.maxNanos, word]

theorem Holds.maxNanos_hear (h : c.Holds heard) (e : Heard) :
    (if c.maxNanos < ofNat e.duration.nanos then ofNat e.duration.nanos else c.maxNanos).toNat =
      longest ((heard ++ [e]).map (·.nanos)) := by
  rw [List.map_append, List.map_singleton, longest_append]
  by_cases longer : c.maxNanos < ofNat e.duration.nanos
  · rw [if_pos longer, Nat.max_eq_right (Nat.le_of_lt ((h.longer e).mp longer))]
    exact toNat_ofNat _
  · rw [if_neg longer, Nat.max_eq_left (Nat.le_of_not_lt (mt (h.longer e).mpr longer)), h.maxNanos]

theorem Holds.slowest_hear (h : c.Holds heard) (e : Heard) :
    (if c.maxNanos < ofNat e.duration.nanos then some e.context.canonicalSql else c.slowest) =
      slowest? (heard ++ [e]) := by
  by_cases longer : c.maxNanos < ofNat e.duration.nanos
  · rw [if_pos longer, slowest?_of_longer ((h.longer e).mp longer)]
  · rw [if_neg longer, slowest?_of_not_longer (Nat.le_of_not_lt (mt (h.longer e).mpr longer)), h.slowest]

theorem Holds.hear (h : c.Holds heard) (e : Heard) : (c.hear e).Holds (heard ++ [e]) := by
  rw [hear_eq]
  exact
    { total := by
        rw [h.total, List.length_append, List.length_singleton]
        exact (UInt64.ofNat_add _ _).symm
      failed := tick_countP h.failed e
      selects := tick_countP h.selects e
      inserts := tick_countP h.inserts e
      updates := tick_countP h.updates e
      deletes := tick_countP h.deletes e
      hits := tick_countP h.hits e
      misses := tick_countP h.misses e
      bypasses := tick_countP h.bypasses e
      totalNanos := by
        rw [toNat_addNanos, h.totalNanos, toNat_ofNat, List.map_append, List.sum_append, List.map_singleton,
          List.sum_singleton]
        omega
      maxNanos := h.maxNanos_hear e
      slowest := h.slowest_hear e }

theorem toNat_counted {n m : Nat} {word : UInt64} (counted : word = .ofNat n) (few : n ≤ m) (fits : m < 2 ^ 64) :
    word.toNat = n := by
  rw [counted, UInt64.toNat_ofNat_of_lt' (Nat.lt_of_le_of_lt few fits)]

theorem toNat_modEq {n : Nat} {word : UInt64} (counted : word = .ofNat n) : word.toNat ≡ n [MOD 2 ^ 64] := by
  rw [counted, UInt64.toNat_ofNat']
  exact Nat.mod_modEq n _

theorem Holds.reflects_words (h : c.Holds heard) : c.tally.Reflects (· ≡ · [MOD 2 ^ 64]) heard where
  total := toNat_modEq h.total
  failed := toNat_modEq h.failed
  selects := toNat_modEq h.selects
  inserts := toNat_modEq h.inserts
  updates := toNat_modEq h.updates
  deletes := toNat_modEq h.deletes
  others := by
    have kinds := (((toNat_modEq h.selects).add (toNat_modEq h.inserts)).add (toNat_modEq h.updates)).add
      (toNat_modEq h.deletes)
    refine (toNat_modEq h.total).trans ?_
    rw [← countP_kinds heard]
    exact (kinds.add_right _).symm
  hits := toNat_modEq h.hits
  misses := toNat_modEq h.misses
  bypasses := toNat_modEq h.bypasses
  sources := by
    rw [← countP_sources heard]
    exact ((toNat_modEq h.hits).add (toNat_modEq h.misses)).add (toNat_modEq h.bypasses)

theorem Holds.reflects (h : c.Holds heard) (fits : heard.length < 2 ^ 64) : c.tally.Reflects (· = ·) heard := by
  have exact_count {p : Heard → Bool} {word : UInt64} (counted : word = .ofNat (heard.countP p)) :
      word.toNat = heard.countP p := toNat_counted counted List.countP_le_length fits
  have total := toNat_counted h.total (Nat.le_refl _) fits
  exact
    { total := total
      failed := exact_count h.failed
      selects := exact_count h.selects
      inserts := exact_count h.inserts
      updates := exact_count h.updates
      deletes := exact_count h.deletes
      others := by
        simp only [tally, total, exact_count h.selects, exact_count h.inserts, exact_count h.updates,
          exact_count h.deletes]
        exact (countP_kinds heard).symm
      hits := exact_count h.hits
      misses := exact_count h.misses
      bypasses := exact_count h.bypasses
      sources := by
        simp only [tally, exact_count h.hits, exact_count h.misses, exact_count h.bypasses]
        exact countP_sources heard }

end Counters

namespace Hook

def tallied (steps : List Tallying) : Hook := steps.foldl tallying (.stats .empty)

theorem tallied_append (steps : List Tallying) (step : Tallying) :
    tallied (steps ++ [step]) = (tallied steps).tallying step :=
  List.foldl_append

theorem tallied_holds (steps : List Tallying) : ∃ c, tallied steps = .stats c ∧ c.Holds (heardSince steps) := by
  induction steps using List.reverseRecOn with
  | nil => exact ⟨_, rfl, Counters.holds_empty⟩
  | append_singleton front step ih =>
    obtain ⟨c, counted, holds⟩ := ih
    rw [tallied_append, counted]
    cases step with
    | hear e =>
      have heard : heardSince (front ++ [.hear e]) = heardSince front ++ [e] := List.foldl_append
      exact ⟨c.hear e, by rw [tallying, after]; rfl, heard ▸ holds.hear e⟩
    | reset =>
      have heard : heardSince (front ++ [.reset]) = [] := List.foldl_append
      exact ⟨_, by rw [tallying, reset], heard ▸ Counters.holds_empty⟩

theorem tallies_tallied (steps : List Tallying) :
    ∃ c : Counters, (tallied steps).tallies = [c.tally] ∧ c.Holds (heardSince steps) := by
  obtain ⟨c, counted, holds⟩ := tallied_holds steps
  exact ⟨c, by rw [counted, tallies], holds⟩

/-- A hook that counts tells of the statements since the last reset and of no others: their number, how many of them
failed, how many there were of each kind and from each source. It counts in words, and so exactly while there are
fewer statements than words. The sum of the durations and the longest of them stop at the largest word; the text is
that of the first statement that comes to the longest. -/
theorem tallies_since_reset (steps : List Tallying) :
    ∃ t, (tallied steps).tallies = [t] ∧
      t.Reflects (· ≡ · [MOD 2 ^ 64]) (heardSince steps) ∧
      ((heardSince steps).length < 2 ^ 64 → t.Reflects (· = ·) (heardSince steps)) ∧
      t.totalNanos = min ((heardSince steps).map (·.duration.nanos)).sum (2 ^ 64 - 1) ∧
      t.maxNanos = min (longest ((heardSince steps).map (·.duration.nanos))) (2 ^ 64 - 1) ∧
      t.slowest =
        if longest ((heardSince steps).map (·.duration.nanos)) = 0 then none
        else ((heardSince steps).find? fun e => min e.duration.nanos (2 ^ 64 - 1) == t.maxNanos).map
          (·.context.canonicalSql) := by
  obtain ⟨c, tallies, holds⟩ := tallies_tallied steps
  have max : c.tally.maxNanos = longest ((heardSince steps).map (·.nanos)) := holds.maxNanos
  refine ⟨c.tally, tallies, holds.reflects_words, holds.reflects, holds.totalNanos, max.trans (longest_nanos _), ?_⟩
  have none_longer : longest ((heardSince steps).map (·.nanos)) = 0 ↔
      longest ((heardSince steps).map (·.duration.nanos)) = 0 := by
    rw [longest_nanos]
    have words : UInt64.size = 2 ^ 64 := rfl
    omega
  rw [max]
  exact holds.slowest.trans (if_congr none_longer rfl rfl)

def failing : Heard :=
  ⟨.ofSql "INSERT INTO t VALUES (1)" 0 "postgres", ⟨9⟩, .failed "no table"⟩

def cachedSelect : Heard :=
  ⟨(Context.ofSql "SELECT 1" 0 "postgres").addField Tally.sourceKey "hit", ⟨2⟩, .rows 1⟩

def inTransaction (sql : String) : Heard :=
  ⟨(Context.ofSql sql 0 "postgres").addField Tally.sourceKey "tx", ⟨5⟩, .failed "no table"⟩

def mixed : List Tallying :=
  [.hear failing, .reset, .hear cachedSelect, .hear (inTransaction "TRUNCATE t"), .hear (inTransaction "DELETE FROM t")]

theorem tallies_since_reset_mixed :
    ∃ t, (tallied mixed).tallies = [t] ∧ (heardSince mixed).length < 2 ^ 64 ∧ t.total = 3 ∧ t.failed = 2 ∧
      t.selects = 1 ∧ t.inserts = 0 ∧ t.deletes = 1 ∧ t.hits = 1 ∧ t.bypasses = 2 ∧ t.totalNanos = 12 ∧
      t.maxNanos = 5 ∧ t.slowest = some "TRUNCATE t" := by
  have few : (heardSince mixed).length < 2 ^ 64 := by decide
  obtain ⟨t, tallies, -, counts, sum, max, slowest⟩ := tallies_since_reset mixed
  obtain counts := counts few
  have five : t.maxNanos = 5 := max.trans (by decide)
  rw [five] at slowest
  exact ⟨t, tallies, few, counts.total.trans (by decide), counts.failed.trans (by decide),
    counts.selects.trans (by decide +kernel), counts.inserts.trans (by decide +kernel),
    counts.deletes.trans (by decide +kernel),
    counts.hits.trans (by decide), counts.bypasses.trans (by decide), sum.trans (by decide), five,
    slowest.trans (by decide)⟩

def selecting (sql : String) (secs : Nat) : Heard :=
  ⟨.ofSql sql 0 "postgres", .ofSecs secs 0, .rows 1⟩

def beyondWords : List Heard := [selecting "SELECT a" 20000000000, selecting "SELECT b" 30000000000]

/-- What takes longer than a word can tell is told as the largest word, and the first such statement stays the slowest
one though the second took longer. After as many statements as there are words the count is nothing again. -/
theorem tallies_beyond_words :
    (∃ t, (tallied (beyondWords.map .hear)).tallies = [t] ∧
      longest (beyondWords.map (·.duration.nanos)) = 30000000000000000000 ∧ t.maxNanos = 18446744073709551615 ∧
      (beyondWords.find? (·.duration.nanos == 30000000000000000000)).map (·.context.canonicalSql) = some "SELECT b" ∧
      t.slowest = some "SELECT a") ∧
    ∃ t, (tallied (List.replicate (2 ^ 64) (.hear (selecting "SELECT a" 0)))).tallies = [t] ∧ t.total = 0 := by
  constructor
  · obtain ⟨c, tallies, holds⟩ := tallies_tallied (beyondWords.map .hear)
    exact ⟨_, tallies, by decide, holds.maxNanos.trans (by decide), by decide +kernel,
      holds.slowest.trans (by decide +kernel)⟩
  · have all (n : Nat) : heardSince (List.replicate n (.hear (selecting "SELECT a" 0))) =
        List.replicate n (selecting "SELECT a" 0) := by
      induction n with
      | zero => rfl
      | succ n ih =>
        rw [List.replicate_succ', List.replicate_succ', ← ih]
        exact List.foldl_append
    obtain ⟨c, tallies, holds⟩ := tallies_tallied (List.replicate (2 ^ 64) (.hear (selecting "SELECT a" 0)))
    refine ⟨_, tallies, ?_⟩
    have total := holds.total
    rw [all, List.length_replicate] at total
    exact (congrArg UInt64.toNat total).trans (by decide)

end Hook

end RowMapper
