import RowMapper.Hook.Context

/-!
Counts over the statements that have ended. They are kept in words of 64 bits; only the sum of the durations
stops at the largest word, the others begin again from nothing after it.
-/
namespace RowMapper

structure Tally where
  total : Nat
  failed : Nat
  selects : Nat
  inserts : Nat
  updates : Nat
  deletes : Nat
  hits : Nat
  misses : Nat
  bypasses : Nat
  totalNanos : Nat
  maxNanos : Nat
  slowest : Option String
  deriving DecidableEq, Repr, Inhabited

/-- The key under which a context says where its statement came from. -/
def Tally.sourceKey : String := "stmt_cache"

structure Counters where
  total : UInt64
  failed : UInt64
  totalNanos : UInt64
  selects : UInt64
  inserts : UInt64
  updates : UInt64
  deletes : UInt64
  maxNanos : UInt64
  slowest : Option String
  hits : UInt64
  misses : UInt64
  bypasses : UInt64
  deriving DecidableEq, Repr, Inhabited

namespace Counters

def empty : Counters := ⟨0, 0, 0, 0, 0, 0, 0, 0, none, 0, 0, 0⟩

def largest : UInt64 := .ofNat (UInt64.size - 1)

/-- The word of a number; the largest one when there is none. -/
def ofNat (n : Nat) : UInt64 := if n < UInt64.size then .ofNat n else largest

def checkedSum (a b : UInt64) : Option UInt64 :=
  if a.toNat + b.toNat < UInt64.size then some (a + b) else none

/-- The sum is put in place first; where it has begun again from nothing it is put right after that. -/
def addNanos (c : Counters) (nanos : UInt64) : Counters :=
  let added := { c with totalNanos := c.totalNanos + nanos }
  match checkedSum c.totalNanos nanos with
  | some _ => added
  | none => { added with totalNanos := largest }

def addKind (c : Counters) : Kind → Counters
  | .select => { c with selects := c.selects + 1 }
  | .insert => { c with inserts := c.inserts + 1 }
  | .update => { c with updates := c.updates + 1 }
  | .delete => { c with deletes := c.deletes + 1 }
  | .other => c

/-- Statements from anywhere but the cache count as bypassing it. -/
def addSource (c : Counters) : Option String → Counters
  | some source =>
    if source = "hit" then { c with hits := c.hits + 1 }
    else if source = "miss" then { c with misses := c.misses + 1 }
    else { c with bypasses := c.bypasses + 1 }
  | none => c

def addFailure (c : Counters) (outcome : Outcome) : Counters :=
  if outcome.isFailed then { c with failed := c.failed + 1 } else c

def raise (c : Counters) (nanos : UInt64) (sql : String) : Counters :=
  if c.maxNanos < nanos then { c with maxNanos := nanos, slowest := some sql } else c

def count (c : Counters) (ctx : Context) (duration : Duration) (outcome : Outcome) : Counters :=
  let nanos := ofNat duration.nanos
  let c := { c with total := c.total + 1 }
  let c := c.addNanos nanos
  let c := c.addKind ctx.kind
  let c := c.addSource (valueOf? Tally.sourceKey ctx.fields)
  let c := c.addFailure outcome
  c.raise nanos ctx.canonicalSql

def tally (c : Counters) : Tally :=
  { total := c.total.toNat
    failed := c.failed.toNat
    selects := c.selects.toNat
    inserts := c.inserts.toNat
    updates := c.updates.toNat
    deletes := c.deletes.toNat
    hits := c.hits.toNat
    misses := c.misses.toNat
    bypasses := c.bypasses.toNat
    totalNanos := c.totalNanos.toNat
    maxNanos := c.maxNanos.toNat
    slowest := c.slowest }

end Counters

end RowMapper
