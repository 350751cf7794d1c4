/-!
Lengths of time and their short text: the largest unit that gives at least one, with as many
decimals as it takes.
-/
namespace RowMapper

structure Duration where
  nanos : Nat
  deriving DecidableEq, Repr, Inhabited

namespace Duration

def ofMillis (n : Nat) : Duration := ⟨n * 1000000⟩

def ofSecs (secs nanos : Nat) : Duration := ⟨secs * 1000000000 + nanos⟩

/-- A whole number of units and a rest, where `size` of the rest makes one unit: a power of ten
whose digits are written without the zeros at the end. -/
def decimalText (whole rest size : Nat) : String :=
  if rest = 0 then toString whole
  else
    let digits := (toString (size + rest)).toList.drop 1
    toString whole ++ "." ++ String.ofList ((digits.reverse.dropWhile (· = '0')).reverse)

def text (d : Duration) : String :=
  let n := d.nanos
  if 1000000000 ≤ n then decimalText (n / 1000000000) (n % 1000000000) 1000000000 ++ "s"
  else if 1000000 ≤ n then decimalText (n / 1000000) (n % 1000000) 1000000 ++ "ms"
  else if 1000 ≤ n then decimalText (n / 1000) (n % 1000) 1000 ++ "µs"
  else toString n ++ "ns"

end Duration

end RowMapper
