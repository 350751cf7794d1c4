/-!
The shortest decimal that reads back as a given double. A finite double is `m * 2 ^ q`; the
decimals that round to it form an interval, closed when `m` is even. Among the decimals with the
fewest digits the nearest one is taken.
-/
namespace RowMapper.Number

/-- A finite double without its sign: `mantissa * 2 ^ exponent`. -/
structure Binary where
  mantissa : Nat
  exponent : Int
  deriving DecidableEq, Repr, Inhabited

/-- The leading bit of a mantissa, which is not stored. -/
def hiddenBit : Nat := Nat.pow 2 52

def signBit : Nat := Nat.pow 2 63

def Binary.ofBits (bits : UInt64) : Binary :=
  let frac := bits.toNat % hiddenBit
  let field := bits.toNat / hiddenBit % 2048
  if field = 0 then ⟨frac, -1074⟩ else ⟨frac + hiddenBit, (field : Int) - 1075⟩

def isNegativeBits (bits : UInt64) : Bool :=
  bits.toNat / signBit == 1

structure Decimal where
  digits : Nat
  power : Int
  deriving DecidableEq, Repr, Inhabited

/-- The rounding interval of a double and the double itself, as multiples of one unit: `low`,
`value` and `high` count units of `num / den`. -/
structure Interval where
  low : Nat
  value : Nat
  high : Nat
  closed : Bool
  deriving Repr, Inhabited

/-- Four times the value and its neighbours' midpoints, before scaling. Just above a power of two
the lower neighbour is half as far away. -/
def Binary.interval (b : Binary) : Interval :=
  let narrow := b.mantissa == hiddenBit && b.exponent > -1074
  { low := 4 * b.mantissa - (if narrow then 1 else 2)
    value := 4 * b.mantissa
    high := 4 * b.mantissa + 2
    closed := b.mantissa % 2 == 0 }

/-- Whether the decimal `d * 10 ^ power` lies in the interval, whose unit is
`2 ^ (exponent - 2)`; compared after clearing both powers. -/
def Interval.holds (i : Interval) (unitNum unitDen gridNum gridDen d : Nat) : Bool :=
  let x := d * gridNum * unitDen
  let lo := i.low * unitNum * gridDen
  let hi := i.high * unitNum * gridDen
  if i.closed then lo ≤ x && x ≤ hi else lo < x && x < hi

def splitPower (base : Nat) (e : Int) : Nat × Nat :=
  if e < 0 then (1, base.pow e.natAbs) else (base.pow e.natAbs, 1)

/-- The candidate on the grid `10 ^ power`: the nearer of the two grid points around the value,
if it is in the interval, else the other one, if that is. Ties go to the even digit. -/
def Binary.onGrid (b : Binary) (power : Int) : Option Nat :=
  let i := b.interval
  let (unitNum, unitDen) := splitPower 2 (b.exponent - 2)
  let (gridNum, gridDen) := splitPower 10 power
  let top := i.value * unitNum * gridDen
  let step := gridNum * unitDen
  let below := top / step
  let rest := top % step
  let near := if 2 * rest < step then below
    else if step < 2 * rest then below + 1
    else if below % 2 = 0 then below else below + 1
  let far := if near = below then below + 1 else below
  let ok := fun d => d != 0 && i.holds unitNum unitDen gridNum gridDen d
  if ok near then some near else if ok far then some far else none

/-- The grids from coarse to fine; the first with a decimal in the interval wins. -/
def Binary.search (b : Binary) : Nat → Int → Decimal
  | 0, power => ⟨b.mantissa, power⟩
  | fuel + 1, power =>
    match b.onGrid power with
    | some d => ⟨d, power⟩
    | none => b.search fuel (power - 1)

def Decimal.strip (fuel : Nat) (d : Decimal) : Decimal :=
  match fuel with
  | 0 => d
  | fuel + 1 => if d.digits != 0 && d.digits % 10 = 0
      then Decimal.strip fuel ⟨d.digits / 10, d.power + 1⟩ else d

/-- The decimal exponent from which the search may start: no double reaches ten times it. -/
def Binary.startPower (b : Binary) : Int :=
  let bitsLong : Int := (Nat.log2 b.mantissa : Int) + b.exponent + 1
  bitsLong * 30103 / 100000 + 1

def shortest (bits : UInt64) : Decimal :=
  let b := Binary.ofBits bits
  if b.mantissa = 0 then ⟨0, 0⟩ else (b.search 20 b.startPower).strip 20

end RowMapper.Number
