/-!
Numbers as a fixed count of bytes, the most significant first.
-/
namespace RowMapper.Number

/-- The last `count` base-256 digits of a number. -/
def toBigEndian : Nat → Nat → List UInt8
  | 0, _ => []
  | count + 1, n => toBigEndian count (n / 256) ++ [UInt8.ofNat (n % 256)]

def ofBigEndian (bytes : List UInt8) : Nat :=
  bytes.foldl (fun n b => n * 256 + b.toNat) 0

def byteRange (count : Nat) : Nat := Nat.pow 256 count

theorem byteRange_succ (count : Nat) : byteRange (count + 1) = 256 * byteRange count :=
  Nat.mul_comm (byteRange count) 256

theorem length_toBigEndian (count n : Nat) : (toBigEndian count n).length = count := by
  induction count generalizing n with
  | zero => rfl
  | succ count ih => simp [toBigEndian, ih]

theorem ofBigEndian_append (xs : List UInt8) (b : UInt8) :
    ofBigEndian (xs ++ [b]) = ofBigEndian xs * 256 + b.toNat := by
  simp [ofBigEndian]

theorem ofBigEndian_toBigEndian (count n : Nat) :
    ofBigEndian (toBigEndian count n) = n % byteRange count := by
  induction count generalizing n with
  | zero => simp [toBigEndian, ofBigEndian, byteRange, Nat.mod_one]
  | succ count ih =>
    have byte : (UInt8.ofNat (n % 256)).toNat = n % 256 := by simp
    rw [toBigEndian, ofBigEndian_append, ih, byte, byteRange_succ, Nat.mod_mul]
    omega

end RowMapper.Number
