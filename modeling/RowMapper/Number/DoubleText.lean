import RowMapper.Number.Shortest

/-!
The text of a double in a document: positional notation for magnitudes from 1e-5 below 1e16, with
`.0` on whole numbers, and otherwise one digit before the point and an exponent with its sign.
-/
namespace RowMapper.Number

def zeros (n : Nat) : String :=
  String.ofList (List.replicate n '0')

/-- Digits and the position of the point counted from their left end. -/
def placePoint (digits : String) (point : Int) : String :=
  let n : Int := digits.length
  if n ≤ point ∧ point ≤ 16 then digits ++ zeros (point - n).toNat ++ ".0"
  else if 0 < point ∧ point ≤ 16 then
    String.ofList (digits.toList.take point.toNat) ++ "." ++
      String.ofList (digits.toList.drop point.toNat)
  else if -5 < point ∧ point ≤ 0 then "0." ++ zeros (-point).toNat ++ digits
  else
    let rest := String.ofList (digits.toList.drop 1)
    String.ofList (digits.toList.take 1) ++ (if rest.isEmpty then "" else "." ++ rest) ++
      (if 0 < point then "e+" else "e") ++ toString (point - 1)

def doubleText (bits : UInt64) : String :=
  let d := shortest bits
  let sign := if isNegativeBits bits then "-" else ""
  if d.digits = 0 then sign ++ "0.0"
  else
    let digits := toString d.digits
    sign ++ placePoint digits (digits.length + d.power)

end RowMapper.Number
