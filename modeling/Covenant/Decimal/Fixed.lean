import Covenant.Decimal.Binary
/-!
# A binary64 value to a fixed number of places

`places p mant exp` is the whole number nearest to `mant * 2^exp * 10^p`, a half going to the
even neighbour. The digits of a fixed-place rendering are exactly this number's digits with a
point before the last `p` of them.
-/

namespace Covenant.Decimal

/-- `mant * 2^exp * 10^p`, rounded to the nearest whole number, ties to even. -/
def places (p : Nat) (mant : Nat) (exp : Int) : Nat :=
  if exp ≥ 0 then mant * Nat.pow 2 exp.toNat * Nat.pow 10 p
  else roundHalfEven (mant * Nat.pow 10 p) (Nat.pow 2 (-exp).toNat)

end Covenant.Decimal
