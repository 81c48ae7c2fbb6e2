import Covenant.Decimal.Binary
/-!
# The shortest decimal that reads back

For a positive finite binary64 value `v = mant * 2^exp`, the values that read back as `v` form
an interval around it: half a step to either neighbour, where the step below a power of two
is half the step above it. The interval's ends belong to it exactly when the mantissa is even,
since a halfway decimal rounds to the even mantissa.

`shortest` tries grids of `1, 2, …, 17` significant digits. On each grid only the two grid
points next to `v` can lie in the interval (the interval is a segment around `v`), so the
first grid on which one of them does gives the fewest digits, and of two such points the
nearer to `v` is chosen. Seventeen digits always suffice for binary64.
-/

namespace Covenant.Decimal

/-- Digits and exponent of a decimal `digits * 10^exp10`. -/
structure Sci where
  digits : Nat
  exp10 : Int
deriving Repr, DecidableEq

/-- The number of decimal digits of `n`, at least one. -/
def digitCount (n : Nat) : Nat := (Nat.toDigits 10 n).length

/-- Removes trailing zero digits, raising the exponent for each. -/
def Sci.trim (s : Sci) : Sci :=
  go s.digits s.exp10 (digitCount s.digits)
where
  go (d : Nat) (e : Int) : Nat → Sci
    | 0 => ⟨d, e⟩
    | fuel + 1 => if d ≠ 0 ∧ d % 10 = 0 then go (d / 10) (e + 1) fuel else ⟨d, e⟩

/-- `n * 2^p` written as a fraction `num / den` of whole numbers. -/
def scaledByTwo (n : Nat) (p : Int) : Nat × Nat :=
  if p ≥ 0 then (n * Nat.pow 2 p.toNat, 1) else (n, Nat.pow 2 (-p).toNat)

/-- The exponent `E` with `10^E ≤ num / den < 10^(E+1)`, for positive `num` and `den`. -/
def decimalLead (num den : Nat) : Int :=
  if den ≤ num then (digitCount (num / den) : Int) - 1
  else -(firstReach 1 (num * 10) 400 : Int)
where
  /-- The least `t ≥ start` with `den ≤ num * 10^t`, given `scaled = num * 10^start`. -/
  firstReach (t scaled : Nat) : Nat → Nat
    | 0 => t
    | fuel + 1 => if den ≤ scaled then t else firstReach (t + 1) (scaled * 10) fuel

/-- The shortest decimal reading back as `mant * 2^exp` (positive `mant` below `2^53`),
the nearer of two on the shortest grid. -/
def shortest (mant : Nat) (exp : Int) : Sci :=
  if mant = 0 then ⟨0, 0⟩ else
  -- Work in quarter steps `2^(exp-2)`: the value is `4 * mant` of them.
  let below : Nat := if mant = Nat.pow 2 fracBits ∧ exp > minExp then 1 else 2
  let inclusive := mant % 2 = 0
  let (vNum, vDen) := scaledByTwo (4 * mant) (exp - 2)
  let lead := decimalLead vNum vDen
  let inside (lo hi x : Nat) : Bool := if inclusive then lo ≤ x ∧ x ≤ hi else lo < x ∧ x < hi
  let tryGrid (n : Nat) : Option Sci :=
    let k : Int := lead - n + 1
    -- Everything is multiplied by `up` so that the grid step `grid` is whole.
    let up := (if exp - 2 ≥ 0 then Nat.pow 2 (exp - 2).toNat else 1) * (if k < 0 then Nat.pow 10 (-k).toNat else 1)
    let grid := (if k ≥ 0 then Nat.pow 10 k.toNat else 1) * (if exp - 2 < 0 then Nat.pow 2 (2 - exp).toNat else 1)
    let v := 4 * mant * up
    let lo := (4 * mant - below) * up
    let hi := (4 * mant + 2) * up
    let down := v / grid * grid
    let upper := if v % grid = 0 then down else down + grid
    let downIn := inside lo hi down
    let upIn := inside lo hi upper
    let pick (p : Nat) : Sci := Sci.trim ⟨p / grid, k⟩
    if downIn ∧ upIn then
      if v - down < upper - v then some (pick down)
      else if upper - v < v - down then some (pick upper)
      else if (down / grid) % 2 = 0 then some (pick down) else some (pick upper)
    else if downIn then some (pick down)
    else if upIn then some (pick upper)
    else none
  search tryGrid 1 17
where
  search (f : Nat → Option Sci) (n : Nat) : Nat → Sci
    | 0 => ⟨mant, exp⟩
    | fuel + 1 => match f n with
      | some s => s
      | none => search f (n + 1) fuel

end Covenant.Decimal
