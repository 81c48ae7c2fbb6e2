import Covenant.Decimal.Shortest
import Covenant.Decimal.Fixed
/-!
# Writing a binary64 value as text

The digits come from `shortest` (the fewest that read back) or from `places` (a fixed count
after the point); a `Layout` decides the rest: which decimal positions are written without an
exponent, whether a whole number keeps a `.0`, and how the non-finite values are spelled.

Two layouts are in use. `Layout.plain` never writes an exponent and writes whole numbers bare
(`1e21` is `1000000000000000000000`, `-0.0` is `-0`). `Layout.compact` writes positionally
exactly when the point falls within five places after or sixteen places before the first
digit, keeps `.0` on whole numbers, and otherwise writes one digit, a point, the rest and
`e` with a signed exponent (`1e+16`, `1.5e-6`).
-/

namespace Covenant.Decimal

/-- The choices that separate one spelling of numbers from another. -/
structure Layout where
  /-- Positional notation is used when the point position `lead + 1` lies in
  `(minPoint, maxPoint]`; `none` means always. -/
  window : Option (Int × Int)
  /-- Whether a whole number written positionally ends in `.0`. -/
  pointZero : Bool
  nanText : String
  infText : String

/-- Positional always, whole numbers bare, `NaN` and `inf`. -/
def Layout.plain : Layout := ⟨none, false, "NaN", "inf"⟩

/-- Positional for moderate sizes with `.0` on whole numbers, otherwise scientific. -/
def Layout.compact : Layout := ⟨some (-5, 16), true, "NaN", "inf"⟩

/-- `n` zeros. -/
def zeros (n : Nat) : String := String.ofList (List.replicate n '0')

/-- Positional text of `digits * 10^exp10` for `digits > 0` without trailing zeros. -/
def positional (pointZero : Bool) (s : Sci) : String :=
  let ds := Nat.toDigits 10 s.digits
  let len : Int := ds.length
  let point := len + s.exp10
  if s.exp10 ≥ 0 then
    String.ofList ds ++ zeros s.exp10.toNat ++ (if pointZero then ".0" else "")
  else if point > 0 then
    String.ofList (ds.take point.toNat) ++ "." ++ String.ofList (ds.drop point.toNat)
  else
    "0." ++ zeros (-point).toNat ++ String.ofList ds

/-- Scientific text `d.ddde+x` or `d.ddde-x` of `digits * 10^exp10`; the exponent always
carries its sign. -/
def scientific (s : Sci) : String :=
  let ds := Nat.toDigits 10 s.digits
  let e : Int := ds.length + s.exp10 - 1
  let mant := match ds with
    | [] => "0"
    | [d] => String.singleton d
    | d :: rest => String.singleton d ++ "." ++ String.ofList rest
  mant ++ (if e < 0 then "e" else "e+") ++ toString e

/-- The text of a value under a layout, from its shortest digits. -/
def Layout.render (l : Layout) (x : Float) : String :=
  match shapeOf x with
  | .nan => l.nanText
  | .infinite neg => (if neg then "-" else "") ++ l.infText
  | .finite p =>
    let sign := if p.neg then "-" else ""
    if p.mant = 0 then sign ++ (if l.pointZero then "0.0" else "0")
    else
      let s := shortest p.mant p.exp
      let point : Int := (digitCount s.digits : Int) + s.exp10
      match l.window with
      | none => sign ++ positional l.pointZero s
      | some (lo, hi) =>
        if lo < point ∧ point ≤ hi then sign ++ positional l.pointZero s
        else sign ++ scientific s

/-- The text of a value with exactly `p` digits after the point, rounded to nearest with
ties to even; the sign of a negative value (or of `-0.0`) is kept even when it rounds to
zero. -/
def fixed (p : Nat) (x : Float) : String :=
  match shapeOf x with
  | .nan => "NaN"
  | .infinite neg => if neg then "-inf" else "inf"
  | .finite part =>
    let n := places p part.mant part.exp
    let ds := Nat.toDigits 10 n
    let ds := List.replicate (p + 1 - ds.length) '0' ++ ds
    let whole := ds.take (ds.length - p)
    let frac := ds.drop (ds.length - p)
    (if part.neg then "-" else "") ++ String.ofList whole ++
      (if p = 0 then "" else "." ++ String.ofList frac)

end Covenant.Decimal
