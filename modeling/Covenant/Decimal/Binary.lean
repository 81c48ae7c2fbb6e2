/-!
# Binary64 values as exact numbers

A finite binary64 value is `(-1)^neg * mant * 2^exp` for a whole mantissa below `2^53` and
an exponent between `-1074` and `971`. This module reads a `Float` into that form and builds
the `Float` nearest to an exact fraction, so that every later rule about decimal text can be
stated and computed in exact `Nat` arithmetic.

Rounding is to nearest, and a value halfway between two neighbours goes to the one whose
mantissa is even; a value at or beyond `2^1024` (after rounding) is infinite.
-/

namespace Covenant.Decimal

/-- A finite binary64 value, `(-1)^neg * mant * 2^exp`. -/
structure Parts where
  neg : Bool
  mant : Nat
  exp : Int
deriving Repr, DecidableEq

/-- The three kinds of binary64 value. -/
inductive Shape where
  | nan
  | infinite (neg : Bool)
  | finite (p : Parts)
deriving Repr, DecidableEq

/-- The width of the stored fraction field. -/
def fracBits : Nat := 52

/-- The exponent of the least subnormal step, `2^-1074`. -/
def minExp : Int := -1074

/-- Splits the bit pattern of a value into sign, biased exponent and fraction. -/
def shapeOfBits (b : Nat) : Shape :=
  let neg := b / Nat.pow 2 63 % 2 == 1
  let field := b / Nat.pow 2 fracBits % 2048
  let frac := b % Nat.pow 2 fracBits
  if field == 2047 then
    if frac == 0 then .infinite neg else .nan
  else if field == 0 then
    .finite ⟨neg, frac, minExp⟩
  else
    .finite ⟨neg, frac + Nat.pow 2 fracBits, (field : Int) - 1075⟩

/-- The exact shape of a binary64 value. -/
def shapeOf (x : Float) : Shape :=
  shapeOfBits x.toBits.toNat

/-- The sign bit of a value; set for `-0.0` as well as for negative values. -/
def signBit (x : Float) : Bool :=
  x.toBits.toNat / Nat.pow 2 63 % 2 == 1

/-- The bit pattern of a finite value with a mantissa below `2^53` at exponent `exp`;
a mantissa that reaches `2^53` or an exponent past `971` gives infinity. -/
def bitsOf (neg : Bool) (mant : Nat) (exp : Int) : Nat :=
  let sign := if neg then Nat.pow 2 63 else 0
  if mant < Nat.pow 2 fracBits then
    sign + mant
  else
    let field := exp + 1075
    if field ≥ 2047 then sign + 2047 * Nat.pow 2 fracBits
    else sign + field.toNat * Nat.pow 2 fracBits + (mant - Nat.pow 2 fracBits)

/-- The number of binary digits of a positive number; `bitLength 1 = 1`. -/
def bitLength (n : Nat) : Nat := Nat.log2 n + 1

/-- Divides `num` by `den` and rounds to the nearest whole number, a half going to the
even neighbour. -/
def roundHalfEven (num den : Nat) : Nat :=
  let q := num / den
  let r := num % den
  if 2 * r > den then q + 1
  else if 2 * r == den && q % 2 == 1 then q + 1
  else q

/-- The binary64 value nearest to `num / den` (both positive), with the given sign. -/
def nearestOfFraction (neg : Bool) (num den : Nat) : Float :=
  if num == 0 || den == 0 then Float.ofBits (UInt64.ofNat (bitsOf neg 0 0))
  else
    -- `lead` is the exponent of the leading binary digit of `num / den`.
    let guess : Int := (bitLength num : Int) - (bitLength den : Int)
    let lead : Int :=
      if guess ≥ 0 then
        if Nat.pow 2 guess.toNat * den ≤ num then guess else guess - 1
      else
        if den ≤ num * Nat.pow 2 (-guess).toNat then guess else guess - 1
    if lead > 1100 then Float.ofBits (UInt64.ofNat (bitsOf neg (Nat.pow 2 53) 972))
    else if lead < -1200 then Float.ofBits (UInt64.ofNat (bitsOf neg 0 0))
    else
      let exp : Int := max (lead - 52) minExp
      let (n, d) := if exp ≥ 0 then (num, den * Nat.pow 2 exp.toNat) else (num * Nat.pow 2 (-exp).toNat, den)
      let m := roundHalfEven n d
      let (m, exp) := if m == Nat.pow 2 53 then (Nat.pow 2 52, exp + 1) else (m, exp)
      Float.ofBits (UInt64.ofNat (bitsOf neg m exp))

/-- The binary64 value nearest to `digits * 10^exp10`, with the given sign. Exponents far
outside the binary64 range are settled without building their powers. -/
def nearest (neg : Bool) (digits : Nat) (exp10 : Int) : Float :=
  let size : Int := ((Nat.toDigits 10 digits).length : Int) + exp10
  if digits == 0 || size < -400 then Float.ofBits (UInt64.ofNat (bitsOf neg 0 0))
  else if size > 400 then Float.ofBits (UInt64.ofNat (bitsOf neg (Nat.pow 2 53) 972))
  else if exp10 ≥ 0 then nearestOfFraction neg (digits * Nat.pow 10 exp10.toNat) 1
  else nearestOfFraction neg digits (Nat.pow 10 (-exp10).toNat)

/-- The value of a whole number as the nearest binary64 value. -/
def ofInt (i : Int) : Float :=
  nearest (i < 0) i.natAbs 0

end Covenant.Decimal
