import Covenant.Decimal.Binary
/-!
# Reading decimal text as a binary64 value

The accepted text is an optional sign followed either by one of the words `inf`, `infinity`
or `nan` in any mix of case, or by digits with at most one point, at least one digit in all,
and an optional exponent: `e` or `E`, an optional sign and at least one digit. Nothing else
may follow. The value is the binary64 value nearest to the decimal, so reading is exact in
the sense of `nearest`.
-/

namespace Covenant.Decimal

/-- Splits off the longest prefix of decimal digits and its value. -/
def takeDigits : List Char → List Char × List Char
  | c :: rest =>
    if c.isDigit then
      let (ds, r) := takeDigits rest
      (c :: ds, r)
    else ([], c :: rest)
  | [] => ([], [])

/-- The value of a list of decimal digits. -/
def digitsValue (ds : List Char) : Nat :=
  ds.foldl (fun acc c => acc * 10 + (c.toNat - '0'.toNat)) 0

/-- The exponent part after `e`: an optional sign and at least one digit, to the end. -/
def readExponent (cs : List Char) : Option Int :=
  let (neg, rest) := match cs with
    | '-' :: r => (true, r)
    | '+' :: r => (false, r)
    | r => (false, r)
  let (ds, tail) := takeDigits rest
  if ds.isEmpty || !tail.isEmpty then none
  else
    -- Exponents beyond any binary64 magnitude all mean the same; cap them.
    let v : Int := min (digitsValue ds) 100000
    some (if neg then -v else v)

/-- Reads the unsigned part of a number. -/
def readUnsigned (neg : Bool) (cs : List Char) : Option Float :=
  let word := String.ofList (cs.map Char.toLower)
  if word == "inf" || word == "infinity" then
    some (if neg then -(1.0 / 0.0) else 1.0 / 0.0)
  else if word == "nan" then
    some (if neg then -(0.0 / 0.0) else 0.0 / 0.0)
  else
    let (whole, rest) := takeDigits cs
    let (frac, rest) := match rest with
      | '.' :: r => takeDigits r
      | r => ([], r)
    if whole.isEmpty && frac.isEmpty then none
    else
      let exp? : Option Int := match rest with
        | [] => some 0
        | c :: r => if c = 'e' || c = 'E' then readExponent r else none
      exp?.map fun e => nearest neg (digitsValue (whole ++ frac)) (e - frac.length)

/-- Reads decimal text as the nearest binary64 value, or `none` if it is not a number. -/
def readFloat? (s : String) : Option Float :=
  match s.toList with
  | '-' :: r => readUnsigned true r
  | '+' :: r => readUnsigned false r
  | r => readUnsigned false r

end Covenant.Decimal
