import Covenant.Decimal.Read
/-!
# What an untagged YAML scalar means

A plain scalar without a tag is read by the YAML 1.2 core schema: empty, `~`, `null`,
`Null` or `NULL` is null; `true`/`True`/`TRUE` and `false`/`False`/`FALSE` are booleans;
decimal integers (with an optional sign) and `0x`, `0o`, `0b` integers are numbers, as are
decimal fractions and `.inf`, `-.inf`, `.nan` in three spellings each; anything else is a
string. Digits with a leading zero (`007`) are a string, not a number.

Whole numbers are read in three widths: 64 bits (the usual case), 128 bits (a number that is
refused as too large for metadata), and beyond (which falls through to a fraction).
-/

namespace Covenant.Yaml

/-- The value of a run of digits in a radix, if every character is such a digit and there
is at least one. -/
def digitsIn (radix : Nat) (cs : List Char) : Option Nat :=
  let digit (c : Char) : Option Nat :=
    let v := if c.isDigit then c.toNat - 48
      else if 'a' ≤ c && c ≤ 'z' then c.toNat - 87
      else if 'A' ≤ c && c ≤ 'Z' then c.toNat - 55
      else 99
    if v < radix then some v else none
  if cs.isEmpty then none
  else cs.foldlM (fun acc c => (digit c).map (acc * radix + ·)) 0

/-- Reads an unsigned integer with an optional `+` in a radix, below `limit`. -/
def unsignedIn (radix limit : Nat) (cs : List Char) : Option Nat :=
  let cs := match cs with
    | '+' :: r => r
    | r => r
  (digitsIn radix cs).bind fun v => if v < limit then some v else none

/-- Reads a signed integer in a radix within `[-limit, limit)`. -/
def signedIn (radix limit : Nat) (cs : List Char) : Option Int :=
  match cs with
  | '-' :: r => (digitsIn radix r).bind fun v => if v ≤ limit then some (-(v : Int)) else none
  | '+' :: r => (digitsIn radix r).bind fun v => if v < limit then some (v : Int) else none
  | r => (digitsIn radix r).bind fun v => if v < limit then some (v : Int) else none

/-- Digits with a leading zero, after an optional sign: a string, not a number. -/
def leadingZeroDigits (s : String) : Bool :=
  let cs := match s.toList with
    | '-' :: r => r
    | '+' :: r => r
    | r => r
  match cs with
  | '0' :: r@(_ :: _) => r.all Char.isDigit
  | _ => false

/-- The radix prefixes of integers. -/
def radixPrefixes : List (String × Nat) := [("0x", 16), ("0o", 8), ("0b", 2)]

/-- Reads a non-negative integer below `limit`: a radix form or plain decimal digits. -/
def unsignedScalar (limit : Nat) (s : String) : Option Nat :=
  let body := match s.toList with
    | '+' :: r => r
    | r => r
  let radixForm := radixPrefixes.findSome? fun (p, radix) =>
    if p.toList.isPrefixOf body then
      let rest := body.drop 2
      match rest with
      | c :: _ => if c = '+' || c = '-' then none else unsignedIn radix limit rest
      | [] => none
    else none
  match radixForm with
  | some v => some v
  | none =>
    match body with
    | c :: _ => if c = '+' || c = '-' then none
      else if leadingZeroDigits s then none
      else unsignedIn 10 limit body
    | [] => none

/-- Reads a negative integer not below `-limit`: a radix form or decimal digits after `-`. -/
def negativeScalar (limit : Nat) (s : String) : Option Int :=
  match s.toList with
  | '-' :: body =>
    let radixForm := radixPrefixes.findSome? fun (p, radix) =>
      if p.toList.isPrefixOf body then
        let rest := body.drop 2
        match rest with
        | c :: _ => if c = '+' || c = '-' then none else signedIn radix limit ('-' :: rest)
        | [] => none
      else none
    match radixForm with
    | some v => some v
    | none =>
      match body with
      | c :: _ => if c = '+' || c = '-' then none
        else if leadingZeroDigits s then none
        else signedIn 10 limit ('-' :: body)
      | [] => none
  | _ => none

/-- Null in the core schema. -/
def isNullWord (s : String) : Bool := s = "~" || s = "null" || s = "Null" || s = "NULL"

/-- Booleans in the core schema. -/
def boolWord? (s : String) : Option Bool :=
  if s = "true" || s = "True" || s = "TRUE" then some true
  else if s = "false" || s = "False" || s = "FALSE" then some false
  else none

/-- A finite fraction, or one of the infinity and not-a-number words. -/
def floatScalar? (s : String) : Option Float :=
  let unsigned : Option String := match s.toList with
    | '+' :: rest =>
      match rest with
      | c :: _ => if c = '+' || c = '-' then none else some (String.ofList rest)
      | [] => some ""
    | _ => some s
  unsigned.bind fun u =>
    if u = ".inf" || u = ".Inf" || u = ".INF" then some (1.0 / 0.0)
    else if s = "-.inf" || s = "-.Inf" || s = "-.INF" then some (-(1.0 / 0.0))
    else if s = ".nan" || s = ".NaN" || s = ".NAN" then some (0.0 / 0.0)
    else match Decimal.readFloat? u with
      | some f => if f.isFinite then some f else none
      | none => none

end Covenant.Yaml
