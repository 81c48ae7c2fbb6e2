import Covenant.Value
import Covenant.Text.Blank
/-!
# Header style

How headers are numbered and indented in one document: a format per level, the indentation
per level below the first, the switches that turn resetting and indentation off for every
level, and the levels exempt from either.

The style is read from metadata on top of the host's two switches: `level-one` …
`level-five` give formats (non-empty strings only), a non-negative `level-indent` number
gives the indentation (rounded, halves away from zero), and `no-reset` / `no-indent` either
turn the switch on (`true`) or list exempt levels (`"l., ll."`, `"l1, l3"` or a sequence of
such markers).
-/

namespace Covenant.Heading

/-- The formats used for levels without one of their own. -/
def defaultFormats : List String := ["Article %n.", "Section %n.", "(%n)", "(%n%c)", "(%n%c%r)"]

/-- The metadata keys of the five level formats. -/
def formatKeys : List String := ["level-one", "level-two", "level-three", "level-four", "level-five"]

/-- The header style of a document. -/
structure Style where
  formats : List String := defaultFormats
  indentStep : Nat := 2
  noReset : Bool := false
  noIndent : Bool := false
  resetExempt : List Bool := [false, false, false, false, false]
  indentExempt : List Bool := [false, false, false, false, false]
deriving Repr, DecidableEq

/-- The level a marker names: `l` … `lllll` by count, or `l1` … `l5` by digit (a digit form
naming another level names none). -/
def markerLevel? (marker : String) : Option Nat :=
  match marker.toList with
  | [] => none
  | 'l' :: rest =>
    match Value.readIndex? (String.ofList rest) with
    | some d => if 1 ≤ d ∧ d ≤ 5 then some d else none
    | none => if marker.length ≤ 5 ∧ marker.toList.all (· = 'l') then some marker.length else none
  | _ => none

/-- The levels a list of markers names, as five flags. A string is split at commas and
spaces; a sequence contributes its strings. Each marker is trimmed and loses trailing dots. -/
def levelFlags (v : Value) : List Bool :=
  let markers : List String := match v with
    | .str s => (s.splitOn ",").flatMap (·.splitOn " ")
    | .arr items => items.filterMap fun
      | .str s => some s
      | _ => none
    | _ => []
  let levels := markers.filterMap fun m =>
    markerLevel? (String.ofList ((Text.trim m).toList.reverse.dropWhile (· = '.')).reverse)
  (List.range 5).map fun i => levels.contains (i + 1)

/-- The nearest whole number to a non-negative value, halves away from zero, capped at the
largest 64-bit value. -/
def roundedCount (x : Float) : Nat :=
  x.round.toUInt64.toNat

/-- The largest 64-bit value. -/
def maxCount : Nat := Nat.pow 2 64 - 1

/-- The binary64 value nearest to a whole number, itself whole: exact below `2^53`, and
otherwise rounded to 53 significant bits, a half going to the even neighbour. -/
def nearestBinary64 (n : Nat) : Nat :=
  if n < Nat.pow 2 53 then n
  else
    let unit := Nat.pow 2 (Nat.log2 n - 52)
    Decimal.roundHalfEven n unit * unit

/-- The indentation step a `level-indent` number gives, if it is not negative: rounded to the
nearest whole number and capped at the largest 64-bit value. A whole number is read as the
nearest binary64 value first, as every number is. -/
def indentStep? : Number → Option Nat
  | .int i => if 0 ≤ i then some (min (nearestBinary64 i.toNat) maxCount) else none
  | .float f => if f ≥ 0.0 then some (roundedCount f) else none

/-- The indentation step metadata gives: that of a non-negative `level-indent` number, or 2. -/
def indentStepOf (m : Metadata) : Nat :=
  match Entries.get? m "level-indent" with
  | some (.num n) => (indentStep? n).getD 2
  | _ => 2

/-- Reads the header style from metadata on top of the host's switches. -/
def Style.ofMetadata (m : Metadata) (noReset noIndent : Bool) : Style :=
  let formats := (formatKeys.zip defaultFormats).map fun (k, d) => (Entries.getText? m k).getD d
  let base : Style := { formats, indentStep := indentStepOf m, noReset, noIndent }
  let base := match Entries.get? m "no-reset" with
    | some (.bool b) => { base with noReset := base.noReset || b }
    | some v => { base with resetExempt := levelFlags v }
    | none => base
  match Entries.get? m "no-indent" with
    | some (.bool b) => { base with noIndent := base.noIndent || b }
    | some v => { base with indentExempt := levelFlags v }
    | none => base

end Covenant.Heading
