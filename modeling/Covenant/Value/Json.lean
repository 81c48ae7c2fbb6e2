import Covenant.Value
/-!
# Values as JSON text

The compact JSON text of a value: no blanks, entries in insertion order, whole numbers in
decimal, binary64 values in their shortest digits (`Layout.compact`, with `null` for a
non-finite value), and strings quoted with `"` and `\` escaped, the control characters
written `\b`, `\f`, `\n`, `\r`, `\t` or `\u00XX`, and every other character as itself.
-/

namespace Covenant

open Covenant.Decimal

/-- A hexadecimal digit in lower case. -/
def hexDigit (n : Nat) : Char :=
  if n < 10 then Char.ofNat (48 + n) else Char.ofNat (87 + n)

/-- A character as it appears inside a JSON string. -/
def jsonChar (c : Char) : String :=
  match c with
  | '"' => "\\\""
  | '\\' => "\\\\"
  | '\n' => "\\n"
  | '\r' => "\\r"
  | '\t' => "\\t"
  | _ =>
    if c.toNat = 8 then "\\b"
    else if c.toNat = 12 then "\\f"
    else if c.toNat < 32 then
      String.ofList ['\\', 'u', '0', '0', hexDigit (c.toNat / 16), hexDigit (c.toNat % 16)]
    else String.singleton c

/-- A string as a JSON string literal. -/
def jsonString (s : String) : String :=
  "\"" ++ String.join (s.toList.map jsonChar) ++ "\""

/-- A number as JSON text. -/
def Number.toJson : Number → String
  | .int i => toString i
  | .float f => if f.isFinite then Layout.compact.render f else "null"

/-- The compact JSON text of a value. -/
def Value.toJson : Value → String
  | .null => "null"
  | .bool b => if b then "true" else "false"
  | .num n => n.toJson
  | .str s => jsonString s
  | .arr items => "[" ++ ",".intercalate (itemsJson items) ++ "]"
  | .obj es => "\x7b" ++ ",".intercalate (entriesJson es) ++ "\x7d"
where
  itemsJson : List Value → List String
    | [] => []
    | v :: vs => Value.toJson v :: itemsJson vs
  entriesJson : List (String × Value) → List String
    | [] => []
    | (k, v) :: es => (jsonString k ++ ":" ++ Value.toJson v) :: entriesJson es

end Covenant
