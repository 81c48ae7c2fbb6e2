import Covenant.Options.Basic
import Covenant.Toml.Document
import Covenant.Decimal.Layout
import Covenant.Decimal.Read
import Covenant.Text.Quote
import Covenant.Error
/-!
# Loading processing options from TOML

A settings document names options by their kebab-case keys, with the stages to skip in a
`skip` table; every key is optional. The keys of a table are taken in the order of their
text (not of the document), and the first value that does not fit stops the loading with a
complaint placed under it:

* switches want a boolean (`expected a boolean`);
* the import depth and the time budgets want a whole number that is not negative (`usize`,
  `u64`); a negative one is an invalid value rather than an invalid type;
* `skip` wants a table (`struct SkipStages`), or an array whose items switch the stages in
  the order imports, clauses, cross-references, loops, expressions, headers (missing items
  leave a stage on, further items are not looked at); a date-time leaves every stage on;
* `today` wants a string holding a strict `YYYY-MM-DD` date, and a date that does not read
  is reported in the date reader's words.

Before any of this, every value read, and every value under a key that names no option, is
sized: an integer must fit 128 bits ("integer number overflowed") and a float must not
overflow to infinity ("floating-point number overflowed"). What was found is described by
kind: a string with its quoted text, an integer (marked `as i128` or `as u128` beyond 64
bits), a floating point number or a boolean with its value, an array as a sequence, and a
table or a date-time as a map.
-/

namespace Covenant

namespace Toml

/-- The value of an integer's digits in its radix (a decimal keeps its sign), if there are
any digits. -/
def integerValue (digits : String) (radix : Nat) : Option Int :=
  let (neg, ds) := match digits.toList with
    | '-' :: r => (true, r)
    | '+' :: r => (false, r)
    | r => (false, r)
  if ds.isEmpty then none
  else
    let n := ds.foldl (fun a c => a * radix + hexDigitValue c) 0
    some (if neg then -(n : Int) else n)

/-- The binary64 value of a float's text, unless it overflows to infinity. -/
def floatValue (text : String) : Option Float :=
  match Decimal.readFloat? text with
  | some f => if f.isInf && !text.contains 'i' then none else some f
  | none => none

/-- What a value offers a reader once it is sized. -/
inductive Offered where
  /-- An integer that fits a signed or an unsigned 64-bit word. -/
  | integer (value : Int)
  /-- An integer that needs 128 bits, signed or unsigned. -/
  | wide (value : Int) (signed : Bool)
  | float (value : Float)
  | string (text : String)
  | boolean (value : Bool)
  /-- A table or a date-time. -/
  | map
  /-- An array. -/
  | seq

/-- Sizes a value. -/
def offered : TomlValue → Except TomlError Offered
  | .integer d r sp =>
    match integerValue d r with
    | none => .error ⟨"integer number overflowed", sp⟩
    | some n =>
      if -(Nat.pow 2 63 : Int) ≤ n ∧ n < (Nat.pow 2 64 : Int) then .ok (.integer n)
      else if -(Nat.pow 2 127 : Int) ≤ n ∧ n < (Nat.pow 2 127 : Int) then .ok (.wide n true)
      else if 0 ≤ n ∧ n < (Nat.pow 2 128 : Int) then .ok (.wide n false)
      else .error ⟨"integer number overflowed", sp⟩
  | .float t sp =>
    match floatValue t with
    | some f => .ok (.float f)
    | none => .error ⟨"floating-point number overflowed", sp⟩
  | .string s _ => .ok (.string s)
  | .boolean b _ => .ok (.boolean b)
  | .datetime .. | .table .. => .ok .map
  | .array .. => .ok .seq

/-- The text of a float in a complaint: positional, with `.0` on whole numbers. -/
def floatText (f : Float) : String :=
  let s := Decimal.Layout.plain.render f
  if f.isFinite && !s.contains '.' then s ++ ".0" else s

/-- How a complaint describes a value that was found. -/
def Offered.describe : Offered → String
  | .integer n => "integer `" ++ toString n ++ "`"
  | .wide n signed => "integer `" ++ toString n ++ "` as " ++ (if signed then "i128" else "u128")
  | .float f => "floating point `" ++ floatText f ++ "`"
  | .string s => "string " ++ Text.quoted s
  | .boolean b => "boolean `" ++ toString b ++ "`"
  | .map => "map"
  | .seq => "sequence"

/-- The complaint that a value is of the wrong kind. -/
def invalidType (o : Offered) (wanted : String) (sp : Span) : TomlError :=
  ⟨"invalid type: " ++ o.describe ++ ", expected " ++ wanted, sp⟩

mutual

/-- The first problem met when sizing a value and everything in it; the entries of a table
are taken in the order of their keys. -/
def sizingProblem : TomlValue → Option TomlError
  | .array items _ _ => itemsProblem items
  | .table es _ _ => (entriesProblem es).map (·.2)
  | v => match offered v with
    | .error e => some e
    | .ok _ => none

/-- The first problem among items, in order. -/
def itemsProblem : List TomlValue → Option TomlError
  | [] => none
  | v :: vs =>
    match sizingProblem v with
    | some e => some e
    | none => itemsProblem vs

/-- The problem under the least key that has one. -/
def entriesProblem : List (String × TomlValue) → Option (String × TomlError)
  | [] => none
  | (k, v) :: rest =>
    match sizingProblem v, entriesProblem rest with
    | some e, some (k', e') => if k' < k then some (k', e') else some (k, e)
    | some e, none => some (k, e)
    | none, r => r

end

/-- Passes over a value that names no option; it must still be sized. -/
def passOver (v : TomlValue) : Except TomlError Unit :=
  match sizingProblem v with
  | some e => .error e
  | none => .ok ()

/-- The entries of a table in the order of their keys. -/
def byKey (es : List (String × TomlValue)) : List (String × TomlValue) :=
  es.mergeSort fun a b => !decide (b.1 < a.1)

/-- Reads a switch. -/
def readBool (v : TomlValue) : Except TomlError Bool := do
  match ← offered v with
  | .boolean b => pure b
  | o => throw (invalidType o "a boolean" v.span)

/-- Reads a whole number that is not negative; `wanted` names the number type. -/
def readCount (wanted : String) (v : TomlValue) : Except TomlError Nat := do
  match ← offered v with
  | .integer n =>
    if n < 0 then throw ⟨"invalid value: integer `" ++ toString n ++ "`, expected " ++ wanted, v.span⟩
    else pure n.toNat
  | o => throw (invalidType o wanted v.span)

/-- Reads a date from a string. -/
def readDate (v : TomlValue) : Except TomlError Calendar.Date := do
  match ← offered v with
  | .string s => (Calendar.Date.parse s).mapError fun p => ⟨p.message, v.span⟩
  | o => throw (invalidType o "a formatted date string" v.span)

/-- Applies one entry of the `skip` table. -/
def applySkip (s : SkipStages) : String × TomlValue → Except TomlError SkipStages
  | ("imports", v) => return { s with imports := ← readBool v }
  | ("clauses", v) => return { s with clauses := ← readBool v }
  | ("cross-references", v) => return { s with crossReferences := ← readBool v }
  | ("loops", v) => return { s with loops := ← readBool v }
  | ("expressions", v) => return { s with expressions := ← readBool v }
  | ("headers", v) => return { s with headers := ← readBool v }
  | (_, v) => do passOver v; pure s

/-- Reads the stages to skip from the items of an array, in the order of the stages. -/
def skipOfItems (items : List TomlValue) : Except TomlError SkipStages := do
  let item (i : Nat) : Except TomlError Bool :=
    match items[i]? with
    | some v => readBool v
    | none => pure false
  let imports ← item 0
  let clauses ← item 1
  let crossReferences ← item 2
  let loops ← item 3
  let expressions ← item 4
  let headers ← item 5
  pure { imports, clauses, crossReferences, loops, expressions, headers }

/-- Reads the `skip` value. -/
def readSkip (v : TomlValue) : Except TomlError SkipStages :=
  match v with
  | .table entries _ _ => (byKey entries).foldlM applySkip {}
  | .array items _ _ => skipOfItems items
  | .datetime .. => .ok {}
  | _ => do throw (invalidType (← offered v) "struct SkipStages" v.span)

/-- Applies one entry of the root table. -/
def applySetting (o : ProcessOptions) : String × TomlValue → Except TomlError ProcessOptions
  | ("skip", v) => return { o with skip := ← readSkip v }
  | ("no-reset", v) => return { o with noReset := ← readBool v }
  | ("no-indent", v) => return { o with noIndent := ← readBool v }
  | ("enable-field-tracking", v) => return { o with fieldTracking := ← readBool v }
  | ("strict-metadata", v) => return { o with strictMetadata := ← readBool v }
  | ("merge-import-metadata", v) => return { o with mergeImportMetadata := ← readBool v }
  | ("validate-import-types", v) => return { o with validateImportTypes := ← readBool v }
  | ("max-import-depth", v) => return { o with maxImportDepth := ← readCount "usize" v }
  | ("merge-timeout-ms", v) => return { o with mergeTimeoutMs := ← readCount "u64" v }
  | ("template-timeout-ms", v) => return { o with templateTimeoutMs := ← readCount "u64" v }
  | ("today", v) => return { o with today := some (← readDate v) }
  | (_, v) => do passOver v; pure o

end Toml

/-- Loads options from a TOML document, starting from the defaults; a document that does
not read, or a value that does not fit, is reported against the text. -/
def ProcessOptions.ofToml (text : String) : Except DocError ProcessOptions :=
  let loaded := do
    let root ← Toml.readDocument text
    (Toml.byKey root).foldlM Toml.applySetting {}
  loaded.mapError fun e => .configParse (e.render text)

end Covenant
