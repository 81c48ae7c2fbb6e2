import Covenant.Calendar.Format
import Covenant.Text.NumberWords
import Covenant.Text.Unicode
import Covenant.Template.Expr
/-!
# Template helpers

Each helper takes evaluated arguments and gives a new value, or fails with a reason; the
engine then leaves the expression as written. Arguments are read leniently:

* *text* is the display text of a value (a mapping has none);
* a *number* is a number, or a text that reads as one once commas, underscores and spaces are
  taken out; it must be finite;
* a *count* is a number that is whole and not negative;
* a *date* is a text in one of the date forms (`2024-01-31`, `2024/01/31`, or a timestamp
  starting with a date).

Optional arguments that are absent or null take their defaults. Whole results of arithmetic
below `2^53` in size become whole numbers.
-/

namespace Covenant.Template

open Covenant.Decimal

/-- Settings visible to helpers. -/
structure HelperContext where
  today : Calendar.Date
  locale : Calendar.Locale := .en
  dateFormat : String := Calendar.isoFormat

/-- Why a helper call failed. -/
inductive HelperError where
  | unknown (name : String)
  | arity (name expected : String) (received : Nat)
  | invalid (name : String) (position : Nat) (reason : String)

/-- The kind name of a helper error. -/
def HelperError.kind : HelperError → String
  | .unknown _ => "Unknown"
  | .arity .. => "Arity"
  | .invalid .. => "InvalidArgument"

/-- The message of a helper error. -/
def HelperError.message : HelperError → String
  | .unknown n => "unknown helper `" ++ n ++ "`"
  | .arity n e r => "`" ++ n ++ "` expects " ++ e ++ " argument(s) but received " ++ toString r
  | .invalid n p r => "`" ++ n ++ "` argument " ++ toString p ++ ": " ++ r

/-- Whether a helper receives null for an undefined argument rather than leaving the whole
expression unresolved. -/
def acceptsMissing (name : String) : Bool :=
  name = "default" || name = "eq" || name = "not"

/-- The arguments of one call, with the helper's name for error messages. -/
structure Args where
  name : String
  values : List Value

namespace Args

/-- Fails unless the number of arguments is within bounds (`none`: no upper bound). -/
def arity (a : Args) (lo : Nat) (hi : Option Nat) : Except HelperError Unit :=
  let n := a.values.length
  let ok := lo ≤ n && (match hi with | some h => n ≤ h | none => true)
  if ok then .ok ()
  else
    let expected := match hi with
      | some h => if h = lo then toString lo else toString lo ++ " to " ++ toString h
      | none => "at least " ++ toString lo
    .error (.arity a.name expected n)

/-- The error for argument `i` (counted from zero). -/
def invalid (a : Args) (i : Nat) (reason : String) : HelperError :=
  .invalid a.name (i + 1) reason

/-- Argument `i` as text. -/
def text (a : Args) (i : Nat) : Except HelperError String :=
  match a.values[i]?.bind Value.display with
  | some s => .ok s
  | none => .error (a.invalid i "expected text")

/-- Argument `i` as text, if it is present, not null, and has a display text. -/
def optionalText (a : Args) (i : Nat) : Option String :=
  match a.values[i]? with
  | some .null | none => none
  | some v => v.display

/-- Argument `i` as a finite number. -/
def number (a : Args) (i : Nat) : Except HelperError Float :=
  let n := match a.values[i]? with
    | some (.num n) => some n.toFloat
    | some (.str s) =>
      readFloat? (String.ofList (s.toList.filter fun c => !(c = ',' || c = '_' || c = ' ')))
    | _ => none
  match n with
  | some f => if f.isFinite then .ok f else .error (a.invalid i "expected a number")
  | none => .error (a.invalid i "expected a number")

/-- A finite value that is whole and not negative as a count, saturating at `2^64 - 1`. -/
def countOf (f : Float) : Nat :=
  if f ≥ 18446744073709551615.0 then 18446744073709551615 else f.toUInt64.toNat

/-- Argument `i` as a count. -/
def count (a : Args) (i : Nat) : Except HelperError Nat := do
  let f ← a.number i
  if f < 0.0 || f - f.floor != 0.0 then throw (a.invalid i "expected a non-negative whole number")
  pure (countOf f)

/-- Argument `i` as a count, if it is present and not null. -/
def optionalCount (a : Args) (i : Nat) : Except HelperError (Option Nat) :=
  match a.values[i]? with
  | none | some .null => .ok none
  | some _ => (a.count i).map some

/-- Argument `i` as a date. -/
def date (a : Args) (i : Nat) : Except HelperError Calendar.Date :=
  match a.values[i]? with
  | some (.str s) =>
    match Calendar.Date.read? s with
    | some d => .ok d
    | none => .error (a.invalid i "expected a date such as 2024-01-31")
  | _ => .error (a.invalid i "expected a date such as 2024-01-31")

end Args

/-- A binary64 value truncated toward zero to a 64-bit signed whole number, saturating. -/
def saturatingInt (f : Float) : Int :=
  if f ≥ 9223372036854775807.0 then 9223372036854775807
  else if f ≤ -9223372036854775808.0 then -9223372036854775808
  else if f < 0.0 then -((-f).toUInt64.toNat : Int)
  else (f.toUInt64.toNat : Int)

/-- A number as a value: whole and below `2^53` in size gives a whole number. -/
def numberValue (f : Float) : Value :=
  if f - f.floor == 0.0 && f.abs < 9007199254740992.0 then .num (.int (saturatingInt f))
  else if f.isFinite then .num (.float f) else .null

/-- `a` to the power `b` by repeated squaring, as binary64 arithmetic does it. -/
def powi (a : Float) (b : Nat) : Float :=
  go a b 1.0 64
where
  go (a : Float) (b : Nat) (r : Float) : Nat → Float
    | 0 => r
    | fuel + 1 =>
      let r := if b % 2 = 1 then r * a else r
      if b / 2 = 0 then r else go (a * a) (b / 2) r fuel

/-- One digit of a whole part of `n` digits, at index `i`: the separator goes before it when it
begins a group of three counted from the right. -/
def groupedDigit (separator : String) (n : Nat) (p : Char × Nat) : String :=
  (if p.2 > 0 && (n - p.2) % 3 = 0 then separator else "") ++ p.1.toString

/-- The digits of a whole part with a separator between groups of three from the right. -/
def groupDigits (separator : String) (whole : List Char) : String :=
  String.join (whole.zipIdx.map (groupedDigit separator whole.length))

/-- Fixed decimals with a thousands separator; a minus sign only when a digit is not zero. -/
def formatGrouped (x : Float) (decimals : Nat) (separator : String) : String :=
  let fixedText := fixed decimals x.abs
  let whole := fixedText.toList.takeWhile (· ≠ '.')
  let fraction := (fixedText.toList.dropWhile (· ≠ '.')).drop 1
  let sign := if x < 0.0 && fixedText.toList.any (fun c => c.isDigit && c ≠ '0') then "-" else ""
  sign ++ groupDigits separator whole ++
    (if fraction.isEmpty then "" else "." ++ String.ofList fraction)

/-- ASCII letters uppercased. -/
def asciiUpper (s : String) : String := String.ofList (s.toList.map Char.toUpper)

/-- An amount of money: a known currency by its symbol, any other by its code after. -/
def formatCurrency (amount : Float) (currency : String) (decimals : Nat) : String :=
  let code := asciiUpper currency
  let symbol := if code = "USD" || code = "CAD" || code = "AUD" then "$"
    else if code = "EUR" then "€" else if code = "GBP" then "£" else if code = "JPY" then "¥"
    else ""
  let digits := formatGrouped amount.abs decimals ","
  let sign := if amount < 0.0 then "-" else ""
  if symbol.isEmpty then sign ++ digits ++ " " ++ code else sign ++ symbol ++ digits

/-- The first character uppercased. -/
def capitalize (s : String) : String :=
  match s.toList with
  | c :: cs => String.ofList (Text.upperChars c ++ cs)
  | [] => ""

/-- Each space-separated word lowercased and capitalized. -/
def titleCase (s : String) : String :=
  " ".intercalate ((s.splitOn " ").map fun w => capitalize (Text.toLower w))

/-- Words split at characters that are neither letters nor digits, and where a lowercase
letter or digit is followed by an uppercase letter. -/
def splitWords (s : String) : List String :=
  let step := fun (st : List String × List Char × Bool) (c : Char) =>
    let (words, cur, prevLower) := st
    let flush := fun (ws : List String) (cur : List Char) =>
      if cur.isEmpty then ws else String.ofList cur.reverse :: ws
    if !Text.isAlphanumeric c then (flush words cur, [], false)
    else
      let (words, cur) :=
        if Text.isUppercase c && prevLower && !cur.isEmpty then (flush words cur, []) else (words, cur)
      (words, c :: cur, Text.isLowercase c || Text.isNumeric c)
  let (words, cur, _) := s.toList.foldl step ([], [], false)
  (if cur.isEmpty then words else String.ofList cur.reverse :: words).reverse

/-- `camelCase`: the first word lowercased, the others capitalized. -/
def camelCase (s : String) : String :=
  String.join ((splitWords s).zipIdx.map fun (w, i) =>
    let lower := Text.toLower w
    if i = 0 then lower else capitalize lower)

/-- The English plural of a word. -/
def pluralize (word : String) : String :=
  let lower := Text.toLower word
  let ends := fun (suffix : String) => lower.endsWith suffix
  if ends "y" && !(ends "ay" || ends "ey" || ends "oy" || ends "uy") then
    String.ofList word.toList.dropLast ++ "ies"
  else if ends "s" || ends "x" || ends "z" || ends "ch" || ends "sh" then word ++ "es"
  else word ++ "s"

/-- Replaces every occurrence of a non-empty pattern, left to right. -/
def replaceAll (text pat rep : List Char) : List Char :=
  go text.length text
where
  go : Nat → List Char → List Char
    | 0, cs => cs
    | fuel + 1, cs =>
      match cs with
      | [] => []
      | c :: rest =>
        if pat.isPrefixOf cs then rep ++ go fuel (cs.drop pat.length)
        else c :: go fuel rest

/-- A text transformation of one argument. -/
def mapText (a : Args) (f : String → String) : Except HelperError Value := do
  a.arity 1 (some 1)
  pure (.str (f (← a.text 0)))

/-- Arithmetic on two numbers; a result that is not finite is an error. -/
def arithmetic (a : Args) (op : Float → Float → Option Float) : Except HelperError Value := do
  a.arity 2 (some 2)
  let x ← a.number 0
  let y ← a.number 1
  match op x y with
  | some r => if r.isFinite then pure (numberValue r) else throw (a.invalid 1 "the result is not a finite number")
  | none => throw (a.invalid 1 "the result is not a finite number")

/-- Moves a date by a whole number of units. -/
def shiftDate (a : Args) (shift : Calendar.Date → Int → Option Calendar.Date) :
    Except HelperError Value := do
  a.arity 2 (some 2)
  let d ← a.date 0
  let amount ← a.number 1
  if amount - amount.floor != 0.0 then throw (a.invalid 1 "expected a whole number")
  match shift d (saturatingInt amount) with
  | some r => pure (.str r.iso)
  | none => throw (a.invalid 1 "the resulting date is out of range")

/-- Calls a helper by name. -/
def callHelper (name : String) (values : List Value) (ctx : HelperContext) :
    Except HelperError Value :=
  let a : Args := ⟨name, values⟩
  match name with
  | "addYears" => shiftDate a Calendar.Date.addYears
  | "addMonths" => shiftDate a Calendar.Date.addMonths
  | "addDays" => shiftDate a Calendar.Date.addDays
  | "formatDate" => do
    a.arity 1 (some 2)
    let d ← a.date 0
    let fmt := (a.optionalText 1).getD ctx.dateFormat
    pure (.str (d.format fmt ctx.locale))
  | "formatCurrency" => do
    a.arity 1 (some 3)
    let amount ← a.number 0
    let currency := (a.optionalText 1).getD "USD"
    let decimals := (← a.optionalCount 2).getD 2
    pure (.str (formatCurrency amount currency decimals))
  | "formatInteger" => do
    a.arity 1 (some 2)
    let n ← a.number 0
    let sep := (a.optionalText 1).getD ","
    pure (.str (formatGrouped n 0 sep))
  | "formatPercent" => do
    a.arity 1 (some 2)
    let ratio ← a.number 0
    let decimals := (← a.optionalCount 1).getD 0
    pure (.str (formatGrouped (ratio * 100.0) decimals "," ++ "%"))
  | "round" => do
    a.arity 1 (some 2)
    let n ← a.number 0
    let decimals := (← a.optionalCount 1).getD 0
    let factor := powi 10.0 (min decimals 2147483647)
    pure (numberValue ((n * factor).round / factor))
  | "numberToWords" => do
    a.arity 1 (some 1)
    let n ← a.number 0
    if n - n.floor != 0.0 || n.abs ≥ 1e15 then
      throw (a.invalid 0 "expected a whole number below one quadrillion")
    pure (.str (Text.numberWords (saturatingInt n)))
  | "upper" => mapText a Text.toUpper
  | "lower" => mapText a Text.toLower
  | "capitalize" => mapText a capitalize
  | "capitalizeWords" | "titleCase" => mapText a titleCase
  | "kebabCase" => mapText a fun s => Text.toLower ("-".intercalate (splitWords s))
  | "snakeCase" => mapText a fun s => Text.toLower ("_".intercalate (splitWords s))
  | "camelCase" => mapText a camelCase
  | "pascalCase" => mapText a fun s => String.join ((splitWords s).map fun w => capitalize (Text.toLower w))
  | "trim" => mapText a Text.trim
  | "initials" => mapText a fun s =>
    String.ofList ((Text.words s).flatMap fun w =>
      match w.toList.find? Text.isAlphabetic with
      | some c => Text.upperChars c
      | none => [])
  | "truncate" => do
    a.arity 2 (some 3)
    let text ← a.text 0
    let limit ← a.count 1
    let suffix := (a.optionalText 2).getD "..."
    if text.length ≤ limit then pure (.str text)
    else pure (.str (String.ofList (text.toList.take limit) ++ suffix))
  | "concat" => do
    a.arity 1 none
    let parts ← (List.range values.length).mapM a.text
    pure (.str (String.join parts))
  | "replace" => do
    a.arity 3 (some 3)
    let text ← a.text 0
    let pat ← a.text 1
    if pat.isEmpty then throw (a.invalid 1 "the search text is empty")
    let rep ← a.text 2
    pure (.str (String.ofList (replaceAll text.toList pat.toList rep.toList)))
  | "join" => do
    a.arity 1 (some 2)
    let sep := (a.optionalText 1).getD ", "
    match values with
    | .arr items :: _ =>
      match items.mapM Value.display with
      | some parts => pure (.str (sep.intercalate parts))
      | none => throw (a.invalid 0 "items must be scalar")
    | _ => pure (.str (← a.text 0))
  | "pluralize" => do
    a.arity 2 (some 3)
    let word ← a.text 0
    let n ← a.number 1
    if (n - 1.0).abs < 2.220446049250313e-16 then return .str word
    pure (.str ((a.optionalText 2).getD (pluralize word)))
  | "default" => do
    a.arity 2 (some 2)
    match values with
    | v :: w :: _ =>
      let empty := match v with
        | .null => true
        | .str s => s.isEmpty
        | _ => false
      pure (if empty then w else v)
    | _ => pure .null
  | "add" => arithmetic a fun x y => some (x + y)
  | "subtract" => arithmetic a fun x y => some (x - y)
  | "multiply" => arithmetic a fun x y => some (x * y)
  | "divide" => arithmetic a fun x y => if y != 0.0 then some (x / y) else none
  | "eq" => do
    a.arity 2 (some 2)
    match values with
    | v :: w :: _ => pure (.bool (v.beq w || v.display == w.display))
    | _ => pure .null
  | "not" => do
    a.arity 1 (some 1)
    pure (.bool !(Value.truthy values.head?))
  | "today" => do
    a.arity 0 (some 1)
    match a.optionalText 0 with
    | some fmt => pure (.str (ctx.today.format fmt ctx.locale))
    | none => pure (.str ctx.today.iso)
  | _ => .error (.unknown name)

end Covenant.Template
