import Covenant.Text.Blank
/-!
# Calendar dates

Dates are days of the proleptic Gregorian calendar with years from `-262143` to `262142`.
A date is identified with its day number, the count of days since 1970-01-01, through the
usual era arithmetic (`Date.toDays`, `Date.ofDays`); moving a date by days, months or years
goes through that number or through the month count, and any result outside the year range is
no date at all.

Moving by months keeps the day of the month where the target month has it and otherwise
takes the target month's last day (January 31 plus one month is the last of February).

Reading accepts `YYYY-MM-DD` and `YYYY/MM/DD` with a year of up to four digits or a signed
year of any length, one or two digits for month and day, and blanks before each number; a
longer text is read by its first ten bytes in the first form.
-/

namespace Covenant.Calendar

/-- A day of the proleptic Gregorian calendar. -/
structure Date where
  year : Int
  month : Nat
  day : Nat
deriving Repr, DecidableEq, Inhabited

/-- The least and greatest years a date may have. -/
def minYear : Int := -262143
def maxYear : Int := 262142

/-- Whether a year has a February 29. -/
def isLeap (y : Int) : Bool :=
  (y % 4 == 0 && y % 100 != 0) || y % 400 == 0

/-- The number of days in a month of a year; zero for a month outside `1..12`. -/
def monthLength (y : Int) (m : Nat) : Nat :=
  match m with
  | 1 | 3 | 5 | 7 | 8 | 10 | 12 => 31
  | 4 | 6 | 9 | 11 => 30
  | 2 => if isLeap y then 29 else 28
  | _ => 0

/-- The date with these parts, if it exists and its year is in range. -/
def Date.ofParts? (y : Int) (m d : Nat) : Option Date :=
  if minYear ≤ y ∧ y ≤ maxYear ∧ 1 ≤ d ∧ d ≤ monthLength y m then some ⟨y, m, d⟩ else none

/-- Days since 1970-01-01 (negative before it). -/
def Date.toDays (dt : Date) : Int :=
  let y : Int := if dt.month ≤ 2 then dt.year - 1 else dt.year
  let era := y / 400
  let yoe := y - era * 400
  let mp : Int := (dt.month + 9) % 12
  let doy := (153 * mp + 2) / 5 + dt.day - 1
  let doe := yoe * 365 + yoe / 4 - yoe / 100 + doy
  era * 146097 + doe - 719468

/-- The date with a given day number. -/
def Date.ofDays (z : Int) : Date :=
  let z := z + 719468
  let era := z / 146097
  let doe := z - era * 146097
  let yoe := (doe - doe / 1460 + doe / 36524 - doe / 146096) / 365
  let doy := doe - (365 * yoe + yoe / 4 - yoe / 100)
  let mp := (5 * doy + 2) / 153
  let d := doy - (153 * mp + 2) / 5 + 1
  let m := if mp < 10 then mp + 3 else mp - 9
  let y := yoe + era * 400 + (if m ≤ 2 then 1 else 0)
  ⟨y, m.toNat, d.toNat⟩

/-- The weekday counted from Monday as `0` to Sunday as `6`. -/
def Date.weekdayFromMonday (dt : Date) : Nat :=
  ((dt.toDays + 3) % 7).toNat

/-- The date `n` days later (earlier for negative `n`), if it is in range. -/
def Date.addDays (dt : Date) (n : Int) : Option Date :=
  let r := Date.ofDays (dt.toDays + n)
  if minYear ≤ r.year ∧ r.year ≤ maxYear then some r else none

/-- The date `n` months later, keeping the day where the target month has it and taking the
month's last day otherwise. Moves of `2^31` months or more give no date. -/
def Date.addMonths (dt : Date) (n : Int) : Option Date :=
  if n.natAbs ≥ Nat.pow 2 31 then none
  else
    let count := dt.year * 12 + (dt.month : Int) - 1 + n
    let y := count / 12
    let m := (count % 12).toNat + 1
    Date.ofParts? y m (min dt.day (monthLength y m))

/-- The date `n` years later, as `12 * n` months; a count beyond the 64-bit range gives no
date. -/
def Date.addYears (dt : Date) (n : Int) : Option Date :=
  if 12 * n < -Nat.pow 2 63 ∨ 12 * n ≥ Nat.pow 2 63 then none else dt.addMonths (12 * n)

/-- `n` in decimal, padded with zeros after any sign to `width` characters in all. -/
def padded (width : Nat) (n : Int) : String :=
  let ds := toString n.natAbs
  let digits := if n < 0 then width - 1 else width
  let body := String.ofList (List.replicate (digits - ds.length) '0') ++ ds
  if n < 0 then "-" ++ body else body

/-- `YYYY-MM-DD`; a year outside `0..9999` carries its sign and at least four digits. -/
def Date.iso (dt : Date) : String :=
  let year :=
    if 0 ≤ dt.year ∧ dt.year ≤ 9999 then padded 4 dt.year
    else (if dt.year < 0 then "-" else "+") ++ padded 4 (dt.year.natAbs : Int)
  year ++ "-" ++ padded 2 dt.month ++ "-" ++ padded 2 dt.day

/-! ## Reading -/

/-- Reads between `lo` and `hi` leading ASCII digits (at least `lo`), with their value. -/
def readDigits (lo hi : Nat) (cs : List Char) : Option (Nat × List Char) :=
  let ds := (cs.take hi).takeWhile Char.isDigit
  if ds.length < lo then none
  else some (ds.foldl (fun a c => a * 10 + (c.toNat - 48)) 0, cs.drop ds.length)

/-- Reads a year: blanks, then a signed run of digits or up to four unsigned ones. -/
def readYear (cs : List Char) : Option (Int × List Char) :=
  match cs.dropWhile Text.isBlank with
  | '-' :: r => (readDigits 1 r.length r).map fun (n, r) => (-(n : Int), r)
  | '+' :: r => (readDigits 1 r.length r).map fun (n, r) => ((n : Int), r)
  | r => (readDigits 1 4 r).map fun (n, r) => ((n : Int), r)

/-- Reads a date `Y sep M sep D` that fills the whole text. -/
def readWith (sep : Char) (cs : List Char) : Option Date := do
  let (y, r) ← readYear cs
  let r ← match r with
    | c :: r => if c = sep then some r else none
    | [] => none
  let (m, r) ← readDigits 1 2 (r.dropWhile Text.isBlank)
  let r ← match r with
    | c :: r => if c = sep then some r else none
    | [] => none
  let (d, r) ← readDigits 1 2 (r.dropWhile Text.isBlank)
  if r.isEmpty then Date.ofParts? y m d else none

/-- The first `n` bytes of a text, if a character does not straddle that point. -/
def bytePrefix? (n : Nat) (cs : List Char) : Option (List Char) :=
  go n cs []
where
  go : Nat → List Char → List Char → Option (List Char)
    | 0, _, acc => some acc.reverse
    | _ + 1, [], _ => none
    | k + 1, c :: cs, acc =>
      let w := c.utf8Size
      if w ≤ k + 1 then go (k + 1 - w) cs (c :: acc) else none

/-- Reads a date from text: `YYYY-MM-DD` or `YYYY/MM/DD` after trimming blanks, else the
first ten bytes as `YYYY-MM-DD` (so timestamps give their date). -/
def Date.read? (text : String) : Option Date :=
  let cs := (Text.trim text).toList
  if cs.isEmpty then none
  else
    match readWith '-' cs with
    | some d => some d
    | none => match readWith '/' cs with
      | some d => some d
      | none => (bytePrefix? 10 cs).bind (readWith '-')

/-- Reads a `YYYY-MM-DD` date that fills the text. -/
def Date.ofIso? (text : String) : Option Date :=
  readWith '-' text.toList

/-! ## Reading with reasons

The strict form `YYYY-MM-DD` of host settings says why a text is not a date: the text
ended early, a character is out of place, a number is out of range, or something follows
the day. Blanks may stand before each number and after each part. -/

/-- Why a text is not a date in the strict form. -/
inductive DateProblem where
  | tooShort
  | invalid
  | outOfRange
  | trailing
deriving Repr, DecidableEq

/-- The sentence that reports a problem. -/
def DateProblem.message : DateProblem → String
  | .tooShort => "premature end of input"
  | .invalid => "input contains invalid characters"
  | .outOfRange => "input is out of range"
  | .trailing => "trailing input"

/-- Reads one to `hi` digits; a value past the signed 64-bit range is out of range. -/
def scanNumber (hi : Nat) (cs : List Char) : Except DateProblem (Int × List Char) :=
  if cs.isEmpty then .error .tooShort
  else
    let ds := (cs.take hi).takeWhile Char.isDigit
    let v : Int := ds.foldl (fun a c => a * 10 + (c.toNat - 48)) 0
    if ds.isEmpty then .error .invalid
    else if v ≥ Nat.pow 2 63 then .error .outOfRange
    else .ok (v, cs.drop ds.length)

/-- Reads the year: a sign and any number of digits, or up to four bare digits. -/
def scanYear (cs : List Char) : Except DateProblem (Int × List Char) := do
  let (y, r) ← match cs with
    | '-' :: r => (scanNumber r.length r).map fun (n, r) => (-n, r)
    | '+' :: r => scanNumber r.length r
    | r => scanNumber 4 r
  if y < -Nat.pow 2 31 ∨ y ≥ Nat.pow 2 31 then .error .outOfRange else .ok (y, r)

/-- Expects a dash, after blanks. -/
def scanDash (cs : List Char) : Except DateProblem (List Char) :=
  match cs.dropWhile Text.isBlank with
  | [] => .error .tooShort
  | c :: r => if c = '-' then .ok r else .error .invalid

/-- Reads a two-digit field and checks it lies in `1..hi`. -/
def scanField (hi : Nat) (cs : List Char) : Except DateProblem (Nat × List Char) := do
  let (v, r) ← scanNumber 2 (cs.dropWhile Text.isBlank)
  if v < 1 ∨ v > hi then .error .outOfRange else .ok (v.toNat, r)

/-- Reads a strict `YYYY-MM-DD` date, or says why the text is not one. -/
def Date.parse (text : String) : Except DateProblem Date := do
  let (y, r) ← scanYear (text.toList.dropWhile Text.isBlank)
  let r ← scanDash r
  let (m, r) ← scanField 12 r
  let r ← scanDash r
  let (d, r) ← scanField 31 r
  if !(r.dropWhile Text.isBlank).isEmpty then .error .trailing
  else match Date.ofParts? y m d with
    | some dt => .ok dt
    | none => .error .outOfRange

end Covenant.Calendar
