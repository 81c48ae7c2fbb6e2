/-!
# TOML date-times

A bare value that starts with digits followed by `-` or `:` is read as a date-time, and it
must be one of the four TOML forms: a date `YYYY-MM-DD`, a time `HH:MM[:SS[.fraction]]`, or
a date and a time joined by `T`, `t` or a space, with an optional offset `Z` or `±HH:MM`
when a date is present. Seconds may be left out.

The text is cut into small tokens (digit runs, `-`, `:`, `.`, `T`, a space, `Z`, `+`, and
an unknown remainder) and read left to right. The first thing that is missing or wrong is
reported as "invalid ⟨part⟩, expected ⟨what⟩": the parts are `date`, `time`, `date-time`
and `offset`. Shapes are checked before ranges: the four-digit year, the two-digit fields,
then the month, the day of that month (leap years count), the hour, the minute, the second
(up to 60) and the offset's hours and minutes. Anything left over is "failed to parse
datetime".
-/

namespace Covenant.Toml

/-- The kinds of token inside a date-time. -/
inductive StampKind where
  | digits
  | dash
  | colon
  | dot
  | t
  | space
  | z
  | plus
  | unknown
deriving Repr, DecidableEq

/-- A token of a date-time with its text. -/
structure StampToken where
  kind : StampKind
  text : List Char

/-- Cuts a date-time into tokens; an unknown character takes the rest of the text. -/
def stampTokens : Nat → List Char → List StampToken
  | 0, _ => []
  | _, [] => []
  | fuel + 1, c :: r =>
    if c.isDigit then
      let ds := r.takeWhile Char.isDigit
      ⟨.digits, c :: ds⟩ :: stampTokens fuel (r.drop ds.length)
    else
      let one (k : StampKind) := ⟨k, [c]⟩ :: stampTokens fuel r
      match c with
      | '-' => one .dash
      | ':' => one .colon
      | '.' => one .dot
      | 'T' | 't' => one .t
      | ' ' => one .space
      | 'Z' | 'z' => one .z
      | '+' => one .plus
      | _ => [⟨.unknown, c :: r⟩]

/-- Why a date-time does not read: the part concerned and what was expected there. -/
structure StampProblem where
  what : Option String := none
  expected : Option String := none

/-- The message of a date-time problem. -/
def StampProblem.message : StampProblem → String
  | ⟨none, none⟩ => "failed to parse datetime"
  | ⟨some w, none⟩ => "invalid " ++ w
  | ⟨none, some e⟩ => "invalid datetime, expected " ++ e
  | ⟨some w, some e⟩ => "invalid " ++ w ++ ", expected " ++ e

/-- Reading a date-time: the unread tokens, and a problem on failure. -/
abbrev StampM := StateT (List StampToken) (Except StampProblem)

/-- Takes the next token, which must be of kind `k`. -/
def expectStamp (k : StampKind) (what : Option String) (expected : String) : StampM StampToken := do
  match ← get with
  | t :: rest =>
    if t.kind = k then do set rest; pure t
    else throw ⟨what, some expected⟩
  | [] => throw ⟨what, some expected⟩

/-- The kind of the next token, if any. -/
def peekStamp : StampM (Option StampKind) := do
  return (← get).head?.map (·.kind)

/-- Drops the next token. -/
def skipStamp : StampM Unit := modify List.tail

/-- The value of a run of digits. -/
def stampValue (t : StampToken) : Nat :=
  t.text.foldl (fun n c => n * 10 + (c.toNat - 48)) 0

/-- Fails unless a digit run has `n` digits. -/
def needWidth (t : StampToken) (n : Nat) (what expected : String) : StampM Unit :=
  if t.text.length = n then pure () else throw ⟨some what, some expected⟩

/-- Whether a year is a leap year of the Gregorian calendar. -/
def isLeapYear (y : Nat) : Bool := y % 4 = 0 && (y % 100 ≠ 0 || y % 400 = 0)

/-- Reads the month and day after `YYYY-` and checks the date. -/
def stampDate (year : StampToken) : StampM Unit := do
  let month ← expectStamp .digits (some "date") "month"
  let _ ← expectStamp .dash (some "date") "`-` (MM-DD)"
  let day ← expectStamp .digits (some "date") "day"
  needWidth year 4 "date" "a four-digit year (YYYY)"
  needWidth month 2 "date" "a two-digit month (MM)"
  needWidth day 2 "date" "a two-digit day (DD)"
  let m := stampValue month
  let d := stampValue day
  if m < 1 || m > 12 then throw ⟨some "date", some "month between 01 and 12"⟩
  let last :=
    if m = 2 then (if isLeapYear (stampValue year) then 29 else 28)
    else if m = 4 || m = 6 || m = 9 || m = 11 then 30 else 31
  if d < 1 || d > last then
    throw ⟨some "date", some ("day between 01 and " ++ toString last)⟩

/-- Reads a time `HH:MM[:SS[.fraction]]` and checks it. -/
def stampTime : StampM Unit := do
  let hour ← expectStamp .digits (some "time") "hour"
  let _ ← expectStamp .colon (some "time") "`:` (HH:MM)"
  let minute ← expectStamp .digits (some "time") "minute"
  let second ← do
    if (← peekStamp) = some .colon then do
      skipStamp
      let s ← expectStamp .digits (some "time") "second"
      pure (some s)
    else pure none
  if second.isSome && (← peekStamp) = some .dot then do
    skipStamp
    let _ ← expectStamp .digits (some "time") "nanosecond"
  needWidth hour 2 "time" "a two-digit hour (HH)"
  needWidth minute 2 "time" "a two-digit minute (MM)"
  match second with
  | some s => needWidth s 2 "time" "a two-digit second (SS)"
  | none => pure ()
  if stampValue hour > 23 then throw ⟨some "time", some "hour between 00 and 23"⟩
  if stampValue minute > 59 then throw ⟨some "time", some "minute between 00 and 59"⟩
  match second with
  | some s => if stampValue s > 60 then throw ⟨some "time", some "second between 00 and 60"⟩
  | none => pure ()

/-- Reads an optional offset after a date and a time. -/
def stampOffset : StampM Unit := do
  match ← peekStamp with
  | none => pure ()
  | some .z => skipStamp
  | some .plus | some .dash => do
    skipStamp
    let hours ← expectStamp .digits (some "offset") "hour"
    let _ ← expectStamp .colon (some "offset") "`:` (HH:MM)"
    let minutes ← expectStamp .digits (some "offset") "minute"
    needWidth hours 2 "offset" "a two-digit hour (HH)"
    needWidth minutes 2 "offset" "a two-digit minute (MM)"
    if stampValue hours > 23 then throw ⟨some "offset", some "hours between 00 and 23"⟩
    if stampValue minutes > 59 then throw ⟨some "offset", some "minutes between 00 and 59"⟩
  | some _ => throw ⟨some "offset", some "`Z`, +OFFSET, -OFFSET"⟩

/-- Reads a whole date-time. -/
def stamp : StampM Unit := do
  let first ← expectStamp .digits none "year or hour"
  match ← peekStamp with
  | some .dash => do
    skipStamp
    stampDate first
    match ← peekStamp with
    | some .t | some .space => do
      skipStamp
      stampTime
      stampOffset
    | some _ => throw ⟨some "date-time", some "`T` between date and time"⟩
    | none => pure ()
  | some .colon => do
    modify (first :: ·)
    stampTime
  | _ => throw ⟨none, some "`-` (YYYY-MM) or `:` (HH:MM)"⟩
  if !(← get).isEmpty then throw {}

/-- Checks a date-time, giving the problem's message if it does not read. -/
def checkStamp (cs : List Char) : Except String Unit :=
  match (stamp.run' (stampTokens (cs.length + 1) cs)) with
  | .ok () => .ok ()
  | .error p => .error p.message

end Covenant.Toml
