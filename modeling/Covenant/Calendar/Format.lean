import Covenant.Calendar.Date
/-!
# Writing dates

A date format is text with tokens: `YYYY` (year, four digits), `YY` (year of the century),
`MMMM` and `MMM` (month name, first three letters), `MM` and `M` (month number, padded or
not), `Do` (ordinal day), `DD` and `D` (day), `dddd` and `ddd` (weekday name, first three
letters). At each position the longest token wins, and `[...]` writes its contents verbatim.
A format with no token at all is replaced by the ISO format `YYYY-MM-DD`, and a format may
also be the name of a preset (`iso`, `us`, `eu`, `long`, `legal`, …, in any case).

Names and ordinals come from one of four languages, chosen from a locale tag by its
language part.
-/

namespace Covenant.Calendar

/-- The languages that dates can be written in. -/
inductive Locale where
  | en
  | es
  | fr
  | de
deriving Repr, DecidableEq, Inhabited

namespace Locale

/-- The language of a tag such as `en`, `es-ES` or `fr_CA`, by the part before the first
`-` or `_`, in any case; an unknown language is English. -/
def ofTag (tag : String) : Locale :=
  let lang := String.ofList ((tag.toList.takeWhile (fun c => c ≠ '-' ∧ c ≠ '_')).map Char.toLower)
  if lang == "es" then .es else if lang == "fr" then .fr else if lang == "de" then .de else .en

/-- The two-letter code. -/
def code : Locale → String
  | .en => "en"
  | .es => "es"
  | .fr => "fr"
  | .de => "de"

/-- Month names, January first. -/
def months : Locale → List String
  | .en => ["January", "February", "March", "April", "May", "June", "July", "August",
      "September", "October", "November", "December"]
  | .es => ["enero", "febrero", "marzo", "abril", "mayo", "junio", "julio", "agosto",
      "septiembre", "octubre", "noviembre", "diciembre"]
  | .fr => ["janvier", "février", "mars", "avril", "mai", "juin", "juillet", "août",
      "septembre", "octobre", "novembre", "décembre"]
  | .de => ["Januar", "Februar", "März", "April", "Mai", "Juni", "Juli", "August",
      "September", "Oktober", "November", "Dezember"]

/-- Weekday names, Monday first. -/
def weekdays : Locale → List String
  | .en => ["Monday", "Tuesday", "Wednesday", "Thursday", "Friday", "Saturday", "Sunday"]
  | .es => ["lunes", "martes", "miércoles", "jueves", "viernes", "sábado", "domingo"]
  | .fr => ["lundi", "mardi", "mercredi", "jeudi", "vendredi", "samedi", "dimanche"]
  | .de => ["Montag", "Dienstag", "Mittwoch", "Donnerstag", "Freitag", "Samstag", "Sonntag"]

end Locale

/-- `1st`, `2nd`, `3rd`, `4th`, `11th`, `12th`, `13th`, `21st`, … -/
def englishOrdinal (n : Nat) : String :=
  let suffix :=
    if 11 ≤ n % 100 ∧ n % 100 ≤ 13 then "th"
    else match n % 10 with
      | 1 => "st"
      | 2 => "nd"
      | 3 => "rd"
      | _ => "th"
  toString n ++ suffix

/-- The ordinal of a day of the month in a language. -/
def Locale.ordinal (l : Locale) (d : Nat) : String :=
  match l with
  | .en => englishOrdinal d
  | .es => toString d ++ "º"
  | .fr => if d = 1 then "1er" else toString d ++ "e"
  | .de => toString d ++ "."

/-- The ISO format, used when a format has no token. -/
def isoFormat : String := "YYYY-MM-DD"

/-- The token format of a named preset, by its name in any case. -/
def preset? (name : String) : Option String :=
  match String.ofList (name.toList.map Char.toLower) with
  | "iso" => some isoFormat
  | "us" => some "MM/DD/YYYY"
  | "eu" | "european" => some "DD/MM/YYYY"
  | "long" => some "MMMM D, YYYY"
  | "medium" => some "MMM D, YYYY"
  | "short" => some "MM/DD/YY"
  | "full" => some "dddd, MMMM D, YYYY"
  | "legal" => some "Do [day of] MMMM, YYYY"
  | _ => none

/-- The parts of a date a token writes. -/
inductive Token where
  | year4 | year2 | monthName | monthShort | month2 | month | ordinal | day2 | day
  | weekdayName | weekdayShort
deriving Repr, DecidableEq

/-- Tokens with their spelling, longest first where one spelling extends another. -/
def Token.spellings : List (String × Token) :=
  [("YYYY", .year4), ("MMMM", .monthName), ("dddd", .weekdayName), ("MMM", .monthShort),
   ("ddd", .weekdayShort), ("YY", .year2), ("MM", .month2), ("Do", .ordinal), ("DD", .day2),
   ("M", .month), ("D", .day)]

/-- A piece of a format: verbatim text or a token. -/
inductive Piece where
  | text (s : String)
  | token (t : Token)
deriving Repr, DecidableEq

/-- The token spelled at the start of `cs`, with the rest. -/
def Token.atStart? (cs : List Char) : Option (Token × List Char) :=
  Token.spellings.findSome? fun (sp, t) =>
    if sp.toList.isPrefixOf cs then some (t, cs.drop sp.length) else none

/-- Splits a format into pieces; `none` if it has no token. -/
def pieces? (fmt : String) : Option (List Piece) :=
  let (ps, found) := go fmt.toList [] [] false fmt.length
  if found then some ps else none
where
  flush (lit : List Char) (acc : List Piece) : List Piece :=
    if lit.isEmpty then acc else .text (String.ofList lit.reverse) :: acc
  go : List Char → List Char → List Piece → Bool → Nat → List Piece × Bool
    | _, lit, acc, found, 0 => ((flush lit acc).reverse, found)
    | [], lit, acc, found, _ + 1 => ((flush lit acc).reverse, found)
    | c :: cs, lit, acc, found, fuel + 1 =>
      let bracket : Option (List Char × List Char) :=
        if c = '[' then
          let inner := cs.takeWhile (· ≠ ']')
          if inner.length < cs.length then some (inner, cs.drop (inner.length + 1)) else none
        else none
      match bracket with
      | some (inner, rest) =>
        go rest [] (.text (String.ofList inner) :: flush lit acc) found fuel
      | none =>
        match Token.atStart? (c :: cs) with
        | some (t, rest) => go rest [] (.token t :: flush lit acc) true fuel
        | none => go cs (c :: lit) acc found fuel

/-- What a token writes for a date. -/
def Token.render (t : Token) (dt : Date) (l : Locale) : String :=
  let monthName := (l.months[dt.month - 1]?).getD ""
  let weekday := (l.weekdays[dt.weekdayFromMonday]?).getD ""
  match t with
  | .year4 => padded 4 dt.year
  | .year2 => padded 2 (dt.year % 100)
  | .monthName => monthName
  | .monthShort => String.ofList (monthName.toList.take 3)
  | .month2 => padded 2 dt.month
  | .month => toString dt.month
  | .ordinal => l.ordinal dt.day
  | .day2 => padded 2 dt.day
  | .day => toString dt.day
  | .weekdayName => weekday
  | .weekdayShort => String.ofList (weekday.toList.take 3)

/-- Writes a date with a preset name or a token format; a format without tokens writes the
ISO form. -/
def Date.format (dt : Date) (fmt : String) (l : Locale) : String :=
  let fmt := (preset? fmt).getD fmt
  let ps := (pieces? fmt).getD ((pieces? isoFormat).getD [])
  String.join (ps.map fun
    | .text s => s
    | .token t => t.render dt l)

end Covenant.Calendar
