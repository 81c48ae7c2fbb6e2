import Covenant.Text.Blank
/-!
# Fixed time-zone offsets

An offset is written `UTC`, `Z` or `GMT` (any case) for zero, or as a sign followed by
hours, optionally after a `UTC` or `GMT` prefix: one or two digits of hours, or four digits
of hours and minutes, with any colons ignored (`+02:00`, `-0530`, `UTC+1`). The offset in
seconds must lie strictly within one day either way.
-/

namespace Covenant.Calendar

/-- The offset east of UTC in seconds that a time-zone text names, if it names one. -/
def offsetSeconds? (tz : String) : Option Int :=
  let tz := Text.trim tz
  let lower := String.ofList (tz.toList.map Char.toLower)
  if lower == "utc" || lower == "z" || lower == "gmt" then some 0
  else
    let cs := tz.toList
    let cs :=
      if "UTC".toList.isPrefixOf cs then cs.drop 3
      else if "GMT".toList.isPrefixOf cs then cs.drop 3
      else cs
    let signed : Option (Int × List Char) := match cs with
      | '+' :: r => some (1, r)
      | '-' :: r => some (-1, r)
      | _ => none
    signed.bind fun (sign, r) =>
      let ds := r.filter (· ≠ ':')
      let value (xs : List Char) : Int := (xs.foldl (fun a c => a * 10 + (c.toNat - 48)) 0 : Nat)
      if !ds.all Char.isDigit then none
      else
        let hm : Option (Int × Int) :=
          if ds.length = 1 ∨ ds.length = 2 then some (value ds, 0)
          else if ds.length = 4 then some (value (ds.take 2), value (ds.drop 2))
          else none
        hm.bind fun (h, m) =>
          let secs := sign * (h * 3600 + m * 60)
          if -86400 < secs ∧ secs < 86400 then some secs else none

end Covenant.Calendar
