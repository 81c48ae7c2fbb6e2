/-!
# Numbers in English words

`numberWords` writes a signed 64-bit number in English: groups of three digits named by
their scale (thousand up to quintillion), hundreds as `… hundred`, tens and ones joined by a
hyphen (`twenty-one`), no `and`, and `minus` before a negative number.
-/

namespace Covenant.Text

/-- Names of the numbers below twenty. -/
def onesWords : List String :=
  ["zero", "one", "two", "three", "four", "five", "six", "seven", "eight", "nine", "ten",
   "eleven", "twelve", "thirteen", "fourteen", "fifteen", "sixteen", "seventeen", "eighteen",
   "nineteen"]

/-- Names of the tens, indexed by the tens digit. -/
def tensWords : List String :=
  ["", "", "twenty", "thirty", "forty", "fifty", "sixty", "seventy", "eighty", "ninety"]

/-- The scales of three-digit groups, largest first. -/
def scaleWords : List (Nat × String) :=
  [(Nat.pow 10 18, "quintillion"), (Nat.pow 10 15, "quadrillion"), (Nat.pow 10 12, "trillion"),
   (Nat.pow 10 9, "billion"), (Nat.pow 10 6, "million"), (Nat.pow 10 3, "thousand")]

/-- A number below one hundred. -/
def belowHundred (n : Nat) : String :=
  if n < 20 then onesWords.getD n ""
  else if n % 10 = 0 then tensWords.getD (n / 10) ""
  else tensWords.getD (n / 10) "" ++ "-" ++ onesWords.getD (n % 10) ""

/-- A number below one thousand; zero is empty. -/
def belowThousand (n : Nat) : String :=
  let parts := (if n / 100 > 0 then [belowHundred (n / 100) ++ " hundred"] else []) ++
    (if n % 100 > 0 then [belowHundred (n % 100)] else [])
  " ".intercalate parts

/-- A non-negative number in words. -/
def magnitudeWords (n : Nat) : String :=
  if n = 0 then "zero"
  else
    let (parts, rest) := scaleWords.foldl (fun (acc : List String × Nat) (scale, name) =>
      if acc.2 ≥ scale then (acc.1 ++ [belowThousand (acc.2 / scale) ++ " " ++ name], acc.2 % scale)
      else acc) ([], n)
    " ".intercalate (parts ++ (if rest > 0 then [belowThousand rest] else []))

/-- A whole number in words, with `minus` before a negative one. -/
def numberWords (n : Int) : String :=
  if n < 0 then "minus " ++ magnitudeWords n.natAbs else magnitudeWords n.natAbs

end Covenant.Text
