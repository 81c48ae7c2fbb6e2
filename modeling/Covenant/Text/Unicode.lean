import Covenant.Text.Unicode.Tables
/-!
# Unicode character classes and case mapping

The character classes the library tests (alphabetic, numeric, lowercase, uppercase, word
characters, and the two used to find the end of a word when lowercasing) and the full case
mappings, read from the tables of `Covenant.Text.Unicode.Tables`.

A class is an array of disjoint ranges in increasing order, searched by halving. Case
mapping is by character, except that a capital sigma lowercases to the final form `ς` when it
ends a word: some cased character comes before it (skipping case-ignorable ones) and none
comes after it.
-/

namespace Covenant.Text.Unicode

/-- The value of a lowercase hexadecimal digit. -/
def hexValue (c : Char) : Nat :=
  if c.isDigit then c.toNat - 48 else c.toNat - 87

/-- Reads a list of ranges `lo,hi;` and `cp;`. -/
def decodeRanges (s : String) : Array (Nat × Nat) :=
  let step := fun (st : Nat × Option Nat × Array (Nat × Nat)) (c : Char) =>
    let (n, lo, acc) := st
    if c = ',' then (0, some n, acc)
    else if c = ';' then (0, none, acc.push (lo.getD n, n))
    else (n * 16 + hexValue c, lo, acc)
  (s.foldl step (0, none, #[])).2.2

/-- Reads a case mapping `code:mapped,…;`. -/
def decodeMapping (s : String) : Array (Nat × List Nat) :=
  let step := fun (st : Nat × Nat × List Nat × Array (Nat × List Nat)) (c : Char) =>
    let (n, key, vals, acc) := st
    if c = ':' then (0, n, [], acc)
    else if c = ',' then (0, key, n :: vals, acc)
    else if c = ';' then (0, 0, [], acc.push (key, (n :: vals).reverse))
    else (n * 16 + hexValue c, key, vals, acc)
  (s.foldl step (0, 0, [], #[])).2.2.2

/-- Whether `n` lies in one of the ranges, which are disjoint and in increasing order. -/
def inRanges (t : Array (Nat × Nat)) (n : Nat) : Bool :=
  go 0 t.size 64
where
  go (lo hi : Nat) : Nat → Bool
    | 0 => false
    | fuel + 1 =>
      if lo < hi then
        let mid := (lo + hi) / 2
        let (a, b) := t.getD mid (0, 0)
        if n < a then go lo mid fuel
        else if b < n then go (mid + 1) hi fuel
        else true
      else false

/-- The entry for `n` in a mapping sorted by code. -/
def findMapping (t : Array (Nat × List Nat)) (n : Nat) : Option (List Nat) :=
  go 0 t.size 64
where
  go (lo hi : Nat) : Nat → Option (List Nat)
    | 0 => none
    | fuel + 1 =>
      if lo < hi then
        let mid := (lo + hi) / 2
        let (k, v) := t.getD mid (0, [])
        if n < k then go lo mid fuel
        else if k < n then go (mid + 1) hi fuel
        else some v
      else none

/-- The alphabetic ranges. -/
def alphabeticRanges : Array (Nat × Nat) := decodeRanges alphabeticText
/-- The numeric ranges. -/
def numericRanges : Array (Nat × Nat) := decodeRanges numericText
/-- The lowercase ranges. -/
def lowercaseRanges : Array (Nat × Nat) := decodeRanges lowercaseText
/-- The uppercase ranges. -/
def uppercaseRanges : Array (Nat × Nat) := decodeRanges uppercaseText
/-- The word-character ranges. -/
def wordRanges : Array (Nat × Nat) := decodeRanges wordText
/-- The case-ignorable ranges. -/
def caseIgnorableRanges : Array (Nat × Nat) := decodeRanges caseIgnorableText
/-- The cased ranges. -/
def casedRanges : Array (Nat × Nat) := decodeRanges casedText
/-- The ranges of characters that do not print on their own. -/
def hiddenRanges : Array (Nat × Nat) := decodeRanges hiddenText
/-- The uppercase mapping. -/
def upperMapping : Array (Nat × List Nat) := decodeMapping upperMapText
/-- The lowercase mapping. -/
def lowerMapping : Array (Nat × List Nat) := decodeMapping lowerMapText

end Covenant.Text.Unicode

namespace Covenant.Text

open Unicode

/-- Whether a character is alphabetic. -/
def isAlphabetic (c : Char) : Bool := inRanges alphabeticRanges c.toNat
/-- Whether a character is a number of any kind. -/
def isNumeric (c : Char) : Bool := inRanges numericRanges c.toNat
/-- Whether a character is alphabetic or numeric. -/
def isAlphanumeric (c : Char) : Bool := isAlphabetic c || isNumeric c
/-- Whether a character is lowercase. -/
def isLowercase (c : Char) : Bool := inRanges lowercaseRanges c.toNat
/-- Whether a character is uppercase. -/
def isUppercase (c : Char) : Bool := inRanges uppercaseRanges c.toNat
/-- Whether a character is a word character, for word boundaries. -/
def isWordChar (c : Char) : Bool := inRanges wordRanges c.toNat
/-- Whether a character is ignored when looking for the cased neighbours of a sigma. -/
def isCaseIgnorable (c : Char) : Bool := inRanges caseIgnorableRanges c.toNat
/-- Whether a character has case. -/
def isCased (c : Char) : Bool := inRanges casedRanges c.toNat

/-- The characters a character uppercases to. -/
def upperChars (c : Char) : List Char :=
  match findMapping upperMapping c.toNat with
  | some ns => ns.map Char.ofNat
  | none => [c]

/-- The characters a character lowercases to, out of context. -/
def lowerChars (c : Char) : List Char :=
  match findMapping lowerMapping c.toNat with
  | some ns => ns.map Char.ofNat
  | none => [c]

/-- Uppercases a text. -/
def toUpper (s : String) : String :=
  String.ofList (s.toList.flatMap upperChars)

/-- Whether, after skipping case-ignorable characters, the next one is cased. -/
def casedAhead (cs : List Char) : Bool :=
  match cs.dropWhile isCaseIgnorable with
  | c :: _ => isCased c
  | [] => false

/-- Lowercases a text; a capital sigma that ends a word becomes `ς`. -/
def toLower (s : String) : String :=
  String.ofList (go [] s.toList)
where
  go (before : List Char) : List Char → List Char
    | [] => []
    | c :: cs =>
      let lowered :=
        if c = 'Σ' then [if casedAhead before && !casedAhead cs then 'ς' else 'σ']
        else lowerChars c
      lowered ++ go (c :: before) cs

end Covenant.Text
