/-!
# Header counters

Five counters, one per header level. Counting a header at a level first zeroes the deeper
counters (unless resetting is off or the deeper level is exempt) and then adds one to its own
counter, stopping at the largest 32-bit value.

A level format is text with placeholders: `%n` is the primary counter (the level's own for
levels 1–3, the third level's for 4 and 5), `%c` and `%C` the secondary counter (own for
levels 1–4, the fourth level's for 5) as letters, `%r` and `%R` the own counter in roman
numerals, `%l1` … `%l5` a level's counter in digits, and `%%` a percent sign. Any other `%`
stays as it is.
-/

namespace Covenant.Heading

/-- The largest counter value; counting stops there. -/
def counterLimit : Nat := Nat.pow 2 32 - 1

/-- Letters for a counter: `1 ↦ a`, `26 ↦ z`, `27 ↦ aa` (bijective base 26); zero is empty. -/
def alphabetic (n : Nat) : String :=
  String.ofList (go n n [])
where
  go (n : Nat) : Nat → List Char → List Char
    | 0, acc => acc
    | fuel + 1, acc =>
      if n = 0 then acc
      else go ((n - 1) / 26) fuel (Char.ofNat ('a'.toNat + (n - 1) % 26) :: acc)

/-- Roman numeral values with their lower-case spelling, largest first. -/
def romanTable : List (Nat × String) :=
  [(1000, "m"), (900, "cm"), (500, "d"), (400, "cd"), (100, "c"), (90, "xc"), (50, "l"),
   (40, "xl"), (10, "x"), (9, "ix"), (5, "v"), (4, "iv"), (1, "i")]

/-- Lower-case roman numerals, with as many `m` as thousands; zero is empty. -/
def roman (n : Nat) : String :=
  (romanTable.foldl (fun (acc : String × Nat) (v, s) =>
    (acc.1 ++ String.join (List.replicate (acc.2 / v) s), acc.2 % v)) ("", n)).1

/-- The counters of the five header levels. -/
structure Counters where
  values : List Nat := [0, 0, 0, 0, 0]
deriving Repr, DecidableEq

/-- A level clamped to `1..5`. -/
def clampLevel (level : Nat) : Nat := min (max level 1) 5

namespace Counters

/-- The counter of a level (clamped to `1..5`). -/
def get (c : Counters) (level : Nat) : Nat :=
  (c.values[clampLevel level - 1]?).getD 0

/-- Counts a header at a level: deeper levels not exempt are zeroed when `reset` holds, then
the level's own counter goes up by one, stopping at `counterLimit`. -/
def advance (c : Counters) (level : Nat) (reset : Bool) (exempt : List Bool) : Counters :=
  let i := clampLevel level - 1
  { values := (List.range 5).map fun j =>
      let v := (c.values[j]?).getD 0
      if j = i then min (v + 1) counterLimit
      else if reset ∧ j > i ∧ !(exempt[j]?).getD false then 0
      else v }

/-- Writes a level format for a header at a level. -/
def render (c : Counters) (format : String) (level : Nat) : String :=
  let primary := c.get (min level 3)
  let secondary := c.get (min level 4)
  let own := c.get level
  String.ofList (go format.toList primary secondary own [] format.length)
where
  go (cs : List Char) (primary secondary own : Nat) (acc : List Char) : Nat → List Char
    | 0 => acc.reverse ++ cs
    | fuel + 1 =>
      let emit (s : String) (rest : List Char) := go rest primary secondary own (s.toList.reverse ++ acc) fuel
      match cs with
      | [] => acc.reverse
      | '%' :: 'n' :: rest => emit (toString primary) rest
      | '%' :: 'c' :: rest => emit (alphabetic secondary) rest
      | '%' :: 'C' :: rest => emit (alphabetic secondary).toUpper rest
      | '%' :: 'r' :: rest => emit (roman own) rest
      | '%' :: 'R' :: rest => emit (roman own).toUpper rest
      | '%' :: '%' :: rest => emit "%" rest
      | '%' :: 'l' :: d :: rest =>
        if '1' ≤ d ∧ d ≤ '5' then emit (toString (c.get (d.toNat - '0'.toNat))) rest
        else emit "%l" (d :: rest)
      | '%' :: 'l' :: [] => emit "%l" []
      | ch :: rest => emit (String.singleton ch) rest

end Counters

end Covenant.Heading
