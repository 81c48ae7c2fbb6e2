import Covenant.Proofs.Heading.Frame
import Mathlib.Tactic.IntervalCases
/-!
# Counter labels read back

A header counter is written as letters (`alphabetic`) or as lower-case roman numerals
(`roman`). Each writing is a numeral system with a reading of its own, stated here without the
writer, and each reads back to the counter:

* letters are the bijective base-26 numeral: digits `a` = 1 … `z` = 26, no zero digit, most
  significant first (`lettersValue_alphabetic`);
* roman numerals are written in the canonical form, one `m` per thousand and each lower decimal
  digit as one of the ten patterns over its one, five and ten symbols (`roman_canonical`), and
  their standard value, the sum of the symbols with a symbol subtracted when a larger one
  follows it, is the counter (`romanValue_roman`).

So neither writing gives two counters the same label (`counter_labels_read_back`).

The letter writer is a loop with fuel, the counter itself; its invariant is that reading what
is left to write and then the letters written so far gives the counter
(`lettersValue_go`). The roman writer is a fold over its table of values, which splits into the
thousands and three decades that each write one decimal digit (`foldl_decade`).
-/

namespace Covenant.Heading

/-! ## Letters -/

/-- One step of reading letters: the value so far times 26, plus the letter's digit (`a` = 1). -/
def letterStep (acc : Nat) (c : Char) : Nat := acc * 26 + (c.toNat - 96)

/-- The value of letters read as a bijective base-26 numeral, most significant first. -/
def lettersValue (cs : List Char) : Nat := cs.foldl letterStep 0

/-- A code point below the surrogates is a character of that code. -/
theorem toNat_ofNat_of_lt {n : Nat} (h : n < 55296) : (Char.ofNat n).toNat = n := by
  unfold Char.ofNat
  rw [dif_pos (Or.inl h)]
  rfl

/-- The loop's invariant: with fuel enough, what is left to write, read before the letters
already written, gives the counter. -/
theorem lettersValue_go : ∀ (fuel n : Nat) (acc : List Char), n ≤ fuel →
    (alphabetic.go n fuel acc).foldl letterStep 0 = acc.foldl letterStep n
  | 0, n, acc, hn => by
    obtain rfl : n = 0 := Nat.le_zero.mp hn
    rfl
  | fuel + 1, n, acc, hn => by
    rw [alphabetic.go.eq_def]
    simp only
    split
    · rename_i h0
      rw [h0]
    · rename_i h0
      -- the next letter is the least significant digit of what is left
      have hr : (n - 1) % 26 < 26 := Nat.mod_lt _ (by decide)
      have hdigit : letterStep ((n - 1) / 26) (Char.ofNat ('a'.toNat + (n - 1) % 26)) = n := by
        have hc : (Char.ofNat (97 + (n - 1) % 26)).toNat = 97 + (n - 1) % 26 :=
          toNat_ofNat_of_lt (by omega)
        simp only [letterStep, show 'a'.toNat = 97 from rfl, hc]
        omega
      rw [lettersValue_go fuel _ _ (by omega), List.foldl_cons, hdigit]

theorem lettersValue_alphabetic (n : Nat) : lettersValue (alphabetic n).toList = n := by
  rw [alphabetic, String.toList_ofList, lettersValue, lettersValue_go n n [] (Nat.le_refl n)]
  rfl

example : alphabetic 702 = "zz" ∧ alphabetic 703 = "aaa" := by decide

theorem alphabetic_letters (n : Nat) : ∀ c ∈ (alphabetic n).toList, 'a' ≤ c ∧ c ≤ 'z' := by
  intro c hc
  rw [alphabetic, String.toList_ofList] at hc
  rcases mem_alphabetic_go _ _ _ hc with h | ⟨r, hr, rfl⟩
  · simp at h
  · have hc : (Char.ofNat (97 + r)).toNat = 97 + r := toNat_ofNat_of_lt (by omega)
    simp only [Char.le_def, UInt32.le_iff_toNat_le, Char.toNat_val, hc]
    exact ⟨by simp, by simp; omega⟩

theorem alphabetic_injective : Function.Injective alphabetic :=
  Function.LeftInverse.injective (g := fun s : String => lettersValue s.toList)
    lettersValue_alphabetic

/-! ## Roman numerals -/

/-- The value of a roman symbol; other characters are worth nothing. -/
def romanSymbol : Char → Nat
  | 'i' => 1
  | 'v' => 5
  | 'x' => 10
  | 'l' => 50
  | 'c' => 100
  | 'd' => 500
  | 'm' => 1000
  | _ => 0

/-- The standard value of a roman numeral: the sum of its symbols, where a symbol followed by a
larger one counts negatively. -/
def romanValue : List Char → Int
  | [] => 0
  | [c] => romanSymbol c
  | c :: d :: rest =>
    (if romanSymbol c < romanSymbol d then -(romanSymbol c : Int) else romanSymbol c) +
      romanValue (d :: rest)

/-- The canonical pattern of one decimal digit over the symbols worth one, five and ten units. -/
def decadeDigit (one five ten : Char) : Nat → List Char
  | 1 => [one]
  | 2 => [one, one]
  | 3 => [one, one, one]
  | 4 => [one, five]
  | 5 => [five]
  | 6 => [five, one]
  | 7 => [five, one, one]
  | 8 => [five, one, one, one]
  | 9 => [one, ten]
  | _ => []

/-- The canonical roman numeral: an `m` per thousand, then the hundreds, tens and ones digits
by their patterns. -/
def canonicalRoman (n : Nat) : List Char :=
  List.replicate (n / 1000) 'm' ++ decadeDigit 'c' 'd' 'm' (n / 100 % 10) ++
    decadeDigit 'x' 'l' 'c' (n / 10 % 10) ++ decadeDigit 'i' 'v' 'x' (n % 10)

theorem romanTable_eq : romanTable =
    (1000, "m") ::
      ([(9 * 100, String.ofList ['c', 'm']), (5 * 100, String.singleton 'd'),
        (4 * 100, String.ofList ['c', 'd']), (1 * 100, String.singleton 'c')] ++
      [(9 * 10, String.ofList ['x', 'c']), (5 * 10, String.singleton 'l'),
        (4 * 10, String.ofList ['x', 'l']), (1 * 10, String.singleton 'x')] ++
      [(9 * 1, String.ofList ['i', 'x']), (5 * 1, String.singleton 'v'),
        (4 * 1, String.ofList ['i', 'v']), (1 * 1, String.singleton 'i')]) := by
  decide

section Fold

-- The roman writer's step, taken as a parameter so that its lambda is not restated: it writes
-- as many copies of a numeral as its value goes into what is left, and keeps the remainder.
variable {F : String × Nat → Nat × String → String × Nat}
  (hF : ∀ acc v s, F acc (v, s) = (acc.1 ++ String.join (List.replicate (acc.2 / v) s), acc.2 % v))
include hF

/-- A digit `d` of the unit `u`, above a remainder below the unit, is written by the decade of
numerals worth `9u`, `5u`, `4u` and `u`, and the remainder is left. -/
theorem foldl_decade {u d r : Nat} (hd : d < 10) (hr : r < u) (acc : String) (one five ten : Char) :
    [(9 * u, String.ofList [one, ten]), (5 * u, String.singleton five),
      (4 * u, String.ofList [one, five]), (1 * u, String.singleton one)].foldl F (acc, d * u + r) =
      (acc ++ String.ofList (decadeDigit one five ten d), r) := by
  -- each numeral of the decade divides the digit and keeps the remainder below the unit
  have hu : 0 < u := by omega
  have hq : ∀ e, (e * u + r) / u = e := by
    intro e
    rw [Nat.add_comm, Nat.add_mul_div_right _ _ hu, Nat.div_eq_of_lt hr, Nat.zero_add]
  have hm : ∀ e, (e * u + r) % u = r := by
    intro e
    rw [Nat.add_comm, Nat.add_mul_mod_self_right, Nat.mod_eq_of_lt hr]
  have hdiv : ∀ k e, (e * u + r) / (k * u) = e / k := by
    intro k e
    rw [Nat.mul_comm k u, ← Nat.div_div_eq_div_mul, hq]
  have hmod : ∀ k e, (e * u + r) % (k * u) = e % k * u + r := by
    intro k e
    rw [Nat.mul_comm k u, Nat.mod_mul, hq, hm, Nat.mul_comm u, Nat.add_comm]
  simp only [List.foldl_cons, List.foldl_nil, hF, hdiv, hmod, Nat.mod_one, Nat.zero_mul,
    Nat.zero_add, Prod.mk.injEq, and_true, String.append_assoc]
  congr 1
  apply String.toList_inj.mp
  simp only [String.toList_append, String.toList_join, String.toList_ofList, List.flatMap_replicate,
    String.toList_singleton]
  interval_cases d <;> rfl

/-- The whole table writes the canonical numeral: the thousands, then the hundreds, tens and
ones digits, each by its decade. -/
theorem foldl_romanTable (n : Nat) : (romanTable.foldl F ("", n)).1.toList = canonicalRoman n := by
  have hh : n % 1000 = n / 100 % 10 * 100 + n % 100 := by omega
  have ht : n % 100 = n / 10 % 10 * 10 + n % 10 := by omega
  have ho : n % 10 = n % 10 * 1 + 0 := by omega
  rw [romanTable_eq, List.foldl_cons, hF, List.foldl_append, List.foldl_append, hh,
    foldl_decade hF (Nat.mod_lt _ (by decide)) (Nat.mod_lt _ (by decide)), ht,
    foldl_decade hF (Nat.mod_lt _ (by decide)) (Nat.mod_lt _ (by decide)), ho,
    foldl_decade hF (Nat.mod_lt _ (by decide)) Nat.zero_lt_one]
  simp [canonicalRoman, String.toList_join, List.flatMap_replicate]

end Fold

/-- The roman writer writes the canonical numeral. -/
theorem roman_canonical (n : Nat) : (roman n).toList = canonicalRoman n := by
  rw [roman]
  exact foldl_romanTable (fun _ _ _ => rfl) n

/-! ## The value of a roman numeral -/

/-- Numerals whose symbols are all worth at least `k`, followed by numerals whose symbols are
all worth at most `k`, are worth the sum of the two: no symbol at the seam is subtracted. -/
theorem romanValue_append {k : Nat} :
    ∀ (xs ys : List Char), (∀ a ∈ xs, k ≤ romanSymbol a) → (∀ b ∈ ys, romanSymbol b ≤ k) →
      romanValue (xs ++ ys) = romanValue xs + romanValue ys
  | [], ys, _, _ => by simp [romanValue]
  | [a], [], _, _ => by simp [romanValue]
  | [a], b :: ys, hx, hy => by
    have hab : ¬ romanSymbol a < romanSymbol b := by
      have := hx a (List.mem_singleton_self a)
      have := hy b List.mem_cons_self
      omega
    simp only [List.singleton_append, romanValue, if_neg hab]
  | a :: c :: xs, ys, hx, hy => by
    have ih := romanValue_append (c :: xs) ys (fun x hx' => hx x (List.mem_cons_of_mem a hx')) hy
    rw [List.cons_append, List.cons_append, romanValue, ← List.cons_append, ih, romanValue,
      Int.add_assoc]

/-- Thousands are worth a thousand each. -/
theorem romanValue_replicate_m : ∀ k : Nat, romanValue (List.replicate k 'm') = 1000 * k
  | 0 => rfl
  | 1 => rfl
  | k + 2 => by
    have hm : romanSymbol 'm' = 1000 := rfl
    rw [List.replicate_succ, List.replicate_succ, romanValue, ← List.replicate_succ,
      romanValue_replicate_m (k + 1), if_neg (by decide), hm]
    push_cast
    omega

/-- A digit's pattern is worth the digit in units, whatever the symbols, as long as the five
and ten symbols are worth five and ten units. -/
theorem romanValue_decadeDigit {one five ten : Char} (hone : 0 < romanSymbol one)
    (hfive : romanSymbol five = 5 * romanSymbol one) (hten : romanSymbol ten = 10 * romanSymbol one)
    {d : Nat} (hd : d < 10) : romanValue (decadeDigit one five ten d) = d * romanSymbol one := by
  interval_cases d <;> simp [decadeDigit, romanValue, hfive, hten] <;> omega

/-- A digit's pattern uses only its one, five and ten symbols. -/
theorem mem_decadeDigit {one five ten a : Char} {d : Nat} (h : a ∈ decadeDigit one five ten d) :
    a = one ∨ a = five ∨ a = ten := by
  unfold decadeDigit at h
  split at h <;> simp only [List.mem_cons, List.not_mem_nil, or_false] at h <;> grind

/-- The symbols of a digit's pattern lie between the least and the greatest of its symbols. -/
theorem decadeDigit_within (one five ten : Char) (lo hi : Nat)
    (hone : lo ≤ romanSymbol one ∧ romanSymbol one ≤ hi)
    (hfive : lo ≤ romanSymbol five ∧ romanSymbol five ≤ hi)
    (hten : lo ≤ romanSymbol ten ∧ romanSymbol ten ≤ hi) (d : Nat) :
    ∀ a ∈ decadeDigit one five ten d, lo ≤ romanSymbol a ∧ romanSymbol a ≤ hi := by
  intro a ha
  rcases mem_decadeDigit ha with rfl | rfl | rfl
  · exact hone
  · exact hfive
  · exact hten

/-- The canonical numeral of `n` is worth `n`: the thousands, hundreds, tens and ones add up,
each block's symbols worth at least what the next block's are worth at most. -/
theorem romanValue_canonical (n : Nat) : romanValue (canonicalRoman n) = n := by
  have hM : ∀ a ∈ List.replicate (n / 1000) 'm', romanSymbol a = 1000 := by
    intro a ha
    rw [List.eq_of_mem_replicate ha]
    rfl
  have hH := decadeDigit_within 'c' 'd' 'm' 100 1000
    (by decide) (by decide) (by decide) (n / 100 % 10)
  have hT := decadeDigit_within 'x' 'l' 'c' 10 100
    (by decide) (by decide) (by decide) (n / 10 % 10)
  have hO := decadeDigit_within 'i' 'v' 'x' 1 10
    (by decide) (by decide) (by decide) (n % 10)
  rw [canonicalRoman,
    romanValue_append (k := 10) _ _ (by
      intro a ha
      simp only [List.mem_append] at ha
      rcases ha with (ha | ha) | ha
      · rw [hM a ha]; decide
      · exact Nat.le_trans (by decide) (hH a ha).1
      · exact (hT a ha).1) (fun b hb => (hO b hb).2),
    romanValue_append (k := 100) _ _ (by
      intro a ha
      rcases List.mem_append.mp ha with ha | ha
      · rw [hM a ha]; decide
      · exact (hH a ha).1) (fun b hb => (hT b hb).2),
    romanValue_append (k := 1000) _ _ (fun a ha => Nat.le_of_eq (hM a ha).symm)
      (fun b hb => (hH b hb).2),
    romanValue_replicate_m,
    romanValue_decadeDigit (by decide) (by decide) (by decide) (Nat.mod_lt _ (by decide)),
    romanValue_decadeDigit (by decide) (by decide) (by decide) (Nat.mod_lt _ (by decide)),
    romanValue_decadeDigit (by decide) (by decide) (by decide) (Nat.mod_lt _ (by decide))]
  have : romanSymbol 'c' = 100 ∧ romanSymbol 'x' = 10 ∧ romanSymbol 'i' = 1 := by decide
  rw [this.1, this.2.1, this.2.2]
  omega

example : roman 1994 = "mcmxciv" ∧ romanValue "mcmxciv".toList = 1994 := by decide

theorem romanValue_roman (n : Nat) : romanValue (roman n).toList = n := by
  rw [roman_canonical, romanValue_canonical]

theorem roman_injective : Function.Injective roman := by
  intro a b h
  have := romanValue_roman a
  rw [h, romanValue_roman b] at this
  exact (Int.ofNat_inj.mp this).symm

/-- Both labels of a counter are numerals that read back to it: the letters are the bijective
base-26 numeral over `a` … `z` (empty for zero), and the roman numeral is the canonical one (one
`m` per thousand, then each digit's pattern, empty for zero), worth the counter by the standard
reading. So distinct counters get distinct labels of either kind. -/
theorem counter_labels_read_back :
    alphabetic 0 = "" ∧ roman 0 = "" ∧
      (∀ n, (∀ c ∈ (alphabetic n).toList, 'a' ≤ c ∧ c ≤ 'z') ∧
        lettersValue (alphabetic n).toList = n) ∧
      Function.Injective alphabetic ∧
      (∀ n, (roman n).toList = canonicalRoman n ∧ romanValue (roman n).toList = n) ∧
      Function.Injective roman :=
  ⟨rfl, rfl, fun n => ⟨alphabetic_letters n, lettersValue_alphabetic n⟩, alphabetic_injective,
    fun n => ⟨roman_canonical n, romanValue_roman n⟩, roman_injective⟩

end Covenant.Heading
