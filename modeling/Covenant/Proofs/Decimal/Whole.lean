import Covenant.Proofs.Decimal.Bits
import Covenant.Proofs.Calendar.Iso
/-!
# Whole numbers and fixed places

A whole number `n` with `|n| < 2^53` is a binary64 value exactly (`shapeOf_ofInt`): reading it
as the nearest value loses nothing, and its shape is normal with the digits of `|n|` shifted up
to a 53-bit mantissa.  Such a value is `|n| * 10^d` units of `10^-d`, so `fixed d` writes it as
the digits of `|n|`, a point and `d` zeros (`fixed_ofInt`).

For any finite value, `fixed_finite` splits the text of `fixed d` into the sign, the digits
before the point and the `d` digits after it, all read off one number: the value in units of
`10^-d` (`Parts.units`).  Its digits hold one other than `0` exactly when that number is not
zero (`any_nonzero_paddedDigits`).
-/

namespace Covenant.Decimal

/-! ## Exact quotients -/

theorem roundHalfEven_mul (a : Nat) {k : Nat} (hk : 0 < k) : roundHalfEven (a * k) k = a := by
  have hdiv : a * k / k = a := Nat.mul_div_cancel a hk
  have hmod : a * k % k = 0 := Nat.mul_mod_left a k
  simp [roundHalfEven, hdiv, hmod]
  omega

theorem roundHalfEven_one (a : Nat) : roundHalfEven a 1 = a := by
  simpa using roundHalfEven_mul a Nat.one_pos

theorem places_zero_mant (d : Nat) (e : Int) : places d 0 e = 0 := by
  simp [places, roundHalfEven]

/-- A mantissa `N * 2^k` at exponent `-k` is the whole number `N`, exactly `N * 10^d` units. -/
theorem places_shifted (d N k : Nat) :
    places d (N * Nat.pow 2 k) (-(k : Int)) = N * Nat.pow 10 d := by
  unfold places
  by_cases hk : k = 0
  · subst hk
    simp
  · rw [if_neg (by omega), show (-(-(k : Int))).toNat = k by omega,
      show N * Nat.pow 2 k * Nat.pow 10 d = N * Nat.pow 10 d * Nat.pow 2 k by
        rw [Nat.mul_assoc, Nat.mul_comm (Nat.pow 2 k), ← Nat.mul_assoc]]
    exact roundHalfEven_mul _ (Nat.two_pow_pos k)

/-! ## Bit patterns that `bitsOf` builds -/

/-- A bit pattern assembled from a sign, an exponent field other than the two reserved ones and
a fraction field decodes to a normal value. -/
theorem shapeOfBits_normal_fields (neg : Bool) {field frac : Nat} (hlo : 0 < field)
    (hhi : field < 2047) (hfrac : frac < 4503599627370496) :
    shapeOfBits ((if neg then 9223372036854775808 else 0) + field * 4503599627370496 + frac) =
      .finite ⟨neg, frac + 4503599627370496, (field : Int) - 1075⟩ := by
  have hbits : ∀ s, s = 0 ∨ s = 9223372036854775808 →
      (s + field * 4503599627370496 + frac) / 4503599627370496 % 2048 = field ∧
      (s + field * 4503599627370496 + frac) % 4503599627370496 = frac ∧
      (s + field * 4503599627370496 + frac) / 9223372036854775808 % 2 =
        s / 9223372036854775808 := by
    intro s hs
    omega
  have hp52 : Nat.pow 2 fracBits = 4503599627370496 := rfl
  have hp63 : Nat.pow 2 63 = 9223372036854775808 := rfl
  obtain ⟨hF, hM, hS⟩ := hbits (if neg then 9223372036854775808 else 0) (by cases neg <;> simp)
  unfold shapeOfBits
  simp only [hp52, hp63, hF, hM, hS]
  rw [if_neg (by simpa using Nat.ne_of_lt hhi), if_neg (by simpa using Nat.ne_of_gt hlo)]
  cases neg <;> simp

theorem shapeOfBits_bitsOf_zero (neg : Bool) :
    shapeOfBits (bitsOf neg 0 0) = .finite ⟨neg, 0, minExp⟩ := by
  have hp52 : Nat.pow 2 fracBits = 4503599627370496 := rfl
  have hp63 : Nat.pow 2 63 = 9223372036854775808 := rfl
  unfold bitsOf shapeOfBits
  simp only [hp52, hp63]
  cases neg <;> rfl

theorem shapeOfBits_bitsOf_normal (neg : Bool) {m : Nat} {e : Int}
    (hlo : 4503599627370496 ≤ m) (hhi : m < 9007199254740992) (helo : -1074 ≤ e)
    (hehi : e ≤ 971) :
    shapeOfBits (bitsOf neg m e) = .finite ⟨neg, m, e⟩ := by
  have hp52 : Nat.pow 2 fracBits = 4503599627370496 := rfl
  have hp63 : Nat.pow 2 63 = 9223372036854775808 := rfl
  have hbits : bitsOf neg m e = (if neg then 9223372036854775808 else 0) +
      (e + 1075).toNat * 4503599627370496 + (m - 4503599627370496) := by
    unfold bitsOf
    simp only [hp52, hp63]
    rw [if_neg (by omega), if_neg (by omega)]
  have hmant : m - 4503599627370496 + 4503599627370496 = m := by omega
  have hexp : ((e + 1075).toNat : Int) - 1075 = e := by omega
  rw [hbits, shapeOfBits_normal_fields neg (by omega) (by omega) (by omega), hmant, hexp]

/-- Every pattern `bitsOf` builds from a mantissa below `2^53` fits in 64 bits. -/
theorem bitsOf_lt (neg : Bool) {m : Nat} (e : Int) (hm : m < 9007199254740992) :
    bitsOf neg m e < 18446744073709551616 := by
  have hp52 : Nat.pow 2 fracBits = 4503599627370496 := rfl
  have hp63 : Nat.pow 2 63 = 9223372036854775808 := rfl
  have hsign : (if neg then 9223372036854775808 else 0) ≤ 9223372036854775808 := by
    cases neg <;> simp
  unfold bitsOf
  simp only [hp52, hp63]
  split
  · omega
  · split <;> omega

theorem shapeOf_ofBits_bitsOf (neg : Bool) {m : Nat} (e : Int) (hm : m < 9007199254740992) :
    shapeOf (Float.ofBits (UInt64.ofNat (bitsOf neg m e))) = shapeOfBits (bitsOf neg m e) := by
  rw [shapeOf_ofBits, UInt64.toNat_ofNat_of_lt' (bitsOf_lt neg e hm)]

/-! ## Whole numbers are exact -/

/-- Shifted up to 53 bits, a positive whole number below `2^53` is a normal mantissa. -/
theorem whole_mantissa_bounds {N : Nat} (hpos : 0 < N) (hlt : N < 9007199254740992) :
    4503599627370496 ≤ N * Nat.pow 2 (52 - N.log2) ∧
      N * Nat.pow 2 (52 - N.log2) < 9007199254740992 := by
  have hlog : N.log2 < 53 := (Nat.log2_lt (by omega)).mpr hlt
  have hself : Nat.pow 2 N.log2 ≤ N := Nat.log2_self_le (by omega)
  have hnext : N < Nat.pow 2 (N.log2 + 1) := Nat.lt_log2_self
  have hlo : Nat.pow 2 N.log2 * Nat.pow 2 (52 - N.log2) = 4503599627370496 := by
    have h := (Nat.pow_add 2 N.log2 (52 - N.log2)).symm
    rw [Nat.add_sub_cancel' (by omega)] at h
    exact h
  have hhi : Nat.pow 2 (N.log2 + 1) * Nat.pow 2 (52 - N.log2) = 9007199254740992 := by
    have h := (Nat.pow_add 2 (N.log2 + 1) (52 - N.log2)).symm
    rw [show N.log2 + 1 + (52 - N.log2) = 53 by omega] at h
    exact h
  have hpow : 0 < Nat.pow 2 (52 - N.log2) := Nat.two_pow_pos _
  constructor
  · calc 4503599627370496 = Nat.pow 2 N.log2 * Nat.pow 2 (52 - N.log2) := hlo.symm
      _ ≤ N * Nat.pow 2 (52 - N.log2) := Nat.mul_le_mul_right _ hself
  · calc N * Nat.pow 2 (52 - N.log2) < Nat.pow 2 (N.log2 + 1) * Nat.pow 2 (52 - N.log2) :=
          Nat.mul_lt_mul_of_pos_right hnext hpow
      _ = 9007199254740992 := hhi

/-- Reading a whole number takes it as a quotient over one. -/
theorem nearest_whole (neg : Bool) {N : Nat} (hpos : 0 < N) (hlt : N < 9007199254740992) :
    nearest neg N 0 = nearestOfFraction neg N 1 := by
  have hlen : (Nat.toDigits 10 N).length ≤ 16 :=
    Calendar.length_toDigits_le (by decide) (show N < 10000000000000000 by omega)
  have hzero : (N == 0) = false := by simp only [beq_eq_false_iff_ne]; omega
  unfold nearest
  simp only [hzero, Bool.false_or]
  rw [if_neg (by simp), if_neg (by omega), if_pos (Int.le_refl 0),
    show Nat.pow 10 (Int.toNat 0) = 1 from rfl, Nat.mul_one]

/-- A positive whole number below `2^53` is found exactly: its mantissa is the number shifted
up to 53 bits, with nothing to round and no carry. -/
theorem nearestOfFraction_whole (neg : Bool) {N : Nat} (hpos : 0 < N) (hlt : N < 9007199254740992) :
    nearestOfFraction neg N 1 =
      Float.ofBits
        (UInt64.ofNat (bitsOf neg (N * Nat.pow 2 (52 - N.log2)) ((N.log2 : Int) - 52))) := by
  have hlog : N.log2 < 53 := (Nat.log2_lt (by omega)).mpr hlt
  have hself : Nat.pow 2 N.log2 ≤ N := Nat.log2_self_le (by omega)
  have hzero : (N == 0 || (1 : Nat) == 0) = false := by simp; omega
  have hguess : ((bitLength N : Nat) : Int) - ((bitLength 1 : Nat) : Int) = (N.log2 : Int) := by
    have hone : Nat.log2 1 = 0 := Nat.lt_one_iff.mp ((Nat.log2_lt Nat.one_ne_zero).mpr (by decide))
    simp [bitLength, hone]
  have hlead : Nat.pow 2 (N.log2 : Int).toNat * 1 ≤ N := by
    rw [Int.toNat_natCast, Nat.mul_one]
    exact hself
  have hexp : max ((N.log2 : Int) - 52) minExp = (N.log2 : Int) - 52 := by
    simp only [minExp]
    omega
  -- the leading binary digit stands at `log2 N`, so the exponent is `log2 N - 52`
  unfold nearestOfFraction
  simp only [hzero, hguess]
  rw [if_neg Bool.false_ne_true, if_pos (Int.natCast_nonneg _), if_pos hlead, if_neg (by omega),
    if_neg (by omega), hexp]
  have hpair : (if (N.log2 : Int) - 52 ≥ 0 then (N, 1 * Nat.pow 2 ((N.log2 : Int) - 52).toNat)
      else (N * Nat.pow 2 (-((N.log2 : Int) - 52)).toNat, 1)) =
        (N * Nat.pow 2 (52 - N.log2), 1) := by
    split
    · have hL : N.log2 = 52 := by omega
      simp [hL]
    · have hk : (-((N.log2 : Int) - 52)).toNat = 52 - N.log2 := by omega
      rw [hk]
  obtain ⟨hmlo, hmhi⟩ := whole_mantissa_bounds hpos hlt
  have hcarry : (N * Nat.pow 2 (52 - N.log2) == Nat.pow 2 53) = false := by
    simp only [beq_eq_false_iff_ne]
    exact Nat.ne_of_lt hmhi
  simp only [hpair, roundHalfEven_one, hcarry]
  rfl

/-- A whole number of size below `2^53` is a binary64 value exactly: normal, its digits
shifted up to a 53-bit mantissa. -/
theorem shapeOf_ofInt {n : Int} (hpos : 0 < n.natAbs) (hlt : n.natAbs < 9007199254740992) :
    shapeOf (ofInt n) = .finite ⟨decide (n < 0), n.natAbs * Nat.pow 2 (52 - n.natAbs.log2),
      (n.natAbs.log2 : Int) - 52⟩ := by
  obtain ⟨hlo, hhi⟩ := whole_mantissa_bounds hpos hlt
  have hlog : n.natAbs.log2 < 53 := (Nat.log2_lt (by omega)).mpr hlt
  rw [ofInt, nearest_whole _ hpos hlt, nearestOfFraction_whole _ hpos hlt,
    shapeOf_ofBits_bitsOf _ _ hhi, shapeOfBits_bitsOf_normal _ hlo hhi (by omega) (by omega)]

theorem shapeOf_ofInt_zero : shapeOf (ofInt 0) = .finite ⟨false, 0, minExp⟩ := by
  have hnearest : ofInt 0 = Float.ofBits (UInt64.ofNat (bitsOf false 0 0)) := by
    rw [ofInt, nearest]
    rfl
  rw [hnearest, shapeOf_ofBits_bitsOf _ _ (by decide), shapeOfBits_bitsOf_zero]

/-- A whole number below `2^53` in size is `|n| * 10^d` units of `10^-d`, for every `d`, with
the sign of `n`. -/
theorem shapeOf_ofInt_units (n : Int) (hlt : n.natAbs < 9007199254740992) :
    ∃ q, shapeOf (ofInt n) = .finite q ∧ q.neg = decide (n < 0) ∧
      ∀ d, places d q.mant q.exp = n.natAbs * Nat.pow 10 d := by
  rcases Nat.eq_zero_or_pos n.natAbs with hzero | hpos
  · have hn : n = 0 := Int.natAbs_eq_zero.mp hzero
    subst hn
    exact ⟨_, shapeOf_ofInt_zero, rfl, fun d => by rw [places_zero_mant, hzero, Nat.zero_mul]⟩
  · have hlog : n.natAbs.log2 < 53 := (Nat.log2_lt (by omega)).mpr hlt
    have hexp : (n.natAbs.log2 : Int) - 52 = -((52 - n.natAbs.log2 : Nat) : Int) := by omega
    refine ⟨_, shapeOf_ofInt hpos hlt, rfl, fun d => ?_⟩
    simp only
    rw [hexp, places_shifted]

/-! ## Fixed places -/

/-- The value of a finite shape in units of `10^-d`, rounded to the nearest, ties to even. -/
def Parts.units (q : Parts) (d : Nat) : Nat := places d q.mant q.exp

/-- The digits of `n`, padded with zeros to at least `d + 1` of them. -/
def paddedDigits (d n : Nat) : List Char :=
  List.replicate (d + 1 - (Nat.toDigits 10 n).length) '0' ++ Nat.toDigits 10 n

/-- The digits of `n` units of `10^-d` before the point. -/
def wholeDigits (d n : Nat) : List Char :=
  (paddedDigits d n).take ((paddedDigits d n).length - d)

/-- The `d` digits of `n` units of `10^-d` after the point. -/
def fractionDigits (d n : Nat) : List Char :=
  (paddedDigits d n).drop ((paddedDigits d n).length - d)

/-- A value that is a nonzero number of units is not a zero. -/
theorem Parts.mant_pos_of_units_pos {q : Parts} {d : Nat} (h : 0 < q.units d) : 0 < q.mant := by
  rcases Nat.eq_zero_or_pos q.mant with hzero | hpos
  · rw [Parts.units, hzero, places_zero_mant] at h
    exact absurd h (Nat.lt_irrefl 0)
  · exact hpos

theorem fixed_finite {x : Float} {q : Parts} (h : shapeOf x = .finite q) (d : Nat) :
    fixed d x = (if q.neg then "-" else "") ++ String.ofList (wholeDigits d (q.units d)) ++
      (if d = 0 then "" else "." ++ String.ofList (fractionDigits d (q.units d))) := by
  unfold fixed
  rw [h]
  rfl

theorem toDigits_mul_pow_ten {N : Nat} (hN : 0 < N) (d : Nat) :
    Nat.toDigits 10 (N * Nat.pow 10 d) = Nat.toDigits 10 N ++ List.replicate d '0' := by
  induction d with
  | zero => simp
  | succ d ih =>
    have hpos : 0 < N * Nat.pow 10 d := Nat.mul_pos hN (Nat.pow_pos (by decide))
    have hshift : N * Nat.pow 10 (d + 1) = 10 * (N * Nat.pow 10 d) + 0 := by
      show N * (Nat.pow 10 d * 10) = _
      rw [← Nat.mul_assoc, Nat.mul_comm _ 10, Nat.add_zero]
    rw [hshift, ← Nat.toDigits_append_toDigits (by decide) hpos (by decide), ih,
      Nat.toDigits_zero, List.replicate_succ', List.append_assoc]

/-- `N` whole units written with `d` places: its digits, then `d` zeros. -/
theorem paddedDigits_whole (d N : Nat) :
    paddedDigits d (N * Nat.pow 10 d) = Nat.toDigits 10 N ++ List.replicate d '0' := by
  rcases Nat.eq_zero_or_pos N with rfl | hN
  · rw [Nat.zero_mul, paddedDigits, Nat.toDigits_zero, List.length_singleton, Nat.add_sub_cancel,
      ← List.replicate_succ', List.replicate_succ]
    rfl
  · have hlen := Nat.length_toDigits_pos (b := 10) (n := N)
    rw [paddedDigits, toDigits_mul_pow_ten hN, List.length_append, List.length_replicate,
      show d + 1 - ((Nat.toDigits 10 N).length + d) = 0 by omega, List.replicate_zero,
      List.nil_append]

theorem wholeDigits_whole (d N : Nat) : wholeDigits d (N * Nat.pow 10 d) = Nat.toDigits 10 N := by
  rw [wholeDigits, paddedDigits_whole, List.length_append, List.length_replicate,
    Nat.add_sub_cancel, List.take_left']
  rfl

theorem fractionDigits_whole (d N : Nat) :
    fractionDigits d (N * Nat.pow 10 d) = List.replicate d '0' := by
  rw [fractionDigits, paddedDigits_whole, List.length_append, List.length_replicate,
    Nat.add_sub_cancel, List.drop_left']
  rfl

theorem length_paddedDigits (d n : Nat) : d + 1 ≤ (paddedDigits d n).length := by
  rw [paddedDigits, List.length_append, List.length_replicate]
  omega

theorem wholeDigits_append_fractionDigits (d n : Nat) :
    wholeDigits d n ++ fractionDigits d n = paddedDigits d n :=
  List.take_append_drop _ _

theorem length_fractionDigits (d n : Nat) : (fractionDigits d n).length = d := by
  have := length_paddedDigits d n
  rw [fractionDigits, List.length_drop]
  omega

theorem wholeDigits_ne_nil (d n : Nat) : wholeDigits d n ≠ [] := by
  have := length_paddedDigits d n
  rw [wholeDigits, ← List.length_pos_iff, List.length_take]
  omega

theorem isDigit_of_mem_paddedDigits {d n : Nat} {c : Char} (h : c ∈ paddedDigits d n) :
    c.isDigit = true := by
  rcases List.mem_append.mp h with h | h
  · rw [List.eq_of_mem_replicate h]
    rfl
  · exact Nat.isDigit_of_mem_toDigits (by decide) (by decide) h

/-- The digits of `n` hold a digit other than `0` exactly when `n` is not zero. -/
theorem any_nonzero_toDigits (n : Nat) :
    (Nat.toDigits 10 n).any (fun c => c.isDigit && c ≠ '0') = decide (0 < n) := by
  induction n using Nat.strong_induction_on with
  | _ n ih =>
    rw [Nat.toDigits_eq_if (by decide)]
    split
    · -- a single digit: it is `0` exactly when `n` is
      cases n <;> simp [Nat.isDigit_digitChar, *]
    · -- the leading digits already hold one other than `0`
      have hlead : 0 < n / 10 := by omega
      rw [List.any_append, ih (n / 10) (by omega)]
      simp [hlead, show 0 < n by omega]

theorem any_nonzero_paddedDigits (d n : Nat) :
    (paddedDigits d n).any (fun c => c.isDigit && c ≠ '0') = decide (0 < n) := by
  rw [paddedDigits, List.any_append, any_nonzero_toDigits]
  simp

/-- The text of a finite value at `d` places holds a digit other than `0` exactly when the
value is a nonzero number of units. -/
theorem any_nonzero_fixed {x : Float} {q : Parts} (h : shapeOf x = .finite q) (d : Nat) :
    (fixed d x).toList.any (fun c => c.isDigit && c ≠ '0') = decide (0 < q.units d) := by
  rw [fixed_finite h, ← any_nonzero_paddedDigits d, ← wholeDigits_append_fractionDigits]
  -- neither the sign nor the point is a digit
  by_cases hd : d = 0
  · subst hd
    have hnone : fractionDigits 0 (q.units 0) = [] :=
      List.eq_nil_of_length_eq_zero (length_fractionDigits 0 _)
    cases q.neg <;> simp [hnone]
  · cases q.neg <;> simp [hd]

/-- A whole number below `2^53` in size is written with its digits and `d` zeros after the
point. -/
theorem fixed_ofInt (n : Int) (d : Nat) (hlt : n.natAbs < 9007199254740992) :
    fixed d (ofInt n) = (if n < 0 then "-" else "") ++ String.ofList (Nat.toDigits 10 n.natAbs) ++
      (if d = 0 then "" else "." ++ zeros d) := by
  obtain ⟨q, hshape, hneg, hunits⟩ := shapeOf_ofInt_units n hlt
  rw [fixed_finite hshape, Parts.units, hunits, wholeDigits_whole, fractionDigits_whole, hneg]
  simp only [decide_eq_true_eq]
  rfl

end Covenant.Decimal
