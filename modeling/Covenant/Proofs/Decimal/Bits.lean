import Covenant.Decimal.Layout
/-!
# Binary64 values through their bits

`shapeOf` reads a `Float` by decoding the bits of `Float.toBits` into sign, mantissa and
exponent.  Lean's own arithmetic on `Float` is defined by unpacking the bits into an
`UnpackedFloat`, computing, and packing the result again.  This module ties the two readings
together (`shapeOfBits_toNat`), so that what `Float` operations do can be stated on shapes:

* `Float.ofBits b` has the shape that `shapeOfBits` reads from `b` (`shapeOf_ofBits`);
* `x.abs` has the shape of `x` with the sign cleared (`shapeOf_abs`);
* `x < 0.0` holds exactly when the shape is negative and not zero (`decide_lt_zero`);
* `x.isFinite` holds exactly when the shape is finite (`isFinite_eq`).

Packing and unpacking again is the identity on the values that unpacking produces
(`Canonical`): the special values, and finite values whose mantissa is normal
(`2^52 ≤ m < 2^53`) or subnormal (exponent `-1074`).
-/

namespace Covenant.Decimal

open Float.Model Float.Model.UnpackedFloat

/-! ## The three fields of a bit pattern -/

theorem toNat_unpackMantissa (b : BitVec Format.binary64.numBits) :
    (unpackMantissa b).toNat = b.toNat % 4503599627370496 := by
  simp [unpackMantissa, BitVec.extractLsb_toNat]

theorem toNat_unpackExponent (b : BitVec Format.binary64.numBits) :
    (unpackExponent b).toNat = b.toNat / 4503599627370496 % 2048 := by
  simp [unpackExponent, BitVec.extractLsb_toNat, Nat.shiftRight_eq_div_pow]

theorem toNat_unpackSign (b : BitVec Format.binary64.numBits) :
    (unpackSign b).toNat = b.toNat / 9223372036854775808 := by
  have hb : b.toNat < 18446744073709551616 := b.isLt
  delta unpackSign
  simp [BitVec.extractLsb_toNat, Nat.shiftRight_eq_div_pow]
  omega

/-- A mantissa field with its implicit leading bit. -/
theorem toNat_one_append (v : BitVec 52) : (1#1 ++ v).toNat = 4503599627370496 + v.toNat := by
  rw [BitVec.toNat_append, ← Nat.shiftLeft_add_eq_or_of_lt v.isLt, BitVec.toNat_ofNat,
    Nat.one_shiftLeft]

theorem toNat_packComponents (s : Sign) (e : BitVec 11) (m : BitVec 52) :
    (packComponents .binary64 s e m).toNat =
      s.toBitVec.toNat * 9223372036854775808 + e.toNat * 4503599627370496 + m.toNat := by
  have hm : m.toNat < 4503599627370496 := m.isLt
  have he : e.toNat < 2048 := e.isLt
  simp only [packComponents, BitVec.toNat_append]
  rw [← Nat.shiftLeft_add_eq_or_of_lt hm, ← Nat.shiftLeft_add_eq_or_of_lt he]
  simp only [Nat.shiftLeft_eq]
  omega

theorem ofBitVec_unpackSign_packComponents (s : Sign) (e : BitVec 11) (m : BitVec 52) :
    Sign.ofBitVec (unpackSign (packComponents .binary64 s e m)) = s := by
  have hm : m.toNat < 4503599627370496 := m.isLt
  have he : e.toNat < 2048 := e.isLt
  have hsign : (unpackSign (packComponents .binary64 s e m)).toNat = s.toBitVec.toNat := by
    rw [toNat_unpackSign, toNat_packComponents]
    omega
  rw [BitVec.eq_of_toNat_eq hsign]
  cases s <;> rfl

/-! ## Unpacked values as shapes -/

/-- Whether a sign is the negative one. -/
def signNeg : Sign → Bool
  | .negative => true
  | .positive => false

/-- The shape of an unpacked value; a zero is a finite value with no mantissa. -/
def shapeOfUnpacked : UnpackedFloat → Shape
  | .notANumber => .nan
  | .infinity s => .infinite (signNeg s)
  | .zero s => .finite ⟨signNeg s, 0, minExp⟩
  | .finite s m e _ => .finite ⟨signNeg s, m, e⟩

theorem shapeOfUnpacked_zero (s : Sign) :
    shapeOfUnpacked (.zero s) = .finite ⟨signNeg s, 0, minExp⟩ := rfl

theorem shapeOfUnpacked_finite (s : Sign) (m : Nat) (e : Int) (h : 0 < m) :
    shapeOfUnpacked (.finite s m e h) = .finite ⟨signNeg s, m, e⟩ := rfl

theorem signNeg_ofBitVec (v : BitVec 1) : signNeg (Sign.ofBitVec v) = (v.toNat == 1) := by
  have hv : v.toNat < 2 := v.isLt
  unfold Sign.ofBitVec
  by_cases h : v = 0#1
  · subst h
    rfl
  · have hne : v.toNat ≠ 0 := fun h0 => h (BitVec.eq_of_toNat_eq h0)
    rw [if_neg h]
    simp [signNeg]
    omega

/-- Finite values with the same sign, mantissa and exponent are equal, whatever the proofs that
their mantissas are positive. -/
theorem finite_congr {s s' : Sign} {m m' : Nat} {e e' : Int} {h : 0 < m} {h' : 0 < m'}
    (hs : s = s') (hm : m = m') (he : e = e') :
    UnpackedFloat.finite s m e h = .finite s' m' e' h' := by
  subst hs
  subst hm
  subst he
  rfl

/-- What `unpack` makes of a bit pattern, by its exponent field and its fraction field: infinity
or NaN under the all-ones exponent, zero or a subnormal value under the zero exponent, and a
normal value, with the implicit leading bit, under any other. -/
theorem unpack_cases (b : BitVec Format.binary64.numBits) :
    ((unpackExponent b).toNat = 2047 ∧ (unpackMantissa b).toNat = 0 ∧
        UnpackedFloat.unpack .binary64 b = .infinity (Sign.ofBitVec (unpackSign b))) ∨
      ((unpackExponent b).toNat = 2047 ∧ (unpackMantissa b).toNat ≠ 0 ∧
        UnpackedFloat.unpack .binary64 b = .notANumber) ∨
      ((unpackExponent b).toNat = 0 ∧ (unpackMantissa b).toNat = 0 ∧
        UnpackedFloat.unpack .binary64 b = .zero (Sign.ofBitVec (unpackSign b))) ∨
      ((unpackExponent b).toNat = 0 ∧ ∃ h : 0 < (unpackMantissa b).toNat,
        UnpackedFloat.unpack .binary64 b =
          .finite (Sign.ofBitVec (unpackSign b)) (unpackMantissa b).toNat (-1074) h) ∨
      (0 < (unpackExponent b).toNat ∧ (unpackExponent b).toNat < 2047 ∧
        ∃ h : 0 < (unpackMantissa b).toNat + 4503599627370496,
          UnpackedFloat.unpack .binary64 b =
            .finite (Sign.ofBitVec (unpackSign b)) ((unpackMantissa b).toNat + 4503599627370496)
              ((unpackExponent b).toNat - 1075) h) := by
  have hbias : (Format.binary64.exponentBias : Int) = 1023 := rfl
  have hE : (unpackExponent b).toNat < 2048 := (unpackExponent b).isLt
  have hzero : ∀ {w} (v : BitVec w), v = 0#w ↔ v.toNat = 0 := fun v =>
    ⟨fun h => by rw [h]; rfl, fun h => BitVec.eq_of_toNat_eq h⟩
  delta UnpackedFloat.unpack
  dsimp only
  by_cases hinf : unpackExponent b = -1#11
  · have he : (unpackExponent b).toNat = 2047 := by rw [hinf]; rfl
    rw [if_pos hinf]
    by_cases hz : unpackMantissa b = 0#52
    · exact .inl ⟨he, (hzero _).mp hz, if_pos hz⟩
    · exact .inr (.inl ⟨he, fun h => hz ((hzero _).mpr h), if_neg hz⟩)
  · have he : (unpackExponent b).toNat ≠ 2047 := fun h => hinf (BitVec.eq_of_toNat_eq h)
    rw [if_neg hinf]
    by_cases hsub : unpackExponent b = 0#11
    · have he0 : (unpackExponent b).toNat = 0 := (hzero _).mp hsub
      rw [if_pos hsub]
      by_cases hz : unpackMantissa b = 0#52
      · exact .inr (.inr (.inl ⟨he0, (hzero _).mp hz, dif_pos hz⟩))
      · have hexp : ((unpackExponent b).toNat : Int) -
            ((Format.binary64.exponentBias : Int) + ((52 : Nat) : Int)) + 1 = -1074 := by
          rw [he0, hbias]
          rfl
        have hpos : 0 < (unpackMantissa b).toNat := Nat.pos_of_ne_zero fun h => hz ((hzero _).mpr h)
        refine .inr (.inr (.inr (.inl ⟨he0, hpos, ?_⟩)))
        rw [dif_neg hz]
        exact finite_congr rfl rfl hexp
    · have he0 : (unpackExponent b).toNat ≠ 0 := fun h => hsub (BitVec.eq_of_toNat_eq h)
      rw [if_neg hsub]
      refine .inr (.inr (.inr (.inr ⟨by omega, by omega, by omega, ?_⟩)))
      exact finite_congr rfl (by rw [toNat_one_append]; omega) (by rw [hbias]; rfl)

/-- Decoding the bits directly and unpacking them give the same shape, in each case of
`unpack_cases`. -/
theorem shapeOfBits_toNat (b : BitVec Format.binary64.numBits) :
    shapeOfBits b.toNat = shapeOfUnpacked (UnpackedFloat.unpack .binary64 b) := by
  have hlt : b.toNat < 18446744073709551616 := b.isLt
  have hm := toNat_unpackMantissa b
  have he := toNat_unpackExponent b
  have hs := toNat_unpackSign b
  have hneg : (b.toNat / 9223372036854775808 % 2 == 1) =
      signNeg (Sign.ofBitVec (unpackSign b)) := by
    rw [signNeg_ofBitVec, hs]
    congr 1
    omega
  -- `shapeOfBits` reads the same three fields
  unfold shapeOfBits
  rw [show Nat.pow 2 fracBits = 4503599627370496 from rfl,
    show Nat.pow 2 63 = 9223372036854775808 from rfl, ← he, ← hm, hneg]
  rcases unpack_cases b with ⟨hE, hM, hu⟩ | ⟨hE, hM, hu⟩ | ⟨hE, hM, hu⟩ | ⟨hE, hpos, hu⟩ |
    ⟨hlo, hhi, hpos, hu⟩
  · rw [hu, hE, hM]
    rfl
  · rw [hu, hE]
    simp [hM]
    rfl
  · rw [hu, hE, hM, shapeOfUnpacked_zero]
    rfl
  · rw [hu, hE, shapeOfUnpacked_finite]
    rfl
  · rw [hu, shapeOfUnpacked_finite]
    simp [Nat.ne_of_lt hhi, Nat.ne_of_gt hlo]

/-! ## The values that unpacking produces -/

/-- The values a bit pattern unpacks to: the special values, and finite values in normal or
subnormal position. -/
inductive Canonical : UnpackedFloat → Prop
  | notANumber : Canonical .notANumber
  | infinity (s : Sign) : Canonical (.infinity s)
  | zero (s : Sign) : Canonical (.zero s)
  | subnormal (s : Sign) {m : Nat} (h : 0 < m) (hm : m < 4503599627370496) :
      Canonical (.finite s m (-1074) h)
  | normal (s : Sign) {m : Nat} {e : Int} (h : 0 < m) (hlo : 4503599627370496 ≤ m)
      (hhi : m < 9007199254740992) (helo : -1074 ≤ e) (hehi : e ≤ 971) :
      Canonical (.finite s m e h)

theorem canonical_unpack (b : BitVec Format.binary64.numBits) :
    Canonical (UnpackedFloat.unpack .binary64 b) := by
  have hM : (unpackMantissa b).toNat < 4503599627370496 := (unpackMantissa b).isLt
  rcases unpack_cases b with ⟨-, -, hu⟩ | ⟨-, -, hu⟩ | ⟨-, -, hu⟩ | ⟨-, hpos, hu⟩ |
      ⟨hlo, hhi, hpos, hu⟩ <;> rw [hu]
  · exact .infinity _
  · exact .notANumber
  · exact .zero _
  · exact .subnormal _ hpos hM
  · exact .normal _ hpos (by omega) (by omega) (by omega) (by omega)

theorem Canonical.abs {u : UnpackedFloat} (h : Canonical u) : Canonical u.abs := by
  cases h with
  | notANumber => exact .notANumber
  | infinity s => exact .infinity _
  | zero s => exact .zero _
  | subnormal s h hm => exact .subnormal _ h hm
  | normal s h hlo hhi helo hehi => exact .normal _ h hlo hhi helo hehi

/-- Fields with the zero exponent and a nonzero fraction unpack to a subnormal value. -/
theorem unpack_packComponents_subnormal (s : Sign) {m : BitVec 52} (hm : 0 < m.toNat) :
    UnpackedFloat.unpack .binary64 (packComponents .binary64 s 0#11 m) =
      .finite s m.toNat (-1074) hm := by
  have hE : unpackExponent (packComponents .binary64 s 0#11 m) = 0#11 :=
    unpackExponent_packComponents
  have hM : unpackMantissa (packComponents .binary64 s 0#11 m) = m := unpackMantissa_packComponents
  have hzero : (0#11).toNat = 0 := rfl
  rcases unpack_cases (packComponents .binary64 s 0#11 m) with ⟨hE', -, -⟩ | ⟨hE', -, -⟩ |
    ⟨-, hM', -⟩ | ⟨-, _, hu⟩ | ⟨hlo, -, -⟩
  -- the other readings need another exponent field, or a zero fraction
  · rw [hE, hzero] at hE'
    omega
  · rw [hE, hzero] at hE'
    omega
  · rw [hM] at hM'
    omega
  · rw [hu]
    exact finite_congr (ofBitVec_unpackSign_packComponents s _ m) (by rw [hM]) rfl
  · rw [hE, hzero] at hlo
    omega

/-- Fields with an exponent other than the two reserved ones unpack to a normal value. -/
theorem unpack_packComponents_normal (s : Sign) {e : BitVec 11} (m : BitVec 52)
    (hlo : 0 < e.toNat) (hhi : e.toNat < 2047) :
    UnpackedFloat.unpack .binary64 (packComponents .binary64 s e m) =
      .finite s (m.toNat + 4503599627370496) (e.toNat - 1075) (by omega) := by
  have hE : unpackExponent (packComponents .binary64 s e m) = e := unpackExponent_packComponents
  have hM : unpackMantissa (packComponents .binary64 s e m) = m := unpackMantissa_packComponents
  rcases unpack_cases (packComponents .binary64 s e m) with ⟨hE', -, -⟩ | ⟨hE', -, -⟩ |
    ⟨hE', -, -⟩ | ⟨hE', -, -⟩ | ⟨-, -, _, hu⟩
  -- the exponent field is neither all ones nor zero
  · rw [hE] at hE'
    omega
  · rw [hE] at hE'
    omega
  · rw [hE] at hE'
    omega
  · rw [hE] at hE'
    omega
  · rw [hu]
    exact finite_congr (ofBitVec_unpackSign_packComponents s e m) (by rw [hM]) (by rw [hE])

theorem unpack_pack_subnormal (s : Sign) {m : Nat} (h : 0 < m) (hm : m < 4503599627370496) :
    UnpackedFloat.unpack .binary64 (UnpackedFloat.pack .binary64 (.finite s m (-1074) h)) =
      .finite s m (-1074) h := by
  -- below `2^52` the mantissa has fewer than 53 bits, so `pack` takes the subnormal branch
  have hlog : m.log2 < 52 := (Nat.log2_lt (by omega)).mpr hm
  have hbits : Format.binary64.mantissaBits = 53 := rfl
  have hm' : (BitVec.ofNat 52 m).toNat = m := by
    rw [BitVec.toNat_ofNat]
    exact Nat.mod_eq_of_lt hm
  delta UnpackedFloat.pack
  dsimp only
  rw [if_neg (by decide), if_neg (by omega), unpack_packComponents_subnormal s (by rw [hm']; exact h)]
  exact finite_congr rfl hm' rfl

theorem unpack_pack_normal (s : Sign) {m : Nat} {e : Int} (h : 0 < m)
    (hlo : 4503599627370496 ≤ m) (hhi : m < 9007199254740992) (helo : -1074 ≤ e)
    (hehi : e ≤ 971) :
    UnpackedFloat.unpack .binary64 (UnpackedFloat.pack .binary64 (.finite s m e h)) =
      .finite s m e h := by
  -- a mantissa of exactly 53 bits takes the normal branch, with the biased exponent `e + 1075`
  have hlog : m.log2 = 52 := by
    have h1 : 52 ≤ m.log2 := (Nat.le_log2 (by omega)).mpr hlo
    have h2 : m.log2 < 53 := (Nat.log2_lt (by omega)).mpr hhi
    omega
  have hbias : (Format.binary64.exponentBias : Int) = 1023 := rfl
  have hbits : Format.binary64.mantissaBits = 53 := rfl
  have hfield : (BitVec.ofNat 11 (e + 1075).toNat).toNat = (e + 1075).toNat := by
    rw [BitVec.toNat_ofNat]
    omega
  have hmant : (BitVec.ofNat 52 m).toNat + 4503599627370496 = m := by
    rw [BitVec.toNat_ofNat]
    omega
  have hk : (e + 1023 + ((52 : Nat) : Int)).toNat = (e + 1075).toNat := by omega
  delta UnpackedFloat.pack
  dsimp only
  rw [hbias, hk, if_neg (by omega), if_pos (by omega),
    unpack_packComponents_normal s _ (by omega) (by omega)]
  exact finite_congr rfl hmant (by rw [hfield]; omega)

/-- Packing a value that unpacking produces, then unpacking it, gives it back. -/
theorem Canonical.unpack_pack {u : UnpackedFloat} (h : Canonical u) :
    UnpackedFloat.unpack .binary64 (UnpackedFloat.pack .binary64 u) = u := by
  cases h with
  | notANumber => rfl
  | infinity s => cases s <;> rfl
  | zero s => cases s <;> rfl
  | subnormal s h hm => exact unpack_pack_subnormal s h hm
  | normal s h hlo hhi helo hehi => exact unpack_pack_normal s h hlo hhi helo hehi

/-! ## Operations on `Float` as operations on shapes -/

/-- The shape with the sign cleared. -/
def Shape.abs : Shape → Shape
  | .nan => .nan
  | .infinite _ => .infinite false
  | .finite p => .finite { p with neg := false }

/-- Whether the shape is below zero: negative and not a zero. -/
def Shape.isNegative : Shape → Bool
  | .nan => false
  | .infinite n => n
  | .finite p => p.neg && 0 < p.mant

/-- Whether the shape is a finite value. -/
def Shape.isFinite : Shape → Bool
  | .finite _ => true
  | _ => false

theorem shapeOfUnpacked_abs (u : UnpackedFloat) :
    shapeOfUnpacked u.abs = (shapeOfUnpacked u).abs := by
  cases u <;> rfl

theorem shapeOf_eq_unpack (x : Float) : shapeOf x = shapeOfUnpacked x.toModel.unpack :=
  shapeOfBits_toNat _

theorem shapeOf_ofModel_pack {u : UnpackedFloat} (h : Canonical u) :
    shapeOf (Float.ofModel (Float.Model.pack u)) = shapeOfUnpacked u := by
  rw [shapeOf_eq_unpack]
  exact congrArg shapeOfUnpacked h.unpack_pack

theorem shapeOf_abs (x : Float) : shapeOf x.abs = (shapeOf x).abs := by
  rw [shapeOf_eq_unpack x, ← shapeOfUnpacked_abs]
  exact shapeOf_ofModel_pack (canonical_unpack _).abs

theorem shapeOf_ofBits (b : UInt64) : shapeOf (Float.ofBits b) = shapeOfBits b.toNat := by
  rw [show b.toNat = b.toBitVec.toNat from rfl, shapeOfBits_toNat]
  exact shapeOf_ofModel_pack (canonical_unpack _)

/-- A finite value is below zero exactly when its sign is negative: its mantissa is positive. -/
theorem finite_lt_zero (s : Sign) {m : Nat} (e : Int) (h : 0 < m) :
    (UnpackedFloat.finite s m e h).lt (.zero .positive) =
      (shapeOfUnpacked (.finite s m e h)).isNegative := by
  have hm : decide (0 < m) = true := decide_eq_true h
  rw [shapeOfUnpacked_finite]
  cases s <;> dsimp only [Shape.isNegative, signNeg] <;> rw [hm] <;> rfl

theorem lt_zero_unpacked {u : UnpackedFloat} (h : Canonical u) :
    u.lt (.zero .positive) = (shapeOfUnpacked u).isNegative := by
  cases h with
  | notANumber => rfl
  | infinity s => cases s <;> rfl
  | zero s => cases s <;> rfl
  | subnormal s h hm => exact finite_lt_zero s _ h
  | normal s h hlo hhi helo hehi => exact finite_lt_zero s _ h

theorem decide_lt_zero (x : Float) : decide (x < 0.0) = (shapeOf x).isNegative := by
  have hc : Canonical x.toModel.unpack := canonical_unpack _
  have hzero : (0.0 : Float).toModel.unpack = .zero .positive := rfl
  have hlt : decide (x < 0.0) = x.toModel.unpack.lt (0.0 : Float).toModel.unpack := by
    show decide (x.lt 0.0 = true) = _
    rw [Bool.decide_eq_true]
    show decide (x.toModel.lt (0.0 : Float).toModel = true) = _
    rw [Bool.decide_eq_true]
    rfl
  rw [hlt, hzero, lt_zero_unpacked hc, shapeOf_eq_unpack]

theorem isFinite_eq (x : Float) : x.isFinite = (shapeOf x).isFinite := by
  rw [shapeOf_eq_unpack]
  show x.toModel.unpack.isFinite = _
  cases x.toModel.unpack <;> rfl

end Covenant.Decimal
