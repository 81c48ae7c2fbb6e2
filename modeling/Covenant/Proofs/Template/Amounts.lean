import Covenant.Proofs.Decimal.Whole
import Covenant.Template.Helper
/-!
# Grouped amounts and their sign

`formatGrouped` writes a value at `d` places with a separator between groups of three digits;
`formatCurrency` puts a sign and a currency symbol or code around the grouped absolute value.

For every finite value, `formatGrouped_finite` reads the grouped text off the value in units
of `10^-d`: a minus only when the value is below zero *and* rounds to a nonzero number of
units, the digits before the point grouped by their place, then the point and the digits after
it.  Grouping digits by their place is grouping the number by thousands
(`groupDigits_toDigits`), so every whole amount below `2^53` is written with its digits in
thousands and `d` zeros after the point (`whole_amounts_group_by_thousands`).

The two helpers part on the sign.  A currency amount leads with a minus exactly when it is
below zero (`formatCurrency_minus_iff`), however it rounds, while a grouped amount also needs a
nonzero digit (`formatGrouped_minus_iff`): they agree exactly when no amount below zero rounds
to zero (`currency_sign_ignores_rounding`), and a thousandth below zero is shown as `-$0.00`
(`currency_minus_on_rounded_zero`).
-/

namespace Covenant.Template

open Covenant.Decimal

/-- The three digits of a number below `1000`, with leading zeros. -/
def threeDigits (r : Nat) : List Char :=
  [Nat.digitChar (r / 100), Nat.digitChar (r / 10 % 10), Nat.digitChar (r % 10)]

/-- The decimal digits of `n` in groups of three from the right, `sep` between groups. -/
def groupThousands (sep : String) (n : Nat) : String :=
  if n < 1000 then String.ofList (Nat.toDigits 10 n)
  else groupThousands sep (n / 1000) ++ sep ++ String.ofList (threeDigits (n % 1000))
termination_by n
decreasing_by omega

theorem toDigits_thousands {n : Nat} (h : 1000 ≤ n) :
    Nat.toDigits 10 n = Nat.toDigits 10 (n / 1000) ++ threeDigits (n % 1000) := by
  rw [Nat.toDigits_of_base_le (by decide) (by omega),
    Nat.toDigits_of_base_le (by decide) (by omega), Nat.toDigits_of_base_le (by decide) (by omega)]
  simp only [threeDigits, List.append_assoc, List.cons_append, List.nil_append]
  have h1 : n / 10 / 10 / 10 = n / 1000 := by omega
  have h2 : n / 10 / 10 % 10 = n % 1000 / 100 := by omega
  have h3 : n / 10 % 10 = n % 1000 / 10 % 10 := by omega
  have h4 : n % 10 = n % 1000 % 10 := by omega
  rw [h1, h2, h3, h4]

theorem join_map_toString (cs : List Char) :
    String.join (cs.map Char.toString) = String.ofList cs := by
  induction cs with
  | nil => rfl
  | cons c cs ih => rw [List.map_cons, String.join_cons, ih, String.ofList_cons]; rfl

/-- Up to three digits take no separator. -/
theorem groupDigits_of_length_le_three (sep : String) {ds : List Char} (h : ds.length ≤ 3) :
    groupDigits sep ds = String.ofList ds := by
  have hplain : ∀ p ∈ ds.zipIdx, groupedDigit sep ds.length p = p.1.toString := by
    rintro ⟨c, i⟩ hp
    have hi := (List.mem_zipIdx' hp).1
    -- a digit after the first stands one or two places from the right end
    have hgroup : ¬ ((i > 0 && (ds.length - i) % 3 = 0) = true) := by
      simp only [Bool.and_eq_true, decide_eq_true_eq]
      omega
    rw [groupedDigit, if_neg hgroup, String.empty_append]
  rw [groupDigits, List.map_congr_left hplain,
    show (fun p : Char × Nat => p.1.toString) = Char.toString ∘ Prod.fst from rfl,
    ← List.map_map, List.zipIdx_map_fst, join_map_toString]

/-- Three more digits on the right start a new group. -/
theorem groupDigits_append_three (sep : String) {A B : List Char} (hA : A ≠ [])
    (hB : B.length = 3) :
    groupDigits sep (A ++ B) = groupDigits sep A ++ sep ++ String.ofList B := by
  obtain ⟨b0, b1, b2, rfl⟩ := List.length_eq_three.mp hB
  have hpos : 0 < A.length := List.length_pos_iff.mpr hA
  -- the digits of `A` keep their distance from the right end modulo three
  have hleft : ∀ p ∈ A.zipIdx,
      groupedDigit sep (A.length + 3) p = groupedDigit sep A.length p := by
    rintro ⟨c, i⟩ hp
    have hi := (List.mem_zipIdx' hp).1
    have hmod : (A.length + 3 - i) % 3 = (A.length - i) % 3 := by omega
    simp only [groupedDigit, hmod]
  rw [groupDigits, groupDigits, List.zipIdx_append, List.map_append, String.join_append,
    List.length_append, List.length_cons, List.length_cons, List.length_singleton,
    List.map_congr_left hleft, String.append_assoc]
  congr 1
  rw [← String.toList_inj]
  simp [groupedDigit, hpos]

/-- Grouping the digits of `n` by their place is grouping `n` by thousands. -/
theorem groupDigits_toDigits (sep : String) (n : Nat) :
    groupDigits sep (Nat.toDigits 10 n) = groupThousands sep n := by
  fun_induction groupThousands sep n with
  | case1 n h =>
    exact groupDigits_of_length_le_three sep
      (Calendar.length_toDigits_le (by decide) (show n < 1000 from h))
  | case2 n h ih =>
    rw [toDigits_thousands (by omega), groupDigits_append_three sep Nat.toDigits_ne_nil rfl, ih]

example : groupDigits "," (Nat.toDigits 10 1234567) = "1,234,567" := by decide

theorem ne_point_of_mem_wholeDigits {d n : Nat} {c : Char} (h : c ∈ wholeDigits d n) :
    c ≠ '.' := by
  have hdigit := isDigit_of_mem_paddedDigits (List.mem_of_mem_take h)
  rintro rfl
  exact absurd hdigit (by decide)

/-- The digits before the point start with a digit, which is no minus sign. -/
theorem wholeDigits_eq_cons (d n : Nat) : ∃ c cs, wholeDigits d n = c :: cs ∧ c ≠ '-' := by
  obtain ⟨c, cs, hcs⟩ := List.exists_cons_of_ne_nil (wholeDigits_ne_nil d n)
  have hdigit : c.isDigit = true :=
    isDigit_of_mem_paddedDigits (List.mem_of_mem_take (hcs ▸ List.mem_cons_self))
  refine ⟨c, cs, hcs, ?_⟩
  rintro rfl
  exact absurd hdigit (by decide)

theorem shapeOf_abs_of_finite {x : Float} {q : Parts} (h : shapeOf x = .finite q) :
    shapeOf x.abs = .finite { q with neg := false } := by
  rw [shapeOf_abs, h]
  rfl

/-- The text of `fixed` for a value that is not negative: the digits before the point, then
the point and the digits after it when there are places. -/
theorem toList_fixed_of_not_neg {x : Float} {q : Parts} (h : shapeOf x = .finite q)
    (hneg : q.neg = false) (d : Nat) :
    (fixed d x).toList = wholeDigits d (q.units d) ++
      (if d = 0 then [] else '.' :: fractionDigits d (q.units d)) := by
  rw [fixed_finite h, hneg, if_neg Bool.false_ne_true, String.empty_append, String.toList_append,
    String.toList_ofList]
  by_cases hd : d = 0 <;> simp [hd]

/-- A finite value that is a nonzero number of units is below zero exactly when its sign is
set: a value with a nonzero mantissa is not a zero. -/
theorem lt_zero_and_units_iff {x : Float} {q : Parts} (h : shapeOf x = .finite q) (d : Nat) :
    (x < 0.0 ∧ 0 < q.units d) ↔ (q.neg = true ∧ 0 < q.units d) := by
  have hlt : x < 0.0 ↔ (q.neg && decide (0 < q.mant)) = true := by
    have hdec : decide (x < 0.0) = (q.neg && decide (0 < q.mant)) := by
      rw [decide_lt_zero, h]
      rfl
    rw [← hdec, decide_eq_true_iff]
  rw [hlt, Bool.and_eq_true, decide_eq_true_iff]
  exact ⟨fun hc => ⟨hc.1.1, hc.2⟩,
    fun hc => ⟨⟨hc.1, Parts.mant_pos_of_units_pos hc.2⟩, hc.2⟩⟩

/-- Digits, then the point and more digits when there are places: the text splits at its
point into the two runs of digits. -/
theorem split_at_point {W F : List Char} (hW : ∀ c ∈ W, c ≠ '.') (d : Nat) :
    (W ++ if d = 0 then [] else '.' :: F).takeWhile (· ≠ '.') = W ∧
      ((W ++ if d = 0 then [] else '.' :: F).dropWhile (· ≠ '.')).drop 1 =
        if d = 0 then [] else F := by
  have hW' : ∀ c ∈ W, decide (c ≠ '.') = true := fun c hc => decide_eq_true (hW c hc)
  rw [List.takeWhile_append_of_pos hW', List.dropWhile_append_of_pos hW']
  by_cases hd : d = 0 <;> simp [hd]

/-- The digits after the point are there exactly when there are places. -/
theorem isEmpty_fractionDigits (d n : Nat) :
    (if d = 0 then ([] : List Char) else fractionDigits d n).isEmpty = decide (d = 0) := by
  by_cases hd : d = 0
  · simp [hd]
  · have hlen := length_fractionDigits d n
    simp only [hd, if_false, decide_false, List.isEmpty_eq_false_iff, ne_eq]
    intro hnil
    rw [hnil, List.length_nil] at hlen
    exact hd hlen.symm

theorem formatGrouped_finite {x : Float} {q : Parts} (h : shapeOf x = .finite q) (d : Nat)
    (sep : String) :
    formatGrouped x d sep =
      (if q.neg ∧ 0 < q.units d then "-" else "") ++
        groupDigits sep (wholeDigits d (q.units d)) ++
        (if d = 0 then "" else "." ++ String.ofList (fractionDigits d (q.units d))) := by
  -- the digits are those of the absolute value, whose text has no sign
  have habs := shapeOf_abs_of_finite h
  have hunits : ({ q with neg := false } : Parts).units d = q.units d := rfl
  have htext := toList_fixed_of_not_neg habs rfl d
  have hany := any_nonzero_fixed habs d
  rw [hunits] at htext hany
  rw [htext] at hany
  obtain ⟨htake, hdrop⟩ := split_at_point (W := wholeDigits d (q.units d))
    (F := fractionDigits d (q.units d)) (fun _ hc => ne_point_of_mem_wholeDigits hc) d
  have hsign : (decide (x < 0.0) && decide (0 < q.units d)) = true ↔
      (q.neg = true ∧ 0 < q.units d) := by
    rw [Bool.and_eq_true, decide_eq_true_iff, decide_eq_true_iff]
    exact lt_zero_and_units_iff h d
  unfold formatGrouped
  simp only [htext, htake, hdrop, hany, hsign, isEmpty_fractionDigits, decide_eq_true_eq]
  by_cases hd : d = 0 <;> simp [hd]

theorem whole_amounts_group_by_thousands (n : Int) (d : Nat) (sep : String)
    (hn : n.natAbs < 9007199254740992) :
    formatGrouped (ofInt n) d sep =
      (if n < 0 then "-" else "") ++ groupThousands sep n.natAbs ++
        (if d = 0 then "" else "." ++ zeros d) := by
  obtain ⟨q, hshape, hneg, hunits⟩ := shapeOf_ofInt_units n hn
  -- a negative whole number is at least one unit in size, so it keeps its sign
  have hsign : (q.neg = true ∧ 0 < n.natAbs * Nat.pow 10 d) ↔ n < 0 := by
    rw [hneg, decide_eq_true_iff]
    refine ⟨And.left, fun hlt => ⟨hlt, Nat.mul_pos (by omega) (Nat.pow_pos (by decide))⟩⟩
  rw [formatGrouped_finite hshape, Parts.units, hunits, wholeDigits_whole, fractionDigits_whole,
    groupDigits_toDigits]
  simp only [hsign]
  rfl

theorem whole_amounts_group_by_thousands_negative :
    (-1234567 : Int).natAbs < 9007199254740992 ∧
      formatGrouped (ofInt (-1234567)) 2 " " =
        (if (-1234567 : Int) < 0 then "-" else "") ++ groupThousands " " (-1234567 : Int).natAbs ++
          (if 2 = 0 then "" else "." ++ zeros 2) :=
  ⟨by decide, whole_amounts_group_by_thousands (-1234567) 2 " " (by decide)⟩

example : formatGrouped (ofInt (-1234567)) 2 " " = "-1 234 567.00" := by decide

theorem head_groupDigits_cons (sep : String) (c : Char) (cs : List Char) :
    (groupDigits sep (c :: cs)).toList.head? = some c := by
  simp [groupDigits, groupedDigit, String.toList_join]

/-- Without its sign, a finite amount is written starting with a digit. -/
theorem head_formatGrouped_abs {x : Float} {q : Parts} (h : shapeOf x = .finite q) (d : Nat)
    (sep : String) : ∃ c, (formatGrouped x.abs d sep).toList.head? = some c ∧ c ≠ '-' := by
  obtain ⟨c, cs, hcs, hc⟩ := wholeDigits_eq_cons d (q.units d)
  have hunits : ({ q with neg := false } : Parts).units d = q.units d := rfl
  refine ⟨c, ?_, hc⟩
  rw [formatGrouped_finite (shapeOf_abs_of_finite h), hunits, hcs, if_neg (by simp),
    String.empty_append, String.toList_append, List.head?_append, head_groupDigits_cons]
  rfl

/-- An amount of money is shown with a leading minus exactly when it is below zero. -/
theorem formatCurrency_minus_iff {a : Float} {q : Parts} (h : shapeOf a = .finite q)
    (c : String) (d : Nat) :
    (formatCurrency a c d).toList.head? = some '-' ↔ a < 0.0 := by
  obtain ⟨ch, hhead, hch⟩ := head_formatGrouped_abs h d ","
  unfold formatCurrency
  by_cases hneg : a < 0.0
  · -- the sign comes first, whatever the symbol
    simp only [hneg, if_true]
    split_ifs <;> simp
  · -- the text starts with the symbol, or with the first digit when there is none
    simp only [hneg, if_false, String.empty_append]
    split_ifs <;> simp [hhead, hch]

/-- A grouped amount leads with a minus exactly when the value is below zero and rounds to a
nonzero number of units. -/
theorem formatGrouped_minus_iff {x : Float} {q : Parts} (h : shapeOf x = .finite q) (d : Nat)
    (sep : String) :
    (formatGrouped x d sep).toList.head? = some '-' ↔ x < 0.0 ∧ 0 < q.units d := by
  obtain ⟨c, cs, hcs, hc⟩ := wholeDigits_eq_cons d (q.units d)
  rw [formatGrouped_finite h, hcs, lt_zero_and_units_iff h]
  by_cases hs : q.neg = true ∧ 0 < q.units d
  · simp [hs]
  · simp [hs, String.toList_append, head_groupDigits_cons, hc]

theorem currency_sign_ignores_rounding (a : Float) (q : Parts) (c : String) (d : Nat)
    (h : shapeOf a = .finite q) :
    ((formatCurrency a c d).toList.head? = some '-' ↔ a < 0.0) ∧
      ((formatGrouped a d ",").toList.head? = some '-' ↔ a < 0.0 ∧ 0 < q.units d) ∧
      (((formatCurrency a c d).toList.head? = some '-' ↔
          (formatGrouped a d ",").toList.head? = some '-') ↔ (a < 0.0 → 0 < q.units d)) := by
  have hcurrency := formatCurrency_minus_iff h c d
  have hgrouped := formatGrouped_minus_iff h d ","
  refine ⟨hcurrency, hgrouped, ?_⟩
  rw [hcurrency, hgrouped]
  constructor
  · intro hiff hlt
    exact (hiff.mp hlt).2
  · intro himp
    exact ⟨fun hlt => ⟨hlt, himp hlt⟩, And.left⟩

theorem currency_sign_ignores_rounding_thousandth :
    shapeOf (nearest true 1 (-3)) = .finite ⟨true, 4611686018427388, -62⟩ ∧
      ((formatCurrency (nearest true 1 (-3)) "USD" 2).toList.head? = some '-' ↔
          nearest true 1 (-3) < 0.0) ∧
      ((formatGrouped (nearest true 1 (-3)) 2 ",").toList.head? = some '-' ↔
          nearest true 1 (-3) < 0.0 ∧ 0 < (⟨true, 4611686018427388, -62⟩ : Parts).units 2) ∧
      (((formatCurrency (nearest true 1 (-3)) "USD" 2).toList.head? = some '-' ↔
          (formatGrouped (nearest true 1 (-3)) 2 ",").toList.head? = some '-') ↔
        (nearest true 1 (-3) < 0.0 → 0 < (⟨true, 4611686018427388, -62⟩ : Parts).units 2)) :=
  ⟨by decide, currency_sign_ignores_rounding _ _ "USD" 2 (by decide)⟩

/-- A thousandth below zero is shown as a negative sum of money, though its grouped digits
carry no sign. -/
theorem currency_minus_on_rounded_zero :
    formatCurrency (nearest true 1 (-3)) "USD" 2 = "-$0.00" ∧
      formatGrouped (nearest true 1 (-3)) 2 "," = "0.00" :=
  ⟨by decide, by decide⟩

end Covenant.Template
