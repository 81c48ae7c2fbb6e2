import Covenant.Proofs.Heading.Frame
/-!
# Indentation is counted in 64 bits

A header at level `L` is indented by the style's step once per level below the first. The
step comes from a non-negative `level-indent` number, rounded and capped at the largest 64-bit
value (`indentStepOf_le`); a whole number below `2^53` gives itself (`indentStepOf_whole`).
The indentation is the product `(L - 1) * step` counted in 64 bits (`indentWidth`), so it is
that product exactly when the product fits (`indentWidth_eq_iff`), which every step from a
whole number below `2^53` does at every level (`indentWidth_of_whole`).

Not every step fits: the whole number `2^63` is a step of its own, and twice it is `2^64`, so
a header at the third level is not indented at all (`header_indent_step_overflows`). The main
statement (`header_indent_counts_in_64_bits`) gathers, for every document and header, the range
of the step, the header text as its indentation followed by the text without it, and when the
indentation is exact.
-/

namespace Covenant.Heading

open Covenant.Text

/-! ## The step -/

/-- Every step a number gives is a 64-bit count. -/
theorem indentStep?_le {n : Number} {s : Nat} (h : indentStep? n = some s) : s ≤ maxCount := by
  cases n with
  | int i =>
    simp only [indentStep?] at h
    split at h
    · cases h
      exact Nat.min_le_right _ _
    · cases h
  | float f =>
    simp only [indentStep?] at h
    split at h
    · cases h
      -- the cast to 64 bits saturates
      exact Nat.le_pred_of_lt (UInt64.toNat_lt _)
    · cases h

/-- The step metadata gives is a 64-bit count. -/
theorem indentStepOf_le (m : Metadata) : indentStepOf m ≤ maxCount := by
  unfold indentStepOf
  split
  · rename_i n _
    cases hs : indentStep? n with
    | none => decide
    | some s => exact indentStep?_le hs
  · decide

/-- Whole numbers below `2^53` are binary64 values. -/
theorem nearestBinary64_of_lt {n : Nat} (h : n < Nat.pow 2 53) : nearestBinary64 n = n := by
  rw [nearestBinary64, if_pos h]

/-- A whole `level-indent` below `2^53` is the step. -/
theorem indentStepOf_whole {m : Metadata} {i : Nat}
    (h : Entries.get? m "level-indent" = some (.num (.int i))) (hi : i < Nat.pow 2 53) :
    indentStepOf m = i := by
  have hcap : Nat.pow 2 53 ≤ maxCount := by decide
  unfold indentStepOf
  rw [h]
  simp only [indentStep?, if_pos (Int.natCast_nonneg i), Int.toNat_natCast,
    nearestBinary64_of_lt hi, Option.getD_some]
  exact Nat.min_eq_left (by omega)

/-- The style read from metadata has the step the metadata gives. -/
theorem indentStep_ofMetadata (m : Metadata) (noReset noIndent : Bool) :
    (Style.ofMetadata m noReset noIndent).indentStep = indentStepOf m := by
  unfold Style.ofMetadata
  split <;> split <;> rfl

/-! ## The indentation -/

/-- The indentation is a 64-bit count. -/
theorem indentWidth_lt (level step : Nat) : indentWidth level step < Nat.pow 2 64 :=
  Nat.mod_lt _ (by decide)

/-- The indentation is the step once per level below the first exactly when that product is
a 64-bit count. -/
theorem indentWidth_eq_iff (level step : Nat) :
    indentWidth level step = (level - 1) * step ↔ (level - 1) * step ≤ maxCount := by
  have hlt := indentWidth_lt level step
  have hpos : 0 < Nat.pow 2 64 := by decide
  unfold indentWidth at hlt ⊢
  unfold maxCount
  generalize (level - 1) * step = w at hlt ⊢
  constructor
  · intro h
    omega
  · intro h
    exact Nat.mod_eq_of_lt (by omega)

/-- A whole `level-indent` below `2^53` indents every level by exactly the step once per level
below the first. -/
theorem indentWidth_of_whole {m : Metadata} {i : Nat}
    (h : Entries.get? m "level-indent" = some (.num (.int i))) (hi : i < Nat.pow 2 53)
    {level : Nat} (hlevel : level ≤ 5) :
    indentWidth level (indentStepOf m) = (level - 1) * i := by
  rw [indentStepOf_whole h hi, indentWidth_eq_iff]
  have hcap : 4 * Nat.pow 2 53 ≤ maxCount := by decide
  have hmul : (level - 1) * i ≤ 4 * i := Nat.mul_le_mul_right i (by omega)
  omega

/-- A header's text is its indentation followed by its text without indentation. -/
theorem headerText_eq_indent (style : Style) (counters : Counters) (level : Nat)
    (title : String) :
    headerText style counters level title =
      String.ofList (List.replicate
        (if (!style.noIndent && !(style.indentExempt[level - 1]?).getD false) = true then
          indentWidth level style.indentStep else 0) ' ') ++
        headerText { style with noIndent := true } counters level title := by
  by_cases hind : (!style.noIndent && !(style.indentExempt[level - 1]?).getD false) = true
  · simp [headerText, hind, String.append_assoc]
  · simp [headerText, hind, String.append_assoc]

/-- **Indentation is counted in 64 bits.** The step a document's metadata gives is a 64-bit
count. A header's text is its indentation followed by its text without it, and the
indentation is the step once per level below the first, counted in 64 bits: that product
exactly when it is a 64-bit count, as it is at every level when the `level-indent` is a whole
number below `2^53`. -/
theorem header_indent_counts_in_64_bits (m : Metadata) (noReset noIndent : Bool)
    (counters : Counters) (level : Nat) (title : String) :
    let style := Style.ofMetadata m noReset noIndent
    style.indentStep ≤ maxCount ∧
      headerText style counters level title =
        String.ofList (List.replicate
          (if (!style.noIndent && !(style.indentExempt[level - 1]?).getD false) = true then
            indentWidth level style.indentStep else 0) ' ') ++
          headerText { style with noIndent := true } counters level title ∧
      (indentWidth level style.indentStep = (level - 1) * style.indentStep ↔
        (level - 1) * style.indentStep ≤ maxCount) ∧
      (∀ i : Nat, Entries.get? m "level-indent" = some (.num (.int i)) → i < Nat.pow 2 53 →
        level ≤ 5 → indentWidth level style.indentStep = (level - 1) * i) := by
  intro style
  have hstep : style.indentStep = indentStepOf m := indentStep_ofMetadata m noReset noIndent
  refine ⟨hstep ▸ indentStepOf_le m, headerText_eq_indent style counters level title,
    indentWidth_eq_iff level style.indentStep, fun i h hi hlevel => ?_⟩
  rw [hstep]
  exact indentWidth_of_whole h hi hlevel

/-- A document indenting by four: a header at the fifth level is indented by sixteen. -/
theorem header_indent_counts_in_64_bits_four :
    Entries.get? [("level-indent", .num (.int 4))] "level-indent" =
        some (.num (.int (4 : Nat))) ∧ (4 : Nat) < Nat.pow 2 53 ∧
      indentWidth 5 (Style.ofMetadata [("level-indent", .num (.int 4))] false false).indentStep =
        (5 - 1) * 4 :=
  ⟨rfl, by decide,
    (header_indent_counts_in_64_bits [("level-indent", .num (.int 4))] false false {} 5
      "x").2.2.2 4 rfl (by decide) (by decide)⟩

/-- The step can exceed what the indentation counts: a `level-indent` of `2^63` is a step of
`2^63`, twice which is no 64-bit count, and a header at the third level is written with no
indentation. -/
theorem header_indent_step_overflows :
    (Style.ofMetadata [("level-indent", .num (.int (Nat.pow 2 63)))] false false).indentStep =
        Nat.pow 2 63 ∧
      maxCount < (3 - 1) * Nat.pow 2 63 ∧
      numberHeaders "lll. x\n" (Style.ofMetadata [("level-indent", .num (.int (Nat.pow 2 63)))]
        false false) = "(1) x\n" := by
  have hstep : (Style.ofMetadata [("level-indent", .num (.int (Nat.pow 2 63)))] false
      false).indentStep = Nat.pow 2 63 := by
    rw [indentStep_ofMetadata]
    decide
  have hhead : ("lll. x".toList.dropWhile isBlank).head? = some 'l' := by decide
  have hfs : fenceStep none ⟨"lll. x", "\n"⟩ = (false, none) := by
    refine fenceStep_of_outside (fenceOpener?_eq_none ?_)
    intro c hc
    rw [hhead, Option.mem_def, Option.some.injEq] at hc
    subst hc
    decide
  refine ⟨hstep, by decide, ?_⟩
  rw [numberHeaders, show lines "lll. x\n" = [⟨"lll. x", "\n"⟩] from rfl, go_header _ _ _ hfs rfl]
  decide

end Covenant.Heading
