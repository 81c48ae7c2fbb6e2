import Covenant.Proofs.Merge.Result
/-!
# Merging the same source again

A document may import the same front matter twice: a clause imported twice, or the two arms
of a diamond of imports.  The second merge changes nothing (`merge_idempotent`): for
well-formed metadata within the depth limit and an unspent budget, merging a source into the
result of merging it once adds no leaf and returns that result, keys, values and order
alike; and a merge that adds no leaf returns its destination as it was.

The argument is about leaves only.  The result's leaves are the destination's and the added
ones (`merge_result_leaves`), so every leaf of the kept source meets a leaf of the result:
one it met before still stands, and one added before is now there itself.  With nothing to
add, a merge places nothing into its destination (`merge_eq_placeAll`).
-/

namespace Covenant.Merge

open Value

/-- Meeting one of a list of leaf keys stays true when the list grows. -/
theorem meets_of_subset {dest dest' : List (List String)} {ks : List String}
    (hsub : ∀ d ∈ dest, d ∈ dest') (h : meets dest ks = true) : meets dest' ks = true := by
  obtain ⟨d, hd, hpre⟩ := meets_iff.mp h
  exact meets_iff.mpr ⟨d, hsub d hd, hpre⟩

section Again

variable {D S : Metadata} {opts : Options}

/-- The leaf keys of the result of a merge: the destination's and the added ones. -/
theorem mem_leafKeys_placeAll (hD : D.WellFormed) (hS : S.WellFormed) {ks : List String} :
    ks ∈ leafKeys (placeAll D (addedLeaves D S opts)) ↔
      ks ∈ leafKeys D ∨ ks ∈ (addedLeaves D S opts).map Prod.fst := by
  obtain ⟨-, hperm, -⟩ := @placeAll_addedLeaves D S opts hD hS
  rw [leafKeys, (hperm.map Prod.fst).mem_iff, List.map_append, List.mem_append, leafKeys]

/-- **Nothing is added twice.**  Once a source is merged, each of its kept leaves meets a leaf
of the result, so merging it again adds none. -/
theorem addedLeaves_placeAll (hD : D.WellFormed) (hS : S.WellFormed) :
    addedLeaves (placeAll D (addedLeaves D S opts)) S opts = [] := by
  rw [addedLeaves, List.filter_eq_nil_iff]
  intro p hp
  rw [Bool.not_eq_true', Bool.not_eq_false]
  by_cases hm : meets (leafKeys D) p.1 = true
  · -- a leaf that met the destination meets the larger result
    refine meets_of_subset (fun d hd => ?_) hm
    exact (mem_leafKeys_placeAll hD hS).mpr (Or.inl hd)
  · -- a leaf that met nothing was added, and is a leaf of the result now
    have hadded : p ∈ addedLeaves D S opts := List.mem_filter.mpr ⟨hp, by simpa using hm⟩
    apply meets_of_mem
    exact (mem_leafKeys_placeAll hD hS).mpr (Or.inr (List.mem_map.mpr ⟨p, hadded, rfl⟩))

/-- A merge that reports no added leaf had none to add. -/
theorem addedLeaves_eq_nil_of_merge (hD : D.WellFormed) (hS : S.WellFormed)
    (hDd : D.depth ≤ maxDepth) (hSd : S.depth ≤ maxDepth) (hb : opts.budget.spent = false)
    {r : Metadata} {st : Stats} (h : merge D S opts = .ok (r, st)) (hnone : st.added = []) :
    addedLeaves D S opts = [] := by
  obtain ⟨r', st', hrun, -, hadded, -⟩ := merge_keeps_destination D S opts hD hS hDd hSd hb
  rw [h] at hrun
  cases hrun
  rw [hnone, eq_comm, List.map_eq_nil_iff] at hadded
  exact hadded

end Again

/-- **Merging again changes nothing.**  For well-formed destination and source metadata within
the depth limit and an unspent budget, the merge succeeds with some result `R`; merging the
same source into `R` succeeds, adds no leaf and returns `R` itself; and whenever the first
merge adds no leaf, `R` is the destination. -/
theorem merge_idempotent (D S : Metadata) (opts : Options)
    (hD : D.WellFormed) (hS : S.WellFormed) (hDd : D.depth ≤ maxDepth)
    (hSd : S.depth ≤ maxDepth) (hb : opts.budget.spent = false) :
    ∃ R st, merge D S opts = .ok (R, st) ∧
      (∃ st', merge R S opts = .ok (R, st') ∧ st'.added = []) ∧
      (st.added = [] → R = D) := by
  have hkd := Nat.le_trans (depth_keptSource_le opts S) hSd
  obtain ⟨st, hrun⟩ := @merge_eq_placeAll D S opts hD hS hDd hkd hb
  obtain ⟨hRwf, hRd, -⟩ := merge_result_leaves hD hS hrun
  refine ⟨_, st, hrun, ?again, fun hnone => ?stays⟩
  case again =>
    -- the second merge places the leaves it adds, and there are none
    obtain ⟨st', hrun'⟩ := @merge_eq_placeAll _ S opts hRwf hS hRd hkd hb
    rw [addedLeaves_placeAll hD hS, placeAll_nil] at hrun'
    obtain ⟨R', st'', hrun'', -, hadded, -⟩ := merge_keeps_destination _ S opts hRwf hS hRd hSd hb
    rw [hrun'] at hrun''
    cases hrun''
    refine ⟨st', hrun', ?_⟩
    rw [hadded]
    simpa [addedLeaves] using @addedLeaves_placeAll D S opts hD hS
  case stays =>
    rw [addedLeaves_eq_nil_of_merge hD hS hDd hSd hb hrun hnone, placeAll_nil]

/-- Two top-level keys, one already set: the first merge adds the other, the second adds
nothing. -/
theorem merge_idempotent_partial :
    Metadata.WellFormed [("a", .str "x")] ∧
    Metadata.WellFormed [("a", .str "y"), ("b", .null)] ∧
    Metadata.depth [("a", .str "x")] ≤ maxDepth ∧
    Metadata.depth [("a", .str "y"), ("b", .null)] ≤ maxDepth ∧
    ({} : Options).budget.spent = false ∧
    ∃ R st, merge [("a", .str "x")] [("a", .str "y"), ("b", .null)] {} = .ok (R, st) ∧
      (∃ st', merge R [("a", .str "y"), ("b", .null)] {} = .ok (R, st') ∧ st'.added = []) ∧
      (st.added = [] → R = [("a", .str "x")]) := by
  have hD : Metadata.WellFormed [("a", .str "x")] := by
    simp [Metadata.WellFormed, Value.WellFormed, Value.EntriesWellFormed]
  have hS : Metadata.WellFormed [("a", .str "y"), ("b", .null)] := by
    simp [Metadata.WellFormed, Value.WellFormed, Value.EntriesWellFormed]
  have hDd : Metadata.depth [("a", .str "x")] ≤ maxDepth := by decide
  have hSd : Metadata.depth [("a", .str "y"), ("b", .null)] ≤ maxDepth := by decide
  have hb : ({} : Options).budget.spent = false := by decide
  exact ⟨hD, hS, hDd, hSd, hb, merge_idempotent _ _ {} hD hS hDd hSd hb⟩

example : (merge [("a", .str "x"), ("b", .null)] [("a", .str "y"), ("b", .null)] {}).map
    (·.2.added) = .ok [] := by
  decide

end Covenant.Merge
