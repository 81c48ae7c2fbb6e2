import Covenant.Proofs.Merge.DestinationWins
/-!
# What a successful merge returns

A caller that merges again and again, as the import resolver does, learns only that each
merge succeeded.  For well-formed metadata that is enough to know the result
(`merge_result_eq`): it is the destination with the added source leaves placed into it.
A spent budget changes nothing here, since it lets only an empty destination and an empty
kept source through.  From that:

* both sides of a successful merge were within the depth limit (`merge_depths`), and so is
  the result, which is well formed and has exactly the destination's leaves and the added
  ones (`merge_result_leaves`);
* every leaf of the result is a leaf of the destination or of the source, with its value;
* a key the source may not set keeps the destination's whole entry: with reserved keys
  filtered, every reserved key, in whatever letter case (`get?_merge_reserved`).
-/

namespace Covenant

namespace Value

/-- Dropping entries drops their leaves and keeps the others. -/
theorem mem_entryLeaves_of_mem_filter {es : List (String × Value)}
    {f : String × Value → Bool} {p : List String × Value} (h : p ∈ entryLeaves (es.filter f)) :
    p ∈ entryLeaves es := by
  induction es with
  | nil => simp at h
  | cons e es ih =>
      obtain ⟨k, v⟩ := e
      rw [entryLeaves_cons, List.mem_append]
      rw [List.filter_cons] at h
      split at h
      · rw [entryLeaves_cons, List.mem_append] at h
        exact h.imp_right ih
      · exact Or.inr (ih h)

end Value

namespace Merge

open Value

variable {b : Budget} {D S r : Metadata} {opts : Options} {st : Stats}

/-- A spent budget lets only empty metadata through flattening. -/
theorem eq_nil_of_flattenWith_spent (hb : b.spent = true) {m : Metadata} {F : Entries}
    (h : flattenWith b m = .ok F) : m = [] := by
  cases m with
  | nil => rfl
  | cons e m =>
      -- the first entry is refused before anything is written
      have hfirst : flattenValue b (escapeSegment e.1) 1 e.2 [] =
          .error (.mergeTimeout (escapeSegment e.1) b.ms) := by
        rw [flattenValue.eq_def]
        simp [hb]
      have hrun : flattenWith b (e :: m) = .error (.mergeTimeout (escapeSegment e.1) b.ms) := by
        show (e :: m).foldlM (fun flat e => flattenValue b (escapeSegment e.1) 1 e.2 flat) [] = _
        rw [List.foldlM_cons, hfirst]
        rfl
      rw [hrun] at h
      cases h

/-- Metadata that flattens with an unspent budget is within the depth limit. -/
theorem depth_le_of_flattenWith (hb : b.spent = false) {m : Metadata} {F : Entries}
    (h : flattenWith b m = .ok F) : m.depth ≤ maxDepth := by
  by_contra hd
  obtain ⟨p, hp⟩ := flattenWith_tooDeep hb m (by omega) []
  have hrun : flattenWith b m = .error (.metadataTooDeep p maxDepth) := hp
  rw [hrun] at h
  cases h

/-- Within the depth limit and an unspent budget, merging well-formed metadata places the
added leaves into the destination. -/
theorem merge_eq_placeAll (hD : D.WellFormed) (hS : S.WellFormed) (hDd : D.depth ≤ maxDepth)
    (hSd : (keptSource opts S).depth ≤ maxDepth) (hb : opts.budget.spent = false) :
    ∃ stats, merge D S opts = .ok (placeAll D (addedLeaves D S opts), stats) := by
  have hS'wf := keptSource_wellFormed opts hS
  have hfold : (keptSource opts S).flatLeaves.foldlM
      (mergeStep opts D.flatLeaves (D.flatLeaves.flatMap (properPrefixes ·.1)))
      (D.flatLeaves, { filtered := if opts.filterReserved then
        (S.filter (isReserved ·.1)).map (·.1) else [] }) = _ :=
    foldlM_mergeStep D hb _ (fun p hp => ne_nil_of_mem_entryLeaves hp) _ _
  rw [merge_eq, flattenWith_eq_flatLeaves hb hD hDd, flattenWith_eq_flatLeaves hb hS'wf hSd]
  simp only [bind, Except.bind]
  rw [hfold, merged_eq_append hS]
  dsimp only
  rw [unflatten_merged hD]
  exact ⟨_, rfl⟩

/-- A successful merge flattened both sides: the destination, and the source once its
reserved keys are gone. -/
theorem flattenWith_of_merge (h : merge D S opts = .ok (r, st)) :
    (∃ F, flattenWith opts.budget D = .ok F) ∧
      ∃ F, flattenWith opts.budget (keptSource opts S) = .ok F := by
  rw [merge_eq] at h
  cases hDf : flattenWith opts.budget D with
  | error e => simp [hDf, bind, Except.bind] at h
  | ok DF =>
      cases hSf : flattenWith opts.budget (keptSource opts S) with
      | error e => simp [hDf, hSf, bind, Except.bind] at h
      | ok SF => exact ⟨⟨DF, rfl⟩, SF, rfl⟩

/-- Both sides of a successful merge were within the depth limit. -/
theorem merge_depths (h : merge D S opts = .ok (r, st)) :
    D.depth ≤ maxDepth ∧ (keptSource opts S).depth ≤ maxDepth := by
  obtain ⟨⟨DF, hDf⟩, SF, hSf⟩ := flattenWith_of_merge h
  cases hb : opts.budget.spent with
  | false => exact ⟨depth_le_of_flattenWith hb hDf, depth_le_of_flattenWith hb hSf⟩
  | true =>
      rw [eq_nil_of_flattenWith_spent hb hDf, eq_nil_of_flattenWith_spent hb hSf]
      exact ⟨Nat.zero_le _, Nat.zero_le _⟩

/-- **The result of a merge.**  A successful merge of well-formed metadata returns the
destination with the added source leaves placed into it. -/
theorem merge_result_eq (hD : D.WellFormed) (hS : S.WellFormed)
    (h : merge D S opts = .ok (r, st)) : r = placeAll D (addedLeaves D S opts) := by
  cases hb : opts.budget.spent with
  | false =>
      obtain ⟨hDd, hSd⟩ := merge_depths h
      obtain ⟨stats, hm⟩ := merge_eq_placeAll hD hS hDd hSd hb
      rw [hm] at h
      cases h
      rfl
  | true =>
      -- a spent budget lets the merge through only with nothing on either side
      obtain ⟨⟨DF, hDf⟩, SF, hSf⟩ := flattenWith_of_merge h
      have hS0 := eq_nil_of_flattenWith_spent hb hSf
      have hadded : addedLeaves D S opts = [] := by
        simp [addedLeaves, hS0]
      obtain rfl := eq_nil_of_flattenWith_spent hb hDf
      rw [merge_eq, hS0] at h
      simp only [bind, Except.bind] at h
      cases h
      rw [hadded]
      rfl

/-- The added leaves lie within the depth limit when the kept source does. -/
theorem depth_placeAll_addedLeaves (hD : D.WellFormed) (hS : S.WellFormed)
    (hDd : D.depth ≤ maxDepth) (hSd : (keptSource opts S).depth ≤ maxDepth) :
    Metadata.depth (placeAll D (addedLeaves D S opts)) ≤ maxDepth := by
  obtain ⟨-, hperm, -⟩ := @placeAll_addedLeaves D S opts hD hS
  rw [depth_le_iff]
  intro ks hks
  rw [leafKeys, (hperm.map Prod.fst).mem_iff, List.map_append, List.mem_append] at hks
  rcases hks with hks | hks
  · exact (depth_le_iff D maxDepth).mp hDd ks hks
  · obtain ⟨p, hp, rfl⟩ := List.mem_map.mp hks
    exact (depth_le_iff _ maxDepth).mp hSd p.1
      (List.mem_map.mpr ⟨p, List.mem_of_mem_filter hp, rfl⟩)

/-- **What a merge leaves.**  The result of a successful merge of well-formed metadata is well
formed, within the depth limit, and its leaves are the destination's and the added ones. -/
theorem merge_result_leaves (hD : D.WellFormed) (hS : S.WellFormed)
    (h : merge D S opts = .ok (r, st)) :
    r.WellFormed ∧ r.depth ≤ maxDepth ∧
      (entryLeaves r).Perm (entryLeaves D ++ addedLeaves D S opts) := by
  obtain ⟨hDd, hSd⟩ := merge_depths h
  obtain ⟨hwf, hperm, -⟩ := @placeAll_addedLeaves D S opts hD hS
  rw [merge_result_eq hD hS h]
  exact ⟨hwf, depth_placeAll_addedLeaves hD hS hDd hSd, hperm⟩

/-- Every destination leaf stays, and every leaf of the result is the destination's or the
source's. -/
theorem mem_entryLeaves_merge (hD : D.WellFormed) (hS : S.WellFormed)
    (h : merge D S opts = .ok (r, st)) (x : List String × Value) :
    (x ∈ entryLeaves D → x ∈ entryLeaves r) ∧
      (x ∈ entryLeaves r → x ∈ entryLeaves D ∨ x ∈ entryLeaves S) := by
  have hperm := (merge_result_leaves hD hS h).2.2
  refine ⟨fun hx => hperm.mem_iff.mpr (List.mem_append_left _ hx), fun hx => ?_⟩
  rcases List.mem_append.mp (hperm.mem_iff.mp hx) with hx | hx
  · exact Or.inl hx
  · right
    have hkept := List.mem_of_mem_filter hx
    unfold keptSource at hkept
    split at hkept
    · exact mem_entryLeaves_of_mem_filter hkept
    · exact hkept

/-- Placing a value under a first key leaves every other key's entry as it was. -/
theorem get?_place_of_ne {T T' : Entries} {x : Value} {k k' : String} {ks : List String}
    (hne : k' ≠ k) (h : place T x (k' :: ks) = some T') : T'.get? k = T.get? k := by
  cases ks with
  | nil =>
      rw [place.eq_2] at h
      cases h
      split
      · rfl
      · exact Entries.get?_insert_of_ne hne
  | cons k'' ks =>
      rw [place.eq_3 _ _ _ _ (List.cons_ne_nil k'' ks)] at h
      split at h
      · obtain ⟨inner, -, rfl⟩ := Option.map_eq_some_iff.mp h
        exact Entries.get?_insert_of_ne hne
      · obtain ⟨inner, -, rfl⟩ := Option.map_eq_some_iff.mp h
        exact Entries.get?_insert_of_ne hne
      · cases h

/-- Placing leaves none of which lies under `k` leaves the entry under `k` as it was. -/
theorem get?_placeAll_of_ne {k : String} :
    ∀ (L : List (List String × Value)) (T : Entries), (∀ p ∈ L, p.1.head? ≠ some k) →
      (placeAll T L).get? k = T.get? k
  | [], _, _ => rfl
  | p :: L, T, hL => by
      rw [placeAll_cons, get?_placeAll_of_ne L _ fun q hq => hL q (List.mem_cons_of_mem _ hq)]
      -- the first leaf changes, at most, the entry of its own first key
      cases hplace : place T p.2 p.1 with
      | none => rfl
      | some T' =>
          obtain ⟨ks, x⟩ := p
          cases ks with
          | nil =>
              cases hplace
              rfl
          | cons k' ks =>
              have hne : k' ≠ k := fun hk => hL _ List.mem_cons_self (by simp [hk])
              exact get?_place_of_ne hne hplace

/-- **Reserved keys stay.**  With reserved keys filtered, a successful merge of well-formed
metadata keeps the destination's entry under every reserved key, the entry absent if it was
absent: the source can neither set nor change one. -/
theorem get?_merge_reserved (hf : opts.filterReserved = true) (hD : D.WellFormed)
    (hS : S.WellFormed) (h : merge D S opts = .ok (r, st)) {k : String}
    (hk : isReserved k = true) : r.get? k = D.get? k := by
  rw [merge_result_eq hD hS h]
  apply get?_placeAll_of_ne
  intro p hp hhead
  have hkept := List.mem_of_mem_filter hp
  rw [keptSource, if_pos hf] at hkept
  obtain ⟨k', ks, hks, hk'⟩ := mem_entryLeaves hkept
  rw [hks, List.head?_cons, Option.some.injEq] at hhead
  subst hhead
  obtain ⟨e, he, rfl⟩ := List.mem_map.mp hk'
  have hkeep := (List.mem_filter.mp he).2
  simp [hk] at hkeep

end Merge

end Covenant
