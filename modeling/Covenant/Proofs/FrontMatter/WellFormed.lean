import Covenant.FrontMatter
import Covenant.Proofs.Merge.Grow
/-!
# Front matter is well-formed metadata

Metadata keeps its keys distinct in every mapping (`Metadata.WellFormed`).  Front matter
keeps that promise on its own: a YAML mapping becomes metadata entry by entry through
`Entries.insert`, which replaces the value of a key already there, and the lenient reading
of a malformed block joins the entries that load through `Entries.extend`, which does the
same.  So whatever `parseFrontMatter` returns is well formed (`parseFrontMatter_wellFormed`),
and read leniently it always returns (`parseFrontMatter_lenient`).
-/

namespace Covenant

namespace Value

/-- Inserting a well-formed value keeps a mapping well formed. -/
theorem wellFormed_insert {es : Entries} {k : String} {v : Value} (hes : (Value.obj es).WellFormed)
    (hv : v.WellFormed) : (Value.obj (es.insert k v)).WellFormed := by
  unfold Entries.insert
  split
  · -- the keys stay as they were, and each value is the old one or `v`
    rw [wellFormed_obj, entriesWellFormed_iff] at hes ⊢
    have hkeys : (es.map fun e => if e.1 == k then (k, v) else e).map Prod.fst = es.map Prod.fst := by
      rw [List.map_map]
      apply List.map_congr_left
      intro e _
      by_cases he : e.1 = k <;> simp [he]
    refine ⟨hkeys ▸ hes.1, ?_⟩
    intro e he
    obtain ⟨e', he', rfl⟩ := List.mem_map.mp he
    split
    · exact hv
    · exact hes.2 e' he'
  · rename_i hk
    exact (Merge.grow_append_fresh (Entries.contains_eq_false.mp (by simpa using hk)) hes hv).1

/-- Extending by well-formed entries keeps a mapping well formed. -/
theorem wellFormed_extend {es more : Entries} (hes : (Value.obj es).WellFormed)
    (hmore : EntriesWellFormed more) : (Value.obj (es.extend more)).WellFormed := by
  induction more generalizing es with
  | nil => exact hes
  | cons e more ih =>
      obtain ⟨k, v⟩ := e
      rw [entriesWellFormed_cons] at hmore
      rw [Entries.extend_cons]
      exact ih (wellFormed_insert hes hmore.1) hmore.2

end Value

namespace Yaml

open Value

/-- The metadata image of a YAML node is well formed: the keys of a mapping go in one by one
through `Entries.insert`. -/
theorem toValue_wellFormed : (∀ n : Node, n.toValue.WellFormed) ∧
    (∀ (es : List (Node × Node)) (acc : Entries), (Value.obj acc).WellFormed →
      (Value.obj (Node.entriesToValue es acc)).WellFormed) ∧
    ∀ xs : List Node, ItemsWellFormed (Node.itemsToValue xs) := by
  refine Node.toValue.mutual_induct _ _ _ ?null ?bool ?pos ?neg ?finite ?infinite ?str ?seq
    ?map ?tagged ?itemsNil ?itemsCons ?entriesNil ?entriesKey ?entriesSkip
  case seq =>
    intro xs ih
    simpa [Node.toValue, Value.WellFormed] using ih
  case map =>
    intro es ih
    rw [Node.toValue]
    exact ih (by simp)
  case tagged =>
    intro _ v ih
    simpa [Node.toValue] using ih
  case itemsNil =>
    simp [Node.itemsToValue, ItemsWellFormed]
  case itemsCons =>
    intro x xs ihx ihxs
    simpa [Node.itemsToValue, ItemsWellFormed] using ⟨ihx, ihxs⟩
  case entriesNil =>
    intro acc hacc
    simpa [Node.entriesToValue] using hacc
  case entriesKey =>
    intro k v rest acc key hkey ihv ihrest hacc
    rw [Node.entriesToValue, hkey]
    exact ihrest (wellFormed_insert hacc ihv)
  case entriesSkip =>
    intro k v rest acc hkey ihrest hacc
    rw [Node.entriesToValue, hkey]
    exact ihrest hacc
  -- the scalars
  all_goals
    intros
    simp [Node.toValue, Value.WellFormed, *]

end Yaml

namespace FrontMatter

open Value

/-- A YAML value read as metadata is well formed. -/
theorem loadValue_wellFormed {yaml : String} {v : Value} (h : Yaml.loadValue yaml = .ok v) :
    v.WellFormed := by
  unfold Yaml.loadValue at h
  split at h
  · cases h
    exact Yaml.toValue_wellFormed.1 _
  · cases h

/-- The mapping a YAML block holds is well formed. -/
theorem mappingOf_wellFormed {yaml : String} {m : Metadata} (h : mappingOf yaml = .ok m) :
    m.WellFormed := by
  unfold mappingOf at h
  split at h
  · cases h
    simp [Metadata.WellFormed]
  · split at h
    · cases h
    · rename_i hload
      cases h
      exact loadValue_wellFormed hload
    · cases h
      simp [Metadata.WellFormed]
    · cases h

/-- The entries recovered from a malformed block form well-formed metadata. -/
theorem recover_wellFormed (yaml : String) : (recover yaml).1.WellFormed := by
  unfold recover
  -- every entry that loads is joined in by `extend`, which keeps the mapping well formed
  refine List.foldlRecOn (motive := fun acc : Metadata × List String => acc.1.WellFormed) _ _
    (by simp [Metadata.WellFormed]) ?_
  rintro ⟨m, ws⟩ hacc chunk -
  dsimp only
  by_cases hblank : Text.isBlankText chunk = true
  · rw [if_pos hblank]
    exact hacc
  · rw [if_neg hblank]
    cases hmap : mappingOf chunk with
    | ok es =>
        have hwf := mappingOf_wellFormed hmap
        rw [Metadata.WellFormed, wellFormed_obj] at hwf
        exact wellFormed_extend hacc hwf.2
    | error reason => exact hacc

/-- **Front matter is well formed.**  The metadata read from a document's front matter, strictly
or leniently, has distinct keys in every mapping. -/
theorem parseFrontMatter_wellFormed {text : String} {strict : Bool} {parsed : Parsed}
    (h : parseFrontMatter text strict = .ok parsed) : parsed.metadata.WellFormed := by
  unfold parseFrontMatter at h
  split at h
  · cases h
    simp [Metadata.WellFormed]
  · split at h
    · cases h
    · cases h
      simp [Metadata.WellFormed]
  · split at h
    · cases h
      exact mappingOf_wellFormed ‹_›
    · split at h
      · cases h
      · cases h
        exact recover_wellFormed _

/-- Read leniently, front matter always gives a result. -/
theorem parseFrontMatter_lenient (text : String) : ∃ parsed, parseFrontMatter text false = .ok parsed := by
  unfold parseFrontMatter
  split
  · exact ⟨_, rfl⟩
  · exact ⟨_, rfl⟩
  · split
    · exact ⟨_, rfl⟩
    · exact ⟨_, rfl⟩

end FrontMatter

end Covenant
