import Covenant.Value
/-!
# Entries of a mapping

The operations on the entries of a mapping (`get?`, `contains`, `insert`, `extend`) stated
through the list of keys, `es.map Prod.fst`.  The two facts the rest of the library leans on
are that inserting a fresh key appends it, and that inserting an entry whose key is last
replaces its value in place; so extending by entries with fresh, distinct keys is appending
them (`extend_of_fresh`).
-/

namespace Covenant.Entries

variable {es rest : Entries} {k : String} {v w : Value}

theorem contains_iff : es.contains k = true ↔ k ∈ es.map Prod.fst := by
  simp [contains]

theorem contains_eq_false : es.contains k = false ↔ k ∉ es.map Prod.fst := by
  rw [← Bool.not_eq_true, contains_iff]

@[simp] theorem get?_nil : Entries.get? [] k = none := rfl

theorem get?_eq_none (h : k ∉ es.map Prod.fst) : es.get? k = none := by
  simp only [get?, Option.map_eq_none_iff, List.find?_eq_none, beq_iff_eq]
  intro e he hek
  exact h (List.mem_map.mpr ⟨e, he, hek⟩)

/-- Looking a key up past entries that do not hold it. -/
theorem get?_append_of_not_mem (h : k ∉ es.map Prod.fst) : (es ++ rest).get? k = rest.get? k := by
  have hnone : es.find? (·.1 == k) = none := by
    simp only [List.find?_eq_none, beq_iff_eq]
    intro e he hek
    exact h (List.mem_map.mpr ⟨e, he, hek⟩)
  simp [get?, List.find?_append, hnone]

theorem get?_singleton_self : Entries.get? [(k, v)] k = some v := by
  simp [get?]

/-- Inserting a fresh key appends it. -/
theorem insert_of_not_mem (h : k ∉ es.map Prod.fst) : es.insert k v = es ++ [(k, v)] := by
  have : es.contains k = false := contains_eq_false.mpr h
  simp [insert, this]

/-- Inserting the last key again replaces its value in place. -/
theorem insert_append_self (h : k ∉ es.map Prod.fst) :
    (es ++ [(k, v)]).insert k w = es ++ [(k, w)] := by
  have hc : (es ++ [(k, v)]).contains k = true := contains_iff.mpr (by simp)
  have hkeep : ∀ e ∈ es, (if e.1 == k then (k, w) else e) = e := by
    intro e he
    have hek : e.1 ≠ k := fun hek => h (List.mem_map.mpr ⟨e, he, hek⟩)
    simp [hek]
  simp only [insert, hc, if_true, List.map_append, List.map_cons, List.map_nil, beq_self_eq_true]
  rw [List.map_congr_left hkeep, List.map_id']

/-- Inserting at one key leaves every other key's value as it was. -/
theorem get?_insert_of_ne {k' : String} (hne : k' ≠ k) : (es.insert k' v).get? k = es.get? k := by
  unfold insert
  split
  · -- replacing the value at `k'` changes no key, and no entry at `k`
    have hkey : (fun e : String × Value => (if e.1 == k' then (k', v) else e).1 == k) =
        (·.1 == k) := by
      funext e
      by_cases he : e.1 = k' <;> simp [he]
    simp only [get?, List.find?_map, Function.comp_def, hkey]
    cases hfind : es.find? (·.1 == k) with
    | none => rfl
    | some e =>
        have hek : e.1 = k := by simpa using List.find?_some hfind
        have : e.1 ≠ k' := fun h => hne (h ▸ hek)
        simp [this]
  · have hnone : [(k', v)].find? (·.1 == k) = none := by simp [hne]
    simp [get?, List.find?_append, hnone]

@[simp] theorem extend_nil : es.extend [] = es := rfl

theorem extend_cons (e : String × Value) (more : Entries) :
    es.extend (e :: more) = (es.insert e.1 e.2).extend more := rfl

theorem extend_append (more more' : Entries) :
    es.extend (more ++ more') = (es.extend more).extend more' := by
  simp [extend, List.foldl_append]

/-- Extending by entries whose keys are distinct and fresh appends them. -/
theorem extend_of_fresh (more : Entries) (hnd : (more.map Prod.fst).Nodup)
    (hfresh : ∀ k ∈ more.map Prod.fst, k ∉ es.map Prod.fst) : es.extend more = es ++ more := by
  induction more generalizing es with
  | nil => simp
  | cons e more ih =>
      obtain ⟨hnot, hnd'⟩ := List.nodup_cons.mp hnd
      have he : e.1 ∉ es.map Prod.fst := hfresh e.1 (by simp)
      rw [extend_cons, insert_of_not_mem he, ih hnd']
      · simp
      · intro k hk
        simp only [List.map_append, List.map_cons, List.map_nil, List.mem_append,
          List.mem_singleton, not_or]
        exact ⟨hfresh k (List.mem_cons_of_mem _ hk), fun hke => hnot (hke ▸ hk)⟩

end Covenant.Entries
