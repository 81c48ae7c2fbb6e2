import Covenant.Proofs.Merge.Leaves
import Mathlib.Data.List.Nodup
/-!
# Flattening and unflattening are inverse

Unflattening writes each flat entry at the keys its path splits into, creating mappings on
the way, and keeps the first value written at a place.  Written back into a fresh mapping in
the depth-first order flattening produces, the leaves of well-formed metadata rebuild it
exactly, with every mapping's keys in their old order:

* the leaves under one key come one after another, so the key is created by the first of
  them, last in its mapping, and the others only descend into it (`placeAll_under_fresh`);
* the leaves of well-formed metadata stand apart, none of their keys beginning another's
  (`apart_leaves`), so their paths are distinct and split back into their keys
  (`nodup_flatLeaves`, `splitPath_joinPath`): no leaf is lost to the first-writer rule.

The main statement, `flatten_unflatten_roundTrip`, puts this together with the spec of
flattening: within the depth limit, flattening gives one entry per leaf and unflattening
gives the metadata back; a flattening result flattens to itself after a round trip; and
flattening fails with `metadataTooDeep` exactly when some value lies deeper than the limit.
-/

namespace Covenant

/-- Two lists of keys stand apart when neither begins the other. -/
def Apart (ks ks' : List String) : Prop :=
  ¬ ks <+: ks' ∧ ¬ ks' <+: ks

theorem Apart.symm {ks ks' : List String} (h : Apart ks ks') : Apart ks' ks :=
  ⟨h.2, h.1⟩

theorem Apart.ne {ks ks' : List String} (h : Apart ks ks') : ks ≠ ks' := by
  rintro rfl
  exact h.1 (List.prefix_refl ks)

@[simp] theorem apart_cons_cons {k : String} {ks ks' : List String} :
    Apart (k :: ks) (k :: ks') ↔ Apart ks ks' := by
  simp [Apart, List.cons_prefix_cons]

end Covenant

namespace Covenant.Merge

open Value

/-- Places each leaf at its keys in turn, a leaf that cannot be placed being dropped. -/
def placeAll (root : Entries) (leaves : List (List String × Value)) : Entries :=
  leaves.foldl (fun root p => (place root p.2 p.1).getD root) root

@[simp] theorem placeAll_nil (root : Entries) : placeAll root [] = root := rfl

theorem placeAll_cons (root : Entries) (p : List String × Value)
    (leaves : List (List String × Value)) :
    placeAll root (p :: leaves) = placeAll ((place root p.2 p.1).getD root) leaves := rfl

theorem placeAll_append (root : Entries) (leaves leaves' : List (List String × Value)) :
    placeAll root (leaves ++ leaves') = placeAll (placeAll root leaves) leaves' := by
  simp [placeAll, List.foldl_append]

/-- Unflattening entries written at `joinPath` of non-empty keys places them at those keys. -/
theorem unflatten_map_joinPath (leaves : List (List String × Value))
    (h : ∀ p ∈ leaves, p.1 ≠ []) :
    unflatten (leaves.map fun p => (joinPath p.1, p.2)) = placeAll [] leaves := by
  suffices ∀ root, (leaves.map fun p => (joinPath p.1, p.2)).foldl
      (fun root e => (place root e.2 (splitPath e.1)).getD root) root = placeAll root leaves from
    this []
  induction leaves with
  | nil => intro root; rfl
  | cons p leaves ih =>
      intro root
      rw [List.map_cons, List.foldl_cons, placeAll_cons,
        splitPath_joinPath (h p List.mem_cons_self)]
      exact ih (fun q hq => h q (List.mem_cons_of_mem _ hq)) _

variable {es : Entries} {k : String} {v : Value}

/-- A fresh key at the end of a path is added last. -/
theorem place_fresh_single (hk : k ∉ es.map Prod.fst) :
    place es v [k] = some (es ++ [(k, v)]) := by
  rw [place.eq_2, Entries.contains_eq_false.mpr hk, Entries.insert_of_not_mem hk]
  rfl

/-- Below a fresh key a path can always be placed. -/
theorem place_nil_isSome (x : Value) : ∀ {ks : List String}, ks ≠ [] → (place [] x ks).isSome
  | [k], _ => by simp [place]
  | k :: k' :: ks, _ => by
      rw [place.eq_3 _ _ _ _ (by simp), Entries.get?_nil]
      simpa using @place_nil_isSome x (k' :: ks) (by simp)

/-- A path through a fresh key creates it last, holding a new mapping. -/
theorem place_fresh {ks : List String} (hk : k ∉ es.map Prod.fst) (hks : ks ≠ []) :
    place es v (k :: ks) = (place [] v ks).map fun inner => es ++ [(k, .obj inner)] := by
  rw [place.eq_3 _ _ _ _ hks, Entries.get?_eq_none hk]
  simp only
  congr 1
  funext inner
  exact Entries.insert_of_not_mem hk

/-- A path through the last key, a mapping, descends into it and leaves it last. -/
theorem place_last (hk : k ∉ es.map Prod.fst) (inner : List (String × Value))
    (ks : List String) :
    (place (es ++ [(k, .obj inner)]) v (k :: ks)).getD (es ++ [(k, .obj inner)]) =
      es ++ [(k, .obj ((place inner v ks).getD inner))] := by
  have hget : (es ++ [(k, Value.obj inner)]).get? k = some (.obj inner) := by
    rw [Entries.get?_append_of_not_mem hk, Entries.get?_singleton_self]
  cases ks with
  | nil =>
      have hc : (es ++ [(k, Value.obj inner)]).contains k = true :=
        Entries.contains_iff.mpr (by simp)
      simp [place, hc]
  | cons k' ks =>
      rw [place.eq_3 _ _ _ _ (by simp), hget]
      simp only
      cases place inner v (k' :: ks) with
      | none => rfl
      | some inner' =>
          simp only [Option.map_some, Option.getD_some]
          exact Entries.insert_append_self hk

/-- Leaves under the last key, a mapping, are placed inside it. -/
theorem placeAll_under_last (hk : k ∉ es.map Prod.fst) (leaves : List (List String × Value)) :
    ∀ inner, placeAll (es ++ [(k, .obj inner)]) (leaves.map fun p => (k :: p.1, p.2)) =
      es ++ [(k, .obj (placeAll inner leaves))] := by
  induction leaves with
  | nil => intro inner; rfl
  | cons p leaves ih =>
      intro inner
      rw [List.map_cons, placeAll_cons, place_last hk, ih, placeAll_cons]

/-- Leaves under a fresh key, the first one below it, build a new mapping at the end. -/
theorem placeAll_under_fresh (hk : k ∉ es.map Prod.fst) {ks : List String} (x : Value)
    (hks : ks ≠ []) (leaves : List (List String × Value)) :
    placeAll es (((ks, x) :: leaves).map fun p => (k :: p.1, p.2)) =
      es ++ [(k, .obj (placeAll [] ((ks, x) :: leaves)))] := by
  obtain ⟨inner, hinner⟩ := Option.isSome_iff_exists.mp (place_nil_isSome x hks)
  rw [List.map_cons, placeAll_cons]
  simp only
  rw [place_fresh hk hks, hinner, Option.map_some, Option.getD_some, placeAll_under_last hk,
    placeAll_cons]
  simp [hinner]

/-- Every value has a leaf. -/
theorem leaves_ne_nil : (∀ v : Value, v.leaves ≠ []) ∧
    ∀ es : List (String × Value), es ≠ [] → entryLeaves es ≠ [] := by
  refine Value.leaves.mutual_induct _ _ ?branch ?leaf ?nil ?cons
  case branch =>
    intro e es ih
    simpa using ih (List.cons_ne_nil e es)
  case leaf =>
    intro v hv
    simp [leaves_of_isLeaf hv]
  case nil =>
    intro h
    exact absurd rfl h
  case cons =>
    intro k v es ihv _ _
    simp [ihv]

/-- A leaf of a list of entries lies under one of its keys. -/
theorem mem_entryLeaves {es : List (String × Value)} {p : List String × Value}
    (h : p ∈ entryLeaves es) : ∃ k ks, p.1 = k :: ks ∧ k ∈ es.map Prod.fst := by
  induction es with
  | nil => simp at h
  | cons e es ih =>
      obtain ⟨k, v⟩ := e
      rw [entryLeaves_cons, List.mem_append] at h
      rcases h with h | h
      · obtain ⟨q, _, rfl⟩ := List.mem_map.mp h
        exact ⟨k, q.1, rfl, by simp⟩
      · obtain ⟨k', ks, hp, hk'⟩ := ih h
        exact ⟨k', ks, hp, List.mem_cons_of_mem _ hk'⟩

theorem ne_nil_of_mem_entryLeaves {es : List (String × Value)} {p : List String × Value}
    (h : p ∈ entryLeaves es) : p.1 ≠ [] := by
  obtain ⟨k, ks, hp, _⟩ := mem_entryLeaves h
  simp [hp]

/-- The first leaf of a non-empty mapping lies below one of its keys. -/
theorem entryLeaves_cons_eq (e : String × Value) (es : List (String × Value)) :
    ∃ ks x leaves, entryLeaves (e :: es) = (ks, x) :: leaves ∧ ks ≠ [] := by
  obtain ⟨⟨ks, x⟩, leaves, hcons⟩ :=
    List.exists_cons_of_ne_nil (leaves_ne_nil.2 (e :: es) (List.cons_ne_nil e es))
  have hmem : (ks, x) ∈ entryLeaves (e :: es) := by
    rw [hcons]
    exact List.mem_cons_self
  exact ⟨ks, x, leaves, hcons, ne_nil_of_mem_entryLeaves hmem⟩

/-- The leaves of a well-formed value stand apart from each other. -/
theorem apart_leaves : (∀ v : Value, v.WellFormed → (v.leaves.map Prod.fst).Pairwise Apart) ∧
    ∀ es : List (String × Value), EntriesWellFormed es → (es.map Prod.fst).Nodup →
      ((entryLeaves es).map Prod.fst).Pairwise Apart := by
  refine Value.leaves.mutual_induct _ _ ?branch ?leaf ?nil ?cons
  case branch =>
    intro e es ih hv
    rw [wellFormed_obj] at hv
    simpa using ih hv.2 hv.1
  case leaf =>
    intro v hv _
    simp [leaves_of_isLeaf hv]
  case nil =>
    intro _ _
    simp
  case cons =>
    intro k v es ihv ihes hwf hnd
    rw [entriesWellFormed_cons] at hwf
    simp only [List.map_cons, List.nodup_cons] at hnd
    rw [entryLeaves_cons, List.map_append, List.pairwise_append, List.map_map]
    refine ⟨?_, ihes hwf.2 hnd.2, ?_⟩
    · -- below `k`, keys stand apart as they did in `v`
      simpa [List.pairwise_map, Function.comp_def] using ihv hwf.1
    · -- a leaf below `k` and a leaf below a later key part at their first key
      intro a ha b hb
      obtain ⟨q, _, rfl⟩ := List.mem_map.mp ha
      obtain ⟨p, hp, rfl⟩ := List.mem_map.mp hb
      obtain ⟨k', ks, hpk, hk'⟩ := mem_entryLeaves hp
      have hkk : k ≠ k' := fun h => hnd.1 (h ▸ hk')
      simp only [Function.comp_apply, hpk, Apart, List.cons_prefix_cons, hkk, Ne.symm hkk,
        false_and, not_false_eq_true, and_self]

/-- Placing the leaves of well-formed values in a fresh mapping rebuilds them. -/
theorem placeAll_leaves : (∀ v : Value, v.WellFormed → ∀ (k : String) (es : Entries),
      k ∉ es.map Prod.fst → placeAll es (v.leaves.map fun p => (k :: p.1, p.2)) = es ++ [(k, v)]) ∧
    ∀ ents : List (String × Value), EntriesWellFormed ents → (ents.map Prod.fst).Nodup →
      ∀ es : Entries, (∀ k ∈ ents.map Prod.fst, k ∉ es.map Prod.fst) →
        placeAll es (entryLeaves ents) = es ++ ents := by
  refine Value.leaves.mutual_induct _ _ ?branch ?leaf ?nil ?cons
  case branch =>
    intro e ents ih hv k es hk
    rw [wellFormed_obj] at hv
    obtain ⟨ks, x, leaves, hcons, hks⟩ := entryLeaves_cons_eq e ents
    rw [leaves_obj_cons, hcons, placeAll_under_fresh hk x hks, ← hcons,
      ih hv.2 hv.1 [] (by simp)]
    rfl
  case leaf =>
    intro v hv _ k es hk
    rw [leaves_of_isLeaf hv]
    simp [placeAll_cons, place_fresh_single hk]
  case nil =>
    intro _ _ es _
    simp
  case cons =>
    intro k v ents ihv ihents hwf hnd es hfresh
    rw [entriesWellFormed_cons] at hwf
    simp only [List.map_cons, List.nodup_cons] at hnd
    rw [entryLeaves_cons, placeAll_append, ihv hwf.1 k es (hfresh k (by simp)),
      ihents hwf.2 hnd.2]
    · simp
    · -- the later keys are fresh after `k`: they differ from it and were fresh before
      intro k' hk'
      simp only [List.map_append, List.map_cons, List.map_nil, List.mem_append,
        List.mem_singleton, not_or]
      exact ⟨hfresh k' (List.mem_cons_of_mem _ hk'), fun h => hnd.1 (h ▸ hk')⟩

/-- The flat entries of well-formed metadata are at distinct paths. -/
theorem nodup_flatLeaves {m : Metadata} (hm : m.WellFormed) :
    (m.flatLeaves.map Prod.fst).Nodup := by
  rw [Metadata.WellFormed, wellFormed_obj] at hm
  have hne : ∀ a ∈ (entryLeaves m).map Prod.fst, a ≠ [] := by
    intro a ha
    obtain ⟨p, hp, rfl⟩ := List.mem_map.mp ha
    exact ne_nil_of_mem_entryLeaves hp
  have hpaths : m.flatLeaves.map Prod.fst = ((entryLeaves m).map Prod.fst).map joinPath := by
    simp [Metadata.flatLeaves, List.map_map, Function.comp_def]
  have hnd : ((entryLeaves m).map Prod.fst).Nodup := (apart_leaves.2 m hm.2 hm.1).imp Apart.ne
  rw [hpaths]
  exact hnd.map_on fun a ha b hb hab =>
    joinPath_inj (hne a ha) (hne b hb) hab

/-- Unflattening the flat entries of well-formed metadata gives the metadata back. -/
theorem unflatten_flatLeaves {m : Metadata} (hm : m.WellFormed) : unflatten m.flatLeaves = m := by
  rw [Metadata.WellFormed, wellFormed_obj] at hm
  rw [Metadata.flatLeaves, unflatten_map_joinPath _ fun p hp => ne_nil_of_mem_entryLeaves hp,
    placeAll_leaves.2 m hm.2 hm.1 [] (by simp)]
  rfl

/-- Within the depth limit and the budget, flattening well-formed metadata gives its flat
entries. -/
theorem flattenWith_eq_flatLeaves {b : Budget} (hb : b.spent = false) {m : Metadata}
    (hm : m.WellFormed) (hd : m.depth ≤ maxDepth) : flattenWith b m = .ok m.flatLeaves := by
  show m.foldlM (fun flat e => flattenValue b (escapeSegment e.1) 1 e.2 flat) [] = _
  rw [flattenWith_of_depth_le hb m hd, Entries.extend_of_fresh _ (nodup_flatLeaves hm) (by simp)]
  rfl

/-- Within the depth limit, flattening well-formed metadata gives its flat entries. -/
theorem flatten_eq_flatLeaves {m : Metadata} (hm : m.WellFormed) (hd : m.depth ≤ maxDepth) :
    flatten m = .ok m.flatLeaves :=
  flattenWith_eq_flatLeaves rfl hm hd

/-- Beyond the depth limit, flattening fails with `metadataTooDeep`. -/
theorem flatten_tooDeep_of_lt {m : Metadata} (hd : maxDepth < m.depth) :
    ∃ p, flatten m = .error (.metadataTooDeep p maxDepth) :=
  flattenWith_tooDeep rfl m hd []

/-- **Flattening round trip.**  For well-formed metadata (distinct keys in every mapping, as
metadata always has) with any keys, the empty key and keys holding `.` or `\` included:

* no deeper than `maxDepth`, it flattens to one entry per leaf, at distinct paths, and
  unflattening those gives the metadata back, with every mapping's keys in their order;
* whatever it flattens to comes back unchanged through unflattening and flattening;
* flattening fails with `metadataTooDeep` exactly when some value lies deeper than
  `maxDepth`. -/
theorem flatten_unflatten_roundTrip (m : Metadata) (hm : m.WellFormed) :
    (m.depth ≤ maxDepth → flatten m = .ok m.flatLeaves ∧ (m.flatLeaves.map Prod.fst).Nodup ∧
      unflatten m.flatLeaves = m) ∧
    (∀ flat, flatten m = .ok flat → flatten (unflatten flat) = .ok flat) ∧
    ((∃ p, flatten m = .error (.metadataTooDeep p maxDepth)) ↔ maxDepth < m.depth) := by
  refine ⟨fun hd => ⟨flatten_eq_flatLeaves hm hd, nodup_flatLeaves hm, unflatten_flatLeaves hm⟩,
    ?_, ⟨?_, flatten_tooDeep_of_lt⟩⟩
  · intro flat hflat
    by_cases hd : m.depth ≤ maxDepth
    · rw [flatten_eq_flatLeaves hm hd] at hflat
      cases hflat
      rw [unflatten_flatLeaves hm, flatten_eq_flatLeaves hm hd]
    · obtain ⟨p, hp⟩ := flatten_tooDeep_of_lt (m := m) (by omega)
      rw [hp] at hflat
      cases hflat
  · rintro ⟨p, hp⟩
    by_contra hd
    rw [flatten_eq_flatLeaves hm (by omega)] at hp
    cases hp

/-- The round trip on keys with a dot, a trailing backslash and the empty key, over an empty
mapping and a sequence holding a mapping (both leaves). -/
theorem flatten_unflatten_roundTrip_escapedKeys :
    Metadata.WellFormed [("a.b", .obj [("", .num (.int 1)), ("c\\", .obj []),
        ("d", .arr [.obj [("e", .null)]])])] ∧
    (Metadata.depth [("a.b", .obj [("", .num (.int 1)), ("c\\", .obj []),
        ("d", .arr [.obj [("e", .null)]])])] ≤ maxDepth →
      flatten [("a.b", .obj [("", .num (.int 1)), ("c\\", .obj []),
          ("d", .arr [.obj [("e", .null)]])])] =
        .ok (Metadata.flatLeaves [("a.b", .obj [("", .num (.int 1)), ("c\\", .obj []),
          ("d", .arr [.obj [("e", .null)]])])]) ∧
      ((Metadata.flatLeaves [("a.b", .obj [("", .num (.int 1)), ("c\\", .obj []),
          ("d", .arr [.obj [("e", .null)]])])]).map Prod.fst).Nodup ∧
      unflatten (Metadata.flatLeaves [("a.b", .obj [("", .num (.int 1)), ("c\\", .obj []),
          ("d", .arr [.obj [("e", .null)]])])]) =
        [("a.b", .obj [("", .num (.int 1)), ("c\\", .obj []), ("d", .arr [.obj [("e", .null)]])])]) ∧
    (∀ flat, flatten [("a.b", .obj [("", .num (.int 1)), ("c\\", .obj []),
        ("d", .arr [.obj [("e", .null)]])])] = .ok flat →
      flatten (unflatten flat) = .ok flat) ∧
    ((∃ p, flatten [("a.b", .obj [("", .num (.int 1)), ("c\\", .obj []),
        ("d", .arr [.obj [("e", .null)]])])] = .error (.metadataTooDeep p maxDepth)) ↔
      maxDepth < Metadata.depth [("a.b", .obj [("", .num (.int 1)), ("c\\", .obj []),
        ("d", .arr [.obj [("e", .null)]])])]) := by
  have hm : Metadata.WellFormed [("a.b", .obj [("", .num (.int 1)), ("c\\", .obj []),
      ("d", .arr [.obj [("e", .null)]])])] := by
    simp [Metadata.WellFormed, Value.WellFormed, Value.ItemsWellFormed,
      Value.EntriesWellFormed]
  exact ⟨hm, flatten_unflatten_roundTrip _ hm⟩

end Covenant.Merge
