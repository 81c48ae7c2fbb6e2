import Covenant.Proofs.Merge.Path
import Covenant.Proofs.Value.Entries
/-!
# Leaves of metadata, and what flattening writes

The views flattening is measured against:

* `Value.WellFormed` — every mapping, however deep, has distinct keys, as metadata always has;
* `Value.leaves` — the leaves of a value with the keys leading to each, in depth-first
  order: a non-empty mapping is walked into, anything else (a scalar, a sequence, an empty
  mapping) is one leaf;
* `Value.height` — how many levels a value spans through non-empty mappings, and
  `Metadata.depth`, the level of the deepest value of metadata (top-level values are at
  level one).

The spec of flattening follows (`flattenWith_of_depth_le`, `flattenWith_tooDeep`): within
the depth limit it writes every leaf at `joinPath` of its keys, in order; beyond it, it fails
with `metadataTooDeep`, and with nothing else.
-/

namespace Covenant

mutual

/-- Keys are distinct in every mapping of a value, however deep. -/
def Value.WellFormed : Value → Prop
  | .arr items => Value.ItemsWellFormed items
  | .obj es => (es.map Prod.fst).Nodup ∧ Value.EntriesWellFormed es
  | _ => True

/-- Every item of a sequence is well formed. -/
def Value.ItemsWellFormed : List Value → Prop
  | [] => True
  | v :: vs => v.WellFormed ∧ Value.ItemsWellFormed vs

/-- Every value of a list of entries is well formed. -/
def Value.EntriesWellFormed : List (String × Value) → Prop
  | [] => True
  | (_, v) :: es => v.WellFormed ∧ Value.EntriesWellFormed es

end

/-- Metadata is well formed when its mapping is. -/
def Metadata.WellFormed (m : Metadata) : Prop :=
  (Value.obj m).WellFormed

mutual

/-- The leaves of a value with the keys leading to each, in depth-first order. -/
def Value.leaves : Value → List (List String × Value)
  | .obj (e :: es) => Value.entryLeaves (e :: es)
  | v => [([], v)]

/-- The leaves of a list of entries, each under its entry's key. -/
def Value.entryLeaves : List (String × Value) → List (List String × Value)
  | [] => []
  | (k, v) :: es => (v.leaves.map fun p => (k :: p.1, p.2)) ++ Value.entryLeaves es

end

mutual

/-- The levels a value spans: one for itself, and below a non-empty mapping the levels of
its deepest entry. -/
def Value.height : Value → Nat
  | .obj (e :: es) => Value.entriesHeight (e :: es) + 1
  | _ => 1

/-- The levels the deepest value of a list of entries spans (zero for no entries). -/
def Value.entriesHeight : List (String × Value) → Nat
  | [] => 0
  | (_, v) :: es => max v.height (Value.entriesHeight es)

end

/-- The level of the deepest value of metadata, top-level values being at level one; only
non-empty mappings are walked into. -/
def Metadata.depth (m : Metadata) : Nat :=
  Value.entriesHeight m

/-- The flat entries of metadata: each leaf at the path of its keys. -/
def Metadata.flatLeaves (m : Metadata) : Entries :=
  (Value.entryLeaves m).map fun p => (Merge.joinPath p.1, p.2)

namespace Value

/-- A value that is not a non-empty mapping is a leaf. -/
def IsLeaf (v : Value) : Prop :=
  ∀ e es, v ≠ .obj (e :: es)

theorem leaves_of_isLeaf {v : Value} (h : v.IsLeaf) : v.leaves = [([], v)] := by
  cases v with
  | obj es =>
      cases es with
      | nil => rfl
      | cons e es => exact absurd rfl (h e es)
  | _ => rfl

theorem height_of_isLeaf {v : Value} (h : v.IsLeaf) : v.height = 1 := by
  cases v with
  | obj es =>
      cases es with
      | nil => rfl
      | cons e es => exact absurd rfl (h e es)
  | _ => rfl

@[simp] theorem leaves_obj_cons (e : String × Value) (es : List (String × Value)) :
    (Value.obj (e :: es)).leaves = entryLeaves (e :: es) := by
  simp [leaves]

@[simp] theorem entryLeaves_nil : entryLeaves [] = [] := by
  simp [entryLeaves]

@[simp] theorem entryLeaves_cons (k : String) (v : Value) (es : List (String × Value)) :
    entryLeaves ((k, v) :: es) = (v.leaves.map fun p => (k :: p.1, p.2)) ++ entryLeaves es := by
  simp [entryLeaves]

@[simp] theorem height_obj_cons (e : String × Value) (es : List (String × Value)) :
    (Value.obj (e :: es)).height = entriesHeight (e :: es) + 1 := by
  simp [height]

@[simp] theorem entriesHeight_nil : entriesHeight [] = 0 := by
  simp [entriesHeight]

@[simp] theorem entriesHeight_cons (k : String) (v : Value) (es : List (String × Value)) :
    entriesHeight ((k, v) :: es) = max v.height (entriesHeight es) := by
  simp [entriesHeight]

theorem height_pos (v : Value) : 0 < v.height := by
  cases v with
  | obj es =>
      cases es with
      | nil => simp [height]
      | cons e es => simp
  | _ => simp [height]

@[simp] theorem wellFormed_obj (es : List (String × Value)) :
    (Value.obj es).WellFormed ↔ (es.map Prod.fst).Nodup ∧ EntriesWellFormed es := by
  simp [WellFormed]

@[simp] theorem entriesWellFormed_nil : EntriesWellFormed [] := by
  simp [EntriesWellFormed]

@[simp] theorem entriesWellFormed_cons (k : String) (v : Value) (es : List (String × Value)) :
    EntriesWellFormed ((k, v) :: es) ↔ v.WellFormed ∧ EntriesWellFormed es := by
  simp [EntriesWellFormed]

theorem entriesWellFormed_iff {es : List (String × Value)} :
    EntriesWellFormed es ↔ ∀ e ∈ es, e.2.WellFormed := by
  induction es with
  | nil => simp
  | cons e es ih =>
      obtain ⟨k, v⟩ := e
      simp [ih]

theorem entriesHeight_le_iff {es : List (String × Value)} {n : Nat} :
    entriesHeight es ≤ n ↔ ∀ e ∈ es, e.2.height ≤ n := by
  induction es with
  | nil => simp
  | cons e es ih =>
      obtain ⟨k, v⟩ := e
      rw [entriesHeight_cons, Nat.max_le, ih, List.forall_mem_cons]

end Value

namespace Merge

open Value

variable {b : Budget}

/-- Flattening a leaf stores it at the path reached. -/
theorem flattenValue_leaf (hb : b.spent = false) {path : String} {d : Nat} {v : Value}
    {flat : Entries} (hd : d ≤ maxDepth) (hv : v.IsLeaf) :
    flattenValue b path d v flat = .ok (flat.insert path v) := by
  have hd' : ¬ d > maxDepth := by omega
  rw [flattenValue.eq_2 _ _ _ _ _ (fun e es h => hv e es h)]
  simp [hb, hd']

/-- Flattening fails at the first value below the depth limit. -/
theorem flattenValue_deep (hb : b.spent = false) {path : String} {d : Nat} {v : Value}
    {flat : Entries} (hd : d > maxDepth) :
    flattenValue b path d v flat = .error (.metadataTooDeep path maxDepth) := by
  rw [flattenValue.eq_def]
  simp [hb, hd]

/-- Flattening a non-empty mapping within the limit flattens its entries one level down. -/
theorem flattenValue_obj_cons (hb : b.spent = false) {path : String} {d : Nat}
    {e : String × Value} {es : List (String × Value)} {flat : Entries} (hd : d ≤ maxDepth) :
    flattenValue b path d (.obj (e :: es)) flat = flattenEntries b path (d + 1) (e :: es) flat := by
  have hd' : ¬ d > maxDepth := by omega
  simp [flattenValue, hb, hd']

/-- Flattening within the depth limit stores every leaf of a value (and of a list of
entries), in order, each at its path below the path reached. -/
theorem flatten_of_fits (hb : b.spent = false) :
    (∀ path d v flat, d + v.height ≤ maxDepth + 1 →
      flattenValue b path d v flat =
        .ok (flat.extend (v.leaves.map fun p => (extendPath path p.1, p.2)))) ∧
    (∀ path d es flat, d + entriesHeight es ≤ maxDepth + 1 →
      flattenEntries b path d es flat =
        .ok (flat.extend ((entryLeaves es).map fun p => (extendPath path p.1, p.2)))) := by
  refine flattenValue.mutual_induct b _ _ ?spent ?deep ?branch ?leaf ?nil ?cons
  case spent =>
    intro _ _ _ _ h
    simp [hb] at h
  case deep =>
    intro v _ d _ _ hd hfit
    have := height_pos v
    omega
  case branch =>
    intro path d flat _ hd e es ih hfit
    simp only [height_obj_cons] at hfit
    rw [flattenValue_obj_cons hb (by omega), ih (by omega), leaves_obj_cons]
  case leaf =>
    intro v path d flat _ hd hv hfit
    rw [flattenValue_leaf hb (by omega) hv, leaves_of_isLeaf hv]
    rfl
  case nil =>
    intro path d flat _
    simp [flattenEntries]
  case cons =>
    intro path d k v rest flat ihv ihrest hfit
    simp only [entriesHeight_cons] at hfit
    rw [flattenEntries.eq_2, ihv (by omega)]
    simp only [bind, Except.bind]
    rw [ihrest _ (by omega), entryLeaves_cons, List.map_append, Entries.extend_append,
      List.map_map]
    rfl

/-- Flattening beyond the depth limit fails with `metadataTooDeep`. -/
theorem flatten_tooDeep (hb : b.spent = false) :
    (∀ path d v flat, maxDepth + 1 < d + v.height →
      ∃ p, flattenValue b path d v flat = .error (.metadataTooDeep p maxDepth)) ∧
    (∀ path d es flat, d ≤ maxDepth + 1 → maxDepth + 1 < d + entriesHeight es →
      ∃ p, flattenEntries b path d es flat = .error (.metadataTooDeep p maxDepth)) := by
  refine flattenValue.mutual_induct b _ _ ?spent ?deep ?branch ?leaf ?nil ?cons
  case spent =>
    intro _ _ _ _ h
    simp [hb] at h
  case deep =>
    intro v path d flat _ hd _
    exact ⟨path, flattenValue_deep hb hd⟩
  case branch =>
    intro path d flat _ hd e es ih hdeep
    simp only [height_obj_cons] at hdeep
    rw [flattenValue_obj_cons hb (by omega)]
    exact ih (by omega) (by omega)
  case leaf =>
    intro v path d flat _ hd hv hdeep
    rw [height_of_isLeaf hv] at hdeep
    omega
  case nil =>
    intro path d flat hd hdeep
    simp only [entriesHeight_nil] at hdeep
    omega
  case cons =>
    intro path d k v rest flat ihv ihrest hd hdeep
    simp only [entriesHeight_cons] at hdeep
    rw [flattenEntries.eq_2]
    by_cases hv : maxDepth + 1 < d + v.height
    · obtain ⟨p, hp⟩ := ihv hv
      exact ⟨p, by simp [hp, bind, Except.bind]⟩
    · rw [(flatten_of_fits hb).1 _ _ _ _ (by omega)]
      exact ihrest _ hd (by omega)

@[simp] theorem depth_cons (k : String) (v : Value) (m : Metadata) :
    Metadata.depth ((k, v) :: m) = max v.height m.depth :=
  entriesHeight_cons k v m

@[simp] theorem flatLeaves_nil : Metadata.flatLeaves [] = [] := by
  simp [Metadata.flatLeaves]

/-- The flat entries of one more top-level entry come first, at paths starting with its key. -/
theorem flatLeaves_cons (k : String) (v : Value) (m : Metadata) :
    Metadata.flatLeaves ((k, v) :: m) =
      (v.leaves.map fun p => (extendPath (escapeSegment k) p.1, p.2)) ++ m.flatLeaves := by
  simp [Metadata.flatLeaves, List.map_map, Function.comp_def]

/-- **Flattening within the limit.**  Metadata no deeper than `maxDepth` flattens to its
leaves, in order, each stored at the path of its keys. -/
theorem flattenWith_of_depth_le (hb : b.spent = false) (m : Metadata) (hm : m.depth ≤ maxDepth)
    (flat : Entries) :
    m.foldlM (fun flat e => flattenValue b (escapeSegment e.1) 1 e.2 flat) flat =
      .ok (flat.extend m.flatLeaves) := by
  induction m generalizing flat with
  | nil => rfl
  | cons e m ih =>
      obtain ⟨k, v⟩ := e
      simp only [depth_cons] at hm
      rw [List.foldlM_cons]
      dsimp only
      rw [(flatten_of_fits hb).1 _ _ _ _ (by omega)]
      simp only [bind, Except.bind]
      rw [ih (by omega), flatLeaves_cons, Entries.extend_append]

/-- **Flattening beyond the limit.**  Metadata deeper than `maxDepth` fails to flatten, with
`metadataTooDeep`. -/
theorem flattenWith_tooDeep (hb : b.spent = false) (m : Metadata) (hm : maxDepth < m.depth)
    (flat : Entries) :
    ∃ p, m.foldlM (fun flat e => flattenValue b (escapeSegment e.1) 1 e.2 flat) flat =
      .error (.metadataTooDeep p maxDepth) := by
  induction m generalizing flat with
  | nil => simp [Metadata.depth] at hm
  | cons e m ih =>
      obtain ⟨k, v⟩ := e
      simp only [depth_cons] at hm
      rw [List.foldlM_cons]
      dsimp only
      by_cases hv : maxDepth + 1 < 1 + v.height
      · obtain ⟨p, hp⟩ := (flatten_tooDeep hb).1 (escapeSegment k) 1 v flat hv
        exact ⟨p, by simp [hp, bind, Except.bind]⟩
      · rw [(flatten_of_fits hb).1 _ _ _ _ (by omega)]
        exact ih (by omega) _

end Merge

end Covenant
