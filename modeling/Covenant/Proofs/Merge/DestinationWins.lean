import Covenant.Merge.Policy
import Covenant.Proofs.Merge.Grow
import Covenant.Proofs.Merge.Prefix
/-!
# The destination wins

What a merge of source metadata into destination metadata does, for well-formed metadata
within the depth limit and an unspent budget (`merge_keeps_destination`):

1. the reserved top-level keys of the source are removed first (when filtering is on), and
   reported in source order;
2. each leaf of what is left of the source is a conflict exactly when its keys *meet* those
   of a destination leaf, one beginning the other (the same leaf, a leaf below it, or a leaf
   above it); the others are added, and both lists keep the source's order;
3. the result has the destination's leaves, unchanged, and the added ones;
4. every mapping of the destination keeps its keys in their order, added keys after them;
5. with type checking on, the type conflicts are the same-leaf conflicts whose kinds cannot
   meet, in source order.

The code decides 2 on escaped paths, through `properPrefixes`; the bridge to keys is
`properPrefixes_joinPath`.  The result is rebuilt by unflattening, which is placing the added
leaves into the destination (`placeAll_apart`).
-/

namespace Covenant.Merge

open Value

/-- The keys of the leaves of metadata. -/
def leafKeys (m : Metadata) : List (List String) :=
  (entryLeaves m).map Prod.fst

/-- Whether keys meet one of a list of leaf keys: one of the two begins the other. -/
def meets (dest : List (List String)) (ks : List String) : Bool :=
  dest.any fun d => ks.isPrefixOf d || d.isPrefixOf ks

/-- The source a merge takes leaves from: without its reserved top-level keys when filtering
is on. -/
def keptSource (opts : Options) (source : Metadata) : Metadata :=
  if opts.filterReserved then source.filter (!isReserved ·.1) else source

/-- The type conflict a source leaf makes with the destination: a destination leaf at the same
keys whose kind cannot meet the source leaf's. -/
def typeConflict? (dest : Metadata) (p : List String × Value) : Option TypeConflict :=
  match (entryLeaves dest).lookup p.1 with
  | some y => if compatible y.kind p.2.kind then none else some ⟨joinPath p.1, y.kind, p.2.kind⟩
  | none => none

theorem meets_iff {dest : List (List String)} {ks : List String} :
    meets dest ks = true ↔ ∃ d ∈ dest, ks <+: d ∨ d <+: ks := by
  simp [meets, List.isPrefixOf_iff_prefix]

/-- Meeting, case by case: the same leaf, a leaf below, or a leaf above. -/
theorem meets_iff_cases {dest : List (List String)} {ks : List String} (hks : ks ≠ [])
    (hdest : ∀ d ∈ dest, d ≠ []) :
    meets dest ks = true ↔
      ks ∈ dest ∨ (∃ d ∈ dest, ks ∈ properInits d) ∨ (∃ d ∈ properInits ks, d ∈ dest) := by
  rw [meets_iff]
  constructor
  · rintro ⟨d, hd, hpre | hpre⟩
    · by_cases heq : ks = d
      · exact Or.inl (heq ▸ hd)
      · exact Or.inr (Or.inl ⟨d, hd, mem_properInits.mpr ⟨hks, hpre, heq⟩⟩)
    · by_cases heq : d = ks
      · exact Or.inl (heq ▸ hd)
      · exact Or.inr (Or.inr ⟨d, mem_properInits.mpr ⟨hdest d hd, hpre, heq⟩, hd⟩)
  · rintro (h | ⟨d, hd, hin⟩ | ⟨d, hin, hd⟩)
    · exact ⟨ks, h, Or.inl (List.prefix_refl ks)⟩
    · exact ⟨d, hd, Or.inl (mem_properInits.mp hin).2.1⟩
    · exact ⟨d, hd, Or.inr (mem_properInits.mp hin).2.1⟩

theorem meets_of_mem {dest : List (List String)} {ks : List String} (h : ks ∈ dest) :
    meets dest ks = true :=
  meets_iff.mpr ⟨ks, h, Or.inl (List.prefix_refl ks)⟩

/-- Keys that do not meet any leaf key stand apart from each. -/
theorem apart_of_not_meets {dest : List (List String)} {ks : List String}
    (h : meets dest ks = false) : ∀ d ∈ dest, Apart ks d := by
  intro d hd
  have hnot : ¬ ∃ d ∈ dest, ks <+: d ∨ d <+: ks := by
    rw [← meets_iff, h]
    simp
  exact ⟨fun hp => hnot ⟨d, hd, Or.inl hp⟩, fun hp => hnot ⟨d, hd, Or.inr hp⟩⟩

theorem leafKeys_ne_nil {m : Metadata} : ∀ d ∈ leafKeys m, d ≠ [] := by
  intro d hd
  obtain ⟨p, hp, rfl⟩ := List.mem_map.mp hd
  exact ne_nil_of_mem_entryLeaves hp

/-- A flat path of metadata holds the value of the leaf at its keys. -/
theorem get?_flatLeaves (m : Metadata) {ks : List String} (hks : ks ≠ []) :
    m.flatLeaves.get? (joinPath ks) = (entryLeaves m).lookup ks := by
  suffices ∀ L : List (List String × Value), (∀ p ∈ L, p.1 ≠ []) →
      Entries.get? (L.map fun p => (joinPath p.1, p.2)) (joinPath ks) = L.lookup ks from
    this _ fun p hp => ne_nil_of_mem_entryLeaves hp
  intro L hL
  induction L with
  | nil => rfl
  | cons p L ih =>
      have hrest := ih fun q hq => hL q (List.mem_cons_of_mem _ hq)
      by_cases hp : p.1 = ks
      · obtain ⟨ks', x⟩ := p
        simp only at hp
        subst hp
        simp [Entries.get?, List.lookup_cons_self]
      · have hpath : (joinPath p.1 == joinPath ks) = false := by
          simpa using fun h => hp (joinPath_inj (hL p List.mem_cons_self) hks h)
        obtain ⟨ks', x⟩ := p
        simp only at hp hpath
        have hne : (ks == ks') = false := by simpa using Ne.symm hp
        simp only [Entries.get?, List.map_cons, List.find?_cons, hpath] at hrest ⊢
        simp [List.lookup_cons, hne, ← hrest]

/-- A flat path is stored in the flat entries exactly when its keys are a leaf's. -/
theorem contains_flatLeaves (m : Metadata) {ks : List String} (hks : ks ≠ []) :
    m.flatLeaves.contains (joinPath ks) = true ↔ ks ∈ leafKeys m := by
  rw [Entries.contains_iff]
  simp only [Metadata.flatLeaves, List.map_map, leafKeys]
  constructor
  · intro h
    obtain ⟨p, hp, heq⟩ := List.mem_map.mp h
    have := joinPath_inj (ne_nil_of_mem_entryLeaves hp) hks heq
    exact List.mem_map.mpr ⟨p, hp, this⟩
  · intro h
    obtain ⟨p, hp, rfl⟩ := List.mem_map.mp h
    exact List.mem_map.mpr ⟨p, hp, rfl⟩

/-- A path is interior to the destination, a proper prefix of one of its flat paths, exactly
when its keys begin a destination leaf's keys properly. -/
theorem contains_interior (m : Metadata) {ks : List String} (hks : ks ≠ []) :
    (m.flatLeaves.flatMap fun e => properPrefixes e.1).contains (joinPath ks) = true ↔
      ∃ d ∈ leafKeys m, ks ∈ properInits d := by
  simp only [List.contains_iff_mem, List.mem_flatMap, Metadata.flatLeaves, List.mem_map,
    leafKeys]
  constructor
  · rintro ⟨_, ⟨p, hp, rfl⟩, hin⟩
    rw [properPrefixes_joinPath, List.mem_map] at hin
    obtain ⟨i, hi, heq⟩ := hin
    have := joinPath_inj (mem_properInits.mp hi).1 hks heq
    exact ⟨p.1, ⟨p, hp, rfl⟩, this ▸ hi⟩
  · rintro ⟨_, ⟨p, hp, rfl⟩, hin⟩
    refine ⟨_, ⟨p, hp, rfl⟩, ?_⟩
    rw [properPrefixes_joinPath]
    exact List.mem_map.mpr ⟨ks, hin, rfl⟩

/-- A path lies below a destination leaf exactly when a proper prefix of its keys is a
destination leaf's keys. -/
theorem any_properPrefixes_flatLeaves (m : Metadata) (ks : List String) :
    (properPrefixes (joinPath ks)).any (Entries.contains m.flatLeaves) = true ↔
      ∃ d ∈ properInits ks, d ∈ leafKeys m := by
  rw [properPrefixes_joinPath, List.any_map, List.any_eq_true]
  constructor
  · rintro ⟨d, hd, hc⟩
    exact ⟨d, hd, (contains_flatLeaves m (mem_properInits.mp hd).1).mp hc⟩
  · rintro ⟨d, hd, hc⟩
    exact ⟨d, hd, (contains_flatLeaves m (mem_properInits.mp hd).1).mpr hc⟩

/-- One step of merging: a source leaf is a conflict, perhaps also a type conflict, or is
added. -/
def mergeStep (opts : Options) (destFlat : Entries) (interior : List String)
    (acc : Entries × Stats) (leaf : String × Value) : Except DocError (Entries × Stats) :=
  let (merged, stats) := acc
  let (path, v) := leaf
  if opts.budget.spent then .error (.mergeTimeout path opts.budget.ms)
  else match Entries.get? destFlat path with
    | some existing =>
      let stats :=
        if opts.validateTypes && !compatible existing.kind v.kind then
          { stats with typeConflicts := stats.typeConflicts ++ [⟨path, existing.kind, v.kind⟩] }
        else stats
      .ok (merged, { stats with conflicts := stats.conflicts ++ [path] })
    | none =>
      if interior.contains path || (properPrefixes path).any (Entries.contains destFlat) then
        .ok (merged, { stats with conflicts := stats.conflicts ++ [path] })
      else
        .ok (Entries.insert merged path v, { stats with added := stats.added ++ [path] })

/-- Merging is flattening both sides and folding `mergeStep` over the source's leaves. -/
theorem merge_eq (destination source : Metadata) (opts : Options) :
    merge destination source opts = (do
      let destFlat ← flattenWith opts.budget destination
      let sourceFlat ← flattenWith opts.budget (keptSource opts source)
      let (merged, stats) ← sourceFlat.foldlM
        (mergeStep opts destFlat (destFlat.flatMap (properPrefixes ·.1)))
        (destFlat, { filtered := if opts.filterReserved then
          (source.filter (isReserved ·.1)).map (·.1) else [] })
      pure (unflatten merged, stats)) := rfl

theorem mem_leafKeys_of_lookup {m : Metadata} {ks : List String} {y : Value}
    (h : (entryLeaves m).lookup ks = some y) : ks ∈ leafKeys m := by
  obtain ⟨l₁, l₂, hl, _⟩ := List.lookup_eq_some_iff.mp h
  rw [leafKeys, hl]
  simp

theorem not_mem_leafKeys_of_lookup {m : Metadata} {ks : List String}
    (h : (entryLeaves m).lookup ks = none) : ks ∉ leafKeys m := by
  intro hks
  obtain ⟨p, hp, rfl⟩ := List.mem_map.mp hks
  simpa using List.lookup_eq_none_iff.mp h p hp

/-- A type conflict is only ever at the keys of a destination leaf. -/
theorem typeConflict?_of_not_meets {D : Metadata} {p : List String × Value}
    (hm : meets (leafKeys D) p.1 = false) : typeConflict? D p = none := by
  cases hlook : (entryLeaves D).lookup p.1 with
  | none => simp [typeConflict?, hlook]
  | some y =>
      rw [meets_of_mem (mem_leafKeys_of_lookup hlook)] at hm
      cases hm

/-- **One step.**  A source leaf that meets a destination leaf is a conflict (and, at the same
keys, perhaps a type conflict); any other is added at its path. -/
theorem mergeStep_leaf (D : Metadata) {opts : Options} (hb : opts.budget.spent = false)
    (m : Entries) (st : Stats) {ks : List String} (hks : ks ≠ []) (x : Value) :
    mergeStep opts D.flatLeaves (D.flatLeaves.flatMap (properPrefixes ·.1)) (m, st)
        (joinPath ks, x) =
      .ok (if meets (leafKeys D) ks then
          (m, { st with
            conflicts := st.conflicts ++ [joinPath ks]
            typeConflicts := st.typeConflicts ++
              if opts.validateTypes then (typeConflict? D (ks, x)).toList else [] })
        else (m.insert (joinPath ks) x, { st with added := st.added ++ [joinPath ks] })) := by
  simp only [mergeStep, hb, Bool.false_eq_true, if_false]
  rw [get?_flatLeaves D hks]
  cases hlook : (entryLeaves D).lookup ks with
  | some y =>
      have hmeets := meets_of_mem (mem_leafKeys_of_lookup hlook)
      simp only [hmeets, if_true, typeConflict?, hlook]
      cases opts.validateTypes <;> cases compatible y.kind x.kind <;> simp
  | none =>
      have hnot := not_mem_leafKeys_of_lookup hlook
      -- with no leaf at the same keys, meeting is the code's two structural tests
      have htests : ((D.flatLeaves.flatMap (properPrefixes ·.1)).contains (joinPath ks) ||
          (properPrefixes (joinPath ks)).any (Entries.contains D.flatLeaves)) =
            meets (leafKeys D) ks := by
        rw [Bool.eq_iff_iff, Bool.or_eq_true, contains_interior D hks,
          any_properPrefixes_flatLeaves, meets_iff_cases hks leafKeys_ne_nil]
        simp [hnot]
      rw [htests]
      by_cases hm : meets (leafKeys D) ks = true
      · simp [hm, typeConflict?, hlook]
      · simp [hm]

/-- **The fold.**  Merging the leaves of a source, in order, adds those that meet no
destination leaf and counts the rest as conflicts. -/
theorem foldlM_mergeStep (D : Metadata) {opts : Options} (hb : opts.budget.spent = false)
    (L : List (List String × Value)) (hL : ∀ p ∈ L, p.1 ≠ []) :
    ∀ (m : Entries) (st : Stats),
      (L.map fun p => (joinPath p.1, p.2)).foldlM
          (mergeStep opts D.flatLeaves (D.flatLeaves.flatMap (properPrefixes ·.1))) (m, st) =
        .ok (m.extend ((L.filter (!meets (leafKeys D) ·.1)).map fun p => (joinPath p.1, p.2)),
          { st with
            added := st.added ++ (L.filter (!meets (leafKeys D) ·.1)).map (joinPath ·.1)
            conflicts := st.conflicts ++ (L.filter (meets (leafKeys D) ·.1)).map (joinPath ·.1)
            typeConflicts := st.typeConflicts ++
              if opts.validateTypes then L.filterMap (typeConflict? D) else [] }) := by
  induction L with
  | nil =>
      intro m st
      simp [pure, Except.pure]
  | cons p L ih =>
      intro m st
      have hp := hL p List.mem_cons_self
      have ih' := ih fun q hq => hL q (List.mem_cons_of_mem _ hq)
      rw [List.map_cons, List.foldlM_cons, mergeStep_leaf D hb m st hp]
      by_cases hm : meets (leafKeys D) p.1 = true
      · simp only [hm, if_true]
        simp only [bind, Except.bind]
        rw [ih']
        cases opts.validateTypes with
        | false => simp [hm]
        | true => cases hc : typeConflict? D p <;> simp [hm, hc]
      · have hnone := typeConflict?_of_not_meets (by simpa using hm)
        simp only [hm, Bool.false_eq_true, if_false]
        simp only [bind, Except.bind]
        rw [ih']
        simp [hm, hnone, Entries.extend_cons, List.append_assoc]

/-- The levels below a value bound the keys to each of its leaves, one key a level. -/
theorem height_le_iff :
    (∀ v : Value, ∀ n, v.height ≤ n + 1 ↔ ∀ p ∈ v.leaves, p.1.length ≤ n) ∧
    ∀ es : List (String × Value), ∀ n, entriesHeight es ≤ n ↔ ∀ p ∈ entryLeaves es, p.1.length ≤ n := by
  refine Value.leaves.mutual_induct _ _ ?branch ?leaf ?nil ?cons
  case branch =>
    intro e es ih n
    rw [height_obj_cons, leaves_obj_cons, Nat.add_le_add_iff_right]
    exact ih n
  case leaf =>
    intro v hv n
    simp [height_of_isLeaf hv, leaves_of_isLeaf hv]
  case nil =>
    intro n
    simp
  case cons =>
    intro k v es ihv ihes n
    -- below `k`, a leaf has one key more than it has in `v`
    have hv : v.height ≤ n ↔ ∀ p ∈ v.leaves, p.1.length + 1 ≤ n := by
      cases n with
      | zero =>
          obtain ⟨p, hp⟩ := List.exists_mem_of_ne_nil _ (leaves_ne_nil.1 v)
          have := height_pos v
          exact ⟨fun h => by omega, fun h => absurd (h p hp) (by omega)⟩
      | succ n =>
          rw [ihv n]
          simp
    rw [entriesHeight_cons, Nat.max_le, hv, ihes n, entryLeaves_cons]
    simp only [List.mem_append, or_imp, forall_and, List.forall_mem_map, List.length_cons]

/-- Metadata is within a depth exactly when no leaf lies under more keys. -/
theorem depth_le_iff (m : Metadata) (n : Nat) :
    m.depth ≤ n ↔ ∀ ks ∈ leafKeys m, ks.length ≤ n := by
  rw [Metadata.depth, height_le_iff.2 m n, leafKeys]
  simp

theorem keptSource_wellFormed (opts : Options) {S : Metadata} (hS : S.WellFormed) :
    (keptSource opts S).WellFormed := by
  unfold keptSource
  split
  · rw [Metadata.WellFormed, wellFormed_obj, entriesWellFormed_iff] at hS ⊢
    exact ⟨hS.1.sublist (List.filter_sublist.map _),
      fun e he => hS.2 e (List.mem_of_mem_filter he)⟩
  · exact hS

theorem depth_keptSource_le (opts : Options) (S : Metadata) :
    (keptSource opts S).depth ≤ S.depth := by
  unfold keptSource
  split
  · rw [Metadata.depth, entriesHeight_le_iff]
    intro e he
    exact entriesHeight_le_iff.mp (Nat.le_refl _) e (List.mem_of_mem_filter he)
  · exact Nat.le_refl _

section Merging

variable {D S : Metadata} {opts : Options}

/-- The source leaves a merge adds: those that meet no destination leaf. -/
abbrev addedLeaves (D S : Metadata) (opts : Options) : List (List String × Value) :=
  (entryLeaves (keptSource opts S)).filter (!meets (leafKeys D) ·.1)

/-- The added leaves lie at fresh paths, distinct from each other and from every destination
path. -/
theorem merged_eq_append (hS : S.WellFormed) :
    D.flatLeaves.extend ((addedLeaves D S opts).map fun p => (joinPath p.1, p.2)) =
      D.flatLeaves ++ (addedLeaves D S opts).map fun p => (joinPath p.1, p.2) := by
  apply Entries.extend_of_fresh
  · have hnd := nodup_flatLeaves (keptSource_wellFormed opts hS)
    rw [Metadata.flatLeaves] at hnd
    exact hnd.sublist ((List.filter_sublist.map _).map _)
  · intro path hpath
    obtain ⟨p, hp, rfl⟩ := List.mem_map.mp hpath
    obtain ⟨q, hq, rfl⟩ := List.mem_map.mp hp
    obtain ⟨hqS, hqm⟩ := List.mem_filter.mp hq
    have hne := ne_nil_of_mem_entryLeaves hqS
    rw [← Entries.contains_iff, contains_flatLeaves D hne]
    intro hq'
    simp [meets_of_mem hq'] at hqm

/-- Placing the added leaves into the destination keeps it well formed, gives it exactly the
added leaves more, and keeps the order of its keys. -/
theorem placeAll_addedLeaves (hD : D.WellFormed) (hS : S.WellFormed) :
    (Value.obj (placeAll D (addedLeaves D S opts))).WellFormed ∧
      (entryLeaves (placeAll D (addedLeaves D S opts))).Perm
        (entryLeaves D ++ addedLeaves D S opts) ∧
      (Value.obj D).KeepsOrder (.obj (placeAll D (addedLeaves D S opts))) := by
  have hS' := keptSource_wellFormed opts hS
  rw [Metadata.WellFormed, wellFormed_obj] at hS'
  refine placeAll_apart _ D hD ?leaf ?pair ?apart
  case leaf =>
    intro p hp
    have hpS := List.mem_of_mem_filter hp
    exact ⟨ne_nil_of_mem_entryLeaves hpS, leaves_wellFormed.2 _ hS'.2 p hpS⟩
  case pair =>
    exact (apart_leaves.2 _ hS'.2 hS'.1).sublist (List.filter_sublist.map _)
  case apart =>
    intro p hp
    have hm : meets (leafKeys D) p.1 = false := by simpa using (List.mem_filter.mp hp).2
    exact apart_of_not_meets hm

/-- The merged entries unflatten to the destination with the added leaves placed into it. -/
theorem unflatten_merged (hD : D.WellFormed) :
    unflatten (D.flatLeaves ++ (addedLeaves D S opts).map fun p => (joinPath p.1, p.2)) =
      placeAll D (addedLeaves D S opts) := by
  rw [Metadata.WellFormed, wellFormed_obj] at hD
  have hne : ∀ p ∈ entryLeaves D ++ addedLeaves D S opts, p.1 ≠ [] := by
    intro p hp
    rcases List.mem_append.mp hp with hp | hp
    · exact ne_nil_of_mem_entryLeaves hp
    · exact ne_nil_of_mem_entryLeaves (List.mem_of_mem_filter hp)
  rw [Metadata.flatLeaves, ← List.map_append, unflatten_map_joinPath _ hne, placeAll_append,
    placeAll_leaves.2 D hD.2 hD.1 [] (by simp), List.nil_append]

end Merging

/-- **The destination wins.**  Merging well-formed metadata within the depth limit, with an
unspent budget, succeeds.  Of the source left after removing reserved top-level keys (those
reported as filtered), the leaves whose keys meet a destination leaf's are conflicts and the
others are added, each list in source order; the result flattens to the destination's flat
entries and the added leaves, keeps every destination mapping's keys first and in order, and
with type checking on reports the same-keys conflicts of kinds that cannot meet. -/
theorem merge_keeps_destination (D S : Metadata) (opts : Options)
    (hD : D.WellFormed) (hS : S.WellFormed) (hDd : D.depth ≤ maxDepth)
    (hSd : S.depth ≤ maxDepth) (hb : opts.budget.spent = false) :
    ∃ result stats, merge D S opts = .ok (result, stats) ∧
      stats.filtered =
        (if opts.filterReserved then (S.filter (isReserved ·.1)).map Prod.fst else []) ∧
      stats.added =
        ((entryLeaves (keptSource opts S)).filter (!meets (leafKeys D) ·.1)).map (joinPath ·.1) ∧
      stats.conflicts =
        ((entryLeaves (keptSource opts S)).filter (meets (leafKeys D) ·.1)).map (joinPath ·.1) ∧
      (∃ F, flatten result = .ok F ∧
        F.Perm (D.flatLeaves ++ ((entryLeaves (keptSource opts S)).filter
          (!meets (leafKeys D) ·.1)).map fun p => (joinPath p.1, p.2))) ∧
      (Value.obj D).KeepsOrder (.obj result) ∧
      stats.typeConflicts = (if opts.validateTypes then
        (entryLeaves (keptSource opts S)).filterMap (typeConflict? D) else []) := by
  have hS'wf := keptSource_wellFormed opts hS
  have hS'd := Nat.le_trans (depth_keptSource_le opts S) hSd
  obtain ⟨hwf, hperm, hkeep⟩ := @placeAll_addedLeaves D S opts hD hS
  -- the result's leaves are the destination's and the added ones, all within the depth limit
  have hdepth : Metadata.depth (placeAll D (addedLeaves D S opts)) ≤ maxDepth := by
    rw [depth_le_iff]
    intro ks hks
    rw [leafKeys, (hperm.map Prod.fst).mem_iff, List.map_append, List.mem_append] at hks
    rcases hks with hks | hks
    · exact (depth_le_iff D maxDepth).mp hDd ks hks
    · obtain ⟨p, hp, rfl⟩ := List.mem_map.mp hks
      exact (depth_le_iff _ maxDepth).mp hS'd p.1
        (List.mem_map.mpr ⟨p, List.mem_of_mem_filter hp, rfl⟩)
  have hfold : (keptSource opts S).flatLeaves.foldlM
      (mergeStep opts D.flatLeaves (D.flatLeaves.flatMap (properPrefixes ·.1)))
      (D.flatLeaves, { filtered := if opts.filterReserved then
        (S.filter (isReserved ·.1)).map (·.1) else [] }) = _ :=
    foldlM_mergeStep D hb _ (fun p hp => ne_nil_of_mem_entryLeaves hp) _ _
  refine ⟨placeAll D (addedLeaves D S opts), ?stats, ?run, ?filtered, ?added, ?conflicts,
    ⟨_, flatten_eq_flatLeaves hwf hdepth, ?flat⟩, hkeep, ?types⟩
  case run =>
    rw [merge_eq, flattenWith_eq_flatLeaves hb hD hDd, flattenWith_eq_flatLeaves hb hS'wf hS'd]
    simp only [bind, Except.bind]
    rw [hfold, merged_eq_append hS]
    dsimp only
    rw [unflatten_merged hD]
    rfl
  case filtered => rfl
  case added => simp
  case conflicts => simp
  case types => cases opts.validateTypes <;> simp
  case flat =>
    rw [Metadata.flatLeaves, Metadata.flatLeaves, ← List.map_append]
    exact hperm.map _

/-- A source leaf beside a destination leaf in one mapping is added after it. -/
theorem merge_keeps_destination_sibling :
    Metadata.WellFormed [("a", .obj [("x", .null)])] ∧
    Metadata.WellFormed [("a", .obj [("y", .null)])] ∧
    Metadata.depth [("a", .obj [("x", .null)])] ≤ maxDepth ∧
    Metadata.depth [("a", .obj [("y", .null)])] ≤ maxDepth ∧
    ({} : Options).budget.spent = false ∧
    ∃ result stats, merge [("a", .obj [("x", .null)])] [("a", .obj [("y", .null)])] {} =
        .ok (result, stats) ∧
      stats.filtered = (if ({} : Options).filterReserved then
        (([("a", .obj [("y", .null)])] : Metadata).filter (isReserved ·.1)).map Prod.fst
        else []) ∧
      stats.added = ((entryLeaves (keptSource {} [("a", .obj [("y", .null)])])).filter
        (!meets (leafKeys [("a", .obj [("x", .null)])]) ·.1)).map (joinPath ·.1) ∧
      stats.conflicts = ((entryLeaves (keptSource {} [("a", .obj [("y", .null)])])).filter
        (meets (leafKeys [("a", .obj [("x", .null)])]) ·.1)).map (joinPath ·.1) ∧
      (∃ F, flatten result = .ok F ∧
        F.Perm (Metadata.flatLeaves [("a", .obj [("x", .null)])] ++
          ((entryLeaves (keptSource {} [("a", .obj [("y", .null)])])).filter
            (!meets (leafKeys [("a", .obj [("x", .null)])]) ·.1)).map
              fun p => (joinPath p.1, p.2))) ∧
      (Value.obj [("a", .obj [("x", .null)])]).KeepsOrder (.obj result) ∧
      stats.typeConflicts = (if ({} : Options).validateTypes then
        (entryLeaves (keptSource {} [("a", .obj [("y", .null)])])).filterMap
          (typeConflict? [("a", .obj [("x", .null)])]) else []) := by
  have hD : Metadata.WellFormed [("a", .obj [("x", .null)])] := by
    simp [Metadata.WellFormed, Value.WellFormed, Value.EntriesWellFormed]
  have hS : Metadata.WellFormed [("a", .obj [("y", .null)])] := by
    simp [Metadata.WellFormed, Value.WellFormed, Value.EntriesWellFormed]
  have hDd : Metadata.depth [("a", .obj [("x", .null)])] ≤ maxDepth := by decide
  have hSd : Metadata.depth [("a", .obj [("y", .null)])] ≤ maxDepth := by decide
  have hb : ({} : Options).budget.spent = false := by decide
  exact ⟨hD, hS, hDd, hSd, hb, merge_keeps_destination _ _ {} hD hS hDd hSd hb⟩

example : (merge [("a", .obj [("x", .null)])] [("a", .obj [("y", .null)])] {}).map Prod.snd =
    .ok { added := ["a.y"], conflicts := [] } := by
  decide

end Covenant.Merge
