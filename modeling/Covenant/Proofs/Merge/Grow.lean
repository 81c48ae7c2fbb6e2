import Covenant.Proofs.Merge.RoundTrip
import Mathlib.Data.List.Perm.Basic
/-!
# Growing metadata by leaves that stand apart

Merging rebuilds its result by placing the added source leaves into the destination one
at a time.  Two lists of keys stand *apart* when neither begins the other.  This module
proves what placing a leaf does when its keys stand apart from every leaf already there
(`place_apart`):

* the place is always found (no scalar stands in the way, no mapping is overwritten);
* the tree stays well formed and its leaves are the old ones and the new one;
* every mapping keeps its keys in their order, new keys coming after them
  (`Value.KeepsOrder`).

`placeAll_apart` runs this over a list of leaves that stand apart from each other, as the
leaves of well-formed metadata do (`apart_leaves`).
-/

namespace Covenant

namespace Value

/-- The value at a list of keys, going down through mappings only. -/
def atKeys : Value → List String → Option Value
  | v, [] => some v
  | .obj es, k :: ks => (Entries.get? es k).bind fun w => w.atKeys ks
  | _, _ :: _ => none

@[simp] theorem atKeys_nil (v : Value) : v.atKeys [] = some v := by
  cases v <;> rfl

@[simp] theorem atKeys_obj_cons (es : List (String × Value)) (k : String) (ks : List String) :
    (Value.obj es).atKeys (k :: ks) = (Entries.get? es k).bind fun w => w.atKeys ks := rfl

/-- `b` keeps the mappings of `a` in order: wherever `a` has a mapping, `b` has one whose
keys begin with those of `a`'s, in the same order. -/
def KeepsOrder (a b : Value) : Prop :=
  ∀ ks ds, a.atKeys ks = some (.obj ds) →
    ∃ rs, b.atKeys ks = some (.obj rs) ∧ ds.map Prod.fst <+: rs.map Prod.fst

theorem KeepsOrder.refl (a : Value) : a.KeepsOrder a :=
  fun _ ds h => ⟨ds, h, List.prefix_refl _⟩

theorem KeepsOrder.trans {a b c : Value} (hab : a.KeepsOrder b) (hbc : b.KeepsOrder c) :
    a.KeepsOrder c := by
  intro ks ds ha
  obtain ⟨rs, hb, hpre⟩ := hab ks ds ha
  obtain ⟨ts, hc, hpre'⟩ := hbc ks rs hb
  exact ⟨ts, hc, hpre.trans hpre'⟩

/-- A mapping keeps order when its keys begin the new mapping's keys and the value of each of
its keys keeps order. -/
theorem keepsOrder_of_get? {es es' : List (String × Value)}
    (hkeys : es.map Prod.fst <+: es'.map Prod.fst)
    (hget : ∀ k w, Entries.get? es k = some w → ∃ w', Entries.get? es' k = some w' ∧ w.KeepsOrder w') :
    (Value.obj es).KeepsOrder (.obj es') := by
  intro ks ds h
  cases ks with
  | nil =>
      simp only [atKeys_nil, Option.some.injEq, Value.obj.injEq] at h
      subst h
      exact ⟨es', by simp, hkeys⟩
  | cons k ks =>
      rw [atKeys_obj_cons, Option.bind_eq_some_iff] at h
      obtain ⟨w, hw, hks⟩ := h
      obtain ⟨w', hw', hkeep⟩ := hget k w hw
      obtain ⟨rs, hrs, hpre⟩ := hkeep ks ds hks
      exact ⟨rs, by simp [hw', hrs], hpre⟩

end Value

namespace Entries

variable {es pre post : Entries} {k : String} {w w' : Value}

theorem mem_of_get?_eq_some (h : es.get? k = some w) : (k, w) ∈ es := by
  simp only [get?, Option.map_eq_some_iff] at h
  obtain ⟨e, he, rfl⟩ := h
  obtain ⟨hk, hmem⟩ := List.find?_some he, List.mem_of_find?_eq_some he
  simp only [beq_iff_eq] at hk
  rw [← hk]
  exact hmem

/-- An entry found by key splits the entries around it. -/
theorem eq_append_of_get?_eq_some (h : es.get? k = some w) :
    ∃ pre post, es = pre ++ (k, w) :: post ∧ k ∉ pre.map Prod.fst := by
  simp only [get?, Option.map_eq_some_iff] at h
  obtain ⟨e, he, rfl⟩ := h
  obtain ⟨hk, pre, post, hes, hpre⟩ := List.find?_eq_some_iff_append.mp he
  simp only [beq_iff_eq] at hk
  refine ⟨pre, post, by rw [hes, ← hk], ?_⟩
  intro hmem
  obtain ⟨e', he', hek⟩ := List.mem_map.mp hmem
  simpa [hek] using hpre e' he'

theorem get?_append_cons_self (hpre : k ∉ pre.map Prod.fst) :
    (pre ++ (k, w) :: post).get? k = some w := by
  rw [get?_append_of_not_mem hpre]
  simp [get?]

/-- Changing the value of one key leaves every other key's value as it was. -/
theorem get?_append_cons_of_ne {k' : String} (hne : k' ≠ k) :
    (pre ++ (k, w') :: post).get? k' = (pre ++ (k, w) :: post).get? k' := by
  have hkk : (k == k') = false := by simp [Ne.symm hne]
  simp [get?, List.find?_append, hkk]

/-- Inserting at a key held once replaces its value in place. -/
theorem insert_append_cons (hpre : k ∉ pre.map Prod.fst) (hpost : k ∉ post.map Prod.fst) :
    (pre ++ (k, w) :: post).insert k w' = pre ++ (k, w') :: post := by
  have hc : (pre ++ (k, w) :: post).contains k = true := contains_iff.mpr (by simp)
  have hkeep : ∀ l : Entries, k ∉ l.map Prod.fst →
      l.map (fun e => if e.1 == k then (k, w') else e) = l := by
    intro l hl
    have hid : ∀ e ∈ l, (if e.1 == k then (k, w') else e) = e := by
      intro e he
      have hek : e.1 ≠ k := fun hek => hl (List.mem_map.mpr ⟨e, he, hek⟩)
      simp [hek]
    rw [List.map_congr_left hid, List.map_id']
  simp only [insert, hc, if_true, List.map_append, List.map_cons, beq_self_eq_true]
  rw [hkeep pre hpre, hkeep post hpost]

theorem get?_append_of_get?_eq_some {more : Entries} (h : es.get? k = some w) :
    (es ++ more).get? k = some w := by
  simp only [get?, Option.map_eq_some_iff] at h ⊢
  obtain ⟨e, he, hw⟩ := h
  exact ⟨e, by simp [List.find?_append, he], hw⟩

theorem not_mem_of_get?_eq_none (h : es.get? k = none) : k ∉ es.map Prod.fst := by
  intro hk
  obtain ⟨e, he, rfl⟩ := List.mem_map.mp hk
  simp only [get?, Option.map_eq_none_iff, List.find?_eq_none, beq_iff_eq] at h
  exact h e he rfl

end Entries

namespace Value

@[simp] theorem entriesWellFormed_append (as bs : List (String × Value)) :
    EntriesWellFormed (as ++ bs) ↔ EntriesWellFormed as ∧ EntriesWellFormed bs := by
  induction as with
  | nil => simp
  | cons e as ih =>
      obtain ⟨k, v⟩ := e
      simp [ih, and_assoc]

theorem entryLeaves_append (as bs : List (String × Value)) :
    entryLeaves (as ++ bs) = entryLeaves as ++ entryLeaves bs := by
  induction as with
  | nil => simp
  | cons e as ih =>
      obtain ⟨k, v⟩ := e
      simp [ih]

/-- The leaves of a non-empty mapping are those of its entries. -/
theorem leaves_obj_of_ne_nil {es : List (String × Value)} (h : es ≠ []) :
    (Value.obj es).leaves = entryLeaves es := by
  obtain ⟨e, es, rfl⟩ := List.exists_cons_of_ne_nil h
  exact leaves_obj_cons e es

theorem mem_entryLeaves_of_mem {es : List (String × Value)} {k : String} {w : Value}
    {p : List String × Value} (hkw : (k, w) ∈ es) (hp : p ∈ w.leaves) :
    (k :: p.1, p.2) ∈ entryLeaves es := by
  induction es with
  | nil => simp at hkw
  | cons e es ih =>
      obtain ⟨k', v⟩ := e
      rw [entryLeaves_cons, List.mem_append]
      rcases List.mem_cons.mp hkw with h | h
      · simp only [Prod.mk.injEq] at h
        obtain ⟨rfl, rfl⟩ := h
        exact Or.inl (List.mem_map.mpr ⟨p, hp, rfl⟩)
      · exact Or.inr (ih h)

/-- Every entry of a mapping has a leaf below its key. -/
theorem exists_leaf_under {es : List (String × Value)} {k : String} {w : Value}
    (hkw : (k, w) ∈ es) : ∃ d, k :: d ∈ (entryLeaves es).map Prod.fst := by
  obtain ⟨p, hp⟩ := List.exists_mem_of_ne_nil _ (Merge.leaves_ne_nil.1 w)
  exact ⟨p.1, List.mem_map.mpr ⟨_, mem_entryLeaves_of_mem hkw hp, rfl⟩⟩

/-- An entry holding a leaf is a leaf at its key alone. -/
theorem leaf_at_key {es : List (String × Value)} {k : String} {w : Value}
    (hkw : (k, w) ∈ es) (hw : w.IsLeaf) : [k] ∈ (entryLeaves es).map Prod.fst := by
  refine List.mem_map.mpr ⟨_, mem_entryLeaves_of_mem hkw (p := ([], w)) ?_, rfl⟩
  simp [leaves_of_isLeaf hw]

section Replace

/-! One entry of a mapping gets a new value; the others stay as they are. -/

variable {pre post : List (String × Value)} {k : String}

theorem wellFormed_replace {v v' : Value} (h : (Value.obj (pre ++ (k, v) :: post)).WellFormed)
    (hv' : v'.WellFormed) : (Value.obj (pre ++ (k, v') :: post)).WellFormed := by
  rw [wellFormed_obj, List.map_append, List.map_cons, entriesWellFormed_append,
    entriesWellFormed_cons] at h ⊢
  exact ⟨h.1, h.2.1, hv', h.2.2.2⟩

/-- A mapping that gains leaves under one of its keys gains them, under that key, in the
whole. -/
theorem entryLeaves_replace_perm {I I' : List (String × Value)} {L : List (List String × Value)}
    (hI : I ≠ []) (hI' : I' ≠ []) (h : (entryLeaves I').Perm (entryLeaves I ++ L)) :
    (entryLeaves (pre ++ (k, .obj I') :: post)).Perm
      (entryLeaves (pre ++ (k, .obj I) :: post) ++ L.map fun p => (k :: p.1, p.2)) := by
  simp only [entryLeaves_append, entryLeaves_cons, leaves_obj_of_ne_nil hI',
    leaves_obj_of_ne_nil hI]
  have hunder := (h.map fun p => (k :: p.1, p.2)).append_right (entryLeaves post)
  rw [List.map_append, List.append_assoc] at hunder
  -- the new leaves sit under `k`; moving them past the later entries is a permutation
  have hswap : ((L.map fun p => (k :: p.1, p.2)) ++ entryLeaves post).Perm
      (entryLeaves post ++ L.map fun p => (k :: p.1, p.2)) := List.perm_append_comm
  refine (hunder.append_left (entryLeaves pre)).trans ?_
  simpa [List.append_assoc] using
    hswap.append_left (entryLeaves pre ++ (entryLeaves I).map fun p => (k :: p.1, p.2))

theorem keepsOrder_replace {v v' : Value} (hpre : k ∉ pre.map Prod.fst) (h : v.KeepsOrder v') :
    (Value.obj (pre ++ (k, v) :: post)).KeepsOrder (.obj (pre ++ (k, v') :: post)) := by
  refine keepsOrder_of_get? (by simp) ?_
  intro k' w hw
  by_cases hk' : k' = k
  · subst hk'
    rw [Entries.get?_append_cons_self hpre] at hw
    cases hw
    exact ⟨_, Entries.get?_append_cons_self hpre, h⟩
  · exact ⟨w, by rw [Entries.get?_append_cons_of_ne hk']; exact hw, KeepsOrder.refl w⟩

end Replace

end Value

namespace Merge

open Value

variable {x : Value}

/-- Adding a fresh key last keeps a mapping well formed and in order. -/
theorem grow_append_fresh {T : Entries} {k : String} {w : Value} (hk : k ∉ T.map Prod.fst)
    (hT : (Value.obj T).WellFormed) (hw : w.WellFormed) :
    (Value.obj (T ++ [(k, w)])).WellFormed ∧ (Value.obj T).KeepsOrder (.obj (T ++ [(k, w)])) := by
  rw [wellFormed_obj] at hT ⊢
  refine ⟨⟨?_, by simp [hT.2, hw]⟩, ?_⟩
  · rw [List.map_append, List.map_cons, List.map_nil, List.nodup_append]
    refine ⟨hT.1, List.nodup_singleton _, ?_⟩
    intro a ha b hb hab
    rw [List.mem_singleton] at hb
    subst hab hb
    exact hk ha
  · refine keepsOrder_of_get? (by simp [List.prefix_append]) ?_
    intro k' w' h
    exact ⟨w', Entries.get?_append_of_get?_eq_some h, KeepsOrder.refl w'⟩

/-- The leaves after adding a key last. -/
theorem entryLeaves_append_single (T : Entries) (k : String) (w : Value) :
    entryLeaves (T ++ [(k, w)]) = entryLeaves T ++ w.leaves.map fun p => (k :: p.1, p.2) := by
  simp [entryLeaves_append]

/-- **Placing a leaf that stands apart.**  A leaf whose keys stand apart from those of every
leaf of a well-formed mapping is placed: the mapping stays well formed, its leaves are the
old ones and the new one, and every mapping in it keeps its keys in order. -/
theorem place_apart (hx : x.IsLeaf) (hxwf : x.WellFormed) :
    ∀ (T : Entries) (ks : List String), ks ≠ [] → (Value.obj T).WellFormed →
      (∀ d ∈ (entryLeaves T).map Prod.fst, Apart ks d) →
      ∃ T', place T x ks = some T' ∧ (Value.obj T').WellFormed ∧
        (entryLeaves T').Perm (entryLeaves T ++ [(ks, x)]) ∧
        (Value.obj T).KeepsOrder (.obj T') := by
  refine place.induct _ ?nil ?single ?fresh ?descend ?blocked
  case nil =>
    intro T h
    exact absurd rfl h
  case single =>
    intro T k _ hT hapart
    -- a key already there would have a leaf below it that `[k]` begins
    have hk : k ∉ T.map Prod.fst := by
      intro hk
      obtain ⟨⟨k', w⟩, hkw, rfl⟩ := List.mem_map.mp hk
      obtain ⟨d, hd⟩ := exists_leaf_under hkw
      exact (hapart _ hd).1 (List.cons_prefix_cons.mpr ⟨rfl, List.nil_prefix⟩)
    obtain ⟨hwf, hkeep⟩ := grow_append_fresh hk hT hxwf
    refine ⟨T ++ [(k, x)], place_fresh_single hk, hwf, ?_, hkeep⟩
    simp [entryLeaves_append_single, leaves_of_isLeaf hx]
  case fresh =>
    intro T k rest hrest hnone ih _ hT hapart
    obtain ⟨I, hI, hIwf, hIleaves, _⟩ := ih hrest (by simp) (by simp)
    have hk := Entries.not_mem_of_get?_eq_none hnone
    have hIleaves' : entryLeaves I = [(rest, x)] := List.perm_singleton.mp (by simpa using hIleaves)
    have hIne : I ≠ [] := by
      rintro rfl
      simp at hIleaves'
    obtain ⟨hwf, hkeep⟩ := grow_append_fresh hk hT hIwf
    refine ⟨T ++ [(k, .obj I)], by rw [place_fresh hk hrest, hI]; rfl, hwf, ?_, hkeep⟩
    simp [entryLeaves_append_single, leaves_obj_of_ne_nil hIne, hIleaves']
  case descend =>
    intro T k rest hrest inner hget ih _ hT hapart
    obtain ⟨pre, post, rfl, hpre⟩ := Entries.eq_append_of_get?_eq_some hget
    have hTwf := hT
    rw [wellFormed_obj, List.map_append, List.map_cons, List.nodup_append, List.nodup_cons,
      entriesWellFormed_append, entriesWellFormed_cons] at hTwf
    have hpost : k ∉ post.map Prod.fst := hTwf.1.2.1.1
    have hmem : (k, Value.obj inner) ∈ pre ++ (k, .obj inner) :: post := by simp
    -- an empty mapping at `k` would be a leaf that `k :: rest` passes through
    have hinner : inner ≠ [] := by
      rintro rfl
      have := leaf_at_key hmem (fun e es h => by cases h)
      exact (hapart _ this).2 (List.cons_prefix_cons.mpr ⟨rfl, List.nil_prefix⟩)
    have happart : ∀ d ∈ (entryLeaves inner).map Prod.fst, Apart rest d := by
      intro d hd
      obtain ⟨p, hp, rfl⟩ := List.mem_map.mp hd
      have hunder := mem_entryLeaves_of_mem hmem (by rwa [leaves_obj_of_ne_nil hinner])
      simpa using hapart _ (List.mem_map.mpr ⟨_, hunder, rfl⟩)
    obtain ⟨I', hI', hI'wf, hI'leaves, hI'keep⟩ := ih hrest hTwf.2.2.1 happart
    have hI'ne : I' ≠ [] := by
      rintro rfl
      simpa using hI'leaves.length_eq
    refine ⟨pre ++ (k, .obj I') :: post, ?_, wellFormed_replace hT hI'wf, ?_,
      keepsOrder_replace hpre hI'keep⟩
    · rw [place.eq_3 _ _ _ _ hrest, hget]
      simp only [hI', Option.map_some]
      rw [Entries.insert_append_cons hpre hpost]
    · simpa using entryLeaves_replace_perm hinner hI'ne hI'leaves
  case blocked =>
    intro T k rest _ val hval hget _ _ hapart
    have hleaf : val.IsLeaf := fun e es h => hval (e :: es) h
    have := leaf_at_key (Entries.mem_of_get?_eq_some hget) hleaf
    exact absurd (List.cons_prefix_cons.mpr ⟨rfl, List.nil_prefix⟩) (hapart _ this).2

/-- Placing leaves that stand apart from each other and from the leaves of a well-formed
mapping, one after another. -/
theorem placeAll_apart (L : List (List String × Value)) :
    ∀ T : Entries, (Value.obj T).WellFormed →
      (∀ p ∈ L, p.1 ≠ [] ∧ p.2.IsLeaf ∧ p.2.WellFormed) →
      (L.map Prod.fst).Pairwise Apart →
      (∀ p ∈ L, ∀ d ∈ (entryLeaves T).map Prod.fst, Apart p.1 d) →
      (Value.obj (placeAll T L)).WellFormed ∧ (entryLeaves (placeAll T L)).Perm (entryLeaves T ++ L) ∧
        (Value.obj T).KeepsOrder (.obj (placeAll T L)) := by
  induction L with
  | nil =>
      intro T hT _ _ _
      exact ⟨hT, by simp, KeepsOrder.refl _⟩
  | cons p L ih =>
      intro T hT hL hpair hapart
      obtain ⟨hne, hleaf, hwf⟩ := hL p List.mem_cons_self
      obtain ⟨T₁, hT₁, hT₁wf, hT₁leaves, hT₁keep⟩ :=
        place_apart hleaf hwf T p.1 hne hT (hapart p List.mem_cons_self)
      rw [List.map_cons, List.pairwise_cons] at hpair
      -- the rest stand apart from the leaves so far, the new one included
      have hapart₁ : ∀ q ∈ L, ∀ d ∈ (entryLeaves T₁).map Prod.fst, Apart q.1 d := by
        intro q hq d hd
        rw [(hT₁leaves.map Prod.fst).mem_iff, List.map_append, List.mem_append] at hd
        rcases hd with hd | hd
        · exact hapart q (List.mem_cons_of_mem _ hq) d hd
        · simp only [List.map_cons, List.map_nil, List.mem_singleton] at hd
          subst hd
          exact (hpair.1 q.1 (List.mem_map.mpr ⟨q, hq, rfl⟩)).symm
      obtain ⟨hwf', hleaves', hkeep'⟩ :=
        ih T₁ hT₁wf (fun q hq => hL q (List.mem_cons_of_mem _ hq)) hpair.2 hapart₁
      rw [placeAll_cons, hT₁, Option.getD_some]
      refine ⟨hwf', hleaves'.trans ?_, hT₁keep.trans hkeep'⟩
      simpa using hT₁leaves.append_right L

/-- The leaves of a value are leaves, and well formed when the value is. -/
theorem leaves_wellFormed : (∀ v : Value, v.WellFormed → ∀ p ∈ v.leaves, p.2.IsLeaf ∧ p.2.WellFormed) ∧
    ∀ es : List (String × Value), EntriesWellFormed es →
      ∀ p ∈ entryLeaves es, p.2.IsLeaf ∧ p.2.WellFormed := by
  refine Value.leaves.mutual_induct _ _ ?branch ?leaf ?nil ?cons
  case branch =>
    intro e es ih hv
    rw [wellFormed_obj] at hv
    simpa using ih hv.2
  case leaf =>
    intro v hv hwf p hp
    rw [leaves_of_isLeaf hv, List.mem_singleton] at hp
    subst hp
    exact ⟨hv, hwf⟩
  case nil =>
    intro _ p hp
    simp at hp
  case cons =>
    intro k v es ihv ihes hwf p hp
    rw [entriesWellFormed_cons] at hwf
    rw [entryLeaves_cons, List.mem_append] at hp
    rcases hp with hp | hp
    · obtain ⟨q, hq, rfl⟩ := List.mem_map.mp hp
      exact ihv hwf.1 q hq
    · exact ihes hwf.2 p hp

end Merge

end Covenant
