import Covenant.Proofs.Import.Steps
import Covenant.Proofs.Merge.Result
import Covenant.Proofs.FrontMatter.WellFormed
/-!
# The metadata imports leave

With merging on, every import merges the metadata of the imported resource into the
importer's, the resource's own imports merged into it first.  Merging keeps the destination's
leaves and adds source leaves only where the destination has nothing, so across a whole
resolution (`Grows`):

* every leaf of the document's metadata stays, with its value, and so does every leaf of a
  resource's own front matter in what the resource passes up;
* every other leaf comes from the front matter of a resource the document reaches;
* with reserved keys filtered, the document's entry under every reserved key is what it was.

The invariant is proved for each function of the resolver by one induction over its
recursion (`grows_of_ok`); `resolveImports_metadata` reads it off for a whole resolution.
-/

namespace Covenant

open Value

/-- What expanding bodies reaching `ts` makes of metadata `m`: `m'` is well formed, within the
depth limit if `m` is, keeps every leaf of `m`, adds only leaves of the front matter of
resources reachable from `ts`, and keeps the entries of `m` under reserved keys. -/
structure Grows (store : ResourceStore) (strict : Bool) (ts : List String) (m m' : Metadata) :
    Prop where
  wellFormed : m'.WellFormed
  depth_le : m.depth ≤ Merge.maxDepth → m'.depth ≤ Merge.maxDepth
  keeps : ∀ x ∈ entryLeaves m, x ∈ entryLeaves m'
  reached : ∀ x ∈ entryLeaves m', x ∈ entryLeaves m ∨
    ∃ p parsed, ImportReachable store strict ts p ∧ store.parsed? strict p = some parsed ∧
      x ∈ entryLeaves parsed.metadata
  reserved : ∀ k, Merge.isReserved k = true → m'.get? k = m.get? k

namespace Grows

variable {store : ResourceStore} {strict : Bool} {ts ts' : List String} {m m' m'' : Metadata}

theorem refl (hm : m.WellFormed) : Grows store strict ts m m :=
  ⟨hm, id, fun _ hx => hx, fun _ hx => Or.inl hx, fun _ _ => rfl⟩

theorem mono (h : Grows store strict ts m m') (hts : ts ⊆ ts') : Grows store strict ts' m m' where
  wellFormed := h.wellFormed
  depth_le := h.depth_le
  keeps := h.keeps
  reached x hx := (h.reached x hx).imp_right fun ⟨p, parsed, hp, hparsed, hx⟩ =>
    ⟨p, parsed, hp.mono hts, hparsed, hx⟩
  reserved := h.reserved

theorem trans (h : Grows store strict ts m m') (h' : Grows store strict ts m' m'') :
    Grows store strict ts m m'' where
  wellFormed := h'.wellFormed
  depth_le hd := h'.depth_le (h.depth_le hd)
  keeps x hx := h'.keeps x (h.keeps x hx)
  reached x hx := (h'.reached x hx).elim (h.reached x) Or.inr
  reserved k hk := (h'.reserved k hk).trans (h.reserved k hk)

end Grows

variable {store : ResourceStore} {opts : ImportOptions}

/-- One import, merged: the importer's metadata grows by what the resource passes up. -/
theorem Grows.merge (hf : opts.merge.filterReserved = true) {path : String} {parsed : Parsed}
    {ts : List String} {m child m' : Metadata} {stats : Merge.Stats}
    (hparsed : store.parsed? opts.strictMetadata path = some parsed)
    (hchild : Grows store opts.strictMetadata (importTargets (some path) parsed.body)
      parsed.metadata child)
    (hm : m.WellFormed) (h : Merge.merge m child opts.merge = .ok (m', stats)) :
    Grows store opts.strictMetadata (path :: ts) m m' := by
  obtain ⟨hwf, hdepth, -⟩ := Merge.merge_result_leaves hm hchild.wellFormed h
  refine ⟨hwf, fun _ => hdepth, fun x hx => ?_, fun x hx => ?_, fun k hk => ?_⟩
  · exact (Merge.mem_entryLeaves_merge hm hchild.wellFormed h x).1 hx
  · -- a leaf the merge added comes from the resource's own front matter or from below it
    have hhead : [path] ⊆ path :: ts := List.cons_subset.mpr ⟨List.mem_cons_self, List.nil_subset _⟩
    rcases (Merge.mem_entryLeaves_merge hm hchild.wellFormed h x).2 hx with hx | hx
    · exact Or.inl hx
    rcases hchild.reached x hx with hx | ⟨q, parsed', hq, hparsed', hx⟩
    · exact Or.inr ⟨path, parsed, ImportReachable.self.mono hhead, hparsed, hx⟩
    · exact Or.inr ⟨q, parsed', (hq.below hparsed).mono hhead, hparsed', hx⟩
  · exact Merge.get?_merge_reserved hf hm hchild.wellFormed h hk

/-- The step at an import: a resource imported with success passes up metadata grown from its
own front matter. -/
theorem grows_import {path : String} {chain : List String}
    (ih : ∀ parsed : Parsed, ∀ log r,
      (expandImports store opts parsed.body parsed.metadata (some path) (chain ++ [path])).run log =
        .ok r → parsed.metadata.WellFormed →
      Grows store opts.strictMetadata (importTargets (some path) parsed.body) parsed.metadata r.1.2)
    {log : ImportLog} {r : (String × Metadata) × ImportLog}
    (h : (importResource store opts path chain).run log = .ok r) :
    ∃ parsed, store.parsed? opts.strictMetadata path = some parsed ∧
      Grows store opts.strictMetadata (importTargets (some path) parsed.body) parsed.metadata r.1.2 := by
  obtain ⟨-, -, parsed, log', hparsed, hexp⟩ := importResource_ok h
  have hwf : parsed.metadata.WellFormed := FrontMatter.parseFrontMatter_wellFormed
    (ResourceStore.parsed?_eq_some.mp hparsed).choose_spec.2
  exact ⟨parsed, hparsed, ih parsed log' r hexp hwf⟩

section Invariant

variable (hmerge : opts.mergeMetadata = true) (hf : opts.merge.filterReserved = true)
include hmerge hf

/-- **The import invariant.**  With merging on and reserved keys filtered, a successful
expansion grows the metadata it starts from by the front matter of the resources it reaches,
and a successful import passes up its resource's front matter so grown. -/
theorem grows_of_ok :
    (∀ content m importer chain log r,
      (expandImports store opts content m importer chain).run log = .ok r → m.WellFormed →
      Grows store opts.strictMetadata (importTargets importer content) m r.1.2) ∧
    (∀ ps out m importer chain log r,
      (expandPieces store opts ps out m importer chain).run log = .ok r → m.WellFormed →
      Grows store opts.strictMetadata (Piece.targets importer ps) m r.1.2) ∧
    (∀ path chain log r, (importResource store opts path chain).run log = .ok r →
      ∃ parsed, store.parsed? opts.strictMetadata path = some parsed ∧
        Grows store opts.strictMetadata (importTargets (some path) parsed.body) parsed.metadata
          r.1.2) := by
  refine expandImports.mutual_induct store opts _ _ _ ?expand ?nil ?verbatim ?directive
    ?cycle ?tooDeep ?read ?notFound ?failed
  case expand =>
    intro content m importer chain ih log r h hm
    rw [expandImports_run] at h
    exact ih log r h hm
  case nil =>
    intro out m importer chain log r h hm
    rw [expandPieces_nil_run] at h
    cases h
    exact Grows.refl hm
  case verbatim =>
    intro s ps out m importer chain ih log r h hm
    rw [expandPieces_verbatim_run] at h
    exact ih log r h hm
  case directive =>
    intro name ending ps out m importer chain path ih₁ ih₂ log r h hm
    rw [expandPieces_directive_run] at h
    obtain ⟨⟨⟨body, child⟩, log₁⟩, h₁, h⟩ := Except.bind_eq_ok h
    obtain ⟨⟨m', stats⟩, h₂, h₃⟩ := Except.bind_eq_ok h
    rw [ImportOptions.mergeInto, if_pos hmerge] at h₂
    obtain ⟨parsed, hparsed, hchild⟩ := ih₁ log _ h₁
    -- the import grows the metadata, and the later pieces grow it further
    have hstep : Grows store opts.strictMetadata (path :: Piece.targets importer ps) m m' :=
      Grows.merge hf hparsed hchild hm h₂
    have hrest := ih₂ body m' _ r h₃ hstep.wellFormed
    rw [Piece.targets_directive]
    exact hstep.trans (hrest.mono (List.subset_cons_self _ _))
  case cycle =>
    intro path chain hc log r h
    exact absurd (List.elem_iff.mp hc) (importResource_ok h).1
  case tooDeep =>
    intro path chain _ hd log r h
    exact absurd (importResource_ok h).2.1 (Nat.not_lt.mpr hd)
  case read =>
    intro path chain _ _ _ _ ih log r h
    exact grows_import ih h
  case notFound =>
    intro path chain _ _ _ ih log r h
    exact grows_import ih h
  case failed =>
    intro path chain _ _ _ _ ih log r h
    exact grows_import ih h

end Invariant

/-- Leaves kept with their keys are kept flat. -/
theorem Metadata.flatLeaves_subset {m m' : Metadata} (h : ∀ x ∈ entryLeaves m, x ∈ entryLeaves m') :
    ∀ x ∈ m.flatLeaves, x ∈ m'.flatLeaves :=
  List.map_subset _ h

/-- **What imports do to the metadata.**  With merging on and reserved keys filtered, a
successful resolution of a document with well-formed metadata `m`:

1. keeps every leaf of `m` with its value, and flattens whenever `m` does;
2. has no other leaves than those of the front matter of resources the document reaches;
3. keeps the entry of `m` under every reserved key, in any letter case, or its absence;
4. and each resource imported with success passes up every leaf of its own front matter, so
   it wins over whatever it imports. -/
theorem resolveImports_metadata (content : String) (m : Metadata) (store : ResourceStore)
    (opts : ImportOptions) (hmerge : opts.mergeMetadata = true)
    (hf : opts.merge.filterReserved = true) (hm : m.WellFormed) {r : ResolvedImports}
    (h : resolveImports content m store opts = .ok r) :
    (∀ F, Merge.flatten m = .ok F → Merge.flatten r.metadata = .ok r.metadata.flatLeaves ∧
      ∀ x ∈ F, x ∈ r.metadata.flatLeaves) ∧
    (∀ x ∈ r.metadata.flatLeaves, x ∈ m.flatLeaves ∨
      ∃ p parsed, ImportReachable store opts.strictMetadata (importTargets none content) p ∧
        store.parsed? opts.strictMetadata p = some parsed ∧ x ∈ parsed.metadata.flatLeaves) ∧
    (∀ k, Merge.isReserved k = true → r.metadata.get? k = m.get? k) ∧
    (∀ path chain log res, (importResource store opts path chain).run log = .ok res →
      ∃ parsed, store.parsed? opts.strictMetadata path = some parsed ∧
        ∀ x ∈ parsed.metadata.flatLeaves, x ∈ res.1.2.flatLeaves) := by
  obtain ⟨out, m', log, hrun, rfl⟩ := resolveImports_eq_ok.mp h
  have hg : Grows store opts.strictMetadata (importTargets none content) m m' :=
    (grows_of_ok hmerge hf).1 content m none [] {} _ hrun hm
  refine ⟨?flat, ?reached, fun k hk => hg.reserved k hk, ?resource⟩
  case flat =>
    intro F hF
    have hd : m.depth ≤ Merge.maxDepth := Merge.depth_le_of_flattenWith rfl hF
    rw [Merge.flatten_eq_flatLeaves hm hd, Except.ok.injEq] at hF
    subst hF
    exact ⟨Merge.flatten_eq_flatLeaves hg.wellFormed (hg.depth_le hd),
      Metadata.flatLeaves_subset hg.keeps⟩
  case reached =>
    intro x hx
    obtain ⟨y, hy, rfl⟩ := List.mem_map.mp hx
    rcases hg.reached y hy with hy | ⟨p, parsed, hp, hparsed, hy⟩
    · exact Or.inl (List.mem_map_of_mem hy)
    · exact Or.inr ⟨p, parsed, hp, hparsed, List.mem_map_of_mem hy⟩
  case resource =>
    intro path chain log res hres
    obtain ⟨parsed, hparsed, hgrow⟩ := (grows_of_ok hmerge hf).2.2 path chain log res hres
    exact ⟨parsed, hparsed, Metadata.flatLeaves_subset hgrow.keeps⟩

/-- An import leaves the document's locale as it was. -/
theorem resolveImports_keeps_locale :
    ({} : ImportOptions).mergeMetadata = true ∧ ({} : ImportOptions).merge.filterReserved = true ∧
    Metadata.WellFormed [("locale", .str "en")] ∧
    ∃ r, resolveImports "@import c\n" [("locale", .str "en")]
        (ResourceStore.insert {} "c" (.text "leaf\n")) {} = .ok r ∧
      r.metadata.get? "locale" = some (.str "en") := by
  have hm : Metadata.WellFormed [("locale", .str "en")] := by
    simp [Metadata.WellFormed, Value.WellFormed, Value.EntriesWellFormed]
  have hname : importName? "@import c" = some "c" := by decide
  have hplain : importName? "leaf" = none := by decide
  have hdoc : pieces "@import c\n" = [.directive "c" "\n"] := by
    unfold pieces
    rw [show Text.lines "@import c\n" = [⟨"@import c", "\n"⟩] from rfl]
    simp +decide [pieces.go, Text.fenceStep, Text.fenceOpener?, Text.trimStart, hname]
  have hleaf : pieces "leaf\n" = [.verbatim "leaf\n"] := by
    unfold pieces
    rw [show Text.lines "leaf\n" = [⟨"leaf", "\n"⟩] from rfl]
    simp +decide [pieces.go, Text.fenceStep, Text.fenceOpener?, Text.trimStart, hplain]
  have hparsed : (ResourceStore.insert {} "c" (.text "leaf\n")).parsed? false
      (Resource.resolveName none "c") = some { body := "leaf\n" } := by
    rw [ResourceStore.parsed?_eq_some]
    exact ⟨"leaf\n", by simp [ResourceStore.insert, ResourceStore.read], rfl⟩
  obtain ⟨stats, hmerge⟩ := @Merge.merge_eq_placeAll _ [] {} hm
    (by simp [Metadata.WellFormed, Value.WellFormed]) (by decide) (by decide) rfl
  -- the resource imports nothing and brings no front matter; merging it succeeds
  have hrun : ∃ x, (expandImports (ResourceStore.insert {} "c" (.text "leaf\n")) {} "@import c\n"
      [("locale", .str "en")] none []).run {} = .ok x := by
    rw [expandImports_run, hdoc, expandPieces_directive_run,
      importResource_parsed (by simp) (by decide) hparsed, expandImports_run, hleaf]
    simp [ImportOptions.mergeInto, hmerge, bind, Except.bind]
  obtain ⟨⟨⟨out, m'⟩, log⟩, hx⟩ := hrun
  have hok : ∃ r, resolveImports "@import c\n" [("locale", .str "en")]
      (ResourceStore.insert {} "c" (.text "leaf\n")) {} = .ok r :=
    ⟨_, resolveImports_eq_ok.mpr ⟨out, m', log, hx, rfl⟩⟩
  obtain ⟨r, hr⟩ := hok
  refine ⟨rfl, rfl, hm, r, hr, ?_⟩
  rw [(resolveImports_metadata _ _ _ {} rfl rfl hm hr).2.2.1 "locale" (by decide)]
  rfl

end Covenant
