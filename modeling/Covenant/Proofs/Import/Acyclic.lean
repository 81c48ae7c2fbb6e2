import Covenant.Proofs.Import.Steps
import Covenant.Proofs.Merge.Result
import Covenant.Proofs.FrontMatter.WellFormed
/-!
# Imports resolve exactly when the import graph is acyclic and shallow

The resolver walks the import graph depth first, keeping the resources being expanded as a
chain.  It never remembers a resource it has finished, so a resource imported along several
paths (a diamond) is expanded once per path, and is no cycle.  What it checks is the chain:
a resource already on it is a cycle, and a chain as long as the depth limit takes no more.

Every walk of the graph is a chain the resolver builds, so:

* a successful resolution fits every walk into the chain: no walk repeats a resource or has
  more resources than the depth limit (`walks_fit_of_ok`);
* when every resource the walks reach can be read, parses and nests within the depth limit,
  and merging has budget, the resolver either succeeds or fails on a walk that does not fit:
  a cycle, reported with the walk that closes it, or a walk one resource past the limit
  (`ok_or_walk_fails`).

Together they give `resolveImports_succeeds_iff_acyclic`.  That resolution ends at all is
built into the resolver, defined by well-founded recursion on the room left below the depth
limit.
-/

namespace Covenant

/-- A chain of resources the resolver accepts: none twice, and no more than the depth limit. -/
def ImportOptions.Fits (opts : ImportOptions) (chain : List String) : Prop :=
  chain.Nodup ∧ chain.length ≤ opts.maxDepth

/-- Every resource reachable from `ts` can be read, its front matter parses with the strictness
in force, and its metadata nests within the depth limit. -/
def ImportsReadable (store : ResourceStore) (strict : Bool) (ts : List String) : Prop :=
  ∀ p, ImportReachable store strict ts p →
    ∃ parsed, store.parsed? strict p = some parsed ∧ parsed.metadata.depth ≤ Merge.maxDepth

/-- How resolving fails on a walk from `ts` ending in `p`, after the chain `chain`: `p` is on
the chain already (a cycle, reported with the chain that closes it), or the chain is full. -/
def ImportFailure (store : ResourceStore) (opts : ImportOptions) (chain ts : List String)
    (e : DocError) : Prop :=
  ∃ w p, ImportWalk store opts.strictMetadata ts (w ++ [p]) ∧
    ((p ∈ chain ++ w ∧ e = .importCycle p (" -> ".intercalate (chain ++ w ++ [p]))) ∨
      ((chain ++ w).length = opts.maxDepth ∧ e = .importDepthExceeded p opts.maxDepth))

/-- What resolving comes to when every reachable resource is readable: a result whose metadata
is well formed and within the depth limit, or a failure on a walk. -/
def ImportOutcome (store : ResourceStore) (opts : ImportOptions) (chain ts : List String)
    (x : Except DocError ((String × Metadata) × ImportLog)) : Prop :=
  (∃ out m log, x = .ok ((out, m), log) ∧ m.WellFormed ∧ m.depth ≤ Merge.maxDepth) ∨
    ∃ e, x = .error e ∧ ImportFailure store opts chain ts e

variable {store : ResourceStore} {opts : ImportOptions} {strict : Bool}
  {chain ts ts' : List String} {path : String}

namespace ImportsReadable

theorem mono (h : ImportsReadable store strict ts') (hts : ts ⊆ ts') :
    ImportsReadable store strict ts :=
  fun p hp => h p (hp.mono hts)

/-- The first resource of a walk is readable. -/
theorem head (h : ImportsReadable store strict [path]) :
    ∃ parsed, store.parsed? strict path = some parsed ∧ parsed.metadata.depth ≤ Merge.maxDepth :=
  h path .self

/-- What a resource's body reaches, the resource reaches. -/
theorem below (h : ImportsReadable store strict [path]) {parsed : Parsed}
    (hp : store.parsed? strict path = some parsed) :
    ImportsReadable store strict (importTargets (some path) parsed.body) :=
  fun q hq => h q (.below hp hq)

/-- Resources closed under imports, each readable and nesting within the depth limit, make
everything reachable from them readable. -/
theorem of_closed (S : List String) (hts : ts ⊆ S)
    (hS : ∀ p ∈ S, ∃ parsed, store.parsed? strict p = some parsed ∧
      parsed.metadata.depth ≤ Merge.maxDepth ∧ importTargets (some p) parsed.body ⊆ S) :
    ImportsReadable store strict ts := by
  have hclosed : ∀ p ∈ S, ∀ parsed, store.parsed? strict p = some parsed →
      importTargets (some p) parsed.body ⊆ S := by
    intro p hp parsed hparsed
    obtain ⟨parsed', hparsed', -, hsub⟩ := hS p hp
    rw [hparsed, Option.some.injEq] at hparsed'
    exact hparsed' ▸ hsub
  rintro p ⟨w, hw, hp⟩
  obtain ⟨parsed, hparsed, hdepth, -⟩ := hS p (hw.subset_of_closed hts hclosed hp)
  exact ⟨parsed, hparsed, hdepth⟩

end ImportsReadable

namespace ImportFailure

theorem mono (h : ImportFailure store opts chain ts e) (hts : ts ⊆ ts') :
    ImportFailure store opts chain ts' e := by
  obtain ⟨w, p, hw, hcase⟩ := h
  exact ⟨w, p, hw.mono hts, hcase⟩

/-- A failure below a resource is a failure of a walk through it, one resource shorter on the
chain. -/
theorem cons {parsed : Parsed} (hp : store.parsed? opts.strictMetadata path = some parsed)
    (h : ImportFailure store opts (chain ++ [path]) (importTargets (some path) parsed.body) e) :
    ImportFailure store opts chain [path] e := by
  obtain ⟨w, q, hw, hcase⟩ := h
  refine ⟨path :: w, q, .cons List.mem_cons_self hp hw, ?_⟩
  simpa [List.append_assoc] using hcase

end ImportFailure

theorem ImportOutcome.mono {x : Except DocError ((String × Metadata) × ImportLog)}
    (h : ImportOutcome store opts chain ts x) (hts : ts ⊆ ts') :
    ImportOutcome store opts chain ts' x :=
  h.imp_right fun ⟨e, hx, hfail⟩ => ⟨e, hx, hfail.mono hts⟩

/-- A resource off a chain that has room extends it to a chain the resolver accepts. -/
theorem ImportOptions.fits_append (hnd : chain.Nodup) (hc : path ∉ chain)
    (hd : chain.length < opts.maxDepth) : opts.Fits (chain ++ [path]) := by
  refine ⟨?_, by simp; omega⟩
  rw [List.nodup_append]
  refine ⟨hnd, List.nodup_singleton path, ?_⟩
  intro a ha b hb
  rw [List.mem_singleton.mp hb]
  exact fun hap => hc (hap ▸ ha)

/-- Importing merges well-formed metadata within the depth limit into well-formed metadata
within the depth limit, when merging has budget. -/
theorem ImportOptions.mergeInto_ok (hb : opts.merge.budget.spent = false) {m child : Metadata}
    (hm : m.WellFormed) (hmd : m.depth ≤ Merge.maxDepth) (hc : child.WellFormed)
    (hcd : child.depth ≤ Merge.maxDepth) :
    ∃ m' stats, opts.mergeInto m child = .ok (m', stats) ∧ m'.WellFormed ∧
      m'.depth ≤ Merge.maxDepth := by
  unfold ImportOptions.mergeInto
  split
  · obtain ⟨stats, h⟩ := Merge.merge_eq_placeAll hm hc hmd
      (Nat.le_trans (Merge.depth_keptSource_le _ _) hcd) hb
    obtain ⟨hwf, hd, -⟩ := Merge.merge_result_leaves hm hc h
    exact ⟨_, stats, h, hwf, hd⟩
  · exact ⟨m, {}, rfl, hm, hmd⟩

/-- The step at an import, for success: the resource extends the chain, and every walk on from
its body extends it further. -/
theorem walks_fit_import
    (ih : ∀ parsed : Parsed, ∀ log r,
      (expandImports store opts parsed.body parsed.metadata (some path) (chain ++ [path])).run log =
        .ok r → (chain ++ [path]).Nodup →
      ∀ w, ImportWalk store opts.strictMetadata (importTargets (some path) parsed.body) w →
        opts.Fits (chain ++ [path] ++ w))
    {log : ImportLog} {r : (String × Metadata) × ImportLog}
    (h : (importResource store opts path chain).run log = .ok r) (hnd : chain.Nodup) :
    ∀ w, ImportWalk store opts.strictMetadata [path] w → opts.Fits (chain ++ w) := by
  obtain ⟨hc, hd, parsed, log', hparsed, hexp⟩ := importResource_ok h
  have hfits := ImportOptions.fits_append hnd hc hd
  intro w hw
  rcases importWalk_singleton_iff.mp hw with rfl | ⟨parsed', w', hparsed', rfl, hw'⟩
  · exact hfits
  · -- the walk goes on through the body the resolver read
    rw [hparsed, Option.some.injEq] at hparsed'
    subst hparsed'
    simpa [List.append_assoc] using ih parsed log' r hexp hfits.1 w' hw'

/-- **What success says of the walks.**  If resolving succeeds from a chain without repeats,
every walk from what is being expanded extends the chain to one the resolver accepts: no walk
revisits a resource of the chain or of itself, and none is longer than the room left. -/
theorem walks_fit_of_ok :
    (∀ content m importer chain log r,
      (expandImports store opts content m importer chain).run log = .ok r → chain.Nodup →
      ∀ w, ImportWalk store opts.strictMetadata (importTargets importer content) w →
        opts.Fits (chain ++ w)) ∧
    (∀ ps out m importer chain log r,
      (expandPieces store opts ps out m importer chain).run log = .ok r → chain.Nodup →
      ∀ w, ImportWalk store opts.strictMetadata (Piece.targets importer ps) w →
        opts.Fits (chain ++ w)) ∧
    (∀ path chain log r,
      (importResource store opts path chain).run log = .ok r → chain.Nodup →
      ∀ w, ImportWalk store opts.strictMetadata [path] w → opts.Fits (chain ++ w)) := by
  refine expandImports.mutual_induct store opts _ _ _ ?expand ?nil ?verbatim ?directive
    ?cycle ?tooDeep ?read ?notFound ?failed
  case expand =>
    intro content m importer chain ih log r h hnd w hw
    rw [expandImports_run] at h
    exact ih log r h hnd w hw
  case nil =>
    intro out m importer chain log r _ _ w hw
    exact absurd hw not_importWalk_nil
  case verbatim =>
    intro s ps out m importer chain ih log r h hnd w hw
    rw [expandPieces_verbatim_run] at h
    exact ih log r h hnd w hw
  case directive =>
    intro name ending ps out m importer chain path ih₁ ih₂ log r h hnd w hw
    rw [expandPieces_directive_run] at h
    obtain ⟨⟨⟨body, child⟩, log₁⟩, h₁, h⟩ := Except.bind_eq_ok h
    obtain ⟨⟨m', stats⟩, -, h₂⟩ := Except.bind_eq_ok h
    -- a walk starts at this directive's resource or at a later one
    rcases importWalk_cons_iff.mp hw with hw | hw
    · exact ih₁ log _ h₁ hnd w hw
    · exact ih₂ body m' _ r h₂ hnd w hw
  case cycle =>
    intro path chain hc log r h
    exact absurd (List.elem_iff.mp hc) (importResource_ok h).1
  case tooDeep =>
    intro path chain _ hd log r h
    exact absurd (importResource_ok h).2.1 (Nat.not_lt.mpr hd)
  case read =>
    intro path chain _ _ _ _ ih log r h
    exact walks_fit_import ih h
  case notFound =>
    intro path chain _ _ _ ih log r h
    exact walks_fit_import ih h
  case failed =>
    intro path chain _ _ _ _ ih log r h
    exact walks_fit_import ih h

/-- The step at an import, when every reachable resource is readable: a cycle or a full chain
fails on the walk to the resource, and any other import comes to what its body does one level
deeper. -/
theorem outcome_import
    (ih : ∀ parsed : Parsed, ∀ log, opts.Fits (chain ++ [path]) → parsed.metadata.WellFormed →
      parsed.metadata.depth ≤ Merge.maxDepth →
      ImportsReadable store opts.strictMetadata (importTargets (some path) parsed.body) →
      ImportOutcome store opts (chain ++ [path]) (importTargets (some path) parsed.body)
        ((expandImports store opts parsed.body parsed.metadata (some path)
          (chain ++ [path])).run log))
    (log : ImportLog) (hfits : opts.Fits chain)
    (hread : ImportsReadable store opts.strictMetadata [path]) :
    ImportOutcome store opts chain [path] ((importResource store opts path chain).run log) := by
  have hend : ImportWalk store opts.strictMetadata [path] ([] ++ [path]) :=
    .single List.mem_cons_self
  by_cases hc : path ∈ chain
  · -- the walk to the resource closes a cycle
    rw [importResource_cycle hc]
    exact Or.inr ⟨_, rfl, [], path, hend, Or.inl ⟨by simpa using hc, by simp⟩⟩
  by_cases hd : opts.maxDepth ≤ chain.length
  · -- the walk to the resource is one past the limit
    rw [importResource_tooDeep hc hd]
    have := hfits.2
    exact Or.inr ⟨_, rfl, [], path, hend, Or.inr ⟨by simp; omega, rfl⟩⟩
  have hd' := Nat.lt_of_not_le hd
  obtain ⟨parsed, hparsed, hdepth⟩ := hread.head
  rw [importResource_parsed hc hd' hparsed]
  rcases ih parsed _ (ImportOptions.fits_append hfits.1 hc hd')
      (FrontMatter.parseFrontMatter_wellFormed (ResourceStore.parsed?_eq_some.mp hparsed).choose_spec.2)
      hdepth (hread.below hparsed) with hok | ⟨e, he, hfail⟩
  · exact Or.inl hok
  · exact Or.inr ⟨e, he, hfail.cons hparsed⟩

/-- **Success, or a walk that does not fit.**  When every resource reachable from what is
being expanded can be read, parses and nests within the depth limit, and merging has budget,
resolving from an accepted chain either succeeds, with well-formed metadata within the depth
limit, or fails on a walk: a cycle, or one resource past the limit. -/
theorem ok_or_walk_fails (hb : opts.merge.budget.spent = false) :
    (∀ content m importer chain log, opts.Fits chain → m.WellFormed →
      m.depth ≤ Merge.maxDepth →
      ImportsReadable store opts.strictMetadata (importTargets importer content) →
      ImportOutcome store opts chain (importTargets importer content)
        ((expandImports store opts content m importer chain).run log)) ∧
    (∀ ps out m importer chain log, opts.Fits chain → m.WellFormed →
      m.depth ≤ Merge.maxDepth →
      ImportsReadable store opts.strictMetadata (Piece.targets importer ps) →
      ImportOutcome store opts chain (Piece.targets importer ps)
        ((expandPieces store opts ps out m importer chain).run log)) ∧
    (∀ path chain log, opts.Fits chain → ImportsReadable store opts.strictMetadata [path] →
      ImportOutcome store opts chain [path] ((importResource store opts path chain).run log)) := by
  refine expandImports.mutual_induct store opts _ _ _ ?expand ?nil ?verbatim ?directive
    ?cycle ?tooDeep ?read ?notFound ?failed
  case expand =>
    intro content m importer chain ih log hfits hm hmd hread
    rw [expandImports_run]
    exact ih log hfits hm hmd hread
  case nil =>
    intro out m importer chain log _ hm hmd _
    exact Or.inl ⟨out, m, log, expandPieces_nil_run, hm, hmd⟩
  case verbatim =>
    intro s ps out m importer chain ih log hfits hm hmd hread
    rw [expandPieces_verbatim_run]
    exact ih log hfits hm hmd hread
  case directive =>
    intro name ending ps out m importer chain path ih₁ ih₂ log hfits hm hmd hread
    rw [Piece.targets_directive] at hread ⊢
    rw [expandPieces_directive_run]
    have hhead : [path] ⊆ path :: Piece.targets importer ps := by simp
    rcases ih₁ log hfits (hread.mono hhead) with ⟨body, child, log₁, h₁, hc, hcd⟩ | ⟨e, h₁, hfail⟩
    · -- the import succeeded: its metadata merges, and the rest goes on
      obtain ⟨m', stats, h₂, hm', hmd'⟩ := ImportOptions.mergeInto_ok hb hm hmd hc hcd
      rw [h₁]
      simp only [bind, Except.bind, h₂]
      exact (ih₂ body m' _ hfits hm' hmd' (hread.mono (List.subset_cons_self _ _))).mono
        (List.subset_cons_self _ _)
    · rw [h₁]
      exact Or.inr ⟨e, rfl, hfail.mono hhead⟩
  case cycle =>
    intro path chain hc log hfits hread
    rw [importResource_cycle (List.elem_iff.mp hc)]
    exact Or.inr ⟨_, rfl, [], path, .single List.mem_cons_self,
      Or.inl ⟨by simpa using List.elem_iff.mp hc, by simp⟩⟩
  case tooDeep =>
    intro path chain hc hd log hfits hread
    rw [importResource_tooDeep (mt List.elem_iff.mpr hc) hd]
    exact Or.inr ⟨_, rfl, [], path, .single List.mem_cons_self,
      Or.inr ⟨by simp; have := hfits.2; omega, rfl⟩⟩
  case read =>
    intro path chain _ _ _ _ ih log hfits hread
    exact outcome_import ih log hfits hread
  case notFound =>
    intro path chain _ _ _ ih log hfits hread
    exact outcome_import ih log hfits hread
  case failed =>
    intro path chain _ _ _ _ ih log hfits hread
    exact outcome_import ih log hfits hread

section Resolve

variable {content : String} {m : Metadata}

/-- Resolving succeeds exactly when expanding the document's body from an empty chain does. -/
theorem resolveImports_ok_iff : (∃ r, resolveImports content m store opts = .ok r) ↔
    ∃ x, (expandImports store opts content m none []).run {} = .ok x := by
  constructor
  · rintro ⟨r, hr⟩
    obtain ⟨out, m', log, hrun, -⟩ := resolveImports_eq_ok.mp hr
    exact ⟨_, hrun⟩
  · rintro ⟨⟨⟨out, m'⟩, log⟩, hrun⟩
    exact ⟨_, resolveImports_eq_ok.mpr ⟨out, m', log, hrun, rfl⟩⟩

/-- Resolving fails with the error of expanding the document's body from an empty chain. -/
theorem resolveImports_error_iff {e : DocError} : resolveImports content m store opts = .error e ↔
    (expandImports store opts content m none []).run {} = .error e := by
  unfold resolveImports
  cases (expandImports store opts content m none []).run {} with
  | error e' => simp [bind, Except.bind]
  | ok x => simp [bind, Except.bind, pure, Except.pure]

end Resolve

/-- A failure names a walk that the resolver cannot fit after its chain. -/
theorem ImportFailure.exists_walk_not_fits (h : ImportFailure store opts chain ts e) :
    ∃ w, ImportWalk store opts.strictMetadata ts w ∧ ¬ opts.Fits (chain ++ w) := by
  obtain ⟨w, p, hw, hcase⟩ := h
  refine ⟨w ++ [p], hw, ?_⟩
  rintro ⟨hnd, hlen⟩
  rcases hcase with ⟨hp, -⟩ | ⟨hfull, -⟩
  · -- `p` would occur twice
    rw [← List.append_assoc, List.nodup_append] at hnd
    exact hnd.2.2 p hp p (List.mem_singleton_self p) rfl
  · simp only [List.length_append, List.length_singleton] at hfull hlen
    omega

/-- **Resolution succeeds exactly on an acyclic, shallow import graph.**  Take a document whose
metadata is well formed and within the depth limit, a store from which every resource the
document reaches can be read, with front matter that parses and nests within the depth limit,
and merging with budget.  Resolving then succeeds exactly when no import path from the document
visits a resource twice or has more than `maxDepth` edges; and when it fails, the error is a
cycle, reported with an import path from the document that ends at a resource already on it,
or the depth limit, at a resource `maxDepth + 1` edges from the document.  A resource reached
along several paths is no cycle: only a path that comes back to its own resource is. -/
theorem resolveImports_succeeds_iff_acyclic (content : String) (m : Metadata)
    (store : ResourceStore) (opts : ImportOptions) (hm : m.WellFormed)
    (hmd : m.depth ≤ Merge.maxDepth) (hb : opts.merge.budget.spent = false)
    (hread : ImportsReadable store opts.strictMetadata (importTargets none content)) :
    ((∃ r, resolveImports content m store opts = .ok r) ↔
      ∀ w, ImportWalk store opts.strictMetadata (importTargets none content) w →
        w.Nodup ∧ w.length ≤ opts.maxDepth) ∧
    ∀ e, resolveImports content m store opts = .error e →
      ∃ w p, ImportWalk store opts.strictMetadata (importTargets none content) (w ++ [p]) ∧
        ((p ∈ w ∧ e = .importCycle p (" -> ".intercalate (w ++ [p]))) ∨
          (w.length = opts.maxDepth ∧ e = .importDepthExceeded p opts.maxDepth)) := by
  have houtcome := (ok_or_walk_fails hb).1 content m none [] {}
    ⟨List.nodup_nil, Nat.zero_le _⟩ hm hmd hread
  refine ⟨⟨?succeeds, ?fits⟩, ?fails⟩
  case succeeds =>
    rintro hok w hw
    obtain ⟨x, hx⟩ := resolveImports_ok_iff.mp hok
    simpa [ImportOptions.Fits] using walks_fit_of_ok.1 content m none [] {} x hx List.nodup_nil w hw
  case fits =>
    intro hfit
    rcases houtcome with ⟨out, m', log, hx, -⟩ | ⟨e, -, hfail⟩
    · exact resolveImports_ok_iff.mpr ⟨_, hx⟩
    · -- a failure names a walk that does not fit, and every walk fits
      obtain ⟨w, hw, hnot⟩ := hfail.exists_walk_not_fits
      exact absurd (by simpa [ImportOptions.Fits] using hfit w hw) hnot
  case fails =>
    intro e he
    rw [resolveImports_error_iff] at he
    rcases houtcome with ⟨out, m', log, hx, -⟩ | ⟨e', hx, hfail⟩
    · rw [hx] at he
      cases he
    · rw [hx] at he
      cases he
      simpa [ImportFailure] using hfail

/-- A resource imported twice by one document is resolved once per import, and is no cycle. -/
theorem resolveImports_imported_twice :
    Metadata.WellFormed [] ∧ Metadata.depth [] ≤ Merge.maxDepth ∧
    ({} : ImportOptions).merge.budget.spent = false ∧
    ImportsReadable (ResourceStore.insert {} "c" (.text "leaf\n")) false
      (importTargets none "@import c\n@import c\n") ∧
    ∃ r, resolveImports "@import c\n@import c\n" [] (ResourceStore.insert {} "c" (.text "leaf\n"))
      {} = .ok r := by
  have hname : importName? "@import c" = some "c" := by decide
  have hplain : importName? "leaf" = none := by decide
  have htargets : importTargets none "@import c\n@import c\n" =
      [Resource.resolveName none "c", Resource.resolveName none "c"] := by
    unfold importTargets pieces
    rw [show Text.lines "@import c\n@import c\n" = [⟨"@import c", "\n"⟩, ⟨"@import c", "\n"⟩]
      from rfl]
    simp +decide [pieces.go, Text.fenceStep, Text.fenceOpener?, Text.trimStart, hname]
  have hleaf : importTargets (some (Resource.resolveName none "c")) "leaf\n" = [] := by
    unfold importTargets pieces
    rw [show Text.lines "leaf\n" = [⟨"leaf", "\n"⟩] from rfl]
    simp +decide [pieces.go, Text.fenceStep, Text.fenceOpener?, Text.trimStart, hplain]
  have hparsed : (ResourceStore.insert {} "c" (.text "leaf\n")).parsed? false
      (Resource.resolveName none "c") = some { body := "leaf\n" } := by
    rw [ResourceStore.parsed?_eq_some]
    exact ⟨"leaf\n", by simp [ResourceStore.insert, ResourceStore.read], rfl⟩
  have hread : ImportsReadable (ResourceStore.insert {} "c" (.text "leaf\n")) false
      (importTargets none "@import c\n@import c\n") := by
    rw [htargets]
    refine ImportsReadable.of_closed [Resource.resolveName none "c"] (by simp) ?_
    intro p hp
    rw [List.mem_singleton.mp hp]
    exact ⟨_, hparsed, by decide, by simp [hleaf]⟩
  refine ⟨by simp [Metadata.WellFormed], by decide, rfl, hread, ?_⟩
  refine (resolveImports_succeeds_iff_acyclic _ [] _ {} (by simp [Metadata.WellFormed])
    (by decide) rfl hread).1.mpr ?_
  -- the only walk is the resource itself: its body imports nothing
  intro w hw
  rw [htargets, importWalk_cons_iff, or_self, importWalk_singleton_iff] at hw
  rcases hw with rfl | ⟨parsed, w', hparsed', -, hw'⟩
  · exact ⟨List.nodup_singleton _, by decide⟩
  · rw [hparsed, Option.some.injEq] at hparsed'
    subst hparsed'
    rw [hleaf] at hw'
    exact absurd hw' not_importWalk_nil

end Covenant
