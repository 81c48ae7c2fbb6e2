import Covenant.Proofs.Import.Graph
/-!
# The resolver, one step at a time

What each function of the import resolver does in one step, said of its run from any log, so
that later proofs follow the resolver's recursion without unfolding it:

* expanding a body is expanding its pieces from an empty output;
* a copied piece goes to the output;
* a directive imports its resource, merges the imported metadata (when merging is on),
  reports the import, and goes on with the rest;
* importing a resource already on the chain is a cycle, importing below the depth limit is
  refused, a resource that cannot be read or parsed fails, and any other is expanded one
  level deeper, with the resource at the end of the chain.
-/

namespace Covenant

namespace Except

variable {ε α β : Type} {x : Except ε α} {f : α → Except ε β}

theorem bind_eq_ok {b : β} (h : (x >>= f) = .ok b) : ∃ a, x = .ok a ∧ f a = .ok b := by
  cases x with
  | error e => cases h
  | ok a => exact ⟨a, rfl, h⟩

end Except

variable {store : ResourceStore} {opts : ImportOptions} {log : ImportLog}
  {m : Metadata} {importer : Option String} {chain : List String} {out : String}

theorem expandImports_run (content : String) :
    (expandImports store opts content m importer chain).run log =
      (expandPieces store opts (pieces content) "" m importer chain).run log := by
  rw [expandImports]

@[simp] theorem expandPieces_nil_run :
    (expandPieces store opts [] out m importer chain).run log = .ok ((out, m), log) := by
  rw [expandPieces]
  rfl

@[simp] theorem expandPieces_verbatim_run (s : String) (ps : List Piece) :
    (expandPieces store opts (.verbatim s :: ps) out m importer chain).run log =
      (expandPieces store opts ps (out ++ s) m importer chain).run log := by
  rw [expandPieces]

/-- A directive imports its resource, merges its metadata, reports it, and goes on. -/
theorem expandPieces_directive_run (name ending : String) (ps : List Piece) :
    (expandPieces store opts (.directive name ending :: ps) out m importer chain).run log =
      ((importResource store opts (Resource.resolveName importer name) chain).run log >>=
        fun ((body, child), log₁) => opts.mergeInto m child >>= fun (m', stats) =>
          (expandPieces store opts ps
            (out ++ body ++ if !body.isEmpty && !body.endsWith "\n" then ending else "")
            m' importer chain).run
            { log₁ with reports := log₁.reports ++
                [⟨Resource.resolveName importer name, importer, stats⟩] }) := by
  rw [expandPieces]
  simp [StateT.run_bind, liftM, StateT.run_modify]

section Import

variable {path : String}

/-- Importing a resource that is being expanded is a cycle, reported with the chain. -/
theorem importResource_cycle (h : path ∈ chain) :
    (importResource store opts path chain).run log =
      .error (.importCycle path (" -> ".intercalate (chain ++ [path]))) := by
  rw [importResource, if_pos (List.elem_iff.mpr h)]
  rfl

/-- Importing below the depth limit is refused. -/
theorem importResource_tooDeep (h : path ∉ chain) (hd : opts.maxDepth ≤ chain.length) :
    (importResource store opts path chain).run log =
      .error (.importDepthExceeded path opts.maxDepth) := by
  rw [importResource, if_neg (mt List.elem_iff.mp h), dif_pos hd]
  rfl

/-- A resource that is read and parsed is expanded one level deeper, the warnings of its front
matter kept with its name. -/
theorem importResource_parsed (h : path ∉ chain) (hd : chain.length < opts.maxDepth)
    {parsed : Parsed} (hp : store.parsed? opts.strictMetadata path = some parsed) :
    (importResource store opts path chain).run log =
      (expandImports store opts parsed.body parsed.metadata (some path) (chain ++ [path])).run
        { log with warnings := log.warnings ++ parsed.warnings.map (path ++ ": " ++ ·) } := by
  obtain ⟨text, hread, hparse⟩ := ResourceStore.parsed?_eq_some.mp hp
  rw [importResource, if_neg (mt List.elem_iff.mp h), dif_neg (Nat.not_le.mpr hd)]
  simp [hread, hparse, StateT.run_bind, liftM, StateT.run_modify]
  rfl

/-- A resource that cannot be read, or whose front matter does not parse, fails the import. -/
theorem importResource_unparsed (h : path ∉ chain) (hd : chain.length < opts.maxDepth)
    (hp : store.parsed? opts.strictMetadata path = none) :
    ∃ e, (importResource store opts path chain).run log = .error e := by
  rw [importResource, if_neg (mt List.elem_iff.mp h), dif_neg (Nat.not_le.mpr hd)]
  unfold ResourceStore.parsed? at hp
  split at hp
  · rename_i text hread
    cases hparse : parseFrontMatter text opts.strictMetadata with
    | error e =>
        refine ⟨e, ?_⟩
        simp [hread, hparse, StateT.run_bind, liftM]
        rfl
    | ok parsed => simp [hparse, Except.toOption] at hp
  · rename_i reason hread
    cases reason with
    | notFound => exact ⟨_, by simp [hread, StateT.run_bind]; rfl⟩
    | failed r => exact ⟨_, by simp [hread, StateT.run_bind]; rfl⟩

/-- **Inverting a successful import.**  A resource imported with success was not on the chain,
lay above the depth limit, was read and parsed, and was expanded with success one level
deeper. -/
theorem importResource_ok {r : (String × Metadata) × ImportLog}
    (h : (importResource store opts path chain).run log = .ok r) :
    path ∉ chain ∧ chain.length < opts.maxDepth ∧ ∃ parsed log',
      store.parsed? opts.strictMetadata path = some parsed ∧
      (expandImports store opts parsed.body parsed.metadata (some path) (chain ++ [path])).run log' =
        .ok r := by
  by_cases hc : path ∈ chain
  · rw [importResource_cycle hc] at h
    cases h
  by_cases hd : opts.maxDepth ≤ chain.length
  · rw [importResource_tooDeep hc hd] at h
    cases h
  have hd' := Nat.lt_of_not_le hd
  cases hp : store.parsed? opts.strictMetadata path with
  | none =>
      obtain ⟨e, he⟩ : ∃ e, (importResource store opts path chain).run log = .error e :=
        importResource_unparsed hc hd' hp
      rw [he] at h
      cases h
  | some parsed =>
      rw [importResource_parsed hc hd' hp] at h
      exact ⟨hc, hd', parsed, _, rfl, h⟩

end Import

/-- A successful resolution is the expansion of the document's body from an empty chain and
an empty log. -/
theorem resolveImports_eq_ok {content : String} {r : ResolvedImports} :
    resolveImports content m store opts = .ok r ↔
      ∃ out m' log, (expandImports store opts content m none []).run {} = .ok ((out, m'), log) ∧
        r = ⟨out, m', log.reports, log.warnings⟩ := by
  unfold resolveImports
  cases (expandImports store opts content m none []).run {} with
  | error e => simp [bind, Except.bind]
  | ok x =>
      obtain ⟨⟨out, m'⟩, log⟩ := x
      simp only [bind, Except.bind, pure, Except.pure, Except.ok.injEq]
      constructor
      · rintro rfl
        exact ⟨out, m', log, rfl, rfl⟩
      · rintro ⟨_, _, _, ⟨⟩, rfl⟩
        rfl

end Covenant
