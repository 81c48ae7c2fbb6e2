import Covenant.Import
/-!
# The import graph

The resources a document pulls in form a graph.  An edge leads from a resource to every
resource named by an `@import` line of its body outside code fences, the name resolved against
the importing resource; the document itself is the root and has no name.  A resource's body
is known only once the store yields it and its front matter parses with the strictness in
force (`ResourceStore.parsed?`), so a walk passes through such resources only.

`ImportWalk store strict ts w` says that `w` follows imports starting from one of the
resources `ts`: the first resource of `w` is one of `ts`, and each later one is imported by
the one before it.  The import paths of a document with body `content` are its walks from
`importTargets none content`; a path of `n` resources has `n` edges, the first from the
document itself.
-/

namespace Covenant

/-- A resource of the store read with the given strictness: its metadata and body, or nothing
when it cannot be read or its front matter does not parse. -/
def ResourceStore.parsed? (store : ResourceStore) (strict : Bool) (path : String) :
    Option Parsed :=
  match store.read path with
  | .ok text => (parseFrontMatter text strict).toOption
  | .error _ => none

/-- The resources pieces import, in order, each name resolved against the importer. -/
def Piece.targets (importer : Option String) : List Piece → List String
  | [] => []
  | .verbatim _ :: ps => Piece.targets importer ps
  | .directive name _ :: ps => Resource.resolveName importer name :: Piece.targets importer ps

/-- The resources a body imports: the edges of the import graph out of the resource the body
belongs to (out of the document when `importer` is none). -/
def importTargets (importer : Option String) (content : String) : List String :=
  Piece.targets importer (pieces content)

/-- `ImportWalk store strict ts w`: the resources `w` follow imports one after another, the
first being one of `ts`. -/
inductive ImportWalk (store : ResourceStore) (strict : Bool) : List String → List String → Prop
  | single {ts : List String} {p : String} : p ∈ ts → ImportWalk store strict ts [p]
  | cons {ts : List String} {p : String} {parsed : Parsed} {w : List String} :
      p ∈ ts → store.parsed? strict p = some parsed →
      ImportWalk store strict (importTargets (some p) parsed.body) w →
      ImportWalk store strict ts (p :: w)

/-- The resources reachable from `ts`: those on some walk. -/
def ImportReachable (store : ResourceStore) (strict : Bool) (ts : List String) (p : String) :
    Prop :=
  ∃ w, ImportWalk store strict ts w ∧ p ∈ w

namespace ImportWalk

variable {store : ResourceStore} {strict : Bool} {ts ts' w : List String} {p : String}

theorem exists_cons (h : ImportWalk store strict ts w) : ∃ p w', w = p :: w' ∧ p ∈ ts := by
  cases h with
  | single hp => exact ⟨_, [], rfl, hp⟩
  | cons hp _ _ => exact ⟨_, _, rfl, hp⟩

/-- A walk from some resources is a walk from any list holding them. -/
theorem mono (h : ImportWalk store strict ts w) (hts : ts ⊆ ts') : ImportWalk store strict ts' w := by
  cases h with
  | single hp => exact .single (hts hp)
  | cons hp hparsed hw => exact .cons (hts hp) hparsed hw

/-- A walk from a set of resources closed under imports stays in it. -/
theorem subset_of_closed {S : List String} (h : ImportWalk store strict ts w) (hts : ts ⊆ S)
    (hS : ∀ p ∈ S, ∀ parsed, store.parsed? strict p = some parsed →
      importTargets (some p) parsed.body ⊆ S) : w ⊆ S := by
  induction h with
  | single hp => exact List.cons_subset.mpr ⟨hts hp, List.nil_subset _⟩
  | cons hp hparsed _ ih =>
      have hpS := hts hp
      exact List.cons_subset.mpr ⟨hpS, ih (hS _ hpS _ hparsed)⟩

end ImportWalk

variable {store : ResourceStore} {strict : Bool} {ts ts' w : List String} {p : String}

@[simp] theorem not_importWalk_nil : ¬ ImportWalk store strict [] w := by
  intro h
  obtain ⟨p, w', -, hp⟩ := h.exists_cons
  cases hp

/-- The walks from one more resource are the walks from it and the walks from the others. -/
theorem importWalk_cons_iff :
    ImportWalk store strict (p :: ts) w ↔ ImportWalk store strict [p] w ∨ ImportWalk store strict ts w := by
  constructor
  · -- a walk's first resource is `p` or one of the others
    intro h
    cases h with
    | single hq =>
        rcases List.mem_cons.mp hq with rfl | hq
        · exact Or.inl (.single List.mem_cons_self)
        · exact Or.inr (.single hq)
    | cons hq hparsed hw =>
        rcases List.mem_cons.mp hq with rfl | hq
        · exact Or.inl (.cons List.mem_cons_self hparsed hw)
        · exact Or.inr (.cons hq hparsed hw)
  · rintro (h | h)
    · exact h.mono (by simp)
    · exact h.mono (List.subset_cons_self p ts)

/-- The walks from one resource: the resource alone, or the resource followed by a walk from
its body. -/
theorem importWalk_singleton_iff :
    ImportWalk store strict [p] w ↔
      w = [p] ∨ ∃ parsed w', store.parsed? strict p = some parsed ∧ w = p :: w' ∧
        ImportWalk store strict (importTargets (some p) parsed.body) w' := by
  constructor
  · intro h
    cases h with
    | single hp =>
        rw [List.mem_singleton.mp hp]
        exact Or.inl rfl
    | cons hp hparsed hw =>
        rw [List.mem_singleton.mp hp] at hparsed hw ⊢
        exact Or.inr ⟨_, _, hparsed, rfl, hw⟩
  · rintro (rfl | ⟨parsed, w', hparsed, rfl, hw⟩)
    · exact .single List.mem_cons_self
    · exact .cons List.mem_cons_self hparsed hw

namespace ImportReachable

theorem mono (h : ImportReachable store strict ts p) (hts : ts ⊆ ts') :
    ImportReachable store strict ts' p :=
  let ⟨w, hw, hp⟩ := h
  ⟨w, hw.mono hts, hp⟩

/-- A resource reaches itself. -/
theorem self : ImportReachable store strict [p] p :=
  ⟨[p], .single List.mem_cons_self, List.mem_cons_self⟩

/-- What a resource's body reaches, the resource reaches. -/
theorem below {parsed : Parsed} (hp : store.parsed? strict p = some parsed) {q : String}
    (h : ImportReachable store strict (importTargets (some p) parsed.body) q) :
    ImportReachable store strict [p] q :=
  let ⟨w, hw, hq⟩ := h
  ⟨p :: w, .cons List.mem_cons_self hp hw, List.mem_cons_of_mem _ hq⟩

end ImportReachable

@[simp] theorem Piece.targets_nil (importer : Option String) : Piece.targets importer [] = [] := rfl

@[simp] theorem Piece.targets_verbatim (importer : Option String) (s : String) (ps : List Piece) :
    Piece.targets importer (.verbatim s :: ps) = Piece.targets importer ps := rfl

@[simp] theorem Piece.targets_directive (importer : Option String) (name ending : String)
    (ps : List Piece) :
    Piece.targets importer (.directive name ending :: ps) =
      Resource.resolveName importer name :: Piece.targets importer ps := rfl

/-- A store's resource read with the strictness in force, spelled out. -/
theorem ResourceStore.parsed?_eq_some {parsed : Parsed} :
    store.parsed? strict p = some parsed ↔
      ∃ text, store.read p = .ok text ∧ parseFrontMatter text strict = .ok parsed := by
  unfold ResourceStore.parsed?
  split
  · rename_i text hread
    constructor
    · intro h
      refine ⟨text, hread, ?_⟩
      cases hp : parseFrontMatter text strict <;> simp_all [Except.toOption]
    · rintro ⟨text', htext, hp⟩
      rw [hread] at htext
      cases htext
      simp [hp, Except.toOption]
  · rename_i hread
    constructor
    · intro h
      cases h
    · rintro ⟨text, htext, -⟩
      rw [htext] at hread
      cases hread

end Covenant
