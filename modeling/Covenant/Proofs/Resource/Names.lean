import Covenant.Import
import Covenant.Proofs.Text.Lines
/-!
# Resolved names are normal, and resolving them is stable

A name is in normal form when it is empty or each of its `/`-separated segments is proper:
neither empty nor `.` nor `..`. A normal name thus has no leading, trailing or doubled `/`.

Resolution keeps a stack of segments. Its step `pushSegment` keeps every segment on the stack
proper and free of `/` (`pushSegment_proper`), so every resolved name is normal
(`resolveName_normal`). On proper segments the step only pushes, so resolving a normal name
from the root gives it back (`resolveName_of_normal`). A relative name is resolved from the
importer's directory (everything before its last `/`) exactly as the name
`directory importer ++ "/" ++ name` is from the root (`resolveName_relative`). The main
statement (`names_resolve_to_normal_form`) gathers these: a store fills its entries under
resolved names, imports look them up under resolved names, and the two keys meet.
-/

namespace Covenant.Resource

/-! ## Normal names -/

/-- A segment that resolution keeps: not empty, `.` or `..`. -/
def ProperSegment (seg : List Char) : Prop :=
  seg ≠ [] ∧ seg ≠ ['.'] ∧ seg ≠ ['.', '.']

instance (seg : List Char) : Decidable (ProperSegment seg) :=
  inferInstanceAs (Decidable (_ ∧ _ ∧ _))

/-- A name in normal form: empty, or with only proper `/`-separated segments. -/
def Normal (name : String) : Prop :=
  name = "" ∨ ∀ seg ∈ name.toList.splitOn '/', ProperSegment seg

instance (name : String) : Decidable (Normal name) :=
  haveI := List.decidableBAll ProperSegment (name.toList.splitOn '/')
  inferInstanceAs (Decidable (name = "" ∨ _))

example : Normal "clauses/nda.md" ∧ ¬ Normal "clauses//nda.md" ∧ ¬ Normal "/nda.md" := by
  decide

/-- Proper segments without `/`, joined by `/`, make a normal name. -/
theorem normal_intercalate {segs : List (List Char)}
    (h : ∀ s ∈ segs, ProperSegment s ∧ '/' ∉ s) :
    Normal (String.ofList (['/'].intercalate segs)) := by
  cases segs with
  | nil => exact Or.inl rfl
  | cons s rest =>
    right
    rw [String.toList_ofList, List.splitOn_intercalate '/' (fun l hl => (h l hl).2) (by simp)]
    exact fun seg hseg => (h seg hseg).1

/-! ## The segment stack -/

/-- The step keeps the stack made of proper segments without `/`. -/
theorem pushSegment_proper {acc : List (List Char)} {seg : List Char}
    (hacc : ∀ s ∈ acc, ProperSegment s ∧ '/' ∉ s) (hseg : '/' ∉ seg) :
    ∀ s ∈ pushSegment acc seg, ProperSegment s ∧ '/' ∉ s := by
  intro s hs
  unfold pushSegment at hs
  split at hs
  · exact hacc s hs
  · rename_i hskip
    split at hs
    · exact hacc s (List.mem_of_mem_drop hs)
    · rename_i hup
      -- a segment that is pushed is neither skipped nor `..`
      rcases List.mem_cons.mp hs with rfl | hs
      · exact ⟨⟨fun h => hskip (Or.inl h), fun h => hskip (Or.inr h), hup⟩, hseg⟩
      · exact hacc s hs

/-- A run of steps over segments without `/` keeps the stack made of proper segments. -/
theorem foldl_pushSegment_proper {segs : List (List Char)} (hsegs : ∀ seg ∈ segs, '/' ∉ seg) :
    ∀ {acc : List (List Char)}, (∀ s ∈ acc, ProperSegment s ∧ '/' ∉ s) →
      ∀ s ∈ segs.foldl pushSegment acc, ProperSegment s ∧ '/' ∉ s := by
  induction segs with
  | nil => exact fun hacc => hacc
  | cons seg segs ih =>
    intro acc hacc
    rw [List.foldl_cons]
    exact ih (fun s hs => hsegs s (List.mem_cons_of_mem _ hs))
      (pushSegment_proper hacc (hsegs seg List.mem_cons_self))

/-- A proper segment is pushed. -/
theorem pushSegment_of_proper {seg : List Char} (h : ProperSegment seg)
    (acc : List (List Char)) :
    pushSegment acc seg = seg :: acc := by
  obtain ⟨hne, hdot, hup⟩ := h
  simp [pushSegment, hne, hdot, hup]

/-- Proper segments are all pushed, in order. -/
theorem foldl_pushSegment_of_proper {segs : List (List Char)}
    (h : ∀ s ∈ segs, ProperSegment s) (acc : List (List Char)) :
    segs.foldl pushSegment acc = segs.reverse ++ acc := by
  induction segs generalizing acc with
  | nil => rfl
  | cons seg segs ih =>
    rw [List.foldl_cons, pushSegment_of_proper (h seg List.mem_cons_self),
      ih (fun s hs => h s (List.mem_cons_of_mem _ hs))]
    simp

/-! ## Resolving -/

/-- From the root, a name is resolved from its own segments alone. -/
theorem resolveName_none (name : String) :
    resolveName none name =
      String.ofList
        (['/'].intercalate ((name.toList.splitOn '/').foldl pushSegment []).reverse) := by
  have hbase :
      (if name.toList.head? = some '/' then "" else (none.map directory).getD "") = "" := by
    split <;> rfl
  simp only [resolveName, hbase]
  rfl

/-- A relative name is resolved from the importer's directory. -/
theorem resolveName_some (importer name : String) (h : name.toList.head? ≠ some '/') :
    resolveName (some importer) name =
      String.ofList (['/'].intercalate
        (((directory importer).toList.splitOn '/' ++ name.toList.splitOn '/').foldl
          pushSegment []).reverse) := by
  simp only [resolveName, if_neg h]
  rfl

/-- Every resolved name is normal. -/
theorem resolveName_normal (importer : Option String) (name : String) :
    Normal (resolveName importer name) := by
  refine normal_intercalate fun s hs => ?_
  refine foldl_pushSegment_proper (fun seg hseg => ?_) (by simp) s (List.mem_reverse.mp hs)
  -- every segment comes from a split at `/`, of the base or of the name
  rcases List.mem_append.mp hseg with hseg | hseg <;> exact List.not_mem_of_mem_splitOn hseg

/-- Resolving a normal name from the root gives it back. -/
theorem resolveName_of_normal {name : String} (h : Normal name) : resolveName none name = name := by
  rcases h with rfl | h
  · decide
  · rw [resolveName_none, foldl_pushSegment_of_proper h, List.append_nil, List.reverse_reverse,
      List.intercalate_splitOn, String.ofList_toList]

/-- Resolving is idempotent: a resolved name resolves to itself from the root. -/
theorem resolveName_resolveName (importer : Option String) (name : String) :
    resolveName none (resolveName importer name) = resolveName importer name :=
  resolveName_of_normal (resolveName_normal importer name)

/-- A relative name resolves from the importer as its path from the root does. -/
theorem resolveName_relative (importer name : String) (h : name.toList.head? ≠ some '/') :
    resolveName (some importer) name = resolveName none (directory importer ++ "/" ++ name) := by
  have hchars : (directory importer ++ "/" ++ name).toList =
      (directory importer).toList ++ '/' :: name.toList := by
    simp
  rw [resolveName_some importer name h, resolveName_none, hchars, List.splitOn_append_cons_self]

/-! ## Directories -/

/-- Reading a name backwards for its last `/` passes over a run without `/`. -/
theorem dropWhile_ne_slash_append {cs : List Char} (h : '/' ∉ cs) (rest : List Char) :
    (cs.reverse ++ rest).dropWhile (· ≠ '/') = rest.dropWhile (· ≠ '/') :=
  List.dropWhile_append_of_pos fun c hc => by
    have hc : c ≠ '/' := fun hc' => h (List.mem_reverse.mp (hc' ▸ hc))
    simpa using hc

/-- The directory of a name is everything before its last `/`. -/
theorem directory_append {dir rest : String} (h : '/' ∉ rest.toList) :
    directory (dir ++ "/" ++ rest) = dir := by
  have hchars : (dir ++ "/" ++ rest).toList.reverse =
      rest.toList.reverse ++ '/' :: dir.toList.reverse := by
    simp
  rw [directory, hchars, dropWhile_ne_slash_append h]
  simp

/-- A name without `/` has no directory. -/
theorem directory_of_not_mem {name : String} (h : '/' ∉ name.toList) : directory name = "" := by
  have hdrop := dropWhile_ne_slash_append h []
  rw [List.append_nil] at hdrop
  rw [directory, hdrop]
  rfl

/-! ## Stores and imports meet -/

/-- The entry a store adds last is the one read under its key. -/
theorem lookup_filter_append_self (entries : List (String × Resource)) (key : String)
    (r : Resource) : (entries.filter (·.1 ≠ key) ++ [(key, r)]).lookup key = some r := by
  have hnone : (entries.filter (·.1 ≠ key)).lookup key = none := by
    rw [List.lookup_eq_none_iff]
    intro p hp
    have hne : p.1 ≠ key := by simpa using (List.mem_filter.mp hp).2
    exact bne_iff_ne.mpr (Ne.symm hne)
  rw [List.lookup_append, hnone]
  simp

/-- A store reads back a text under the normal name it was stored under. -/
theorem read_insert_of_normal (st : ResourceStore) {key : String} (h : Normal key) (s : String) :
    (st.insert key (.text s)).read key = .ok s := by
  have hkey : resolveName none key = key := resolveName_of_normal h
  simp only [ResourceStore.insert, ResourceStore.read]
  rw [hkey, lookup_filter_append_self]

/-- **Resolved names are normal, and resolving them is stable.** Every resolved name is in
normal form; resolving a normal name from the root gives it back; a relative name resolves
from an importer as the importer's directory (everything before its last `/`) followed by
`/` and the name does from the root; resolving is idempotent, so a text stored under the name
an import resolves to is read back under that name. -/
theorem names_resolve_to_normal_form :
    (∀ importer name, Normal (resolveName importer name)) ∧
    (∀ name, Normal name → resolveName none name = name) ∧
    (∀ importer name, name.toList.head? ≠ some '/' →
      resolveName (some importer) name = resolveName none (directory importer ++ "/" ++ name)) ∧
    (∀ dir rest, '/' ∉ rest.toList → directory (dir ++ "/" ++ rest) = dir) ∧
    (∀ name, '/' ∉ name.toList → directory name = "") ∧
    (∀ importer name,
      resolveName none (resolveName importer name) = resolveName importer name) ∧
    (∀ (st : ResourceStore) importer name s,
      (st.insert (resolveName importer name) (.text s)).read (resolveName importer name) =
        .ok s) :=
  ⟨resolveName_normal, fun _ h => resolveName_of_normal h, resolveName_relative,
    fun _ _ h => directory_append h, fun _ h => directory_of_not_mem h, resolveName_resolveName,
    fun st importer name s => read_insert_of_normal st (resolveName_normal importer name) s⟩

/-- A name with a `.` and a `..` segment, imported from a nested resource. -/
theorem names_resolve_to_normal_form_nested :
    "./d/../e.md".toList.head? ≠ some '/' ∧
      resolveName (some "a/b/c.md") "./d/../e.md" =
        resolveName none ("a/b" ++ "/" ++ "./d/../e.md") ∧
      resolveName (some "a/b/c.md") "./d/../e.md" = "a/b/e.md" := by
  have hrel : "./d/../e.md".toList.head? ≠ some '/' := by decide
  refine ⟨hrel, ?_, by decide⟩
  rw [names_resolve_to_normal_form.2.2.1 "a/b/c.md" "./d/../e.md" hrel,
    show directory "a/b/c.md" = "a/b" by decide]

end Covenant.Resource
