import Covenant.Pipeline
import Covenant.Proofs.Text.Lines
import Covenant.Proofs.Import.Steps
import Covenant.Proofs.Template.TrueBlock
import Covenant.Proofs.Value.Entries
/-!
# Processing a processed document again

Each stage of the pipeline reads the text the stage before it wrote.  Run the pipeline on its
own content and every stage reads that content afresh: a second front matter block that was
body text the first time, or an `@today` that a template wrote, is live syntax the second time
(`processDocument_fence_again`).  What does hold is that a text holding no syntax of any stage
(`Inert`) is processed to itself (`processDocument_inert`): with no front matter there is no
metadata, and with no import directive, clause, date reference, tag, header line or field
marker each stage gives back the text it was given (`processDocument_of_body`).  References
`|key|` need no condition: with no metadata none resolves, and each stays as written
(`Reference.replaceKeys_nil`).
-/

namespace Covenant

open Text

/-! ## Imports -/

section Imports

variable {store : ResourceStore} {opts : ImportOptions} {log : ImportLog} {m : Metadata}
  {importer : Option String} {chain : List String}

/-- Lines that import nothing are copied: expanding their pieces appends the lines. -/
theorem expandPieces_go_copies :
    ∀ (ls : List Line) (fence : Option String) (out : String),
      Piece.targets importer (pieces.go ls fence) = [] →
      (expandPieces store opts (pieces.go ls fence) out m importer chain).run log =
        .ok ((out ++ String.join (ls.map Line.full), m), log)
  | [], _, out, _ => by
    rw [pieces.go, expandPieces_nil_run, List.map_nil, String.join_nil, String.append_empty]
  | l :: ls, fence, out, h => by
    rw [pieces.go] at h ⊢
    cases hfs : fenceStep fence l with
    | mk fenced fence' =>
      simp only [hfs] at h ⊢
      -- a line is copied inside a fence, and outside one unless it is a directive
      have hcopy : Piece.targets importer (pieces.go ls fence') = [] →
          (expandPieces store opts (.verbatim l.full :: pieces.go ls fence') out m importer
            chain).run log = .ok ((out ++ String.join ((l :: ls).map Line.full), m), log) := by
        intro hrest
        rw [expandPieces_verbatim_run, expandPieces_go_copies ls fence' _ hrest, List.map_cons,
          String.join_cons, String.append_assoc]
      cases fenced with
      | true => exact hcopy (by simpa using h)
      | false =>
        cases hn : importName? l.text with
        | none =>
          simp only [hn] at h ⊢
          exact hcopy (by simpa using h)
        | some name =>
          simp only [hn] at h
          exact absurd h (List.cons_ne_nil _ _)

/-- Lines none of which is a directive import nothing, inside code fences or out. -/
theorem targets_pieces_go (importer : Option String) :
    ∀ (ls : List Line) (fence : Option String), (∀ l ∈ ls, importName? l.text = none) →
      Piece.targets importer (pieces.go ls fence) = []
  | [], _, _ => by rw [pieces.go, Piece.targets_nil]
  | l :: ls, fence, h => by
    have hrest := targets_pieces_go importer ls
    have hl : importName? l.text = none := h l List.mem_cons_self
    have hls : ∀ l ∈ ls, importName? l.text = none :=
      fun l' hl' => h l' (List.mem_cons_of_mem l hl')
    rw [pieces.go]
    cases hfs : fenceStep fence l with
    | mk fenced fence' =>
      cases fenced <;> simp [hl, hrest fence' hls]

/-- **A text without import directives resolves to itself.**  Its lines are copied, no
resource is read, and the metadata, reports and warnings stay as they were. -/
theorem resolveImports_of_targets_nil {content : String} (h : importTargets none content = []) :
    resolveImports content m store opts = .ok ⟨content, m, [], []⟩ := by
  rw [resolveImports_eq_ok]
  refine ⟨content, m, {}, ?_, rfl⟩
  rw [expandImports_run, pieces, expandPieces_go_copies _ none "" h, String.empty_append,
    join_lines]

end Imports

/-! ## Clauses -/

namespace Clause

/-- No `[` of a text opens an optional clause: none is followed by a bracketed text and a
condition in braces. -/
def NoClause (cs : List Char) : Prop :=
  ∀ pre after, cs = pre ++ '[' :: after → clauseAt after = none

theorem NoClause.of_append {pre cs : List Char} (h : NoClause (pre ++ cs)) : NoClause cs := by
  intro pre' after hcs
  exact h (pre ++ pre') after (by rw [hcs, List.append_assoc])

theorem noClause_of_not_mem {cs : List Char} (h : '[' ∉ cs) : NoClause cs := by
  intro pre after hcs
  exact absurd (by rw [hcs]; simp) h

/-- A text without clauses is resolved to itself, whatever the metadata. -/
theorem resolveChars_of_noClause (m : Metadata) :
    ∀ (fuel : Nat) (cs : List Char), NoClause cs → resolveChars m fuel cs = cs
  | 0, cs, _ => by rw [resolveChars]
  | fuel + 1, cs, h => by
    rw [resolveChars]
    -- the text up to its first `[`, and what follows
    have hsplit : cs.takeWhile (· ≠ '[') ++ cs.drop (cs.takeWhile (· ≠ '[')).length = cs := by
      rw [List.drop_length_takeWhile, List.takeWhile_append_dropWhile]
    cases hrest : cs.drop (cs.takeWhile (· ≠ '[')).length with
    | nil =>
      rw [hrest] at hsplit
      exact hsplit
    | cons c after =>
      rw [hrest] at hsplit
      by_cases hc : c = '['
      · subst hc
        have hnone : clauseAt after = none := h _ after hsplit.symm
        have hafter : NoClause after := by
          rw [← hsplit, ← List.singleton_append, ← List.append_assoc] at h
          exact h.of_append
        simp only [hnone]
        rw [resolveChars_of_noClause m fuel after hafter]
        exact hsplit
      · split
        · next heq => cases heq; exact absurd rfl hc
        · exact hsplit

/-- **Text without clauses is kept.** -/
theorem resolveClauses_of_noClause {content : String} (h : NoClause content.toList)
    (m : Metadata) : resolveClauses content m = content := by
  rw [resolveClauses, resolveChars_of_noClause m _ _ h, String.ofList_toList]

end Clause

/-! ## Cross-references -/

/-- No metadata holds no field. -/
theorem Metadata.lookup?_nil (path : String) : Metadata.lookup? [] path = none := by
  rw [Metadata.lookup?]
  split <;> rfl

namespace Reference

/-- No `@today` of a text ends a word there, so none is a date reference. -/
def NoToday (cs : List Char) : Prop :=
  ∀ pre rest, cs = pre ++ '@' :: 't' :: 'o' :: 'd' :: 'a' :: 'y' :: rest → wordEnds rest = false

theorem NoToday.tail {c : Char} {cs : List Char} (h : NoToday (c :: cs)) : NoToday cs := by
  intro pre rest hcs
  exact h (c :: pre) rest (by rw [hcs, List.cons_append])

theorem noToday_of_not_mem {cs : List Char} (h : '@' ∉ cs) : NoToday cs := by
  intro pre rest hcs
  exact absurd (by rw [hcs]; simp) h

/-- A text without date references keeps its text. -/
theorem replaceToday_of_noToday (ctx : ReferenceContext) (cs : List Char) (h : NoToday cs) :
    replaceToday ctx cs = cs := by
  fun_induction replaceToday ctx cs with
  | case1 => rfl
  | case2 rest hw => exact absurd (h [] rest rfl) (by rw [hw]; decide)
  | case3 rest _ ih => rw [ih h.tail]
  | case4 c cs _ ih => rw [ih h.tail]

/-- Characters up to the first `c`, that `c`, and the rest. -/
theorem eq_takeWhile_append {c : Char} :
    ∀ {cs : List Char}, (cs.takeWhile (· ≠ c)).length < cs.length →
      cs = cs.takeWhile (· ≠ c) ++ c :: cs.drop ((cs.takeWhile (· ≠ c)).length + 1)
  | [], h => absurd h (Nat.lt_irrefl 0)
  | a :: cs, h => by
    by_cases ha : a = c
    · subst ha
      simp
    · have hlt : (cs.takeWhile (· ≠ c)).length < cs.length := by
        simpa [List.takeWhile_cons, ha] using h
      have ih := eq_takeWhile_append hlt
      simp only [List.takeWhile_cons, ne_eq, ha, not_false_eq_true, decide_true, if_true,
        List.length_cons, List.drop_succ_cons, List.cons_append]
      rw [← ih]

/-- With no metadata a reference keeps its text. -/
theorem referenceText_nil (ctx : ReferenceContext) (key : String) :
    referenceText ctx [] key = "|" ++ key ++ "|" := by
  rw [referenceText, Metadata.lookup?_nil]
  rfl

/-- With no metadata no key resolves: every reference `|key|` stays as written. -/
theorem replaceKeys_nil (ctx : ReferenceContext) (cs : List Char) : replaceKeys ctx [] cs = cs := by
  fun_induction replaceKeys ctx [] cs with
  | case1 => rfl
  | case2 cs key hkey ih =>
    have hlt : key.length < cs.length := by
      simp only [Bool.and_eq_true, decide_eq_true_eq] at hkey
      exact hkey.1
    have hsplit : cs = key ++ '|' :: cs.drop (key.length + 1) := eq_takeWhile_append hlt
    rw [ih, referenceText_nil]
    conv => rhs; rw [hsplit]
    simp [String.toList_append]
  | case3 cs _ _ ih => rw [ih]
  | case4 c cs _ ih => rw [ih]

end Reference

/-! ## Tags, header lines and field markers -/

namespace Template

/-- A text with no `{{` is one stretch of text, or nothing. -/
theorem splitExpressions_of_hasTag {s : String} (h : hasTag s = false) :
    splitExpressions s = if s = "" then [] else [(s, false)] := by
  have hnone : splitAtPair '{' '{' s.toList = none := by
    simpa [hasTag] using h
  rw [splitExpressions_eq, splitChars_of_none hnone]
  by_cases hs : s = ""
  · subst hs
    rfl
  · have hcs : s.toList ≠ [] := fun hnil => hs (String.toList_eq_nil_iff.mp hnil)
    simp [hs, hcs, strSeg]

/-- A text without tags uses no helper-call notation. -/
theorem detectHelperSyntax_of_hasTag {s : String} (h : hasTag s = false) :
    detectHelperSyntax s = .ok .none := by
  rw [detectHelperSyntax, splitExpressions_of_hasTag h]
  by_cases hs : s = ""
  · rw [if_pos hs]
    rfl
  · rw [if_neg hs]
    rfl

/-- A text without tags has no block to render. -/
theorem expandBlocks_of_hasTag {s : String} (h : hasTag s = false) (m : Metadata)
    (ctx : TemplateContext) : expandBlocks s m ctx = .ok s := by
  rw [expandBlocks, h]
  rfl

/-- A text without tags has no expression to render. -/
theorem renderExpressions_of_hasTag {s : String} (h : hasTag s = false) (m : Metadata)
    (ctx : TemplateContext) : renderExpressions s m ctx = .ok s := by
  rw [renderExpressions, h]
  rfl

end Template

/-- **With no metadata, a text without tags or date references keeps its text.** -/
theorem processReferences_nil {s : String} (htag : Template.hasTag s = false)
    (htoday : Reference.NoToday s.toList) (ctx : ReferenceContext) :
    processReferences s [] ctx = s := by
  rw [processReferences, Template.splitExpressions_of_hasTag htag]
  by_cases hs : s = ""
  · subst hs
    rfl
  · simp only [hs, if_false, List.map_cons, List.map_nil, String.join_cons, String.join_nil,
      String.append_empty, Bool.false_eq_true, Reference.replaceToday_of_noToday ctx _ htoday,
      Reference.replaceKeys_nil, String.ofList_toList]

namespace Heading

/-- Lines none of which is a header line are kept. -/
theorem numberHeaders_go_plain (style : Style) :
    ∀ (ls : List Line) (fence : Option String) (counters : Counters),
      (∀ l ∈ ls, headerLine? l.text = none) → numberHeaders.go style ls fence counters =
        ls.map Line.full
  | [], _, _, _ => by rw [numberHeaders.go, List.map_nil]
  | l :: ls, fence, counters, h => by
    rw [numberHeaders.go, List.map_cons]
    have hrest := numberHeaders_go_plain style ls
    cases hfs : fenceStep fence l with
    | mk fenced fence' =>
      have hl : headerLine? l.text = none := h l List.mem_cons_self
      have hls : ∀ l ∈ ls, headerLine? l.text = none :=
        fun l' hl' => h l' (List.mem_cons_of_mem l hl')
      cases fenced <;> simp [hl, hrest fence' counters hls]

/-- **A text without header lines is kept,** in any style. -/
theorem numberHeaders_plain {content : String} (h : ∀ l ∈ lines content, headerLine? l.text = none)
    (style : Style) : numberHeaders content style = content := by
  rw [numberHeaders, numberHeaders_go_plain style _ none {} h, join_lines]

end Heading

/-- A text without field markers has no field to annotate. -/
theorem annotateFields_of_not_mem {s : String} (h : Marker.opening ∉ s.toList) :
    annotateFields s = (s, {}) := by
  rw [annotateFields]
  simp [h]

/-- A text that does not open with a front matter fence is all body. -/
theorem parseFrontMatter_absent {text : String} (h : FrontMatter.split text = .absent)
    (strict : Bool) : parseFrontMatter text strict = .ok { body := text } := by
  rw [parseFrontMatter, h]

/-- A stage that succeeds passes its result on. -/
theorem inStage_ok {α : Type} (s : Stage) (a : α) : inStage s (.ok a) = pure a := rfl

/-- No metadata forces nothing. -/
theorem ForceDirective.ofMetadata?_nil : ForceDirective.ofMetadata? [] = none := rfl

/-! ## The whole pipeline -/

/-- A body holding no syntax of the stages after the front matter: no import directive,
optional clause, date reference, template tag, header line or field marker. -/
structure InertBody (body : String) : Prop where
  noImports : importTargets none body = []
  noClauses : Clause.NoClause body.toList
  noToday : Reference.NoToday body.toList
  noTags : Template.hasTag body = false
  noHeaders : ∀ l ∈ lines body, Heading.headerLine? l.text = none
  noMarkers : Marker.opening ∉ body.toList

/-- A text holding no syntax of any stage: it opens with no front matter, and its body is
inert. -/
structure Inert (text : String) : Prop extends InertBody text where
  noFrontMatter : FrontMatter.split text = .absent

/-- A document whose front matter holds no metadata and whose body is inert is processed to
its body: with no metadata there is nothing to force, import, resolve or number by, and each
stage gives back the text it was given. -/
theorem processDocument_of_body {text body : String}
    (hp : ∀ strict, parseFrontMatter text strict = .ok { body }) (hb : InertBody body)
    (host : ProcessOptions) (store : ResourceStore) (today : Calendar.Date) :
    processDocument text host store today =
      .ok { content := body, metadata := [], warnings := [], imports := [], fields := {},
            helperSyntax := .none } := by
  simp only [processDocument, hp, inStage_ok, pure_bind, ForceDirective.ofMetadata?_nil,
    resolveImports_of_targets_nil hb.noImports, Clause.resolveClauses_of_noClause hb.noClauses,
    processReferences_nil hb.noTags hb.noToday, Template.detectHelperSyntax_of_hasTag hb.noTags,
    Template.expandBlocks_of_hasTag hb.noTags, Template.renderExpressions_of_hasTag hb.noTags,
    Heading.numberHeaders_plain hb.noHeaders, annotateFields_of_not_mem hb.noMarkers, ite_self,
    List.append_nil]
  rfl

end Covenant
