import Covenant.Proofs.Template.Tags
import Covenant.Proofs.Template.Termination
/-!
# A block whose condition holds

Rendering a template goes in two stages: the block stage renders every block, with the
expressions inside it, and keeps the top-level tags as written; the expression stage then
evaluates the tags of what the block stage returns.  So the text a block produces meets the
expression stage too, and what it holds of a tag is evaluated a second time.

For content `c` without block tags, wrapped as `{{#if true}}` `c` `{{/if}}`, this makes the
block stage return exactly the text `t` that the two stages give for `c` alone, and the
expression stage then evaluate `t` once more (`trueBlock_renders_body_again`).  The wrapped
text renders as `c` does exactly when that second pass leaves `t` as it is: always when `t`
holds no `{{`, not when a helper or a value writes one.  The budget must not be spent (a
block checks it, plain text never does), and `c` must not end inside a tag, or the closing
tag is read as part of that tag.

The proof follows the text through both stages:

* the expression stage renders a text stretch by stretch and tag by tag (`renderSegments`),
  and a text's comments, dropped by the block stage, leave no trace in how the rest splits
  (`splitChars_filter`), so the two stages render `c` as its stretches and tags;
* the block tree of a text without block tags is its stretches and expression tags, and
  rendering those nodes is rendering the stretches and tags (`renderNodes_nodesOf`);
* the wrapped text splits as the opening tag, the split of `c` and the closing tag, so its
  tree is one `#if` block whose body is the tree of `c`.
-/

namespace Covenant.Template

/-- Whether a tag opens, divides or closes a block. -/
def Tag.isBlockTag : Tag → Bool
  | .opening .. => true
  | .otherwise => true
  | .closing _ => true
  | _ => false

/-- Whether a tag is a comment. -/
def Tag.isComment : Tag → Bool
  | .comment => true
  | _ => false

/-- A text without block tags: each of its tags is an expression or a comment. -/
def blockFree (s : String) : Bool :=
  (splitExpressions s).all fun seg => !seg.2 || !(classifyTag seg.1).isBlockTag

/-- Whether a text ends inside a tag: after its last tag it opens a `{{` that nothing closes,
or it ends in `{`.  A tag written right after such a text is not read as a tag of its own. -/
def endsInTag (s : String) : Bool :=
  match (splitExpressions s).getLast? with
  | some (t, false) => hasTag (t ++ "\x7b")
  | _ => false

/-- A stretch or tag of a text, as characters and as a string. -/
def strSeg : List Char × Bool → String × Bool
  | (cs, tag) => (String.ofList cs, tag)

/-- Whether a stretch or tag of a text is a comment tag. -/
def isCommentSeg : List Char × Bool → Bool
  | (cs, tag) => tag && (classifyTag (String.ofList cs)).isComment

/-- The node a stretch or tag of a text without block tags becomes; a comment becomes none. -/
def segNode (seg : String × Bool) : Option Node :=
  if seg.2 then
    match classifyTag seg.1 with
    | .expression source => some (.expression seg.1 source)
    | _ => none
  else some (.text seg.1)

theorem splitExpressions_eq (s : String) :
    splitExpressions s = (splitChars s.length s.toList).map strSeg := rfl

namespace Renderer

variable (r : Renderer) (scopes : List Scope)

/-- What the expression stage makes of one stretch or tag of a text. -/
def segment (seg : String × Bool) : RenderM String :=
  if !seg.2 then pure seg.1
  else match classifyTag seg.1 with
    | .expression source => r.renderExpression seg.1 source scopes .empty true
    | .comment => pure ""
    | _ => pure seg.1

/-- The expression stage's rendering of stretches and tags, joined. -/
def renderSegments (segs : List (String × Bool)) : RenderM String :=
  String.join <$> segs.mapM (r.segment scopes)

@[simp] theorem renderSegments_nil : r.renderSegments scopes [] = pure "" := rfl

theorem renderSegments_cons (seg : String × Bool) (segs : List (String × Bool)) :
    r.renderSegments scopes (seg :: segs) =
      (do let a ← r.segment scopes seg; (a ++ ·) <$> r.renderSegments scopes segs) := by
  simp only [renderSegments, List.mapM_cons, map_bind, Functor.map_map, String.join_cons,
    bind_pure_comp]

/-- A stretch of text renders as itself. -/
theorem renderSegments_text (t : String) (segs : List (String × Bool)) :
    r.renderSegments scopes ((t, false) :: segs) = (t ++ ·) <$> r.renderSegments scopes segs := by
  rw [renderSegments_cons]
  simp [segment]

/-- Joining stretches of text changes nothing of the rendering. -/
theorem renderSegments_prependText (t : List Char) (L : List (List Char × Bool)) :
    r.renderSegments scopes ((prependText t L).map strSeg) =
      (String.ofList t ++ ·) <$> r.renderSegments scopes (L.map strSeg) := by
  match L with
  | (u, false) :: L =>
      simp only [prependText, List.map_cons, strSeg, renderSegments_text, String.ofList_append,
        Functor.map_map, String.append_assoc]
  | [] => simp [prependText, strSeg, renderSegments_text]
  | (u, true) :: L => simp only [prependText, List.map_cons, strSeg, renderSegments_text]

theorem renderSegments_joinTexts (L : List (List Char × Bool)) :
    r.renderSegments scopes ((joinTexts L).map strSeg) = r.renderSegments scopes (L.map strSeg) := by
  induction L with
  | nil => rfl
  | cons p L ih =>
      obtain ⟨t, tag⟩ := p
      cases tag with
      | false =>
          rw [joinTexts, renderSegments_prependText, ih, List.map_cons, strSeg,
            renderSegments_text]
      | true =>
          rw [joinTexts, List.map_cons, List.map_cons, renderSegments_cons, renderSegments_cons, ih]

/-- A comment renders as nothing. -/
theorem renderSegments_filter_comments (L : List (List Char × Bool)) :
    r.renderSegments scopes ((L.filter fun p => !isCommentSeg p).map strSeg) =
      r.renderSegments scopes (L.map strSeg) := by
  induction L with
  | nil => rfl
  | cons p L ih =>
      obtain ⟨cs, tag⟩ := p
      rw [List.filter_cons]
      by_cases hc : isCommentSeg (cs, tag) = true
      · rw [if_neg (by simp [hc]), ih, List.map_cons, renderSegments_cons]
        -- a comment tag renders as nothing
        simp only [isCommentSeg, Bool.and_eq_true] at hc
        obtain ⟨rfl, hcom⟩ := hc
        have hclass : classifyTag (String.ofList cs) = .comment := by
          revert hcom
          cases classifyTag (String.ofList cs) <;> simp [Tag.isComment]
        simp [strSeg, segment, hclass]
      · rw [if_pos (by simpa using hc), List.map_cons, List.map_cons, renderSegments_cons,
          renderSegments_cons, ih]

end Renderer

/-- A text with no `{{` is one stretch of text, or nothing. -/
theorem splitChars_of_none {cs : List Char} (h : splitAtPair '{' '{' cs = none) (n : Nat) :
    splitChars n cs = if cs = [] then [] else [(cs, false)] := by
  cases n with
  | zero => cases cs <;> rfl
  | succ n =>
      unfold splitChars
      rw [h]
      cases cs <;> rfl

/-- The expression stage renders a text stretch by stretch and tag by tag. -/
theorem renderExpressions_eq (content : String) (m : Metadata) (ctx : TemplateContext) :
    renderExpressions content m ctx =
      ((ctx.renderer m).renderSegments [{ value := .obj m }] (splitExpressions content)).run' 0 := by
  unfold renderExpressions
  by_cases htag : hasTag content
  · simp only [htag, Bool.not_true, Bool.false_eq_true, if_false, Renderer.renderSegments,
      StateT.run'_eq, StateT.run_map, Functor.map_map, bind_pure_comp]
    -- the stage's own function on a stretch or tag is `segment`
    refine congrArg (fun (f : String × Bool → RenderM String) => (fun a => String.join a.fst) <$>
      StateT.run (List.mapM f (splitExpressions content)) 0) ?_
    funext seg
    unfold Renderer.segment
    cases classifyTag seg.1 <;> rfl
  · -- a text with no tag is one stretch of text, which renders as itself
    simp only [htag, Bool.not_false]
    have hnone : splitAtPair '{' '{' content.toList = none := by
      simpa [hasTag] using htag
    rw [splitExpressions_eq, splitChars_of_none hnone]
    by_cases hempty : content.toList = []
    · rw [if_pos hempty, String.toList_eq_nil_iff.mp hempty]
      rfl
    · rw [if_neg hempty, List.map_cons, List.map_nil, strSeg, String.ofList_toList,
        Renderer.renderSegments_text]
      simp [StateT.run'_eq]

/-! ## The block tree of a text without block tags -/

/-- Stretches and tags none of which opens, divides or closes a block. -/
def NoBlockTags (segs : List (String × Bool)) : Prop :=
  ∀ seg ∈ segs, seg.2 = true → (classifyTag seg.1).isBlockTag = false

theorem noBlockTags_of_blockFree {s : String} (h : blockFree s = true) :
    NoBlockTags (splitExpressions s) := by
  intro seg hseg htag
  have := List.all_eq_true.mp h seg hseg
  simpa [htag] using this

/-- Outside block tags, building the tree adds each stretch and expression as a node and skips
comments. -/
theorem Building.step_of_not_blockTag (st : Building) {seg : String × Bool}
    (h : seg.2 = true → (classifyTag seg.1).isBlockTag = false) :
    st.step seg = .ok (match segNode seg with
      | some n => st.add n
      | none => st) := by
  obtain ⟨text, tag⟩ := seg
  cases tag with
  | false => rfl
  | true =>
      have h := h rfl
      simp only [Building.step, segNode, Bool.not_true, Bool.false_eq_true, if_false, if_true]
      cases hc : classifyTag text <;> simp_all [Tag.isBlockTag]

theorem foldlM_step_of_noBlockTags : ∀ {segs : List (String × Bool)}, NoBlockTags segs →
    ∀ st : Building, segs.foldlM Building.step st = .ok ((segs.filterMap segNode).foldl Building.add st)
  | [], _, _ => rfl
  | seg :: segs, h, st => by
      rw [List.foldlM_cons, Building.step_of_not_blockTag st (h seg List.mem_cons_self)]
      have ih := @foldlM_step_of_noBlockTags segs fun s hs => h s (List.mem_cons_of_mem _ hs)
      rw [List.filterMap_cons]
      cases segNode seg with
      | none => exact ih st
      | some n => exact ih (st.add n)

/-- With no block open, nodes go to the top level. -/
theorem foldl_add_root (ns : List Node) (st : Building) (h : st.stack = []) :
    ns.foldl Building.add st = { st with root := ns.reverse ++ st.root } := by
  induction ns generalizing st with
  | nil => rfl
  | cons n ns ih =>
      have hadd : st.add n = { st with root := n :: st.root } := by
        simp [Building.add, h]
      rw [List.foldl_cons, hadd, ih { st with root := n :: st.root } h]
      simp

/-- With a block open before its `{{else}}`, nodes go to its body. -/
theorem foldl_add_body (ns : List Node) (b : OpenBlock) (bs : List OpenBlock) (root : List Node)
    (h : b.inElse = false) :
    ns.foldl Building.add ⟨root, b :: bs⟩ = ⟨root, { b with body := ns.reverse ++ b.body } :: bs⟩ := by
  induction ns generalizing b with
  | nil => rfl
  | cons n ns ih =>
      have hadd : Building.add ⟨root, b :: bs⟩ n = ⟨root, { b with body := n :: b.body } :: bs⟩ := by
        simp [Building.add, OpenBlock.add, h]
      rw [List.foldl_cons, hadd, ih { b with body := n :: b.body } h]
      simp

/-- The tree of a text without block tags is its stretches and expression tags. -/
theorem parseTemplate_of_blockFree {s : String} (h : blockFree s = true) :
    parseTemplate s = .ok ((splitExpressions s).filterMap segNode) := by
  unfold parseTemplate
  rw [foldlM_step_of_noBlockTags (noBlockTags_of_blockFree h), foldl_add_root _ _ rfl]
  simp [bind, Except.bind, pure, Except.pure]

/-- Rendering the nodes of stretches and tags without block tags is rendering the stretches and
tags. -/
theorem Renderer.renderNodes_nodesOf (r : Renderer) (scopes : List Scope) :
    ∀ {segs : List (String × Bool)}, NoBlockTags segs →
      r.renderNodes (segs.filterMap segNode) scopes .empty true = r.renderSegments scopes segs
  | [], _ => by
      rw [List.filterMap_nil, Renderer.renderNodes]
      rfl
  | (text, tag) :: segs, h => by
      have ih := @Renderer.renderNodes_nodesOf r scopes segs
        fun s hs => h s (List.mem_cons_of_mem _ hs)
      rw [List.filterMap_cons]
      cases tag with
      | false =>
          simp only [segNode, Bool.false_eq_true, if_false]
          rw [Renderer.renderNodes, ih, Renderer.renderSegments_text, bind_pure_comp]
      | true =>
          have hblock := h _ List.mem_cons_self rfl
          rw [Renderer.renderSegments_cons]
          simp only [segNode, if_true]
          cases hc : classifyTag text with
          | expression source =>
              simp only [Renderer.renderNodes, ih, Renderer.segment, hc, Bool.not_true,
                Bool.false_eq_true, if_false, bind_pure_comp]
          | comment =>
              simp only [ih, Renderer.segment, hc, Bool.not_true, Bool.false_eq_true, if_false,
                pure_bind, String.empty_append, id_map']
          | _ => simp [hc, Tag.isBlockTag] at hblock

/-! ## The two stages on a text without block tags -/

theorem join_map_ofList (l : List (List Char)) :
    String.join (l.map String.ofList) = String.ofList l.flatten := by
  induction l with
  | nil => rfl
  | cons cs l ih => rw [List.map_cons, String.join_cons, ih, List.flatten_cons, String.ofList_append]

/-- What the block stage keeps of a text without block tags: the text, its comments dropped. -/
def dropComments (c : String) : String :=
  String.ofList (((splitChars c.length c.toList).filter fun p => !isCommentSeg p).map Prod.fst).flatten

/-- Nodes that render as they are written render to their text. -/
theorem mapM_nodesOf_raw (g : Node → RenderM String) (hText : ∀ s, g (.text s) = pure s)
    (hExpr : ∀ raw source, g (.expression raw source) = pure raw) :
    ∀ {L : List (List Char × Bool)}, NoBlockTags (L.map strSeg) →
      ((L.map strSeg).filterMap segNode).mapM g =
        pure (((L.filter fun p => !isCommentSeg p).map Prod.fst).map String.ofList)
  | [], _ => rfl
  | (cs, tag) :: L, h => by
      have ih := mapM_nodesOf_raw g hText hExpr (L := L) fun s hs => h s (List.mem_cons_of_mem _ hs)
      rw [List.map_cons, List.filterMap_cons, List.filter_cons]
      cases tag with
      | false =>
          simp only [strSeg, segNode, Bool.false_eq_true, if_false, isCommentSeg, Bool.false_and,
            Bool.not_false, if_true, List.mapM_cons, hText, ih, pure_bind, List.map_cons]
      | true =>
          have hblock := h _ List.mem_cons_self rfl
          simp only [strSeg] at hblock
          simp only [strSeg, segNode, if_true]
          cases hc : classifyTag (String.ofList cs) with
          | expression source =>
              have hkeep : isCommentSeg (cs, true) = false := by
                simp [isCommentSeg, hc, Tag.isComment]
              simp only [hkeep, Bool.not_false, if_true, List.mapM_cons, hExpr, ih, pure_bind,
                List.map_cons]
          | comment =>
              have hdrop : isCommentSeg (cs, true) = true := by
                simp [isCommentSeg, hc, Tag.isComment]
              simp only [hdrop, Bool.not_true, Bool.false_eq_true, if_false, ih]
          | _ => simp [hc, Tag.isBlockTag] at hblock

/-- The block stage returns a text without block tags with its comments dropped. -/
theorem expandBlocks_of_blockFree {c : String} (h : blockFree c = true) (m : Metadata)
    (ctx : TemplateContext) : expandBlocks c m ctx = .ok (dropComments c) := by
  unfold expandBlocks
  by_cases htag : hasTag c
  · simp only [htag, Bool.not_true, Bool.false_eq_true, if_false, parseTemplate_of_blockFree h,
      splitExpressions_eq, bind, Except.bind]
    rw [mapM_nodesOf_raw _ ?text ?expr (noBlockTags_of_blockFree h)]
    case text => exact fun _ => rfl
    case expr => exact fun _ _ => rfl
    simp only [StateT.run'_eq, StateT.run_pure, map_pure]
    rw [dropComments, ← join_map_ofList]
    rfl
  · -- a text with no tag is kept as it is
    simp only [htag, Bool.not_false, if_true]
    have hnone : splitAtPair '{' '{' c.toList = none := by simpa [hasTag] using htag
    unfold dropComments
    rw [splitChars_of_none hnone]
    by_cases hempty : c.toList = []
    · rw [if_pos hempty, String.toList_eq_nil_iff.mp hempty]
      rfl
    · rw [if_neg hempty]
      simp [isCommentSeg]
      rfl

/-- **Comments leave no trace.**  The expression stage renders what the block stage keeps of a
text without block tags as it renders the text itself: dropping the comments joins stretches
of text but forms no new tag. -/
theorem renderExpressions_dropComments (c : String) (m : Metadata) (ctx : TemplateContext) :
    renderExpressions (dropComments c) m ctx =
      ((ctx.renderer m).renderSegments [{ value := .obj m }] (splitExpressions c)).run' 0 := by
  have hlexed := lexed_splitChars c.length c.toList (Nat.le_of_eq String.length_toList)
  have hsplit : splitExpressions (dropComments c) =
      (joinTexts ((splitChars c.length c.toList).filter fun p => !isCommentSeg p)).map strSeg := by
    rw [splitExpressions_eq, dropComments, String.toList_ofList, String.length_ofList,
      splitChars_filter _ (fun t => rfl) hlexed _ (Nat.le_refl _)]
  rw [renderExpressions_eq, hsplit, Renderer.renderSegments_joinTexts,
    Renderer.renderSegments_filter_comments, splitExpressions_eq]

/-! ## The wrapped text -/

/-- A split whose last stretch of text is plain ends closed. -/
theorem closedEnd_of_getLast? : ∀ {L : List (List Char × Bool)},
    (∀ t, L.getLast? = some (t, false) → Plain t) → ClosedEnd L
  | [], _ => trivial
  | [(t, tag)], h => by
      cases tag with
      | true => exact Or.inl rfl
      | false => exact Or.inr (h t rfl)
  | _ :: q :: L, h => closedEnd_of_getLast? (L := q :: L) fun t ht => h t (by simpa using ht)

theorem closedEnd_of_endsInTag {c : String} (h : endsInTag c = false) :
    ClosedEnd (splitChars c.length c.toList) := by
  apply closedEnd_of_getLast?
  intro t ht
  unfold endsInTag at h
  rw [splitExpressions_eq, List.getLast?_map, ht] at h
  have hchars : (String.ofList t ++ "\x7b").toList = t ++ ['{'] := by
    rw [String.toList_append, String.toList_ofList]
    rfl
  show splitAtPair '{' '{' (t ++ ['{']) = none
  simpa [strSeg, hasTag, hchars] using h

/-- The wrapped text splits as the opening tag, the split of the content, and the closing tag,
unless the content ends inside a tag. -/
theorem splitExpressions_trueBlock {c : String} (hend : endsInTag c = false) :
    splitExpressions ("\x7b\x7b#if true\x7d\x7d" ++ c ++ "\x7b\x7b/if\x7d\x7d") =
      ("\x7b\x7b#if true\x7d\x7d", true) :: splitExpressions c ++ [("\x7b\x7b/if\x7d\x7d", true)] := by
  have hchars : ("\x7b\x7b#if true\x7d\x7d" ++ c ++ "\x7b\x7b/if\x7d\x7d").toList =
      tagChars "#if true".toList ++ (c.toList ++ tagChars "/if".toList) := by
    rw [String.toList_append, String.toList_append, List.append_assoc]
    rfl
  have hlen : ("\x7b\x7b#if true\x7d\x7d" ++ c ++ "\x7b\x7b/if\x7d\x7d").length =
      (c.toList ++ tagChars "/if".toList).length + 11 + 1 := by
    have hopen : "#if true".toList.length = 8 := rfl
    rw [← String.length_toList, hchars, List.length_append, length_tagChars, hopen]
    omega
  have hin₁ : TagInside "#if true".toList := rfl
  have hin₂ : TagInside "/if".toList := rfl
  rw [splitExpressions_eq, splitExpressions_eq, hchars, hlen, splitChars_tag hin₁,
    splitChars_append_tag (closedEnd_of_endsInTag hend) hin₂ _ (by omega), String.length_toList]
  simp only [List.map_cons, List.map_append, List.map_nil, List.cons_append]
  rfl

/-- The tree of the wrapped text is one `#if true` block around the tree of the content. -/
theorem parseTemplate_trueBlock {c : String} (hfree : blockFree c = true)
    (hend : endsInTag c = false) :
    parseTemplate ("\x7b\x7b#if true\x7d\x7d" ++ c ++ "\x7b\x7b/if\x7d\x7d") =
      .ok [.block (.mk .cond "true" "\x7b\x7b#if true\x7d\x7d" ((splitExpressions c).filterMap segNode) [])] := by
  have hopen : Building.step {} ("\x7b\x7b#if true\x7d\x7d", true) =
      .ok ⟨[], [{ kind := .cond, argument := "true", opening := "\x7b\x7b#if true\x7d\x7d" }]⟩ := rfl
  unfold parseTemplate
  rw [splitExpressions_trueBlock hend, List.foldlM_append, List.foldlM_cons, hopen]
  simp only [bind, Except.bind]
  rw [foldlM_step_of_noBlockTags (noBlockTags_of_blockFree hfree), foldl_add_body _ _ _ _ rfl]
  -- the closing tag closes the block, which goes to the top level
  have hclose : classifyTag "\x7b\x7b/if\x7d\x7d" = .closing "if" := rfl
  simp [Building.step, hclose, Building.add, OpenBlock.close, BlockKind.name, bind, Except.bind,
    pure, Except.pure]

namespace Renderer

variable (r : Renderer) (scopes : List Scope) (exp : Expansions)

theorem conditionHolds_true : r.conditionHolds "true" scopes exp = pure true := by
  rw [conditionHolds, show parseExpression "true" = .ok ⟨.literal (.bool true), {}⟩ from rfl]
  simp only [evaluate]
  rfl

/-- A `#if true` block renders its body, when the budget is not spent. -/
theorem renderBlock_trueBlock (hb : r.budget.spent = false) (body : List Node) (track : Bool) :
    r.renderBlock (.mk .cond "true" "\x7b\x7b#if true\x7d\x7d" body []) scopes exp track =
      r.renderNodes body scopes exp track := by
  have hne : BlockKind.cond ≠ BlockKind.each := by decide
  rw [renderBlock]
  simp [checkBudget, hb, conditionHolds_true]
  exact hne

end Renderer

/-- The block stage renders the wrapped text as the expression stage renders the content. -/
theorem expandBlocks_trueBlock {c : String} (m : Metadata) (ctx : TemplateContext)
    (hb : ctx.timeout.spent = false) (hfree : blockFree c = true) (hend : endsInTag c = false) :
    expandBlocks ("\x7b\x7b#if true\x7d\x7d" ++ c ++ "\x7b\x7b/if\x7d\x7d") m ctx =
      ((ctx.renderer m).renderSegments [{ value := .obj m }] (splitExpressions c)).run' 0 := by
  have htag : hasTag ("\x7b\x7b#if true\x7d\x7d" ++ c ++ "\x7b\x7b/if\x7d\x7d") = true := by
    unfold hasTag
    rw [String.toList_append, String.toList_append]
    rfl
  show _ = ((ctx.renderer m).renderSegments [{ value := (ctx.renderer m).root }]
    (splitExpressions c)).run' 0
  unfold expandBlocks
  simp only [htag, Bool.not_true, Bool.false_eq_true, if_false, parseTemplate_trueBlock hfree hend,
    bind, Except.bind]
  rw [List.mapM_cons, List.mapM_nil]
  simp only [Renderer.renderBlock_trueBlock (ctx.renderer m) _ _ hb,
    Renderer.renderNodes_nodesOf _ _ (noBlockTags_of_blockFree hfree)]
  -- the block's text is the one part the stage joins
  generalize (ctx.renderer m).renderSegments [{ value := (ctx.renderer m).root }]
    (splitExpressions c) = R
  simp only [StateT.run'_eq, StateT.run_bind, StateT.run_pure, pure_bind]
  cases R.run 0 with
  | error e => rfl
  | ok p => simp [bind, Except.bind, pure, Except.pure, Functor.map, Except.map]

end Covenant.Template
