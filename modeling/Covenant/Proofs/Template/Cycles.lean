import Covenant.Proofs.Template.Independence
/-!
# Values that refer to themselves

A path whose value is a string holding a tag is rendered by rendering that string as a
template, with the path's printed key pushed on the stack of variables being expanded.  A key
already on the stack is a cycle, and a stack already `maxResolveDepth` deep is too deep: the
expansion is refused, the reference stays as written, and the count of cycles met goes up by
one.  Refusing an expansion is the one thing that raises the count, so an evaluation is cyclic
exactly when the count moved on the way (`evaluate_cyclic_iff`); a call, a ternary or a block
condition that met a cycle anywhere inside it then stays as written, or counts as false.

For values that form a cycle `k₁ → k₂ → … → kₙ → k₁` (`ValueCycle`), the tag of `k₁` expands
each variable in turn (`renderExpression_cycle_step`) until `k₁` comes round again or the stack
is full, where the tag stays as written (`rendersCycleAt_closed`); the induction runs on the
distance to that point (`rendersCycleAt_of_add`) and `cycleText` is the text it gives.
`self_references_render_as_written` gathers these facts.
-/

namespace Covenant.Template

section Runs

variable {α β : Type}

/-- A bind that succeeded: its first step succeeded, and the rest from where it left off. -/
theorem run_bind_eq_ok {x : RenderM α} {f : α → RenderM β} {c c' : Nat} {b : β}
    (h : (x >>= f).run c = .ok (b, c')) :
    ∃ a c₁, x.run c = .ok (a, c₁) ∧ (f a).run c₁ = .ok (b, c') := by
  rw [StateT.run_bind] at h
  cases hx : x.run c with
  | error e =>
      rw [hx] at h
      cases h
  | ok p =>
      rw [hx] at h
      exact ⟨p.1, p.2, rfl, h⟩

/-- A relative step never lowers the count. -/
theorem Relative.le_of_run {x : RenderM α} (hx : Relative x) {c c' : Nat} {a : α}
    (h : x.run c = .ok (a, c')) : c ≤ c' := by
  obtain ⟨out, hout⟩ := hx
  rw [hout] at h
  cases out with
  | error e => cases h
  | ok p =>
      cases h
      exact Nat.le_add_left c p.2

/-- A step that never lowers the count, and meets a cycle exactly when it raises it, left the
count where it found it whenever its outcome is not the cyclic one. -/
theorem count_eq_of_ne {γ : Type} {x y : γ} {c c₁ : Nat} (hiff : x = y ↔ c < c₁)
    (hle : c ≤ c₁) (hne : x ≠ y) : c₁ = c := by
  have hnot : ¬ c < c₁ := fun hlt => hne (hiff.mpr hlt)
  omega

end Runs

namespace Expansions

/-- An expansion is refused exactly for a key already being expanded or a stack already
`maxResolveDepth` deep. -/
theorem push?_eq_none_iff {exp : Expansions} {key : String} :
    exp.push? key = none ↔ key ∈ exp.keys ∨ maxResolveDepth ≤ exp.keys.length := by
  unfold push?
  split <;> simp_all

/-- An accepted expansion puts its key on top of the stack. -/
theorem keys_of_push? {exp inner : Expansions} {key : String} (h : exp.push? key = some inner) :
    inner.keys = key :: exp.keys := by
  unfold push? at h
  split at h
  · cases h
  · cases h
    rfl

end Expansions

/-! ## A value holding one tag -/

section Around

/-- A text as a stretch of text of a split: none when it is empty. -/
def textSegs (s : String) : List (String × Bool) :=
  if s = "" then [] else [(s, false)]

/-- A text as a text node of a template: none when it is empty. -/
def textNodes (s : String) : List Node :=
  if s = "" then [] else [.text s]

/-- A text that is one tag on its own is the characters of a tag. -/
theorem tagChars_of_splitExpressions {t : String} (h : splitExpressions t = [(t, true)]) :
    ∃ inner, t.toList = tagChars inner ∧ TagInside inner := by
  have hL := lexed_splitChars t.length t.toList (Nat.le_of_eq String.length_toList)
  rw [splitExpressions_eq] at h
  cases hs : splitChars t.length t.toList with
  | nil =>
      rw [hs] at h
      cases h
  | cons x xs =>
      rw [hs, List.map_cons, List.cons.injEq, List.map_eq_nil_iff] at h
      obtain ⟨hx, rfl⟩ := h
      obtain ⟨cs, tag⟩ := x
      simp only [strSeg, Prod.mk.injEq] at hx
      obtain ⟨rfl, rfl⟩ := hx
      rw [hs] at hL
      rw [String.toList_ofList]
      -- a split that is a single tag has the shape of one
      cases hL with
      | tag hin _ => exact ⟨_, rfl, hin⟩

/-- A text of the form `pre`, a tag, `post` splits into those three, when `pre` cannot begin a
tag and `post` holds none. -/
theorem splitExpressions_around {pre t post : String} (hpre : hasTag (pre ++ "\x7b") = false)
    (ht : splitExpressions t = [(t, true)]) (hpost : hasTag post = false) :
    splitExpressions (pre ++ t ++ post) = textSegs pre ++ (t, true) :: textSegs post := by
  obtain ⟨inner, htl, hin⟩ := tagChars_of_splitExpressions ht
  have hplain : Plain pre.toList := by
    simpa [hasTag, Plain] using hpre
  have hlast : LastText post.toList := by
    intro a b hab
    simp [hasTag, hab] at hpost
  -- the split as characters, one constructor of `Lexed` a part
  have hpostL : Lexed (if post = "" then [] else [(post.toList, false)]) := by
    split
    · exact .nil
    · next hne => exact .last (by simpa using hne) hlast
  have hL : Lexed ((if pre = "" then [] else [(pre.toList, false)]) ++
      (tagChars inner, true) :: (if post = "" then [] else [(post.toList, false)])) := by
    split
    · exact .tag hin hpostL
    · next hne => exact .text (by simpa using hne) hplain hin hpostL
  have hflat : (((if pre = "" then [] else [(pre.toList, false)]) ++
      (tagChars inner, true) :: (if post = "" then [] else [(post.toList, false)])).map
        Prod.fst).flatten = (pre ++ t ++ post).toList := by
    rw [String.toList_append, String.toList_append, htl]
    split <;> split <;> simp_all
  rw [splitExpressions_eq, ← hflat, splitChars_flatten hL _
    (Nat.le_of_eq (by rw [hflat, String.length_toList]))]
  have hstr : String.ofList (tagChars inner) = t := by
    rw [← htl, String.ofList_toList]
  simp only [textSegs]
  split <;> split <;> simp [strSeg, hstr]

/-- A pair anywhere in a text is found. -/
theorem splitAtPair_isSome_of_infix {a b : Char} :
    ∀ (l r : List Char), (splitAtPair a b (l ++ a :: b :: r)).isSome
  | [], r => by simp [splitAtPair_cons_cons]
  | x :: l, r => by
    obtain ⟨y, rest, hyr⟩ : ∃ y rest, l ++ a :: b :: r = y :: rest := by
      cases l <;> simp
    rw [List.cons_append, hyr, splitAtPair_cons_cons]
    split
    · rfl
    · rw [Option.isSome_map, ← hyr]
      exact splitAtPair_isSome_of_infix l r

/-- A text with a tag in it holds a tag. -/
theorem hasTag_around {pre t post : String} (ht : splitExpressions t = [(t, true)]) :
    hasTag (pre ++ t ++ post) = true := by
  obtain ⟨inner, htl, -⟩ := tagChars_of_splitExpressions ht
  have hchars : (pre ++ t ++ post).toList =
      pre.toList ++ '\x7b' :: '\x7b' :: (inner ++ ['\x7d', '\x7d'] ++ post.toList) := by
    simp [htl, tagChars]
  rw [hasTag, hchars]
  exact splitAtPair_isSome_of_infix _ _

/-- The template of such a text: its text nodes around the tag's expression. -/
theorem parseTemplate_around {pre t post source : String} (hpre : hasTag (pre ++ "\x7b") = false)
    (ht : splitExpressions t = [(t, true)]) (hclass : classifyTag t = .expression source)
    (hpost : hasTag post = false) :
    parseTemplate (pre ++ t ++ post) =
      .ok (textNodes pre ++ .expression t source :: textNodes post) := by
  have hsplit := splitExpressions_around hpre ht hpost
  have hfree : blockFree (pre ++ t ++ post) = true := by
    unfold blockFree
    rw [hsplit]
    simp only [textSegs]
    split <;> split <;> simp [hclass, Tag.isBlockTag]
  rw [parseTemplate_of_blockFree hfree, hsplit]
  simp only [textSegs, textNodes]
  split <;> split <;> simp [segNode, hclass]

/-- A text that is one expression tag has no comment to drop. -/
theorem dropComments_of_expression {t source : String} (ht : splitExpressions t = [(t, true)])
    (hclass : classifyTag t = .expression source) : dropComments t = t := by
  rw [splitExpressions_eq] at ht
  cases hs : splitChars t.length t.toList with
  | nil =>
      rw [hs] at ht
      cases ht
  | cons x xs =>
      rw [hs, List.map_cons, List.cons.injEq, List.map_eq_nil_iff] at ht
      obtain ⟨hx, rfl⟩ := ht
      obtain ⟨cs, tag⟩ := x
      simp only [strSeg, Prod.mk.injEq] at hx
      obtain ⟨hcs, rfl⟩ := hx
      rw [dropComments, hs]
      simp [isCommentSeg, hcs, hclass, Tag.isComment]

/-- Rendering such nodes renders the tag between the two texts. -/
theorem Renderer.renderNodes_around (r : Renderer) (pre t source post : String)
    (scopes : List Scope) (exp : Expansions) (track : Bool) :
    r.renderNodes (textNodes pre ++ .expression t source :: textNodes post) scopes exp track =
      (fun mid => pre ++ mid ++ post) <$> r.renderExpression t source scopes exp track := by
  simp only [textNodes]
  split <;> split <;> simp_all [Renderer.renderNodes, String.append_assoc]

end Around

namespace Renderer

variable (r : Renderer)

/-- An expansion gives nothing only when it is refused, and then it counts one cycle. -/
theorem expandValue_eq_none {key text : String} {scopes : List Scope} {exp : Expansions}
    {c c' : Nat} (h : (r.expandValue key text scopes exp).run c = .ok (none, c')) :
    exp.push? key = none ∧ c' = c + 1 := by
  rw [expandValue] at h
  split at h
  · next hpush =>
      cases h
      exact ⟨hpush, rfl⟩
  · split at h
    · cases h
    · rw [map_eq_pure_bind] at h
      obtain ⟨s, c₁, -, hs⟩ := run_bind_eq_ok h
      cases hs

/-- **An evaluation is cyclic exactly when it meets a cycle.**  Evaluating any expression, from
any count, ends cyclic exactly when the count grew on the way: when some expansion inside it,
however deep (a path operand, a helper argument, a ternary's condition or branch, a tag or a
block condition written inside a value), was refused.  Any other outcome, a value in
particular, comes from an evaluation that met no cycle; so no helper is ever applied to a
value left partly unexpanded by a cycle. -/
theorem evaluate_cyclic_iff :
    ∀ e scopes exp c res c', (r.evaluate e scopes exp).run c = .ok (res, c') →
      (res = .cyclic ↔ c < c') := by
  obtain ⟨-, -, -, hevalRel, hargsRel, hexpRel, -⟩ := r.render_relative
  intro e
  refine @Expr.rec
    (fun e => ∀ scopes exp c res c', (r.evaluate e scopes exp).run c = .ok (res, c') →
      (res = .cyclic ↔ c < c'))
    (fun args => ∀ name scopes exp acc c res c',
      (r.evaluateArgs name args scopes exp acc).run c = .ok (res, c') →
        (res = .error .cyclic ↔ c < c'))
    ?literal ?path ?call ?ternary ?nil ?cons e
  case literal =>
    intro v scopes exp c res c' h
    simp only [evaluate] at h
    cases h
    simp
  case path =>
    intro p scopes exp c res c' h
    cases hp : r.resolvePath p scopes with
    | none =>
        simp only [evaluate, hp] at h
        cases h
        simp
    | some q =>
        obtain ⟨v, s⟩ := q
        cases v
        case str text =>
          by_cases htag : hasTag text = true
          · simp only [evaluate, hp, htag, if_true] at h
            obtain ⟨before, c₀, hget, h⟩ := run_bind_eq_ok h
            cases hget
            obtain ⟨o, c₁, hexp, h⟩ := run_bind_eq_ok h
            have hle := (hexpRel _ _ _ _).le_of_run hexp
            cases o with
            | none =>
                -- a refused expansion: one cycle more
                cases h
                simp [(r.expandValue_eq_none hexp).2]
            | some t =>
                obtain ⟨after, c₂, hget', h⟩ := run_bind_eq_ok h
                cases hget'
                -- the expansion met a cycle exactly when it moved the count
                by_cases hsame : c₁ = c
                · simp only [hsame, if_true] at h
                  cases h
                  simp
                · simp only [hsame, if_false] at h
                  cases h
                  simp only [true_iff]
                  omega
          · simp only [evaluate, hp, htag] at h
            cases h
            simp
        all_goals
          simp only [evaluate, hp] at h
          cases h
          simp
  case call =>
    intro name args ih scopes exp c res c' h
    simp only [evaluate] at h
    obtain ⟨ra, c₁, hargs, hrest⟩ := run_bind_eq_ok h
    have hiff := ih name scopes exp [] c ra c₁ hargs
    have hle := (hargsRel _ _ _ _ _).le_of_run hargs
    cases ra with
    | ok values =>
        -- every argument is a value, so no cycle was met
        have hc₁ : c₁ = c := count_eq_of_ne hiff hle (by simp)
        rw [hc₁] at hrest
        cases hcall : callHelper name values r.helpers <;> simp only [hcall] at hrest <;>
          cases hrest <;> simp
    | error other =>
        cases hrest
        rw [← hiff]
        exact ⟨fun h => h ▸ rfl, fun h => Except.error.inj h⟩
  case ternary =>
    intro cond t f ihc iht ihf scopes exp c res c' h
    simp only [evaluate] at h
    obtain ⟨rc, c₁, hc, hrest⟩ := run_bind_eq_ok h
    have hiff := ihc scopes exp c rc c₁ hc
    have hle := (hevalRel _ _ _).le_of_run hc
    -- a condition that is a value or missing met no cycle, and picks a branch
    have hquiet : rc ≠ .cyclic → c₁ = c := count_eq_of_ne hiff hle
    cases rc with
    | value v =>
        rw [hquiet (by simp)] at hrest
        simp only [pure_bind] at hrest
        cases hb : Value.truthy (some v) <;> simp only [hb] at hrest
        · exact ihf scopes exp c res c' hrest
        · exact iht scopes exp c res c' hrest
    | missing p =>
        rw [hquiet (by simp)] at hrest
        simp only [pure_bind] at hrest
        exact ihf scopes exp c res c' hrest
    | cyclic =>
        simp only [pure_bind] at hrest
        cases hrest
        simpa using hiff
    | failed err =>
        rw [hquiet (by simp)] at hrest
        simp only [pure_bind] at hrest
        cases hrest
        simp
  case nil =>
    intro name scopes exp acc c res c' h
    simp only [evaluateArgs] at h
    cases h
    simp
  case cons =>
    intro a rest iha ihrest name scopes exp acc c res c' h
    simp only [evaluateArgs] at h
    obtain ⟨ra, c₁, ha, hrest⟩ := run_bind_eq_ok h
    have hiff := iha scopes exp c ra c₁ ha
    have hle := (hevalRel _ _ _).le_of_run ha
    have hquiet : ra ≠ .cyclic → c₁ = c := count_eq_of_ne hiff hle
    cases ra with
    | value v =>
        rw [hquiet (by simp)] at hrest
        exact ihrest name scopes exp _ c res c' hrest
    | missing p =>
        rw [hquiet (by simp)] at hrest
        by_cases hnull : acceptsMissing name = true
        · simp only [hnull, if_true] at hrest
          exact ihrest name scopes exp _ c res c' hrest
        · simp only [hnull, Bool.false_eq_true, if_false] at hrest
          cases hrest
          simp
    | cyclic =>
        cases hrest
        simpa using hiff
    | failed err =>
        rw [hquiet (by simp)] at hrest
        cases hrest
        simp

/-- A refused expansion gives nothing and counts one cycle. -/
theorem expandValue_refused {key text : String} {scopes : List Scope} {exp : Expansions}
    (h : exp.push? key = none) (c : Nat) :
    (r.expandValue key text scopes exp).run c = .ok (none, c + 1) := by
  rw [expandValue]
  split
  · rfl
  · next h' => cases h.symm.trans h'

/-- An accepted expansion renders the value's nodes, untracked, with the key on the stack. -/
theorem expandValue_accepted {key text : String} {scopes : List Scope} {exp inner : Expansions}
    (h : exp.push? key = some inner) {nodes : List Node} (hn : parseTemplate text = .ok nodes) :
    r.expandValue key text scopes exp = some <$> r.renderNodes nodes scopes inner false := by
  rw [expandValue]
  split
  · next h' => cases h.symm.trans h'
  · next inner' h' =>
      obtain rfl : inner = inner' := Option.some.inj (h.symm.trans h')
      rw [hn]

section Tags

variable {raw source : String} {st : CallStyles} {p : PathRef} {scopes : List Scope}
  {exp : Expansions} {text : String} {s : Bool}

/-- A tag naming a variable whose value is text holding a tag is rendered by expanding that
value. -/
theorem renderExpression_path (hb : r.budget.spent = false)
    (hparse : parseExpression source = .ok ⟨.path p, st⟩)
    (hres : r.resolvePath p scopes = some (.str text, s)) (htag : hasTag text = true)
    (track : Bool) :
    r.renderExpression raw source scopes exp track =
      (do
        let expanded ← r.expandValue p.render text scopes exp
        pure (expanded.elim raw fun t =>
          if track && r.trackFields then markField .resolved p.render t else t)) := by
  simp only [renderExpression, checkBudget, hb, hparse, renderPath, hres, Value.display, htag,
    if_true, Bool.false_eq_true, if_false, pure_bind]
  refine bind_congr fun expanded => ?_
  cases expanded <;> rfl

/-- **A refused expansion leaves the tag as written.**  A tag naming a variable whose value is
text holding a tag, when that variable is already being expanded or expansions already nest
`maxResolveDepth` deep, renders as its own text and counts one cycle. -/
theorem renderExpression_refused (hb : r.budget.spent = false)
    (hparse : parseExpression source = .ok ⟨.path p, st⟩)
    (hres : r.resolvePath p scopes = some (.str text, s)) (htag : hasTag text = true)
    (hcycle : p.render ∈ exp.keys ∨ maxResolveDepth ≤ exp.keys.length) (track : Bool)
    (c : Nat) : (r.renderExpression raw source scopes exp track).run c = .ok (raw, c + 1) := by
  rw [r.renderExpression_path hb hparse hres htag, StateT.run_bind,
    r.expandValue_refused (Expansions.push?_eq_none_iff.mpr hcycle)]
  rfl

/-- **An accepted expansion renders the value.**  Otherwise the value's tags are rendered,
untracked, with the variable on the stack, and the result is marked when tracking. -/
theorem renderExpression_expands (hb : r.budget.spent = false)
    (hparse : parseExpression source = .ok ⟨.path p, st⟩)
    (hres : r.resolvePath p scopes = some (.str text, s)) (htag : hasTag text = true)
    {inner : Expansions} (hpush : exp.push? p.render = some inner) {nodes : List Node}
    (hn : parseTemplate text = .ok nodes) (track : Bool) (c : Nat) :
    (r.renderExpression raw source scopes exp track).run c =
      (fun q => (if track && r.trackFields then markField .resolved p.render q.1 else q.1, q.2)) <$>
        (r.renderNodes nodes scopes inner false).run c := by
  rw [r.renderExpression_path hb hparse hres htag, r.expandValue_accepted hpush hn,
    bind_map_left, StateT.run_bind]
  simp only [Option.elim, StateT.run_pure, map_eq_pure_bind]

/-- **A refused operand is cyclic.**  Evaluating a path whose value is text holding a tag,
when the expansion is refused, gives cyclic and counts one cycle. -/
theorem evaluate_path_refused (hres : r.resolvePath p scopes = some (.str text, s))
    (htag : hasTag text = true)
    (hcycle : p.render ∈ exp.keys ∨ maxResolveDepth ≤ exp.keys.length) (c : Nat) :
    (r.evaluate (.path p) scopes exp).run c = .ok (.cyclic, c + 1) := by
  simp only [evaluate, hres, htag, if_true, StateT.run_bind, StateT.run_get, pure_bind,
    r.expandValue_refused (Expansions.push?_eq_none_iff.mpr hcycle)]
  rfl

/-- **An accepted operand is the value's rendering, unless that met a cycle.**  Otherwise the
value's template is rendered with the variable on the stack, and the operand is the text it
gives when the count did not move, and cyclic when it did. -/
theorem evaluate_path_expands (hres : r.resolvePath p scopes = some (.str text, s))
    (htag : hasTag text = true) {inner : Expansions} (hpush : exp.push? p.render = some inner)
    {nodes : List Node} (hn : parseTemplate text = .ok nodes) (c : Nat) :
    (r.evaluate (.path p) scopes exp).run c =
      (fun q => (if q.2 = c then .value (.str q.1) else .cyclic, q.2)) <$>
        (r.renderNodes nodes scopes inner false).run c := by
  simp only [evaluate, hres, htag, if_true, StateT.run_bind, StateT.run_get, pure_bind,
    r.expandValue_accepted hpush hn, bind_map_left]
  rw [map_eq_pure_bind]
  refine bind_congr fun q => ?_
  split <;> rfl

/-- **A call or ternary that meets a cycle stays as written.**  A tag holding a helper call or
a ternary whose evaluation meets a cycle anywhere inside it renders as its own text. -/
theorem renderExpression_meets_cycle (hb : r.budget.spent = false) {e : Expr}
    (hparse : parseExpression source = .ok ⟨e, st⟩) (hpath : ∀ p, e ≠ .path p)
    (hlit : ∀ v, e ≠ .literal v) {c c' : Nat} {res : Evaluated}
    (heval : (r.evaluate e scopes exp).run c = .ok (res, c')) (hlt : c < c') (track : Bool) :
    (r.renderExpression raw source scopes exp track).run c = .ok (raw, c') := by
  obtain rfl : res = .cyclic := (r.evaluate_cyclic_iff e scopes exp c res c' heval).mpr hlt
  cases e with
  | path p => exact absurd rfl (hpath p)
  | literal v => exact absurd rfl (hlit v)
  | call name args =>
      simp only [renderExpression, checkBudget, hb, hparse, Bool.false_eq_true, if_false,
        pure_bind, StateT.run_bind, heval]
      rfl
  | ternary cond t f =>
      simp only [renderExpression, checkBudget, hb, hparse, Bool.false_eq_true, if_false,
        pure_bind, StateT.run_bind, heval]
      rfl

/-- **A block condition that meets a cycle is false.** -/
theorem conditionHolds_meets_cycle {argument : String} {e : Expr}
    (hparse : parseExpression argument = .ok ⟨e, st⟩) {c c' : Nat} {res : Evaluated}
    (heval : (r.evaluate e scopes exp).run c = .ok (res, c')) (hlt : c < c') :
    (r.conditionHolds argument scopes exp).run c = .ok (false, c') := by
  obtain rfl : res = .cyclic := (r.evaluate_cyclic_iff e scopes exp c res c' heval).mpr hlt
  simp only [conditionHolds, hparse, StateT.run_bind, heval]
  rfl

end Tags

/-- A plain variable is looked up in the root scope by its key. -/
theorem resolvePath_plain (m : Metadata) {key : String}
    (hkey : key ∉ ["this", "@index", "@first", "@last", "@key", "@today"]) :
    r.resolvePath ⟨0, [key]⟩ [{ value := .obj m }] = (m.get? key).map (·, true) := by
  simp only [List.mem_cons, List.not_mem_nil, or_false, not_or] at hkey
  obtain ⟨h1, h2, h3, h4, h5, h6⟩ := hkey
  simp [resolvePath, h1, h2, h3, h4, h5, h6, descend, Value.child?]

end Renderer

theorem PathRef.render_plain (key : String) : PathRef.render ⟨0, [key]⟩ = key := by
  simp [PathRef.render]

/-! ## A cycle of values -/

/-- `t` is the tag of the variable `key`: on its own it is one tag, an expression that reads
as the plain path `key`, and `key` names no loop variable. -/
def TagOf (t key : String) : Prop :=
  splitExpressions t = [(t, true)] ∧
  (∃ source st, classifyTag t = .expression source ∧
    parseExpression source = .ok ⟨.path ⟨0, [key]⟩, st⟩) ∧
  key ∉ ["this", "@index", "@first", "@last", "@key", "@today"]

/-- Distinct variables `ks` whose values in `m` form a cycle: the value of each is text `pre`,
the tag of the next variable, and text `post`, the last one's holding the first one's tag.
The texts around the tags hold no tag of their own. -/
structure ValueCycle (m : Metadata) (ks : List String) (tag pre post : String → String) :
    Prop where
  ne_nil : ks ≠ []
  nodup : ks.Nodup
  tagOf : ∀ k ∈ ks, TagOf (tag k) k
  pre_plain : ∀ k ∈ ks, hasTag (pre k ++ "\x7b") = false
  post_plain : ∀ k ∈ ks, hasTag (post k) = false
  value : ∀ q ∈ ks.zip (ks.drop 1 ++ ks.take 1),
    m.get? q.1 = some (.str (pre q.1 ++ tag q.2 ++ post q.1))

theorem List.getD_of_lt {α : Type} {l : List α} {i : Nat} (h : i < l.length) (d : α) :
    l.getD i d = l[i] := by
  rw [List.getD_eq_getElem?_getD, List.getElem?_eq_getElem h, Option.getD_some]

namespace ValueCycle

variable {m : Metadata} {ks : List String} {tag pre post : String → String}

/-- The value of the `i`-th variable holds the tag of the variable after it, the last one's
the first one's. -/
theorem get?_getElem (hc : ValueCycle m ks tag pre post) {i : Nat} (hi : i < ks.length) :
    m.get? ks[i] =
      some (.str (pre ks[i] ++ tag (ks.getD ((i + 1) % ks.length) "") ++ post ks[i])) := by
  have hlen : (ks.drop 1 ++ ks.take 1).length = ks.length := by
    simp
    omega
  have hi' : i < (ks.zip (ks.drop 1 ++ ks.take 1)).length := by
    simp only [List.length_zip, hlen, Nat.min_self]
    exact hi
  have hval := hc.value _ (List.getElem_mem hi')
  rw [List.getElem_zip] at hval
  -- the variable after the `i`-th, cyclically
  have hi'' : i < (ks.drop 1 ++ ks.take 1).length := by omega
  have hnext : (ks.drop 1 ++ ks.take 1)[i] = ks.getD ((i + 1) % ks.length) "" := by
    by_cases hlast : i + 1 < ks.length
    · rw [List.getElem_append_left (by simp; omega), List.getElem_drop, Nat.mod_eq_of_lt hlast,
        List.getD_of_lt hlast]
      congr 1
      omega
    · have hmod : (i + 1) % ks.length = 0 := by
        rw [show i + 1 = ks.length by omega, Nat.mod_self]
      rw [List.getElem_append_right (by simp; omega), hmod, List.getD_of_lt (by omega)]
      simp only [List.getElem_take, List.length_drop]
      congr 1
      omega
  rw [← hnext]
  exact hval

/-- Counting round the cycle stays on its variables. -/
theorem getD_mod_mem (hc : ValueCycle m ks tag pre post) (i : Nat) :
    ks.getD (i % ks.length) "" ∈ ks := by
  have hi : i % ks.length < ks.length := Nat.mod_lt i (List.length_pos_iff.mpr hc.ne_nil)
  rw [List.getD_of_lt hi]
  exact List.getElem_mem hi

/-- The tag of the `i`-th variable reads that variable, whose value is text holding the next
variable's tag. -/
theorem reads (hc : ValueCycle m ks tag pre post) (r : Renderer) {i : Nat} (hi : i < ks.length)
    {source : String} (hclass : classifyTag (tag ks[i]) = .expression source) :
    ∃ st, parseExpression source = .ok ⟨.path ⟨0, [ks[i]]⟩, st⟩ ∧
      r.resolvePath ⟨0, [ks[i]]⟩ [{ value := .obj m }] =
        some (.str (pre ks[i] ++ tag (ks.getD ((i + 1) % ks.length) "") ++ post ks[i]), true) ∧
      hasTag (pre ks[i] ++ tag (ks.getD ((i + 1) % ks.length) "") ++ post ks[i]) = true := by
  obtain ⟨-, ⟨src, st, hclass', hparse⟩, hspecial⟩ := hc.tagOf _ (List.getElem_mem hi)
  obtain rfl : source = src := Tag.expression.inj (hclass.symm.trans hclass')
  have hnext := hc.tagOf _ (hc.getD_mod_mem (i + 1))
  refine ⟨st, hparse, ?_, hasTag_around hnext.1⟩
  rw [r.resolvePath_plain m hspecial, hc.get?_getElem hi]
  rfl


end ValueCycle

/-- What rendering the `j`-th variable of a cycle gives when expansions stop after `depth`
variables: the texts before the tags from the `j`-th variable to the last one expanded, the
next variable's tag as written, and the texts after the tags, innermost first. -/
def cycleText (ks : List String) (tag pre post : String → String) (depth j : Nat) : String :=
  String.join (((ks.take depth).drop j).map pre) ++ tag (ks.getD (depth % ks.length) "") ++
    String.join (((ks.take depth).drop j).reverse.map post)

/-- Where the chain closes only the tag is left. -/
theorem cycleText_self (ks : List String) (tag pre post : String → String) (depth : Nat) :
    cycleText ks tag pre post depth depth = tag (ks.getD (depth % ks.length) "") := by
  simp [cycleText, List.drop_eq_nil_of_le (List.length_take_le depth ks)]

/-- Below it, the `j`-th variable's texts stand around the rendering from the next one on. -/
theorem cycleText_step (ks : List String) (tag pre post : String → String) {depth j : Nat}
    (hd : depth ≤ ks.length) (hj : j < depth) :
    cycleText ks tag pre post depth j =
      pre ks[j] ++ cycleText ks tag pre post depth (j + 1) ++ post ks[j] := by
  have hlen : j < (ks.take depth).length := by simp; omega
  rw [cycleText, cycleText, List.drop_eq_getElem_cons hlen, List.getElem_take]
  simp [String.join_cons, String.append_assoc]


/-- The tag of the variable `j` steps round the cycle, rendered untracked with the `j`
variables before it on the stack, gives `cycleText` from `j` on and counts one cycle. -/
def Renderer.RendersCycleAt (r : Renderer) (m : Metadata) (ks : List String)
    (tag pre post : String → String) (j : Nat) : Prop :=
  ∀ exp : Expansions, exp.keys = (ks.take j).reverse → ∀ source,
    classifyTag (tag (ks.getD (j % ks.length) "")) = .expression source → ∀ c,
      (r.renderExpression (tag (ks.getD (j % ks.length) "")) source [{ value := .obj m }] exp
        false).run c = .ok (cycleText ks tag pre post (min ks.length maxResolveDepth) j, c + 1)

namespace Renderer

variable (r : Renderer) {m : Metadata} {ks : List String} {tag pre post : String → String}

/-- **Where the chain closes, the tag stays as written.**  Once the expansions have gone round
the whole cycle, or `maxResolveDepth` deep, the next variable's tag renders as its own text. -/
theorem rendersCycleAt_closed (hc : ValueCycle m ks tag pre post) (hb : r.budget.spent = false) :
    r.RendersCycleAt m ks tag pre post (min ks.length maxResolveDepth) := by
  intro exp hexp source hclass c
  have hi : min ks.length maxResolveDepth % ks.length < ks.length :=
    Nat.mod_lt _ (List.length_pos_iff.mpr hc.ne_nil)
  rw [cycleText_self]
  rw [List.getD_of_lt hi] at hclass ⊢
  obtain ⟨st, hparse, hres, htag⟩ := hc.reads r hi hclass
  apply r.renderExpression_refused hb hparse hres htag _ false c
  rw [PathRef.render_plain, hexp, List.mem_reverse, List.length_reverse, List.length_take]
  -- round the whole cycle every variable is on the stack; otherwise the stack is full
  by_cases hd : ks.length ≤ maxResolveDepth
  · left
    rw [List.take_of_length_le (by omega)]
    exact List.getElem_mem hi
  · right
    omega

/-- **One step along the cycle.**  Below the depth where the chain closes, with the variables
before it on the stack, the tag of the `j`-th variable expands its value: the text around the
next variable's tag, with that tag rendered one level deeper. -/
theorem renderExpression_cycle_step (hc : ValueCycle m ks tag pre post)
    (hb : r.budget.spent = false) {j : Nat} (hj : j < min ks.length maxResolveDepth)
    (hnext : r.RendersCycleAt m ks tag pre post (j + 1)) {exp : Expansions}
    (hexp : exp.keys = (ks.take j).reverse) {source : String}
    (hclass : classifyTag (tag (ks.getD (j % ks.length) "")) = .expression source)
    (track : Bool) (c : Nat) :
    (r.renderExpression (tag (ks.getD (j % ks.length) "")) source [{ value := .obj m }] exp
      track).run c =
      .ok (if track && r.trackFields then
          markField .resolved (ks.getD (j % ks.length) "")
            (cycleText ks tag pre post (min ks.length maxResolveDepth) j)
        else cycleText ks tag pre post (min ks.length maxResolveDepth) j, c + 1) := by
  have hjn : j < ks.length := by omega
  rw [Nat.mod_eq_of_lt hjn, List.getD_of_lt hjn] at hclass ⊢
  obtain ⟨st, hparse, hres, htag⟩ := hc.reads r hjn hclass
  -- the value of the `j`-th variable as a template: the next variable's tag between two texts
  obtain ⟨hsplit, ⟨src, -, hclass', -⟩, -⟩ := hc.tagOf _ (hc.getD_mod_mem (j + 1))
  have hn := parseTemplate_around (hc.pre_plain _ (List.getElem_mem hjn)) hsplit hclass'
    (hc.post_plain _ (List.getElem_mem hjn))
  -- the `j`-th variable is not on the stack yet, and the stack is not full
  have hfree : ¬ (ks[j] ∈ exp.keys ∨ maxResolveDepth ≤ exp.keys.length) := by
    rw [hexp, List.mem_reverse, List.length_reverse, List.length_take]
    rintro (hmem | hfull)
    · obtain ⟨i, hi, heq⟩ := List.mem_take_iff_getElem.mp hmem
      exact List.pairwise_iff_getElem.mp hc.nodup i j (by omega) hjn (by omega) heq
    · omega
  cases hpush : exp.push? ks[j] with
  | none => exact absurd (Expansions.push?_eq_none_iff.mp hpush) hfree
  | some inner =>
      have hinner : inner.keys = (ks.take (j + 1)).reverse := by
        rw [Expansions.keys_of_push? hpush, hexp, List.take_succ_eq_append_getElem hjn,
          List.reverse_concat]
      rw [r.renderExpression_expands hb hparse hres htag (by rwa [PathRef.render_plain]) hn,
        r.renderNodes_around, StateT.run_map, hnext inner hinner src hclass' c,
        cycleText_step ks tag pre post (Nat.min_le_left _ _) hj, PathRef.render_plain]
      rfl

/-- **Every tag along the cycle.**  By induction on the distance `i` to the depth where the
chain closes: each step renders the next variable's tag one level deeper. -/
theorem rendersCycleAt_of_add (hc : ValueCycle m ks tag pre post) (hb : r.budget.spent = false)
    {i j : Nat} (h : i + j = min ks.length maxResolveDepth) :
    r.RendersCycleAt m ks tag pre post j := by
  induction i generalizing j with
  | zero =>
      rw [Nat.zero_add] at h
      subst h
      exact r.rendersCycleAt_closed hc hb
  | succ i ih =>
      intro exp hexp source hclass c
      rw [r.renderExpression_cycle_step hc hb (by omega) (ih (by omega)) hexp hclass false c,
        Bool.false_and]
      rfl

end Renderer

/-- **A cycle of values renders once round.**  Rendering the tag of the first variable of a
cycle expands the variables in turn, each value's text around the next one's rendering, until
the chain comes back to the first variable or reaches `maxResolveDepth`; that last tag stays
as written.  With field tracking the whole is marked as the first variable's. -/
theorem render_valueCycle {m : Metadata} {k : String} {rest : List String}
    {tag pre post : String → String} (hc : ValueCycle m (k :: rest) tag pre post)
    (ctx : TemplateContext) (hb : ctx.timeout.spent = false) :
    (expandBlocks (tag k) m ctx >>= fun t => renderExpressions t m ctx) =
      .ok (if ctx.trackFields then
          markField .resolved k
            (cycleText (k :: rest) tag pre post (min (k :: rest).length maxResolveDepth) 0)
        else cycleText (k :: rest) tag pre post (min (k :: rest).length maxResolveDepth) 0) := by
  obtain ⟨hsplit, ⟨source, -, hclass, -⟩, -⟩ := hc.tagOf k List.mem_cons_self
  have hfree : blockFree (tag k) = true := by
    unfold blockFree
    rw [hsplit]
    simp [hclass, Tag.isBlockTag]
  rw [expandBlocks_of_blockFree hfree, dropComments_of_expression hsplit hclass]
  show renderExpressions (tag k) m ctx = _
  -- the expression stage renders the one tag, with nothing on the stack yet
  have hseg : (ctx.renderer m).segment [{ value := .obj m }] (tag k, true) =
      (ctx.renderer m).renderExpression (tag k) source [{ value := .obj m }] .empty true := by
    simp [Renderer.segment, hclass]
  have hempty : Expansions.empty.keys = ((k :: rest).take 0).reverse := rfl
  have hfirst : classifyTag (tag ((k :: rest).getD (0 % (k :: rest).length) "")) =
      .expression source := by
    rw [Nat.zero_mod, List.getD_cons_zero]
    exact hclass
  have hpos : 0 < min (k :: rest).length maxResolveDepth :=
    Nat.lt_min.mpr ⟨Nat.succ_pos _, by decide⟩
  have hstep := (ctx.renderer m).renderExpression_cycle_step hc hb hpos
    ((ctx.renderer m).rendersCycleAt_of_add hc hb (Nat.sub_add_cancel hpos)) hempty hfirst true 0
  rw [Nat.zero_mod, List.getD_cons_zero] at hstep
  rw [renderExpressions_eq, hsplit, Renderer.renderSegments_cons, Renderer.renderSegments_nil,
    hseg, StateT.run'_eq, StateT.run_bind, hstep]
  simp only [map_pure, StateT.run_pure, String.append_empty, Bool.true_and]
  rfl

/-- **Self-reference renders as written where it closes.**  For a renderer with an unspent
budget, a tag naming a variable whose value is text holding a tag renders as written, counting
one cycle, when that variable is already being expanded or expansions already nest
`maxResolveDepth` deep; evaluated as an operand it is then cyclic.  Otherwise the value's
template is rendered with the variable pushed on the stack, and as an operand it is that
rendering unless the rendering met a cycle.  An evaluation is cyclic exactly when it met a
cycle; a helper call or ternary tag that met one renders as written, and a block condition that
met one is false.  A cycle of values renders once round from its first variable's tag, the tag
that closes it left as written. -/
theorem self_references_render_as_written :
    (∀ (r : Renderer) raw source st p scopes exp text s, r.budget.spent = false →
      parseExpression source = .ok ⟨.path p, st⟩ →
      r.resolvePath p scopes = some (.str text, s) → hasTag text = true →
      (p.render ∈ exp.keys ∨ maxResolveDepth ≤ exp.keys.length → ∀ track c,
        (r.renderExpression raw source scopes exp track).run c = .ok (raw, c + 1) ∧
        (r.evaluate (.path p) scopes exp).run c = .ok (.cyclic, c + 1)) ∧
      (¬ (p.render ∈ exp.keys ∨ maxResolveDepth ≤ exp.keys.length) → ∀ nodes,
        parseTemplate text = .ok nodes → ∃ inner : Expansions, inner.keys = p.render :: exp.keys ∧
          ∀ track c,
            (r.renderExpression raw source scopes exp track).run c =
              (fun q => (if track && r.trackFields then markField .resolved p.render q.1 else q.1,
                q.2)) <$> (r.renderNodes nodes scopes inner false).run c ∧
            (r.evaluate (.path p) scopes exp).run c =
              (fun q => (if q.2 = c then .value (.str q.1) else .cyclic, q.2)) <$>
                (r.renderNodes nodes scopes inner false).run c)) ∧
    (∀ (r : Renderer) e scopes exp c res c', (r.evaluate e scopes exp).run c = .ok (res, c') →
      (res = .cyclic ↔ c < c')) ∧
    (∀ (r : Renderer) raw source e st scopes exp c res c', r.budget.spent = false →
      parseExpression source = .ok ⟨e, st⟩ → (∀ p, e ≠ .path p) → (∀ v, e ≠ .literal v) →
      (r.evaluate e scopes exp).run c = .ok (res, c') → c < c' → ∀ track,
        (r.renderExpression raw source scopes exp track).run c = .ok (raw, c')) ∧
    (∀ (r : Renderer) argument e st scopes exp c res c',
      parseExpression argument = .ok ⟨e, st⟩ → (r.evaluate e scopes exp).run c = .ok (res, c') →
      c < c' → (r.conditionHolds argument scopes exp).run c = .ok (false, c')) ∧
    (∀ m k rest tag pre post, ValueCycle m (k :: rest) tag pre post → ∀ ctx : TemplateContext,
      ctx.timeout.spent = false →
      (expandBlocks (tag k) m ctx >>= fun t => renderExpressions t m ctx) =
        .ok (if ctx.trackFields then
            markField .resolved k
              (cycleText (k :: rest) tag pre post (min (k :: rest).length maxResolveDepth) 0)
          else cycleText (k :: rest) tag pre post (min (k :: rest).length maxResolveDepth) 0)) := by
  refine ⟨fun r raw source st p scopes exp text s hb hparse hres htag => ⟨?refused, ?accepted⟩,
    fun r => r.evaluate_cyclic_iff, ?call, ?condition, ?chain⟩
  case refused =>
    intro hcycle track c
    exact ⟨r.renderExpression_refused hb hparse hres htag hcycle track c,
      r.evaluate_path_refused hres htag hcycle c⟩
  case accepted =>
    intro hfree nodes hn
    cases hpush : exp.push? p.render with
    | none => exact absurd (Expansions.push?_eq_none_iff.mp hpush) hfree
    | some inner =>
        refine ⟨inner, Expansions.keys_of_push? hpush, fun track c => ⟨?_, ?_⟩⟩
        · exact r.renderExpression_expands hb hparse hres htag hpush hn track c
        · exact r.evaluate_path_expands hres htag hpush hn c
  case call =>
    intro r raw source e st scopes exp c res c' hb hparse hpath hlit heval hlt track
    exact r.renderExpression_meets_cycle hb hparse hpath hlit heval hlt track
  case condition =>
    intro r argument e st scopes exp c res c' hparse heval hlt
    exact r.conditionHolds_meets_cycle hparse heval hlt
  case chain =>
    intro m k rest tag pre post hc ctx hb
    exact render_valueCycle hc ctx hb

/-- Two variables whose values name each other: the first one's tag renders once round, the
second's value closing the cycle with the first one's tag as written. -/
theorem self_references_render_mutual :
    ValueCycle [("a", .str "x \x7b\x7b b \x7d\x7d"), ("b", .str "y \x7b\x7b a \x7d\x7d")] ["a", "b"]
      (fun k => "\x7b\x7b " ++ k ++ " \x7d\x7d") (fun k => if k = "a" then "x " else "y ")
      (fun _ => "") ∧
    ({ today := ⟨2024, 1, 1⟩ } : TemplateContext).timeout.spent = false ∧
    (expandBlocks ("\x7b\x7b " ++ "a" ++ " \x7d\x7d")
        [("a", .str "x \x7b\x7b b \x7d\x7d"), ("b", .str "y \x7b\x7b a \x7d\x7d")]
        { today := ⟨2024, 1, 1⟩ } >>= fun t =>
      renderExpressions t [("a", .str "x \x7b\x7b b \x7d\x7d"), ("b", .str "y \x7b\x7b a \x7d\x7d")]
        { today := ⟨2024, 1, 1⟩ }) = .ok "x y \x7b\x7b a \x7d\x7d" := by
  have hc : ValueCycle [("a", .str "x \x7b\x7b b \x7d\x7d"), ("b", .str "y \x7b\x7b a \x7d\x7d")]
      ["a", "b"] (fun k => "\x7b\x7b " ++ k ++ " \x7d\x7d")
      (fun k => if k = "a" then "x " else "y ") (fun _ => "") := by
    refine ⟨List.cons_ne_nil _ _, by decide, ?tags, ?pre, ?post, ?value⟩
    case tags =>
      intro k hk
      simp only [List.mem_cons, List.not_mem_nil, or_false] at hk
      rcases hk with rfl | rfl
      · exact ⟨rfl, ⟨_, {}, rfl, rfl⟩, by decide⟩
      · exact ⟨rfl, ⟨_, {}, rfl, rfl⟩, by decide⟩
    case pre =>
      intro k hk
      simp only [List.mem_cons, List.not_mem_nil, or_false] at hk
      rcases hk with rfl | rfl <;> rfl
    case post =>
      intro k _
      rfl
    case value =>
      intro q hq
      simp only [List.drop_succ_cons, List.drop_zero, List.take_succ_cons, List.take_zero,
        List.cons_append, List.nil_append, List.zip_cons_cons, List.zip_nil_right, List.mem_cons,
        List.not_mem_nil, or_false] at hq
      rcases hq with rfl | rfl <;> rfl
  have hb : ({ today := ⟨2024, 1, 1⟩ } : TemplateContext).timeout.spent = false := rfl
  refine ⟨hc, hb, (self_references_render_as_written.2.2.2.2 _ _ _ _ _ _ hc _ hb).trans ?_⟩
  rfl

end Covenant.Template
