import Covenant.Template.Render
/-!
# Rendering ends with a text

The renderer has no fuel: its functions are defined by well-founded recursion, on the
measure given with them, so every rendering ends, whatever cycles the metadata's values
form — a variable read back under another spelling (`a`, `this.a`, `../a`), through helper
arguments, ternaries, or blocks written inside values.  How deep expansions nest is bounded
by the type of the stack of variables being expanded: an `Expansions` holds distinct keys,
at most `maxResolveDepth` of them, and each expansion pushes one.

What is proved here is that rendering ends with a result and not an error.  With an unspent
budget no step of the renderer fails, from any stack and any count of cycles
(`render_succeeds`); so evaluating the expressions of a text always gives a text, and
rendering its blocks fails exactly when the text holds a tag and is not a well-formed
template (`rendering_terminates`).
-/

namespace Covenant.Template

/-- A rendering step ends with a result, from any count of cycles met. -/
def Succeeds {α : Type} (x : RenderM α) : Prop :=
  ∀ n, ∃ a n', x.run n = .ok (a, n')

namespace Succeeds

variable {α β : Type}

theorem pure (a : α) : Succeeds (Pure.pure a : RenderM α) :=
  fun n => ⟨a, n, rfl⟩

theorem bind {x : RenderM α} {f : α → RenderM β} (hx : Succeeds x)
    (hf : ∀ a, Succeeds (f a)) : Succeeds (x >>= f) := by
  intro n
  obtain ⟨a, n₁, h₁⟩ := hx n
  obtain ⟨b, n₂, h₂⟩ := hf a n₁
  refine ⟨b, n₂, ?_⟩
  rw [StateT.run_bind, h₁]
  exact h₂

theorem map {x : RenderM α} (hx : Succeeds x) (f : α → β) : Succeeds (f <$> x) := by
  rw [map_eq_pure_bind]
  exact hx.bind fun a => pure (f a)

theorem mapM {γ : Type} {f : γ → RenderM α} :
    ∀ {xs : List γ}, (∀ x ∈ xs, Succeeds (f x)) → Succeeds (xs.mapM f)
  | [], _ => by
    rw [List.mapM_nil]
    exact pure []
  | x :: xs, h => by
    rw [List.mapM_cons]
    exact (h x List.mem_cons_self).bind fun a =>
      (mapM fun y hy => h y (List.mem_cons_of_mem x hy)).bind fun as => pure (a :: as)

/-- A step that succeeds, run from no cycles, passes its value on. -/
theorem run'_bind {x : RenderM α} (hx : Succeeds x) (f : α → Except DocError β)
    (hf : ∀ a, ∃ b, f a = .ok b) : ∃ b, (x.run' 0 >>= f) = .ok b := by
  obtain ⟨a, n, h⟩ := hx 0
  obtain ⟨b, hb⟩ := hf a
  refine ⟨b, ?_⟩
  rw [StateT.run'_eq, h]
  exact hb

end Succeeds

theorem get_succeeds : Succeeds (get : RenderM Nat) :=
  fun n => ⟨n, n, rfl⟩

theorem modify_succeeds (f : Nat → Nat) : Succeeds (modify f : RenderM Unit) :=
  fun n => ⟨(), f n, rfl⟩

namespace Renderer

variable (r : Renderer)

theorem checkBudget_succeeds (hb : r.budget.spent = false) (expression : String) :
    Succeeds (r.checkBudget expression) := by
  rw [checkBudget, hb]
  exact Succeeds.pure ()

/-- **No step fails.**  With an unspent budget every function of the renderer gives a result,
on any nodes, expression or value text, in any scopes and under any stack of expansions. -/
theorem render_succeeds (hb : r.budget.spent = false) :
    (∀ nodes scopes exp track, Succeeds (r.renderNodes nodes scopes exp track)) ∧
    (∀ b scopes exp track, Succeeds (r.renderBlock b scopes exp track)) ∧
    (∀ argument scopes exp, Succeeds (r.conditionHolds argument scopes exp)) ∧
    (∀ e scopes exp, Succeeds (r.evaluate e scopes exp)) ∧
    (∀ name args scopes exp acc, Succeeds (r.evaluateArgs name args scopes exp acc)) ∧
    (∀ key text scopes exp, Succeeds (r.expandValue key text scopes exp)) ∧
    (∀ body items count scopes exp track,
      Succeeds (r.renderItems body items count scopes exp track)) ∧
    (∀ raw source scopes exp track, Succeeds (r.renderExpression raw source scopes exp track)) ∧
    (∀ raw p scopes exp track, Succeeds (r.renderPath raw p scopes exp track)) := by
  refine renderNodes.mutual_induct r _ _ _ _ _ _ _ _ _ ?nil ?text ?expression ?block ?blockMk
    ?condUnreadable ?condParsed ?literal ?pathMissing ?pathTemplate ?pathText ?pathValue ?call
    ?ternary ?argsNil ?argsCons ?refused ?unparsed ?expand ?itemsNil ?itemsCons ?tag
    ?renderMissing ?noDisplay ?pathExpand ?pathPlain
  case nil =>
    intro scopes exp track
    simp only [renderNodes]
    exact .pure _
  case text =>
    intro s ns scopes exp track ih
    simp only [renderNodes]
    exact ih.bind fun _ => .pure _
  case expression =>
    intro raw source ns scopes exp track ihe ihn
    simp only [renderNodes]
    exact ihe.bind fun _ => ihn.bind fun _ => .pure _
  case block =>
    intro b ns scopes exp track ihb ihn
    simp only [renderNodes]
    exact ihb.bind fun _ => ihn.bind fun _ => .pure _
  case blockMk =>
    intro kind argument opening body otherwise scopes exp track ih
    cases kind
    case each =>
      obtain ⟨hitems, hother⟩ := ih
      simp only [renderBlock]
      refine (r.checkBudget_succeeds hb opening).bind fun _ => ?_
      split
      · exact hitems _
      · exact hother
    -- `#if` and `#unless` differ only in which branch a true argument takes
    all_goals
      obtain ⟨hcond, hbody, hother⟩ := ih
      simp only [renderBlock]
      exact (r.checkBudget_succeeds hb opening).bind fun _ =>
        hcond.bind fun _ => by split <;> assumption
  case condUnreadable =>
    intro argument scopes exp e he
    simp only [conditionHolds, he]
    exact .pure _
  case condParsed =>
    intro argument scopes exp parsed hp ih
    simp only [conditionHolds, hp]
    exact ih.bind fun _ => by split <;> exact .pure _
  case literal =>
    intro scopes exp v
    simp only [evaluate]
    exact .pure _
  case pathMissing =>
    intro scopes exp p hp
    simp only [evaluate, hp]
    exact .pure _
  case pathTemplate =>
    intro scopes exp p text snd hp htag ih
    simp only [evaluate, hp, htag, if_true]
    refine get_succeeds.bind fun before => ih.bind fun res => ?_
    split
    · exact get_succeeds.bind fun _ => by split <;> exact .pure _
    · exact .pure _
  case pathText =>
    intro scopes exp p text snd hp htag
    simp only [evaluate, hp, htag]
    exact .pure _
  case pathValue =>
    intro scopes exp p v snd hv hp
    cases v with
    | str text => exact absurd rfl (hv text)
    | _ =>
      simp only [evaluate, hp]
      exact .pure _
  case call =>
    intro scopes exp name args ih
    simp only [evaluate]
    refine ih.bind fun res => ?_
    split
    · split <;> exact .pure _
    · exact .pure _
  case ternary =>
    intro scopes exp c t f ihc iht ihf
    simp only [evaluate]
    refine ihc.bind fun res => ?_
    -- the condition's outcome picks a branch, or is passed on as it is
    split
    all_goals
      refine (Succeeds.pure _).bind fun holds => ?_
      split
      · exact iht
      · exact ihf
      · exact .pure _
  case argsNil =>
    intro name scopes exp acc
    simp only [evaluateArgs]
    exact .pure _
  case argsCons =>
    intro name a rest scopes exp acc iha ihv ihnull
    simp only [evaluateArgs]
    refine iha.bind fun res => ?_
    split
    · exact ihv _
    · split
      · exact ihnull
      · exact .pure _
    · exact .pure _
  case refused =>
    intro key text scopes exp hpush
    rw [expandValue]
    split
    next => exact (modify_succeeds _).bind fun _ => .pure _
    next h => cases hpush ▸ h
  case unparsed =>
    intro key text scopes exp inner hpush e he
    rw [expandValue]
    split
    next h => cases hpush ▸ h
    next =>
      rw [he]
      exact .pure _
  case expand =>
    intro key text scopes exp inner hpush nodes hn ih
    rw [expandValue]
    split
    next h => cases hpush ▸ h
    next inner' h =>
      obtain rfl : inner = inner' := Option.some.inj (hpush.symm.trans h)
      rw [hn]
      exact ih.map _
  case itemsNil =>
    intro body count scopes exp track
    simp only [renderItems]
    exact .pure _
  case itemsCons =>
    intro body key v i rest count scopes exp track scope ihb ihr
    simp only [renderItems]
    exact ihb.bind fun _ => ihr.bind fun _ => .pure _
  case tag =>
    intro raw source scopes exp track ihp ihe
    simp only [renderExpression]
    refine (r.checkBudget_succeeds hb source).bind fun _ => ?_
    split
    · exact .pure _
    · split
      · exact ihp _
      · exact .pure _
      · exact (ihe _).bind fun _ => by split <;> (try split) <;> exact .pure _
  case renderMissing =>
    intro raw p scopes exp track hp
    simp only [renderPath, hp]
    exact .pure _
  case noDisplay =>
    intro raw p scopes exp track v snd hp hd
    simp only [renderPath, hp, hd]
    exact .pure _
  case pathExpand =>
    intro raw p scopes exp track key v snd hp text hd htag ih
    simp only [renderPath, hp, hd, htag, if_true]
    exact ih.bind fun _ => by split <;> exact .pure _
  case pathPlain =>
    intro raw p scopes exp track v snd hp text hd htag
    simp only [renderPath, hp, hd, htag]
    exact (Succeeds.pure _).bind fun _ => by split <;> exact .pure _

end Renderer

section Stages

variable {content : String} {m : Metadata} {ctx : TemplateContext}

theorem renderExpressions_ok (hb : ctx.timeout.spent = false) :
    ∃ out, renderExpressions content m ctx = .ok out := by
  obtain ⟨-, -, -, -, -, -, -, hexpr, -⟩ := (ctx.renderer m).render_succeeds hb
  unfold renderExpressions
  by_cases htag : hasTag content
  · simp only [htag, Bool.not_true]
    refine (Succeeds.mapM fun seg _ => ?_).run'_bind _ fun parts => ⟨_, rfl⟩
    obtain ⟨seg, isTag⟩ := seg
    cases isTag
    · exact .pure _
    · simp only [Bool.not_true, Bool.false_eq_true, if_false]
      split
      · exact hexpr _ _ _ _ _
      all_goals exact .pure _
  · simp only [htag]
    exact ⟨content, rfl⟩

theorem expandBlocks_ok (hb : ctx.timeout.spent = false) {nodes : List Node}
    (hn : parseTemplate content = .ok nodes) : ∃ out, expandBlocks content m ctx = .ok out := by
  obtain ⟨-, hblock, -, -, -, -, -, -, -⟩ := (ctx.renderer m).render_succeeds hb
  unfold expandBlocks
  by_cases htag : hasTag content
  · simp only [htag, Bool.not_true, hn]
    refine (Succeeds.mapM fun n _ => ?_).run'_bind _ fun parts => ⟨_, rfl⟩
    cases n with
    | block b => exact hblock _ _ _ _
    | _ => exact .pure _
  · simp only [htag]
    exact ⟨content, rfl⟩

end Stages

/-- **Rendering ends with a text.**  For any text, metadata and settings whose budget is not
spent, evaluating the text's expressions gives a text, and rendering its blocks fails exactly
when the text holds a tag and is not a well-formed template, with that error: no cycle in the
metadata, however it is spelled, makes either stage fail or run on. -/
theorem rendering_terminates (content : String) (m : Metadata) (ctx : TemplateContext)
    (hb : ctx.timeout.spent = false) :
    (∃ out, renderExpressions content m ctx = .ok out) ∧
    ∀ e, expandBlocks content m ctx = .error e ↔
      hasTag content = true ∧ parseTemplate content = .error e := by
  refine ⟨renderExpressions_ok hb, fun e => ?_⟩
  by_cases htag : hasTag content
  · cases hparse : parseTemplate content with
    | error e' =>
      have hfail : expandBlocks content m ctx = .error e' := by
        unfold expandBlocks
        simp only [htag, Bool.not_true, hparse]
        rfl
      simp [hfail, htag]
    | ok nodes =>
      obtain ⟨out, hout⟩ : ∃ out, expandBlocks content m ctx = .ok out :=
        expandBlocks_ok hb hparse
      simp [hout]
  · have hplain : expandBlocks content m ctx = .ok content := by
      unfold expandBlocks
      simp only [htag]
      rfl
    simp [hplain, htag]

/-- Values that read themselves back, under another spelling and through each other. -/
theorem rendering_terminates_respelled :
    ({ today := ⟨2024, 1, 1⟩ } : TemplateContext).timeout.spent = false ∧
    (∃ out, renderExpressions "{{a}}, {{b}}" [("a", .str "{{this.a}}"), ("b", .str "{{a}}{{b}}")]
      { today := ⟨2024, 1, 1⟩ } = .ok out) ∧
    ∀ e, expandBlocks "{{a}}, {{b}}" [("a", .str "{{this.a}}"), ("b", .str "{{a}}{{b}}")]
        { today := ⟨2024, 1, 1⟩ } = .error e ↔
      hasTag "{{a}}, {{b}}" = true ∧ parseTemplate "{{a}}, {{b}}" = .error e :=
  ⟨rfl, rendering_terminates _ _ _ rfl⟩

end Covenant.Template
