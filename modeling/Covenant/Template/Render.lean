import Covenant.Template.Block
import Covenant.Template.Helper
import Covenant.Tracking
import Covenant.Value.Json
/-!
# Rendering templates

Templates render against the document metadata. Scopes stack up: the root scope is the
metadata, and each `#each` iteration adds a scope for its item, which knows the item's
position (`@index`, `@first`, `@last`) and, for a mapping, its key (`@key`).

## Looking up a path

`this` (with more segments after it) is the innermost scope's item; `@index`, `@first`,
`@last` and `@key` are its loop variables; `@today` is today's date. Any other path is
looked up in the innermost scope and then outwards. Each `../` starts the lookup one scope
further out.

## Expressions

A path renders as its value's display text. When that text holds a tag, it is rendered as a
template itself, up to 32 variables deep; a variable that is already being expanded (a
cycle) is left as written. Calls and ternaries are evaluated: an undefined argument leaves
the expression as written (except for `default`, `eq` and `not`, which see null), as does a
failing helper or a cycle met while expanding an argument. With tracking on, rendered values
are marked (`resolved` for paths, `computed` for calls and ternaries) and an undefined
field shows as a marked `[[field]]`; nested expansions are never marked.

## Blocks

`#if` renders its body when the argument is truthy and its alternative otherwise, `#unless`
the reverse; an unreadable or failing argument counts as false. `#each` renders its body once
per item of a non-empty sequence or entry of a non-empty mapping named by a path, and its
alternative otherwise.

A template budget of zero fails at the first block or expression; the library reads no clock.

## Why rendering ends

Values are templates read at run time, so no measure on the input alone bounds the
recursion. The variables being expanded form an `Expansions` stack, distinct and at most
`maxResolveDepth` deep by its type; an expansion pushes one more. Every call descends in the
lexicographic order of: expansions still possible, then nodes before tags before paths and
expressions, then the size of the nodes or expression at hand, then the items left in a loop.
-/

namespace Covenant.Template

/-- One lexical scope: a value and, inside a loop, the item's position and key. -/
structure Scope where
  value : Value
  index : Option Nat := none
  key : Option String := none
  first : Bool := false
  last : Bool := false

/-- The settings of one rendering. -/
structure Renderer where
  root : Value
  helpers : HelperContext
  trackFields : Bool
  budget : Budget

/-- What evaluating an expression gives. -/
inductive Evaluated where
  | value (v : Value)
  | missing (path : String)
  | cyclic
  | failed (e : HelperError)

/-- Rendering counts the cycles met so far, so that an argument can tell whether its own
expansion ran into one. -/
abbrev RenderM := StateT Nat (Except DocError)

/-- Variables nest at most this deep. -/
def maxResolveDepth : Nat := 32

/-- The variables being expanded, innermost first: distinct, and never more than
`maxResolveDepth` of them, so that no chain of nested expansions is longer. -/
structure Expansions where
  keys : List String
  nodup : keys.Nodup
  bounded : keys.length ≤ maxResolveDepth

/-- No variable is being expanded. -/
def Expansions.empty : Expansions := ⟨[], List.nodup_nil, Nat.zero_le _⟩

/-- Starts expanding `key`; refused when it is already being expanded (a cycle) or when
expansions already nest `maxResolveDepth` deep. -/
def Expansions.push? (exp : Expansions) (key : String) : Option Expansions :=
  if h : key ∈ exp.keys ∨ maxResolveDepth ≤ exp.keys.length then none
  else some ⟨key :: exp.keys, List.nodup_cons.mpr ⟨fun hk => h (.inl hk), exp.nodup⟩,
    by rw [List.length_cons]; omega⟩

/-- Expanding one more variable makes the chain longer. -/
theorem Expansions.length_lt_of_push? {exp inner : Expansions} {key : String}
    (h : exp.push? key = some inner) : exp.keys.length < inner.keys.length := by
  unfold push? at h
  split at h
  · cases h
  · cases h
    simp

/-- The value at the end of a path of segments. -/
def descend (v : Value) (segs : List String) : Option Value :=
  segs.foldlM Value.child? v

/-- Whether a text holds a tag opening `{{`. -/
def hasTag (s : String) : Bool :=
  (splitAtPair '{' '{' s.toList).isSome

namespace Renderer

/-- Fails when the budget is spent. -/
def checkBudget (r : Renderer) (expression : String) : RenderM Unit :=
  if r.budget.spent then throw (.templateTimeout expression r.budget.ms) else pure ()

/-- Looks a path up in the scopes (innermost first); the flag says whether the value is
stored in the metadata rather than made up (loop variables and today's date are made up). -/
def resolvePath (r : Renderer) (p : PathRef) (scopes : List Scope) : Option (Value × Bool) :=
  match scopes.drop p.parents with
  | [] => none
  | frame :: outer =>
    match p.segments with
    | [] => none
    | first :: rest =>
      if first = "this" then (descend frame.value rest).map (·, true)
      else if first = "@index" then frame.index.map fun i => (.num (.int i), false)
      else if first = "@first" then frame.index.map fun _ => (.bool frame.first, false)
      else if first = "@last" then frame.index.map fun _ => (.bool frame.last, false)
      else if first = "@key" then frame.key.map fun k => (.str k, false)
      else if first = "@today" then some (.str r.helpers.today.iso, false)
      else ((frame :: outer).findSome? fun s => descend s.value p.segments).map (·, true)

/-- The items an `#each` goes over: the items of a sequence or the entries of a mapping
stored in the metadata, if there are any. -/
def iterationSource (r : Renderer) (argument : String) (scopes : List Scope) :
    Option (List (Option String × Value)) :=
  match parseExpression argument with
  | .ok ⟨.path p, _⟩ =>
    match r.resolvePath p scopes with
    | some (v, true) =>
      let items := match v with
        | .arr xs => xs.map (none, ·)
        | .obj es => es.map fun (k, x) => (some k, x)
        | _ => []
      if items.isEmpty then none else some items
    | _ => none
  | _ => none

mutual

/-- Renders nodes in order. -/
def renderNodes (r : Renderer) : List Node → List Scope → Expansions → Bool → RenderM String
  | [], _, _, _ => pure ""
  | .text s :: ns, scopes, exp, track => do
    let rest ← renderNodes r ns scopes exp track
    pure (s ++ rest)
  | .expression raw source :: ns, scopes, exp, track => do
    let out ← renderExpression r raw source scopes exp track
    let rest ← renderNodes r ns scopes exp track
    pure (out ++ rest)
  | .block b :: ns, scopes, exp, track => do
    let out ← renderBlock r b scopes exp track
    let rest ← renderNodes r ns scopes exp track
    pure (out ++ rest)
termination_by nodes _ exp => (maxResolveDepth - exp.keys.length, 2, sizeOf nodes, 0)

/-- Renders a block. -/
def renderBlock (r : Renderer) : Block → List Scope → Expansions → Bool → RenderM String
  | .mk kind argument opening body otherwise, scopes, exp, track => do
    r.checkBudget opening
    match kind with
    | .each =>
      match r.iterationSource argument scopes with
      | some items => renderItems r body (items.zipIdx) items.length scopes exp track
      | none => renderNodes r otherwise scopes exp track
    | kind =>
      let holds ← conditionHolds r argument scopes exp
      if holds == (kind = .cond) then renderNodes r body scopes exp track
      else renderNodes r otherwise scopes exp track
termination_by b _ exp => (maxResolveDepth - exp.keys.length, 2, sizeOf b, 0)

/-- Renders a loop body once per item. -/
def renderItems (r : Renderer) : List Node → List ((Option String × Value) × Nat) → Nat →
    List Scope → Expansions → Bool → RenderM String
  | _, [], _, _, _, _ => pure ""
  | body, ((key, v), i) :: rest, count, scopes, exp, track => do
    let scope : Scope := { value := v, index := some i, key, first := i = 0, last := i + 1 = count }
    let out ← renderNodes r body (scope :: scopes) exp track
    let more ← renderItems r body rest count scopes exp track
    pure (out ++ more)
termination_by body items _ _ exp =>
  (maxResolveDepth - exp.keys.length, 2, sizeOf body, items.length)

/-- Whether a block's argument holds; unreadable or failing arguments do not. -/
def conditionHolds (r : Renderer) (argument : String) (scopes : List Scope) (exp : Expansions) :
    RenderM Bool :=
  match parseExpression argument with
  | .error _ => pure false
  | .ok parsed => do
    match ← evaluate r parsed.expr scopes exp with
    | .value v => pure (Value.truthy (some v))
    | _ => pure false
termination_by (maxResolveDepth - exp.keys.length, 1, 0, 0)

/-- Renders one tag. Whatever cannot be evaluated keeps its text, or becomes a marked
`[[field]]` when tracking. -/
def renderExpression (r : Renderer) (raw source : String) (scopes : List Scope)
    (exp : Expansions) (track : Bool) : RenderM String := do
  r.checkBudget source
  let track := track && r.trackFields
  match parseExpression source with
  | .error _ => pure raw
  | .ok parsed =>
    match parsed.expr with
    | .path p => renderPath r raw p scopes exp track
    | .literal v => pure (v.display.getD raw)
    | e =>
      match ← evaluate r e scopes exp with
      | .value v =>
        match v.display with
        | some text => pure (if track then markField .computed (Text.trim source) text else text)
        | none => pure raw
      | .missing path => pure (if track then markMissing path else raw)
      | .cyclic | .failed _ => pure raw
termination_by (maxResolveDepth - exp.keys.length, 1, 0, 0)

/-- Renders a path's value, expanding the tags it holds. -/
def renderPath (r : Renderer) (raw : String) (p : PathRef) (scopes : List Scope)
    (exp : Expansions) (track : Bool) : RenderM String := do
  let key := p.render
  match r.resolvePath p scopes with
  | none => pure (if track then markMissing key else raw)
  | some (v, _) =>
    match v.display with
    | none => pure raw
    | some text =>
      let expanded ← if hasTag text then expandValue r key text scopes exp
        else pure (some text)
      match expanded with
      | none => pure raw
      | some text => pure (if track then markField .resolved key text else text)
termination_by (maxResolveDepth - exp.keys.length, 0, 1, 0)

/-- Renders the tags inside the value of a variable; `none` when that variable is already
being expanded or variables nest too deep. -/
def expandValue (r : Renderer) (key text : String) (scopes : List Scope) (exp : Expansions) :
    RenderM (Option String) :=
  match h : exp.push? key with
  | none => do
    modify (· + 1)
    pure none
  | some inner =>
    match parseTemplate text with
    | .error _ => pure (some text)
    | .ok nodes => some <$> renderNodes r nodes scopes inner false
termination_by (maxResolveDepth - exp.keys.length, 0, 0, 0)
decreasing_by
  have := Expansions.length_lt_of_push? h
  have := inner.bounded
  exact Prod.Lex.left _ _ (by omega)

/-- Evaluates a call, ternary or argument. -/
def evaluate (r : Renderer) (e : Expr) (scopes : List Scope) (exp : Expansions) :
    RenderM Evaluated :=
  match e with
  | .literal v => pure (.value v)
  | .path p =>
    match r.resolvePath p scopes with
    | none => pure (.missing p.render)
    | some (.str text, _) =>
      if hasTag text then do
        let before ← get
        match ← expandValue r p.render text scopes exp with
        | some expanded => if (← get) = before then pure (.value (.str expanded)) else pure .cyclic
        | none => pure .cyclic
      else pure (.value (.str text))
    | some (v, _) => pure (.value v)
  | .call name args => do
    match ← evaluateArgs r name args scopes exp [] with
    | .ok values =>
      match callHelper name values r.helpers with
      | .ok v => pure (.value v)
      | .error err => pure (.failed err)
    | .error other => pure other
  | .ternary c t f => do
    let holds : Except Evaluated Bool ← match ← evaluate r c scopes exp with
      | .value v => pure (.ok (Value.truthy (some v)))
      | .missing _ => pure (.ok false)
      | other => pure (.error other)
    match holds with
    | .ok true => evaluate r t scopes exp
    | .ok false => evaluate r f scopes exp
    | .error other => pure other
termination_by (maxResolveDepth - exp.keys.length, 0, sizeOf e, 0)

/-- Evaluates call arguments in order; the first that is not a value ends the call, except
that helpers accepting undefined arguments get null for them. -/
def evaluateArgs (r : Renderer) : String → List Expr → List Scope → Expansions →
    List Value → RenderM (Except Evaluated (List Value))
  | _, [], _, _, acc => pure (.ok acc.reverse)
  | name, a :: rest, scopes, exp, acc => do
    match ← evaluate r a scopes exp with
    | .value v => evaluateArgs r name rest scopes exp (v :: acc)
    | .missing p =>
      if acceptsMissing name then evaluateArgs r name rest scopes exp (.null :: acc)
      else pure (.error (.missing p))
    | other => pure (.error other)
termination_by _ args _ exp => (maxResolveDepth - exp.keys.length, 0, sizeOf args, 0)

end

end Renderer

/-- The settings of one template pass. -/
structure TemplateContext where
  today : Calendar.Date
  locale : Calendar.Locale := .en
  dateFormat : String := Calendar.isoFormat
  trackFields : Bool := false
  timeout : Budget := ⟨5000⟩

/-- The renderer for a document's metadata. -/
def TemplateContext.renderer (ctx : TemplateContext) (m : Metadata) : Renderer :=
  { root := .obj m
    helpers := { today := ctx.today, locale := ctx.locale, dateFormat := ctx.dateFormat }
    trackFields := ctx.trackFields
    budget := ctx.timeout }

/-- Renders every block of a text, with the expressions inside them; top-level expressions
are kept as written for the expression stage. -/
def expandBlocks (content : String) (m : Metadata) (ctx : TemplateContext) :
    Except DocError String := do
  if !hasTag content then return content
  let nodes ← parseTemplate content
  let r := ctx.renderer m
  let scopes : List Scope := [{ value := r.root }]
  let parts ← (nodes.mapM fun (n : Node) =>
    match n with
    | .text s => pure s
    | .expression raw _ => pure raw
    | .block b => r.renderBlock b scopes .empty true).run' 0
  pure (String.join parts)

/-- Evaluates the top-level expressions of a text; block tags left at this point stay as
they are, and comments are dropped. -/
def renderExpressions (content : String) (m : Metadata) (ctx : TemplateContext) :
    Except DocError String := do
  if !hasTag content then return content
  let r := ctx.renderer m
  let scopes : List Scope := [{ value := r.root }]
  let parts ← ((splitExpressions content).mapM fun (seg, isTag) =>
    if !isTag then pure seg
    else match classifyTag seg with
      | .expression source => r.renderExpression seg source scopes .empty true
      | .comment => pure ""
      | _ => pure seg).run' 0
  pure (String.join parts)

end Covenant.Template
