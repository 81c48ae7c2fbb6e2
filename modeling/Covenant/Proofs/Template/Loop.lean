import Covenant.Proofs.Template.Independence
/-!
# Loops

An `#each` block goes over the items of a sequence or the entries of a mapping that its
argument names (`Value.loopItems`), when the argument reads as a path that resolves to a value
stored in the metadata and there is at least one item (`iterationSource_eq_some_iff`).  It then
renders its body once per item, in order, each time with one more innermost scope
(`Scope.item`): the item itself, its position, whether it is the first or the last, and, for a
mapping, its key.  Otherwise it renders its alternative once.  Either way the block first checks
the template budget, as every block does.

Inside the body paths are looked up in the scopes (`resolvePath`): `this` is the innermost
item, the loop variables are read off the innermost scope, each `../` starts the lookup one
scope further out, with nothing found when there are not that many scopes, and any other path
is looked up from its starting scope outwards to the root.

The main statement is `renderBlock_each`.
-/

namespace Covenant

/-- The entries a loop goes over in a value: the entries of a mapping with their keys, the
items of a sequence without keys, and none in any other value. -/
def Value.loopItems : Value → List (Option String × Value)
  | .obj es => es.map fun e => (some e.1, e.2)
  | .arr xs => xs.map fun x => (none, x)
  | _ => []

namespace Template

/-- The scope of the `i`-th of `n` items of a loop: the item, its position, whether it is the
first or the last, and its key when the loop goes over a mapping. -/
def Scope.item (key : Option String) (v : Value) (i n : Nat) : Scope :=
  { value := v, index := some i, key, first := decide (i = 0), last := decide (i = n - 1) }

/-- The names a path starts with that do not look a field up. -/
def loopNames : List String := ["this", "@index", "@first", "@last", "@key", "@today"]

/-- Mapping over a list with functions that agree on its members gives the same. -/
theorem mapM_congr_of_mem {m : Type → Type} [Monad m] [LawfulMonad m] {α β : Type}
    {f g : α → m β} :
    ∀ {l : List α}, (∀ x ∈ l, f x = g x) → l.mapM f = l.mapM g
  | [], _ => rfl
  | x :: l, h => by
    rw [List.mapM_cons, List.mapM_cons, h x List.mem_cons_self,
      mapM_congr_of_mem fun y hy => h y (List.mem_cons_of_mem x hy)]

namespace Renderer

variable (r : Renderer)

/-! ## Looking paths up -/

/-- Each `../` starts the lookup one scope further out; with too few scopes nothing is found. -/
theorem resolvePath_parents (j : Nat) (segs : List String) (scopes : List Scope) :
    r.resolvePath ⟨j, segs⟩ scopes =
      if j < scopes.length then r.resolvePath ⟨0, segs⟩ (scopes.drop j) else none := by
  split
  · rw [resolvePath, resolvePath, List.drop_zero]
  · rename_i hlen
    rw [resolvePath, List.drop_eq_nil_of_le (Nat.le_of_not_lt hlen)]

/-- `this` is the innermost scope's value. -/
theorem resolvePath_this (rest : List String) (s : Scope) (scopes : List Scope) :
    r.resolvePath ⟨0, "this" :: rest⟩ (s :: scopes) =
      (descend s.value rest).map (·, true) := by
  simp [resolvePath]

/-- A path that starts with no loop name is looked up from the innermost scope outwards, the
first scope that has it giving the value. -/
theorem resolvePath_field {first : String} (hfirst : first ∉ loopNames) (rest : List String)
    (s : Scope) (scopes : List Scope) :
    r.resolvePath ⟨0, first :: rest⟩ (s :: scopes) =
      ((s :: scopes).findSome? fun sc => descend sc.value (first :: rest)).map (·, true) := by
  simp only [loopNames, List.mem_cons, List.not_mem_nil, or_false, not_or] at hfirst
  obtain ⟨h1, h2, h3, h4, h5, h6⟩ := hfirst
  simp [resolvePath, h1, h2, h3, h4, h5, h6]

/-- The loop variables of an item's scope: its position, whether it is the first or the last,
and its key, which an item of a sequence does not have. -/
theorem resolvePath_item (key : Option String) (v : Value) (i n : Nat) (rest : List String)
    (scopes : List Scope) :
    r.resolvePath ⟨0, "@index" :: rest⟩ (Scope.item key v i n :: scopes) =
        some (.num (.int i), false) ∧
      r.resolvePath ⟨0, "@first" :: rest⟩ (Scope.item key v i n :: scopes) =
        some (.bool (decide (i = 0)), false) ∧
      r.resolvePath ⟨0, "@last" :: rest⟩ (Scope.item key v i n :: scopes) =
        some (.bool (decide (i = n - 1)), false) ∧
      r.resolvePath ⟨0, "@key" :: rest⟩ (Scope.item key v i n :: scopes) =
        key.map fun k => (.str k, false) := by
  refine ⟨?_, ?_, ?_, ?_⟩ <;> simp [resolvePath, Scope.item]

/-! ## What a loop goes over -/

variable {argument : String} {scopes : List Scope}

/-- A loop goes over the entries of a value stored at the path its argument names, if there are
any; an argument that is no path, a path that resolves to nothing or to a value made up by the
engine, and a value with no entries give nothing to go over. -/
theorem iterationSource_eq_some_iff (items : List (Option String × Value)) :
    r.iterationSource argument scopes = some items ↔
      ∃ p styles v, parseExpression argument = .ok ⟨.path p, styles⟩ ∧
        r.resolvePath p scopes = some (v, true) ∧ items = v.loopItems ∧ items ≠ [] := by
  unfold iterationSource
  constructor
  · intro h
    split at h
    · rename_i p styles hparse
      split at h
      · rename_i v hres
        -- the entries listed are the value's loop items
        refine ⟨p, styles, v, hparse, hres, ?_⟩
        cases v <;> simp_all [Value.loopItems] <;>
          (obtain ⟨hne, rfl⟩ := h; simpa using hne)
      · cases h
    · cases h
  · rintro ⟨p, styles, v, hparse, hres, rfl, hne⟩
    rw [hparse]
    dsimp only
    rw [hres]
    dsimp only
    cases v <;> simp_all [Value.loopItems]

variable {opening : String} {body otherwise : List Node} {exp : Expansions} {track : Bool}

/-- A loop with entries to go over checks the budget, then renders its body once per entry, in
order, each time with the entry's scope innermost, and joins the texts. -/
theorem renderBlock_each_some {items : List (Option String × Value)}
    (h : r.iterationSource argument scopes = some items) :
    r.renderBlock (.mk .each argument opening body otherwise) scopes exp track =
      (do r.checkBudget opening
          String.join <$> items.zipIdx.mapM fun item =>
            r.renderNodes body (Scope.item item.1.1 item.1.2 item.2 items.length :: scopes) exp
              track) := by
  rw [renderBlock]
  simp only [h, renderItems_eq]
  congr 1
  funext _
  congr 1
  refine mapM_congr_of_mem fun item hitem => ?_
  -- an entry's position is below the number of entries, so it is the last one when it is the
  -- `n - 1`-th
  have hlt : item.2 < items.length := (List.mem_zipIdx' hitem).1
  have hlast : decide (item.2 + 1 = items.length) = decide (item.2 = items.length - 1) :=
    decide_eq_decide.mpr (by omega)
  simp only [Scope.item, hlast]

/-- A loop with nothing to go over checks the budget, then renders its alternative once. -/
theorem renderBlock_each_none (h : r.iterationSource argument scopes = none) :
    r.renderBlock (.mk .each argument opening body otherwise) scopes exp track =
      (do r.checkBudget opening
          r.renderNodes otherwise scopes exp track) := by
  rw [renderBlock]
  simp only [h]

/-- **Loops.**  An `#each` block goes over the entries of the value stored at the path its
argument names, when there are any.  It then checks the budget and renders its body once per
entry, in order, each time with one more innermost scope that holds the entry, its position,
whether it is the first or the last, and its key when the value is a mapping, and joins the
texts; otherwise it checks the budget and renders its alternative once.  In those scopes `this`
is the entry, the loop variables are read off the entry's scope, `j` times `../` starts a lookup
`j` scopes further out (finding nothing when there are not that many scopes), and a path that
starts with no loop name is looked up from its starting scope outwards to the root. -/
theorem renderBlock_each (argument opening : String) (body otherwise : List Node)
    (scopes : List Scope) (exp : Expansions) (track : Bool) :
    (∀ items, r.iterationSource argument scopes = some items ↔
      ∃ p styles v, parseExpression argument = .ok ⟨.path p, styles⟩ ∧
        r.resolvePath p scopes = some (v, true) ∧ items = v.loopItems ∧ items ≠ []) ∧
    (∀ items, r.iterationSource argument scopes = some items →
      r.renderBlock (.mk .each argument opening body otherwise) scopes exp track =
        (do r.checkBudget opening
            String.join <$> items.zipIdx.mapM fun item =>
              r.renderNodes body (Scope.item item.1.1 item.1.2 item.2 items.length :: scopes) exp
                track)) ∧
    (r.iterationSource argument scopes = none →
      r.renderBlock (.mk .each argument opening body otherwise) scopes exp track =
        (do r.checkBudget opening
            r.renderNodes otherwise scopes exp track)) ∧
    (∀ key v i n rest,
      r.resolvePath ⟨0, "this" :: rest⟩ (Scope.item key v i n :: scopes) =
          (descend v rest).map (·, true) ∧
        r.resolvePath ⟨0, "@index" :: rest⟩ (Scope.item key v i n :: scopes) =
          some (.num (.int i), false) ∧
        r.resolvePath ⟨0, "@first" :: rest⟩ (Scope.item key v i n :: scopes) =
          some (.bool (decide (i = 0)), false) ∧
        r.resolvePath ⟨0, "@last" :: rest⟩ (Scope.item key v i n :: scopes) =
          some (.bool (decide (i = n - 1)), false) ∧
        r.resolvePath ⟨0, "@key" :: rest⟩ (Scope.item key v i n :: scopes) =
          key.map fun k => (.str k, false)) ∧
    (∀ j segs (ss : List Scope), r.resolvePath ⟨j, segs⟩ ss =
      if j < ss.length then r.resolvePath ⟨0, segs⟩ (ss.drop j) else none) ∧
    ∀ first rest (s : Scope) (ss : List Scope), first ∉ loopNames →
      r.resolvePath ⟨0, first :: rest⟩ (s :: ss) =
        ((s :: ss).findSome? fun sc => descend sc.value (first :: rest)).map (·, true) :=
  ⟨r.iterationSource_eq_some_iff, fun _ h => r.renderBlock_each_some h,
    r.renderBlock_each_none,
    fun key v i n rest =>
      ⟨r.resolvePath_this rest _ scopes, r.resolvePath_item key v i n rest scopes⟩,
    r.resolvePath_parents, fun _ rest s ss h => r.resolvePath_field h rest s ss⟩

end Renderer


/-- A loop over a stored one-entry list renders its body in the entry's scope, a loop with no
scopes to look in renders its alternative, and a field name is found in an outer scope. -/
theorem renderBlock_each_xs :
    (⟨.null, { today := ⟨2026, 1, 1⟩ }, false, ⟨9⟩⟩ : Renderer).iterationSource "xs"
        [{ value := .obj [("xs", .arr [.null])] }] = some [(none, .null)] ∧
      (⟨.null, { today := ⟨2026, 1, 1⟩ }, false, ⟨9⟩⟩ : Renderer).renderBlock
          (.mk .each "xs" "\x7b\x7b#each xs\x7d\x7d" [.text "b"] []) [{ value := .obj [("xs", .arr [.null])] }] .empty false =
        (do (⟨.null, { today := ⟨2026, 1, 1⟩ }, false, ⟨9⟩⟩ : Renderer).checkBudget "\x7b\x7b#each xs\x7d\x7d"
            String.join <$> [(none, .null)].zipIdx.mapM fun item =>
              (⟨.null, { today := ⟨2026, 1, 1⟩ }, false, ⟨9⟩⟩ : Renderer).renderNodes [.text "b"]
                (Scope.item item.1.1 item.1.2 item.2 1 :: [{ value := .obj [("xs", .arr [.null])] }]) .empty
                false) ∧
      (⟨.null, { today := ⟨2026, 1, 1⟩ }, false, ⟨9⟩⟩ : Renderer).iterationSource "xs" [] = none ∧
      (⟨.null, { today := ⟨2026, 1, 1⟩ }, false, ⟨9⟩⟩ : Renderer).renderBlock
          (.mk .each "xs" "\x7b\x7b#each xs\x7d\x7d" [.text "b"] [.text "e"]) [] .empty false =
        (do (⟨.null, { today := ⟨2026, 1, 1⟩ }, false, ⟨9⟩⟩ : Renderer).checkBudget "\x7b\x7b#each xs\x7d\x7d"
            (⟨.null, { today := ⟨2026, 1, 1⟩ }, false, ⟨9⟩⟩ : Renderer).renderNodes [.text "e"] [] .empty false) ∧
      "xs" ∉ loopNames ∧
      (⟨.null, { today := ⟨2026, 1, 1⟩ }, false, ⟨9⟩⟩ : Renderer).resolvePath ⟨0, ["xs"]⟩
          (Scope.item none .null 0 1 :: [{ value := .obj [("xs", .arr [.null])] }]) = some (.arr [.null], true) := by
  have hsome : (⟨.null, { today := ⟨2026, 1, 1⟩ }, false, ⟨9⟩⟩ : Renderer).iterationSource "xs"
      [{ value := .obj [("xs", .arr [.null])] }] = some [(none, .null)] := rfl
  have hnone : (⟨.null, { today := ⟨2026, 1, 1⟩ }, false, ⟨9⟩⟩ : Renderer).iterationSource "xs" [] = none := rfl
  have hname : "xs" ∉ loopNames := by decide
  refine ⟨hsome, (Renderer.renderBlock_each _ _ _ _ _ _ _ _).2.1 _ hsome, hnone,
    (Renderer.renderBlock_each _ _ _ _ _ _ _ _).2.2.1 hnone, hname, ?_⟩
  rw [(Renderer.renderBlock_each _ "xs" "\x7b\x7b#each xs\x7d\x7d" [] [] [] .empty false).2.2.2.2.2 _ _ _ _ hname]
  rfl

end Template

end Covenant
