import Covenant.Clause.Condition
/-!
# A condition is a chain of leaves

A condition's tokens split at the connective tokens (`AND`, `and`, `&&`, `OR`, `or`, `||`, each a
whole token of the longest-match lexer) into maximal runs of other tokens, one more run than
there are connectives (`runs`, `connectives`).  Each run is read alone as a leaf (`runValue`):

* a single word is the truthiness of that dotted path;
* a word, `=`, `==` or `!=`, and a readable operand is a loose comparison;
* any other run is malformed and false, whatever the runs around it are.

The main statement (`Condition.holds_parse`) says that a condition with no tokens holds, and that
any other condition has the value of its leaves folded strictly from left to right, each
connective applied to the value so far and the next leaf's value, with no precedence
(`Connective.chain`).
-/

namespace Covenant.Clause

/-! ## The chain of a token stream -/

/-- The connective a token stands for. -/
def Connective.ofToken? : Option Token → Option Connective
  | some .and => some .and
  | some .or => some .or
  | _ => none

/-- Whether a token is a connective. -/
def isConnective (t : Option Token × String) : Bool := (Connective.ofToken? t.1).isSome

/-- The maximal runs of tokens between connectives, in order. -/
def runs (toks : List (Option Token × String)) : List (List (Option Token × String)) :=
  toks.splitOnP isConnective

/-- The connectives of a token stream, in order. -/
def connectives (toks : List (Option Token × String)) : List Connective :=
  toks.filterMap fun t => Connective.ofToken? t.1

/-- A connective applied to the value so far and the next leaf's value. -/
def Connective.apply : Connective → Bool → Bool → Bool
  | .and, a, b => a && b
  | .or, a, b => a || b

/-- Values joined by connectives, folded strictly from left to right. -/
def Connective.chain : Bool → List (Connective × Bool) → Bool
  | acc, [] => acc
  | acc, (c, v) :: rest => chain (c.apply acc v) rest

/-- The comparison a token stands for. -/
def Comparison.ofToken? : Token → Option Comparison
  | .equals => some .equal
  | .notEquals => some .notEqual
  | _ => none

/-- A comparison applied to whether the two sides are loosely equal. -/
def Comparison.apply : Comparison → Bool → Bool
  | .equal, eq => eq
  | .notEqual, eq => !eq

/-- A token with its text, when the lexer could read it. -/
def readToken (t : Option Token × String) : Option (Token × String) := t.1.map (·, t.2)

/-- The value of a leaf of readable tokens: a word is the truthiness of its path, a word, a
comparison and a readable operand compare loosely, and anything else is false. -/
def leafValue (m : Metadata) : List (Token × String) → Bool
  | [(t, f)] => decide (t = .word) && Value.truthy (Metadata.lookup? m f)
  | [(t, f), (op, _), (ot, o)] =>
    decide (t = .word) &&
      match Comparison.ofToken? op, operandOf ot o with
      | some cmp, some operand => cmp.apply (looselyEqual (Metadata.lookup? m f) operand)
      | _, _ => false
  | _ => false

/-- The value of a run of tokens read alone as a leaf; a run with an unreadable piece is
false. -/
def runValue (m : Metadata) (run : List (Option Token × String)) : Bool :=
  ((run.mapM readToken).map (leafValue m)).getD false

/-! ## Splitting at connectives -/

/-- Splitting tokens with a run begun, in reverse, gives the leaves of the runs and the
connectives of the tokens. -/
theorem splitRuns_eq (toks run : List (Option Token × String)) :
    splitRuns toks run =
      ((toks.splitOnPPrepend isConnective run).map finishRun, connectives toks) := by
  induction toks generalizing run with
  | nil => rfl
  | cons t toks ih =>
      obtain ⟨tok, s⟩ := t
      -- a connective ends the run; any other token joins it
      rcases tok with _ | ⟨_ | _ | _ | _ | _ | _ | _⟩ <;>
        simp [splitRuns, List.splitOnPPrepend_cons_eq_if, connectives, isConnective,
          Connective.ofToken?, ih]

/-- There is one more run than there are connectives. -/
theorem length_splitOnPPrepend {α : Type} (p : α → Bool) (xs acc : List α) :
    (xs.splitOnPPrepend p acc).length = xs.countP p + 1 := by
  induction xs generalizing acc with
  | nil => rfl
  | cons x xs ih =>
      rw [List.splitOnPPrepend_cons_eq_if, List.countP_cons]
      by_cases hx : p x
      · rw [if_pos hx, if_pos hx, List.length_cons, List.splitOnP_eq_splitOnPPrepend, ih]
      · rw [if_neg hx, if_neg hx, ih, Nat.add_zero]

theorem length_runs (toks : List (Option Token × String)) :
    (runs toks).length = (connectives toks).length + 1 := by
  rw [runs, List.splitOnP_eq_splitOnPPrepend, length_splitOnPPrepend, connectives,
    List.length_filterMap_eq_countP]
  rfl

/-! ## Leaves -/

/-- Evaluating the leaf read from readable tokens gives their value. -/
theorem leafOf_holds (m : Metadata) (toks : List (Token × String)) :
    (leafOf toks).holds m = leafValue m toks := by
  -- a leaf is read only from one token or from three
  rcases toks with _ | ⟨⟨t, f⟩, _ | ⟨⟨op, s⟩, _ | ⟨⟨ot, o⟩, _ | ⟨x, rest⟩⟩⟩⟩
  · rfl
  · cases t <;> rfl
  · cases t <;> rfl
  · cases t <;> try rfl
    simp only [leafOf, leafValue, decide_true, Bool.true_and]
    cases op <;> cases h : operandOf ot o <;>
      simp [Comparison.ofToken?, Comparison.apply, Leaf.holds]
  · cases t <;> rfl

/-- Reading a run as a leaf and evaluating it gives the run's value. -/
theorem finishRun_holds (m : Metadata) (run : List (Option Token × String)) :
    (finishRun run).holds m = runValue m run := by
  unfold finishRun runValue
  split
  · rename_i toks hread
    -- the reader's test is `readToken`, pair by pair
    have hread' : run.mapM readToken = some toks := hread
    rw [hread']
    exact leafOf_holds m toks
  · rename_i hread
    have hread' : run.mapM readToken = none := hread
    rw [hread']
    rfl

/-! ## The value of a condition -/

/-- A condition whose first leaf is known folds its leaves' values left to right. -/
theorem holds_mk (m : Metadata) (l : Leaf) (rest : List (Connective × Leaf)) :
    (Condition.mk (some l) rest).holds m =
      Connective.chain (l.holds m) (rest.map fun p => (p.1, p.2.holds m)) := by
  unfold Condition.holds
  dsimp only
  generalize l.holds m = acc
  induction rest generalizing acc with
  | nil => rfl
  | cons p rest ih =>
      obtain ⟨c, leaf⟩ := p
      rw [List.foldl_cons, List.map_cons, Connective.chain]
      cases c <;> exact ih _

/-- **A condition is its chain of leaves.**  A condition with no tokens holds.  Otherwise its
tokens split at the connectives into one more run than there are connectives, and the
condition's value is the run values folded strictly from left to right: the first run's value,
then each connective applied to the value so far and the next run's value. -/
theorem Condition.holds_parse (s : String) (m : Metadata) :
    (runs (tokenize s)).length = (connectives (tokenize s)).length + 1 ∧
      (Condition.parse s).holds m =
        if (tokenize s).isEmpty then true
        else Connective.chain (runValue m ((runs (tokenize s)).headD []))
          ((connectives (tokenize s)).zip ((runs (tokenize s)).tail.map (runValue m))) := by
  refine ⟨length_runs _, ?_⟩
  unfold Condition.parse
  rcases h : tokenize s with _ | ⟨t, ts⟩
  · rfl
  · -- the runs are never empty: a first run and the rest
    obtain ⟨r, rs, hr⟩ := List.exists_cons_of_ne_nil (List.splitOnP_ne_nil isConnective (t :: ts))
    dsimp only
    rw [splitRuns_eq, ← List.splitOnP_eq_splitOnPPrepend]
    simp only [runs, hr, List.map_cons, List.head?_cons, List.tail_cons, List.headD_cons,
      List.isEmpty_cons, Bool.false_eq_true, if_false]
    rw [holds_mk, finishRun_holds]
    simp only [List.zip_map_right, List.map_map]
    congr 1
    refine List.map_congr_left fun p _ => ?_
    simp [finishRun_holds, Prod.map]

/-- `a OR b AND c` is `(a OR b) AND c`: with `a` set and `c` unset it fails. -/
example : (Condition.parse "a OR b AND c").holds [("a", .bool true)] = false := by decide

/-- Connectives are whole tokens: `order` and `ANDROID` are field names. -/
example : (Condition.parse "order").holds [("order", .bool true)] = true ∧
    (Condition.parse "ANDROID").holds [] = false := by decide

end Covenant.Clause
