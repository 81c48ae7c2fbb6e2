import Covenant.Proofs.Template.Notations
import Covenant.Proofs.Pipeline.Rerun
/-!
# Cross-references and template tags agree

A field of the metadata can be named two ways in a document: by a cross-reference `|p|`,
replaced by the reference stage, and by a template tag `{{ p }}`, rendered by the expression
stage. The two reach the value by different routes. A reference is found by its key pattern
and looked up with `Metadata.lookup?`; a tag is cut out of the text, classified, tokenized by
longest match, parsed (where a helper's name could start a call and `true` or `null` are
literals), and its path resolved in the scopes, with `this`, the loop variables and `@today`
read apart.

For a key `p` of the reference pattern that is no literal, not `else` and whose first segment
is not `this` (a `FieldKey`), the routes meet (`reference_agrees_with_tag`): the key is one path
token whose segments are those `lookup?` splits it into and whose text is the key again, and
resolving it at the root is `lookup?`. So when the field has a display text without a tag, both
give that text, marked as the same resolved field when tracking is on; when the field is
missing or has no display text and tracking is off, both keep what was written.

The template stage checks its time budget before each tag and the reference stage has none:
with a spent budget the tag fails where the reference is replaced
(`tag_fails_on_spent_budget`).
-/

namespace Covenant

open Template Text ExprParse

/-! ## Keys -/

namespace Reference

theorem ne_nil_of_isKey {cs : List Char} (h : isKey cs = true) : cs ≠ [] := by
  rintro rfl
  cases h

/-- A key starts with a letter or `_`. -/
theorem isKey_cons {c : Char} {cs : List Char} (h : isKey (c :: cs) = true) :
    (c.isAlpha || c = '_') = true := by
  cases hc : (c.isAlpha || decide (c = '_'))
  · have hstep : keyStep .start c = none := by simp [keyStep, hc]
    simp [isKey, List.foldlM_cons, hstep] at h
  · rfl

/-- A letter's code lies in `A`–`Z` or `a`–`z`. -/
theorem toNat_of_isAlpha {c : Char} (h : c.isAlpha = true) :
    (65 ≤ c.toNat ∧ c.toNat ≤ 90) ∨ (97 ≤ c.toNat ∧ c.toNat ≤ 122) := by
  have h' : (decide (c.val ≥ 'A'.val ∧ c.val ≤ 'Z'.val) ||
      (decide (c.val ≥ 'a'.val) && decide (c.val ≤ 'z'.val))) = true := h
  simp only [Bool.or_eq_true, Bool.and_eq_true, decide_eq_true_eq, UInt32.le_iff_toNat_le] at h'
  exact h'

/-- A letter or digit's code lies in `0`–`9`, `A`–`Z` or `a`–`z`. -/
theorem toNat_of_isAlphanum {c : Char} (h : c.isAlphanum = true) :
    (48 ≤ c.toNat ∧ c.toNat ≤ 57) ∨ (65 ≤ c.toNat ∧ c.toNat ≤ 90) ∨
      (97 ≤ c.toNat ∧ c.toNat ≤ 122) := by
  have h' : (c.isAlpha || c.isDigit) = true := h
  rcases Bool.or_eq_true_iff.mp h' with ha | hd
  · exact .inr (toNat_of_isAlpha ha)
  · exact .inl (Char.isDigit_iff_toNat.mp hd)

theorem isAlphanum_of_isAlpha {c : Char} (h : c.isAlpha = true) : c.isAlphanum = true := by
  show (c.isAlpha || c.isDigit) = true
  rw [h, Bool.true_or]

/-- A letter or `_` lies above every character of punctuation, digit and blank that could
start another token. -/
theorem toNat_of_keyStart {c : Char} (h : (c.isAlpha || c = '_') = true) : 65 ≤ c.toNat := by
  rcases Bool.or_eq_true_iff.mp h with h | h
  · rcases toNat_of_isAlpha h with h | h
    · exact h.1
    · exact Nat.le_trans (by decide) h.1
  · rw [of_decide_eq_true h]
    decide

/-- A key is a first character at or above `A`, and the rest. -/
theorem exists_cons_of_isKey {cs : List Char} (h : isKey cs = true) :
    ∃ c r, cs = c :: r ∧ 65 ≤ c.toNat := by
  obtain ⟨c, r, rfl⟩ := List.exists_cons_of_ne_nil (ne_nil_of_isKey h)
  exact ⟨c, r, rfl, toNat_of_keyStart (isKey_cons h)⟩

/-- The state of the path automaton that a key's state stands for. -/
def KeyState.toPath : KeyState → PathState
  | .start => .start
  | .segment => .segment
  | .dot => .dot

/-- Every step a key takes, a path takes too: keys are paths without `@` and `$`. -/
theorem pathStep_of_keyStep {s s' : KeyState} {c : Char} (h : keyStep s c = some s') :
    pathStep s.toPath c = some s'.toPath := by
  cases s with
  | start =>
    -- a letter or `_`
    simp only [keyStep] at h
    split at h
    · cases h
      simp_all [pathStep, KeyState.toPath]
    · cases h
  | segment =>
    -- a segment character, or the dot that ends the segment
    simp only [keyStep] at h
    split at h
    · cases h
      simp_all [pathStep, pathChar, KeyState.toPath]
    · split at h
      · cases h
        rename_i hdot
        subst hdot
        simp [pathStep, pathChar, KeyState.toPath]
      · cases h
  | dot =>
    simp only [keyStep] at h
    split at h
    · cases h
      simp_all [pathStep, pathChar, KeyState.toPath]
    · cases h

theorem walk_of_foldlM : ∀ (cs : List Char) (s s' : KeyState), cs.foldlM keyStep s = some s' →
    walk pathStep cs s.toPath = some s'.toPath
  | [], s, s', h => by
    simp only [List.foldlM_nil] at h
    cases h
    rfl
  | c :: cs, s, s', h => by
    rw [List.foldlM_cons] at h
    cases hs : keyStep s c with
    | none => simp [hs] at h
    | some s₁ =>
      rw [hs] at h
      simp only [walk, pathStep_of_keyStep hs, Option.bind_some]
      exact walk_of_foldlM cs s₁ s' h

theorem walk_of_isKey {cs : List Char} (h : isKey cs = true) :
    walk pathStep cs .start = some .segment := by
  unfold isKey at h
  cases hk : cs.foldlM keyStep .start with
  | none => simp [hk] at h
  | some s =>
    cases s with
    | segment => exact walk_of_foldlM cs .start .segment hk
    | start => simp [hk] at h
    | dot => simp [hk] at h

/-- The characters a key is made of. -/
def keyChar (c : Char) : Bool := c.isAlphanum || c = '_' || c = '-' || c = '.'

theorem keyChar_of_keyStep {s s' : KeyState} {c : Char} (h : keyStep s c = some s') :
    keyChar c = true := by
  simp only [keyChar, Bool.or_eq_true, decide_eq_true_eq]
  cases s with
  | start =>
    simp only [keyStep] at h
    split at h
    · simp only [Bool.or_eq_true, decide_eq_true_eq] at *
      grind [isAlphanum_of_isAlpha]
    · cases h
  | segment =>
    simp only [keyStep] at h
    split at h
    · simp only [Bool.or_eq_true, decide_eq_true_eq] at *
      grind
    · split at h
      · exact .inr ‹_›
      · cases h
  | dot =>
    simp only [keyStep] at h
    split at h
    · simp only [Bool.or_eq_true, decide_eq_true_eq] at *
      grind
    · cases h

theorem keyChar_of_foldlM : ∀ (cs : List Char) (s s' : KeyState), cs.foldlM keyStep s = some s' →
    ∀ c ∈ cs, keyChar c = true
  | [], _, _, _ => by simp
  | d :: cs, s, s', h => by
    rw [List.foldlM_cons] at h
    cases hs : keyStep s d with
    | none => simp [hs] at h
    | some s₁ =>
      rw [hs] at h
      intro c hc
      rcases List.mem_cons.mp hc with rfl | hc
      · exact keyChar_of_keyStep hs
      · exact keyChar_of_foldlM cs s₁ s' h c hc

theorem keyChar_of_isKey {cs : List Char} (h : isKey cs = true) : ∀ c ∈ cs, keyChar c = true := by
  unfold isKey at h
  cases hk : cs.foldlM keyStep .start with
  | none => simp [hk] at h
  | some s => exact keyChar_of_foldlM cs .start s hk

theorem not_mem_of_isKey {cs : List Char} (h : isKey cs = true) {d : Char} (hd : keyChar d = false) :
    d ∉ cs :=
  fun hmem => by rw [keyChar_of_isKey h d hmem] at hd; cases hd

/-- Key characters are ASCII letters, digits, `_`, `-` and `.`. -/
theorem toNat_of_keyChar {c : Char} (h : keyChar c = true) :
    (45 ≤ c.toNat ∧ c.toNat ≤ 57) ∨ (65 ≤ c.toNat ∧ c.toNat ≤ 122) := by
  simp only [keyChar, Bool.or_eq_true, decide_eq_true_eq] at h
  rcases h with ((h | rfl) | rfl) | rfl
  · rcases toNat_of_isAlphanum h with ⟨h1, h2⟩ | ⟨h1, h2⟩ | ⟨h1, h2⟩
    · exact .inl ⟨Nat.le_trans (by decide) h1, h2⟩
    · exact .inr ⟨h1, Nat.le_trans h2 (by decide)⟩
    · exact .inr ⟨Nat.le_trans (by decide) h1, h2⟩
  all_goals decide

theorem isBlank_of_keyChar {c : Char} (h : keyChar c = true) : isBlank c = false := by
  have hc := toNat_of_keyChar h
  unfold isBlank
  simp only [Bool.or_eq_false_iff, Bool.and_eq_false_iff, decide_eq_false_iff_not, beq_eq_false_iff_ne]
  omega

/-- A dot is read only after a segment, and leads to a new one. -/
theorem keyStep_dot {s s' : KeyState} (h : keyStep s '.' = some s') : s = .segment ∧ s' = .dot := by
  cases s with
  | start => simp [keyStep] at h
  | segment =>
    simp only [keyStep] at h
    have hdot : '.'.isAlphanum = false := rfl
    exact ⟨rfl, by simpa [hdot] using h.symm⟩
  | dot => simp [keyStep] at h

theorem keyStep_of_ne_dot {s s' : KeyState} {c : Char} (hc : c ≠ '.') (h : keyStep s c = some s') :
    s' = .segment := by
  cases s <;> simp only [keyStep, hc, if_false] at h
  all_goals
    split at h
    · cases h
      rfl
    · cases h

/-- The pieces of a key between its dots are never empty: after a segment's first character
only the piece begun before may be empty, and before it none is. -/
theorem splitOnP_of_foldlM : ∀ (cs : List Char) (s : KeyState), cs.foldlM keyStep s = some .segment →
    (∀ seg ∈ (cs.splitOnP (· = '.')).tail, seg ≠ []) ∧
      (s ≠ .segment → ∀ seg ∈ (cs.splitOnP (· = '.')).head?, seg ≠ [])
  | [], s, h => by
    cases h
    exact ⟨by simp, fun hs => absurd rfl hs⟩
  | c :: cs, s, h => by
    rw [List.foldlM_cons] at h
    cases hs : keyStep s c with
    | none => simp [hs] at h
    | some s₁ =>
      rw [hs] at h
      have ih := splitOnP_of_foldlM cs s₁ h
      rw [List.splitOnP_cons_eq_if_modifyHead]
      by_cases hc : c = '.'
      · -- a dot closes the segment before it and opens a new one
        subst hc
        obtain ⟨rfl, rfl⟩ := keyStep_dot hs
        simp only [decide_true, if_true, List.tail_cons]
        refine ⟨fun seg hseg => ?_, fun hs' => absurd rfl hs'⟩
        obtain ⟨x, xs, hx⟩ := List.exists_cons_of_ne_nil (List.splitOnP_ne_nil (· = '.') cs)
        rw [hx] at hseg ih
        rcases List.mem_cons.mp hseg with rfl | hseg
        · exact ih.2 (by simp) seg rfl
        · exact ih.1 seg hseg
      · -- any other character joins the current segment
        have := keyStep_of_ne_dot hc hs
        subst this
        simp only [decide_eq_true_eq, hc, if_false]
        obtain ⟨x, xs, hx⟩ := List.exists_cons_of_ne_nil (List.splitOnP_ne_nil (· = '.') cs)
        rw [hx] at ih ⊢
        simp only [List.modifyHead_cons, List.tail_cons, List.head?_cons, Option.mem_some_iff]
        exact ⟨ih.1, fun _ seg hseg => hseg ▸ List.cons_ne_nil _ _⟩

theorem splitOnP_of_isKey {cs : List Char} (h : isKey cs = true) :
    ∀ seg ∈ cs.splitOnP (· = '.'), seg ≠ [] := by
  have hfold : cs.foldlM keyStep .start = some .segment := by
    unfold isKey at h
    cases hk : cs.foldlM keyStep .start with
    | none => simp [hk] at h
    | some s => cases s <;> simp_all
  have hsegs := splitOnP_of_foldlM cs .start hfold
  obtain ⟨x, xs, hx⟩ := List.exists_cons_of_ne_nil (List.splitOnP_ne_nil (· = '.') cs)
  rw [hx] at hsegs ⊢
  intro seg hseg
  rcases List.mem_cons.mp hseg with rfl | hseg
  · exact hsegs.2 (by simp) seg rfl
  · exact hsegs.1 seg hseg

end Reference

/-- A key that a cross-reference and a template tag both name as a field: it matches the
reference pattern, it is no literal of the expression language and not `else`, and its first
segment is not `this`. -/
structure FieldKey (p : String) : Prop where
  key : Reference.isKey p.toList = true
  notWord : p ∉ ["true", "false", "null", "undefined", "else"]
  notThis : (Value.pathSegments p).head? ≠ some "this"

/-- A field key is no literal of the expression language. -/
theorem FieldKey.not_literal {p : String} (hp : FieldKey p) :
    p ∉ ["true", "false", "null", "undefined"] := fun h =>
  hp.notWord (List.mem_append_left ["else"] h)

/-! ## A key is one path token -/

namespace Template

/-- An automaton that reads a whole non-empty word and stands in an accepting state has
matched all of it. -/
theorem runAutomaton_accept_of_walk {σ : Type} (step : σ → Char → Option σ) (accepts : σ → Bool) :
    ∀ (u : List Char) (s s' : σ) (n : Nat) (last : Option Nat), walk step u s = some s' →
      accepts s' = true → u ≠ [] →
        (runAutomaton step accepts u s n last).accept = some (n + u.length)
  | [], _, _, _, _, _, _, hne => absurd rfl hne
  | [c], s, s', n, last, h, hacc, _ => by
    simp only [walk, Option.bind_eq_some_iff, Option.some.injEq, exists_eq_right] at h
    simp [runAutomaton, h, hacc]
  | c :: d :: u, s, s', n, last, h, hacc, _ => by
    simp only [walk] at h
    cases hs : step s c with
    | none => simp [hs] at h
    | some s₁ =>
      rw [hs, Option.bind_some] at h
      rw [runAutomaton, hs]
      dsimp only
      rw [runAutomaton_accept_of_walk step accepts (d :: u) s₁ s' (n + 1) _ h hacc
        (List.cons_ne_nil _ _)]
      simp only [List.length_cons]
      congr 1
      omega

theorem ne_of_toNat_lt {c d : Char} (hc : 65 ≤ c.toNat) (hd : d.toNat < 65) : c ≠ d ∧ d ≠ c := by
  constructor
  all_goals
    rintro rfl
    omega

/-- On a key, only paths match, and they match the whole key. -/
theorem longest_reaches_key {cs : List Char} (hk : Reference.isKey cs = true) :
    longest (reaches cs) = (some .path, cs.length) := by
  obtain ⟨c, r, rfl, h65⟩ := Reference.exists_cons_of_isKey hk
  have hdigit : c.isDigit = false := by
    cases hd : c.isDigit
    · rfl
    · have : c.toNat ≤ 57 := (Char.isDigit_iff_toNat.mp hd).2
      omega
  unfold reaches
  generalize hR : runAutomaton pathStep _ (c :: r) PathState.start 0 none = R
  have hacc : R.accept = some (c :: r).length := by
    rw [← hR, ← Nat.zero_add (c :: r).length]
    exact runAutomaton_accept_of_walk _ _ _ _ _ 0 none (Reference.walk_of_isKey hk) rfl
      (List.cons_ne_nil _ _)
  -- every other kind refuses the key's first character
  have h1 := ne_of_toNat_lt h65 (d := '(') (by decide)
  have h2 := ne_of_toNat_lt h65 (d := ')') (by decide)
  have h3 := ne_of_toNat_lt h65 (d := ',') (by decide)
  have h4 := ne_of_toNat_lt h65 (d := '?') (by decide)
  have h5 := ne_of_toNat_lt h65 (d := ':') (by decide)
  have h6 := ne_of_toNat_lt h65 (d := '.') (by decide)
  have h7 := ne_of_toNat_lt h65 (d := '"') (by decide)
  have h8 := ne_of_toNat_lt h65 (d := '\'') (by decide)
  have h9 := ne_of_toNat_lt h65 (d := '-') (by decide)
  simp [literalReach, quotedReach, runAutomaton, numberStep, hdigit, longest, hacc, h1.2, h2.2,
    h3.2, h4.2, h5.2, h6.2, h7.1, h8.1, h9.1]

/-- A key that is no literal is one path token: the key itself. -/
theorem tokenizeExpression_key {p : String} (hk : Reference.isKey p.toList = true)
    (hlit : p ∉ ["true", "false", "null", "undefined"]) :
    tokenizeExpression p = .ok [⟨.path p, 0, byteLength p.toList⟩] := by
  simp only [List.mem_cons, List.not_mem_nil, or_false, not_or] at hlit
  obtain ⟨h1, h2, h3, h4⟩ := hlit
  obtain ⟨c, r, hp, h65⟩ := Reference.exists_cons_of_isKey hk
  have hgap : isGap c = false := by
    simp [isGap, (ne_of_toNat_lt h65 (d := ' ') (by decide)).1,
      (ne_of_toNat_lt h65 (d := '\t') (by decide)).1, (ne_of_toNat_lt h65 (d := '\r') (by decide)).1,
      (ne_of_toNat_lt h65 (d := '\n') (by decide)).1]
  have ht : rawToken .path ((c :: r).take (c :: r).length) = some (.path p) := by
    rw [List.take_length, ← hp]
    simp [rawToken, String.ofList_toList, h1, h2, h3, h4]
  unfold tokenizeExpression
  rw [← String.length_toList, hp, tokenizeFrom_token hgap _ 0 (longest_reaches_key (hp ▸ hk)) ht,
    List.drop_length, tokenizeFrom_nil, List.take_length, ← hp, Nat.zero_add]
  rfl

/-- A single path token reads as that path: nothing follows it to make a call. -/
theorem parseExpression_of_path_token {src p : String} {a b : Nat}
    (ht : tokenizeExpression src = .ok [⟨.path p, a, b⟩]) :
    parseExpression src = .ok ⟨.path (PathRef.ofText p 0), {}⟩ := by
  have hatom : (atom (4 * 1 + 6)).run { tokens := [⟨.path p, a, b⟩].toArray } =
      .ok (.path (PathRef.ofText p 0), ⟨[⟨.path p, a, b⟩].toArray, 1, {}⟩) :=
    atom_path rfl rfl
  have hcall := (call_of_not_opensCall (n := 4 * 1 + 6)
    (by rintro ⟨name, x, y, t, -, -, h1, -⟩; cases h1)).trans hatom
  exact parseExpression_of_run ht (List.cons_ne_nil _ _)
    (ternary_plain hcall fun sp hsp => by cases hsp) rfl

/-- The segments of a key are its pieces between dots, none of them dropped as empty. -/
theorem pathSegments_of_isKey {p : String} (hk : Reference.isKey p.toList = true) :
    Value.pathSegments p = (p.toList.splitOnP (· = '.')).map String.ofList := by
  unfold Value.pathSegments
  rw [List.filter_eq_self]
  intro seg hseg
  obtain ⟨cs, hcs, rfl⟩ := List.mem_map.mp hseg
  simpa [String.ofList_eq_empty_iff] using Reference.splitOnP_of_isKey hk cs hcs

/-- A key's path is written back as the key. -/
theorem render_ofText_key {p : String} (hk : Reference.isKey p.toList = true) :
    (PathRef.ofText p 0).render = p := by
  have hsplit : p.toList.splitOnP (· = '.') = p.toList.splitOn '.' := List.splitOn_eq_splitOnP.symm
  rw [← String.toList_inj]
  simp only [PathRef.render, PathRef.ofText, List.replicate_zero, String.join_nil,
    String.empty_append, pathSegments_of_isKey hk, String.toList_intercalate, List.map_map]
  have hid : (String.toList ∘ String.ofList) = id := funext fun cs => String.toList_ofList
  rw [hid, List.map_id, hsplit]
  exact List.intercalate_splitOn '.'

/-- The first piece of a text that does not start with a dot starts with its first character. -/
theorem splitOnP_dot_cons {c : Char} (hc : c ≠ '.') (r : List Char) :
    ∃ x rest, (c :: r).splitOnP (· = '.') = (c :: x) :: rest := by
  obtain ⟨x, rest, h⟩ := List.exists_cons_of_ne_nil (List.splitOnP_ne_nil (· = '.') r)
  rw [List.splitOnP_cons_eq_if_modifyHead, h]
  exact ⟨x, rest, by simp [hc]⟩

/-- A text starting with `c` is none of the texts starting with `d ≠ c`. -/
theorem ofList_cons_ne {c d : Char} {x : List Char} {s : String} (hs : s.toList.head? = some d)
    (hcd : c ≠ d) : String.ofList (c :: x) ≠ s := by
  rintro rfl
  simp only [String.toList_ofList, List.head?_cons, Option.some.injEq] at hs
  exact hcd hs

/-- At the root, a field key is looked up in the metadata: no loop variable or date starts
with a letter or `_`, and its first segment is not `this`. -/
theorem Renderer.resolvePath_key (r : Renderer) (m : Metadata) {p : String} (hp : FieldKey p) :
    r.resolvePath (PathRef.ofText p 0) [{ value := .obj m }] =
      (Metadata.lookup? m p).map (·, true) := by
  obtain ⟨c, cs, hcs, h65⟩ := Reference.exists_cons_of_isKey hp.key
  obtain ⟨x, rest, hsplit⟩ := splitOnP_dot_cons (ne_of_toNat_lt h65 (d := '.') (by decide)).1 cs
  have hsegs : Value.pathSegments p = String.ofList (c :: x) :: rest.map String.ofList := by
    rw [pathSegments_of_isKey hp.key, hcs, hsplit, List.map_cons]
  have hthis : String.ofList (c :: x) ≠ "this" := fun h => hp.notThis (by rw [hsegs, h]; rfl)
  have hat : c ≠ '@' := (ne_of_toNat_lt h65 (by decide)).1
  have h1 := ofList_cons_ne (x := x) (s := "@index") rfl hat
  have h2 := ofList_cons_ne (x := x) (s := "@first") rfl hat
  have h3 := ofList_cons_ne (x := x) (s := "@last") rfl hat
  have h4 := ofList_cons_ne (x := x) (s := "@key") rfl hat
  have h5 := ofList_cons_ne (x := x) (s := "@today") rfl hat
  -- the first segment is only ever compared with the special names
  generalize String.ofList (c :: x) = first at hsegs hthis h1 h2 h3 h4 h5
  simp [resolvePath, PathRef.ofText, hsegs, hthis, h1, h2, h3, h4, h5, descend, Metadata.lookup?,
    Value.child?]

/-! ## A key's tag -/

/-- A pair cannot start in a text without its first half, nor at the text's last character. -/
theorem splitAtPair_snoc_of_not_mem {a b : Char} {cs : List Char} (h : a ∉ cs) :
    splitAtPair a b (cs ++ [a]) = none := by
  induction cs with
  | nil => rfl
  | cons x xs ih =>
      simp only [List.mem_cons, not_or] at h
      obtain ⟨y, t, hyt⟩ := List.exists_cons_of_ne_nil (List.append_ne_nil_of_right_ne_nil xs
        (List.cons_ne_nil a []))
      have hxy : ¬ (x = a && y = b) = true := by
        simp only [Bool.and_eq_true, decide_eq_true_eq]
        exact fun hxy => h.1 hxy.1.symm
      rw [List.cons_append, hyt, splitAtPair_cons_cons, if_neg hxy, ← hyt, ih h.2]
      rfl

/-- A text without `{` holds no tag. -/
theorem hasTag_of_not_mem {s : String} (h : '{' ∉ s.toList) : hasTag s = false := by
  simp [hasTag, splitAtPair_eq_none_of_append ['{'] (splitAtPair_snoc_of_not_mem (b := '{') h)]

/-- A tag with no `}` inside is one tag on its own. -/
theorem splitExpressions_tagChars {inner : List Char} (h : '}' ∉ inner) :
    splitExpressions (String.ofList (tagChars inner)) = [(String.ofList (tagChars inner), true)] := by
  have hin : TagInside inner := splitAtPair_snoc_of_not_mem h
  have hlen : (String.ofList (tagChars inner)).length = (inner.length + 3) + 1 := by
    rw [← String.length_toList, String.toList_ofList, length_tagChars]
  rw [splitExpressions_eq, hlen, String.toList_ofList, ← List.append_nil (tagChars inner),
    splitChars_tag hin, splitChars_of_none rfl, List.append_nil]
  rfl

/-- The inside of a tag is what stands between its braces. -/
theorem tagInner_tagChars (inner : List Char) :
    tagInner (String.ofList (tagChars inner)) = String.ofList inner := by
  simp [tagInner, tagChars]

/-- Trimming drops blank margins around a text that neither starts nor ends with a blank. -/
theorem trim_blanks_around {pre cs post : List Char} (hpre : ∀ c ∈ pre, isBlank c = true)
    (hpost : ∀ c ∈ post, isBlank c = true) (hne : cs ≠ [])
    (hfirst : ∀ c ∈ cs.head?, isBlank c = false) (hlast : ∀ c ∈ cs.getLast?, isBlank c = false) :
    trim (String.ofList (pre ++ cs ++ post)) = String.ofList cs := by
  unfold trim trimStart trimEnd
  simp only [String.toList_ofList]
  have hhead : ∀ c ∈ (cs ++ post).head?, isBlank c = false := by
    rwa [List.head?_append, Option.or_of_isSome (Option.isSome_iff_ne_none.mpr (by simpa using hne))]
  rw [List.append_assoc, List.dropWhile_append_of_pos hpre, List.dropWhile_of_head hhead,
    List.reverse_append, List.dropWhile_append_of_pos (by simpa using hpost),
    List.dropWhile_of_head (by rwa [List.head?_reverse]), List.reverse_reverse]

/-- The tag `{{ p }}` of a field key, as the characters of a tag. -/
theorem keyTag_eq_tagChars (p : String) :
    "\x7b\x7b " ++ p ++ " \x7d\x7d" = String.ofList (tagChars (' ' :: p.toList ++ [' '])) := by
  rw [← String.toList_inj]
  simp [tagChars]

/-- The tag of a field key is an expression tag whose source is the key. -/
theorem classifyTag_key {p : String} (hp : FieldKey p) :
    classifyTag ("\x7b\x7b " ++ p ++ " \x7d\x7d") = .expression p := by
  obtain ⟨c, cs, hcs, h65⟩ := Reference.exists_cons_of_isKey hp.key
  have hblank : ∀ d ∈ p.toList, isBlank d = false := fun d hd =>
    Reference.isBlank_of_keyChar (Reference.keyChar_of_isKey hp.key d hd)
  have hspace : ∀ d ∈ [' '], isBlank d = true := fun d hd => by
    rw [List.mem_singleton.mp hd]
    decide
  have htrim : trim (String.ofList ([' '] ++ p.toList ++ [' '])) = p := by
    rw [trim_blanks_around hspace hspace (hcs ▸ List.cons_ne_nil c cs)
      (fun d hd => hblank d (List.mem_of_head? hd)) (fun d hd => hblank d (List.mem_of_getLast? hd)),
      String.ofList_toList]
  have helse : p ≠ "else" := fun h => hp.notWord (by simp [h])
  simp only [List.singleton_append] at htrim
  rw [keyTag_eq_tagChars]
  unfold classifyTag
  rw [tagInner_tagChars, htrim]
  simp [hcs, (ne_of_toNat_lt h65 (d := '!') (by decide)).1,
    (ne_of_toNat_lt h65 (d := '/') (by decide)).1, (ne_of_toNat_lt h65 (d := '#') (by decide)).1,
    helse]

/-! ## Rendering a path -/

namespace Renderer

variable (r : Renderer) {raw : String} {q : PathRef} {scopes : List Scope} {exp : Expansions}

/-- A path whose value has a text without tags renders as that text, marked as the path's
field when tracking. -/
theorem renderPath_of_display {v : Value} {s : Bool} {t : String}
    (hres : r.resolvePath q scopes = some (v, s)) (hd : v.display = some t)
    (htag : hasTag t = false) (track : Bool) :
    r.renderPath raw q scopes exp track =
      pure (if track then markField .resolved q.render t else t) := by
  simp only [renderPath, hres, hd, htag, Bool.false_eq_true, if_false, pure_bind]

/-- A path whose value has no text stays as written. -/
theorem renderPath_of_no_display {v : Value} {s : Bool} (hres : r.resolvePath q scopes = some (v, s))
    (hd : v.display = none) (track : Bool) :
    r.renderPath raw q scopes exp track = pure raw := by
  simp only [renderPath, hres, hd]

/-- A path that resolves to nothing stays as written, or is marked missing when tracking. -/
theorem renderPath_of_unresolved (hres : r.resolvePath q scopes = none) (track : Bool) :
    r.renderPath raw q scopes exp track = pure (if track then markMissing q.render else raw) := by
  simp only [renderPath, hres]

/-- With budget left, a tag whose source is one path token renders that path, tracked when
both the tag's place and the renderer track fields. -/
theorem renderExpression_of_path_token (hb : r.budget.spent = false) {source p : String}
    {a b : Nat} (ht : tokenizeExpression source = .ok [⟨.path p, a, b⟩]) (track : Bool) :
    r.renderExpression raw source scopes exp track =
      r.renderPath raw (PathRef.ofText p 0) scopes exp (track && r.trackFields) := by
  simp only [renderExpression, checkBudget, hb, Bool.false_eq_true, if_false,
    parseExpression_of_path_token ht, pure_bind]

end Renderer

/-- The expression stage renders a field key's tag as the key's path at the root. -/
theorem renderExpressions_key {p : String} (hp : FieldKey p) (m : Metadata)
    (ctx : TemplateContext) (hb : ctx.timeout.spent = false) :
    renderExpressions ("\x7b\x7b " ++ p ++ " \x7d\x7d") m ctx =
      ((ctx.renderer m).renderPath ("\x7b\x7b " ++ p ++ " \x7d\x7d") (PathRef.ofText p 0)
        [{ value := .obj m }] .empty ctx.trackFields).run' 0 := by
  have hbrace : '}' ∉ ' ' :: p.toList ++ [' '] := by
    simp [Reference.not_mem_of_isKey hp.key (d := '}') (by decide)]
  have hsplit := splitExpressions_tagChars hbrace
  rw [← keyTag_eq_tagChars] at hsplit
  have hseg : (ctx.renderer m).segment [{ value := .obj m }] ("\x7b\x7b " ++ p ++ " \x7d\x7d", true) =
      (ctx.renderer m).renderPath ("\x7b\x7b " ++ p ++ " \x7d\x7d") (PathRef.ofText p 0)
        [{ value := .obj m }] .empty ctx.trackFields := by
    simp only [Renderer.segment, Bool.not_true, Bool.false_eq_true, if_false, classifyTag_key hp]
    exact (ctx.renderer m).renderExpression_of_path_token hb
      (tokenizeExpression_key hp.key hp.not_literal) true
  rw [renderExpressions_eq, hsplit, Renderer.renderSegments_cons, Renderer.renderSegments_nil, hseg]
  simp only [map_pure, String.append_empty, bind_pure]

/-- The reference stage replaces the cross-reference `|p|` of a key as the key's reference. -/
theorem processReferences_key {p : String} (hk : Reference.isKey p.toList = true) (m : Metadata)
    (ctx : ReferenceContext) :
    processReferences ("|" ++ p ++ "|") m ctx = Reference.referenceText ctx m p := by
  have hbar : '|' ∉ p.toList := Reference.not_mem_of_isKey hk (by decide)
  have hchars : ("|" ++ p ++ "|").toList = '|' :: (p.toList ++ ['|']) := by simp
  have htag : hasTag ("|" ++ p ++ "|") = false := hasTag_of_not_mem (by
    simp [hchars, Reference.not_mem_of_isKey hk (d := '{') (by decide)])
  have hne : "|" ++ p ++ "|" ≠ "" := fun h => by simpa [hchars] using congrArg String.toList h
  have htoday : Reference.replaceToday ctx ('|' :: (p.toList ++ ['|'])) = '|' :: (p.toList ++ ['|']) :=
    Reference.replaceToday_of_noToday ctx _ (Reference.noToday_of_not_mem (by
      simp [Reference.not_mem_of_isKey hk (d := '@') (by decide)]))
  have hkey : (p.toList ++ ['|']).takeWhile (fun c => !decide (c = '|')) = p.toList := by
    rw [List.takeWhile_append_of_pos fun c hc => by
      simp only [Bool.not_eq_eq_eq_not, Bool.not_true, decide_eq_false_iff_not]
      rintro rfl
      exact hbar hc]
    simp
  rw [processReferences, splitExpressions_of_hasTag htag, if_neg hne]
  simp [hchars, htoday, Reference.replaceKeys, hkey, hk]

/-! ## The two routes meet -/

/-- **A field reads the same as a cross-reference and as a tag.**  For a field key `p`, with
the template budget not spent and both stages tracking fields alike: when `p` has a display
text without a tag, `|p|` and `{{ p }}` both become that text, marked as the resolved field
`p` when tracking; when `p` has no display text and tracking is off, both stay as written. -/
theorem reference_agrees_with_tag {p : String} (hp : FieldKey p) (m : Metadata)
    (rctx : ReferenceContext) (tctx : TemplateContext)
    (htrack : tctx.trackFields = rctx.trackFields) (hb : tctx.timeout.spent = false) :
    (∀ t, (Metadata.lookup? m p).bind Value.display = some t → hasTag t = false →
      processReferences ("|" ++ p ++ "|") m rctx =
          (if rctx.trackFields then markField .resolved p t else t) ∧
        renderExpressions ("\x7b\x7b " ++ p ++ " \x7d\x7d") m tctx =
          .ok (if rctx.trackFields then markField .resolved p t else t)) ∧
    ((Metadata.lookup? m p).bind Value.display = none → rctx.trackFields = false →
      processReferences ("|" ++ p ++ "|") m rctx = "|" ++ p ++ "|" ∧
        renderExpressions ("\x7b\x7b " ++ p ++ " \x7d\x7d") m tctx =
          .ok ("\x7b\x7b " ++ p ++ " \x7d\x7d")) := by
  have hres := (tctx.renderer m).resolvePath_key m hp
  rw [processReferences_key hp.key, renderExpressions_key hp m tctx hb, htrack]
  constructor
  · intro t hd htag
    obtain ⟨v, hv, hvd⟩ := Option.bind_eq_some_iff.mp hd
    rw [hv, Option.map_some] at hres
    rw [(tctx.renderer m).renderPath_of_display hres hvd htag, render_ofText_key hp.key]
    exact ⟨by simp only [Reference.referenceText, hd], rfl⟩
  · intro hd hoff
    refine ⟨by simp only [Reference.referenceText, hd], ?_⟩
    rw [hoff]
    -- the field is missing, or present with no text
    cases hv : Metadata.lookup? m p with
    | none =>
        rw [hv, Option.map_none] at hres
        rw [(tctx.renderer m).renderPath_of_unresolved hres]
        rfl
    | some v =>
        rw [hv, Option.map_some] at hres
        rw [hv, Option.bind_some] at hd
        rw [(tctx.renderer m).renderPath_of_no_display hres hd]
        rfl

theorem reference_agrees_with_tag_client_name :
    processReferences ("|" ++ "client.name" ++ "|") [("client", .obj [("name", .str "Acme")])]
        ⟨⟨2024, 1, 1⟩, .en, Calendar.isoFormat, true⟩ =
      markField .resolved "client.name" "Acme" ∧
    renderExpressions ("\x7b\x7b " ++ "client.name" ++ " \x7d\x7d") [("client", .obj [("name", .str "Acme")])]
        { today := ⟨2024, 1, 1⟩, trackFields := true } =
      .ok (markField .resolved "client.name" "Acme") :=
  (reference_agrees_with_tag ⟨by decide, by decide, by decide⟩ _ _ _ rfl rfl).1 "Acme" rfl rfl

/-- With the budget spent, the tag of a present field fails while its cross-reference is
replaced. -/
theorem tag_fails_on_spent_budget :
    processReferences "|a|" [("a", .str "A")] ⟨⟨2024, 1, 1⟩, .en, Calendar.isoFormat, false⟩ = "A" ∧
      renderExpressions "\x7b\x7b a \x7d\x7d" [("a", .str "A")] { today := ⟨2024, 1, 1⟩, timeout := ⟨0⟩ } =
        .error (.templateTimeout "a" 0) := by
  have hsplit : splitExpressions "\x7b\x7b a \x7d\x7d" = [("\x7b\x7b a \x7d\x7d", true)] := rfl
  have hclass : classifyTag "\x7b\x7b a \x7d\x7d" = .expression "a" := rfl
  constructor
  · rw [show "|a|" = "|" ++ "a" ++ "|" from rfl, processReferences_key (by decide)]
    rfl
  · rw [renderExpressions_eq, hsplit, Renderer.renderSegments_cons]
    simp only [Renderer.segment, hclass, Bool.not_true, Bool.false_eq_true, if_false,
      Renderer.renderExpression, Renderer.checkBudget]
    rfl

end Template

end Covenant
