import Covenant.Proofs.Template.Replay
/-!
# The two notations of a helper call

A helper is called either as `h(a₁, ..., aₙ)`, the parenthesis right after its name, or as
`h a₁ ... aₙ`. When every argument is one atom (a literal, a path after its `../` prefixes, or a
parenthesized expression), the two texts parse to the same call, each recording the notation it
uses beside those its arguments use inside their parentheses; with no argument, `h()` is a call
and the bare name is a path (`helperCall_notations_agree`).

The tokens of each text are laid out argument by argument (`tokenize_legacyCall`,
`tokenize_modernCall`): the tokenizer stops at the blank, comma or parenthesis around an argument,
so the argument keeps the tokens it has on its own, moved along. The parser then reads each
argument in place as it reads it alone (`AtomRead.replay`, from `parserReplays`), and the loops
over the arguments follow the layout (`legacyArgs_layout`, `modernArgs_layout`).
-/

namespace Covenant.Template

open Covenant.Text ExprParse

section Atoms

variable {F m : Nat} {s s₁ : ExprState} {e : Expr} {σ : CallStyles}

theorem startsAtom_of_literalOf {t : Token} {v : Value} (h : literalOf t = some v) :
    startsAtom t = true := by
  cases t <;> simp_all [literalOf, startsAtom]

theorem Token.beq_parenClose_of_startsAtom {t : Token} (h : startsAtom t = true) :
    t.beq .parenClose = false := by
  cases t <;> first | rfl | simp [startsAtom] at h

/-- An atom starts with a token that opens one. -/
theorem atom_opens (h : (atom F).run s = .ok (e, s₁)) :
    ∃ sp, s.tokens[s.cursor]? = some sp ∧ startsAtom sp.token = true := by
  cases F with
  | zero =>
    rw [atom] at h
    exact absurd h throw_run_ne
  | succ F =>
    obtain ⟨sp, hsp, hcase⟩ := atom_run_ok h
    refine ⟨sp, hsp, ?_⟩
    rcases hcase with ⟨v, hv, -⟩ | ⟨p, hp, -⟩ | ⟨hp, -⟩ | ⟨hp, -⟩
    · exact startsAtom_of_literalOf hv
    all_goals
      rw [hp]
      rfl

/-- An atom that starts with a path is that path alone. -/
theorem atom_path_one {sp : Spanned} {p : String} (h : (atom F).run s = .ok (e, s.advance m σ))
    (hsp : s.tokens[s.cursor]? = some sp) (hp : sp.token = .path p) : m = 1 := by
  cases F with
  | zero =>
    rw [atom] at h
    exact absurd h throw_run_ne
  | succ F =>
    obtain ⟨sp', hsp', hcase⟩ := atom_run_ok h
    rw [hsp] at hsp'
    cases hsp'
    rcases hcase with ⟨v, hv, -⟩ | ⟨p', -, -, hs⟩ | ⟨hp', -⟩ | ⟨hp', -⟩
    · rw [hp] at hv
      cases hv
    · have := congrArg ExprState.cursor hs
      simp only [ExprState.advance_cursor] at this
      omega
    all_goals
      rw [hp] at hp'
      cases hp'

/-- An atom followed by a token that neither opens an atom nor asks `?` is a whole
expression. -/
theorem ternary_of_atom (h : (atom F).run s = .ok (e, s.advance m σ))
    (hsep : ∀ sp, s.tokens[s.cursor + m]? = some sp →
      startsAtom sp.token = false ∧ sp.token.beq .question = false) :
    (ternary (F + 2)).run s = .ok (e, s.advance m σ) := by
  -- a helper's name with an atom after it would open a call, but a path atom is one token
  have hnot : ¬ OpensCall s := by
    rintro ⟨name, a, b, t, h0, -, h1, ht⟩
    obtain rfl := atom_path_one h h0 rfl
    rw [(hsep t h1).1] at ht
    cases ht
  exact ternary_plain ((call_of_not_opensCall hnot).trans h) fun sp hsp => (hsep sp hsp).2

end Atoms

section Arguments

/-- The text `a` is one atom, read as `e` meeting the notations `σ`: the atom rule, run on the
tokens of `a`, reads them all. -/
def ReadsAsAtom (a : String) (e : Expr) (σ : CallStyles) : Prop :=
  ∃ toks fuel, tokenizeExpression a = .ok toks ∧
    (atom fuel).run { tokens := toks.toArray } = .ok (e, ⟨toks.toArray, toks.length, σ⟩)

/-- An argument with its tokens, which the atom rule reads whole. -/
structure AtomRead where
  text : String
  tokens : List Spanned
  expr : Expr
  styles : CallStyles
  lexes : tokenizeFrom (text.length + 1) text.toList 0 = .ok tokens
  reads : ∃ fuel, (atom fuel).run { tokens := tokens.toArray } =
    .ok (expr, ⟨tokens.toArray, tokens.length, styles⟩)

theorem exists_atomReads : ∀ args : List (String × Expr × CallStyles),
    (∀ x ∈ args, ReadsAsAtom x.1 x.2.1 x.2.2) →
      ∃ rs : List AtomRead, rs.map (fun r => (r.text, r.expr, r.styles)) = args
  | [], _ => ⟨[], rfl⟩
  | x :: xs, h => by
    obtain ⟨toks, fuel, hl, hr⟩ := h x List.mem_cons_self
    obtain ⟨rs, hrs⟩ := exists_atomReads xs fun y hy => h y (List.mem_cons_of_mem x hy)
    exact ⟨⟨x.1, toks, x.2.1, x.2.2, hl, fuel, hr⟩ :: rs, by simp [hrs]⟩

namespace AtomRead

variable (r : AtomRead)

/-- Read in place, an argument gives what it gives alone, with four units of fuel a token. -/
theorem replay : 0 < r.tokens.length ∧ ∀ F, 4 * r.tokens.length ≤ F → ∀ k s',
    Agrees k r.tokens.length { tokens := r.tokens.toArray } s' →
      (atom F).run s' = .ok (r.expr, s'.advance r.tokens.length r.styles) := by
  obtain ⟨fuel, h⟩ := r.reads
  obtain ⟨m, δ, hm, hs, hrep⟩ := (parserReplays fuel).atom _ _ _ h
  -- the run stops after the last token, having met `δ` from no notation
  simp only [ExprState.advance, ExprState.mk.injEq, CallStyles.join_empty, Nat.zero_add] at hs
  obtain ⟨-, hlen, rfl⟩ := hs
  subst hlen
  exact ⟨hm, fun F hF k s' hA => hrep F (by omega) k s' hA⟩

/-- An argument starts with a token that opens an atom. -/
theorem opens : ∃ sp rest, r.tokens = sp :: rest ∧ startsAtom sp.token = true := by
  obtain ⟨fuel, h⟩ := r.reads
  obtain ⟨sp, hsp, hs⟩ := atom_opens h
  cases hr : r.tokens with
  | nil => simp [hr] at hsp
  | cons a rest =>
    simp only [hr, List.getElem?_toArray, List.getElem?_cons_zero, Option.some.injEq] at hsp
    exact ⟨a, rest, rfl, hsp ▸ hs⟩

theorem lexes_at (off : Nat) :
    tokenizeFrom (r.text.toList.length + 1) r.text.toList off =
      .ok (r.tokens.map (Spanned.shift off)) := by
  have := tokenizeFrom_shift off _ _ 0 _ r.lexes
  rwa [Nat.zero_add, ← String.length_toList] at this

end AtomRead

theorem agrees_append (pre ts post : List Spanned) (k : Nat) (st : CallStyles) :
    Agrees k ts.length { tokens := ts.toArray }
      ⟨(pre ++ ts.map (Spanned.shift k) ++ post).toArray, pre.length, st⟩ := by
  intro i hi
  simp only [List.getElem?_toArray, Nat.zero_add, List.append_assoc]
  rw [List.getElem?_append_right (by omega), Nat.add_sub_cancel_left,
    List.getElem?_append_left (by simpa using hi), List.getElem?_map]

end Arguments

section Layout

/-- The tokens of a legacy call after its first argument: each further argument after its
`, `, then the closing `)`. `off` is the offset of the first `,`. -/
def legacyRest (off : Nat) : List AtomRead → List Spanned
  | [] => [⟨.parenClose, off, off + 1⟩]
  | r :: rs => ⟨.comma, off, off + 1⟩ :: r.tokens.map (Spanned.shift (off + 2)) ++
      legacyRest (off + 2 + byteLength r.text.toList) rs

/-- The tokens of the arguments of a modern call, each after its blank. `off` is the offset of
the first blank. -/
def modernRest (off : Nat) : List AtomRead → List Spanned
  | [] => []
  | r :: rs => r.tokens.map (Spanned.shift (off + 1)) ++
      modernRest (off + 1 + byteLength r.text.toList) rs

theorem opensWithStop_legacyRest (rs : List AtomRead) :
    OpensWithStop ((rs.map fun r => ',' :: ' ' :: r.text.toList).flatten ++ [')']) := by
  intro c hc
  cases rs with
  | nil =>
    simp only [List.map_nil, List.flatten_nil, List.nil_append, List.head?_cons,
      Option.mem_def, Option.some.injEq] at hc
    exact hc ▸ Or.inr (Or.inr (Or.inr rfl))
  | cons r rs =>
    simp only [List.map_cons, List.flatten_cons, List.cons_append, List.head?_cons,
      Option.mem_def, Option.some.injEq] at hc
    exact hc ▸ Or.inr (Or.inl rfl)

theorem opensWithStop_modernRest (rs : List AtomRead) :
    OpensWithStop (rs.map fun r => ' ' :: r.text.toList).flatten := by
  intro c hc
  cases rs with
  | nil => simp at hc
  | cons r rs =>
    simp only [List.map_cons, List.flatten_cons, List.cons_append, List.head?_cons,
      Option.mem_def, Option.some.injEq] at hc
    exact hc ▸ Or.inl rfl

/-- The separators between the arguments of a legacy call, and its closing `)`, neither open an
atom nor ask `?`: each ends the expression before it. -/
theorem legacyRest_ends (off : Nat) (rs : List AtomRead) :
    ∀ sp, (legacyRest off rs)[0]? = some sp →
      startsAtom sp.token = false ∧ sp.token.beq .question = false := by
  intro sp hsp
  cases rs <;>
    simp only [legacyRest, List.cons_append, List.getElem?_cons_zero, Option.some.injEq] at hsp <;>
    subst hsp <;> exact ⟨rfl, rfl⟩

/-- An argument after a blank reads as its own tokens, one byte further on. -/
theorem tokenizeFrom_blank_arg (r : AtomRead) (off : Nat) :
    tokenizeFrom ((' ' :: r.text.toList).length + 1) (' ' :: r.text.toList) off =
      .ok (r.tokens.map (Spanned.shift (off + 1))) := by
  have := tokenizeFrom_gaps (g := [' ']) (fun a ha => by simp at ha; simp [ha, isGap])
    r.text.toList off
  rw [List.singleton_append] at this
  rw [this]
  exact r.lexes_at (off + 1)

theorem tokenizeFrom_legacyRest : ∀ (rs : List AtomRead) (off : Nat),
    tokenizeFrom (((rs.map fun r => ',' :: ' ' :: r.text.toList).flatten ++ [')']).length + 1)
      ((rs.map fun r => ',' :: ' ' :: r.text.toList).flatten ++ [')']) off =
      .ok (legacyRest off rs)
  | [], off => by
    simp only [List.map_nil, List.flatten_nil, List.nil_append]
    rw [tokenizeFrom_parenClose, tokenizeFrom_nil]
    rfl
  | r :: rs, off => by
    simp only [List.map_cons, List.flatten_cons, List.append_assoc]
    have hs : tokenizeFrom ((',' :: ' ' :: r.text.toList).length + 1) (',' :: ' ' :: r.text.toList)
        off = .ok (⟨.comma, off, off + 1⟩ :: r.tokens.map (Spanned.shift (off + 2))) := by
      rw [tokenizeFrom_comma, tokenizeFrom_blank_arg]
      rfl
    rw [tokenizeFrom_append _ _ _ _ hs (by simp) _ (opensWithStop_legacyRest rs),
      tokenizeFrom_legacyRest rs, show byteLength (',' :: ' ' :: r.text.toList) =
        2 + byteLength r.text.toList from byteLength_append [',', ' '] _, ← Nat.add_assoc]
    rfl

theorem tokenizeFrom_modernRest : ∀ (rs : List AtomRead) (off : Nat),
    tokenizeFrom ((rs.map fun r => ' ' :: r.text.toList).flatten.length + 1)
      (rs.map fun r => ' ' :: r.text.toList).flatten off = .ok (modernRest off rs)
  | [], off => tokenizeFrom_nil _ _
  | r :: rs, off => by
    simp only [List.map_cons, List.flatten_cons]
    rw [tokenizeFrom_append _ _ _ _ (tokenizeFrom_blank_arg r off) (by simp) _
      (opensWithStop_modernRest rs), tokenizeFrom_modernRest rs,
      show byteLength (' ' :: r.text.toList) = 1 + byteLength r.text.toList from
        byteLength_append [' '] _, ← Nat.add_assoc]
    rfl

end Layout

section Loops

theorem ExprState.advance_mk (ts : Array Spanned) (c : Nat) (st : CallStyles) (m : Nat)
    (δ : CallStyles) : ExprState.advance ⟨ts, c, st⟩ m δ = ⟨ts, c + m, δ.join st⟩ := rfl

/-- The arguments of a modern call, laid out after `pre`, are read one atom each, to the end of
the tokens. -/
theorem modernArgs_layout : ∀ (rs : List AtomRead) (pre : List Spanned) (off F : Nat)
    (acc : List Expr) (st : CallStyles), 4 * (modernRest off rs).length + 1 ≤ F →
    (modernArgs F acc).run ⟨(pre ++ modernRest off rs).toArray, pre.length, st⟩ =
      .ok (acc.reverse ++ rs.map (·.expr), ⟨(pre ++ modernRest off rs).toArray,
        (pre ++ modernRest off rs).length,
        ⟨st.legacy || rs.any (·.styles.legacy), st.modern || rs.any (·.styles.modern)⟩⟩)
  | [], pre, off, F, acc, st, hF => by
    obtain ⟨F, rfl⟩ : ∃ F', F = F' + 1 := ⟨F - 1, by omega⟩
    rw [modernArgs_stop (by simp [modernRest])]
    simp [modernRest]
  | r :: rs, pre, off, F, acc, st, hF => by
    obtain ⟨hm, hread⟩ := r.replay
    obtain ⟨F, rfl⟩ : ∃ F', F = F' + 1 := ⟨F - 1, by omega⟩
    simp only [modernRest, List.length_append, List.length_map] at hF
    have hA := agrees_append pre r.tokens (modernRest (off + 1 + byteLength r.text.toList) rs)
      (off + 1) st
    simp only [modernRest, ← List.append_assoc]
    have ha := hread F (by omega) _ _ hA
    obtain ⟨sp, hsp, hs⟩ := atom_opens ha
    rw [modernArgs_atom hsp hs ha]
    -- the next argument starts where this one stops
    have hnext := modernArgs_layout rs (pre ++ r.tokens.map (Spanned.shift (off + 1)))
      (off + 1 + byteLength r.text.toList) F (r.expr :: acc) (r.styles.join st) (by omega)
    rw [List.length_append, List.length_map] at hnext
    rw [ExprState.advance_mk, hnext]
    simp [CallStyles.join, Bool.or_assoc, Bool.or_left_comm]

/-- The arguments of a legacy call, the first laid out after `pre` and the others after their
commas, are read one whole expression each, through the closing `)`. -/
theorem legacyArgs_layout : ∀ (rs : List AtomRead) (r : AtomRead) (pre : List Spanned)
    (k off F : Nat) (acc : List Expr) (st : CallStyles),
    4 * (r.tokens.length + (legacyRest off rs).length) + 3 ≤ F →
    (legacyArgs F acc).run
      ⟨(pre ++ r.tokens.map (Spanned.shift k) ++ legacyRest off rs).toArray, pre.length, st⟩ =
      .ok (acc.reverse ++ (r :: rs).map (·.expr),
        ⟨(pre ++ r.tokens.map (Spanned.shift k) ++ legacyRest off rs).toArray,
          (pre ++ r.tokens.map (Spanned.shift k) ++ legacyRest off rs).length,
          ⟨st.legacy || (r :: rs).any (·.styles.legacy),
            st.modern || (r :: rs).any (·.styles.modern)⟩⟩)
  | rs, r, pre, k, off, F, acc, st, hF => by
    obtain ⟨hm, hread⟩ := r.replay
    obtain ⟨F, rfl⟩ : ∃ F', F = F' + 3 := ⟨F - 3, by omega⟩
    have hA := agrees_append pre r.tokens (legacyRest off rs) k st
    have ha := hread F (by omega) _ _ hA
    obtain ⟨sp, hsp, hs⟩ := atom_opens ha
    have hopen : acc = [] → ∀ sp', (pre ++ r.tokens.map (Spanned.shift k) ++
        legacyRest off rs).toArray[pre.length]? = some sp' →
        sp'.token.beq .parenClose = false := by
      intro _ sp' hsp'
      rw [hsp] at hsp'
      cases hsp'
      exact Token.beq_parenClose_of_startsAtom hs
    -- the token after the argument, where `legacyRest` starts, ends its expression
    have hafter : (pre ++ r.tokens.map (Spanned.shift k) ++ legacyRest off rs).toArray[
        pre.length + r.tokens.length]? = (legacyRest off rs)[0]? := by
      rw [List.getElem?_toArray, List.getElem?_append_right (by simp)]
      simp
    have ht := ternary_of_atom ha fun sp' hsp' => by
      dsimp only at hsp'
      rw [hafter] at hsp'
      exact legacyRest_ends off rs sp' hsp'
    cases rs with
    | nil =>
      rw [legacyArgs_close hopen ht hafter rfl, ExprState.advance_mk, ExprState.advance_mk]
      simp [legacyRest, CallStyles.join, Nat.add_assoc, Bool.or_comm]
    | cons r' rs =>
      simp only [legacyRest, List.length_cons, List.length_append, List.length_map] at hF
      rw [legacyArgs_comma hopen ht hafter rfl, ExprState.advance_mk, ExprState.advance_mk,
        CallStyles.empty_join]
      have hnext := legacyArgs_layout rs r' (pre ++ r.tokens.map (Spanned.shift k) ++
          [⟨.comma, off, off + 1⟩]) (off + 2) (off + 2 + byteLength r'.text.toList) (F + 2)
        (r.expr :: acc) (r.styles.join st) (by omega)
      rw [List.length_append, List.length_append, List.length_map, List.length_singleton]
        at hnext
      simp only [legacyRest, List.append_assoc, List.cons_append, List.nil_append] at hnext ⊢
      rw [hnext]
      simp [CallStyles.join, Bool.or_assoc, Bool.or_left_comm]

end Loops

section Texts

theorem parseExpression_of_run {src : String} {toks : List Spanned} {e : Expr} {s : ExprState}
    (ht : tokenizeExpression src = .ok toks) (hne : toks ≠ [])
    (hrun : (ternary (4 * toks.length + 8)).run { tokens := toks.toArray } = .ok (e, s))
    (hend : s.tokens[s.cursor]? = none) : parseExpression src = .ok ⟨e, s.styles⟩ := by
  rw [parseExpression, ht]
  cases toks with
  | nil => exact absurd rfl hne
  | cons t ts =>
    simp only [hrun, hend]

/-- A helper's name is one path token. -/
theorem tokenizeFrom_helperName {h : String} (hh : h ∈ helperNames) :
    tokenizeFrom (h.toList.length + 1) h.toList 0 = .ok [⟨.path h, 0, byteLength h.toList⟩] := by
  simp only [helperNames, List.mem_cons, List.not_mem_nil, or_false] at hh
  rcases hh with rfl | rfl | rfl | rfl | rfl | rfl | rfl | rfl | rfl | rfl | rfl | rfl | rfl |
    rfl | rfl | rfl | rfl | rfl | rfl | rfl | rfl | rfl | rfl | rfl | rfl | rfl | rfl | rfl | rfl |
    rfl | rfl | rfl | rfl <;> rfl

theorem toList_intercalate_comma (t : String) (ts : List String) :
    (", ".intercalate (t :: ts)).toList =
      t.toList ++ (ts.map fun x => ',' :: ' ' :: x.toList).flatten := by
  induction ts generalizing t with
  | nil => simp
  | cons u us ih =>
    rw [String.intercalate_cons_cons, String.toList_append, String.toList_append, ih]
    simp

theorem toList_join_blank (ts : List String) :
    (String.join (ts.map (" " ++ ·))).toList = (ts.map fun x => ' ' :: x.toList).flatten := by
  induction ts with
  | nil => simp
  | cons u us ih =>
    rw [List.map_cons, String.join_cons, String.toList_append, ih]
    simp

theorem toList_legacyText (h : String) (r : AtomRead) (rest : List AtomRead) :
    (h ++ "(" ++ ", ".intercalate ((r :: rest).map (·.text)) ++ ")").toList =
      h.toList ++ '(' :: (r.text.toList ++
        ((rest.map fun r => ',' :: ' ' :: r.text.toList).flatten ++ [')'])) := by
  rw [List.map_cons, String.toList_append, String.toList_append, String.toList_append,
    toList_intercalate_comma, List.map_map]
  simp [Function.comp_def]

theorem toList_modernText (h : String) (rs : List AtomRead) :
    (h ++ String.join ((rs.map (·.text)).map (" " ++ ·))).toList =
      h.toList ++ (rs.map fun r => ' ' :: r.text.toList).flatten := by
  rw [String.toList_append, toList_join_blank, List.map_map]
  rfl

end Texts

section Call

/-- The tokens of `h(a₁, ..., aₙ)`. -/
def legacyCallTokens (h : String) : List AtomRead → List Spanned
  | [] => [⟨.path h, 0, byteLength h.toList⟩,
      ⟨.parenOpen, byteLength h.toList, byteLength h.toList + 1⟩,
      ⟨.parenClose, byteLength h.toList + 1, byteLength h.toList + 1 + 1⟩]
  | r :: rs => ⟨.path h, 0, byteLength h.toList⟩ ::
      ⟨.parenOpen, byteLength h.toList, byteLength h.toList + 1⟩ ::
        (r.tokens.map (Spanned.shift (byteLength h.toList + 1)) ++
          legacyRest (byteLength h.toList + 1 + byteLength r.text.toList) rs)

/-- The tokens of `h a₁ ... aₙ`. -/
def modernCallTokens (h : String) (rs : List AtomRead) : List Spanned :=
  ⟨.path h, 0, byteLength h.toList⟩ :: modernRest (byteLength h.toList) rs

variable {h : String} (hh : h ∈ helperNames)
include hh

theorem isHelper_of_mem : isHelper h = true := by
  simpa [isHelper] using hh

/-- A `(` or a blank ends a helper's name. -/
theorem tokenizeFrom_helperName_append {t : List Char}
    (ht : t.head? = some '(' ∨ t.head? = some ' ') :
    tokenizeFrom ((h.toList ++ t).length + 1) (h.toList ++ t) 0 =
      (tokenizeFrom (t.length + 1) t (byteLength h.toList)).map
        ([⟨.path h, 0, byteLength h.toList⟩] ++ ·) := by
  rw [tokenizeFrom_append _ _ _ _ (tokenizeFrom_helperName hh) (by simp) _ ?_, Nat.zero_add]
  intro c hc
  rcases ht with ht | ht <;> rw [ht, Option.mem_def, Option.some.injEq] at hc <;> subst hc
  · exact Or.inr (Or.inr (Or.inl rfl))
  · exact Or.inl rfl

theorem tokenize_legacyCall (rs : List AtomRead) :
    tokenizeExpression (h ++ "(" ++ ", ".intercalate (rs.map (·.text)) ++ ")") =
      .ok (legacyCallTokens h rs) := by
  rw [tokenizeExpression, ← String.length_toList]
  cases rs with
  | nil =>
    have hchars : (h ++ "(" ++ ", ".intercalate [] ++ ")").toList = h.toList ++ ['(', ')'] := by
      simp
    rw [List.map_nil, hchars, tokenizeFrom_helperName_append hh (Or.inl rfl),
      tokenizeFrom_parenOpen, tokenizeFrom_parenClose, tokenizeFrom_nil]
    rfl
  | cons r rest =>
    rw [toList_legacyText, tokenizeFrom_helperName_append hh (Or.inl rfl),
      tokenizeFrom_parenOpen, tokenizeFrom_append _ _ _ _ (r.lexes_at _) (by simp) _
        (opensWithStop_legacyRest rest), tokenizeFrom_legacyRest]
    rfl

theorem tokenize_modernCall (rs : List AtomRead) :
    tokenizeExpression (h ++ String.join ((rs.map (·.text)).map (" " ++ ·))) =
      .ok (modernCallTokens h rs) := by
  rw [tokenizeExpression, ← String.length_toList, toList_modernText]
  cases rs with
  | nil =>
    rw [List.map_nil, List.flatten_nil, List.append_nil, tokenizeFrom_helperName hh]
    rfl
  | cons r rest =>
    rw [tokenizeFrom_helperName_append hh (Or.inr rfl), tokenizeFrom_modernRest]
    rfl

theorem ternary_legacyCall (rs : List AtomRead) :
    (ternary (4 * (legacyCallTokens h rs).length + 8)).run
        { tokens := (legacyCallTokens h rs).toArray } =
      .ok (.call h (rs.map (·.expr)), ⟨(legacyCallTokens h rs).toArray,
        (legacyCallTokens h rs).length, ⟨true, rs.any (·.styles.modern)⟩⟩) := by
  cases rs with
  | nil =>
    -- `h()`: a legacy call that closes at once
    have hcall := (call_legacy (n := 18) (s := { tokens := (legacyCallTokens h []).toArray })
      rfl (isHelper_of_mem hh) rfl).trans (run_bind_of_ok (legacyArgs_empty (n := 17) rfl rfl))
    exact ternary_plain hcall fun sp hsp => by cases hsp
  | cons r rest =>
    have hlen : (legacyCallTokens h (r :: rest)).length = r.tokens.length +
        (legacyRest (byteLength h.toList + 1 + byteLength r.text.toList) rest).length + 2 := by
      simp [legacyCallTokens]
    have hargs := legacyArgs_layout rest r [⟨.path h, 0, byteLength h.toList⟩,
      ⟨.parenOpen, byteLength h.toList, byteLength h.toList + 1⟩] (byteLength h.toList + 1)
      (byteLength h.toList + 1 + byteLength r.text.toList)
      (4 * (legacyCallTokens h (r :: rest)).length + 6) [] ⟨true, false⟩ (by omega)
    have hcall := (call_legacy (n := 4 * (legacyCallTokens h (r :: rest)).length + 6)
      (s := { tokens := (legacyCallTokens h (r :: rest)).toArray })
      rfl (isHelper_of_mem hh) rfl).trans (run_bind_of_ok hargs)
    refine (ternary_plain hcall fun sp hsp => by simp at hsp).trans ?_
    simp [legacyCallTokens]

theorem ternary_modernCall {rs : List AtomRead} (hne : rs ≠ []) :
    (ternary (4 * (modernCallTokens h rs).length + 8)).run
        { tokens := (modernCallTokens h rs).toArray } =
      .ok (.call h (rs.map (·.expr)), ⟨(modernCallTokens h rs).toArray,
        (modernCallTokens h rs).length, ⟨rs.any (·.styles.legacy), true⟩⟩) := by
  obtain ⟨r, rest, rfl⟩ := List.exists_cons_of_ne_nil hne
  obtain ⟨sp, tail, htail, hs⟩ := r.opens
  have hargs := modernArgs_layout (r :: rest) [⟨.path h, 0, byteLength h.toList⟩]
    (byteLength h.toList) (4 * (modernCallTokens h (r :: rest)).length + 6) []
    ⟨false, true⟩ (by simp [modernCallTokens]; omega)
  -- the first argument starts one blank after the name: a modern call
  have hcall := (call_modern (n := 4 * (modernCallTokens h (r :: rest)).length + 6)
    (s := { tokens := (modernCallTokens h (r :: rest)).toArray }) rfl (isHelper_of_mem hh)
    (t := sp.shift (byteLength h.toList + 1)) (by simp [modernCallTokens, modernRest, htail])
    (by simpa using hs) (fun _ => by simp only [Spanned.shift]; omega)).trans
    (run_bind_of_ok hargs)
  refine (ternary_plain hcall fun sp hsp => by simp at hsp).trans ?_
  simp [modernCallTokens]

theorem parse_helperName : parseExpression h = .ok ⟨.path (PathRef.ofText h 0), {}⟩ := by
  have ht := tokenize_modernCall hh []
  rw [List.map_nil, List.map_nil, String.join_nil, String.append_empty] at ht
  have hatom : (atom (4 * 1 + 6)).run { tokens := (modernCallTokens h []).toArray } =
      .ok (.path (PathRef.ofText h 0), ⟨(modernCallTokens h []).toArray, 1, {}⟩) :=
    atom_path rfl rfl
  -- nothing follows the name, so it opens no call
  have hcall := (call_of_not_opensCall (n := 4 * 1 + 6)
    (by rintro ⟨name, a, b, t, -, -, h1, -⟩; cases h1)).trans hatom
  exact parseExpression_of_run ht (List.cons_ne_nil _ _)
    (ternary_plain hcall fun sp hsp => by cases hsp) rfl

theorem parse_legacyCall (rs : List AtomRead) :
    parseExpression (h ++ "(" ++ ", ".intercalate (rs.map (·.text)) ++ ")") =
      .ok ⟨.call h (rs.map (·.expr)), ⟨true, rs.any (·.styles.modern)⟩⟩ := by
  have hne : legacyCallTokens h rs ≠ [] := by
    cases rs <;> simp [legacyCallTokens]
  exact parseExpression_of_run (tokenize_legacyCall hh rs) hne (ternary_legacyCall hh rs)
    (by simp)

theorem parse_modernCall {rs : List AtomRead} (hne : rs ≠ []) :
    parseExpression (h ++ String.join ((rs.map (·.text)).map (" " ++ ·))) =
      .ok ⟨.call h (rs.map (·.expr)), ⟨rs.any (·.styles.legacy), true⟩⟩ :=
  parseExpression_of_run (tokenize_modernCall hh rs) (List.cons_ne_nil _ _)
    (ternary_modernCall hh hne) (by simp)

end Call

/-- A helper call reads the same in both notations when every argument is one atom: a literal,
a path after its `../` prefixes, or a parenthesized expression. Each text records its own
notation, beside the notations its arguments use inside their parentheses. With no argument,
`h()` is a call while the bare name is a path. -/
theorem helperCall_notations_agree {h : String} (hh : h ∈ helperNames)
    (args : List (String × Expr × CallStyles)) (hargs : ∀ x ∈ args, ReadsAsAtom x.1 x.2.1 x.2.2) :
    parseExpression (h ++ "(" ++ ", ".intercalate (args.map (·.1)) ++ ")") =
        .ok ⟨.call h (args.map (·.2.1)), ⟨true, args.any (·.2.2.modern)⟩⟩ ∧
      parseExpression (h ++ String.join (args.map (" " ++ ·.1))) =
        if args.isEmpty then .ok ⟨.path (PathRef.ofText h 0), {}⟩
        else .ok ⟨.call h (args.map (·.2.1)), ⟨args.any (·.2.2.legacy), true⟩⟩ := by
  obtain ⟨rs, rfl⟩ := exists_atomReads args hargs
  refine ⟨by simpa [List.map_map, Function.comp_def, List.any_map] using parse_legacyCall hh rs, ?_⟩
  cases rs with
  | nil => simpa using parse_helperName hh
  | cons r rest =>
    simpa [List.map_map, Function.comp_def, List.any_map] using
      parse_modernCall hh (List.cons_ne_nil r rest)

theorem helperCall_notations_agree_upper :
    "upper" ∈ helperNames ∧
      (∀ x ∈ [("x", Expr.path (PathRef.ofText "x" 0), ({} : CallStyles)),
          ("(lower y)", Expr.call "lower" [.path (PathRef.ofText "y" 0)], ⟨false, true⟩)],
        ReadsAsAtom x.1 x.2.1 x.2.2) ∧
      parseExpression "upper(x, (lower y))" = .ok ⟨.call "upper"
        [.path (PathRef.ofText "x" 0), .call "lower" [.path (PathRef.ofText "y" 0)]], ⟨true, true⟩⟩ ∧
      parseExpression "upper x (lower y)" = .ok ⟨.call "upper"
        [.path (PathRef.ofText "x" 0), .call "lower" [.path (PathRef.ofText "y" 0)]], ⟨false, true⟩⟩ := by
  have hh : "upper" ∈ helperNames := by decide
  have hargs : ∀ x ∈ [("x", Expr.path (PathRef.ofText "x" 0), ({} : CallStyles)),
      ("(lower y)", Expr.call "lower" [.path (PathRef.ofText "y" 0)], ⟨false, true⟩)],
      ReadsAsAtom x.1 x.2.1 x.2.2 := by
    intro x hx
    simp only [List.mem_cons, List.not_mem_nil, or_false] at hx
    rcases hx with rfl | rfl
    · exact ⟨_, 1, rfl, rfl⟩
    · exact ⟨_, 20, rfl, rfl⟩
  obtain ⟨hlegacy, hmodern⟩ := helperCall_notations_agree hh _ hargs
  exact ⟨hh, hargs, by simpa using hlegacy, by simpa using hmodern⟩

end Covenant.Template

