import Covenant.Template.Expr
import Covenant.Proofs.Template.Lexing
/-!
# Parsing reads only what lies ahead

The expression parser looks at its tokens only from the cursor on, and of their spans it
compares only two positions with each other (a legacy call's `(` must start where the helper's
name stops). So a run that succeeds from one state succeeds, with the same result, from any state
whose next tokens are the same ones moved along by a fixed number of bytes, given enough fuel:
four units for each token read (`parserReplays`). This is what lets an argument be parsed once
on its own and then read back in place, inside a call.

Each parsing function has a lemma for each of its branches, in both directions: one that runs a
branch forward (`call_legacy`, `atom_paren`, ...) and one that takes a successful run apart
(`ternary_run_ok`, `atom_run_ok`, ...). The replay proof of each function takes the source run
apart with the second and runs the target forward with the first.
-/

namespace Covenant.Template

section States

/-- The notations met in either of two runs. -/
def CallStyles.join (a b : CallStyles) : CallStyles := ⟨a.legacy || b.legacy, a.modern || b.modern⟩

@[simp] theorem CallStyles.empty_join (a : CallStyles) : CallStyles.join {} a = a := rfl

@[simp] theorem CallStyles.join_empty (a : CallStyles) : a.join {} = a := by
  cases a
  simp [CallStyles.join]

theorem CallStyles.join_assoc (a b c : CallStyles) : (a.join b).join c = a.join (b.join c) := by
  simp [CallStyles.join, Bool.or_assoc]

/-- A parser state moved on by `m` tokens, having met the notations `δ` on the way. -/
def ExprState.advance (s : ExprState) (m : Nat) (δ : CallStyles) : ExprState :=
  { s with cursor := s.cursor + m, styles := δ.join s.styles }

@[simp] theorem ExprState.advance_cursor (s : ExprState) (m : Nat) (δ : CallStyles) :
    (s.advance m δ).cursor = s.cursor + m := rfl

@[simp] theorem ExprState.advance_tokens (s : ExprState) (m : Nat) (δ : CallStyles) :
    (s.advance m δ).tokens = s.tokens := rfl

theorem ExprState.advance_advance (s : ExprState) (m m' : Nat) (δ δ' : CallStyles) :
    (s.advance m δ).advance m' δ' = s.advance (m + m') (δ'.join δ) := by
  simp only [ExprState.advance, Nat.add_assoc, CallStyles.join_assoc]

/-- The next `len` tokens of `s'` are those of `s`, their spans moved along by `k` bytes. -/
def Agrees (k len : Nat) (s s' : ExprState) : Prop :=
  ∀ i < len, s'.tokens[s'.cursor + i]? = (s.tokens[s.cursor + i]?).map (Spanned.shift k)

theorem Agrees.head {k len : Nat} {s s' : ExprState} (h : Agrees k len s s') (hl : 0 < len) :
    s'.tokens[s'.cursor]? = (s.tokens[s.cursor]?).map (Spanned.shift k) :=
  h 0 hl

theorem Agrees.advance {k len : Nat} {s s' : ExprState} (h : Agrees k len s s') (m : Nat)
    (δ δ' : CallStyles) : Agrees k (len - m) (s.advance m δ) (s'.advance m δ') := by
  intro i hi
  have := h (m + i) (by omega)
  simpa [Nat.add_assoc] using this

theorem Agrees.mono {k len len' : Nat} {s s' : ExprState} (h : Agrees k len s s')
    (hle : len' ≤ len) : Agrees k len' s s' :=
  fun i hi => h i (by omega)

theorem Agrees.get_some {k len i : Nat} {s s' : ExprState} {sp : Spanned} (h : Agrees k len s s')
    (hi : i < len) (hsp : s.tokens[s.cursor + i]? = some sp) :
    s'.tokens[s'.cursor + i]? = some (sp.shift k) := by
  rw [h i hi, hsp, Option.map_some]

theorem Agrees.head_some {k len : Nat} {s s' : ExprState} {sp : Spanned} (h : Agrees k len s s')
    (hl : 0 < len) (hsp : s.tokens[s.cursor]? = some sp) :
    s'.tokens[s'.cursor]? = some (sp.shift k) :=
  h.get_some hl hsp

/-- A fact about the kind of the next token of `s` holds of the next token of `s'`. -/
theorem Agrees.head_all {k len : Nat} {s s' : ExprState} (h : Agrees k len s s') (hl : 0 < len)
    (f : Token → Bool) {b : Bool} (hf : ∀ sp, s.tokens[s.cursor]? = some sp → f sp.token = b) :
    ∀ sp, s'.tokens[s'.cursor]? = some sp → f sp.token = b := by
  intro sp hsp
  rw [h.head hl] at hsp
  obtain ⟨sp₀, hsp₀, rfl⟩ := Option.map_eq_some_iff.mp hsp
  exact hf sp₀ hsp₀

@[simp] theorem Spanned.shift_token (k : Nat) (t : Spanned) : (t.shift k).token = t.token := rfl

end States

namespace ExprParse

section Primitives

variable {α : Type} {s s₁ : ExprState}

theorem run_bind_ok {β : Type} {x : ExprM α} {f : α → ExprM β} {s₂ : ExprState} {b : β}
    (h : (x >>= f).run s = .ok (b, s₂)) :
    ∃ a s₁, x.run s = .ok (a, s₁) ∧ (f a).run s₁ = .ok (b, s₂) := by
  rw [StateT.run_bind] at h
  cases hx : x.run s with
  | error e =>
    rw [hx] at h
    cases h
  | ok p =>
    rw [hx] at h
    exact ⟨p.1, p.2, rfl, h⟩

theorem run_bind_of_ok {β : Type} {x : ExprM α} {f : α → ExprM β} {a : α}
    (h : x.run s = .ok (a, s₁)) : (x >>= f).run s = (f a).run s₁ := by
  rw [StateT.run_bind, h]
  rfl

theorem pure_run_ok {a b : α} (h : (pure a : ExprM α).run s = .ok (b, s₁)) : b = a ∧ s₁ = s := by
  cases h
  exact ⟨rfl, rfl⟩

theorem throw_run_ne {e : ExpressionError} {r : α × ExprState} :
    (throw e : ExprM α).run s ≠ .ok r := by
  intro h
  cases h

theorem peekAt_run (k : Nat) (s : ExprState) :
    (peekAt k).run s = .ok (s.tokens[s.cursor + k]?, s) := rfl

theorem peek_run (s : ExprState) :
    peek.run s = .ok ((s.tokens[s.cursor]?).map (·.token), s) := rfl

theorem next_run_of_some {sp : Spanned} (hsp : s.tokens[s.cursor]? = some sp) :
    next.run s = .ok (sp.token, s.advance 1 {}) := by
  rw [next, run_bind_of_ok (peekAt_run 0 s), Nat.add_zero, hsp]
  rfl

theorem next_run_ok {t : Token} (h : next.run s = .ok (t, s₁)) :
    ∃ sp, s.tokens[s.cursor]? = some sp ∧ sp.token = t ∧ s₁ = s.advance 1 {} := by
  rw [next, run_bind_of_ok (peekAt_run 0 s), Nat.add_zero] at h
  cases hsp : s.tokens[s.cursor]? with
  | none =>
    rw [hsp] at h
    cases h
  | some sp =>
    rw [hsp] at h
    cases h
    exact ⟨sp, rfl, rfl, rfl⟩

theorem eat_run_true {u : Token} {sp : Spanned} (hsp : s.tokens[s.cursor]? = some sp)
    (hb : sp.token.beq u = true) : (eat u).run s = .ok (true, s.advance 1 {}) := by
  rw [eat, run_bind_of_ok (peek_run s)]
  simp only [hsp, Option.map_some]
  rw [if_pos hb]
  rfl

theorem eat_run_false {u : Token}
    (h : ∀ sp, s.tokens[s.cursor]? = some sp → sp.token.beq u = false) :
    (eat u).run s = .ok (false, s) := by
  rw [eat, run_bind_of_ok (peek_run s)]
  cases hsp : s.tokens[s.cursor]? with
  | none => rfl
  | some sp =>
    simp only [Option.map_some]
    rw [if_neg (by simp [h sp hsp])]
    rfl

theorem eat_run_ok {u : Token} {b : Bool} (h : (eat u).run s = .ok (b, s₁)) :
    (b = true ∧ (∃ sp, s.tokens[s.cursor]? = some sp ∧ sp.token.beq u = true) ∧
        s₁ = s.advance 1 {}) ∨
      (b = false ∧ (∀ sp, s.tokens[s.cursor]? = some sp → sp.token.beq u = false) ∧ s₁ = s) := by
  by_cases hq : ∃ sp, s.tokens[s.cursor]? = some sp ∧ sp.token.beq u = true
  · obtain ⟨sp, hsp, hb⟩ := hq
    rw [eat_run_true hsp hb] at h
    cases h
    exact Or.inl ⟨rfl, ⟨sp, hsp, hb⟩, rfl⟩
  · have hno : ∀ sp, s.tokens[s.cursor]? = some sp → sp.token.beq u = false := by
      intro sp hsp
      simpa using fun hb => hq ⟨sp, hsp, hb⟩
    rw [eat_run_false hno] at h
    cases h
    exact Or.inr ⟨rfl, hno, rfl⟩

theorem expect_run_of_some {u : Token} {sp : Spanned} (hsp : s.tokens[s.cursor]? = some sp)
    (hb : sp.token.beq u = true) : (expect u).run s = .ok ((), s.advance 1 {}) := by
  rw [expect, run_bind_of_ok (next_run_of_some hsp), if_pos hb]
  rfl

theorem expect_run_ok {u : Token} (h : (expect u).run s = .ok ((), s₁)) :
    ∃ sp, s.tokens[s.cursor]? = some sp ∧ sp.token.beq u = true ∧ s₁ = s.advance 1 {} := by
  obtain ⟨t, s₂, hn, h⟩ := run_bind_ok h
  obtain ⟨sp, hsp, rfl, rfl⟩ := next_run_ok hn
  by_cases hb : sp.token.beq u = true
  · rw [if_pos hb] at h
    cases h
    exact ⟨sp, hsp, hb, rfl⟩
  · rw [if_neg hb] at h
    cases h

end Primitives

section Spec

variable {n : Nat} {s s₁ s₂ : ExprState}

theorem ternary_plain {c : Expr} (hc : (call n).run s = .ok (c, s₂))
    (hq : ∀ sp, s₂.tokens[s₂.cursor]? = some sp → sp.token.beq .question = false) :
    (ternary (n + 1)).run s = .ok (c, s₂) := by
  rw [ternary, run_bind_of_ok hc, run_bind_of_ok (eat_run_false hq)]
  rfl

theorem ternary_cond {c t e : Expr} {s₃ : ExprState} {sp sp' : Spanned}
    (hc : (call n).run s = .ok (c, s₂)) (hsp : s₂.tokens[s₂.cursor]? = some sp)
    (hq : sp.token.beq .question = true) (ht : (ternary n).run (s₂.advance 1 {}) = .ok (t, s₃))
    (hsp' : s₃.tokens[s₃.cursor]? = some sp') (hcolon : sp'.token.beq .colon = true)
    (he : (ternary n).run (s₃.advance 1 {}) = .ok (e, s₁)) :
    (ternary (n + 1)).run s = .ok (.ternary c t e, s₁) := by
  rw [ternary, run_bind_of_ok hc, run_bind_of_ok (eat_run_true hsp hq)]
  simp only [Bool.not_true, Bool.false_eq_true, if_false]
  rw [run_bind_of_ok ht, run_bind_of_ok (expect_run_of_some hsp' hcolon), run_bind_of_ok he]
  rfl

theorem ternary_run_ok {e : Expr} (h : (ternary (n + 1)).run s = .ok (e, s₁)) :
    ∃ c s₂, (call n).run s = .ok (c, s₂) ∧
      ((∀ sp, s₂.tokens[s₂.cursor]? = some sp → sp.token.beq .question = false) ∧ e = c ∧
          s₁ = s₂ ∨
        ∃ sp t s₃ sp' e', s₂.tokens[s₂.cursor]? = some sp ∧ sp.token.beq .question = true ∧
          (ternary n).run (s₂.advance 1 {}) = .ok (t, s₃) ∧ s₃.tokens[s₃.cursor]? = some sp' ∧
          sp'.token.beq .colon = true ∧ (ternary n).run (s₃.advance 1 {}) = .ok (e', s₁) ∧
          e = .ternary c t e') := by
  rw [ternary] at h
  obtain ⟨c, s₂, hc, h₁⟩ := run_bind_ok h
  obtain ⟨b, s₃, hb, h₂⟩ := run_bind_ok h₁
  refine ⟨c, s₂, hc, ?_⟩
  rcases eat_run_ok hb with ⟨rfl, ⟨sp, hsp, hq⟩, rfl⟩ | ⟨rfl, hq, rfl⟩
  · simp only [Bool.not_true, Bool.false_eq_true, if_false] at h₂
    obtain ⟨t, s₄, ht, h₃⟩ := run_bind_ok h₂
    obtain ⟨u, s₅, hu, h₄⟩ := run_bind_ok h₃
    obtain ⟨sp', hsp', hcolon, rfl⟩ := expect_run_ok hu
    obtain ⟨e', s₆, he, h₅⟩ := run_bind_ok h₄
    obtain ⟨rfl, rfl⟩ := pure_run_ok h₅
    exact Or.inr ⟨sp, t, s₄, sp', e', hsp, hq, ht, hsp', hcolon, he, rfl⟩
  · simp only [Bool.not_false, if_true] at h₂
    obtain ⟨rfl, rfl⟩ := pure_run_ok h₂
    exact Or.inl ⟨hq, rfl, rfl⟩

/-- A helper's name followed by a token that opens an atom: where a call begins. -/
def OpensCall (s : ExprState) : Prop :=
  ∃ name a b t, s.tokens[s.cursor]? = some ⟨.path name, a, b⟩ ∧ isHelper name = true ∧
    s.tokens[s.cursor + 1]? = some t ∧ startsAtom t.token = true

theorem call_of_not_opensCall (h : ¬ OpensCall s) : (call (n + 1)).run s = (atom n).run s := by
  rw [call, run_bind_of_ok (peekAt_run 0 s), Nat.add_zero]
  split
  · next name a b heq =>
    split
    · rfl
    · next hh =>
      rw [run_bind_of_ok (peekAt_run 1 s)]
      split
      · next start stop heq' =>
        exact absurd ⟨name, a, b, _, heq, by simpa using hh, heq', rfl⟩ h
      · next t hne heq' =>
        split
        · next ht => exact absurd ⟨name, a, b, t, heq, by simpa using hh, heq', ht⟩ h
        · rfl
      · rfl
  · rfl

theorem call_legacy {name : String} {a b c : Nat}
    (h0 : s.tokens[s.cursor]? = some ⟨.path name, a, b⟩) (hh : isHelper name = true)
    (h1 : s.tokens[s.cursor + 1]? = some ⟨.parenOpen, b, c⟩) :
    (call (n + 1)).run s =
      (legacyArgs n [] >>= fun args => pure (Expr.call name args)).run
        (s.advance 2 ⟨true, false⟩) := by
  rw [call, run_bind_of_ok (peekAt_run 0 s), Nat.add_zero, h0]
  simp only [hh, Bool.not_true, Bool.false_eq_true, if_false]
  rw [run_bind_of_ok (peekAt_run 1 s), h1]
  simp only [if_true]
  rfl

theorem call_modern {name : String} {a b : Nat} {t : Spanned}
    (h0 : s.tokens[s.cursor]? = some ⟨.path name, a, b⟩) (hh : isHelper name = true)
    (h1 : s.tokens[s.cursor + 1]? = some t) (ht : startsAtom t.token = true)
    (hadj : t.token = .parenOpen → t.start ≠ b) :
    (call (n + 1)).run s =
      (modernArgs n [] >>= fun args => pure (Expr.call name args)).run
        (s.advance 1 ⟨false, true⟩) := by
  rw [call, run_bind_of_ok (peekAt_run 0 s), Nat.add_zero, h0]
  simp only [hh, Bool.not_true, Bool.false_eq_true, if_false]
  rw [run_bind_of_ok (peekAt_run 1 s), h1]
  split
  · next start stop heq =>
    cases heq
    rw [if_neg (hadj rfl)]
    rfl
  · next t' _ heq =>
    cases heq
    rw [if_pos ht]
    rfl
  · next heq => cases heq

theorem atom_literal {sp : Spanned} {v : Value} (hsp : s.tokens[s.cursor]? = some sp)
    (hv : literalOf sp.token = some v) :
    (atom (n + 1)).run s = .ok (.literal v, s.advance 1 {}) := by
  rw [atom, run_bind_of_ok (next_run_of_some hsp)]
  simp only [hv]
  rfl

theorem atom_path {sp : Spanned} {p : String} (hsp : s.tokens[s.cursor]? = some sp)
    (hp : sp.token = .path p) :
    (atom (n + 1)).run s = .ok (.path (PathRef.ofText p 0), s.advance 1 {}) := by
  rw [atom, run_bind_of_ok (next_run_of_some hsp), hp]
  rfl

theorem atom_parent {sp : Spanned} (hsp : s.tokens[s.cursor]? = some sp)
    (hp : sp.token = .parent) :
    (atom (n + 1)).run s = (parentPath n 1).run (s.advance 1 {}) := by
  rw [atom, run_bind_of_ok (next_run_of_some hsp), hp]
  rfl

theorem atom_paren {sp sp' : Spanned} {e : Expr} (hsp : s.tokens[s.cursor]? = some sp)
    (hp : sp.token = .parenOpen) (he : (ternary n).run (s.advance 1 {}) = .ok (e, s₂))
    (hsp' : s₂.tokens[s₂.cursor]? = some sp') (hc : sp'.token.beq .parenClose = true) :
    (atom (n + 1)).run s = .ok (e, s₂.advance 1 {}) := by
  rw [atom, run_bind_of_ok (next_run_of_some hsp), hp]
  dsimp only [literalOf]
  rw [run_bind_of_ok he, run_bind_of_ok (expect_run_of_some hsp' hc)]
  rfl

theorem atom_run_ok {e : Expr} (h : (atom (n + 1)).run s = .ok (e, s₁)) :
    ∃ sp, s.tokens[s.cursor]? = some sp ∧
      ((∃ v, literalOf sp.token = some v ∧ e = .literal v ∧ s₁ = s.advance 1 {}) ∨
        (∃ p, sp.token = .path p ∧ e = .path (PathRef.ofText p 0) ∧ s₁ = s.advance 1 {}) ∨
        (sp.token = .parent ∧ (parentPath n 1).run (s.advance 1 {}) = .ok (e, s₁)) ∨
        (sp.token = .parenOpen ∧ ∃ s₂ sp', (ternary n).run (s.advance 1 {}) = .ok (e, s₂) ∧
          s₂.tokens[s₂.cursor]? = some sp' ∧ sp'.token.beq .parenClose = true ∧
          s₁ = s₂.advance 1 {})) := by
  rw [atom] at h
  obtain ⟨t, s₂, hn, h₁⟩ := run_bind_ok h
  obtain ⟨sp, hsp, rfl, rfl⟩ := next_run_ok hn
  refine ⟨sp, hsp, ?_⟩
  split at h₁
  · next v hv =>
    obtain ⟨rfl, rfl⟩ := pure_run_ok h₁
    exact Or.inl ⟨v, hv, rfl, rfl⟩
  · split at h₁
    · next p hp =>
      obtain ⟨rfl, rfl⟩ := pure_run_ok h₁
      exact Or.inr (Or.inl ⟨p, hp, rfl, rfl⟩)
    · next hp => exact Or.inr (Or.inr (Or.inl ⟨hp, h₁⟩))
    · next hp =>
      obtain ⟨e', s₃, he, h₂⟩ := run_bind_ok h₁
      obtain ⟨u, s₄, hu, h₃⟩ := run_bind_ok h₂
      obtain ⟨sp', hsp', hc, rfl⟩ := expect_run_ok hu
      obtain ⟨rfl, rfl⟩ := pure_run_ok h₃
      exact Or.inr (Or.inr (Or.inr ⟨hp, s₃, sp', he, hsp', hc, rfl⟩))
    · exact absurd h₁ throw_run_ne

theorem parentPath_parent {q : Nat} {sp : Spanned} (hsp : s.tokens[s.cursor]? = some sp)
    (hb : sp.token.beq .parent = true) :
    (parentPath (n + 1) q).run s = (parentPath n (q + 1)).run (s.advance 1 {}) := by
  rw [parentPath, run_bind_of_ok (eat_run_true hsp hb)]
  rfl

theorem parentPath_path {q : Nat} {sp : Spanned} {p : String}
    (hsp : s.tokens[s.cursor]? = some sp) (hp : sp.token = .path p) :
    (parentPath (n + 1) q).run s = .ok (.path (PathRef.ofText p q), s.advance 1 {}) := by
  have hno : ∀ sp', s.tokens[s.cursor]? = some sp' → sp'.token.beq .parent = false := by
    intro sp' hsp'
    rw [hsp] at hsp'
    cases hsp'
    rw [hp]
    rfl
  rw [parentPath, run_bind_of_ok (eat_run_false hno)]
  simp only [Bool.false_eq_true, if_false]
  rw [run_bind_of_ok (next_run_of_some hsp), hp]
  rfl

theorem parentPath_run_ok {q : Nat} {e : Expr} (h : (parentPath (n + 1) q).run s = .ok (e, s₁)) :
    ∃ sp, s.tokens[s.cursor]? = some sp ∧
      ((sp.token.beq .parent = true ∧ (parentPath n (q + 1)).run (s.advance 1 {}) = .ok (e, s₁)) ∨
        (∃ p, sp.token = .path p ∧ e = .path (PathRef.ofText p q) ∧ s₁ = s.advance 1 {})) := by
  rw [parentPath] at h
  obtain ⟨b, s₂, hb, h₁⟩ := run_bind_ok h
  rcases eat_run_ok hb with ⟨rfl, ⟨sp, hsp, hq⟩, rfl⟩ | ⟨rfl, -, rfl⟩
  · exact ⟨sp, hsp, Or.inl ⟨hq, h₁⟩⟩
  · simp only [Bool.false_eq_true, if_false] at h₁
    obtain ⟨t, s₃, hn, h₂⟩ := run_bind_ok h₁
    obtain ⟨sp, hsp, rfl, rfl⟩ := next_run_ok hn
    refine ⟨sp, hsp, Or.inr ?_⟩
    split at h₂
    · next p hp =>
      obtain ⟨rfl, rfl⟩ := pure_run_ok h₂
      exact ⟨p, hp, rfl, rfl⟩
    · exact absurd h₂ throw_run_ne

theorem modernArgs_atom {acc : List Expr} {sp : Spanned} {a : Expr}
    (hsp : s.tokens[s.cursor]? = some sp) (hs : startsAtom sp.token = true)
    (ha : (atom n).run s = .ok (a, s₂)) :
    (modernArgs (n + 1) acc).run s = (modernArgs n (a :: acc)).run s₂ := by
  rw [modernArgs, run_bind_of_ok (peek_run s), hsp]
  simp only [Option.map_some, hs, if_true]
  rw [run_bind_of_ok ha]

theorem modernArgs_stop {acc : List Expr}
    (h : ∀ sp, s.tokens[s.cursor]? = some sp → startsAtom sp.token = false) :
    (modernArgs (n + 1) acc).run s = .ok (acc.reverse, s) := by
  rw [modernArgs, run_bind_of_ok (peek_run s)]
  cases hsp : s.tokens[s.cursor]? with
  | none => rfl
  | some sp =>
    simp only [Option.map_some, h sp hsp, Bool.false_eq_true, if_false]
    rfl

theorem modernArgs_run_ok {acc es : List Expr} (h : (modernArgs (n + 1) acc).run s = .ok (es, s₁)) :
    (∃ sp a s₂, s.tokens[s.cursor]? = some sp ∧ startsAtom sp.token = true ∧
        (atom n).run s = .ok (a, s₂) ∧ (modernArgs n (a :: acc)).run s₂ = .ok (es, s₁)) ∨
      ((∀ sp, s.tokens[s.cursor]? = some sp → startsAtom sp.token = false) ∧ es = acc.reverse ∧
        s₁ = s) := by
  by_cases hopen : ∃ sp, s.tokens[s.cursor]? = some sp ∧ startsAtom sp.token = true
  · obtain ⟨sp, hsp, hs⟩ := hopen
    rw [modernArgs, run_bind_of_ok (peek_run s), hsp] at h
    simp only [Option.map_some, hs, if_true] at h
    obtain ⟨a, s₂, ha, h₁⟩ := run_bind_ok h
    exact Or.inl ⟨sp, a, s₂, hsp, hs, ha, h₁⟩
  · have hstop : ∀ sp, s.tokens[s.cursor]? = some sp → startsAtom sp.token = false := by
      intro sp hsp
      simpa using fun hs => hopen ⟨sp, hsp, hs⟩
    rw [modernArgs_stop hstop] at h
    cases h
    exact Or.inr ⟨hstop, rfl, rfl⟩

theorem legacyArgs_empty {sp : Spanned} (hsp : s.tokens[s.cursor]? = some sp)
    (hc : sp.token.beq .parenClose = true) :
    (legacyArgs (n + 1) []).run s = .ok ([], s.advance 1 {}) := by
  rw [legacyArgs, if_pos List.isEmpty_nil, run_bind_of_ok (eat_run_true hsp hc)]
  rfl

section Arguments

variable {acc : List Expr} {a : Expr} {sp : Spanned}
  (hopen : acc = [] → ∀ sp, s.tokens[s.cursor]? = some sp → sp.token.beq .parenClose = false)
  (ha : (ternary n).run s = .ok (a, s₂)) (hsp : s₂.tokens[s₂.cursor]? = some sp)
include hopen ha hsp

theorem legacyArgs_comma (hc : sp.token = .comma) :
    (legacyArgs (n + 1) acc).run s = (legacyArgs n (a :: acc)).run (s₂.advance 1 {}) := by
  rw [legacyArgs]
  cases acc with
  | nil =>
    rw [if_pos List.isEmpty_nil, run_bind_of_ok (eat_run_false (hopen rfl))]
    simp only [Bool.false_eq_true, if_false]
    rw [run_bind_of_ok ha, run_bind_of_ok (next_run_of_some hsp), hc]
  | cons _ _ =>
    rw [if_neg (by simp)]
    rw [run_bind_of_ok ha, run_bind_of_ok (next_run_of_some hsp), hc]

theorem legacyArgs_close (hc : sp.token = .parenClose) :
    (legacyArgs (n + 1) acc).run s = .ok ((a :: acc).reverse, s₂.advance 1 {}) := by
  rw [legacyArgs]
  cases acc with
  | nil =>
    rw [if_pos List.isEmpty_nil, run_bind_of_ok (eat_run_false (hopen rfl))]
    simp only [Bool.false_eq_true, if_false]
    rw [run_bind_of_ok ha, run_bind_of_ok (next_run_of_some hsp), hc]
    rfl
  | cons _ _ =>
    rw [if_neg (by simp)]
    rw [run_bind_of_ok ha, run_bind_of_ok (next_run_of_some hsp), hc]
    rfl

end Arguments

theorem legacyArgs_run_ok {acc es : List Expr} (h : (legacyArgs (n + 1) acc).run s = .ok (es, s₁)) :
    (acc = [] ∧ (∃ sp, s.tokens[s.cursor]? = some sp ∧ sp.token.beq .parenClose = true) ∧
        es = [] ∧ s₁ = s.advance 1 {}) ∨
      ((acc = [] → ∀ sp, s.tokens[s.cursor]? = some sp → sp.token.beq .parenClose = false) ∧
        ∃ a s₂ sp, (ternary n).run s = .ok (a, s₂) ∧ s₂.tokens[s₂.cursor]? = some sp ∧
          (sp.token = .comma ∧ (legacyArgs n (a :: acc)).run (s₂.advance 1 {}) = .ok (es, s₁) ∨
            sp.token = .parenClose ∧ es = (a :: acc).reverse ∧ s₁ = s₂.advance 1 {})) := by
  by_cases hclose : acc = [] ∧ ∃ sp, s.tokens[s.cursor]? = some sp ∧ sp.token.beq .parenClose = true
  · obtain ⟨rfl, sp, hsp, hc⟩ := hclose
    rw [legacyArgs_empty hsp hc] at h
    cases h
    exact Or.inl ⟨rfl, ⟨sp, hsp, hc⟩, rfl, rfl⟩
  · have hopen : acc = [] → ∀ sp, s.tokens[s.cursor]? = some sp →
        sp.token.beq .parenClose = false := by
      intro hacc sp hsp
      simpa using fun hc => hclose ⟨hacc, sp, hsp, hc⟩
    refine Or.inr ⟨hopen, ?_⟩
    rw [legacyArgs] at h
    split at h
    on_goal 1 =>
      rename_i hacc
      rw [run_bind_of_ok (eat_run_false (hopen (List.isEmpty_iff.mp hacc)))] at h
      simp only [Bool.false_eq_true, if_false] at h
    all_goals
      obtain ⟨a, s₂, ha, h₁⟩ := run_bind_ok h
      obtain ⟨t, s₃, hn, h₂⟩ := run_bind_ok h₁
      obtain ⟨sp, hsp, rfl, rfl⟩ := next_run_ok hn
      refine ⟨a, s₂, sp, ha, hsp, ?_⟩
      split at h₂
      · next hc => exact Or.inl ⟨hc, h₂⟩
      · next hc =>
        obtain ⟨rfl, rfl⟩ := pure_run_ok h₂
        exact Or.inr ⟨hc, rfl, rfl⟩
      · exact absurd h₂ throw_run_ne

end Spec

end ExprParse

theorem Agrees.opensCall {k len : Nat} {s s' : ExprState} (h : Agrees k len s s') (hl : 2 ≤ len)
    (hc : ExprParse.OpensCall s') : ExprParse.OpensCall s := by
  obtain ⟨name, a, b, t, h0, hh, h1, ht⟩ := hc
  rw [h.head (by omega)] at h0
  rw [h 1 (by omega)] at h1
  obtain ⟨sp₀, hsp₀, heq₀⟩ := Option.map_eq_some_iff.mp h0
  obtain ⟨t₀, ht₀, rfl⟩ := Option.map_eq_some_iff.mp h1
  have htok : sp₀.token = .path name := congrArg Spanned.token heq₀
  refine ⟨name, sp₀.start, sp₀.stop, t₀, ?_, hh, ht₀, by simpa using ht⟩
  rw [hsp₀, ← htok]

namespace ExprParse

section Replay

/-- A run of `p n` from `s` that gives `r` reads some `m ≥ least` tokens and meets the
notations `δ`; with fuel `4 * m + extra` or more, on any state whose next `m + look` tokens are those of
`s` moved along, `p` gives `r` again, reading as many tokens and meeting the same notations. -/
def Replays {α : Type} (p : Nat → ExprM α) (least look extra n : Nat) : Prop :=
  ∀ s r s₁, (p n).run s = .ok (r, s₁) → ∃ m δ, least ≤ m ∧ s₁ = s.advance m δ ∧
    ∀ n', 4 * m + extra ≤ n' → ∀ k s', Agrees k (m + look) s s' →
      (p n').run s' = .ok (r, s'.advance m δ)

/-- Every parsing function replays at fuel `n`. Four units of fuel for each token read are
enough; the lookahead is the token after the run that decides where an expression ends. -/
structure ParserReplays (n : Nat) : Prop where
  ternary : Replays ternary 0 1 2 n
  call : Replays call 0 1 1 n
  legacyArgs : ∀ acc, Replays (legacyArgs · acc) 0 0 2 n
  modernArgs : ∀ acc, Replays (modernArgs · acc) 0 1 1 n
  atom : Replays atom 1 0 0 n
  parentPath : ∀ q, Replays (parentPath · q) 0 0 1 n

variable {n : Nat} (ih : ParserReplays n)
include ih

theorem ternary_replays : Replays ternary 0 1 2 (n + 1) := by
  intro s e s₁ h
  obtain ⟨c, s₂, hc, hcase⟩ := ternary_run_ok h
  obtain ⟨m₁, δ₁, -, rfl, hc'⟩ := ih.call s c s₂ hc
  rcases hcase with ⟨hq, rfl, rfl⟩ | ⟨sp, t, s₃, sp', e', hsp, hq, ht, hsp', hcolon, he, rfl⟩
  · refine ⟨m₁, δ₁, Nat.zero_le _, rfl, fun n' hn k s' hA => ?_⟩
    obtain ⟨n'', rfl⟩ : ∃ n'', n' = n'' + 1 := ⟨n' - 1, by omega⟩
    have hA₁ := hA.advance m₁ δ₁ δ₁
    exact ternary_plain (hc' n'' (by omega) k s' hA)
      (hA₁.head_all (by omega) (Token.beq · .question) hq)
  · obtain ⟨m₂, δ₂, -, rfl, ht'⟩ := ih.ternary _ t s₃ ht
    obtain ⟨m₃, δ₃, -, rfl, he'⟩ := ih.ternary _ e' s₁ he
    refine ⟨m₁ + 1 + m₂ + 1 + m₃, δ₃.join (δ₂.join δ₁), Nat.zero_le _,
      by simp only [ExprState.advance_advance, CallStyles.empty_join], fun n' hn k s' hA => ?_⟩
    obtain ⟨n'', rfl⟩ : ∃ n'', n' = n'' + 1 := ⟨n' - 1, by omega⟩
    -- the three sub-runs and the two tokens between them, each read past the ones before
    have hA₁ := hA.advance m₁ δ₁ δ₁
    have hA₂ := hA₁.advance 1 {} {}
    have hA₃ := hA₂.advance m₂ δ₂ δ₂
    have hA₄ := hA₃.advance 1 {} {}
    rw [ternary_cond (hc' n'' (by omega) k s' (hA.mono (by omega))) (hA₁.head_some (by omega) hsp)
      hq (ht' n'' (by omega) k _ (hA₂.mono (by omega))) (hA₃.head_some (by omega) hsp') hcolon
      (he' n'' (by omega) k _ (hA₄.mono (by omega)))]
    simp only [ExprState.advance_advance, CallStyles.empty_join]

theorem call_replays : Replays call 0 1 1 (n + 1) := by
  intro s e s₁ h
  by_cases hopen : OpensCall s
  · obtain ⟨name, a, b, t, h0, hh, h1, ht⟩ := hopen
    by_cases hadj : t.token = .parenOpen ∧ t.start = b
    · obtain ⟨tok, st, c⟩ := t
      obtain ⟨rfl, rfl⟩ : tok = .parenOpen ∧ st = b := hadj
      rw [call_legacy h0 hh h1] at h
      obtain ⟨args, s₂, hargs, h₁⟩ := run_bind_ok h
      obtain ⟨rfl, rfl⟩ := pure_run_ok h₁
      obtain ⟨m, δ, -, rfl, hargs'⟩ := ih.legacyArgs [] _ args _ hargs
      refine ⟨2 + m, δ.join ⟨true, false⟩, Nat.zero_le _,
        by simp only [ExprState.advance_advance], fun n' hn k s' hA => ?_⟩
      obtain ⟨n'', rfl⟩ : ∃ n'', n' = n'' + 1 := ⟨n' - 1, by omega⟩
      rw [call_legacy (hA.head_some (by omega) h0) hh (hA.get_some (by omega) h1),
        run_bind_of_ok (hargs' n'' (by omega) k _ ((hA.advance 2 _ _).mono (by omega)))]
      simp only [ExprState.advance_advance]
      rfl
    · have hadj' : t.token = .parenOpen → t.start ≠ b := fun hp hst => hadj ⟨hp, hst⟩
      rw [call_modern h0 hh h1 ht hadj'] at h
      obtain ⟨args, s₂, hargs, h₁⟩ := run_bind_ok h
      obtain ⟨rfl, rfl⟩ := pure_run_ok h₁
      obtain ⟨m, δ, -, rfl, hargs'⟩ := ih.modernArgs [] _ args _ hargs
      refine ⟨1 + m, δ.join ⟨false, true⟩, Nat.zero_le _,
        by simp only [ExprState.advance_advance], fun n' hn k s' hA => ?_⟩
      obtain ⟨n'', rfl⟩ : ∃ n'', n' = n'' + 1 := ⟨n' - 1, by omega⟩
      -- the adjacency test compares two positions, and both moved by `k`
      have hadjk : (t.shift k).token = .parenOpen → (t.shift k).start ≠ b + k := by
        intro hp hst
        exact hadj' (by simpa using hp) (by simp only [Spanned.shift] at hst; omega)
      rw [call_modern (hA.head_some (by omega) h0) hh (hA.get_some (by omega) h1)
          (by simpa using ht) hadjk,
        run_bind_of_ok (hargs' n'' (by omega) k _ ((hA.advance 1 _ _).mono (by omega)))]
      simp only [ExprState.advance_advance]
      rfl
  · rw [call_of_not_opensCall hopen] at h
    obtain ⟨m, δ, hm, rfl, h'⟩ := ih.atom s e s₁ h
    refine ⟨m, δ, Nat.zero_le _, rfl, fun n' hn k s' hA => ?_⟩
    obtain ⟨n'', rfl⟩ : ∃ n'', n' = n'' + 1 := ⟨n' - 1, by omega⟩
    rw [call_of_not_opensCall (fun hc => hopen (hA.opensCall (by omega) hc)),
      h' n'' (by omega) k s' (hA.mono (by omega))]

theorem legacyArgs_replays (acc : List Expr) :
    Replays (legacyArgs · acc) 0 0 2 (n + 1) := by
  intro s es s₁ h
  rcases legacyArgs_run_ok h with ⟨rfl, ⟨sp, hsp, hc⟩, rfl, rfl⟩ |
    ⟨hopen, a, s₂, sp, ha, hsp, hcase⟩
  · refine ⟨1, {}, Nat.zero_le _, rfl, fun n' hn k s' hA => ?_⟩
    obtain ⟨n'', rfl⟩ : ∃ n'', n' = n'' + 1 := ⟨n' - 1, by omega⟩
    exact legacyArgs_empty (hA.head_some (by omega) hsp) (by simpa using hc)
  · obtain ⟨m₁, δ₁, -, rfl, ha'⟩ := ih.ternary s a s₂ ha
    rcases hcase with ⟨hc, hrest⟩ | ⟨hc, rfl, rfl⟩
    · obtain ⟨m₂, δ₂, -, rfl, hrest'⟩ := ih.legacyArgs (a :: acc) _ es s₁ hrest
      refine ⟨m₁ + 1 + m₂, δ₂.join δ₁, Nat.zero_le _,
        by simp only [ExprState.advance_advance, CallStyles.empty_join], fun n' hn k s' hA => ?_⟩
      obtain ⟨n'', rfl⟩ : ∃ n'', n' = n'' + 1 := ⟨n' - 1, by omega⟩
      have hA₁ := hA.advance m₁ δ₁ δ₁
      rw [legacyArgs_comma (fun hacc => hA.head_all (by omega) (Token.beq · .parenClose) (hopen hacc))
          (ha' n'' (by omega) k s' (hA.mono (by omega))) (hA₁.head_some (by omega) hsp) hc,
        hrest' n'' (by omega) k _ ((hA₁.advance 1 {} {}).mono (by omega))]
      simp only [ExprState.advance_advance, CallStyles.empty_join]
    · refine ⟨m₁ + 1, δ₁, Nat.zero_le _,
        by simp only [ExprState.advance_advance, CallStyles.empty_join], fun n' hn k s' hA => ?_⟩
      obtain ⟨n'', rfl⟩ : ∃ n'', n' = n'' + 1 := ⟨n' - 1, by omega⟩
      have hA₁ := hA.advance m₁ δ₁ δ₁
      rw [legacyArgs_close (fun hacc => hA.head_all (by omega) (Token.beq · .parenClose) (hopen hacc))
          (ha' n'' (by omega) k s' (hA.mono (by omega))) (hA₁.head_some (by omega) hsp) hc]
      simp only [ExprState.advance_advance, CallStyles.empty_join]

theorem modernArgs_replays (acc : List Expr) :
    Replays (modernArgs · acc) 0 1 1 (n + 1) := by
  intro s es s₁ h
  rcases modernArgs_run_ok h with ⟨sp, a, s₂, hsp, hs, ha, hrest⟩ | ⟨hstop, rfl, rfl⟩
  · obtain ⟨m₁, δ₁, hm₁, rfl, ha'⟩ := ih.atom s a s₂ ha
    obtain ⟨m₂, δ₂, -, rfl, hrest'⟩ := ih.modernArgs (a :: acc) _ es s₁ hrest
    refine ⟨m₁ + m₂, δ₂.join δ₁, Nat.zero_le _,
      by simp only [ExprState.advance_advance], fun n' hn k s' hA => ?_⟩
    obtain ⟨n'', rfl⟩ : ∃ n'', n' = n'' + 1 := ⟨n' - 1, by omega⟩
    -- an atom reads at least one token, which pays for the fuel of the arguments after it
    rw [modernArgs_atom (hA.head_some (by omega) hsp) (by simpa using hs)
        (ha' n'' (by omega) k s' (hA.mono (by omega))),
      hrest' n'' (by omega) k _ ((hA.advance m₁ δ₁ δ₁).mono (by omega))]
    simp only [ExprState.advance_advance]
  · refine ⟨0, {}, Nat.zero_le _, rfl, fun n' hn k s' hA => ?_⟩
    obtain ⟨n'', rfl⟩ : ∃ n'', n' = n'' + 1 := ⟨n' - 1, by omega⟩
    exact modernArgs_stop (hA.head_all (by omega) startsAtom hstop)

theorem atom_replays : Replays atom 1 0 0 (n + 1) := by
  intro s e s₁ h
  obtain ⟨sp, hsp, hcase⟩ := atom_run_ok h
  rcases hcase with ⟨v, hv, rfl, rfl⟩ | ⟨p, hp, rfl, rfl⟩ | ⟨hp, hrest⟩ |
    ⟨hp, s₂, sp', he, hsp', hc, rfl⟩
  · refine ⟨1, {}, le_refl _, rfl, fun n' hn k s' hA => ?_⟩
    obtain ⟨n'', rfl⟩ : ∃ n'', n' = n'' + 1 := ⟨n' - 1, by omega⟩
    exact atom_literal (hA.head_some (by omega) hsp) (by simpa using hv)
  · refine ⟨1, {}, le_refl _, rfl, fun n' hn k s' hA => ?_⟩
    obtain ⟨n'', rfl⟩ : ∃ n'', n' = n'' + 1 := ⟨n' - 1, by omega⟩
    exact atom_path (hA.head_some (by omega) hsp) (by simpa using hp)
  · obtain ⟨m, δ, -, rfl, hrest'⟩ := ih.parentPath 1 _ e s₁ hrest
    refine ⟨1 + m, δ, by omega, by simp only [ExprState.advance_advance, CallStyles.join_empty],
      fun n' hn k s' hA => ?_⟩
    obtain ⟨n'', rfl⟩ : ∃ n'', n' = n'' + 1 := ⟨n' - 1, by omega⟩
    rw [atom_parent (hA.head_some (by omega) hsp) (by simpa using hp),
      hrest' n'' (by omega) k _ ((hA.advance 1 {} {}).mono (by omega))]
    simp only [ExprState.advance_advance, CallStyles.join_empty]
  · obtain ⟨m, δ, -, rfl, he'⟩ := ih.ternary _ e s₂ he
    refine ⟨1 + m + 1, δ, by omega,
      by simp only [ExprState.advance_advance, CallStyles.join_empty, CallStyles.empty_join],
      fun n' hn k s' hA => ?_⟩
    obtain ⟨n'', rfl⟩ : ∃ n'', n' = n'' + 1 := ⟨n' - 1, by omega⟩
    have hA₁ := hA.advance 1 {} {}
    rw [atom_paren (hA.head_some (by omega) hsp) (by simpa using hp)
      (he' n'' (by omega) k _ (hA₁.mono (by omega)))
      ((hA₁.advance m δ δ).head_some (by omega) hsp') (by simpa using hc)]
    simp only [ExprState.advance_advance, CallStyles.join_empty, CallStyles.empty_join]

theorem parentPath_replays (q : Nat) :
    Replays (parentPath · q) 0 0 1 (n + 1) := by
  intro s e s₁ h
  obtain ⟨sp, hsp, hcase⟩ := parentPath_run_ok h
  rcases hcase with ⟨hb, hrest⟩ | ⟨p, hp, rfl, rfl⟩
  · obtain ⟨m, δ, -, rfl, hrest'⟩ := ih.parentPath (q + 1) _ e s₁ hrest
    refine ⟨1 + m, δ, Nat.zero_le _,
      by simp only [ExprState.advance_advance, CallStyles.join_empty], fun n' hn k s' hA => ?_⟩
    obtain ⟨n'', rfl⟩ : ∃ n'', n' = n'' + 1 := ⟨n' - 1, by omega⟩
    rw [parentPath_parent (hA.head_some (by omega) hsp) (by simpa using hb),
      hrest' n'' (by omega) k _ ((hA.advance 1 {} {}).mono (by omega))]
    simp only [ExprState.advance_advance, CallStyles.join_empty]
  · refine ⟨1, {}, Nat.zero_le _, rfl, fun n' hn k s' hA => ?_⟩
    obtain ⟨n'', rfl⟩ : ∃ n'', n' = n'' + 1 := ⟨n' - 1, by omega⟩
    exact parentPath_path (hA.head_some (by omega) hsp) (by simpa using hp)

end Replay

/-- Every parsing function replays, at every fuel: by induction on the fuel, each function's
step reading the replays of the functions it calls with one unit less. -/
theorem parserReplays : ∀ n, ParserReplays n
  | 0 =>
    { ternary := fun _ _ _ h => by rw [ternary] at h; exact absurd h throw_run_ne
      call := fun _ _ _ h => by rw [call] at h; exact absurd h throw_run_ne
      legacyArgs := fun _ _ _ _ h => by dsimp only at h; rw [legacyArgs] at h; exact absurd h throw_run_ne
      modernArgs := fun _ _ _ _ h => by dsimp only at h; rw [modernArgs] at h; exact absurd h throw_run_ne
      atom := fun _ _ _ h => by rw [atom] at h; exact absurd h throw_run_ne
      parentPath := fun _ _ _ _ h => by dsimp only at h; rw [parentPath] at h; exact absurd h throw_run_ne }
  | n + 1 =>
    have ih := parserReplays n
    { ternary := ternary_replays ih
      call := call_replays ih
      legacyArgs := legacyArgs_replays ih
      modernArgs := modernArgs_replays ih
      atom := atom_replays ih
      parentPath := parentPath_replays ih }

end ExprParse

end Covenant.Template
