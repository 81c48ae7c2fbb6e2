import Covenant.Template.Token
import Covenant.Proofs.Text.Lines
/-!
# Tokens end at a stop

The expression tokenizer reads by longest match, each kind of token a small automaton.  A
space, a comma and the parentheses are *stops*: no automaton reads over one, a quote that has
closed reads nothing more, and a quote that has not closed leaves no token at all.  So a text
that tokenizes, followed by a text that opens with a stop, tokenizes as the two apart, the
tokens of the second moved along by the byte length of the first (`tokenizeFrom_append`).

The proof reads each automaton past the end of a word (`runAutomaton_append_stop`), then the
kinds together (`reaches_append_stop`), then the tokenizer step by step, with its fuel
(`tokenizeFrom_fuel`) and the offsets of its spans (`tokenizeFrom_shift`) set aside.
-/
namespace Covenant.Template

open Covenant.Text

/-! ## Automata read past their end -/

section Automata

variable {σ : Type} (step : σ → Char → Option σ) (accepts : σ → Bool)
  (step' : Nat → Char → Option Nat)

/-- Where an automaton stands after reading a whole word, if it reads all of it. -/
def walk : List Char → σ → Option σ
  | [], s => some s
  | c :: cs, s => (step s c).bind (walk cs)

/-- An automaton that stops inside a word reaches as far on any longer input. -/
theorem runAutomaton_append_of_walk_none :
    ∀ (u v : List Char) (s : σ) (n : Nat) (last : Option Nat), walk step u s = none →
      runAutomaton step accepts (u ++ v) s n last = runAutomaton step accepts u s n last
  | [], _, _, _, _, h => by simp [walk] at h
  | c :: u, v, s, n, last, h => by
    simp only [walk] at h
    cases hs : step s c with
    | none => simp [runAutomaton, hs]
    | some s' =>
      rw [hs, Option.bind_some] at h
      simp only [List.cons_append, runAutomaton, hs]
      exact runAutomaton_append_of_walk_none u v s' _ _ h

/-- An automaton that reads all of a word goes on from where the word left it. -/
theorem runAutomaton_append_of_walk_some :
    ∀ (u v : List Char) (s s' : σ) (n : Nat) (last : Option Nat), walk step u s = some s' →
      runAutomaton step accepts (u ++ v) s n last =
        runAutomaton step accepts v s' (n + u.length)
          (runAutomaton step accepts u s n last).accept
  | [], v, s, s', n, last, h => by
    simp only [walk, Option.some.injEq] at h
    subst h
    simp [runAutomaton]
  | c :: u, v, s, s', n, last, h => by
    simp only [walk] at h
    cases hs : step s c with
    | none => simp [hs] at h
    | some s₁ =>
      rw [hs, Option.bind_some] at h
      simp only [List.cons_append, runAutomaton, hs, List.length_cons]
      rw [runAutomaton_append_of_walk_some u v s₁ s' _ _ h]
      congr 1
      omega

/-- An automaton that reads a whole word and then meets a character it refuses reaches on the
longer input just what it reaches on the word. -/
theorem runAutomaton_append_stop {u : List Char} {c : Char} {s : σ}
    (hstop : ∀ s', walk step u s = some s' → step s' c = none) (v : List Char) (n : Nat)
    (last : Option Nat) :
    runAutomaton step accepts (u ++ c :: v) s n last = runAutomaton step accepts u s n last := by
  cases hw : walk step u s with
  | none => exact runAutomaton_append_of_walk_none step accepts u _ s n last hw
  | some s' =>
    rw [runAutomaton_append_of_walk_some step accepts u _ s s' n last hw]
    have hc := hstop s' hw
    have hu := runAutomaton_append_of_walk_some step accepts u [] s s' n last hw
    rw [List.append_nil] at hu
    rw [hu]
    simp [runAutomaton, hc]

/-- A match is never empty and never longer than the input. -/
theorem runAutomaton_accept :
    ∀ (cs : List Char) (s : σ) (n : Nat) (last : Option Nat) (a : Nat),
      (runAutomaton step accepts cs s n last).accept = some a →
        last = some a ∨ (n < a ∧ a ≤ n + cs.length)
  | [], _, _, _, _, h => .inl h
  | c :: cs, s, n, last, a, h => by
    simp only [runAutomaton] at h
    cases hs : step s c with
    | none =>
      rw [hs] at h
      exact .inl h
    | some s' =>
      rw [hs] at h
      rcases runAutomaton_accept cs s' (n + 1) _ a h with h | h
      · split at h
        · simp only [Option.some.injEq] at h
          right
          simp only [List.length_cons]
          omega
        · exact .inl h
      · right
        simp only [List.length_cons]
        omega

/-- An automaton that counts the characters it reads stands, after a whole word, as many
places further. -/
theorem walk_count (hstep : ∀ (i : Nat) c j, step' i c = some j → j = i + 1) :
    ∀ (u : List Char) (i j : Nat), walk step' u i = some j → j = i + u.length
  | [], i, j, h => by
    simp only [walk, Option.some.injEq] at h
    simp [h]
  | c :: u, i, j, h => by
    simp only [walk] at h
    cases hs : step' i c with
    | none => simp [hs] at h
    | some i' =>
      rw [hs, Option.bind_some] at h
      have := walk_count hstep u i' j h
      have := hstep i c i' hs
      simp only [List.length_cons]
      omega

/-- An automaton whose accepting states read nothing further, standing after a word in a
state that does not accept, has accepted nothing on the way. -/
theorem runAutomaton_of_walk_rejecting
    (hdead : ∀ s, accepts s = true → ∀ c, step s c = none) :
    ∀ (u : List Char) (s s' : σ) (n : Nat) (last : Option Nat), walk step u s = some s' →
      accepts s' = false → runAutomaton step accepts u s n last = ⟨last, n + u.length⟩
  | [], s, s', n, last, _, _ => by simp [runAutomaton]
  | c :: u, s, s', n, last, h, hs' => by
    simp only [walk] at h
    cases hs : step s c with
    | none => simp [hs] at h
    | some s₁ =>
      rw [hs, Option.bind_some] at h
      -- an accepting state would have ended the walk there
      have hs₁ : accepts s₁ = false := by
        cases ha : accepts s₁ with
        | false => rfl
        | true =>
          cases u with
          | nil =>
            simp only [walk, Option.some.injEq] at h
            subst h
            rw [ha] at hs'
            cases hs'
          | cons d u => simp [walk, hdead s₁ ha d] at h
      simp only [runAutomaton, hs, hs₁, List.length_cons]
      rw [runAutomaton_of_walk_rejecting hdead u s₁ s' _ _ h hs']
      simp only [Bool.false_eq_true, ↓reduceIte, Reach.mk.injEq, true_and]
      omega

end Automata

/-! ## Tokens end before a stop -/

/-- The characters that no token runs over: a space, a comma and the parentheses. -/
def IsStop (c : Char) : Prop := c = ' ' ∨ c = ',' ∨ c = '(' ∨ c = ')'

theorem numberStep_stop {c : Char} (hc : IsStop c) (s : NumberState) : numberStep s c = none := by
  rcases hc with rfl | rfl | rfl | rfl <;> cases s <;> rfl

theorem pathStep_stop {c : Char} (hc : IsStop c) (s : PathState) : pathStep s c = none := by
  rcases hc with rfl | rfl | rfl | rfl <;> cases s <;> rfl

/-- A fixed spelling read past a word stops at a character that does not follow the
spelling's first. -/
theorem literalReach_append_stop {w : String} {u : List Char} (hu : u ≠ []) {c : Char}
    (hc : c ∉ w.toList.drop 1) (v : List Char) :
    literalReach w (u ++ c :: v) = literalReach w u := by
  unfold literalReach
  apply runAutomaton_append_stop
  intro j hj
  have hcount := walk_count _ (by
    intro i d k h
    split at h
    · simp only [Option.some.injEq] at h
      omega
    · cases h) u 0 j hj
  have hlen : 1 ≤ u.length := List.length_pos_iff.mpr hu
  rw [if_neg]
  intro h
  apply hc
  rw [List.mem_iff_getElem?]
  exact ⟨j - 1, by rw [List.getElem?_drop]; rw [← h]; congr 1; omega⟩

/-- A quote read past a word stops where it stopped on the word, once it has matched there or
when the word does not open with the quote. -/
theorem quotedReach_append_stop {q : Char} {u : List Char} (hu : u ≠ [])
    (h : (quotedReach q u).accept ≠ none ∨ u.head? ≠ some q) (c : Char) (v : List Char) :
    quotedReach q (u ++ c :: v) = quotedReach q u := by
  unfold quotedReach at h ⊢
  apply runAutomaton_append_stop
  intro s' hw
  rcases h with h | h
  · -- a quote that has matched is closed, and reads nothing more
    cases s'
    case closed => rfl
    all_goals
      exfalso
      apply h
      rw [runAutomaton_of_walk_rejecting _ _ (by intro s hs d; cases s <;> first | rfl | cases hs)
        u _ _ 0 none hw rfl]
  · -- a word that does not open with the quote stops the automaton at once
    obtain ⟨x, u', rfl⟩ := List.exists_cons_of_ne_nil hu
    have hx : x ≠ q := fun hx => h (by simp [hx])
    simp [walk, hx] at hw

/-! ## The longest match -/

theorem foldl_best_mem {α : Type} {F : Option (α × Nat) → α × Reach → Option (α × Nat)}
    (hF : ∀ b p, F b p = b ∨ ∃ n, p.2.accept = some n ∧ F b p = some (p.1, n)) :
    ∀ (rs : List (α × Reach)) (b : Option (α × Nat)) (t : α) (n : Nat),
      rs.foldl F b = some (t, n) → b = some (t, n) ∨ ∃ r, (t, r) ∈ rs ∧ r.accept = some n
  | [], _, _, _, h => .inl h
  | p :: rs, b, t, n, h => by
    rcases foldl_best_mem hF rs (F b p) t n h with h | ⟨r, hr, hacc⟩
    · rcases hF b p with hb | ⟨m, hm, hb⟩
      · exact .inl (hb ▸ h)
      · rw [hb, Option.some.injEq, Prod.mk.injEq] at h
        obtain ⟨rfl, rfl⟩ := h
        exact .inr ⟨p.2, List.mem_cons_self, hm⟩
    · exact .inr ⟨r, List.mem_cons_of_mem _ hr, hacc⟩

/-- The kind the longest match picks matches, and as far as the longest match says. -/
theorem longest_some {α : Type} {rs : List (α × Reach)} {k : α} (h : (longest rs).1 = some k) :
    ∃ r, (k, r) ∈ rs ∧ r.accept = some (longest rs).2 := by
  unfold longest at h ⊢
  dsimp only at h ⊢
  split
  · next t n hbest =>
    rw [hbest] at h
    simp only [Option.some.injEq] at h
    subst h
    rcases foldl_best_mem (by
      intro b p
      obtain ⟨t, r⟩ := p
      simp only
      split
      · split
        · exact .inr ⟨_, ‹_›, rfl⟩
        · exact .inl rfl
      · exact .inr ⟨_, ‹_›, rfl⟩
      · exact .inl rfl) rs none _ _ hbest with h | h
    · cases h
    · exact h
  · next hbest =>
    rw [hbest] at h
    cases h

/-- On a word that opens with a quote, the quote of that kind is the only kind that can
match. -/
theorem reaches_quote_accept {q : Char} (hq : q = '"' ∨ q = '\'') {u : List Char}
    (hhead : u.head? = some q) (hu : (longest (reaches u)).1.isSome) :
    (quotedReach q u).accept ≠ none := by
  intro hacc
  obtain ⟨k, hk⟩ := Option.isSome_iff_exists.mp hu
  obtain ⟨r, hr, hr'⟩ := longest_some hk
  obtain ⟨u', rfl⟩ : ∃ u', u = q :: u' := by
    cases u with
    | nil => cases hhead
    | cons x u' =>
      simp only [List.head?_cons, Option.some.injEq] at hhead
      exact ⟨u', by rw [hhead]⟩
  simp only [reaches, List.mem_cons, List.not_mem_nil, Prod.mk.injEq, or_false] at hr
  -- every other kind rejects the opening quote, so the accepting reach is the quoted one's
  rcases hq with rfl | rfl <;>
  rcases hr with ⟨-, rfl⟩ | ⟨-, rfl⟩ | ⟨-, rfl⟩ | ⟨-, rfl⟩ | ⟨-, rfl⟩ | ⟨-, rfl⟩ | ⟨-, rfl⟩ |
    ⟨-, rfl⟩ | ⟨-, rfl⟩ | ⟨-, rfl⟩ <;>
  simp_all [literalReach, quotedReach, runAutomaton, numberStep, pathStep]

/-- The kinds reach on a word followed by a stop just what they reach on the word, when some
kind matches on it. -/
theorem reaches_append_stop {u : List Char} (hu : (longest (reaches u)).1.isSome) {c : Char}
    (hc : IsStop c) (v : List Char) : reaches (u ++ c :: v) = reaches u := by
  have hne : u ≠ [] := by
    rintro rfl
    exact absurd hu (by decide)
  have hquote : ∀ q, (q = '"' ∨ q = '\'') → (quotedReach q u).accept ≠ none ∨ u.head? ≠ some q := by
    intro q hq
    by_cases hhead : u.head? = some q
    · exact .inl (reaches_quote_accept hq hhead hu)
    · exact .inr hhead
  have hcq : c ∉ "../".toList.drop 1 := by rcases hc with rfl | rfl | rfl | rfl <;> decide
  have hcp : ∀ w : String, w.toList.length = 1 → c ∉ w.toList.drop 1 := by
    intro w hw
    rw [List.drop_eq_nil_of_le (by omega)]
    simp
  simp only [reaches]
  rw [literalReach_append_stop hne (hcp "(" rfl), literalReach_append_stop hne (hcp ")" rfl),
    literalReach_append_stop hne (hcp "," rfl), literalReach_append_stop hne (hcp "?" rfl),
    literalReach_append_stop hne (hcp ":" rfl), literalReach_append_stop hne hcq,
    quotedReach_append_stop hne (hquote _ (.inl rfl)),
    quotedReach_append_stop hne (hquote _ (.inr rfl)),
    runAutomaton_append_stop _ _ (fun s _ => numberStep_stop hc s),
    runAutomaton_append_stop _ _ (fun s _ => pathStep_stop hc s)]

/-- Every kind matches at least one character and at most the whole input. -/
theorem reaches_accept {cs : List Char} {p : RawKind × Reach} (hp : p ∈ reaches cs) {a : Nat}
    (ha : p.2.accept = some a) : 1 ≤ a ∧ a ≤ cs.length := by
  simp only [reaches, List.mem_cons, List.not_mem_nil, or_false] at hp
  rcases hp with rfl | rfl | rfl | rfl | rfl | rfl | rfl | rfl | rfl | rfl <;>
  · simp only [literalReach, quotedReach] at ha
    rcases runAutomaton_accept _ _ _ _ _ _ a ha with h | h
    · cases h
    · omega

/-- The longest match is at least one character long and no longer than the input. -/
theorem longest_reaches_length {cs : List Char} {k : RawKind} {n : Nat}
    (h : longest (reaches cs) = (some k, n)) : 1 ≤ n ∧ n ≤ cs.length := by
  obtain ⟨r, hr, hacc⟩ := longest_some (k := k) (by rw [h])
  rw [h] at hacc
  exact reaches_accept hr hacc

/-! ## Byte lengths -/

theorem foldl_utf8Size (k : Nat) :
    ∀ cs : List Char, cs.foldl (fun n c => n + c.utf8Size) k =
      k + cs.foldl (fun n c => n + c.utf8Size) 0
  | [] => rfl
  | c :: cs => by
    simp only [List.foldl_cons]
    rw [foldl_utf8Size (k + c.utf8Size) cs, foldl_utf8Size (0 + c.utf8Size) cs]
    omega

theorem byteLength_append (a b : List Char) :
    byteLength (a ++ b) = byteLength a + byteLength b := by
  simp only [byteLength, List.foldl_append]
  exact foldl_utf8Size _ b

/-! ## Tokenizing step by step -/

theorem takeWhile_dropWhile {α : Type} (p : α → Bool) (l : List α) :
    (l.dropWhile p).takeWhile p = [] := by
  cases hd : l.dropWhile p with
  | nil => rfl
  | cons x r =>
    have hx := List.head_dropWhile_not p (l := l) (by simp [hd])
    simp only [hd, List.head_cons] at hx
    simp [hx]

theorem tokenizeFrom_nil : ∀ (f off : Nat), tokenizeFrom f [] off = .ok []
  | 0, _ => rfl
  | _ + 1, _ => rfl

/-- Tokenizing first passes over the blanks in front. -/
theorem tokenizeFrom_skip (f : Nat) (cs : List Char) (off : Nat) :
    tokenizeFrom (f + 1) cs off =
      tokenizeFrom (f + 1) (cs.dropWhile isGap) (off + byteLength (cs.takeWhile isGap)) := by
  simp only [tokenizeFrom, Covenant.List.drop_length_takeWhile, takeWhile_dropWhile,
    List.length_nil, List.drop_zero]
  rfl

section Step

variable {x : Char} {r : List Char} (hx : isGap x = false) (f off : Nat)
include hx

/-- A token read at a character that is no blank. -/
theorem tokenizeFrom_token {k : RawKind} {n : Nat} {t : Token}
    (hl : longest (reaches (x :: r)) = (some k, n)) (ht : rawToken k ((x :: r).take n) = some t) :
    tokenizeFrom (f + 1) (x :: r) off =
      (tokenizeFrom f ((x :: r).drop n) (off + byteLength ((x :: r).take n))).map
        (⟨t, off, off + byteLength ((x :: r).take n)⟩ :: ·) := by
  simp only [tokenizeFrom, List.takeWhile_cons, hx, Bool.false_eq_true, ↓reduceIte,
    List.length_nil, List.drop_zero, hl, ht]
  rfl

theorem tokenizeFrom_unmatched {m : Nat} (hl : longest (reaches (x :: r)) = (none, m)) :
    tokenizeFrom (f + 1) (x :: r) off = .error off := by
  simp only [tokenizeFrom, List.takeWhile_cons, hx, Bool.false_eq_true, ↓reduceIte,
    List.length_nil, List.drop_zero, hl]
  rfl

theorem tokenizeFrom_invalid {k : RawKind} {n : Nat} (hl : longest (reaches (x :: r)) = (some k, n))
    (ht : rawToken k ((x :: r).take n) = none) :
    tokenizeFrom (f + 1) (x :: r) off = .error off := by
  simp only [tokenizeFrom, List.takeWhile_cons, hx, Bool.false_eq_true, ↓reduceIte,
    List.length_nil, List.drop_zero, hl, ht]
  rfl

/-- What a successful step read: one token, then the rest. -/
theorem tokenizeFrom_eq_ok {ts : List Spanned} (h : tokenizeFrom (f + 1) (x :: r) off = .ok ts) :
    ∃ k n t ts', longest (reaches (x :: r)) = (some k, n) ∧
      rawToken k ((x :: r).take n) = some t ∧
      tokenizeFrom f ((x :: r).drop n) (off + byteLength ((x :: r).take n)) = .ok ts' ∧
      ts = ⟨t, off, off + byteLength ((x :: r).take n)⟩ :: ts' := by
  cases hl : longest (reaches (x :: r)) with
  | mk kind n =>
    cases kind with
    | none => rw [tokenizeFrom_unmatched hx f off hl] at h; cases h
    | some k =>
      cases ht : rawToken k ((x :: r).take n) with
      | none => rw [tokenizeFrom_invalid hx f off hl ht] at h; cases h
      | some t =>
        rw [tokenizeFrom_token hx f off hl ht] at h
        cases hrest : tokenizeFrom f ((x :: r).drop n) (off + byteLength ((x :: r).take n)) with
        | error e => rw [hrest] at h; cases h
        | ok ts' =>
          rw [hrest] at h
          exact ⟨k, n, t, ts', rfl, ht, hrest, (Except.ok.inj h).symm⟩

end Step

/-- Past its blanks, a text is empty or goes on with a character that is no blank. -/
theorem dropWhile_isGap_cases (cs : List Char) :
    cs.dropWhile isGap = [] ∨ ∃ x r, cs.dropWhile isGap = x :: r ∧ isGap x = false := by
  cases hd : cs.dropWhile isGap with
  | nil => exact .inl rfl
  | cons x r =>
    have hx := List.head_dropWhile_not isGap (l := cs) (by simp [hd])
    simp only [hd, List.head_cons] at hx
    exact .inr ⟨x, r, rfl, hx⟩

theorem length_dropWhile_le {α : Type} (p : α → Bool) (l : List α) :
    (l.dropWhile p).length ≤ l.length :=
  (List.dropWhile_sublist p).length_le

/-- With more fuel than characters, tokenizing does not depend on the fuel. -/
theorem tokenizeFrom_fuel :
    ∀ (f f' : Nat) (cs : List Char) (off : Nat), cs.length < f → cs.length < f' →
      tokenizeFrom f cs off = tokenizeFrom f' cs off
  | 0, _, _, _, h, _ => absurd h (Nat.not_lt_zero _)
  | _ + 1, 0, _, _, _, h => absurd h (Nat.not_lt_zero _)
  | f + 1, f' + 1, cs, off, h, h' => by
    rw [tokenizeFrom_skip, tokenizeFrom_skip f']
    have hle := length_dropWhile_le isGap cs
    rcases dropWhile_isGap_cases cs with hd | ⟨x, r, hd, hx⟩
    · rw [hd, tokenizeFrom_nil, tokenizeFrom_nil]
    · rw [hd] at hle ⊢
      -- one token is read under either fuel, and what follows has fewer characters
      cases hl : longest (reaches (x :: r)) with
      | mk kind n =>
        cases kind with
        | none => rw [tokenizeFrom_unmatched hx f _ hl, tokenizeFrom_unmatched hx f' _ hl]
        | some k =>
          cases ht : rawToken k ((x :: r).take n) with
          | none => rw [tokenizeFrom_invalid hx f _ hl ht, tokenizeFrom_invalid hx f' _ hl ht]
          | some t =>
            have hn := (longest_reaches_length hl).1
            have hrest : ((x :: r).drop n).length < cs.length := by
              simp only [List.length_drop, List.length_cons] at hle ⊢
              omega
            rw [tokenizeFrom_token hx f _ hl ht, tokenizeFrom_token hx f' _ hl ht,
              tokenizeFrom_fuel f f' _ _ (by omega) (by omega)]

/-- The span of a token moved along by `k` bytes. -/
def Spanned.shift (k : Nat) (t : Spanned) : Spanned := ⟨t.token, t.start + k, t.stop + k⟩

/-- Tokenizing from a later offset gives the same tokens, their spans moved along. -/
theorem tokenizeFrom_shift (k : Nat) :
    ∀ (f : Nat) (cs : List Char) (off : Nat) (ts : List Spanned),
      tokenizeFrom f cs off = .ok ts → tokenizeFrom f cs (off + k) = .ok (ts.map (Spanned.shift k))
  | 0, _, _, _, h => by
    cases h
    rfl
  | f + 1, cs, off, ts, h => by
    rw [tokenizeFrom_skip] at h ⊢
    rcases dropWhile_isGap_cases cs with hd | ⟨x, r, hd, hx⟩
    · rw [hd, tokenizeFrom_nil] at h ⊢
      cases h
      rfl
    · rw [hd] at h ⊢
      obtain ⟨kind, n, t, ts', hl, ht, hrest, rfl⟩ := tokenizeFrom_eq_ok hx f _ h
      rw [tokenizeFrom_token hx f _ hl ht]
      have := tokenizeFrom_shift k f _ _ ts' hrest
      rw [show off + k + byteLength (cs.takeWhile isGap) + byteLength ((x :: r).take n) =
        off + byteLength (cs.takeWhile isGap) + byteLength ((x :: r).take n) + k by omega, this]
      simp only [Except.map, List.map_cons, Spanned.shift]
      congr 3
      omega

/-! ## Tokenizing a text followed by a stop -/

/-- A text that is empty or opens with a stop. -/
def OpensWithStop (t : List Char) : Prop := ∀ c ∈ t.head?, IsStop c

/-- The blanks in front of a text that goes on with a character that is no blank are the same
with more text after it. -/
theorem gaps_append {s : List Char} {x : Char} {r : List Char} (hd : s.dropWhile isGap = x :: r)
    (t : List Char) :
    (s ++ t).takeWhile isGap = s.takeWhile isGap ∧ (s ++ t).dropWhile isGap = x :: r ++ t := by
  have hlen : (s.takeWhile isGap).length ≠ s.length := by
    intro h
    have hs := congrArg List.length (List.takeWhile_append_dropWhile (p := isGap) (l := s))
    rw [List.length_append, hd, h, List.length_cons] at hs
    omega
  refine ⟨?_, ?_⟩
  · rw [List.takeWhile_append, if_neg hlen]
  · rw [List.dropWhile_append, hd]
    rfl

/-- **Tokens stop at a stop.**  Tokenizing a text and then a text that opens with a stop gives
the tokens of the first, then those of the second from where the first ends. -/
theorem tokenizeFrom_append :
    ∀ (f : Nat) (s : List Char) (off : Nat) (ts : List Spanned), tokenizeFrom f s off = .ok ts →
      s.length < f → ∀ t : List Char, OpensWithStop t →
        tokenizeFrom ((s ++ t).length + 1) (s ++ t) off =
          (tokenizeFrom (t.length + 1) t (off + byteLength s)).map (ts ++ ·)
  | 0, _, _, _, _, h, _, _ => absurd h (Nat.not_lt_zero _)
  | f + 1, s, off, ts, hs, hf, t, ht => by
    rw [tokenizeFrom_skip] at hs
    rw [tokenizeFrom_skip]
    rcases dropWhile_isGap_cases s with hd | ⟨x, r, hd, hx⟩
    · -- only blanks are left, and they join the blanks in front of `t`
      rw [hd, tokenizeFrom_nil] at hs
      cases hs
      have hall : ∀ a ∈ s, isGap a := List.dropWhile_eq_nil_iff.mp hd
      have hle := length_dropWhile_le isGap t
      rw [List.takeWhile_append_of_pos hall, List.dropWhile_append_of_pos hall,
        tokenizeFrom_skip t.length t, byteLength_append, ← Nat.add_assoc,
        tokenizeFrom_fuel _ (t.length + 1) _ _ (by simp only [List.length_append]; omega)
          (by omega)]
      cases tokenizeFrom (t.length + 1) (t.dropWhile isGap) _ <;> rfl
    · rw [hd] at hs
      obtain ⟨k, n, tok, ts', hl, htok, hrest, rfl⟩ := tokenizeFrom_eq_ok hx f _ hs
      obtain ⟨htw, hdw⟩ := gaps_append hd t
      have hn := longest_reaches_length hl
      -- the token at `x` is read the same way with `t` after it
      have hl' : longest (reaches (x :: r ++ t)) = (some k, n) := by
        cases t with
        | nil => rw [List.append_nil, hl]
        | cons c v => rw [reaches_append_stop (by rw [hl]; rfl) (ht c rfl) v, hl]
      have htake : (x :: r ++ t).take n = (x :: r).take n := List.take_append_of_le_length hn.2
      have hdrop : (x :: r ++ t).drop n = (x :: r).drop n ++ t :=
        List.drop_append_of_le_length hn.2
      have hsplit : byteLength s = byteLength (s.takeWhile isGap) +
          (byteLength ((x :: r).take n) + byteLength ((x :: r).drop n)) := by
        rw [← byteLength_append, List.take_append_drop, ← hd, ← byteLength_append,
          List.takeWhile_append_dropWhile]
      have hlen : ((x :: r).drop n).length < f := by
        have := congrArg List.length (List.takeWhile_append_dropWhile (p := isGap) (l := s))
        rw [List.length_append, hd] at this
        simp only [List.length_drop, List.length_cons] at this ⊢
        omega
      rw [List.cons_append] at hl' htake hdrop
      rw [htw, hdw, List.cons_append, tokenizeFrom_token hx _ _ hl' (htake ▸ htok), htake, hdrop,
        tokenizeFrom_fuel _ ((((x :: r).drop n) ++ t).length + 1) _ _
          (by
            have hxr := length_dropWhile_le isGap s
            rw [hd] at hxr
            simp only [List.length_append, List.length_drop, List.length_cons] at hxr hn ⊢
            omega)
          (by omega),
        tokenizeFrom_append f _ _ ts' hrest hlen t ht, hsplit]
      rw [show off + (byteLength (s.takeWhile isGap) + (byteLength ((x :: r).take n) +
        byteLength ((x :: r).drop n))) = off + byteLength (s.takeWhile isGap) +
          byteLength ((x :: r).take n) + byteLength ((x :: r).drop n) by omega]
      cases tokenizeFrom (t.length + 1) t _ <;> rfl

/-! ## Blanks and punctuation in front -/

/-- Blanks in front of a text only move its tokens along. -/
theorem tokenizeFrom_gaps {g : List Char} (hg : ∀ a ∈ g, isGap a) (v : List Char) (off : Nat) :
    tokenizeFrom ((g ++ v).length + 1) (g ++ v) off =
      tokenizeFrom (v.length + 1) v (off + byteLength g) := by
  have hle := length_dropWhile_le isGap v
  rw [tokenizeFrom_skip, List.takeWhile_append_of_pos hg, List.dropWhile_append_of_pos hg,
    tokenizeFrom_skip v.length v, byteLength_append, ← Nat.add_assoc,
    tokenizeFrom_fuel _ (v.length + 1) _ _ (by simp only [List.length_append]; omega) (by omega)]

/-- A character that is a token of its own, whatever follows it. -/
theorem tokenizeFrom_single {c : Char} {k : RawKind} {tok : Token}
    (hl : ∀ v, longest (reaches (c :: v)) = (some k, 1)) (ht : rawToken k [c] = some tok)
    (hgap : isGap c = false) (hsize : c.utf8Size = 1) (v : List Char) (off : Nat) :
    tokenizeFrom ((c :: v).length + 1) (c :: v) off =
      (tokenizeFrom (v.length + 1) v (off + 1)).map (⟨tok, off, off + 1⟩ :: ·) := by
  have hbytes : byteLength ((c :: v).take 1) = 1 := by
    simp only [List.take_succ_cons, List.take_zero, byteLength, List.foldl_cons, List.foldl_nil]
    omega
  rw [List.length_cons, tokenizeFrom_token hgap _ off (hl v) (by simpa using ht), hbytes,
    List.drop_one, List.tail_cons]

theorem tokenizeFrom_parenOpen (v : List Char) (off : Nat) :
    tokenizeFrom (('(' :: v).length + 1) ('(' :: v) off =
      (tokenizeFrom (v.length + 1) v (off + 1)).map (⟨.parenOpen, off, off + 1⟩ :: ·) :=
  tokenizeFrom_single (by intro v; cases v <;> rfl) rfl rfl rfl v off

theorem tokenizeFrom_comma (v : List Char) (off : Nat) :
    tokenizeFrom ((',' :: v).length + 1) (',' :: v) off =
      (tokenizeFrom (v.length + 1) v (off + 1)).map (⟨.comma, off, off + 1⟩ :: ·) :=
  tokenizeFrom_single (by intro v; cases v <;> rfl) rfl rfl rfl v off

theorem tokenizeFrom_parenClose (v : List Char) (off : Nat) :
    tokenizeFrom ((')' :: v).length + 1) (')' :: v) off =
      (tokenizeFrom (v.length + 1) v (off + 1)).map (⟨.parenClose, off, off + 1⟩ :: ·) :=
  tokenizeFrom_single (by intro v; cases v <;> rfl) rfl rfl rfl v off

end Covenant.Template
