import Covenant.Clause.Resolve
import Mathlib.Data.List.TakeWhile
/-!
# Resolving clauses only deletes

Resolving the optional clauses of a text reads it from left to right (`Resolves`):

* a character other than `[` is kept;
* a `[` that opens no clause is kept, and reading goes on just after it;
* a `[` that opens a clause `[text]{condition}` drops the whole span when the condition fails,
  and puts the text, itself resolved, in its place when the condition holds.

A `[` opens a clause (`OpensClause`) when the text after it is a bracket-balanced guarded text
(`Balanced`: no prefix closes more brackets than it opens, and the whole closes them all), its
`]`, a `{` not followed by another `{`, a condition free of `}`, line breaks and `[`, and the
closing `}`. That span is the one the scanner finds (`clauseAt_eq_some_iff`), and at most one
span starts at each `[` (`OpensClause.unique`), so the reading is determined
(`Resolves.determ`). Every reading only deletes characters (`Resolves.sublist`).

The main statement (`resolveClauses_only_deletes`) says that the resolved text is a sublist of
the text and is its one reading, and that an empty condition holds, so a clause with an empty
condition keeps its text.
-/

namespace Covenant.Clause

/-! ## Balanced brackets -/

/-- A text takes `d` open brackets back to none without closing more than are open: each
prefix closes at most `d` more `]` than it opens `[`, and the whole closes exactly `d` more. -/
def ClosesFrom (d : Nat) (t : List Char) : Prop :=
  t.count ']' = d + t.count '[' ∧ ∀ n, (t.take n).count ']' ≤ d + (t.take n).count '['

/-- The brackets of a text balance: no prefix closes more than it opens, and the text closes
all it opens. -/
def Balanced (t : List Char) : Prop := ClosesFrom 0 t

theorem closesFrom_nil {d : Nat} : ClosesFrom d [] ↔ d = 0 := by
  simp only [ClosesFrom, List.count_nil, List.take_nil]
  constructor
  · exact fun h => by omega
  · intro h
    subst h
    simp

/-- One character moves the depth: `[` opens one more, `]` closes one, which must be open. -/
theorem closesFrom_cons {d : Nat} {c : Char} {t : List Char} :
    ClosesFrom d (c :: t) ↔
      ∃ d', d' + (if c = ']' then 1 else 0) = d + (if c = '[' then 1 else 0) ∧
        ClosesFrom d' t := by
  have hstep : ∀ l : List Char, ∀ x, (c :: l).count x = l.count x + if c = x then 1 else 0 := by
    intro l x
    simp [List.count_cons]
  constructor
  · rintro ⟨htot, hpre⟩
    -- the one-character prefix shows that a `]` finds a bracket open
    have h1 := hpre 1
    simp only [List.take_succ_cons, List.take_zero, hstep, List.count_nil] at htot h1
    refine ⟨d + (if c = '[' then 1 else 0) - (if c = ']' then 1 else 0), by omega, ?_,
      fun n => ?_⟩
    · omega
    · have := hpre (n + 1)
      simp only [List.take_succ_cons, hstep] at this
      omega
  · rintro ⟨d', hd, htot, hpre⟩
    refine ⟨by simp only [hstep]; omega, fun n => ?_⟩
    cases n with
    | zero => simp
    | succ n =>
      have := hpre n
      simp only [List.take_succ_cons, hstep]
      omega

/-! ## The closing bracket -/

theorem matchBracket_open (cs : List Char) (d : Nat) (acc : List Char) :
    matchBracket ('[' :: cs) d acc = matchBracket cs (d + 1) ('[' :: acc) := by
  cases d <;> simp [matchBracket]

theorem matchBracket_close_zero (cs acc : List Char) :
    matchBracket (']' :: cs) 0 acc = some (acc.reverse, cs) := by
  simp [matchBracket]

theorem matchBracket_close_succ (cs : List Char) (d : Nat) (acc : List Char) :
    matchBracket (']' :: cs) (d + 1) acc = matchBracket cs d (']' :: acc) := by
  simp [matchBracket]

theorem matchBracket_other {c : Char} (hopen : c ≠ '[') (hclose : c ≠ ']') (cs : List Char)
    (d : Nat) (acc : List Char) : matchBracket (c :: cs) d acc = matchBracket cs d (c :: acc) := by
  cases d <;> simp [matchBracket, hopen, hclose]

/-- The closing bracket found at depth `d` ends a text that takes the `d` open brackets back to
none. -/
theorem matchBracket_sound :
    ∀ {cs : List Char} {d : Nat} {acc text rest : List Char},
      matchBracket cs d acc = some (text, rest) →
        ∃ t, text = acc.reverse ++ t ∧ cs = t ++ ']' :: rest ∧ ClosesFrom d t
  | [], _, _, _, _, h => by simp [matchBracket] at h
  | c :: cs, d, acc, text, rest, h => by
    by_cases hopen : c = '['
    · subst hopen
      rw [matchBracket_open] at h
      obtain ⟨t, rfl, rfl, ht⟩ := matchBracket_sound h
      exact ⟨'[' :: t, by simp, rfl, closesFrom_cons.mpr ⟨d + 1, by simp, ht⟩⟩
    · by_cases hclose : c = ']'
      · subst hclose
        cases d with
        | zero =>
          rw [matchBracket_close_zero, Option.some.injEq, Prod.mk.injEq] at h
          obtain ⟨rfl, rfl⟩ := h
          exact ⟨[], by simp, rfl, closesFrom_nil.mpr rfl⟩
        | succ d =>
          rw [matchBracket_close_succ] at h
          obtain ⟨t, rfl, rfl, ht⟩ := matchBracket_sound h
          exact ⟨']' :: t, by simp, rfl, closesFrom_cons.mpr ⟨d, by simp, ht⟩⟩
      · rw [matchBracket_other hopen hclose] at h
        obtain ⟨t, rfl, rfl, ht⟩ := matchBracket_sound h
        exact ⟨c :: t, by simp, rfl, closesFrom_cons.mpr ⟨d, by simp [hopen, hclose], ht⟩⟩

/-- After a text that takes `d` open brackets back to none, the next `]` is the closing one. -/
theorem matchBracket_of_closesFrom (rest : List Char) :
    ∀ {t : List Char} {d : Nat} (acc : List Char), ClosesFrom d t →
      matchBracket (t ++ ']' :: rest) d acc = some (acc.reverse ++ t, rest)
  | [], d, acc, h => by
    obtain rfl := closesFrom_nil.mp h
    simp [matchBracket_close_zero]
  | c :: t, d, acc, h => by
    obtain ⟨d', hd, ht⟩ := closesFrom_cons.mp h
    rw [List.cons_append]
    by_cases hopen : c = '['
    · subst hopen
      obtain rfl : d' = d + 1 := by simpa using hd
      rw [matchBracket_open, matchBracket_of_closesFrom rest ('[' :: acc) ht]
      simp
    · by_cases hclose : c = ']'
      · subst hclose
        obtain rfl : d = d' + 1 := by simpa using hd.symm
        rw [matchBracket_close_succ, matchBracket_of_closesFrom rest (']' :: acc) ht]
        simp
      · obtain rfl : d' = d := by simpa [hopen, hclose] using hd
        rw [matchBracket_other hopen hclose, matchBracket_of_closesFrom rest (c :: acc) ht]
        simp

/-! ## Clause spans -/

/-- After a `[`, the text `after` is a clause: a balanced guarded text, `]`, `{`, a condition
free of `}`, line breaks and `[` that does not start with a second `{`, `}`, and then `tail`. -/
structure OpensClause (after text cond tail : List Char) : Prop where
  split : after = text ++ ']' :: '{' :: (cond ++ '}' :: tail)
  balanced : Balanced text
  plain : ∀ c ∈ cond, c ≠ '}' ∧ c ≠ '\n' ∧ c ≠ '['
  notTag : cond.head? ≠ some '{'

theorem opensClause_of_clauseAt {after text cond tail : List Char}
    (h : clauseAt after = some (text, cond, tail)) : OpensClause after text cond tail := by
  simp only [clauseAt, Option.bind_eq_bind, Option.bind_eq_some_iff] at h
  obtain ⟨⟨t, after'⟩, hmatch, h⟩ := h
  obtain ⟨t', rfl, rfl, ht⟩ := matchBracket_sound hmatch
  cases after' with
  | nil => simp at h
  | cons x rest =>
    by_cases hx : x = '{'
    · subst hx
      by_cases hhead : rest.head? = some '{'
      · simp [hhead] at h
      · simp only [hhead, if_false] at h
        generalize hcond : List.takeWhile
          (fun c => decide (c ≠ '}') && decide (c ≠ '\n') && decide (c ≠ '[')) rest = c0 at h
        -- the condition is the longest plain prefix of what follows `{`
        have htake : rest.take c0.length = c0 :=
          (List.prefix_iff_eq_take.mp (hcond ▸ List.takeWhile_prefix _)).symm
        have hplain : ∀ c ∈ c0, c ≠ '}' ∧ c ≠ '\n' ∧ c ≠ '[' := by
          intro c hc
          rw [← hcond] at hc
          simpa [and_assoc] using List.mem_takeWhile_imp hc
        cases hd : rest.drop c0.length with
        | nil => simp [hd] at h
        | cons y tail' =>
          by_cases hy : y = '}'
          · subst hy
            simp only [hd, Option.some.injEq, Prod.mk.injEq] at h
            obtain ⟨rfl, rfl, rfl⟩ := h
            have hrest : rest = c0 ++ '}' :: tail' := by
              rw [← List.take_append_drop c0.length rest, htake, hd]
            subst hrest
            refine ⟨rfl, ht, hplain, ?_⟩
            cases c0 with
            | nil => simp
            | cons c c0 => simpa using hhead
          · simp [hd, hy] at h
    · simp [hx] at h

theorem clauseAt_of_opensClause {after text cond tail : List Char}
    (h : OpensClause after text cond tail) : clauseAt after = some (text, cond, tail) := by
  obtain ⟨rfl, hbal, hplain, hnotTag⟩ := h
  have hhead : (cond ++ '}' :: tail).head? ≠ some '{' := by
    cases cond with
    | nil => simp
    | cons c cond => simpa using hnotTag
  have hcond : (cond ++ '}' :: tail).takeWhile
      (fun c => decide (c ≠ '}') && decide (c ≠ '\n') && decide (c ≠ '[')) = cond := by
    rw [List.takeWhile_append_of_pos (fun c hc => by simpa [and_assoc] using hplain c hc)]
    simp
  simp only [clauseAt, Option.bind_eq_bind, matchBracket_of_closesFrom _ [] hbal,
    List.reverse_nil, List.nil_append, Option.bind_some, hhead, if_false, hcond,
    List.drop_left]

/-- **The scanner finds exactly the clause spans.** -/
theorem clauseAt_eq_some_iff {after text cond tail : List Char} :
    clauseAt after = some (text, cond, tail) ↔ OpensClause after text cond tail :=
  ⟨opensClause_of_clauseAt, clauseAt_of_opensClause⟩

/-- At most one clause starts at a `[`. -/
theorem OpensClause.unique {after text cond tail text' cond' tail' : List Char}
    (h : OpensClause after text cond tail) (h' : OpensClause after text' cond' tail') :
    text = text' ∧ cond = cond' ∧ tail = tail' := by
  have := (clauseAt_eq_some_iff.mpr h).symm.trans (clauseAt_eq_some_iff.mpr h')
  simpa using this

/-- Dropping a clause's brackets and condition keeps the rest in order. -/
theorem OpensClause.sublist {after text cond tail : List Char}
    (h : OpensClause after text cond tail) : (text ++ tail).Sublist after := by
  rw [h.split]
  have htail : tail.Sublist (']' :: '{' :: (cond ++ '}' :: tail)) :=
    (((List.sublist_cons_self _ _).trans (List.sublist_append_right _ _)).cons _).cons _
  exact htail.append_left text

/-! ## One step of resolving -/

theorem resolveChars_nil (m : Metadata) (fuel : Nat) : resolveChars m fuel [] = [] := by
  cases fuel <;> rfl

theorem resolveChars_cons_of_ne (m : Metadata) (fuel : Nat) {c : Char} (cs : List Char)
    (hc : c ≠ '[') :
    resolveChars m (fuel + 1) (c :: cs) = c :: resolveChars m (fuel + 1) cs := by
  rw [resolveChars, resolveChars]
  simp only [List.takeWhile_cons, ne_eq, decide_not, hc, decide_false, Bool.not_false, ite_true,
    List.length_cons, List.drop_succ_cons, List.cons_append]
  split
  · split <;> rfl
  · rfl

theorem resolveChars_clause (m : Metadata) (fuel : Nat) {after text cond tail : List Char}
    (h : clauseAt after = some (text, cond, tail)) :
    resolveChars m (fuel + 1) ('[' :: after) =
      (if (Condition.parse (String.ofList cond)).holds m then resolveChars m fuel text else []) ++
        resolveChars m fuel tail := by
  rw [resolveChars]
  simp [h]

theorem resolveChars_stray (m : Metadata) (fuel : Nat) {after : List Char}
    (h : clauseAt after = none) :
    resolveChars m (fuel + 1) ('[' :: after) = '[' :: resolveChars m fuel after := by
  rw [resolveChars]
  simp [h]

/-! ## Readings -/

/-- How a text resolves against metadata, read from left to right. -/
inductive Resolves (m : Metadata) : List Char → List Char → Prop
  | nil : Resolves m [] []
  /-- A character other than `[` is kept. -/
  | text {c : Char} {cs out : List Char} : c ≠ '[' → Resolves m cs out →
      Resolves m (c :: cs) (c :: out)
  /-- A `[` that opens no clause is kept. -/
  | stray {after out : List Char} : (∀ text cond tail, ¬ OpensClause after text cond tail) →
      Resolves m after out → Resolves m ('[' :: after) ('[' :: out)
  /-- A clause whose condition fails is dropped whole. -/
  | drop {after text cond tail out : List Char} : OpensClause after text cond tail →
      (Condition.parse (String.ofList cond)).holds m = false → Resolves m tail out →
      Resolves m ('[' :: after) out
  /-- A clause whose condition holds is replaced by its text, resolved. -/
  | keep {after text cond tail kept out : List Char} : OpensClause after text cond tail →
      (Condition.parse (String.ofList cond)).holds m = true → Resolves m text kept →
      Resolves m tail out → Resolves m ('[' :: after) (kept ++ out)

/-- A reading only deletes characters. -/
theorem Resolves.sublist {m : Metadata} {cs out : List Char} (h : Resolves m cs out) :
    out.Sublist cs := by
  induction h with
  | nil => exact List.Sublist.slnil
  | text _ _ ih => exact ih.cons_cons _
  | stray _ _ ih => exact ih.cons_cons _
  | drop hspan _ _ ih =>
    exact (ih.trans ((List.sublist_append_right _ _).trans hspan.sublist)).cons _
  | keep hspan _ _ _ ihText ihTail => exact ((ihText.append ihTail).trans hspan.sublist).cons _

/-- A text has at most one reading: each `[` opens at most one clause, and a condition either
holds or fails. -/
theorem Resolves.determ {m : Metadata} {cs out out' : List Char} (h : Resolves m cs out)
    (h' : Resolves m cs out') : out = out' := by
  induction h generalizing out' with
  | nil => cases h'; rfl
  | text hc _ ih =>
    cases h' with
    | text _ h' => rw [ih h']
    | stray => exact absurd rfl hc
    | drop => exact absurd rfl hc
    | keep => exact absurd rfl hc
  | stray hnone _ ih =>
    cases h' with
    | text hc => exact absurd rfl hc
    | stray _ h' => rw [ih h']
    | drop hspan => exact absurd hspan (hnone _ _ _)
    | keep hspan => exact absurd hspan (hnone _ _ _)
  | drop hspan hfalse _ ih =>
    cases h' with
    | text hc => exact absurd rfl hc
    | stray hnone => exact absurd hspan (hnone _ _ _)
    | drop hspan' _ h' =>
      obtain ⟨rfl, rfl, rfl⟩ := hspan.unique hspan'
      exact ih h'
    | keep hspan' htrue =>
      obtain ⟨rfl, rfl, rfl⟩ := hspan.unique hspan'
      simp [hfalse] at htrue
  | keep hspan htrue _ _ ihText ihTail =>
    cases h' with
    | text hc => exact absurd rfl hc
    | stray hnone => exact absurd hspan (hnone _ _ _)
    | drop hspan' hfalse =>
      obtain ⟨rfl, rfl, rfl⟩ := hspan.unique hspan'
      simp [htrue] at hfalse
    | keep hspan' _ hText hTail =>
      obtain ⟨rfl, rfl, rfl⟩ := hspan.unique hspan'
      rw [ihText hText, ihTail hTail]

/-- With more fuel than the text has characters, resolving gives a reading of the text. -/
theorem resolves_resolveChars (m : Metadata) :
    ∀ (fuel : Nat) (cs : List Char), cs.length < fuel →
      Resolves m cs (resolveChars m fuel cs) := by
  intro fuel
  -- fuel is spent only at a `[`; between two of them the text shrinks at the same fuel
  induction fuel with
  | zero => intro cs h; exact absurd h (Nat.not_lt_zero _)
  | succ fuel ih =>
    intro cs
    induction cs with
    | nil =>
      intro _
      rw [resolveChars_nil]
      exact .nil
    | cons c cs ihc =>
      intro hlen
      by_cases hc : c = '['
      · subst hc
        have hafter : cs.length < fuel := by simpa using hlen
        cases hcl : clauseAt cs with
        | none =>
          rw [resolveChars_stray m fuel hcl]
          refine .stray (fun text cond tail hspan => ?_) (ih cs hafter)
          simp [clauseAt_eq_some_iff.mpr hspan] at hcl
        | some span =>
          obtain ⟨text, cond, tail⟩ := span
          have hspan := clauseAt_eq_some_iff.mp hcl
          have hlens : text.length < fuel ∧ tail.length < fuel := by
            have := congrArg List.length hspan.split
            simp only [List.length_append, List.length_cons] at this
            omega
          rw [resolveChars_clause m fuel hcl]
          cases hholds : (Condition.parse (String.ofList cond)).holds m with
          | false => exact .drop hspan hholds (ih tail hlens.2)
          | true => exact .keep hspan hholds (ih text hlens.1) (ih tail hlens.2)
      · rw [resolveChars_cons_of_ne m fuel cs hc]
        exact .text hc (ihc (Nat.lt_of_succ_lt hlen))

/-- **Resolving clauses only deletes.**  The resolved text is the content with characters
removed, never inserted or reordered; it is the one left-to-right reading of the content, in
which every clause span is dropped or replaced by its own resolved text and every other
character, a `[` that opens no clause included, is kept; and an empty condition holds. -/
theorem resolveClauses_only_deletes (content : String) (m : Metadata) :
    (resolveClauses content m).toList.Sublist content.toList ∧
      (∀ out, Resolves m content.toList out ↔ out = (resolveClauses content m).toList) ∧
      (Condition.parse "").holds m = true := by
  have hres : Resolves m content.toList (resolveClauses content m).toList := by
    rw [resolveClauses, String.toList_ofList]
    exact resolves_resolveChars m _ _ (String.length_toList ▸ Nat.lt_succ_self _)
  exact ⟨hres.sublist, fun out => ⟨fun h => h.determ hres, fun h => h ▸ hres⟩, rfl⟩

/-- Nested and adjacent clauses, a failing condition, a `]{{` that opens a tag and a stray
`[`. -/
example : resolveClauses "a[b]\x7bx\x7d[c[d]\x7b\x7d]\x7b\x7d]\x7b\x7be[f" [] = "acd]\x7b\x7be[f" := by rfl

end Covenant.Clause
