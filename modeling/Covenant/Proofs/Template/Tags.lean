import Covenant.Template.Split
/-!
# How a text splits into tags

`splitChars` cuts a text at its first `{{`, takes a tag up to the first `}}` after it, and goes
on after the tag; a `{{` with no `}}` after it leaves the rest of the text as it is.  Its
output has a shape of its own (`Lexed`): a tag's inside holds no `}}`, a stretch of text
before a tag holds no `{{` and does not end in `{`, and the last stretch of text either holds
no `{{` or opens one that no `}}` closes.

Splitting follows joining: what comes before a tag splits on its own (`splitChars_tag`), and a
stretch of text that cannot begin a tag joins the text after it (`splitChars_plain`).  So:

* splitting gives back its input and a `Lexed` list (`flatten_splitChars`, `lexed_splitChars`);
* a tag appended to a text that does not end inside a tag is a tag of its own
  (`splitChars_append_tag`);
* dropping tags from a split and splitting the rest again gives the tags left, with the
  stretches of text that met joined (`splitChars_filter`): no new tag forms where one was
  dropped.
-/

namespace Covenant.Template

/-- The characters of a tag with the given inside. -/
def tagChars (inner : List Char) : List Char :=
  '{' :: '{' :: (inner ++ ['}', '}'])

section Pair

variable {a b : Char}

theorem splitAtPair_cons_cons (x y : Char) (r : List Char) :
    splitAtPair a b (x :: y :: r) =
      if x = a && y = b then some ([], r)
      else (splitAtPair a b (y :: r)).map fun (pre, post) => (x :: pre, post) := rfl

/-- The pair found is the first one: the text before it, with `a` after it, holds none. -/
theorem splitAtPair_eq_some : ∀ {cs pre post : List Char},
    splitAtPair a b cs = some (pre, post) →
      cs = pre ++ a :: b :: post ∧ splitAtPair a b (pre ++ [a]) = none
  | [], _, _, h => by cases h
  | [_], _, _, h => by cases h
  | x :: y :: r, pre, post, h => by
      rw [splitAtPair_cons_cons] at h
      split at h
      · -- the pair opens the text
        rename_i hxy
        cases h
        simp only [Bool.and_eq_true, decide_eq_true_eq] at hxy
        obtain ⟨rfl, rfl⟩ := hxy
        exact ⟨rfl, rfl⟩
      · -- the pair lies further on, and `x y` is no pair
        rename_i hxy
        obtain ⟨⟨pre', post'⟩, h', hpre⟩ := Option.map_eq_some_iff.mp h
        cases hpre
        obtain ⟨hy, hnone⟩ := splitAtPair_eq_some h'
        refine ⟨by rw [hy]; rfl, ?_⟩
        have hhead : ∃ r', pre' ++ [a] = y :: r' := by
          cases pre' with
          | nil =>
              simp only [List.nil_append, List.cons.injEq] at hy
              exact ⟨[], by rw [hy.1]; rfl⟩
          | cons z zs =>
              simp only [List.cons_append, List.cons.injEq] at hy
              exact ⟨zs ++ [a], by rw [hy.1]; rfl⟩
        obtain ⟨r', hr'⟩ := hhead
        rw [List.cons_append, hr', splitAtPair_cons_cons, if_neg hxy, ← hr', hnone]
        rfl

/-- A pair with no pair before it is found. -/
theorem splitAtPair_of_none : ∀ {pre : List Char}, splitAtPair a b (pre ++ [a]) = none →
    ∀ post, splitAtPair a b (pre ++ a :: b :: post) = some (pre, post)
  | [], _, post => by simp [splitAtPair_cons_cons]
  | [x], h, post => by
      rw [List.singleton_append, splitAtPair_cons_cons] at h
      split at h
      · cases h
      · rename_i hxa
        rw [List.singleton_append, splitAtPair_cons_cons, if_neg hxa, splitAtPair_cons_cons,
          if_pos (by simp)]
        rfl
  | x :: y :: r, h, post => by
      rw [List.cons_append, List.cons_append, splitAtPair_cons_cons] at h
      split at h
      · cases h
      · rename_i hxy
        have h' : splitAtPair a b (y :: r ++ [a]) = none := Option.map_eq_none_iff.mp h
        rw [List.cons_append, List.cons_append, splitAtPair_cons_cons, if_neg hxy,
          ← List.cons_append, splitAtPair_of_none h' post]
        rfl

/-- A pair found in a text is found, at the same place, in any longer text. -/
theorem splitAtPair_append_of_some : ∀ {l pre post : List Char} (r : List Char),
    splitAtPair a b l = some (pre, post) → splitAtPair a b (l ++ r) = some (pre, post ++ r)
  | [], _, _, _, h => by cases h
  | [_], _, _, _, h => by cases h
  | x :: y :: l, pre, post, r, h => by
      rw [splitAtPair_cons_cons] at h
      rw [List.cons_append, List.cons_append, splitAtPair_cons_cons]
      split at h
      · rename_i hxy
        cases h
        rw [if_pos hxy]
      · rename_i hxy
        obtain ⟨⟨pre', post'⟩, h', hpre⟩ := Option.map_eq_some_iff.mp h
        cases hpre
        rw [if_neg hxy, ← List.cons_append, splitAtPair_append_of_some r h']
        rfl

/-- A text whose extension holds no pair holds none itself. -/
theorem splitAtPair_eq_none_of_append {l : List Char} (r : List Char)
    (h : splitAtPair a b (l ++ r) = none) : splitAtPair a b l = none := by
  cases hl : splitAtPair a b l with
  | none => rfl
  | some p =>
      obtain ⟨pre, post⟩ := p
      rw [splitAtPair_append_of_some r hl] at h
      cases h

/-- A text with no pair, and that cannot end one's first half, passes the search on to what
follows it. -/
theorem splitAtPair_append_of_none : ∀ {l : List Char}, splitAtPair a b (l ++ [b]) = none →
    ∀ r, splitAtPair a b (l ++ r) = (splitAtPair a b r).map fun (pre, post) => (l ++ pre, post)
  | [], _, r => by
      rw [List.nil_append]
      cases splitAtPair a b r with
      | none => rfl
      | some p =>
          obtain ⟨pre, post⟩ := p
          rfl
  | [x], h, r => by
      rw [List.singleton_append, splitAtPair_cons_cons] at h
      split at h
      · cases h
      · rename_i hxb
        cases r with
        | nil => rfl
        | cons y r =>
            -- `x` is not the pair's first half, or `x b` would be a pair
            have hxy : ¬ (x = a && y = b) = true := by
              intro hxy
              simp only [Bool.and_eq_true, decide_eq_true_eq, and_true] at hxy hxb
              exact hxb hxy.1
            rw [List.singleton_append, splitAtPair_cons_cons, if_neg hxy]
            cases splitAtPair a b (y :: r) <;> rfl
  | x :: y :: l, h, r => by
      rw [List.cons_append, List.cons_append, splitAtPair_cons_cons] at h
      split at h
      · cases h
      · rename_i hxy
        have h' : splitAtPair a b (y :: l ++ [b]) = none := Option.map_eq_none_iff.mp h
        rw [List.cons_append, List.cons_append, splitAtPair_cons_cons, if_neg hxy,
          ← List.cons_append, splitAtPair_append_of_none h' r]
        cases splitAtPair a b r <;> rfl

end Pair

/-! ## Fuel

Each tag takes at least four characters, so fuel as large as the text is enough, and more
changes nothing. -/

theorem length_lt_of_splitAtPair {a b : Char} {cs pre post : List Char}
    (h : splitAtPair a b cs = some (pre, post)) : post.length < cs.length := by
  rw [(splitAtPair_eq_some h).1]
  simp
  omega

theorem splitChars_fuel : ∀ (n m : Nat) (cs : List Char), cs.length ≤ n → cs.length ≤ m →
    splitChars n cs = splitChars m cs
  | 0, 0, _, _, _ => rfl
  | 0, _ + 1, cs, hn, _ => by
      rw [List.eq_nil_of_length_eq_zero (Nat.le_zero.mp hn)]
      rfl
  | _ + 1, 0, cs, _, hm => by
      rw [List.eq_nil_of_length_eq_zero (Nat.le_zero.mp hm)]
      rfl
  | n + 1, m + 1, cs, hn, hm => by
      unfold splitChars
      split
      · rfl
      · rename_i pre afterOpen hopen
        split
        · rfl
        · rename_i inner rest hclose
          have := length_lt_of_splitAtPair hopen
          have := length_lt_of_splitAtPair hclose
          rw [splitChars_fuel n m rest (by omega) (by omega)]

/-! ## Splitting what is joined -/

/-- The inside of a tag as `splitChars` takes it: no `}}`, and no `}` at its end. -/
def TagInside (inner : List Char) : Prop :=
  splitAtPair '}' '}' (inner ++ ['}']) = none

/-- Text that cannot begin a tag: no `{{`, and no `{` at its end. -/
def Plain (t : List Char) : Prop :=
  splitAtPair '{' '{' (t ++ ['{']) = none

/-- The text a split may end with: it holds no `{{`, or no `}}` closes its first `{{`. -/
def LastText (t : List Char) : Prop :=
  ∀ pre post, splitAtPair '{' '{' t = some (pre, post) → splitAtPair '}' '}' post = none

theorem length_tagChars (inner : List Char) : (tagChars inner).length = inner.length + 4 := by
  simp [tagChars]

/-- A tag at the front of a text is split off, and the rest splits on its own. -/
theorem splitChars_tag {inner : List Char} (hin : TagInside inner) (rest : List Char) (n : Nat) :
    splitChars (n + 1) (tagChars inner ++ rest) =
      (tagChars inner, true) :: splitChars n rest := by
  have hclose : splitAtPair '}' '}' (inner ++ '}' :: '}' :: rest) = some (inner, rest) :=
    splitAtPair_of_none hin rest
  have hchars : tagChars inner ++ rest = '{' :: '{' :: (inner ++ '}' :: '}' :: rest) := by
    simp [tagChars]
  rw [hchars, splitChars, splitAtPair_cons_cons, if_pos (by decide)]
  simp [hclose, tagChars]

/-- The last stretch of text splits as one. -/
theorem splitChars_last {t : List Char} (ht : LastText t) (hne : t ≠ []) (n : Nat) :
    splitChars n t = [(t, false)] := by
  cases n with
  | zero => simp [splitChars, hne]
  | succ n =>
      unfold splitChars
      split
      · simp [hne]
      · rename_i pre post hopen
        rw [ht pre post hopen]

/-- Plain text before another text joins that text's first stretch of text, or stands before
its first tag. -/
def prependText (t : List Char) : List (List Char × Bool) → List (List Char × Bool)
  | (u, false) :: L => (t ++ u, false) :: L
  | L => (t, false) :: L

/-- Plain text in front of a text does not change how the rest splits. -/
theorem splitChars_plain {t : List Char} (ht : Plain t) (hne : t ≠ []) : ∀ (n : Nat) (r : List Char),
    (t ++ r).length ≤ n → splitChars n (t ++ r) = prependText t (splitChars n r)
  | 0, r, hn => by
      simp at hn
      exact absurd hn.1 hne
  | n + 1, [], _ => by
      -- plain text alone is one stretch
      rw [List.append_nil, splitChars_last (fun pre post h => ?_) hne]
      · rfl
      · rw [splitAtPair_eq_none_of_append _ ht] at h
        cases h
  | n + 1, x :: r, hn => by
      have hsearch := splitAtPair_append_of_none ht (x :: r)
      cases hopen : splitAtPair '{' '{' (x :: r) with
      | none =>
          -- no tag at all: the two texts are one stretch
          rw [hopen] at hsearch
          simp [splitChars, hsearch, hopen, prependText]
      | some p =>
          obtain ⟨pre, afterOpen⟩ := p
          rw [hopen] at hsearch
          cases hclose : splitAtPair '}' '}' afterOpen with
          | none => simp [splitChars, hsearch, hopen, hclose, prependText]
          | some q =>
              obtain ⟨inner, rest⟩ := q
              cases pre with
              | nil => simp [splitChars, hsearch, hopen, hclose, prependText, hne]
              | cons y pre => simp [splitChars, hsearch, hopen, hclose, prependText, hne]

/-! ## The shape of a split -/

/-- The lists of stretches and tags `splitChars` returns. -/
inductive Lexed : List (List Char × Bool) → Prop
  | nil : Lexed []
  | last {t : List Char} : t ≠ [] → LastText t → Lexed [(t, false)]
  | tag {inner : List Char} {L : List (List Char × Bool)} :
      TagInside inner → Lexed L → Lexed ((tagChars inner, true) :: L)
  | text {t inner : List Char} {L : List (List Char × Bool)} :
      t ≠ [] → Plain t → TagInside inner → Lexed L →
      Lexed ((t, false) :: (tagChars inner, true) :: L)

/-- Splitting loses nothing. -/
theorem flatten_splitChars : ∀ (n : Nat) (cs : List Char), ((splitChars n cs).map Prod.fst).flatten = cs
  | 0, cs => by
      cases cs with
      | nil => rfl
      | cons x cs => simp [splitChars]
  | n + 1, cs => by
      unfold splitChars
      split
      · cases cs with
        | nil => rfl
        | cons x cs => simp
      · rename_i pre afterOpen hopen
        split
        · simp
        · rename_i inner rest hclose
          have hcs := (splitAtPair_eq_some hopen).1
          have hafter := (splitAtPair_eq_some hclose).1
          rw [List.map_append, List.flatten_append, List.map_cons, List.flatten_cons,
            flatten_splitChars n rest, hcs, hafter]
          split <;> simp_all

/-- A split with enough fuel has the shape `Lexed`. -/
theorem lexed_splitChars : ∀ (n : Nat) (cs : List Char), cs.length ≤ n → Lexed (splitChars n cs)
  | 0, cs, hn => by
      rw [List.eq_nil_of_length_eq_zero (Nat.le_zero.mp hn)]
      exact .nil
  | n + 1, cs, hn => by
      unfold splitChars
      split
      · -- no `{{`: one stretch of text, or nothing
        rename_i hopen
        cases cs with
        | nil => exact .nil
        | cons x cs =>
            refine .last (List.cons_ne_nil x cs) fun pre post h => ?_
            rw [hopen] at h
            cases h
      · rename_i pre afterOpen hopen
        split
        · -- an unclosed `{{`: the whole text is its last stretch
          rename_i hclose
          have hne : cs ≠ [] := by rintro rfl; cases hopen
          refine .last hne fun pre' post' h => ?_
          rw [hopen] at h
          cases h
          exact hclose
        · rename_i inner rest hclose
          have hcs := splitAtPair_eq_some hopen
          have hafter := splitAtPair_eq_some hclose
          have hlen := length_lt_of_splitAtPair hclose
          have hlen' := length_lt_of_splitAtPair hopen
          have hrest := lexed_splitChars n rest (by omega)
          have hin : TagInside inner := hafter.2
          have htag : (['{', '{'] ++ inner ++ ['}', '}']) = tagChars inner := by simp [tagChars]
          rw [htag]
          split
          · exact .tag hin hrest
          · rename_i hpre
            exact .text (by simpa using hpre) hcs.2 hin hrest

/-- What a split ends with: nothing, a tag, or a last stretch of text that holds no `{{` and
does not end in `{` — so that a tag appended after it stays a tag. -/
def ClosedEnd : List (List Char × Bool) → Prop
  | [] => True
  | [(t, tag)] => tag = true ∨ Plain t
  | _ :: L => ClosedEnd L

/-- A tag appended to a split that ends closed is split off as a tag of its own. -/
theorem Lexed.append_tag {L : List (List Char × Bool)} (hL : Lexed L) (hend : ClosedEnd L)
    {inner : List Char} (hin : TagInside inner) : Lexed (L ++ [(tagChars inner, true)]) := by
  induction hL with
  | nil => exact .tag hin .nil
  | last hne _ =>
      rcases hend with h | hplain
      · cases h
      · exact .text hne hplain hin .nil
  | @tag inner' L hin' _ ih =>
      -- what follows the tag ends as the whole list does
      refine .tag hin' (ih ?_)
      cases L with
      | nil => trivial
      | cons p L => exact hend
  | @text t inner' L hne hplain hin' _ ih =>
      refine .text hne hplain hin' (ih ?_)
      cases L with
      | nil => trivial
      | cons p L => exact hend

/-- Joining a `Lexed` list and splitting it again gives the list back. -/
theorem splitChars_flatten {L : List (List Char × Bool)} (hL : Lexed L) (n : Nat)
    (hn : (L.map Prod.fst).flatten.length ≤ n) : splitChars n (L.map Prod.fst).flatten = L := by
  induction hL generalizing n with
  | nil => cases n <;> rfl
  | last hne ht => simpa using splitChars_last ht hne n
  | @tag inner L hin _ ih =>
      simp only [List.map_cons, List.flatten_cons] at hn ⊢
      have hlen := hn
      simp only [List.length_append, length_tagChars] at hlen
      obtain ⟨n, rfl⟩ : ∃ n', n = n' + 1 := ⟨n - 1, by omega⟩
      rw [splitChars_tag hin _ n, ih n (by omega)]
  | @text t inner L hne hplain hin _ ih =>
      simp only [List.map_cons, List.flatten_cons] at hn ⊢
      have hlen := hn
      simp only [List.length_append, length_tagChars] at hlen
      rw [splitChars_plain hplain hne n _ hn]
      obtain ⟨n, rfl⟩ : ∃ n', n = n' + 1 := ⟨n - 1, by omega⟩
      rw [splitChars_tag hin _ n, ih n (by omega)]
      rfl

/-- A tag appended to a text that does not end inside a tag is split off as a tag of its own. -/
theorem splitChars_append_tag {cs inner : List Char}
    (hend : ClosedEnd (splitChars cs.length cs)) (hin : TagInside inner) (n : Nat)
    (hn : (cs ++ tagChars inner).length ≤ n) :
    splitChars n (cs ++ tagChars inner) = splitChars cs.length cs ++ [(tagChars inner, true)] := by
  have hL := (lexed_splitChars cs.length cs (Nat.le_refl _)).append_tag hend hin
  have hflat : ((splitChars cs.length cs ++ [(tagChars inner, true)]).map Prod.fst).flatten =
      cs ++ tagChars inner := by
    simp [flatten_splitChars]
  rw [← hflat] at hn ⊢
  exact splitChars_flatten hL n hn

/-- Joins each stretch of text to the stretches of text right after it. -/
def joinTexts : List (List Char × Bool) → List (List Char × Bool)
  | [] => []
  | (t, false) :: L => prependText t (joinTexts L)
  | (t, true) :: L => (t, true) :: joinTexts L

section Filter

variable (keep : List Char × Bool → Bool)

/-- The step at a tag: a kept tag is split off again, a dropped one leaves no trace. -/
theorem splitChars_filter_tag {inner : List Char} {L : List (List Char × Bool)}
    (hin : TagInside inner)
    (ih : ∀ n, ((L.filter keep).map Prod.fst).flatten.length ≤ n →
      splitChars n ((L.filter keep).map Prod.fst).flatten = joinTexts (L.filter keep))
    (n : Nat)
    (hn : ((((tagChars inner, true) :: L).filter keep).map Prod.fst).flatten.length ≤ n) :
    splitChars n ((((tagChars inner, true) :: L).filter keep).map Prod.fst).flatten =
      joinTexts (((tagChars inner, true) :: L).filter keep) := by
  rw [List.filter_cons] at hn ⊢
  by_cases hk : keep (tagChars inner, true) = true
  · rw [if_pos hk] at hn ⊢
    simp only [List.map_cons, List.flatten_cons] at hn ⊢
    have hlen := hn
    simp only [List.length_append, length_tagChars] at hlen
    obtain ⟨n, rfl⟩ : ∃ n', n = n' + 1 := ⟨n - 1, by omega⟩
    rw [splitChars_tag hin _ n, ih n (by omega)]
    rfl
  · rw [if_neg hk] at hn ⊢
    exact ih n hn

variable (hkeep : ∀ t, keep (t, false) = true)
include hkeep

/-- **Dropping tags.**  Dropping some tags of a split and splitting what is left gives the tags
kept, with the stretches of text that met joined: no tag forms where one was dropped. -/
theorem splitChars_filter {L : List (List Char × Bool)} (hL : Lexed L) (n : Nat)
    (hn : ((L.filter keep).map Prod.fst).flatten.length ≤ n) :
    splitChars n ((L.filter keep).map Prod.fst).flatten = joinTexts (L.filter keep) := by
  induction hL generalizing n with
  | nil => cases n <;> rfl
  | @last t hne ht =>
      rw [List.filter_cons, hkeep, if_pos rfl, List.filter_nil]
      simpa [joinTexts, prependText] using splitChars_last ht hne n
  | @tag inner L hin _ ih => exact splitChars_filter_tag keep hin ih n hn
  | @text t inner L hne hplain hin _ ih =>
      -- the text stays, and what follows it splits as in the step at a tag
      rw [List.filter_cons, hkeep, if_pos rfl] at hn ⊢
      simp only [List.map_cons, List.flatten_cons] at hn ⊢
      rw [splitChars_plain hplain hne n _ hn,
        splitChars_filter_tag keep hin ih n (by simp only [List.length_append] at hn; omega)]
      rfl

end Filter

end Covenant.Template
