import Mathlib.Data.List.Chain
import Mathlib.Data.List.Infix
import Covenant.Proofs.Template.Cycles
/-!
# A text cut into stretches and tags

`splitExpressions` cuts a text into stretches of plain text (`false`) and `{{ … }}` tags
(`true`).  Every reader of template syntax goes through this cut, so its shape is stated here
in terms of the pieces alone (`Cut`): none is empty; no two stretches of text stand side by
side; a tag runs from its `{{` to the first `}}` after it; a stretch of text that is not last
holds no `{{` and does not end in `{`, so the tag after it opens at the first `{{`; and a last
stretch of text holds a `{{` only where no `}}` follows it.  A `Segmentation` of a text is a
cut whose pieces join back to it.

The character-level shape `Lexed` of `Tags` is this shape read through the search
`splitAtPair`.  The search fails exactly when its pair does not occur
(`splitAtPair_eq_none_iff`) and finds the first occurrence (`length_le_of_splitAtPair`), so
`Lexed` says piece by piece what `Cut` says (`cut_iff_lexed`).  Then:

* the cut of every text is a segmentation of it (`splitExpressions_segmentation`);
* a segmentation fixes the pieces: it is the cut (`eq_splitExpressions_of_segmentation`).
-/

namespace Covenant.Template

/-! ## The search finds the first occurrence -/

section Pair

variable {a b : Char}

/-- The search for a pair fails exactly when the pair does not occur. -/
theorem splitAtPair_eq_none_iff {cs : List Char} :
    splitAtPair a b cs = none ↔ ¬ [a, b] <:+: cs := by
  constructor
  · rintro hnone ⟨l, r, rfl⟩
    have hsome : (splitAtPair a b (l ++ a :: b :: r)).isSome := splitAtPair_isSome_of_infix l r
    have hcs : l ++ [a, b] ++ r = l ++ a :: b :: r := by simp
    rw [← hcs, hnone] at hsome
    simp at hsome
  · intro hnot
    cases h : splitAtPair a b cs with
    | none => rfl
    | some p =>
        obtain ⟨pre, post⟩ := p
        -- the pair found occurs
        exact absurd ⟨pre, post, by rw [(splitAtPair_eq_some h).1]; simp⟩ hnot

/-- The pair found is the first: no occurrence of the pair starts before it. -/
theorem length_le_of_splitAtPair {cs pre post l r : List Char}
    (h : splitAtPair a b cs = some (pre, post)) (hcs : cs = l ++ a :: b :: r) :
    pre.length ≤ l.length := by
  obtain ⟨hsplit, hnone⟩ := splitAtPair_eq_some h
  by_contra hlt
  -- an occurrence that starts earlier lies within `pre` and the `a` after it
  have hl : l ++ [a, b] <+: cs := ⟨r, by rw [hcs]; simp⟩
  have hpre : pre ++ [a] <+: cs := ⟨b :: post, by rw [hsplit]; simp⟩
  have hearly : l ++ [a, b] <+: pre ++ [a] :=
    List.prefix_of_prefix_length_le hl hpre (by simp; omega)
  exact splitAtPair_eq_none_iff.mp hnone
    ((List.suffix_append l [a, b]).isInfix.trans hearly.isInfix)

/-- What follows any occurrence of the pair follows the one found. -/
theorem suffix_of_splitAtPair {cs pre post l r : List Char}
    (h : splitAtPair a b cs = some (pre, post)) (hcs : cs = l ++ a :: b :: r) : r <:+ post := by
  have hle := length_le_of_splitAtPair h hcs
  have hsplit := (splitAtPair_eq_some h).1
  have hr : r <:+ cs := ⟨l ++ [a, b], by rw [hcs]; simp⟩
  have hpost : post <:+ cs := ⟨pre ++ [a, b], by rw [hsplit]; simp⟩
  have hlen : pre.length + post.length = l.length + r.length := by
    have h₁ := congrArg List.length hsplit
    have h₂ := congrArg List.length hcs
    simp only [List.length_append, List.length_cons] at h₁ h₂
    omega
  exact List.suffix_of_suffix_length_le hr hpost (by omega)

/-- A pair ends a text with one more character exactly when that character is the pair's
second and the text ends in its first. -/
theorem pair_suffix_concat_iff {c : Char} {t : List Char} :
    [a, b] <:+ t ++ [c] ↔ b = c ∧ t.getLast? = some a := by
  rw [List.suffix_concat_iff, ← List.singleton_suffix_iff_getLast?_eq_some]
  constructor
  · rintro (h | ⟨u, hu, hsuf⟩)
    · cases h
    · -- `[a, b] = u ++ [c]` leaves `u = [a]`
      have hu' : [a] ++ [b] = u ++ [c] := hu
      obtain ⟨rfl, hbc⟩ := List.append_inj' hu' rfl
      exact ⟨List.singleton_inj.mp hbc, hsuf⟩
  · rintro ⟨rfl, hsuf⟩
    exact .inr ⟨[a], rfl, hsuf⟩

end Pair

/-! ## The pieces of `Lexed`, said as occurrences -/

/-- A tag's inside, as a split takes it: no `}}` in it, nor one that its last character and
the first `}` of the closing would make. -/
theorem tagInside_iff {inner : List Char} :
    TagInside inner ↔ ¬ ['}', '}'] <:+: inner ++ ['}'] :=
  splitAtPair_eq_none_iff

/-- Text that cannot begin a tag: it holds no `{{` and does not end in `{`. -/
theorem plain_iff {t : List Char} :
    Plain t ↔ ¬ ['{', '{'] <:+: t ∧ t.getLast? ≠ some '{' := by
  rw [Plain, splitAtPair_eq_none_iff, List.infix_concat_iff, pair_suffix_concat_iff]
  simp only [true_and, not_or]
  exact and_comm

/-- The text a split may end with: no `}}` follows any `{{` in it. -/
theorem lastText_iff {t : List Char} :
    LastText t ↔ ∀ pre post, t = pre ++ '{' :: '{' :: post → ¬ ['}', '}'] <:+: post := by
  constructor
  · intro h pre post ht hclose
    cases hopen : splitAtPair '{' '{' t with
    | none => exact splitAtPair_eq_none_iff.mp hopen ⟨pre, post, by rw [ht]; simp⟩
    | some p =>
        -- what follows this `{{` follows the first, which no `}}` closes
        obtain ⟨pre₀, post₀⟩ := p
        have hsuf := suffix_of_splitAtPair hopen ht
        exact splitAtPair_eq_none_iff.mp (h pre₀ post₀ hopen) (hclose.trans hsuf.isInfix)
  · intro h pre post hopen
    exact splitAtPair_eq_none_iff.mpr (h pre post (splitAtPair_eq_some hopen).1)

/-! Membership near the end of a list. -/

section Ends

variable {α : Type} {x y : α} {l : List α}

theorem mem_dropLast_cons_of_mem (h : y ∈ l.dropLast) : y ∈ (x :: l).dropLast := by
  cases l with
  | nil => cases h
  | cons z l => exact List.mem_cons_of_mem x h

theorem mem_dropLast_cons (h : y ∈ (x :: l).dropLast) : y = x ∨ y ∈ l.dropLast := by
  cases l with
  | nil => cases h
  | cons z l => exact List.mem_cons.mp h

theorem getLast?_cons_of_getLast? (h : l.getLast? = some y) : (x :: l).getLast? = some y := by
  rw [List.getLast?_cons, h]
  rfl

theorem getLast?_of_getLast?_cons (h : (x :: l).getLast? = some y) (hne : y ≠ x) :
    l.getLast? = some y := by
  cases l with
  | nil => exact absurd (Option.some.inj h).symm hne
  | cons z l => rwa [List.getLast?_cons_cons] at h

end Ends

/-! ## `Lexed`, piece by piece -/

namespace Lexed

variable {L : List (List Char × Bool)}

/-- No piece of a split is empty. -/
theorem ne_nil (hL : Lexed L) : ∀ p ∈ L, p.1 ≠ [] := by
  induction hL with
  | nil => simp
  | last hne _ => simpa using hne
  | tag _ _ ih =>
      simp only [List.mem_cons, forall_eq_or_imp]
      exact ⟨by simp [tagChars], ih⟩
  | text hne _ _ _ ih =>
      simp only [List.mem_cons, forall_eq_or_imp]
      exact ⟨hne, by simp [tagChars], ih⟩

/-- Every tag of a split is the characters of a tag with its inside. -/
theorem tag_mem (hL : Lexed L) :
    ∀ cs, (cs, true) ∈ L → ∃ inner, cs = tagChars inner ∧ TagInside inner := by
  induction hL with
  | nil => simp
  | last => simp
  | @tag inner _ hin _ ih =>
      rintro cs (_ | ⟨_, hmem⟩)
      · exact ⟨inner, rfl, hin⟩
      · exact ih cs hmem
  | @text _ inner _ _ _ hin _ ih =>
      rintro cs (_ | ⟨_, _ | ⟨_, hmem⟩⟩)
      · exact ⟨inner, rfl, hin⟩
      · exact ih cs hmem

/-- No two stretches of text of a split stand side by side. -/
theorem isChain (hL : Lexed L) : L.IsChain fun x y => x.2 = true ∨ y.2 = true := by
  induction hL with
  | nil => exact .nil
  | last => exact .singleton _
  | tag _ _ ih =>
      -- a tag is apart from whatever follows it
      exact List.isChain_cons.mpr ⟨fun _ _ => .inl rfl, ih⟩
  | text _ _ _ _ ih =>
      exact .cons_cons (.inr rfl) (List.isChain_cons.mpr ⟨fun _ _ => .inl rfl, ih⟩)

/-- A stretch of text of a split that is not its last piece cannot begin a tag. -/
theorem plain_of_mem_dropLast (hL : Lexed L) : ∀ cs, (cs, false) ∈ L.dropLast → Plain cs := by
  induction hL with
  | nil => simp
  | last => simp
  | tag _ _ ih =>
      intro cs hmem
      rcases mem_dropLast_cons hmem with h | h
      · cases h
      · exact ih cs h
  | text _ hplain _ _ ih =>
      intro cs hmem
      rcases mem_dropLast_cons hmem with h | h
      · cases h
        exact hplain
      · rcases mem_dropLast_cons h with h | h
        · cases h
        · exact ih cs h

/-- A last stretch of text of a split opens no tag that it closes. -/
theorem lastText_of_getLast? (hL : Lexed L) :
    ∀ cs, L.getLast? = some (cs, false) → LastText cs := by
  induction hL with
  | nil => simp
  | last _ ht =>
      intro cs h
      cases h
      exact ht
  | tag _ _ ih =>
      intro cs h
      exact ih cs (getLast?_of_getLast?_cons h (by simp))
  | text _ _ _ _ ih =>
      intro cs h
      rw [List.getLast?_cons_cons] at h
      exact ih cs (getLast?_of_getLast?_cons h (by simp))

end Lexed

/-! ## The shape of a cut -/

/-- The shape of a cut of a text into stretches of text (`false`) and tags (`true`). -/
structure Cut (segs : List (String × Bool)) : Prop where
  /-- No piece is empty. -/
  ne_empty : ∀ seg ∈ segs, seg.1 ≠ ""
  /-- No two stretches of text stand side by side. -/
  texts_apart : segs.IsChain fun x y => x.2 = true ∨ y.2 = true
  /-- A tag runs from its `{{` to the first `}}` after it. -/
  tag : ∀ t, (t, true) ∈ segs →
    ∃ inner, t.toList = tagChars inner ∧ ¬ ['}', '}'] <:+: inner ++ ['}']
  /-- A stretch of text that is not the last piece holds no `{{` … -/
  text : ∀ t, (t, false) ∈ segs.dropLast → ¬ ['{', '{'] <:+: t.toList
  /-- … and does not end in `{`, so the tag after it opens at the first `{{`. -/
  text_end : ∀ t, (t, false) ∈ segs.dropLast → t.toList.getLast? ≠ some '{'
  /-- A last stretch of text holds `{{` only where no `}}` follows. -/
  last : ∀ t, segs.getLast? = some (t, false) →
    ∀ pre post, t.toList = pre ++ '{' :: '{' :: post → ¬ ['}', '}'] <:+: post

/-- A cut of the text `s`: pieces with the shape of a cut that join back to `s`. -/
structure Segmentation (s : String) (segs : List (String × Bool)) : Prop extends Cut segs where
  /-- The pieces join back to the text. -/
  join : String.join (segs.map Prod.fst) = s

/-- A piece as its characters. -/
def segChars (seg : String × Bool) : List Char × Bool :=
  (seg.1.toList, seg.2)

theorem strSeg_segChars : Function.LeftInverse strSeg segChars := fun seg => by
  obtain ⟨t, tag⟩ := seg
  exact congrArg (·, tag) String.ofList_toList

theorem segChars_strSeg : Function.LeftInverse segChars strSeg := fun p => by
  obtain ⟨cs, tag⟩ := p
  exact congrArg (·, tag) String.toList_ofList

/-- The pieces of a cut join back to a text exactly when their characters do. -/
theorem join_eq_iff {s : String} {segs : List (String × Bool)} :
    String.join (segs.map Prod.fst) = s ↔
      ((segs.map segChars).map Prod.fst).flatten = s.toList := by
  rw [← String.toList_inj, String.toList_join, List.flatMap_map, List.map_map, List.flatMap]
  rfl

namespace Cut

variable {x : String × Bool} {segs : List (String × Bool)}

/-- What follows the first piece of a cut is a cut. -/
theorem tail (h : Cut (x :: segs)) : Cut segs where
  ne_empty seg hseg := h.ne_empty seg (List.mem_cons_of_mem x hseg)
  texts_apart := (List.isChain_cons.mp h.texts_apart).2
  tag t ht := h.tag t (List.mem_cons_of_mem x ht)
  text t ht := h.text t (mem_dropLast_cons_of_mem ht)
  text_end t ht := h.text_end t (mem_dropLast_cons_of_mem ht)
  last t ht := h.last t (getLast?_cons_of_getLast? ht)

/-- The characters of a cut's pieces have the shape `Lexed`. -/
theorem lexed : ∀ {segs : List (String × Bool)}, Cut segs → Lexed (segs.map segChars)
  | [], _ => .nil
  | [(t, false)], h =>
      .last (by simpa using h.ne_empty (t, false) (by simp))
        (lastText_iff.mpr (h.last t rfl))
  | (t, true) :: segs, h => by
      obtain ⟨inner, ht, hin⟩ := h.tag t (by simp)
      have hrest := lexed h.tail
      rw [List.map_cons, segChars, ht]
      exact .tag (tagInside_iff.mpr hin) hrest
  | (t, false) :: (u, true) :: segs, h => by
      obtain ⟨inner, hu, hin⟩ := h.tag u (by simp)
      have hne : t.toList ≠ [] := by simpa using h.ne_empty (t, false) (by simp)
      have hplain : Plain t.toList :=
        plain_iff.mpr ⟨h.text t (by simp), h.text_end t (by simp)⟩
      have hrest := lexed h.tail.tail
      rw [List.map_cons, List.map_cons, segChars, segChars, hu]
      exact .text hne hplain (tagInside_iff.mpr hin) hrest
  | (t, false) :: (u, false) :: segs, h => by
      -- two stretches of text side by side
      have happart := (List.isChain_cons_cons.mp h.texts_apart).1
      simp at happart

end Cut

/-- Pieces whose characters have the shape `Lexed` form a cut. -/
theorem Lexed.cut {segs : List (String × Bool)} (hL : Lexed (segs.map segChars)) : Cut segs := by
  have hplain : ∀ t, (t, false) ∈ segs.dropLast → Plain t.toList := fun t ht =>
    hL.plain_of_mem_dropLast t.toList (by rw [← List.map_dropLast]; exact List.mem_map_of_mem ht)
  exact {
    ne_empty := fun seg hseg => by
      simpa [segChars] using hL.ne_nil _ (List.mem_map_of_mem hseg)
    texts_apart := (List.isChain_map segChars).mp hL.isChain
    tag := fun t ht => by
      obtain ⟨inner, hcs, hin⟩ := hL.tag_mem t.toList (List.mem_map_of_mem ht)
      exact ⟨inner, hcs, tagInside_iff.mp hin⟩
    text := fun t ht => (plain_iff.mp (hplain t ht)).1
    text_end := fun t ht => (plain_iff.mp (hplain t ht)).2
    last := fun t ht => lastText_iff.mp
      (hL.lastText_of_getLast? t.toList (by rw [List.getLast?_map, ht]; rfl)) }

/-- Pieces form a cut exactly when their characters have the shape `Lexed`. -/
theorem cut_iff_lexed {segs : List (String × Bool)} : Cut segs ↔ Lexed (segs.map segChars) :=
  ⟨Cut.lexed, Lexed.cut⟩

/-- The characters of the pieces of a text are its split. -/
theorem map_segChars_splitExpressions (s : String) :
    (splitExpressions s).map segChars = splitChars s.length s.toList := by
  rw [splitExpressions_eq, segChars_strSeg.list_map]

/-- **The cut of a text.**  `splitExpressions` cuts every text into pieces that join back to
it, none of them empty and no two stretches of text side by side; each tag runs from its `{{`
to the first `}}` after it, each stretch of text but the last piece holds no `{{` and does not
end in `{`, and a last stretch of text holds `{{` only where no `}}` follows it. -/
theorem splitExpressions_segmentation (s : String) : Segmentation s (splitExpressions s) := by
  have hchars := map_segChars_splitExpressions s
  have hL : Lexed ((splitExpressions s).map segChars) := by
    rw [hchars]
    exact lexed_splitChars s.length s.toList (Nat.le_of_eq String.length_toList)
  have hjoin : ((splitExpressions s).map segChars |>.map Prod.fst).flatten = s.toList := by
    rw [hchars]
    exact flatten_splitChars s.length s.toList
  exact { toCut := cut_iff_lexed.mpr hL, join := join_eq_iff.mpr hjoin }

/-- Overlapping braces: the tag opens at the first `{{` and closes at the first `}}` after it;
a `{{` that nothing closes stays text. -/
example : splitExpressions "a\x7b\x7b\x7bx\x7d\x7d\x7d\x7b\x7b" =
    [("a", false), ("\x7b\x7b\x7bx\x7d\x7d", true), ("\x7d\x7b\x7b", false)] := by
  decide

/-- **A segmentation is the cut.**  Pieces that form a cut and join back to a text are the
pieces `splitExpressions` cuts it into: the shape of a cut leaves no choice. -/
theorem splitExpressions_eq_of_segmentation {s : String} {segs : List (String × Bool)}
    (h : Segmentation s segs) : splitExpressions s = segs := by
  have hflat := join_eq_iff.mp h.join
  -- the split of the joined characters gives the pieces back
  have hsplit : splitChars s.length s.toList = segs.map segChars := by
    rw [← hflat]
    exact splitChars_flatten (cut_iff_lexed.mp h.toCut) _ (by rw [hflat, String.length_toList])
  rw [splitExpressions_eq, hsplit, strSeg_segChars.list_map]

end Covenant.Template
