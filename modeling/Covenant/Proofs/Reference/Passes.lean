import Covenant.Proofs.Template.References
import Mathlib.Data.List.Forall2
/-!
# Dates first, then references

Outside template tags, a text is read twice. The date pass reads it once from the left
(`DateReading`): each `@today` that ends a word is a token, rendered in its bracketed format
or the document's, and every other character is copied. The reference pass then reads the
dated text once from the left (`KeyReading`): a bar, a key and a bar make a reference,
replaced by the field's text, and every other character is copied. Each reading cuts its text
into pieces, each character into exactly one (`flatMap_source_of_dateReading`,
`flatMap_source_of_keyReading`), every text has exactly one reading (`DateReading.determ`,
`KeyReading.determ`), and the pass writes the pieces' renderings in order
(`replaceToday_of_dateReading`, `replaceKeys_of_keyReading`): nothing a pass writes is read
again by that pass.

So each token and each reference is substituted once, but the references are those of the
dated text (`references_read_after_dates`): a rendered date can close a reference. With the
date format `MMMM|`, the text `|@today` becomes `|October|` on 16 October 2026, and then the
field `October` (`rendered_date_forms_reference`).
-/

namespace Covenant.Reference

/-! ## The date pass -/

/-- The characters of `@today`. -/
def todayChars : List Char := ['@', 't', 'o', 'd', 'a', 'y']

/-- A piece of a text as the date pass reads it: a character it copies, or an `@today` token
with the format it is rendered in and the characters it spans. -/
inductive DatePiece where
  | char (c : Char)
  | today (format : String) (source : List Char)

/-- The characters a date piece spans. -/
def DatePiece.source : DatePiece → List Char
  | .char c => [c]
  | .today _ src => src

/-- What the date pass writes for a piece. -/
def DatePiece.rendered (ctx : ReferenceContext) : DatePiece → List Char
  | .char c => [c]
  | .today fmt _ => (ctx.today.format fmt ctx.locale).toList

/-- The format of a token written with brackets: what they hold, trimmed, unless it is
blank, and then the document's. -/
def bracketFormat (ctx : ReferenceContext) (f : List Char) : String :=
  if (Text.trim (String.ofList f)).isEmpty then ctx.dateFormat else Text.trim (String.ofList f)

/-- A text starts with an `@today` token: the word `@today`, ending there. -/
def StartsToday (cs : List Char) : Prop :=
  ∃ rest, cs = todayChars ++ rest ∧ wordEnds rest = true

/-- How the date pass reads a text, from the left: an `@today` ending a word is a token,
taking its bracketed format along when the brackets close on its line; any other character
is copied. -/
inductive DateReading (ctx : ReferenceContext) : List Char → List DatePiece → Prop
  | nil : DateReading ctx [] []
  | char {c : Char} {cs : List Char} {ps : List DatePiece} :
      ¬ StartsToday (c :: cs) → DateReading ctx cs ps → DateReading ctx (c :: cs) (.char c :: ps)
  | bracketed {rest f : List Char} {n : Nat} {ps : List DatePiece} :
      wordEnds rest = true → bracketed? rest = some (f, n) → DateReading ctx (rest.drop n) ps →
        DateReading ctx (todayChars ++ rest)
          (.today (bracketFormat ctx f) (todayChars ++ rest.take n) :: ps)
  | plain {rest : List Char} {ps : List DatePiece} :
      wordEnds rest = true → bracketed? rest = none → DateReading ctx rest ps →
        DateReading ctx (todayChars ++ rest) (.today ctx.dateFormat todayChars :: ps)

theorem startsToday_iff {rest : List Char} :
    StartsToday (todayChars ++ rest) ↔ wordEnds rest = true := by
  constructor
  · rintro ⟨rest', hcs, hw⟩
    rw [List.append_cancel_left hcs]
    exact hw
  · exact fun hw => ⟨rest, rfl, hw⟩

/-- Only an `@` starts a token. -/
theorem not_startsToday_cons {c : Char} (hc : c ≠ '@') (cs : List Char) :
    ¬ StartsToday (c :: cs) := by
  rintro ⟨rest, hcs, -⟩
  exact hc (List.cons.inj hcs).1

/-- A reading cuts a text into its pieces: each character lies in exactly one. -/
theorem flatMap_source_of_dateReading {ctx : ReferenceContext} {cs : List Char}
    {ps : List DatePiece} (h : DateReading ctx cs ps) : ps.flatMap DatePiece.source = cs := by
  induction h with
  | nil => rfl
  | char _ _ ih => simp [DatePiece.source, ih]
  | @bracketed rest f n ps _ _ _ ih =>
    simp only [List.flatMap_cons, DatePiece.source, ih, List.append_assoc, List.take_append_drop]
  | plain _ _ _ ih => simp [DatePiece.source, ih]

/-- The date pass reads every text, and writes what its reading renders. -/
theorem replaceToday_reads (ctx : ReferenceContext) (cs : List Char) :
    ∃ ps, DateReading ctx cs ps ∧ replaceToday ctx cs = ps.flatMap (DatePiece.rendered ctx) := by
  fun_induction replaceToday ctx cs with
  | case1 => exact ⟨[], .nil, rfl⟩
  | case2 rest hw fmt0 n hfn fmt ih =>
    obtain ⟨ps, hps, hout⟩ := ih
    rw [hout]
    cases hb : bracketed? rest with
    | none =>
      rw [hb, Prod.mk.injEq] at hfn
      obtain ⟨rfl, rfl⟩ := hfn
      exact ⟨_, .plain hw hb hps, by simp [fmt, DatePiece.rendered]⟩
    | some fn =>
      obtain ⟨f, k⟩ := fn
      rw [hb, Prod.mk.injEq] at hfn
      obtain ⟨rfl, rfl⟩ := hfn
      exact ⟨_, .bracketed hw hb hps, by simp [fmt, DatePiece.rendered, bracketFormat]⟩
  | case3 rest hw ih =>
    obtain ⟨ps, hps, hout⟩ := ih
    -- `@today` that runs on into a word is copied character by character
    have hnot : ¬ StartsToday (todayChars ++ rest) := by
      rw [startsToday_iff]
      exact hw
    exact ⟨_, .char hnot hps, by simp [hout, DatePiece.rendered]⟩
  | case4 c cs hpat ih =>
    obtain ⟨ps, hps, hout⟩ := ih
    have hnot : ¬ StartsToday (c :: cs) := by
      rintro ⟨rest, hcs, -⟩
      simp only [todayChars, List.cons_append, List.nil_append, List.cons.injEq] at hcs
      exact hpat rest hcs.1 hcs.2
    exact ⟨_, .char hnot hps, by simp [hout, DatePiece.rendered]⟩

/-- A text has one date reading. -/
theorem DateReading.determ {ctx : ReferenceContext} {cs : List Char} {ps qs : List DatePiece}
    (hp : DateReading ctx cs ps) (hq : DateReading ctx cs qs) : ps = qs := by
  induction hp generalizing qs with
  | nil => cases hq; rfl
  | char hnot _ ih =>
    cases hq with
    | char _ hq => rw [ih hq]
    | bracketed hw _ _ => exact absurd ((startsToday_iff).mpr hw) hnot
    | plain hw _ _ => exact absurd ((startsToday_iff).mpr hw) hnot
  | bracketed hw hb _ ih =>
    cases hq with
    | char hnot _ => exact absurd ((startsToday_iff).mpr hw) hnot
    | bracketed _ hb' hq =>
      rw [hb] at hb'
      cases hb'
      rw [ih hq]
    | plain _ hb' _ => rw [hb] at hb'; cases hb'
  | plain hw hb _ ih =>
    cases hq with
    | char hnot _ => exact absurd ((startsToday_iff).mpr hw) hnot
    | bracketed _ hb' _ => rw [hb] at hb'; cases hb'
    | plain _ _ hq => rw [ih hq]

/-- The date pass writes what any reading of the text renders. -/
theorem replaceToday_of_dateReading {ctx : ReferenceContext} {cs : List Char}
    {ps : List DatePiece} (h : DateReading ctx cs ps) :
    replaceToday ctx cs = ps.flatMap (DatePiece.rendered ctx) := by
  obtain ⟨qs, hqs, hout⟩ := replaceToday_reads ctx cs
  rw [hout, hqs.determ h]

/-! ## The reference pass -/

/-- A piece of a text as the reference pass reads it: a character it copies, or a reference
`|key|`. -/
inductive KeyPiece where
  | char (c : Char)
  | ref (key : List Char)

/-- The characters a reference piece spans. -/
def KeyPiece.source : KeyPiece → List Char
  | .char c => [c]
  | .ref key => '|' :: key ++ ['|']

/-- What the reference pass writes for a piece. -/
def KeyPiece.rendered (ctx : ReferenceContext) (m : Metadata) : KeyPiece → List Char
  | .char c => [c]
  | .ref key => (referenceText ctx m (String.ofList key)).toList

/-- A text starts with a reference: a bar, a key and a bar. -/
def StartsRef (cs : List Char) : Prop :=
  ∃ key rest, cs = '|' :: key ++ '|' :: rest ∧ isKey key = true

/-- How the reference pass reads a text, from the left: a bar that a key and a bar follow
starts a reference; any other character is copied. -/
inductive KeyReading : List Char → List KeyPiece → Prop
  | nil : KeyReading [] []
  | char {c : Char} {cs : List Char} {ps : List KeyPiece} :
      ¬ StartsRef (c :: cs) → KeyReading cs ps → KeyReading (c :: cs) (.char c :: ps)
  | ref {key rest : List Char} {ps : List KeyPiece} :
      isKey key = true → KeyReading rest ps → KeyReading ('|' :: key ++ '|' :: rest) (.ref key :: ps)

theorem bar_not_mem_of_isKey {key : List Char} (h : isKey key = true) : '|' ∉ key :=
  not_mem_of_isKey h (by decide)

/-- A key runs up to the first bar after it. -/
theorem takeWhile_key_bar {key : List Char} (hk : '|' ∉ key) (rest : List Char) :
    (key ++ '|' :: rest).takeWhile (· ≠ '|') = key := by
  have hpos : ∀ c ∈ key, decide (c ≠ '|') = true := fun c hc => by
    have : c ≠ '|' := fun h => hk (h ▸ hc)
    simpa using this
  rw [List.takeWhile_append_of_pos hpos]
  simp

/-- A bar starts a reference exactly when the text up to the next bar is a key. -/
theorem startsRef_bar_iff {cs : List Char} :
    StartsRef ('|' :: cs) ↔
      (cs.takeWhile (· ≠ '|')).length < cs.length ∧ isKey (cs.takeWhile (· ≠ '|')) = true := by
  constructor
  · rintro ⟨key, rest, hcs, hk⟩
    have hcs' : cs = key ++ '|' :: rest := by simpa using hcs
    rw [hcs', takeWhile_key_bar (bar_not_mem_of_isKey hk) _]
    exact ⟨by simp, hk⟩
  · rintro ⟨hlt, hk⟩
    exact ⟨_, _, congrArg ('|' :: ·) (eq_takeWhile_append hlt), hk⟩

/-- A reading cuts a text into its pieces: each character lies in exactly one. -/
theorem flatMap_source_of_keyReading {cs : List Char} {ps : List KeyPiece} (h : KeyReading cs ps) :
    ps.flatMap KeyPiece.source = cs := by
  induction h with
  | nil => rfl
  | char _ _ ih => simp [KeyPiece.source, ih]
  | ref _ _ ih => simp [KeyPiece.source, ih]

/-- The reference pass reads every text, and writes what its reading renders. -/
theorem replaceKeys_reads (ctx : ReferenceContext) (m : Metadata) (cs : List Char) :
    ∃ ps, KeyReading cs ps ∧ replaceKeys ctx m cs = ps.flatMap (KeyPiece.rendered ctx m) := by
  fun_induction replaceKeys ctx m cs with
  | case1 => exact ⟨[], .nil, rfl⟩
  | case2 cs key hkey ih =>
    obtain ⟨ps, hps, hout⟩ := ih
    simp only [Bool.and_eq_true, decide_eq_true_eq] at hkey
    have hsplit : '|' :: cs = '|' :: key ++ '|' :: cs.drop (key.length + 1) :=
      congrArg ('|' :: ·) (eq_takeWhile_append hkey.1)
    refine ⟨.ref key :: ps, ?_, by simp [hout, KeyPiece.rendered]⟩
    rw [hsplit]
    exact .ref hkey.2 hps
  | case3 cs key hkey ih =>
    obtain ⟨ps, hps, hout⟩ := ih
    have hnot : ¬ StartsRef ('|' :: cs) := by
      intro h
      rw [startsRef_bar_iff] at h
      apply hkey
      simp only [Bool.and_eq_true, decide_eq_true_eq]
      exact h
    exact ⟨_, .char hnot hps, by simp [hout, KeyPiece.rendered]⟩
  | case4 c cs hc ih =>
    obtain ⟨ps, hps, hout⟩ := ih
    have hnot : ¬ StartsRef (c :: cs) := by
      rintro ⟨key, rest, hcs, -⟩
      exact hc (List.cons.inj hcs).1
    exact ⟨_, .char hnot hps, by simp [hout, KeyPiece.rendered]⟩

/-- A text has one reference reading. -/
theorem KeyReading.determ {cs : List Char} {ps qs : List KeyPiece} (hp : KeyReading cs ps)
    (hq : KeyReading cs qs) : ps = qs := by
  induction hp generalizing qs with
  | nil => cases hq; rfl
  | char hnot _ ih =>
    cases hq with
    | char _ hq => rw [ih hq]
    | ref hk _ => exact absurd ⟨_, _, rfl, hk⟩ hnot
  | @ref key rest ps hk _ ih =>
    generalize hcs : '|' :: key ++ '|' :: rest = cs at hq
    cases hq with
    | nil => cases hcs
    | char hnot _ => exact absurd ⟨_, _, hcs.symm, hk⟩ hnot
    | @ref key' rest' qs hk' hq =>
      -- both keys run up to the first bar, so they are one key
      have hkeys : key ++ '|' :: rest = key' ++ '|' :: rest' := (List.cons.inj hcs).2
      have hkey : key = key' := by
        rw [← takeWhile_key_bar (bar_not_mem_of_isKey hk) rest, hkeys,
          takeWhile_key_bar (bar_not_mem_of_isKey hk') rest']
      subst hkey
      obtain rfl : rest = rest' := (List.cons.inj (List.append_cancel_left hkeys)).2
      rw [ih hq]

/-- The reference pass writes what any reading of the text renders. -/
theorem replaceKeys_of_keyReading (ctx : ReferenceContext) (m : Metadata) {cs : List Char}
    {ps : List KeyPiece} (h : KeyReading cs ps) :
    replaceKeys ctx m cs = ps.flatMap (KeyPiece.rendered ctx m) := by
  obtain ⟨qs, hqs, hout⟩ := replaceKeys_reads ctx m cs
  rw [hout, hqs.determ h]

/-! ## Both passes -/

/-- A plain segment is dated by its date reading, and the dated text is substituted by its
reference reading. -/
theorem replaceKeys_replaceToday (ctx : ReferenceContext) (m : Metadata) (seg : List Char) :
    ∃ ds ks, DateReading ctx seg ds ∧ KeyReading (ds.flatMap (DatePiece.rendered ctx)) ks ∧
      replaceKeys ctx m (replaceToday ctx seg) = ks.flatMap (KeyPiece.rendered ctx m) := by
  obtain ⟨ds, hds, hdated⟩ := replaceToday_reads ctx seg
  obtain ⟨ks, hks, hout⟩ := replaceKeys_reads ctx m (ds.flatMap (DatePiece.rendered ctx))
  rw [hdated]
  exact ⟨ds, ks, hds, hks, hout⟩

/-- **Dates first, then references.** Outside tags, each `@today` token and each reference is
substituted once, but the references are those of the dated text. The output is one piece
per segment of the content: a tag is kept, and a plain segment becomes the rendering of the
reference reading of the rendering of its date reading. Each text has one reading of each
kind, and a reading holds each character of its text in exactly one piece. -/
theorem references_read_after_dates :
    (∀ (content : String) (m : Metadata) (ctx : ReferenceContext),
      ∃ outs : List String, processReferences content m ctx = String.join outs ∧
        List.Forall₂ (fun (p : String × Bool) (out : String) =>
            if p.2 then out = p.1 else
              ∃ ds ks, DateReading ctx p.1.toList ds ∧
                KeyReading (ds.flatMap (DatePiece.rendered ctx)) ks ∧
                out.toList = ks.flatMap (KeyPiece.rendered ctx m))
          (Template.splitExpressions content) outs) ∧
    (∀ ctx cs (ds ds' : List DatePiece), DateReading ctx cs ds → DateReading ctx cs ds' →
      ds = ds') ∧
    (∀ cs (ks ks' : List KeyPiece), KeyReading cs ks → KeyReading cs ks' → ks = ks') ∧
    (∀ ctx cs (ds : List DatePiece), DateReading ctx cs ds → ds.flatMap DatePiece.source = cs) ∧
    (∀ cs (ks : List KeyPiece), KeyReading cs ks → ks.flatMap KeyPiece.source = cs) := by
  refine ⟨fun content m ctx => ⟨_, rfl, ?_⟩, fun _ _ _ _ h h' => h.determ h',
    fun _ _ _ h h' => h.determ h', fun _ _ _ h => flatMap_source_of_dateReading h,
    fun _ _ h => flatMap_source_of_keyReading h⟩
  rw [List.forall₂_map_right_iff, List.forall₂_same]
  rintro ⟨seg, tag⟩ -
  cases tag
  · obtain ⟨ds, ks, hds, hks, hout⟩ := replaceKeys_replaceToday ctx m seg.toList
    exact ⟨ds, ks, hds, hks, by simpa using hout⟩
  · rfl

/-- A token after any other character than `@` is read as a token in the document's format. -/
theorem dateReading_char_today (ctx : ReferenceContext) {c : Char} (hc : c ≠ '@') :
    DateReading ctx (c :: todayChars) [.char c, .today ctx.dateFormat todayChars] :=
  .char (not_startsToday_cons hc _) (.plain rfl rfl .nil)

/-- The plain segment `|@today`, read on 16 October 2026 in a document without fields. -/
theorem references_read_after_dates_bar :
    DateReading (ReferenceContext.ofMetadata [] ⟨2026, 10, 16⟩ false) ('|' :: todayChars)
        [.char '|', .today "YYYY-MM-DD" todayChars] ∧
      [DatePiece.char '|', .today "YYYY-MM-DD" todayChars].flatMap DatePiece.source =
        '|' :: todayChars := by
  have hread := dateReading_char_today (ReferenceContext.ofMetadata [] ⟨2026, 10, 16⟩ false)
    (by decide : '|' ≠ '@')
  exact ⟨hread, references_read_after_dates.2.2.2.1 _ _ _ hread⟩

/-- A rendered date can close a reference: with the date format `MMMM|`, the text `|@today`
is dated `|October|` on 16 October 2026, and is then replaced by the field `October`. -/
theorem rendered_date_forms_reference :
    let m : Metadata := [("date-format", .str "MMMM|"), ("October", .str "X")]
    let ctx := ReferenceContext.ofMetadata m ⟨2026, 10, 16⟩ false
    replaceToday ctx "|@today".toList = "|October|".toList ∧ processReferences "|@today" m ctx = "X" := by
  intro m ctx
  have hdated : replaceToday ctx "|@today".toList = "|October|".toList :=
    (replaceToday_of_dateReading (dateReading_char_today ctx (by decide : '|' ≠ '@'))).trans
      (by decide)
  -- the dated text is one reference, to the field `October`
  have hread : KeyReading ('|' :: "October".toList ++ ['|']) [.ref "October".toList] :=
    .ref (by decide) .nil
  have hkeys : replaceKeys ctx m "|October|".toList = "X".toList :=
    (replaceKeys_of_keyReading ctx m hread).trans (by decide)
  -- the content has no tag, so it is one plain segment
  refine ⟨hdated, ?_⟩
  rw [processReferences, Template.splitExpressions_of_hasTag (Template.hasTag_of_not_mem (by decide)),
    if_neg (by decide)]
  simp only [List.map_cons, List.map_nil, Bool.false_eq_true, if_false]
  rw [hdated, hkeys]
  rfl

end Covenant.Reference
