import Covenant.Proofs.Heading.Frame
import Mathlib.Data.List.TakeWhile
/-!
# Numbering twice

Numbering a numbered text again changes nothing, when every level has a label format: a
format with no line feed whose first character past blanks is neither `l` (a level marker),
`%` (a placeholder, which may render as the letter `l`), a backtick nor a tilde (a fence).

The argument goes piece by piece.  Numbering writes one piece per line, and the pieces are
again a text cut into lines (`go_chunks`), so the numbered text has one line per piece.  A
copied piece reads back as the line it was copied from.  A header's piece opens, past its
indentation and its label's leading blanks, with the label's first character, so read back it
is neither a header line nor a fence opener (`line_inert`).  Fences then open and close at the
same lines in both runs, and the second run copies every piece (`go_rerun`).
-/

namespace Covenant.Heading

open Covenant.Text

/-! ## Label formats -/

/-- A level format whose labels open a line that is neither a header line nor a fence: it holds
no line feed, and after blanks it starts with a character other than `l`, `%`, a backtick or a
tilde. -/
def LabelFormat (f : String) : Prop :=
  '\n' ∉ f.toList ∧
    ∃ c, (f.toList.dropWhile isBlank).head? = some c ∧ c ∉ ['l', '%', '`', '~']

/-- The default formats are label formats. -/
theorem defaultFormats_label : ∀ f ∈ defaultFormats, LabelFormat f := by
  intro f hf
  simp only [defaultFormats, List.mem_cons, List.mem_nil_iff, or_false] at hf
  rcases hf with rfl | rfl | rfl | rfl | rfl
  · exact ⟨by decide, 'A', by decide, by decide⟩
  · exact ⟨by decide, 'S', by decide, by decide⟩
  all_goals exact ⟨by decide, '(', by decide, by decide⟩

/-! ## Labels open as their formats do -/

theorem render_go_plain (c : Counters) {ch : Char} (hch : ch ≠ '%') (rest : List Char)
    (p s o : Nat) (acc : List Char) (fuel : Nat) :
    Counters.render.go c (ch :: rest) p s o acc (fuel + 1) =
      Counters.render.go c rest p s o (ch :: acc) fuel := by
  rw [Counters.render.go.eq_def]
  simp only
  -- every pattern but the last starts with `%`
  split <;> simp_all

/-- Rendering keeps what it has written so far in front. -/
theorem render_go_acc (c : Counters) (p s o : Nat) :
    ∀ (fuel : Nat) (cs acc : List Char),
      ∃ r, Counters.render.go c cs p s o acc fuel = acc.reverse ++ r := by
  intro fuel
  induction fuel with
  | zero =>
    intro cs acc
    exact ⟨cs, by rw [Counters.render.go.eq_def]⟩
  | succ fuel ih =>
    intro cs acc
    rw [Counters.render.go.eq_def]
    simp only
    split
    case h_1 => exact ⟨[], by simp⟩
    -- `%l` and a digit: a counter, or `%l` written as it stands
    case h_8 =>
      split
      all_goals
        obtain ⟨r, hr⟩ := ih _ _
        exact ⟨_, by rw [hr, List.reverse_append, List.reverse_reverse, List.append_assoc]⟩
    all_goals
      obtain ⟨r, hr⟩ := ih _ _
      exact ⟨_, by rw [hr, List.reverse_append, List.reverse_reverse, List.append_assoc]⟩

theorem render_go_prefix (c : Counters) (p s o : Nat) (rest : List Char) :
    ∀ (pre acc : List Char) (fuel : Nat), '%' ∉ pre → pre.length ≤ fuel →
      ∃ r, Counters.render.go c (pre ++ rest) p s o acc fuel = acc.reverse ++ pre ++ r
  | [], acc, fuel, _, _ => by
    obtain ⟨r, hr⟩ := render_go_acc c p s o fuel rest acc
    exact ⟨r, by simpa using hr⟩
  | _ :: _, _, 0, _, hlen => absurd hlen (by simp)
  | ch :: pre, acc, fuel + 1, hpre, hlen => by
    have hch : ch ≠ '%' := fun h => hpre (h ▸ List.mem_cons_self)
    obtain ⟨r, hr⟩ := render_go_prefix c p s o rest pre (ch :: acc) fuel
      (fun h => hpre (List.mem_cons_of_mem _ h)) (by simpa using hlen)
    refine ⟨r, ?_⟩
    rw [List.cons_append, render_go_plain c hch, hr]
    simp

/-- A format that opens with plain characters renders to a label that opens with them. -/
theorem render_prefix (c : Counters) {f : String} (level : Nat) {pre rest : List Char}
    (hf : f.toList = pre ++ rest) (hpre : '%' ∉ pre) :
    ∃ r, (c.render f level).toList = pre ++ r := by
  obtain ⟨r, hr⟩ := render_go_prefix c _ _ _ rest pre [] f.length hpre
    (by rw [← String.length_toList, hf, List.length_append]; omega)
  refine ⟨r, ?_⟩
  rw [Counters.render, String.toList_ofList, hf, hr]
  simp

/-- A label of a label format opens with blanks and then a character that starts no marker,
no placeholder and no fence. -/
theorem LabelFormat.label {f : String} (hf : LabelFormat f) (c : Counters) (level : Nat) :
    ∃ ws ch r, (c.render f level).toList = ws ++ ch :: r ∧ (∀ w ∈ ws, isBlank w = true) ∧
      isBlank ch = false ∧ ch ∉ ['l', '%', '`', '~'] := by
  obtain ⟨-, ch, hhead, hch⟩ := hf
  obtain ⟨rest, hdrop⟩ := List.head?_eq_some_iff.mp hhead
  have hws : ∀ w ∈ f.toList.takeWhile isBlank, isBlank w = true :=
    fun w hw => List.mem_takeWhile_imp hw
  have hsplit : f.toList = f.toList.takeWhile isBlank ++ [ch] ++ rest := by
    rw [List.append_assoc, List.singleton_append, ← hdrop, List.takeWhile_append_dropWhile]
  have hblank : isBlank ch = false := by
    have := List.head_dropWhile_not isBlank (l := f.toList) (by simp [hdrop])
    simpa [hdrop] using this
  obtain ⟨r, hr⟩ := render_prefix c level hsplit (by
    intro h
    rcases List.mem_append.mp h with h | h
    · exact absurd (hws _ h) (by decide)
    · rw [List.mem_singleton] at h
      exact hch (h ▸ by simp))
  exact ⟨_, ch, r, by simpa using hr, hws, hblank, hch⟩

/-- A header's text is spaces, then its label, then the rest. -/
theorem headerText_toList (style : Style) (counters : Counters) (level : Nat) (title : String) :
    ∃ sp tail, (∀ w ∈ sp, w = ' ') ∧
      (headerText style counters level title).toList =
        sp ++ (counters.render ((style.formats[level - 1]?).getD "") level).toList ++ tail := by
  simp only [headerText, String.toList_append]
  refine ⟨_, _, ?_, List.append_assoc _ _ _⟩
  intro w hw
  split at hw
  · rw [String.toList_ofList] at hw
    exact List.eq_of_mem_replicate hw
  · simp at hw

/-! ## Reading numbered lines -/

theorem isBlank_of_isSpaceTab {c : Char} (h : isSpaceTab c = true) : isBlank c = true := by
  simp only [isSpaceTab, Bool.or_eq_true, decide_eq_true_eq] at h
  rcases h with rfl | rfl <;> rfl

/-- Past the elements a test holds of, a list goes on with one of those it fails on. -/
theorem head?_dropWhile_append_cons {α : Type} {p : α → Bool} {x : α} (hx : p x = false)
    (y : List α) :
    ∀ ws : List α, ∃ d, ((ws ++ x :: y).dropWhile p).head? = some d ∧ (d ∈ ws ∨ d = x)
  | [] => ⟨x, by simp [hx], .inr rfl⟩
  | w :: ws => by
    by_cases hw : p w = true
    · obtain ⟨d, hd, hmem⟩ := head?_dropWhile_append_cons hx y ws
      refine ⟨d, by simpa [List.dropWhile_cons, hw] using hd, ?_⟩
      rcases hmem with h | h
      · exact .inl (List.mem_cons_of_mem _ h)
      · exact .inr h
    · exact ⟨w, by simp [hw], .inl List.mem_cons_self⟩

/-- A text whose first character past spaces and tabs is no `l` is no header line. -/
theorem headerLine?_eq_none {text : String}
    (h : ∀ c ∈ (text.toList.dropWhile isSpaceTab).head?, c ≠ 'l') :
    headerLine? text = none := by
  unfold headerLine?
  cases hcs : text.toList.dropWhile isSpaceTab with
  | nil => simp
  | cons c r =>
    have hc : c ≠ 'l' := h c (by simp [hcs])
    simp [hc]

/-- A line that opens with blanks and then a character that starts no marker and no fence is
neither a header line nor a fence opener. -/
theorem line_inert {ws : List Char} {ch : Char} (hws : ∀ w ∈ ws, isBlank w = true)
    (hch : isBlank ch = false) (hnot : ch ∉ ['l', '%', '`', '~']) (r : List Char) :
    fenceOpener? (Line.ofChars (ws ++ ch :: r)) = none ∧
      headerLine? (Line.ofChars (ws ++ ch :: r)).text = none := by
  -- past any run of blanks comes a blank of `ws` or `ch`, and neither opens a marker or a fence
  have hfirst : ∀ d, d ∈ ws ∨ d = ch → d ≠ 'l' ∧ d ≠ '`' ∧ d ≠ '~' := by
    rintro d (hd | rfl)
    · have hb := hws d hd
      refine ⟨?_, ?_, ?_⟩ <;> rintro rfl <;> revert hb <;> decide
    · simp only [List.mem_cons, List.not_mem_nil, or_false, not_or] at hnot
      exact ⟨hnot.1, hnot.2.2.1, hnot.2.2.2⟩
  have hstop : ¬(ch = '\n' ∨ ch = '\r') := by
    rintro (rfl | rfl) <;> revert hch <;> decide
  have hst : isSpaceTab ch = false := by
    cases h : isSpaceTab ch with
    | false => rfl
    | true => rw [isBlank_of_isSpaceTab h] at hch; cases hch
  obtain ⟨y, hy⟩ := Line.ofChars_text_of_stop hstop ws r
  constructor
  · apply fenceOpener?_eq_none
    obtain ⟨d, hd, hmem⟩ := head?_dropWhile_append_cons hch y ws
    rw [hy, hd]
    intro c hc
    simp only [Option.mem_def, Option.some.injEq] at hc
    subst hc
    exact (hfirst _ hmem).2
  · apply headerLine?_eq_none
    obtain ⟨d, hd, hmem⟩ := head?_dropWhile_append_cons hst y ws
    rw [hy, hd]
    intro c hc
    simp only [Option.mem_def, Option.some.injEq] at hc
    subst hc
    exact (hfirst _ hmem).1

section Rerun

variable {style : Style} (hlen : style.formats.length = 5)
  (hformats : ∀ f ∈ style.formats, LabelFormat f)
include hlen hformats

/-- With a label format at every level, a header's text opens with blanks and then a character
that starts no marker and no fence. -/
theorem headerText_opens {level : Nat} (hlevel : 1 ≤ level ∧ level ≤ 5) (counters : Counters)
    (title : String) :
    ∃ ws ch r, (headerText style counters level title).toList = ws ++ ch :: r ∧
      (∀ w ∈ ws, isBlank w = true) ∧ isBlank ch = false ∧ ch ∉ ['l', '%', '`', '~'] := by
  have hlt : level - 1 < style.formats.length := by omega
  have hget : style.formats[level - 1]? = some style.formats[level - 1] :=
    List.getElem?_eq_getElem hlt
  have hlabel := hformats _ (List.getElem_mem hlt)
  obtain ⟨sp, tail, hsp, htext⟩ := headerText_toList style counters level title
  obtain ⟨ws, ch, r, hr, hws, hch, hnot⟩ := hlabel.label counters level
  rw [hget, Option.getD_some, hr] at htext
  refine ⟨sp ++ ws, ch, r ++ tail, by simp [htext], ?_, hch, hnot⟩
  intro w hw
  rcases List.mem_append.mp hw with hw | hw
  · rw [hsp w hw]
    rfl
  · exact hws w hw

/-- The piece of a header line read from characters without a line feed is not empty and has
no line feed. -/
theorem headerPiece_plain {t : List Char} (hnl : '\n' ∉ t) {level : Nat} {title : String}
    (hh : headerLine? (Line.ofChars t).text = some (level, title)) (counters : Counters) :
    (headerText style counters level title).toList ++ (Line.ofChars t).ending.toList ≠ [] ∧
      '\n' ∉ (headerText style counters level title).toList ++
        (Line.ofChars t).ending.toList := by
  obtain ⟨hlevel, htitle⟩ := headerLine?_level_title hh
  obtain ⟨ws, ch, r, htext, -⟩ := headerText_opens hlen hformats hlevel counters title
  refine ⟨by simp [htext], ?_⟩
  have hnlf : ∀ f ∈ style.formats, '\n' ∉ f.toList := fun f hf => (hformats f hf).1
  have htitle' : '\n' ∉ title.toList :=
    fun h => hnl ((Line.ofChars_text_prefix t).subset (htitle.subset h))
  rw [List.mem_append, not_or]
  exact ⟨headerText_no_newline hnlf counters level htitle',
    fun h => hnl ((Line.ofChars_ending_suffix t).subset h)⟩

/-- Numbering the lines of the pieces of a text gives again the pieces of a text: a header
line's piece keeps the line feed it ends with and gains none. -/
theorem go_chunks {chunks : List (List Char)} (hchunks : LineChunks chunks) :
    ∀ (fence : Option String) (counters : Counters),
      LineChunks ((numberHeaders.go style (chunks.map Line.ofChars) fence counters).map
        String.toList) := by
  induction hchunks with
  | nil => exact fun _ _ => .nil
  | last hne hnl =>
    rename_i t
    intro fence counters
    rw [List.map_singleton]
    rcases copied_or_numbered fence (Line.ofChars t) with hc | ⟨level, title, hout, hopen, hh⟩
    · rw [go_copied style [] counters hc, go_nil, List.map_singleton, Line.full_ofChars,
        String.toList_ofList]
      exact .last hne hnl
    · rw [go_numbered style [] counters hout hopen hh, go_nil, List.map_singleton,
        String.toList_append]
      obtain ⟨hne', hnl'⟩ := headerPiece_plain hlen hformats hnl hh _
      exact .last hne' hnl'
  | cons hnl hcs ih =>
    rename_i t cs
    intro fence counters
    rw [List.map_cons]
    rcases copied_or_numbered fence (Line.ofChars (t ++ ['\n'])) with
      hc | ⟨level, title, hout, hopen, hh⟩
    · rw [go_copied style _ counters hc, List.map_cons, Line.full_ofChars, String.toList_ofList]
      exact .cons hnl (ih _ _)
    · rw [go_numbered style _ counters hout hopen hh, List.map_cons, String.toList_append,
        Line.ofChars_ending_snoc_newline, ← List.append_assoc]
      rw [Line.ofChars_text_snoc_newline] at hh
      exact .cons (headerPiece_plain hlen hformats hnl hh _).2 (ih _ _)

/-- Numbering the lines of a numbered text again copies each of them. -/
theorem go_rerun :
    ∀ (ls : List Line) (fence : Option String) (counters counters' : Counters),
      (∀ l ∈ ls, Line.ofChars l.full.toList = l) →
      numberHeaders.go style ((numberHeaders.go style ls fence counters).map
        fun p => Line.ofChars p.toList) fence counters' = numberHeaders.go style ls fence counters
  | [], _, _, _, _ => rfl
  | l :: ls, fence, counters, counters', hls => by
    have hl : Line.ofChars l.full.toList = l := hls l List.mem_cons_self
    have hrest : ∀ l ∈ ls, Line.ofChars l.full.toList = l :=
      fun l' h => hls l' (List.mem_cons_of_mem _ h)
    rcases copied_or_numbered fence l with hc | ⟨level, title, rfl, hopen, hh⟩
    · -- a copied line reads back as itself and is copied again
      rw [go_copied style ls counters hc, List.map_cons, hl, go_copied style _ counters' hc,
        go_rerun ls _ counters counters' hrest]
    · -- a header line's piece reads back as a line that is no header and opens no fence
      have hlevel := (headerLine?_level_title hh).1
      let counted := counters.advance level (!style.noReset) style.resetExempt
      obtain ⟨ws, ch, r, htext, hws, hch, hnot⟩ :=
        headerText_opens hlen hformats hlevel counted title
      have hpiece : (headerText style counted level title ++ l.ending).toList =
          ws ++ ch :: (r ++ l.ending.toList) := by
        rw [String.toList_append, htext, List.append_assoc, List.cons_append]
      obtain ⟨hopen', hh'⟩ := line_inert hws hch hnot (r ++ l.ending.toList)
      rw [← hpiece] at hopen' hh'
      rw [go_numbered style ls counters rfl hopen hh, List.map_cons,
        go_copied style _ counters' (.inr hh'),
        Line.full_ofChars, String.ofList_toList, fenceStep_of_outside hopen']
      exact congrArg _ (go_rerun ls none counted counters' hrest)

/-- **Numbering twice numbers once.**  When every level has a format whose labels open, after
blanks, with a character other than `l`, `%`, a backtick or a tilde, and no format holds a line
feed, numbering a numbered text changes nothing: each numbered header reads as a plain line
that opens no fence, so every line is copied. -/
theorem numberHeaders_idempotent (content : String) :
    numberHeaders (numberHeaders content style) style = numberHeaders content style := by
  obtain ⟨chunks, hchunks, -, hlines⟩ := lines_exists_chunks content
  -- the numbered text is cut into lines at the pieces numbering wrote
  have hrelines : lines (numberHeaders content style) =
      (numberHeaders.go style (lines content) none {}).map fun p => Line.ofChars p.toList := by
    have hgo := lines_go_chunks (go_chunks hlen hformats hchunks none {})
    rw [← hlines, List.map_map] at hgo
    rw [lines, numberHeaders, String.toList_join, List.flatMap_def]
    exact hgo
  -- each line of the text reads back as itself
  have hread : ∀ l ∈ lines content, Line.ofChars l.full.toList = l := by
    intro l hl
    rw [hlines, List.mem_map] at hl
    obtain ⟨c, -, rfl⟩ := hl
    rw [Line.full_ofChars, String.toList_ofList]
  rw [numberHeaders, hrelines, go_rerun hlen hformats _ none {} {} hread]
  rfl

end Rerun

/-- The default formats are label formats, so a document with headers, a header-like title
and a fence numbers once for all. -/
theorem numberHeaders_idempotent_defaults :
    ({} : Style).formats.length = 5 ∧ (∀ f ∈ ({} : Style).formats, LabelFormat f) ∧
      numberHeaders (numberHeaders "l. Scope\n  ll.  l. Terms \r\n```\nl. code\n```\nl3.\n" {}) {} =
        numberHeaders "l. Scope\n  ll.  l. Terms \r\n```\nl. code\n```\nl3.\n" {} :=
  ⟨rfl, defaultFormats_label, numberHeaders_idempotent rfl defaultFormats_label _⟩

end Covenant.Heading
