import Covenant.Proofs.Heading.Counting
import Covenant.Proofs.Text.Lines
/-!
# Numbering header lines works line by line

Numbering reads a text line by line, each line with its ending, and writes one piece per line:

* a line inside a code fence, the fence's own lines included, is copied;
* a line outside fences that is no header line is copied;
* a header line outside fences becomes its header text (`headerText`: indentation, label and
  title) followed by the line's ending.

`NumberedAs` states this for the line at each position, with the fence open before it
(`openFence`) and the counters after counting the header lines up to it (`headerSteps`, read
by the counting law of `Counters.get_run`). The main statement (`numberHeaders_lineWise`) says
that the numbered text is these pieces joined, one per line, and that when no level format
holds a line feed it has as many line feeds as the text: digits, letters, roman numerals,
indentation and the title, taken from a line's text, hold none. A format with a line feed
puts its line feed into the label (`numberHeaders_format_line_feed`).
-/

namespace Covenant.Heading

open Covenant.Text

/-! ## Header lines -/

/-- A digit marker `l1` … `l5` names levels one to five. -/
theorem digit_level {d : Char} (h : '1' ≤ d ∧ d ≤ '5') :
    1 ≤ d.toNat - '0'.toNat ∧ d.toNat - '0'.toNat ≤ 5 := by
  obtain ⟨h1, h5⟩ := h
  have h1' : 49 ≤ d.toNat := h1
  have h5' : d.toNat ≤ 53 := h5
  have h0 : '0'.toNat = 48 := rfl
  omega

/-- A header line names a level from one to five, and its title is taken from its text. -/
theorem headerLine?_level_title {text : String} {level : Nat} {title : String}
    (h : headerLine? text = some (level, title)) :
    (1 ≤ level ∧ level ≤ 5) ∧ title.toList.Sublist text.toList := by
  unfold headerLine? at h
  simp only [Option.bind_eq_some_iff] at h
  obtain ⟨⟨lv, after⟩, hm, h⟩ := h
  -- the marker: a level in range, and what follows its `.`, a suffix of the text
  have hmarker : (1 ≤ lv ∧ lv ≤ 5) ∧ after <:+ text.toList := by
    have hcs := List.dropWhile_suffix isSpaceTab (l := text.toList)
    generalize List.dropWhile isSpaceTab text.toList = cs at hm hcs
    generalize List.takeWhile (fun x => decide (x = 'l')) cs = ls at hm
    have hrest := (List.drop_suffix ls.length cs).trans hcs
    generalize cs.drop ls.length = rest at hm hrest
    split at hm
    · next hcond =>
      simp only [Option.some.injEq, Prod.mk.injEq] at hm
      obtain ⟨rfl, rfl⟩ := hm
      exact ⟨⟨hcond.1, hcond.2.1⟩, (List.drop_suffix 1 rest).trans hrest⟩
    · split at hm
      · split at hm
        · next d r hd =>
          simp only [Option.some.injEq, Prod.mk.injEq] at hm
          obtain ⟨rfl, rfl⟩ := hm
          refine ⟨digit_level hd, List.IsSuffix.trans ?_ hrest⟩
          exact (List.suffix_cons _ _).trans (List.suffix_cons _ _)
        · simp at hm
      · simp at hm
  -- the title: what follows the marker, less the blanks around it
  have htitle : lv = level ∧ title.toList.Sublist after := by
    cases after with
    | nil =>
      simp only [Option.some.injEq, Prod.mk.injEq] at h
      obtain ⟨rfl, rfl⟩ := h
      simp
    | cons c tail =>
      simp only at h
      split at h
      · simp only [Option.some.injEq, Prod.mk.injEq] at h
        obtain ⟨rfl, rfl⟩ := h
        refine ⟨rfl, ?_⟩
        rw [String.toList_ofList]
        have hbody := (List.dropWhile_sublist isSpaceTab (l := (c :: tail).reverse)).reverse
        rw [List.reverse_reverse] at hbody
        exact (List.dropWhile_sublist _).trans hbody
      · split at h
        · simp only [Option.some.injEq, Prod.mk.injEq] at h
          obtain ⟨rfl, rfl⟩ := h
          simp
        · simp at h
  obtain ⟨rfl, hsub⟩ := htitle
  exact ⟨hmarker.1, hsub.trans hmarker.2.sublist⟩

/-! ## Labels without line breaks -/

theorem toDigits_no_newline (n : Nat) : '\n' ∉ Nat.toDigits 10 n := by
  intro h
  have := Nat.isDigit_of_mem_toDigits (by decide) (by decide) h
  revert this
  decide

theorem toUpper_toList (s : String) : s.toUpper.toList = s.toList.map Char.toUpper :=
  String.toList_map

/-- The letters of a counter are lower-case ASCII letters. -/
theorem mem_alphabetic_go {x : Char} :
    ∀ (fuel n : Nat) (acc : List Char), x ∈ alphabetic.go n fuel acc →
      x ∈ acc ∨ ∃ r < 26, x = Char.ofNat (97 + r)
  | 0, n, acc, h => by
    rw [alphabetic.go.eq_def] at h
    exact .inl h
  | fuel + 1, n, acc, h => by
    rw [alphabetic.go.eq_def] at h
    simp only at h
    split at h
    · exact .inl h
    · rcases mem_alphabetic_go fuel _ _ h with h | h
      · rcases List.mem_cons.mp h with rfl | h
        · exact .inr ⟨(n - 1) % 26, Nat.mod_lt _ (by decide), rfl⟩
        · exact .inl h
      · exact .inr h

theorem letters_no_newline :
    ∀ r < 26, Char.ofNat (97 + r) ≠ '\n' ∧ (Char.ofNat (97 + r)).toUpper ≠ '\n' := by
  decide

theorem alphabetic_no_newline (n : Nat) :
    '\n' ∉ (alphabetic n).toList ∧ '\n' ∉ (alphabetic n).toUpper.toList := by
  have hmem : ∀ x ∈ (alphabetic n).toList, x ≠ '\n' ∧ x.toUpper ≠ '\n' := by
    intro x hx
    rw [alphabetic, String.toList_ofList] at hx
    rcases mem_alphabetic_go _ _ _ hx with h | ⟨r, hr, rfl⟩
    · simp at h
    · exact letters_no_newline r hr
  refine ⟨fun h => (hmem _ h).1 rfl, fun h => ?_⟩
  rw [toUpper_toList, List.mem_map] at h
  obtain ⟨x, hx, hup⟩ := h
  exact (hmem x hx).2 hup

/-- Every character a fold of numeral pieces writes comes from the pieces. -/
theorem mem_foldl_numerals {f : String × Nat → Nat × String → String × Nat}
    (hf : ∀ acc p, ∀ x ∈ (f acc p).1.toList, x ∈ acc.1.toList ∨ x ∈ p.2.toList) :
    ∀ (table : List (Nat × String)) (acc : String × Nat) (x : Char),
      x ∈ (table.foldl f acc).1.toList →
        x ∈ acc.1.toList ∨ ∃ p ∈ table, x ∈ p.2.toList
  | [], acc, x, h => .inl h
  | p :: table, acc, x, h => by
    rcases mem_foldl_numerals hf table (f acc p) x h with h | ⟨q, hq, hx⟩
    · rcases hf acc p x h with h | h
      · exact .inl h
      · exact .inr ⟨p, List.mem_cons_self, h⟩
    · exact .inr ⟨q, List.mem_cons_of_mem _ hq, hx⟩

theorem numerals_no_newline :
    romanTable.all (fun p => p.2.toList.all fun x => x != '\n' && x.toUpper != '\n') = true := by
  decide

theorem roman_no_newline (n : Nat) :
    '\n' ∉ (roman n).toList ∧ '\n' ∉ (roman n).toUpper.toList := by
  have hmem : ∀ x ∈ (roman n).toList, x ≠ '\n' ∧ x.toUpper ≠ '\n' := by
    intro x hx
    rw [roman] at hx
    -- each step of the fold appends copies of one numeral
    have hstep := mem_foldl_numerals (by
      intro acc p x hx
      obtain ⟨v, s⟩ := p
      simp only [String.toList_append, String.toList_join, List.mem_append, List.mem_flatMap,
        List.mem_replicate] at hx
      rcases hx with hx | ⟨t, ⟨-, rfl⟩, hx⟩
      · exact .inl hx
      · exact .inr hx) _ _ x hx
    rcases hstep with h | ⟨p, hp, hx⟩
    · simp at h
    · have := List.all_eq_true.mp (List.all_eq_true.mp numerals_no_newline p hp) x hx
      simpa using this
  refine ⟨fun h => (hmem _ h).1 rfl, fun h => ?_⟩
  rw [toUpper_toList, List.mem_map] at h
  obtain ⟨x, hx, hup⟩ := h
  exact (hmem x hx).2 hup

theorem render_go_no_newline (c : Counters) (p s o : Nat) :
    ∀ (fuel : Nat) (cs acc : List Char), '\n' ∉ cs → '\n' ∉ acc →
      '\n' ∉ Counters.render.go c cs p s o acc fuel := by
  intro fuel
  induction fuel with
  | zero =>
    intro cs acc hcs hacc
    rw [Counters.render.go.eq_def]
    simp [hcs, hacc]
  | succ fuel ih =>
    intro cs acc hcs hacc
    rw [Counters.render.go.eq_def]
    simp only
    -- each placeholder writes digits, letters or `%`, and reading goes on along the format
    split
    case h_1 => simpa using hacc
    case h_8 =>
      split
      all_goals
        refine ih _ _ ?_ ?_
        · simp_all
        · simp_all [toDigits_no_newline]
    all_goals
      refine ih _ _ ?_ ?_
      · simp_all
      · simp_all [toDigits_no_newline, alphabetic_no_newline, roman_no_newline]

/-- A format without a line feed renders to a label without one. -/
theorem render_no_newline (c : Counters) {f : String} (level : Nat) (hf : '\n' ∉ f.toList) :
    '\n' ∉ (c.render f level).toList := by
  rw [Counters.render, String.toList_ofList]
  exact render_go_no_newline c _ _ _ _ _ _ hf (by simp)

/-- With formats and a title without line feeds, a header's text has none. -/
theorem headerText_no_newline {style : Style}
    (hformats : ∀ f ∈ style.formats, '\n' ∉ f.toList)
    (counters : Counters) (level : Nat) {title : String} (htitle : '\n' ∉ title.toList) :
    '\n' ∉ (headerText style counters level title).toList := by
  have hformat : '\n' ∉ ((style.formats[level - 1]?).getD "").toList := by
    cases hget : style.formats[level - 1]? with
    | none => simp
    | some f => exact hformats f (List.mem_of_getElem? hget)
  have hlabel := render_no_newline counters level hformat
  simp only [headerText]
  split <;> split <;> simp_all

/-! ## Numbering line by line -/

section Steps

variable (style : Style) (ls : List Line) (counters : Counters) {fence fence' : Option String}
  {l : Line}

@[simp] theorem go_nil (fence : Option String) : numberHeaders.go style [] fence counters = [] :=
  rfl

theorem go_fenced (h : fenceStep fence l = (true, fence')) :
    numberHeaders.go style (l :: ls) fence counters =
      l.full :: numberHeaders.go style ls fence' counters := by
  rw [numberHeaders.go, h]
  rfl

theorem go_plain (h : fenceStep fence l = (false, fence')) (hl : headerLine? l.text = none) :
    numberHeaders.go style (l :: ls) fence counters =
      l.full :: numberHeaders.go style ls fence' counters := by
  rw [numberHeaders.go, h]
  simp [hl]

theorem go_header {level : Nat} {title : String} (h : fenceStep fence l = (false, fence'))
    (hl : headerLine? l.text = some (level, title)) :
    numberHeaders.go style (l :: ls) fence counters =
      (headerText style (counters.advance level (!style.noReset) style.resetExempt) level title ++
        l.ending) ::
        numberHeaders.go style ls fence' (counters.advance level (!style.noReset) style.resetExempt) := by
  rw [numberHeaders.go, h]
  simp [hl]

end Steps

/-- A line is read outside fences exactly when no fence is open and it opens none. -/
theorem fenceStep_fst_eq_false {fence : Option String} {l : Line} :
    (fenceStep fence l).1 = false ↔ fence = none ∧ fenceOpener? l = none := by
  unfold fenceStep
  cases fence <;> cases h : fenceOpener? l <;> simp

theorem fenceStep_of_outside {l : Line} (h : fenceOpener? l = none) :
    fenceStep none l = (false, none) := by
  simp [fenceStep, h]

section Cases

variable (style : Style) (ls : List Line) (counters : Counters) {fence : Option String} {l : Line}

/-- A line inside a fence, or outside every fence but no header line, is copied. -/
theorem go_copied (h : (fenceStep fence l).1 = true ∨ headerLine? l.text = none) :
    numberHeaders.go style (l :: ls) fence counters =
      l.full :: numberHeaders.go style ls (fenceStep fence l).2 counters := by
  cases hfs : fenceStep fence l with
  | mk fenced fence' =>
    cases fenced with
    | true => exact go_fenced style ls counters hfs
    | false =>
      rw [hfs] at h
      exact go_plain style ls counters hfs (h.resolve_left (by simp))

/-- A header line outside every fence is numbered, and no fence is open after it. -/
theorem go_numbered {level : Nat} {title : String} (hout : fence = none)
    (hopen : fenceOpener? l = none) (hl : headerLine? l.text = some (level, title)) :
    numberHeaders.go style (l :: ls) fence counters =
      (headerText style (counters.advance level (!style.noReset) style.resetExempt) level title ++
        l.ending) ::
        numberHeaders.go style ls none
          (counters.advance level (!style.noReset) style.resetExempt) := by
  subst hout
  exact go_header style ls counters (fenceStep_of_outside hopen) hl

/-- Each line is copied, or is a header line outside every fence. -/
theorem copied_or_numbered (fence : Option String) (l : Line) :
    ((fenceStep fence l).1 = true ∨ headerLine? l.text = none) ∨
      ∃ level title, fence = none ∧ fenceOpener? l = none ∧
        headerLine? l.text = some (level, title) := by
  cases hfs : (fenceStep fence l).1 with
  | true => exact .inl (.inl rfl)
  | false =>
    obtain ⟨hout, hopen⟩ := fenceStep_fst_eq_false.mp hfs
    cases hl : headerLine? l.text with
    | none => exact .inl (.inr rfl)
    | some h => exact .inr ⟨h.1, h.2, hout, hopen, rfl⟩

end Cases

/-- The fence open after reading lines, from a fence open before them. -/
def openFence (fence : Option String) (ls : List Line) : Option String :=
  ls.foldl (fun f l => (fenceStep f l).2) fence

/-- The counting step of a line read under a fence: a header line outside fences counts at its
level. -/
def lineStep? (style : Style) (fence : Option String) (l : Line) : Option Step :=
  if (fenceStep fence l).1 then none
  else (headerLine? l.text).map fun h => ⟨h.1, !style.noReset, style.resetExempt⟩

/-- The counting steps of the header lines outside fences, in order. -/
def headerSteps (style : Style) : Option String → List Line → List Step
  | _, [] => []
  | fence, l :: ls => (lineStep? style fence l).toList ++ headerSteps style (fenceStep fence l).2 ls

/-- What numbering makes of the line `l` at position `i` of `ls`, read from the fence `fence`
after the counting steps `prior`: outside fences a header line becomes its header text, with
the counters after counting the header lines up to it, and its ending; every other line is
copied. -/
def NumberedAs (style : Style) (fence : Option String) (prior : List Step) (ls : List Line)
    (i : Nat) (l : Line) (piece : String) : Prop :=
  (openFence fence (ls.take i) = none → fenceOpener? l = none →
    ∀ level title, headerLine? l.text = some (level, title) →
      piece = headerText style (Counters.run (prior ++ headerSteps style fence (ls.take (i + 1))))
        level title ++ l.ending) ∧
  (openFence fence (ls.take i) ≠ none ∨ fenceOpener? l ≠ none ∨ headerLine? l.text = none →
    piece = l.full)

/-- A line numbered after the first is numbered as the rest is, from the fence and the steps
after the first. -/
theorem NumberedAs.cons {style : Style} {fence : Option String} {prior : List Step} {l0 l : Line}
    {ls : List Line} {i : Nat} {piece : String}
    (h : NumberedAs style (fenceStep fence l0).2 (prior ++ (lineStep? style fence l0).toList) ls i l
      piece) :
    NumberedAs style fence prior (l0 :: ls) (i + 1) l piece := by
  simpa only [NumberedAs, List.take_succ_cons, openFence, List.foldl_cons, headerSteps,
    List.append_assoc] using h

/-- Numbering one line writes the piece it is numbered as, and reads on with the fence after
it and the counters after its step. -/
theorem go_cons (style : Style) (l : Line) (ls : List Line) (fence : Option String)
    (prior : List Step) :
    ∃ piece, NumberedAs style fence prior (l :: ls) 0 l piece ∧
      numberHeaders.go style (l :: ls) fence (Counters.run prior) =
        piece :: numberHeaders.go style ls (fenceStep fence l).2
          (Counters.run (prior ++ (lineStep? style fence l).toList)) := by
  cases hfs : fenceStep fence l with
  | mk fenced fence' =>
    cases fenced with
    | true =>
      -- a fenced line is copied; no fence is open before it or it opens one
      have hin : ¬(fence = none ∧ fenceOpener? l = none) := by
        rw [← fenceStep_fst_eq_false, hfs]
        simp
      refine ⟨l.full, ⟨fun hf ho => absurd ⟨hf, ho⟩ hin, fun _ => rfl⟩, ?_⟩
      rw [go_fenced style ls _ hfs]
      simp [lineStep?, hfs]
    | false =>
      have hout : fence = none ∧ fenceOpener? l = none := by
        rw [← fenceStep_fst_eq_false, hfs]
      cases hl : headerLine? l.text with
      | none =>
        refine ⟨l.full, ⟨fun _ _ level title h => by simp [hl] at h, fun _ => rfl⟩, ?_⟩
        rw [go_plain style ls _ hfs hl]
        simp [lineStep?, hfs, hl]
      | some h =>
        obtain ⟨level, title⟩ := h
        refine ⟨headerText style ((Counters.run prior).advance level (!style.noReset)
          style.resetExempt) level title ++ l.ending, ⟨?_, ?_⟩, ?_⟩
        · intro _ _ level' title' h
          rw [hl, Option.some.injEq, Prod.mk.injEq] at h
          obtain ⟨rfl, rfl⟩ := h
          simp [headerSteps, lineStep?, hfs, hl, Counters.run_append_singleton]
        · intro h
          simp [openFence, hout.1, hout.2, hl] at h
        · rw [go_header style ls _ hfs hl]
          simp [lineStep?, hfs, hl, Counters.run_append_singleton]

/-- Each piece numbering writes is what its line is numbered as. -/
theorem go_getElem? (style : Style) :
    ∀ (ls : List Line) (fence : Option String) (prior : List Step) (i : Nat) (l : Line)
      (piece : String), ls[i]? = some l →
      (numberHeaders.go style ls fence (Counters.run prior))[i]? = some piece →
      NumberedAs style fence prior ls i l piece
  | [], _, _, _, _, _, hl, _ => by simp at hl
  | l0 :: ls, fence, prior, i, l, piece, hl, hpiece => by
    obtain ⟨p0, hp0, hgo⟩ := go_cons style l0 ls fence prior
    rw [hgo] at hpiece
    cases i with
    | zero =>
      simp only [List.getElem?_cons_zero, Option.some.injEq] at hl hpiece
      subst hl hpiece
      exact hp0
    | succ i =>
      rw [List.getElem?_cons_succ] at hl hpiece
      exact (go_getElem? style ls _ _ i l piece hl hpiece).cons

theorem length_go (style : Style) :
    ∀ (ls : List Line) (fence : Option String) (prior : List Step),
      (numberHeaders.go style ls fence (Counters.run prior)).length = ls.length
  | [], _, _ => by simp [numberHeaders.go]
  | l :: ls, fence, prior => by
    obtain ⟨p, -, hgo⟩ := go_cons style l ls fence prior
    rw [hgo, List.length_cons, List.length_cons, length_go style ls]

/-- A line whose text, once blanks are dropped, starts with neither a backtick nor a tilde
opens no fence. -/
theorem fenceOpener?_eq_none {l : Line}
    (h : ∀ c ∈ (l.text.toList.dropWhile isBlank).head?, c ≠ '`' ∧ c ≠ '~') :
    fenceOpener? l = none := by
  unfold fenceOpener? trimStart
  cases hd : l.text.toList.dropWhile isBlank with
  | nil => simp
  | cons c r =>
    have hc := h c (by simp [hd])
    simp [Ne.symm hc.1, Ne.symm hc.2]

theorem count_join_cons (c : Char) (p : String) (ps : List String) :
    (String.join (p :: ps)).toList.count c =
      p.toList.count c + (String.join ps).toList.count c := by
  rw [String.join_cons, String.toList_append, List.count_append]

/-- With formats without line feeds, numbering writes as many line feeds as the lines had. -/
theorem go_count {style : Style} (hformats : ∀ f ∈ style.formats, '\n' ∉ f.toList) :
    ∀ (ls : List Line) (fence : Option String) (counters : Counters),
      (∀ l ∈ ls, '\n' ∉ l.text.toList) →
      (String.join (numberHeaders.go style ls fence counters)).toList.count '\n' =
        (String.join (ls.map Line.full)).toList.count '\n'
  | [], _, _, _ => by simp [numberHeaders.go]
  | l :: ls, fence, counters, htext => by
    have hl : '\n' ∉ l.text.toList := htext l List.mem_cons_self
    have hls : ∀ l ∈ ls, '\n' ∉ l.text.toList :=
      fun l' h => htext l' (List.mem_cons_of_mem _ h)
    rw [List.map_cons, count_join_cons]
    rcases copied_or_numbered fence l with hc | ⟨level, title, hout, hopen, hh⟩
    · rw [go_copied style ls counters hc, count_join_cons, go_count hformats ls _ counters hls]
    · rw [go_numbered style ls counters hout hopen hh, count_join_cons,
        go_count hformats ls none _ hls]
      -- the header's text has no line feed, and neither had the line's
      have htitle : '\n' ∉ title.toList :=
        fun hm => hl ((headerLine?_level_title hh).2.subset hm)
      have hhead := headerText_no_newline hformats
        (counters.advance level (!style.noReset) style.resetExempt) level htitle
      rw [Line.full, String.toList_append, String.toList_append, List.count_append,
        List.count_append, List.count_eq_zero.mpr hhead, List.count_eq_zero.mpr hl]

/-- **Numbering works line by line.**  The numbered text is one piece per line of the text,
joined.  The piece of a line lying outside every code fence that is a header line is its
indentation, its label and its title, then the line's ending; the piece of every other line
is the line, ending included.  When no level format holds a line feed, the numbered text has
as many line feeds as the text. -/
theorem numberHeaders_lineWise (content : String) (style : Style) :
    ∃ pieces : List String, numberHeaders content style = String.join pieces ∧
      pieces.length = (lines content).length ∧
      (∀ i l piece, (lines content)[i]? = some l → pieces[i]? = some piece →
        NumberedAs style none [] (lines content) i l piece) ∧
      ((∀ f ∈ style.formats, '\n' ∉ f.toList) →
        (numberHeaders content style).toList.count '\n' = content.toList.count '\n') := by
  refine ⟨numberHeaders.go style (lines content) none (Counters.run []), rfl,
    length_go style _ none [],
    fun i l piece hl hpiece => go_getElem? style _ none [] i l piece hl hpiece,
    fun hformats => ?_⟩
  rw [numberHeaders, go_count hformats _ _ _ (fun l hl => newline_not_mem_text hl), join_lines]

/-- The default formats hold no line feed: a document with a header line, a fenced block and a
`\r\n` line keeps its three line feeds. -/
theorem numberHeaders_lineWise_defaults :
    (∀ f ∈ ({} : Style).formats, '\n' ∉ f.toList) ∧
      (numberHeaders "l. Scope\n```\nl. code\n```\r\n" {}).toList.count '\n' =
        ("l. Scope\n```\nl. code\n```\r\n").toList.count '\n' := by
  have hformats : ∀ f ∈ ({} : Style).formats, '\n' ∉ f.toList := by
    simp [defaultFormats]
  obtain ⟨_, _, _, _, hcount⟩ := numberHeaders_lineWise "l. Scope\n```\nl. code\n```\r\n" {}
  exact ⟨hformats, hcount hformats⟩

/-- A level format with a line feed in it puts one more line in the numbered text. -/
theorem numberHeaders_format_line_feed :
    (numberHeaders "l. x\n" { formats := ["A\nB", "Section %n.", "(%n)", "(%n%c)", "(%n%c%r)"] }).toList.count '\n' ≠
      ("l. x\n").toList.count '\n' := by
  have hhead : ("l. x".toList.dropWhile isBlank).head? = some 'l' := by decide
  have hfs : fenceStep none ⟨"l. x", "\n"⟩ = (false, none) := by
    refine fenceStep_of_outside (fenceOpener?_eq_none ?_)
    intro c hc
    rw [hhead, Option.mem_def, Option.some.injEq] at hc
    subst hc
    decide
  rw [numberHeaders, show lines "l. x\n" = [⟨"l. x", "\n"⟩] from rfl, go_header _ _ _ hfs rfl]
  decide

end Covenant.Heading
