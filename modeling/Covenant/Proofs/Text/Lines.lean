import Covenant.Text.Lines
import Mathlib.Data.List.DropRight
/-!
# Cutting a text into lines

A text is cut after each line feed, and each piece is read as a line: its text, and its
ending, the run of `\r` and `\n` it closes with (`Line.ofChars`). The pieces are those of
`LineChunks`: each but the last ends with its only line feed, and a last piece without one is
not empty. Reading pieces back gives one line per piece (`lines_go_chunks`), every text is
cut into such pieces (`lines_exists_chunks`), and lines joined give their text back
(`join_lines`).
-/

namespace Covenant

theorem List.drop_length_takeWhile {α : Type} (p : α → Bool) :
    ∀ l : List α, l.drop (l.takeWhile p).length = l.dropWhile p
  | [] => rfl
  | a :: l => by
    cases hp : p a
    · simp [hp]
    · simp [hp, List.drop_length_takeWhile p l]

theorem List.dropWhile_of_head {α : Type} {p : α → Bool} {l : List α}
    (h : ∀ a ∈ l.head?, p a = false) : l.dropWhile p = l := by
  cases l with
  | nil => rfl
  | cons a l => exact List.dropWhile_cons_of_neg (by simp [h a rfl])

/-- No piece of a list cut at `a` holds `a`. -/
theorem List.not_mem_of_mem_splitOn {α : Type} [BEq α] [LawfulBEq α] {a : α} :
    ∀ {l seg : List α}, seg ∈ l.splitOn a → a ∉ seg
  | [], seg, h => by
    rw [List.splitOn_nil, List.mem_singleton] at h
    simp [h]
  | c :: l, seg, h => by
    rw [List.splitOn_cons_eq_if_modifyHead] at h
    split at h
    · rcases List.mem_cons.mp h with rfl | h
      · simp
      · exact List.not_mem_of_mem_splitOn h
    · rename_i hc
      -- the first piece is the one `c` joins; the others are pieces of `l`
      obtain ⟨hd, tl, hsplit⟩ := List.exists_cons_of_ne_nil (List.splitOn_ne_nil a l)
      rw [hsplit, List.modifyHead_cons] at h
      rcases List.mem_cons.mp h with rfl | h
      · have hhd : a ∉ hd := List.not_mem_of_mem_splitOn (hsplit ▸ List.mem_cons_self)
        simp only [beq_iff_eq] at hc
        simp [hhd, Ne.symm hc]
      · exact List.not_mem_of_mem_splitOn (hsplit ▸ List.mem_cons_of_mem _ h)

namespace Text

/-! ## One line -/

/-- A line read from characters is those characters again. -/
theorem Line.full_ofChars (cs : List Char) : (Line.ofChars cs).full = String.ofList cs := by
  simp only [Line.full, Line.ofChars, ← String.ofList_append, ← List.reverse_append,
    List.drop_length_takeWhile, List.takeWhile_append_dropWhile, List.reverse_reverse]

/-- A line's text is its characters less the line breaks they end with. -/
theorem Line.ofChars_text (cs : List Char) :
    (Line.ofChars cs).text.toList = cs.rdropWhile fun c => decide (c = '\n' ∨ c = '\r') := by
  rw [Line.ofChars, String.toList_ofList, List.drop_length_takeWhile, ← List.rdropWhile_reverse,
    List.reverse_reverse]

/-- A line's ending is the line breaks its characters end with. -/
theorem Line.ofChars_ending (cs : List Char) :
    (Line.ofChars cs).ending.toList = cs.rtakeWhile fun c => decide (c = '\n' ∨ c = '\r') := by
  rw [Line.ofChars, String.toList_ofList, ← List.rtakeWhile_reverse, List.reverse_reverse]

/-- A line keeps all it holds up to its last character that is no line break. -/
theorem Line.ofChars_text_of_stop {c : Char} (hc : ¬(c = '\n' ∨ c = '\r')) (x : List Char) :
    ∀ y : List Char, ∃ y', (Line.ofChars (x ++ c :: y)).text.toList = x ++ c :: y' := by
  intro y
  induction y using List.reverseRecOn with
  | nil =>
    refine ⟨[], ?_⟩
    rw [Line.ofChars_text, List.rdropWhile_concat_neg _ _ _ (by simpa using hc)]
  | append_singleton y a ih =>
    obtain ⟨y', hy'⟩ := ih
    rw [Line.ofChars_text] at hy' ⊢
    rw [← List.cons_append, ← List.append_assoc, List.rdropWhile_concat]
    split
    · exact ⟨y', hy'⟩
    · exact ⟨y ++ [a], by simp⟩

/-- A line's text is a prefix of its characters. -/
theorem Line.ofChars_text_prefix (cs : List Char) : (Line.ofChars cs).text.toList <+: cs := by
  rw [Line.ofChars_text]
  exact List.rdropWhile_prefix _ _

/-- A line's ending is a suffix of its characters. -/
theorem Line.ofChars_ending_suffix (cs : List Char) : (Line.ofChars cs).ending.toList <:+ cs := by
  rw [Line.ofChars_ending]
  exact List.rtakeWhile_suffix _ _

/-- A line feed put after a line's characters joins its ending. -/
theorem Line.ofChars_text_snoc_newline (cs : List Char) :
    (Line.ofChars (cs ++ ['\n'])).text = (Line.ofChars cs).text := by
  apply String.toList_inj.mp
  rw [Line.ofChars_text, Line.ofChars_text, List.rdropWhile_concat_pos _ _ _ (by simp)]

theorem Line.ofChars_ending_snoc_newline (cs : List Char) :
    (Line.ofChars (cs ++ ['\n'])).ending.toList = (Line.ofChars cs).ending.toList ++ ['\n'] := by
  rw [Line.ofChars_ending, Line.ofChars_ending, List.rtakeWhile_concat_pos _ _ _ (by simp)]

/-! ## Pieces -/

/-- The pieces a text is cut into after its line feeds: each piece but the last ends with its
only line feed, and a last piece without one is not empty. -/
inductive LineChunks : List (List Char) → Prop
  | nil : LineChunks []
  | last {t : List Char} : t ≠ [] → '\n' ∉ t → LineChunks [t]
  | cons {t : List Char} {cs : List (List Char)} : '\n' ∉ t → LineChunks cs →
      LineChunks ((t ++ ['\n']) :: cs)

/-- The line of a piece has no line feed in its text. -/
theorem LineChunks.text_of_mem {cs : List (List Char)} (h : LineChunks cs) :
    ∀ c ∈ cs, '\n' ∉ (Line.ofChars c).text.toList := by
  induction h with
  | nil => simp
  | last _ hnl =>
    intro c hc
    rw [List.mem_singleton] at hc
    subst hc
    exact fun h => hnl ((Line.ofChars_text_prefix _).subset h)
  | cons hnl _ ih =>
    intro c hc
    rcases List.mem_cons.mp hc with rfl | hc
    · rw [Line.ofChars_text_snoc_newline]
      exact fun h => hnl ((Line.ofChars_text_prefix _).subset h)
    · exact ih c hc

/-- Characters without a line feed join the line begun so far. -/
theorem lines_go_plain :
    ∀ (t rest cur : List Char), '\n' ∉ t →
      lines.go (t ++ rest) cur = lines.go rest (t.reverse ++ cur)
  | [], rest, cur, _ => rfl
  | c :: t, rest, cur, h => by
    have hc : c ≠ '\n' := fun hc => h (hc ▸ List.mem_cons_self)
    rw [List.cons_append, lines.go, if_neg hc,
      lines_go_plain t rest (c :: cur) (fun ht => h (List.mem_cons_of_mem _ ht))]
    simp

/-- Cutting the pieces of a text apart gives one line per piece. -/
theorem lines_go_chunks {cs : List (List Char)} (h : LineChunks cs) :
    lines.go cs.flatten [] = cs.map Line.ofChars := by
  induction h with
  | nil => rfl
  | last hne hnl =>
    rename_i t
    rw [List.flatten_singleton, ← List.append_nil t, lines_go_plain _ _ _ hnl, List.append_nil]
    obtain ⟨c, r, hcr⟩ := List.exists_cons_of_ne_nil (List.reverse_ne_nil_iff.mpr hne)
    rw [List.append_nil, hcr, lines.go, ← hcr, List.reverse_reverse, List.map_singleton]
    exact List.cons_ne_nil c r
  | cons hnl _ ih =>
    rename_i t cs
    rw [List.flatten_cons, List.append_assoc, lines_go_plain _ _ _ hnl, List.singleton_append,
      lines.go, if_pos rfl, ih, List.map_cons]
    simp

/-- The pieces of a text, with the line begun so far put in front. -/
theorem lines_go_exists_chunks :
    ∀ (xs cur : List Char), '\n' ∉ cur →
      ∃ cs, LineChunks cs ∧ cs.flatten = cur.reverse ++ xs ∧
        lines.go xs cur = cs.map Line.ofChars
  | [], [], _ => ⟨[], .nil, rfl, rfl⟩
  | [], c :: cur, h =>
    ⟨[(c :: cur).reverse], .last (by simp) (by simpa [and_comm] using h), by simp, rfl⟩
  | x :: xs, cur, h => by
    by_cases hx : x = '\n'
    · subst hx
      obtain ⟨cs, hcs, hflat, hgo⟩ := lines_go_exists_chunks xs [] (by simp)
      refine ⟨(cur.reverse ++ ['\n']) :: cs, .cons (by simpa using h) hcs, ?_, ?_⟩
      · simp [hflat]
      · rw [lines.go, if_pos rfl, hgo]
        simp
    · obtain ⟨cs, hcs, hflat, hgo⟩ :=
        lines_go_exists_chunks xs (x :: cur) (by simp [Ne.symm hx, h])
      refine ⟨cs, hcs, by simp [hflat], ?_⟩
      rw [lines.go, if_neg hx, hgo]

/-- Every text is cut into pieces, one per line. -/
theorem lines_exists_chunks (s : String) :
    ∃ cs, LineChunks cs ∧ cs.flatten = s.toList ∧ lines s = cs.map Line.ofChars := by
  obtain ⟨cs, hcs, hflat, hgo⟩ := lines_go_exists_chunks s.toList [] (by simp)
  exact ⟨cs, hcs, by simpa using hflat, hgo⟩

/-- No line of a text has a line feed in its text. -/
theorem newline_not_mem_text {s : String} {l : Line} (hl : l ∈ lines s) :
    '\n' ∉ l.text.toList := by
  obtain ⟨cs, hcs, -, hlines⟩ := lines_exists_chunks s
  rw [hlines, List.mem_map] at hl
  obtain ⟨c, hc, rfl⟩ := hl
  exact hcs.text_of_mem c hc

/-! ## Joining lines -/

theorem lines_go_full :
    ∀ cs cur : List Char,
      String.join ((lines.go cs cur).map Line.full) = String.ofList (cur.reverse ++ cs)
  | [], [] => rfl
  | [], c :: cur => by
    simp only [lines.go, List.map_cons, List.map_nil, String.join_cons, String.join_nil,
      String.append_empty, Line.full_ofChars, List.append_nil]
  | c :: cs, cur => by
    rw [lines.go]
    split
    · rw [List.map_cons, String.join_cons, Line.full_ofChars, lines_go_full cs [],
        ← String.ofList_append]
      simp
    · rw [lines_go_full cs (c :: cur)]
      simp

/-- **Lines join to their text.**  Each line keeps its ending, so the lines of a text, joined,
are the text. -/
theorem join_lines (s : String) : String.join ((lines s).map Line.full) = s := by
  rw [lines, lines_go_full, List.reverse_nil, List.nil_append, String.ofList_toList]

/-! ## Trimming -/

/-- Trimming keeps a text that neither starts nor ends with a blank. -/
theorem trim_ofList {cs : List Char} (hfirst : ∀ c ∈ cs.head?, isBlank c = false)
    (hlast : ∀ c ∈ cs.getLast?, isBlank c = false) : trim (String.ofList cs) = String.ofList cs := by
  unfold trim trimStart trimEnd
  simp only [String.toList_ofList]
  rw [List.dropWhile_of_head hfirst, List.dropWhile_of_head (by rwa [List.head?_reverse]),
    List.reverse_reverse]

end Text

end Covenant
