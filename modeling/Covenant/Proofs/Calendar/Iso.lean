import Covenant.Calendar.Format
import Covenant.Proofs.Text.Lines
/-!
# ISO dates written and read back

A date has two ISO spellings. `Date.iso`, which the date helpers return, writes a year in
`0..9999` with four digits and any other year with its sign and at least four digits. The
format `YYYY-MM-DD` writes the year with `padded 4`: four characters in all, a minus sign
included, and no sign at all for a year past `9999`.

Main statements:

* `iso_dates_read_back`: for every date of the calendar, reading `Date.iso` gives the date
  back; the format `YYYY-MM-DD` agrees with `Date.iso` exactly when the year is at most
  `9999` and not in `-999..-1`; and its text reads back to the date exactly when the year is
  at most `9999`.
* `iso_format_drops_year_sign`: adding 7976 years to 2024-01-01 gives a date that the helpers
  write `+10000-01-01`, that the format writes `10000-01-01`, and whose formatted text is no
  date at all.

Reading a year with no sign takes at most four digits, so the fifth digit of a large year
stands where the separator should: that is why a formatted year past `9999` never reads back.
-/

namespace Covenant.Calendar

/-! ## Dates of the calendar -/

/-- A date that exists: its year in range and its day within its month. A day within its
month puts the month in `1..12`, where `monthLength` is not zero. -/
def Date.Valid (dt : Date) : Prop :=
  minYear ≤ dt.year ∧ dt.year ≤ maxYear ∧ 1 ≤ dt.day ∧ dt.day ≤ monthLength dt.year dt.month

instance (dt : Date) : Decidable dt.Valid :=
  inferInstanceAs (Decidable (_ ∧ _ ∧ _ ∧ _))

theorem ofParts?_eq_some_iff {y : Int} {m d : Nat} {dt : Date} :
    Date.ofParts? y m d = some dt ↔ dt = ⟨y, m, d⟩ ∧ dt.Valid := by
  unfold Date.ofParts?
  by_cases h : minYear ≤ y ∧ y ≤ maxYear ∧ 1 ≤ d ∧ d ≤ monthLength y m
  · rw [if_pos h, Option.some.injEq]
    constructor
    · rintro rfl
      exact ⟨rfl, h⟩
    · rintro ⟨rfl, -⟩
      rfl
  · rw [if_neg h]
    constructor
    · intro hn
      cases hn
    · rintro ⟨rfl, hv⟩
      exact absurd hv h

theorem Date.Valid.ofParts? {dt : Date} (h : dt.Valid) :
    Date.ofParts? dt.year dt.month dt.day = some dt :=
  ofParts?_eq_some_iff.mpr ⟨rfl, h⟩

theorem monthLength_le (y : Int) (m : Nat) : monthLength y m ≤ 31 := by
  unfold monthLength
  split
  all_goals first | omega | (split <;> omega)

theorem monthLength_pos {y : Int} {m : Nat} (h : 0 < monthLength y m) : 1 ≤ m ∧ m ≤ 12 := by
  unfold monthLength at h
  split at h
  all_goals omega

theorem Date.Valid.month_le {dt : Date} (h : dt.Valid) : dt.month < 100 :=
  Nat.lt_of_le_of_lt (monthLength_pos (Nat.lt_of_lt_of_le h.2.2.1 h.2.2.2)).2 (by decide)

theorem Date.Valid.day_le {dt : Date} (h : dt.Valid) : dt.day < 100 :=
  Nat.lt_of_le_of_lt (Nat.le_trans h.2.2.2 (monthLength_le _ _)) (by decide)

/-! ## Zero-padded numbers -/

/-- The decimal digits of `n`, after as many zeros as make `w` digits in all. -/
def zeroPadded (w n : Nat) : List Char :=
  List.replicate (w - (Nat.toDigits 10 n).length) '0' ++ Nat.toDigits 10 n

theorem isDigit_of_mem_zeroPadded {w n : Nat} {c : Char} (h : c ∈ zeroPadded w n) :
    c.isDigit = true := by
  rcases List.mem_append.mp h with h | h
  · rw [List.eq_of_mem_replicate h]
    rfl
  · exact Nat.isDigit_of_mem_toDigits (by decide) (by decide) h

theorem ofDigitChars_zeroPadded (w n : Nat) : Nat.ofDigitChars 10 (zeroPadded w n) 0 = n := by
  rw [zeroPadded, Nat.ofDigitChars_append, Nat.ofDigitChars_replicate_zero, Nat.mul_zero,
    Nat.ofDigitChars_ten_toDigits]

theorem length_zeroPadded (w n : Nat) :
    (zeroPadded w n).length = w - (Nat.toDigits 10 n).length + (Nat.toDigits 10 n).length := by
  rw [zeroPadded, List.length_append, List.length_replicate]

theorem length_toDigits_le {n k : Nat} (hk : 0 < k) (h : n < Nat.pow 10 k) :
    (Nat.toDigits 10 n).length ≤ k :=
  (Nat.length_toDigits_le_iff (by decide) hk).mpr h

theorem lt_of_length_toDigits_le {n k : Nat} (hk : 0 < k) (h : (Nat.toDigits 10 n).length ≤ k) :
    n < Nat.pow 10 k :=
  (Nat.length_toDigits_le_iff (by decide) hk).mp h

theorem length_zeroPadded_of_lt {w n : Nat} (hw : 0 < w) (h : n < Nat.pow 10 w) :
    (zeroPadded w n).length = w := by
  have := length_toDigits_le hw h
  rw [length_zeroPadded]
  omega

theorem ne_nil_zeroPadded (w n : Nat) : zeroPadded w n ≠ [] := by
  rw [zeroPadded]
  exact List.append_ne_nil_of_right_ne_nil _ Nat.toDigits_ne_nil

theorem toList_padded_natCast (w n : Nat) : (padded w n).toList = zeroPadded w n := by
  have hn : ¬ (n : Int) < 0 := by omega
  simp only [padded, hn, if_false, Int.natAbs_natCast, String.toList_append, String.toList_ofList,
    Nat.toString_eq_repr, Nat.toList_repr, ← String.length_toList]
  rfl

theorem toList_padded_neg (w : Nat) {n : Int} (h : n < 0) :
    (padded w n).toList = '-' :: zeroPadded (w - 1) n.natAbs := by
  simp only [padded, h, if_true, String.toList_append, String.toList_ofList, Nat.toString_eq_repr,
    Nat.toList_repr, ← String.length_toList]
  rfl

/-! ## Reading digits -/

theorem foldl_digits (cs : List Char) :
    ∀ init, cs.foldl (fun a c => a * 10 + (c.toNat - 48)) init = Nat.ofDigitChars 10 cs init := by
  induction cs with
  | nil => intro init; rfl
  | cons c cs ih =>
    intro init
    rw [List.foldl_cons, ih, Nat.ofDigitChars_cons, Nat.mul_comm]
    rfl

theorem isBlank_of_isDigit {c : Char} (h : c.isDigit = true) : Text.isBlank c = false := by
  have hc : 48 ≤ c.toNat ∧ c.toNat ≤ 57 := by
    simp only [Char.isDigit, Bool.and_eq_true, decide_eq_true_eq, UInt32.le_iff_toNat_le] at h
    exact ⟨h.1, h.2⟩
  unfold Text.isBlank
  simp only [Bool.or_eq_false_iff, Bool.and_eq_false_iff, decide_eq_false_iff_not, beq_eq_false_iff_ne]
  omega

/-- A run of digits, cut at `hi` or by what follows it, is read whole. -/
theorem readDigits_append (lo hi : Nat) {ds : List Char} (rest : List Char)
    (hd : ∀ c ∈ ds, c.isDigit = true)
    (hlo : lo ≤ ds.length) (hhi : ds.length ≤ hi)
    (hstop : ds.length = hi ∨ ∀ c ∈ rest.head?, c.isDigit = false) :
    readDigits lo hi (ds ++ rest) = some (Nat.ofDigitChars 10 ds 0, rest) := by
  have hrun : ((ds ++ rest).take hi).takeWhile Char.isDigit = ds := by
    rw [List.take_append, List.take_of_length_le hhi, List.takeWhile_append_of_pos hd]
    rcases hstop with hlen | hhead
    · rw [hlen, Nat.sub_self, List.take_zero, List.takeWhile_nil, List.append_nil]
    · -- what follows the run starts with a character that is not a digit
      cases rest with
      | nil => simp
      | cons c r =>
        cases hk : hi - ds.length with
        | zero => simp
        | succ k => simp [hhead c rfl]
  unfold readDigits
  simp only [hrun, List.drop_left, foldl_digits]
  rw [if_neg (by omega)]

theorem dropWhile_blank_of_digit {cs : List Char} (h : ∀ c ∈ cs.head?, c.isDigit = true) :
    cs.dropWhile Text.isBlank = cs :=
  List.dropWhile_of_head fun c hc => isBlank_of_isDigit (h c hc)

theorem head_zeroPadded_append {w n : Nat} {r : List Char} :
    ∀ c ∈ (zeroPadded w n ++ r).head?, c.isDigit = true := by
  intro c hc
  obtain ⟨d, ds, hd⟩ := List.exists_cons_of_ne_nil (ne_nil_zeroPadded w n)
  rw [hd, List.cons_append, List.head?_cons, Option.mem_some_iff] at hc
  subst hc
  exact isDigit_of_mem_zeroPadded (hd ▸ List.mem_cons_self)

/-- A year of one to four bare digits. -/
theorem readYear_digits {ds rest : List Char} (hd : ∀ c ∈ ds, c.isDigit = true)
    (hne : ds ≠ []) (hle : ds.length ≤ 4)
    (hstop : ds.length = 4 ∨ ∀ c ∈ rest.head?, c.isDigit = false) :
    readYear (ds ++ rest) = some (((Nat.ofDigitChars 10 ds 0 : Nat) : Int), rest) := by
  obtain ⟨c, cs, rfl⟩ := List.exists_cons_of_ne_nil hne
  have hc : c.isDigit = true := hd c List.mem_cons_self
  have hminus : c ≠ '-' := by
    rintro rfl
    exact absurd hc (by decide)
  have hplus : c ≠ '+' := by
    rintro rfl
    exact absurd hc (by decide)
  have hread := readDigits_append 1 4 rest hd (by simp) hle hstop
  rw [List.cons_append] at hread ⊢
  simp [readYear, isBlank_of_isDigit hc, hminus, hplus, hread]

/-- A year after a minus sign, of any number of digits. -/
theorem readYear_minus {ds rest : List Char} (hd : ∀ c ∈ ds, c.isDigit = true) (hne : ds ≠ [])
    (hstop : ∀ c ∈ rest.head?, c.isDigit = false) :
    readYear ('-' :: (ds ++ rest)) = some (-((Nat.ofDigitChars 10 ds 0 : Nat) : Int), rest) := by
  have hlo : 1 ≤ ds.length := List.length_pos_iff.mpr hne
  have hread := readDigits_append 1 (ds ++ rest).length rest hd hlo
    (by simp) (.inr hstop)
  rw [List.length_append] at hread
  have hsign : Text.isBlank '-' = false := by decide
  simp [readYear, hsign, hread]

/-- A year after a plus sign, of any number of digits. -/
theorem readYear_plus {ds rest : List Char} (hd : ∀ c ∈ ds, c.isDigit = true) (hne : ds ≠ [])
    (hstop : ∀ c ∈ rest.head?, c.isDigit = false) :
    readYear ('+' :: (ds ++ rest)) = some (((Nat.ofDigitChars 10 ds 0 : Nat) : Int), rest) := by
  have hlo : 1 ≤ ds.length := List.length_pos_iff.mpr hne
  have hread := readDigits_append 1 (ds ++ rest).length rest hd hlo
    (by simp) (.inr hstop)
  rw [List.length_append] at hread
  have hsign : Text.isBlank '+' = false := by decide
  simp [readYear, hsign, hread]

/-! ## Reading a whole date -/

/-- The characters of a date written with the year text `ys`: the year, then month and day with
two digits each, a dash before each. -/
def dateChars (ys : List Char) (dt : Date) : List Char :=
  ys ++ '-' :: (zeroPadded 2 dt.month ++ '-' :: zeroPadded 2 dt.day)

theorem readWith_dateChars {ys : List Char} {dt : Date} (hv : dt.Valid)
    (hy : ∀ rest : List Char, (∀ c ∈ rest.head?, c = '-') →
      readYear (ys ++ rest) = some (dt.year, rest)) :
    readWith '-' (dateChars ys dt) = some dt := by
  have hmonth := readDigits_append 1 2 ('-' :: zeroPadded 2 dt.day)
    (fun c h => isDigit_of_mem_zeroPadded h)
    (by rw [length_zeroPadded_of_lt (by decide) hv.month_le]; decide)
    (Nat.le_of_eq (length_zeroPadded_of_lt (by decide) hv.month_le))
    (.inl (length_zeroPadded_of_lt (by decide) hv.month_le))
  have hday := readDigits_append 1 2 [] (fun c h => isDigit_of_mem_zeroPadded h)
    (by rw [length_zeroPadded_of_lt (by decide) hv.day_le]; decide)
    (Nat.le_of_eq (length_zeroPadded_of_lt (by decide) hv.day_le))
    (.inl (length_zeroPadded_of_lt (by decide) hv.day_le))
  rw [List.append_nil] at hday
  have hdayHead := head_zeroPadded_append (w := 2) (n := dt.day) (r := [])
  rw [List.append_nil] at hdayHead
  unfold dateChars readWith
  simp [hy ('-' :: (zeroPadded 2 dt.month ++ '-' :: zeroPadded 2 dt.day)) (by simp),
    dropWhile_blank_of_digit head_zeroPadded_append, hmonth, dropWhile_blank_of_digit hdayHead, hday,
    ofDigitChars_zeroPadded, hv.ofParts?]

/-- A text that reads as a date with dashes, with no blank at either end, is that date. -/
theorem read?_ofList {cs : List Char} {dt : Date} (hne : cs ≠ [])
    (hfirst : ∀ c ∈ cs.head?, Text.isBlank c = false)
    (hlast : ∀ c ∈ cs.getLast?, Text.isBlank c = false) (h : readWith '-' cs = some dt) :
    Date.read? (String.ofList cs) = some dt := by
  have hempty : cs.isEmpty = false := List.isEmpty_eq_false_iff.mpr hne
  unfold Date.read?
  simp only [Text.trim_ofList hfirst hlast, String.toList_ofList, hempty, h]
  rfl

theorem getLast?_dateChars {ys : List Char} {dt : Date} :
    ∀ c ∈ (dateChars ys dt).getLast?, c.isDigit = true := by
  intro c hc
  have hday : (zeroPadded 2 dt.day).getLast?.isSome := List.getLast?_isSome.mpr (ne_nil_zeroPadded 2 dt.day)
  obtain ⟨x, hx⟩ := Option.isSome_iff_exists.mp hday
  have hlast : (dateChars ys dt).getLast? = some x := by
    have hsplit : dateChars ys dt =
        (ys ++ '-' :: (zeroPadded 2 dt.month ++ ['-'])) ++ zeroPadded 2 dt.day := by
      simp [dateChars]
    rw [hsplit, List.getLast?_append, hx, Option.some_or]
  rw [hlast, Option.mem_some_iff] at hc
  subst hc
  exact isDigit_of_mem_zeroPadded (List.mem_of_getLast? hx)

/-! ## The two spellings of a year -/

/-- The year as `Date.iso` writes it. -/
def isoYearChars (y : Int) : List Char :=
  if 0 ≤ y ∧ y ≤ 9999 then zeroPadded 4 y.toNat
  else (if y < 0 then '-' else '+') :: zeroPadded 4 y.natAbs

/-- The year as the token `YYYY` writes it: four characters in all, a minus sign included. -/
def formatYearChars (y : Int) : List Char :=
  if y < 0 then '-' :: zeroPadded 3 y.natAbs else zeroPadded 4 y.toNat

theorem toList_padded_of_nonneg (w : Nat) {n : Int} (h : 0 ≤ n) :
    (padded w n).toList = zeroPadded w n.toNat := by
  obtain ⟨k, rfl⟩ := Int.eq_ofNat_of_zero_le h
  rw [toList_padded_natCast, Int.toNat_natCast]

theorem toList_iso (dt : Date) : dt.iso.toList = dateChars (isoYearChars dt.year) dt := by
  have hyear : (if 0 ≤ dt.year ∧ dt.year ≤ 9999 then padded 4 dt.year
      else (if dt.year < 0 then "-" else "+") ++ padded 4 (dt.year.natAbs : Int)).toList =
      isoYearChars dt.year := by
    unfold isoYearChars
    by_cases hin : 0 ≤ dt.year ∧ dt.year ≤ 9999
    · rw [if_pos hin, if_pos hin, toList_padded_of_nonneg 4 hin.1]
    · rw [if_neg hin, if_neg hin, String.toList_append, toList_padded_natCast]
      by_cases hneg : dt.year < 0
      · rw [if_pos hneg, if_pos hneg]
        rfl
      · rw [if_neg hneg, if_neg hneg]
        rfl
  unfold Date.iso
  simp only [String.toList_append, hyear, toList_padded_natCast]
  simp [dateChars]

theorem pieces_isoFormat :
    pieces? isoFormat = some [.token .year4, .text "-", .token .month2, .text "-", .token .day2] := by
  decide

theorem toList_format_iso (dt : Date) (l : Locale) :
    (dt.format isoFormat l).toList = dateChars (formatYearChars dt.year) dt := by
  have hpreset : preset? isoFormat = none := by decide
  have hyear : (padded 4 dt.year).toList = formatYearChars dt.year := by
    unfold formatYearChars
    by_cases hneg : dt.year < 0
    · rw [if_pos hneg, toList_padded_neg 4 hneg]
    · rw [if_neg hneg, toList_padded_of_nonneg 4 (by omega)]
  simp [Date.format, hpreset, pieces_isoFormat, Token.render, hyear, toList_padded_natCast,
    dateChars]

/-- Both spellings of a year that the format writes in full read back to it. -/
theorem readYear_isoYearChars (y : Int) {rest : List Char} (hrest : ∀ c ∈ rest.head?, c = '-') :
    readYear (isoYearChars y ++ rest) = some (y, rest) := by
  have hstop : ∀ c ∈ rest.head?, c.isDigit = false := by
    intro c hc
    rw [hrest c hc]
    rfl
  unfold isoYearChars
  by_cases hin : 0 ≤ y ∧ y ≤ 9999
  · rw [if_pos hin]
    have hlen := length_zeroPadded_of_lt (n := y.toNat) (w := 4) (by decide)
      (show y.toNat < 10000 by omega)
    rw [readYear_digits (fun c h => isDigit_of_mem_zeroPadded h) (ne_nil_zeroPadded _ _)
      (Nat.le_of_eq hlen) (.inl hlen), ofDigitChars_zeroPadded]
    congr 2
    omega
  · rw [if_neg hin]
    by_cases hneg : y < 0
    · rw [if_pos hneg, List.cons_append, readYear_minus (fun c h => isDigit_of_mem_zeroPadded h)
        (ne_nil_zeroPadded _ _) hstop, ofDigitChars_zeroPadded]
      congr 2
      omega
    · rw [if_neg hneg, List.cons_append, readYear_plus (fun c h => isDigit_of_mem_zeroPadded h)
        (ne_nil_zeroPadded _ _) hstop, ofDigitChars_zeroPadded]
      congr 2
      omega

theorem readYear_formatYearChars {y : Int} (hy : y ≤ 9999) {rest : List Char}
    (hrest : ∀ c ∈ rest.head?, c = '-') :
    readYear (formatYearChars y ++ rest) = some (y, rest) := by
  unfold formatYearChars
  by_cases hneg : y < 0
  · have hstop : ∀ c ∈ rest.head?, c.isDigit = false := by
      intro c hc
      rw [hrest c hc]
      rfl
    rw [if_pos hneg, List.cons_append, readYear_minus (fun c h => isDigit_of_mem_zeroPadded h)
      (ne_nil_zeroPadded _ _) hstop, ofDigitChars_zeroPadded]
    congr 2
    omega
  · have h := readYear_isoYearChars y hrest
    unfold isoYearChars at h
    rw [if_neg hneg]
    rwa [if_pos ⟨by omega, hy⟩] at h

theorem blank_head_zeroPadded {w n : Nat} : ∀ c ∈ (zeroPadded w n).head?, Text.isBlank c = false := by
  intro c hc
  have hdigit := head_zeroPadded_append (w := w) (n := n) (r := [])
  rw [List.append_nil] at hdigit
  exact isBlank_of_isDigit (hdigit c hc)

theorem blank_head_isoYearChars (y : Int) : ∀ c ∈ (isoYearChars y).head?, Text.isBlank c = false := by
  unfold isoYearChars
  by_cases hin : 0 ≤ y ∧ y ≤ 9999
  · rw [if_pos hin]
    exact blank_head_zeroPadded
  · rw [if_neg hin, List.head?_cons]
    intro c hc
    rw [Option.mem_some_iff] at hc
    subst hc
    by_cases hneg : y < 0
    · rw [if_pos hneg]
      decide
    · rw [if_neg hneg]
      decide

theorem blank_head_formatYearChars (y : Int) :
    ∀ c ∈ (formatYearChars y).head?, Text.isBlank c = false := by
  unfold formatYearChars
  by_cases hneg : y < 0
  · rw [if_pos hneg, List.head?_cons]
    intro c hc
    rw [Option.mem_some_iff] at hc
    subst hc
    decide
  · rw [if_neg hneg]
    exact blank_head_zeroPadded

/-- A date written with a year text that reads back to its year, and no blank in front, reads
back to the date. -/
theorem read?_dateChars {ys : List Char} {dt : Date} (hv : dt.Valid) (hne : ys ≠ [])
    (hfirst : ∀ c ∈ ys.head?, Text.isBlank c = false)
    (hy : ∀ rest : List Char, (∀ c ∈ rest.head?, c = '-') →
      readYear (ys ++ rest) = some (dt.year, rest)) :
    Date.read? (String.ofList (dateChars ys dt)) = some dt := by
  obtain ⟨c, cs, rfl⟩ := List.exists_cons_of_ne_nil hne
  refine read?_ofList (List.cons_ne_nil _ _) ?_ ?_ (readWith_dateChars hv hy)
  · exact hfirst
  · exact fun c hc => isBlank_of_isDigit (getLast?_dateChars c hc)

/-! ## A year past 9999 without its sign -/

theorem bytePrefix?_go_eq_take : ∀ (k : Nat) (cs acc p : List Char),
    bytePrefix?.go k cs acc = some p → ∃ j, p = acc.reverse ++ cs.take j
  | 0, cs, acc, p, h => ⟨0, by simp [bytePrefix?.go] at h; simp [h]⟩
  | k + 1, [], acc, p, h => by simp [bytePrefix?.go] at h
  | k + 1, c :: cs, acc, p, h => by
    unfold bytePrefix?.go at h
    by_cases hw : c.utf8Size ≤ k + 1
    · simp only [hw, if_true] at h
      obtain ⟨j, rfl⟩ := bytePrefix?_go_eq_take _ cs (c :: acc) p h
      exact ⟨j + 1, by simp⟩
    · simp only [hw, if_false] at h
      cases h

/-- The prefix that a timestamp is read by is a prefix of the text. -/
theorem bytePrefix?_eq_take {n : Nat} {cs p : List Char} (h : bytePrefix? n cs = some p) :
    ∃ j, p = cs.take j := by
  obtain ⟨j, hj⟩ := bytePrefix?_go_eq_take n cs [] p h
  exact ⟨j, by simpa using hj⟩

/-- A text whose first five characters are digits is no date with either separator: a year
without a sign takes at most four digits, and the fifth stands where the separator should. -/
theorem readWith_of_five_digits {sep : Char} (hsep : sep.isDigit = false) {cs : List Char}
    (h : ∀ c ∈ cs.take 5, c.isDigit = true) : readWith sep cs = none := by
  by_cases hnil : cs = []
  · subst hnil
    rfl
  have hfour : ∀ c ∈ cs.take 4, c.isDigit = true :=
    fun c hc => h c (List.take_subset_take_left cs (by decide) hc)
  have hstop : (cs.take 4).length = 4 ∨ ∀ c ∈ (cs.drop 4).head?, c.isDigit = false := by
    by_cases hlen : 4 ≤ cs.length
    · exact .inl (by simp [hlen])
    · exact .inr (by simp [List.drop_of_length_le (Nat.le_of_not_le hlen)])
  have hyear := readYear_digits hfour (by simpa using hnil) (List.length_take_le 4 cs) hstop
  rw [List.take_append_drop] at hyear
  unfold readWith
  cases hrest : cs.drop 4 with
  | nil =>
    rw [hrest] at hyear
    simp [hyear]
  | cons c r =>
    rw [hrest] at hyear
    have hc : c.isDigit = true := h c (by
      rw [show 5 = 4 + 1 from rfl, List.take_add, hrest]
      simp)
    have hne : c ≠ sep := by
      rintro rfl
      rw [hc] at hsep
      cases hsep
    simp [hyear, hne]

theorem read?_of_five_digits {cs : List Char} (hfirst : ∀ c ∈ cs.head?, Text.isBlank c = false)
    (hlast : ∀ c ∈ cs.getLast?, Text.isBlank c = false) (h : ∀ c ∈ cs.take 5, c.isDigit = true) :
    Date.read? (String.ofList cs) = none := by
  have hdash : readWith '-' cs = none := readWith_of_five_digits (by decide) h
  have hslash : readWith '/' cs = none := readWith_of_five_digits (by decide) h
  unfold Date.read?
  simp only [Text.trim_ofList hfirst hlast, String.toList_ofList, hdash, hslash]
  by_cases hempty : cs.isEmpty = true
  · rw [if_pos hempty]
  · rw [if_neg hempty]
    -- the first ten bytes are a prefix, and their first five characters are those of the text
    cases hb : bytePrefix? 10 cs with
    | none => rfl
    | some p =>
      obtain ⟨j, rfl⟩ := bytePrefix?_eq_take hb
      refine readWith_of_five_digits (by decide) fun c hc => h c ?_
      rw [List.take_take] at hc
      exact List.take_subset_take_left cs (Nat.min_le_left 5 j) hc

/-! ## The two spellings compared -/

theorem zeroPadded_three_eq_four_iff (k : Nat) : zeroPadded 3 k = zeroPadded 4 k ↔ 1000 ≤ k := by
  constructor
  · intro h
    have hlen := congrArg List.length h
    rw [length_zeroPadded, length_zeroPadded] at hlen
    refine Nat.le_of_not_lt fun hk => ?_
    have := length_toDigits_le (n := k) (k := 3) (by decide) hk
    omega
  · intro hk
    have hlong : ¬ (Nat.toDigits 10 k).length ≤ 3 := fun hle => by
      have : k < 1000 := lt_of_length_toDigits_le (by decide) hle
      omega
    unfold zeroPadded
    rw [show 3 - (Nat.toDigits 10 k).length = 0 by omega,
      show 4 - (Nat.toDigits 10 k).length = 0 by omega]

/-- The token `YYYY` writes a year as `Date.iso` does unless the year is past `9999` (no sign)
or in `-999..-1` (three digits after the sign, not four). -/
theorem formatYearChars_eq_isoYearChars_iff (y : Int) :
    formatYearChars y = isoYearChars y ↔ y ≤ 9999 ∧ (0 ≤ y ∨ y ≤ -1000) := by
  unfold formatYearChars isoYearChars
  by_cases hneg : y < 0
  · rw [if_pos hneg, if_neg (by omega), if_pos hneg]
    simp only [List.cons.injEq, true_and, zeroPadded_three_eq_four_iff]
    omega
  · by_cases hsmall : y ≤ 9999
    · rw [if_neg hneg, if_pos ⟨by omega, hsmall⟩]
      simp only [true_iff]
      omega
    · rw [if_neg hneg, if_neg (by omega), if_neg hneg, show y.natAbs = y.toNat by omega]
      constructor
      · intro h
        have hlen := congrArg List.length h
        rw [List.length_cons] at hlen
        omega
      · intro h
        omega

theorem read?_iso {dt : Date} (hv : dt.Valid) : Date.read? dt.iso = some dt := by
  rw [← String.ofList_toList (s := dt.iso), toList_iso]
  exact read?_dateChars hv (by unfold isoYearChars; split <;> simp [ne_nil_zeroPadded])
    (blank_head_isoYearChars _) fun rest hr => readYear_isoYearChars dt.year hr

theorem format_iso_eq_iso_iff (dt : Date) (l : Locale) :
    dt.format isoFormat l = dt.iso ↔ dt.year ≤ 9999 ∧ (0 ≤ dt.year ∨ dt.year ≤ -1000) := by
  rw [← String.toList_inj, toList_format_iso, toList_iso, dateChars, dateChars, List.append_left_inj,
    formatYearChars_eq_isoYearChars_iff]

theorem read?_format_iso {dt : Date} (hv : dt.Valid) (l : Locale) :
    Date.read? (dt.format isoFormat l) = if dt.year ≤ 9999 then some dt else none := by
  rw [← String.ofList_toList (s := dt.format isoFormat l), toList_format_iso]
  by_cases hy : dt.year ≤ 9999
  · rw [if_pos hy]
    exact read?_dateChars hv (by unfold formatYearChars; split <;> simp [ne_nil_zeroPadded])
      (blank_head_formatYearChars _) fun rest hr => readYear_formatYearChars hy hr
  · rw [if_neg hy]
    -- a year past 9999 has five digits or more, and no sign before them
    have hlong : 5 ≤ (Nat.toDigits 10 dt.year.toNat).length := by
      refine Nat.lt_of_not_le fun hshort => ?_
      have : dt.year.toNat < 10000 := lt_of_length_toDigits_le (k := 4) (by decide) hshort
      omega
    have hyear : formatYearChars dt.year = zeroPadded 4 dt.year.toNat := by
      rw [formatYearChars, if_neg (by omega)]
    have hlen : 5 ≤ (zeroPadded 4 dt.year.toNat).length := by
      rw [length_zeroPadded]
      omega
    refine read?_of_five_digits ?_ (fun c hc => isBlank_of_isDigit (getLast?_dateChars c hc)) ?_
    · rw [dateChars, hyear]
      exact fun c hc => isBlank_of_isDigit (head_zeroPadded_append c hc)
    · intro c hc
      rw [dateChars, hyear, List.take_append_of_le_length hlen] at hc
      exact isDigit_of_mem_zeroPadded (List.mem_of_mem_take hc)

/-- For every date of the calendar, reading its ISO text gives it back; the format `YYYY-MM-DD`
writes that same text exactly when the year is at most `9999` and not in `-999..-1`; and the
formatted text reads back to the date exactly when the year is at most `9999`. -/
theorem iso_dates_read_back (dt : Date) (hv : dt.Valid) (l : Locale) :
    Date.read? dt.iso = some dt ∧
      (dt.format isoFormat l = dt.iso ↔ dt.year ≤ 9999 ∧ (0 ≤ dt.year ∨ dt.year ≤ -1000)) ∧
      Date.read? (dt.format isoFormat l) = if dt.year ≤ 9999 then some dt else none :=
  ⟨read?_iso hv, format_iso_eq_iso_iff dt l, read?_format_iso hv l⟩

theorem iso_dates_read_back_year_ten_thousand :
    Date.Valid ⟨10000, 1, 1⟩ ∧
      Date.read? (Date.iso ⟨10000, 1, 1⟩) = some ⟨10000, 1, 1⟩ ∧
      (Date.format ⟨10000, 1, 1⟩ isoFormat .en = Date.iso ⟨10000, 1, 1⟩ ↔
        (10000 : Int) ≤ 9999 ∧ (0 ≤ (10000 : Int) ∨ (10000 : Int) ≤ -1000)) ∧
      Date.read? (Date.format ⟨10000, 1, 1⟩ isoFormat .en) =
        if (10000 : Int) ≤ 9999 then some ⟨10000, 1, 1⟩ else none :=
  ⟨by decide, iso_dates_read_back ⟨10000, 1, 1⟩ (by decide) .en⟩

/-- Adding 7976 years to 2024-01-01 gives a date that the helpers write `+10000-01-01`, that the
format `YYYY-MM-DD` writes `10000-01-01`, and whose formatted text is no date. -/
theorem iso_format_drops_year_sign :
    Date.read? "2024-01-01" = some ⟨2024, 1, 1⟩ ∧
      Date.addYears ⟨2024, 1, 1⟩ 7976 = some ⟨10000, 1, 1⟩ ∧
      Date.iso ⟨10000, 1, 1⟩ = "+10000-01-01" ∧
      Date.format ⟨10000, 1, 1⟩ isoFormat .en = "10000-01-01" ∧
      Date.read? "10000-01-01" = none := by
  decide

end Covenant.Calendar
