import Covenant.Proofs.Calendar.Iso
/-!
# Reading a date format

A date format is read from left to right, one step at a time.  At each position, a `[`
with a later `]` is bracketed text up to the first such `]`; otherwise the first spelling
of the token table that starts there is a token, so `MMMM` is taken before `MM` and `Do`
before `D`; otherwise one character joins the plain text read so far.  `scan` is that
reading, with the three kinds of part kept apart (`FormatPart`), and `bracketAt?_eq_some_iff`
and `atStart?_eq_some_iff` say what its first two rules take.

`pieces?` reads the same format with a pending literal, an accumulator and a step budget.
The main statement, `date_format_follows_scan`, says that nothing is lost or doubled on the
way: writing the parts of `scan` back (a token as its spelling, bracketed text inside its
brackets) gives the format; plain parts are never empty and never stand side by side; and
`pieces?` returns exactly the parts of `scan`, or `none` when `scan` takes no token, in
which case a date is written in the ISO form `YYYY-MM-DD`.
-/

namespace Covenant.Calendar

/-! ## The first two rules -/

/-- How a token is spelled in a format. -/
def Token.spelling : Token → String
  | .year4 => "YYYY"
  | .year2 => "YY"
  | .monthName => "MMMM"
  | .monthShort => "MMM"
  | .month2 => "MM"
  | .month => "M"
  | .ordinal => "Do"
  | .day2 => "DD"
  | .day => "D"
  | .weekdayName => "dddd"
  | .weekdayShort => "ddd"

/-- The table spells each token by its spelling. -/
theorem spelling_of_mem {sp : String} {t : Token} (h : (sp, t) ∈ Token.spellings) :
    sp = t.spelling := by
  cases t <;> simp [Token.spellings] at h <;> exact h

/-- The token read at the start of a text is given by the first spelling of the table that
starts the text. -/
theorem atStart?_eq_some_iff {cs rest : List Char} {t : Token} :
    Token.atStart? cs = some (t, rest) ↔
      ∃ pre post, Token.spellings = pre ++ (t.spelling, t) :: post ∧
        cs = t.spelling.toList ++ rest ∧ ∀ q ∈ pre, ¬ q.1.toList <+: cs := by
  unfold Token.atStart?
  rw [List.findSome?_eq_some_iff]
  constructor
  · rintro ⟨pre, ⟨sp, t'⟩, post, hsp, hf, hpre⟩
    have hmem : (sp, t') ∈ Token.spellings := by
      rw [hsp]
      exact List.mem_append_right _ List.mem_cons_self
    by_cases hp : sp.toList.isPrefixOf cs = true
    · simp only [hp, if_true, Option.some.injEq, Prod.mk.injEq] at hf
      obtain ⟨rfl, rfl⟩ := hf
      obtain rfl := spelling_of_mem hmem
      obtain ⟨rest', hrest⟩ := List.isPrefixOf_iff_prefix.mp hp
      refine ⟨pre, post, hsp, ?_, ?_⟩
      · subst hrest
        simp [String.length_toList]
      · rintro ⟨a, b⟩ hq hpq
        have hnone := hpre (a, b) hq
        simp only [List.isPrefixOf_iff_prefix.mpr hpq, if_true] at hnone
        cases hnone
    · simp [hp] at hf
  · rintro ⟨pre, post, hsp, hcs, hpre⟩
    refine ⟨pre, (t.spelling, t), post, hsp, ?_, ?_⟩
    · simp [hcs, String.length_toList]
    · rintro ⟨a, b⟩ hq
      have hp : ¬ a.toList.isPrefixOf cs = true := fun h =>
        hpre (a, b) hq (List.isPrefixOf_iff_prefix.mp h)
      simp [hp]

theorem atStart?_eq_some {cs rest : List Char} {t : Token}
    (h : Token.atStart? cs = some (t, rest)) : cs = t.spelling.toList ++ rest := by
  obtain ⟨-, -, -, hcs, -⟩ := atStart?_eq_some_iff.mp h
  exact hcs

example : Token.atStart? "MMMM D".toList = some (.monthName, " D".toList) := by decide

example : Token.atStart? "Do".toList = some (.ordinal, []) := by decide

/-- Bracketed text at the start of a format: a `[` with a later `]` gives the text up to the
first `]`, and what follows that `]`. -/
def bracketAt? : List Char → Option (List Char × List Char)
  | [] => none
  | c :: cs =>
    if c = '[' then
      let inner := cs.takeWhile (· ≠ ']')
      if inner.length < cs.length then some (inner, cs.drop (inner.length + 1)) else none
    else none

theorem bracketAt?_eq_some {cs inner rest : List Char} (h : bracketAt? cs = some (inner, rest)) :
    ']' ∉ inner ∧ cs = '[' :: inner ++ ']' :: rest := by
  match cs, h with
  | c :: cs', h =>
    rw [bracketAt?] at h
    by_cases hc : c = '['
    · subst hc
      rw [if_pos rfl] at h
      have hall : ∀ x ∈ cs'.takeWhile (· ≠ ']'), x ≠ ']' := fun x hx =>
        of_decide_eq_true (List.all_eq_true.1 List.all_takeWhile x hx)
      have hsplit := List.takeWhile_append_dropWhile (p := fun x => decide (x ≠ ']')) (l := cs')
      have hhead := List.head?_dropWhile_not (fun x => decide (x ≠ ']')) cs'
      generalize cs'.takeWhile (· ≠ ']') = i at hall hsplit h
      by_cases hlt : i.length < cs'.length
      · rw [if_pos hlt, Option.some.injEq, Prod.mk.injEq] at h
        obtain ⟨rfl, rfl⟩ := h
        refine ⟨fun hm => hall _ hm rfl, ?_⟩
        cases hd : cs'.dropWhile (· ≠ ']') with
        | nil =>
            rw [hd, List.append_nil] at hsplit
            rw [hsplit] at hlt
            exact absurd hlt (Nat.lt_irrefl _)
        | cons d ds =>
            have hd' : d = ']' := by
              rw [hd, List.head?_cons] at hhead
              simpa using hhead
            rw [hd, hd'] at hsplit
            subst hsplit
            rw [List.drop_length_add_append, List.drop_one, List.tail_cons, List.cons_append]
      · rw [if_neg hlt] at h
        cases h
    · rw [if_neg hc] at h
      cases h

theorem bracketAt?_of_closed {inner rest : List Char} (h : ']' ∉ inner) :
    bracketAt? ('[' :: inner ++ ']' :: rest) = some (inner, rest) := by
  have htake : (inner ++ ']' :: rest).takeWhile (· ≠ ']') = inner := by
    have hinner : ∀ a ∈ inner, decide (a ≠ ']') = true := fun a ha =>
      decide_eq_true fun he => h (he ▸ ha)
    rw [List.takeWhile_append_of_pos hinner]
    simp
  rw [List.cons_append, bracketAt?, if_pos rfl]
  simp only [htake]
  rw [if_pos (by simp), List.drop_length_add_append]
  rfl

/-- Bracketed text is taken up to the first `]`. -/
theorem bracketAt?_eq_some_iff {cs inner rest : List Char} :
    bracketAt? cs = some (inner, rest) ↔ ']' ∉ inner ∧ cs = '[' :: inner ++ ']' :: rest := by
  constructor
  · exact bracketAt?_eq_some
  · rintro ⟨h, rfl⟩
    exact bracketAt?_of_closed h

theorem bracketAt?_length {cs inner rest : List Char} (h : bracketAt? cs = some (inner, rest)) :
    rest.length < cs.length := by
  obtain ⟨-, rfl⟩ := bracketAt?_eq_some h
  simp only [List.length_cons, List.length_append]
  omega

theorem atStart?_length {cs rest : List Char} {t : Token}
    (h : Token.atStart? cs = some (t, rest)) :
    rest.length < cs.length := by
  rw [atStart?_eq_some h, List.length_append]
  cases t <;> simp [Token.spelling]

/-! ## The reading -/

/-- A part of a date format: plain characters, the text of a `[...]`, or a token. -/
inductive FormatPart where
  | plain (cs : List Char)
  | bracketed (cs : List Char)
  | token (t : Token)
deriving DecidableEq

namespace FormatPart

/-- The text of the format that a part was read from. -/
def written : FormatPart → List Char
  | plain cs => cs
  | bracketed cs => '[' :: cs ++ [']']
  | token t => t.spelling.toList

/-- The piece that the part becomes: bracketed and plain text alike become text. -/
def piece : FormatPart → Piece
  | plain cs => .text (String.ofList cs)
  | bracketed cs => .text (String.ofList cs)
  | token t => .token t

/-- What a part writes for a date. -/
def render (dt : Date) (l : Locale) : FormatPart → String
  | plain cs => String.ofList cs
  | bracketed cs => String.ofList cs
  | token t => t.render dt l

/-- Whether the part is a token. -/
def isToken : FormatPart → Bool
  | token _ => true
  | _ => false

/-- Whether the part is plain text. -/
def isPlain : FormatPart → Bool
  | plain _ => true
  | _ => false

end FormatPart

/-- Plain characters put before a list of parts, joining its first part if that is plain. -/
def withPlain (lit : List Char) : List FormatPart → List FormatPart
  | .plain cs :: ps => .plain (lit ++ cs) :: ps
  | ps => if lit = [] then ps else .plain lit :: ps

/-- The reading of a date format, one rule at each position. -/
def scan (cs : List Char) : List FormatPart :=
  match cs with
  | [] => []
  | c :: cs' =>
    match _hb : bracketAt? (c :: cs') with
    | some (inner, rest) => .bracketed inner :: scan rest
    | none =>
      match _ht : Token.atStart? (c :: cs') with
      | some (t, rest) => .token t :: scan rest
      | none => withPlain [c] (scan cs')
termination_by cs.length
decreasing_by
  · exact bracketAt?_length _hb
  · exact atStart?_length _ht
  · simp

theorem scan_nil : scan [] = [] := by
  rw [scan]

theorem scan_bracket {c : Char} {cs inner rest : List Char}
    (h : bracketAt? (c :: cs) = some (inner, rest)) :
    scan (c :: cs) = .bracketed inner :: scan rest := by
  rw [scan]
  split <;> simp_all

theorem scan_token {c : Char} {cs rest : List Char} {t : Token}
    (hb : bracketAt? (c :: cs) = none) (ht : Token.atStart? (c :: cs) = some (t, rest)) :
    scan (c :: cs) = .token t :: scan rest := by
  rw [scan]
  split
  · simp_all
  · split <;> simp_all

theorem scan_char {c : Char} {cs : List Char} (hb : bracketAt? (c :: cs) = none)
    (ht : Token.atStart? (c :: cs) = none) :
    scan (c :: cs) = withPlain [c] (scan cs) := by
  rw [scan]
  split
  · simp_all
  · split <;> simp_all

theorem withPlain_plain_cons (lit cs : List Char) (ps : List FormatPart) :
    withPlain lit (.plain cs :: ps) = .plain (lit ++ cs) :: ps := rfl

theorem withPlain_of_not_plain (lit : List Char) {p : FormatPart} (ps : List FormatPart)
    (hp : p.isPlain = false) : withPlain lit (p :: ps) = withPlain lit [] ++ p :: ps := by
  cases p with
  | plain cs => cases hp
  | bracketed cs => by_cases hl : lit = [] <;> simp [withPlain, hl]
  | token t => by_cases hl : lit = [] <;> simp [withPlain, hl]

theorem withPlain_nil_left (ps : List FormatPart) : withPlain [] ps = ps := by
  match ps with
  | [] => rfl
  | .plain cs :: ps => rfl
  | .bracketed cs :: ps => rfl
  | .token t :: ps => rfl

theorem withPlain_withPlain (a : List Char) {b : List Char} (hb : b ≠ []) (ps : List FormatPart) :
    withPlain a (withPlain b ps) = withPlain (a ++ b) ps := by
  match ps with
  | [] => simp [withPlain, hb]
  | .plain cs :: ps => simp [withPlain]
  | .bracketed cs :: ps => simp [withPlain, hb]
  | .token t :: ps => simp [withPlain, hb]

theorem any_withPlain (lit : List Char) (ps : List FormatPart) :
    (withPlain lit ps).any FormatPart.isToken = ps.any FormatPart.isToken := by
  match ps with
  | [] => by_cases hl : lit = [] <;> simp [withPlain, hl, FormatPart.isToken]
  | .plain cs :: ps => simp [withPlain, FormatPart.isToken]
  | .bracketed cs :: ps => by_cases hl : lit = [] <;> simp [withPlain, hl, FormatPart.isToken]
  | .token t :: ps => by_cases hl : lit = [] <;> simp [withPlain, hl, FormatPart.isToken]

theorem flatMap_written_withPlain (lit : List Char) (ps : List FormatPart) :
    (withPlain lit ps).flatMap FormatPart.written = lit ++ ps.flatMap FormatPart.written := by
  match ps with
  | [] => by_cases hl : lit = [] <;> simp [withPlain, hl, FormatPart.written]
  | .plain cs :: ps => simp [withPlain, FormatPart.written]
  | .bracketed cs :: ps => by_cases hl : lit = [] <;> simp [withPlain, hl, FormatPart.written]
  | .token t :: ps => by_cases hl : lit = [] <;> simp [withPlain, hl, FormatPart.written]

/-! ## Nothing lost, nothing doubled -/

/-- Writing the parts back gives the format. -/
theorem flatMap_written_scan (cs : List Char) : (scan cs).flatMap FormatPart.written = cs := by
  fun_induction scan cs with
  | case1 => rfl
  | case2 c cs inner rest hb ih =>
      rw [List.flatMap_cons, ih, FormatPart.written, (bracketAt?_eq_some hb).2]
      simp
  | case3 c cs hb t rest ht ih =>
      rw [List.flatMap_cons, ih, FormatPart.written, ← atStart?_eq_some ht]
  | case4 c cs hb ht ih =>
      rw [flatMap_written_withPlain, ih]
      rfl

/-- Plain parts are never empty, and no plain part follows another. -/
inductive Merged : List FormatPart → Prop
  | nil : Merged []
  | plain {cs : List Char} {ps : List FormatPart} : cs ≠ [] →
      (∀ p ∈ ps.head?, p.isPlain = false) → Merged ps → Merged (.plain cs :: ps)
  | other {p : FormatPart} {ps : List FormatPart} : p.isPlain = false → Merged ps →
      Merged (p :: ps)

theorem Merged.withPlain {lit : List Char} {ps : List FormatPart} (hlit : lit ≠ [])
    (h : Merged ps) : Merged (withPlain lit ps) := by
  cases h with
  | nil => simpa [Covenant.Calendar.withPlain, hlit] using Merged.plain hlit (by simp) Merged.nil
  | plain hcs hhead hps =>
      rw [withPlain_plain_cons]
      exact Merged.plain (by simp [hlit]) hhead hps
  | @other p ps hp hps =>
      rw [withPlain_of_not_plain _ _ hp]
      simpa [Covenant.Calendar.withPlain, hlit] using
        Merged.plain hlit (by simp [hp]) (Merged.other hp hps)

/-- Adjacent plain characters are read into one part. -/
theorem merged_scan (cs : List Char) : Merged (scan cs) := by
  fun_induction scan cs with
  | case1 => exact Merged.nil
  | case2 c cs inner rest hb ih => exact Merged.other rfl ih
  | case3 c cs hb t rest ht ih => exact Merged.other rfl ih
  | case4 c cs hb ht ih => exact ih.withPlain (List.cons_ne_nil c [])

/-! ## The reading with an accumulator -/

theorem go_bracket {c : Char} {cs inner rest lit : List Char} {acc : List Piece} {found : Bool}
    {fuel : Nat} (h : bracketAt? (c :: cs) = some (inner, rest)) :
    pieces?.go (c :: cs) lit acc found (fuel + 1) =
      pieces?.go rest [] (.text (String.ofList inner) :: pieces?.flush lit acc) found fuel := by
  rw [pieces?.go]
  rw [bracketAt?] at h
  simp only [h]

theorem go_token {c : Char} {cs rest lit : List Char} {t : Token} {acc : List Piece}
    {found : Bool} {fuel : Nat} (hb : bracketAt? (c :: cs) = none)
    (ht : Token.atStart? (c :: cs) = some (t, rest)) :
    pieces?.go (c :: cs) lit acc found (fuel + 1) =
      pieces?.go rest [] (.token t :: pieces?.flush lit acc) true fuel := by
  rw [pieces?.go]
  rw [bracketAt?] at hb
  simp only [hb, ht]

theorem go_char {c : Char} {cs lit : List Char} {acc : List Piece} {found : Bool}
    {fuel : Nat} (hb : bracketAt? (c :: cs) = none) (ht : Token.atStart? (c :: cs) = none) :
    pieces?.go (c :: cs) lit acc found (fuel + 1) = pieces?.go cs (c :: lit) acc found fuel := by
  rw [pieces?.go]
  rw [bracketAt?] at hb
  simp only [hb, ht]

theorem flush_reverse (lit : List Char) (acc : List Piece) :
    (pieces?.flush lit acc).reverse =
      acc.reverse ++ (withPlain lit.reverse []).map FormatPart.piece := by
  by_cases hl : lit = []
  · subst hl
    simp [pieces?.flush, withPlain]
  · have hr : lit.reverse ≠ [] := by simpa using hl
    simp [pieces?.flush, withPlain, hl, hr, FormatPart.piece]

/-- `pieces?.go` keeps the pieces found so far (reversed) in `acc` and the pending plain
characters (reversed) in `lit`; what it returns is those, then the reading of the rest with
the pending characters in front.  The induction is on the budget, which the length bounds. -/
theorem go_eq_scan (fuel : Nat) (cs lit : List Char) (acc : List Piece) (found : Bool)
    (hfuel : cs.length ≤ fuel) :
    pieces?.go cs lit acc found fuel =
      (acc.reverse ++ (withPlain lit.reverse (scan cs)).map FormatPart.piece,
        found || (scan cs).any FormatPart.isToken) := by
  induction fuel generalizing cs lit acc found with
  | zero =>
      rw [List.length_eq_zero_iff.mp (Nat.le_zero.mp hfuel), pieces?.go, scan_nil, flush_reverse]
      simp
  | succ fuel ih =>
      cases cs with
      | nil =>
          rw [pieces?.go, scan_nil, flush_reverse]
          simp
      | cons c cs =>
          rw [List.length_cons] at hfuel
          cases hb : bracketAt? (c :: cs) with
          | some r =>
              obtain ⟨inner, rest⟩ := r
              have hrest : rest.length ≤ fuel := by
                have := bracketAt?_length hb
                rw [List.length_cons] at this
                omega
              rw [go_bracket hb, ih rest _ _ _ hrest, scan_bracket hb, List.reverse_nil,
                withPlain_nil_left, withPlain_of_not_plain _ _ rfl]
              simp [flush_reverse, FormatPart.piece, FormatPart.isToken]
          | none =>
              cases ht : Token.atStart? (c :: cs) with
              | some r =>
                  obtain ⟨t, rest⟩ := r
                  have hrest : rest.length ≤ fuel := by
                    have := atStart?_length ht
                    rw [List.length_cons] at this
                    omega
                  rw [go_token hb ht, ih rest _ _ _ hrest, scan_token hb ht, List.reverse_nil,
                    withPlain_nil_left, withPlain_of_not_plain _ _ rfl]
                  simp [flush_reverse, FormatPart.piece, FormatPart.isToken]
              | none =>
                  rw [go_char hb ht, ih cs _ _ _ (by omega), scan_char hb ht,
                    withPlain_withPlain _ (List.cons_ne_nil c []), any_withPlain, List.reverse_cons]

/-- Splitting a format gives the pieces of its reading, or `none` when it takes no token. -/
theorem pieces?_eq_scan (fmt : String) :
    pieces? fmt =
      if (scan fmt.toList).any FormatPart.isToken then
        some ((scan fmt.toList).map FormatPart.piece)
      else none := by
  unfold pieces?
  rw [go_eq_scan fmt.length fmt.toList [] [] false (Nat.le_of_eq String.length_toList)]
  simp only [List.reverse_nil, List.nil_append, withPlain_nil_left, Bool.false_or]

example : pieces? "Do [day of] MMMM, YYYY" = some [.token .ordinal, .text " ", .text "day of",
    .text " ", .token .monthName, .text ", ", .token .year4] := by decide

example : pieces? "[YYYY" = some [.text "[", .token .year4] := by decide

/-- A date is written part by part after the preset is expanded, or in the ISO form when the
format has no token. -/
theorem format_eq_scan (dt : Date) (fmt : String) (l : Locale) :
    dt.format fmt l =
      if (scan ((preset? fmt).getD fmt).toList).any FormatPart.isToken then
        String.join ((scan ((preset? fmt).getD fmt).toList).map (FormatPart.render dt l))
      else padded 4 dt.year ++ "-" ++ padded 2 dt.month ++ "-" ++ padded 2 dt.day := by
  unfold Date.format
  simp only [pieces_isoFormat, Option.getD_some]
  rw [pieces?_eq_scan ((preset? fmt).getD fmt)]
  by_cases h : (scan ((preset? fmt).getD fmt).toList).any FormatPart.isToken
  · rw [if_pos h, if_pos h, Option.getD_some, List.map_map]
    congr 1
    apply List.map_congr_left
    intro p _
    cases p <;> rfl
  · rw [if_neg h, if_neg h, Option.getD_none]
    simp [Token.render, String.append_assoc]

/-- Reading a date format: the parts write the format back, plain text is merged into
maximal runs, `pieces?` returns the parts (`none` when there is no token), and a date is
written from them, or in the ISO form. -/
theorem date_format_follows_scan (fmt : String) :
    (scan fmt.toList).flatMap FormatPart.written = fmt.toList ∧
      Merged (scan fmt.toList) ∧
      pieces? fmt =
        (if (scan fmt.toList).any FormatPart.isToken then
          some ((scan fmt.toList).map FormatPart.piece)
        else none) ∧
      ∀ (dt : Date) (l : Locale), dt.format fmt l =
        if (scan ((preset? fmt).getD fmt).toList).any FormatPart.isToken then
          String.join ((scan ((preset? fmt).getD fmt).toList).map (FormatPart.render dt l))
        else padded 4 dt.year ++ "-" ++ padded 2 dt.month ++ "-" ++ padded 2 dt.day :=
  ⟨flatMap_written_scan _, merged_scan _, pieces?_eq_scan fmt,
    fun dt l => format_eq_scan dt fmt l⟩

end Covenant.Calendar
