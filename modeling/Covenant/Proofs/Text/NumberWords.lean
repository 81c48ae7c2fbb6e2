import Covenant.Text.NumberWords
import Mathlib.Tactic.IntervalCases
/-!
# Numbers in words read back

`numberWords` writes a whole number in English. The words it writes follow the grammar

```
number    := "zero" | ["minus"] (group scale)* [group]      -- at least one group
group     := [digit "hundred"] [below-hundred]              -- not empty
scale     := "quintillion" | "quadrillion" | … | "thousand"  -- decreasing
```

where a word below a hundred is one of `one` … `nineteen`, a whole ten `twenty` … `ninety`, or
a ten and a digit joined by a hyphen. `readNumber` reads that grammar from the words of a text,
the pieces between single spaces, with no reference to the writer; reading back what the writer
wrote for any signed 64-bit number gives the number (`numberWords_read_back`). So no two numbers
share their words, and no word of the output is empty (no doubled, leading or trailing space) or
`zero`, except for zero itself.

The writer is a loop over the scales that keeps what is left below the current scale. Its
output is first seen word by word (`numberWords_eq`: the words are `numberWordList`), and the
reader then follows the same scales: a group is read up to the scale name after it
(`readGroup_groupWords`), and a scale whose group was zero is skipped because the next name met
is a smaller scale's (`readScaled_scaledWords`).
-/

namespace Covenant.Text

/-- The words of a text: the pieces between single spaces, empty pieces included. -/
def spaceWords (s : String) : List String := (s.toList.splitOn ' ').map String.ofList

theorem spaceWords_intercalate {ws : List String} (h : ∀ w ∈ ws, ' ' ∉ w.toList) (hne : ws ≠ []) :
    spaceWords (" ".intercalate ws) = ws := by
  rw [spaceWords, String.toList_intercalate, show " ".toList = [' '] from rfl,
    List.splitOn_intercalate _ (by simpa using h) (by simpa using hne), List.map_map]
  simp

/-! ## The grammar, read -/

/-- A word for one to nineteen, by its place among the words below twenty. -/
def onesValue? (w : String) : Option Nat := (onesWords.idxOf? w).filter (0 < ·)

/-- A word for whole tens, twenty to ninety. -/
def tensValue? (w : String) : Option Nat := ((tensWords.idxOf? w).filter (2 ≤ ·)).map (10 * ·)

/-- A digit word, one to nine. -/
def digitValue? (w : String) : Option Nat := (onesValue? w).filter (· < 10)

/-- A word below a hundred: one to nineteen, whole tens, or tens and a digit joined by a
hyphen. -/
def belowHundredValue? (w : String) : Option Nat :=
  match onesValue? w, tensValue? w, w.toList.splitOn '-' with
  | some v, _, _ => some v
  | none, some v, _ => some v
  | none, none, [t, d] =>
    match tensValue? (String.ofList t), digitValue? (String.ofList d) with
    | some tv, some dv => some (tv + dv)
    | _, _ => none
  | _, _, _ => none

/-- Reads the hundreds of a group: a digit word followed by `hundred`, or nothing. -/
def readHundreds : List String → Nat × List String
  | d :: h :: rest =>
    match digitValue? d with
    | some v => if h = "hundred" then (100 * v, rest) else (0, d :: h :: rest)
    | none => (0, d :: h :: rest)
  | ws => (0, ws)

/-- Reads a group below a thousand from the front of the words: the hundreds, then a word below
a hundred if one follows. Nothing read is a group of zero. -/
def readGroup (ws : List String) : Nat × List String :=
  match readHundreds ws with
  | (h, w :: more) =>
    match belowHundredValue? w with
    | some v => (h + v, more)
    | none => (h, w :: more)
  | (h, []) => (h, [])

/-- Reads groups each followed by its scale's name, largest scale first; a scale whose name does
not follow the next group is absent. The last group has no scale, and no word may be left. -/
def readScaled : List (Nat × String) → List String → Option Nat
  | [], ws =>
    match readGroup ws with
    | (g, []) => some g
    | _ => none
  | (v, name) :: scales, ws =>
    match readGroup ws with
    | (g, w :: rest) =>
      if 0 < g ∧ w = name then (readScaled scales rest).map (g * v + ·) else readScaled scales ws
    | (_, []) => readScaled scales ws

/-- A positive number in words. -/
def readPositive (ws : List String) : Option Nat :=
  (readScaled scaleWords ws).filter (0 < ·)

/-- Reads a whole number in words: `zero`, or a positive number after an optional `minus`. -/
def readNumber : List String → Option Int
  | [] => none
  | w :: ws =>
    if w = "zero" ∧ ws = [] then some 0
    else if w = "minus" then (readPositive ws).map fun m : Nat => -(m : Int)
    else (readPositive (w :: ws)).map fun m : Nat => (m : Int)

/-! ## The vocabulary -/

/-- A word that the reader can tell apart: not empty, with no space, and neither `zero` nor
`minus`. -/
def PlainWord (w : String) : Prop := w ≠ "" ∧ ' ' ∉ w.toList ∧ w ≠ "zero" ∧ w ≠ "minus"

/-- A word that ends a group: neither a word below a hundred, nor a digit, nor `hundred`. -/
def EndsGroup (w : String) : Prop :=
  belowHundredValue? w = none ∧ digitValue? w = none ∧ w ≠ "hundred"

theorem onesValue_onesWords : ∀ k < 20, 0 < k → onesValue? (onesWords.getD k "") = some k := by
  decide

theorem tensValue_tensWords : ∀ j < 10, 2 ≤ j →
    tensValue? (tensWords.getD j "") = some (10 * j) ∧ onesValue? (tensWords.getD j "") = none := by
  decide

theorem onesWords_plain : ∀ k < 20, 0 < k → PlainWord (onesWords.getD k "") := by
  unfold PlainWord
  decide

theorem tensWords_plain : ∀ j < 10, 2 ≤ j → PlainWord (tensWords.getD j "") := by
  unfold PlainWord
  decide

/-- No word of the two tables holds a hyphen. -/
theorem tables_no_hyphen : ∀ w ∈ onesWords ++ tensWords, '-' ∉ w.toList := by
  decide

theorem hundred_plain : PlainWord "hundred" := by
  unfold PlainWord
  decide

theorem scaleWords_names : ∀ p ∈ scaleWords, PlainWord p.2 ∧ EndsGroup p.2 := by
  unfold PlainWord EndsGroup
  decide

theorem scaleWords_nodup : (scaleWords.map (·.2)).Nodup := by
  decide

/-! ## Words below a hundred -/

theorem onesWords_no_hyphen : ∀ k < 20, '-' ∉ (onesWords.getD k "").toList := by
  decide

theorem tensWords_no_hyphen : ∀ j < 10, '-' ∉ (tensWords.getD j "").toList := by
  decide

/-- A word with a hyphen is in neither table. -/
theorem idxOf?_of_hyphen {table : List String} (ht : ∀ x ∈ table, '-' ∉ x.toList) {w : String}
    (hw : '-' ∈ w.toList) : table.idxOf? w = none :=
  List.idxOf?_eq_none_iff.mpr fun hmem => ht w hmem hw

/-- A word with a hyphen differs from every word without one. -/
theorem ne_of_hyphen {w x : String} (hw : '-' ∈ w.toList) (hx : '-' ∉ x.toList) : w ≠ x := by
  rintro rfl
  exact hx hw

/-- Tens and a digit joined by a hyphen read as their sum. -/
theorem belowHundredValue_hyphen {j k : Nat} (hj : 2 ≤ j) (hj' : j < 10) (hk : 0 < k) (hk' : k < 10) :
    belowHundredValue? (tensWords.getD j "" ++ "-" ++ onesWords.getD k "") = some (10 * j + k) := by
  have ht := tensWords_no_hyphen j hj'
  have hd := onesWords_no_hyphen k (by omega)
  have hw : '-' ∈ (tensWords.getD j "" ++ "-" ++ onesWords.getD k "").toList := by simp
  have hnone : ∀ x ∈ onesWords, '-' ∉ x.toList := fun x hx =>
    tables_no_hyphen x (List.mem_append_left _ hx)
  have hnone' : ∀ x ∈ tensWords, '-' ∉ x.toList := fun x hx =>
    tables_no_hyphen x (List.mem_append_right _ hx)
  -- the word is in neither table, so only its two halves are read
  have hsplit : (tensWords.getD j "" ++ "-" ++ onesWords.getD k "").toList.splitOn '-' =
      [(tensWords.getD j "").toList, (onesWords.getD k "").toList] := by
    rw [show (tensWords.getD j "" ++ "-" ++ onesWords.getD k "").toList =
      ['-'].intercalate [(tensWords.getD j "").toList, (onesWords.getD k "").toList] by simp]
    refine List.splitOn_intercalate _ ?_ (List.cons_ne_nil _ _)
    intro l hl
    simp only [List.mem_cons, List.not_mem_nil, or_false] at hl
    rcases hl with rfl | rfl
    exacts [ht, hd]
  have hdigit : digitValue? (onesWords.getD k "") = some k := by
    rw [digitValue?, onesValue_onesWords k (by omega) hk, Option.filter_some, decide_eq_true hk', if_pos rfl]
  rw [belowHundredValue?, onesValue?, idxOf?_of_hyphen hnone hw, tensValue?,
    idxOf?_of_hyphen hnone' hw, hsplit]
  simp only [String.ofList_toList, (tensValue_tensWords j hj' hj).1, hdigit, Option.filter_none,
    Option.map_none]

/-- Every word below a hundred but zero reads as its number, and the reader can tell it apart. -/
theorem belowHundred_reads {k : Nat} (hk : 0 < k) (hk' : k < 100) :
    belowHundredValue? (belowHundred k) = some k ∧ PlainWord (belowHundred k) := by
  unfold belowHundred
  by_cases h20 : k < 20
  · -- one to nineteen: a word of the first table
    rw [if_pos h20]
    refine ⟨?_, onesWords_plain k h20 hk⟩
    rw [belowHundredValue?, onesValue_onesWords k h20 hk]
  · rw [if_neg h20]
    by_cases h0 : k % 10 = 0
    · -- whole tens: a word of the second table
      rw [if_pos h0]
      have htens := tensValue_tensWords (k / 10) (by omega) (by omega)
      refine ⟨?_, tensWords_plain (k / 10) (by omega) (by omega)⟩
      rw [belowHundredValue?, htens.2, htens.1]
      simp only [Option.some.injEq]
      omega
    · -- tens and a digit
      rw [if_neg h0]
      refine ⟨by rw [belowHundredValue_hyphen (by omega) (by omega) (by omega) (Nat.mod_lt _ (by decide))]
                 congr 1; omega, ?_⟩
      have hw : '-' ∈ (tensWords.getD (k / 10) "" ++ "-" ++ onesWords.getD (k % 10) "").toList := by
        simp
      have ht := (tensWords_plain (k / 10) (by omega) (by omega)).2.1
      have hd := (onesWords_plain (k % 10) (by omega) (by omega)).2.1
      refine ⟨ne_of_hyphen hw (by decide), ?_, ne_of_hyphen hw (by decide), ne_of_hyphen hw (by decide)⟩
      simp only [String.toList_append, List.mem_append, not_or]
      exact ⟨⟨ht, by decide⟩, hd⟩

/-- A digit word reads as its digit. -/
theorem digitValue_belowHundred {k : Nat} (hk : 0 < k) (hk' : k < 10) :
    digitValue? (belowHundred k) = some k := by
  rw [belowHundred, if_pos (by omega), digitValue?, onesValue_onesWords k (by omega) hk]
  simp [hk']

/-! ## Groups below a thousand -/

/-- The words of a group below a thousand: its hundreds as a digit and `hundred`, then what is
left below a hundred, each part only when it is not zero. -/
def groupWords (g : Nat) : List String :=
  (if 0 < g / 100 then [belowHundred (g / 100), "hundred"] else []) ++
    (if 0 < g % 100 then [belowHundred (g % 100)] else [])

theorem belowThousand_eq (g : Nat) : belowThousand g = " ".intercalate (groupWords g) := by
  have hh : (" hundred" : String) = " " ++ "hundred" := rfl
  unfold belowThousand groupWords
  by_cases h1 : 0 < g / 100
  · -- the hundreds part is one piece `d hundred` for the writer and two words here
    by_cases h2 : 0 < g % 100
    · simp only [gt_iff_lt, h1, h2, if_true, List.cons_append, List.nil_append,
        String.intercalate_cons_cons, String.intercalate_singleton, String.append_assoc]
      rw [hh, String.append_assoc]
    · simp only [gt_iff_lt, h1, h2, if_true, if_false, List.append_nil,
        String.intercalate_cons_cons, String.intercalate_singleton, String.append_assoc]
      rw [hh]
  · simp only [gt_iff_lt, h1, if_false, List.nil_append]

@[simp] theorem groupWords_zero : groupWords 0 = [] := rfl

theorem groupWords_ne_nil {g : Nat} (hg : 0 < g) : groupWords g ≠ [] := by
  unfold groupWords
  by_cases h1 : 0 < g / 100
  · rw [if_pos h1]
    exact List.cons_ne_nil _ _
  · rw [if_neg h1, if_pos (show 0 < g % 100 by omega)]
    exact List.cons_ne_nil _ _

theorem groupWords_plain {g : Nat} (hg : g < 1000) : ∀ w ∈ groupWords g, PlainWord w := by
  intro w hw
  unfold groupWords at hw
  simp only [List.mem_append] at hw
  rcases hw with hw | hw
  · by_cases h1 : 0 < g / 100
    · simp only [h1, if_true, List.mem_cons, List.not_mem_nil, or_false] at hw
      rcases hw with rfl | rfl
      · exact (belowHundred_reads h1 (by omega)).2
      · exact hundred_plain
    · simp [h1] at hw
  · by_cases h2 : 0 < g % 100
    · simp only [h2, if_true, List.mem_cons, List.not_mem_nil, or_false] at hw
      rw [hw]
      exact (belowHundred_reads h2 (Nat.mod_lt _ (by decide))).2
    · simp [h2] at hw

/-! ## Reading a group -/

theorem readHundreds_hundred {d : String} {v : Nat} (hd : digitValue? d = some v)
    (rest : List String) : readHundreds (d :: "hundred" :: rest) = (100 * v, rest) := by
  simp only [readHundreds, hd, if_true]

/-- Without a digit followed by `hundred` in front, no hundreds are read. -/
theorem readHundreds_none (ws : List String)
    (h : ∀ d w rest, ws = d :: w :: rest → digitValue? d = none ∨ w ≠ "hundred") :
    readHundreds ws = (0, ws) := by
  match ws, h with
  | [], _ => rfl
  | [_], _ => rfl
  | d :: w :: rest, h =>
    rw [readHundreds]
    rcases h d w rest rfl with hd | hw
    · rw [hd]
    · cases digitValue? d with
      | none => rfl
      | some v => simp only [if_neg hw]

theorem readGroup_below {ws more : List String} {h v : Nat} {w : String}
    (hh : readHundreds ws = (h, w :: more)) (hv : belowHundredValue? w = some v) :
    readGroup ws = (h + v, more) := by
  simp only [readGroup, hh, hv]

theorem readGroup_stop {ws rest : List String} {h : Nat} (hh : readHundreds ws = (h, rest))
    (hr : ∀ w ∈ rest.head?, belowHundredValue? w = none) : readGroup ws = (h, rest) := by
  cases rest with
  | nil => simp only [readGroup, hh]
  | cons w more => simp only [readGroup, hh, hr w rfl]

/-- A group is read up to the word that ends it. -/
theorem readGroup_groupWords {g : Nat} (hg : g < 1000) (rest : List String)
    (hr : ∀ w ∈ rest.head?, EndsGroup w) : readGroup (groupWords g ++ rest) = (g, rest) := by
  have hstop : ∀ w ∈ rest.head?, belowHundredValue? w = none := fun w hw => (hr w hw).1
  unfold groupWords
  by_cases h1 : 0 < g / 100
  · -- the hundreds, read as a digit and `hundred`
    have hd := digitValue_belowHundred h1 (by omega)
    by_cases h2 : 0 < g % 100
    · simp only [h1, h2, if_true, List.cons_append, List.nil_append]
      rw [readGroup_below (readHundreds_hundred hd _) (belowHundred_reads h2 (by omega)).1]
      congr 1
      omega
    · simp only [h1, h2, if_true, if_false, List.cons_append, List.nil_append, List.append_nil]
      rw [readGroup_stop (readHundreds_hundred hd rest) hstop]
      congr 1
      omega
  · -- no hundreds: the word after the first is not `hundred`, or the first is no digit
    by_cases h2 : 0 < g % 100
    · simp only [h1, h2, if_true, if_false, List.nil_append, List.cons_append]
      have hnone := readHundreds_none (belowHundred (g % 100) :: rest) (by
        rintro d w r ⟨-, rfl⟩
        exact .inr (hr w rfl).2.2)
      rw [readGroup_below hnone (belowHundred_reads h2 (by omega)).1]
      congr 1
      omega
    · simp only [h1, h2, if_false, List.nil_append]
      have hnone := readHundreds_none rest (by
        rintro d w r rfl
        exact .inl (hr d rfl).2.1)
      rw [readGroup_stop hnone hstop]
      congr 1
      omega

/-! ## Groups with their scales -/

/-- The words of a number below a thousand of the first scale: for each scale the group it
holds, with the scale's name, when that group is not zero, and then the last group. -/
def scaledWords : List (Nat × String) → Nat → List String
  | [], m => groupWords m
  | (v, name) :: scales, m =>
    if v ≤ m then groupWords (m / v) ++ name :: scaledWords scales (m % v)
    else scaledWords scales m

/-- The first scale of a list, or one when there is none. -/
def topScale : List (Nat × String) → Nat
  | [] => 1
  | p :: _ => p.1

/-- Each scale is a thousand times the next, and the last a thousand. -/
def Chained : List (Nat × String) → Prop
  | [] => True
  | p :: scales => p.1 = 1000 * topScale scales ∧ Chained scales

theorem chained_scaleWords : Chained scaleWords := by
  simp only [scaleWords, Chained, topScale]
  decide

theorem topScale_pos : ∀ {scales : List (Nat × String)}, Chained scales → 0 < topScale scales
  | [], _ => Nat.one_pos
  | p :: scales, ⟨hv, hc⟩ => by
    have := topScale_pos hc
    change 0 < p.1
    omega

/-- What is written from a scale down starts with a group below a thousand, followed by
nothing or by the name of one of the scales. -/
theorem scaledWords_head : ∀ (scales : List (Nat × String)) (m : Nat), Chained scales →
    m < 1000 * topScale scales → ∃ g < 1000, ∃ rest, scaledWords scales m = groupWords g ++ rest ∧
      (rest = [] ∨ ∃ p ∈ scales, ∃ r, rest = p.2 :: r)
  | [], m, _, hm => ⟨m, by simpa [topScale] using hm, [], by simp [scaledWords], .inl rfl⟩
  | (v, name) :: scales, m, ⟨hv, hc⟩, hm => by
    have htop := topScale_pos hc
    change v = 1000 * topScale scales at hv
    change m < 1000 * v at hm
    by_cases hvm : v ≤ m
    · refine ⟨m / v, (Nat.div_lt_iff_lt_mul (by omega)).mpr hm,
        name :: scaledWords scales (m % v), by rw [scaledWords, if_pos hvm], .inr ?_⟩
      exact ⟨(v, name), List.mem_cons_self, _, rfl⟩
    · obtain ⟨g, hg, rest, heq, hrest⟩ := scaledWords_head scales m hc (by omega)
      refine ⟨g, hg, rest, by rw [scaledWords, if_neg hvm, heq], ?_⟩
      rcases hrest with h | ⟨p, hp, r, h⟩
      · exact .inl h
      · exact .inr ⟨p, List.mem_cons_of_mem _ hp, r, h⟩

/-- Reading the groups back with their scales gives the number. -/
theorem readScaled_scaledWords : ∀ (scales : List (Nat × String)), Chained scales →
    (∀ p ∈ scales, EndsGroup p.2) → (scales.map (·.2)).Nodup →
      ∀ m, m < 1000 * topScale scales → readScaled scales (scaledWords scales m) = some m
  | [], _, _, _, m, hm => by
    have hread := readGroup_groupWords (g := m) (by simpa [topScale] using hm) [] (by simp)
    rw [List.append_nil] at hread
    simp only [scaledWords, readScaled, hread]
  | (v, name) :: scales, ⟨hv, hc⟩, hends, hnodup, m, hm => by
    have htop := topScale_pos hc
    change v = 1000 * topScale scales at hv
    change m < 1000 * v at hm
    have hends' : ∀ p ∈ scales, EndsGroup p.2 := fun p hp => hends p (List.mem_cons_of_mem _ hp)
    have hnodup' := (List.nodup_cons.mp hnodup).2
    have ih := readScaled_scaledWords scales hc hends' hnodup'
    by_cases hvm : v ≤ m
    · -- the group of this scale is not zero: it is read with the scale's name
      have hg : m / v < 1000 := (Nat.div_lt_iff_lt_mul (by omega)).mpr hm
      have hread := readGroup_groupWords hg (name :: scaledWords scales (m % v))
        (fun w hw => by
          rw [List.head?_cons, Option.mem_some_iff] at hw
          exact hw ▸ hends (v, name) List.mem_cons_self)
      rw [scaledWords, if_pos hvm, readScaled, hread]
      simp only [Nat.div_pos hvm (by omega), true_and, if_true,
        ih (m % v) (by rw [← hv]; exact Nat.mod_lt _ (by omega)), Option.map_some]
      rw [Nat.div_add_mod']
    · -- the group is zero: what follows is a smaller scale's group, or the last group
      rw [scaledWords, if_neg hvm]
      obtain ⟨g, hg, rest, heq, hrest⟩ := scaledWords_head scales m hc (by omega)
      have hread : readGroup (scaledWords scales m) = (g, rest) := by
        rw [heq]
        refine readGroup_groupWords hg rest fun w hw => ?_
        rcases hrest with rfl | ⟨p, hp, r, rfl⟩
        · cases hw
        · rw [List.head?_cons, Option.mem_some_iff] at hw
          exact hw ▸ hends' p hp
      rw [readScaled, hread]
      rcases hrest with rfl | ⟨p, hp, r, rfl⟩
      · exact ih m (by omega)
      · -- the name met is a smaller scale's, never this one's
        have hne : p.2 ≠ name := by
          rintro hpn
          have hmem : p.2 ∈ scales.map (·.2) := List.mem_map_of_mem hp
          rw [hpn] at hmem
          exact (List.nodup_cons.mp hnodup).1 hmem
        simp only [hne, and_false, if_false]
        exact ih m (by omega)

theorem scaledWords_plain : ∀ (scales : List (Nat × String)), Chained scales →
    (∀ p ∈ scales, PlainWord p.2) → ∀ m, m < 1000 * topScale scales →
      ∀ w ∈ scaledWords scales m, PlainWord w
  | [], _, _, m, hm => groupWords_plain (by simpa [topScale] using hm)
  | (v, name) :: scales, ⟨hv, hc⟩, hplain, m, hm => by
    have htop := topScale_pos hc
    change v = 1000 * topScale scales at hv
    change m < 1000 * v at hm
    have ih := scaledWords_plain scales hc fun p hp => hplain p (List.mem_cons_of_mem _ hp)
    intro w hw
    rw [scaledWords] at hw
    by_cases hvm : v ≤ m
    · rw [if_pos hvm, List.mem_append, List.mem_cons] at hw
      rcases hw with hw | rfl | hw
      · exact groupWords_plain ((Nat.div_lt_iff_lt_mul (by omega)).mpr hm) w hw
      · exact hplain (v, w) List.mem_cons_self
      · exact ih (m % v) (by rw [← hv]; exact Nat.mod_lt _ (by omega)) w hw
    · rw [if_neg hvm] at hw
      exact ih m (by omega) w hw

theorem scaledWords_ne_nil : ∀ (scales : List (Nat × String)) {m : Nat}, 0 < m →
    scaledWords scales m ≠ []
  | [], _, hm => groupWords_ne_nil hm
  | (v, name) :: scales, m, hm => by
    rw [scaledWords]
    by_cases hvm : v ≤ m
    · rw [if_pos hvm]
      exact List.append_ne_nil_of_right_ne_nil _ (List.cons_ne_nil _ _)
    · rw [if_neg hvm]
      exact scaledWords_ne_nil scales hm

/-! ## The writer, word by word -/

/-- Joining the pieces of non-empty lists of words, each itself joined, joins all their words. -/
theorem intercalate_flatten (sep : String) : ∀ (xss : List (List String)), (∀ xs ∈ xss, xs ≠ []) →
    sep.intercalate (xss.map sep.intercalate) = sep.intercalate xss.flatten
  | [], _ => rfl
  | [xs], _ => by simp
  | xs :: ys :: rest, h => by
    have hys : (ys :: rest).flatten ≠ [] := by
      rw [List.flatten_cons]
      exact List.append_ne_nil_of_left_ne_nil (h ys (by simp)) _
    rw [List.map_cons, List.map_cons, String.intercalate_cons_cons, ← List.map_cons,
      intercalate_flatten sep (ys :: rest) (fun x hx => h x (List.mem_cons_of_mem _ hx)),
      List.flatten_cons (l := xs), String.intercalate_append_of_ne_nil (h xs List.mem_cons_self) hys]

section Writer

-- The writer's step over the scales, taken as a parameter so that its lambda is not restated:
-- a scale that goes into what is left writes its group and name and keeps the remainder.
variable {F : List String × Nat → Nat × String → List String × Nat}
  (hF : ∀ acc v name, F acc (v, name) =
    if acc.2 ≥ v then (acc.1 ++ [belowThousand (acc.2 / v) ++ " " ++ name], acc.2 % v) else acc)
include hF

/-- The writer's loop, seen word by word: the pieces it writes are the words of the groups with
their names, and what it leaves is the last group. -/
theorem foldl_scales : ∀ (scales : List (Nat × String)) (Q : List (List String)) (m : Nat)
    (r : List String × Nat), (∀ p ∈ scales, 0 < p.1) → (∀ q ∈ Q, q ≠ []) →
      scales.foldl F (Q.map (" ".intercalate ·), m) = r →
        ∃ (Q' : List (List String)) (rest : Nat), r = (Q'.map (" ".intercalate ·), rest) ∧ (∀ q ∈ Q', q ≠ []) ∧
          Q'.flatten ++ groupWords rest = Q.flatten ++ scaledWords scales m
  | [], Q, m, r, _, hQ, h => ⟨Q, m, h.symm, hQ, rfl⟩
  | (v, name) :: scales, Q, m, r, hpos, hQ, h => by
    have hpos' : ∀ p ∈ scales, 0 < p.1 := fun p hp => hpos p (List.mem_cons_of_mem _ hp)
    have hv : 0 < v := hpos (v, name) List.mem_cons_self
    rw [List.foldl_cons, hF] at h
    by_cases hvm : v ≤ m
    · -- a group that is not zero: one more piece, its words and the scale's name
      have hgroup := groupWords_ne_nil (Nat.div_pos hvm hv)
      have hpiece : belowThousand (m / v) ++ " " ++ name =
          " ".intercalate (groupWords (m / v) ++ [name]) := by
        rw [belowThousand_eq, String.intercalate_append_of_ne_nil hgroup (List.cons_ne_nil _ _),
          String.intercalate_singleton]
      simp only [ge_iff_le, hvm, if_true, hpiece] at h
      rw [show Q.map (" ".intercalate ·) ++ [" ".intercalate (groupWords (m / v) ++ [name])] =
        (Q ++ [groupWords (m / v) ++ [name]]).map (" ".intercalate ·) by simp] at h
      obtain ⟨Q', rest, hr, hQ', hflat⟩ := foldl_scales scales _ (m % v) r hpos' (by
        intro q hq
        rcases List.mem_append.mp hq with hq | hq
        · exact hQ q hq
        · rw [List.mem_singleton.mp hq]
          exact List.append_ne_nil_of_right_ne_nil _ (List.cons_ne_nil _ _)) h
      refine ⟨Q', rest, hr, hQ', ?_⟩
      rw [hflat, scaledWords, if_pos hvm]
      simp
    · simp only [ge_iff_le, hvm, if_false] at h
      obtain ⟨Q', rest, hr, hQ', hflat⟩ := foldl_scales scales Q m r hpos' hQ h
      exact ⟨Q', rest, hr, hQ', by rw [hflat, scaledWords, if_neg hvm]⟩

end Writer

theorem scaleWords_pos : ∀ p ∈ scaleWords, 0 < p.1 := by
  decide

/-- The words of a number's magnitude. -/
def magnitudeWordList (m : Nat) : List String :=
  if m = 0 then ["zero"] else scaledWords scaleWords m

/-- The words of a number: its magnitude's, after `minus` when it is negative. -/
def numberWordList (n : Int) : List String :=
  if n < 0 then "minus" :: magnitudeWordList n.natAbs else magnitudeWordList n.natAbs

theorem magnitudeWords_eq (m : Nat) : magnitudeWords m = " ".intercalate (magnitudeWordList m) := by
  unfold magnitudeWords magnitudeWordList
  by_cases hm : m = 0
  · rw [if_pos hm, if_pos hm, String.intercalate_singleton]
  · rw [if_neg hm, if_neg hm]
    generalize hfold : List.foldl _ ([], m) scaleWords = r
    obtain ⟨Q, rest, rfl, hQ, hflat⟩ :=
      foldl_scales (fun _ _ _ => rfl) scaleWords [] m r scaleWords_pos (by simp) hfold
    rw [List.flatten_nil, List.nil_append] at hflat
    rw [← hflat]
    by_cases hr : 0 < rest
    · -- the last group is a piece of its own
      simp only [gt_iff_lt, hr, if_true]
      rw [belowThousand_eq, show Q.map (" ".intercalate ·) ++ [" ".intercalate (groupWords rest)] =
        (Q ++ [groupWords rest]).map (" ".intercalate ·) by simp,
        intercalate_flatten _ _ (by
          intro q hq
          rcases List.mem_append.mp hq with hq | hq
          · exact hQ q hq
          · rw [List.mem_singleton.mp hq]
            exact groupWords_ne_nil hr)]
      simp
    · simp only [gt_iff_lt, hr, if_false, List.append_nil]
      rw [show rest = 0 by omega, groupWords_zero, List.append_nil, intercalate_flatten _ _ hQ]

theorem magnitudeWordList_ne_nil (m : Nat) : magnitudeWordList m ≠ [] := by
  unfold magnitudeWordList
  by_cases hm : m = 0
  · rw [if_pos hm]
    exact List.cons_ne_nil _ _
  · rw [if_neg hm]
    exact scaledWords_ne_nil _ (Nat.pos_of_ne_zero hm)

/-- The writer writes the words of `numberWordList`, one space between each two. -/
theorem numberWords_eq (n : Int) : numberWords n = " ".intercalate (numberWordList n) := by
  unfold numberWords numberWordList
  by_cases hn : n < 0
  · rw [if_pos hn, if_pos hn, magnitudeWords_eq,
      String.intercalate_cons_of_ne_nil (magnitudeWordList_ne_nil _)]
    rfl
  · rw [if_neg hn, if_neg hn, magnitudeWords_eq]

/-! ## Reading a number's words back -/

section Reading

variable {m : Nat} (hb : m < 1000 * topScale scaleWords)
include hb

theorem readPositive_scaledWords (hm : 0 < m) : readPositive (scaledWords scaleWords m) = some m := by
  rw [readPositive, readScaled_scaledWords scaleWords chained_scaleWords
    (fun p hp => (scaleWords_names p hp).2) scaleWords_nodup m hb]
  simp [hm]

theorem scaleWords_plain : ∀ w ∈ scaledWords scaleWords m, PlainWord w :=
  scaledWords_plain scaleWords chained_scaleWords (fun p hp => (scaleWords_names p hp).1) m hb

end Reading

/-- The words of every number within the scales read back to it. -/
theorem readNumber_numberWordList {n : Int} (hn : n.natAbs < 1000 * topScale scaleWords) :
    readNumber (numberWordList n) = some n := by
  unfold numberWordList magnitudeWordList
  rcases lt_trichotomy n 0 with hneg | rfl | hpos
  · -- `minus`, then the words of the magnitude
    rw [if_pos hneg, if_neg (by omega), readNumber, if_neg (fun h => absurd h.1 (by decide)),
      if_pos rfl, readPositive_scaledWords hn (by omega), Option.map_some]
    exact congrArg some (by omega)
  · decide
  · -- the first word is neither `zero` nor `minus`
    rw [if_neg (by omega), if_neg (by omega)]
    obtain ⟨w, ws, hws⟩ := List.exists_cons_of_ne_nil (scaledWords_ne_nil scaleWords
      (m := n.natAbs) (by omega))
    have hw : PlainWord w := scaleWords_plain hn w (by rw [hws]; exact List.mem_cons_self)
    have hread := readPositive_scaledWords hn (by omega)
    rw [hws] at hread ⊢
    rw [readNumber, if_neg (fun h => hw.2.2.1 h.1), if_neg hw.2.2.2, hread, Option.map_some]
    exact congrArg some (by omega)

/-- Every word of a number is a word, with no space in it, and `zero` only stands for zero. -/
theorem numberWordList_words {n : Int} (hn : n.natAbs < 1000 * topScale scaleWords) :
    ∀ w ∈ numberWordList n, w ≠ "" ∧ ' ' ∉ w.toList ∧ (n ≠ 0 → w ≠ "zero") := by
  intro w hw
  unfold numberWordList magnitudeWordList at hw
  by_cases hn0 : n = 0
  · subst hn0
    rw [if_neg (lt_irrefl 0), if_pos Int.natAbs_zero, List.mem_singleton] at hw
    subst hw
    exact ⟨by decide, by decide, fun h => absurd rfl h⟩
  · have hplain : ∀ w ∈ scaledWords scaleWords n.natAbs, PlainWord w := scaleWords_plain hn
    have hm : n.natAbs ≠ 0 := by omega
    by_cases hneg : n < 0
    · rw [if_pos hneg, if_neg hm, List.mem_cons] at hw
      rcases hw with rfl | hw
      · exact ⟨by decide, by decide, fun _ => by decide⟩
      · exact ⟨(hplain w hw).1, (hplain w hw).2.1, fun _ => (hplain w hw).2.2.1⟩
    · rw [if_neg hneg, if_neg hm] at hw
      exact ⟨(hplain w hw).1, (hplain w hw).2.1, fun _ => (hplain w hw).2.2.1⟩

theorem spaceWords_numberWords {n : Int} (hn : n.natAbs < 1000 * topScale scaleWords) :
    spaceWords (numberWords n) = numberWordList n := by
  rw [numberWords_eq, spaceWords_intercalate (fun w hw => (numberWordList_words hn w hw).2.1)]
  unfold numberWordList
  by_cases hneg : n < 0
  · rw [if_pos hneg]
    exact List.cons_ne_nil _ _
  · rw [if_neg hneg]
    exact magnitudeWordList_ne_nil _

theorem int64_natAbs_lt (n : Int64) : n.toInt.natAbs < 1000 * topScale scaleWords := by
  have h1 := Int64.le_toInt n
  have h2 := Int64.toInt_lt n
  have hscale : 1000 * topScale scaleWords = 1000000000000000000000 := rfl
  simp only [Int.reducePow, Int.reduceNeg] at h1 h2
  omega

/-- Every 64-bit integer is written as words, separated by single spaces, that read back to it:
none of them is empty, `zero` is written for zero alone, and no two numbers share their words. -/
theorem numberWords_read_back :
    numberWords 0 = "zero" ∧
      (∀ n : Int64, readNumber (spaceWords (numberWords n.toInt)) = some n.toInt ∧
        ∀ w ∈ spaceWords (numberWords n.toInt), w ≠ "" ∧ (n.toInt ≠ 0 → w ≠ "zero")) ∧
      Function.Injective fun n : Int64 => numberWords n.toInt := by
  have hread : ∀ n : Int64, readNumber (spaceWords (numberWords n.toInt)) = some n.toInt :=
    fun n => by rw [spaceWords_numberWords (int64_natAbs_lt n), readNumber_numberWordList (int64_natAbs_lt n)]
  refine ⟨by decide, fun n => ⟨hread n, ?_⟩, ?_⟩
  · intro w hw
    rw [spaceWords_numberWords (int64_natAbs_lt n)] at hw
    have h := numberWordList_words (int64_natAbs_lt n) w hw
    exact ⟨h.1, h.2.2⟩
  · -- the reader undoes the writer
    intro a b hab
    have h : some a.toInt = some b.toInt := by
      rw [← hread a, ← hread b]
      exact congrArg (fun s => readNumber (spaceWords s)) hab
    exact Int64.toInt_inj.mp (Option.some.inj h)

end Covenant.Text
