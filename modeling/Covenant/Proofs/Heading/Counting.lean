import Covenant.Heading.Number
import Mathlib.Data.List.Induction
/-!
# The counting law of header numbering

Numbering walks the header lines of a document and counts each one with
`Counters.advance`: the counters of the deeper levels are zeroed first (when resetting is on
and the level is not exempt), then the header's own counter goes up by one, stopping at
`counterLimit`.  A header line at level `l` is the step `⟨l, !noReset, resetExempt⟩`.

The law proved here says what a counter holds after any run of such steps, whatever the
levels (clamped to `1..5`), reset flags and exemptions:

    (Counters.run steps).get L = min (sinceZeroed steps L) counterLimit

where `sinceZeroed steps L` counts the steps at level `L` after the last step that zeroes
`L`.  The law is stated through the reversed history, not through `advance`, so it reads
as the numbering a reader expects: headers at one level count 1, 2, 3, … until a resetting
shallower header zeroes the level; with resetting off nothing zeroes a level, so counting
goes on across shallower headers; and a counter never wraps.
-/

namespace Covenant.Heading

/-- One counted header: its level (any number, clamped to `1..5` when counted), whether
deeper counters reset, and which levels are exempt from resetting. -/
structure Step where
  level : Nat
  reset : Bool
  exempt : List Bool

namespace Step

/-- Whether a step zeroes the counter of level `L`: it is shallower than `L`, it resets, and
`L` is not exempt. -/
def zeroes (s : Step) (L : Nat) : Bool :=
  decide (clampLevel s.level < L) && s.reset && !(s.exempt[L - 1]?).getD false

/-- Whether a step counts at level `L`. -/
def countsAt (s : Step) (L : Nat) : Bool :=
  decide (clampLevel s.level = L)

/-- A step counting at `L` never zeroes `L`. -/
theorem zeroes_of_countsAt {s : Step} {L : Nat} (h : s.countsAt L = true) :
    s.zeroes L = false := by
  simp only [countsAt, decide_eq_true_eq] at h
  simp [zeroes, h]

end Step

/-- The counters after counting a run of steps from all zero. -/
def Counters.run (steps : List Step) : Counters :=
  steps.foldl (fun c s => c.advance s.level s.reset s.exempt) {}

/-- The number of steps at level `L` after the last step that zeroes `L` (all of them when
none does). -/
def sinceZeroed (steps : List Step) (L : Nat) : Nat :=
  ((steps.reverse.takeWhile fun s => !s.zeroes L).filter (·.countsAt L)).length

@[simp] theorem Counters.run_nil : Counters.run [] = {} := rfl

/-- Every counter starts at zero. -/
@[simp] theorem Counters.get_default (L : Nat) : ({} : Counters).get L = 0 := by
  show (List.replicate 5 0)[clampLevel L - 1]?.getD 0 = 0
  rw [List.getElem?_replicate]
  split <;> rfl

theorem Counters.run_append_singleton (steps : List Step) (s : Step) :
    Counters.run (steps ++ [s]) = (Counters.run steps).advance s.level s.reset s.exempt := by
  simp [Counters.run, List.foldl_append]

@[simp] theorem sinceZeroed_nil (L : Nat) : sinceZeroed [] L = 0 := rfl

/-- One more step either zeroes the count, adds one to it, or leaves it. -/
theorem sinceZeroed_append_singleton (steps : List Step) (s : Step) (L : Nat) :
    sinceZeroed (steps ++ [s]) L =
      if s.zeroes L then 0
      else if s.countsAt L then sinceZeroed steps L + 1 else sinceZeroed steps L := by
  unfold sinceZeroed
  by_cases hz : s.zeroes L
  · simp [hz]
  · by_cases hc : s.countsAt L
    · simp [hz, hc]
    · simp [hz, hc]

/-- A clamped level in `1..5` is itself. -/
theorem clampLevel_of_le {L : Nat} (h1 : 1 ≤ L) (h5 : L ≤ 5) : clampLevel L = L := by
  unfold clampLevel
  omega

/-- The step lemma: what counting one header does to the counter of a level `L` in `1..5`. -/
theorem Counters.get_advance (c : Counters) (s : Step) {L : Nat} (h1 : 1 ≤ L) (h5 : L ≤ 5) :
    (c.advance s.level s.reset s.exempt).get L =
      if s.zeroes L then 0
      else if s.countsAt L then min (c.get L + 1) counterLimit else c.get L := by
  have hidx : L - 1 < 5 := by omega
  have hcl : clampLevel s.level - 1 = L - 1 ↔ clampLevel s.level = L := by
    unfold clampLevel
    omega
  have hlt : L - 1 > clampLevel s.level - 1 ↔ clampLevel s.level < L := by
    unfold clampLevel
    omega
  simp only [advance, get, clampLevel_of_le h1 h5, List.getElem?_map, List.getElem?_range hidx,
    Option.map_some, Option.getD_some]
  by_cases hc : s.countsAt L
  · have hc' : clampLevel s.level = L := by simpa [Step.countsAt] using hc
    simp [Step.zeroes_of_countsAt hc, hc, hc']
  · have hc' : clampLevel s.level ≠ L := by simpa [Step.countsAt] using hc
    have hne : ¬ L - 1 = clampLevel s.level - 1 := fun h => hc' (hcl.mp h.symm)
    simp only [hne, if_false, hc, Bool.false_eq_true]
    by_cases hz : s.zeroes L
    · simp only [Step.zeroes, Bool.and_eq_true, decide_eq_true_eq, Bool.not_eq_true'] at hz
      simp [hz.1.1, hz.1.2, hz.2, hlt.mpr hz.1.1, Step.zeroes]
    · have hz' : ¬ (s.reset = true ∧ L - 1 > clampLevel s.level - 1 ∧
          (s.exempt[L - 1]?).getD false = false) := by
        rintro ⟨hr, hl, he⟩
        exact hz (by simp [Step.zeroes, hr, he, hlt.mp hl])
      simp [hz, hz']

/-- With no step of `more` zeroing `L`, the count runs on from where `steps` left it. -/
theorem sinceZeroed_append_of_not_zeroes (steps more : List Step) {L : Nat}
    (h : ∀ s ∈ more, s.zeroes L = false) :
    sinceZeroed (steps ++ more) L = sinceZeroed steps L + (more.filter (·.countsAt L)).length := by
  have hkeep : ∀ s ∈ more.reverse, (!s.zeroes L) = true := by
    intro s hs
    simp [h s (List.mem_reverse.mp hs)]
  simp only [sinceZeroed, List.reverse_append, List.takeWhile_append_of_pos hkeep,
    List.filter_append, List.length_append, List.filter_reverse, List.length_reverse]
  omega

/-- After a step that zeroes `L`, only the steps at `L` that follow it count. -/
theorem sinceZeroed_after_zeroing (steps more : List Step) {z : Step} {L : Nat}
    (hz : z.zeroes L = true) (h : ∀ s ∈ more, s.zeroes L = false) :
    sinceZeroed (steps ++ z :: more) L = (more.filter (·.countsAt L)).length := by
  rw [← List.singleton_append, ← List.append_assoc, sinceZeroed_append_of_not_zeroes _ _ h,
    sinceZeroed_append_singleton]
  simp [hz]

/-- **The counting law.**  After any run of headers, with any levels, reset flags and
exemptions, the counter of a level `L` in `1..5` is the number of headers at `L` since the
last header that zeroed it, capped at the largest 32-bit value. -/
theorem Counters.get_run (steps : List Step) (L : Nat) (h1 : 1 ≤ L) (h5 : L ≤ 5) :
    (Counters.run steps).get L = min (sinceZeroed steps L) counterLimit := by
  induction steps using List.reverseRecOn with
  | nil => simp
  | append_singleton steps s ih =>
      rw [Counters.run_append_singleton, Counters.get_advance _ s h1 h5,
        sinceZeroed_append_singleton, ih]
      by_cases hz : s.zeroes L
      · simp [hz]
      · by_cases hc : s.countsAt L
        · simp only [hz, hc, if_false, if_true, Bool.false_eq_true]
          omega
        · simp [hz, hc]

/-- The law on a run with levels out of range (0 counts at level 1, 9 at level 5) and a
second-level header that leaves the exempt third level alone: the third counter stands at
the three headers at level 3 since the one at level 0. -/
theorem Counters.get_run_clamped_exempt :
    1 ≤ 3 ∧ 3 ≤ 5 ∧
      (Counters.run [⟨3, true, []⟩, ⟨0, true, []⟩, ⟨3, true, []⟩, ⟨9, true, []⟩,
        ⟨2, true, [false, false, true]⟩, ⟨3, true, []⟩, ⟨3, false, []⟩]).get 3 =
      min (sinceZeroed [⟨3, true, []⟩, ⟨0, true, []⟩, ⟨3, true, []⟩, ⟨9, true, []⟩,
        ⟨2, true, [false, false, true]⟩, ⟨3, true, []⟩, ⟨3, false, []⟩] 3) counterLimit :=
  ⟨by decide, by decide, Counters.get_run _ 3 (by decide) (by decide)⟩

example : sinceZeroed [⟨3, true, []⟩, ⟨0, true, []⟩, ⟨3, true, []⟩, ⟨9, true, []⟩,
    ⟨2, true, [false, false, true]⟩, ⟨3, true, []⟩, ⟨3, false, []⟩] 3 = 3 := by decide

/-- A counter reads the same at a level and at its clamped level. -/
theorem Counters.get_clampLevel (c : Counters) (L : Nat) : c.get (clampLevel L) = c.get L := by
  have h : clampLevel (clampLevel L) = clampLevel L := by
    unfold clampLevel
    omega
  simp only [Counters.get, h]

/-- No counter ever wraps: each stays at most `counterLimit`. -/
theorem Counters.get_run_le (steps : List Step) (L : Nat) :
    (Counters.run steps).get L ≤ counterLimit := by
  have h1 : 1 ≤ clampLevel L := by
    unfold clampLevel
    omega
  have h5 : clampLevel L ≤ 5 := by
    unfold clampLevel
    omega
  rw [← Counters.get_clampLevel, get_run steps _ h1 h5]
  exact Nat.min_le_right _ _

/-- Under a header that zeroes `L`, the headers at `L` count again from one: the counter is
the number of those since it, so long as no later header zeroes `L` again. -/
theorem Counters.get_run_after_zeroing (steps more : List Step) {z : Step} {L : Nat}
    (h1 : 1 ≤ L) (h5 : L ≤ 5) (hz : z.zeroes L = true) (h : ∀ s ∈ more, s.zeroes L = false) :
    (Counters.run (steps ++ z :: more)).get L =
      min (more.filter (·.countsAt L)).length counterLimit := by
  rw [get_run _ L h1 h5, sinceZeroed_after_zeroing steps more hz h]

/-- With resetting off, nothing zeroes a level: every header at `L` counts, across any
shallower headers. -/
theorem Counters.get_run_of_no_reset (steps : List Step) {L : Nat} (h1 : 1 ≤ L) (h5 : L ≤ 5)
    (h : ∀ s ∈ steps, s.reset = false) :
    (Counters.run steps).get L = min (steps.filter (·.countsAt L)).length counterLimit := by
  have hz : ∀ s ∈ steps, s.zeroes L = false := by
    intro s hs
    simp [Step.zeroes, h s hs]
  rw [get_run _ L h1 h5, ← List.nil_append steps, sinceZeroed_append_of_not_zeroes _ _ hz]
  simp

end Covenant.Heading
