import Covenant.Proofs.Merge.Path
/-!
# Proper prefixes of an escaped path

Merging compares a source path with the destination's paths by their proper prefixes, the
text before each `.` that no odd run of backslashes escapes.  On a path written by
`joinPath` those dots are exactly the separators, so the proper prefixes of the path of
`ks` are the paths of the proper, non-empty prefixes of `ks` (`properPrefixes_joinPath`):
the escape parity that `properPrefixes` tracks is even after every escaped key.

That parity is the one the merge computes by looking behind each dot
(`properPrefixes_eq_prefixesBeforeDots`), and with the path written as the escaped keys
joined by `.`, both readings of it agree (`escaped_path_readings_agree`): `splitPath` gives
the keys back, and the proper prefixes are the paths of the keys' proper prefixes.
-/

namespace Covenant.Merge

/-- The non-empty proper prefixes of a list of keys, shortest first. -/
def properInits (ks : List String) : List (List String) :=
  (List.range (ks.length - 1)).map fun i => ks.take (i + 1)

theorem mem_properInits {ks ks' : List String} :
    ks' ∈ properInits ks ↔ ks' ≠ [] ∧ ks' <+: ks ∧ ks' ≠ ks := by
  simp only [properInits, List.mem_map, List.mem_range]
  constructor
  · rintro ⟨i, hi, rfl⟩
    refine ⟨?_, List.take_prefix _ _, ?_⟩
    · intro h
      have := congrArg List.length h
      rw [List.length_take, List.length_nil] at this
      omega
    · intro h
      have := congrArg List.length h
      simp at this
      omega
  · rintro ⟨hne, hpre, hneq⟩
    have hlen : ks'.length ≤ ks.length := hpre.length_le
    have hlt : ks'.length ≠ ks.length := fun h => hneq (hpre.eq_of_length h)
    have hpos : 0 < ks'.length := List.length_pos_iff.mpr hne
    refine ⟨ks'.length - 1, by omega, ?_⟩
    rw [Nat.sub_add_cancel hpos]
    exact (List.prefix_iff_eq_take.mp hpre).symm

/-- Reading escaped characters with no escape pending splits nothing and leaves no escape
pending. -/
theorem properPrefixes_go_escaped (cs rest seen : List Char) (acc : List String) :
    properPrefixes.go (cs.flatMap escapeChar ++ rest) seen false acc =
      properPrefixes.go rest ((cs.flatMap escapeChar).reverse ++ seen) false acc := by
  have hbd : ('\\' : Char) ≠ '.' := by decide
  induction cs generalizing seen with
  | nil => simp
  | cons c cs ih =>
      by_cases hb : c = '\\'
      · subst hb
        simp [escapeChar, properPrefixes.go, hbd, ih]
      · by_cases hd : c = '.'
        · subst hd
          simp [escapeChar, properPrefixes.go, hbd, ih]
        · simp [escapeChar, properPrefixes.go, hb, hd, ih]

/-- After a path `p`, each further `.`-separated key closes one more proper prefix. -/
theorem properPrefixes_go_joined (ks : List String) (p : String) (acc : List String) :
    properPrefixes.go (ks.flatMap fun k => '.' :: k.toList.flatMap escapeChar)
        p.toList.reverse false acc =
      acc.reverse ++ (List.range ks.length).map fun i => extendPath p (ks.take i) := by
  induction ks generalizing p acc with
  | nil => simp [properPrefixes.go]
  | cons k ks ih =>
      have hsep : (p ++ "." ++ escapeSegment k).toList.reverse =
          (k.toList.flatMap escapeChar).reverse ++ '.' :: p.toList.reverse := by
        simp [String.toList_append, toList_escapeSegment]
      rw [List.flatMap_cons, List.cons_append]
      simp only [properPrefixes.go, and_self, Bool.not_false, if_true]
      rw [properPrefixes_go_escaped, ← hsep, ih, List.length_cons, List.range_succ_eq_map]
      simp [String.ofList_toList, Function.comp_def]

/-- The proper prefixes of a joined path are the paths of the keys' proper prefixes. -/
theorem properPrefixes_joinPath (ks : List String) :
    properPrefixes (joinPath ks) = (properInits ks).map joinPath := by
  cases ks with
  | nil => simp [joinPath, properPrefixes, properPrefixes.go, properInits]
  | cons k ks =>
      rw [properPrefixes, joinPath_cons, toList_extendPath, toList_escapeSegment,
        properPrefixes_go_escaped, List.append_nil]
      have hk : (k.toList.flatMap escapeChar).reverse = (escapeSegment k).toList.reverse := by
        rw [toList_escapeSegment]
      rw [hk, properPrefixes_go_joined]
      simp [properInits, Function.comp_def]

/-! ## The look-behind reading

The merge decides whether a `.` at index `i` separates keys by counting the backslashes
right before it; `properPrefixes` carries that parity along as it scans. -/

/-- Whether the text before index `i` ends in an odd run of backslashes, so that the
character at `i` is escaped: the look-behind test of the merge. -/
def escapedAt (cs : List Char) (i : Nat) : Bool :=
  ((cs.take i).reverse.takeWhile (· = '\\')).length % 2 == 1

/-- Whether index `i` holds a `.` that `escapedAt` leaves unescaped. -/
def unescapedDot (cs : List Char) (i : Nat) : Bool :=
  cs[i]? == some '.' && !escapedAt cs i

/-- The text before each unescaped `.`, found by looking behind each dot. -/
def prefixesBeforeDots (cs : List Char) : List String :=
  ((List.range cs.length).filter (unescapedDot cs)).map fun i => String.ofList (cs.take i)

/-- Whether a text read backwards starts with an odd run of backslashes. -/
def oddRun (seen : List Char) : Bool :=
  (seen.takeWhile (· = '\\')).length % 2 == 1

theorem oddRun_cons_backslash (seen : List Char) :
    oddRun ('\\' :: seen) = !oddRun seen := by
  have hrun : ('\\' :: seen).takeWhile (· = '\\') = '\\' :: seen.takeWhile (· = '\\') :=
    List.takeWhile_cons_of_pos (by simp)
  rw [oddRun, oddRun, hrun, List.length_cons]
  rcases Nat.mod_two_eq_zero_or_one (seen.takeWhile (· = '\\')).length with h | h <;>
    simp [Nat.add_mod, h]

theorem oddRun_cons_of_ne {c : Char} (seen : List Char) (hc : c ≠ '\\') :
    oddRun (c :: seen) = false := by
  simp [oddRun, hc]

theorem unescapedDot_length (seen rest : List Char) (c : Char) :
    unescapedDot (seen.reverse ++ c :: rest) seen.length = (c == '.' && !oddRun seen) := by
  simp [unescapedDot, escapedAt, oddRun, List.take_left']

/-- The scan of `properPrefixes` keeps, as its flag, the parity that `escapedAt` recomputes
at each dot; `full` is the whole path, `seen` the part already read, backwards. -/
theorem properPrefixes_go_lookBehind (full : List Char) (cs seen : List Char)
    (acc : List String) (hfull : full = seen.reverse ++ cs) :
    properPrefixes.go cs seen (oddRun seen) acc =
      acc.reverse ++ ((List.range' seen.length cs.length).filter (unescapedDot full)).map
        fun i => String.ofList (full.take i) := by
  induction cs generalizing seen acc with
  | nil => simp [properPrefixes.go]
  | cons c rest ih =>
      have hnext : full = (c :: seen).reverse ++ rest := by simp [hfull]
      have hhere := unescapedDot_length seen rest c
      rw [← hfull] at hhere
      have htake : String.ofList (full.take seen.length) = String.ofList seen.reverse := by
        simp [hfull, List.take_left']
      rw [List.length_cons, List.range'_succ, List.filter_cons, hhere]
      by_cases hdot : c = '.' ∧ oddRun seen = false
      · obtain ⟨rfl, hodd⟩ := hdot
        have hflag : false = oddRun ('.' :: seen) := (oddRun_cons_of_ne seen (by decide)).symm
        simp only [properPrefixes.go, hodd, Bool.not_false, and_self, if_true]
        rw [hflag, ih _ _ hnext]
        simp [htake]
      · have hskip : (c == '.' && !oddRun seen) = false := by
          cases hc : oddRun seen <;> simp_all
        rw [hskip, if_neg Bool.false_ne_true]
        by_cases hb : c = '\\'
        · subst hb
          have hflag : (!oddRun seen) = oddRun ('\\' :: seen) := (oddRun_cons_backslash seen).symm
          have hne : ¬('\\' = '.' ∧ (!oddRun seen) = true) := fun h => absurd h.1 (by decide)
          rw [properPrefixes.go, if_neg hne, if_pos rfl, hflag, ih _ _ hnext, List.length_cons]
        · have hne : ¬(c = '.' ∧ (!oddRun seen) = true) := by
            cases hc : oddRun seen <;> simp_all
          rw [properPrefixes.go, if_neg hne, if_neg hb, ← oddRun_cons_of_ne seen hb, ih _ _ hnext,
            List.length_cons]

/-- Tracking the backslash parity while scanning finds the same dots as looking behind
each one. -/
theorem properPrefixes_eq_prefixesBeforeDots (path : String) :
    properPrefixes path = prefixesBeforeDots path.toList := by
  have h := properPrefixes_go_lookBehind path.toList path.toList [] [] (by simp)
  rw [properPrefixes, show false = oddRun [] from rfl, h, prefixesBeforeDots, List.range_eq_range']
  rfl

/-- A path continued by more keys is the keys' escaped segments after it, joined by `.`. -/
theorem extendPath_eq_intercalate (path : String) (ks : List String) :
    extendPath path ks = ".".intercalate (path :: ks.map escapeSegment) := by
  induction ks generalizing path with
  | nil => simp
  | cons k ks ih =>
      rw [extendPath_cons, ih, List.map_cons, String.intercalate_cons_append,
        String.intercalate_cons_cons]

/-- The path of a list of keys is their escaped segments joined by `.`. -/
theorem joinPath_eq_intercalate (ks : List String) :
    joinPath ks = ".".intercalate (ks.map escapeSegment) := by
  cases ks with
  | nil => simp [joinPath]
  | cons k ks => rw [joinPath_cons, extendPath_eq_intercalate, List.map_cons]

/-- The two readings of a path written from keys agree: `splitPath`, which consumes escape
pairs from the left, gives the keys back, and `properPrefixes`, which tracks the parity of
the backslashes before each `.`, ends a prefix exactly at the dots written between keys. -/
theorem escaped_path_readings_agree {ks : List String} (hks : ks ≠ []) :
    splitPath (".".intercalate (ks.map escapeSegment)) = ks ∧
      properPrefixes (".".intercalate (ks.map escapeSegment)) =
        (properInits ks).map fun ks' => ".".intercalate (ks'.map escapeSegment) := by
  have hjoin : joinPath = fun ks' => ".".intercalate (ks'.map escapeSegment) :=
    funext joinPath_eq_intercalate
  rw [← joinPath_eq_intercalate, ← hjoin]
  exact ⟨splitPath_joinPath hks, properPrefixes_joinPath ks⟩

/-- Keys made of dots and backslashes, one of them ending in a backslash. -/
theorem escaped_path_readings_agree_awkward_keys :
    ["a.b", "c\\", "", "..\\."] ≠ [] ∧
      splitPath (".".intercalate (["a.b", "c\\", "", "..\\."].map escapeSegment)) =
        ["a.b", "c\\", "", "..\\."] ∧
      properPrefixes (".".intercalate (["a.b", "c\\", "", "..\\."].map escapeSegment)) =
        (properInits ["a.b", "c\\", "", "..\\."]).map
          fun ks' => ".".intercalate (ks'.map escapeSegment) :=
  ⟨by simp, escaped_path_readings_agree (by simp)⟩

end Covenant.Merge
