import Covenant.Merge.Flat
/-!
# Paths of keys

A flat path is the keys along the way to a leaf, each written with `escapeSegment` and
joined by `.`.  This module gives that writing a name, `joinPath`, and proves that reading
a path back with `splitPath` undoes it for every non-empty list of keys, whatever the keys
hold: the empty key, dots, backslashes, a backslash before a dot.  Distinct lists of keys
therefore have distinct paths (`joinPath_inj`).

Flattening builds a path one key at a time (`path ++ "." ++ escapeSegment k`);
`extendPath` is that construction, and `joinPath` starts it at the first key, so the paths
that flattening writes are `joinPath` of their keys by definition.
-/

namespace Covenant.Merge

/-- A character as written inside a path segment: `\` and `.` get a backslash before them. -/
def escapeChar (c : Char) : List Char :=
  if c = '\\' then ['\\', '\\'] else if c = '.' then ['\\', '.'] else [c]

/-- The characters of an escaped key are those of the key, each escaped. -/
theorem toList_escapeSegment (k : String) :
    (escapeSegment k).toList = k.toList.flatMap escapeChar := by
  simp only [escapeSegment, String.toList_join, List.flatMap_map]
  congr 1
  funext c
  unfold escapeChar
  split
  · rfl
  · split
    · rfl
    · simp

/-- A path continued by more keys, each escaped and after a `.`. -/
def extendPath (path : String) (ks : List String) : String :=
  ks.foldl (fun p k => p ++ "." ++ escapeSegment k) path

/-- The path of a list of keys. -/
def joinPath : List String → String
  | [] => ""
  | k :: ks => extendPath (escapeSegment k) ks

@[simp] theorem extendPath_nil (path : String) : extendPath path [] = path := rfl

@[simp] theorem extendPath_cons (path k : String) (ks : List String) :
    extendPath path (k :: ks) = extendPath (path ++ "." ++ escapeSegment k) ks := rfl

@[simp] theorem joinPath_cons (k : String) (ks : List String) :
    joinPath (k :: ks) = extendPath (escapeSegment k) ks := rfl

/-- The characters of a continued path. -/
theorem toList_extendPath (path : String) (ks : List String) :
    (extendPath path ks).toList =
      path.toList ++ ks.flatMap fun k => '.' :: k.toList.flatMap escapeChar := by
  induction ks generalizing path with
  | nil => simp
  | cons k ks ih =>
      rw [extendPath_cons, ih]
      simp [String.toList_append, toList_escapeSegment]

/-- Reading escaped characters takes each original character into the current segment. -/
theorem splitPath_go_escaped (cs rest cur : List Char) (acc : List String) :
    splitPath.go (cs.flatMap escapeChar ++ rest) cur acc =
      splitPath.go rest (cs.reverse ++ cur) acc := by
  induction cs generalizing cur with
  | nil => simp
  | cons c cs ih =>
      by_cases hb : c = '\\'
      · subst hb
        simp only [List.flatMap_cons, escapeChar, if_true, List.cons_append, List.nil_append]
        rw [splitPath.go.eq_2, ih]
        simp
      · by_cases hd : c = '.'
        · subst hd
          have hne : ('.' : Char) ≠ '\\' := by decide
          simp only [List.flatMap_cons, escapeChar, hne, if_true, if_false, List.cons_append,
            List.nil_append]
          rw [splitPath.go.eq_2, ih]
          simp
        · simp only [List.flatMap_cons, escapeChar, hb, hd, if_false, List.cons_append,
            List.nil_append]
          rw [splitPath.go.eq_5 _ _ c _ (fun _ _ h _ => hb h) (fun h _ => hb h) hd, ih]
          simp

/-- Reading the rest of a joined path: each `.` closes the segment read so far. -/
theorem splitPath_go_joined (k : String) (ks : List String) (acc : List String) :
    splitPath.go (k.toList.flatMap escapeChar ++
        ks.flatMap fun k' => '.' :: k'.toList.flatMap escapeChar) [] acc =
      acc.reverse ++ k :: ks := by
  induction ks generalizing k acc with
  | nil =>
      rw [List.flatMap_nil, splitPath_go_escaped, splitPath.go.eq_1]
      simp [String.ofList_toList]
  | cons k' ks ih =>
      rw [List.flatMap_cons, List.cons_append, splitPath_go_escaped, splitPath.go.eq_4, ih]
      simp [String.ofList_toList]

/-- Splitting a joined path gives back its keys. -/
theorem splitPath_joinPath {ks : List String} (h : ks ≠ []) : splitPath (joinPath ks) = ks := by
  obtain ⟨k, ks, rfl⟩ := List.exists_cons_of_ne_nil h
  rw [splitPath, joinPath_cons, toList_extendPath, toList_escapeSegment, splitPath_go_joined]
  simp

/-- Distinct non-empty lists of keys have distinct paths. -/
theorem joinPath_inj {ks ks' : List String} (h : ks ≠ []) (h' : ks' ≠ [])
    (heq : joinPath ks = joinPath ks') : ks = ks' := by
  rw [← splitPath_joinPath h, ← splitPath_joinPath h', heq]

end Covenant.Merge
