import Covenant.Proofs.Tracking.Spans
/-!
# What a marker gives back

`markField` strips the markers that a field and a text already carry before it wraps them, so
what a marker holds is the *stripped* field `f' = stripMarkers f` and text
`t' = stripMarkers t`.  Stripping removes whole markers: an opening marker goes with its
header up to the separator, a closing marker on its own, and a text with no opening marker is
left as it is.  A stray separator or closing marker therefore survives stripping, and the
scanner that reads markers back ends a field at the first separator and a marker at the first
closing marker.

So a marker reads back when its stripped field holds neither a separator nor a closing marker
and its stripped text no closing marker (`Tracked.ReadsBack`).  Then (`markField_reads_back`):

* stripping the marker gives the stripped text back;
* annotating it gives exactly the span of the stripped field and text, and a report with the
  one entry `(f', status, 1)`;
* a document of plain texts without marker characters and such markers is annotated into the
  plain texts and the spans in their order, with a report that lists each field and status
  once, in order of first appearance, with the number of times it was seen
  (`FieldReport.tally`).

`markField_marker_characters` shows that the stripped forms are needed: marker characters are
not merely dropped, and a stray separator moves the span's boundary.
-/

namespace Covenant

namespace Marker

/-- Stripping leaves no opening marker, after a header is skipped or not. -/
theorem opening_not_mem_strip (cs : List Char) : opening ∉ stripChars cs ∧ opening ∉ skipHeader cs := by
  induction cs with
  | nil => simp [stripChars, skipHeader]
  | cons c cs ih =>
      obtain ⟨hstrip, hskip⟩ := ih
      constructor
      · rw [stripChars]
        split
        · exact hskip
        split
        · exact hstrip
        · rename_i hopen _
          exact fun h => (List.mem_cons.mp h).elim (fun h' => hopen h'.symm) hstrip
      · rw [skipHeader]
        split
        · exact hstrip
        · exact hskip

/-- Characters with no opening or closing marker pass through stripping. -/
theorem stripChars_append_of_plain {cs : List Char} (h : ∀ c ∈ cs, c ≠ opening ∧ c ≠ closing)
    (rest : List Char) : stripChars (cs ++ rest) = cs ++ stripChars rest := by
  induction cs with
  | nil => rfl
  | cons c cs ih =>
      obtain ⟨hopen, hclose⟩ := h c List.mem_cons_self
      rw [List.cons_append, stripChars, if_neg hopen, if_neg hclose,
        ih fun d hd => h d (List.mem_cons_of_mem c hd), List.cons_append]

/-- A header ends at its first separator. -/
theorem skipHeader_append_separator {cs : List Char} (h : separator ∉ cs) (rest : List Char) :
    skipHeader (cs ++ separator :: rest) = stripChars rest := by
  induction cs with
  | nil => rw [List.nil_append, skipHeader, if_pos rfl]
  | cons c cs ih =>
      have hc : c ≠ separator := fun hc => h (hc ▸ List.mem_cons_self)
      rw [List.cons_append, skipHeader, if_neg hc, ih fun hs => h (List.mem_cons_of_mem c hs)]

end Marker

/-- A text with an opening marker is stripped character by character. -/
theorem stripMarkers_of_mem {s : String} (h : Marker.opening ∈ s.toList) :
    stripMarkers s = String.ofList (Marker.stripChars s.toList) := by
  unfold stripMarkers
  rw [if_pos (List.elem_iff.mpr h)]

/-- A stripped text holds no opening marker. -/
theorem opening_not_mem_stripMarkers (s : String) : Marker.opening ∉ (stripMarkers s).toList := by
  by_cases h : Marker.opening ∈ s.toList
  · rw [stripMarkers_of_mem h, String.toList_ofList]
    exact (Marker.opening_not_mem_strip _).1
  · rwa [stripMarkers_of_not_mem h]

/-- Stripping twice strips no more. -/
@[simp] theorem stripMarkers_stripMarkers (s : String) : stripMarkers (stripMarkers s) = stripMarkers s :=
  stripMarkers_of_not_mem (opening_not_mem_stripMarkers s)

/-- The characters of a marker: the status letter, the stripped field, the separator, the
stripped text. -/
theorem toList_markField_stripped (status : FieldStatus) (field text : String) :
    (markField status field text).toList =
      Marker.opening :: status.code :: (stripMarkers field).toList ++
        Marker.separator :: (stripMarkers text).toList ++ [Marker.closing] := by
  unfold markField
  simp [String.toList_append]

theorem FieldStatus.code_ne_separator (status : FieldStatus) : status.code ≠ Marker.separator := by
  cases status <;> decide

/-- Stripping a marker gives its stripped text back, provided the stripped field holds no
separator to end the header early and the stripped text no closing marker to be dropped. -/
theorem stripMarkers_markField (status : FieldStatus) {field text : String}
    (hf : Marker.separator ∉ (stripMarkers field).toList)
    (ht : Marker.closing ∉ (stripMarkers text).toList) :
    stripMarkers (markField status field text) = stripMarkers text := by
  have hopen : Marker.opening ∈ (markField status field text).toList := by
    rw [toList_markField_stripped]
    exact List.mem_cons_self
  have hplain : ∀ c ∈ (stripMarkers text).toList, c ≠ Marker.opening ∧ c ≠ Marker.closing :=
    fun c hc => ⟨fun h => opening_not_mem_stripMarkers text (h ▸ hc), fun h => ht (h ▸ hc)⟩
  rw [stripMarkers_of_mem hopen, toList_markField_stripped]
  -- the header runs from the status letter to the separator after the field
  simp only [List.cons_append, List.append_assoc]
  rw [Marker.stripChars, if_pos rfl, Marker.skipHeader, if_neg (FieldStatus.code_ne_separator status),
    Marker.skipHeader_append_separator hf, Marker.stripChars_append_of_plain hplain,
    Marker.stripChars, if_neg (show Marker.closing ≠ Marker.opening by decide), if_pos rfl,
    Marker.stripChars, List.append_nil, String.ofList_toList]

/-! ## Stretches whose markers read back -/

namespace Tracked

/-- The stretch as its marker holds it: a field's name and text stripped of markers. -/
def stripped : Tracked → Tracked
  | plain t => plain t
  | field s n v => field s (stripMarkers n) (stripMarkers v)

/-- The stretch reads back: plain text with no marker character, or a field whose stripped
name holds neither a separator nor a closing marker and whose stripped text holds no closing
marker. -/
def ReadsBack : Tracked → Prop
  | plain t => Marker.Free t.toList
  | field _ n v => Marker.separator ∉ (stripMarkers n).toList ∧
      Marker.closing ∉ (stripMarkers n).toList ∧ Marker.closing ∉ (stripMarkers v).toList

instance : DecidablePred ReadsBack
  | plain t => inferInstanceAs (Decidable (Marker.Free t.toList))
  | field _ n v => inferInstanceAs (Decidable (Marker.separator ∉ (stripMarkers n).toList ∧
      Marker.closing ∉ (stripMarkers n).toList ∧ Marker.closing ∉ (stripMarkers v).toList))

/-- The field a stretch reports, with its status. -/
def key? : Tracked → Option (String × FieldStatus)
  | plain _ => none
  | field s n _ => some (n, s)

/-- Recording stretches one after another records the fields they report, in order. -/
theorem foldl_record (ps : List Tracked) (r : FieldReport) :
    ps.foldl record r = (ps.filterMap key?).foldl (fun r k => r.record k.1 k.2) r := by
  induction ps generalizing r with
  | nil => rfl
  | cons p ps ih =>
      cases p with
      | plain t => exact ih r
      | field s n v => exact ih (r.record n s)

end Tracked

section Document

variable {rest : List Char} {r : FieldReport}

/-- A stretch that reads back is scanned into what its stripped form shows, its stripped field
recorded. -/
theorem annotateChars_readsBack {p : Tracked} (hp : p.ReadsBack) :
    annotateChars (p.marked.toList ++ rest) r =
      (p.stripped.shown.toList ++ (annotateChars rest (p.stripped.record r)).1,
        (annotateChars rest (p.stripped.record r)).2) := by
  cases p with
  | plain t => exact annotateChars_append (Marker.opening_not_mem hp)
  | field s n v =>
      obtain ⟨hsep, hclose, htext⟩ := hp
      have hfield : ∀ c ∈ (stripMarkers n).toList, c ≠ Marker.separator ∧ c ≠ Marker.closing :=
        fun c hc => ⟨fun h => hsep (h ▸ hc), fun h => hclose (h ▸ hc)⟩
      rw [Tracked.marked, toList_markField_stripped s, List.append_assoc, List.singleton_append,
        annotateChars_marker s hfield htext, String.ofList_toList, String.ofList_toList]
      rfl

/-- Stretches that read back are scanned one after another. -/
theorem annotateChars_readsBack_all {ps : List Tracked} (hps : ∀ p ∈ ps, p.ReadsBack)
    (rest : List Char) (r : FieldReport) :
    annotateChars ((String.join (ps.map Tracked.marked)).toList ++ rest) r =
      ((String.join ((ps.map Tracked.stripped).map Tracked.shown)).toList ++
          (annotateChars rest ((ps.map Tracked.stripped).foldl Tracked.record r)).1,
        (annotateChars rest ((ps.map Tracked.stripped).foldl Tracked.record r)).2) := by
  induction ps generalizing r with
  | nil => simp
  | cons p ps ih =>
      rw [List.map_cons, List.map_cons, List.map_cons, String.join_cons, String.join_cons,
        String.toList_append, String.toList_append, List.append_assoc,
        annotateChars_readsBack (hps p List.mem_cons_self),
        ih (fun q hq => hps q (List.mem_cons_of_mem p hq)), List.foldl_cons, List.append_assoc]

end Document

/-! ## The report, field by field -/

namespace FieldReport

/-- The report for fields seen in this order: each name and status once, in order of first
appearance, with the number of times it was seen. -/
def tally (seen : List (String × FieldStatus)) : FieldReport :=
  ⟨seen.eraseDups.map fun k => ⟨k.1, k.2, seen.count k⟩⟩

/-- Recording one more field is tallying it too. -/
theorem record_tally (seen : List (String × FieldStatus)) (k : String × FieldStatus) :
    (tally seen).record k.1 k.2 = tally (seen ++ [k]) := by
  have hhit : ∀ x : String × FieldStatus,
      (Hit k.1 k.2 ⟨x.1, x.2, seen.count x⟩ = true ↔ x = k) := fun x => hit_iff
  unfold record tally
  dsimp only
  by_cases hk : k ∈ seen
  · -- seen before: its entry counts once more and the order stays
    have hdups : (seen ++ [k]).eraseDups = seen.eraseDups := by
      rw [List.eraseDups_append, List.removeAll, List.filter_singleton]
      simp [hk]
    have hany : (seen.eraseDups.map fun k => (⟨k.1, k.2, seen.count k⟩ : TrackedField)).any
        (fun f => f.name == k.1 && f.status == k.2) = true :=
      List.any_eq_true.mpr ⟨⟨k.1, k.2, seen.count k⟩,
        List.mem_map.mpr ⟨k, List.mem_eraseDups.mpr hk, rfl⟩, (hhit k).mpr rfl⟩
    rw [if_pos hany, hdups, List.map_map]
    congr 1
    refine List.map_congr_left fun x _ => ?_
    rw [Function.comp_apply, List.count_append, List.count_singleton]
    by_cases hx : x = k
    · subst hx
      simp
    · have hmiss : (x.1 == k.1 && x.2 == k.2) = false :=
        Bool.eq_false_iff.mpr fun h => hx ((hhit x).mp h)
      simp [hmiss, Ne.symm hx]
  · -- a new field goes last, seen once
    have hdups : (seen ++ [k]).eraseDups = seen.eraseDups ++ [k] := by
      rw [List.eraseDups_append, List.removeAll, List.filter_singleton]
      simp [hk, List.eraseDups_cons]
    have hnone : ¬ (seen.eraseDups.map fun k => (⟨k.1, k.2, seen.count k⟩ : TrackedField)).any
        (fun f => f.name == k.1 && f.status == k.2) = true := by
      rw [List.any_eq_true]
      rintro ⟨f, hf, hmatch⟩
      obtain ⟨x, hx, rfl⟩ := List.mem_map.mp hf
      exact hk (List.mem_eraseDups.mp ((hhit x).mp hmatch ▸ hx))
    rw [if_neg hnone, hdups, List.map_append, List.map_singleton]
    congr 1
    congr 1
    · refine List.map_congr_left fun x hx => ?_
      have hxk : x ≠ k := fun h => hk (List.mem_eraseDups.mp (h ▸ hx))
      simp [List.count_append, Ne.symm hxk]
    · simp [List.count_append, List.count_eq_zero_of_not_mem hk]

/-- One field seen once. -/
theorem tally_singleton (k : String × FieldStatus) : tally [k] = ⟨[⟨k.1, k.2, 1⟩]⟩ := by
  simp [tally, List.eraseDups_cons]

/-- Recording fields one after another tallies them. -/
theorem foldl_record_tally (seen more : List (String × FieldStatus)) :
    more.foldl (fun r k => r.record k.1 k.2) (tally seen) = tally (seen ++ more) := by
  induction more generalizing seen with
  | nil => rw [List.foldl_nil, List.append_nil]
  | cons k more ih =>
      rw [List.foldl_cons, record_tally, ih, List.append_assoc, List.singleton_append]

end FieldReport

/-- The report after some stretches tallies the fields they report. -/
theorem foldl_record_eq_tally (ps : List Tracked) :
    ps.foldl Tracked.record {} = FieldReport.tally (ps.filterMap Tracked.key?) := by
  rw [Tracked.foldl_record]
  exact FieldReport.foldl_record_tally [] _

/-- **What a marker gives back.**  A marker around a field `f` and a text `t` holds their
stripped forms `f'` and `t'`.  When `f'` holds neither a separator nor a closing marker and `t'`
no closing marker, stripping the marker gives `t'`, and annotating it gives the one span of
`f'` and `t'` with the report entry `(f', status, 1)`.  A document of such markers and plain
texts without marker characters is annotated into the plain texts and the spans in order, and
its report lists each stripped field and status once, in order of first appearance, with the
number of times it was seen. -/
theorem markField_reads_back :
    (∀ (status : FieldStatus) (f t : String), (Tracked.field status f t).ReadsBack →
      stripMarkers (markField status f t) = stripMarkers t ∧
      annotateFields (markField status f t) =
        (fieldSpan status (stripMarkers f) (stripMarkers t), ⟨[⟨stripMarkers f, status, 1⟩]⟩)) ∧
    ∀ ps : List Tracked, (∀ p ∈ ps, p.ReadsBack) →
      annotateFields (String.join (ps.map Tracked.marked)) =
        (String.join ((ps.map Tracked.stripped).map Tracked.shown),
          FieldReport.tally ((ps.map Tracked.stripped).filterMap Tracked.key?)) := by
  have hdoc : ∀ ps : List Tracked, (∀ p ∈ ps, p.ReadsBack) →
      annotateFields (String.join (ps.map Tracked.marked)) =
        (String.join ((ps.map Tracked.stripped).map Tracked.shown),
          FieldReport.tally ((ps.map Tracked.stripped).filterMap Tracked.key?)) := by
    intro ps hps
    have hscan := annotateChars_readsBack_all hps [] {}
    rw [List.append_nil, annotateChars_nil, List.append_nil] at hscan
    rw [annotateFields_eq, hscan, String.ofList_toList, foldl_record_eq_tally]
  refine ⟨fun status f t hp => ⟨stripMarkers_markField status hp.1 hp.2.2, ?_⟩, hdoc⟩
  -- one marker is a document of one stretch
  have h := hdoc [.field status f t] (List.forall_mem_singleton.mpr hp)
  simp only [List.map_cons, List.map_nil, String.join_cons, String.join_nil, String.append_empty,
    Tracked.marked, Tracked.stripped, Tracked.shown] at h
  have hkeys : [Tracked.field status (stripMarkers f) (stripMarkers t)].filterMap Tracked.key? =
      [(stripMarkers f, status)] := rfl
  rw [h, hkeys, FieldReport.tally_singleton]

/-- A field and a text that each carry a whole marker are stripped before they are wrapped, and
a field whose stripped name is one seen before adds to its count. -/
theorem markField_reads_back_stripped :
    (Tracked.field .resolved "f\uE000rin\uE001ner\uE002" "t\uE000ri\uE001nner\uE002").ReadsBack ∧
      (stripMarkers (markField .resolved "f\uE000rin\uE001ner\uE002" "t\uE000ri\uE001nner\uE002") =
          stripMarkers "t\uE000ri\uE001nner\uE002" ∧
        annotateFields (markField .resolved "f\uE000rin\uE001ner\uE002" "t\uE000ri\uE001nner\uE002") =
          (fieldSpan .resolved (stripMarkers "f\uE000rin\uE001ner\uE002")
              (stripMarkers "t\uE000ri\uE001nner\uE002"),
            ⟨[⟨stripMarkers "f\uE000rin\uE001ner\uE002", .resolved, 1⟩]⟩)) ∧
      (∀ p ∈ [Tracked.plain "To ", .field .resolved "f\uE000rin\uE001ner\uE002" "Ada",
          .plain " and ", .field .resolved "fner" "Bob", .plain "."], p.ReadsBack) ∧
      annotateFields (String.join ([Tracked.plain "To ",
          .field .resolved "f\uE000rin\uE001ner\uE002" "Ada", .plain " and ",
          .field .resolved "fner" "Bob", .plain "."].map Tracked.marked)) =
        (String.join (([Tracked.plain "To ", .field .resolved "f\uE000rin\uE001ner\uE002" "Ada",
            .plain " and ", .field .resolved "fner" "Bob", .plain "."].map Tracked.stripped).map
              Tracked.shown),
          FieldReport.tally (([Tracked.plain "To ",
            .field .resolved "f\uE000rin\uE001ner\uE002" "Ada", .plain " and ",
            .field .resolved "fner" "Bob", .plain "."].map Tracked.stripped).filterMap
              Tracked.key?)) := by
  have hone : (Tracked.field .resolved "f\uE000rin\uE001ner\uE002"
      "t\uE000ri\uE001nner\uE002").ReadsBack := by decide
  have hall : ∀ p ∈ [Tracked.plain "To ", .field .resolved "f\uE000rin\uE001ner\uE002" "Ada",
      .plain " and ", .field .resolved "fner" "Bob", .plain "."], p.ReadsBack := by decide
  exact ⟨hone, markField_reads_back.1 _ _ _ hone, hall, markField_reads_back.2 _ hall⟩

/-- Marker characters in a field or a text are not merely dropped: a whole marker goes with its
header, and a stray separator in a field ends the field early, so that the rest of the field
shows in the span's text. -/
theorem markField_marker_characters :
    stripMarkers (markField .resolved "f" "t\uE000ri\uE001nner\uE002") = "tnner" ∧
      stripMarkers (markField .resolved "a\uE001b" "t") = "b\uE001t" ∧
      annotateFields (markField .resolved "a\uE001b" "t") =
        (fieldSpan .resolved "a" "b\uE001t", ⟨[⟨"a", .resolved, 1⟩]⟩) := by
  refine ⟨by decide, by decide, ?_⟩
  have hchars : (markField .resolved "a\uE001b" "t").toList =
      Marker.opening :: FieldStatus.resolved.code :: ['a'] ++
        Marker.separator :: ['b', Marker.separator, 't'] ++ Marker.closing :: [] := by
    rw [toList_markField_stripped]
    rfl
  rw [annotateFields_eq, hchars,
    annotateChars_marker .resolved (List.forall_mem_singleton.mpr ⟨by decide, by decide⟩) (by decide),
    annotateChars_nil]
  rfl

end Covenant
