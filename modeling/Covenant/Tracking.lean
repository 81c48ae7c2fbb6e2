/-!
# Field tracking

While tracking is on, each substituted value is wrapped in private-use marker characters that
record the field's path and how the value came about:

    U+E000, a status letter, the field, U+E001, the text, U+E002

with the letter `r` for a value taken from metadata (*resolved*), `c` for one computed by a
helper or expression (*computed*), and `m` for a field with no value (*missing*). Markers
never nest: the field and the text lose any markers they carry before they are wrapped.

The last stage of a document turns each well-formed marker into an HTML span, classed by
status, and counts the fields in a report. An opening marker that is not followed by a
status letter, a field, a separator and a closing marker is dropped on its own.
-/

namespace Covenant

/-- How a tracked field was filled in. -/
inductive FieldStatus where
  | resolved
  | computed
  | missing
deriving DecidableEq, Repr

namespace FieldStatus

/-- The CSS class of a field's span. -/
def cssClass : FieldStatus → String
  | .resolved => "imported-value"
  | .computed => "highlight"
  | .missing => "missing-value"

/-- The letter that records the status inside a marker. -/
def code : FieldStatus → Char
  | .resolved => 'r'
  | .computed => 'c'
  | .missing => 'm'

/-- The status a letter records. -/
def ofCode? : Char → Option FieldStatus
  | 'r' => some .resolved
  | 'c' => some .computed
  | 'm' => some .missing
  | _ => none

/-- The status's name in reports. -/
def name : FieldStatus → String
  | .resolved => "resolved"
  | .computed => "computed"
  | .missing => "missing"

/-- The status of a name in reports. -/
def ofName? : String → Option FieldStatus
  | "resolved" => some .resolved
  | "computed" => some .computed
  | "missing" => some .missing
  | _ => none

end FieldStatus

namespace Marker

/-- Opens a marker. -/
def opening : Char := '\uE000'
/-- Separates a marker's field from its text. -/
def separator : Char := '\uE001'
/-- Closes a marker. -/
def closing : Char := '\uE002'

mutual

/-- The characters of a text with every marker removed: an opening marker takes its header
up to the separator with it, and a closing marker is dropped. -/
def stripChars : List Char → List Char
  | [] => []
  | c :: cs =>
    if c = opening then skipHeader cs
    else if c = closing then stripChars cs
    else c :: stripChars cs

/-- Skips a marker's header up to and including the separator, then strips the rest. -/
def skipHeader : List Char → List Char
  | [] => []
  | c :: cs => if c = separator then stripChars cs else skipHeader cs

end

end Marker

/-- A text with every tracking marker removed. -/
def stripMarkers (text : String) : String :=
  if text.toList.contains Marker.opening then String.ofList (Marker.stripChars text.toList) else text

/-- Wraps a text in a marker for a field. -/
def markField (status : FieldStatus) (field text : String) : String :=
  String.ofList [Marker.opening, status.code] ++ stripMarkers field ++
    Marker.separator.toString ++ stripMarkers text ++ Marker.closing.toString

/-- The marked placeholder `[[field]]` for a field with no value. -/
def markMissing (field : String) : String :=
  markField .missing field ("[[" ++ field ++ "]]")

/-- A field seen while annotating. -/
structure TrackedField where
  name : String
  status : FieldStatus
  occurrences : Nat

/-- The fields of a document in order of first appearance, one entry per name and status. -/
structure FieldReport where
  fields : List TrackedField := []

/-- Counts one more occurrence of a field with a status. -/
def FieldReport.record (r : FieldReport) (name : String) (status : FieldStatus) : FieldReport :=
  if r.fields.any (fun f => f.name == name && f.status == status) then
    { fields := r.fields.map fun f =>
        if f.name == name && f.status == status then { f with occurrences := f.occurrences + 1 } else f }
  else { fields := r.fields ++ [⟨name, status, 1⟩] }

/-- Escapes a text for an HTML attribute value. -/
def escapeAttribute (s : String) : String :=
  String.join (s.toList.map fun c =>
    if c = '&' then "&amp;" else if c = '"' then "&quot;"
    else if c = '<' then "&lt;" else if c = '>' then "&gt;" else c.toString)

/-- The span that shows a tracked field. -/
def fieldSpan (status : FieldStatus) (field text : String) : String :=
  "<span class=\"legal-field " ++ status.cssClass ++ "\" data-field=\"" ++ escapeAttribute field ++
    "\">" ++ text ++ "</span>"

/-- The parts of a marker body: status, field and text. -/
def markerBody? (body : List Char) : Option (FieldStatus × List Char × List Char) :=
  match body with
  | c :: rest => do
    let status ← FieldStatus.ofCode? c
    let field := rest.takeWhile (· ≠ Marker.separator)
    match rest.drop field.length with
    | _ :: text => some (status, field, text)
    | [] => none
  | [] => none

/-- Turns markers into spans, from the characters after the last one handled. -/
def annotateChars : List Char → FieldReport → List Char × FieldReport
  | [], r => ([], r)
  | c :: cs, r =>
    if c = Marker.opening then
      let body := cs.takeWhile (· ≠ Marker.closing)
      let parsed := if body.length < cs.length then markerBody? body else none
      match parsed with
      | some (status, field, text) =>
        let (out, r') := annotateChars (cs.drop (body.length + 1))
          (r.record (String.ofList field) status)
        ((fieldSpan status (String.ofList field) (String.ofList text)).toList ++ out, r')
      | none => annotateChars cs r
    else
      let (out, r') := annotateChars cs r
      (c :: out, r')
termination_by cs => cs.length
decreasing_by
  all_goals simp_wf
  all_goals omega

/-- Replaces tracking markers with annotated spans and reports the fields. -/
def annotateFields (content : String) : String × FieldReport :=
  if content.toList.contains Marker.opening then
    let (out, r) := annotateChars content.toList {}
    (String.ofList out, r)
  else (content, {})

end Covenant
