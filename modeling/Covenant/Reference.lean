import Covenant.Calendar.Format
import Covenant.Value
import Covenant.Template.Split
import Covenant.Text.Unicode
import Covenant.Tracking
/-!
# Cross-references and today's date

Outside template tags, two kinds of reference are replaced:

* `@today`, optionally followed by a format in brackets (`@today[MMMM D, YYYY]`), becomes
  today's date. The word must end there (`@today2` and `@todays` are left alone); the format
  may not hold `]` or a line break, and a blank format means the document's format. The
  document's format is its `date-format` (or `date_format`) field, else ISO.
* `|key|`, where `key` is a dotted path of letters, digits, `_` and `-` starting with a letter
  or `_`, becomes the display text of that field; a field that is missing or is a mapping
  leaves the reference as it is. With tracking on, the text is marked as resolved.

Dates are replaced first, then references.
-/

namespace Covenant

/-- The settings of one reference pass. -/
structure ReferenceContext where
  today : Calendar.Date
  locale : Calendar.Locale
  dateFormat : String
  trackFields : Bool

/-- The metadata keys of the document's date format. -/
def dateFormatKeys : List String := ["date-format", "date_format"]

/-- The settings a document's metadata gives. -/
def ReferenceContext.ofMetadata (m : Metadata) (today : Calendar.Date) (track : Bool) :
    ReferenceContext :=
  { today
    locale := match Entries.getText? m "locale" with
      | some tag => Calendar.Locale.ofTag tag
      | none => .en
    dateFormat := (dateFormatKeys.findSome? (Entries.getText? m ·)).getD Calendar.isoFormat
    trackFields := track }

namespace Reference

/-- After `@today`, the bracketed format and the number of characters it takes with its
brackets, if the brackets close on the same line. -/
def bracketed? : List Char → Option (List Char × Nat)
  | '[' :: cs =>
    let fmt := cs.takeWhile (fun c => c ≠ ']' && c ≠ '\n')
    match cs.drop fmt.length with
    | ']' :: _ => some (fmt, fmt.length + 2)
    | _ => none
  | _ => none

/-- Whether a word ends before these characters. -/
def wordEnds : List Char → Bool
  | d :: _ => !Text.isWordChar d
  | [] => true

/-- Replaces every `@today` in a text. -/
def replaceToday (ctx : ReferenceContext) : List Char → List Char
  | [] => []
  | '@' :: 't' :: 'o' :: 'd' :: 'a' :: 'y' :: rest =>
    if wordEnds rest then
      let (fmt, n) := match bracketed? rest with
        | some (f, n) => (Text.trim (String.ofList f), n)
        | none => ("", 0)
      let fmt := if fmt.isEmpty then ctx.dateFormat else fmt
      (ctx.today.format fmt ctx.locale).toList ++ replaceToday ctx (rest.drop n)
    else '@' :: replaceToday ctx ('t' :: 'o' :: 'd' :: 'a' :: 'y' :: rest)
  | c :: cs => c :: replaceToday ctx cs
termination_by cs => cs.length
decreasing_by
  all_goals simp_wf
  all_goals omega

/-- States of a reference key: start, in a segment, after a dot. -/
inductive KeyState where
  | start
  | segment
  | dot

/-- One step of reading a key `[A-Za-z_][A-Za-z0-9_-]*(\.[A-Za-z0-9_-]+)*`. -/
def keyStep : KeyState → Char → Option KeyState
  | .start, c => if c.isAlpha || c = '_' then some .segment else none
  | .segment, c =>
    if c.isAlphanum || c = '_' || c = '-' then some .segment
    else if c = '.' then some .dot else none
  | .dot, c => if c.isAlphanum || c = '_' || c = '-' then some .segment else none

/-- Whether a text is a reference key. -/
def isKey (cs : List Char) : Bool :=
  match cs.foldlM keyStep .start with
  | some .segment => true
  | _ => false

/-- The text a reference `|key|` becomes. -/
def referenceText (ctx : ReferenceContext) (m : Metadata) (key : String) : String :=
  match (Metadata.lookup? m key).bind Value.display with
  | some v => if ctx.trackFields then markField .resolved key v else v
  | none => "|" ++ key ++ "|"

/-- Replaces every `|key|` in a text, where a key runs from one bar to the next. -/
def replaceKeys (ctx : ReferenceContext) (m : Metadata) : List Char → List Char
  | [] => []
  | c :: cs =>
    if c = '|' then
      let key := cs.takeWhile (· ≠ '|')
      if key.length < cs.length && isKey key then
        (referenceText ctx m (String.ofList key)).toList ++
          replaceKeys ctx m (cs.drop (key.length + 1))
      else '|' :: replaceKeys ctx m cs
    else c :: replaceKeys ctx m cs
termination_by cs => cs.length
decreasing_by
  all_goals simp_wf
  all_goals omega

end Reference

/-- Replaces `@today` and `|key|` references outside template tags. -/
def processReferences (content : String) (m : Metadata) (ctx : ReferenceContext) : String :=
  String.join ((Template.splitExpressions content).map fun (seg, tag) =>
    if tag then seg
    else String.ofList (Reference.replaceKeys ctx m (Reference.replaceToday ctx seg.toList)))

end Covenant
