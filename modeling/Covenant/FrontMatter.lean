import Covenant.Error
import Covenant.Text.Lines
import Covenant.Yaml.Load
/-!
# Front matter

A document may open with a block of YAML metadata between two fence lines:

```
---
title: Services Agreement
parties: [Acme, Beta]
---
Body text…
```

The opening fence is `---` at the very start (after an optional byte-order mark), then only
spaces and tabs up to the line break. The block ends at the first later line that is exactly
`---` or `...` apart from its line ending; the body is everything after that line. A text
that does not open with a fence has no front matter and is all body.

The block must hold a YAML mapping (or nothing, or null, which are no metadata). What
happens otherwise depends on strictness:

* **strict**: a block without a closing fence, YAML that does not load, or YAML that is not
  a mapping is an error, quoting the first non-blank line of the block;
* **lenient**: an unclosed block is body text with a warning; a block that does not load as
  a mapping is read entry by entry, where an entry starts at each line that is not blank and
  does not start with a space, tab, `-` or `#`. Each entry that loads as a mapping adds its
  keys; each that does not is dropped with a warning.
-/

namespace Covenant

/-- The metadata, body and warnings of a document. -/
structure Parsed where
  metadata : Metadata := []
  body : String
  warnings : List String := []

namespace FrontMatter

/-- The text after the opening fence line, if the text opens with one. -/
def afterOpening? : List Char → Option (List Char)
  | '-' :: '-' :: '-' :: rest =>
    match rest.dropWhile (fun c => c = ' ' || c = '\t') with
    | '\r' :: '\n' :: r => some r
    | '\n' :: r => some r
    | _ => none
  | _ => none

/-- How a text splits into front matter and body. -/
inductive Split where
  | absent
  | found (yaml body : String)
  | unclosed (block : String)

/-- Looks for the closing fence among the lines after the opening one. -/
def findClose : List Text.Line → List String → Split
  | [], acc => .unclosed (String.join acc.reverse)
  | l :: ls, acc =>
    if l.text = "---" || l.text = "..." then
      .found (String.join acc.reverse) (String.join (ls.map Text.Line.full))
    else findClose ls (l.full :: acc)

/-- Splits a text into its front matter block and body. -/
def split (text : String) : Split :=
  let cs := match text.toList with
    | '\uFEFF' :: r => r
    | r => r
  match afterOpening? cs with
  | none => .absent
  | some rest => findClose (Text.lines (String.ofList rest)) []

/-- The first non-blank line of a text, trimmed; empty if there is none. -/
def firstLine (text : String) : String :=
  match (Text.plainLines text).find? (fun l => !Text.isBlankText l) with
  | some l => Text.trim l
  | none => ""

/-- The metadata a YAML block holds, or why it holds none. -/
def mappingOf (yaml : String) : Except String Metadata :=
  if Text.isBlankText yaml then .ok []
  else match Yaml.loadValue yaml with
    | .error e => .error e
    | .ok (.obj es) => .ok es
    | .ok .null => .ok []
    | .ok v => .error ("expected a mapping, found " ++ v.kind.name)

/-- Whether a line starts a new top-level entry. -/
def opensEntry (line : String) : Bool :=
  match line.toList with
  | c :: _ => !(c = ' ' || c = '\t' || c = '-' || c = '#')
  | [] => false

/-- The block cut into top-level entries, each line with a `\n`. -/
def entryChunks (yaml : String) : List String :=
  ((Text.plainLines yaml).foldl step []).reverse
where
  step (acc : List String) (line : String) : List String :=
    match acc with
    | cur :: rest => if opensEntry line then (line ++ "\n") :: acc else (cur ++ line ++ "\n") :: rest
    | [] => [line ++ "\n"]

/-- The metadata of the entries that load, and a warning for each that does not. -/
def recover (yaml : String) : Metadata × List String :=
  (entryChunks yaml).foldl (fun (m, ws) chunk =>
    if Text.isBlankText chunk then (m, ws)
    else match mappingOf chunk with
      | .ok es => (Entries.extend m es, ws)
      | .error reason =>
        (m, ws ++ ["dropped front matter entry `" ++ firstLine chunk ++ "`: " ++ reason]))
    ([], [])

/-- The warning for a block without a closing fence. -/
def unclosedWarning : String := "front matter is missing its closing `---`"

end FrontMatter

/-- Reads the front matter of a document. -/
def parseFrontMatter (text : String) (strict : Bool) : Except DocError Parsed :=
  match FrontMatter.split text with
  | .absent => .ok { body := text }
  | .unclosed block =>
    if strict then .error (.metadataParse FrontMatter.unclosedWarning (FrontMatter.firstLine block))
    else .ok { body := text, warnings := [FrontMatter.unclosedWarning] }
  | .found yaml body =>
    match FrontMatter.mappingOf yaml with
    | .ok m => .ok { metadata := m, body }
    | .error reason =>
      if strict then .error (.metadataParse reason (FrontMatter.firstLine yaml))
      else
        let (m, ws) := FrontMatter.recover yaml
        .ok { metadata := m, body, warnings := ("malformed front matter: " ++ reason) :: ws }

end Covenant
