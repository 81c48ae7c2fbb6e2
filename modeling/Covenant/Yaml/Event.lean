import Covenant.Yaml.Scanner
/-!
# Parsing YAML tokens into events

The parser reads the token stream into the event stream of the YAML 1.1 grammar: stream and
document boundaries, scalars, aliases, and the starts and ends of sequences and mappings. It
is the state machine of the reference C implementation: a current state and a stack of states
to return to, plus a stack of collection start marks for error messages. Missing keys and
values become empty plain scalars; tag handles are expanded through the `%TAG` directives and
the two default handles `!` and `!!`.
-/

namespace Covenant.Yaml

/-- The kinds of YAML event. -/
inductive EventKind where
  | streamStart
  | streamEnd
  | documentStart (isImplicit : Bool)
  | documentEnd (isImplicit : Bool)
  | alias (anchor : String)
  | scalar (anchor tag : Option String) (text : String) (style : ScalarStyle)
      (plainImplicit quotedImplicit : Bool)
  | sequenceStart (anchor tag : Option String) (isImplicit flow : Bool)
  | sequenceEnd
  | mappingStart (anchor tag : Option String) (isImplicit flow : Bool)
  | mappingEnd
deriving Repr, DecidableEq, Inhabited

/-- An event with the marks of where it starts and ends. -/
structure Event where
  kind : EventKind
  start : Mark
  stop : Mark
deriving Repr, DecidableEq, Inhabited

/-- The states of the parser. -/
inductive ParseState where
  | streamStart
  | implicitDocumentStart
  | documentStart
  | documentContent
  | documentEnd
  | blockNode
  | blockNodeOrIndentlessSequence
  | flowNode
  | blockSequenceFirstEntry
  | blockSequenceEntry
  | indentlessSequenceEntry
  | blockMappingFirstKey
  | blockMappingKey
  | blockMappingValue
  | flowSequenceFirstEntry
  | flowSequenceEntry
  | flowSequenceEntryMappingKey
  | flowSequenceEntryMappingValue
  | flowSequenceEntryMappingEnd
  | flowMappingFirstKey
  | flowMappingKey
  | flowMappingValue
  | flowMappingEmptyValue
  | finished
deriving Repr, DecidableEq, Inhabited

/-- The parser's state on top of the scanner's. -/
structure Parser where
  scanner : Scanner
  state : ParseState := .streamStart
  states : List ParseState := []
  marks : List Mark := []
  tagDirectives : List (String × String) := []
deriving Inhabited

/-- Parsing steps. -/
abbrev ParseM := StateT Parser (Except SyntaxError)

namespace Parse

/-- Runs a scanning step on the parser's scanner. -/
def scan (m : ScanM α) : ParseM α := do
  let p ← get
  match m.run p.scanner with
  | .ok (a, sc) =>
    set { p with scanner := sc }
    pure a
  | .error e => throw e

def peekToken : ParseM Token := scan Scanner.peekToken
def skipToken : ParseM Unit := scan Scanner.skipToken

def push (st : ParseState) : ParseM Unit := modify fun p => { p with states := st :: p.states }

def pop : ParseM ParseState := do
  let p ← get
  set { p with states := p.states.drop 1 }
  pure (p.states.headD .finished)

def pushMark (m : Mark) : ParseM Unit := modify fun p => { p with marks := m :: p.marks }

def popMark : ParseM Mark := do
  let p ← get
  set { p with marks := p.marks.drop 1 }
  pure (p.marks.headD {})

def setState (st : ParseState) : ParseM Unit := modify fun p => { p with state := st }

def failAt (problem : String) (m : Mark) : ParseM α :=
  throw { problem, problemMark := m }

def failIn (context : String) (cm : Mark) (problem : String) (m : Mark) : ParseM α :=
  throw { problem, problemMark := m, context := some (context, cm) }

/-- An empty plain scalar at a mark. -/
def emptyScalar (m : Mark) : Event := ⟨.scalar none none "" .plain true false, m, m⟩

/-- The handles every document knows. -/
def defaultTagDirectives : List (String × String) := [("!", "!"), ("!!", "tag:yaml.org,2002:")]

/-- Reads the `%YAML` and `%TAG` directives before a document. -/
def processDirectives : ParseM Unit := do
  let mut version := false
  let mut tags : List (String × String) := []
  for _ in [0:10000] do
    let t ← peekToken
    match t.kind with
    | .versionDirective major minor =>
      if version then failAt "found duplicate %YAML directive" t.start
      if major ≠ 1 || (minor ≠ 1 && minor ≠ 2) then failAt "found incompatible YAML document" t.start
      version := true
      skipToken
    | .tagDirective handle pfx =>
      if tags.any (·.1 = handle) then failAt "found duplicate %TAG directive" t.start
      tags := tags ++ [(handle, pfx)]
      skipToken
    | _ => break
  let all := tags ++ defaultTagDirectives.filter fun (h, _) => !tags.any (·.1 = h)
  modify fun p => { p with tagDirectives := all }

def parseStreamStart : ParseM Event := do
  let t ← peekToken
  match t.kind with
  | .streamStart =>
    setState .implicitDocumentStart
    skipToken
    pure ⟨.streamStart, t.start, t.stop⟩
  | _ => failAt "did not find expected <stream-start>" t.start

def parseDocumentStart (isImplicit : Bool) : ParseM Event := do
  let mut t ← peekToken
  if !isImplicit then
    for _ in [0:10000] do
      if t.kind = .documentEnd then
        skipToken
        t ← peekToken
      else break
  let directiveOrStart := match t.kind with
    | .versionDirective .. | .tagDirective .. | .documentStart | .streamEnd => true
    | _ => false
  if isImplicit && !directiveOrStart then
    processDirectives
    push .documentEnd
    setState .blockNode
    pure ⟨.documentStart true, t.start, t.start⟩
  else if t.kind ≠ .streamEnd then
    let start := t.start
    processDirectives
    let t2 ← peekToken
    if t2.kind ≠ .documentStart then failAt "did not find expected <document start>" t2.start
    push .documentEnd
    setState .documentContent
    skipToken
    pure ⟨.documentStart false, start, t2.stop⟩
  else
    setState .finished
    skipToken
    pure ⟨.streamEnd, t.start, t.stop⟩

def parseDocumentEnd : ParseM Event := do
  let t ← peekToken
  let (stop, isImplicit) ← if t.kind = .documentEnd then do
      skipToken
      pure (t.stop, false)
    else pure (t.start, true)
  setState .documentStart
  pure ⟨.documentEnd isImplicit, t.start, stop⟩

/-- Parses a node: an alias, or optional anchor and tag followed by a scalar or the start of
a collection (an anchor or tag alone stands before an empty scalar). -/
def parseNode (block indentlessSequence : Bool) : ParseM Event := do
  let t ← peekToken
  match t.kind with
  | .alias name =>
    let st ← pop
    setState st
    skipToken
    pure ⟨.alias name, t.start, t.stop⟩
  | _ =>
    let mut start := t.start
    let mut stop := t.start
    let mut tagMark := t.start
    let mut anchor : Option String := none
    let mut tagParts : Option (String × String) := none
    let mut t := t
    match t.kind with
    | .anchor name =>
      anchor := some name
      stop := t.stop
      skipToken
      t ← peekToken
      match t.kind with
      | .tag h s =>
        tagParts := some (h, s)
        tagMark := t.start
        stop := t.stop
        skipToken
        t ← peekToken
      | _ => pure ()
    | .tag h s =>
      tagParts := some (h, s)
      tagMark := t.start
      stop := t.stop
      skipToken
      t ← peekToken
      match t.kind with
      | .anchor name =>
        anchor := some name
        stop := t.stop
        skipToken
        t ← peekToken
      | _ => pure ()
    | _ => pure ()
    let mut tag : Option String := none
    match tagParts with
    | some (h, s) =>
      if h.isEmpty then tag := some s
      else
        match (← get).tagDirectives.find? (·.1 = h) with
        | some (_, pfx) => tag := some (pfx ++ s)
        | none => failIn "while parsing a node" start "found undefined tag handle" tagMark
    | none => pure ()
    let isImplicit := match tag with
      | none => true
      | some x => x.isEmpty
    if indentlessSequence && t.kind = .blockEntry then
      setState .indentlessSequenceEntry
      return ⟨.sequenceStart anchor tag isImplicit false, start, t.stop⟩
    let fallback : ParseM Event := do
      if anchor.isSome || tag.isSome then
        let st ← pop
        setState st
        pure ⟨.scalar anchor tag "" .plain isImplicit false, start, stop⟩
      else
        failIn (if block then "while parsing a block node" else "while parsing a flow node") start
          "did not find expected node content" t.start
    match t.kind with
    | .scalar text style =>
      let plainImplicit := (style = .plain && tag.isNone) || tag = some "!"
      let quotedImplicit := !plainImplicit && tag.isNone
      let st ← pop
      setState st
      skipToken
      pure ⟨.scalar anchor tag text style plainImplicit quotedImplicit, start, t.stop⟩
    | .flowSequenceStart =>
      setState .flowSequenceFirstEntry
      pure ⟨.sequenceStart anchor tag isImplicit true, start, t.stop⟩
    | .flowMappingStart =>
      setState .flowMappingFirstKey
      pure ⟨.mappingStart anchor tag isImplicit true, start, t.stop⟩
    | .blockSequenceStart =>
      if block then
        setState .blockSequenceFirstEntry
        pure ⟨.sequenceStart anchor tag isImplicit false, start, t.stop⟩
      else fallback
    | .blockMappingStart =>
      if block then
        setState .blockMappingFirstKey
        pure ⟨.mappingStart anchor tag isImplicit false, start, t.stop⟩
      else fallback
    | _ => fallback

def parseBlockSequenceEntry (first : Bool) : ParseM Event := do
  if first then
    let t ← peekToken
    pushMark t.start
    skipToken
  let t ← peekToken
  match t.kind with
  | .blockEntry =>
    let m := t.stop
    skipToken
    let t ← peekToken
    if t.kind ≠ .blockEntry && t.kind ≠ .blockEnd then
      push .blockSequenceEntry
      parseNode true false
    else
      setState .blockSequenceEntry
      pure (emptyScalar m)
  | .blockEnd =>
    let st ← pop
    setState st
    let _ ← popMark
    skipToken
    pure ⟨.sequenceEnd, t.start, t.stop⟩
  | _ =>
    let m ← popMark
    failIn "while parsing a block collection" m "did not find expected '-' indicator" t.start

def parseIndentlessSequenceEntry : ParseM Event := do
  let t ← peekToken
  if t.kind = .blockEntry then
    let m := t.stop
    skipToken
    let t ← peekToken
    if t.kind ≠ .blockEntry && t.kind ≠ .key && t.kind ≠ .value && t.kind ≠ .blockEnd then
      push .indentlessSequenceEntry
      parseNode true false
    else
      setState .indentlessSequenceEntry
      pure (emptyScalar m)
  else
    let st ← pop
    setState st
    pure ⟨.sequenceEnd, t.start, t.start⟩

def parseBlockMappingKey (first : Bool) : ParseM Event := do
  if first then
    let t ← peekToken
    pushMark t.start
    skipToken
  let t ← peekToken
  match t.kind with
  | .key =>
    let m := t.stop
    skipToken
    let t ← peekToken
    if t.kind ≠ .key && t.kind ≠ .value && t.kind ≠ .blockEnd then
      push .blockMappingValue
      parseNode true true
    else
      setState .blockMappingValue
      pure (emptyScalar m)
  | .blockEnd =>
    let st ← pop
    setState st
    let _ ← popMark
    skipToken
    pure ⟨.mappingEnd, t.start, t.stop⟩
  | _ =>
    let m ← popMark
    failIn "while parsing a block mapping" m "did not find expected key" t.start

def parseBlockMappingValue : ParseM Event := do
  let t ← peekToken
  if t.kind = .value then
    let m := t.stop
    skipToken
    let t ← peekToken
    if t.kind ≠ .key && t.kind ≠ .value && t.kind ≠ .blockEnd then
      push .blockMappingKey
      parseNode true true
    else
      setState .blockMappingKey
      pure (emptyScalar m)
  else
    setState .blockMappingKey
    pure (emptyScalar t.start)

def parseFlowSequenceEntry (first : Bool) : ParseM Event := do
  if first then
    let t ← peekToken
    pushMark t.start
    skipToken
  let mut t ← peekToken
  if t.kind ≠ .flowSequenceEnd then
    if !first then
      if t.kind = .flowEntry then
        skipToken
        t ← peekToken
      else
        let m ← popMark
        failIn "while parsing a flow sequence" m "did not find expected ',' or ']'" t.start
    if t.kind = .key then
      setState .flowSequenceEntryMappingKey
      skipToken
      return ⟨.mappingStart none none true true, t.start, t.stop⟩
    else if t.kind ≠ .flowSequenceEnd then
      push .flowSequenceEntry
      return (← parseNode false false)
  let st ← pop
  setState st
  let _ ← popMark
  skipToken
  pure ⟨.sequenceEnd, t.start, t.stop⟩

def parseFlowSequenceEntryMappingKey : ParseM Event := do
  let t ← peekToken
  if t.kind ≠ .value && t.kind ≠ .flowEntry && t.kind ≠ .flowSequenceEnd then
    push .flowSequenceEntryMappingValue
    parseNode false false
  else
    setState .flowSequenceEntryMappingValue
    pure (emptyScalar t.start)

def parseFlowSequenceEntryMappingValue : ParseM Event := do
  let t ← peekToken
  if t.kind = .value then
    skipToken
    let t ← peekToken
    if t.kind ≠ .flowEntry && t.kind ≠ .flowSequenceEnd then
      push .flowSequenceEntryMappingEnd
      return (← parseNode false false)
    setState .flowSequenceEntryMappingEnd
    return emptyScalar t.start
  setState .flowSequenceEntryMappingEnd
  pure (emptyScalar t.start)

def parseFlowSequenceEntryMappingEnd : ParseM Event := do
  let t ← peekToken
  setState .flowSequenceEntry
  pure ⟨.mappingEnd, t.start, t.start⟩

def parseFlowMappingKey (first : Bool) : ParseM Event := do
  if first then
    let t ← peekToken
    pushMark t.start
    skipToken
  let mut t ← peekToken
  if t.kind ≠ .flowMappingEnd then
    if !first then
      if t.kind = .flowEntry then
        skipToken
        t ← peekToken
      else
        let m ← popMark
        failIn "while parsing a flow mapping" m "did not find expected ',' or '\x7d'" t.start
    if t.kind = .key then
      skipToken
      let t2 ← peekToken
      if t2.kind ≠ .value && t2.kind ≠ .flowEntry && t2.kind ≠ .flowMappingEnd then
        push .flowMappingValue
        return (← parseNode false false)
      setState .flowMappingValue
      return emptyScalar t2.start
    else if t.kind ≠ .flowMappingEnd then
      push .flowMappingEmptyValue
      return (← parseNode false false)
  let st ← pop
  setState st
  let _ ← popMark
  skipToken
  pure ⟨.mappingEnd, t.start, t.stop⟩

def parseFlowMappingValue (empty : Bool) : ParseM Event := do
  let t ← peekToken
  if empty then
    setState .flowMappingKey
    return emptyScalar t.start
  if t.kind = .value then
    skipToken
    let t ← peekToken
    if t.kind ≠ .flowEntry && t.kind ≠ .flowMappingEnd then
      push .flowMappingKey
      return (← parseNode false false)
    setState .flowMappingKey
    return emptyScalar t.start
  setState .flowMappingKey
  pure (emptyScalar t.start)

/-- The next event, or `none` once the stream has ended. -/
def nextEvent : ParseM (Option Event) := do
  match (← get).state with
  | .streamStart => some <$> parseStreamStart
  | .implicitDocumentStart => some <$> parseDocumentStart true
  | .documentStart => some <$> parseDocumentStart false
  | .documentContent =>
    let t ← peekToken
    match t.kind with
    | .versionDirective .. | .tagDirective .. | .documentStart | .documentEnd | .streamEnd =>
      let st ← pop
      setState st
      pure (some (emptyScalar t.start))
    | _ => some <$> parseNode true false
  | .documentEnd => some <$> parseDocumentEnd
  | .blockNode => some <$> parseNode true false
  | .blockNodeOrIndentlessSequence => some <$> parseNode true true
  | .flowNode => some <$> parseNode false false
  | .blockSequenceFirstEntry => some <$> parseBlockSequenceEntry true
  | .blockSequenceEntry => some <$> parseBlockSequenceEntry false
  | .indentlessSequenceEntry => some <$> parseIndentlessSequenceEntry
  | .blockMappingFirstKey => some <$> parseBlockMappingKey true
  | .blockMappingKey => some <$> parseBlockMappingKey false
  | .blockMappingValue => some <$> parseBlockMappingValue
  | .flowSequenceFirstEntry => some <$> parseFlowSequenceEntry true
  | .flowSequenceEntry => some <$> parseFlowSequenceEntry false
  | .flowSequenceEntryMappingKey => some <$> parseFlowSequenceEntryMappingKey
  | .flowSequenceEntryMappingValue => some <$> parseFlowSequenceEntryMappingValue
  | .flowSequenceEntryMappingEnd => some <$> parseFlowSequenceEntryMappingEnd
  | .flowMappingFirstKey => some <$> parseFlowMappingKey true
  | .flowMappingKey => some <$> parseFlowMappingKey false
  | .flowMappingValue => some <$> parseFlowMappingValue false
  | .flowMappingEmptyValue => some <$> parseFlowMappingValue true
  | .finished => pure none

end Parse

/-- A parser at the start of a text; a byte order mark that opens the text is not part of
it. -/
def Parser.ofString (text : String) : Parser :=
  let cs := match text.toList with
    | '\uFEFF' :: rest => rest
    | cs => cs
  { scanner := { input := cs.toArray } }

end Covenant.Yaml
