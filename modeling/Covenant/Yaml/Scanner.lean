import Covenant.Yaml.Token
/-!
# Scanning YAML text into tokens

The scanner turns YAML text into the token stream of the YAML 1.1 grammar as the reference
C implementation produces it, one request at a time, so that an error surfaces exactly when
the token that needs it is asked for.

The block structure is made explicit by indentation tokens: a mapping or sequence that starts
at a deeper column than the current indentation opens with `blockMappingStart` or
`blockSequenceStart`, and each indentation level left closes with `blockEnd`. A `key` token
is inserted in front of a *simple key* (a scalar or flow node followed by `:` on the same
line) once the `:` is seen; a position that must hold such a key (a block-context line at
the current indentation) and turns out not to is an error.

Every loop runs on fuel computed from the length of the text, enough for any text: each
round consumes a character or produces a token.
-/

namespace Covenant.Yaml

/-- A place where a simple key may start, per flow level. -/
structure SimpleKey where
  possible : Bool := false
  required : Bool := false
  tokenNumber : Nat := 0
  mark : Mark := {}
deriving Repr, Inhabited

/-- The scanner's state: the text and position, the queue of tokens not yet taken, the
indentation stack, and the simple-key candidates (innermost flow level first). -/
structure Scanner where
  input : Array Char
  mark : Mark := {}
  queue : List Token := []
  parsed : Nat := 0
  available : Bool := false
  started : Bool := false
  indent : Int := -1
  indents : List Int := []
  keyAllowed : Bool := false
  keys : List SimpleKey := []
  flowLevel : Nat := 0
deriving Inhabited

/-- Scanning steps: they change the scanner or fail with a syntax error. -/
abbrev ScanM := StateT Scanner (Except SyntaxError)

namespace Scan

/-- The character standing for the end of the text. -/
def endChar : Char := Char.ofNat 0

/-- A line break: carriage return, line feed, next line, line or paragraph separator. -/
def isBreak (c : Char) : Bool :=
  c = '\r' || c = '\n' || c.toNat = 0x85 || c.toNat = 0x2028 || c.toNat = 0x2029

/-- A space or a tab. -/
def isBlank (c : Char) : Bool := c = ' ' || c = '\t'

/-- The end of the text. -/
def isZ (c : Char) : Bool := c.toNat = 0

def isBreakZ (c : Char) : Bool := isBreak c || isZ c
def isBlankZ (c : Char) : Bool := isBlank c || isBreakZ c

/-- Characters of anchors and tag handles: ASCII letters, digits, `_` and `-`. -/
def isWordChar (c : Char) : Bool := c.isAlphanum || c = '_' || c = '-'

def isHex (c : Char) : Bool := c.isDigit || ('a' ≤ c && c ≤ 'f') || ('A' ≤ c && c ≤ 'F')

def hexValue (c : Char) : Nat :=
  if c.isDigit then c.toNat - 48 else if 'a' ≤ c && c ≤ 'f' then c.toNat - 87 else c.toNat - 55

/-- The character `k` places ahead, or `endChar` past the end. -/
def peekAt (k : Nat) : ScanM Char := do
  let s ← get
  pure (s.input.getD (s.mark.index + k) endChar)

def peek : ScanM Char := peekAt 0

/-- Enough rounds for any loop over the rest of the text. -/
def fuel : ScanM Nat := do
  pure ((← get).input.size + 8)

/-- Moves one character along a line. -/
def skip : ScanM Unit := do
  let c ← peek
  modify fun s =>
    let m := s.mark
    { s with mark := { m with index := m.index + 1, column := m.column + 1, offset := m.offset + c.utf8Size } }

/-- Moves over a line break (`\r\n` counts two characters). -/
def skipLine : ScanM Unit := do
  let c ← peek
  let d ← peekAt 1
  if c = '\r' && d = '\n' then
    modify fun s =>
      let m := s.mark
      { s with mark := { index := m.index + 2, line := m.line + 1, column := 0, offset := m.offset + 2 } }
  else if isBreak c then
    modify fun s =>
      let m := s.mark
      { s with mark := { index := m.index + 1, line := m.line + 1, column := 0, offset := m.offset + c.utf8Size } }

/-- Takes the current character. -/
def read : ScanM Char := do
  let c ← peek
  skip
  pure c

/-- Takes a line break, giving `\n` for a carriage return, line feed or next line, and the
separator itself for a line or paragraph separator; gives nothing if there is no break. -/
def readLine : ScanM String := do
  let c ← peek
  let d ← peekAt 1
  if c = '\r' && d = '\n' then
    skipLine
    pure "\n"
  else if c = '\r' || c = '\n' || c.toNat = 0x85 then
    skipLine
    pure "\n"
  else if c.toNat = 0x2028 || c.toNat = 0x2029 then
    skipLine
    pure (String.singleton c)
  else pure ""

/-- Fails at the current position. -/
def fail (context : Option (String × Mark)) (problem : String) : ScanM α := do
  throw { problem, problemMark := (← get).mark, context }

/-- Appends a token to the queue. -/
def enqueue (t : Token) : ScanM Unit :=
  modify fun s => { s with queue := s.queue ++ [t] }

/-- Whether the next three characters are `c` and the one after them ends a word. -/
def atIndicator (c : Char) : ScanM Bool := do
  pure ((← peekAt 0) = c && (← peekAt 1) = c && (← peekAt 2) = c && isBlankZ (← peekAt 3))

/-- Whether the position starts a document marker `---` or `...` in column zero. -/
def atDocumentMarker : ScanM Bool := do
  let s ← get
  pure (s.mark.column = 0 && ((← atIndicator '-') || (← atIndicator '.')))

/-! ## Simple keys and indentation -/

/-- Drops the innermost simple-key candidate; a required one is an error. -/
def removeSimpleKey : ScanM Unit := do
  let s ← get
  match s.keys with
  | k :: rest =>
    if k.possible && k.required then
      throw { problem := "could not find expected ':'", problemMark := s.mark,
              context := some ("while scanning a simple key", k.mark) }
    set { s with keys := { k with possible := false } :: rest }
  | [] => pure ()

/-- Records that a simple key may start here. -/
def saveSimpleKey : ScanM Unit := do
  let s ← get
  let required := s.flowLevel = 0 && s.indent = (s.mark.column : Int)
  if s.keyAllowed then
    let k : SimpleKey :=
      { possible := true, required, tokenNumber := s.parsed + s.queue.length, mark := s.mark }
    removeSimpleKey
    modify fun s => { s with keys := match s.keys with
      | [] => [k]
      | _ :: rest => k :: rest }

/-- Drops candidates that can no longer be keys: they are on an earlier line or more than
1024 bytes back. A required one is an error. -/
def staleSimpleKeys : ScanM Unit := do
  let s ← get
  let mut out : List SimpleKey := []
  for k in s.keys.reverse do
    if k.possible && (k.mark.line < s.mark.line || k.mark.offset + 1024 < s.mark.offset) then
      if k.required then
        throw { problem := "could not find expected ':'", problemMark := s.mark,
                context := some ("while scanning a simple key", k.mark) }
      out := { k with possible := false } :: out
    else
      out := k :: out
  set { s with keys := out }

def increaseFlowLevel : ScanM Unit :=
  modify fun s => { s with keys := {} :: s.keys, flowLevel := s.flowLevel + 1 }

def decreaseFlowLevel : ScanM Unit :=
  modify fun s => if s.flowLevel > 0 then { s with flowLevel := s.flowLevel - 1, keys := s.keys.drop 1 } else s

/-- `l` with `a` inserted before position `n`. -/
def insertAt (l : List Token) (n : Nat) (a : Token) : List Token :=
  l.take n ++ a :: l.drop n

/-- Opens an indentation level at `column` (block context only), with a start token placed
at the end of the queue or before the token numbered `number`. -/
def rollIndent (column : Int) (number : Option Nat) (kind : TokenKind) (m : Mark) : ScanM Unit := do
  let s ← get
  if s.flowLevel = 0 && s.indent < column then
    let t : Token := ⟨kind, m, m⟩
    let queue := match number with
      | none => s.queue ++ [t]
      | some n => insertAt s.queue (n - s.parsed) t
    set { s with indents := s.indent :: s.indents, indent := column, queue }

/-- Closes the indentation levels deeper than `column` (block context only). -/
def unrollIndent (column : Int) : ScanM Unit := do
  let n := (← get).indents.length + 1
  for _ in [0:n] do
    let s ← get
    if s.flowLevel = 0 && s.indent > column then
      let t : Token := ⟨.blockEnd, s.mark, s.mark⟩
      set { s with queue := s.queue ++ [t], indent := s.indents.headD (-1), indents := s.indents.drop 1 }
    else break

/-! ## Between tokens -/

/-- Skips blanks, comments and line breaks up to the next token. Tabs are skipped only in
flow context or where a simple key may not start; a byte order mark is skipped at the start
of a line, where it takes a column. -/
def scanToNextToken : ScanM Unit := do
  let n ← fuel
  for _ in [0:n] do
    if (← get).mark.column = 0 && (← peek).toNat = 0xFEFF then skip
    for _ in [0:n] do
      let s ← get
      let c ← peek
      if c = ' ' || ((s.flowLevel > 0 || !s.keyAllowed) && c = '\t') then skip else break
    if (← peek) = '#' then
      for _ in [0:n] do
        if isBreakZ (← peek) then break
        skip
    if isBreak (← peek) then
      skipLine
      if (← get).flowLevel = 0 then modify fun s => { s with keyAllowed := true }
    else break

/-! ## Directives -/

/-- Skips spaces and tabs. -/
def skipBlanks : ScanM Unit := do
  let n ← fuel
  for _ in [0:n] do
    if isBlank (← peek) then skip else break

/-- Reads a run of word characters. -/
def readWord : ScanM String := do
  let n ← fuel
  let mut w := ""
  for _ in [0:n] do
    let c ← peek
    if isWordChar c then
      w := w.push c
      skip
    else break
  pure w

/-- Reads a version number of at most nine digits. -/
def scanVersionNumber (start : Mark) : ScanM Nat := do
  let mut v := 0
  let mut len := 0
  for _ in [0:10] do
    let c ← peek
    if c.isDigit then
      len := len + 1
      if len > 9 then
        fail (some ("while scanning a %YAML directive", start)) "found extremely long version number"
      v := v * 10 + (c.toNat - 48)
      skip
    else break
  if len = 0 then
    fail (some ("while scanning a %YAML directive", start)) "did not find expected version number"
  pure v

/-- Reads a tag handle `!`, `!!` or `!word!`. -/
def scanTagHandle (directive : Bool) (start : Mark) : ScanM String := do
  if (← peek) ≠ '!' then
    fail (some (if directive then "while scanning a tag directive" else "while scanning a tag", start))
      "did not find expected '!'"
  let _ ← read
  let w ← readWord
  let h := "!" ++ w
  if (← peek) = '!' then
    let _ ← read
    pure (h ++ "!")
  else if directive && h ≠ "!" then
    fail (some ("while parsing a tag directive", start)) "did not find expected '!'"
  else pure h

/-- Reads one `%XX` escaped character of a tag. -/
def scanUriEscapes (directive : Bool) (start : Mark) : ScanM String := do
  let ctx := some (if directive then "while parsing a %TAG directive" else "while parsing a tag", start)
  let mut bytes : Array UInt8 := #[]
  let mut width := 0
  for _ in [0:4] do
    if !((← peek) = '%' && isHex (← peekAt 1) && isHex (← peekAt 2)) then
      fail ctx "did not find URI escaped octet"
    let octet := hexValue (← peekAt 1) * 16 + hexValue (← peekAt 2)
    if width = 0 then
      width := if octet < 0x80 then 1 else if octet / 32 = 6 then 2 else if octet / 16 = 14 then 3
        else if octet / 8 = 30 then 4 else 0
      if width = 0 then fail ctx "found an incorrect leading UTF-8 octet"
    else if octet / 64 ≠ 2 then fail ctx "found an incorrect trailing UTF-8 octet"
    bytes := bytes.push octet.toUInt8
    skip; skip; skip
    if bytes.size ≥ width then break
  pure ((String.fromUTF8? ⟨bytes⟩).getD "")

/-- Whether a character may appear in a tag. -/
def isUriChar (flowIndicators : Bool) (c : Char) : Bool :=
  isWordChar c || ";/?:@&=+$.%!~*'()".toList.contains c || (flowIndicators && ",[]".toList.contains c)

/-- Reads the characters of a tag after an optional head (whose leading `!` is dropped). -/
def scanTagUri (flowIndicators directive : Bool) (head : String) (start : Mark) : ScanM String := do
  let n ← fuel
  let mut out := if head.length > 1 then String.ofList (head.toList.drop 1) else ""
  let mut len := head.length
  for _ in [0:n] do
    let c ← peek
    if isUriChar flowIndicators c then
      if c = '%' then out := out ++ (← scanUriEscapes directive start)
      else out := out.push (← read)
      len := len + 1
    else break
  if len = 0 then
    fail (some (if directive then "while parsing a %TAG directive" else "while parsing a tag", start))
      "did not find expected tag URI"
  pure out

/-- Reads a `%YAML` or `%TAG` directive line. -/
def scanDirective : ScanM Token := do
  let start := (← get).mark
  skip
  let name ← readWord
  if name.isEmpty then
    fail (some ("while scanning a directive", start)) "could not find expected directive name"
  if !isBlankZ (← peek) then
    fail (some ("while scanning a directive", start)) "found unexpected non-alphabetical character"
  let kind ← if name = "YAML" then do
      skipBlanks
      let major ← scanVersionNumber start
      if (← peek) ≠ '.' then
        fail (some ("while scanning a %YAML directive", start)) "did not find expected digit or '.' character"
      skip
      let minor ← scanVersionNumber start
      pure (TokenKind.versionDirective major minor)
    else if name = "TAG" then do
      skipBlanks
      let handle ← scanTagHandle true start
      if !isBlank (← peek) then
        fail (some ("while scanning a %TAG directive", start)) "did not find expected whitespace"
      skipBlanks
      let pfx ← scanTagUri true true "" start
      if !isBlankZ (← peek) then
        fail (some ("while scanning a %TAG directive", start)) "did not find expected whitespace or line break"
      pure (TokenKind.tagDirective handle pfx)
    else fail (some ("while scanning a directive", start)) "found unknown directive name"
  let stop := (← get).mark
  skipBlanks
  if (← peek) = '#' then
    let n ← fuel
    for _ in [0:n] do
      if isBreakZ (← peek) then break
      skip
  if !isBreakZ (← peek) then
    fail (some ("while scanning a directive", start)) "did not find expected comment or line break"
  if isBreak (← peek) then skipLine
  pure ⟨kind, start, stop⟩

/-! ## Anchors and tags -/

/-- Reads `&name` or `*name`. -/
def scanAnchor (isAlias : Bool) : ScanM Token := do
  let start := (← get).mark
  skip
  let name ← readWord
  let stop := (← get).mark
  let c ← peek
  let ends := isBlankZ c || "?:,]\x7d%@".toList.contains c || c.toNat = 96
  if name.isEmpty || !ends then
    fail (some (if isAlias then "while scanning an alias" else "while scanning an anchor", start))
      "did not find expected alphabetic or numeric character"
  pure ⟨if isAlias then .alias name else .anchor name, start, stop⟩

/-- Reads a tag: `!<uri>`, `!handle!suffix`, `!suffix` or `!`. -/
def scanTag : ScanM Token := do
  let start := (← get).mark
  let (handle, suffix) ← if (← peekAt 1) = '<' then do
      skip; skip
      let suffix ← scanTagUri true false "" start
      if (← peek) ≠ '>' then
        fail (some ("while scanning a tag", start)) "did not find the expected '>'"
      skip
      pure ("", suffix)
    else do
      let handle ← scanTagHandle false start
      if handle.length > 1 && handle.endsWith "!" then
        let suffix ← scanTagUri false false "" start
        pure (handle, suffix)
      else
        let suffix ← scanTagUri false false handle start
        if suffix.isEmpty then pure ("", "!") else pure ("!", suffix)
  let c ← peek
  if !isBlankZ c && !((← get).flowLevel > 0 && c = ',') then
    fail (some ("while scanning a tag", start)) "did not find expected whitespace or line break"
  pure ⟨.tag handle suffix, start, (← get).mark⟩

/-! ## Block scalars -/

/-- Skips the indentation and empty lines before a line of a block scalar, collecting the
line breaks, and fixes the indentation if it is not known yet. -/
def scanBlockBreaks (indent : Nat) (start : Mark) : ScanM (Nat × String × Mark) := do
  let n ← fuel
  let mut maxIndent := 0
  let mut breaks := ""
  let mut stop := (← get).mark
  for _ in [0:n] do
    for _ in [0:n] do
      if (indent = 0 || (← get).mark.column < indent) && (← peek) = ' ' then skip else break
    let col := (← get).mark.column
    if col > maxIndent then maxIndent := col
    if (indent = 0 || col < indent) && (← peek) = '\t' then
      fail (some ("while scanning a block scalar", start)) "found a tab character where an indentation space is expected"
    if !isBreak (← peek) then break
    breaks := breaks ++ (← readLine)
    stop := (← get).mark
  let indent ←
    if indent = 0 then do
      let s ← get
      let least : Int := s.indent + 1
      let i : Int := max (max (maxIndent : Int) least) 1
      pure i.toNat
    else pure indent
  pure (indent, breaks, stop)

/-- Reads a literal (`|`) or folded (`>`) block scalar. -/
def scanBlockScalar (literal : Bool) : ScanM Token := do
  let start := (← get).mark
  let n ← fuel
  skip
  let ctx := some ("while scanning a block scalar", start)
  let mut chomping : Int := 0
  let mut increment := 0
  let c ← peek
  if c = '+' || c = '-' then
    chomping := if c = '+' then 1 else -1
    skip
    let d ← peek
    if d.isDigit then
      if d = '0' then fail ctx "found an indentation indicator equal to 0"
      increment := d.toNat - 48
      skip
  else if c.isDigit then
    if c = '0' then fail ctx "found an indentation indicator equal to 0"
    increment := c.toNat - 48
    skip
    let d ← peek
    if d = '+' || d = '-' then
      chomping := if d = '+' then 1 else -1
      skip
  skipBlanks
  if (← peek) = '#' then
    for _ in [0:n] do
      if isBreakZ (← peek) then break
      skip
  if !isBreakZ (← peek) then fail ctx "did not find expected comment or line break"
  if isBreak (← peek) then skipLine
  let mut indent : Nat := 0
  if increment > 0 then
    let s ← get
    indent := if s.indent ≥ 0 then (s.indent + increment).toNat else increment
  let (i, trailing0, stop0) ← scanBlockBreaks indent start
  indent := i
  let mut trailing := trailing0
  let mut stop := stop0
  let mut out := ""
  let mut leadingBreak := ""
  let mut leadingBlank := false
  for _ in [0:n] do
    if !((← get).mark.column = indent && !isZ (← peek)) then break
    let trailingBlank := isBlank (← peek)
    if !literal && leadingBreak.startsWith "\n" && !leadingBlank && !trailingBlank then
      if trailing.isEmpty then out := out.push ' '
      leadingBreak := ""
    else
      out := out ++ leadingBreak
      leadingBreak := ""
    out := out ++ trailing
    trailing := ""
    leadingBlank := isBlank (← peek)
    for _ in [0:n] do
      if isBreakZ (← peek) then break
      out := out.push (← read)
    leadingBreak ← readLine
    let (_, t, st) ← scanBlockBreaks indent start
    trailing := t
    stop := st
  if chomping ≠ -1 then out := out ++ leadingBreak
  if chomping = 1 then out := out ++ trailing
  pure ⟨.scalar out (if literal then .literal else .folded), start, stop⟩

/-! ## Quoted scalars -/

/-- The character a one-letter escape of a double-quoted scalar stands for. -/
def simpleEscape (c : Char) : Option Char :=
  match c with
  | '0' => some (Char.ofNat 0)
  | 'a' => some (Char.ofNat 7)
  | 'b' => some (Char.ofNat 8)
  | 't' => some '\t'
  | '\t' => some '\t'
  | 'n' => some '\n'
  | 'v' => some (Char.ofNat 11)
  | 'f' => some (Char.ofNat 12)
  | 'r' => some '\r'
  | 'e' => some (Char.ofNat 27)
  | ' ' => some ' '
  | '"' => some '"'
  | '/' => some '/'
  | '\'' => some '\''
  | '\\' => some '\\'
  | 'N' => some (Char.ofNat 0x85)
  | '_' => some (Char.ofNat 0xA0)
  | 'L' => some (Char.ofNat 0x2028)
  | 'P' => some (Char.ofNat 0x2029)
  | _ => none

/-- Joins the blanks and breaks between two runs of a multi-line scalar: a single line feed
folds to a space, further breaks stay; other breaks and plain blanks are kept. -/
def joinFolded (leadingBreak trailing : String) : String :=
  if leadingBreak.startsWith "\n" then (if trailing.isEmpty then " " else trailing)
  else leadingBreak ++ trailing

/-- Reads a single- or double-quoted scalar. -/
def scanFlowScalar (single : Bool) : ScanM Token := do
  let start := (← get).mark
  let n ← fuel
  skip
  let quote := if single then '\'' else '"'
  let mut out := ""
  for _ in [0:n] do
    if (← atDocumentMarker) then
      fail (some ("while scanning a quoted scalar", start)) "found unexpected document indicator"
    if isZ (← peek) then
      fail (some ("while scanning a quoted scalar", start)) "found unexpected end of stream"
    let mut leadingBlanks := false
    for _ in [0:n] do
      let c ← peek
      if isBlankZ c then break
      if single && c = '\'' && (← peekAt 1) = '\'' then
        out := out.push '\''
        skip; skip
      else if c = quote then break
      else if !single && c = '\\' && isBreak (← peekAt 1) then
        skip
        skipLine
        leadingBlanks := true
        break
      else if !single && c = '\\' then
        let e ← peekAt 1
        let width : Nat := if e = 'x' then 2 else if e = 'u' then 4 else if e = 'U' then 8 else 0
        if width = 0 then
          match simpleEscape e with
          | some ch =>
            out := out.push ch
            skip; skip
          | none => fail (some ("while parsing a quoted scalar", start)) "found unknown escape character"
        else
          skip; skip
          let mut v := 0
          for k in [0:width] do
            let h ← peekAt k
            if !isHex h then
              fail (some ("while parsing a quoted scalar", start)) "did not find expected hexadecimal number"
            v := v * 16 + hexValue h
          if (0xD800 ≤ v && v ≤ 0xDFFF) || v > 0x10FFFF then
            fail (some ("while parsing a quoted scalar", start)) "found invalid Unicode character escape code"
          out := out.push (Char.ofNat v)
          for _ in [0:width] do skip
      else
        out := out.push (← read)
    if (← peek) = quote then break
    let mut whitespace := ""
    let mut leadingBreak := ""
    let mut trailing := ""
    for _ in [0:n] do
      let c ← peek
      if isBlank c then
        if !leadingBlanks then whitespace := whitespace.push (← read) else skip
      else if isBreak c then
        if !leadingBlanks then
          whitespace := ""
          leadingBreak ← readLine
          leadingBlanks := true
        else
          trailing := trailing ++ (← readLine)
      else break
    if leadingBlanks then out := out ++ joinFolded leadingBreak trailing
    else out := out ++ whitespace
  skip
  pure ⟨.scalar out (if single then .singleQuoted else .doubleQuoted), start, (← get).mark⟩

/-! ## Plain scalars -/

/-- Reads a plain scalar; it ends at `: `, at ` #`, at a flow indicator in flow context, at
a document marker, or at a line indented no deeper than the current block. -/
def scanPlainScalar : ScanM Token := do
  let start := (← get).mark
  let n ← fuel
  let indent : Int := (← get).indent + 1
  let mut stop := start
  let mut out := ""
  let mut leadingBreak := ""
  let mut trailing := ""
  let mut whitespace := ""
  let mut leadingBlanks := false
  for _ in [0:n] do
    if (← atDocumentMarker) then break
    if (← peek) = '#' then break
    for _ in [0:n] do
      let c ← peek
      if isBlankZ c then break
      let flow := (← get).flowLevel > 0
      if flow && c = ':' && ",?[]{}".toList.contains (← peekAt 1) then
        fail (some ("while scanning a plain scalar", start)) "found unexpected ':'"
      if (c = ':' && isBlankZ (← peekAt 1)) || (flow && ",[]{}".toList.contains c) then break
      if leadingBlanks || !whitespace.isEmpty then
        if leadingBlanks then
          out := out ++ joinFolded leadingBreak trailing
          leadingBreak := ""
          trailing := ""
          leadingBlanks := false
        else
          out := out ++ whitespace
          whitespace := ""
      out := out.push (← read)
      stop := (← get).mark
    let c ← peek
    if !(isBlank c || isBreak c) then break
    for _ in [0:n] do
      let c ← peek
      if isBlank c then
        if leadingBlanks && ((← get).mark.column : Int) < indent && c = '\t' then
          fail (some ("while scanning a plain scalar", start)) "found a tab character that violates indentation"
        if !leadingBlanks then whitespace := whitespace.push (← read) else skip
      else if isBreak c then
        if !leadingBlanks then
          whitespace := ""
          leadingBreak ← readLine
          leadingBlanks := true
        else
          trailing := trailing ++ (← readLine)
      else break
    let s ← get
    if s.flowLevel = 0 && (s.mark.column : Int) < indent then break
  if leadingBlanks then modify fun s => { s with keyAllowed := true }
  pure ⟨.scalar out .plain, start, stop⟩

/-! ## Fetching tokens -/

def fetchStreamStart : ScanM Unit := do
  modify fun s => { s with indent := -1, keys := [{}], keyAllowed := true, started := true }
  let m := (← get).mark
  enqueue ⟨.streamStart, m, m⟩

def fetchStreamEnd : ScanM Unit := do
  let s ← get
  if s.mark.column ≠ 0 then
    set { s with mark := { s.mark with column := 0, line := s.mark.line + 1 } }
  unrollIndent (-1)
  removeSimpleKey
  modify fun s => { s with keyAllowed := false }
  let m := (← get).mark
  enqueue ⟨.streamEnd, m, m⟩

def fetchDirective : ScanM Unit := do
  unrollIndent (-1)
  removeSimpleKey
  modify fun s => { s with keyAllowed := false }
  enqueue (← scanDirective)

def fetchDocumentIndicator (kind : TokenKind) : ScanM Unit := do
  unrollIndent (-1)
  removeSimpleKey
  modify fun s => { s with keyAllowed := false }
  let start := (← get).mark
  skip; skip; skip
  enqueue ⟨kind, start, (← get).mark⟩

/-- A one-character token. -/
def fetchSingle (kind : TokenKind) : ScanM Unit := do
  let start := (← get).mark
  skip
  enqueue ⟨kind, start, (← get).mark⟩

def fetchFlowCollectionStart (kind : TokenKind) : ScanM Unit := do
  saveSimpleKey
  increaseFlowLevel
  modify fun s => { s with keyAllowed := true }
  fetchSingle kind

def fetchFlowCollectionEnd (kind : TokenKind) : ScanM Unit := do
  removeSimpleKey
  decreaseFlowLevel
  modify fun s => { s with keyAllowed := false }
  fetchSingle kind

def fetchFlowEntry : ScanM Unit := do
  removeSimpleKey
  modify fun s => { s with keyAllowed := true }
  fetchSingle .flowEntry

def fetchBlockEntry : ScanM Unit := do
  let s ← get
  if s.flowLevel = 0 then
    if !s.keyAllowed then fail none "block sequence entries are not allowed in this context"
    rollIndent s.mark.column none .blockSequenceStart s.mark
  removeSimpleKey
  modify fun s => { s with keyAllowed := true }
  fetchSingle .blockEntry

def fetchKey : ScanM Unit := do
  let s ← get
  if s.flowLevel = 0 then
    if !s.keyAllowed then fail none "mapping keys are not allowed in this context"
    rollIndent s.mark.column none .blockMappingStart s.mark
  removeSimpleKey
  modify fun s => { s with keyAllowed := s.flowLevel = 0 }
  fetchSingle .key

def fetchValue : ScanM Unit := do
  let s ← get
  match s.keys with
  | k :: rest =>
    if k.possible then
      let t : Token := ⟨.key, k.mark, k.mark⟩
      set { s with queue := insertAt s.queue (k.tokenNumber - s.parsed) t }
      rollIndent k.mark.column (some k.tokenNumber) .blockMappingStart k.mark
      modify fun s => { s with keys := { k with possible := false } :: rest, keyAllowed := false }
    else
      if s.flowLevel = 0 then
        if !s.keyAllowed then fail none "mapping values are not allowed in this context"
        rollIndent s.mark.column none .blockMappingStart s.mark
      modify fun s => { s with keyAllowed := s.flowLevel = 0 }
  | [] => pure ()
  fetchSingle .value

/-- Characters that cannot start a plain scalar on their own. -/
def indicators : List Char := "-?:,[]{}#&*!|>'\"%@".toList ++ [Char.ofNat 96]

/-- Reads the next token (or tokens) into the queue. -/
def fetchNextToken : ScanM Unit := do
  if !(← get).started then
    fetchStreamStart
    return
  scanToNextToken
  staleSimpleKeys
  unrollIndent (← get).mark.column
  let s ← get
  let c ← peek
  let flow := s.flowLevel > 0
  let col0 := s.mark.column = 0
  if isZ c then fetchStreamEnd
  else if col0 && c = '%' then fetchDirective
  else if col0 && (← atIndicator '-') then fetchDocumentIndicator .documentStart
  else if col0 && (← atIndicator '.') then fetchDocumentIndicator .documentEnd
  else if c = '[' then fetchFlowCollectionStart .flowSequenceStart
  else if c = '{' then fetchFlowCollectionStart .flowMappingStart
  else if c = ']' then fetchFlowCollectionEnd .flowSequenceEnd
  else if c = '}' then fetchFlowCollectionEnd .flowMappingEnd
  else if c = ',' then fetchFlowEntry
  else if c = '-' && isBlankZ (← peekAt 1) then fetchBlockEntry
  else if c = '?' && (flow || isBlankZ (← peekAt 1)) then fetchKey
  else if c = ':' && (flow || isBlankZ (← peekAt 1)) then fetchValue
  else if c = '*' then
    saveSimpleKey
    modify fun s => { s with keyAllowed := false }
    enqueue (← scanAnchor true)
  else if c = '&' then
    saveSimpleKey
    modify fun s => { s with keyAllowed := false }
    enqueue (← scanAnchor false)
  else if c = '!' then
    saveSimpleKey
    modify fun s => { s with keyAllowed := false }
    enqueue (← scanTag)
  else if (c = '|' || c = '>') && !flow then
    removeSimpleKey
    modify fun s => { s with keyAllowed := true }
    enqueue (← scanBlockScalar (c = '|'))
  else if c = '\'' || c = '"' then
    saveSimpleKey
    modify fun s => { s with keyAllowed := false }
    enqueue (← scanFlowScalar (c = '\''))
  else
    let d ← peekAt 1
    let plain := !(isBlankZ c || indicators.contains c) || (c = '-' && !isBlank d) ||
      (!flow && (c = '?' || c = ':') && !isBlankZ d)
    if plain then
      saveSimpleKey
      modify fun s => { s with keyAllowed := false }
      enqueue (← scanPlainScalar)
    else
      fail (some ("while scanning for the next token", s.mark)) "found character that cannot start any token"

/-- Fetches tokens until the head of the queue can no longer become part of a simple key. -/
def fetchMoreTokens : ScanM Unit := do
  let n := 4 * (← fuel)
  for _ in [0:n] do
    let s ← get
    let need ←
      if s.queue.isEmpty then pure true
      else do
        staleSimpleKeys
        let s ← get
        pure (s.keys.any fun k => k.possible && k.tokenNumber = s.parsed)
    if !need then break
    fetchNextToken
  modify fun s => { s with available := true }

end Scan

/-- The next token, fetching as needed. -/
def Scanner.peekToken : ScanM Token := do
  if !(← get).available then Scan.fetchMoreTokens
  match (← get).queue with
  | t :: _ => pure t
  | [] => pure ⟨.streamEnd, (← get).mark, (← get).mark⟩

/-- Takes the next token from the queue. -/
def Scanner.skipToken : ScanM Unit :=
  modify fun s => { s with queue := s.queue.drop 1, parsed := s.parsed + 1, available := false }

end Covenant.Yaml
