import Covenant.Yaml.Event
import Covenant.Yaml.Node
import Covenant.Yaml.Resolve
/-!
# Loading a YAML document

Loading runs in two passes.

1. **Collecting.** The events of the first document are gathered in order, with anchors
   replaced by numbers: an anchor gets the number of anchors named so far (so naming one
   again gives it a new number without counting a new name) and an alias becomes the number
   its name has at that point, or is an error when the name is unknown. A syntax error ends
   the collection and is kept beside the events read before it. A stream with no document
   at all is one empty document, whose node is null.
2. **Building.** The node is built from the events. An alias reads the events its anchor
   marked again, at most a hundred times the number of events in all; collections nest at
   most 128 deep. A node with a local tag (`!name`, or a lone `!`) is built as a tagged node
   around the node it would be without the tag. Untagged plain scalars are resolved by the
   core schema, and the tags `!!bool`, `!!int`, `!!float` and `!!null` demand their kind; a
   key that is the same as an earlier key of its mapping is an error.

A syntax error met while building is reported where it is met; one after the node is
complete is still reported; and a second document after the first is an error.

Errors other than syntax errors name the path of the node they concern (`parties[0]`,
`client.name`) and where it starts, when those are not the root and the very start.
-/

namespace Covenant.Yaml

/-- The path of a node within a document, for error messages. -/
inductive YPath where
  | root
  | seq (parent : YPath) (index : Nat)
  | map (parent : YPath) (key : String)
  | alias (parent : YPath)
  | unknown (parent : YPath)

/-- `.` for the root; `parent[i]` for an item; `parent.key` for a mapping value (`key` when
the parent is the root); an alias shows its parent; `?` stands for a key with no text. -/
def YPath.render : YPath → String
  | .root => "."
  | .seq p i => p.render ++ "[" ++ toString i ++ "]"
  | .map p k => (match p with | .root => "" | _ => p.render ++ ".") ++ k
  | .alias p => p.render
  | .unknown p => (match p with | .root => "" | _ => p.render ++ ".") ++ "?"

/-- Why a YAML text did not load. -/
inductive LoadError where
  | malformed (e : SyntaxError)
  | reader (problem : String) (offset : Nat)
  | message (text : String) (site : Option (Mark × String))
  | endOfStream
  | manyDocuments
  | tooDeep (m : Mark)
  | tooRepetitive
  | unknownAnchor (m : Mark)

/-- ` at line L column C`, or nothing at the very start of the text. -/
def Mark.suffix (m : Mark) : String :=
  if m.isOrigin then "" else " at " ++ m.describe

/-- The message of a load error. -/
def LoadError.text : LoadError → String
  | .malformed e => e.message
  | .reader p off => p ++ (if off = 0 then "" else " at position " ++ toString off)
  | .message t none => t
  | .message t (some (m, path)) => (if path = "." then "" else path ++ ": ") ++ t ++ m.suffix
  | .endOfStream => "EOF while parsing a value"
  | .manyDocuments => "deserializing from YAML containing more than one document is not supported"
  | .tooDeep m => "recursion limit exceeded" ++ m.suffix
  | .tooRepetitive => "repetition limit exceeded"
  | .unknownAnchor m => "unknown anchor" ++ m.suffix

/-- A message error gets the place of the first node that sees it; other errors keep theirs. -/
def LoadError.locate (m : Mark) (path : YPath) : LoadError → LoadError
  | .message t none => .message t (some (m, path.render))
  | e => e

/-! ## Collecting events -/

/-- An event as the builder sees it: anchors are gone and aliases are numbers. `void`
stands for the empty document. -/
inductive Item where
  | void
  | alias (id : Nat)
  | scalar (tag : Option String) (text : String) (style : ScalarStyle)
  | seqStart (tag : Option String)
  | seqEnd
  | mapStart (tag : Option String)
  | mapEnd

/-- The events of a document, the error that ended it early if any, and for each anchor
number the index of the event it marks (newest first). -/
structure Document where
  items : Array (Item × Mark) := #[]
  error : Option LoadError := none
  targets : List (Nat × Nat) := []

/-- A document being collected, with the number each anchor name has now. -/
structure Collecting where
  doc : Document := {}
  anchors : List (String × Nat) := []

/-- Names an anchor at the next event. -/
def Collecting.mark (c : Collecting) : Option String → Collecting
  | none => c
  | some name =>
    let id := c.anchors.length
    let anchors :=
      if c.anchors.any (·.1 == name) then
        c.anchors.map fun (n, i) => if n == name then (n, id) else (n, i)
      else c.anchors ++ [(name, id)]
    { anchors, doc := { c.doc with targets := (id, c.doc.items.size) :: c.doc.targets } }

/-- Adds an event. -/
def Collecting.push (c : Collecting) (i : Item) (m : Mark) : Collecting :=
  { c with doc := { c.doc with items := c.doc.items.push (i, m) } }

/-- Characters a YAML stream may hold. -/
def allowedChar (c : Char) : Bool :=
  let n := c.toNat
  n = 0x9 || n = 0xA || n = 0xD || (0x20 ≤ n && n ≤ 0x7E) || n = 0x85 ||
    (0xA0 ≤ n && n ≤ 0xD7FF) || (0xE000 ≤ n && n ≤ 0xFFFD) || 0x10000 ≤ n

/-- The first character a YAML stream may not hold, as an error at its byte offset. -/
def readerProblem (text : String) : Option LoadError :=
  go text.toList 0
where
  go : List Char → Nat → Option LoadError
    | [], _ => none
    | c :: cs, off =>
      if allowedChar c then go cs (off + c.utf8Size)
      else some (.reader "control characters are not allowed" off)

/-- Collects the events of the first document. The parser is returned when the document
ended with a document end, so that what follows can be looked at. -/
def collect : Nat → Parser → Collecting → Document × Option Parser
  | 0, _, c => (c.doc, none)
  | fuel + 1, p, c =>
    match Parse.nextEvent.run p with
    | .error e => ({ c.doc with error := some (.malformed e) }, none)
    | .ok (none, _) => (c.doc, none)
    | .ok (some ev, p') =>
      match ev.kind with
      | .streamStart | .documentStart _ => collect fuel p' c
      | .streamEnd =>
        (if c.doc.items.isEmpty then { c.doc with items := #[(.void, ev.start)] } else c.doc, none)
      | .documentEnd _ => (c.doc, some p')
      | .alias name =>
        match c.anchors.lookup name with
        | some id => collect fuel p' (c.push (.alias id) ev.start)
        | none => ({ c.doc with error := some (.unknownAnchor ev.start) }, none)
      | .scalar anchor tag text style _ _ =>
        collect fuel p' ((c.mark anchor).push (.scalar tag text style) ev.start)
      | .sequenceStart anchor tag _ _ =>
        collect fuel p' ((c.mark anchor).push (.seqStart tag) ev.start)
      | .sequenceEnd => collect fuel p' (c.push .seqEnd ev.start)
      | .mappingStart anchor tag _ _ =>
        collect fuel p' ((c.mark anchor).push (.mapStart tag) ev.start)
      | .mappingEnd => collect fuel p' (c.push .mapEnd ev.start)

/-- Whether anything but the end of the stream follows the first document. -/
def moreDocuments (p : Parser) : Bool :=
  match Parse.nextEvent.run p with
  | .ok (some ev, _) => !(ev.kind matches .streamEnd)
  | .ok (none, _) => false
  | .error _ => true

/-- The first document of a YAML text. -/
def firstDocument (text : String) : Document × Option Parser :=
  match readerProblem text with
  | some e => ({ error := some e }, none)
  | none => collect (10 * text.length + 32) (Parser.ofString text) {}

/-! ## Building the node -/

/-- The event at a position, or the error that ended the document there. -/
def Document.event (d : Document) (pos : Nat) : Except LoadError (Item × Mark) :=
  match d.items[pos]? with
  | some e => .ok e
  | none => .error (d.error.getD .endOfStream)

/-- The event an anchor number marks. -/
def Document.target? (d : Document) (id : Nat) : Option Nat :=
  d.targets.lookup id

/-- The core schema's name for a kind of scalar. -/
def coreTag (name : String) : String := "tag:yaml.org,2002:" ++ name

/-- Text between backticks. -/
def ticked (s : String) : String :=
  (Char.ofNat 96).toString ++ s ++ (Char.ofNat 96).toString

/-- The error for a scalar that is not of the kind its tag demands. -/
def notA (v expected : String) : LoadError :=
  .message ("invalid value: string " ++ Text.quoted v ++ ", expected " ++ expected) none

/-- A whole number: unsigned 64-bit, then negative 64-bit; one that only fits 128 bits is an
error. -/
def wholeNumber? (v : String) : Option (Except LoadError YNumber) :=
  match unsignedScalar (Nat.pow 2 64) v with
  | some n => some (.ok (.pos n))
  | none =>
    match negativeScalar (Nat.pow 2 63) v with
    | some i => some (.ok (YNumber.ofInt i))
    | none =>
      match unsignedScalar (Nat.pow 2 128) v with
      | some n => some (.error (.message ("invalid type: integer " ++ ticked (toString n) ++
          " as u128, expected any YAML value") none))
      | none =>
        match negativeScalar (Nat.pow 2 127) v with
        | some i => some (.error (.message ("invalid type: integer " ++ ticked (toString i) ++
            " as i128, expected any YAML value") none))
        | none => none

/-- A plain scalar with no tag, by the core schema. -/
def untaggedScalar (v : String) : Except LoadError Node :=
  if v.isEmpty || isNullWord v then .ok .null
  else match boolWord? v with
    | some b => .ok (.bool b)
    | none =>
      match wholeNumber? v with
      | some r => r.map .num
      | none =>
        if leadingZeroDigits v then .ok (.str v)
        else match floatScalar? v with
          | some f => .ok (.num (.float f))
          | none => .ok (.str v)

/-- A scalar node. Its tag counts unless the node is already being read inside its tag. -/
def scalarNode (tag : Option String) (v : String) (style : ScalarStyle) (inTag : Bool) :
    Except LoadError Node :=
  match tag, inTag with
  | some t, false =>
    if t = coreTag "bool" then
      match boolWord? v with
      | some b => .ok (.bool b)
      | none => .error (notA v "a boolean")
    else if t = coreTag "int" then
      match wholeNumber? v with
      | some r => r.map .num
      | none => .error (notA v "an integer")
    else if t = coreTag "float" then
      match floatScalar? v with
      | some f => .ok (.num (.float f))
      | none => .error (notA v "a float")
    else if t = coreTag "null" then
      if isNullWord v then .ok .null else .error (notA v "null")
    else if t.startsWith "!" && style = .plain then untaggedScalar v
    else .ok (.str v)
  | _, _ => if style = .plain then untaggedScalar v else .ok (.str v)

/-- The local tag of a node, without its `!` (a lone `!` stays as it is), unless the node is
already read inside it. -/
def localTag (tag : Option String) (inTag : Bool) : Option String :=
  if inTag then none
  else match tag with
    | some t =>
      match t.toList with
      | ['!'] => some t
      | '!' :: rest => some (String.ofList rest)
      | _ => none
    | none => none

/-- The message for a key the same as an earlier one. -/
def duplicateKey (k : Node) : LoadError :=
  .message ("duplicate entry " ++ match k with
    | .null => "with null key"
    | .bool b => "with key " ++ ticked (if b then "true" else "false")
    | .num n => "with key " ++ n.render
    | .str s => "with key " ++ Text.quoted s
    | _ => "in YAML map") none

/-- Building keeps count of alias jumps. -/
abbrev BuildM := StateT Nat (Except LoadError)

/-- Runs a step, giving its message errors the place of a node. -/
def located (m : Mark) (path : YPath) (act : BuildM α) : BuildM α :=
  tryCatch act fun e => throw (e.locate m path)

mutual

/-- Builds the node at `pos` and returns it with the position after it. `depth` is how many
more collections may open; `inTag` says the node is being read inside its own local tag
(or is a key of a mapping read so). -/
def buildNode (d : Document) : Nat → Nat → YPath → Nat → Bool → BuildM (Node × Nat)
  | 0, _, _, _, _ => throw .tooRepetitive
  | fuel + 1, pos, path, depth, inTag => do
    let (item, m) ← (d.event pos : Except LoadError (Item × Mark))
    located m path do
      match item with
      | .alias id =>
        let count := (← get) + 1
        set count
        if count > d.items.size * 100 then throw .tooRepetitive
        match d.target? id with
        | some target => do
          let (n, _) ← buildNode d fuel target (.alias path) depth false
          pure (n, pos + 1)
        | none => throw (.unknownAnchor m)
      | .scalar tag text style =>
        match localTag tag inTag with
        | some t => do
          let (n, next) ← buildNode d fuel pos path depth true
          pure (.tagged t n, next)
        | none => do
          let n ← (scalarNode tag text style inTag : Except LoadError Node)
          pure (n, pos + 1)
      | .seqStart tag =>
        match localTag tag inTag with
        | some t => do
          let (n, next) ← buildNode d fuel pos path depth true
          pure (.tagged t n, next)
        | none =>
          match depth with
          | 0 => throw (.tooDeep m)
          | depth' + 1 => do
            let (items, next) ← buildItems d fuel (pos + 1) path depth' 0 []
            pure (.seq items, next)
      | .mapStart tag =>
        match localTag tag inTag with
        | some t => do
          let (n, next) ← buildNode d fuel pos path depth true
          pure (.tagged t n, next)
        | none =>
          match depth with
          | 0 => throw (.tooDeep m)
          | depth' + 1 => do
            let (entries, next) ← buildEntries d fuel (pos + 1) path depth' inTag []
            pure (.map entries, next)
      | .void => pure (.null, pos + 1)
      | .seqEnd | .mapEnd => throw (.message "unexpected end of a collection" none)

/-- Builds the items of a sequence up to its end, which it steps past. -/
def buildItems (d : Document) : Nat → Nat → YPath → Nat → Nat → List Node →
    BuildM (List Node × Nat)
  | 0, _, _, _, _, _ => throw .tooRepetitive
  | fuel + 1, pos, path, depth, i, acc => do
    let (item, _) ← (d.event pos : Except LoadError (Item × Mark))
    match item with
    | .seqEnd | .void => pure (acc.reverse, pos + 1)
    | _ => do
      let (n, next) ← buildNode d fuel pos (.seq path i) depth false
      buildItems d fuel next path depth (i + 1) (n :: acc)

/-- Builds the entries of a mapping up to its end, which it steps past. -/
def buildEntries (d : Document) : Nat → Nat → YPath → Nat → Bool → List (Node × Node) →
    BuildM (List (Node × Node) × Nat)
  | 0, _, _, _, _, _ => throw .tooRepetitive
  | fuel + 1, pos, path, depth, inTag, acc => do
    let (item, _) ← (d.event pos : Except LoadError (Item × Mark))
    match item with
    | .mapEnd | .void => pure (acc.reverse, pos + 1)
    | _ => do
      let valuePath := match item with
        | .scalar _ text _ => YPath.map path text
        | _ => .unknown path
      let (k, afterKey) ← buildNode d fuel pos path depth inTag
      if acc.any (fun e => Node.same k e.1) then throw (duplicateKey k)
      let (v, next) ← buildNode d fuel afterKey valuePath depth false
      buildEntries d fuel next path depth inTag ((k, v) :: acc)

end

/-- The node of a YAML text holding one document. -/
def loadNode (text : String) : Except LoadError Node := do
  let (doc, rest) := firstDocument text
  let fuel := 132 * (doc.items.size + 4)
  let (node, _) ← (buildNode doc fuel 0 .root 128 false).run' 0
  match doc.error with
  | some e => throw e
  | none =>
    match rest with
    | some p => if moreDocuments p then throw .manyDocuments else pure node
    | none => pure node

/-- The metadata value of a YAML text, or the message of why it does not load. -/
def loadValue (text : String) : Except String Value :=
  match loadNode text with
  | .ok n => .ok n.toValue
  | .error e => .error e.text

end Covenant.Yaml
