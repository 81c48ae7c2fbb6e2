import Covenant.Decimal.Read
import Covenant.Decimal.Layout
/-!
# Metadata values

Document metadata is a tree of JSON-like values whose mappings keep their keys in insertion
order. A number is either whole (and then within the range of a signed or unsigned 64-bit
word) or a binary64 value; the two are kept apart because they are written differently.

Besides the type, this module holds the reading rules every part of the library shares:
dotted paths (`client.address.city`, `parties.0`), the loose truthiness of a value, and the
text a value stands for in a document.
-/

namespace Covenant

open Covenant.Decimal

/-- A metadata number: whole, or a binary64 value. -/
inductive Number where
  | int (i : Int)
  | float (f : Float)

/-- A metadata value. A mapping is a list of entries in insertion order with distinct keys. -/
inductive Value where
  | null
  | bool (b : Bool)
  | num (n : Number)
  | str (s : String)
  | arr (items : List Value)
  | obj (entries : List (String × Value))

instance : Inhabited Value := ⟨.null⟩

/-- The entries of a mapping, in insertion order. -/
abbrev Entries := List (String × Value)

namespace Number

/-- The value as a signed 64-bit integer, if it is one. -/
def asInt64? : Number → Option Int
  | int i => if -Nat.pow 2 63 ≤ i ∧ i < Nat.pow 2 63 then some i else none
  | float _ => none

/-- The value as a binary64 value; whole numbers round to nearest. -/
def toFloat : Number → Float
  | int i => ofInt i
  | float f => f

/-- Whole numbers print their digits. A binary64 value with no fraction below `10^15` in size
prints as a whole number (`-0.0` as `-0`); any other prints its shortest digits positionally. -/
def display : Number → String
  | int i => toString i
  | float f =>
    if f - f.floor == 0.0 ∧ f.abs < 1e15 then fixed 0 f
    else Layout.plain.render f

/-- Numbers of the same kind compare by value; a whole number never equals a binary64 one. -/
def beq : Number → Number → Bool
  | int a, int b => a == b
  | float a, float b => a == b
  | _, _ => false

end Number

/-- The coarse kinds of value, as named in reports and messages. -/
inductive ValueKind where
  | null
  | boolean
  | number
  | string
  | sequence
  | mapping
deriving DecidableEq, Repr

/-- The lower-case name of a kind. -/
def ValueKind.name : ValueKind → String
  | .null => "null"
  | .boolean => "boolean"
  | .number => "number"
  | .string => "string"
  | .sequence => "sequence"
  | .mapping => "mapping"

namespace Entries

/-- The value stored under a key. -/
def get? (es : Entries) (k : String) : Option Value :=
  (es.find? (·.1 == k)).map (·.2)

/-- Whether a key is present. -/
def contains (es : Entries) (k : String) : Bool :=
  es.any (·.1 == k)

/-- Stores a value under a key: an existing key keeps its place and takes the new value, a
new key goes last. -/
def insert (es : Entries) (k : String) (v : Value) : Entries :=
  if es.contains k then es.map (fun e => if e.1 == k then (k, v) else e)
  else es ++ [(k, v)]

/-- Inserts every entry of `more`, in order. -/
def extend (es more : Entries) : Entries :=
  more.foldl (fun acc e => acc.insert e.1 e.2) es

/-- The first of several keys that is present, with its value. -/
def getAny? (es : Entries) (keys : List String) : Option Value :=
  keys.findSome? es.get?

/-- The value under a key when it is a non-empty string. -/
def getText? (es : Entries) (k : String) : Option String :=
  match es.get? k with
  | some (.str s) => if s.isEmpty then none else some s
  | _ => none

end Entries

namespace Value

/-- The kind of a value. -/
def kind : Value → ValueKind
  | null => .null
  | bool _ => .boolean
  | num _ => .number
  | str _ => .string
  | arr _ => .sequence
  | obj _ => .mapping

/-- The segments of a dotted path; empty segments are skipped, so `a..b` is `a.b`. -/
def pathSegments (path : String) : List String :=
  ((path.toList.splitOnP (· = '.')).map String.ofList).filter (· ≠ "")

/-- An index into a sequence: decimal digits with an optional leading `+`, below `2^64`. -/
def readIndex? (s : String) : Option Nat :=
  let ds := match s.toList with
    | '+' :: r => r
    | r => r
  if ds.isEmpty || !ds.all Char.isDigit then none
  else
    let n := digitsValue ds
    if n < Nat.pow 2 64 then some n else none

/-- One step into a value: a key of a mapping or an index of a sequence. -/
def child? : Value → String → Option Value
  | obj es, seg => Entries.get? es seg
  | arr items, seg => (readIndex? seg).bind fun i => items[i]?
  | _, _ => none

/-- Follows a dotted path from a value; a path with no segments gives the value itself. -/
def lookup? (root : Value) (path : String) : Option Value :=
  (pathSegments path).foldlM child? root

/-- Loose truthiness: absent, `null`, `""`, zero and `false` are false; everything else,
empty sequences and mappings included, is true. -/
def truthy : Option Value → Bool
  | none => false
  | some null => false
  | some (bool b) => b
  | some (num n) => n.toFloat != 0.0
  | some (str s) => !s.isEmpty
  | some (arr _) => true
  | some (obj _) => true

/-- The text a value stands for: `null` is empty, a sequence joins its items with `, `, and
a mapping (or a sequence holding one) has no text. -/
def display : Value → Option String
  | null => some ""
  | bool b => some (if b then "true" else "false")
  | num n => some n.display
  | str s => some s
  | arr items => (displayAll items).map (", ".intercalate ·)
  | obj _ => none
where
  displayAll : List Value → Option (List String)
    | [] => some []
    | v :: vs => do
      let t ← display v
      let ts ← displayAll vs
      pure (t :: ts)

/-- Structural equality; numbers compare as `Number.beq` does, and two mappings are equal
when they have the same keys with equal values, in any order. -/
def beq : Value → Value → Bool
  | null, null => true
  | bool a, bool b => a == b
  | num a, num b => a.beq b
  | str a, str b => a == b
  | arr as, arr bs => beqList as bs
  | obj as, obj bs => as.length == bs.length && allIn as bs
  | _, _ => false
where
  beqList : List Value → List Value → Bool
    | [], [] => true
    | a :: as, b :: bs => beq a b && beqList as bs
    | _, _ => false
  /-- Every entry of the first list has an equal value under its key in `bs`. -/
  allIn : List (String × Value) → List (String × Value) → Bool
    | [], _ => true
    | (k, a) :: as, bs => valueAt a (bs.find? (·.1 == k)) && allIn as bs
  valueAt (a : Value) : Option (String × Value) → Bool
    | some (_, b) => beq a b
    | none => false

end Value

/-- A document's metadata: the entries of its top-level mapping. -/
abbrev Metadata := Entries

namespace Metadata

/-- Follows a dotted path whose first segment must name an entry; an empty path finds
nothing. -/
def lookup? (m : Metadata) (path : String) : Option Value :=
  match Value.pathSegments path with
  | [] => none
  | first :: rest => (Entries.get? m first).bind fun v => rest.foldlM Value.child? v

end Metadata

end Covenant
