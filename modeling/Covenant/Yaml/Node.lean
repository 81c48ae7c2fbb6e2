import Covenant.Value
import Covenant.Text.Quote
/-!
# YAML nodes

A YAML document loads into a tree of nodes: null, booleans, numbers, strings, sequences,
mappings whose keys are themselves nodes, and nodes carrying a local tag (`!name`). A whole
number is kept as unsigned (`pos`) unless it is negative (`neg`); a fraction is a binary64
value, where infinities and not-a-number are allowed.

Two nodes are the *same* key when they are equal as YAML values: numbers of one kind by
value (all not-a-number values are one value), mappings regardless of the order of their
entries, and tags without their leading `!`. A mapping never holds two keys that are the
same.

Metadata is the JSON-like image of a node: tags are dropped, infinities and not-a-number
become null, and mapping keys become text (strings as they are, booleans, numbers and null
by their YAML spelling); entries whose key is a collection or a tagged node are left out,
and of two keys with the same text the first keeps its place and the last its value.
-/

namespace Covenant.Yaml

open Covenant.Decimal

/-- A YAML number: a non-negative whole number, a negative one, or a binary64 value. -/
inductive YNumber where
  | pos (n : Nat)
  | neg (i : Int)
  | float (f : Float)

/-- The number for a whole value, keeping non-negative values unsigned. -/
def YNumber.ofInt (i : Int) : YNumber :=
  if i < 0 then .neg i else .pos i.toNat

/-- Numbers of one kind compare by value, and every not-a-number equals every other. -/
def YNumber.same : YNumber → YNumber → Bool
  | .pos a, .pos b => a == b
  | .neg a, .neg b => a == b
  | .float a, .float b => (a.isNaN && b.isNaN) || a == b
  | _, _ => false

/-- The YAML spelling of a number: its digits, `.nan`, `.inf`, `-.inf`, or the shortest
digits of a fraction with `.0` on whole values. -/
def YNumber.render : YNumber → String
  | .pos n => toString n
  | .neg i => toString i
  | .float f =>
    if f.isNaN then ".nan"
    else if f.isInf then (if f < 0 then "-.inf" else ".inf")
    else Layout.compact.render f

/-- A loaded YAML node. -/
inductive Node where
  | null
  | bool (b : Bool)
  | num (n : YNumber)
  | str (s : String)
  | seq (items : List Node)
  | map (entries : List (Node × Node))
  | tagged (tag : String) (value : Node)

instance : Inhabited Node := ⟨.null⟩

/-- A tag without its leading `!`, the form in which tags compare. -/
def bareTag (t : String) : String :=
  match t.toList with
  | '!' :: rest => String.ofList rest
  | _ => t

mutual

/-- Whether two nodes are equal as YAML values. -/
def Node.same : Node → Node → Bool
  | .null, .null => true
  | .bool a, .bool b => a == b
  | .num a, .num b => a.same b
  | .str a, .str b => a == b
  | .seq xs, .seq ys => Node.sameItems xs ys
  | .map es, .map fs => es.length == fs.length && Node.sameEntries es fs
  | .tagged t a, .tagged u b => bareTag t == bareTag u && Node.same a b
  | _, _ => false
termination_by a _ => (sizeOf a, 0)

/-- Whether two sequences hold the same items in the same order. -/
def Node.sameItems : List Node → List Node → Bool
  | [], [] => true
  | x :: xs, y :: ys => Node.same x y && Node.sameItems xs ys
  | _, _ => false
termination_by xs _ => (sizeOf xs, 0)

/-- Whether every entry of the first mapping is an entry of the second. -/
def Node.sameEntries : List (Node × Node) → List (Node × Node) → Bool
  | [], _ => true
  | (k, v) :: rest, fs => Node.hasEntry k v fs && Node.sameEntries rest fs
termination_by es _ => (sizeOf es, 0)

/-- Whether a mapping has an entry the same as `k: v`. -/
def Node.hasEntry (k v : Node) : List (Node × Node) → Bool
  | [] => false
  | (k', v') :: fs => (Node.same k k' && Node.same v v') || Node.hasEntry k v fs
termination_by fs => (sizeOf k + sizeOf v + 1, fs.length)

end

/-- The text of a node used as a metadata key, if it has one. -/
def Node.keyText? : Node → Option String
  | .str s => some s
  | .bool b => some (if b then "true" else "false")
  | .num n => some n.render
  | .null => some "null"
  | _ => none

mutual

/-- The metadata value of a node. -/
def Node.toValue : Node → Value
  | .null => .null
  | .bool b => .bool b
  | .num (.pos n) => .num (.int n)
  | .num (.neg i) => .num (.int i)
  | .num (.float f) => if f.isFinite then .num (.float f) else .null
  | .str s => .str s
  | .seq xs => .arr (Node.itemsToValue xs)
  | .map es => .obj (Node.entriesToValue es [])
  | .tagged _ v => Node.toValue v

/-- The metadata values of sequence items. -/
def Node.itemsToValue : List Node → List Value
  | [] => []
  | x :: xs => Node.toValue x :: Node.itemsToValue xs

/-- Mapping entries added to metadata entries, skipping keys that have no text. -/
def Node.entriesToValue : List (Node × Node) → Entries → Entries
  | [], acc => acc
  | (k, v) :: rest, acc =>
    match k.keyText? with
    | some key => Node.entriesToValue rest (Entries.insert acc key (Node.toValue v))
    | none => Node.entriesToValue rest acc

end

end Covenant.Yaml
