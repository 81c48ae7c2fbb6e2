import Covenant.Options.Basic
import Covenant.Value.Json
import Covenant.Text.Blank
/-!
# Force directives

A document may force a few host switches through a force directive: a metadata entry under
`force_commands`, `force-commands` or `forcecommands`. The directive is either a string of
flags (`"--no-reset --highlight"`) or a mapping from flag names to booleans. Only the
switches of `ForcedFlag` may be forced; everything else is rejected and reported as
written. In a string, a rejected flag takes the next word with it unless that word starts
with `-` (its separate value), and a flag with an inline `=value` is rejected.
-/

namespace Covenant

/-- The accepted flags of a force directive, in order, and the rejected ones as written. -/
structure ForceDirective where
  flags : List (ForcedFlag × Bool) := []
  rejected : List String := []
deriving Repr, DecidableEq

namespace ForceDirective

/-- The metadata keys that hold a force directive, in order of preference. -/
def keys : List String := ["force_commands", "force-commands", "forcecommands"]

/-- The flag a word names, unless it is not allowed or carries an inline `=value`. -/
def acceptedFlag? (w : String) : Option ForcedFlag :=
  match w.toList.splitOn '=' with
  | [name] => ForcedFlag.ofName? (String.ofList name)
  | [name, []] => ForcedFlag.ofName? (String.ofList name)
  | _ => none

/-- Reads one word on top of a directive whose last word may be a rejected flag still
waiting for its separate value. -/
def addWord (st : ForceDirective × Option String) (w : String) : ForceDirective × Option String :=
  let (d, pending) := st
  let fresh (d : ForceDirective) : ForceDirective × Option String :=
    match acceptedFlag? w with
    | some f => ({ d with flags := d.flags ++ [(f, true)] }, none)
    | none => (d, some w)
  match pending with
  | some r =>
    if w.toList.head? = some '-' then fresh { d with rejected := d.rejected ++ [r] }
    else ({ d with rejected := d.rejected ++ [r ++ " " ++ w] }, none)
  | none => fresh d

/-- Reads the words of a flag string. -/
def ofWords (ws : List String) : ForceDirective :=
  match ws.foldl addWord ({}, none) with
  | (d, some r) => { d with rejected := d.rejected ++ [r] }
  | (d, none) => d

/-- Reads a force directive from its value. -/
def parse (v : Value) : ForceDirective :=
  match v with
  | .str s => ofWords (Text.words s)
  | .obj es => es.foldl (fun d (k, x) =>
      match ForcedFlag.ofName? k, x with
      | some f, .bool b => { d with flags := d.flags ++ [(f, b)] }
      | _, _ => { d with rejected := d.rejected ++ [k] }) {}
  | other => { rejected := [other.toJson] }

/-- The directive under the first force key present in metadata. -/
def ofMetadata? (m : Metadata) : Option ForceDirective :=
  (Entries.getAny? m keys).map parse

/-- The host options with the directive applied; the document wins for every accepted flag. -/
def apply (d : ForceDirective) (o : ProcessOptions) : ProcessOptions :=
  d.flags.foldl (fun o (f, b) => o.force f b) o

end ForceDirective

end Covenant
