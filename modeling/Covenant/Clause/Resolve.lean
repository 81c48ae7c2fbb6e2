import Covenant.Clause.Condition
/-!
# Optional clauses

An optional clause is written `[guarded text]{condition}`. The guarded text is kept when the
condition holds and removed, brackets and condition included, when it does not. Kept text is
resolved again, so clauses nest.

A clause starts at a `[`. Brackets inside the guarded text nest, and the clause's text ends
at the `]` that closes the first `[`. A `{` must follow at once (but not `{{`, which starts a
template tag), and the condition runs to the first `}`; a line break or `[` before that `}`
means there is no clause. Where there is no clause the `[` is ordinary text.
-/

namespace Covenant.Clause

/-- After an opening `[`, the text up to its matching `]` and what follows that `]`. -/
def matchBracket : List Char → Nat → List Char → Option (List Char × List Char)
  | [], _, _ => none
  | c :: cs, depth, acc =>
    if c = '[' then matchBracket cs (depth + 1) (c :: acc)
    else if c = ']' then
      match depth with
      | 0 => some (acc.reverse, cs)
      | d + 1 => matchBracket cs d (c :: acc)
    else matchBracket cs depth (c :: acc)

/-- After an opening `[`: the guarded text, the condition, and the text after the clause. -/
def clauseAt (cs : List Char) : Option (List Char × List Char × List Char) := do
  let (text, after) ← matchBracket cs 0 []
  match after with
  | '{' :: rest =>
    if rest.head? = some '{' then none
    else
      let cond := rest.takeWhile (fun c => c ≠ '}' && c ≠ '\n' && c ≠ '[')
      match rest.drop cond.length with
      | '}' :: tail => some (text, cond, tail)
      | _ => none
  | _ => none

/-- Resolves the clauses of a text; `fuel` bounds the nesting and is at least the length. -/
def resolveChars (m : Metadata) : Nat → List Char → List Char
  | 0, cs => cs
  | fuel + 1, cs =>
    let pre := cs.takeWhile (· ≠ '[')
    match cs.drop pre.length with
    | '[' :: after =>
      match clauseAt after with
      | some (text, cond, tail) =>
        let kept := if (Condition.parse (String.ofList cond)).holds m then resolveChars m fuel text else []
        pre ++ kept ++ resolveChars m fuel tail
      | none => pre ++ '[' :: resolveChars m fuel after
    | rest => pre ++ rest

/-- Resolves every optional clause of a text against the metadata. -/
def resolveClauses (content : String) (m : Metadata) : String :=
  String.ofList (resolveChars m (content.length + 1) content.toList)

end Covenant.Clause
