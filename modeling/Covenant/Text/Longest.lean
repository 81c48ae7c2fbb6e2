/-!
# Longest-match scanning

Tokenizers here work by longest match: at each point every kind of token is tried, the one
that matches the most characters wins, and ties go to the kind listed first. Each kind is a
small automaton over characters; running it gives its *reach*: the length of its longest
match, if it has one, and how many characters it could read before no match was possible.
The second number is how far a scanner that finds no token at all has read, which is what an
unreadable piece covers.
-/

namespace Covenant.Text

/-- How far a kind of token reaches at the start of the input: the length of its longest
match, if any, and how many characters it could read before no match was possible. -/
structure Reach where
  accept : Option Nat
  viable : Nat

/-- Runs an automaton over the input from a state, tracking the last accepting length. -/
def runAutomaton (step : σ → Char → Option σ) (accepts : σ → Bool) :
    List Char → σ → Nat → Option Nat → Reach
  | [], _, n, last => ⟨last, n⟩
  | c :: cs, s, n, last =>
    match step s c with
    | some s' => runAutomaton step accepts cs s' (n + 1) (if accepts s' then some (n + 1) else last)
    | none => ⟨last, n⟩

/-- A fixed spelling. -/
def literalReach (spelling : String) (cs : List Char) : Reach :=
  let w := spelling.toList
  runAutomaton (fun i c => if w[i]? = some c then some (i + 1) else none) (· = w.length)
    cs 0 0 none

/-- States of a quoted text: before the opening quote, inside, after a backslash, closed. -/
inductive QuoteState where
  | start
  | inside
  | escape
  | closed

/-- A quoted text: the quote, then characters other than the quote or a backslash, or a
backslash and any character but a line feed, then the quote. -/
def quotedReach (q : Char) (cs : List Char) : Reach :=
  runAutomaton (fun (s : QuoteState) c => match s with
      | .start => if c = q then some .inside else none
      | .inside => if c = q then some .closed else if c = '\\' then some .escape else some .inside
      | .escape => if c = '\n' then none else some .inside
      | .closed => none)
    (fun (s : QuoteState) => s matches .closed) cs QuoteState.start 0 none

/-- The kind with the longest match, the first of them on a tie, and the length of its match;
or, when no kind matches, `none` and the length of the unreadable piece: as far as any kind
could read, and at least one character. -/
def longest (rs : List (α × Reach)) : Option α × Nat :=
  let best := rs.foldl (fun (b : Option (α × Nat)) (t, r) =>
    match r.accept, b with
    | some n, some (_, m) => if n > m then some (t, n) else b
    | some n, none => some (t, n)
    | none, _ => b) none
  match best with
  | some (t, n) => (some t, n)
  | none => (none, max 1 (rs.foldl (fun m (_, r) => max m r.viable) 0))

end Covenant.Text
