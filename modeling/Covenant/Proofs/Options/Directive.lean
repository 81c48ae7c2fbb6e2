import Covenant.Options.Force
import Covenant.Proofs.Text.Lines
/-!
# What a force directive can change, and how its words are read

A directive is applied by setting, for each accepted flag in order, one of four switches of
the host options. The options it gives therefore differ from the host's only in those
switches, each set by the last accepted flag naming it (`apply_eq`): no document reaches the
skipped stages, the import depth, the budgets, the date or the merge settings.

A flag string is read word by word (`Reads`). A word that names an allowed flag, with nothing
after an `=` (`acceptedFlag?_eq_some_iff`), is accepted; any other word is rejected, and takes
the next word along as its value unless that word starts with `-`. Every string has such a
reading (`exists_reads`), its entries hold every word once and in order
(`flatMap_words_of_reads`), and the directive is its accepted flags and rejected entries, in
order (`ofWords_of_reads`). The main statement is `force_directive_reads_words_once`.
-/

namespace Covenant.ForceDirective

/-! ## Applying a directive -/

/-- Applying flags forces the first, then applies the rest. -/
theorem apply_cons (f : ForcedFlag) (b : Bool) (flags : List (ForcedFlag × Bool))
    (rejected : List String) (o : ProcessOptions) :
    apply ⟨(f, b) :: flags, rejected⟩ o = apply ⟨flags, rejected⟩ (o.force f b) :=
  rfl

/-- A directive sets the four switches, each by the last accepted flag naming it, and leaves
every other option as the host gave it. -/
theorem apply_eq (d : ForceDirective) (o : ProcessOptions) :
    d.apply o =
      { o with
        noReset := (d.flags.reverse.lookup .noReset).getD o.noReset
        noIndent := (d.flags.reverse.lookup .noIndent).getD o.noIndent
        fieldTracking := (d.flags.reverse.lookup .fieldTracking).getD o.fieldTracking
        strictMetadata := (d.flags.reverse.lookup .strictMetadata).getD o.strictMetadata } := by
  obtain ⟨flags, rejected⟩ := d
  induction flags generalizing o with
  | nil => rfl
  | cons fb flags ih =>
    obtain ⟨f, b⟩ := fb
    rw [apply_cons, ih]
    -- the flag just forced is found only when no later flag names the same switch
    simp only [List.reverse_cons, List.lookup_append, Option.getD_or]
    cases f <;> rfl

/-! ## Accepted words -/

/-- A word is accepted exactly when it is an allowed name with no `=`, alone or followed by a
single `=` with nothing after it. -/
theorem acceptedFlag?_eq_some_iff {w : String} {f : ForcedFlag} :
    acceptedFlag? w = some f ↔
      ∃ name : List Char, '=' ∉ name ∧ (w.toList = name ∨ w.toList = name ++ ['=']) ∧
        ForcedFlag.ofName? (String.ofList name) = some f := by
  constructor
  · intro h
    -- the word is its pieces joined back at each `=`
    have hjoin : ['='].intercalate (w.toList.splitOn '=') = w.toList := List.intercalate_splitOn '='
    unfold acceptedFlag? at h
    split at h
    · rename_i name hsplit
      have hname : '=' ∉ name :=
        List.not_mem_of_mem_splitOn (hsplit ▸ List.mem_singleton_self _)
      refine ⟨name, hname, Or.inl ?_, h⟩
      rw [← hjoin, hsplit]
      simp
    · rename_i name hsplit
      have hname : '=' ∉ name := List.not_mem_of_mem_splitOn (hsplit ▸ List.mem_cons_self)
      refine ⟨name, hname, Or.inr ?_, h⟩
      rw [← hjoin, hsplit]
      simp
    · cases h
  · rintro ⟨name, hname, hw | hw, hf⟩
    · have hsplit : w.toList.splitOn '=' = [name] := by
        rw [hw]
        exact List.splitOn_eq_singleton hname
      simp only [acceptedFlag?, hsplit, hf]
    · have hsplit : w.toList.splitOn '=' = [name, []] := by
        rw [hw, List.splitOn_append_cons_self, List.splitOn_eq_singleton hname, List.splitOn_nil]
        rfl
      simp only [acceptedFlag?, hsplit, hf]

/-! ## Reading a flag string -/

/-- One entry of a flag string: an accepted word with its flag, or a rejected word with the
next word, if it took one along as its value. -/
inductive Entry where
  | accepted (word : String) (flag : ForcedFlag)
  | rejected (word : String) (value : Option String)
deriving Repr, DecidableEq

/-- The words an entry holds. -/
def Entry.words : Entry → List String
  | .accepted w _ => [w]
  | .rejected w none => [w]
  | .rejected w (some v) => [w, v]

/-- The flag an accepted entry forces on. -/
def Entry.flag? : Entry → Option (ForcedFlag × Bool)
  | .accepted _ f => some (f, true)
  | .rejected _ _ => none

/-- What a rejected entry reports: its word, and its value after a space. -/
def Entry.rejection? : Entry → Option String
  | .accepted _ _ => none
  | .rejected w none => some w
  | .rejected w (some v) => some (w ++ " " ++ v)

/-- How the words of a flag string are read, from the left: an accepted word is a flag; any
other word is rejected, and takes the next word along as its value when there is one and it
does not start with `-`. -/
inductive Reads : List String → List Entry → Prop
  | nil : Reads [] []
  | accept {w : String} {ws : List String} {es : List Entry} {f : ForcedFlag} :
      acceptedFlag? w = some f → Reads ws es → Reads (w :: ws) (.accepted w f :: es)
  | rejectLast {w : String} : acceptedFlag? w = none → Reads [w] [.rejected w none]
  | rejectBeforeDash {w v : String} {ws : List String} {es : List Entry} :
      acceptedFlag? w = none → v.toList.head? = some '-' → Reads (v :: ws) es →
        Reads (w :: v :: ws) (.rejected w none :: es)
  | rejectWithValue {w v : String} {ws : List String} {es : List Entry} :
      acceptedFlag? w = none → v.toList.head? ≠ some '-' → Reads ws es →
        Reads (w :: v :: ws) (.rejected w (some v) :: es)

/-- The entries of a reading hold every word once, in order. -/
theorem flatMap_words_of_reads {ws : List String} {es : List Entry} (h : Reads ws es) :
    es.flatMap Entry.words = ws := by
  induction h with
  | nil => rfl
  | accept _ _ ih => simp [Entry.words, ih]
  | rejectLast _ => rfl
  | rejectBeforeDash _ _ _ ih => simp [Entry.words, ih]
  | rejectWithValue _ _ _ ih => simp [Entry.words, ih]

/-- Every list of words has a reading. -/
theorem exists_reads : ∀ ws : List String, ∃ es, Reads ws es
  | [] => ⟨[], .nil⟩
  | w :: ws => by
    cases hw : acceptedFlag? w with
    | some f =>
      obtain ⟨es, hes⟩ := exists_reads ws
      exact ⟨_, .accept hw hes⟩
    | none =>
      cases ws with
      | nil => exact ⟨_, .rejectLast hw⟩
      | cons v ws =>
        by_cases hv : v.toList.head? = some '-'
        · obtain ⟨es, hes⟩ := exists_reads (v :: ws)
          exact ⟨_, .rejectBeforeDash hw hv hes⟩
        · obtain ⟨es, hes⟩ := exists_reads ws
          exact ⟨_, .rejectWithValue hw hv hes⟩

/-! ## The reader follows the reading -/

/-- A directive with the flags and rejections of more entries after its own. -/
def extend (d : ForceDirective) (es : List Entry) : ForceDirective :=
  { flags := d.flags ++ es.filterMap Entry.flag?,
    rejected := d.rejected ++ es.filterMap Entry.rejection? }

/-- The reader's state at the end: a word still waiting for its value is rejected alone. -/
def settle (st : ForceDirective × Option String) : ForceDirective :=
  { st.1 with rejected := st.1.rejected ++ st.2.toList }

theorem ofWords_eq_settle (ws : List String) :
    ofWords ws = settle (ws.foldl addWord ({}, none)) := by
  unfold ofWords
  obtain ⟨d, _ | r⟩ := ws.foldl addWord ({}, none)
  · simp [settle]
  · rfl

/-! The reader's step, one lemma for each way it can go. -/

theorem addWord_accept {d : ForceDirective} {w : String} {f : ForcedFlag}
    (h : acceptedFlag? w = some f) :
    addWord (d, none) w = ({ d with flags := d.flags ++ [(f, true)] }, none) := by
  simp [addWord, h]

theorem addWord_reject {d : ForceDirective} {w : String} (h : acceptedFlag? w = none) :
    addWord (d, none) w = (d, some w) := by
  simp [addWord, h]

theorem addWord_dashed {d : ForceDirective} {r w : String} (h : w.toList.head? = some '-') :
    addWord (d, some r) w = addWord ({ d with rejected := d.rejected ++ [r] }, none) w := by
  simp [addWord, h]

theorem addWord_value {d : ForceDirective} {r w : String} (h : w.toList.head? ≠ some '-') :
    addWord (d, some r) w = ({ d with rejected := d.rejected ++ [r ++ " " ++ w] }, none) := by
  simp [addWord, h]

/-- Reading words from any directive adds the entries of their reading. -/
theorem settle_foldl_of_reads {ws : List String} {es : List Entry} (h : Reads ws es)
    (d : ForceDirective) : settle (ws.foldl addWord (d, none)) = d.extend es := by
  induction h generalizing d with
  | nil => simp [settle, extend]
  | accept hw _ ih =>
    rw [List.foldl_cons, addWord_accept hw, ih]
    simp [extend, List.filterMap_cons, Entry.flag?, Entry.rejection?]
  | rejectLast hw =>
    rw [List.foldl_cons, addWord_reject hw]
    simp [settle, extend, List.filterMap_cons, Entry.flag?, Entry.rejection?]
  | rejectBeforeDash hw hv _ ih =>
    -- the dashed word is read afresh, as the first word of the rest
    rw [List.foldl_cons, addWord_reject hw, List.foldl_cons, addWord_dashed hv,
      ← List.foldl_cons, ih]
    simp [extend, List.filterMap_cons, Entry.flag?, Entry.rejection?]
  | rejectWithValue hw hv _ ih =>
    rw [List.foldl_cons, addWord_reject hw, List.foldl_cons, addWord_value hv, ih]
    simp [extend, List.filterMap_cons, Entry.flag?, Entry.rejection?]

/-- A flag string's directive is its reading's accepted flags and rejected entries. -/
theorem ofWords_of_reads {ws : List String} {es : List Entry} (h : Reads ws es) :
    ofWords ws =
      { flags := es.filterMap Entry.flag?, rejected := es.filterMap Entry.rejection? } := by
  rw [ofWords_eq_settle, settle_foldl_of_reads h]
  simp [extend]

/-- **A force directive reads every word once and sets only its four switches.** Applied to
host options, any directive differs from them only in the header switches, field tracking and
strict metadata, each set by the last accepted flag naming it. A word is accepted exactly when
it is an allowed name with nothing after an `=`. The words of a flag string fall into entries
in order, each word into exactly one: an accepted flag, or a rejected word that took the next
word along unless that word starts with `-`; the directive holds the accepted flags and the
rejected entries in that order, one report each. -/
theorem force_directive_reads_words_once :
    (∀ (v : Value) (o : ProcessOptions), (parse v).apply o =
      { o with
        noReset := ((parse v).flags.reverse.lookup .noReset).getD o.noReset
        noIndent := ((parse v).flags.reverse.lookup .noIndent).getD o.noIndent
        fieldTracking := ((parse v).flags.reverse.lookup .fieldTracking).getD o.fieldTracking
        strictMetadata :=
          ((parse v).flags.reverse.lookup .strictMetadata).getD o.strictMetadata }) ∧
    (∀ (w : String) (f : ForcedFlag), acceptedFlag? w = some f ↔
      ∃ name : List Char, '=' ∉ name ∧ (w.toList = name ∨ w.toList = name ++ ['=']) ∧
        ForcedFlag.ofName? (String.ofList name) = some f) ∧
    (∀ s : String, ∃ es, Reads (Text.words s) es ∧ es.flatMap Entry.words = Text.words s ∧
      parse (.str s) =
        { flags := es.filterMap Entry.flag?, rejected := es.filterMap Entry.rejection? }) := by
  refine ⟨fun v o => apply_eq (parse v) o, fun _ _ => acceptedFlag?_eq_some_iff, fun s => ?_⟩
  obtain ⟨es, hes⟩ := exists_reads (Text.words s)
  exact ⟨es, hes, flatMap_words_of_reads hes, ofWords_of_reads hes⟩

/-- An allowed word swallowed as the value of a rejected one is not forced. -/
example :
    parse (.str "--no-reset --output out.pdf --HIGHLIGHT -v no_indent= strict=1") =
      { flags := [(.noReset, true), (.fieldTracking, true)],
        rejected := ["--output out.pdf", "-v no_indent=", "strict=1"] } := by
  decide

end Covenant.ForceDirective
