import Covenant.Template.Block
/-!
# The block tree keeps every segment

`parseTemplate` builds the block tree of a text from its stretches and tags with a stack of open
blocks.  What it does can be said without the tree (`keptSegments`): scan the segments in order
with a stack of the open blocks' kinds, remembering of each whether its `{{else}}` was met
(`scanStep`), and

* keep a stretch of text, an expression tag and an opening tag as they are;
* drop a comment, a block's first `{{else}}` and a closing tag that names the innermost open
  block's kind;
* keep as text a closing tag met with no block open, an `{{else}}` outside any block and a
  second `{{else}}` in one block;
* fail at the first closing tag that names another kind than the innermost open block's, and at
  the end if a block is still open, naming the innermost one.

The main statement (`parseTemplate_keeps_segments`): `parseTemplate` fails exactly as the scan
does, and on success reading the tree in order (`Node.readingAll`: each block gives its opening
tag, its body, then its alternative) gives exactly the pieces the scan keeps, in their order.

The proof carries an invariant of the tree under construction: its reading so far is the
pieces kept so far, its stack is the scan's, and no open block before its `{{else}}` has an
alternative yet (`Building.Wf`).  One lemma says what a step does (`Building.step_of_scan_ok`,
`Building.step_of_scan_error`), and the run lemmas follow by induction over the segments.
-/

namespace Covenant.Template

/-! ## The scan -/

/-- A block the scan has open: its kind, its opening tag, and whether its `{{else}}` was met. -/
structure OpenTag where
  kind : BlockKind
  opening : String
  inElse : Bool

/-- What the scan does with a tag, given the blocks open (innermost first): the piece it keeps,
if any, with whether it is read as a tag, and the blocks open after it.  A closing tag that
names another kind than the innermost open block's is an error. -/
def scanTag (blocks : List OpenTag) (text : String) :
    Tag → Except DocError (Option (String × Bool) × List OpenTag)
  | .opening kind _ => .ok (some (text, true), ⟨kind, text, false⟩ :: blocks)
  | .closing name =>
    match blocks with
    | [] => .ok (some (text, false), [])
    | b :: bs =>
      if b.kind.name = name then .ok (none, bs)
      else .error (.mismatchedBlock b.kind.name text)
  | .otherwise =>
    match blocks with
    | [] => .ok (some (text, false), [])
    | b :: bs =>
      if b.inElse then .ok (some (text, false), blocks)
      else .ok (none, { b with inElse := true } :: bs)
  | .expression _ => .ok (some (text, true), blocks)
  | .comment => .ok (none, blocks)

/-- What the scan does with one segment: a stretch of text is kept, a tag as `scanTag` says. -/
def scanStep (blocks : List OpenTag) (seg : String × Bool) :
    Except DocError (Option (String × Bool) × List OpenTag) :=
  if seg.2 then scanTag blocks seg.1 (classifyTag seg.1) else .ok (some seg, blocks)

/-- Scans segments after some pieces were kept: all the pieces kept and the blocks left open, or
the first mismatched closing tag. -/
def scanFrom : List (String × Bool) → List OpenTag → List (String × Bool) →
    Except DocError (List (String × Bool) × List OpenTag)
  | [], blocks, kept => .ok (kept, blocks)
  | seg :: segs, blocks, kept =>
    match scanStep blocks seg with
    | .error e => .error e
    | .ok (piece, blocks') => scanFrom segs blocks' (kept ++ piece.toList)

/-- The pieces of a text's segments that its block tree keeps, in order; the first mismatched
closing tag, or the innermost block left open, is an error. -/
def keptSegments (segs : List (String × Bool)) : Except DocError (List (String × Bool)) :=
  match scanFrom segs [] [] with
  | .error e => .error e
  | .ok (kept, []) => .ok kept
  | .ok (_, b :: _) => .error (.unclosedBlock b.kind.name b.opening)

/-! ## Reading a tree -/

mutual

/-- The pieces a node was built from, in order, each with whether it is read as a tag. -/
def Node.reading : Node → List (String × Bool)
  | .text s => [(s, false)]
  | .expression raw _ => [(raw, true)]
  | .block b => b.reading

/-- A block's opening tag, then the pieces of its body and of its alternative. -/
def Block.reading : Block → List (String × Bool)
  | .mk _ _ opening body otherwise =>
    (opening, true) :: Node.readingAll body ++ Node.readingAll otherwise

/-- The pieces of nodes, in order. -/
def Node.readingAll : List Node → List (String × Bool)
  | [] => []
  | n :: ns => n.reading ++ Node.readingAll ns

end

@[simp] theorem Node.readingAll_nil : Node.readingAll [] = [] := by
  rw [Node.readingAll]

@[simp] theorem Node.readingAll_cons (n : Node) (ns : List Node) :
    Node.readingAll (n :: ns) = n.reading ++ Node.readingAll ns := by
  rw [Node.readingAll]

@[simp] theorem Node.readingAll_append (ns ms : List Node) :
    Node.readingAll (ns ++ ms) = Node.readingAll ns ++ Node.readingAll ms := by
  induction ns with
  | nil => simp
  | cons n ns ih => simp [ih]

/-- What an open block holds so far: its opening tag, its body, and its alternative. -/
def OpenBlock.reading (b : OpenBlock) : List (String × Bool) :=
  (b.opening, true) :: Node.readingAll b.body.reverse ++ Node.readingAll b.otherwise.reverse

/-- What the scan knows of an open block. -/
def OpenBlock.tag (b : OpenBlock) : OpenTag := ⟨b.kind, b.opening, b.inElse⟩

@[simp] theorem OpenBlock.tag_kind (b : OpenBlock) : b.tag.kind = b.kind := rfl

@[simp] theorem OpenBlock.tag_inElse (b : OpenBlock) : b.tag.inElse = b.inElse := rfl

/-- Closing a block keeps what it holds. -/
@[simp] theorem OpenBlock.reading_close (b : OpenBlock) : (Node.block b.close).reading = b.reading := by
  simp [OpenBlock.close, OpenBlock.reading, Node.reading, Block.reading]

/-- What a tree under construction holds so far: the finished top-level nodes, then the open
blocks from the outermost in. -/
def Building.reading (st : Building) : List (String × Bool) :=
  Node.readingAll st.root.reverse ++ st.stack.reverse.flatMap OpenBlock.reading

/-- The scan's view of the open blocks. -/
def Building.tags (st : Building) : List OpenTag := st.stack.map OpenBlock.tag

/-- No open block before its `{{else}}` has an alternative yet, so that what is added to a
block comes after everything it holds. -/
def Building.Wf (st : Building) : Prop :=
  ∀ b ∈ st.stack, b.inElse = false → b.otherwise = []

/-! ## Adding a node -/

section Add

variable (n : Node)

theorem OpenBlock.tag_add (b : OpenBlock) : (b.add n).tag = b.tag := by
  unfold OpenBlock.add
  split <;> rfl

theorem OpenBlock.reading_add {b : OpenBlock} (hb : b.inElse = false → b.otherwise = []) :
    (b.add n).reading = b.reading ++ n.reading := by
  unfold OpenBlock.add
  cases hin : b.inElse
  · -- before its `{{else}}` the node ends the body, and the alternative is still empty
    simp [OpenBlock.reading, hb hin]
  · simp [OpenBlock.reading]

theorem OpenBlock.wf_add {b : OpenBlock} (hb : b.inElse = false → b.otherwise = []) :
    (b.add n).inElse = false → (b.add n).otherwise = [] := by
  unfold OpenBlock.add
  cases hin : b.inElse
  · simpa [hin] using hb
  · simp

theorem Building.add_of_nil {st : Building} (h : st.stack = []) :
    st.add n = { st with root := n :: st.root } := by
  simp [Building.add, h]

theorem Building.add_of_cons {st : Building} {b : OpenBlock} {bs : List OpenBlock}
    (h : st.stack = b :: bs) : st.add n = { st with stack := b.add n :: bs } := by
  simp [Building.add, h]

theorem Building.tags_add (st : Building) : (st.add n).tags = st.tags := by
  cases h : st.stack with
  | nil => rw [Building.add_of_nil n h]; rfl
  | cons b bs =>
      rw [Building.add_of_cons n h]
      simp [Building.tags, h, OpenBlock.tag_add]

variable {st : Building}

theorem Building.Wf.add (hwf : st.Wf) : (st.add n).Wf := by
  cases h : st.stack with
  | nil =>
      rw [Building.add_of_nil n h]
      intro b hb
      simp [h] at hb
  | cons b bs =>
      rw [Building.add_of_cons n h]
      intro c hc
      rcases List.mem_cons.mp hc with rfl | hc
      · exact OpenBlock.wf_add n (hwf b (by simp [h]))
      · exact hwf c (by simp [h, hc])

/-- A node added to the tree comes after everything it holds. -/
theorem Building.reading_add (hwf : st.Wf) : (st.add n).reading = st.reading ++ n.reading := by
  cases h : st.stack with
  | nil =>
      rw [Building.add_of_nil n h]
      simp [Building.reading, h]
  | cons b bs =>
      rw [Building.add_of_cons n h]
      simp [Building.reading, h, OpenBlock.reading_add n (hwf b (by simp [h]))]

end Add

/-! ## One step -/

section Step

variable {st : Building} {text : String}

theorem Building.step_text : st.step (text, false) = .ok (st.add (.text text)) := rfl

theorem scanStep_text (blocks : List OpenTag) :
    scanStep blocks (text, false) = .ok (some (text, false), blocks) := rfl

theorem scanStep_tag (blocks : List OpenTag) :
    scanStep blocks (text, true) = scanTag blocks text (classifyTag text) := by
  rw [scanStep, if_pos rfl]

variable {piece : Option (String × Bool)} {blocks : List OpenTag}

/-- A step that adds a node where it belongs keeps the invariant, and follows a scan that keeps
the node's pieces and leaves the stack as it was. -/
theorem Building.step_of_add (hwf : st.Wf) {seg : String × Bool} (n : Node)
    (hstep : st.step seg = .ok (st.add n)) (hpiece : piece.toList = n.reading)
    (hblocks : blocks = st.tags) :
    ∃ st', st.step seg = .ok st' ∧ st'.Wf ∧ st'.tags = blocks ∧
      st'.reading = st.reading ++ piece.toList := by
  refine ⟨st.add n, hstep, hwf.add n, by rw [Building.tags_add, hblocks], ?_⟩
  rw [Building.reading_add n hwf, hpiece]

/-- An `{{else}}` is text outside any block and after a block's first one; the first one turns
the innermost block to its alternative and adds nothing. -/
theorem Building.step_of_scan_otherwise (hwf : st.Wf) (hc : classifyTag text = .otherwise)
    (h : scanTag st.tags text .otherwise = .ok (piece, blocks)) :
    ∃ st', st.step (text, true) = .ok st' ∧ st'.Wf ∧ st'.tags = blocks ∧
      st'.reading = st.reading ++ piece.toList := by
  cases hs : st.stack with
  | nil =>
      rw [Building.tags, hs, List.map_nil, scanTag] at h
      obtain ⟨rfl, rfl⟩ := Prod.mk.inj (Except.ok.inj h)
      refine Building.step_of_add hwf (.text text) ?_ rfl (by rw [Building.tags, hs, List.map_nil])
      simp only [Building.step, Bool.not_true, Bool.false_eq_true, if_false, hc, hs,
        Building.add_of_nil _ hs]
  | cons b bs =>
      rw [Building.tags, hs, List.map_cons, scanTag] at h
      cases hin : b.inElse
      · -- the block's first `{{else}}` turns it to its alternative
        simp only [OpenBlock.tag_inElse, hin, Bool.false_eq_true, if_false] at h
        obtain ⟨rfl, rfl⟩ := Prod.mk.inj (Except.ok.inj h)
        refine ⟨{ st with stack := { b with inElse := true } :: bs }, ?_, ?_, rfl, ?_⟩
        · simp [Building.step, hc, hs, hin]
        · intro c hc'
          rcases List.mem_cons.mp hc' with rfl | hc'
          · intro hfalse; cases hfalse
          · exact hwf c (by simp [hs, hc'])
        · simp [Building.reading, hs, OpenBlock.reading]
      · -- a second `{{else}}` is text
        simp only [OpenBlock.tag_inElse, hin, if_true] at h
        obtain ⟨rfl, rfl⟩ := Prod.mk.inj (Except.ok.inj h)
        exact Building.step_of_add hwf (.text text)
          (by simp [Building.step, hc, hs, hin, Building.add_of_cons _ hs])
          rfl (by simp [Building.tags, hs, OpenBlock.tag, hin])

/-- A closing tag is text when no block is open; one that names the innermost block's kind
closes it, and the closed block becomes a node of the block around it. -/
theorem Building.step_of_scan_closing {name : String} (hwf : st.Wf)
    (hc : classifyTag text = .closing name)
    (h : scanTag st.tags text (.closing name) = .ok (piece, blocks)) :
    ∃ st', st.step (text, true) = .ok st' ∧ st'.Wf ∧ st'.tags = blocks ∧
      st'.reading = st.reading ++ piece.toList := by
  cases hs : st.stack with
  | nil =>
      rw [Building.tags, hs, List.map_nil, scanTag] at h
      obtain ⟨rfl, rfl⟩ := Prod.mk.inj (Except.ok.inj h)
      exact Building.step_of_add hwf (.text text)
        (by simp [Building.step, hc, hs, Building.add_of_nil _ hs]) rfl
        (by rw [Building.tags, hs, List.map_nil])
  | cons b bs =>
      rw [Building.tags, hs, List.map_cons, scanTag] at h
      by_cases hname : b.kind.name = name
      · rw [if_pos (show b.tag.kind.name = name from hname)] at h
        obtain ⟨rfl, rfl⟩ := Prod.mk.inj (Except.ok.inj h)
        have hwf' : ({ st with stack := bs } : Building).Wf :=
          fun c hc' => hwf c (by simp [hs, hc'])
        refine ⟨({ st with stack := bs } : Building).add (.block b.close),
          by simp [Building.step, hc, hs, hname], hwf'.add _, ?_, ?_⟩
        · rw [Building.tags_add]
          rfl
        · rw [Building.reading_add _ hwf', OpenBlock.reading_close]
          simp [Building.reading, hs]
      · rw [if_neg (show ¬ b.tag.kind.name = name from hname)] at h
        cases h

/-- What a step of the tree does, given what the scan does: the tree stays well formed, its stack
follows the scan's, and it holds the piece the scan keeps after what it held. -/
theorem Building.step_of_scan_ok (hwf : st.Wf) {seg : String × Bool}
    (h : scanStep st.tags seg = .ok (piece, blocks)) :
    ∃ st', st.step seg = .ok st' ∧ st'.Wf ∧ st'.tags = blocks ∧
      st'.reading = st.reading ++ piece.toList := by
  obtain ⟨text, isTag⟩ := seg
  cases isTag with
  | false =>
      rw [scanStep_text] at h
      obtain ⟨rfl, rfl⟩ := Prod.mk.inj (Except.ok.inj h)
      exact Building.step_of_add hwf (.text text) Building.step_text rfl rfl
  | true =>
      rw [scanStep_tag] at h
      -- a comment, an expression and an opening tag are read alike whatever is open
      cases hc : classifyTag text with
      | comment =>
          rw [hc, scanTag] at h
          obtain ⟨rfl, rfl⟩ := Prod.mk.inj (Except.ok.inj h)
          refine ⟨st, ?_, hwf, rfl, by simp⟩
          simp only [Building.step, Bool.not_true, Bool.false_eq_true, if_false, hc]
      | expression source =>
          rw [hc, scanTag] at h
          obtain ⟨rfl, rfl⟩ := Prod.mk.inj (Except.ok.inj h)
          refine Building.step_of_add hwf (.expression text source) ?_ rfl rfl
          simp only [Building.step, Bool.not_true, Bool.false_eq_true, if_false, hc]
      | opening kind argument =>
          rw [hc, scanTag] at h
          obtain ⟨rfl, rfl⟩ := Prod.mk.inj (Except.ok.inj h)
          -- a new block opens, holding its opening tag only
          refine ⟨{ st with stack := { kind, argument, opening := text } :: st.stack }, ?_, ?_,
            rfl, ?_⟩
          · simp only [Building.step, Bool.not_true, Bool.false_eq_true, if_false, hc]
          · intro b hb
            rcases List.mem_cons.mp hb with rfl | hb
            · intro _; rfl
            · exact hwf b hb
          · simp [Building.reading, OpenBlock.reading]
      | otherwise =>
          rw [hc] at h
          exact Building.step_of_scan_otherwise hwf hc h
      | closing name =>
          rw [hc] at h
          exact Building.step_of_scan_closing hwf hc h

/-- The tree fails at a step exactly where the scan does, with the same error. -/
theorem Building.step_of_scan_error {seg : String × Bool} {e : DocError}
    (h : scanStep st.tags seg = .error e) : st.step seg = .error e := by
  obtain ⟨text, isTag⟩ := seg
  cases isTag with
  | false => cases h
  | true =>
      rw [scanStep_tag] at h
      -- only a closing tag that names another kind than the innermost block's fails
      cases hc : classifyTag text with
      | closing name =>
          cases hs : st.stack with
          | nil =>
              rw [hc, Building.tags, hs, List.map_nil, scanTag] at h
              cases h
          | cons b bs =>
              rw [hc, Building.tags, hs, List.map_cons, scanTag] at h
              by_cases hname : b.kind.name = name
              · rw [if_pos (show b.tag.kind.name = name from hname)] at h
                cases h
              · rw [if_neg (show ¬ b.tag.kind.name = name from hname)] at h
                cases h
                simp [Building.step, hc, hs, hname]
      | otherwise =>
          cases hs : st.stack with
          | nil =>
              rw [hc, Building.tags, hs, List.map_nil, scanTag] at h
              cases h
          | cons b bs =>
              rw [hc, Building.tags, hs, List.map_cons, scanTag] at h
              cases hin : b.inElse <;> simp [hin] at h
      | comment | expression _ | opening _ _ =>
          rw [hc, scanTag] at h
          cases h

end Step

/-! ## A whole run -/

/-- Where the scan of some segments keeps pieces and leaves blocks open, building the tree over
them succeeds, with a stack that follows the scan's and holding the pieces kept. -/
theorem foldlM_step_of_scan_ok (segs : List (String × Bool)) :
    ∀ (st : Building) (kept : List (String × Bool)) (result : List (String × Bool) × List OpenTag),
      st.Wf → st.reading = kept → scanFrom segs st.tags kept = .ok result →
      ∃ st', segs.foldlM Building.step st = .ok st' ∧ st'.tags = result.2 ∧
        st'.reading = result.1 := by
  induction segs with
  | nil =>
      intro st kept result _ hread h
      cases h
      exact ⟨st, rfl, rfl, hread⟩
  | cons seg segs ih =>
      intro st kept result hwf hread h
      rw [scanFrom] at h
      -- the first segment goes as the scan says, and the rest of the run follows from there
      cases hscan : scanStep st.tags seg with
      | error e => rw [hscan] at h; cases h
      | ok step =>
          obtain ⟨piece, blocks⟩ := step
          rw [hscan] at h
          obtain ⟨st', hstep, hwf', htags, hread'⟩ := Building.step_of_scan_ok hwf hscan
          rw [← htags] at h
          obtain ⟨st'', hrun, htags'', hread''⟩ :=
            ih st' (kept ++ piece.toList) result hwf' (by rw [hread', hread]) h
          refine ⟨st'', ?_, htags'', hread''⟩
          rw [List.foldlM_cons, hstep]
          exact hrun

/-- Where the scan fails, building the tree fails with the same error. -/
theorem foldlM_step_of_scan_error (segs : List (String × Bool)) :
    ∀ (st : Building) (kept : List (String × Bool)) (e : DocError),
      st.Wf → scanFrom segs st.tags kept = .error e → segs.foldlM Building.step st = .error e := by
  induction segs with
  | nil =>
      intro st kept e _ h
      cases h
  | cons seg segs ih =>
      intro st kept e hwf h
      rw [scanFrom] at h
      cases hscan : scanStep st.tags seg with
      | error e' =>
          rw [hscan] at h
          cases h
          rw [List.foldlM_cons, Building.step_of_scan_error hscan]
          rfl
      | ok step =>
          obtain ⟨piece, blocks⟩ := step
          rw [hscan] at h
          obtain ⟨st', hstep, hwf', htags, -⟩ := Building.step_of_scan_ok hwf hscan
          rw [← htags] at h
          rw [List.foldlM_cons, hstep]
          exact ih st' (kept ++ piece.toList) e hwf' h

/-- Reading the tree of a text gives the pieces its scan keeps, and the two fail alike. -/
theorem readingAll_parseTemplate (content : String) :
    Node.readingAll <$> parseTemplate content = keptSegments (splitExpressions content) := by
  have hwf : ({} : Building).Wf := fun _ hb => absurd hb List.not_mem_nil
  unfold parseTemplate keptSegments
  cases hscan : scanFrom (splitExpressions content) [] [] with
  | error e =>
      rw [foldlM_step_of_scan_error _ {} [] e hwf hscan]
      rfl
  | ok result =>
      obtain ⟨kept, blocks⟩ := result
      obtain ⟨st, hrun, htags, hread⟩ :=
        foldlM_step_of_scan_ok _ {} [] (kept, blocks) hwf rfl hscan
      dsimp only at htags hread
      rw [hrun]
      simp only [bind, Except.bind]
      -- the blocks left open are the scan's: none, or the innermost one fails
      cases hs : st.stack with
      | nil =>
          have hblocks : blocks = [] := by rw [← htags, Building.tags, hs, List.map_nil]
          subst hblocks
          simp only [Building.reading, hs, List.reverse_nil, List.flatMap_nil,
            List.append_nil] at hread
          rw [← hread]
          rfl
      | cons b bs =>
          have hblocks : blocks = b.tag :: bs.map OpenBlock.tag := by
            rw [← htags, Building.tags, hs, List.map_cons]
          subst hblocks
          rfl

/-- **The block tree keeps every segment.**  Building the block tree of a text fails exactly
where scanning its stretches and tags with a stack of open blocks fails: at the first closing
tag that names another kind than the innermost open block's, or at the end with the innermost
block left open.  When it succeeds, reading the tree in order gives the stretches and tags of
the text in their order, less the comments, each block's first `{{else}}` and each closing tag
that closes a block, with stray closing tags and `{{else}}` tags kept as text. -/
theorem parseTemplate_keeps_segments (content : String) :
    (∀ e, parseTemplate content = .error e ↔ keptSegments (splitExpressions content) = .error e) ∧
      ∀ nodes, parseTemplate content = .ok nodes →
        keptSegments (splitExpressions content) = .ok (Node.readingAll nodes) := by
  rw [← readingAll_parseTemplate]
  constructor
  · intro e
    cases parseTemplate content with
    | error e' =>
        constructor
        · intro h
          cases h
          rfl
        · intro h
          cases h
          rfl
    | ok nodes' =>
        constructor
        · intro h
          cases h
        · intro h
          cases h
  · intro nodes h
    rw [h]
    rfl

/-- A loop with an alternative and a comment, then a closing tag with no block open: the
comment, the `{{else}}` and the loop's closing tag leave the reading, and the stray closing
tag stays as text. -/
theorem parseTemplate_keeps_segments_loop :
    parseTemplate
        "a\x7b\x7b#each xs\x7d\x7d\x7b\x7bthis\x7d\x7d\x7b\x7belse\x7d\x7dnone\x7b\x7b!c\x7d\x7d\x7b\x7b/each\x7d\x7d\x7b\x7b/if\x7d\x7d" =
        .ok [.text "a", .block (.mk .each "xs" "\x7b\x7b#each xs\x7d\x7d"
          [.expression "\x7b\x7bthis\x7d\x7d" "this"] [.text "none"]), .text "\x7b\x7b/if\x7d\x7d"] ∧
      keptSegments (splitExpressions
          "a\x7b\x7b#each xs\x7d\x7d\x7b\x7bthis\x7d\x7d\x7b\x7belse\x7d\x7dnone\x7b\x7b!c\x7d\x7d\x7b\x7b/each\x7d\x7d\x7b\x7b/if\x7d\x7d") =
        .ok (Node.readingAll [.text "a", .block (.mk .each "xs" "\x7b\x7b#each xs\x7d\x7d"
          [.expression "\x7b\x7bthis\x7d\x7d" "this"] [.text "none"]), .text "\x7b\x7b/if\x7d\x7d"]) := by
  have h : parseTemplate
      "a\x7b\x7b#each xs\x7d\x7d\x7b\x7bthis\x7d\x7d\x7b\x7belse\x7d\x7dnone\x7b\x7b!c\x7d\x7d\x7b\x7b/each\x7d\x7d\x7b\x7b/if\x7d\x7d" =
      .ok [.text "a", .block (.mk .each "xs" "\x7b\x7b#each xs\x7d\x7d"
          [.expression "\x7b\x7bthis\x7d\x7d" "this"] [.text "none"]), .text "\x7b\x7b/if\x7d\x7d"] := rfl
  exact ⟨h, (parseTemplate_keeps_segments _).2 _ h⟩

end Covenant.Template
