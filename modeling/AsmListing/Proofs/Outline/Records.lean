import AsmListing.Proofs.Outline.Basic

/-!
# The records of an outline

Every sequence that the analysis keeps is a function of the outline: a line
record counts the tokens before it, a block record the lines before it, and a
span the bytes before it.  `Outline.assembly` collects them.

The assembly of a listing never leaves these records.  `assembly_addLine` is the
step: taking a line and writing out the records gives the same in either order.
From it follow a whole run (`assembly_addLines`) and, with the run of the
outline, what is assembled of a listing (`assembly_run`).
-/

namespace AsmListing

namespace StoredLine

/-- The tokens of a line as they are stored: the target of a branch or a jump has
become a label. -/
def tokens (line : StoredLine) : List Token :=
  match line.kind with
  | .codeBranch | .codeJump => (markTarget line.source).1
  | _ => line.source

/-- The number of bytes that a line takes in the rendered listing. -/
def renderedLength (dialect : Dialect) (line : StoredLine) : Nat :=
  match line.kind with
  | .located _ => line.caption.byteSize + 1
  | _ => lineLength dialect line.tokens

/-- The registers of a line. -/
def registers (text : Text) (line : StoredLine) : List Text :=
  (line.tokens.filter (·.kind == .register)).map (·.text text)

end StoredLine

/-- A line with its place among the blocks, and its tokens as they were read. -/
structure PlacedLine where
  place : LineRef
  kind : LineKind
  tokens : List Token
  deriving DecidableEq, Repr

/-! ## Records -/

/-- The records of lines, the first of which starts at a token index. -/
def lineRecords : Nat → List StoredLine → List Line
  | _, [] => []
  | tokenIndex, line :: rest =>
    ⟨line.kind, tokenIndex, line.tokens.length⟩ ::
      lineRecords (tokenIndex + line.tokens.length) rest

/-- What the lines of a block show. -/
def contentOf (lines : List StoredLine) : Content :=
  lines.foldl (fun content line => content.observe line.kind) {}

/-- The number of bytes that lines take in the rendered listing. -/
def shownLength (dialect : Dialect) : List StoredLine → Nat
  | [] => 0
  | line :: rest => line.renderedLength dialect + shownLength dialect rest

/-- The records of blocks without edges, the first of which starts at a line
index.  `otherwise` is the kind of the first one if it has no content. -/
def blockRecords : BlockKind → Nat → List (List StoredLine) → List Block
  | _, _, [] => []
  | otherwise, lineIndex, lines :: rest =>
    ⟨(contentOf lines).blockKind otherwise, lineIndex, lines.length, []⟩ ::
      blockRecords .none (lineIndex + lines.length) rest

/-- The spans of blocks, the first of which starts at a byte of the rendered
listing. -/
def spanRecords (dialect : Dialect) : Nat → List (List StoredLine) → List BlockSpan
  | _, [] => []
  | start, lines :: rest =>
    ⟨start, start + shownLength dialect lines⟩ ::
      spanRecords dialect (start + shownLength dialect lines) rest

/-- Files the comment that shows a line, if there is one. -/
def fileCaption (captions : Numbered Text) (line : StoredLine × Nat) : Numbered Text :=
  if line.1.caption.isEmpty then captions else captions.insert line.2 line.1.caption

/-- The comments that show lines, by line. -/
def captionRecords (lines : List StoredLine) : Numbered Text :=
  lines.zipIdx.foldl fileCaption .empty

/-- The registers of each line. -/
def registerRecords (text : Text) (lines : List StoredLine) : RegisterIndex :=
  lines.zipIdx.foldl (fun index line => RegisterIndex.push index line.2 (line.1.registers text))
    .empty

/-- The lines of blocks with their places. -/
def placeLines (blocks : List (List StoredLine)) : List PlacedLine :=
  (blocks.mapIdx fun block lines =>
    lines.mapIdx fun index line => ⟨⟨block, index⟩, line.kind, line.source⟩).flatten

/-- Takes note of the label that a line declares or uses. -/
def noteLabel (text : Text) (table : LabelTable) (line : PlacedLine) : LabelTable :=
  match line.kind with
  | .labelDeclaration =>
    match line.tokens with
    | [] => table
    | label :: _ => table.declare (label.text text) line.place
  | .codeBranch | .codeJump =>
    match (markTarget line.tokens).2 with
    | none => table
    | some target => table.use line.place ⟨target.position, target.length⟩
  | _ => table

/-- The labels that lines declare and use. -/
def labelRecords (text : Text) (lines : List PlacedLine) : LabelTable :=
  lines.foldl (noteLabel text) .empty

/-! ### One more line, and one more block -/

theorem lineRecords_append (tokenIndex : Nat) (first second : List StoredLine) :
    lineRecords tokenIndex (first ++ second) =
      lineRecords tokenIndex first ++
        lineRecords (tokenIndex + (first.flatMap StoredLine.tokens).length) second := by
  induction first generalizing tokenIndex with
  | nil => simp [lineRecords]
  | cons line rest ih => simp [lineRecords, ih, Nat.add_assoc]

@[simp] theorem length_lineRecords (tokenIndex : Nat) (lines : List StoredLine) :
    (lineRecords tokenIndex lines).length = lines.length := by
  induction lines generalizing tokenIndex with
  | nil => rfl
  | cons line rest ih => simp [lineRecords, ih]

@[simp] theorem contentOf_concat (lines : List StoredLine) (line : StoredLine) :
    contentOf (lines ++ [line]) = (contentOf lines).observe line.kind := by
  simp [contentOf]

@[simp] theorem shownLength_nil (dialect : Dialect) : shownLength dialect [] = 0 := rfl

@[simp] theorem shownLength_cons (dialect : Dialect) (line : StoredLine)
    (rest : List StoredLine) :
    shownLength dialect (line :: rest) =
      line.renderedLength dialect + shownLength dialect rest := rfl

@[simp] theorem shownLength_append (dialect : Dialect) (first second : List StoredLine) :
    shownLength dialect (first ++ second) =
      shownLength dialect first + shownLength dialect second := by
  induction first with
  | nil => simp
  | cons line rest ih => simp [ih, Nat.add_assoc]

theorem blockRecords_append (otherwise : BlockKind) (lineIndex : Nat)
    (first second : List (List StoredLine)) :
    blockRecords otherwise lineIndex (first ++ second) =
      blockRecords otherwise lineIndex first ++
        blockRecords (if first.isEmpty then otherwise else .none)
          (lineIndex + first.flatten.length) second := by
  induction first generalizing otherwise lineIndex with
  | nil => simp [blockRecords]
  | cons block rest ih =>
      simp only [List.cons_append, blockRecords, ih, List.isEmpty_cons, List.flatten_cons,
        List.length_append, Nat.add_assoc]
      simp

@[simp] theorem length_blockRecords (otherwise : BlockKind) (lineIndex : Nat)
    (blocks : List (List StoredLine)) :
    (blockRecords otherwise lineIndex blocks).length = blocks.length := by
  induction blocks generalizing otherwise lineIndex with
  | nil => rfl
  | cons block rest ih => simp [blockRecords, ih]

theorem spanRecords_append (dialect : Dialect) (start : Nat)
    (first second : List (List StoredLine)) :
    spanRecords dialect start (first ++ second) =
      spanRecords dialect start first ++
        spanRecords dialect (start + shownLength dialect first.flatten) second := by
  induction first generalizing start with
  | nil => simp [spanRecords]
  | cons block rest ih => simp [spanRecords, ih, Nat.add_assoc]

@[simp] theorem length_spanRecords (dialect : Dialect) (start : Nat)
    (blocks : List (List StoredLine)) :
    (spanRecords dialect start blocks).length = blocks.length := by
  induction blocks generalizing start with
  | nil => rfl
  | cons block rest ih => simp [spanRecords, ih]

theorem captionRecords_concat (lines : List StoredLine) (line : StoredLine) :
    captionRecords (lines ++ [line]) = fileCaption (captionRecords lines) (line, lines.length) := by
  simp [captionRecords, List.zipIdx_append]

theorem registerRecords_concat (text : Text) (lines : List StoredLine) (line : StoredLine) :
    registerRecords text (lines ++ [line]) =
      RegisterIndex.push (registerRecords text lines) lines.length (line.registers text) := by
  simp [registerRecords, List.zipIdx_append]

theorem placeLines_concat (blocks : List (List StoredLine)) (lines : List StoredLine) :
    placeLines (blocks ++ [lines]) =
      placeLines blocks ++
        lines.mapIdx fun index line => ⟨⟨blocks.length, index⟩, line.kind, line.source⟩ := by
  simp [placeLines, List.mapIdx_concat]

theorem placeLines_concat_nil (blocks : List (List StoredLine)) :
    placeLines (blocks ++ [[]]) = placeLines blocks := by
  simp [placeLines_concat]

theorem placeLines_concat_concat (blocks : List (List StoredLine)) (lines : List StoredLine)
    (line : StoredLine) :
    placeLines (blocks ++ [lines ++ [line]]) =
      placeLines (blocks ++ [lines]) ++
        [⟨⟨blocks.length, lines.length⟩, line.kind, line.source⟩] := by
  simp [placeLines_concat, List.mapIdx_concat]

theorem labelRecords_concat (text : Text) (lines : List PlacedLine) (line : PlacedLine) :
    labelRecords text (lines ++ [line]) = noteLabel text (labelRecords text lines) line := by
  simp [labelRecords]

/-! ## The assembly of an outline -/

namespace Outline

/-- What is assembled of a listing with the given outline. -/
def assembly (context : Context) (outline : Outline) : Assembly where
  tokens := outline.lines.flatMap StoredLine.tokens
  lines := lineRecords 0 outline.lines
  blocks := blockRecords .block 0 outline.closed
  spans := spanRecords context.dialect 0 outline.closed
  sources := outline.sources
  captions := captionRecords outline.lines
  registers := registerRecords context.text outline.lines
  labels := labelRecords context.text (placeLines (outline.closed ++ [outline.current]))
  openBlock :=
    { lineIndex := outline.closed.flatten.length
      length := outline.current.length
      content := contentOf outline.current
      start := shownLength context.dialect outline.closed.flatten }
  renderedLength := shownLength context.dialect outline.lines
  afterBranch := outline.afterBranch

theorem assembly_start (context : Context) : start.assembly context = .start := rfl

theorem assembly_closeBlock (context : Context) (outline : Outline) :
    outline.closeBlock.assembly context =
      { (outline.assembly context).closeBlock with afterBranch := false } := by
  unfold closeBlock Assembly.closeBlock
  -- an open block without lines is not completed
  by_cases hnil : outline.current = []
  · have hbranch : outline.afterBranch = false := by simp [afterBranch, hnil]
    simp [assembly, hnil, hbranch]
  · have hempty : (blockRecords .block 0 outline.closed).isEmpty = outline.closed.isEmpty := by
      cases outline.closed <;> rfl
    have hplaces : placeLines (outline.closed ++ [outline.current, []]) =
        placeLines (outline.closed ++ [outline.current]) := by
      simpa using placeLines_concat_nil (outline.closed ++ [outline.current])
    simp [assembly, hnil, hempty, hplaces, blockRecords_append, blockRecords, spanRecords_append,
      spanRecords, lines, afterBranch, contentOf]

theorem assembly_beginLine (context : Context) (outline : Outline) (first : Token) :
    (outline.beginLine first).assembly context = (outline.assembly context).beginLine first := by
  unfold beginLine Assembly.beginLine
  have hbranch : (outline.assembly context).afterBranch = outline.afterBranch := rfl
  rw [hbranch]
  split
  · rw [assembly_closeBlock]
  · next hsplit =>
      have hnot : outline.afterBranch = false := by
        simpa using And.left (Bool.or_eq_false_iff.mp (Bool.eq_false_iff.mpr hsplit))
      simp [assembly, hnot]

theorem assembly_add (context : Context) (outline : Outline) (line : StoredLine) :
    (outline.add line).assembly context =
      { (outline.assembly context) with
        captions := fileCaption (outline.assembly context).captions
          (line, (outline.assembly context).lines.length)
        labels := noteLabel context.text (outline.assembly context).labels
          ⟨(outline.assembly context).nextRef, line.kind, line.source⟩ }.store context.text
        line.kind line.tokens (line.renderedLength context.dialect) := by
  have hlines : (outline.add line).lines = outline.lines ++ [line] := by
    simp [add, lines]
  have hbranch : (outline.add line).afterBranch = decide (line.kind = .codeBranch) := by
    simp [add, afterBranch, Bool.beq_eq_decide_eq]
  simp only [assembly, Assembly.store, Assembly.nextRef, hlines, hbranch]
  simp [add, lineRecords_append, lineRecords, captionRecords_concat, registerRecords_concat,
    placeLines_concat_concat, labelRecords_concat, StoredLine.registers]

/-- Reading a line for which the outline is ready, and storing it, is what the
assembly does with it. -/
theorem assembly_take (context : Context) (outline : Outline) {tokens : List Token}
    (hne : tokens ≠ []) :
    (outline.assembly context).finishLine context tokens =
      (readLine context outline.sources tokens).map fun read =>
        (outline.take read).assembly context := by
  have hsources : (outline.assembly context).sources = outline.sources := rfl
  have hadd : ∀ line, outline.take (outline.sources, some line) = outline.add line := fun _ => rfl
  rw [readLine, if_neg hne]
  unfold Assembly.finishLine
  rw [hsources]
  cases hkind : lineKind tokens with
  | sourceFile =>
      cases outline.sources.register context.files context.options.loadSourceFiles context.text
        tokens with
      | error error => rfl
      | ok registered =>
          have htake : outline.take (registered, none) =
              { outline with sources := registered } := by
            simp [take]
          simp only [Fallible.ok_bind, Fallible.map_ok, htake]
          rfl
  | sourceLocation =>
      cases readLocation context.text tokens with
      | error error => rfl
      | ok location =>
          simp only [Fallible.ok_bind, Fallible.map_ok, hadd, assembly_add]
          rw [Assembly.storeLocation, fileCaption, hsources]
          split <;> rfl
  | labelDeclaration =>
      simp only [Fallible.map_ok, hadd, assembly_add]
      obtain ⟨label, rest, rfl⟩ := List.exists_cons_of_ne_nil hne
      rfl
  | codeBranch =>
      simp only [Fallible.map_ok, hadd, assembly_add]
      rw [Assembly.storeBranch, noteLabel]
      cases (markTarget tokens).2 <;> rfl
  | codeJump =>
      simp only [Fallible.map_ok, hadd, assembly_add]
      rw [Assembly.storeBranch, noteLabel]
      cases (markTarget tokens).2 <;> rfl
  | located location => exact absurd hkind (lineKind_ne_located tokens location)
  | _ =>
      simp only [Fallible.map_ok, hadd, assembly_add]
      rfl

/-- Taking a line and writing out the records gives the same in either order. -/
theorem assembly_addLine (context : Context) (outline : Outline) (tokens : List Token) :
    (outline.assembly context).addLine context tokens =
      (outline.addLine context tokens).map (assembly context) := by
  cases tokens with
  | nil => rfl
  | cons first rest =>
      have hsources : (outline.beginLine first).sources = outline.sources := by simp
      rw [Assembly.addLine, ← assembly_beginLine, assembly_take _ _ (List.cons_ne_nil _ _),
        hsources, addLine]
      cases readLine context outline.sources (first :: rest) <;> rfl

theorem assembly_addLines (context : Context) (groups : List (List Token)) :
    ∀ outline : Outline, (outline.assembly context).addLines context groups =
      (outline.addLines context groups).map (assembly context) := by
  induction groups with
  | nil => intro outline; rfl
  | cons tokens rest ih =>
      intro outline
      rw [Assembly.addLines, List.foldlM_cons, assembly_addLine, addLines, List.foldlM_cons]
      cases outline.addLine context tokens with
      | error error => rfl
      | ok following => exact ih following

/-- The outline of a listing, from its lines and the source files they register. -/
def ofLines (read : SourceTable × List StoredLine) : Outline :=
  ⟨read.1, read.2.splitBy joins, []⟩

/-- What is assembled of a listing is what its lines make up, cut into blocks. -/
theorem assembly_run (context : Context) (groups : List (List Token)) :
    (Assembly.start.addLines context groups).map (fun assembled =>
        { assembled.closeBlock with afterBranch := false }) =
      (readLines context .empty groups).map fun read => (ofLines read).assembly context := by
  have hrun : (start.addLines context groups).map closeBlock =
      (readLines context .empty groups).map ofLines :=
    closeBlock_addLines context groups start cut_start
  rw [← assembly_start context, assembly_addLines, Fallible.map_map]
  simp only [← assembly_closeBlock]
  rw [← Fallible.map_map closeBlock, hrun, Fallible.map_map]

end Outline

end AsmListing
