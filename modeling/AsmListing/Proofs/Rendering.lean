import AsmListing.Proofs.Outline.Analysis
import AsmListing.Session

/-!
# The renderings of an analyzed listing

A renderer finds its way by indices: from a block to its lines, from a line to
its tokens and from a line to its comment.  `Renderer.Shows` says that these
indices are those of an outline.  Then rendering never fails, and the rendering
of a block is that of its lines one after the other
(`Renderer.Shows.renderBlock_eq`), in color or without.
-/

namespace AsmListing

/-! ## Records by index -/

theorem exists_append_of_getElem? {α : Type} {items : List α} {index : Nat} {item : α}
    (hitem : items[index]? = some item) :
    ∃ before after, items = before ++ item :: after ∧ before.length = index := by
  obtain ⟨hindex, rfl⟩ := List.getElem?_eq_some_iff.mp hitem
  refine ⟨items.take index, items.drop (index + 1), ?_, List.length_take_of_le hindex.le⟩
  rw [List.getElem_cons_drop, List.take_append_drop]

theorem getElem?_lineRecords (before after : List StoredLine) (line : StoredLine) :
    (lineRecords 0 (before ++ line :: after))[before.length]? =
      some ⟨line.kind, (before.flatMap StoredLine.tokens).length, line.tokens.length⟩ := by
  rw [lineRecords_append, List.getElem?_append_right (by simp), length_lineRecords, Nat.sub_self,
    Nat.zero_add]
  rfl

theorem tokens?_lineRecord (before after : List StoredLine) (line : StoredLine) :
    Line.tokens? ⟨line.kind, (before.flatMap StoredLine.tokens).length, line.tokens.length⟩
        ((before ++ line :: after).flatMap StoredLine.tokens) = some line.tokens := by
  have htokens : (before ++ line :: after).flatMap StoredLine.tokens =
      before.flatMap StoredLine.tokens ++ (line.tokens ++ after.flatMap StoredLine.tokens) := by
    simp
  rw [Line.tokens?, htokens, if_pos (by simp [Line.tokenEnd]), List.drop_left, List.take_left]

/-- Values that are filed under the indices of their items, unless they are empty,
are found there. -/
theorem Numbered.get?_foldl_zipIdx {α β : Type} (content : α → List β) (items : List α)
    (index : Nat) :
    (items.zipIdx.foldl (fun map item =>
        if (content item.1).isEmpty then map else map.insert item.2 (content item.1))
      empty).get? index =
      (items[index]?.map content).filter fun found => !found.isEmpty := by
  induction items using List.reverseRecOn with
  | nil => rfl
  | append_singleton items item ih =>
      rw [List.zipIdx_append, List.foldl_append]
      simp only [List.zipIdx_singleton, List.foldl_cons, List.foldl_nil, Nat.zero_add]
      rcases Nat.lt_trichotomy index items.length with hlt | rfl | hgt
      · rw [List.getElem?_append_left hlt, ← ih]
        split
        · rfl
        · rw [get?_insert, if_neg hlt.ne]
      · rw [List.getElem?_concat_length]
        split
        · next hempty =>
            rw [ih, List.getElem?_eq_none le_rfl]
            simp [Option.filter, hempty]
        · next hempty =>
            rw [get?_insert, if_pos rfl]
            simp [Option.filter, hempty]
      · rw [List.getElem?_eq_none hgt.le] at ih
        rw [List.getElem?_eq_none (by simp; omega)]
        split
        · exact ih
        · rw [get?_insert, if_neg hgt.ne', ih]

/-- A comment is filed under the index of its line, unless it is empty. -/
theorem get?_captionRecords (lines : List StoredLine) (index : Nat) :
    (captionRecords lines).get? index =
      (lines[index]?.map (·.caption)).filter fun caption => !caption.isEmpty :=
  Numbered.get?_foldl_zipIdx StoredLine.caption lines index

/-- The registers of a line are listed under its index, unless there are none. -/
theorem get?_registerRecords (text : Text) (lines : List StoredLine) (index : Nat) :
    (registerRecords text lines).get? index =
      (lines[index]?.map (·.registers text)).filter fun registers => !registers.isEmpty :=
  Numbered.get?_foldl_zipIdx (StoredLine.registers text) lines index

theorem getElem?_blockRecords (before after : List (List StoredLine)) (lines : List StoredLine) :
    (blockRecords .block 0 (before ++ lines :: after))[before.length]? =
      some ⟨(contentOf lines).blockKind (if before.isEmpty then .block else .none),
        before.flatten.length, lines.length, []⟩ := by
  rw [blockRecords_append, List.getElem?_append_right (by simp), length_blockRecords, Nat.sub_self,
    Nat.zero_add]
  rfl

/-- The record of a block counts the lines before it and its own. -/
theorem exists_blockRecord {records : List Block} {lines : List StoredLine}
    (hrecords : records.map Block.bare = blockRecords .block 0 (lines.splitBy joins)) {index : Nat}
    {block : List StoredLine} (hblock : (lines.splitBy joins)[index]? = some block) :
    ∃ record before after, records[index]? = some record ∧ lines = before ++ block ++ after ∧
      record.lineIndex = before.length ∧ record.length = block.length := by
  obtain ⟨before, after, hblocks, rfl⟩ := exists_append_of_getElem? hblock
  have hrecord := getElem?_blockRecords before after block
  rw [← hblocks, ← hrecords, List.getElem?_map] at hrecord
  obtain ⟨record, hfound, hbare⟩ := Option.map_eq_some_iff.mp hrecord
  refine ⟨record, before.flatten, after.flatten, hfound, ?_, congrArg Block.lineIndex hbare,
    congrArg Block.length hbare⟩
  rw [← List.flatten_splitBy joins lines, hblocks]
  simp

/-! ## What a renderer shows -/

@[simp] theorem paint_false (color : Option String) (text : Text) :
    paint false color text = text := rfl

/-- The records of a renderer are those of the given lines. -/
structure Renderer.Shows (renderer : Renderer) (lines : List StoredLine) : Prop where
  tokens_eq : renderer.tokens = lines.flatMap StoredLine.tokens
  lines_eq : renderer.lines = lineRecords 0 lines
  blocks_eq : renderer.blocks.map Block.bare = blockRecords .block 0 (lines.splitBy joins)
  captions_eq : renderer.captions = captionRecords lines

theorem LaidOut.shows {context : Context} {read : SourceTable × List StoredLine}
    {analysis : Analysis} (hlaid : LaidOut context read analysis) (text : Text)
    (options : Options) : (analysis.renderer text options).Shows read.2 :=
  ⟨hlaid.tokens_eq, hlaid.lines_eq, hlaid.blocks_eq, hlaid.captions_eq⟩

namespace Renderer

/-- A stored line as a renderer shows it: its text and the columns of its
tokens. -/
def showLine (renderer : Renderer) (colored : Bool) (line : StoredLine) : Text × List Nat :=
  match line.kind with
  | .located _ =>
    (if line.caption.isEmpty then
      ['\n']
    else
      paint colored (some renderer.palette.lineDirective) line.caption ++ ['\n'], [])
  | _ => (renderer.lineText colored line.tokens, renderer.lineColumns 0 line.tokens)

namespace Shows

variable {renderer : Renderer} {lines : List StoredLine}

theorem renderLine_eq (hshows : renderer.Shows lines) (colored : Bool)
    {before after : List StoredLine} {line : StoredLine}
    (hlines : lines = before ++ line :: after) :
    renderer.renderLine colored before.length
        ⟨line.kind, (before.flatMap StoredLine.tokens).length, line.tokens.length⟩ =
      .ok (renderer.showLine colored line) := by
  have hcaption : renderer.captions.get? before.length =
      if line.caption.isEmpty then none else some line.caption := by
    rw [hshows.captions_eq, get?_captionRecords, hlines]
    cases hempty : line.caption.isEmpty <;> simp [Option.filter, hempty]
  have htokens := tokens?_lineRecord before after line
  rw [← hlines, ← hshows.tokens_eq] at htokens
  unfold renderLine showLine
  cases hkind : line.kind <;> simp only
  case located location =>
    rw [locationText, hcaption]
    by_cases hempty : line.caption.isEmpty <;> simp [hempty]
  all_goals rw [hkind] at htokens; rw [htokens]

theorem renderLines_eq (hshows : renderer.Shows lines) (colored : Bool)
    (block : List StoredLine) :
    ∀ before after : List StoredLine, lines = before ++ block ++ after →
      renderer.renderLines colored before.length block.length =
        .ok (block.map (renderer.showLine colored)) := by
  induction block with
  | nil =>
      intro before after _
      rfl
  | cons line rest ih =>
      intro before after hlines
      have hsplit : lines = before ++ line :: (rest ++ after) := by simp [hlines]
      have hrecord : renderer.lines[before.length]? =
          some ⟨line.kind, (before.flatMap StoredLine.tokens).length, line.tokens.length⟩ := by
        rw [hshows.lines_eq, hsplit, getElem?_lineRecords]
      have hrest := ih (before ++ [line]) after (by simp [hlines])
      rw [List.length_append, List.length_singleton] at hrest
      simp only [List.length_cons, renderLines, getRecord, hrecord, Fallible.ok_bind,
        hshows.renderLine_eq colored hsplit, hrest, List.map_cons]

/-- Rendering a block never fails, and shows its lines one after the other. -/
theorem renderBlock_eq (hshows : renderer.Shows lines) (colored : Bool) {index : Nat}
    {block : List StoredLine} (hblock : (lines.splitBy joins)[index]? = some block) :
    renderer.renderBlock index colored =
      .ok ⟨(block.map fun line => (renderer.showLine colored line).1).flatten,
        block.map fun line => (renderer.showLine colored line).2⟩ := by
  obtain ⟨record, before, after, hfound, hlines, hindex, hcount⟩ :=
    exists_blockRecord hshows.blocks_eq hblock
  -- all lines of the block are there, so none of its indices wraps around
  have hend : record.lineEnd ≤ renderer.lines.length := by
    rw [Block.lineEnd, hindex, hcount, hshows.lines_eq, length_lineRecords, hlines]
    simp
  rw [renderBlock, getRecord, hfound, Fallible.ok_bind, Block.lineCount, if_pos (.inl hend), hindex,
    hcount]
  simp only [hshows.renderLines_eq colored block _ _ hlines, Fallible.ok_bind, List.map_map]
  rfl

end Shows

end Renderer

end AsmListing
