import AsmListing.Proofs.Edges
import AsmListing.Proofs.Partition

/-!
# Where blocks start

A block starts at a line that declares a label and after a conditional branch,
and nowhere else.  The analysis decides this line by line, from a flag that the
last line has left and from the first token of the next one, and lines that
register files are decided in the same way before they vanish.  Nothing of that
can be seen in the result: whether a stored line starts a block depends on its
own kind and on that of the stored line before it.

`Outline.closeBlock_addLines` has already turned the run of the analysis into a
cut of the stored lines wherever `joins` fails.  What is left is to read the
borders off the records: the records of blocks start where the parts of the cut
do (`startsBlock_iff_exists_append`), and a cut goes between two lines exactly
if they do not join (`exists_append_splitBy_iff`).
-/

namespace AsmListing

/-- Whether a line is the first one of some block. -/
def Analysis.StartsBlock (analysis : Analysis) (index : Nat) : Prop :=
  ∃ block ∈ analysis.blocks, 0 < block.length ∧ block.lineIndex = index

/-- The lines of a block. -/
def Analysis.linesOf (analysis : Analysis) (block : Block) : List Line :=
  (analysis.lines.drop block.lineIndex).take block.length

/-- `analysis.LineAt place index line`: there is a line at a place in a block, and it is
the line at an index of the listing. -/
def Analysis.LineAt (analysis : Analysis) (place : LineRef) (index : Nat) (line : Line) : Prop :=
  ∃ block, analysis.blocks[place.block]? = some block ∧ place.line < block.length ∧
    index = block.lineIndex + place.line ∧ analysis.lines[index]? = some line

/-! ## Cutting a list between two items -/

theorem ne_nil_of_splitBy_eq_append {α : Type} {related : α → α → Bool} {items : List α}
    {before after : List (List α)} {block : List α}
    (hsplit : items.splitBy related = before ++ block :: after) : block ≠ [] := by
  have hmem : block ∈ items.splitBy related := by
    rw [hsplit]
    exact List.mem_append_right _ List.mem_cons_self
  exact List.ne_nil_of_mem_splitBy hmem

theorem related_eq_false_of_append {α : Type} {related : α → α → Bool} {items : List α}
    {before after : List (List α)} {block : List α}
    (hsplit : items.splitBy related = before ++ block :: after) {last head : α}
    (hlast : before.flatten.getLast? = some last) (hhead : block.head? = some head) :
    related last head = false := by
  have hchain := List.isChain_getLast_head_splitBy related items
  rw [hsplit] at hchain
  rcases before.eq_nil_or_concat' with rfl | ⟨earlier, final, rfl⟩
  · simp at hlast
  · rw [List.append_assoc, List.singleton_append, List.isChain_append_cons_cons] at hchain
    obtain ⟨-, ⟨hfinal, hblock, hborder⟩, -⟩ := hchain
    have hlast' : final.getLast hfinal = last := by
      rw [List.flatten_append, List.flatten_singleton, List.getLast?_append,
        List.getLast?_eq_some_getLast hfinal] at hlast
      simpa using hlast
    have hhead' : block.head hblock = head := by
      rw [List.head?_eq_some_head hblock] at hhead
      exact Option.some.inj hhead
    rwa [hlast', hhead'] at hborder

/-- A list is cut between two neighbours exactly if they are not related. -/
theorem exists_append_splitBy_iff {α : Type} {related : α → α → Bool} {front back : List α}
    {last head : α} (hlast : front.getLast? = some last) (hhead : back.head? = some head) :
    (∃ before block after, (front ++ back).splitBy related = before ++ block :: after ∧
      before.flatten.length = front.length) ↔ related last head = false := by
  constructor
  · rintro ⟨before, block, after, hsplit, hlength⟩
    have hblock := ne_nil_of_splitBy_eq_append hsplit
    have hall : front ++ back = before.flatten ++ (block ++ after.flatten) := by
      rw [← List.flatten_splitBy related (front ++ back), hsplit]
      simp
    obtain ⟨rfl, rfl⟩ := List.append_inj hall hlength.symm
    rw [List.head?_append_of_ne_nil _ hblock] at hhead
    exact related_eq_false_of_append hsplit hlast hhead
  · intro hborder
    have hcut : (front ++ back).splitBy related = front.splitBy related ++ back.splitBy related :=
      List.splitBy_append fun item hitem other hother => by
        obtain rfl := Option.mem_unique hlast hitem
        obtain rfl := Option.mem_unique hhead hother
        exact hborder
    have hback : back.splitBy related ≠ [] := by
      rw [List.splitBy_ne_nil]
      rintro rfl
      simp at hhead
    obtain ⟨block, after, hblocks⟩ := List.exists_cons_of_ne_nil hback
    exact ⟨front.splitBy related, block, after, by rw [hcut, hblocks], by
      rw [List.flatten_splitBy]⟩

theorem joins_eq_false_iff (earlier later : StoredLine) :
    joins earlier later = false ↔
      later.kind = .labelDeclaration ∨ earlier.kind = .codeBranch := by
  simp only [joins, Bool.and_eq_false_iff, bne_eq_false_iff_eq]
  exact or_comm

/-- Ranges that cover a list cut it into consecutive parts. -/
theorem Covers.flatMap_slices {α : Type} {items : List α} {ranges : List (Nat × Nat)} :
    ∀ {start : Nat}, Covers start ranges items.length →
      (ranges.flatMap fun range => (items.drop range.1).take range.2) = items.drop start := by
  induction ranges with
  | nil =>
      intro start hcovers
      have hstart : start = items.length := hcovers
      rw [hstart, List.drop_length, List.flatMap_nil]
  | cons range rest ih =>
      intro start hcovers
      obtain ⟨hindex, -, hrest⟩ := hcovers
      rw [List.flatMap_cons, ih hrest, hindex, ← List.drop_drop, List.take_append_drop]

theorem countP_le_one_of_tail {α : Type} {test : α → Bool} {items : List α}
    (htail : ∀ item ∈ items.tail, test item = false) : items.countP test ≤ 1 := by
  cases items with
  | nil => simp
  | cons item rest =>
      have hrest : rest.countP test = 0 :=
        List.countP_eq_zero.mpr fun other hother => by simp [htail other hother]
      rw [List.countP_cons, hrest]
      split <;> omega

theorem getElem?_append_append {α : Type} (before items after : List α) {index : Nat}
    (hindex : index < items.length) :
    (before ++ items ++ after)[before.length + index]? = items[index]? := by
  rw [List.append_assoc, List.getElem?_append_right (Nat.le_add_right _ _),
    Nat.add_sub_cancel_left, List.getElem?_append_left hindex]

/-! ## The borders of an analyzed listing -/

namespace LaidOut

variable {context : Context} {read : SourceTable × List StoredLine} {analysis : Analysis}

/-- The block at an index is made of the part of the cut at that index: it has the kinds of
its lines, and its own kind is theirs. -/
theorem exists_part_at (hlaid : LaidOut context read analysis) {index : Nat} {record : Block}
    (hrecord : analysis.blocks[index]? = some record) :
    ∃ block, (read.2.splitBy joins)[index]? = some block ∧
      (analysis.linesOf record).map (·.kind) = block.map (·.kind) ∧
      record.kind = (contentOf block).blockKind (if index = 0 then .block else .none) := by
  have hlt : index < (read.2.splitBy joins).length := by
    rw [← length_of_map_bare hlaid.blocks_eq]
    exact (List.getElem?_eq_some_iff.mp hrecord).1
  obtain ⟨block, hblock⟩ : ∃ block, (read.2.splitBy joins)[index]? = some block :=
    ⟨_, List.getElem?_eq_getElem hlt⟩
  refine ⟨block, hblock, ?_, ?_⟩
  · obtain ⟨found, before, after, hfound, hlines, hindex, hcount⟩ :=
      exists_blockRecord hlaid.blocks_eq hblock
    obtain rfl : record = found := Option.some.inj (hrecord.symm.trans hfound)
    rw [Analysis.linesOf, hlaid.lines_eq, List.map_take, List.map_drop, map_kind_lineRecords,
      hindex, hcount, hlines, List.append_assoc, List.map_append, List.map_append, List.drop_left',
      List.take_left']
    · rw [List.length_map]
    · rw [List.length_map]
  · obtain ⟨before, after, hblocks, rfl⟩ := exists_append_of_getElem? hblock
    have hfound := getElem?_blockRecords before after block
    rw [← hblocks, ← hlaid.blocks_eq, List.getElem?_map, hrecord] at hfound
    have hkind := congrArg Block.kind (Option.some.inj hfound)
    simpa [Block.bare, List.isEmpty_iff, List.length_eq_zero_iff] using hkind

theorem exists_part (hlaid : LaidOut context read analysis) {record : Block}
    (hrecord : record ∈ analysis.blocks) :
    ∃ (place : Nat) (block : List StoredLine), analysis.blocks[place]? = some record ∧
      (read.2.splitBy joins)[place]? = some block := by
  obtain ⟨place, hplace⟩ := List.mem_iff_getElem?.mp hrecord
  obtain ⟨block, hblock, -⟩ := hlaid.exists_part_at hplace
  exact ⟨place, block, hplace, hblock⟩

/-- Blocks start where the parts of the cut do. -/
theorem startsBlock_iff_exists_append (hlaid : LaidOut context read analysis) (index : Nat) :
    analysis.StartsBlock index ↔ ∃ before block after,
      read.2.splitBy joins = before ++ block :: after ∧ before.flatten.length = index := by
  constructor
  · rintro ⟨record, hrecord, -, rfl⟩
    obtain ⟨place, block, hplace, hblock⟩ := hlaid.exists_part hrecord
    obtain ⟨before, after, hblocks, rfl⟩ := exists_append_of_getElem? hblock
    have hfound := getElem?_blockRecords before after block
    rw [← hblocks, ← hlaid.blocks_eq, List.getElem?_map, hplace] at hfound
    have hindex := congrArg Block.lineIndex (Option.some.inj hfound)
    exact ⟨before, block, after, hblocks, hindex.symm⟩
  · rintro ⟨before, block, after, hblocks, rfl⟩
    have hfound := getElem?_blockRecords before after block
    rw [← hblocks, ← hlaid.blocks_eq, List.getElem?_map] at hfound
    obtain ⟨record, hrecord, hbare⟩ := Option.map_eq_some_iff.mp hfound
    have hcount : record.length = block.length := congrArg Block.length hbare
    have hpos : 0 < record.length := by
      rw [hcount]
      exact List.length_pos_of_ne_nil (ne_nil_of_splitBy_eq_append hblocks)
    exact ⟨record, List.mem_of_getElem? hrecord, hpos, congrArg Block.lineIndex hbare⟩

theorem kind_eq (hlaid : LaidOut context read analysis) {index : Nat} {line : Line}
    (hline : analysis.lines[index]? = some line) :
    ∃ stored, read.2[index]? = some stored ∧ stored.kind = line.kind := by
  have hkind : (analysis.lines.map (·.kind))[index]? = some line.kind := by
    rw [List.getElem?_map, hline]
    rfl
  rw [hlaid.lines_eq, map_kind_lineRecords, List.getElem?_map] at hkind
  exact Option.map_eq_some_iff.mp hkind

/-- After the first line, a block starts at a line that declares a label or comes
after a conditional branch, and nowhere else. -/
theorem startsBlock_succ_iff (hlaid : LaidOut context read analysis) {index : Nat}
    {previous line : Line} (hprevious : analysis.lines[index]? = some previous)
    (hline : analysis.lines[index + 1]? = some line) :
    analysis.StartsBlock (index + 1) ↔
      line.kind = .labelDeclaration ∨ previous.kind = .codeBranch := by
  obtain ⟨last, hlast, hlastKind⟩ := hlaid.kind_eq hprevious
  obtain ⟨head, hhead, hheadKind⟩ := hlaid.kind_eq hline
  have hlt : index < read.2.length := (List.getElem?_eq_some_iff.mp hlast).1
  have hfront : (read.2.take (index + 1)).getLast? = some last := by
    rw [List.getLast?_take]
    simp [hlast]
  have hback : (read.2.drop (index + 1)).head? = some head := by
    rw [List.head?_drop, hhead]
  have hcut : _ ↔ joins last head = false := exists_append_splitBy_iff hfront hback
  rw [List.take_append_drop, List.length_take_of_le (by omega)] at hcut
  rw [hlaid.startsBlock_iff_exists_append, hcut, joins_eq_false_iff, hlastKind, hheadKind]

/-! ## The lines of a block -/

theorem flatMap_linesOf (hlaid : LaidOut context read analysis) :
    analysis.blocks.flatMap analysis.linesOf = analysis.lines := by
  have hslices := hlaid.covers_blocks.flatMap_slices
  rw [List.flatMap_map, List.drop_zero] at hslices
  exact hslices

/-- The lines of a block have the kinds of one part of the cut. -/
theorem map_kind_linesOf (hlaid : LaidOut context read analysis) {record : Block}
    (hrecord : record ∈ analysis.blocks) :
    ∃ block ∈ read.2.splitBy joins,
      (analysis.linesOf record).map (·.kind) = block.map (·.kind) := by
  obtain ⟨place, hplace⟩ := List.mem_iff_getElem?.mp hrecord
  obtain ⟨block, hblock, hkinds, -⟩ := hlaid.exists_part_at hplace
  exact ⟨block, List.mem_of_getElem? hblock, hkinds⟩

theorem kind_ne_labelDeclaration (hlaid : LaidOut context read analysis) {record : Block}
    (hrecord : record ∈ analysis.blocks) :
    ∀ line ∈ (analysis.linesOf record).tail, line.kind ≠ .labelDeclaration := by
  intro line hline
  obtain ⟨block, hblock, hkinds⟩ := hlaid.map_kind_linesOf hrecord
  have hmem : line.kind ∈ (block.map (·.kind)).tail := by
    rw [← hkinds, ← List.map_tail]
    exact List.mem_map_of_mem hline
  obtain ⟨first, rest, rfl⟩ := List.exists_cons_of_ne_nil (List.ne_nil_of_mem_splitBy hblock)
  obtain ⟨stored, hstored, hkind⟩ := List.mem_map.mp hmem
  rw [← hkind]
  exact kind_ne_of_isChain_joins (List.isChain_of_mem_splitBy hblock) stored hstored

theorem kind_ne_codeBranch (hlaid : LaidOut context read analysis) {record : Block}
    (hrecord : record ∈ analysis.blocks) :
    ∀ line ∈ (analysis.linesOf record).dropLast, line.kind ≠ .codeBranch := by
  intro line hline
  obtain ⟨block, hblock, hkinds⟩ := hlaid.map_kind_linesOf hrecord
  have hmem : line.kind ∈ (block.map (·.kind)).dropLast := by
    rw [← hkinds, ← List.map_dropLast]
    exact List.mem_map_of_mem hline
  rw [← List.map_dropLast] at hmem
  obtain ⟨stored, hstored, hkind⟩ := List.mem_map.mp hmem
  obtain ⟨next, hjoins⟩ :=
    exists_rel_of_mem_dropLast (List.isChain_of_mem_splitBy hblock) stored hstored
  rw [← hkind]
  intro hbranch
  simp [joins, hbranch] at hjoins

/-! ## Lines by their places -/

/-- Every line of a part of the cut has its place. -/
theorem exists_lineAt (hlaid : LaidOut context read analysis) (place : LineRef)
    {block : List StoredLine} {stored : StoredLine}
    (hblock : (read.2.splitBy joins)[place.block]? = some block)
    (hstored : block[place.line]? = some stored) :
    ∃ index line, analysis.LineAt place index line ∧ read.2[index]? = some stored ∧
      line.kind = stored.kind := by
  obtain ⟨record, before, after, hrecord, hlines, hindex, hcount⟩ :=
    exists_blockRecord hlaid.blocks_eq hblock
  have hline : place.line < block.length := (List.getElem?_eq_some_iff.mp hstored).1
  have hread : read.2[record.lineIndex + place.line]? = some stored := by
    rw [hlines, hindex, getElem?_append_append before block after hline, hstored]
  have hlt : record.lineIndex + place.line < analysis.lines.length := by
    rw [hlaid.lines_eq, length_lineRecords]
    exact (List.getElem?_eq_some_iff.mp hread).1
  have hfound := List.getElem?_eq_getElem hlt
  obtain ⟨other, hother, hkind⟩ := hlaid.kind_eq hfound
  obtain rfl : stored = other := Option.some.inj (hread.symm.trans hother)
  exact ⟨_, _, ⟨record, hrecord, by rwa [hcount], rfl, hfound⟩, hread, hkind.symm⟩

/-- Every place of a block is one of a part of the cut. -/
theorem exists_part_line (hlaid : LaidOut context read analysis) (place : LineRef) {record : Block}
    (hrecord : analysis.blocks[place.block]? = some record) (hplace : place.line < record.length) :
    ∃ block stored, (read.2.splitBy joins)[place.block]? = some block ∧
      block[place.line]? = some stored := by
  obtain ⟨block, hblock, -⟩ := hlaid.exists_part_at hrecord
  obtain ⟨found, -, -, hfound, -, -, hcount⟩ := exists_blockRecord hlaid.blocks_eq hblock
  obtain rfl : record = found := Option.some.inj (hrecord.symm.trans hfound)
  exact ⟨block, _, hblock, List.getElem?_eq_getElem (by rwa [← hcount])⟩

end LaidOut

/-- Blocks start at borders.  After the first line, a line starts a block exactly
if it declares a label or the stored line before it is a conditional branch.  So
the blocks have all lines between them, a block has a declaration at its start
only and therefore one at most, and a conditional branch at its end only. -/
theorem blocks_start_at_borders {files : Files} {dialect : Dialect} {options : Options}
    {text : Text} {analysis : Analysis}
    (hanalysis : analyze files dialect options text = .ok analysis) :
    (∀ index previous line, analysis.lines[index]? = some previous →
      analysis.lines[index + 1]? = some line →
        (analysis.StartsBlock (index + 1) ↔
          line.kind = .labelDeclaration ∨ previous.kind = .codeBranch)) ∧
    analysis.blocks.flatMap analysis.linesOf = analysis.lines ∧
    ∀ block ∈ analysis.blocks,
      (∀ line ∈ (analysis.linesOf block).tail, line.kind ≠ .labelDeclaration) ∧
      (analysis.linesOf block).countP (·.kind = .labelDeclaration) ≤ 1 ∧
      ∀ line ∈ (analysis.linesOf block).dropLast, line.kind ≠ .codeBranch := by
  obtain ⟨read, -, hlaid⟩ := exists_laidOut hanalysis
  refine ⟨?_, hlaid.flatMap_linesOf, fun block hblock => ⟨?_, ?_, ?_⟩⟩
  · intro index previous line hprevious hline
    exact hlaid.startsBlock_succ_iff hprevious hline
  · exact hlaid.kind_ne_labelDeclaration hblock
  · refine countP_le_one_of_tail fun line hline => ?_
    exact decide_eq_false (hlaid.kind_ne_labelDeclaration hblock line hline)
  · exact hlaid.kind_ne_codeBranch hblock

set_option maxRecDepth 10000 in
/-- A block starts after the branch although a line that registers a file comes
between, another one at the label, and none at the jump. -/
theorem blocks_start_at_borders_sample :
    ∃ analysis, analyze .none .wasm {}
        "nop\n br_if f\n.file 1 \"a\"\n br f\nnop\nf: nop".toList = .ok analysis ∧
      analysis.lines.map (·.kind) =
        [.code, .codeBranch, .codeJump, .code, .labelDeclaration] ∧
      ¬ analysis.StartsBlock 1 ∧ analysis.StartsBlock 2 ∧ ¬ analysis.StartsBlock 3 ∧
      analysis.StartsBlock 4 := by
  have heval : (analyze .none .wasm {}
      "nop\n br_if f\n.file 1 \"a\"\n br f\nnop\nf: nop".toList).toOption.map (·.lines) =
      some [⟨.code, 0, 2⟩, ⟨.codeBranch, 2, 5⟩, ⟨.codeJump, 7, 5⟩, ⟨.code, 12, 2⟩,
        ⟨.labelDeclaration, 14, 3⟩] := by
    decide +kernel
  obtain ⟨analysis, hanalysis, hlines⟩ := Option.map_eq_some_iff.mp heval
  rw [Fallible.toOption_eq_some] at hanalysis
  obtain ⟨hborders, -⟩ := blocks_start_at_borders hanalysis
  rw [hlines] at hborders
  refine ⟨analysis, hanalysis, by rw [hlines]; rfl, ?_, ?_, ?_, ?_⟩
  · simpa using hborders 0 _ _ rfl rfl
  · simpa using hborders 1 _ _ rfl rfl
  · simpa using hborders 2 _ _ rfl rfl
  · simpa using hborders 3 _ _ rfl rfl

end AsmListing
