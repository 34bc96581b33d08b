import AsmListing.Proofs.Borders

/-!
# The kinds of blocks

The kind of a block is decided by three marks that its lines set one after the
other.  They are cleared when a block is completed, and an attempt to complete a
block without lines clears nothing; lines that register files begin like all
others and then vanish.  None of this can be seen in the result: the kind of a
block is told by its own lines alone and, if they show nothing, by whether it is
the first block.

`LaidOut.exists_part_at` has already tied the marks of a block to the lines of
one part of the cut.  `Marks` says of a mark which lines set it, one line at a
time; `Marks.contentOf_iff` is the same for all lines of a block.
-/

namespace AsmListing

/-- Whether a line makes its block one of code: it holds an instruction, or it
names a source location. -/
def LineKind.ShowsCode (kind : LineKind) : Prop :=
  kind ∈ [.code, .codeCall, .codeBranch, .codeJump, .codeReturn] ∨
    ∃ location, kind = .located location

/-- Whether one of the lines of a block is of some kind. -/
def Analysis.HasLine (analysis : Analysis) (block : Block) (shown : LineKind → Prop) : Prop :=
  ∃ line ∈ analysis.linesOf block, shown line.kind

/-! ## Marks -/

/-- `Marks mark shown`: the mark is not set at first, and a line sets it exactly if
its kind is among those shown. -/
structure Marks (mark : Content → Bool) (shown : LineKind → Prop) : Prop where
  start : mark {} = false
  observe : ∀ content kind, mark (content.observe kind) = true ↔
    mark content = true ∨ shown kind

theorem marks_code : Marks Content.code LineKind.ShowsCode where
  start := rfl
  observe content kind := by
    cases kind <;> simp [Content.observe, LineKind.isCode, LineKind.ShowsCode]

theorem marks_data : Marks Content.data (· = .data) where
  start := rfl
  observe content kind := by
    cases kind <;> simp [Content.observe, LineKind.isCode]

theorem marks_directive : Marks Content.directive (· = .directive) where
  start := rfl
  observe content kind := by
    cases kind <;> simp [Content.observe, LineKind.isCode]

/-- A mark is set exactly if one of the lines sets it. -/
theorem Marks.contentOf_iff {mark : Content → Bool} {shown : LineKind → Prop}
    (hmarks : Marks mark shown) (lines : List StoredLine) :
    mark (contentOf lines) = true ↔ ∃ kind ∈ lines.map (·.kind), shown kind := by
  induction lines using List.reverseRecOn with
  | nil =>
      have hstart : mark (contentOf []) = false := hmarks.start
      simp [hstart]
  | append_singleton lines line ih =>
      rw [contentOf_concat, hmarks.observe, ih]
      simp [or_and_right, exists_or]

/-- The marks depend on which kinds of lines there are, and not on their order or
number. -/
theorem contentOf_eq_of_kinds {lines others : List StoredLine}
    (hkinds : ∀ kind, kind ∈ lines.map (·.kind) ↔ kind ∈ others.map (·.kind)) :
    contentOf lines = contentOf others := by
  have hmark : ∀ {mark : Content → Bool} {shown : LineKind → Prop}, Marks mark shown →
      mark (contentOf lines) = mark (contentOf others) := by
    intro mark shown hmarks
    rw [Bool.eq_iff_iff, hmarks.contentOf_iff, hmarks.contentOf_iff]
    simp only [hkinds]
  have hcode := hmark marks_code
  have hdata := hmark marks_data
  have hdirective := hmark marks_directive
  cases hlines : contentOf lines
  cases hothers : contentOf others
  simp_all

/-- Code decides before data, data before directives, and directives before what
the block is otherwise. -/
theorem Content.blockKind_iff (content : Content) {otherwise : BlockKind}
    (hotherwise : otherwise = .block ∨ otherwise = .none) :
    (content.blockKind otherwise = .code ↔ content.code = true) ∧
    (¬ content.code = true →
      (content.blockKind otherwise = .data ↔ content.data = true) ∧
      (¬ content.data = true →
        (content.blockKind otherwise = .directive ↔ content.directive = true) ∧
        (¬ content.directive = true → content.blockKind otherwise = otherwise))) := by
  unfold Content.blockKind
  split_ifs <;> rcases hotherwise with rfl | rfl <;> simp_all

/-! ## The kinds of the blocks of a listing -/

section

variable {analysis : Analysis} {record : Block} {lines : List StoredLine}
  (hkinds : (analysis.linesOf record).map (·.kind) = lines.map (·.kind))

include hkinds

theorem hasLine_iff (shown : LineKind → Prop) :
    analysis.HasLine record shown ↔ ∃ kind ∈ lines.map (·.kind), shown kind := by
  rw [← hkinds]
  simp [Analysis.HasLine]

theorem Marks.hasLine_iff {mark : Content → Bool} {shown : LineKind → Prop}
    (hmarks : Marks mark shown) :
    mark (contentOf lines) = true ↔ analysis.HasLine record shown := by
  rw [hmarks.contentOf_iff, AsmListing.hasLine_iff hkinds]

end

/-- A block shows its own lines.  It is one of code exactly if one of its lines holds
an instruction or names a source location; otherwise one of data or of directives
exactly if it has such a line; and otherwise a `block` if it is the first one and
`none` of the kinds if it is a later one.  So blocks of any two listings that have
lines of the same kinds are of the same kind, whatever stands around them, if both
or none of them are the first; and no line of a block registers a file. -/
theorem blocks_show_their_lines {files : Files} {dialect : Dialect} {options : Options}
    {text : Text} {analysis : Analysis}
    (hanalysis : analyze files dialect options text = .ok analysis) {index : Nat} {block : Block}
    (hblock : analysis.blocks[index]? = some block) :
    (block.kind = .code ↔ analysis.HasLine block LineKind.ShowsCode) ∧
    (¬ analysis.HasLine block LineKind.ShowsCode →
      (block.kind = .data ↔ analysis.HasLine block (· = .data)) ∧
      (¬ analysis.HasLine block (· = .data) →
        (block.kind = .directive ↔ analysis.HasLine block (· = .directive)) ∧
        (¬ analysis.HasLine block (· = .directive) →
          block.kind = if index = 0 then .block else .none))) ∧
    (¬ analysis.HasLine block (· = .sourceFile)) ∧
    ∀ otherFiles otherDialect otherOptions otherText other place record,
      analyze otherFiles otherDialect otherOptions otherText = .ok other →
      other.blocks[place]? = some record → (place = 0 ↔ index = 0) →
      (∀ kind, other.HasLine record (· = kind) ↔ analysis.HasLine block (· = kind)) →
        record.kind = block.kind := by
  obtain ⟨read, hread, hlaid⟩ := exists_laidOut hanalysis
  obtain ⟨lines, -, hkinds, hkind⟩ := hlaid.exists_part_at hblock
  have hotherwise : (if index = 0 then BlockKind.block else .none) = .block ∨
      (if index = 0 then BlockKind.block else .none) = .none := by
    split_ifs <;> simp
  have hcases := (contentOf lines).blockKind_iff hotherwise
  rw [marks_code.hasLine_iff hkinds, marks_data.hasLine_iff hkinds,
    marks_directive.hasLine_iff hkinds, ← hkind] at hcases
  refine ⟨hcases.1, hcases.2, ?_, ?_⟩
  · rintro ⟨line, hline, hfile⟩
    have hmem : line ∈ analysis.lines := List.mem_of_mem_drop (List.mem_of_mem_take hline)
    obtain ⟨place, hplace⟩ := List.mem_iff_getElem?.mp hmem
    obtain ⟨stored, hstored, hstoredKind⟩ := hlaid.kind_eq hplace
    have hread := storedKind_source hread stored (List.mem_of_getElem? hstored)
    exact hread.ne_directive.1 (hstoredKind.trans hfile)
  · intro otherFiles otherDialect otherOptions otherText other place record hother hrecord hfirst
      hsame
    obtain ⟨otherRead, -, hotherLaid⟩ := exists_laidOut hother
    obtain ⟨otherLines, -, hotherKinds, hotherKind⟩ := hotherLaid.exists_part_at hrecord
    have hcontent : contentOf otherLines = contentOf lines := by
      apply contentOf_eq_of_kinds
      intro kind
      simpa [hasLine_iff hotherKinds, hasLine_iff hkinds] using hsame kind
    rw [hotherKind, hkind, hcontent]
    simp only [hfirst]

set_option maxRecDepth 10000 in
/-- Lines that register files stand right before two of the labels.  The block of data
has a directive as well, and the last block has nothing but its label, although the
block before it is one of code. -/
theorem blocks_show_their_lines_sample :
    ∃ analysis, analyze .none .wasm {}
        "# c\n.file 1 \"a\"\nf:\n.long 1\n.globl f\ng:\n.loc 1 2\n.file 2 \"b\"\nh:\n".toList =
          .ok analysis ∧
      analysis.blocks = [⟨.block, 0, 1, []⟩, ⟨.data, 1, 3, []⟩, ⟨.code, 4, 2, []⟩,
        ⟨.none, 6, 1, []⟩] ∧
      ¬ analysis.HasLine ⟨.data, 1, 3, []⟩ LineKind.ShowsCode ∧
      analysis.HasLine ⟨.data, 1, 3, []⟩ (· = .data) ∧
      analysis.HasLine ⟨.code, 4, 2, []⟩ LineKind.ShowsCode ∧
      ¬ analysis.HasLine ⟨.none, 6, 1, []⟩ LineKind.ShowsCode := by
  have heval : (analyze .none .wasm {}
      "# c\n.file 1 \"a\"\nf:\n.long 1\n.globl f\ng:\n.loc 1 2\n.file 2 \"b\"\nh:\n".toList
        ).toOption.map (·.blocks) =
      some [⟨.block, 0, 1, []⟩, ⟨.data, 1, 3, []⟩, ⟨.code, 4, 2, []⟩, ⟨.none, 6, 1, []⟩] := by
    decide +kernel
  obtain ⟨analysis, hanalysis, hblocks⟩ := Option.map_eq_some_iff.mp heval
  rw [Fallible.toOption_eq_some] at hanalysis
  have hsecond : analysis.blocks[1]? = some ⟨.data, 1, 3, []⟩ := by rw [hblocks]; rfl
  have hthird : analysis.blocks[2]? = some ⟨.code, 4, 2, []⟩ := by rw [hblocks]; rfl
  have hlast : analysis.blocks[3]? = some ⟨.none, 6, 1, []⟩ := by rw [hblocks]; rfl
  obtain ⟨hdataCode, hdata, -⟩ := blocks_show_their_lines hanalysis hsecond
  obtain ⟨hcode, -⟩ := blocks_show_their_lines hanalysis hthird
  obtain ⟨hnone, -⟩ := blocks_show_their_lines hanalysis hlast
  have hnotCode := mt hdataCode.mpr (by simp)
  exact ⟨analysis, hanalysis, hblocks, hnotCode, (hdata hnotCode).1.mp rfl, hcode.mp rfl,
    mt hnone.mpr (by simp)⟩

end AsmListing
