import AsmListing.Analysis
import AsmListing.Proofs.Links
import AsmListing.Proofs.Outline.Records

/-!
# The analysis of an outline

`analyze_eq` takes the analysis of a listing apart: reading its lines, writing
out their records, and resolving the labels.  Only the first of these looks at
the text of directives, and only the last one touches edges.

`LaidOut` says what the records of a successful analysis are, edges aside
(`exists_laidOut`).  The theorems on blocks, spans and renderings start from it.
-/

namespace AsmListing

/-- Resolves the labels of what has been assembled of a listing. -/
def Assembly.complete (context : Context) (assembly : Assembly) :
    Except ListingError Analysis := do
  let resolution := assembly.labels.resolve context.text assembly.lines assembly.blocks
  let _ ← resolution.outcome
  .ok
    { dialect := context.dialect
      tokens := assembly.tokens
      lines := assembly.lines
      blocks := resolution.blocks
      spans := assembly.spans
      sources := assembly.sources
      captions := assembly.captions
      registers := assembly.registers }

/-- The analysis assembles the lines and completes what it has then. -/
theorem analyze_eq_addLines (files : Files) (dialect : Dialect) (options : Options) (text : Text) :
    analyze files dialect options text =
      Assembly.start.addLines ⟨files, dialect, options, text⟩
          (listingLines dialect options text) >>= fun assembled =>
        assembled.closeBlock.complete ⟨files, dialect, options, text⟩ := rfl

/-- A listing is analyzed by reading its lines, writing out their records and
resolving the labels. -/
theorem analyze_eq (files : Files) (dialect : Dialect) (options : Options) (text : Text) :
    analyze files dialect options text =
      readLines ⟨files, dialect, options, text⟩ .empty (listingLines dialect options text) >>=
        fun read => ((Outline.ofLines read).assembly ⟨files, dialect, options, text⟩).complete
          ⟨files, dialect, options, text⟩ := by
  have hrun := Outline.assembly_run ⟨files, dialect, options, text⟩
    (listingLines dialect options text)
  calc analyze files dialect options text
      = Assembly.start.addLines ⟨files, dialect, options, text⟩
          (listingLines dialect options text) >>= fun assembled =>
            assembled.closeBlock.complete ⟨files, dialect, options, text⟩ :=
        analyze_eq_addLines files dialect options text
    -- the analysis does not ask whether the last line was a branch
    _ = (Assembly.start.addLines ⟨files, dialect, options, text⟩
          (listingLines dialect options text)).map (fun assembled =>
            { assembled.closeBlock with afterBranch := false }) >>= fun closed =>
              closed.complete ⟨files, dialect, options, text⟩ := by
        rw [Fallible.map_bind]
        rfl
    _ = _ := by rw [hrun, Fallible.map_bind]

/-! ## Which options matter -/

namespace Assembly

variable {first second : Options} (files : Files) (dialect : Dialect) (text : Text)

theorem addLine_congr (hload : first.loadSourceFiles = second.loadSourceFiles)
    (assembly : Assembly) (tokens : List Token) :
    addLine ⟨files, dialect, first, text⟩ assembly tokens =
      addLine ⟨files, dialect, second, text⟩ assembly tokens := by
  cases tokens with
  | nil => rfl
  | cons token rest =>
      simp only [addLine, finishLine, hload]
      rfl

/-- Assembling lines reads one option: whether source files are read. -/
theorem addLines_congr (hload : first.loadSourceFiles = second.loadSourceFiles)
    (assembly : Assembly) (groups : List (List Token)) :
    addLines ⟨files, dialect, first, text⟩ assembly groups =
      addLines ⟨files, dialect, second, text⟩ assembly groups := by
  have hstep : addLine ⟨files, dialect, first, text⟩ = addLine ⟨files, dialect, second, text⟩ :=
    funext fun assembly => funext fun tokens =>
      addLine_congr files dialect text hload assembly tokens
  rw [addLines, addLines, hstep]

end Assembly

/-- The analysis reads one more option: whether the first line is left out. -/
theorem analyze_congr (files : Files) (dialect : Dialect) {first second : Options}
    (hheader : first.skipHeaderLine = second.skipHeaderLine)
    (hload : first.loadSourceFiles = second.loadSourceFiles) (text : Text) :
    analyze files dialect first text = analyze files dialect second text := by
  have hlines : listingLines dialect first text = listingLines dialect second text := by
    rw [listingLines, listingLines, hheader]
  rw [analyze_eq_addLines, analyze_eq_addLines, hlines,
    Assembly.addLines_congr files dialect text hload]
  rfl

/-! ## Resolving labels changes only edges -/

/-- A block without its edges. -/
def Block.bare (block : Block) : Block :=
  { block with edges := [] }

theorem map_bare_addLinks (blocks : List Block) (links : List Link) :
    ((addLinks blocks links).map Block.sortEdges).map Block.bare = blocks.map Block.bare := by
  refine List.ext_getElem? fun index => ?_
  simp only [addLinks, List.getElem?_map, List.getElem?_mapIdx]
  cases blocks[index]? <;> rfl

theorem map_bare_blockRecords (otherwise : BlockKind) (lineIndex : Nat)
    (blocks : List (List StoredLine)) :
    (blockRecords otherwise lineIndex blocks).map Block.bare =
      blockRecords otherwise lineIndex blocks := by
  induction blocks generalizing otherwise lineIndex with
  | nil => rfl
  | cons block rest ih =>
      rw [blockRecords, List.map_cons, ih]
      rfl

theorem length_of_map_bare {records : List Block} {blocks : List (List StoredLine)}
    (hrecords : records.map Block.bare = blockRecords .block 0 blocks) :
    records.length = blocks.length := by
  rw [← length_blockRecords .block 0, ← hrecords, List.length_map]

theorem edges_of_mem_blockRecords (otherwise : BlockKind) (lineIndex : Nat)
    (blocks : List (List StoredLine)) :
    ∀ record ∈ blockRecords otherwise lineIndex blocks, record.edges = [] := by
  intro record hrecord
  rw [← map_bare_blockRecords] at hrecord
  obtain ⟨_, -, rfl⟩ := List.mem_map.mp hrecord
  rfl

/-! ## The records of an analysis -/

/-- The records of an analysis, edges aside, are those of the lines that were
read. -/
structure LaidOut (context : Context) (read : SourceTable × List StoredLine)
    (analysis : Analysis) : Prop where
  dialect_eq : analysis.dialect = context.dialect
  tokens_eq : analysis.tokens = read.2.flatMap StoredLine.tokens
  lines_eq : analysis.lines = lineRecords 0 read.2
  blocks_eq : analysis.blocks.map Block.bare = blockRecords .block 0 (read.2.splitBy joins)
  spans_eq : analysis.spans = spanRecords context.dialect 0 (read.2.splitBy joins)
  sources_eq : analysis.sources = read.1
  captions_eq : analysis.captions = captionRecords read.2
  registers_eq : analysis.registers = registerRecords context.text read.2

@[simp] theorem lines_ofLines (read : SourceTable × List StoredLine) :
    (Outline.ofLines read).lines = read.2 := by
  simp [Outline.lines, Outline.ofLines]

@[simp] theorem labels_ofLines (context : Context) (read : SourceTable × List StoredLine) :
    ((Outline.ofLines read).assembly context).labels =
      labelRecords context.text (placeLines (read.2.splitBy joins)) := by
  simp [Outline.assembly, Outline.ofLines, placeLines_concat_nil]

theorem laidOut_of_complete {context : Context} {read : SourceTable × List StoredLine}
    {analysis : Analysis}
    (hcomplete : ((Outline.ofLines read).assembly context).complete context = .ok analysis) :
    LaidOut context read analysis := by
  obtain ⟨count, hok, hanalysis⟩ := Fallible.bind_eq_ok.mp hcomplete
  cases hanalysis
  refine ⟨rfl, ?_, ?_, ?_, rfl, rfl, ?_, ?_⟩
  · simp [Outline.assembly]
  · simp [Outline.assembly]
  · obtain ⟨hlinked, -⟩ := LabelTable.blocks_resolveUses _ _ _ hok
    rw [LabelTable.resolve, hlinked, map_bare_addLinks]
    exact map_bare_blockRecords _ _ _
  · simp [Outline.assembly]
  · simp [Outline.assembly]

/-- The blocks of an analysis are those that its labels, once they are resolved,
leave behind. -/
theorem blocks_of_complete {context : Context} {read : SourceTable × List StoredLine}
    {analysis : Analysis}
    (hcomplete : ((Outline.ofLines read).assembly context).complete context = .ok analysis) :
    ∃ resolution, resolution = (labelRecords context.text
        (placeLines (read.2.splitBy joins))).resolve context.text (lineRecords 0 read.2)
          (blockRecords .block 0 (read.2.splitBy joins)) ∧
      (∃ count, resolution.outcome = .ok count) ∧ analysis.blocks = resolution.blocks := by
  obtain ⟨count, hok, hanalysis⟩ := Fallible.bind_eq_ok.mp hcomplete
  have hlines : ((Outline.ofLines read).assembly context).lines = lineRecords 0 read.2 := by
    simp [Outline.assembly]
  rw [labels_ofLines, hlines] at hok
  refine ⟨_, rfl, ⟨count, hok⟩, ?_⟩
  rw [← Except.ok.inj hanalysis]
  simp only [labels_ofLines, hlines]
  rfl

/-- A successful analysis has read the lines of its listing and laid them out. -/
theorem exists_laidOut {files : Files} {dialect : Dialect} {options : Options} {text : Text}
    {analysis : Analysis} (hanalysis : analyze files dialect options text = .ok analysis) :
    ∃ read, readLines ⟨files, dialect, options, text⟩ .empty (listingLines dialect options text) =
        .ok read ∧ LaidOut ⟨files, dialect, options, text⟩ read analysis := by
  rw [analyze_eq] at hanalysis
  obtain ⟨read, hread, hcomplete⟩ := Fallible.bind_eq_ok.mp hanalysis
  exact ⟨read, hread, laidOut_of_complete hcomplete⟩

/-! ## The lines that are read -/

/-- Every stored line was stored when one of the lines of the listing was read. -/
theorem exists_readLine_of_mem {context : Context} {groups : List (List Token)} :
    ∀ {sources : SourceTable} {read : SourceTable × List StoredLine},
      readLines context sources groups = .ok read → ∀ line ∈ read.2,
        ∃ before after tokens, tokens ∈ groups ∧
          readLine context before tokens = .ok (after, some line) := by
  induction groups with
  | nil =>
      intro sources read hread line hline
      cases hread
      simp at hline
  | cons tokens rest ih =>
      intro sources read hread line hline
      obtain ⟨⟨registered, stored⟩, hfirst, hread⟩ := Fallible.bind_eq_ok.mp hread
      obtain ⟨following, hrest, hread⟩ := Fallible.bind_eq_ok.mp hread
      cases hread
      rcases List.mem_append.mp hline with hline | hline
      · obtain rfl : stored = some line := by simpa using hline
        exact ⟨sources, registered, tokens, List.mem_cons_self, hfirst⟩
      · obtain ⟨before, after, found, hmem, hfound⟩ := ih hrest line hline
        exact ⟨before, after, found, List.mem_cons_of_mem _ hmem, hfound⟩

theorem flatten_cutLines (tokens : List Token) : (cutLines tokens).flatten = tokens := by
  fun_induction cutLines tokens <;> simp_all

theorem mem_tokenize_of_mem_listingLines {dialect : Dialect} {options : Options} {text : Text}
    {group : List Token} (hgroup : group ∈ listingLines dialect options text) :
    ∀ token ∈ group, token ∈ tokenize dialect text := by
  intro token htoken
  have hmem : token ∈ (listingLines dialect options text).flatten :=
    List.mem_flatten.mpr ⟨group, hgroup, htoken⟩
  rw [listingLines, flatten_cutLines] at hmem
  split at hmem
  · exact (List.dropWhile_sublist _).mem (List.mem_of_mem_drop hmem)
  · exact hmem

theorem source_of_readLines {files : Files} {dialect : Dialect} {options : Options} {text : Text}
    {sources : SourceTable} {read : SourceTable × List StoredLine}
    (hread : readLines ⟨files, dialect, options, text⟩ sources
      (listingLines dialect options text) = .ok read) :
    ∀ line ∈ read.2, line.source ≠ [] ∧ ∀ token ∈ line.source, token ∈ tokenize dialect text := by
  intro line hline
  obtain ⟨before, after, tokens, hmem, hfound⟩ := exists_readLine_of_mem hread line hline
  obtain ⟨rfl, hne, -⟩ := readLine_eq_some hfound
  exact ⟨hne, mem_tokenize_of_mem_listingLines hmem⟩

end AsmListing
