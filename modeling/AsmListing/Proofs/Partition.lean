import AsmListing.Proofs.RoundTrip

/-!
# The records of a listing partition it

An analyzed listing refers to its parts by ranges of indices: a line is a range
of the stored tokens, and a block a range of the stored lines.  This file shows
that nothing is lost and nothing is counted twice.  The lines cover the tokens
and the blocks cover the lines, from the first to the last and without a gap
(`Covers`), and the lines are those of the listing itself (`keptLines`), cut
after each line break.

What the analysis changes is small.  A line that registers a file is used up, a
line that names a location says in its kind which one, and in a line with a
branch or a jump one name may become a label (`LabelsTarget`).  The proof goes
through the lines that were read:

* `map_source_readLines`: their tokens, as they were read, are the kept lines;
* `labelsTarget_tokens` and `storedKind_tokens`: their tokens, as they are
  stored, differ from them by a target at most, and still give the line its
  kind;
* `covers_lineRecords` and `covers_blockRecords`: records that count what comes
  before them cover what they count.
-/

namespace AsmListing

/-- Ranges, each with its first index and its length, that lead from `start` to
`stop`: each one starts where the one before it ends, and none is empty. -/
def Covers : Nat → List (Nat × Nat) → Nat → Prop
  | start, [], stop => start = stop
  | start, (index, length) :: rest, stop =>
    index = start ∧ 0 < length ∧ Covers (start + length) rest stop

/-- The tokens that a line refers to. -/
def Line.range (line : Line) : Nat × Nat :=
  (line.tokenIndex, line.length)

/-- The lines that a block refers to. -/
def Block.range (block : Block) : Nat × Nat :=
  (block.lineIndex, block.length)

/-- The lines of a listing that are stored: all that do not register a file, and
not the header if it is to be left out. -/
def keptLines (dialect : Dialect) (options : Options) (text : Text) : List (List Token) :=
  (tokenLines (bodyTokens options (tokenize dialect text))).filter (lineKind · ≠ .sourceFile)

/-- Tokens of which one identifier or string has become a label. -/
def LabelsOne (stored source : List Token) : Prop :=
  ∃ before token after, source = before ++ token :: after ∧
    (token.kind = .identifier ∨ token.kind = .string) ∧
    stored = before ++ { token with kind := .label } :: after

/-- The tokens of a line as they are stored, against those that were read: in a
line with a branch or a jump one name may have become a label, and nothing else
is changed. -/
def LabelsTarget (stored source : List Token) : Prop :=
  stored = source ∨
    (lineKind source = .codeBranch ∨ lineKind source = .codeJump) ∧ LabelsOne stored source

/-- The kind under which a line with the given tokens is stored. -/
def StoredKind (kind : LineKind) (tokens : List Token) : Prop :=
  match lineKind tokens with
  | .sourceFile => False
  | .sourceLocation => ∃ location, kind = .located location
  | read => kind = read

/-! ## Ranges that cover -/

theorem covers_lineRecords (tokenIndex : Nat) {lines : List StoredLine}
    (hne : ∀ line ∈ lines, line.tokens ≠ []) :
    Covers tokenIndex ((lineRecords tokenIndex lines).map Line.range)
      (tokenIndex + (lines.flatMap StoredLine.tokens).length) := by
  induction lines generalizing tokenIndex with
  | nil => rfl
  | cons line rest ih =>
      have hrest := ih (tokenIndex + line.tokens.length) fun other hother =>
        hne other (List.mem_cons_of_mem _ hother)
      rw [List.flatMap_cons, List.length_append, ← Nat.add_assoc]
      exact ⟨rfl, List.length_pos_of_ne_nil (hne line List.mem_cons_self), hrest⟩

theorem covers_blockRecords (otherwise : BlockKind) (lineIndex : Nat)
    {blocks : List (List StoredLine)} (hne : ∀ block ∈ blocks, block ≠ []) :
    Covers lineIndex ((blockRecords otherwise lineIndex blocks).map Block.range)
      (lineIndex + blocks.flatten.length) := by
  induction blocks generalizing otherwise lineIndex with
  | nil => rfl
  | cons block rest ih =>
      have hrest := ih .none (lineIndex + block.length) fun other hother =>
        hne other (List.mem_cons_of_mem _ hother)
      rw [List.flatten_cons, List.length_append, ← Nat.add_assoc]
      exact ⟨rfl, List.length_pos_of_ne_nil (hne block List.mem_cons_self), hrest⟩

theorem map_range_bare (blocks : List Block) :
    (blocks.map Block.bare).map Block.range = blocks.map Block.range := by
  rw [List.map_map]
  rfl

/-! ## The lines that are kept -/

/-- The lines that are read, as they stand in the listing, are those that do not
register a file. -/
theorem map_source_readLines {context : Context} {groups : List (List Token)}
    (hgroups : [] ∉ groups) :
    ∀ {sources : SourceTable} {read : SourceTable × List StoredLine},
      readLines context sources groups = .ok read →
        read.2.map StoredLine.source = groups.filter (lineKind · ≠ .sourceFile) := by
  induction groups with
  | nil =>
      intro sources read hread
      cases hread
      rfl
  | cons tokens rest ih =>
      intro sources read hread
      obtain ⟨⟨registered, stored⟩, hfirst, hread⟩ := Fallible.bind_eq_ok.mp hread
      obtain ⟨following, hrest, hread⟩ := Fallible.bind_eq_ok.mp hread
      cases hread
      have hfollowing := ih (fun hnil => hgroups (List.mem_cons_of_mem _ hnil)) hrest
      obtain ⟨hnil, -⟩ | ⟨hkind, hstored, -⟩ | ⟨-, hkind, -, location, -, hstored⟩ |
        ⟨-, hkind, -, -, hstored⟩ := readLine_cases hfirst
      · exact absurd (hnil ▸ List.mem_cons_self) hgroups
      · simp [hstored, hkind, hfollowing]
      · simp [hstored, hkind, hfollowing]
      · simp [hstored, hkind, hfollowing]

theorem map_source_eq_keptLines {files : Files} {dialect : Dialect} {options : Options}
    {text : Text} {read : SourceTable × List StoredLine}
    (hread : readLines ⟨files, dialect, options, text⟩ .empty
      (listingLines dialect options text) = .ok read) :
    read.2.map StoredLine.source = keptLines dialect options text := by
  have hne : [] ∉ listingLines dialect options text := by
    rw [listingLines]
    exact nil_notMem_cutLines _
  rw [map_source_readLines hne hread, listingLines_eq, keptLines]

/-! ## Line breaks -/

theorem exists_rel_of_mem_dropLast {α : Type} {rel : α → α → Prop} {items : List α}
    (hchain : items.IsChain rel) : ∀ item ∈ items.dropLast, ∃ next, rel item next := by
  intro item hitem
  obtain ⟨index, hindex, rfl⟩ := List.mem_iff_getElem.mp hitem
  rw [List.length_dropLast] at hindex
  rw [List.getElem_dropLast]
  exact ⟨_, List.isChain_iff_getElem.mp hchain index (by omega)⟩

theorem newLine_notMem_dropLast {tokens line : List Token} (hline : line ∈ tokenLines tokens) :
    ∀ token ∈ line.dropLast, token.kind ≠ .newLine := by
  intro token htoken
  obtain ⟨-, hinside⟩ :=
    exists_rel_of_mem_dropLast (List.isChain_of_mem_splitBy hline) token htoken
  simpa using hinside

theorem getLast?_of_mem_dropLast {tokens line : List Token}
    (hline : line ∈ (tokenLines tokens).dropLast) :
    ∃ last ∈ line.getLast?, last.kind = .newLine := by
  obtain ⟨_, hne, -, hlast⟩ :=
    exists_rel_of_mem_dropLast (List.isChain_getLast_head_splitBy _ tokens) line hline
  exact ⟨line.getLast hne, List.getLast?_eq_some_getLast hne, by simpa using hlast⟩

theorem dropLast_sublist_dropLast {α : Type} {part whole : List α}
    (hsublist : part.Sublist whole) : part.dropLast.Sublist whole.dropLast := by
  have htail := hsublist.reverse.tail
  rw [List.tail_reverse, List.tail_reverse] at htail
  exact List.reverse_sublist.mp htail

/-- A line that is not the last one of those that are kept is not the last one of
the listing either, so it ends in a line break. -/
theorem getLast?_of_mem_dropLast_keptLines {dialect : Dialect} {options : Options} {text : Text}
    {line : List Token} (hline : line ∈ (keptLines dialect options text).dropLast) :
    ∃ last ∈ line.getLast?, last.kind = .newLine := by
  have hsublist := dropLast_sublist_dropLast (List.filter_sublist
    (l := tokenLines (bodyTokens options (tokenize dialect text)))
    (p := (lineKind · ≠ .sourceFile)))
  exact getLast?_of_mem_dropLast (hsublist.mem hline)

/-! ## The tokens of a stored line -/

theorem eq_or_labelsOne_cons (first : Token) {stored source : List Token}
    (hstored : stored = source ∨ LabelsOne stored source) :
    first :: stored = first :: source ∨ LabelsOne (first :: stored) (first :: source) := by
  rcases hstored with rfl | ⟨before, token, after, rfl, hkind, rfl⟩
  · exact .inl rfl
  · exact .inr ⟨first :: before, token, after, rfl, hkind, rfl⟩

theorem markOperand_fst (tokens : List Token) :
    (markOperand tokens).1 = tokens ∨ LabelsOne (markOperand tokens).1 tokens := by
  induction tokens with
  | nil => exact .inl rfl
  | cons token rest ih =>
      rw [markOperand]
      split
      · exact eq_or_labelsOne_cons token ih
      · split
        · next hnames =>
            by_cases hlabel : token.kind = .label
            · -- what is a label already stays as it is
              left
              rw [← hlabel]
            · refine .inr ⟨[], token, rest, rfl, ?_, rfl⟩
              cases hkind : token.kind <;> simp_all [TokenKind.namesTarget]
        · exact .inl rfl

theorem markTarget_fst (tokens : List Token) :
    (markTarget tokens).1 = tokens ∨ LabelsOne (markTarget tokens).1 tokens := by
  induction tokens with
  | nil => exact .inl rfl
  | cons token rest ih =>
      rw [markTarget]
      refine eq_or_labelsOne_cons token ?_
      split
      · exact markOperand_fst rest
      · exact ih

theorem map_eq_of_relabels {α : Type} {view : Token → α}
    (hview : ∀ marked token, marked.Relabels token → view marked = view token)
    {marked tokens : List Token} (hmarked : List.Forall₂ Token.Relabels marked tokens) :
    marked.map view = tokens.map view := by
  rw [← List.forall₂_eq_eq_eq, List.forall₂_map_left_iff, List.forall₂_map_right_iff]
  exact hmarked.imp hview

theorem Token.Relabels.ofTokenKind?_eq {marked token : Token} (hrelabels : marked.Relabels token) :
    LineKind.ofTokenKind? marked.kind = LineKind.ofTokenKind? token.kind := by
  rcases hrelabels with rfl | ⟨hnames, rfl⟩
  · rfl
  · cases htoken : token.kind <;> simp_all [TokenKind.namesTarget, LineKind.ofTokenKind?]

/-- The target of a branch decides nothing about its line: it does not stand at
the start, and elsewhere neither a name nor a label counts. -/
theorem lineKind_markTarget (tokens : List Token) :
    lineKind (markTarget tokens).1 = lineKind tokens := by
  have hmarked := forall₂_relabels_markTarget tokens
  cases tokens with
  | nil => rfl
  | cons first rest =>
      have hkinds := congrArg (List.findSome? id)
        (map_eq_of_relabels (fun _ _ hrelabels => hrelabels.ofTokenKind?_eq) hmarked)
      have hfound : ((markTarget (first :: rest)).1.map (·.kind)).findSome? LineKind.ofTokenKind? =
          ((first :: rest).map (·.kind)).findSome? LineKind.ofTokenKind? := by
        simpa only [List.findSome?_map, Function.comp_def, id_eq] using hkinds
      rw [markTarget] at hfound ⊢
      unfold lineKind LineKind.ofKinds
      rw [hfound]
      simp only [List.map_cons]
      cases first.kind <;> rfl

/-! ## The kind of a stored line -/

namespace StoredKind

variable {kind : LineKind} {tokens : List Token}

theorem lineKind_eq (hkind : StoredKind kind tokens)
    (hlocated : ∀ location, kind ≠ .located location) : lineKind tokens = kind := by
  unfold StoredKind at hkind
  split at hkind
  · exact hkind.elim
  · obtain ⟨location, hlocation⟩ := hkind
    exact absurd hlocation (hlocated location)
  · exact hkind.symm

theorem ne_directive (hkind : StoredKind kind tokens) :
    kind ≠ .sourceFile ∧ kind ≠ .sourceLocation := by
  unfold StoredKind at hkind
  split at hkind
  · exact hkind.elim
  · obtain ⟨location, rfl⟩ := hkind
    simp
  · next hfile hlocation =>
      rw [hkind]
      exact ⟨hfile, hlocation⟩

end StoredKind

theorem storedKind_source {context : Context} {groups : List (List Token)} {sources : SourceTable}
    {read : SourceTable × List StoredLine} (hread : readLines context sources groups = .ok read) :
    ∀ line ∈ read.2, StoredKind line.kind line.source := by
  intro line hline
  obtain ⟨before, after, tokens, -, hfound⟩ := exists_readLine_of_mem hread line hline
  obtain ⟨-, -, hnone⟩ | ⟨-, hnone, -⟩ | ⟨-, hkind, -, location, -, hstored⟩ |
    ⟨-, hfile, hlocation, -, hstored⟩ := readLine_cases hfound
  · cases hnone
  · cases hnone
  · cases hstored
    simp [StoredKind, hkind]
  · cases hstored
    unfold StoredKind
    split
    · next hkind => exact hfile hkind
    · next hkind => exact absurd hkind hlocation
    · rfl

namespace StoredLine

theorem labelsTarget_tokens {line : StoredLine} (hkind : StoredKind line.kind line.source) :
    LabelsTarget line.tokens line.source := by
  have hmarked := markTarget_fst line.source
  unfold tokens LabelsTarget
  split
  · next hbranch =>
      have hsource := hkind.lineKind_eq (by simp [hbranch])
      exact hmarked.imp_right fun hone => ⟨.inl (hsource.trans hbranch), hone⟩
  · next hjump =>
      have hsource := hkind.lineKind_eq (by simp [hjump])
      exact hmarked.imp_right fun hone => ⟨.inr (hsource.trans hjump), hone⟩
  · exact .inl rfl

theorem storedKind_tokens {line : StoredLine} (hkind : StoredKind line.kind line.source) :
    StoredKind line.kind line.tokens := by
  have hsame : lineKind line.tokens = lineKind line.source := by
    unfold tokens
    split
    · exact lineKind_markTarget line.source
    · exact lineKind_markTarget line.source
    · rfl
  rw [StoredKind, hsame]
  exact hkind

theorem tokens_ne_nil {line : StoredLine} (hne : line.source ≠ []) : line.tokens ≠ [] := by
  intro hnil
  have hlength := line.forall₂_relabels_tokens.length_eq
  rw [hnil] at hlength
  exact hne (List.length_eq_zero_iff.mp hlength.symm)

theorem map_newLine_tokens (line : StoredLine) :
    line.tokens.map (·.kind == .newLine) = line.source.map (·.kind == .newLine) := by
  refine map_eq_of_relabels (fun marked token hrelabels => ?_) line.forall₂_relabels_tokens
  rw [Bool.eq_iff_iff, beq_iff_eq, beq_iff_eq, hrelabels.newLine_iff]

theorem newLine_notMem_dropLast_tokens {line : StoredLine}
    (hsource : ∀ token ∈ line.source.dropLast, token.kind ≠ .newLine) :
    ∀ token ∈ line.tokens.dropLast, token.kind ≠ .newLine := by
  intro token htoken hbreak
  have hmem : true ∈ line.tokens.dropLast.map (·.kind == .newLine) :=
    List.mem_map.mpr ⟨token, htoken, beq_iff_eq.mpr hbreak⟩
  rw [List.map_dropLast, map_newLine_tokens, ← List.map_dropLast] at hmem
  obtain ⟨read, hread, hkind⟩ := List.mem_map.mp hmem
  exact hsource read hread (beq_iff_eq.mp hkind)

theorem getLast?_tokens {line : StoredLine}
    (hsource : ∃ last ∈ line.source.getLast?, last.kind = .newLine) :
    ∃ last ∈ line.tokens.getLast?, last.kind = .newLine := by
  obtain ⟨read, hread, hkind⟩ := hsource
  have hlast : (line.tokens.map (·.kind == .newLine)).getLast? = some true := by
    rw [map_newLine_tokens, List.getLast?_map, Option.mem_def.mp hread]
    simp [hkind]
  rw [List.getLast?_map] at hlast
  obtain ⟨last, hmem, hbreak⟩ := Option.map_eq_some_iff.mp hlast
  exact ⟨last, hmem, beq_iff_eq.mp hbreak⟩

end StoredLine

/-! ## The partition of a listing -/

namespace LaidOut

variable {context : Context} {read : SourceTable × List StoredLine} {analysis : Analysis}

theorem map_tokens? (hlaid : LaidOut context read analysis) :
    analysis.lines.map (·.tokens? analysis.tokens) =
      (read.2.map StoredLine.tokens).map some := by
  refine List.ext_getElem? fun index => ?_
  rw [hlaid.lines_eq, hlaid.tokens_eq, List.getElem?_map, List.getElem?_map, List.getElem?_map]
  cases hline : read.2[index]? with
  | none =>
      have hnone : (lineRecords 0 read.2)[index]? = none := by
        rw [List.getElem?_eq_none_iff] at hline ⊢
        rwa [length_lineRecords]
      rw [hnone]
      rfl
  | some line =>
      obtain ⟨before, after, hlines, rfl⟩ := exists_append_of_getElem? hline
      rw [hlines, getElem?_lineRecords, Option.map_some, tokens?_lineRecord]
      rfl

theorem covers_lines (hlaid : LaidOut context read analysis)
    (hne : ∀ line ∈ read.2, line.source ≠ []) :
    Covers 0 (analysis.lines.map Line.range) analysis.tokens.length := by
  have hcovers := covers_lineRecords 0 fun line hline => StoredLine.tokens_ne_nil (hne line hline)
  rwa [hlaid.lines_eq, hlaid.tokens_eq, ← Nat.zero_add (List.length _)]

theorem covers_blocks (hlaid : LaidOut context read analysis) :
    Covers 0 (analysis.blocks.map Block.range) analysis.lines.length := by
  have hcovers := covers_blockRecords .block 0 fun block hblock =>
    List.ne_nil_of_mem_splitBy (r := joins) (l := read.2) hblock
  rwa [← hlaid.blocks_eq, map_range_bare, List.flatten_splitBy, Nat.zero_add,
    ← length_lineRecords 0, ← hlaid.lines_eq] at hcovers

end LaidOut

theorem map_kind_lineRecords (tokenIndex : Nat) (lines : List StoredLine) :
    (lineRecords tokenIndex lines).map (·.kind) = lines.map (·.kind) := by
  induction lines generalizing tokenIndex with
  | nil => rfl
  | cons line rest ih => rw [lineRecords, List.map_cons, ih, List.map_cons]

/-- The records of an analyzed listing partition it.  The stored tokens are those
of the kept lines, with at most one target of each branch or jump made a label.
The lines cover the tokens and the blocks cover the lines.  Line breaks stand at
the ends of lines and, but for the last line, at all of them.  The kind of a line
is that of its tokens, and no line is stored as an unread directive. -/
theorem records_partition_listing {files : Files} {dialect : Dialect} {options : Options}
    {text : Text} {analysis : Analysis}
    (hanalysis : analyze files dialect options text = .ok analysis) :
    ∃ stored : List (List Token),
      analysis.tokens = stored.flatten ∧
      List.Forall₂ LabelsTarget stored (keptLines dialect options text) ∧
      analysis.lines.map (·.tokens? analysis.tokens) = stored.map some ∧
      Covers 0 (analysis.lines.map Line.range) analysis.tokens.length ∧
      (∀ tokens ∈ stored, ∀ token ∈ tokens.dropLast, token.kind ≠ .newLine) ∧
      (∀ tokens ∈ stored.dropLast, ∃ last ∈ tokens.getLast?, last.kind = .newLine) ∧
      Covers 0 (analysis.blocks.map Block.range) analysis.lines.length ∧
      List.Forall₂ StoredKind (analysis.lines.map (·.kind)) stored ∧
      ∀ line ∈ analysis.lines, line.kind ≠ .sourceFile ∧ line.kind ≠ .sourceLocation := by
  obtain ⟨read, hread, hlaid⟩ := exists_laidOut hanalysis
  have hkept := map_source_eq_keptLines hread
  have hkinds := storedKind_source hread
  refine ⟨read.2.map StoredLine.tokens, ?_, ?_, hlaid.map_tokens?, ?_, ?_, ?_,
    hlaid.covers_blocks, ?_, ?_⟩
  · rw [hlaid.tokens_eq, List.flatMap_def]
  · rw [← hkept, List.forall₂_map_left_iff, List.forall₂_map_right_iff, List.forall₂_same]
    exact fun line hline => StoredLine.labelsTarget_tokens (hkinds line hline)
  · exact hlaid.covers_lines fun line hline => (source_of_readLines hread line hline).1
  · intro tokens htokens
    obtain ⟨line, hline, rfl⟩ := List.mem_map.mp htokens
    have hmem : line.source ∈ keptLines dialect options text := by
      rw [← hkept]
      exact List.mem_map_of_mem hline
    exact StoredLine.newLine_notMem_dropLast_tokens
      (newLine_notMem_dropLast (List.mem_of_mem_filter hmem))
  · intro tokens htokens
    rw [← List.map_dropLast] at htokens
    obtain ⟨line, hline, rfl⟩ := List.mem_map.mp htokens
    have hmem : line.source ∈ (keptLines dialect options text).dropLast := by
      rw [← hkept, ← List.map_dropLast]
      exact List.mem_map_of_mem hline
    exact StoredLine.getLast?_tokens (getLast?_of_mem_dropLast_keptLines hmem)
  · rw [hlaid.lines_eq, map_kind_lineRecords, List.forall₂_map_left_iff,
      List.forall₂_map_right_iff, List.forall₂_same]
    exact fun line hline => StoredLine.storedKind_tokens (hkinds line hline)
  · intro line hline
    have hmem : line.kind ∈ analysis.lines.map (·.kind) := List.mem_map_of_mem hline
    rw [hlaid.lines_eq, map_kind_lineRecords] at hmem
    obtain ⟨kept, hmem, hkind⟩ := List.mem_map.mp hmem
    rw [← hkind]
    exact (hkinds kept hmem).ne_directive

set_option maxRecDepth 10000 in
/-- The header and both lines that register files are gone, the second of them at
the end and without a line break.  The target of the branch has become a
label. -/
theorem records_partition_listing_sample :
    ∃ analysis, analyze .none .wasm { skipHeaderLine := true }
        "h\n br_if f\r\n.file 1 \"a\"\n.loc 1 2\nf: nop\n.file 2 \"b\"".toList = .ok analysis ∧
      analysis.lines = [⟨.codeBranch, 0, 5⟩, ⟨.located ⟨1, 2, 0⟩, 5, 6⟩,
        ⟨.labelDeclaration, 11, 4⟩] ∧
      analysis.tokens[3]? = some ⟨.label, 9, 9, 1⟩ ∧
      Covers 0 (analysis.lines.map Line.range) analysis.tokens.length ∧
      Covers 0 (analysis.blocks.map Block.range) analysis.lines.length := by
  have heval : (analyze .none .wasm { skipHeaderLine := true }
      "h\n br_if f\r\n.file 1 \"a\"\n.loc 1 2\nf: nop\n.file 2 \"b\"".toList).toOption.map
        (fun analysis => (analysis.lines, analysis.tokens[3]?)) =
      some ([⟨.codeBranch, 0, 5⟩, ⟨.located ⟨1, 2, 0⟩, 5, 6⟩, ⟨.labelDeclaration, 11, 4⟩],
        some ⟨.label, 9, 9, 1⟩) := by
    decide +kernel
  obtain ⟨analysis, hanalysis, heval⟩ := Option.map_eq_some_iff.mp heval
  rw [Fallible.toOption_eq_some] at hanalysis
  obtain ⟨hlines, htoken⟩ := Prod.mk.inj heval
  obtain ⟨-, -, -, -, htokens, -, -, hblocks, -⟩ := records_partition_listing hanalysis
  exact ⟨analysis, hanalysis, hlines, htoken, htokens, hblocks⟩

end AsmListing
