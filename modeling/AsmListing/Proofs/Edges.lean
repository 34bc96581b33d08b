import AsmListing.Proofs.PlainText
import AsmListing.Proofs.Scopes

/-!
# The edges of an analyzed listing

The outbound edges of an analyzed listing are those that its stored lines call
for.  `referenceEdges` says which ones these are: it reads the branches and jumps
off the lines, finds their targets by `resolve?`, and knows neither tables nor
the order in which edges are added.

The stored lines with their places are `Analysis.placedLines`.  The targets of
branches have become labels there, so their tokens are taken as the tokenizer
gave them.  The proof follows three steps:

* these lines are the ones whose labels were noted (`placedLines_eq`);
* declarations among them start their blocks (`labeled_placeLines`), so the
  tables know them (`LabelTable.Knows`);
* each use makes the links of its line (`linksOf_labelRecords`).
-/

namespace AsmListing

/-- The links of a line, by the lines before it. -/
def lineLinks (text : Text) (blockCount : Nat) (lines earlier : List PlacedLine)
    (line : PlacedLine) : List Link :=
  match line.operand? with
  | none => []
  | some target =>
    match resolve? text lines (scopeOf text earlier line) (target.text text) with
    | none => []
    | some place => branchLinks line.kind blockCount line.place place

/-- The links that lines call for. -/
def referenceLinks (text : Text) (blockCount : Nat) (lines : List PlacedLine) : List Link :=
  (withEarlier [] lines).flatMap fun (earlier, line) => lineLinks text blockCount lines earlier line

/-- The outbound edges that lines call for. -/
def referenceEdges (text : Text) (blockCount : Nat) (lines : List PlacedLine) : List Edge :=
  (referenceLinks text blockCount lines).map Link.outward

/-- A token as it was read, whatever its kind has become. -/
def Token.asRead (tokens : List Token) (token : Token) : Token :=
  (tokens.find? (·.position == token.position)).getD token

/-- The stored lines of a listing with their places and with their tokens as they
were read. -/
def Analysis.placedLines (analysis : Analysis) (text : Text) : List PlacedLine :=
  (analysis.blocks.mapIdx fun index block =>
    ((analysis.lines.drop block.lineIndex).take block.length).mapIdx fun offset line =>
      ⟨⟨index, offset⟩, line.kind, ((line.tokens? analysis.tokens).getD []).map
        (Token.asRead (tokenize analysis.dialect text))⟩).flatten

/-! ## Tokens as they were read -/

theorem Tiles.le_position {text : Text} {position : Nat} {tokens : List Token}
    (htiles : Tiles text position tokens) : ∀ token ∈ tokens, position ≤ token.position := by
  induction htiles with
  | done => simp
  | step hne hposition hlength hrest ih =>
      intro token hmem
      rcases List.mem_cons.mp hmem with rfl | hmem
      · exact hposition.ge
      · exact (Nat.le_add_right _ _).trans (ih token hmem)

theorem Tiles.find?_position {text : Text} {position : Nat} {tokens : List Token}
    (htiles : Tiles text position tokens) :
    ∀ token ∈ tokens, tokens.find? (·.position == token.position) = some token := by
  induction htiles with
  | done => simp
  | @step spelling following position first tokens hne hposition hlength hrest ih =>
      intro token hmem
      rcases List.mem_cons.mp hmem with rfl | hmem
      · simp
      · have hle := hrest.le_position token hmem
        have hpos : 0 < first.length := by
          rw [hlength]
          exact Text.byteSize_pos hne
        rw [List.find?_cons_of_neg (by simp; omega)]
        exact ih token hmem

theorem map_asRead {dialect : Dialect} {text : Text} {marked tokens : List Token}
    (hmarked : List.Forall₂ Token.Relabels marked tokens)
    (hmem : ∀ token ∈ tokens, token ∈ tokenize dialect text) :
    marked.map (Token.asRead (tokenize dialect text)) = tokens := by
  induction hmarked with
  | nil => rfl
  | @cons first token rest following hfirst hrest ih =>
      have hfound := (tiles_tokenize dialect text).find?_position token
        (hmem token List.mem_cons_self)
      have hread : first.asRead (tokenize dialect text) = token := by
        rw [Token.asRead, hfirst.position_eq, hfound]
        rfl
      rw [List.map_cons, hread, ih fun other hother => hmem other (List.mem_cons_of_mem _ hother)]

/-! ## The stored lines -/

theorem mapIdx_lineRecords {dialect : Dialect} {text : Text} {before block after : List StoredLine}
    (hmem : ∀ line ∈ block, ∀ token ∈ line.source, token ∈ tokenize dialect text) (index : Nat) :
    (((lineRecords 0 (before ++ block ++ after)).drop before.length).take block.length).mapIdx
        (fun offset line => (⟨⟨index, offset⟩, line.kind,
          ((line.tokens? ((before ++ block ++ after).flatMap StoredLine.tokens)).getD []).map
            (Token.asRead (tokenize dialect text))⟩ : PlacedLine)) =
      block.mapIdx fun offset line => ⟨⟨index, offset⟩, line.kind, line.source⟩ := by
  refine List.ext_getElem? fun offset => ?_
  rw [List.getElem?_mapIdx, List.getElem?_mapIdx, List.getElem?_take]
  split
  · next hoffset =>
      have hline := List.getElem?_eq_getElem hoffset
      obtain ⟨first, rest, hblock, hfirst⟩ := exists_append_of_getElem? hline
      generalize block[offset] = line at hline hblock
      -- the line among all lines
      have hlines : before ++ block ++ after = (before ++ first) ++ line :: (rest ++ after) := by
        simp [hblock]
      have hindex : before.length + offset = (before ++ first).length := by
        simp [hfirst]
      rw [List.getElem?_drop, hline, hindex, hlines, getElem?_lineRecords, Option.map_some,
        tokens?_lineRecord, Option.getD_some,
        map_asRead line.forall₂_relabels_tokens (hmem line (List.mem_of_getElem? hline))]
      rfl
  · next hoffset => rw [List.getElem?_eq_none (Nat.le_of_not_lt hoffset)]; rfl

/-- The stored lines are the lines that were read, placed in their blocks. -/
theorem placedLines_eq {context : Context} {read : SourceTable × List StoredLine}
    {analysis : Analysis} (hlaid : LaidOut context read analysis)
    (hmem : ∀ line ∈ read.2, ∀ token ∈ line.source, token ∈ tokenize context.dialect context.text) :
    analysis.placedLines context.text = placeLines (read.2.splitBy joins) := by
  unfold Analysis.placedLines placeLines
  refine congrArg List.flatten (List.ext_getElem? fun index => ?_)
  rw [List.getElem?_mapIdx, List.getElem?_mapIdx]
  cases hblock : (read.2.splitBy joins)[index]? with
  | none =>
      rw [List.getElem?_eq_none_iff, ← length_of_map_bare hlaid.blocks_eq,
        ← List.getElem?_eq_none_iff] at hblock
      rw [hblock]
      rfl
  | some block =>
      obtain ⟨record, before, after, hrecord, hlines, hindex, hcount⟩ :=
        exists_blockRecord hlaid.blocks_eq hblock
      have hown : ∀ line ∈ block, ∀ token ∈ line.source,
          token ∈ tokenize context.dialect context.text :=
        fun line hline => hmem line (by simp [hlines, hline])
      rw [hrecord, Option.map_some, Option.map_some, hlaid.lines_eq, hlaid.tokens_eq,
        hlaid.dialect_eq, hindex, hcount, hlines, mapIdx_lineRecords hown]

/-! ## Placed lines -/

theorem exists_of_mem_placeLines {blocks : List (List StoredLine)} {line : PlacedLine}
    (hline : line ∈ placeLines blocks) :
    ∃ block stored, blocks[line.place.block]? = some block ∧
      block[line.place.line]? = some stored ∧ line.kind = stored.kind ∧
      line.tokens = stored.source := by
  obtain ⟨placed, hplaced, hline⟩ := List.mem_flatten.mp hline
  obtain ⟨index, hindex, rfl⟩ := List.mem_mapIdx.mp hplaced
  obtain ⟨offset, hoffset, rfl⟩ := List.mem_mapIdx.mp hline
  exact ⟨_, _, List.getElem?_eq_getElem hindex, List.getElem?_eq_getElem hoffset, rfl, rfl⟩

theorem mem_tokenize_of_mem_placeLines {dialect : Dialect} {text : Text} {lines : List StoredLine}
    (hmem : ∀ line ∈ lines, ∀ token ∈ line.source, token ∈ tokenize dialect text)
    {line : PlacedLine} (hline : line ∈ placeLines (lines.splitBy joins)) :
    ∀ token ∈ line.tokens, token ∈ tokenize dialect text := by
  obtain ⟨block, stored, hblock, hstored, -, htokens⟩ := exists_of_mem_placeLines hline
  have hread : stored ∈ lines := by
    rw [← List.flatten_splitBy joins lines]
    exact List.mem_flatten.mpr ⟨block, List.mem_of_getElem? hblock, List.mem_of_getElem? hstored⟩
  rw [htokens]
  exact hmem stored hread

theorem kind_ne_of_isChain_joins {first : StoredLine} {rest : List StoredLine}
    (hchain : (first :: rest).IsChain (joins · ·)) :
    ∀ line ∈ rest, line.kind ≠ .labelDeclaration := by
  induction rest generalizing first with
  | nil => simp
  | cons second rest ih =>
      obtain ⟨hjoins, hrest⟩ := List.isChain_cons_cons.mp hchain
      intro line hline
      rcases List.mem_cons.mp hline with rfl | hline
      · simp only [joins, Bool.and_eq_true, bne_iff_ne] at hjoins
        exact hjoins.2
      · exact ih hrest line hline

/-- Every line before a declaration lies in an earlier block. -/
theorem pairwise_placeLines {blocks : List (List StoredLine)}
    (hchains : ∀ block ∈ blocks, block.IsChain (joins · ·)) :
    (placeLines blocks).Pairwise fun earlier later =>
      later.kind = .labelDeclaration → earlier.place.block < later.place.block := by
  induction blocks using List.reverseRecOn with
  | nil => exact .nil
  | append_singleton blocks block ih =>
      rw [placeLines_concat]
      refine List.pairwise_append.mpr
        ⟨ih fun other hother => hchains other (by simp [hother]), ?_, ?_⟩
      · cases block with
        | nil => exact .nil
        | cons first rest =>
            have hkind := kind_ne_of_isChain_joins (hchains (first :: rest) (by simp))
            -- nothing after the first line is a declaration
            have hlater : ∀ line ∈ rest.mapIdx fun offset stored =>
                (⟨⟨blocks.length, offset + 1⟩, stored.kind, stored.source⟩ : PlacedLine),
                line.kind ≠ .labelDeclaration := by
              intro line hline
              obtain ⟨offset, hoffset, rfl⟩ := List.mem_mapIdx.mp hline
              exact hkind _ (List.getElem_mem hoffset)
            rw [List.mapIdx_cons]
            refine List.pairwise_cons.mpr ⟨fun line hline hdeclares => ?_, ?_⟩
            · exact absurd hdeclares (hlater line hline)
            · exact List.pairwise_of_forall_mem_list fun _ _ line hline hdeclares =>
                absurd hdeclares (hlater line hline)
      · intro earlier hearlier later hlater _
        obtain ⟨_, _, hblock, -⟩ := exists_of_mem_placeLines hearlier
        obtain ⟨offset, hoffset, rfl⟩ := List.mem_mapIdx.mp hlater
        exact (List.getElem?_eq_some_iff.mp hblock).1

theorem labeled_placeLines {dialect : Dialect} {text : Text} {lines : List StoredLine}
    (hmem : ∀ line ∈ lines, ∀ token ∈ line.source, token ∈ tokenize dialect text) :
    Labeled text (placeLines (lines.splitBy joins)) where
  named line hline name hname := by
    unfold PlacedLine.declared? at hname
    split at hname
    · obtain ⟨label, hlabel, rfl⟩ := Option.map_eq_some_iff.mp hname
      exact text_ne_nil_of_mem_tokenize
        (mem_tokenize_of_mem_placeLines hmem hline label (List.mem_of_mem_head? hlabel))
    · cases hname
  apart := pairwise_placeLines fun block hblock => List.isChain_of_mem_splitBy hblock

/-- The records lead to the kind of a placed line. -/
theorem kindAt?_placeLines {lines : List StoredLine} {line : PlacedLine}
    (hline : line ∈ placeLines (lines.splitBy joins)) :
    kindAt? (lineRecords 0 lines) (blockRecords .block 0 (lines.splitBy joins)) line.place =
      some line.kind := by
  obtain ⟨block, stored, hblock, hstored, hkind, -⟩ := exists_of_mem_placeLines hline
  obtain ⟨record, before, after, hrecord, hlines, hindex, -⟩ :=
    exists_blockRecord (map_bare_blockRecords .block 0 _) hblock
  obtain ⟨first, rest, hsplit, hfirst⟩ := exists_append_of_getElem? hstored
  have hall : lines = (before ++ first) ++ stored :: (rest ++ after) := by
    simp [hlines, hsplit]
  have hplace : record.lineIndex + line.place.line = (before ++ first).length := by
    simp [hindex, hfirst]
  have hlength : (before ++ first).length < (lineRecords 0 lines).length := by
    rw [length_lineRecords, hall]
    simp
  have hfound := getElem?_lineRecords (before ++ first) (rest ++ after) stored
  rw [← hall] at hfound
  rw [kindAt?, hrecord, Option.bind_some, hplace, wordIndex_of_lt hlength, hfound, hkind]
  rfl

/-! ## From uses to links -/

theorem PlacedLine.mem_of_operand? {line : PlacedLine} {target : Token}
    (hoperand : line.operand? = some target) : target ∈ line.tokens := by
  unfold operand? at hoperand
  split at hoperand
  · obtain ⟨hfound, -⟩ := Option.filter_eq_some_iff.mp hoperand
    exact (List.dropWhile_sublist _).mem (List.mem_of_mem_tail (List.mem_of_find?_eq_some hfound))
  · cases hoperand

/-- A use makes the links of its line. -/
theorem linksOf_labelRecords {text : Text} {earlier later : List PlacedLine} {line : PlacedLine}
    (hlines : Labeled text (earlier ++ line :: later)) {target : Token}
    (hoperand : line.operand? = some target) (hname : target.text text ≠ []) {lines : List Line}
    {blocks : List Block} (hkind : kindAt? lines blocks line.place = some line.kind) :
    (labelRecords text (earlier ++ line :: later)).linksOf text lines blocks
        ⟨(labelRecords text earlier).ownerBlock, line.place, ⟨target.position, target.length⟩⟩ =
      lineLinks text blocks.length (earlier ++ line :: later) earlier line := by
  have hlookup := lookup?_labelRecords hlines hoperand hname
  have htext : text.view target.position target.length = target.text text := rfl
  unfold LabelTable.linksOf lineLinks
  simp only [hoperand, hkind, htext, hlookup]
  cases resolve? text (earlier ++ line :: later) (scopeOf text earlier line)
    (target.text text) <;> rfl

theorem flatMap_linksOf {text : Text} {placed : List PlacedLine} (hlabeled : Labeled text placed)
    {lines : List Line} {blocks : List Block}
    (hkind : ∀ line ∈ placed, kindAt? lines blocks line.place = some line.kind)
    (hname : ∀ line ∈ placed, ∀ token ∈ line.tokens, token.text text ≠ []) :
    (labelRecords text placed).uses.flatMap
        ((labelRecords text placed).linksOf text lines blocks) =
      referenceLinks text blocks.length placed := by
  rw [uses_labelRecords, referenceLinks, List.filterMap_eq_flatMap_toList, List.flatMap_assoc]
  refine List.flatMap_congr fun ⟨earlier, line⟩ hmem => ?_
  obtain ⟨later, hplaced⟩ := exists_append_of_mem_withEarlier hmem
  rw [List.nil_append] at hplaced
  cases hoperand : line.operand? with
  | none => simp [lineLinks, hoperand]
  | some target =>
      have hline : line ∈ placed := by simp [hplaced]
      rw [hplaced] at hlabeled
      have hlinks := linksOf_labelRecords hlabeled hoperand
        (hname line hline target (PlacedLine.mem_of_operand? hoperand)) (hkind line hline)
      rw [← hplaced] at hlinks
      simpa [hoperand] using hlinks

/-! ## The edges of a listing -/

/-- The outbound edges of all blocks are, in some order, those that the stored
lines call for, and each block has those that start in it. -/
theorem perm_outbound_referenceEdges {files : Files} {dialect : Dialect} {options : Options}
    {text : Text} {analysis : Analysis}
    (hanalysis : analyze files dialect options text = .ok analysis) :
    (analysis.blocks.flatMap Block.outbound).Perm
        (referenceEdges text analysis.blocks.length (analysis.placedLines text)) ∧
      ∀ (index : Nat) (block : Block), analysis.blocks[index]? = some block →
        block.outbound.Perm
          ((referenceEdges text analysis.blocks.length (analysis.placedLines text)).filter
            (·.origin.block == index)) := by
  rw [analyze_eq] at hanalysis
  obtain ⟨read, hread, hcomplete⟩ := Fallible.bind_eq_ok.mp hanalysis
  have hmem := fun line hline => (source_of_readLines hread line hline).2
  have hlaid := laidOut_of_complete hcomplete
  have hcount : analysis.blocks.length = (blockRecords .block 0 (read.2.splitBy joins)).length := by
    rw [← hlaid.blocks_eq, List.length_map]
  obtain ⟨_, rfl, ⟨count, hok⟩, hblocks⟩ := blocks_of_complete hcomplete
  obtain ⟨hlinked, hlinks⟩ := LabelTable.blocks_resolveUses _ _ _ hok
  have hreference := flatMap_linksOf (labeled_placeLines hmem)
    (fun line hline => kindAt?_placeLines hline)
    (fun line hline token htoken => text_ne_nil_of_mem_tokenize
      (mem_tokenize_of_mem_placeLines hmem hline token htoken))
  have hbare := edges_of_mem_blockRecords .block 0 (read.2.splitBy joins)
  rw [placedLines_eq hlaid hmem, hcount, referenceEdges, ← hreference, hblocks,
    LabelTable.resolve, hlinked]
  exact ⟨perm_outbound_addLinks hbare hlinks,
    fun index block hblock => perm_outbound_getElem? hbare _ hblock⟩

set_option maxRecDepth 10000 in
/-- The first jump comes before every scope.  Both branches to `.L1` find the last
declaration in their own scope, and `f` is where it was declared first. -/
theorem perm_outbound_referenceEdges_sample :
    ∃ analysis, analyze .none .wasm {}
        " br .L1\n.L1:\n br_if .L1\nf:\n.L1:\n br_if .L1\n.L1:\nf:\n br f".toList = .ok analysis ∧
      (analysis.blocks.flatMap Block.outbound).Perm
        [⟨.outbound, ⟨1, 1⟩, ⟨1, 0⟩⟩, ⟨.outbound, ⟨1, 1⟩, ⟨2, 0⟩⟩,
          ⟨.outbound, ⟨3, 1⟩, ⟨4, 0⟩⟩, ⟨.outbound, ⟨3, 1⟩, ⟨4, 0⟩⟩,
          ⟨.outbound, ⟨5, 1⟩, ⟨2, 0⟩⟩] := by
  have hedges : (analyze .none .wasm {}
      " br .L1\n.L1:\n br_if .L1\nf:\n.L1:\n br_if .L1\n.L1:\nf:\n br f".toList).toOption.map
        (fun analysis => referenceEdges
          " br .L1\n.L1:\n br_if .L1\nf:\n.L1:\n br_if .L1\n.L1:\nf:\n br f".toList
          analysis.blocks.length (analysis.placedLines
            " br .L1\n.L1:\n br_if .L1\nf:\n.L1:\n br_if .L1\n.L1:\nf:\n br f".toList)) =
      some [⟨.outbound, ⟨1, 1⟩, ⟨1, 0⟩⟩, ⟨.outbound, ⟨1, 1⟩, ⟨2, 0⟩⟩,
        ⟨.outbound, ⟨3, 1⟩, ⟨4, 0⟩⟩, ⟨.outbound, ⟨3, 1⟩, ⟨4, 0⟩⟩,
        ⟨.outbound, ⟨5, 1⟩, ⟨2, 0⟩⟩] := by
    decide +kernel
  obtain ⟨analysis, hanalysis, hedges⟩ := Option.map_eq_some_iff.mp hedges
  rw [Fallible.toOption_eq_some] at hanalysis
  refine ⟨analysis, hanalysis, ?_⟩
  rw [← hedges]
  exact (perm_outbound_referenceEdges hanalysis).1

end AsmListing
