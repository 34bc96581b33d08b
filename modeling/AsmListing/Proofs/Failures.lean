import AsmListing.Proofs.Edges
import AsmListing.Proofs.Operands
import AsmListing.Proofs.RoundTrip

/-!
# When the analysis of a listing fails

The analysis can fail at a malformed number in a directive, and later, when it
resolves labels, at an index that is out of range.  The latter never happens,
since both ends of an edge are lines that have been stored: a use of a label was
noted at its own line, and the label is looked up among the lines
(`exists_outcome_resolve`).  So the analysis judges the operands of its listing
and does nothing else that could go wrong (`judges_analyze`).

The operands are judged in the order of the text, and the tokens of a listing
are apart, so the error tells which operand it is about by its position alone.
-/

namespace AsmListing

/-- A token that stands where a directive of the listing takes a number, was read
as one, and is no numeral. -/
def MalformedOperand (dialect : Dialect) (options : Options) (text : Text) (token : Token) :
    Prop :=
  ∃ line ∈ tokenLines (bodyTokens options (tokenize dialect text)),
    token ∈ numericOperands text line ∧ ¬ (token.text text).IsNumeral

/-! ## Labels can be resolved -/

/-- Uses whose lines exist, of labels that lie in blocks that exist, are resolved
to the end. -/
theorem LabelTable.exists_outcome_resolveUses (table : LabelTable) (text : Text)
    (lines : List Line) {uses : List LabelUse} {blocks : List Block} {resolved : Nat}
    (huses : ∀ use ∈ uses, (∃ kind, kindAt? lines blocks use.source = some kind) ∧
      ∀ target ∈ table.lookup? (text.view use.target.position use.target.length) use.ownerBlock,
        target.block < blocks.length) :
    ∃ count, (table.resolveUses text lines uses blocks resolved).outcome = .ok count := by
  obtain ⟨-, hrun⟩ | ⟨before, failing, after, error, rfl, -, ⟨target, htarget, hmissing⟩, -⟩ :=
    table.resolveUses_cases text lines uses blocks resolved
  · rw [hrun]
    exact ⟨_, rfl⟩
  · -- the use that stops the run is one of those that are there
    obtain ⟨⟨kind, hkind⟩, hblock⟩ := huses failing (by simp)
    have hlt := hblock target htarget
    rcases hmissing with hnone | hle
    · simp [hkind] at hnone
    · omega

theorem PlacedLine.kind_of_declared? {line : PlacedLine} {text name : Text}
    (hname : line.declared? text = some name) : line.kind = .labelDeclaration := by
  unfold declared? at hname
  split at hname
  · next hkind => exact hkind
  · cases hname

/-- Labels lead to declarations. -/
theorem exists_declaration_of_resolve? {text : Text} {lines : List PlacedLine}
    {scope : Option Scope} {name : Text} {place : LineRef}
    (hresolve : resolve? text lines scope name = some place) :
    ∃ line ∈ lines, line.kind = .labelDeclaration ∧ line.place = place := by
  unfold resolve? at hresolve
  split at hresolve
  · obtain ⟨⟨earlier, line⟩, hlast, rfl⟩ := Option.map_eq_some_iff.mp hresolve
    obtain ⟨hmem, hdeclares⟩ := List.mem_filter.mp (List.mem_of_getLast? hlast)
    obtain ⟨later, hlines⟩ := exists_append_of_mem_withEarlier hmem
    rw [List.nil_append] at hlines
    exact ⟨line, by simp [hlines],
      PlacedLine.kind_of_declared? (of_decide_eq_true hdeclares).1, rfl⟩
  · obtain ⟨line, hfound, rfl⟩ := Option.map_eq_some_iff.mp hresolve
    have hdeclares := List.find?_some hfound
    exact ⟨line, List.mem_of_find?_eq_some hfound,
      PlacedLine.kind_of_declared? (of_decide_eq_true hdeclares), rfl⟩

/-- The labels of stored lines are resolved to the end. -/
theorem exists_outcome_resolve {dialect : Dialect} {text : Text} {lines : List StoredLine}
    (hmem : ∀ line ∈ lines, ∀ token ∈ line.source, token ∈ tokenize dialect text) :
    ∃ count, ((labelRecords text (placeLines (lines.splitBy joins))).resolve text
      (lineRecords 0 lines) (blockRecords .block 0 (lines.splitBy joins))).outcome =
        .ok count := by
  refine LabelTable.exists_outcome_resolveUses _ _ _ fun use huse => ?_
  rw [uses_labelRecords] at huse
  obtain ⟨⟨earlier, line⟩, hline, huse⟩ := List.mem_filterMap.mp huse
  obtain ⟨operand, hoperand, rfl⟩ := Option.map_eq_some_iff.mp huse
  obtain ⟨later, hlines⟩ := exists_append_of_mem_withEarlier hline
  rw [List.nil_append] at hlines
  have hplaced : line ∈ placeLines (lines.splitBy joins) := by simp [hlines]
  refine ⟨⟨line.kind, kindAt?_placeLines hplaced⟩, fun target htarget => ?_⟩
  -- the tables find one of the lines, and so a block
  have hlabeled := labeled_placeLines hmem
  have hname : operand.text text ≠ [] := text_ne_nil_of_mem_tokenize
    (mem_tokenize_of_mem_placeLines hmem hplaced operand (PlacedLine.mem_of_operand? hoperand))
  have htext : text.view operand.position operand.length = operand.text text := rfl
  rw [hlines] at hlabeled htarget
  rw [htext, lookup?_labelRecords hlabeled hoperand hname, ← hlines] at htarget
  obtain ⟨declaration, hdeclaration, -, rfl⟩ := exists_declaration_of_resolve? htarget
  obtain ⟨block, -, hblock, -⟩ := exists_of_mem_placeLines hdeclaration
  rw [length_blockRecords]
  exact (List.getElem?_eq_some_iff.mp hblock).1

/-- Once the lines of a listing are read, nothing fails any more. -/
theorem exists_complete (context : Context) {read : SourceTable × List StoredLine}
    (hmem : ∀ line ∈ read.2, ∀ token ∈ line.source,
      token ∈ tokenize context.dialect context.text) :
    ∃ analysis, ((Outline.ofLines read).assembly context).complete context = .ok analysis := by
  have hlines : ((Outline.ofLines read).assembly context).lines = lineRecords 0 read.2 := by
    simp [Outline.assembly]
  obtain ⟨count, hok⟩ := exists_outcome_resolve hmem
  rw [← labels_ofLines context, ← hlines] at hok
  exact ⟨_, Fallible.bind_eq_ok.mpr ⟨count, hok, rfl⟩⟩

/-! ## Operands in the order of the text -/

theorem judges_analyze (files : Files) (dialect : Dialect) (options : Options) (text : Text) :
    Judges text ((listingLines dialect options text).flatMap (numericOperands text))
      (analyze files dialect options text) := by
  have hplain : ∀ line ∈ listingLines dialect options text, PlainNumbers text line :=
    fun line hline token htoken =>
      plainNumbers_tokenize dialect text token (mem_tokenize_of_mem_listingLines hline token htoken)
  rw [analyze_eq]
  refine (judges_readLines hplain .empty).bind_nil fun read hread => ?_
  obtain ⟨analysis, hanalysis⟩ := exists_complete ⟨files, dialect, options, text⟩
    fun line hline => (source_of_readLines hread line hline).2
  rw [hanalysis]
  exact .nil analysis

theorem eq_malformedNumber_of_analyze {files : Files} {dialect : Dialect} {options : Options}
    {text : Text} {error : ListingError}
    (herror : analyze files dialect options text = .error error) :
    ∃ directive spelling position cause,
      error = .malformedNumber directive spelling position cause := by
  have hjudges := judges_analyze files dialect options text
  rw [herror] at hjudges
  obtain ⟨-, token, -, directive, cause, -, -, -, rfl⟩ := hjudges
  exact ⟨directive, _, _, cause, rfl⟩

theorem Tiles.pairwise_position {text : Text} {position : Nat} {tokens : List Token}
    (htiles : Tiles text position tokens) :
    tokens.Pairwise fun earlier later => earlier.position < later.position := by
  induction htiles with
  | done => exact .nil
  | @step spelling following position token tokens hne hposition hlength hrest ih =>
      refine List.pairwise_cons.mpr ⟨fun later hlater => ?_, ih⟩
      have hle := hrest.le_position later hlater
      have hpos := Text.byteSize_pos hne
      omega

theorem numericOperands_sublist (text : Text) (tokens : List Token) :
    (numericOperands text tokens).Sublist tokens := by
  have hplaces : ∀ skipped count, (((operands tokens).drop skipped).take count).Sublist tokens := by
    intro skipped count
    exact (List.take_sublist _ _).trans ((List.drop_sublist _ _).trans List.filter_sublist)
  unfold numericOperands
  refine List.filter_sublist.trans ?_
  split
  · exact hplaces 1 1
  · split
    · exact hplaces 2 3
    · exact hplaces 1 3
  · exact List.nil_sublist _

theorem flatMap_numericOperands_sublist (text : Text) (groups : List (List Token)) :
    (groups.flatMap (numericOperands text)).Sublist groups.flatten := by
  induction groups with
  | nil => exact .slnil
  | cons tokens rest ih => exact (numericOperands_sublist text tokens).append ih

theorem bodyTokens_sublist (options : Options) (tokens : List Token) :
    (bodyTokens options tokens).Sublist tokens := by
  unfold bodyTokens
  split
  · exact (List.tail_sublist _).trans (List.dropWhile_sublist _)
  · exact List.Sublist.refl _

/-- The operands of a listing stand in its text in the order in which they are
judged. -/
theorem pairwise_position_numericOperands (dialect : Dialect) (options : Options) (text : Text) :
    ((listingLines dialect options text).flatMap (numericOperands text)).Pairwise
      fun earlier later => earlier.position < later.position := by
  refine (tiles_tokenize dialect text).pairwise_position.sublist
    ((flatMap_numericOperands_sublist text _).trans ?_)
  rw [listingLines_eq, tokenLines, List.flatten_splitBy]
  exact bodyTokens_sublist options _

theorem malformedOperand_iff {dialect : Dialect} {options : Options} {text : Text}
    {token : Token} :
    MalformedOperand dialect options text token ↔
      token ∈ (listingLines dialect options text).flatMap (numericOperands text) ∧
        ¬ (token.text text).IsNumeral := by
  rw [listingLines_eq, List.mem_flatMap]
  constructor
  · rintro ⟨line, hline, htoken, hmalformed⟩
    exact ⟨⟨line, hline, htoken⟩, hmalformed⟩
  · rintro ⟨⟨line, hline, htoken⟩, hmalformed⟩
    exact ⟨line, hline, htoken, hmalformed⟩

/-- Of operands in the order of their positions, the one that is blamed stands
before all others that are no numerals. -/
theorem Blames.position_lt {text : Text} {numbers : List Token} {error : ListingError}
    (hblames : Blames text numbers error)
    (hsorted : numbers.Pairwise fun earlier later => earlier.position < later.position) :
    ∃ directive token cause,
      error = .malformedNumber directive (token.text text) token.position cause ∧
      (token ∈ numbers ∧ ¬ (token.text text).IsNumeral) ∧
      ∀ other ∈ numbers, ¬ (other.text text).IsNumeral → other ≠ token →
        token.position < other.position := by
  obtain ⟨before, token, after, directive, cause, rfl, hbefore, htoken, rfl⟩ := hblames
  refine ⟨directive, token, cause, rfl, ⟨by simp, htoken⟩, fun other hother hmalformed hne => ?_⟩
  rcases List.mem_append.mp hother with hother | hother
  · exact absurd (hbefore other hother) hmalformed
  · have hlater : other ∈ after := (List.mem_cons.mp hother).resolve_left hne
    exact (List.pairwise_cons.mp (List.pairwise_append.mp hsorted).2.1).1 other hlater

theorem exists_renderBlock {files : Files} {dialect : Dialect} {options : Options} {text : Text}
    {analysis : Analysis} (hanalysis : analyze files dialect options text = .ok analysis)
    {index : Nat} (hindex : index < analysis.blocks.length) (colored : Bool) :
    ∃ rendering, (analysis.renderer text options).renderBlock index colored = .ok rendering := by
  obtain ⟨read, -, hlaid⟩ := exists_laidOut hanalysis
  rw [length_of_map_bare hlaid.blocks_eq] at hindex
  exact ⟨_, (hlaid.shows text options).renderBlock_eq colored (List.getElem?_eq_getElem hindex)⟩

/-! ## What can fail -/

/-- The analysis of a listing fails exactly if an operand of the listing is
malformed, and the error is about the first one, given by its text and its
position.  After an analysis that does not fail, every block can be rendered. -/
theorem analyze_fails_at_malformedOperand (files : Files) (dialect : Dialect) (options : Options)
    (text : Text) :
    ((∃ error, analyze files dialect options text = .error error) ↔
      ∃ token, MalformedOperand dialect options text token) ∧
    (∀ error, analyze files dialect options text = .error error →
      ∃ directive token cause,
        error = .malformedNumber directive (token.text text) token.position cause ∧
        MalformedOperand dialect options text token ∧
        ∀ other, MalformedOperand dialect options text other → other ≠ token →
          token.position < other.position) ∧
    ∀ analysis, analyze files dialect options text = .ok analysis →
      ∀ index < analysis.blocks.length, ∀ colored, ∃ rendering,
        (analysis.renderer text options).renderBlock index colored = .ok rendering := by
  have hjudges := judges_analyze files dialect options text
  have hsorted := pairwise_position_numericOperands dialect options text
  simp only [malformedOperand_iff]
  refine ⟨?_, ?_, fun analysis hanalysis index hindex => exists_renderBlock hanalysis hindex⟩
  · cases hresult : analyze files dialect options text with
    | error error =>
        rw [hresult] at hjudges
        obtain ⟨directive, token, cause, -, hmalformed, -⟩ := Blames.position_lt hjudges hsorted
        exact ⟨fun _ => ⟨token, hmalformed⟩, fun _ => ⟨error, rfl⟩⟩
    | ok analysis =>
        rw [hresult] at hjudges
        constructor
        · rintro ⟨error, herror⟩
          cases herror
        · rintro ⟨token, htoken, hmalformed⟩
          exact absurd (hjudges token htoken) hmalformed
  · intro error herror
    rw [herror] at hjudges
    obtain ⟨directive, token, cause, rfl, hmalformed, hfirst⟩ := Blames.position_lt hjudges hsorted
    refine ⟨directive, token, cause, rfl, hmalformed, ?_⟩
    rintro other ⟨hother, hnot⟩ hne
    exact hfirst other hother hnot hne

end AsmListing
