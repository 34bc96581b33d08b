import AsmListing.Proofs.PlainText

/-!
# Spans of blocks

The analysis lays out the spans of its blocks by adding up the lengths of lines
as they come, long before anything is rendered.  This file shows that the spans
are nevertheless those of the rendered listing: put end to end, the renderings
of the blocks without color take up exactly their spans.

Both sides are sums over the lines of a block, `shownLength` on the side of the
analysis and the bytes of `StoredLine.shown` on the side of the renderer, and
they agree line by line (`byteSize_flatMap_shown`).
-/

namespace AsmListing

/-! ## Spans as running sums -/

theorem getElem?_spanRecords (dialect : Dialect) (before after : List (List StoredLine))
    (lines : List StoredLine) :
    (spanRecords dialect 0 (before ++ lines :: after))[before.length]? =
      some ⟨shownLength dialect before.flatten,
        shownLength dialect before.flatten + shownLength dialect lines⟩ := by
  rw [spanRecords_append, List.getElem?_append_right (by simp), length_spanRecords, Nat.sub_self,
    Nat.zero_add]
  rfl

theorem head?_spanRecords (dialect : Dialect) (start : Nat) (blocks : List (List StoredLine)) :
    ∀ span ∈ (spanRecords dialect start blocks).head?, span.start = start := by
  cases blocks with
  | nil => simp [spanRecords]
  | cons lines rest => simp [spanRecords]

theorem isChain_spanRecords (dialect : Dialect) (start : Nat) (blocks : List (List StoredLine)) :
    (spanRecords dialect start blocks).IsChain fun span following =>
      following.start = span.stop := by
  induction blocks generalizing start with
  | nil => exact .nil
  | cons lines rest ih =>
      exact List.isChain_cons.mpr ⟨head?_spanRecords dialect _ rest, ih _⟩

theorem start_lt_stop_of_mem_spanRecords {dialect : Dialect} {start : Nat}
    {blocks : List (List StoredLine)} (hpos : ∀ lines ∈ blocks, 0 < shownLength dialect lines) :
    ∀ span ∈ spanRecords dialect start blocks, span.start < span.stop := by
  induction blocks generalizing start with
  | nil => simp [spanRecords]
  | cons lines rest ih =>
      intro span hspan
      rcases List.mem_cons.mp hspan with rfl | hspan
      · have hlines := hpos lines List.mem_cons_self
        show start < start + shownLength dialect lines
        omega
      · exact ih (fun block hblock => hpos block (List.mem_cons_of_mem _ hblock)) span hspan

/-! ## Lines of a listing -/

theorem byteSize_flatMap_shown {dialect : Dialect} {text : Text} {lines : List StoredLine}
    (hlines : ∀ line ∈ lines, ∀ token ∈ line.source, token ∈ tokenize dialect text) :
    Text.byteSize (lines.flatMap (·.shown dialect text)) = shownLength dialect lines := by
  induction lines with
  | nil => rfl
  | cons line rest ih =>
      have hline := byteSize_shown dialect text fun token htoken =>
        byteSize_text_of_mem_tokenize (hlines line List.mem_cons_self token htoken)
      have hrest := ih fun other hother => hlines other (List.mem_cons_of_mem _ hother)
      rw [List.flatMap_cons, Text.byteSize_append, hline, hrest, shownLength_cons]

theorem shownLength_pos {dialect : Dialect} {text : Text} {lines : List StoredLine}
    (hne : lines ≠ [])
    (hlines : ∀ line ∈ lines, line.source ≠ [] ∧
      ∀ token ∈ line.source, token ∈ tokenize dialect text) :
    0 < shownLength dialect lines := by
  obtain ⟨line, rest, rfl⟩ := List.exists_cons_of_ne_nil hne
  obtain ⟨hsource, hmem⟩ := hlines line List.mem_cons_self
  rw [shownLength_cons]
  exact Nat.add_pos_left (renderedLength_pos hsource hmem) _

theorem shownLength_pos_of_mem_splitBy {dialect : Dialect} {text : Text} {lines : List StoredLine}
    (hlines : ∀ line ∈ lines, line.source ≠ [] ∧
      ∀ token ∈ line.source, token ∈ tokenize dialect text) :
    ∀ block ∈ lines.splitBy joins, 0 < shownLength dialect block := by
  intro block hblock
  refine shownLength_pos (List.ne_nil_of_mem_splitBy hblock) fun line hline => hlines line ?_
  rw [← List.flatten_splitBy joins lines]
  exact List.mem_flatten.mpr ⟨block, hblock, hline⟩

/-! ## Spans against renderings -/

theorem Text.view_flatten {texts : List Text} {index : Nat} {text : Text}
    (htext : texts[index]? = some text) :
    Text.view texts.flatten (Text.byteSize (texts.take index).flatten) text.byteSize = text := by
  obtain ⟨before, after, rfl, rfl⟩ := exists_append_of_getElem? htext
  rw [List.take_left, List.flatten_append, List.flatten_cons, ← List.append_assoc]
  exact Text.view_append _ _ _

/-- The span of a block starts after the texts of the blocks before it, and is as
long as its own. -/
theorem getElem?_spanRecords_shown {dialect : Dialect} {text : Text}
    {blocks : List (List StoredLine)} {index : Nat} {block : List StoredLine}
    (hlines : ∀ line ∈ blocks.flatten, ∀ token ∈ line.source, token ∈ tokenize dialect text)
    (hblock : blocks[index]? = some block) :
    (spanRecords dialect 0 blocks)[index]? =
      some ⟨Text.byteSize ((blocks.take index).flatten.flatMap (·.shown dialect text)),
        Text.byteSize ((blocks.take index).flatten.flatMap (·.shown dialect text)) +
          Text.byteSize (block.flatMap (·.shown dialect text))⟩ := by
  obtain ⟨before, after, rfl, rfl⟩ := exists_append_of_getElem? hblock
  have hbefore : ∀ line ∈ before.flatten, ∀ token ∈ line.source, token ∈ tokenize dialect text :=
    fun line hline => hlines line (by simp_all)
  have hown : ∀ line ∈ block, ∀ token ∈ line.source, token ∈ tokenize dialect text :=
    fun line hline => hlines line (by simp_all)
  rw [getElem?_spanRecords, List.take_left, byteSize_flatMap_shown hbefore,
    byteSize_flatMap_shown hown]

/-- A block can be rendered, and its span is where its text stands among those of
all blocks. -/
theorem LaidOut.exists_rendering_span {context : Context}
    {read : SourceTable × List StoredLine} {analysis : Analysis}
    (hlaid : LaidOut context read analysis) (options : Options)
    (hmem : ∀ line ∈ read.2, ∀ token ∈ line.source, token ∈ tokenize context.dialect context.text)
    {index : Nat} {block : List StoredLine}
    (hblock : (read.2.splitBy joins)[index]? = some block) :
    let texts := (read.2.splitBy joins).map (·.flatMap (·.shown context.dialect context.text))
    ∃ rendering span,
      (analysis.renderer context.text options).renderBlock index false = .ok rendering ∧
      analysis.spans[index]? = some span ∧
      rendering.text.byteSize = span.stop - span.start ∧
      texts[index]? = some rendering.text ∧
      span.start = Text.byteSize (texts.take index).flatten ∧
      Text.view texts.flatten span.start (span.stop - span.start) = rendering.text := by
  intro texts
  obtain ⟨rendering, hrender, htext⟩ :=
    (hlaid.shows context.text options).renderBlock_false hblock
  rw [show (analysis.renderer context.text options).dialect = context.dialect from
    hlaid.dialect_eq] at htext
  have hfound : texts[index]? = some rendering.text := by
    rw [List.getElem?_map, hblock, htext]
    rfl
  have hbefore : (texts.take index).flatten =
      ((read.2.splitBy joins).take index).flatten.flatMap
        (·.shown context.dialect context.text) := by
    rw [← List.map_take, flatten_map_flatMap]
  have hspan := getElem?_spanRecords_shown
    (fun line hline => hmem line (by rwa [List.flatten_splitBy] at hline)) hblock
  rw [← hbefore, ← hlaid.spans_eq] at hspan
  -- the length of the span is that of the text
  have hview := Text.view_flatten hfound
  rw [htext] at hview
  refine ⟨rendering, _, hrender, hspan, ?_, hfound, rfl, ?_⟩
  · rw [htext, Nat.add_sub_cancel_left]
    rfl
  · rw [htext, Nat.add_sub_cancel_left]
    exact hview

/-- The spans of an analyzed listing are the places of its blocks in the
rendered listing.  There is one for each block, they follow each other from the
start without a gap, none is empty, and each is the byte range of its block in
all renderings without color put end to end. -/
theorem spans_locate_renderings {files : Files} {dialect : Dialect} {options : Options}
    {text : Text} {analysis : Analysis}
    (hanalysis : analyze files dialect options text = .ok analysis) :
    analysis.spans.length = analysis.blocks.length ∧
    (∀ span ∈ analysis.spans.head?, span.start = 0) ∧
    (analysis.spans.IsChain fun span following => following.start = span.stop) ∧
    (∀ span ∈ analysis.spans, span.start < span.stop) ∧
    ∃ texts : List Text, (analysis.renderer text options).plainTexts = .ok texts ∧
      ∀ index < analysis.blocks.length, ∃ rendering span,
        (analysis.renderer text options).renderBlock index false = .ok rendering ∧
        analysis.spans[index]? = some span ∧
        rendering.text.byteSize = span.stop - span.start ∧
        texts[index]? = some rendering.text ∧
        span.start = Text.byteSize (texts.take index).flatten ∧
        Text.view texts.flatten span.start (span.stop - span.start) = rendering.text := by
  obtain ⟨read, hread, hlaid⟩ := exists_laidOut hanalysis
  have hsource := source_of_readLines hread
  have hlength := length_of_map_bare hlaid.blocks_eq
  -- the lines of a block are lines of the listing
  have hblock : ∀ lines ∈ read.2.splitBy joins, ∀ line ∈ lines, line ∈ read.2 := by
    intro lines hlines line hline
    rw [← List.flatten_splitBy joins read.2]
    exact List.mem_flatten.mpr ⟨lines, hlines, hline⟩
  refine ⟨?_, ?_, ?_, ?_, _, hlaid.plainTexts_eq options, ?_⟩
  · rw [hlaid.spans_eq, length_spanRecords, hlength]
  · rw [hlaid.spans_eq]
    exact head?_spanRecords _ _ _
  · rw [hlaid.spans_eq]
    exact isChain_spanRecords _ _ _
  · rw [hlaid.spans_eq]
    refine start_lt_stop_of_mem_spanRecords fun lines hlines => ?_
    exact shownLength_pos (List.ne_nil_of_mem_splitBy hlines) fun line hline =>
      hsource line (hblock lines hlines line hline)
  · intro index hindex
    rw [hlength] at hindex
    exact hlaid.exists_rendering_span options (fun line hline => (hsource line hline).2)
      (List.getElem?_eq_getElem hindex)

set_option maxRecDepth 10000 in
/-- A file is registered and leaves no trace, a location shows as its comment, a
mnemonic is filled up, and the last line has no line break. -/
theorem spans_locate_renderings_sample :
    ∃ analysis, analyze .none .intel {}
        ".file 1 \"a.c\"\r\n.loc 1 2 3\né:\r\n\tje .L1\n.L1: ret".toList = .ok analysis ∧
      analysis.spans = [⟨0, 32⟩, ⟨32, 40⟩] ∧
      analysis.spans.length = analysis.blocks.length ∧
      ∀ span ∈ analysis.spans, span.start < span.stop := by
  have hspans : (analyze .none .intel {}
      ".file 1 \"a.c\"\r\n.loc 1 2 3\né:\r\n\tje .L1\n.L1: ret".toList).toOption.map (·.spans) =
        some [⟨0, 32⟩, ⟨32, 40⟩] := by
    decide +kernel
  obtain ⟨analysis, hanalysis, hspans⟩ := Option.map_eq_some_iff.mp hspans
  rw [Fallible.toOption_eq_some] at hanalysis
  obtain ⟨hlength, -, -, hpos, -⟩ := spans_locate_renderings hanalysis
  exact ⟨analysis, hanalysis, hspans, hlength, hpos⟩

end AsmListing
