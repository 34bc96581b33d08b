import AsmListing.Proofs.Rendering
import AsmListing.Proofs.Tiling

/-!
# Renderings without color

Without color a line is shown as it was read, up to three things: a line break
becomes one line feed, short Intel mnemonics are filled up with spaces, and a
line that names a source location is replaced by its comment.  `plainLine` and
`StoredLine.shown` say this of the tokens as they were read, so neither the
palette nor the labels that branch targets become play a part in them.

* `Renderer.Shows.plainTexts_eq`: the renderings of the blocks are these texts;
* `byteSize_shown`: they are as long as the analysis counted.
-/

namespace AsmListing

/-! ## The text of a line -/

/-- The number of spaces between a token and what follows it on its line: in
Intel syntax a mnemonic of less than ten bytes is filled up, unless a line break
comes next. -/
def gapBefore (dialect : Dialect) (token : Token) (following : List Token) : Nat :=
  match following with
  | [] => 0
  | next :: _ =>
    if dialect = .intel ∧ token.kind.isInstruction ∧ token.length < 10 ∧ next.kind ≠ .newLine then
      10 - token.length
    else
      0

/-- The text of a line without color. -/
def plainLine (dialect : Dialect) (text : Text) : List Token → Text
  | [] => []
  | token :: rest =>
    (if token.kind = .newLine then ['\n'] else token.text text) ++
      List.replicate (gapBefore dialect token rest) ' ' ++ plainLine dialect text rest

/-- The text of a stored line without color. -/
def StoredLine.shown (dialect : Dialect) (text : Text) (line : StoredLine) : Text :=
  match line.kind with
  | .located _ => line.caption ++ ['\n']
  | _ => plainLine dialect text line.source

theorem padding_eq_gapBefore (dialect : Dialect) (token : Token) (following : List Token) :
    padding dialect token following.head? = gapBefore dialect token following := by
  cases following with
  | nil => rfl
  | cons next rest =>
      have haligns : dialect.alignsInstructions = true ↔ dialect = .intel := by
        cases dialect <;> simp [Dialect.alignsInstructions]
      simp only [padding, List.head?_cons, gapBefore, instructionWidth]
      by_cases hpads : dialect = .intel ∧ token.kind.isInstruction ∧ next.kind ≠ .newLine
      · by_cases hshort : token.length < 10
        · simp [hpads, hshort, Dialect.alignsInstructions]
        · simp only [hshort, false_and, and_false, if_false]
          split <;> omega
      · rw [if_neg (by simpa [haligns, and_assoc] using hpads), if_neg (by tauto)]

/-! ## Marking the target of a branch -/

/-- A token, or the label that it has become as the target of a branch. -/
def Token.Relabels (marked token : Token) : Prop :=
  marked = token ∨ token.kind.namesTarget = true ∧ marked = { token with kind := .label }

namespace Token.Relabels

variable {marked token : Token}

theorem text_eq (hmarked : marked.Relabels token) (text : Text) :
    marked.text text = token.text text := by
  rcases hmarked with rfl | ⟨-, rfl⟩ <;> rfl

theorem position_eq (hmarked : marked.Relabels token) : marked.position = token.position := by
  rcases hmarked with rfl | ⟨-, rfl⟩ <;> rfl

theorem length_eq (hmarked : marked.Relabels token) : marked.length = token.length := by
  rcases hmarked with rfl | ⟨-, rfl⟩ <;> rfl

theorem isInstruction_eq (hmarked : marked.Relabels token) :
    marked.kind.isInstruction = token.kind.isInstruction := by
  rcases hmarked with rfl | ⟨hnames, rfl⟩
  · rfl
  · cases hkind : token.kind <;> simp_all [TokenKind.namesTarget, TokenKind.isInstruction]

theorem newLine_iff (hmarked : marked.Relabels token) :
    marked.kind = .newLine ↔ token.kind = .newLine := by
  rcases hmarked with rfl | ⟨hnames, rfl⟩
  · rfl
  · cases hkind : token.kind <;> simp_all [TokenKind.namesTarget]

end Token.Relabels

theorem forall₂_relabels_markOperand (tokens : List Token) :
    List.Forall₂ Token.Relabels (markOperand tokens).1 tokens := by
  have hrefl : ∀ tokens : List Token, List.Forall₂ Token.Relabels tokens tokens := fun tokens =>
    List.forall₂_same.mpr fun token _ => .inl rfl
  induction tokens with
  | nil => exact .nil
  | cons token rest ih =>
      rw [markOperand]
      split
      · exact .cons (.inl rfl) ih
      · split
        · next hnames => exact .cons (.inr ⟨hnames, rfl⟩) (hrefl rest)
        · exact hrefl _

/-- Marking the target of a branch changes no token but the target, and of that
only the kind. -/
theorem forall₂_relabels_markTarget (tokens : List Token) :
    List.Forall₂ Token.Relabels (markTarget tokens).1 tokens := by
  induction tokens with
  | nil => exact .nil
  | cons token rest ih =>
      rw [markTarget]
      refine .cons (.inl rfl) ?_
      split
      · exact forall₂_relabels_markOperand rest
      · exact ih

theorem StoredLine.forall₂_relabels_tokens (line : StoredLine) :
    List.Forall₂ Token.Relabels line.tokens line.source := by
  have hrefl : List.Forall₂ Token.Relabels line.source line.source :=
    List.forall₂_same.mpr fun token _ => .inl rfl
  unfold StoredLine.tokens
  split
  · exact forall₂_relabels_markTarget line.source
  · exact forall₂_relabels_markTarget line.source
  · exact hrefl

theorem exists_getElem?_of_forall₂ {α β : Type} {related : α → β → Prop} {left : List α}
    {right : List β} (hrelated : List.Forall₂ related left right) {index : Nat} {item : α}
    (hitem : left[index]? = some item) :
    ∃ other, right[index]? = some other ∧ related item other := by
  induction hrelated generalizing index with
  | nil => simp at hitem
  | @cons first second lefts rights hfirst hrest ih =>
      cases index with
      | zero =>
          obtain rfl : first = item := by simpa using hitem
          exact ⟨second, rfl, hfirst⟩
      | succ index => exact ih (by simpa using hitem)

/-- The tokens of a stored line are as long as the texts that they stand for. -/
theorem StoredLine.sizes_of_mem_tokens {dialect : Dialect} {text : Text} {line : StoredLine}
    (hmem : ∀ token ∈ line.source, token ∈ tokenize dialect text) :
    ∀ token ∈ line.tokens, (token.text text).byteSize = token.length ∧ 0 < token.length := by
  intro token htoken
  obtain ⟨index, hindex⟩ := List.mem_iff_getElem?.mp htoken
  obtain ⟨source, hsource, hmarked⟩ :=
    exists_getElem?_of_forall₂ line.forall₂_relabels_tokens hindex
  have hread := hmem source (List.mem_of_getElem? hsource)
  rw [hmarked.text_eq, hmarked.length_eq]
  exact ⟨byteSize_text_of_mem_tokenize hread, length_pos_of_mem_tokenize hread⟩

theorem gapBefore_congr (dialect : Dialect) {marked token : Token} (hmarked : marked.Relabels token)
    {rest following : List Token} (hrest : List.Forall₂ Token.Relabels rest following) :
    gapBefore dialect marked rest = gapBefore dialect token following := by
  cases hrest with
  | nil => rfl
  | cons hnext _ =>
      simp only [gapBefore, hmarked.isInstruction_eq, hmarked.length_eq, ne_eq, hnext.newLine_iff]

theorem Renderer.lineText_false (renderer : Renderer) {marked tokens : List Token}
    (hmarked : List.Forall₂ Token.Relabels marked tokens) :
    renderer.lineText false marked = plainLine renderer.dialect renderer.text tokens := by
  induction hmarked with
  | nil => rfl
  | @cons first token rest following hfirst hrest ih =>
      rw [lineText, plainLine, padding_eq_gapBefore, gapBefore_congr _ hfirst hrest, ih]
      simp only [paint, spelling, hfirst.newLine_iff, hfirst.text_eq]

theorem lineLength_congr (dialect : Dialect) {marked tokens : List Token}
    (hmarked : List.Forall₂ Token.Relabels marked tokens) :
    lineLength dialect marked = lineLength dialect tokens := by
  induction hmarked with
  | nil => rfl
  | @cons first token rest following hfirst hrest ih =>
      rw [lineLength, lineLength, padding_eq_gapBefore, padding_eq_gapBefore,
        gapBefore_congr _ hfirst hrest, ih]
      simp only [Token.renderedLength, hfirst.newLine_iff, hfirst.length_eq]

/-! ## The length of a line -/

theorem byteSize_replicate_space (count : Nat) :
    Text.byteSize (List.replicate count ' ') = count := by
  induction count with
  | zero => rfl
  | succ count ih =>
      rw [List.replicate_succ, Text.byteSize_cons, ih, Nat.add_comm]
      rfl

theorem byteSize_plainLine (dialect : Dialect) (text : Text) {tokens : List Token}
    (htexts : ∀ token ∈ tokens, (token.text text).byteSize = token.length) :
    (plainLine dialect text tokens).byteSize = lineLength dialect tokens := by
  induction tokens with
  | nil => rfl
  | cons token rest ih =>
      have htoken := htexts token List.mem_cons_self
      have hrest := ih fun following hmem => htexts following (List.mem_cons_of_mem _ hmem)
      rw [plainLine, lineLength, Text.byteSize_append, Text.byteSize_append, hrest,
        byteSize_replicate_space, padding_eq_gapBefore, Token.renderedLength]
      split
      · rfl
      · rw [htoken]

theorem byteSize_shown (dialect : Dialect) (text : Text) {line : StoredLine}
    (htexts : ∀ token ∈ line.source, (token.text text).byteSize = token.length) :
    (line.shown dialect text).byteSize = line.renderedLength dialect := by
  have hplain := byteSize_plainLine dialect text htexts
  -- the analysis counts the tokens as they are stored, with their targets marked
  rw [← lineLength_congr dialect line.forall₂_relabels_tokens] at hplain
  unfold StoredLine.shown StoredLine.renderedLength
  cases line.kind with
  | located location =>
      rw [Text.byteSize_append]
      rfl
  | _ => exact hplain

theorem Token.renderedLength_pos (token : Token) (hlength : 0 < token.length) :
    0 < token.renderedLength := by
  unfold renderedLength
  split
  · exact Nat.one_pos
  · exact hlength

theorem renderedLength_pos {dialect : Dialect} {text : Text} {line : StoredLine}
    (hne : line.source ≠ []) (hmem : ∀ token ∈ line.source, token ∈ tokenize dialect text) :
    0 < line.renderedLength dialect := by
  unfold StoredLine.renderedLength
  rw [lineLength_congr dialect line.forall₂_relabels_tokens]
  obtain ⟨first, rest, hsource⟩ := List.exists_cons_of_ne_nil hne
  have hlength : 0 < first.length :=
    length_pos_of_mem_tokenize (hmem first (hsource ▸ List.mem_cons_self))
  have hfirst : 0 < first.renderedLength := first.renderedLength_pos hlength
  cases line.kind with
  | located location => exact Nat.succ_pos _
  | _ =>
      rw [hsource, lineLength]
      exact Nat.add_pos_left (Nat.add_pos_left hfirst _) _

/-! ## The texts of all blocks -/

theorem flatten_map_flatMap {α β : Type} (expand : α → List β) (parts : List (List α)) :
    (parts.map (·.flatMap expand)).flatten = parts.flatten.flatMap expand := by
  induction parts with
  | nil => rfl
  | cons part rest ih => simp [ih]

namespace Renderer

/-- The texts of all blocks without color. -/
def plainTexts (renderer : Renderer) : Except ListingError (List Text) :=
  (List.range renderer.blocks.length).mapM fun index =>
    (renderer.renderBlock index false).map (·.text)

theorem showLine_false (renderer : Renderer) (line : StoredLine) :
    (renderer.showLine false line).1 = line.shown renderer.dialect renderer.text := by
  have hplain := renderer.lineText_false line.forall₂_relabels_tokens
  unfold showLine StoredLine.shown
  cases line.kind with
  | located location => cases hcaption : line.caption <;> simp [paint]
  | _ => exact hplain

/-- Rendered without color, a block is its lines as they are shown. -/
theorem Shows.renderBlock_false {renderer : Renderer} {lines : List StoredLine}
    (hshows : renderer.Shows lines) {index : Nat} {block : List StoredLine}
    (hblock : (lines.splitBy joins)[index]? = some block) :
    ∃ rendering, renderer.renderBlock index false = .ok rendering ∧
      rendering.text = block.flatMap (·.shown renderer.dialect renderer.text) := by
  refine ⟨_, hshows.renderBlock_eq false hblock, ?_⟩
  simp only [showLine_false]
  rfl

/-- All blocks can be rendered, and show their lines. -/
theorem Shows.plainTexts_eq {renderer : Renderer} {lines : List StoredLine}
    (hshows : renderer.Shows lines) :
    renderer.plainTexts = .ok ((lines.splitBy joins).map fun block =>
      block.flatMap (·.shown renderer.dialect renderer.text)) := by
  refine Fallible.mapM_eq_ok (List.forall₂_iff_get.mpr ⟨?_, fun index _ hindex => ?_⟩)
  · rw [List.length_range, List.length_map, length_of_map_bare hshows.blocks_eq]
  · rw [List.length_map] at hindex
    obtain ⟨rendering, hrender, htext⟩ :=
      hshows.renderBlock_false (List.getElem?_eq_getElem hindex)
    simp [hrender, htext]

end Renderer

/-- The blocks of an analyzed listing show the lines that were read. -/
theorem LaidOut.plainTexts_eq {context : Context} {read : SourceTable × List StoredLine}
    {analysis : Analysis} (hlaid : LaidOut context read analysis) (options : Options) :
    (analysis.renderer context.text options).plainTexts =
      .ok ((read.2.splitBy joins).map (·.flatMap (·.shown context.dialect context.text))) := by
  rw [(hlaid.shows context.text options).plainTexts_eq, ← hlaid.dialect_eq]
  rfl

end AsmListing
