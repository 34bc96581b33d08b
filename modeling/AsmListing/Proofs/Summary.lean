import AsmListing.CommandLine.Run
import AsmListing.Proofs.Numerals
import Mathlib.Data.List.Basic

/-!
# Reading the summary of the blocks

The summary shows each block with the span of its text.  Here the spans are read back
from what is printed, by a reader that knows nothing of how it was printed: it looks for
the number of the block, for its label and for the two numbers behind the word `text`.

Labels can hold anything, line breaks and words that look like a span included, so the
reader is told the labels and steps over them.  Between the other parts it looks for
marks, and `Passes` says of a part that no mark is found in it by mistake.
`readSummary?_summary` is the result: the reader finds the spans, one for each block and
in order.
-/

namespace AsmListing

/-! ## The reader -/

namespace Text

/-- What follows the first place at which a mark stands, nothing if there is none. -/
def behind (mark : Text) : Text → Text
  | [] => []
  | character :: rest => ((character :: rest).dropPrefix? mark).getD (behind mark rest)

/-- The number that a text starts with, and what follows it. -/
def readNumber? (text : Text) : Option (Nat × Text) :=
  match cutWhile Char.isDigit text with
  | ([], _) => none
  | (digits, rest) => some (Nat.ofDigitChars 10 digits 0, rest)

end Text

/-- The mark before the index of a block, which is blue. -/
def indexMark : Text := "\x1b[34m#".toList

/-- The mark before the label of a block, which is green. -/
def labelMark : Text := "\x1b[32m".toList

/-- The mark before the span of a block. -/
def spanMark : Text := "text ".toList

/-- The first span that a text shows, by its start and its end with two points between
them, and what follows it. -/
def readSpan? (text : Text) : Option (BlockSpan × Text) := do
  let (start, rest) ← Text.readNumber? (Text.behind spanMark text)
  let (stop, following) ← Text.readNumber? (← rest.dropPrefix? "..".toList)
  some (⟨start, stop⟩, following)

/-- The span of the block with an index and a label, and what follows it. -/
def readBlock? (index : Nat) (label text : Text) : Option (BlockSpan × Text) := do
  let (number, rest) ← Text.readNumber? (Text.behind indexMark text)
  let following ← (Text.behind labelMark rest).dropPrefix? label
  if number = index then readSpan? following else none

/-- The spans of the blocks with the given labels, from an index on. -/
def readSummary? : Nat → List Text → Text → Option (List BlockSpan)
  | _, [], _ => some []
  | index, label :: labels, text => do
    let (span, following) ← readBlock? index label text
    let spans ← readSummary? (index + 1) labels following
    some (span :: spans)

/-- The labels of all blocks. -/
def BlockGraph.labels (graph : BlockGraph) : List Text :=
  (List.range graph.blockCount).map graph.labelAt

/-! ## Marks -/

namespace Text

theorem behind_append (first : Char) (mark rest : Text) :
    behind (first :: mark) (first :: mark ++ rest) = rest := by
  rw [List.cons_append, behind, ← List.cons_append, List.dropPrefix?_append_of_beq rest BEq.rfl,
    Option.getD_some]

/-- `Passes mark piece`: looking for the mark goes past the piece. -/
def Passes (mark piece : Text) : Prop :=
  ∀ rest, behind mark (piece ++ rest) = behind mark rest

theorem passes_nil (mark : Text) : Passes mark [] :=
  fun _ => rfl

theorem Passes.append {mark first second : Text} (hfirst : Passes mark first)
    (hsecond : Passes mark second) : Passes mark (first ++ second) := by
  intro rest
  rw [List.append_assoc, hfirst, hsecond]

theorem passes_flatMap {α : Type} {mark : Text} {items : List α} {piece : α → Text}
    (hpieces : ∀ item, Passes mark (piece item)) : Passes mark (items.flatMap piece) := by
  induction items with
  | nil => exact passes_nil mark
  | cons item items ih => exact (hpieces item).append ih

/-- A mark is not found where its first character does not stand. -/
theorem passes_of_notMem {first : Char} (mark : Text) {piece : Text} (hpiece : first ∉ piece) :
    Passes (first :: mark) piece := by
  induction piece with
  | nil => exact passes_nil _
  | cons character piece ih =>
      obtain ⟨hne, hrest⟩ := not_or.mp (mt List.mem_cons.mpr hpiece)
      intro rest
      have hnone : (character :: (piece ++ rest)).dropPrefix? (first :: mark) = none := by
        simp [List.dropPrefix?, Ne.symm hne]
      rw [List.cons_append, behind, hnone, Option.getD_none, ih hrest]

theorem readNumber?_ofNat_append (number : Nat) {rest : Text}
    (hrest : ∀ character ∈ rest.head?, character.isDigit = false) :
    readNumber? (ofNat number ++ rest) = some (number, rest) := by
  obtain ⟨first, digits, hdigits⟩ := List.exists_cons_of_ne_nil (Numeral.ofNat number).ne_nil
  have hvalue := Numeral.value_ofNat number
  rw [Numeral.value, hdigits] at hvalue
  have hcut := cutWhile_ofNat_append number hrest
  rw [show ofNat number = first :: digits from hdigits] at hcut ⊢
  rw [readNumber?, hcut]
  simp only [hvalue]

end Text

/-! ## The parts of an entry -/

/-- What stands between the index of a block and its label. -/
def beforeLabel (index : Nat) (kind : BlockKind) : Text :=
  List.replicate (4 - (Text.ofNat index).length) ' ' ++ escape 39 ++ [' '] ++
    padRight 9 kind.name.toList ++ [' ']

/-- What stands between the label of a block and its span. -/
def beforeSpan (block : Block) (label : Text) : Text :=
  List.replicate (24 - label.length) ' ' ++ escape 39 ++ " lines ".toList ++
    padLeft 5 (Text.ofNat block.lineIndex) ++ ['+'] ++ padRight 4 (Text.ofNat block.length) ++
    [' ']

theorem blockSummary_eq (index : Nat) (block : Block) (label : Text) (span : BlockSpan) :
    blockSummary index block label span =
      indexMark ++ (Text.ofNat index ++ (beforeLabel index block.kind ++ (labelMark ++ (label ++
        (beforeSpan block label ++ (spanMark ++ (Text.ofNat span.start ++ ("..".toList ++
          (Text.ofNat span.stop ++ '\n' :: block.outbound.flatMap edgeSummary))))))))) := by
  simp only [blockSummary, blue, green, setOff, padRight, beforeLabel, beforeSpan,
    List.append_assoc, List.cons_append]
  rfl

theorem passes_edgeSummary (edge : Edge) : Text.Passes indexMark (edgeSummary edge) := by
  have hplain : ∀ {piece : Text}, '\x1b' ∉ piece → Text.Passes indexMark piece :=
    Text.passes_of_notMem _
  have hnumber : ∀ number, Text.Passes indexMark (Text.ofNat number) :=
    fun number => hplain (Text.notMem_ofNat (by decide) number)
  have harrow : Text.Passes indexMark (cyan "->".toList) := fun _ => rfl
  have hblanks : Text.Passes indexMark "      ".toList := hplain (by decide)
  have hhash : Text.Passes indexMark " #".toList := hplain (by decide)
  have hline : Text.Passes indexMark " line ".toList := hplain (by decide)
  have hfrom : Text.Passes indexMark " (from line ".toList := hplain (by decide)
  have hend : Text.Passes indexMark ")\n".toList := hplain (by decide)
  exact (((((((hblanks.append harrow).append hhash).append (hnumber _)).append hline).append
    (hnumber _)).append hfrom).append (hnumber _)).append hend

theorem passes_beforeLabel (index : Nat) (kind : BlockKind) :
    Text.Passes labelMark (beforeLabel index kind) := by
  have hplain : ∀ {piece : Text}, '\x1b' ∉ piece → Text.Passes labelMark piece :=
    Text.passes_of_notMem _
  have hescape : Text.Passes labelMark (escape 39) := fun _ => rfl
  have hblank : Text.Passes labelMark [' '] := hplain (by decide)
  have hpadding : ∀ width, Text.Passes labelMark (List.replicate width ' ') :=
    fun width => hplain (by simp)
  have hkind : Text.Passes labelMark kind.name.toList := hplain (by cases kind <;> decide)
  exact ((((hpadding _).append hescape).append hblank).append (hkind.append (hpadding _))).append
    hblank

theorem isDigit_head?_beforeLabel (index : Nat) (kind : BlockKind) (rest : Text) :
    ∀ character ∈ (beforeLabel index kind ++ rest).head?, character.isDigit = false := by
  unfold beforeLabel
  cases 4 - (Text.ofNat index).length with
  | zero => simp [escape]
  | succ width => simp [List.replicate_succ]

theorem passes_beforeSpan (block : Block) (label : Text) :
    Text.Passes spanMark (beforeSpan block label) := by
  -- behind the label no letter `t` comes before that of the mark
  have hescape : 't' ∉ escape 39 := by decide
  have hnumber : ∀ number, 't' ∉ Text.ofNat number := Text.notMem_ofNat (by decide)
  have hplain : 't' ∉ beforeSpan block label := by
    simp [beforeSpan, padLeft, padRight, hescape, hnumber]
  exact Text.passes_of_notMem _ hplain

/-! ## Reading back what was printed -/

theorem readSpan?_append {front : Text} (hfront : Text.Passes spanMark front) (span : BlockSpan)
    (following : Text) :
    readSpan? (front ++ (spanMark ++ (Text.ofNat span.start ++ ("..".toList ++
      (Text.ofNat span.stop ++ '\n' :: following))))) = some (span, '\n' :: following) := by
  have hmark : ∀ rest, Text.behind spanMark (spanMark ++ rest) = rest := Text.behind_append _ _
  rw [readSpan?, hfront, hmark, Text.readNumber?_ofNat_append _ (by simp)]
  simp only [Option.bind_eq_bind, Option.bind_some, List.dropPrefix?_append_of_beq _ BEq.rfl]
  rw [Text.readNumber?_ofNat_append _ (by simp)]
  rfl

theorem readBlock?_append {front : Text} (hfront : Text.Passes indexMark front) (index : Nat)
    (block : Block) (label : Text) (span : BlockSpan) (rest : Text) :
    readBlock? index label (front ++ (blockSummary index block label span ++ rest)) =
      some (span, '\n' :: (block.outbound.flatMap edgeSummary ++ rest)) := by
  have hindex : ∀ rest, Text.behind indexMark (indexMark ++ rest) = rest := Text.behind_append _ _
  have hlabel : ∀ rest, Text.behind labelMark (labelMark ++ rest) = rest := Text.behind_append _ _
  rw [blockSummary_eq]
  simp only [List.append_assoc, List.cons_append]
  rw [readBlock?, hfront, hindex,
    Text.readNumber?_ofNat_append _ (isDigit_head?_beforeLabel _ _ _)]
  simp only [Option.bind_eq_bind, Option.bind_some]
  rw [passes_beforeLabel, hlabel, List.dropPrefix?_append_of_beq _ BEq.rfl]
  simp only [Option.bind_some, if_true]
  exact readSpan?_append (passes_beforeSpan block label) span _

/-- The entries of blocks are read one after the other, whatever stands before them that
does not look like an entry. -/
theorem readSummary?_append (label : Nat → Text) (span : Nat → BlockSpan) (blocks : List Block)
    (rest : Text) : ∀ {front : Text} (index : Nat), Text.Passes indexMark front →
      readSummary? index ((blocks.zipIdx index).map fun entry => label entry.2)
        (front ++ (((blocks.zipIdx index).flatMap fun entry =>
          blockSummary entry.2 entry.1 (label entry.2) (span entry.2)) ++ rest)) =
        some ((blocks.zipIdx index).map fun entry => span entry.2) := by
  induction blocks with
  | nil =>
      intro front index hfront
      rfl
  | cons block blocks ih =>
      intro front index hfront
      -- the edges of this block stand before the entry of the next one, and their own
      -- numbers of blocks are not blue
      have hedges : Text.Passes indexMark ('\n' :: block.outbound.flatMap edgeSummary) := by
        have hbreak : Text.Passes indexMark ['\n'] := Text.passes_of_notMem _ (by decide)
        exact hbreak.append (Text.passes_flatMap passes_edgeSummary)
      have hnext := ih (index + 1) hedges
      simp only [List.zipIdx_cons, List.map_cons, List.flatMap_cons, List.append_assoc] at hnext ⊢
      rw [readSummary?, readBlock?_append hfront]
      rw [List.cons_append] at hnext
      simp only [Option.bind_eq_bind, Option.bind_some, hnext]

/-- The spans of all blocks can be read from the summary. -/
theorem readSummary?_summary (session : Session)
    (hlength : session.spans.length = session.blocks.length) :
    readSummary? 0 session.graph.labels (summary session) = some session.spans := by
  let span (index : Nat) : BlockSpan := session.spans[index]?.getD ⟨0, 0⟩
  have hlabels : session.graph.labels =
      session.blocks.zipIdx.map fun entry => session.graph.labelAt entry.2 := by
    rw [BlockGraph.labels, Session.graph, BlockGraph.blockCount_ofBlocks, List.range_eq_range',
      ← List.zipIdx_map_snd, List.map_map]
    rfl
  have hspans : (session.blocks.zipIdx.map fun entry => span entry.2) = session.spans := by
    refine List.ext_getElem (by simp [hlength]) fun index _ hindex => ?_
    simp [span, List.getElem?_eq_getElem hindex]
  have hread := readSummary?_append session.graph.labelAt span session.blocks
    (bold (Text.ofNat session.graph.blockCount) ++ (" blocks, ".toList ++
      (bold (Text.ofNat session.graph.edgeCount) ++ " edges\n".toList))) 0
    (Text.passes_nil indexMark)
  rw [← hlabels, hspans, List.nil_append] at hread
  rw [← hread, summary, List.mapIdx_eq_zipIdx_map, ← List.flatMap_def, List.append_assoc,
    List.append_assoc, List.append_assoc]

end AsmListing
