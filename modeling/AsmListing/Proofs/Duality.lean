import AsmListing.Proofs.Columns
import AsmListing.Proofs.EdgeOrder
import AsmListing.Proofs.PhysicalLines
import AsmListing.Proofs.Strings
import Mathlib.Algebra.BigOperators.Fin
import Mathlib.Data.List.DropRight

/-!
# The graph of a listing

The graph of a listing is made of outbound edges only.  Still it can be asked about either
end of a branch: the blocks that branch to a block are those that its inbound edges name.

* Seen from its other end (`Edge.flip`), an edge is stored as often as from its own
  (`Mirrored.count_flip`).  So there are as many inbound edges as outbound ones
  (`Mirrored.length_outbound_eq_length_inbound`), also where a block branches to itself or
  to another one more than once.
* Both ends of an edge lie in blocks that exist (`Mirrored.inside`), so the graph leaves no
  edge out (`BlockGraph.edges_ofBlocks`).
* The graph trims colons from the labels of blocks.  No label ends in one
  (`Dialect.getLast?_ne_colon`), since the colon that makes a label of a string, say, is
  read after it.
-/

namespace AsmListing

/-! ## Edges seen from the other end -/

/-- The other direction. -/
def Direction.opposite : Direction → Direction
  | .inbound => .outbound
  | .outbound => .inbound

/-- An edge as the block at its other end sees it. -/
def Edge.flip (edge : Edge) : Edge :=
  ⟨edge.direction.opposite, edge.target, edge.origin⟩

/-- `HasEdge blocks direction index other`: the block at an index has an edge of the given
direction, with another block at its other end. -/
def HasEdge (blocks : List Block) (direction : Direction) (index other : Nat) : Prop :=
  ∃ edge ∈ edgesAt blocks index, edge.direction = direction ∧ edge.target.block = other

@[simp] theorem Edge.flip_flip (edge : Edge) : edge.flip.flip = edge := by
  obtain ⟨direction, origin, target⟩ := edge
  cases direction <;> rfl

theorem mem_edgesAt {blocks : List Block} {index : Nat} {edge : Edge} :
    edge ∈ edgesAt blocks index ↔ ∃ block, blocks[index]? = some block ∧ edge ∈ block.edges := by
  unfold edgesAt
  cases blocks[index]? <;> simp

namespace Mirrored

variable {blocks : List Block} (hmirrored : Mirrored blocks)

include hmirrored

/-- An edge is stored as often as its other half. -/
theorem count_flip (edge : Edge) :
    (edgesAt blocks edge.flip.origin.block).count edge.flip =
      (edgesAt blocks edge.origin.block).count edge := by
  obtain ⟨direction, origin, target⟩ := edge
  cases direction with
  | inbound => exact hmirrored.paired target origin
  | outbound => exact (hmirrored.paired origin target).symm

theorem flip_mem {index : Nat} {edge : Edge} (hedge : edge ∈ edgesAt blocks index) :
    edge.flip ∈ edgesAt blocks edge.target.block := by
  obtain rfl := hmirrored.own index edge hedge
  have hpos := List.count_pos_iff.mpr hedge
  rw [← hmirrored.count_flip edge] at hpos
  exact List.count_pos_iff.mp hpos

/-- Both ends of an edge lie in blocks that exist. -/
theorem inside {index : Nat} {edge : Edge} (hedge : edge ∈ edgesAt blocks index) :
    edge.origin.block < blocks.length ∧ edge.target.block < blocks.length := by
  have hlt : ∀ {place : Nat} {found : Edge}, found ∈ edgesAt blocks place →
      place < blocks.length := by
    intro place found hfound
    obtain ⟨block, hblock, -⟩ := mem_edgesAt.mp hfound
    exact (List.getElem?_eq_some_iff.mp hblock).1
  rw [hmirrored.own index edge hedge]
  exact ⟨hlt hedge, hlt (hmirrored.flip_mem hedge)⟩

/-- If a block has an edge to another one, that one has it in the other direction. -/
theorem hasEdge_opposite {direction : Direction} {index other : Nat}
    (hedge : HasEdge blocks direction index other) :
    HasEdge blocks direction.opposite other index := by
  obtain ⟨edge, hmem, rfl, rfl⟩ := hedge
  exact ⟨edge.flip, hmirrored.flip_mem hmem, rfl, hmirrored.own index edge hmem⟩

theorem hasEdge_outbound_iff (source target : Nat) :
    HasEdge blocks .outbound source target ↔ HasEdge blocks .inbound target source :=
  ⟨hmirrored.hasEdge_opposite, hmirrored.hasEdge_opposite⟩

/-- An edge is stored on no block but that of its origin. -/
theorem count_flatMap_edges (edge : Edge) :
    (blocks.flatMap Block.edges).count edge = (edgesAt blocks edge.origin.block).count edge := by
  have hothers : ∀ place : Fin blocks.length, place.val ≠ edge.origin.block →
      blocks[place.val].edges.count edge = 0 := by
    intro place hne
    rw [List.count_eq_zero]
    intro hedge
    have hblock := List.getElem?_eq_getElem place.isLt
    exact hne (hmirrored.own place.val edge (mem_edgesAt.mpr ⟨_, hblock, hedge⟩)).symm
  rw [List.count_flatMap, ← Fin.sum_univ_fun_getElem]
  by_cases hown : edge.origin.block < blocks.length
  · rw [Fintype.sum_eq_single ⟨edge.origin.block, hown⟩]
    · rw [edgesAt, List.getElem?_eq_getElem hown]
      rfl
    · intro place hne
      exact hothers place fun hplace => hne (Fin.ext hplace)
  · rw [edgesAt, List.getElem?_eq_none (Nat.le_of_not_lt hown)]
    refine Finset.sum_eq_zero fun place _ => hothers place ?_
    have hplace := place.isLt
    omega

/-- The edges of all blocks, each seen from its other end, are the same edges. -/
theorem perm_map_flip :
    ((blocks.flatMap Block.edges).map Edge.flip).Perm (blocks.flatMap Block.edges) := by
  have hinjective : Function.Injective Edge.flip :=
    Function.LeftInverse.injective Edge.flip_flip
  rw [List.perm_iff_count]
  intro edge
  calc ((blocks.flatMap Block.edges).map Edge.flip).count edge
      = ((blocks.flatMap Block.edges).map Edge.flip).count edge.flip.flip := by
        rw [Edge.flip_flip]
    _ = (blocks.flatMap Block.edges).count edge.flip :=
        List.count_map_of_injective _ _ hinjective _
    _ = (edgesAt blocks edge.flip.origin.block).count edge.flip :=
        hmirrored.count_flatMap_edges edge.flip
    _ = (edgesAt blocks edge.origin.block).count edge := hmirrored.count_flip edge
    _ = (blocks.flatMap Block.edges).count edge := (hmirrored.count_flatMap_edges edge).symm

/-- There are as many outbound edges as inbound ones. -/
theorem length_outbound_eq_length_inbound :
    (blocks.flatMap Block.outbound).length = (blocks.flatMap Block.inbound).length := by
  have hflip : ∀ edge : Edge,
      (edge.flip.direction == .inbound) = (edge.direction == .outbound) := by
    rintro ⟨direction, origin, target⟩
    cases direction <;> rfl
  have hperm := hmirrored.perm_map_flip.filter (·.direction == .inbound)
  rw [List.filter_map, List.filter_flatMap, List.filter_flatMap] at hperm
  have hlength := hperm.length_eq
  rw [List.length_map] at hlength
  simp only [Function.comp_def, hflip] at hlength
  exact hlength

end Mirrored

theorem mirrored_of_analyze {files : Files} {dialect : Dialect} {options : Options} {text : Text}
    {analysis : Analysis} (hanalysis : analyze files dialect options text = .ok analysis) :
    Mirrored analysis.blocks := by
  rw [analyze_eq] at hanalysis
  obtain ⟨read, -, hcomplete⟩ := Fallible.bind_eq_ok.mp hanalysis
  obtain ⟨_, rfl, -, hblocks⟩ := blocks_of_complete hcomplete
  rw [hblocks]
  exact LabelTable.mirrored_resolve _ _ _ (edges_of_mem_blockRecords _ _ _)

/-- A link that the lines of a listing call for is an outbound edge of its block. -/
theorem hasEdge_of_mem_referenceLinks {files : Files} {dialect : Dialect} {options : Options}
    {text : Text} {analysis : Analysis}
    (hanalysis : analyze files dialect options text = .ok analysis) (link : Link)
    (hlink : link ∈ referenceLinks text analysis.blocks.length (analysis.placedLines text))
    (hsource : link.source.block < analysis.blocks.length) :
    HasEdge analysis.blocks .outbound link.source.block link.target.block := by
  have hblock := List.getElem?_eq_getElem hsource
  refine ⟨link.outward, mem_edgesAt.mpr ⟨_, hblock, ?_⟩, rfl, rfl⟩
  rw [edges_eq_mergeSort hanalysis hblock, List.mem_mergeSort, List.mem_filter]
  exact ⟨List.mem_flatMap.mpr ⟨link, hlink, List.mem_cons_self⟩, beq_self_eq_true _⟩

/-! ## Neighbours in the graph -/

namespace BlockGraph

theorem mem_ascending (numbers : List Nat) (number : Nat) :
    number ∈ ascending numbers ↔ number ∈ numbers := by
  rw [ascending, List.mem_eraseDups, List.mem_mergeSort]

theorem pairwise_eraseDups : ∀ numbers : List Nat, numbers.Pairwise (· ≤ ·) →
    numbers.eraseDups.Pairwise (· < ·)
  | [], _ => .nil
  | first :: rest, hordered => by
      obtain ⟨hfirst, hrest⟩ := List.pairwise_cons.mp hordered
      rw [List.eraseDups_cons]
      refine .cons ?_ (pairwise_eraseDups _ (hrest.filter _))
      intro later hlater
      obtain ⟨hmem, hne⟩ := List.mem_filter.mp (List.mem_eraseDups.mp hlater)
      have hle := hfirst later hmem
      have hapart : later ≠ first := by simpa using hne
      omega
termination_by numbers => numbers.length
decreasing_by exact Nat.lt_succ_of_le (List.length_filter_le _ _)

/-- Put in order, numbers increase from one to the next. -/
theorem pairwise_ascending (numbers : List Nat) : (ascending numbers).Pairwise (· < ·) := by
  have hsorted : (numbers.mergeSort (· ≤ ·)).Pairwise fun left right => decide (left ≤ right) :=
    List.pairwise_mergeSort (by simpa using fun _ _ _ => Nat.le_trans) (by simpa using Nat.le_total)
      numbers
  exact pairwise_eraseDups _ (hsorted.imp of_decide_eq_true)

/-- The neighbours of a block are at the other ends of its edges, if the indices of the
blocks are words. -/
theorem mem_neighbors_iff {graph : BlockGraph} (hcount : graph.blockCount ≤ Digraph.indexLimit)
    {near far : Arc BranchLines → Nat}
    (hnear : ∀ edge ∈ graph.edges, near edge < graph.blockCount) (block neighbor : Nat) :
    neighbor ∈ graph.neighbors near far block ↔
      ∃ edge ∈ graph.edges, near edge = block ∧ far edge = neighbor := by
  unfold neighbors
  split
  · next hblock =>
      rw [Digraph.place_of_lt (by omega), mem_ascending, Digraph.mem_neighbors_iff]
  · next hblock =>
      constructor
      · intro hnone
        cases hnone
      · rintro ⟨edge, hedge, rfl, -⟩
        exact absurd (hnear edge hedge) hblock

theorem pairwise_neighbors (graph : BlockGraph) (near far : Arc BranchLines → Nat)
    (block : Nat) : (graph.neighbors near far block).Pairwise (· < ·) := by
  unfold neighbors
  split
  · exact pairwise_ascending _
  · exact .nil

/-! ## The graph of blocks whose edges are mirrored -/

section Blocks

variable {blocks : List Block} (hmirrored : Mirrored blocks) (text : Text) (tokens : List Token)
  (lines : List Line)

include hmirrored

theorem mem_flatMap_outbound {edge : Edge} :
    edge ∈ blocks.flatMap Block.outbound ↔
      edge ∈ edgesAt blocks edge.origin.block ∧ edge.direction = .outbound := by
  simp only [List.mem_flatMap, Block.outbound, List.mem_filter, beq_iff_eq]
  constructor
  · rintro ⟨block, hblock, hedge, hdirection⟩
    obtain ⟨index, hindex⟩ := List.mem_iff_getElem?.mp hblock
    have hmem := mem_edgesAt.mpr ⟨block, hindex, hedge⟩
    exact ⟨by rwa [hmirrored.own index edge hmem], hdirection⟩
  · rintro ⟨hedge, hdirection⟩
    obtain ⟨block, hindex, hedge⟩ := mem_edgesAt.mp hedge
    exact ⟨block, List.mem_of_getElem? hindex, hedge, hdirection⟩

/-- No edge is left out of the graph. -/
theorem edges_ofBlocks :
    (ofBlocks text tokens lines blocks).edges =
      (blocks.flatMap Block.outbound).map fun edge =>
        ⟨edge.origin.block, edge.target.block, edge.origin.line, edge.target.line⟩ := by
  rw [ofBlocks_eq, ← List.filterMap_eq_map]
  apply List.filterMap_congr
  intro edge hedge
  exact if_pos (hmirrored.inside ((mem_flatMap_outbound hmirrored).mp hedge).1)

/-- The edges of the graph lead from blocks to blocks. -/
theorem inside_of_mem_edges {edge : Arc BranchLines}
    (hedge : edge ∈ (ofBlocks text tokens lines blocks).edges) :
    edge.source < blocks.length ∧ edge.target < blocks.length := by
  rw [edges_ofBlocks hmirrored] at hedge
  obtain ⟨stored, hstored, rfl⟩ := List.mem_map.mp hedge
  exact hmirrored.inside ((mem_flatMap_outbound hmirrored).mp hstored).1

/-- The graph has an edge between two blocks exactly if the blocks have one. -/
theorem exists_mem_edges_iff (source target : Nat) :
    (∃ edge ∈ (ofBlocks text tokens lines blocks).edges,
      edge.source = source ∧ edge.target = target) ↔ HasEdge blocks .outbound source target := by
  rw [edges_ofBlocks hmirrored, HasEdge]
  constructor
  · rintro ⟨_, hedge, rfl, rfl⟩
    obtain ⟨edge, hstored, rfl⟩ := List.mem_map.mp hedge
    obtain ⟨hmem, hdirection⟩ := (mem_flatMap_outbound hmirrored).mp hstored
    exact ⟨edge, hmem, hdirection, rfl⟩
  · rintro ⟨edge, hmem, hdirection, rfl⟩
    obtain rfl := hmirrored.own source edge hmem
    exact ⟨_, List.mem_map_of_mem ((mem_flatMap_outbound hmirrored).mpr ⟨hmem, hdirection⟩), rfl,
      rfl⟩

section Neighbors

variable (hlimit : blocks.length ≤ Digraph.indexLimit) (source target : Nat)

include hlimit

/-- The blocks that a block branches to are at the other ends of its outbound edges. -/
theorem mem_successors_iff :
    target ∈ (ofBlocks text tokens lines blocks).successors source ↔
      HasEdge blocks .outbound source target := by
  have hcount := blockCount_ofBlocks text tokens lines blocks
  rw [successors, mem_neighbors_iff (hcount ▸ hlimit), exists_mem_edges_iff hmirrored]
  intro edge hedge
  rw [hcount]
  exact (inside_of_mem_edges hmirrored text tokens lines hedge).1

/-- The blocks that branch to a block are at the other ends of its inbound edges. -/
theorem mem_predecessors_iff :
    source ∈ (ofBlocks text tokens lines blocks).predecessors target ↔
      HasEdge blocks .inbound target source := by
  have hcount := blockCount_ofBlocks text tokens lines blocks
  rw [predecessors, mem_neighbors_iff (hcount ▸ hlimit), ← hmirrored.hasEdge_outbound_iff,
    ← exists_mem_edges_iff hmirrored text tokens lines]
  · simp only [and_comm]
  · intro edge hedge
    rw [hcount]
    exact (inside_of_mem_edges hmirrored text tokens lines hedge).2

end Neighbors

end Blocks

end BlockGraph

/-! ## The colon after a label -/

theorem Text.trimEnd_eq_self {discard : Char → Bool} {text : Text}
    (hlast : ∀ last ∈ text.getLast?, discard last = false) : text.trimEnd discard = text := by
  apply List.rdropWhile_eq_self_iff.mpr
  intro hne
  rw [hlast _ (List.getLast?_eq_some_getLast hne)]
  exact Bool.false_ne_true

theorem Dialect.opening_colon (dialect : Dialect) : dialect.opening ':' = .misc := by
  cases dialect <;> decide

theorem colon_notMem_cutWhile {continues : Char → Bool} (hcolon : continues ':' = false)
    (text : Text) : ':' ∉ (cutWhile continues text).1 := by
  intro hmem
  have hcontinues := List.mem_takeWhile_imp hmem
  rw [hcolon] at hcontinues
  cases hcontinues

theorem Dialect.colon_notMem_cutWord (dialect : Dialect) (text : Text) :
    ':' ∉ (dialect.cutWord text).1 := by
  intro hmem
  have hneither : ¬ (dialect.isWordChar ':' ∨ dialect.endsWord ':') := by
    cases dialect <;> decide
  exact hneither (dialect.mem_cutWord hmem)

/-- A colon makes a label of what stands before it, but does not belong to it.  A string
with a colon after it has an end, so its last character is a quote. -/
theorem Dialect.getLast?_ne_colon {dialect : Dialect} {first : Char} {tail : Text}
    (hkind : dialect.kindOf first (dialect.extent first tail).1
      ((dialect.extent first tail).2.head? == some ':') = .label) :
    (first :: (dialect.extent first tail).1).getLast? ≠ some ':' := by
  have hfirst : ':' ≠ first := by
    rintro rfl
    simp [Dialect.kindOf, opening_colon] at hkind
  have hbody : ':' ∉ (dialect.extent first tail).1 →
      (first :: (dialect.extent first tail).1).getLast? ≠ some ':' := by
    intro hnone hlast
    exact (List.not_mem_cons_of_ne_of_not_mem hfirst hnone) (List.mem_of_getLast? hlast)
  cases hopening : dialect.opening first with
  | point =>
      apply hbody
      rw [extent, hopening]
      exact colon_notMem_cutWhile (by decide) tail
  | word =>
      apply hbody
      rw [extent, hopening]
      exact dialect.colon_notMem_cutWord tail
  | number =>
      apply hbody
      rw [extent, hopening]
      exact colon_notMem_cutWhile (by decide) tail
  | quote =>
      simp only [Dialect.kindOf, extent, hopening] at hkind ⊢
      have hrest : (cutString tail).2 ≠ [] := by
        intro hnil
        simp [hnil] at hkind
      obtain ⟨inside, hinside, -⟩ | ⟨hnil, -⟩ := endsAtQuote_cutString tail
      · rw [hinside, ← List.cons_append, List.getLast?_concat]
        decide
      · exact absurd hnil hrest
  | comment => simp [Dialect.kindOf, hopening] at hkind
  | lineBreak => simp [Dialect.kindOf, hopening] at hkind
  | misc => simp [Dialect.kindOf, hopening] at hkind

/-- There is nothing to be trimmed from the text of a label. -/
theorem trimEnd_text_of_label {dialect : Dialect} {text : Text} {token : Token}
    (hmem : token ∈ tokenize dialect text) (hkind : token.kind = .label) :
    Text.trimEnd (· == ':') (token.text text) = token.text text := by
  obtain ⟨_, first, tail, -, -, hspells, hread⟩ := exists_extent_of_mem_tokenize hmem
  rw [hkind] at hread
  rw [hspells.text_eq]
  apply Text.trimEnd_eq_self
  intro last hlast
  rw [beq_eq_false_iff_ne]
  rintro rfl
  exact Dialect.getLast?_ne_colon hread.symm hlast

/-! ## The label of a block -/

namespace LaidOut

variable {files : Files} {dialect : Dialect} {options : Options} {text : Text}
  {read : SourceTable × List StoredLine} {analysis : Analysis}
  (hread : readLines ⟨files, dialect, options, text⟩ .empty (listingLines dialect options text) =
    .ok read)
  (hlaid : LaidOut ⟨files, dialect, options, text⟩ read analysis)

include hread hlaid

/-- A line that is stored starts with a token, and one that declares a label starts with the
label. -/
theorem exists_head_token {index : Nat} {line : Line}
    (hline : analysis.lines[index]? = some line) :
    ∃ token, analysis.tokens[line.tokenIndex]? = some token ∧
      (line.kind = .labelDeclaration →
        token ∈ tokenize dialect text ∧ token.kind = .label) := by
  obtain ⟨before, stored, after, hlines, rfl, rfl⟩ := hlaid.exists_stored hline
  have hstored : stored ∈ read.2 := by simp [hlines]
  obtain ⟨hne, hsource⟩ := source_of_readLines hread stored hstored
  obtain ⟨token, rest, htokens⟩ := List.exists_cons_of_ne_nil (StoredLine.tokens_ne_nil hne)
  refine ⟨token, ?_, ?_⟩
  · rw [hlaid.tokens_eq, hlines]
    simp [htokens]
  · intro hdeclares
    change stored.kind = .labelDeclaration at hdeclares
    have hsame : stored.source = token :: rest := by
      rw [← htokens, StoredLine.tokens, hdeclares]
    have hkind := (storedKind_source hread stored hstored).lineKind_eq (by simp [hdeclares])
    rw [hdeclares, hsame, lineKind_cons_eq_labelDeclaration] at hkind
    exact ⟨hsource token (by simp [hsame]), hkind⟩

/-- A node has the label that the first line of its block declares, if it does. -/
theorem exists_labelOf?_eq {index : Nat} {block : Block}
    (hblock : analysis.blocks[index]? = some block) :
    ∃ line token, analysis.LineAt ⟨index, 0⟩ block.lineIndex line ∧
      analysis.tokens[line.tokenIndex]? = some token ∧
      BlockGraph.labelOf? text analysis.tokens analysis.lines block =
        if line.kind = .labelDeclaration then some (token.text text) else none := by
  have hindex : index < (read.2.splitBy joins).length := by
    rw [← length_of_map_bare hlaid.blocks_eq]
    exact (List.getElem?_eq_some_iff.mp hblock).1
  obtain ⟨place, line, hat⟩ := hlaid.exists_first_lineAt hindex
  obtain ⟨found, hfound, -, hplace, hline⟩ := id hat
  obtain rfl : block = found := Option.some.inj (hblock.symm.trans hfound)
  obtain rfl : place = block.lineIndex := hplace
  obtain ⟨token, htoken, hlabel⟩ := hlaid.exists_head_token hread hline
  refine ⟨line, token, hat, htoken, ?_⟩
  simp only [BlockGraph.labelOf?, hline]
  split
  · next hdeclares =>
      obtain ⟨hmem, hkind⟩ := hlabel hdeclares
      rw [htoken, Option.map_some, trimEnd_text_of_label hmem hkind]
  · rfl

end LaidOut

namespace Session

variable {session : Session} {analysis : Analysis}

theorem graph_eq (hanalysis : session.analysis? = some analysis) :
    session.graph =
      BlockGraph.ofBlocks session.input analysis.tokens analysis.lines analysis.blocks := by
  simp only [graph, tokens, lines, blocks, hanalysis, Option.map_some, Option.getD_some]

/-- The graph of a listing shows the edges of its blocks from both ends.  It has a node for
each block, with the label that the first line of the block declares, if it does; it has all
outbound edges, of which there are as many as inbound ones; and asking for the blocks that a
block branches to, or for those that branch to it, is asking for its outbound or inbound
edges, also past the last block.  Either answer is in order, with each block once.  Node
indices are words, so there must not be too many blocks. -/
theorem graph_agrees_with_blocks (hreach : session.Reachable)
    (hanalysis : session.analysis? = some analysis)
    (hcount : analysis.blocks.length < Digraph.indexLimit) :
    session.graph.blockCount = analysis.blocks.length ∧
    (∀ index block, analysis.blocks[index]? = some block →
      ∃ line token, analysis.LineAt ⟨index, 0⟩ block.lineIndex line ∧
        analysis.tokens[line.tokenIndex]? = some token ∧
        session.graph.node? index = some ⟨index, block.kind,
          if line.kind = .labelDeclaration then some (token.text session.input) else none⟩) ∧
    session.graph.edgeCount = (analysis.blocks.flatMap Block.outbound).length ∧
    session.graph.edgeCount = (analysis.blocks.flatMap Block.inbound).length ∧
    (∀ source target,
      (target ∈ session.graph.successors source ↔
        HasEdge analysis.blocks .outbound source target) ∧
      (HasEdge analysis.blocks .outbound source target ↔
        HasEdge analysis.blocks .inbound target source) ∧
      (HasEdge analysis.blocks .inbound target source ↔
        source ∈ session.graph.predecessors target)) ∧
    ∀ index, (session.graph.successors index).Pairwise (· < ·) ∧
      (session.graph.predecessors index).Pairwise (· < ·) := by
  obtain ⟨files, dialect, hanalyze⟩ := hreach.faithful.analyzed analysis hanalysis
  obtain ⟨read, hread, hlaid⟩ := exists_laidOut hanalyze
  have hmirrored := mirrored_of_analyze hanalyze
  have hlimit : analysis.blocks.length ≤ Digraph.indexLimit := hcount.le
  rw [graph_eq hanalysis]
  have hedges : (BlockGraph.ofBlocks session.input analysis.tokens analysis.lines
      analysis.blocks).edgeCount = (analysis.blocks.flatMap Block.outbound).length := by
    rw [Digraph.edgeCount, BlockGraph.edges_ofBlocks hmirrored, List.length_map]
  refine ⟨BlockGraph.blockCount_ofBlocks _ _ _ _, ?_, hedges,
    hedges.trans hmirrored.length_outbound_eq_length_inbound, ?_, ?_⟩
  · intro index block hblock
    obtain ⟨line, token, hat, htoken, hlabel⟩ := hlaid.exists_labelOf?_eq hread hblock
    have hindex := (List.getElem?_eq_some_iff.mp hblock).1
    refine ⟨line, token, hat, htoken, ?_⟩
    rw [BlockGraph.node?, Digraph.place_of_lt (by omega), BlockGraph.ofBlocks_eq, Digraph.node?,
      BlockGraph.nodesOf, List.getElem?_mapIdx, hblock, Option.map_some, hlabel]
  · intro source target
    refine ⟨?_, hmirrored.hasEdge_outbound_iff source target, Iff.symm ?_⟩
    · exact BlockGraph.mem_successors_iff hmirrored _ _ _ hlimit source target
    · exact BlockGraph.mem_predecessors_iff hmirrored _ _ _ hlimit source target
  · intro index
    exact ⟨BlockGraph.pairwise_neighbors _ _ _ index, BlockGraph.pairwise_neighbors _ _ _ index⟩

set_option maxRecDepth 10000 in
/-- Two blocks branch to a quoted label, its own and the one after that. -/
theorem graph_agrees_with_blocks_sample :
    ∃ (session : Session) (analysis : Analysis), session.Reachable ∧
      session.analysis? = some analysis ∧ analysis.blocks.length < Digraph.indexLimit ∧
      session.graph.node? 0 = some ⟨0, .code, some "\"f\"".toList⟩ ∧
      session.graph.edgeCount = (analysis.blocks.flatMap Block.inbound).length ∧
      0 ∈ session.graph.successors 0 ∧ 0 ∈ session.graph.successors 1 ∧
      HasEdge analysis.blocks .inbound 0 1 ∧ 1 ∈ session.graph.predecessors 0 := by
  let text : Text := "\"f\":\n br_if \"f\"\n br \"f\"".toList
  let session := (fresh.change .none (.load (.direct text .wasm {}))).2
  have hreach : session.Reachable := Reachable.fresh.change .none _
  have heval : session.input = text ∧ session.analysis?.map (fun analysis =>
      (analysis.blocks.map Block.bare, analysis.lines[0]?, analysis.tokens[0]?,
        referenceLinks text analysis.blocks.length (analysis.placedLines text))) =
      some ([⟨.code, 0, 2, []⟩, ⟨.code, 2, 1, []⟩], some ⟨.labelDeclaration, 0, 3⟩,
        some ⟨.label, 0, 0, 3⟩, [⟨⟨0, 1⟩, ⟨0, 0⟩⟩, ⟨⟨0, 1⟩, ⟨1, 0⟩⟩, ⟨⟨1, 0⟩, ⟨0, 0⟩⟩]) := by
    decide +kernel
  obtain ⟨hinput, heval⟩ := heval
  obtain ⟨analysis, hanalysis, heval⟩ := Option.map_eq_some_iff.mp heval
  simp only [Prod.mk.injEq] at heval
  obtain ⟨hblocks, hline, htoken, hlinks⟩ := heval
  obtain ⟨files, dialect, hanalyze⟩ := hreach.faithful.analyzed analysis hanalysis
  have hlength : analysis.blocks.length = 2 := by
    rw [← List.length_map Block.bare, hblocks]
    rfl
  have hcount : analysis.blocks.length < Digraph.indexLimit := by
    rw [hlength]
    decide
  rw [hinput] at hanalyze
  have hself : HasEdge analysis.blocks .outbound 0 0 :=
    hasEdge_of_mem_referenceLinks hanalyze ⟨⟨0, 1⟩, ⟨0, 0⟩⟩ (by simp [hlinks])
      (by simp [hlength])
  have hback : HasEdge analysis.blocks .outbound 1 0 :=
    hasEdge_of_mem_referenceLinks hanalyze ⟨⟨1, 0⟩, ⟨0, 0⟩⟩ (by simp [hlinks])
      (by simp [hlength])
  obtain ⟨-, hnodes, -, hedges, hends, -⟩ := graph_agrees_with_blocks hreach hanalysis hcount
  have hfirst : analysis.blocks[0]?.map Block.bare = some ⟨.code, 0, 2, []⟩ := by
    rw [← List.getElem?_map, hblocks]
    rfl
  obtain ⟨first, hfirst, hbare⟩ := Option.map_eq_some_iff.mp hfirst
  obtain ⟨hkind, hindex, -⟩ := Block.mk.inj hbare
  obtain ⟨line, token, ⟨-, -, -, -, hat⟩, htext, hnode⟩ := hnodes 0 first hfirst
  rw [hindex] at hat
  obtain rfl := Option.some.inj (hline.symm.trans hat)
  obtain rfl := Option.some.inj (htoken.symm.trans htext)
  rw [hkind, hinput] at hnode
  have hinbound := (hends 1 0).2.1.mp hback
  exact ⟨session, analysis, hreach, hanalysis, hcount, hnode, hedges, (hends 0 0).1.mpr hself,
    (hends 1 0).1.mpr hback, hinbound, (hends 1 0).2.2.mp hinbound⟩

end Session

end AsmListing
