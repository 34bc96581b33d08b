import AsmListing.Block
import AsmListing.Digraph

/-!
# The graph of blocks

One node for each block and one edge for each outbound edge of a block.  Storing
nodes and edges and writing them for Graphviz is left to `Digraph`; what is asked
about blocks, and the document around what is written, is here.
-/

namespace AsmListing

/-- A node of the graph: a block with the label that it declares. -/
structure BlockNode where
  index : Nat
  kind : BlockKind
  label : Option Text
  deriving DecidableEq, Repr

/-- How a node is shown. -/
def BlockNode.shown (node : BlockNode) : Text :=
  '#' :: Text.ofNat node.index ++
    match node.label with
    | some label => ' ' :: label
    | none => []

/-- The lines of a branch and of its target inside their blocks. -/
structure BranchLines where
  origin : Nat
  target : Nat
  deriving DecidableEq, Repr

/-- How a branch is shown. -/
def BranchLines.shown (lines : BranchLines) : Text :=
  Text.ofNat lines.origin ++ ':' :: Text.ofNat lines.target

/-- The blocks of a listing and the branches between them. -/
abbrev BlockGraph := Digraph BlockNode BranchLines

namespace BlockGraph

/-! ## Building the graph -/

/-- The label that a block declares in its first line, without colons at its
end. -/
def labelOf? (text : Text) (tokens : List Token) (lines : List Line) (block : Block) :
    Option Text :=
  match lines[block.lineIndex]? with
  | some line =>
    if line.kind = .labelDeclaration then
      tokens[line.tokenIndex]?.map fun token => Text.trimEnd (· == ':') (token.text text)
    else
      none
  | none => none

/-- The nodes of blocks, in order. -/
def nodesOf (text : Text) (tokens : List Token) (lines : List Line) (blocks : List Block) :
    List BlockNode :=
  blocks.mapIdx fun index block => ⟨index, block.kind, labelOf? text tokens lines block⟩

/-- Adds an outbound edge of a block, if there are nodes at both of its ends. -/
def addBranch (graph : BlockGraph) (edge : Edge) : BlockGraph :=
  if edge.origin.block < graph.nodeCount ∧ edge.target.block < graph.nodeCount then
    graph.addEdge edge.origin.block edge.target.block ⟨edge.origin.line, edge.target.line⟩
  else
    graph

/-- The graph of the blocks of a listing. -/
def ofBlocks (text : Text) (tokens : List Token) (lines : List Line) (blocks : List Block) :
    BlockGraph :=
  (blocks.flatMap Block.outbound).foldl addBranch
    ((nodesOf text tokens lines blocks).foldl Digraph.addNode .empty)

/-- The edge of the graph that an outbound edge becomes, if there are `count` nodes. -/
def arcOf? (count : Nat) (edge : Edge) : Option (Arc BranchLines) :=
  if edge.origin.block < count ∧ edge.target.block < count then
    some ⟨edge.origin.block, edge.target.block, edge.origin.line, edge.target.line⟩
  else
    none

theorem addBranch_eq (graph : BlockGraph) (edge : Edge) :
    addBranch graph edge =
      { graph with edges := graph.edges ++ (arcOf? graph.nodeCount edge).toList } := by
  unfold addBranch arcOf?
  split
  · rfl
  · simp

theorem foldl_addBranch (graph : BlockGraph) (edges : List Edge) :
    edges.foldl addBranch graph =
      { graph with edges := graph.edges ++ edges.filterMap (arcOf? graph.nodeCount) } := by
  induction edges generalizing graph with
  | nil => simp
  | cons edge rest ih =>
    have hcount : (addBranch graph edge).nodeCount = graph.nodeCount := by
      rw [addBranch_eq]
      rfl
    rw [List.foldl_cons, ih, hcount, addBranch_eq, List.filterMap_cons]
    cases arcOf? graph.nodeCount edge <;> simp

/-- The graph has the nodes of the blocks and their outbound edges. -/
theorem ofBlocks_eq (text : Text) (tokens : List Token) (lines : List Line)
    (blocks : List Block) :
    ofBlocks text tokens lines blocks =
      ⟨nodesOf text tokens lines blocks,
        (blocks.flatMap Block.outbound).filterMap (arcOf? blocks.length)⟩ := by
  rw [ofBlocks, Digraph.foldl_addNode, foldl_addBranch]
  simp [Digraph.empty, Digraph.nodeCount, nodesOf]

/-! ## Questions about blocks -/

/-- The number of blocks. -/
def blockCount (graph : BlockGraph) : Nat :=
  graph.nodeCount

theorem blockCount_ofBlocks (text : Text) (tokens : List Token) (lines : List Line)
    (blocks : List Block) : (ofBlocks text tokens lines blocks).blockCount = blocks.length := by
  rw [blockCount, ofBlocks_eq, Digraph.nodeCount, nodesOf, List.length_mapIdx]

/-- The node of a block. -/
def node? (graph : BlockGraph) (block : Nat) : Option BlockNode :=
  Digraph.node? graph (Digraph.place block)

/-- The label of a block, empty if it has none. -/
def labelAt (graph : BlockGraph) (block : Nat) : Text :=
  ((graph.node? block).bind (·.label)).getD []

/-- Puts numbers in order, each one once. -/
def ascending (numbers : List Nat) : List Nat :=
  (numbers.mergeSort (· ≤ ·)).eraseDups

/-- The blocks at the `far` ends of the edges with a block at their `near` end. -/
def neighbors (graph : BlockGraph) (near far : Arc BranchLines → Nat) (block : Nat) : List Nat :=
  if block < graph.blockCount then
    ascending (Digraph.neighbors graph near far (Digraph.place block))
  else
    []

/-- The blocks that a block branches to. -/
def successors (graph : BlockGraph) (block : Nat) : List Nat :=
  graph.neighbors (·.source) (·.target) block

/-- The blocks that branch to a block. -/
def predecessors (graph : BlockGraph) (block : Nat) : List Nat :=
  graph.neighbors (·.target) (·.source) block

/-! ## The document -/

/-- The Graphviz document of a graph in a format.  It takes over what is written of
the graph line by line. -/
def document (format : DotFormat) (graph : BlockGraph) : Text :=
  "digraph \x7b\n    node [shape=box]\n".toList ++
    Text.ofLines (graph.writeDot format BlockNode.shown BranchLines.shown).lines ++ "\x7d\n".toList

/-- The graph as a Graphviz document. -/
def toDot (graph : BlockGraph) : Text :=
  graph.document .escaping

end BlockGraph

end AsmListing
