import AsmListing.Text.Basic

/-!
# Directed graphs

What the graph of blocks takes from a graph library, and nothing that is its own.

* `Digraph` stores nodes and edges in the order in which they are added.  A node is
  known by its place, an edge by the places of its ends, and places are words of 32
  bits.
* `DotFormat` says how a graph is written for Graphviz, with one line for each node
  and each edge; `DotFormat.Lawful` is what is relied on about these lines.
  `DotFormat.escaping` is the format that is used.
-/

namespace AsmListing

/-! ## The store -/

/-- An edge from one place to another, with what is known about it. -/
structure Arc (Weight : Type) where
  source : Nat
  target : Nat
  weight : Weight
  deriving DecidableEq, Repr

/-- A directed graph, by its nodes and its edges in the order in which they were
added. -/
structure Digraph (Node Weight : Type) where
  nodes : List Node
  edges : List (Arc Weight)
  deriving DecidableEq, Repr

namespace Digraph

variable {Node Weight : Type}

/-- The graph without nodes. -/
def empty : Digraph Node Weight :=
  ⟨[], []⟩

/-- Adds a node at the next place. -/
def addNode (graph : Digraph Node Weight) (node : Node) : Digraph Node Weight :=
  { graph with nodes := graph.nodes ++ [node] }

/-- Adds an edge between two places. -/
def addEdge (graph : Digraph Node Weight) (source target : Nat) (weight : Weight) :
    Digraph Node Weight :=
  { graph with edges := graph.edges ++ [⟨source, target, weight⟩] }

/-- The number of nodes. -/
def nodeCount (graph : Digraph Node Weight) : Nat :=
  graph.nodes.length

/-- The number of edges. -/
def edgeCount (graph : Digraph Node Weight) : Nat :=
  graph.edges.length

/-- The number of places. -/
def indexLimit : Nat := 4294967296

/-- The place that a number stands for: only its lower 32 bits count. -/
def place (number : Nat) : Nat :=
  number % indexLimit

/-- The node at a place. -/
def node? (graph : Digraph Node Weight) (place : Nat) : Option Node :=
  graph.nodes[place]?

/-- The places at the `far` ends of the edges with a place at their `near` end, once
for each edge. -/
def neighbors (graph : Digraph Node Weight) (near far : Arc Weight → Nat) (place : Nat) :
    List Nat :=
  (graph.edges.filter (near · == place)).map far

theorem place_of_lt {number : Nat} (hnumber : number < indexLimit) : place number = number :=
  Nat.mod_eq_of_lt hnumber

theorem mem_neighbors_iff {graph : Digraph Node Weight} {near far : Arc Weight → Nat}
    {place neighbor : Nat} :
    neighbor ∈ graph.neighbors near far place ↔
      ∃ edge ∈ graph.edges, near edge = place ∧ far edge = neighbor := by
  simp [neighbors, and_assoc]

/-- Nodes that are added one after the other stand in this order, and no edge comes
with them. -/
theorem foldl_addNode (graph : Digraph Node Weight) (added : List Node) :
    added.foldl addNode graph = { graph with nodes := graph.nodes ++ added } := by
  induction added generalizing graph with
  | nil => simp
  | cons node rest ih => simp [ih, addNode]

end Digraph

/-! ## Graphviz -/

/-- How the nodes and the edges of a graph are written for Graphviz. -/
structure DotFormat where
  /-- The line of the node at a place, with what is shown of it. -/
  nodeLine : Nat → Text → Text
  /-- The line of an edge between two places, with what is shown of it. -/
  edgeLine : Nat → Nat → Text → Text

/-- Each node and each edge has one line of its own, whatever is shown of it, and the
lines can be told apart. -/
structure DotFormat.Lawful (format : DotFormat) : Prop where
  isWhole_nodeLine : ∀ place shown, (format.nodeLine place shown).IsWhole
  isWhole_edgeLine : ∀ source target shown, (format.edgeLine source target shown).IsWhole
  nodeLine_inj : ∀ {place first second},
    format.nodeLine place first = format.nodeLine place second → first = second
  edgeLine_inj : ∀ {source target shown source' target' shown'},
    format.edgeLine source target shown = format.edgeLine source' target' shown' →
      source = source' ∧ target = target' ∧ shown = shown'
  nodeLine_ne_edgeLine : ∀ place first source target second,
    format.nodeLine place first ≠ format.edgeLine source target second

namespace Digraph

variable {Node Weight : Type} (format : DotFormat) (showNode : Node → Text)
  (showWeight : Weight → Text)

/-- The lines of the nodes, then those of the edges. -/
def dotLines (graph : Digraph Node Weight) : List Text :=
  (graph.nodes.mapIdx fun place node => format.nodeLine place (showNode node)) ++
    graph.edges.map fun edge => format.edgeLine edge.source edge.target (showWeight edge.weight)

/-- What is written of a graph: its lines, without a frame around them. -/
def writeDot (graph : Digraph Node Weight) : Text :=
  Text.ofLines (graph.dotLines format showNode showWeight)

end Digraph

namespace DotFormat

/-- How a character of a label is written.  The quote and the backslash are preceded
by a backslash, and a line feed is a backslash and the letter `l`, so that no label
breaks its line. -/
def escapeChar (character : Char) : Text :=
  match character with
  | '"' => ['\\', '"']
  | '\\' => ['\\', '\\']
  | '\n' => ['\\', 'l']
  | other => [other]

/-- An attribute list with a label. -/
def label (shown : Text) : Text :=
  " [ label = \"".toList ++ shown.flatMap escapeChar ++ "\" ]".toList

/-- The format with labels whose characters are escaped. -/
def escaping : DotFormat where
  nodeLine place shown := "    ".toList ++ Text.ofNat place ++ label shown
  edgeLine source target shown :=
    "    ".toList ++ Text.ofNat source ++ " -> ".toList ++ Text.ofNat target ++ label shown

end DotFormat

end AsmListing
