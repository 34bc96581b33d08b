import AsmListing.Proofs.Numerals
import AsmListing.Session
import Mathlib.Data.List.Basic

/-!
# The graph in its Graphviz document

What is written of a graph is cut into lines again and put together once more, and
labels can hold anything.  Nothing is lost on the way: the document has one line for
each node and each edge, beside three of its own, and it determines the labels of the
blocks and the list of the edges.

* In every lawful format the lines that are written can be told apart again
  (`Text.lines_ofLines`), so the lines of the document are those that were written
  (`BlockGraph.document_eq`).  The line of a node is never that of an edge, so the
  nodes end where the edges begin, and a line determines what is shown in it
  (`Digraph.dotLines_inj`).
* The format that is used is lawful (`DotFormat.lawful_escaping`).  A label breaks no
  line, because its line feeds are written as two other characters; numbers end where
  the digits do, and `readLabel` reads a written label back.
-/

namespace AsmListing

/-! ## The format that is used -/

namespace DotFormat

/-- The label that was written as a text. -/
def readLabel : Text → Text
  | [] => []
  | '\\' :: 'l' :: rest => '\n' :: readLabel rest
  | '\\' :: character :: rest => character :: readLabel rest
  | character :: rest => character :: readLabel rest

theorem readLabel_flatMap_escapeChar (shown : Text) :
    readLabel (shown.flatMap escapeChar) = shown := by
  induction shown with
  | nil => rfl
  | cons character rest ih =>
      rw [List.flatMap_cons]
      by_cases hquote : character = '"'
      · simp [hquote, escapeChar, readLabel, ih]
      · by_cases hslash : character = '\\'
        · simp [hslash, escapeChar, readLabel, ih]
        · by_cases hfeed : character = '\n'
          · simp [hfeed, escapeChar, readLabel, ih]
          · have hplain : escapeChar character = [character] := by
              unfold escapeChar
              split <;> simp_all
            simp [hplain, readLabel, hslash, ih]

theorem newLine_notMem_escapeChar (character : Char) : '\n' ∉ escapeChar character := by
  unfold escapeChar
  split <;> simp_all [eq_comm]

/-- The parts of an attribute list, character by character. -/
theorem label_eq (shown : Text) :
    label shown =
      [' ', '[', ' ', 'l', 'a', 'b', 'e', 'l', ' ', '=', ' ', '"'] ++ shown.flatMap escapeChar ++
        ['"', ' ', ']'] := rfl

theorem label_inj {first second : Text} (hsame : label first = label second) :
    first = second := by
  rw [label_eq, label_eq] at hsame
  have hwritten := List.append_cancel_left (List.append_cancel_right hsame)
  rw [← readLabel_flatMap_escapeChar first, hwritten, readLabel_flatMap_escapeChar]

theorem isDigit_head?_label (shown : Text) :
    ∀ character ∈ (label shown).head?, character.isDigit = false := by
  rw [label_eq]
  simp

/-- An attribute list keeps the line that it ends whole. -/
theorem isWhole_append_label {front : Text} (hfront : '\n' ∉ front) (shown : Text) :
    Text.IsWhole (front ++ label shown) := by
  have hshown : '\n' ∉ shown.flatMap escapeChar := by
    intro hmem
    obtain ⟨character, -, hcharacter⟩ := List.mem_flatMap.mp hmem
    exact newLine_notMem_escapeChar character hcharacter
  rw [label_eq]
  constructor
  · simp [hfront, hshown]
  · rw [← List.append_assoc, List.getLast?_append]
    simp

theorem escaping_nodeLine_eq (place : Nat) (shown : Text) :
    escaping.nodeLine place shown = "    ".toList ++ (Text.ofNat place ++ label shown) :=
  List.append_assoc _ _ _

theorem escaping_edgeLine_eq (source target : Nat) (shown : Text) :
    escaping.edgeLine source target shown =
      "    ".toList ++ (Text.ofNat source ++ ([' ', '-', '>', ' '] ++
        (Text.ofNat target ++ label shown))) := by
  simp only [escaping, List.append_assoc]
  rfl

theorem lawful_escaping : escaping.Lawful where
  isWhole_nodeLine place shown := by
    apply isWhole_append_label
    simp [Text.notMem_ofNat]
  isWhole_edgeLine source target shown := by
    apply isWhole_append_label
    simp [Text.notMem_ofNat]
  nodeLine_inj := by
    intro place first second hsame
    rw [escaping_nodeLine_eq, escaping_nodeLine_eq] at hsame
    exact label_inj (List.append_cancel_left (List.append_cancel_left hsame))
  edgeLine_inj := by
    intro source target shown source' target' shown' hsame
    rw [escaping_edgeLine_eq, escaping_edgeLine_eq] at hsame
    obtain ⟨hsource, hrest⟩ := Text.ofNat_append_inj (by simp) (by simp)
      (List.append_cancel_left hsame)
    obtain ⟨htarget, hlabel⟩ := Text.ofNat_append_inj (isDigit_head?_label _)
      (isDigit_head?_label _) (List.append_cancel_left hrest)
    exact ⟨hsource, htarget, label_inj hlabel⟩
  nodeLine_ne_edgeLine := by
    intro place first source target second hsame
    rw [escaping_nodeLine_eq, escaping_edgeLine_eq] at hsame
    -- after the first number a node has its label and an edge its arrow
    obtain ⟨-, hrest⟩ := Text.ofNat_append_inj (isDigit_head?_label _) (by simp)
      (List.append_cancel_left hsame)
    rw [label_eq] at hrest
    simp at hrest

end DotFormat

/-! ## What is written of a graph -/

namespace Digraph

variable {Node Weight : Type} {format : DotFormat} (hlawful : format.Lawful)
  {showNode : Node → Text} {showWeight : Weight → Text} {first second : Digraph Node Weight}

include hlawful

theorem isWhole_of_mem_dotLines (graph : Digraph Node Weight) :
    ∀ line ∈ graph.dotLines format showNode showWeight, Text.IsWhole line := by
  intro line hline
  rcases List.mem_append.mp hline with hnode | hedge
  · obtain ⟨place, _, rfl⟩ := List.mem_mapIdx.mp hnode
    exact hlawful.isWhole_nodeLine _ _
  · obtain ⟨edge, -, rfl⟩ := List.mem_map.mp hedge
    exact hlawful.isWhole_edgeLine _ _ _

/-- The lines of nodes end where those of edges begin. -/
theorem dotLines_parts_inj
    (hsame : first.dotLines format showNode showWeight =
      second.dotLines format showNode showWeight) :
    (first.nodes.mapIdx fun place node => format.nodeLine place (showNode node)) =
        (second.nodes.mapIdx fun place node => format.nodeLine place (showNode node)) ∧
      (first.edges.map fun edge =>
          format.edgeLine edge.source edge.target (showWeight edge.weight)) =
        second.edges.map fun edge =>
          format.edgeLine edge.source edge.target (showWeight edge.weight) := by
  have hnone : ∀ {nodes : List Node} {edges : List (Arc Weight)} {shared : List Text},
      (shared ⊆ nodes.mapIdx fun place node => format.nodeLine place (showNode node)) →
      (shared ⊆ edges.map fun edge =>
        format.edgeLine edge.source edge.target (showWeight edge.weight)) → shared = [] := by
    intro nodes edges shared hnodes hedges
    rw [List.eq_nil_iff_forall_not_mem]
    intro line hline
    obtain ⟨place, _, hnode⟩ := List.mem_mapIdx.mp (hnodes hline)
    obtain ⟨edge, -, hedge⟩ := List.mem_map.mp (hedges hline)
    exact hlawful.nodeLine_ne_edgeLine _ _ _ _ _ (hnode.trans hedge.symm)
  -- one of the two has more nodes, and those would be edges of the other
  rcases List.append_eq_append_iff.mp hsame with
    ⟨shared, hnodes, hedges⟩ | ⟨shared, hnodes, hedges⟩
  all_goals
    have hshared : shared = [] := hnone (hnodes ▸ List.subset_append_right _ _)
      (hedges ▸ List.subset_append_left _ _)
    simp_all

/-- What is written of a graph determines what is shown of its nodes, and its edges. -/
theorem dotLines_inj (hweight : Function.Injective showWeight)
    (hsame : first.dotLines format showNode showWeight =
      second.dotLines format showNode showWeight) :
    first.nodes.map showNode = second.nodes.map showNode ∧ first.edges = second.edges := by
  obtain ⟨hnodes, hedges⟩ := dotLines_parts_inj hlawful hsame
  constructor
  · apply List.ext_getElem?
    intro place
    have hplace := congrArg (·[place]?) hnodes
    simp only [List.getElem?_mapIdx] at hplace
    rw [List.getElem?_map, List.getElem?_map]
    cases hfirst : first.nodes[place]? with
    | none =>
        rw [hfirst, Option.map_none, eq_comm, Option.map_eq_none_iff] at hplace
        rw [hplace]
    | some node =>
        rw [hfirst] at hplace
        obtain ⟨other, hother, hline⟩ := Option.map_eq_some_iff.mp hplace.symm
        rw [hother, Option.map_some, Option.map_some, hlawful.nodeLine_inj hline]
  · refine List.map_injective_iff.mpr ?_ hedges
    intro edge other hline
    obtain ⟨hsource, htarget, hshown⟩ := hlawful.edgeLine_inj hline
    have hweights := hweight hshown
    cases edge
    cases other
    simp_all

end Digraph

/-! ## The document -/

theorem BlockNode.label_eq_of_shown_eq {first second : BlockNode}
    (hshown : first.shown = second.shown) : first.label = second.label := by
  unfold shown at hshown
  obtain ⟨-, hlabel⟩ := Text.ofNat_append_inj (by cases first.label <;> simp)
    (by cases second.label <;> simp) (List.cons.inj hshown).2
  cases hfirst : first.label <;> cases hsecond : second.label <;> simp_all

theorem BranchLines.shown_injective : Function.Injective shown := by
  intro first second hshown
  obtain ⟨horigin, htarget⟩ := Text.ofNat_append_inj (by simp) (by simp) hshown
  have htarget := Text.ofNat_injective (List.cons.inj htarget).2
  cases first
  cases second
  simp_all

namespace BlockGraph

/-- The lines of the document. -/
def documentLines (format : DotFormat) (graph : BlockGraph) : List Text :=
  ["digraph \x7b".toList, "    node [shape=box]".toList] ++
    graph.dotLines format BlockNode.shown BranchLines.shown ++ ["\x7d".toList]

theorem length_documentLines (format : DotFormat) (graph : BlockGraph) :
    (graph.documentLines format).length = graph.blockCount + graph.edgeCount + 3 := by
  simp [documentLines, Digraph.dotLines, blockCount, Digraph.nodeCount, Digraph.edgeCount]
  omega

section Lawful

variable {format : DotFormat} (hlawful : format.Lawful)

include hlawful

theorem isWhole_of_mem_documentLines {graph : BlockGraph} :
    ∀ line ∈ graph.documentLines format, Text.IsWhole line := by
  have hown : ∀ line ∈ ["digraph \x7b".toList, "    node [shape=box]".toList, "\x7d".toList],
      Text.IsWhole line := by
    unfold Text.IsWhole
    decide
  intro line hline
  simp only [documentLines, List.mem_append] at hline
  rcases hline with (hopening | hdrawn) | hclosing
  · exact hown line (by grind)
  · exact graph.isWhole_of_mem_dotLines hlawful line hdrawn
  · exact hown line (by grind)

/-- The document has the lines that were written of the graph, and three more. -/
theorem document_eq (graph : BlockGraph) :
    graph.document format = Text.ofLines (graph.documentLines format) := by
  unfold document Digraph.writeDot
  rw [Text.lines_ofLines (graph.isWhole_of_mem_dotLines hlawful), documentLines,
    Text.ofLines_append, Text.ofLines_append]
  rfl

/-- A document determines its graph, but for the kinds of the blocks. -/
theorem document_inj {first second : BlockGraph}
    (hsame : first.document format = second.document format) :
    first.nodes.map (·.label) = second.nodes.map (·.label) ∧ first.edges = second.edges := by
  have hlines : first.documentLines format = second.documentLines format := by
    calc first.documentLines format
        = (first.document format).lines := by
          rw [document_eq hlawful, Text.lines_ofLines (isWhole_of_mem_documentLines hlawful)]
      _ = (second.document format).lines := by rw [hsame]
      _ = second.documentLines format := by
          rw [document_eq hlawful, Text.lines_ofLines (isWhole_of_mem_documentLines hlawful)]
  obtain ⟨hnodes, hedges⟩ := Digraph.dotLines_inj hlawful BranchLines.shown_injective
    (List.append_cancel_left (List.append_cancel_right hlines))
  obtain ⟨labelOf, hlabelOf⟩ := (Function.factorsThrough_iff BlockNode.label).mp
    fun _ _ => BlockNode.label_eq_of_shown_eq
  refine ⟨?_, hedges⟩
  calc first.nodes.map (·.label)
      = (first.nodes.map BlockNode.shown).map labelOf := by rw [List.map_map, ← hlabelOf]
    _ = (second.nodes.map BlockNode.shown).map labelOf := by rw [hnodes]
    _ = second.nodes.map (·.label) := by rw [List.map_map, ← hlabelOf]

end Lawful

end BlockGraph

/-- The Graphviz document of a listing is a faithful encoding of its graph.  It has
one line for each block and each branch and three more, whatever the labels hold, and
two documents are the same only for the same labels, block by block, and the same
edges in the same order. -/
theorem Session.dot_encodes_graph :
    (∀ session : Session, session.graph.blockCount = session.blocks.length ∧
      ∃ lines : List Text, session.graph.toDot = Text.ofLines lines ∧
        (∀ line ∈ lines, '\n' ∉ line) ∧
        lines.length = session.graph.blockCount + session.graph.edgeCount + 3) ∧
    ∀ first second : Session, first.graph.toDot = second.graph.toDot →
      first.graph.blockCount = second.graph.blockCount ∧
      first.graph.nodes.map (·.label) = second.graph.nodes.map (·.label) ∧
      first.graph.edges = second.graph.edges := by
  constructor
  · intro session
    refine ⟨BlockGraph.blockCount_ofBlocks _ _ _ _, session.graph.documentLines .escaping,
      BlockGraph.document_eq DotFormat.lawful_escaping _, ?_,
      BlockGraph.length_documentLines _ _⟩
    intro line hline
    exact (BlockGraph.isWhole_of_mem_documentLines DotFormat.lawful_escaping line hline).1
  · intro first second hsame
    obtain ⟨hlabels, hedges⟩ := BlockGraph.document_inj DotFormat.lawful_escaping hsame
    have hcount := congrArg List.length hlabels
    rw [List.length_map, List.length_map] at hcount
    exact ⟨hcount, hlabels, hedges⟩

set_option maxRecDepth 10000 in
/-- A branch to a label that holds quotes, a backslash and a line feed.  A comment at
the end of the listing leaves the document as it is. -/
theorem Session.dot_encodes_graph_sample :
    ∃ first second : Session,
      first = (fresh.load .none " br \"a\\\nb\"\n\"a\\\nb\":\n".toList .wasm {}).2 ∧
      second = (fresh.load .none " br \"a\\\nb\"\n\"a\\\nb\":\n# c\n".toList .wasm {}).2 ∧
      first.lines ≠ second.lines ∧ first.graph.toDot = second.graph.toDot ∧
      second.graph.nodes.map (·.label) = [none, some "\"a\\\nb\"".toList] ∧
      second.graph.edges = [⟨0, 1, 0, 0⟩] ∧
      ∃ lines : List Text, second.graph.toDot = Text.ofLines lines ∧
        (∀ line ∈ lines, '\n' ∉ line) ∧ lines.length = 6 := by
  let first := (fresh.load .none " br \"a\\\nb\"\n\"a\\\nb\":\n".toList .wasm {}).2
  let second := (fresh.load .none " br \"a\\\nb\"\n\"a\\\nb\":\n# c\n".toList .wasm {}).2
  have hgraph : first.graph =
      ⟨[⟨0, .code, none⟩, ⟨1, .none, some "\"a\\\nb\"".toList⟩], [⟨0, 1, 0, 0⟩]⟩ := by
    decide +kernel
  have hlines : first.lines ≠ second.lines := by decide +kernel
  have hsame : first.graph.toDot = second.graph.toDot := by decide +kernel
  obtain ⟨hcount, hlabels, hedges⟩ := dot_encodes_graph.2 first second hsame
  obtain ⟨-, lines, hdocument, hwhole, hlength⟩ := dot_encodes_graph.1 second
  rw [← hcount, Digraph.edgeCount, ← hedges, hgraph] at hlength
  rw [hgraph] at hlabels hedges
  exact ⟨first, second, rfl, rfl, hlines, hsame, hlabels.symm, hedges.symm, lines, hdocument,
    hwhole, hlength⟩

end AsmListing
