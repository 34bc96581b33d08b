import AsmListing.Proofs.Borders
import AsmListing.Proofs.EdgePairs
import AsmListing.Proofs.Failures
import Mathlib.Data.Prod.Lex

/-!
# The order of edges

The edges of a block are sorted by their direction and by the line at the other end.
Two jumps of one block to the same label are equal in this order, and yet they never
change places from one analysis to the next: sorting is stable, and edges are added in
the order of their lines.  So the edges are also in order by the line at their own end
(`Edge.key`), and nothing is left open.

* Sorting keeps the order of items that tie (`filter_mergeSort`), so whatever holds of
  them as they were added holds of them afterwards (`pairwise_mergeSort_of_ties`).
* Links are made in the order of the lines that they start at
  (`pairwise_source_referenceLinks`), and lead to the first lines of blocks
  (`LaidOut.branchesTo_of_mem_referenceLinks`).
-/

namespace AsmListing

/-- The key by which the edges of a block are in order: inbound before outbound, then
the block and the line at the other end, then the line at the own end. -/
def Edge.key (edge : Edge) : Nat ×ₗ Nat ×ₗ Nat ×ₗ Nat :=
  toLex (edge.direction.rank, toLex (edge.target.block, toLex (edge.target.line, edge.origin.line)))

/-- A way from a line that branches or jumps to the first line of a block. -/
structure Analysis.BranchesTo (analysis : Analysis) (source target : LineRef) : Prop where
  source_branches : ∃ index line, analysis.LineAt source index line ∧
    (line.kind = .codeBranch ∨ line.kind = .codeJump)
  target_exists : ∃ index line, analysis.LineAt target index line
  target_first : target.line = 0

/-! ## Sorting and ties -/

section Sorting

variable {α : Type} {le : α → α → Bool}
  (htrans : ∀ first second third, le first second → le second third → le first third)
  (htotal : ∀ left right, le left right || le right left)

include htrans htotal

/-- Items among which sorting decides nothing stay in their order. -/
theorem filter_mergeSort (test : α → Bool)
    (hties : ∀ left right, test left → test right → le left right) (items : List α) :
    (items.mergeSort le).filter test = items.filter test := by
  have hsorted : (items.filter test).Pairwise fun left right => le left right :=
    List.pairwise_of_forall_mem_list fun left hleft right hright =>
      hties left right (List.mem_filter.mp hleft).2 (List.mem_filter.mp hright).2
  have hkept := (List.sublist_mergeSort htrans htotal hsorted List.filter_sublist).filter test
  simp only [List.filter_filter, Bool.and_self] at hkept
  have hlength := ((List.mergeSort_perm items le).filter test).length_eq
  exact (hkept.eq_of_length hlength.symm).symm

/-- What holds of items that tie before sorting holds of them afterwards. -/
theorem pairwise_mergeSort_of_ties {related : α → α → Prop} {items : List α}
    (hties : items.Pairwise fun earlier later =>
      le earlier later → le later earlier → related earlier later) :
    (items.mergeSort le).Pairwise fun earlier later =>
      le earlier later ∧ (le later earlier → related earlier later) := by
  have hsorted := List.pairwise_mergeSort htrans htotal items
  rw [List.pairwise_iff_forall_sublist] at hsorted hties ⊢
  intro earlier later hpair
  have hle := hsorted hpair
  refine ⟨hle, fun hback => hties ?_ hle hback⟩
  -- both are among the items that tie with the first one
  have hself : le earlier earlier := by simpa using htotal earlier earlier
  have hclass := filter_mergeSort htrans htotal (fun item => le item earlier && le earlier item)
    (fun left right hleft hright => by
      rw [Bool.and_eq_true] at hleft hright
      exact htrans _ _ _ hleft.1 hright.2) items
  have hkept := hpair.filter fun item => le item earlier && le earlier item
  rw [hclass, List.filter_eq_self.mpr (by simp [hself, hle, hback])] at hkept
  exact hkept.trans List.filter_sublist

end Sorting

theorem Edge.key_le_iff (left right : Edge) :
    left.key ≤ right.key ↔
      left.Precedes right ∧ (right.Precedes left → left.origin.line ≤ right.origin.line) := by
  simp only [key, Prod.Lex.toLex_le_toLex, Precedes]
  cases left.direction <;> cases right.direction <;> simp [Direction.rank] <;> omega

theorem Edge.Precedes.direction_eq {left right : Edge} (hleft : left.Precedes right)
    (hright : right.Precedes left) : left.direction = right.direction := by
  rcases hleft with ⟨hin, hout⟩ | ⟨hsame, -⟩
  · rcases hright with ⟨-, hother⟩ | ⟨hsame, -⟩
    · rw [hin] at hother
      cases hother
    · exact hsame.symm
  · exact hsame

theorem Edge.eq_of_key_eq {left right : Edge} (hkey : left.key = right.key)
    (hblock : left.origin.block = right.origin.block) : left = right := by
  obtain ⟨direction, ⟨originBlock, originLine⟩, targetBlock, targetLine⟩ := left
  obtain ⟨direction', ⟨originBlock', originLine'⟩, targetBlock', targetLine'⟩ := right
  simp only [key, toLex_inj, Prod.mk.injEq] at hkey
  obtain ⟨hrank, rfl, rfl, rfl⟩ := hkey
  obtain rfl : originBlock = originBlock' := hblock
  cases direction <;> cases direction' <;> simp_all [Direction.rank]

/-! ## The edges of a block as they were added -/

theorem edges_of_getElem?_addLinks {blocks : List Block}
    (hbare : ∀ block ∈ blocks, block.edges = []) {links : List Link} {index : Nat} {block : Block}
    (hblock : ((addLinks blocks links).map Block.sortEdges)[index]? = some block) :
    block.edges = ((linkEdges links).filter (·.origin.block == index)).mergeSort Edge.le := by
  simp only [addLinks, List.getElem?_map, List.getElem?_mapIdx] at hblock
  obtain ⟨linked, hlinked, rfl⟩ := Option.map_eq_some_iff.mp hblock
  obtain ⟨former, hformer, rfl⟩ := Option.map_eq_some_iff.mp hlinked
  simp [Block.sortEdges, hbare former (List.mem_of_getElem? hformer)]

section Added

variable {links : List Link}
  (hordered : links.Pairwise fun earlier later =>
    earlier.source.block = later.source.block → earlier.source.line ≤ later.source.line)
  (hfirst : ∀ link ∈ links, link.target.line = 0)

include hordered hfirst

/-- Outbound edges are added in the order of the lines that they start at, and inbound
edges all start at first lines. -/
theorem pairwise_origin_linkEdges :
    (linkEdges links).Pairwise fun earlier later =>
      earlier.direction = later.direction → earlier.origin.block = later.origin.block →
        earlier.origin.line ≤ later.origin.line := by
  refine List.pairwise_flatMap.mpr ⟨fun link _ => ?_, ?_⟩
  · simp [Link.outward, Link.inward]
  · refine hordered.imp_of_mem fun hearlier hlater hle => ?_
    have hearlier := hfirst _ hearlier
    have hlater := hfirst _ hlater
    simpa [Link.outward, Link.inward, hearlier, hlater] using hle

/-- The edges of a block are sorted by all of their key. -/
theorem pairwise_key_mergeSort (index : Nat) :
    (((linkEdges links).filter (·.origin.block == index)).mergeSort Edge.le).Pairwise
      fun earlier later => earlier.key ≤ later.key := by
  have hties : ((linkEdges links).filter (·.origin.block == index)).Pairwise
      fun earlier later => earlier.le later → later.le earlier →
        earlier.origin.line ≤ later.origin.line := by
    have hadded := (pairwise_origin_linkEdges hordered hfirst).filter (·.origin.block == index)
    refine hadded.imp_of_mem fun hearlier hlater hle hforward hback => hle ?_ ?_
    · rw [Edge.le_iff] at hforward hback
      exact hforward.direction_eq hback
    · have hhere := (List.mem_filter.mp hearlier).2
      have hthere := (List.mem_filter.mp hlater).2
      rw [beq_iff_eq] at hhere hthere
      exact hhere.trans hthere.symm
  refine (pairwise_mergeSort_of_ties Edge.le_trans Edge.le_total hties).imp fun hsorted => ?_
  rw [Edge.key_le_iff, ← Edge.le_iff, ← Edge.le_iff]
  exact hsorted

end Added

/-! ## The order of links -/

theorem map_snd_withEarlier {α : Type} (earlier items : List α) :
    (withEarlier earlier items).map Prod.snd = items := by
  induction items generalizing earlier with
  | nil => rfl
  | cons item rest ih => rw [withEarlier, List.map_cons, ih]

/-- Lines are placed in their order. -/
theorem pairwise_place_placeLines (blocks : List (List StoredLine)) :
    (placeLines blocks).Pairwise fun earlier later =>
      earlier.place.block = later.place.block → earlier.place.line ≤ later.place.line := by
  induction blocks using List.reverseRecOn with
  | nil => exact .nil
  | append_singleton blocks block ih =>
      rw [placeLines_concat]
      refine List.pairwise_append.mpr ⟨ih, ?_, fun earlier hearlier later hlater hsame => ?_⟩
      · refine List.pairwise_iff_getElem.mpr fun first second hfirst hsecond hlt _ => ?_
        simp only [List.getElem_mapIdx]
        exact hlt.le
      · -- an earlier block is another one
        obtain ⟨_, _, hblock, -⟩ := exists_of_mem_placeLines hearlier
        obtain ⟨offset, hoffset, rfl⟩ := List.mem_mapIdx.mp hlater
        have hlt := (List.getElem?_eq_some_iff.mp hblock).1
        exact absurd hsame hlt.ne

theorem exists_of_mem_lineLinks {text : Text} {blockCount : Nat} {lines earlier : List PlacedLine}
    {line : PlacedLine} {link : Link}
    (hlink : link ∈ lineLinks text blockCount lines earlier line) :
    ∃ operand place, line.operand? = some operand ∧
      resolve? text lines (scopeOf text earlier line) (operand.text text) = some place ∧
      link ∈ branchLinks line.kind blockCount line.place place := by
  unfold lineLinks at hlink
  split at hlink
  · cases hlink
  · next operand hoperand =>
      split at hlink
      · cases hlink
      · next place hresolve => exact ⟨operand, place, hoperand, hresolve, hlink⟩

/-- Links are made in the order of the lines that they start at. -/
theorem pairwise_source_referenceLinks (text : Text) (blockCount : Nat) {lines : List PlacedLine}
    (hplaced : lines.Pairwise fun earlier later =>
      earlier.place.block = later.place.block → earlier.place.line ≤ later.place.line) :
    (referenceLinks text blockCount lines).Pairwise fun earlier later =>
      earlier.source.block = later.source.block → earlier.source.line ≤ later.source.line := by
  have hsource : ∀ {earlier : List PlacedLine} {line : PlacedLine},
      ∀ link ∈ lineLinks text blockCount lines earlier line, link.source = line.place := by
    intro earlier line link hlink
    obtain ⟨_, _, -, -, hlink⟩ := exists_of_mem_lineLinks hlink
    exact source_of_mem_branchLinks hlink
  rw [← map_snd_withEarlier [] lines, List.pairwise_map] at hplaced
  refine List.pairwise_flatMap.mpr ⟨fun _ _ => ?_, ?_⟩
  · refine List.pairwise_of_forall_mem_list fun first hfirst second hsecond _ => ?_
    rw [hsource first hfirst, hsource second hsecond]
  · refine hplaced.imp fun hle first hfirst second hsecond hsame => ?_
    rw [hsource first hfirst, hsource second hsecond] at hsame ⊢
    exact hle hsame

/-! ## The ends of links -/

theorem PlacedLine.branches_of_operand? {line : PlacedLine} {operand : Token}
    (hoperand : line.operand? = some operand) :
    line.kind = .codeBranch ∨ line.kind = .codeJump := by
  unfold operand? at hoperand
  split at hoperand
  · next hkind => exact hkind
  · cases hoperand

/-- A declaration is the first line of its block. -/
theorem line_eq_zero_of_declaration {lines : List StoredLine} {line : PlacedLine}
    (hline : line ∈ placeLines (lines.splitBy joins)) (hkind : line.kind = .labelDeclaration) :
    line.place.line = 0 := by
  obtain ⟨block, stored, hblock, hstored, hsame, -⟩ := exists_of_mem_placeLines hline
  have hmem := List.mem_of_getElem? hblock
  obtain ⟨first, rest, rfl⟩ := List.exists_cons_of_ne_nil (List.ne_nil_of_mem_splitBy hmem)
  cases hplace : line.place.line with
  | zero => rfl
  | succ offset =>
      rw [hplace, List.getElem?_cons_succ] at hstored
      have hother := kind_ne_of_isChain_joins (List.isChain_of_mem_splitBy hmem) stored
        (List.mem_of_getElem? hstored)
      exact absurd (hsame.symm.trans hkind) hother

namespace LaidOut

variable {context : Context} {read : SourceTable × List StoredLine} {analysis : Analysis}
  (hlaid : LaidOut context read analysis)

include hlaid

theorem exists_lineAt_of_mem_placeLines {line : PlacedLine}
    (hline : line ∈ placeLines (read.2.splitBy joins)) :
    ∃ index content, analysis.LineAt line.place index content ∧ content.kind = line.kind := by
  obtain ⟨block, stored, hblock, hstored, hkind, -⟩ := exists_of_mem_placeLines hline
  obtain ⟨index, content, hat, -, hcontent⟩ := hlaid.exists_lineAt line.place hblock hstored
  exact ⟨index, content, hat, hcontent.trans hkind.symm⟩

/-- Every block has a first line. -/
theorem exists_first_lineAt {index : Nat} (hindex : index < (read.2.splitBy joins).length) :
    ∃ place content, analysis.LineAt ⟨index, 0⟩ place content := by
  have hne := List.ne_nil_of_mem_splitBy (List.getElem_mem hindex)
  have hfirst := List.getElem?_eq_getElem (List.length_pos_of_ne_nil hne)
  obtain ⟨place, content, hat, -⟩ :=
    hlaid.exists_lineAt ⟨index, 0⟩ (List.getElem?_eq_getElem hindex) hfirst
  exact ⟨place, content, hat⟩

/-- Links start at branches and jumps and lead to the first lines of blocks. -/
theorem branchesTo_of_mem_referenceLinks {text : Text} {link : Link}
    (hlink : link ∈ referenceLinks text (read.2.splitBy joins).length
      (placeLines (read.2.splitBy joins))) :
    analysis.BranchesTo link.source link.target := by
  obtain ⟨⟨earlier, line⟩, hmem, hlink⟩ := List.mem_flatMap.mp hlink
  have hline : line ∈ placeLines (read.2.splitBy joins) := by
    rw [← map_snd_withEarlier [] (placeLines (read.2.splitBy joins))]
    exact List.mem_map_of_mem hmem
  obtain ⟨operand, place, hoperand, hresolve, hlink⟩ := exists_of_mem_lineLinks hlink
  obtain ⟨index, content, hat, hkind⟩ := hlaid.exists_lineAt_of_mem_placeLines hline
  have hsource : ∃ index line, analysis.LineAt link.source index line ∧
      (line.kind = .codeBranch ∨ line.kind = .codeJump) := by
    rw [source_of_mem_branchLinks hlink]
    exact ⟨index, content, hat, by rw [hkind]; exact PlacedLine.branches_of_operand? hoperand⟩
  rcases target_of_mem_branchLinks hlink with htarget | ⟨htarget, hcount⟩
  · -- the label that the branch names
    obtain ⟨declaration, hdeclaration, hdeclares, rfl⟩ := exists_declaration_of_resolve? hresolve
    obtain ⟨other, found, hfound, -⟩ := hlaid.exists_lineAt_of_mem_placeLines hdeclaration
    refine ⟨hsource, ⟨other, found, by rwa [htarget]⟩, ?_⟩
    rw [htarget]
    exact line_eq_zero_of_declaration hdeclaration hdeclares
  · -- the block after that of the branch
    rw [htarget]
    exact ⟨hsource, hlaid.exists_first_lineAt hcount, rfl⟩

end LaidOut

/-! ## The edges of an analyzed listing -/

/-- A block holds the ends of the links that the lines of its listing call for. -/
theorem edges_eq_mergeSort {files : Files} {dialect : Dialect} {options : Options} {text : Text}
    {analysis : Analysis} (hanalysis : analyze files dialect options text = .ok analysis)
    {index : Nat} {block : Block} (hblock : analysis.blocks[index]? = some block) :
    block.edges = ((linkEdges (referenceLinks text analysis.blocks.length
      (analysis.placedLines text))).filter (·.origin.block == index)).mergeSort Edge.le := by
  rw [analyze_eq] at hanalysis
  obtain ⟨read, hread, hcomplete⟩ := Fallible.bind_eq_ok.mp hanalysis
  have hlaid := laidOut_of_complete hcomplete
  have hmem := fun line hline => (source_of_readLines hread line hline).2
  obtain ⟨_, rfl, ⟨count, hok⟩, hblocks⟩ := blocks_of_complete hcomplete
  obtain ⟨hlinked, -⟩ := LabelTable.blocks_resolveUses _ _ _ hok
  have hreference := flatMap_linksOf (labeled_placeLines hmem)
    (fun line hline => kindAt?_placeLines hline)
    (fun line hline token htoken => text_ne_nil_of_mem_tokenize
      (mem_tokenize_of_mem_placeLines hmem hline token htoken))
  rw [hblocks, LabelTable.resolve, hlinked, hreference] at hblock
  rw [placedLines_eq hlaid hmem, length_of_map_bare hlaid.blocks_eq, ← length_blockRecords .block 0]
  exact edges_of_getElem?_addLinks (edges_of_mem_blockRecords _ _ _) hblock

/-- The edges of a block are in one order only.  All of them start in the block, and they
lead from branches and jumps to the first lines of blocks: outbound ones from the line at
their own end, inbound ones from the line at the other.  They are sorted by their direction,
by the line at the other end and by the line at their own end, so edges that are the same
up to their order are the same. -/
theorem edges_in_canonical_order {files : Files} {dialect : Dialect} {options : Options}
    {text : Text} {analysis : Analysis}
    (hanalysis : analyze files dialect options text = .ok analysis) {index : Nat} {block : Block}
    (hblock : analysis.blocks[index]? = some block) :
    (∀ edge ∈ block.edges, edge.origin.block = index ∧
      match edge.direction with
      | .outbound => analysis.BranchesTo edge.origin edge.target
      | .inbound => analysis.BranchesTo edge.target edge.origin) ∧
    block.edges.Pairwise (fun earlier later => earlier.key ≤ later.key) ∧
    ∀ edges : List Edge, edges.Perm block.edges →
      edges.Pairwise (fun earlier later => earlier.key ≤ later.key) → edges = block.edges := by
  have hedges := edges_eq_mergeSort hanalysis hblock
  obtain ⟨read, hread, hlaid⟩ := exists_laidOut hanalysis
  rw [placedLines_eq hlaid fun line hline => (source_of_readLines hread line hline).2,
    length_of_map_bare hlaid.blocks_eq] at hedges
  have hown : ∀ edge ∈ block.edges, edge.origin.block = index := by
    intro edge hedge
    rw [hedges, List.mem_mergeSort] at hedge
    simpa using (List.mem_filter.mp hedge).2
  have hsorted : block.edges.Pairwise fun earlier later => earlier.key ≤ later.key := by
    rw [hedges]
    exact pairwise_key_mergeSort
      (pairwise_source_referenceLinks text _ (pairwise_place_placeLines _))
      (fun link hlink => (hlaid.branchesTo_of_mem_referenceLinks hlink).target_first) index
  refine ⟨fun edge hedge => ⟨hown edge hedge, ?_⟩, hsorted, fun edges hperm hpairwise => ?_⟩
  · rw [hedges, List.mem_mergeSort] at hedge
    obtain ⟨link, hlink, hedge⟩ := List.mem_flatMap.mp (List.mem_of_mem_filter hedge)
    have hbranches := hlaid.branchesTo_of_mem_referenceLinks hlink
    rcases List.mem_pair.mp hedge with rfl | rfl
    · exact hbranches
    · exact hbranches
  · refine hperm.eq_of_pairwise (fun first second hfirst hsecond hle hge => ?_) hpairwise hsorted
    refine Edge.eq_of_key_eq (le_antisymm hle hge) ?_
    rw [hown first (hperm.mem_iff.mp hfirst), hown second hsecond]

set_option maxRecDepth 10000 in
/-- Two jumps and a branch of one block lead to its own label, and the branch also to the
block after it.  The edges to the label differ only in the line at their own end. -/
theorem edges_in_canonical_order_sample :
    ∃ analysis block, analyze .none .wasm {} "f:\n br f\n br f\n br_if f\ng:".toList =
        .ok analysis ∧
      analysis.blocks[0]? = some block ∧ analysis.BranchesTo ⟨0, 3⟩ ⟨1, 0⟩ ∧
      block.edges = [⟨.inbound, ⟨0, 0⟩, ⟨0, 1⟩⟩, ⟨.inbound, ⟨0, 0⟩, ⟨0, 2⟩⟩,
        ⟨.inbound, ⟨0, 0⟩, ⟨0, 3⟩⟩, ⟨.outbound, ⟨0, 1⟩, ⟨0, 0⟩⟩, ⟨.outbound, ⟨0, 2⟩, ⟨0, 0⟩⟩,
        ⟨.outbound, ⟨0, 3⟩, ⟨0, 0⟩⟩, ⟨.outbound, ⟨0, 3⟩, ⟨1, 0⟩⟩] := by
  have heval : (analyze .none .wasm {} "f:\n br f\n br f\n br_if f\ng:".toList).toOption.map
      (fun analysis => (analysis.blocks.length,
        referenceLinks "f:\n br f\n br f\n br_if f\ng:".toList analysis.blocks.length
          (analysis.placedLines "f:\n br f\n br f\n br_if f\ng:".toList))) =
      some (2, [⟨⟨0, 1⟩, ⟨0, 0⟩⟩, ⟨⟨0, 2⟩, ⟨0, 0⟩⟩, ⟨⟨0, 3⟩, ⟨0, 0⟩⟩, ⟨⟨0, 3⟩, ⟨1, 0⟩⟩]) := by
    decide +kernel
  obtain ⟨analysis, hanalysis, heval⟩ := Option.map_eq_some_iff.mp heval
  rw [Fallible.toOption_eq_some] at hanalysis
  obtain ⟨hlength, hlinks⟩ := Prod.mk.inj heval
  have hblock := List.getElem?_eq_getElem (show 0 < analysis.blocks.length by omega)
  have hedges := edges_eq_mergeSort hanalysis hblock
  rw [hlinks] at hedges
  obtain ⟨hends, -, hunique⟩ := edges_in_canonical_order hanalysis hblock
  refine ⟨analysis, _, hanalysis, hblock, ?_, (hunique _ ?_ (by decide)).symm⟩
  · refine (hends ⟨.outbound, ⟨0, 3⟩, ⟨1, 0⟩⟩ ?_).2
    rw [hedges, List.mem_mergeSort]
    decide
  · rw [hedges]
    exact List.Perm.trans (by decide) (List.mergeSort_perm _ _).symm

end AsmListing
