import AsmListing.Proofs.Links
import Mathlib.Data.List.Count

/-!
# Edges come in pairs

A branch is recorded twice: as an outbound edge of its own block, and as an
inbound edge of the block it leads to.  The two halves are added one after the
other, a conditional branch adds two pairs, and any use of a label may stop the
resolution because it refers to a line or a block that does not exist.  Still no
half is ever left alone (`Mirrored`), whether the resolution comes to its end or
not.

By `LabelTable.resolveUses_cases` a run makes the links of some first part of the
uses, and none of these dangles.  So both ends of every link lie in blocks that
exist, and each link is counted once on either side (`count_outward` and
`count_inward`).  A block can hold both halves of a pair, and two links can be
the same, when a conditional branch leads to the block after its own: therefore
edges are counted here, and not only found.
-/

namespace AsmListing

/-- The edges that are stored on the block at an index. -/
def edgesAt (blocks : List Block) (index : Nat) : List Edge :=
  (blocks[index]?.map Block.edges).getD []

/-- Every edge is stored on the block of its origin, and each outbound edge has an
inbound edge of its own at the other end. -/
structure Mirrored (blocks : List Block) : Prop where
  paired : ∀ origin target : LineRef,
    (edgesAt blocks origin.block).count ⟨.outbound, origin, target⟩ =
      (edgesAt blocks target.block).count ⟨.inbound, target, origin⟩
  own : ∀ index, ∀ edge ∈ edgesAt blocks index, edge.origin.block = index

/-- The order of the edges of a block: inbound edges before outbound ones, then by
the block and the line at the other end. -/
def Edge.Precedes (left right : Edge) : Prop :=
  left.direction = .inbound ∧ right.direction = .outbound ∨
    left.direction = right.direction ∧
      (left.target.block < right.target.block ∨
        left.target.block = right.target.block ∧ left.target.line ≤ right.target.line)

/-- Whether a use makes a second link, to the block after its own. -/
def LabelTable.fallsThrough (table : LabelTable) (text : Text) (lines : List Line)
    (blocks : List Block) (use : LabelUse) : Bool :=
  (table.targetOf? text use).isSome && kindAt? lines blocks use.source == some .codeBranch &&
    use.source.block + 1 < blocks.length

/-! ## Edges against links -/

theorem filter_inbound_linkEdges (links : List Link) :
    (linkEdges links).filter (·.direction == .inbound) = links.map Link.inward := by
  induction links with
  | nil => rfl
  | cons link rest ih =>
      rw [linkEdges, List.flatMap_cons, List.filter_append, ← linkEdges, ih]
      rfl

theorem count_outward (links : List Link) (link : Link) :
    (linkEdges links).count link.outward = links.count link := by
  have hinjective : Function.Injective Link.outward := by
    rintro ⟨source, target⟩ ⟨source', target'⟩ hsame
    simpa [Link.outward] using hsame
  rw [← List.count_filter (p := fun edge => edge.direction == .outbound) rfl,
    filter_outbound_linkEdges, List.count_map_of_injective links Link.outward hinjective]

theorem count_inward (links : List Link) (link : Link) :
    (linkEdges links).count link.inward = links.count link := by
  have hinjective : Function.Injective Link.inward := by
    rintro ⟨source, target⟩ ⟨source', target'⟩ hsame
    simpa [Link.inward, and_comm] using hsame
  rw [← List.count_filter (p := fun edge => edge.direction == .inbound) rfl,
    filter_inbound_linkEdges, List.count_map_of_injective links Link.inward hinjective]

theorem inside_of_mem_linkEdges {links : List Link} {count : Nat}
    (hinside : ∀ link ∈ links, link.source.block < count ∧ link.target.block < count) :
    ∀ edge ∈ linkEdges links, edge.origin.block < count := by
  intro edge hedge
  obtain ⟨link, hlink, hedge⟩ := List.mem_flatMap.mp hedge
  obtain ⟨hsource, htarget⟩ := hinside link hlink
  rcases List.mem_pair.mp hedge with rfl | rfl
  · exact hsource
  · exact htarget

section Links

variable {blocks : List Block} (hbare : ∀ block ∈ blocks, block.edges = []) {links : List Link}
  (hinside : ∀ link ∈ links,
    link.source.block < blocks.length ∧ link.target.block < blocks.length)

include hbare hinside

/-- Links whose ends exist are stored where their ends lie. -/
theorem edgesAt_addLinks (index : Nat) :
    edgesAt (addLinks blocks links) index =
      (linkEdges links).filter (·.origin.block == index) := by
  unfold edgesAt addLinks
  rw [List.getElem?_mapIdx]
  cases hblock : blocks[index]? with
  | some block => simp [hbare block (List.mem_of_getElem? hblock)]
  | none =>
      -- no end of a link lies past the blocks
      symm
      refine List.filter_eq_nil_iff.mpr fun edge hedge => ?_
      have hlt := inside_of_mem_linkEdges hinside edge hedge
      have hle := List.getElem?_eq_none_iff.mp hblock
      simp only [beq_iff_eq]
      omega

theorem mirrored_addLinks : Mirrored (addLinks blocks links) where
  paired origin target := by
    have hcount : ∀ edge : Edge, (edgesAt (addLinks blocks links) edge.origin.block).count edge =
        (linkEdges links).count edge := by
      intro edge
      rw [edgesAt_addLinks hbare hinside, List.count_filter (by simp)]
    calc (edgesAt (addLinks blocks links) origin.block).count ⟨.outbound, origin, target⟩
        = (linkEdges links).count (Link.mk origin target).outward := hcount ⟨_, origin, target⟩
      _ = links.count ⟨origin, target⟩ := count_outward links _
      _ = (linkEdges links).count (Link.mk origin target).inward := (count_inward links _).symm
      _ = (edgesAt (addLinks blocks links) target.block).count ⟨.inbound, target, origin⟩ :=
        (hcount ⟨_, target, origin⟩).symm
  own index edge hedge := by
    rw [edgesAt_addLinks hbare hinside] at hedge
    simpa using (List.mem_filter.mp hedge).2

end Links

/-! ## Sorting edges -/

theorem perm_edgesAt_sortEdges (blocks : List Block) (index : Nat) :
    (edgesAt (blocks.map Block.sortEdges) index).Perm (edgesAt blocks index) := by
  unfold edgesAt
  rw [List.getElem?_map]
  cases blocks[index]? with
  | none => exact .nil
  | some block => exact List.mergeSort_perm block.edges Edge.le

theorem Mirrored.sortEdges {blocks : List Block} (hmirrored : Mirrored blocks) :
    Mirrored (blocks.map Block.sortEdges) where
  paired origin target := by
    rw [(perm_edgesAt_sortEdges blocks _).count_eq, (perm_edgesAt_sortEdges blocks _).count_eq]
    exact hmirrored.paired origin target
  own index edge hedge :=
    hmirrored.own index edge ((perm_edgesAt_sortEdges blocks index).mem_iff.mp hedge)

theorem Edge.le_iff (left right : Edge) : left.le right ↔ left.Precedes right := by
  unfold Edge.le Edge.Precedes
  cases left.direction <;> cases right.direction <;> simp [Direction.rank]

theorem Edge.Precedes.trans {first second third : Edge} (hfirst : first.Precedes second)
    (hsecond : second.Precedes third) : first.Precedes third := by
  unfold Edge.Precedes at *
  rcases hfirst with ⟨hin, hout⟩ | ⟨hsame, hfirst⟩ <;>
    rcases hsecond with ⟨hin', hout'⟩ | ⟨hsame', hsecond⟩
  · rw [hout] at hin'
    cases hin'
  · exact .inl ⟨hin, hsame'.symm.trans hout⟩
  · exact .inl ⟨hsame.trans hin', hout'⟩
  · exact .inr ⟨hsame.trans hsame', by omega⟩

theorem Edge.precedes_total (left right : Edge) : left.Precedes right ∨ right.Precedes left := by
  unfold Edge.Precedes
  cases left.direction <;> cases right.direction <;> simp <;> omega

theorem Edge.le_trans (first second third : Edge) (hfirst : first.le second)
    (hsecond : second.le third) : first.le third := by
  rw [Edge.le_iff] at *
  exact hfirst.trans hsecond

theorem Edge.le_total (left right : Edge) : left.le right || right.le left := by
  rw [Bool.or_eq_true, Edge.le_iff, Edge.le_iff]
  exact left.precedes_total right

theorem Block.pairwise_precedes_sortEdges (block : Block) :
    block.sortEdges.edges.Pairwise Edge.Precedes := by
  have hsorted : block.sortEdges.edges.Pairwise fun left right => left.le right :=
    List.pairwise_mergeSort Edge.le_trans Edge.le_total block.edges
  exact hsorted.imp fun hle => (Edge.le_iff _ _).mp hle

/-! ## How many links there are -/

namespace LabelTable

variable {table : LabelTable} {text : Text} {lines : List Line} {blocks : List Block}

theorem length_linksOf {use : LabelUse} (hsound : ¬ table.Dangles text lines blocks use) :
    (table.linksOf text lines blocks use).length =
      (if (table.targetOf? text use).isSome then 1 else 0) +
        if table.fallsThrough text lines blocks use then 1 else 0 := by
  unfold fallsThrough linksOf
  rw [← targetOf?]
  cases htarget : table.targetOf? text use with
  | none => simp
  | some target =>
      cases hkind : kindAt? lines blocks use.source with
      | none => exact absurd ⟨target, htarget, .inl hkind⟩ hsound
      | some kind =>
          simp only [branchLinks, List.length_cons, Option.isSome_some, Bool.true_and, if_true,
            Bool.and_eq_true, beq_iff_eq, Option.some.injEq, decide_eq_true_eq]
          split <;> rfl

/-- Every resolved use makes one link, and a second one if it falls through. -/
theorem length_flatMap_linksOf {uses : List LabelUse}
    (hsound : ∀ use ∈ uses, ¬ table.Dangles text lines blocks use) :
    (uses.flatMap (table.linksOf text lines blocks)).length =
      uses.countP (fun use => (table.targetOf? text use).isSome) +
        uses.countP (table.fallsThrough text lines blocks) := by
  induction uses with
  | nil => rfl
  | cons use rest ih =>
      have hrest := ih fun other hother => hsound other (List.mem_cons_of_mem _ hother)
      have hfirst := length_linksOf (hsound use List.mem_cons_self)
      rw [List.flatMap_cons, List.length_append, hrest, hfirst, List.countP_cons, List.countP_cons]
      omega

end LabelTable

/-! ## What resolving labels leaves behind -/

/-- Whether resolving labels comes to its end or stops before, no edge is stored at one
of its ends only. -/
theorem LabelTable.mirrored_resolve (table : LabelTable) (text : Text) (lines : List Line)
    {blocks : List Block} (hbare : ∀ block ∈ blocks, block.edges = []) :
    Mirrored (table.resolve text lines blocks).blocks := by
  unfold resolve
  obtain ⟨hsound, hrun⟩ | ⟨_, _, _, _, -, hsound, -, hrun⟩ :=
    table.resolveUses_cases text lines table.uses blocks 0
  · rw [hrun]
    exact (mirrored_addLinks hbare (inside_of_mem_flatMap_linksOf hsound)).sortEdges
  · rw [hrun]
    exact mirrored_addLinks hbare (inside_of_mem_flatMap_linksOf hsound)

/-- Resolving labels never leaves half an edge, whether it comes to its end or not.
At its end it has counted the uses of declared labels, has stored the edges of all
uses in order, and each of them has left one outbound edge, or two if it falls
through.  Otherwise it has stopped at the first use that refers to something that
does not exist, and the edges are those of the uses before. -/
theorem resolve_mirrors_edges (table : LabelTable) (text : Text) (lines : List Line)
    {blocks : List Block} (hbare : ∀ block ∈ blocks, block.edges = []) :
    Mirrored (table.resolve text lines blocks).blocks ∧
    (∀ count, (table.resolve text lines blocks).outcome = .ok count →
      count = table.uses.countP (fun use => (table.targetOf? text use).isSome) ∧
      (∀ block ∈ (table.resolve text lines blocks).blocks, block.edges.Pairwise Edge.Precedes) ∧
      ((table.resolve text lines blocks).blocks.flatMap Block.outbound).length =
        count + table.uses.countP (table.fallsThrough text lines blocks) ∧
      ∀ index, (edgesAt (table.resolve text lines blocks).blocks index).Perm
        ((linkEdges (table.uses.flatMap (table.linksOf text lines blocks))).filter
          (·.origin.block == index))) ∧
    ∀ error, (table.resolve text lines blocks).outcome = .error error →
      ∃ before failing after, table.uses = before ++ failing :: after ∧
        (∀ use ∈ before, ¬ table.Dangles text lines blocks use) ∧
        table.Dangles text lines blocks failing ∧
        ∀ index, edgesAt (table.resolve text lines blocks).blocks index =
          (linkEdges (before.flatMap (table.linksOf text lines blocks))).filter
            (·.origin.block == index) := by
  refine ⟨table.mirrored_resolve text lines hbare, ?_⟩
  unfold LabelTable.resolve
  obtain ⟨hsound, hrun⟩ | ⟨before, failing, after, stop, hsplit, hsound, hfails, hrun⟩ :=
    table.resolveUses_cases text lines table.uses blocks 0
  · have hinside := LabelTable.inside_of_mem_flatMap_linksOf hsound
    rw [hrun]
    constructor
    · intro count hcount
      rw [Except.ok.injEq, Nat.zero_add] at hcount
      refine ⟨hcount.symm, ?_, ?_, fun index => ?_⟩
      · intro block hblock
        obtain ⟨linked, -, rfl⟩ := List.mem_map.mp hblock
        exact linked.pairwise_precedes_sortEdges
      · rw [(perm_outbound_addLinks hbare fun link hlink => (hinside link hlink).1).length_eq,
          List.length_map, LabelTable.length_flatMap_linksOf hsound, hcount]
      · rw [← edgesAt_addLinks hbare hinside]
        exact perm_edgesAt_sortEdges _ index
    · intro error herror
      cases herror
  · have hinside := LabelTable.inside_of_mem_flatMap_linksOf hsound
    rw [hrun]
    constructor
    · intro count hcount
      cases hcount
    · intro error _
      exact ⟨before, failing, after, hsplit, hsound, hfails, edgesAt_addLinks hbare hinside⟩

/-- The conditional branch leads to the block after its own, so it leaves the same
edge twice; the jump leads to its own line; and the last use stops the resolution,
since there is no block 5. -/
theorem resolve_mirrors_edges_sample :
    ∃ table resolution,
      table = (((LabelTable.empty.declare ['f'] ⟨1, 0⟩).use ⟨0, 0⟩ ⟨0, 1⟩).use ⟨1, 0⟩ ⟨0, 1⟩).use
        ⟨5, 0⟩ ⟨0, 1⟩ ∧
      resolution = table.resolve ['f'] [⟨.codeBranch, 0, 1⟩, ⟨.codeJump, 1, 1⟩]
        [⟨.code, 0, 1, []⟩, ⟨.code, 1, 1, []⟩] ∧
      resolution.outcome = .error (.indexOutOfRange .blocks 5 2) ∧
      (edgesAt resolution.blocks 0).count ⟨.outbound, ⟨0, 0⟩, ⟨1, 0⟩⟩ = 2 ∧
      (edgesAt resolution.blocks 1).count ⟨.inbound, ⟨1, 0⟩, ⟨0, 0⟩⟩ = 2 ∧
      (edgesAt resolution.blocks 1).count ⟨.outbound, ⟨1, 0⟩, ⟨1, 0⟩⟩ = 1 ∧
      (edgesAt resolution.blocks 1).count ⟨.inbound, ⟨1, 0⟩, ⟨1, 0⟩⟩ = 1 := by
  have hbare : ∀ block ∈ ([⟨.code, 0, 1, []⟩, ⟨.code, 1, 1, []⟩] : List Block),
      block.edges = [] := by
    decide
  obtain ⟨hmirrored, -⟩ := resolve_mirrors_edges
    ((((LabelTable.empty.declare ['f'] ⟨1, 0⟩).use ⟨0, 0⟩ ⟨0, 1⟩).use ⟨1, 0⟩ ⟨0, 1⟩).use
      ⟨5, 0⟩ ⟨0, 1⟩) ['f'] [⟨.codeBranch, 0, 1⟩, ⟨.codeJump, 1, 1⟩] hbare
  refine ⟨_, _, rfl, rfl, rfl, by decide, ?_, by decide, ?_⟩
  · rw [← hmirrored.paired ⟨0, 0⟩ ⟨1, 0⟩]
    decide
  · rw [← hmirrored.paired ⟨1, 0⟩ ⟨1, 0⟩]
    decide

end AsmListing
