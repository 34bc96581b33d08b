import AsmListing.Label
import AsmListing.Proofs.Fallible
import Mathlib.Data.List.Perm.Basic

/-!
# The edges of resolved labels

Resolving labels goes through the uses one by one and changes the blocks as it
goes.  What comes out does not depend on the way: a block has gained the ends,
of all links that were made, that lie in it (`addLinks`), and the links of a use
depend only on the lines and the tables (`LabelTable.linksOf`).  So a whole run
makes the links of all uses, or of those before the first one that refers to
something that is not there (`LabelTable.resolveUses_cases`).

Each link has exactly one outbound end, so the outbound edges of all blocks are
the links that were made, in some order (`perm_outbound_addLinks`).
-/

namespace AsmListing

/-- A way from the line of a branch to another line. -/
structure Link where
  source : LineRef
  target : LineRef
  deriving DecidableEq, Repr

namespace Link

/-- A link as the block of the branch sees it. -/
def outward (link : Link) : Edge :=
  ⟨.outbound, link.source, link.target⟩

/-- A link as the block of its target sees it. -/
def inward (link : Link) : Edge :=
  ⟨.inbound, link.target, link.source⟩

end Link

/-- The edges of links. -/
def linkEdges (links : List Link) : List Edge :=
  links.flatMap fun link => [link.outward, link.inward]

/-- Blocks with the edges of links that lie in them. -/
def addLinks (blocks : List Block) (links : List Link) : List Block :=
  blocks.mapIdx fun index block =>
    { block with edges := block.edges ++ (linkEdges links).filter (·.origin.block == index) }

/-- The links of a branch or a jump to a declared label: one to the label, and
from a conditional branch one to the block after its own, if there is one. -/
def branchLinks (kind : LineKind) (blockCount : Nat) (source target : LineRef) : List Link :=
  ⟨source, target⟩ ::
    if kind = .codeBranch ∧ source.block + 1 < blockCount then
      [⟨source, ⟨source.block + 1, 0⟩⟩]
    else
      []

theorem source_of_mem_branchLinks {kind : LineKind} {blockCount : Nat} {source target : LineRef}
    {link : Link} (hlink : link ∈ branchLinks kind blockCount source target) :
    link.source = source := by
  unfold branchLinks at hlink
  split at hlink <;> aesop

theorem target_of_mem_branchLinks {kind : LineKind} {blockCount : Nat} {source target : LineRef}
    {link : Link} (hlink : link ∈ branchLinks kind blockCount source target) :
    link.target = target ∨
      link.target = ⟨source.block + 1, 0⟩ ∧ source.block + 1 < blockCount := by
  unfold branchLinks at hlink
  rcases List.mem_cons.mp hlink with rfl | hlink
  · exact .inl rfl
  · split at hlink
    · next hbranch =>
        obtain rfl := List.mem_singleton.mp hlink
        exact .inr ⟨rfl, hbranch.2⟩
    · cases hlink

/-! ## Adding links -/

@[simp] theorem linkEdges_append (first second : List Link) :
    linkEdges (first ++ second) = linkEdges first ++ linkEdges second := by
  simp [linkEdges]

@[simp] theorem length_addLinks (blocks : List Block) (links : List Link) :
    (addLinks blocks links).length = blocks.length := by
  simp [addLinks]

@[simp] theorem addLinks_nil (blocks : List Block) : addLinks blocks [] = blocks := by
  simp [addLinks, linkEdges, List.mapIdx_eq_zipIdx_map]

theorem addLinks_addLinks (blocks : List Block) (first second : List Link) :
    addLinks (addLinks blocks first) second = addLinks blocks (first ++ second) := by
  simp [addLinks, Function.comp_def]

/-- Both ends of an edge are added where they lie. -/
theorem addEdgePair_eq (blocks : List Block) (source target : LineRef) :
    addEdgePair blocks source target = addLinks blocks [⟨source, target⟩] := by
  refine List.ext_getElem? fun index => ?_
  unfold addEdgePair addLinks
  rw [List.getElem?_modify, List.getElem?_modify, List.getElem?_mapIdx]
  cases blocks[index]? with
  | none => simp
  | some block =>
      by_cases hsource : source.block = index <;> by_cases htarget : target.block = index <;>
        simp [hsource, htarget, linkEdges, Link.outward, Link.inward, Block.addEdge]

/-- The kind of the line at a place, found through the records. -/
def kindAt? (lines : List Line) (blocks : List Block) (place : LineRef) : Option LineKind :=
  blocks[place.block]?.bind fun block =>
    lines[wordIndex lines.length (block.lineIndex + place.line)]?.map (·.kind)

theorem kindAt?_addLinks (lines : List Line) (blocks : List Block) (links : List Link)
    (place : LineRef) :
    kindAt? lines (addLinks blocks links) place = kindAt? lines blocks place := by
  simp only [kindAt?, addLinks, List.getElem?_mapIdx]
  cases blocks[place.block]? <;> rfl

theorem getRecord_eq_ok {α : Type} {records : Records} {items : List α} {index : Nat} {item : α} :
    getRecord records items index = .ok item ↔ items[index]? = some item := by
  unfold getRecord
  cases items[index]? <;> simp

/-- Adding a use makes its links, if its line and the block of the target are
there. -/
theorem addUse_of_kindAt? {lines : List Line} {blocks : List Block} {source target : LineRef}
    {kind : LineKind} (hsource : kindAt? lines blocks source = some kind)
    (htarget : target.block < blocks.length) :
    addUse lines blocks source target =
      .ok (addLinks blocks (branchLinks kind blocks.length source target)) := by
  obtain ⟨block, hblock, hkind⟩ := Option.bind_eq_some_iff.mp hsource
  obtain ⟨line, hline, rfl⟩ := Option.map_eq_some_iff.mp hkind
  unfold addUse
  rw [getRecord_eq_ok.mpr hblock, Fallible.ok_bind, getRecord_eq_ok.mpr hline, Fallible.ok_bind,
    getRecord_eq_ok.mpr (List.getElem?_eq_getElem htarget), Fallible.ok_bind]
  simp only [addEdgePair_eq, addLinks_addLinks]
  unfold branchLinks
  split <;> rfl

theorem addUse_of_missing {lines : List Line} {blocks : List Block} {source target : LineRef}
    (hmissing : kindAt? lines blocks source = none ∨ blocks.length ≤ target.block) :
    ∃ error, addUse lines blocks source target = .error error := by
  cases hadd : addUse lines blocks source target with
  | error error => exact ⟨error, rfl⟩
  | ok linked =>
      -- what was added was found first
      obtain ⟨block, hblock, hadd⟩ := Fallible.bind_eq_ok.mp hadd
      obtain ⟨line, hline, hadd⟩ := Fallible.bind_eq_ok.mp hadd
      obtain ⟨other, hother, hadd⟩ := Fallible.bind_eq_ok.mp hadd
      rw [getRecord_eq_ok] at hblock hline hother
      rcases hmissing with hsource | htarget
      · simp [kindAt?, hblock, hline] at hsource
      · obtain ⟨hlt, -⟩ := List.getElem?_eq_some_iff.mp hother
        omega

/-! ## A whole run -/

namespace LabelTable

/-- Where the label of a use is declared, if it is. -/
def targetOf? (table : LabelTable) (text : Text) (use : LabelUse) : Option LineRef :=
  table.lookup? (text.view use.target.position use.target.length) use.ownerBlock

/-- Whether a use of a declared label refers to a line or a block that does not
exist. -/
def Dangles (table : LabelTable) (text : Text) (lines : List Line) (blocks : List Block)
    (use : LabelUse) : Prop :=
  ∃ target, table.targetOf? text use = some target ∧
    (kindAt? lines blocks use.source = none ∨ blocks.length ≤ target.block)

/-- The links that a use of a label makes. -/
def linksOf (table : LabelTable) (text : Text) (lines : List Line) (blocks : List Block)
    (use : LabelUse) : List Link :=
  match table.lookup? (text.view use.target.position use.target.length) use.ownerBlock,
    kindAt? lines blocks use.source with
  | some target, some kind => branchLinks kind blocks.length use.source target
  | _, _ => []

theorem linksOf_addLinks (table : LabelTable) (text : Text) (lines : List Line)
    (blocks : List Block) (links : List Link) :
    table.linksOf text lines (addLinks blocks links) = table.linksOf text lines blocks := by
  funext use
  simp [linksOf, kindAt?_addLinks]

theorem dangles_addLinks (table : LabelTable) (text : Text) (lines : List Line)
    (blocks : List Block) (links : List Link) (use : LabelUse) :
    table.Dangles text lines (addLinks blocks links) use ↔
      table.Dangles text lines blocks use := by
  simp [Dangles, kindAt?_addLinks]

/-- All that resolving uses can do.  If none of them dangles, the links of all of
them are made and the edges sorted; otherwise the links of those before the first
one that does, and the edges stay as they were added.

The induction is on the uses; links that were made take no line and no block away,
so they do not change what later uses do. -/
theorem resolveUses_cases (table : LabelTable) (text : Text) (lines : List Line)
    (uses : List LabelUse) :
    ∀ (blocks : List Block) (resolved : Nat),
      ((∀ use ∈ uses, ¬ table.Dangles text lines blocks use) ∧
        table.resolveUses text lines uses blocks resolved =
          ⟨(addLinks blocks (uses.flatMap (table.linksOf text lines blocks))).map Block.sortEdges,
            .ok (resolved + uses.countP fun use => (table.targetOf? text use).isSome)⟩) ∨
      ∃ before failing after error, uses = before ++ failing :: after ∧
        (∀ use ∈ before, ¬ table.Dangles text lines blocks use) ∧
        table.Dangles text lines blocks failing ∧
        table.resolveUses text lines uses blocks resolved =
          ⟨addLinks blocks (before.flatMap (table.linksOf text lines blocks)), .error error⟩ := by
  induction uses with
  | nil =>
      intro blocks resolved
      left
      simp [resolveUses]
  | cons use rest ih =>
      intro blocks resolved
      by_cases hdangles : table.Dangles text lines blocks use
      · -- the first use stops the run
        right
        obtain ⟨target, htarget, hmissing⟩ := id hdangles
        obtain ⟨error, herror⟩ := addUse_of_missing hmissing
        refine ⟨[], use, rest, error, rfl, by simp, hdangles, ?_⟩
        rw [targetOf?] at htarget
        simp [resolveUses, htarget, herror]
      · -- the run goes on with the links of the first use
        obtain ⟨linked, hlinked, hrun⟩ :
            ∃ linked, linked = addLinks blocks (table.linksOf text lines blocks use) ∧
              table.resolveUses text lines (use :: rest) blocks resolved =
                table.resolveUses text lines rest linked
                  (resolved + [use].countP fun use => (table.targetOf? text use).isSome) := by
          cases htarget : table.targetOf? text use with
          | none =>
              refine ⟨blocks, ?_, ?_⟩ <;> rw [targetOf?] at htarget
              · simp [linksOf, htarget]
              · simp [resolveUses, targetOf?, htarget]
          | some target =>
              have hthere : ¬ (kindAt? lines blocks use.source = none ∨
                  blocks.length ≤ target.block) :=
                fun hmissing => hdangles ⟨target, htarget, hmissing⟩
              rw [not_or, Nat.not_le] at hthere
              obtain ⟨kind, hkind⟩ := Option.ne_none_iff_exists'.mp hthere.1
              refine ⟨_, rfl, ?_⟩
              rw [targetOf?] at htarget
              simp [resolveUses, linksOf, targetOf?, htarget, hkind,
                addUse_of_kindAt? hkind hthere.2]
        have hrest := ih linked
          (resolved + [use].countP fun use => (table.targetOf? text use).isSome)
        simp only [hlinked, linksOf_addLinks, dangles_addLinks, addLinks_addLinks] at hrest hrun
        rcases hrest with ⟨hsound, hblocks⟩ |
          ⟨before, failing, after, error, hsplit, hsound, hfails, hblocks⟩
        · left
          refine ⟨?_, ?_⟩
          · intro other hother
            rcases List.mem_cons.mp hother with rfl | hother
            · exact hdangles
            · exact hsound other hother
          · rw [hrun, hblocks, List.flatMap_cons, Nat.add_assoc, ← List.countP_append,
              List.singleton_append]
        · right
          refine ⟨use :: before, failing, after, error, by rw [hsplit]; rfl, ?_, hfails, ?_⟩
          · intro other hother
            rcases List.mem_cons.mp hother with rfl | hother
            · exact hdangles
            · exact hsound other hother
          · rw [hrun, hblocks, List.flatMap_cons]

/-- The links of a use that does not dangle have both ends in blocks that
exist. -/
theorem inside_of_mem_linksOf {table : LabelTable} {text : Text} {lines : List Line}
    {blocks : List Block} {use : LabelUse} (hsound : ¬ table.Dangles text lines blocks use)
    {link : Link} (hlink : link ∈ table.linksOf text lines blocks use) :
    link.source.block < blocks.length ∧ link.target.block < blocks.length := by
  unfold linksOf at hlink
  split at hlink
  · next target kind htarget hkind =>
      have hsource : use.source.block < blocks.length := by
        obtain ⟨block, hblock, -⟩ := Option.bind_eq_some_iff.mp hkind
        exact (List.getElem?_eq_some_iff.mp hblock).1
      refine ⟨by rwa [source_of_mem_branchLinks hlink], ?_⟩
      rcases target_of_mem_branchLinks hlink with hsame | ⟨hsame, hcount⟩ <;> rw [hsame]
      · by_contra hout
        exact hsound ⟨target, htarget, .inr (Nat.le_of_not_lt hout)⟩
      · exact hcount
  · cases hlink

theorem inside_of_mem_flatMap_linksOf {table : LabelTable} {text : Text} {lines : List Line}
    {blocks : List Block} {uses : List LabelUse}
    (hsound : ∀ use ∈ uses, ¬ table.Dangles text lines blocks use) :
    ∀ link ∈ uses.flatMap (table.linksOf text lines blocks),
      link.source.block < blocks.length ∧ link.target.block < blocks.length := by
  intro link hlink
  obtain ⟨use, huse, hlink⟩ := List.mem_flatMap.mp hlink
  exact inside_of_mem_linksOf (hsound use huse) hlink

/-- Resolving uses to the end makes the links of all of them, and they start in
blocks that exist. -/
theorem blocks_resolveUses (table : LabelTable) (text : Text) (lines : List Line)
    {uses : List LabelUse} {blocks : List Block} {resolved count : Nat}
    (hok : (table.resolveUses text lines uses blocks resolved).outcome = .ok count) :
    (table.resolveUses text lines uses blocks resolved).blocks =
        (addLinks blocks (uses.flatMap (table.linksOf text lines blocks))).map Block.sortEdges ∧
      ∀ link ∈ uses.flatMap (table.linksOf text lines blocks),
        link.source.block < blocks.length := by
  obtain ⟨hsound, hrun⟩ | ⟨_, _, _, _, -, -, -, hrun⟩ :=
    table.resolveUses_cases text lines uses blocks resolved
  · rw [hrun]
    exact ⟨rfl, fun link hlink => (inside_of_mem_flatMap_linksOf hsound link hlink).1⟩
  · rw [hrun] at hok
    cases hok

end LabelTable

/-! ## Outbound edges -/

theorem perm_flatMap_filter {α : Type} (key : α → Nat) (items : List α) (count : Nat) :
    ((List.range count).flatMap fun index => items.filter (key · == index)).Perm
      (items.filter (key · < count)) := by
  induction count with
  | zero => simp
  | succ count ih =>
      rw [List.range_succ, List.flatMap_append, List.flatMap_singleton]
      -- those below the next bound are those below this one and those at it
      have hbelow : (items.filter (key · < count + 1)).filter (key · < count) =
          items.filter (key · < count) := by
        rw [List.filter_filter]
        refine List.filter_congr fun item _ => ?_
        simp only [← Bool.decide_and, decide_eq_decide]
        omega
      have hat : ((items.filter (key · < count + 1)).filter fun item =>
          !decide (key item < count)) = items.filter (key · == count) := by
        rw [List.filter_filter]
        refine List.filter_congr fun item _ => ?_
        rw [Bool.eq_iff_iff]
        simp only [Bool.and_eq_true, Bool.not_eq_true', decide_eq_true_eq, decide_eq_false_iff_not,
          beq_iff_eq]
        omega
      have hparts := List.filter_append_perm (fun item => decide (key item < count))
        (items.filter (key · < count + 1))
      rw [hbelow, hat] at hparts
      exact (ih.append_right _).trans hparts

theorem filter_outbound_linkEdges (links : List Link) :
    (linkEdges links).filter (·.direction == .outbound) = links.map Link.outward := by
  induction links with
  | nil => rfl
  | cons link rest ih =>
      rw [linkEdges, List.flatMap_cons, List.filter_append, ← linkEdges, ih]
      rfl

theorem map_outbound_addLinks {blocks : List Block} (hbare : ∀ block ∈ blocks, block.edges = [])
    (links : List Link) :
    (addLinks blocks links).map Block.outbound =
      (List.range blocks.length).map fun index =>
        (links.map Link.outward).filter (·.origin.block == index) := by
  refine List.ext_getElem (by simp) fun index hindex _ => ?_
  have hblock : index < blocks.length := by simpa using hindex
  simp [addLinks, Block.outbound, hbare _ (List.getElem_mem hblock),
    ← filter_outbound_linkEdges, Bool.and_comm]

theorem Block.perm_outbound_sortEdges (block : Block) :
    block.sortEdges.outbound.Perm block.outbound :=
  (List.mergeSort_perm block.edges Edge.le).filter _

/-- The outbound edges of a block are the links that start in it, in some
order. -/
theorem perm_outbound_getElem? {blocks : List Block}
    (hbare : ∀ block ∈ blocks, block.edges = []) (links : List Link) {index : Nat} {block : Block}
    (hblock : ((addLinks blocks links).map Block.sortEdges)[index]? = some block) :
    block.outbound.Perm ((links.map Link.outward).filter (·.origin.block == index)) := by
  rw [List.getElem?_map] at hblock
  obtain ⟨linked, hlinked, rfl⟩ := Option.map_eq_some_iff.mp hblock
  have hindex : index < blocks.length := by
    simpa using (List.getElem?_eq_some_iff.mp hlinked).1
  have houtbound := congrArg (·[index]?) (map_outbound_addLinks hbare links)
  simp only [List.getElem?_map, hlinked, List.getElem?_range hindex, Option.map_some,
    Option.some.injEq] at houtbound
  rw [← houtbound]
  exact linked.perm_outbound_sortEdges

/-- The outbound edges of all blocks are the links, in some order. -/
theorem perm_outbound_addLinks {blocks : List Block} (hbare : ∀ block ∈ blocks, block.edges = [])
    {links : List Link} (hlinks : ∀ link ∈ links, link.source.block < blocks.length) :
    (((addLinks blocks links).map Block.sortEdges).flatMap Block.outbound).Perm
      (links.map Link.outward) := by
  have hall : (links.map Link.outward).filter (·.origin.block < blocks.length) =
      links.map Link.outward := by
    refine List.filter_eq_self.mpr fun edge hedge => ?_
    obtain ⟨link, hlink, rfl⟩ := List.mem_map.mp hedge
    exact decide_eq_true (hlinks link hlink)
  have hsorted := perm_flatMap_filter (·.origin.block) (links.map Link.outward) blocks.length
  rw [hall] at hsorted
  rw [List.flatMap_map]
  refine (List.Perm.flatMap_left _ fun block _ => block.perm_outbound_sortEdges).trans ?_
  rwa [List.flatMap_def, map_outbound_addLinks hbare, ← List.flatMap_def]

end AsmListing
