import AsmListing.Block
import AsmListing.Environment
import AsmListing.Text.Slice

/-!
# Labels and what branches to them

Labels are declared and used while the lines of a listing are read.  When all of
them are known, the uses become edges between blocks.
-/

namespace AsmListing

/-!
## Labels

Global labels are known in the whole listing; of several declarations the first
one counts.  Local labels, those that start with `.L`, belong to the scope of
the global label declared last before them; of several declarations in one
scope the last one counts.  Local labels before every global one belong to a
scope with an empty name, which the first of them opens.

Uses of labels come before their declarations as often as after, so they are
kept until the listing is complete.  A use remembers its scope by the block in
which the scope's label was declared.
-/

/-- Whether a label is local. -/
def isLocalLabel (name : Text) : Bool :=
  ".L".toList.isPrefixOf name

/-- The use of a label by a branch or a jump. -/
structure LabelUse where
  /-- The block that declares the label of the scope, if there is a scope. -/
  ownerBlock : Option Nat
  /-- The line of the branch. -/
  source : LineRef
  /-- Where the name of the target stands. -/
  target : Span
  deriving DecidableEq, Repr

/-- The labels of a listing and the uses of labels in it. -/
structure LabelTable where
  /-- The first declaration of each global label. -/
  globals : List (Text × LineRef)
  /-- The declarations of local labels by scope and name, the last one first. -/
  locals : List ((Text × Text) × LineRef)
  /-- The scope that each block opens, the last one first. -/
  owners : List (Nat × Text)
  /-- The scope of the lines to come. -/
  current : Option Text
  /-- The uses of labels, in order. -/
  uses : List LabelUse
  deriving DecidableEq, Repr

namespace LabelTable

/-- No labels. -/
def empty : LabelTable :=
  ⟨[], [], [], none, []⟩

/-- Opens the scope of a global label that is declared at a line. -/
def openScope (table : LabelTable) (name : Text) (place : LineRef) : LabelTable :=
  { table with
    globals :=
      if (table.globals.lookup name).isSome then
        table.globals
      else
        table.globals ++ [(name, place)]
    owners := (place.block, name) :: table.owners
    current := some name }

/-- Declares a local label in a scope. -/
def declareLocal (table : LabelTable) (scope name : Text) (place : LineRef) : LabelTable :=
  { table with locals := ((scope, name), place) :: table.locals }

/-- Declares a label at a line. -/
def declare (table : LabelTable) (name : Text) (place : LineRef) : LabelTable :=
  if isLocalLabel name then
    match table.current with
    | some scope => table.declareLocal scope name place
    | none => (table.openScope [] place).declareLocal [] name place
  else
    table.openScope name place

/-- The block that declares the label of the current scope. -/
def ownerBlock (table : LabelTable) : Option Nat :=
  (table.current.bind fun scope => table.globals.lookup scope).map (·.block)

/-- Records that a line branches to the label whose name stands at `target`. -/
def use (table : LabelTable) (source : LineRef) (target : Span) : LabelTable :=
  { table with uses := table.uses ++ [⟨table.ownerBlock, source, target⟩] }

/-- The number of global labels. -/
def globalCount (table : LabelTable) : Nat :=
  table.globals.length

/-- Where a label is declared, as seen from the scope of a block. -/
def lookup? (table : LabelTable) (name : Text) (ownerBlock : Option Nat) : Option LineRef :=
  if isLocalLabel name then
    (ownerBlock.bind fun block => table.owners.lookup block).bind fun scope =>
      table.locals.lookup (scope, name)
  else
    table.globals.lookup name

end LabelTable

/-!
## From labels to edges

Every use of a declared label becomes an edge from the line of the branch to
the line of the declaration; uses of unknown labels are passed over.  A
conditional branch also leads to the block after its own.  When a use refers to
records that do not exist, the edges of the uses before it remain.
-/

/-- Adds an edge to the blocks at both of its ends. -/
def addEdgePair (blocks : List Block) (source target : LineRef) : List Block :=
  (blocks.modify source.block (·.addEdge ⟨.outbound, source, target⟩)).modify target.block
    (·.addEdge ⟨.inbound, target, source⟩)

/-- Adds the edges of one use of a label that is declared at `target`. -/
def addUse (lines : List Line) (blocks : List Block) (source target : LineRef) :
    Except ListingError (List Block) := do
  let block ← getRecord .blocks blocks source.block
  let line ← getRecord .lines lines (wordIndex lines.length (block.lineIndex + source.line))
  let _ ← getRecord .blocks blocks target.block
  let linked := addEdgePair blocks source target
  if line.kind = .codeBranch ∧ source.block + 1 < blocks.length then
    .ok (addEdgePair linked source ⟨source.block + 1, 0⟩)
  else
    .ok linked

/-- Blocks with the edges that could be added, and the number of resolved uses
or what stopped the resolution. -/
structure Resolution where
  blocks : List Block
  outcome : Except ListingError Nat

namespace LabelTable

/-- Resolves uses of labels one after the other. -/
def resolveUses (table : LabelTable) (text : Text) (lines : List Line) :
    List LabelUse → List Block → Nat → Resolution
  | [], blocks, resolved => ⟨blocks.map Block.sortEdges, .ok resolved⟩
  | use :: rest, blocks, resolved =>
    match table.lookup? (text.view use.target.position use.target.length) use.ownerBlock with
    | none => resolveUses table text lines rest blocks resolved
    | some target =>
      match addUse lines blocks use.source target with
      | .error error => ⟨blocks, .error error⟩
      | .ok linked => resolveUses table text lines rest linked (resolved + 1)

/-- Resolves all uses of labels. -/
def resolve (table : LabelTable) (text : Text) (lines : List Line) (blocks : List Block) :
    Resolution :=
  table.resolveUses text lines table.uses blocks 0

end LabelTable

end AsmListing
