import AsmListing.Indexing
import AsmListing.Token.Basic

/-!
# Lines and blocks

The records that a listing is divided into: lines are runs of tokens, and blocks
are runs of lines with the branches between them.
-/

namespace AsmListing

/-!
## Lines

A line is a run of tokens up to and with its line break.  Its first significant
token decides its kind; a label counts only at the very start of the line.
-/

/-- A place in a source file. -/
structure SourceLocation where
  file : Nat
  line : Nat
  column : Nat
  deriving DecidableEq, Repr

/-- What a line is about. -/
inductive LineKind
  /-- Nothing but blanks, punctuation and words without a role. -/
  | empty
  | directive
  /-- A line that registers a source file. -/
  | sourceFile
  /-- A line that names a source location, before it is read. -/
  | sourceLocation
  /-- A line that names a source location, once it is read. -/
  | located (location : SourceLocation)
  | data
  | code
  | codeCall
  | codeBranch
  | codeJump
  | codeReturn
  | labelDeclaration
  | comment
  | functionBegin
  | functionEnd
  deriving DecidableEq, Repr

namespace LineKind

/-- Whether a line holds an instruction. -/
def isCode : LineKind → Bool
  | .code | .codeCall | .codeBranch | .codeJump | .codeReturn => true
  | _ => false

/-- The line kind that a token decides wherever it stands. -/
def ofTokenKind? : TokenKind → Option LineKind
  | .directive => some .directive
  | .sourceFile => some .sourceFile
  | .sourceLocation => some .sourceLocation
  | .dataDirective => some .data
  | .instruction | .simd => some .code
  | .branch => some .codeBranch
  | .jump => some .codeJump
  | .call => some .codeCall
  | .ret => some .codeReturn
  | .comment => some .comment
  | .functionBegin => some .functionBegin
  | .functionEnd => some .functionEnd
  | _ => none

/-- The kind of a line by the kinds of its tokens. -/
def ofKinds (kinds : List TokenKind) : LineKind :=
  match kinds with
  | .label :: _ => .labelDeclaration
  | _ => (kinds.findSome? ofTokenKind?).getD .empty

end LineKind

/-- The kind of the line that consists of the given tokens. -/
def lineKind (tokens : List Token) : LineKind :=
  LineKind.ofKinds (tokens.map (·.kind))

/-- A line, by its kind and its run of tokens. -/
structure Line where
  kind : LineKind
  tokenIndex : Nat
  length : Nat
  deriving DecidableEq, Repr

namespace Line

/-- The index just past the tokens of a line. -/
def tokenEnd (line : Line) : Nat :=
  line.tokenIndex + line.length

/-- The tokens of a line, if all of them are there. -/
def tokens? (line : Line) (tokens : List Token) : Option (List Token) :=
  if line.tokenEnd ≤ tokens.length then
    some ((tokens.drop line.tokenIndex).take line.length)
  else
    none

end Line

/-- Cuts tokens into lines, after each line break. -/
def cutLines : List Token → List (List Token)
  | [] => []
  | token :: rest =>
    if token.kind = .newLine then
      [token] :: cutLines rest
    else
      match cutLines rest with
      | [] => [[token]]
      | line :: lines => (token :: line) :: lines

/-- The tokens after the first line break. -/
def dropHeader (tokens : List Token) : List Token :=
  (tokens.dropWhile (·.kind != .newLine)).drop 1

/-!
## Blocks and the edges between them

A block is a run of lines that control enters at its first line.  A branch from
one line to another is recorded at both ends: as an outbound edge of the block
of the branch and as an inbound edge of the block of its target.
-/

/-- What a block mainly holds. -/
inductive BlockKind
  /-- None of the others. -/
  | none
  /-- The block at the start of a listing, when it holds nothing of note. -/
  | block
  | directive
  | code
  | data
  deriving DecidableEq, Repr

/-- A line, by its block and its index in the block. -/
structure LineRef where
  block : Nat
  line : Nat
  deriving DecidableEq, Repr

/-- The side from which a block sees an edge. -/
inductive Direction
  | inbound
  | outbound
  deriving DecidableEq, Repr

/-- The place of a direction in the order of edges. -/
def Direction.rank : Direction → Nat
  | .inbound => 0
  | .outbound => 1

/-- An edge as one of its ends sees it: `origin` is a line of the block that
holds the edge, and `target` the line at the other end. -/
structure Edge where
  direction : Direction
  origin : LineRef
  target : LineRef
  deriving DecidableEq, Repr

/-- The order of edges: inbound edges first, then by the line at the other
end. -/
def Edge.le (left right : Edge) : Bool :=
  left.direction.rank < right.direction.rank ||
    (left.direction.rank == right.direction.rank &&
      (left.target.block < right.target.block ||
        (left.target.block == right.target.block && left.target.line ≤ right.target.line)))

/-- A block, by its run of lines. -/
structure Block where
  kind : BlockKind
  lineIndex : Nat
  length : Nat
  edges : List Edge
  deriving DecidableEq, Repr

namespace Block

/-- The index just past the lines of a block. -/
def lineEnd (block : Block) : Nat :=
  block.lineIndex + block.length

/-- The number of lines of a block among `count` lines.  A run of lines that are
not all there and whose end is no word has no lines. -/
def lineCount (block : Block) (count : Nat) : Nat :=
  if block.lineEnd ≤ count ∨ block.lineEnd < wordLimit then block.length else 0

/-- The edges that leave a block. -/
def outbound (block : Block) : List Edge :=
  block.edges.filter (·.direction == .outbound)

/-- The edges that enter a block. -/
def inbound (block : Block) : List Edge :=
  block.edges.filter (·.direction == .inbound)

/-- The block with one more edge. -/
def addEdge (block : Block) (edge : Edge) : Block :=
  { block with edges := block.edges ++ [edge] }

/-- The block with its edges in order; edges of the same place stay in the order
in which they were added. -/
def sortEdges (block : Block) : Block :=
  { block with edges := block.edges.mergeSort Edge.le }

end Block

/-- The bytes of the rendered listing that a block takes up. -/
structure BlockSpan where
  start : Nat
  stop : Nat
  deriving DecidableEq, Repr

namespace BlockSpan

/-- Whether a byte offset lies in a span. -/
def contains (span : BlockSpan) (offset : Nat) : Bool :=
  span.start ≤ offset && offset < span.stop

/-- The number of bytes of a span. -/
def length (span : BlockSpan) : Nat :=
  span.stop - span.start

/-- Whether a span has no bytes. -/
def isEmpty (span : BlockSpan) : Bool :=
  span.start == span.stop

end BlockSpan

/-!
## What a block holds

While a block is filled, three marks record what its lines have shown so far.
Code decides the kind of the block before data, and data before directives.
-/

/-- What the lines of a block have shown so far. -/
structure Content where
  code : Bool := false
  data : Bool := false
  directive : Bool := false
  deriving DecidableEq, Repr

namespace Content

/-- Takes note of a line. -/
def observe (content : Content) (kind : LineKind) : Content :=
  match kind with
  | .directive => { content with directive := true }
  | .data => { content with data := true }
  | .located _ => { content with code := true }
  | kind => if kind.isCode then { content with code := true } else content

/-- The kind of a block with this content, and `otherwise` without any. -/
def blockKind (content : Content) (otherwise : BlockKind) : BlockKind :=
  if content.code then .code
  else if content.data then .data
  else if content.directive then .directive
  else otherwise

end Content

end AsmListing
