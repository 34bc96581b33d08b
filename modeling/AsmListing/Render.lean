import AsmListing.Block
import AsmListing.Dialect.Vocabulary
import AsmListing.Environment
import AsmListing.Indexing
import AsmListing.Token.Basic

/-!
# Rendering

How a line is laid out, which colors its tokens have, and how the blocks of a
listing become text.
-/

namespace AsmListing

/-!
## The layout of a rendered line

Where a dialect asks for it, a mnemonic shorter than `instructionWidth` is
followed by spaces, so that operands line up; the last token of a line is not.
`lineLength` is the number of bytes a line takes without color, and
`tokenAtColumn?` finds the token at a column of it.  For tokens and columns that
are given from outside, both exist in a form that computes in words.
-/

/-- The number of spaces between a token and the next one of its line. -/
def padding (dialect : Dialect) (token : Token) (next : Option Token) : Nat :=
  match next with
  | none => 0
  | some next =>
    if dialect.alignsInstructions && token.kind.isInstruction && next.kind != .newLine then
      instructionWidth - token.length
    else
      0

/-- The number of spaces after the token at an index of a line. -/
def paddingAfter (dialect : Dialect) (tokens : List Token) (index : Nat) : Nat :=
  match tokens[index]? with
  | none => 0
  | some token => padding dialect token tokens[index + 1]?

/-- The number of bytes of a line that is rendered without color. -/
def lineLength (dialect : Dialect) : List Token → Nat
  | [] => 0
  | token :: rest =>
    token.renderedLength + padding dialect token rest.head? + lineLength dialect rest

/-- The index of the token at a column of a line, given how a start and a length
make an end, and the columns at which the tokens start.  Columns inside padding
belong to no token. -/
def tokenAtColumnBy? (stop : Nat → Nat → Nat) (tokens : List Token) (columns : List Nat)
    (column : Nat) : Option Nat :=
  match bisect (· ≤ column) columns with
  | 0 => none
  | index + 1 =>
    match tokens[index]?, columns[index]? with
    | some token, some start =>
      if column < stop start token.renderedLength then some index else none
    | _, _ => none

/-- The index of the token at a column of a line of a listing. -/
def tokenAtColumn? : List Token → List Nat → Nat → Option Nat :=
  tokenAtColumnBy? (· + ·)

/-! ### Lines given from outside -/

/-- The length of a line as a word. -/
def lineLengthWord (dialect : Dialect) (tokens : List Token) : Nat :=
  lineLength dialect tokens % wordLimit

/-- The index of the token at a column, where the end of a token is a word. -/
def tokenAtColumnWord? : List Token → List Nat → Nat → Option Nat :=
  tokenAtColumnBy? addWord

/-! ## Colors -/

/-- The colors of the parts of a listing. -/
structure Palette where
  lineDirective : String
  directive : String
  identifier : String
  qualifier : String
  instruction : String
  simd : String
  simdPacked : String
  simdScalar : String
  register : String
  number : String
  string : String
  comment : String
  deriving DecidableEq, Repr

namespace Palette

/-- Colors for a dark background. -/
def dark : Palette where
  lineDirective := "#FFFF00"
  directive := "#CCCCCC"
  identifier := "#d4d4d4"
  qualifier := "#DCDCAA"
  instruction := "#4EC9B0"
  simd := "#C586C0"
  simdPacked := "#A586C0"
  simdScalar := "#E586C0"
  register := "#d7ba7d"
  number := "#9cdcfe"
  string := "#ce9178"
  comment := "#6A9955"

/-- Colors for a light background. -/
def light : Palette where
  lineDirective := "#888800"
  directive := "#444444"
  identifier := "#1c1c1c"
  qualifier := "#267f99"
  instruction := "#0451a5"
  simd := "#0000ff"
  simdPacked := "#8000ff"
  simdScalar := "#8050ff"
  register := "#811f3f"
  number := "#007ACC"
  string := "#a31515"
  comment := "#008000"

/-- The palette of a skin. -/
def ofSkin (darkSkin : Bool) : Palette :=
  if darkSkin then dark else light

/-- The color of a vector instruction whose kind may be known. -/
def simdColor (palette : Palette) : Option SimdKind → String
  | some .packed => palette.simdPacked
  | some .scalar => palette.simdScalar
  | some .infrastructure | none => palette.simd

/-- All colors, in the order of the fields. -/
def colors (palette : Palette) : List String :=
  [palette.lineDirective, palette.directive, palette.identifier, palette.qualifier,
    palette.instruction, palette.simd, palette.simdPacked, palette.simdScalar, palette.register,
    palette.number, palette.string, palette.comment]

end Palette

/-!
## Rendering blocks

A block is rendered line by line.  Colored text wraps each token in
`<color=#RRGGBB>` and `</color>`; blanks and line breaks have no color.  Beside
the text, a rendering gives the column at which every token of every line
starts in the text without color.

A line that names a source location is rendered as the comment that shows it,
and has no columns.
-/

/-- All that the rendering of a listing depends on. -/
structure Renderer where
  text : Text
  dialect : Dialect
  tokens : List Token
  lines : List Line
  blocks : List Block
  /-- The comments that show source locations, by line. -/
  captions : Numbered Text
  palette : Palette
  /-- Whether packed and scalar vector instructions have colors of their own. -/
  smellTest : Bool
  deriving DecidableEq, Repr

/-- A rendered text and the columns of its tokens, line by line. -/
structure Rendering where
  text : Text
  columns : List (List Nat)
  deriving DecidableEq, Repr

/-- A text in a color. -/
def markUp (color : String) (text : Text) : Text :=
  "<color=".toList ++ color.toList ++ '>' :: text ++ "</color>".toList

/-- A text in a color, if it has one and colors are asked for. -/
def paint (colored : Bool) (color : Option String) (text : Text) : Text :=
  match colored, color with
  | true, some color => markUp color text
  | _, _ => text

namespace Renderer

/-- The color of a token with the given spelling. -/
def color? (renderer : Renderer) (kind : TokenKind) (spelling : Text) : Option String :=
  match kind with
  | .directive | .dataDirective | .sourceFile | .sourceLocation | .functionBegin
  | .functionEnd => some renderer.palette.directive
  | .label | .identifier => some renderer.palette.identifier
  | .qualifier => some renderer.palette.qualifier
  | .instruction | .call | .branch | .jump | .ret => some renderer.palette.instruction
  | .simd =>
    some <| renderer.palette.simdColor <|
      if renderer.smellTest then renderer.dialect.simdKind? spelling else none
  | .register => some renderer.palette.register
  | .number => some renderer.palette.number
  | .string => some renderer.palette.string
  | .comment => some renderer.palette.comment
  | .newLine | .misc => none

/-- The characters that a token shows: those of the listing, and a line feed for
every line break. -/
def spelling (renderer : Renderer) (token : Token) : Text :=
  if token.kind = .newLine then ['\n'] else token.text renderer.text

/-- The text of a line of tokens. -/
def lineText (renderer : Renderer) (colored : Bool) : List Token → Text
  | [] => []
  | token :: rest =>
    let spelling := renderer.spelling token
    paint colored (renderer.color? token.kind spelling) spelling ++
      List.replicate (padding renderer.dialect token rest.head?) ' ' ++
      lineText renderer colored rest

/-- The columns of the tokens of a line, the first of which starts at
`column`. -/
def lineColumns (renderer : Renderer) : Nat → List Token → List Nat
  | _, [] => []
  | column, token :: rest =>
    let width := (renderer.spelling token).byteSize + padding renderer.dialect token rest.head?
    column :: lineColumns renderer (column + width) rest

/-- The text of a line that names a source location. -/
def locationText (renderer : Renderer) (colored : Bool) (lineIndex : Nat) : Text :=
  match renderer.captions.get? lineIndex with
  | none => ['\n']
  | some caption => paint colored (some renderer.palette.lineDirective) caption ++ ['\n']

/-- Renders a line: its text and the columns of its tokens. -/
def renderLine (renderer : Renderer) (colored : Bool) (lineIndex : Nat) (line : Line) :
    Except ListingError (Text × List Nat) :=
  match line.kind with
  | .located _ => .ok (renderer.locationText colored lineIndex, [])
  | _ =>
    match line.tokens? renderer.tokens with
    | some tokens => .ok (renderer.lineText colored tokens, renderer.lineColumns 0 tokens)
    | none => .error (.indexOutOfRange .tokens (line.tokenEnd % wordLimit) renderer.tokens.length)

/-- Renders a number of lines from an index on. -/
def renderLines (renderer : Renderer) (colored : Bool) :
    Nat → Nat → Except ListingError (List (Text × List Nat))
  | _, 0 => .ok []
  | lineIndex, count + 1 => do
    let line ← getRecord .lines renderer.lines lineIndex
    let rendered ← renderer.renderLine colored lineIndex line
    let following ← renderLines renderer colored (lineIndex + 1) count
    .ok (rendered :: following)

/-- Renders the block at an index. -/
def renderBlock (renderer : Renderer) (index : Nat) (colored : Bool) :
    Except ListingError Rendering := do
  let block ← getRecord .blocks renderer.blocks index
  let count := block.lineCount renderer.lines.length
  let lines ← renderer.renderLines colored block.lineIndex count
  .ok ⟨(lines.map Prod.fst).flatten, lines.map Prod.snd⟩

end Renderer

end AsmListing
