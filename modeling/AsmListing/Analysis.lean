import AsmListing.Block
import AsmListing.Environment
import AsmListing.Label
import AsmListing.Register
import AsmListing.Render
import AsmListing.Source
import AsmListing.Token.Cursor

/-!
# The analysis of a listing

`Assembly` collects the lines and blocks of a listing one line at a time, and
`analyze` does all of it, from the text to the edges between the blocks.
-/

namespace AsmListing

/-!
## Assembling lines and blocks

The lines of a listing are taken one after the other.  A line that registers a
source file is used up; every other line is stored.  A new block starts at a
line that starts with a label and after a conditional branch.

`Assembly` is what has been assembled so far, with the block that is still open;
`Assembly.addLine` takes one more line.
-/

/-- The block that is being filled. -/
structure OpenBlock where
  /-- The index of its first line. -/
  lineIndex : Nat
  /-- The number of its lines so far. -/
  length : Nat
  /-- What its lines have shown so far. -/
  content : Content
  /-- Where it starts in the rendered listing. -/
  start : Nat
  deriving DecidableEq, Repr

/-- What has been assembled of a listing. -/
structure Assembly where
  tokens : List Token
  lines : List Line
  /-- The complete blocks. -/
  blocks : List Block
  /-- The span of each complete block. -/
  spans : List BlockSpan
  sources : SourceTable
  /-- The comments that show source locations, by line. -/
  captions : Numbered Text
  registers : RegisterIndex
  labels : LabelTable
  /-- The block at the end. -/
  openBlock : OpenBlock
  /-- The length of the rendered listing so far. -/
  renderedLength : Nat
  /-- Whether the last line was a conditional branch. -/
  afterBranch : Bool
  deriving DecidableEq, Repr

/-- What the lines of a listing are read against. -/
structure Context where
  files : Files
  dialect : Dialect
  options : Options
  text : Text

/-! ### The target of a branch -/

/-- Whether a token can stand between a mnemonic and the label it branches to. -/
def TokenKind.precedesTarget : TokenKind → Bool
  | .misc | .register | .number => true
  | _ => false

/-- Whether a token can name the target of a branch. -/
def TokenKind.namesTarget : TokenKind → Bool
  | .label | .identifier | .string => true
  | _ => false

/-- Among the tokens after a mnemonic, makes a label of the target and gives the
target as it was: the first token that is no blank, register or number, if it
can be a name. -/
def markOperand : List Token → List Token × Option Token
  | [] => ([], none)
  | token :: rest =>
    if token.kind.precedesTarget then
      let marked := markOperand rest
      (token :: marked.1, marked.2)
    else if token.kind.namesTarget then
      ({ token with kind := .label } :: rest, some token)
    else
      (token :: rest, none)

/-- In a line with a branch or a jump, makes a label of its target and gives the
target as it was. -/
def markTarget : List Token → List Token × Option Token
  | [] => ([], none)
  | token :: rest =>
    let marked :=
      if token.kind = .branch ∨ token.kind = .jump then markOperand rest else markTarget rest
    (token :: marked.1, marked.2)

namespace Assembly

/-- Nothing assembled. -/
def start : Assembly where
  tokens := []
  lines := []
  blocks := []
  spans := []
  sources := .empty
  captions := .empty
  registers := .empty
  labels := .empty
  openBlock := ⟨0, 0, {}, 0⟩
  renderedLength := 0
  afterBranch := false

/-- The place of the next line. -/
def nextRef (assembly : Assembly) : LineRef :=
  ⟨assembly.blocks.length, assembly.openBlock.length⟩

/-- Completes the open block, if it has lines, and opens the next one.  Without
any content the first block of a listing is a `block`, and a later one is
`none` of the kinds. -/
def closeBlock (assembly : Assembly) : Assembly :=
  if assembly.openBlock.length = 0 then
    assembly
  else
    let kind := assembly.openBlock.content.blockKind <|
      if assembly.blocks.isEmpty then .block else .none
    { assembly with
      blocks := assembly.blocks ++
        [⟨kind, assembly.openBlock.lineIndex, assembly.openBlock.length, []⟩]
      spans := assembly.spans ++ [⟨assembly.openBlock.start, assembly.renderedLength⟩]
      openBlock := ⟨assembly.lines.length, 0, {}, assembly.renderedLength⟩ }

/-- Makes ready for a line that starts with the given token. -/
def beginLine (assembly : Assembly) (first : Token) : Assembly :=
  let ready :=
    if assembly.afterBranch || first.kind == .label then assembly.closeBlock else assembly
  { ready with afterBranch := false }

/-- Stores a line of the given kind, tokens and rendered length. -/
def store (assembly : Assembly) (text : Text) (kind : LineKind) (tokens : List Token)
    (length : Nat) : Assembly :=
  { assembly with
    tokens := assembly.tokens ++ tokens
    lines := assembly.lines ++ [⟨kind, assembly.tokens.length, tokens.length⟩]
    registers := RegisterIndex.push assembly.registers assembly.lines.length
      ((tokens.filter (·.kind == .register)).map (·.text text))
    openBlock :=
      { assembly.openBlock with
        length := assembly.openBlock.length + 1
        content := assembly.openBlock.content.observe kind }
    renderedLength := assembly.renderedLength + length
    afterBranch := kind = .codeBranch }

/-- Stores a line that names a source location, with the comment that shows
it. -/
def storeLocation (assembly : Assembly) (context : Context) (location : SourceLocation)
    (tokens : List Token) : Assembly :=
  let caption := assembly.sources.caption context.dialect.commentStart location
  let captioned :=
    if caption.isEmpty then
      assembly
    else
      { assembly with
        captions := assembly.captions.insert assembly.lines.length caption }
  captioned.store context.text (.located location) tokens (caption.byteSize + 1)

/-- Stores a line that declares a label. -/
def storeLabel (assembly : Assembly) (context : Context) (tokens : List Token) : Assembly :=
  let declared :=
    match tokens with
    | [] => assembly
    | label :: _ =>
      { assembly with labels := assembly.labels.declare (label.text context.text) assembly.nextRef }
  declared.store context.text .labelDeclaration tokens (lineLength context.dialect tokens)

/-- Stores a line with a branch or a jump, and the use of a label that it is. -/
def storeBranch (assembly : Assembly) (context : Context) (kind : LineKind)
    (tokens : List Token) : Assembly :=
  let marked := (markTarget tokens).1
  let used :=
    match (markTarget tokens).2 with
    | none => assembly
    | some target =>
      { assembly with
        labels := assembly.labels.use assembly.nextRef ⟨target.position, target.length⟩ }
  used.store context.text kind marked (lineLength context.dialect marked)

/-- Takes the tokens of a line for which the assembly is ready. -/
def finishLine (assembly : Assembly) (context : Context) (tokens : List Token) :
    Except ListingError Assembly :=
  match lineKind tokens with
  | .sourceFile => do
    let sources ← assembly.sources.register context.files context.options.loadSourceFiles
      context.text tokens
    .ok { assembly with sources := sources }
  | .sourceLocation => do
    let location ← readLocation context.text tokens
    .ok (assembly.storeLocation context location tokens)
  | .labelDeclaration => .ok (assembly.storeLabel context tokens)
  | .codeBranch => .ok (assembly.storeBranch context .codeBranch tokens)
  | .codeJump => .ok (assembly.storeBranch context .codeJump tokens)
  | kind => .ok (assembly.store context.text kind tokens (lineLength context.dialect tokens))

/-- Takes one more line. -/
def addLine (context : Context) (assembly : Assembly) (tokens : List Token) :
    Except ListingError Assembly :=
  match tokens with
  | [] => .ok assembly
  | first :: _ => (assembly.beginLine first).finishLine context tokens

/-- Takes lines one after the other, up to the first error. -/
def addLines (context : Context) (assembly : Assembly) (lines : List (List Token)) :
    Except ListingError Assembly :=
  lines.foldlM (addLine context) assembly

end Assembly

/-!
## From a text to its analysis

`analyze` tokenizes a listing, assembles its lines and blocks and resolves the
labels of its branches.
-/

/-- All that is derived from a listing. -/
structure Analysis where
  dialect : Dialect
  tokens : List Token
  lines : List Line
  blocks : List Block
  /-- The part of the rendered listing that each block takes up. -/
  spans : List BlockSpan
  sources : SourceTable
  /-- The comments that show source locations, by line. -/
  captions : Numbered Text
  registers : RegisterIndex
  deriving DecidableEq, Repr

/-- The lines of a listing that are taken into account. -/
def listingLines (dialect : Dialect) (options : Options) (text : Text) : List (List Token) :=
  let tokens := tokenize dialect text
  cutLines (if options.skipHeaderLine then dropHeader tokens else tokens)

/-- The source files that the analysis of a listing asks for. -/
def requestedFiles (dialect : Dialect) (options : Options) (text : Text) : List Text :=
  (listingLines dialect options text).filterMap fun tokens =>
    if lineKind tokens = .sourceFile && options.loadSourceFiles then
      (readFileLine text tokens).toOption.bind Prod.snd
    else
      none

/-- Analyzes a listing. -/
def analyze (files : Files) (dialect : Dialect) (options : Options) (text : Text) :
    Except ListingError Analysis := do
  let context : Context := ⟨files, dialect, options, text⟩
  let lines := listingLines dialect options text
  let assembly := (← Assembly.addLines context .start lines).closeBlock
  let resolution := assembly.labels.resolve text assembly.lines assembly.blocks
  let _ ← resolution.outcome
  .ok
    { dialect := dialect
      tokens := assembly.tokens
      lines := assembly.lines
      blocks := resolution.blocks
      spans := assembly.spans
      sources := assembly.sources
      captions := assembly.captions
      registers := assembly.registers }

end AsmListing
