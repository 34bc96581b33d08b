import AsmListing.Analysis
import AsmListing.Description
import AsmListing.Graph
import AsmListing.Render

/-!
# Sessions: one listing and the questions about it

A session holds at most one analyzed listing.  Loading a listing replaces what
was there; when it fails, nothing is left of the listing before either.

Blocks are rendered when they are first asked for, in the color mode of the
options, and kept.  So the questions that need a rendering give back the
session with what it now keeps.
-/

namespace AsmListing

/-- An analysis and the renderings kept so far, one place for each block. -/
structure Loaded where
  analysis : Analysis
  renderings : List (Option Rendering)
  deriving DecidableEq, Repr

/-- A session. -/
structure Session where
  input : Text
  options : Options
  loaded : Option Loaded
  deriving DecidableEq, Repr

/-- How the blocks of an analyzed listing are rendered. -/
def Analysis.renderer (analysis : Analysis) (text : Text) (options : Options) : Renderer where
  text := text
  dialect := analysis.dialect
  tokens := analysis.tokens
  lines := analysis.lines
  blocks := analysis.blocks
  captions := analysis.captions
  palette := Palette.ofSkin options.darkSkin
  smellTest := options.smellTest

namespace Session

/-- A session in which nothing has been loaded. -/
def fresh : Session :=
  ⟨[], {}, none⟩

/-! ### Loading -/

/-- Forgets the listing.  The options remain. -/
def reset (session : Session) : Session :=
  { session with input := [], loaded := none }

/-- Loads a listing.  On failure the session is left without one. -/
def load (session : Session) (files : Files) (text : Text) (dialect : Dialect)
    (options : Options) : Except ListingError Unit × Session :=
  let cleared := { session.reset with input := text, options := options }
  match analyze files dialect options text with
  | .ok analysis =>
    let renderings := List.replicate analysis.blocks.length none
    (.ok (), { cleared with loaded := some ⟨analysis, renderings⟩ })
  | .error error => (.error error, cleared.reset)

/-- Loads a listing in the dialect of a name. -/
def loadNamed (session : Session) (files : Files) (text name : Text) (options : Options) :
    Except ListingError Unit × Session :=
  match Dialect.ofName name with
  | .ok dialect => session.load files text dialect options
  | .error error => (.error error, session.reset)

/-- Loads the listing that a path holds. -/
def loadFile (session : Session) (files : Files) (path : Text) (dialect : Dialect)
    (options : Options) : Except ListingError Unit × Session :=
  match files.read path with
  | .ok text => session.load files text dialect options
  | .error cause => (.error (.unreadable path cause), session.reset)

/-! ### What was loaded -/

/-- The analysis of the listing, if one is loaded. -/
def analysis? (session : Session) : Option Analysis :=
  session.loaded.map (·.analysis)

/-- The dialect of the listing. -/
def dialect? (session : Session) : Option Dialect :=
  session.analysis?.map (·.dialect)

/-- The tokens of the listing. -/
def tokens (session : Session) : List Token :=
  (session.analysis?.map (·.tokens)).getD []

/-- The lines of the listing. -/
def lines (session : Session) : List Line :=
  (session.analysis?.map (·.lines)).getD []

/-- The blocks of the listing. -/
def blocks (session : Session) : List Block :=
  (session.analysis?.map (·.blocks)).getD []

/-- The part of the rendered listing that each block takes up. -/
def spans (session : Session) : List BlockSpan :=
  (session.analysis?.map (·.spans)).getD []

/-- The slice of the listing that a token is. -/
def tokenSlice? (session : Session) (index : Nat) : Option Slice :=
  session.tokens[index]?.map fun token => Slice.of session.input token.position token.length

/-- The characters of a token. -/
def tokenText? (session : Session) (index : Nat) : Option Text :=
  session.tokens[index]?.map (·.text session.input)

/-- The name of a registered source file. -/
def sourceName? (session : Session) (number : Nat) : Option Text :=
  session.analysis?.bind fun analysis => (analysis.sources.get? number).map (·.name)

/-- The graph of the blocks. -/
def graph (session : Session) : BlockGraph :=
  BlockGraph.ofBlocks session.input session.tokens session.lines session.blocks

/-! ### Rendering -/

/-- How the session's listing is rendered. -/
def renderer (session : Session) (analysis : Analysis) : Renderer :=
  analysis.renderer session.input session.options

/-- The analysis, for a question about one of its blocks. -/
def forBlock (session : Session) (index : Nat) : Except ListingError Loaded :=
  match session.loaded with
  | none => .error (.blockOutOfRange index 0)
  | some loaded =>
    if index < loaded.analysis.blocks.length then
      .ok loaded
    else
      .error (.blockOutOfRange index loaded.analysis.blocks.length)

/-- Renders a block anew. -/
def renderAnew (session : Session) (index : Nat) (colored : Bool) :
    Except ListingError Rendering := do
  let loaded ← session.forBlock index
  (session.renderer loaded.analysis).renderBlock index colored

/-- The rendering of a block that is kept, or else a new one. -/
def rendering (session : Session) (index : Nat) : Except ListingError Rendering := do
  let loaded ← session.forBlock index
  match ← getRecord .renderings loaded.renderings index with
  | some rendering => .ok rendering
  | none =>
    (session.renderer loaded.analysis).renderBlock index session.options.syntaxColoring

/-- The session that keeps a rendering of a block. -/
def keep (session : Session) (index : Nat) (rendering : Rendering) : Session :=
  { session with
    loaded := session.loaded.map fun loaded =>
      { loaded with renderings := loaded.renderings.set index (some rendering) } }

/-- Renders a block, or takes the rendering that is kept. -/
def render (session : Session) (index : Nat) : Except ListingError Rendering × Session :=
  match session.rendering index with
  | .ok rendering => (.ok rendering, session.keep index rendering)
  | .error error => (.error error, session)

/-- The text of a block in the color mode of the options. -/
def blockText (session : Session) (index : Nat) : Except ListingError Text × Session :=
  let answer := session.render index
  (answer.1.map (·.text), answer.2)

/-- The texts of a number of blocks from an index on, one after the other. -/
def blockTexts (session : Session) : Nat → Nat → Except ListingError Text × Session
  | _, 0 => (.ok [], session)
  | index, count + 1 =>
    match session.blockText index with
    | (.error error, kept) => (.error error, kept)
    | (.ok text, kept) =>
      let following := blockTexts kept (index + 1) count
      (following.1.map (text ++ ·), following.2)

/-- The text of the whole listing in the color mode of the options. -/
def fullText (session : Session) : Except ListingError Text × Session :=
  match session.loaded with
  | none => (.ok session.input, session)
  | some _ => session.blockTexts 0 session.blocks.length

/-! ### Finding one's way -/

/-- The block, among those from `first` on, that a byte of the rendered listing
belongs to. -/
def findBlock? (session : Session) (offset : Nat) (first : Nat) : Option Nat :=
  if session.spans.length < first then
    none
  else
    let candidates := session.spans.drop first
    let passed := bisect (·.stop ≤ offset) candidates
    match candidates[passed]? with
    | some span => if span.contains offset then some (first + passed) else none
    | none => none

/-- The line at an index of a block, with its index in the listing, if its
tokens have columns. -/
def tokenLine? (session : Session) (block line : Nat) : Option (Nat × Line) :=
  session.blocks[block]?.bind fun found =>
    if line < found.length then
      session.lines[found.lineIndex + line]?.bind fun content =>
        match content.kind with
        | .located _ => none
        | _ => some (found.lineIndex + line, content)
    else
      none

/-- The token at a column of a line of a block, and the index of the line. -/
def tokenAt? (session : Session) (block line column : Nat) : Option (Nat × Nat) × Session :=
  match session.tokenLine? block line with
  | none => (none, session)
  | some (lineIndex, content) =>
    match session.render block with
    | (.error _, kept) => (none, kept)
    | (.ok rendering, kept) =>
      let found := do
        let columns ← rendering.columns[line]?
        let tokens ← content.tokens? session.tokens
        tokenAtColumn? tokens columns column
      (found.map fun index => (content.tokenIndex + index, lineIndex), kept)

/-! ### Registers and mnemonics -/

/-- The registers of a line. -/
def registers? (session : Session) (line : Nat) : Option (List Text) :=
  session.analysis?.bind fun analysis => analysis.registers.get? line

/-- How many registers of a line are the given one. -/
def countRegister (session : Session) (line : Nat) (register : Text) : Nat :=
  match session.analysis? with
  | none => 0
  | some analysis => analysis.registers.countMatches analysis.dialect line register

/-- Whether two spellings name one register. -/
def registerEqual (session : Session) (left right : Text) : Bool :=
  match session.dialect? with
  | none => false
  | some dialect => dialect.registerEqual left right

/-- Keeps the first name of every register; without a listing, all names. -/
def dedupRegisters (session : Session) (registers : List Text) : List Text :=
  match session.dialect? with
  | none => registers
  | some dialect => AsmListing.dedupRegisters dialect registers

/-- The first token of a line, from the token `start` on, that is the given
register. -/
def registerToken? (session : Session) (line : Nat) (register : Text) (start : Nat) :
    Option Nat :=
  session.analysis?.bind fun analysis =>
    analysis.lines[line]?.bind fun content =>
      let first := max content.tokenIndex start
      let candidates := (analysis.tokens.take content.tokenEnd).drop first
      (candidates.findIdx? fun token =>
        token.kind == .register &&
          analysis.dialect.registerEqual register (token.text session.input)).map (first + ·)

/-- The kind of a vector mnemonic.  Without a listing the dialect is Intel. -/
def simdKind (session : Session) (mnemonic : Text) : Except ListingError SimdKind :=
  (session.dialect?.getD .intel).simdKind mnemonic

/-- The description of a mnemonic. -/
def describe? (session : Session) (mnemonic : Text) : Option String :=
  session.dialect?.bind fun dialect => Description.lookup? dialect mnemonic

end Session

end AsmListing
