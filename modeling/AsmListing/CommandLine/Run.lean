import AsmListing.CommandLine.Arguments
import AsmListing.Session

/-!
# Running a command line

What a command line prints and the code with which it ends, as a function of
its arguments, the standard input and the files it may read.
-/

namespace AsmListing

/-- What the run of a command line leaves behind. -/
structure Outcome where
  code : Nat
  stdout : Text
  stderr : Text
  deriving DecidableEq, Repr

/-! ### Formatting -/

/-- A text with spaces after it, up to a number of characters. -/
def padRight (width : Nat) (text : Text) : Text :=
  text ++ List.replicate (width - text.length) ' '

/-- A text with spaces before it, up to a number of characters. -/
def padLeft (width : Nat) (text : Text) : Text :=
  List.replicate (width - text.length) ' ' ++ text

/-- A terminal attribute by its code. -/
def escape (code : Nat) : Text :=
  '\x1b' :: '[' :: (Text.ofNat code ++ ['m'])

/-- A text between the terminal attribute that sets it off and the one that
ends this. -/
def setOff (on off : Nat) (text : Text) : Text :=
  escape on ++ text ++ escape off

/-- A blue text. -/
def blue (text : Text) : Text := setOff 34 39 text

/-- A green text. -/
def green (text : Text) : Text := setOff 32 39 text

/-- A cyan text. -/
def cyan (text : Text) : Text := setOff 36 39 text

/-- A bold text. -/
def bold (text : Text) : Text := setOff 1 22 text

/-! ### The summary of the blocks -/

/-- The name of a block kind in the summary. -/
def BlockKind.name : BlockKind → String
  | .none => "none"
  | .block => "block"
  | .directive => "directive"
  | .code => "code"
  | .data => "data"

/-- The line of an outbound edge in the summary. -/
def edgeSummary (edge : Edge) : Text :=
  "      ".toList ++ cyan "->".toList ++ " #".toList ++ Text.ofNat edge.target.block ++
    " line ".toList ++ Text.ofNat edge.target.line ++ " (from line ".toList ++
    Text.ofNat edge.origin.line ++ ")\n".toList

/-- The lines of a block in the summary. -/
def blockSummary (index : Nat) (block : Block) (label : Text) (span : BlockSpan) : Text :=
  blue ('#' :: padRight 4 (Text.ofNat index)) ++ " ".toList ++
    padRight 9 block.kind.name.toList ++ " ".toList ++ green (padRight 24 label) ++
    " lines ".toList ++ padLeft 5 (Text.ofNat block.lineIndex) ++ "+".toList ++
    padRight 4 (Text.ofNat block.length) ++ " text ".toList ++ Text.ofNat span.start ++
    "..".toList ++ Text.ofNat span.stop ++ "\n".toList ++ block.outbound.flatMap edgeSummary

/-- The summary of the blocks of a session. -/
def summary (session : Session) : Text :=
  let graph := session.graph
  let lines := session.blocks.mapIdx fun index block =>
    blockSummary index block (graph.labelAt index) (session.spans[index]?.getD ⟨0, 0⟩)
  lines.flatten ++ bold (Text.ofNat graph.blockCount) ++ " blocks, ".toList ++
    bold (Text.ofNat graph.edgeCount) ++ " edges\n".toList

/-! ### The run -/

/-- How an error is shown. -/
def errorLine (error : ListingError) : Text :=
  escape 31 ++ escape 1 ++ "error".toList ++ escape 39 ++ escape 22 ++ ": ".toList ++
    error.message.toList ++ "\n".toList

/-- What a session prints in a mode. -/
def Session.print (session : Session) : Mode → Except ListingError Text
  | .text => session.fullText.1
  | .blocks => .ok (summary session)
  | .dot => .ok session.graph.toDot

/-- The path of the listing, if it does not come from the standard input. -/
def Arguments.path? (arguments : Arguments) : Option Text :=
  arguments.input.filter (· != ['-'])

/-- Loads the listing that the arguments ask for. -/
def Arguments.load (arguments : Arguments) (files : Files) (stdin : ByteArray) :
    Except ListingError Unit × Session :=
  let dialect := arguments.dialect.getD .intel
  match arguments.path? with
  | some path => Session.fresh.loadFile files path dialect arguments.options
  | none =>
    match decodeText stdin with
    | .ok text => Session.fresh.load files text dialect arguments.options
    | .error cause => (.error (.unreadable "<stdin>".toList cause), Session.fresh)

/-- What the arguments print. -/
def Arguments.output (arguments : Arguments) (files : Files) (stdin : ByteArray) :
    Except ListingError Text :=
  match arguments.load files stdin with
  | (.ok _, session) => session.print (arguments.mode.getD .text)
  | (.error error, _) => .error error

/-- Runs arguments. -/
def Arguments.run (arguments : Arguments) (files : Files) (stdin : ByteArray) : Outcome :=
  match arguments.output files stdin with
  | .ok text => ⟨0, text, []⟩
  | .error error => ⟨1, [], errorLine error⟩

/-- How to use the command line. -/
def usage : String :=
  "usage: [--arch x86|arm64|wasm|llvm-ir] [--mode text|blocks|dot] [--light] [--no-color] " ++
    "[--smell-test] [--skip-header] [--no-source] [INPUT]\n"

/-- Runs a command line. -/
def runCommandLine (arguments : List Text) (files : Files) (stdin : ByteArray) : Outcome :=
  match Arguments.ofList? arguments with
  | some arguments => arguments.run files stdin
  | none => ⟨2, [], usage.toList⟩

end AsmListing
