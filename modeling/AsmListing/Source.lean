import AsmListing.Block
import AsmListing.Environment
import AsmListing.Indexing
import AsmListing.Text.Basic

/-!
# Source files

What the directives for source files and locations say, from the paths between
their quotes to the comments that show a location.
-/

namespace AsmListing

/-!
## Paths of source files

The path in a directive stands between quotes, with its backslashes doubled.
Once read, its parts are separated by slashes.
-/

/-- Makes one backslash of two, from left to right. -/
def undoubleBackslashes : Text → Text
  | [] => []
  | '\\' :: '\\' :: rest => '\\' :: undoubleBackslashes rest
  | character :: rest => character :: undoubleBackslashes rest

/-- Makes slashes of backslashes. -/
def slashBackslashes (path : Text) : Text :=
  path.map fun character => if character = '\\' then '/' else character

/-- The path that a quoted operand stands for. -/
def unquotePath (quoted : Text) : Text :=
  slashBackslashes (undoubleBackslashes (quoted.trim (· == '"')))

/-- The path of a name in a directory.  An absolute name does not need one. -/
def joinPath (directory name : Text) : Text :=
  if name.head? = some '/' ∨ directory = [] then
    name
  else
    directory.trimEnd (· == '/') ++ '/' :: name

/-- The last part of a path, or the whole path if it does not end in a name. -/
def baseName (path : Text) : Text :=
  match ((path.split '/').filter fun part => !part.isEmpty && part != ['.']).getLast? with
  | none => path
  | some part => if part = ['.', '.'] then path else part

/-!
## Source files and locations

A `.file` line registers a source file under a number, and a `.loc` line names
a place in a registered file.  A location is shown as a comment with the name
of the file, the line and the column, and the text of that line if the file
could be read:

```text
.file 1 "src/main.c"
.loc 1 12 5              # main.c(12, 6)    return a + b;
```

Their CodeView forms, `.cv_file` and `.cv_loc`, differ in their operands: a
path is followed by a checksum, and a location is preceded by a function
number.
-/

/-- A registered source file. -/
structure SourceFile where
  name : Text
  /-- The lines of the file, if it was read. -/
  lines : Option (List Text)
  deriving DecidableEq, Repr

/-- A line of a source file by its number, the first one being 1. -/
def SourceFile.line? (file : SourceFile) (number : Nat) : Option Text :=
  match number with
  | 0 => none
  | index + 1 => file.lines.bind (·[index]?)

/-- The limit of the numbers in directives. -/
def numberLimit : Nat := 4294967296

/-- The tokens of a line that carry meaning for a directive. -/
def operands (tokens : List Token) : List Token :=
  tokens.filter fun token =>
    token.kind != .misc && token.kind != .newLine && token.kind != .comment

/-- The number that an operand of a directive stands for. -/
def readOperand (text : Text) (directive : NumericDirective) (token : Token) :
    Except ListingError Nat :=
  match Text.readNumeral numberLimit (token.text text) with
  | .ok number => .ok number
  | .error cause => .error (.malformedNumber directive (token.text text) token.position cause)

/-- The directive that registers a file, by the first operand of its line. -/
def fileDirectiveOf (text : Text) (directive : Option Token) : NumericDirective :=
  match directive with
  | some token => if token.text text = ".cv_file".toList then .cvFile else .file
  | none => .file

/-- The name of a source file from the strings of its directive.  A CodeView
path is followed by a checksum, and so never by a second part. -/
def sourceName? (text : Text) (directive : NumericDirective) (tokens : List Token) : Option Text :=
  match (tokens.takeWhile (·.kind == .string)).map fun token => unquotePath (token.text text) with
  | [] => none
  | [name] => some name
  | first :: second :: _ =>
    if directive = .cvFile then some first else some (joinPath first second)

/-- The number and the name in a line that registers a file: a line without a
number registers file 0, and one without a name registers nothing. -/
def readFileLine (text : Text) (tokens : List Token) : Except ListingError (Nat × Option Text) :=
  let directive := fileDirectiveOf text (operands tokens).head?
  match (operands tokens).drop 1 with
  | [] => .ok (0, none)
  | token :: rest =>
    if token.kind = .number then do
      let number ← readOperand text directive token
      .ok (number, sourceName? text directive rest)
    else
      .ok (0, sourceName? text directive (token :: rest))

/-- A number of a location from the operand at its place.  An operand that is
not a number and one that is missing count as 0. -/
def readSlot (text : Text) (operand : Option Token) : Except ListingError Nat :=
  match operand with
  | none => .ok 0
  | some token => if token.kind = .number then readOperand text .loc token else .ok 0

/-- The operands of a location, without the directive and without the function
number of its CodeView form. -/
def locationOperands (text : Text) (tokens : List Token) : List Token :=
  match operands tokens with
  | [] => []
  | directive :: rest => if directive.text text = ".cv_loc".toList then rest.drop 1 else rest

/-- Reads a line that names a source location. -/
def readLocation (text : Text) (tokens : List Token) : Except ListingError SourceLocation := do
  let slots := locationOperands text tokens
  let file ← readSlot text slots[0]?
  let line ← readSlot text slots[1]?
  let column ← readSlot text slots[2]?
  .ok ⟨file, line, column⟩

/-- The source files registered so far. -/
abbrev SourceTable := Numbered SourceFile

namespace SourceTable

/-- Registers the file of a line.  Whether it can be read makes no difference
beyond the lines that locations show. -/
def register (table : SourceTable) (files : Files) (load : Bool) (text : Text)
    (tokens : List Token) : Except ListingError SourceTable := do
  match ← readFileLine text tokens with
  | (_, none) => .ok table
  | (number, some name) =>
    let lines := if load then (files.read name).toOption.map Text.lines else none
    .ok (table.insert number ⟨name, lines⟩)

/-- The comment that shows a location, without a line break.  Locations in file
0 and in files that are not registered are not shown. -/
def caption (table : SourceTable) (commentStart : Char) (location : SourceLocation) : Text :=
  match if location.file = 0 then none else table.get? location.file with
  | none => []
  | some file =>
    commentStart :: ' ' :: (baseName file.name ++
      if location.line = 0 then
        []
      else
        '(' :: (Text.ofNat location.line ++ [',', ' '] ++ Text.ofNat (location.column + 1) ++
          ')' :: (file.line? location.line).getD []))

end SourceTable

end AsmListing
