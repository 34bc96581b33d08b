import AsmListing.Text.Basic

/-!
# What surrounds a listing

The dialect in which a listing is written, the options of its analysis, the
files that it names, and what can go wrong with it.
-/

namespace AsmListing

/-!
## Assembly dialects

The four dialects a listing can be written in, with the names they go by and
the conventions that do not depend on their vocabulary.
-/

/-- The language of a listing. -/
inductive Dialect
  /-- x86-64 assembly in Intel syntax. -/
  | intel
  | arm64
  /-- WebAssembly assembly. -/
  | wasm
  /-- LLVM intermediate representation. -/
  | llvmIr
  deriving DecidableEq, Repr

namespace Dialect

/-- All dialects. -/
def all : List Dialect :=
  [.intel, .arm64, .wasm, .llvmIr]

/-- The name under which a dialect is shown. -/
def name : Dialect → String
  | .intel => "intel"
  | .arm64 => "arm64"
  | .wasm => "wasm"
  | .llvmIr => "llvm-ir"

/-- The names by which a dialect can be asked for, in small letters. -/
def aliases : Dialect → List String
  | .intel => ["intel", "x86", "x86-64", "x86_64", "x64"]
  | .arm64 => ["arm64", "aarch64", "arm"]
  | .wasm => ["wasm", "wasm32", "wasm64"]
  | .llvmIr => ["llvm-ir", "llvmir", "llvm", "ir"]

/-- The dialect of a name, whatever the case of its ASCII letters. -/
def ofName? (name : Text) : Option Dialect :=
  all.find? (·.aliases.contains (String.ofList name.toLower))

/-- The character that starts a comment. -/
def commentStart : Dialect → Char
  | .intel | .wasm => '#'
  | .arm64 | .llvmIr => ';'

/-- Whether short mnemonics are padded so that their operands line up. -/
def alignsInstructions : Dialect → Bool
  | .intel => true
  | _ => false

end Dialect

/-- The width to which short mnemonics are padded. -/
def instructionWidth : Nat := 10

/-! ## Options of an analysis -/

/-- How a listing is analyzed and rendered. -/
structure Options where
  /-- Colors for a dark background, and otherwise for a light one. -/
  darkSkin : Bool := true
  /-- Whether the kept renderings are colored. -/
  syntaxColoring : Bool := true
  /-- Whether packed and scalar vector instructions have colors of their own. -/
  smellTest : Bool := false
  /-- Whether the first line of the listing is left out. -/
  skipHeaderLine : Bool := false
  /-- Whether source files are read, so that locations show their lines. -/
  loadSourceFiles : Bool := true
  deriving DecidableEq, Repr

/-!
## Reading files

The library never touches a disk.  Whoever needs the contents of files is given
`Files`, the answers to all questions "what does this path hold?".  `FileTree`
is a directory of files in memory, and `FileTree.files` answers from it as an
operating system would for relative paths.
-/

/-- Why a path could not be read as a text. -/
inductive ReadError
  | notFound
  | permissionDenied
  | notDirectory
  | isDirectory
  | nameTooLong
  | invalidPath
  | invalidEncoding
  deriving DecidableEq, Repr

/-- The wording of each failure. -/
def ReadError.message : ReadError → String
  | .notFound => "No such file or directory (os error 2)"
  | .permissionDenied => "Permission denied (os error 13)"
  | .notDirectory => "Not a directory (os error 20)"
  | .isDirectory => "Is a directory (os error 21)"
  | .nameTooLong => "File name too long (os error 36)"
  | .invalidPath => "file name contained an unexpected NUL byte"
  | .invalidEncoding => "stream did not contain valid UTF-8"

/-- What every path holds. -/
structure Files where
  read : Text → Except ReadError Text

/-- No files at all. -/
def Files.none : Files :=
  ⟨fun _ => .error .notFound⟩

/-- The files of a list of answers; a path without an answer is not found. -/
def Files.ofAnswers (answers : List (Text × Except ReadError Text)) : Files :=
  ⟨fun path => (answers.lookup path).getD (.error .notFound)⟩

/-- Decodes the contents of a file. -/
def decodeText (contents : ByteArray) : Except ReadError Text :=
  match String.fromUTF8? contents with
  | some text => .ok text.toList
  | none => .error .invalidEncoding

/-! ### A directory in memory -/

/-- The longest name a directory can hold, in bytes. -/
def maxNameLength : Nat := 255

/-- The length from which on a path is refused, in bytes. -/
def maxPathLength : Nat := 4096

/-- The files of a directory and its subdirectories, each with the names that
lead to it. -/
structure FileTree where
  entries : List (List Text × ByteArray)

namespace FileTree

/-- Whether a name only stands for the directory in which it is looked up. -/
def isHere (name : Text) : Bool :=
  name.isEmpty || name == ['.']

/-- The names of a path that lead from one directory to another. -/
def steps (path : Text) : List Text :=
  (path.split '/').filter (!isHere ·)

/-- The tree of files given by their paths.  Of two files with the same path the
later one replaces the earlier one. -/
def ofPaths (files : List (Text × ByteArray)) : FileTree :=
  ⟨files.reverse.map fun (path, contents) => (steps path, contents)⟩

/-- Whether some file lies below a directory. -/
def isDirectory (tree : FileTree) (directory : List Text) : Bool :=
  tree.entries.any fun (names, _) => directory.isPrefixOf names && names.length != directory.length

/-- Why a directory that lacks a name refuses it: no directory can hold a name
that is too long, whatever else it holds. -/
def missing (name : Text) : ReadError :=
  if maxNameLength < name.byteSize then .nameTooLong else .notFound

/-- What a path above the root of the tree holds: the directories on the way
exist, and nothing else is known there. -/
def readOutside (names : List Text) : Except ReadError ByteArray :=
  match names.find? fun name => !isHere name && name != ['.', '.'] with
  | some name => .error (missing name)
  | none => .error .isDirectory

/-- Follows the names of a path from a directory of the tree. -/
def readFrom (tree : FileTree) : List Text → List Text → Except ReadError ByteArray
  | _, [] => .error .isDirectory
  | directory, name :: names =>
    if isHere name then
      readFrom tree directory names
    else if name = ['.', '.'] then
      if directory.isEmpty then readOutside names else readFrom tree directory.dropLast names
    else
      match tree.entries.lookup (directory ++ [name]) with
      | some contents => if names.isEmpty then .ok contents else .error .notDirectory
      | none =>
        if tree.isDirectory (directory ++ [name]) then
          readFrom tree (directory ++ [name]) names
        else
          .error (missing name)

/-- The contents that a path leads to.  Absolute paths lead out of the tree. -/
def read (tree : FileTree) (path : Text) : Except ReadError ByteArray :=
  if path.contains '\x00' then .error .invalidPath
  else if path.isEmpty then .error .notFound
  else if maxPathLength ≤ path.byteSize then .error .nameTooLong
  else if path.head? = some '/' then readOutside (path.split '/')
  else readFrom tree [] (path.split '/')

/-- The files of a tree. -/
def files (tree : FileTree) : Files :=
  ⟨fun path => tree.read path >>= decodeText⟩

end FileTree

/-!
## Errors

What can go wrong with a listing, and the one place where it is put into words.
-/

/-- The directives whose operands are numbers. -/
inductive NumericDirective
  | file
  | cvFile
  | loc
  deriving DecidableEq, Repr

/-- How a directive is spelled. -/
def NumericDirective.spelling : NumericDirective → String
  | .file => ".file"
  | .cvFile => ".cv_file"
  | .loc => ".loc"

/-- The sequences of records that are accessed by index. -/
inductive Records
  | blocks
  | lines
  | tokens
  | renderings
  deriving DecidableEq, Repr

/-- What one record of a sequence is called. -/
def Records.singular : Records → String
  | .blocks => "block"
  | .lines => "line"
  | .tokens => "token"
  | .renderings => "render cache"

/-- Why a listing could not be analyzed or a question not be answered. -/
inductive ListingError
  /-- An operand of a directive that should be a number below 2³², where it
  stands and what is wrong with it. -/
  | malformedNumber (directive : NumericDirective) (text : Text) (position : Nat)
      (cause : Text.NumeralError)
  /-- A record that another one refers to does not exist. -/
  | indexOutOfRange (records : Records) (index count : Nat)
  | unknownDialect (name : Text)
  | unsupportedSimd (dialect : Dialect)
  /-- The block that was asked for does not exist. -/
  | blockOutOfRange (index count : Nat)
  | unreadable (path : Text) (cause : ReadError)
  deriving DecidableEq, Repr

/-- The wording of each error. -/
def ListingError.message : ListingError → String
  | .malformedNumber directive text position _ =>
    "malformed number '" ++ String.ofList text ++ "' in " ++ directive.spelling ++
      " directive at byte " ++ Nat.repr position
  | .indexOutOfRange records index count =>
    records.singular ++ " index " ++ Nat.repr index ++ " out of range (length " ++
      Nat.repr count ++ ")"
  | .unknownDialect name =>
    "unknown architecture '" ++ String.ofList name ++
      "' (expected one of: intel, arm64, wasm, llvm-ir)"
  | .unsupportedSimd dialect =>
    "SIMD sub-classification is not defined for " ++ dialect.name
  | .blockOutOfRange index count =>
    "block " ++ Nat.repr index ++ " out of range (" ++ Nat.repr count ++ " blocks)"
  | .unreadable path cause =>
    "failed to read " ++ String.ofList path ++ ": " ++ cause.message

/-- The record at an index, or an error that names the sequence. -/
def getRecord {α : Type} (records : Records) (items : List α) (index : Nat) :
    Except ListingError α :=
  match items[index]? with
  | some item => .ok item
  | none => .error (.indexOutOfRange records index items.length)

/-- The dialect of a name, or an error that shows the name. -/
def Dialect.ofName (name : Text) : Except ListingError Dialect :=
  match Dialect.ofName? name with
  | some dialect => .ok dialect
  | none => .error (.unknownDialect name)

end AsmListing
