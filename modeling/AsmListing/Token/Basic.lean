import AsmListing.Text.Basic

/-!
# Tokens and keywords

What a token is, and the tables that tell the kinds of words.
-/

namespace AsmListing

/-!
## Tokens

A token is a kind and a byte range of the listing.  Beside its position it
carries the aligned position: where it starts once short mnemonics have been
padded to a common width.
-/

/-- What a token is. -/
inductive TokenKind
  /-- A directive without a meaning of its own here, such as `.globl`. -/
  | directive
  /-- A directive that emits data, such as `.long`. -/
  | dataDirective
  /-- A directive that registers a source file. -/
  | sourceFile
  /-- A directive that names a source location. -/
  | sourceLocation
  | label
  | functionBegin
  | functionEnd
  | identifier
  | qualifier
  | instruction
  | call
  /-- A conditional branch. -/
  | branch
  /-- An unconditional jump. -/
  | jump
  | ret
  | simd
  | register
  | number
  | string
  | comment
  | newLine
  /-- Blanks, punctuation and everything else between tokens. -/
  | misc
  deriving DecidableEq, Repr

/-- Whether a kind is that of a mnemonic. -/
def TokenKind.isInstruction : TokenKind → Bool
  | .instruction | .call | .branch | .jump | .ret | .simd => true
  | _ => false

/-- How a vector instruction works on its operands. -/
inductive SimdKind
  | packed
  | scalar
  | infrastructure
  deriving DecidableEq, Repr

/-- A token of a listing, by its byte range. -/
structure Token where
  kind : TokenKind
  position : Nat
  aligned : Nat
  length : Nat
  deriving DecidableEq, Repr

namespace Token

/-- The characters of a token. -/
def text (token : Token) (listing : Text) : Text :=
  listing.view token.position token.length

/-- How many bytes a token takes when it is rendered without color: every line
break becomes one line feed. -/
def renderedLength (token : Token) : Nat :=
  if token.kind = .newLine then 1 else token.length

end Token

/-!
## Keyword tables

A keyword table gives words their token kinds.  It is filled group by group;
of two entries for a word the earlier one counts, and the later ones are not kept
when the table is counted.  A word longer than every entry is known not to be a
keyword without a search.
-/

/-- Words with their token kinds, in the order in which they were added. -/
structure KeywordTable where
  entries : List (String × TokenKind)
  /-- The greatest byte length of a word in the table. -/
  maxLength : Nat
  deriving DecidableEq, Repr

namespace KeywordTable

/-- The table without words. -/
def empty : KeywordTable :=
  ⟨[], 0⟩

/-- Adds a group of words of one kind. -/
def add (table : KeywordTable) (words : List String) (kind : TokenKind) : KeywordTable where
  entries := table.entries ++ words.map (·, kind)
  maxLength := words.foldl (fun longest word => max longest word.utf8ByteSize) table.maxLength

/-- The table of a sequence of word groups. -/
def ofGroups (groups : List (List String × TokenKind)) : KeywordTable :=
  groups.foldl (fun table (words, kind) => table.add words kind) empty

/-- The kind of a word: that of its first entry, and `identifier` for a word
without one. -/
def lookup (table : KeywordTable) (word : String) : TokenKind :=
  if table.maxLength < word.utf8ByteSize then
    .identifier
  else
    (table.entries.lookup word).getD .identifier

/-- Enters a word with its kind, unless the word is there. -/
def enter (known : List (String × TokenKind)) (entry : String × TokenKind) :
    List (String × TokenKind) :=
  if known.any (·.1 == entry.1) then known else known ++ [entry]

/-- The words of a table with the kinds that they keep. -/
def kept (table : KeywordTable) : List (String × TokenKind) :=
  table.entries.foldl enter []

/-- The number of words of a table. -/
def size (table : KeywordTable) : Nat :=
  table.kept.length

/-- Whether the table has no words. -/
def isEmpty (table : KeywordTable) : Bool :=
  table.entries.isEmpty

end KeywordTable

end AsmListing
