import AsmListing.Text.Basic
import AsmListing.Text.Visible

/-!
# Slices of texts and how they are quoted

A slice is a part of a text that knows where it stands.  In diagnostics it is
shown between quotes.
-/

namespace AsmListing

/-!
## Quoted texts

A quoted text stands between double quotes and shows every character in one
line: the quote and the backslash are preceded by a backslash, the common
control characters have a letter, and every other character that would not be
visible is written by its code in hexadecimal.
-/

namespace Text

/-- The hexadecimal numeral of a number, in small letters. -/
def ofNatHex (number : Nat) : Text :=
  Nat.toDigits 16 number

/-- How a character is written between quotes. -/
def quoteChar (character : Char) : Text :=
  match character with
  | '"' => ['\\', '"']
  | '\\' => ['\\', '\\']
  | '\n' => ['\\', 'n']
  | '\r' => ['\\', 'r']
  | '\t' => ['\\', 't']
  | '\x00' => ['\\', '0']
  | other =>
    if isVisible other then
      [other]
    else
      '\\' :: 'u' :: '\x7b' :: (ofNatHex other.toNat ++ ['\x7d'])

/-- A text between double quotes. -/
def quote (text : Text) : Text :=
  '"' :: (text.flatMap quoteChar ++ ['"'])

end Text

/-!
## Slices: byte ranges inside a text

A slice is a byte range that lies inside its text; `Slice.of` clamps whatever
range it is given.  What a slice shows, `Slice.chars`, is empty when an end of
the range falls inside a character.  Two slices are the same when they show
the same characters, wherever they are.
-/

/-- A byte range by its start and its length. -/
structure Span where
  position : Nat
  length : Nat
  deriving DecidableEq, Repr

/-- The offset just past a byte range. -/
def Span.stop (span : Span) : Nat :=
  span.position + span.length

/-- A byte range inside a text. -/
structure Slice where
  text : Text
  position : Nat
  length : Nat
  stop_le : position + length ≤ text.byteSize

namespace Slice

/-- The part of a byte range that lies inside `text`. -/
def of (text : Text) (position length : Nat) : Slice where
  text := text
  position := min position text.byteSize
  length := min length (text.byteSize - min position text.byteSize)
  stop_le := by omega

/-- The slice that holds all of `text`. -/
def whole (text : Text) : Slice :=
  of text 0 text.byteSize

/-- The slice of no text. -/
def empty : Slice :=
  whole []

/-- The byte range of a slice. -/
def span (slice : Slice) : Span :=
  ⟨slice.position, slice.length⟩

/-- The characters that a slice shows. -/
def chars (slice : Slice) : Text :=
  slice.text.view slice.position slice.length

/-- A slice shows what its range shows in the whole text. -/
theorem chars_of (text : Text) (position length : Nat) :
    (of text position length).chars = text.view position length :=
  text.view_clamp position length

/-- A slice of length zero. -/
def isEmpty (slice : Slice) : Bool :=
  slice.length == 0

/-- The byte at offset `index` of what a slice shows. -/
def byteAt? (slice : Slice) (index : Nat) : Option UInt8 :=
  slice.chars.bytes[index]?

/-- The character that starts at byte offset `index` of what a slice shows. -/
def charAt? (slice : Slice) (index : Nat) : Option Char :=
  (slice.chars.dropBytes? index).bind List.head?

/-- Whether what a slice shows starts with `lead`. -/
def startsWith (slice : Slice) (lead : Text) : Bool :=
  lead.isPrefixOf slice.chars

/-- Whether a slice shows `character`. -/
def contains (slice : Slice) (character : Char) : Bool :=
  slice.chars.contains character

/-- The byte offset of the first `character` that a slice shows. -/
def indexOf? (slice : Slice) (character : Char) : Option Nat :=
  if slice.contains character then
    some (Text.byteSize (slice.chars.takeWhile (· != character)))
  else
    none

/-- Whether two slices show the same characters. -/
def same (left right : Slice) : Bool :=
  left.chars == right.chars

/-- The number of the first slice of a list that shows the same characters as
`slice`, the count starting at zero. -/
def firstSame? (slices : List Slice) (slice : Slice) : Option Nat :=
  slices.findIdx? (same slice)

/-- A slice in a diagnostic: what it shows, quoted, and where it starts. -/
def describe (slice : Slice) : Text :=
  Text.quote slice.chars ++ '@' :: Text.ofNat slice.position

end Slice

end AsmListing
