import AsmListing.Dialect.Vocabulary

/-!
# Cutting a listing into tokens

Where a token ends and what it is depends on its first character, and on little
else; a cursor takes one token after the other off a listing.
-/

namespace AsmListing

/-!
## Lexemes: where a token ends and what it is

The first character of a token decides how it is read (`Dialect.opening`),
how far it extends (`Dialect.extent`) and, with its spelling and the question
whether a colon follows, its kind (`Dialect.kindOf`).  Nothing else of the
surrounding text plays a part.

`extent_append` says that reading a token loses nothing.
-/

/-- The ways in which a token can begin. -/
inductive Opening
  /-- A point: a directive or a local label. -/
  | point
  /-- A letter, an underscore or an at sign. -/
  | word
  /-- A digit or a minus sign. -/
  | number
  /-- A double quote. -/
  | quote
  /-- The comment character of the dialect. -/
  | comment
  /-- A carriage return or a line feed. -/
  | lineBreak
  /-- Anything else. -/
  | misc
  deriving DecidableEq, Repr

/-- Whether a character starts a word. -/
def startsWord (character : Char) : Bool :=
  character.isAlpha || character == '_' || character == '@'

/-- Whether a character starts a number. -/
def startsNumber (character : Char) : Bool :=
  character.isDigit || character == '-'

/-- Whether a character ends a line. -/
def isLineBreak (character : Char) : Bool :=
  character == '\r' || character == '\n'

/-- Whether a character continues a directive. -/
def isDirectiveChar (character : Char) : Bool :=
  character.isAlphanum || character == '.' || character == '_' || character == '@'

/-- Whether a character continues a number. -/
def isNumberChar (character : Char) : Bool :=
  character.isDigit || ('a' ≤ character && character ≤ 'f') ||
    ('A' ≤ character && character ≤ 'F') || character == 'x' || character == '.'

/-- How the token that starts with a character is read. -/
def Dialect.opening (dialect : Dialect) (character : Char) : Opening :=
  if character = '.' then .point
  else if startsWord character then .word
  else if startsNumber character then .number
  else if character = '"' then .quote
  else if character = dialect.commentStart then .comment
  else if isLineBreak character then .lineBreak
  else .misc

/-- Whether a character starts a token other than `misc`, and so ends a run of
`misc` before it. -/
def Dialect.startsToken (dialect : Dialect) (character : Char) : Bool :=
  isLineBreak character || character == '.' || character == '"' || startsWord character ||
    startsNumber character || character == dialect.commentStart

/-! ### How far a token extends -/

/-- Cuts a text where a condition on its characters first fails. -/
def cutWhile (continues : Char → Bool) (text : Text) : Text × Text :=
  (text.takeWhile continues, text.dropWhile continues)

/-- Cuts after the rest of a word, and after the character that may end it. -/
def Dialect.cutWord (dialect : Dialect) (text : Text) : Text × Text :=
  match cutWhile dialect.isWordChar text with
  | (body, character :: rest) =>
    if dialect.endsWord character then (body ++ [character], rest) else (body, character :: rest)
  | (body, []) => (body, [])

/-- Cuts after the quote that ends a string.  A quote right after a backslash
does not end it; a string without an end runs through the whole text. -/
def cutString : Text → Text × Text
  | [] => ([], [])
  | '"' :: rest => (['"'], rest)
  | '\\' :: '"' :: rest =>
    let (body, following) := cutString rest
    ('\\' :: '"' :: body, following)
  | character :: rest =>
    let (body, following) := cutString rest
    (character :: body, following)

/-- Cuts after the line feed that makes one line break with a carriage return. -/
def cutLineBreak (first : Char) (text : Text) : Text × Text :=
  match first, text with
  | '\r', '\n' :: rest => (['\n'], rest)
  | _, rest => ([], rest)

/-- Cuts the text after a token's first character into the remaining characters
of the token and what follows it. -/
def Dialect.extent (dialect : Dialect) (first : Char) (text : Text) : Text × Text :=
  match dialect.opening first with
  | .point => cutWhile isDirectiveChar text
  | .word => dialect.cutWord text
  | .number => cutWhile isNumberChar text
  | .quote => cutString text
  | .comment => cutWhile (!isLineBreak ·) text
  | .lineBreak => cutLineBreak first text
  | .misc => cutWhile (!dialect.startsToken ·) text

theorem cutWhile_append (continues : Char → Bool) (text : Text) :
    (cutWhile continues text).1 ++ (cutWhile continues text).2 = text :=
  List.takeWhile_append_dropWhile

theorem cutWhile_append_of_pos {continues : Char → Bool} {front : Text}
    (hfront : ∀ character ∈ front, continues character = true) (text : Text) :
    cutWhile continues (front ++ text) =
      (front ++ (cutWhile continues text).1, (cutWhile continues text).2) := by
  simp [cutWhile, List.takeWhile_append_of_pos hfront, List.dropWhile_append_of_pos hfront]

theorem continues_head?_cutWhile (continues : Char → Bool) (text : Text) :
    ∀ character ∈ (cutWhile continues text).2.head?, continues character = false := by
  intro character hhead
  have hnot := List.head?_dropWhile_not continues text
  have hfound : (text.dropWhile continues).head? = some character := hhead
  rw [hfound] at hnot
  exact hnot

/-- A cut is found where the condition holds before and fails behind. -/
theorem cutWhile_eq {continues : Char → Bool} {front text : Text}
    (hfront : ∀ character ∈ front, continues character = true)
    (htext : ∀ character ∈ text.head?, continues character = false) :
    cutWhile continues (front ++ text) = (front, text) := by
  have hnone : cutWhile continues text = ([], text) := by
    cases text with
    | nil => rfl
    | cons character rest =>
      have hstop : continues character = false := htext character rfl
      simp [cutWhile, hstop]
  rw [cutWhile_append_of_pos hfront, hnone, List.append_nil]

theorem Dialect.cutWord_append (dialect : Dialect) (text : Text) :
    (dialect.cutWord text).1 ++ (dialect.cutWord text).2 = text := by
  have hcut := cutWhile_append dialect.isWordChar text
  unfold Dialect.cutWord
  split
  · next body character rest hparts =>
    rw [hparts] at hcut
    split <;> simpa using hcut
  · next body hparts =>
    rw [hparts] at hcut
    simpa using hcut

theorem cutString_append (text : Text) : (cutString text).1 ++ (cutString text).2 = text := by
  fun_induction cutString text <;> simp_all

theorem cutString_cons_of_ne {character : Char} {text : Text} (hquote : character ≠ '"')
    (hescape : ¬ (character = '\\' ∧ text.head? = some '"')) :
    cutString (character :: text) = (character :: (cutString text).1, (cutString text).2) := by
  rw [cutString.eq_def]
  split <;> simp_all

theorem cutLineBreak_append (first : Char) (text : Text) :
    (cutLineBreak first text).1 ++ (cutLineBreak first text).2 = text := by
  unfold cutLineBreak
  split <;> simp

/-- Reading a token loses nothing of the text. -/
theorem Dialect.extent_append (dialect : Dialect) (first : Char) (text : Text) :
    (dialect.extent first text).1 ++ (dialect.extent first text).2 = text := by
  unfold Dialect.extent
  split
  · exact cutWhile_append _ text
  · exact dialect.cutWord_append text
  · exact cutWhile_append _ text
  · exact cutString_append text
  · exact cutWhile_append _ text
  · exact cutLineBreak_append first text
  · exact cutWhile_append _ text

/-! ### What a token is -/

/-- The directives that register a source file. -/
def fileDirectives : List String := [".file", ".cv_file"]

/-- The directives that name a source location. -/
def locationDirectives : List String := [".loc", ".cv_loc"]

/-- The directives that emit data. -/
def dataDirectives : List String := [".long", ".byte", ".short", ".ascii", ".asciz"]

/-- The kind of a token that starts with a point.  What starts with `.L` is a
local label; two families of them mark the ends of functions. -/
def kindAfterPoint (spelling : Text) : TokenKind :=
  if ".L".toList.isPrefixOf spelling then
    if ".Lfunc_begin".toList.isPrefixOf spelling then .functionBegin
    else if ".Lfunc_end".toList.isPrefixOf spelling then .functionEnd
    else .label
  else if fileDirectives.contains (String.ofList spelling) then .sourceFile
  else if locationDirectives.contains (String.ofList spelling) then .sourceLocation
  else if dataDirectives.contains (String.ofList spelling) then .dataDirective
  else .directive

/-- The kind of a token from its spelling and from whether a colon follows.  A
colon makes a label of an identifier, a number or a string. -/
def Dialect.kindOf (dialect : Dialect) (first : Char) (body : Text) (colon : Bool) : TokenKind :=
  match dialect.opening first with
  | .point => kindAfterPoint (first :: body)
  | .word =>
    match dialect.classify (first :: body) with
    | .identifier => if colon then .label else .identifier
    | kind => kind
  | .number => if colon then .label else .number
  | .quote => if colon then .label else .string
  | .comment => .comment
  | .lineBreak => .newLine
  | .misc => .misc

/-!
## Reading the tokens of a listing

A cursor stands between two tokens.  Besides the text that is still to be read
and the number of bytes before it, it carries the bookkeeping of the aligned
positions: how far the text read so far has been moved to the right (`shift`),
and the padding that the last mnemonic still owes (`owed`).

The padding of a mnemonic is settled at the next token.  A line break cancels
it, blanks stay where they are and move what follows, and every other token is
moved itself.
-/

/-- A place between two tokens of a listing. -/
structure Cursor where
  /-- The text that is still to be read. -/
  rest : Text
  /-- The number of bytes that have been read. -/
  position : Nat
  /-- How far the aligned positions are ahead of the positions. -/
  shift : Nat
  /-- The padding of the last mnemonic, if it has not been settled. -/
  owed : Nat
  deriving DecidableEq, Repr

namespace Cursor

/-- The place before the first token. -/
def start (text : Text) : Cursor :=
  ⟨text, 0, 0, 0⟩

/-- How far a token of the given kind is itself moved by owed padding. -/
def settledOn (kind : TokenKind) (owed : Nat) : Nat :=
  if kind = .newLine ∨ kind = .misc then 0 else owed

/-- How far what follows a token of the given kind is moved by owed padding. -/
def settledAfter (kind : TokenKind) (owed : Nat) : Nat :=
  if kind = .newLine then 0 else owed

/-- The padding that a token owes to what follows it on its line. -/
def owedBy (dialect : Dialect) (kind : TokenKind) (length : Nat) (following : Text) : Nat :=
  match following with
  | [] => 0
  | character :: _ =>
    if dialect.alignsInstructions && kind.isInstruction && !isLineBreak character then
      instructionWidth - length
    else
      0

/-- Reads the token after the cursor, if there is one. -/
def next? (dialect : Dialect) (cursor : Cursor) : Option (Token × Cursor) :=
  match cursor.rest with
  | [] => none
  | first :: text =>
    let body := (dialect.extent first text).1
    let following := (dialect.extent first text).2
    let kind := dialect.kindOf first body (following.head? == some ':')
    let length := Text.byteSize (first :: body)
    some
      ({ kind := kind
         position := cursor.position
         aligned := cursor.position + cursor.shift + settledOn kind cursor.owed
         length := length },
       { rest := following
         position := cursor.position + length
         shift := cursor.shift + settledAfter kind cursor.owed
         owed := owedBy dialect kind length following })

theorem next?_rest_length_lt {dialect : Dialect} {cursor following : Cursor} {token : Token}
    (hnext : cursor.next? dialect = some (token, following)) :
    following.rest.length < cursor.rest.length := by
  unfold next? at hnext
  split at hnext
  · cases hnext
  · next first text hrest =>
    have happend := congrArg List.length (dialect.extent_append first text)
    simp only [Option.some.injEq, Prod.mk.injEq] at hnext
    obtain ⟨-, rfl⟩ := hnext
    simp only [hrest, List.length_cons, List.length_append] at happend ⊢
    omega

/-- The tokens after a cursor. -/
def tokens (dialect : Dialect) (cursor : Cursor) : List Token :=
  match _hnext : cursor.next? dialect with
  | none => []
  | some (token, following) => token :: following.tokens dialect
termination_by cursor.rest.length
decreasing_by exact next?_rest_length_lt _hnext

/-- Asks a cursor for a token the given number of times.  Each answer comes with
the position after it; once the text is used up, there is no token any more. -/
def ask (dialect : Dialect) : Nat → Cursor → List (Option Token × Nat)
  | 0, _ => []
  | count + 1, cursor =>
    match cursor.next? dialect with
    | none => (none, cursor.position) :: ask dialect count cursor
    | some (token, following) => (some token, following.position) :: ask dialect count following

end Cursor

/-- The tokens of a listing. -/
def tokenize (dialect : Dialect) (text : Text) : List Token :=
  (Cursor.start text).tokens dialect

end AsmListing
