import AsmListing.Proofs.Fields
import AsmListing.Proofs.Fallible

/-!
# Reading locations

A line that names a source location is a directive and three numbers, with a function
number before them in its CodeView form.  Whatever the blanks between them and whatever
follows, the numbers are read as they are written, if all of them are below 2³²; otherwise
the first one that is not is too large.

Both forms are one after the function number has been counted to the directive
(`locationLead`): the tokens that count as the slots of a location start behind it
(`locationOperands_line`).
-/

namespace AsmListing

/-- A numeral with the blanks before it. -/
structure SpacedNumeral extends Numeral where
  blanks : Blanks

/-- A numeral with one space before it. -/
def SpacedNumeral.single (digits : Text) (hne : digits ≠ [])
    (hdigits : digits.all Char.isDigit = true) : SpacedNumeral :=
  ⟨⟨digits, hne, List.all_eq_true.mp hdigits⟩, .single⟩

def SpacedNumeral.field (number : SpacedNumeral) : Field :=
  ⟨number.blanks, .number number.toNumeral⟩

/-- The part of a location before its numbers: the directive, and in the CodeView form the
number of the function. -/
def locationLead : Option SpacedNumeral → Text
  | none => ".loc".toList
  | some function => ".cv_loc".toList ++ function.field.text

theorem locationLead_none : locationLead none = ".loc".toList := rfl

theorem locationLead_some (function : SpacedNumeral) :
    locationLead (some function) = ".cv_loc".toList ++ function.field.text := rfl

/-- A location with numbers, and what follows them. -/
def locationLine (function : Option SpacedNumeral) (numbers : List SpacedNumeral) (rest : Text) :
    Text :=
  locationLead function ++ (Field.texts (numbers.map SpacedNumeral.field) ++ rest)

/-- What reading a numeral at a place of a location gives. -/
def SpacedNumeral.read (number : SpacedNumeral) (position : Nat) : Except ListingError Nat :=
  if number.value < numberLimit then
    .ok number.value
  else
    .error (.malformedNumber .loc number.digits position .tooLarge)

/-! ## The operands of a location -/

theorem locationOperands_eq {text : Text} {tokens rest : List Token} {directive : Token}
    (hoperands : operands tokens = directive :: rest) :
    locationOperands text tokens =
      if directive.text text = ".cv_loc".toList then rest.drop 1 else rest := by
  rw [locationOperands, hoperands]

/-- The slots of a location are filled from the first number behind its beginning. -/
theorem locationOperands_line (dialect : Dialect) (function : Option SpacedNumeral)
    (numbers : List SpacedNumeral) {rest : Text} (hrest : rest.Breaks) :
    ∃ more, locationOperands (locationLine function numbers rest)
        (tokenize dialect (locationLine function numbers rest)) =
      Field.tokens (locationLead function).byteSize (numbers.map SpacedNumeral.field) ++ more := by
  cases function with
  | none =>
      obtain ⟨first, htext, hoperands⟩ := exists_operands_line dialect
        (show Text.isDirective ".loc".toList = true by decide)
        (numbers.map SpacedNumeral.field) hrest
      have hplain : first.text (locationLine none numbers rest) ≠ ".cv_loc".toList := by
        rw [locationLine, locationLead_none, htext]
        decide
      exact ⟨_, (locationOperands_eq hoperands).trans (if_neg hplain)⟩
  | some function =>
      have hline : locationLine (some function) numbers rest = ".cv_loc".toList ++
          (Field.texts (function.field :: numbers.map SpacedNumeral.field) ++ rest) := by
        rw [locationLine, locationLead_some, Field.text, Field.texts_cons]
        simp only [List.append_assoc]
      obtain ⟨first, htext, hoperands⟩ := exists_operands_line dialect
        (show Text.isDirective ".cv_loc".toList = true by decide)
        (function.field :: numbers.map SpacedNumeral.field) hrest
      -- the function number is the operand that is dropped
      rw [hline, locationOperands_eq hoperands, if_pos htext, Field.tokens, List.cons_append,
        List.drop_one, List.tail_cons, locationLead_some, Text.byteSize_append]
      exact ⟨_, rfl⟩

theorem readSlot_number {text : Text} {token : Token} {number : SpacedNumeral}
    (hkind : token.kind = .number) (htext : token.text text = number.digits) :
    readSlot text (some token) = number.read token.position := by
  rw [readSlot]
  simp only [if_pos hkind]
  exact readOperand_numeral htext .loc

/-- The numbers of a location are read one after the other. -/
theorem readLocation_line (dialect : Dialect) (function : Option SpacedNumeral)
    (file line column : SpacedNumeral) {rest : Text} (hrest : rest.Breaks) :
    readLocation (locationLine function [file, line, column] rest)
        (tokenize dialect (locationLine function [file, line, column] rest)) = (do
      let fileNumber ← file.read (locationLine function [] file.blanks.text).byteSize
      let lineNumber ← line.read (locationLine function [file] line.blanks.text).byteSize
      let columnNumber ←
        column.read (locationLine function [file, line] column.blanks.text).byteSize
      .ok ⟨fileNumber, lineNumber, columnNumber⟩) := by
  obtain ⟨more, hslots⟩ := locationOperands_line dialect function [file, line, column] hrest
  have htexts := Field.map_tokens ([file, line, column].map SpacedNumeral.field) rest
    (locationLead function)
  rw [← locationLine] at htexts
  simp only [List.map_cons, List.map_nil, Field.tokens, List.cons.injEq, Prod.mk.injEq,
    and_true] at htexts
  obtain ⟨⟨-, hfile⟩, ⟨-, hline⟩, -, hcolumn⟩ := htexts
  unfold readLocation
  rw [hslots]
  simp only [List.map_cons, List.map_nil, Field.tokens, List.cons_append, List.getElem?_cons_zero,
    List.getElem?_cons_succ]
  rw [readSlot_number rfl hfile, readSlot_number rfl hline, readSlot_number rfl hcolumn]
  simp [locationLine, Token.unpadded, SpacedNumeral.field, Field.text, Nat.add_assoc]

theorem SpacedNumeral.read_of_lt {number : SpacedNumeral} (hvalue : number.value < 4294967296)
    (position : Nat) : number.read position = .ok number.value :=
  if_pos hvalue

theorem SpacedNumeral.read_of_le {number : SpacedNumeral} (hvalue : 4294967296 ≤ number.value)
    (position : Nat) :
    number.read position = .error (.malformedNumber .loc number.digits position .tooLarge) :=
  if_neg (Nat.not_lt.mpr hvalue)

theorem SpacedNumeral.eq_of_read_eq_ok {number : SpacedNumeral} {position result : Nat}
    (hread : number.read position = .ok result) : result = number.value := by
  unfold read at hread
  split at hread
  · exact (Except.ok.inj hread).symm
  · cases hread

/-! ## The caption of a location -/

/-- The caption of a location in a registered file has the line and the column, in decimal
digits, after the name of the file. -/
theorem SourceTable.caption_eq {table : SourceTable} {location : SourceLocation}
    {source : SourceFile} (hfile : location.file ≠ 0) (hline : location.line ≠ 0)
    (hsource : table.get? location.file = some source) (commentStart : Char) :
    table.caption commentStart location =
      commentStart :: ' ' :: (baseName source.name ++
        '(' :: (Nat.toDigits 10 location.line ++ [',', ' '] ++
          Nat.toDigits 10 (location.column + 1) ++
          ')' :: (source.line? location.line).getD [])) := by
  unfold caption
  rw [if_neg hfile, hsource]
  simp only [if_neg hline]
  rfl

/-! ## The numbers of a location -/

/-- Locations mean the numbers that are written in them.  Whatever follows a location, it
is read as its three numbers if these are below 2³², and otherwise the first number that
is not is reported, with the byte offset where it stands, as too large; in the CodeView
form the function number is passed over, however large it is.  The caption of a location
shows the line and the column counted from 1, without a limit. -/
theorem locations_mean_their_numbers (dialect : Dialect) (function : Option SpacedNumeral)
    (file line column : SpacedNumeral) {rest : Text} (hrest : rest.Breaks) :
    (file.value < 4294967296 → line.value < 4294967296 → column.value < 4294967296 →
      readLocation (locationLine function [file, line, column] rest)
          (tokenize dialect (locationLine function [file, line, column] rest)) =
        .ok ⟨file.value, line.value, column.value⟩) ∧
    (∀ before number after, [file, line, column] = before ++ number :: after →
      (∀ earlier ∈ before, earlier.value < 4294967296) → 4294967296 ≤ number.value →
      readLocation (locationLine function [file, line, column] rest)
          (tokenize dialect (locationLine function [file, line, column] rest)) =
        .error (.malformedNumber .loc number.digits
          (locationLine function before number.blanks.text).byteSize .tooLarge)) ∧
    ∀ location, readLocation (locationLine function [file, line, column] rest)
        (tokenize dialect (locationLine function [file, line, column] rest)) = .ok location →
      ∀ (table : SourceTable) (source : SourceFile), location.file ≠ 0 → location.line ≠ 0 →
        table.get? location.file = some source → ∀ commentStart : Char,
        table.caption commentStart location =
          commentStart :: ' ' :: (baseName source.name ++
            '(' :: (Nat.toDigits 10 line.value ++ [',', ' '] ++
              Nat.toDigits 10 (column.value + 1) ++
              ')' :: (source.line? line.value).getD [])) := by
  rw [readLocation_line dialect function file line column hrest]
  refine ⟨?_, ?_, ?_⟩
  · intro hfile hline hcolumn
    simp only [SpacedNumeral.read_of_lt, hfile, hline, hcolumn, Fallible.ok_bind]
  · intro before number after hnumbers hbefore hlarge
    have htooLarge := SpacedNumeral.read_of_le hlarge
    match before with
    | [] =>
        obtain ⟨rfl, -⟩ := List.cons.inj hnumbers
        rw [htooLarge, Fallible.error_bind]
    | [first] =>
        obtain ⟨rfl, rfl, -⟩ : file = first ∧ line = number ∧ [column] = after := by
          simpa using hnumbers
        have hfile : file.value < 4294967296 := hbefore file (by simp)
        rw [SpacedNumeral.read_of_lt hfile, Fallible.ok_bind, htooLarge, Fallible.error_bind]
    | [first, second] =>
        obtain ⟨rfl, rfl, rfl, -⟩ :
            file = first ∧ line = second ∧ column = number ∧ [] = after := by
          simpa using hnumbers
        have hfile : file.value < 4294967296 := hbefore file (by simp)
        have hline : line.value < 4294967296 := hbefore line (by simp)
        rw [SpacedNumeral.read_of_lt hfile, Fallible.ok_bind, SpacedNumeral.read_of_lt hline,
          Fallible.ok_bind, htooLarge, Fallible.error_bind]
    | first :: second :: third :: more => simp at hnumbers
  · intro location hlocation table source hfile hline hsource commentStart
    obtain ⟨_, hreadFile, hlocation⟩ := Fallible.bind_eq_ok.mp hlocation
    obtain ⟨_, hreadLine, hlocation⟩ := Fallible.bind_eq_ok.mp hlocation
    obtain ⟨_, hreadColumn, hlocation⟩ := Fallible.bind_eq_ok.mp hlocation
    obtain rfl := SpacedNumeral.eq_of_read_eq_ok hreadFile
    obtain rfl := SpacedNumeral.eq_of_read_eq_ok hreadLine
    obtain rfl := SpacedNumeral.eq_of_read_eq_ok hreadColumn
    obtain rfl := Except.ok.inj hlocation
    exact SourceTable.caption_eq hfile hline hsource commentStart

/-- The last column is shown as 2³², a number that no location has; a function number may be
as large as it likes, and of two numbers that are too large the first one is reported. -/
theorem locations_mean_their_numbers_sample :
    Text.Breaks " is_stmt 0\n".toList ∧ Text.Breaks [] ∧
    readLocation ".loc 01 12 4294967295 is_stmt 0\n".toList
        (tokenize .intel ".loc 01 12 4294967295 is_stmt 0\n".toList) =
      .ok ⟨1, 12, 4294967295⟩ ∧
    SourceTable.caption (.ofList [(1, ⟨"src/main.c".toList, none⟩)]) '#' ⟨1, 12, 4294967295⟩ =
      "# main.c(12, 4294967296)".toList ∧
    readLocation ".cv_loc 99999999999 1 4294967296 4294967297".toList
        (tokenize .wasm ".cv_loc 99999999999 1 4294967296 4294967297".toList) =
      .error (.malformedNumber .loc "4294967296".toList 22 .tooLarge) := by
  have hrest : Text.Breaks " is_stmt 0\n".toList := by
    rintro _ ⟨⟩
    decide
  obtain ⟨hread, -, hcaption⟩ := locations_mean_their_numbers .intel none
    (.single ['0', '1'] (by decide) (by decide)) (.single ['1', '2'] (by decide) (by decide))
    (.single "4294967295".toList (by decide) (by decide)) hrest
  obtain ⟨-, hlarge, -⟩ := locations_mean_their_numbers .wasm
    (some (.single "99999999999".toList (by decide) (by decide)))
    (.single ['1'] (by decide) (by decide))
    (.single "4294967296".toList (by decide) (by decide))
    (.single "4294967297".toList (by decide) (by decide)) Text.breaks_nil
  have hlocation := hread (by decide) (by decide) (by decide)
  refine ⟨hrest, Text.breaks_nil, hlocation, ?_, ?_⟩
  · have hshown := hcaption _ hlocation (.ofList [(1, ⟨"src/main.c".toList, none⟩)])
      ⟨"src/main.c".toList, none⟩ (by decide) (by decide) (by decide) '#'
    exact hshown.trans (by decide +kernel)
  · have herror := hlarge [.single ['1'] (by decide) (by decide)]
      (.single "4294967296".toList (by decide) (by decide)) _ rfl (by decide) (by decide)
    exact herror

end AsmListing
