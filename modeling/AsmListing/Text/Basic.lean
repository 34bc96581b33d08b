/-!
# Texts and their byte positions

A text is the list of its characters, so that scanning and rendering are
recursions on it.  Every position, length and column of the library is
nevertheless a count of bytes of the UTF-8 encoding: `byteSize` measures a
text, and `view` reads the characters of a byte range.
-/

namespace AsmListing

/-- A text, character by character. -/
abbrev Text := List Char

namespace Text

/-- The length of the UTF-8 encoding of a text. -/
def byteSize : Text → Nat
  | [] => 0
  | character :: rest => character.utf8Size + byteSize rest

@[simp] theorem byteSize_nil : byteSize [] = 0 := rfl

@[simp] theorem byteSize_cons (character : Char) (rest : Text) :
    byteSize (character :: rest) = character.utf8Size + byteSize rest := rfl

@[simp] theorem byteSize_append (left right : Text) :
    byteSize (left ++ right) = byteSize left + byteSize right := by
  induction left with
  | nil => simp
  | cons character rest ih => simp [ih, Nat.add_assoc]

/-- The bytes of the UTF-8 encoding of a text. -/
def bytes (text : Text) : List UInt8 :=
  text.flatMap String.utf8EncodeChar

/-- What a text holds after its first `count` bytes.  Past the end nothing is
left; inside a character there is no answer. -/
def dropBytes? : Text → Nat → Option Text
  | text, 0 => some text
  | [], _ + 1 => some []
  | character :: rest, count + 1 =>
    if character.utf8Size ≤ count + 1 then
      dropBytes? rest (count + 1 - character.utf8Size)
    else
      none

/-- The first `count` bytes of a text, or the whole of a shorter text.  A cut
inside a character has no answer. -/
def takeBytes? : Text → Nat → Option Text
  | _, 0 => some []
  | [], _ + 1 => some []
  | character :: rest, count + 1 =>
    if character.utf8Size ≤ count + 1 then
      (takeBytes? rest (count + 1 - character.utf8Size)).map (character :: ·)
    else
      none

/-- The characters of the byte range that starts at `position` and is `length`
bytes long, as far as it lies inside the text.  A range with an end inside a
character reads as the empty text. -/
def view (text : Text) (position length : Nat) : Text :=
  match text.dropBytes? position with
  | none => []
  | some rest => (rest.takeBytes? length).getD []

/-! ### Reading byte ranges -/

@[simp] theorem dropBytes?_zero (text : Text) : text.dropBytes? 0 = some text := by
  cases text <;> rfl

@[simp] theorem takeBytes?_zero (text : Text) : text.takeBytes? 0 = some [] := by
  cases text <;> rfl

theorem dropBytes?_cons_add (character : Char) (rest : Text) (count : Nat) :
    dropBytes? (character :: rest) (character.utf8Size + count) = dropBytes? rest count := by
  have hpos := character.utf8Size_pos
  obtain ⟨size, hsize⟩ : ∃ size, character.utf8Size = size + 1 :=
    ⟨_, (Nat.sub_add_cancel hpos).symm⟩
  rw [show character.utf8Size + count = size + count + 1 by omega, dropBytes?,
    if_pos (by omega), show size + count + 1 - character.utf8Size = count by omega]

theorem takeBytes?_cons_add (character : Char) (rest : Text) (count : Nat) :
    takeBytes? (character :: rest) (character.utf8Size + count) =
      (takeBytes? rest count).map (character :: ·) := by
  have hpos := character.utf8Size_pos
  obtain ⟨size, hsize⟩ : ∃ size, character.utf8Size = size + 1 :=
    ⟨_, (Nat.sub_add_cancel hpos).symm⟩
  rw [show character.utf8Size + count = size + count + 1 by omega, takeBytes?,
    if_pos (by omega), show size + count + 1 - character.utf8Size = count by omega]

/-- Dropping the bytes of an initial part leaves the other one. -/
theorem dropBytes?_append (before rest : Text) :
    dropBytes? (before ++ rest) before.byteSize = some rest := by
  induction before with
  | nil => simp
  | cons character before ih => simpa [dropBytes?_cons_add] using ih

/-- Taking the bytes of an initial part gives it back. -/
theorem takeBytes?_append (taken rest : Text) :
    takeBytes? (taken ++ rest) taken.byteSize = some taken := by
  induction taken with
  | nil => simp
  | cons character taken ih => simp [takeBytes?_cons_add, ih]

/-- A part of a text is what its byte range shows. -/
theorem view_append (before middle after : Text) :
    view (before ++ middle ++ after) before.byteSize middle.byteSize = middle := by
  simp [view, List.append_assoc, dropBytes?_append, takeBytes?_append]

theorem dropBytes?_of_byteSize_le {text : Text} {count : Nat} (hcount : text.byteSize ≤ count) :
    text.dropBytes? count = some [] := by
  induction text generalizing count with
  | nil => cases count <;> rfl
  | cons character rest ih =>
    obtain ⟨more, rfl⟩ := Nat.exists_eq_add_of_le hcount
    rw [byteSize_cons, Nat.add_assoc, dropBytes?_cons_add]
    exact ih (Nat.le_add_right _ _)

theorem takeBytes?_of_byteSize_le {text : Text} {count : Nat} (hcount : text.byteSize ≤ count) :
    text.takeBytes? count = some text := by
  induction text generalizing count with
  | nil => cases count <;> rfl
  | cons character rest ih =>
    obtain ⟨more, rfl⟩ := Nat.exists_eq_add_of_le hcount
    rw [byteSize_cons, Nat.add_assoc, takeBytes?_cons_add, ih (Nat.le_add_right _ _)]
    rfl

/-- What is left of a text is shorter by what was dropped. -/
theorem byteSize_of_dropBytes? {text rest : Text} {count : Nat}
    (hrest : text.dropBytes? count = some rest) :
    rest.byteSize = text.byteSize - count := by
  induction text generalizing count with
  | nil => cases count <;> simp_all [dropBytes?]
  | cons character tail ih =>
    cases count with
    | zero => simp_all
    | succ count =>
      rw [dropBytes?] at hrest
      split at hrest
      · next hle =>
        have hsize := ih hrest
        simp only [byteSize_cons]
        omega
      · cases hrest

/-- A range that reaches past the end shows the same as its part inside. -/
theorem view_clamp (text : Text) (position length : Nat) :
    view text (min position text.byteSize)
        (min length (text.byteSize - min position text.byteSize)) =
      view text position length := by
  rcases Nat.le_total position text.byteSize with hposition | hposition
  · rw [Nat.min_eq_left hposition]
    unfold view
    cases hrest : text.dropBytes? position with
    | none => rfl
    | some rest =>
      have hsize := byteSize_of_dropBytes? hrest
      rcases Nat.le_total length (text.byteSize - position) with hlength | hlength
      · rw [Nat.min_eq_left hlength]
      · rw [Nat.min_eq_right hlength]
        simp only
        rw [takeBytes?_of_byteSize_le (by omega), takeBytes?_of_byteSize_le (by omega)]
  · rw [Nat.min_eq_right hposition]
    unfold view
    rw [dropBytes?_of_byteSize_le (Nat.le_refl _), dropBytes?_of_byteSize_le hposition]
    have hnil : ∀ count, takeBytes? [] count = some [] :=
      fun count => takeBytes?_of_byteSize_le (Nat.zero_le count)
    simp only [hnil]

/-- The text with its ASCII capitals made small. -/
def toLower (text : Text) : Text :=
  text.map Char.toLower

/-- The text without the characters at its end that satisfy `discard`. -/
def trimEnd (discard : Char → Bool) (text : Text) : Text :=
  (text.reverse.dropWhile discard).reverse

/-- What is trimmed off the end of a text, beside what is left. -/
theorem exists_trimEnd_append (discard : Char → Bool) (text : Text) :
    ∃ tail, text = trimEnd discard text ++ tail ∧
      ∀ character ∈ tail, discard character = true := by
  refine ⟨(text.reverse.takeWhile discard).reverse, ?_, ?_⟩
  · rw [trimEnd, ← List.reverse_append, List.takeWhile_append_dropWhile, List.reverse_reverse]
  · intro character hmem
    rw [List.mem_reverse] at hmem
    exact List.all_eq_true.mp List.all_takeWhile character hmem

/-- Trimming stops at the last character that is not discarded. -/
theorem trimEnd_append {discard : Char → Bool} {front tail : Text}
    (hfront : ∀ character ∈ front.getLast?, discard character = false)
    (htail : ∀ character ∈ tail, discard character = true) :
    trimEnd discard (front ++ tail) = front := by
  have hreversed : ∀ character ∈ tail.reverse, discard character = true := by
    simpa using htail
  rw [trimEnd, List.reverse_append, List.dropWhile_append_of_pos hreversed]
  rw [← List.head?_reverse] at hfront
  cases hfirst : front.reverse with
  | nil => simpa using hfirst.symm
  | cons last rest =>
    have hlast : discard last = false := hfront last (by rw [hfirst]; rfl)
    rw [List.dropWhile_cons_of_neg (by simp [hlast]), ← hfirst, List.reverse_reverse]

/-- The text without the characters at either end that satisfy `discard`. -/
def trim (discard : Char → Bool) (text : Text) : Text :=
  trimEnd discard (text.dropWhile discard)

/-- Cuts a text at every `separator`; the last piece is what follows the last
one. -/
def split (separator : Char) : Text → List Text
  | [] => [[]]
  | character :: rest =>
    if character = separator then
      [] :: split separator rest
    else
      match split separator rest with
      | [] => [[character]]
      | first :: others => (character :: first) :: others

/-- The decimal numeral of a natural number. -/
def ofNat (number : Nat) : Text :=
  Nat.toDigits 10 number

/-!
## The lines of a text

Lines end at a line feed, and a carriage return right before it belongs to the
line break.  A text that ends in a line break has no empty last line.
-/

/-- The text without one carriage return at its end. -/
def dropCarriageReturn (text : Text) : Text :=
  match text.reverse with
  | '\r' :: rest => rest.reverse
  | _ => text

/-- The lines of a text, without their line breaks. -/
def lines (text : Text) : List Text :=
  let pieces := split '\n' text
  let last := pieces.getLastD []
  pieces.dropLast.map dropCarriageReturn ++ if last.isEmpty then [] else [last]

/-- Lines one after the other, each with a line feed at its end. -/
def ofLines (lines : List Text) : Text :=
  lines.flatMap (· ++ ['\n'])

/-- A line that can be found again in a text: it has no line feed, and no carriage
return at its end. -/
def IsWhole (line : Text) : Prop :=
  '\n' ∉ line ∧ line.getLast? ≠ some '\r'

theorem split_append {separator : Char} {piece : Text} (hpiece : separator ∉ piece)
    (rest : Text) :
    split separator (piece ++ separator :: rest) = piece :: split separator rest := by
  induction piece with
  | nil => simp [split]
  | cons character piece ih =>
    have hne : character ≠ separator := by
      rintro rfl
      exact hpiece List.mem_cons_self
    have hrest := ih fun hmem => hpiece (List.mem_cons_of_mem _ hmem)
    rw [List.cons_append, split, if_neg hne, hrest]

theorem dropCarriageReturn_eq_self {line : Text} (hline : line.getLast? ≠ some '\r') :
    dropCarriageReturn line = line := by
  rw [← List.head?_reverse] at hline
  unfold dropCarriageReturn
  split
  · next rest hreverse => simp [hreverse] at hline
  · rfl

theorem ofLines_append (first second : List Text) :
    ofLines (first ++ second) = ofLines first ++ ofLines second :=
  List.flatMap_append

theorem split_ofLines {lines : List Text} (hlines : ∀ line ∈ lines, IsWhole line) :
    split '\n' (ofLines lines) = lines ++ [[]] := by
  induction lines with
  | nil => rfl
  | cons line rest ih =>
    obtain ⟨hline, hrest⟩ := List.forall_mem_cons.mp hlines
    have hcons : ofLines (line :: rest) = line ++ '\n' :: ofLines rest := by
      simp [ofLines]
    rw [hcons, split_append hline.1, ih hrest, List.cons_append]

/-- Lines that have been put together are found again. -/
theorem lines_ofLines {given : List Text} (hgiven : ∀ line ∈ given, IsWhole line) :
    (ofLines given).lines = given := by
  have hreturns : given.map dropCarriageReturn = given := by
    calc given.map dropCarriageReturn
        = given.map id := List.map_congr_left fun line hline =>
          dropCarriageReturn_eq_self (hgiven line hline).2
      _ = given := List.map_id given
  simp [lines, split_ofLines hgiven, hreturns]

/-!
## Decimal numerals with a limit

A numeral is read from left to right.  The first character that is no digit,
or the first digit that takes the value up to the limit, decides the failure,
so a text with both faults is blamed on the earlier one.
-/

/-- Why a text is no numeral below the limit. -/
inductive NumeralError
  | empty
  | invalidDigit
  | tooLarge
  deriving DecidableEq, Repr

/-- The wording of each failure. -/
def NumeralError.message : NumeralError → String
  | .empty => "cannot parse integer from empty string"
  | .invalidDigit => "invalid digit found in string"
  | .tooLarge => "number too large to fit in target type"

/-- The value of a decimal digit. -/
def digit? (character : Char) : Option Nat :=
  if character.isDigit then some (character.toNat - '0'.toNat) else none

/-- Reads the digits that follow a numeral of the given value. -/
def readDigits (limit : Nat) : Nat → Text → Except NumeralError Nat
  | value, [] => .ok value
  | value, character :: rest =>
    match digit? character with
    | none => .error .invalidDigit
    | some digit =>
      if value * 10 + digit < limit then
        readDigits limit (value * 10 + digit) rest
      else
        .error .tooLarge

/-- Reads a decimal numeral below `limit`.  A plus sign may precede the digits,
but does not stand for a number alone. -/
def readNumeral (limit : Nat) : Text → Except NumeralError Nat
  | [] => .error .empty
  | ['+'] => .error .invalidDigit
  | '+' :: digits => readDigits limit 0 digits
  | digits => readDigits limit 0 digits

end Text

end AsmListing
