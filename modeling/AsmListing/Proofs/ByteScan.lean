import AsmListing.Token.Cursor
import Mathlib.Data.List.Basic

/-!
# Scanning bytes

Tokens are read off the characters of a listing.  What is stored of a listing is
its bytes, and `scanBytes` reads the lengths of the tokens off these: it takes
one byte after the other for a character.  Both ways find the same tokens
(`scanBytes_bytes`), so no token ends inside of a character.

The reason is that the bytes of a character outside of ASCII are themselves
outside of ASCII, and that no condition which ends a token tells such characters
apart.  A run of characters thus passes over such a character exactly if the run
of bytes passes over all of its bytes (`cutWhile_raw`).
-/

namespace AsmListing

/-- Whether a character lies outside of ASCII. -/
def IsHigh (character : Char) : Prop :=
  128 ≤ character.toNat

/-- The bytes of a text, each taken for a character. -/
def Text.raw (text : Text) : Text :=
  text.bytes.map Char.ofUInt8

/-- The lengths of the tokens that a run over bytes finds. -/
def Dialect.scanBytes (dialect : Dialect) (bytes : List UInt8) : List Nat :=
  match bytes with
  | [] => []
  | first :: rest =>
    let count := (dialect.extent (Char.ofUInt8 first) (rest.map Char.ofUInt8)).1.length
    (count + 1) :: dialect.scanBytes (rest.drop count)
termination_by bytes.length
decreasing_by simp only [List.length_drop, List.length_cons]; omega

/-! ## Characters and their bytes -/

theorem toNat_ofUInt8 (byte : UInt8) : (Char.ofUInt8 byte).toNat = byte.toNat := rfl

namespace Text

@[simp] theorem bytes_nil : bytes [] = [] := rfl

theorem bytes_cons (character : Char) (rest : Text) :
    bytes (character :: rest) = String.utf8EncodeChar character ++ rest.bytes := by
  simp [bytes]

/-- The number of bytes of a text is the length of its encoding. -/
theorem length_bytes (text : Text) : text.bytes.length = text.byteSize := by
  induction text with
  | nil => rfl
  | cons character rest ih =>
      rw [bytes_cons, List.length_append, ih, byteSize_cons, String.length_utf8EncodeChar]

theorem bytes_append (left right : Text) :
    bytes (left ++ right) = left.bytes ++ right.bytes := by
  simp [bytes]

@[simp] theorem raw_nil : raw [] = [] := rfl

@[simp] theorem raw_append (left right : Text) : raw (left ++ right) = raw left ++ raw right := by
  simp [raw, bytes]

@[simp] theorem length_raw (text : Text) : text.raw.length = text.byteSize := by
  rw [raw, List.length_map, length_bytes]

theorem raw_cons (character : Char) (rest : Text) :
    raw (character :: rest) = raw [character] ++ raw rest :=
  raw_append [character] rest

theorem raw_singleton_of_lt {character : Char} (hlow : character.toNat < 128) :
    raw [character] = [character] := by
  have hvalue : character.val.toNat = character.toNat := rfl
  have hencode : String.utf8EncodeChar character = [UInt8.ofNat character.toNat] := by
    rw [String.utf8EncodeChar, hvalue, if_pos (by omega)]
  have hbyte : Char.ofUInt8 (UInt8.ofNat character.toNat) = character := by
    apply Char.toNat_inj.mp
    rw [toNat_ofUInt8, UInt8.toNat_ofNat', Nat.mod_eq_of_lt (by omega)]
  simp [raw, bytes, hencode, hbyte]

theorem raw_cons_of_lt {character : Char} (hlow : character.toNat < 128) (rest : Text) :
    raw (character :: rest) = character :: raw rest := by
  rw [raw_cons, raw_singleton_of_lt hlow]
  rfl

/-- The bytes of a character outside of ASCII lie outside of ASCII. -/
theorem isHigh_of_mem_raw {character : Char} (hhigh : IsHigh character) :
    ∀ byte ∈ raw [character], IsHigh byte := by
  have hvalue : character.val.toNat = character.toNat := rfl
  have hencode : ∀ byte ∈ String.utf8EncodeChar character, 128 ≤ byte.toNat := by
    unfold IsHigh at hhigh
    simp only [String.utf8EncodeChar, hvalue]
    -- one case for each number of bytes
    repeat' split
    all_goals
      simp only [List.mem_cons, List.not_mem_nil, or_false, forall_eq_or_imp, forall_eq,
        UInt8.toNat_ofNat', Nat.reducePow]
      omega
  intro byte hbyte
  simp only [raw, bytes, List.flatMap_singleton, List.mem_map] at hbyte
  obtain ⟨encoded, hencoded, rfl⟩ := hbyte
  exact hencode encoded hencoded

theorem exists_raw_eq_cons (character : Char) :
    ∃ first others, raw [character] = first :: others := by
  refine List.exists_cons_of_length_pos ?_
  rw [length_raw]
  exact Nat.add_pos_left character.utf8Size_pos _

theorem raw_cons_of_isHigh {character : Char} (hhigh : IsHigh character) :
    ∃ first others, IsHigh first ∧ (∀ other ∈ others, IsHigh other) ∧
      raw [character] = first :: others ∧
      ∀ rest, raw (character :: rest) = first :: (others ++ raw rest) := by
  obtain ⟨first, others, hraw⟩ := exists_raw_eq_cons character
  have hbytes := isHigh_of_mem_raw hhigh
  rw [hraw] at hbytes
  refine ⟨first, others, hbytes first List.mem_cons_self,
    fun other hother => hbytes other (List.mem_cons_of_mem _ hother), hraw, fun rest => ?_⟩
  rw [raw_cons, hraw]
  rfl

end Text

/-! ## Conditions on characters -/

namespace IsHigh

variable {character : Char}

theorem ne (hhigh : IsHigh character) {other : Char} (hother : other.toNat < 128) :
    character ≠ other := by
  rintro rfl
  exact absurd hother (Nat.not_lt.mpr hhigh)

theorem isAlpha (hhigh : IsHigh character) : character.isAlpha = false := by
  have hvalue : 128 ≤ character.val.toNat := hhigh
  rw [Bool.eq_false_iff]
  intro halpha
  rcases Bool.or_eq_true_iff.mp halpha with hupper | hlower
  · have hle := UInt32.le_iff_toNat_le.mp (of_decide_eq_true hupper).2
    exact absurd (Nat.le_trans hvalue hle) (by decide)
  · have hle := UInt32.le_iff_toNat_le.mp (of_decide_eq_true (Bool.and_eq_true_iff.mp hlower).2)
    exact absurd (Nat.le_trans hvalue hle) (by decide)

theorem isDigit (hhigh : IsHigh character) : character.isDigit = false := by
  have hvalue : 128 ≤ character.val.toNat := hhigh
  rw [Bool.eq_false_iff]
  intro hdigit
  have hle := UInt32.le_iff_toNat_le.mp (of_decide_eq_true (Bool.and_eq_true_iff.mp hdigit).2)
  exact absurd (Nat.le_trans hvalue hle) (by decide)

theorem isDirectiveChar (hhigh : IsHigh character) : isDirectiveChar character = false := by
  simp [AsmListing.isDirectiveChar, Char.isAlphanum, hhigh.isAlpha, hhigh.isDigit, hhigh.ne]

theorem isNumberChar (hhigh : IsHigh character) : isNumberChar character = false := by
  have hletters : ¬ character ≤ 'f' ∧ ¬ character ≤ 'F' := by
    have hvalue : 128 ≤ character.val.toNat := hhigh
    simp only [Char.le_def, UInt32.le_iff_toNat_le]
    exact ⟨fun hle => absurd (Nat.le_trans hvalue hle) (by decide),
      fun hle => absurd (Nat.le_trans hvalue hle) (by decide)⟩
  simp [AsmListing.isNumberChar, hhigh.isDigit, hhigh.ne, hletters]

theorem isLineBreak (hhigh : IsHigh character) : isLineBreak character = false := by
  simp [AsmListing.isLineBreak, hhigh.ne]

theorem isWordChar (hhigh : IsHigh character) (dialect : Dialect) :
    dialect.isWordChar character = false := by
  simp [Dialect.isWordChar, Char.isAlphanum, hhigh.isAlpha, hhigh.isDigit, hhigh.ne]

theorem endsWord (hhigh : IsHigh character) (dialect : Dialect) :
    dialect.endsWord character = false := by
  simp [Dialect.endsWord, hhigh.ne]

theorem startsToken (hhigh : IsHigh character) (dialect : Dialect) :
    dialect.startsToken character = false := by
  have hcomment : dialect.commentStart.toNat < 128 := by
    cases dialect <;> decide
  simp [Dialect.startsToken, hhigh.isLineBreak, startsWord, startsNumber, hhigh.isAlpha,
    hhigh.isDigit, hhigh.ne, hcomment]

theorem opening (hhigh : IsHigh character) (dialect : Dialect) :
    dialect.opening character = .misc := by
  have hcomment : dialect.commentStart.toNat < 128 := by
    cases dialect <;> decide
  simp [Dialect.opening, hhigh.isLineBreak, startsWord, startsNumber, hhigh.isAlpha,
    hhigh.isDigit, hhigh.ne, hcomment]

end IsHigh

/-! ## Cutting bytes -/

/-- A run that gives one answer for all characters outside of ASCII cuts bytes
where it cuts characters. -/
theorem cutWhile_raw {continues : Char → Bool} {answer : Bool}
    (hanswer : ∀ character, IsHigh character → continues character = answer) (text : Text) :
    cutWhile continues text.raw =
      ((cutWhile continues text).1.raw, (cutWhile continues text).2.raw) := by
  induction text with
  | nil => rfl
  | cons character rest ih =>
      rcases Nat.lt_or_ge character.toNat 128 with hlow | hhigh
      · rw [Text.raw_cons_of_lt hlow]
        cases hcontinues : continues character with
        | false => simp [cutWhile, hcontinues, Text.raw_cons_of_lt hlow]
        | true =>
            have hrest := Prod.mk.inj ih
            simp only [cutWhile] at hrest
            simp [cutWhile, hcontinues, Text.raw_cons_of_lt hlow, hrest.1, hrest.2]
      · obtain ⟨first, others, hfirst, hothers, hsingle, hraw⟩ := Text.raw_cons_of_isHigh hhigh
        have hcharacter := hanswer character hhigh
        cases answer with
        | false => simp [cutWhile, hcharacter, hraw, hanswer first hfirst]
        | true =>
            -- the run passes over all bytes of the character
            have hpass : ∀ byte ∈ first :: others, continues byte = true := by
              intro byte hbyte
              rcases List.mem_cons.mp hbyte with rfl | hbyte
              · exact hanswer byte hfirst
              · exact hanswer byte (hothers byte hbyte)
            have hcut := cutWhile_append_of_pos hpass (Text.raw rest)
            rw [hraw, ← List.cons_append, hcut, ih]
            simp [cutWhile, hcharacter, hraw]

theorem Dialect.cutWord_raw (dialect : Dialect) (text : Text) :
    dialect.cutWord text.raw = ((dialect.cutWord text).1.raw, (dialect.cutWord text).2.raw) := by
  unfold Dialect.cutWord
  rw [cutWhile_raw (fun character hhigh => hhigh.isWordChar dialect)]
  obtain ⟨body, following⟩ := cutWhile dialect.isWordChar text
  cases following with
  | nil => rfl
  | cons character rest =>
      rcases Nat.lt_or_ge character.toNat 128 with hlow | hhigh
      · simp only [Text.raw_cons_of_lt hlow]
        split
        · simp [Text.raw_singleton_of_lt hlow]
        · simp [Text.raw_cons_of_lt hlow]
      · obtain ⟨first, others, hfirst, -, -, hraw⟩ := Text.raw_cons_of_isHigh hhigh
        simp [hraw, hfirst.endsWord, IsHigh.endsWord hhigh]

theorem cutString_append_of_isHigh {front : Text} (hfront : ∀ character ∈ front, IsHigh character)
    (text : Text) :
    cutString (front ++ text) = (front ++ (cutString text).1, (cutString text).2) := by
  induction front with
  | nil => rfl
  | cons character rest ih =>
      have hhigh := hfront character List.mem_cons_self
      have hrest := ih fun other hother => hfront other (List.mem_cons_of_mem _ hother)
      rw [List.cons_append, cutString_cons_of_ne (hhigh.ne (by decide))
        (fun hescape => hhigh.ne (by decide) hescape.1), hrest]
      rfl

theorem Text.head?_raw {text : Text} {character : Char} (hlow : character.toNat < 128) :
    text.raw.head? = some character ↔ text.head? = some character := by
  cases text with
  | nil => rfl
  | cons first rest =>
      rcases Nat.lt_or_ge first.toNat 128 with hfirst | hhigh
      · rw [raw_cons_of_lt hfirst]
        rfl
      · obtain ⟨byte, others, hbyte, -, -, hraw⟩ := raw_cons_of_isHigh hhigh
        simp [hraw, hbyte.ne hlow, IsHigh.ne hhigh hlow]

/-- A text starts with an ASCII character exactly if its first byte is that. -/
theorem Text.head?_bytes {text : Text} {character : Char} (hlow : character.toNat < 128) :
    text.bytes.head? = some character.toUInt8 ↔ text.head? = some character := by
  have hbyte : Char.ofUInt8 character.toUInt8 = character := by
    apply Char.toNat_inj.mp
    rw [toNat_ofUInt8, Char.toUInt8, UInt32.toNat_toUInt8]
    exact Nat.mod_eq_of_lt (Nat.lt_trans hlow (by decide))
  rw [← Text.head?_raw hlow, Text.raw, List.head?_map, Option.map_eq_some_iff]
  constructor
  · intro hhead
    exact ⟨_, hhead, hbyte⟩
  · rintro ⟨byte, hhead, hsame⟩
    have hequal : byte = character.toUInt8 := by
      apply UInt8.toNat_inj.mp
      rw [← toNat_ofUInt8, hsame, ← toNat_ofUInt8, hbyte]
    rw [hhead, hequal]

/-- The byte behind a part of a text is the first one of what follows. -/
theorem Text.getElem?_bytes_append (before after : Text) :
    (before ++ after).bytes[before.byteSize]? = after.bytes.head? := by
  rw [Text.bytes_append, ← Text.length_bytes, List.getElem?_append_right (Nat.le_refl _),
    Nat.sub_self, ← List.head?_eq_getElem?]

theorem cutString_raw (text : Text) :
    cutString text.raw = ((cutString text).1.raw, (cutString text).2.raw) := by
  have hquote : ('"').toNat < 128 := by decide
  have hslash : ('\\').toNat < 128 := by decide
  fun_induction cutString text with
  | case1 => rfl
  | case2 rest => simp [Text.raw_cons_of_lt hquote, cutString]
  | case3 rest body following hcut ih =>
      simp_all [Text.raw_cons_of_lt hquote, Text.raw_cons_of_lt hslash, cutString]
  | case4 character rest hnot hescape body following hcut ih =>
      rw [hcut] at ih
      rcases Nat.lt_or_ge character.toNat 128 with hlow | hhigh
      · have hhead : ¬ (character = '\\' ∧ (Text.raw rest).head? = some '"') := by
          rintro ⟨hcharacter, hhead⟩
          rw [Text.head?_raw hquote] at hhead
          obtain ⟨tail, htail⟩ := List.head?_eq_some_iff.mp hhead
          exact hescape tail hcharacter htail
        rw [Text.raw_cons_of_lt hlow, cutString_cons_of_ne hnot hhead, ih]
        simp [Text.raw_cons_of_lt hlow]
      · obtain ⟨first, others, hfirst, hothers, -, hraw⟩ := Text.raw_cons_of_isHigh hhigh
        have hbytes : ∀ byte ∈ first :: others, IsHigh byte := by
          simpa using ⟨hfirst, hothers⟩
        rw [hraw, ← List.cons_append, cutString_append_of_isHigh hbytes, ih]
        simp [hraw]

theorem cutLineBreak_eq (first : Char) (text : Text) :
    cutLineBreak first text =
      if first = '\r' ∧ text.head? = some '\n' then (['\n'], text.tail) else ([], text) := by
  unfold cutLineBreak
  split
  · simp
  · next hother =>
      rw [if_neg]
      rintro ⟨hreturn, hfeed⟩
      obtain ⟨tail, htail⟩ := List.head?_eq_some_iff.mp hfeed
      exact hother tail hreturn htail

theorem cutLineBreak_raw (first : Char) (text : Text) :
    cutLineBreak first text.raw =
      ((cutLineBreak first text).1.raw, (cutLineBreak first text).2.raw) := by
  have hfeed : ('\n').toNat < 128 := by decide
  rw [cutLineBreak_eq, cutLineBreak_eq]
  by_cases hbreak : first = '\r' ∧ text.head? = some '\n'
  · obtain ⟨tail, rfl⟩ := List.head?_eq_some_iff.mp hbreak.2
    simp [hbreak.1, Text.raw_cons_of_lt hfeed]
  · have hraw : ¬ (first = '\r' ∧ text.raw.head? = some '\n') := by
      rwa [Text.head?_raw hfeed]
    rw [if_neg hbreak, if_neg hraw]
    rfl

/-- What follows the first character of a token is cut alike in bytes and in
characters. -/
theorem Dialect.extent_raw (dialect : Dialect) (first : Char) (text : Text) :
    dialect.extent first text.raw =
      ((dialect.extent first text).1.raw, (dialect.extent first text).2.raw) := by
  unfold Dialect.extent
  cases dialect.opening first with
  | point => exact cutWhile_raw (fun _ hhigh => hhigh.isDirectiveChar) text
  | word => exact dialect.cutWord_raw text
  | number => exact cutWhile_raw (fun _ hhigh => hhigh.isNumberChar) text
  | quote => exact cutString_raw text
  | comment => exact cutWhile_raw (fun _ hhigh => congrArg (!·) hhigh.isLineBreak) text
  | lineBreak => exact cutLineBreak_raw first text
  | misc => exact cutWhile_raw (fun _ hhigh => congrArg (!·) (hhigh.startsToken dialect)) text

theorem Dialect.extent_bytes (dialect : Dialect) (character : Char) (text : Text) :
    ∃ first others, Text.raw [character] = first :: others ∧
      (dialect.extent first (others ++ text.raw)).1 =
        others ++ (dialect.extent character text).1.raw := by
  rcases Nat.lt_or_ge character.toNat 128 with hlow | hhigh
  · refine ⟨character, [], Text.raw_singleton_of_lt hlow, ?_⟩
    rw [List.nil_append, List.nil_append, dialect.extent_raw]
  · obtain ⟨first, others, hfirst, hothers, hsingle, -⟩ := Text.raw_cons_of_isHigh hhigh
    refine ⟨first, others, hsingle, ?_⟩
    have hpass : ∀ byte ∈ others, (!dialect.startsToken byte) = true := by
      intro byte hbyte
      rw [(hothers byte hbyte).startsToken]
      rfl
    have hcut := cutWhile_append_of_pos hpass text.raw
    have hraw := cutWhile_raw (fun _ hhigh => congrArg (!·) (IsHigh.startsToken hhigh dialect)) text
    simp only [Dialect.extent, hfirst.opening, IsHigh.opening hhigh, hcut, hraw]

/-! ## A whole run -/

theorem Dialect.scanBytes_cons (dialect : Dialect) (character : Char) (text : Text) :
    dialect.scanBytes (Text.bytes (character :: text)) =
      Text.byteSize (character :: (dialect.extent character text).1) ::
        dialect.scanBytes (dialect.extent character text).2.bytes := by
  obtain ⟨first, others, hraw, hextent⟩ := dialect.extent_bytes character text
  have hencode : (String.utf8EncodeChar character).map Char.ofUInt8 = first :: others := by
    simpa [Text.raw, Text.bytes] using hraw
  obtain ⟨byte, bytes, hbytes, rfl, rfl⟩ := List.map_eq_cons_iff.mp hencode
  -- what the run takes after the first byte
  have hcount : (dialect.extent (Char.ofUInt8 byte)
      ((bytes ++ text.bytes).map Char.ofUInt8)).1.length =
        bytes.length + (dialect.extent character text).1.byteSize := by
    rw [List.map_append, ← Text.raw, hextent, List.length_append, List.length_map,
      Text.length_raw]
  have hsize : bytes.length + 1 = character.utf8Size := by
    rw [← String.length_utf8EncodeChar, hbytes, List.length_cons]
  have hdrop : (bytes ++ text.bytes).drop
      (bytes.length + (dialect.extent character text).1.byteSize) =
        (dialect.extent character text).2.bytes := by
    have htext := congrArg Text.bytes (dialect.extent_append character text)
    rw [Text.bytes_append] at htext
    rw [← htext, ← List.drop_drop, List.drop_left, ← Text.length_bytes, List.drop_left]
  rw [Text.bytes_cons, hbytes, List.cons_append, scanBytes]
  simp only [hcount, hdrop, Text.byteSize_cons]
  rw [← hsize]
  congr 1
  omega

/-- What a run over bytes finds are the tokens after the cursor.  The induction
follows the run of the cursor. -/
theorem Cursor.scanBytes_rest (dialect : Dialect) (cursor : Cursor) :
    dialect.scanBytes cursor.rest.bytes = (cursor.tokens dialect).map (·.length) := by
  fun_induction tokens dialect cursor with
  | case1 cursor hnext =>
      unfold next? at hnext
      split at hnext
      · next hrest =>
          rw [hrest, Text.bytes_nil, Dialect.scanBytes]
          rfl
      · cases hnext
  | case2 cursor token following hnext ih =>
      unfold next? at hnext
      split at hnext
      · cases hnext
      · next character text hrest =>
          simp only [Option.some.injEq, Prod.mk.injEq] at hnext
          obtain ⟨rfl, rfl⟩ := hnext
          rw [List.map_cons, ← ih, hrest]
          exact dialect.scanBytes_cons character text

/-- Read off bytes or off characters, a listing has the same tokens. -/
theorem scanBytes_bytes (dialect : Dialect) (text : Text) :
    dialect.scanBytes text.bytes = (tokenize dialect text).map (·.length) :=
  Cursor.scanBytes_rest dialect (.start text)

end AsmListing
