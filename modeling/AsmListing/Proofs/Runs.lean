import AsmListing.Proofs.LineBreaks

/-!
# Runs of blanks, comments and line breaks

The characters that start a token are listed twice: where a run of blanks asks
whether to stop (`Dialect.startsToken`), and where the first character of a token
decides how to read it (`Dialect.opening`).  The two lists agree
(`Dialect.opening_eq_misc`), so what ends a run of blanks is never read as blanks
again, and no two such runs stand side by side.

What is said of bytes here follows from what the scanners do with characters: the
bytes of a character outside of ASCII start no token, and neither does it.
-/

namespace AsmListing

/-- Whether a byte of a listing starts a token other than `misc`. -/
def Dialect.startsByte (dialect : Dialect) (byte : UInt8) : Bool :=
  dialect.startsToken (Char.ofUInt8 byte)

/-! ## The two lists of characters -/

/-- A character is read as a blank exactly if it does not end a run of blanks. -/
theorem Dialect.opening_eq_misc (dialect : Dialect) (character : Char) :
    dialect.opening character = .misc ↔ dialect.startsToken character = false := by
  unfold Dialect.opening Dialect.startsToken
  split_ifs <;> simp_all

theorem Dialect.opening_eq_comment (dialect : Dialect) (character : Char) :
    dialect.opening character = .comment ↔ character = dialect.commentStart := by
  constructor
  · intro hopening
    unfold Dialect.opening at hopening
    split_ifs at hopening with _ _ _ _ hcomment
    exact hcomment
  · rintro rfl
    cases dialect <;> decide

/-! ## Bytes that start tokens -/

namespace Text

theorem startsByte_of_mem_bytes {dialect : Dialect} {text : Text}
    (htext : ∀ character ∈ text, dialect.startsToken character = false) :
    ∀ byte ∈ text.bytes, dialect.startsByte byte = false := by
  intro byte hbyte
  obtain ⟨character, hcharacter, hencoded⟩ := List.mem_flatMap.mp hbyte
  have hraw : Char.ofUInt8 byte ∈ raw [character] := by
    simpa [raw, bytes] using ⟨byte, hencoded, rfl⟩
  rcases Nat.lt_or_ge character.toNat 128 with hlow | hhigh
  · rw [raw_singleton_of_lt hlow, List.mem_singleton] at hraw
    rw [Dialect.startsByte, hraw]
    exact htext character hcharacter
  · exact (isHigh_of_mem_raw hhigh _ hraw).startsToken dialect

/-- The first byte of a text starts a token exactly if its first character does. -/
theorem map_startsByte_head? (dialect : Dialect) (text : Text) :
    text.bytes.head?.map dialect.startsByte = text.head?.map dialect.startsToken := by
  have hraw : text.bytes.head?.map dialect.startsByte =
      text.raw.head?.map dialect.startsToken := by
    rw [raw, List.head?_map, Option.map_map]
    rfl
  rw [hraw]
  cases text with
  | nil => rfl
  | cons character rest =>
      rcases Nat.lt_or_ge character.toNat 128 with hlow | hhigh
      · rw [raw_cons_of_lt hlow]
        rfl
      · obtain ⟨first, others, hfirst, -, -, hcons⟩ := raw_cons_of_isHigh hhigh
        simp [hcons, hfirst.startsToken, IsHigh.startsToken hhigh]

end Text

/-! ## What the scanners cut -/

theorem of_cutWhile_eq {continues : Char → Bool} {text front rest : Text}
    (hcut : cutWhile continues text = (front, rest)) :
    (∀ character ∈ front, continues character = true) ∧
      ∀ character ∈ rest.head?, continues character = false := by
  obtain ⟨rfl, rfl⟩ := Prod.mk.inj hcut
  refine ⟨?_, continues_head?_cutWhile continues text⟩
  intro character hmem
  exact List.all_eq_true.mp List.all_takeWhile character hmem

/-! ## Tokens and the bytes at their ends -/

/-- A token is told by the character at its place, however the listing is parted
there. -/
theorem exists_head?_of_mem_tokenize {dialect : Dialect} {before after : Text} {token : Token}
    (hmem : token ∈ tokenize dialect (before ++ after))
    (hposition : before.byteSize = token.position) :
    ∃ first ∈ after.head?, ∃ body colon, token.kind = dialect.kindOf first body colon := by
  obtain ⟨front, first, body, rest, htext, hfront, -, -, -, hkind⟩ :=
    exists_parts_of_mem_tokenize hmem
  have hafter : after = first :: body ++ rest := by
    have hdrop := Text.dropBytes?_append before after
    rw [htext, List.append_assoc, hposition, ← hfront, Text.dropBytes?_append] at hdrop
    exact (Option.some.inj hdrop).symm
  exact ⟨first, by simp [hafter], body, _, hkind⟩

section

variable {dialect : Dialect} {text : Text} {token : Token}

/-- A token is one of blanks exactly if its first byte starts no other token. -/
theorem exists_first_byte (hmem : token ∈ tokenize dialect text) :
    ∃ first, text.bytes[token.position]? = some first ∧
      (token.kind = .misc ↔ dialect.startsByte first = false) := by
  obtain ⟨before, first, body, after, rfl, hposition, -, -, -, hkind⟩ :=
    exists_parts_of_mem_tokenize hmem
  have hhead := Text.map_startsByte_head? dialect (first :: body ++ after)
  obtain ⟨byte, hbyte, hstarts⟩ := Option.map_eq_some_iff.mp hhead
  refine ⟨byte, ?_, ?_⟩
  · rw [List.append_assoc, ← hposition, Text.getElem?_bytes_append, hbyte]
  · rw [hkind, (dialect.kindOf_eq_iff_opening first body _).2.2, dialect.opening_eq_misc, hstarts]

/-- A token of blanks holds nothing that starts another token and ends only where one
starts. -/
theorem bytes_of_misc (hmem : token ∈ tokenize dialect text) (hmisc : token.kind = .misc) :
    (∀ byte ∈ (token.text text).bytes, dialect.startsByte byte = false) ∧
      ∀ byte, text.bytes[token.stop]? = some byte → dialect.startsByte byte = true := by
  obtain ⟨before, first, body, after, htext, -, hstop, hspelling, hcut, hkind⟩ :=
    exists_parts_of_mem_tokenize hmem
  rw [hkind, (dialect.kindOf_eq_iff_opening first body _).2.2] at hmisc
  rw [Dialect.extent, hmisc] at hcut
  obtain ⟨hbody, hafter⟩ := of_cutWhile_eq hcut
  constructor
  · rw [hspelling]
    apply Text.startsByte_of_mem_bytes
    intro character hcharacter
    rcases List.mem_cons.mp hcharacter with rfl | hcharacter
    · exact (dialect.opening_eq_misc _).mp hmisc
    · simpa using hbody character hcharacter
  · intro byte hbyte
    rw [htext, ← hstop, Text.getElem?_bytes_append] at hbyte
    have hhead := Text.map_startsByte_head? dialect after
    rw [hbyte] at hhead
    obtain ⟨character, hcharacter, hstarts⟩ := Option.map_eq_some_iff.mp hhead.symm
    rw [← hstarts]
    simpa using hafter character hcharacter

/-- A comment starts with its mark and has no line break; the token behind it is one. -/
theorem text_of_comment (hmem : token ∈ tokenize dialect text) (hcomment : token.kind = .comment) :
    (token.text text).head? = some dialect.commentStart ∧
      (∀ character ∈ token.text text, isLineBreak character = false) ∧
      ∀ following ∈ tokenize dialect text, following.position = token.stop →
        following.kind = .newLine := by
  obtain ⟨before, first, body, after, rfl, -, hstop, hspelling, hcut, hkind⟩ :=
    exists_parts_of_mem_tokenize hmem
  rw [hkind, (dialect.kindOf_eq_iff_opening first body _).1] at hcomment
  have hfirst := (dialect.opening_eq_comment first).mp hcomment
  rw [Dialect.extent, hcomment] at hcut
  obtain ⟨hbody, hafter⟩ := of_cutWhile_eq hcut
  rw [hspelling]
  refine ⟨by rw [hfirst]; rfl, ?_, ?_⟩
  · intro character hcharacter
    rcases List.mem_cons.mp hcharacter with rfl | hcharacter
    · rw [hfirst]
      cases dialect <;> decide
    · simpa using hbody character hcharacter
  · intro following hfollowing hposition
    obtain ⟨head, hhead, spelling, colon, hread⟩ :=
      exists_head?_of_mem_tokenize hfollowing (hstop.trans hposition.symm)
    rw [hread, dialect.kindOf_eq_newLine]
    simpa using hafter head hhead

/-- A line break is a line feed, a carriage return with one, or a carriage return that
none follows. -/
theorem text_of_newLine (hmem : token ∈ tokenize dialect text) (hnewLine : token.kind = .newLine) :
    token.text text = ['\n'] ∨ token.text text = ['\r', '\n'] ∨
      (token.text text = ['\r'] ∧ text.bytes[token.stop]? ≠ some '\n'.toUInt8) := by
  obtain ⟨before, first, body, after, htext, -, hstop, hspelling, hcut, hkind⟩ :=
    exists_parts_of_mem_tokenize hmem
  rw [hkind, (dialect.kindOf_eq_iff_opening first body _).2.1] at hnewLine
  have hbreak := (dialect.opening_eq_lineBreak first).mp hnewLine
  rw [isLineBreak, Bool.or_eq_true, beq_iff_eq, beq_iff_eq] at hbreak
  rw [Dialect.extent, hnewLine] at hcut
  simp only [cutLineBreak_eq] at hcut
  rw [hspelling, htext, ← hstop, Text.getElem?_bytes_append, ne_eq, Text.head?_bytes (by decide)]
  split at hcut
  · next hpair =>
      obtain ⟨rfl, -⟩ := Prod.mk.inj hcut
      rw [hpair.1]
      exact .inr (.inl rfl)
  · next hsingle =>
      obtain ⟨rfl, -⟩ := Prod.mk.inj hcut
      rcases hbreak with rfl | rfl
      · exact .inr (.inr ⟨rfl, fun hfeed => hsingle ⟨rfl, hfeed⟩⟩)
      · exact .inl rfl

end

/-- Runs of blanks and comments are as long as they can be.  The rule that starts a token
and the one that ends a run of blanks agree, and a token is one of blanks exactly if its
first byte starts no other.  Such a token holds no byte that does, and ends at one or
with the listing, so that no other such token follows.  A comment starts with its mark,
holds no line break, and ends at one or with the listing.  And a line break is a line
feed, a pair, or a carriage return without a line feed. -/
theorem runs_are_maximal (dialect : Dialect) (text : Text) :
    (∀ character, dialect.opening character = .misc ↔ dialect.startsToken character = false) ∧
    ∀ index token, (tokenize dialect text)[index]? = some token →
      (∃ first, text.bytes[token.position]? = some first ∧
        (token.kind = .misc ↔ dialect.startsByte first = false)) ∧
      (token.kind = .misc →
        (∀ byte ∈ (token.text text).bytes, dialect.startsByte byte = false) ∧
        (∀ byte, text.bytes[token.stop]? = some byte → dialect.startsByte byte = true) ∧
        ∀ following, (tokenize dialect text)[index + 1]? = some following →
          following.kind ≠ .misc) ∧
      (token.kind = .comment →
        (token.text text).head? = some dialect.commentStart ∧
        (∀ character ∈ token.text text, character ≠ '\r' ∧ character ≠ '\n') ∧
        (token.stop = text.byteSize ∨
          ∃ following, (tokenize dialect text)[index + 1]? = some following ∧
            following.kind = .newLine)) ∧
      (token.kind = .newLine →
        token.text text = ['\n'] ∨ token.text text = ['\r', '\n'] ∨
          (token.text text = ['\r'] ∧ text.bytes[token.stop]? ≠ some '\n'.toUInt8)) := by
  refine ⟨dialect.opening_eq_misc, ?_⟩
  intro index token htoken
  have hmem := List.mem_of_getElem? htoken
  have htiles := tiles_tokenize dialect text
  refine ⟨exists_first_byte hmem, ?_, ?_, text_of_newLine hmem⟩
  · intro hmisc
    obtain ⟨hbytes, hafter⟩ := bytes_of_misc hmem hmisc
    refine ⟨hbytes, hafter, ?_⟩
    intro following hfollowing hsame
    -- the first byte of the next token would both end the run and go on with it
    obtain ⟨byte, hbyte, hfirst⟩ := exists_first_byte (List.mem_of_getElem? hfollowing)
    rw [htiles.position_of_getElem? htoken hfollowing] at hbyte
    have hends := hafter byte hbyte
    rw [hfirst.mp hsame] at hends
    contradiction
  · intro hcomment
    obtain ⟨hhead, hbreaks, hnext⟩ := text_of_comment hmem hcomment
    refine ⟨hhead, ?_, ?_⟩
    · intro character hcharacter
      simpa [isLineBreak] using hbreaks character hcharacter
    · cases hfollowing : (tokenize dialect text)[index + 1]? with
      | none =>
          left
          rw [htiles.stop_of_getElem?_eq_none htoken hfollowing, Nat.zero_add]
      | some following =>
          right
          exact ⟨following, rfl, hnext following (List.mem_of_getElem? hfollowing)
            (htiles.position_of_getElem? htoken hfollowing)⟩

set_option maxRecDepth 10000 in
/-- Blanks with a character of two bytes, a comment that a pair ends, and a carriage
return alone. -/
theorem runs_are_maximal_sample :
    tokenize .wasm "é (# a\r\n\r;".toList =
        [⟨.misc, 0, 0, 4⟩, ⟨.comment, 4, 4, 3⟩, ⟨.newLine, 7, 7, 2⟩, ⟨.newLine, 9, 9, 1⟩,
          ⟨.misc, 10, 10, 1⟩] ∧
      (∀ byte ∈ Text.bytes "é (".toList, Dialect.wasm.startsByte byte = false) ∧
      (∃ following, (tokenize .wasm "é (# a\r\n\r;".toList)[2]? = some following ∧
        following.kind = .newLine) := by
  have htokens : tokenize .wasm "é (# a\r\n\r;".toList =
      [⟨.misc, 0, 0, 4⟩, ⟨.comment, 4, 4, 3⟩, ⟨.newLine, 7, 7, 2⟩, ⟨.newLine, 9, 9, 1⟩,
        ⟨.misc, 10, 10, 1⟩] := by
    decide +kernel
  obtain ⟨-, hruns⟩ := runs_are_maximal .wasm "é (# a\r\n\r;".toList
  have hmisc : (tokenize .wasm "é (# a\r\n\r;".toList)[0]? = some ⟨.misc, 0, 0, 4⟩ := by
    rw [htokens]; rfl
  have hcomment : (tokenize .wasm "é (# a\r\n\r;".toList)[1]? = some ⟨.comment, 4, 4, 3⟩ := by
    rw [htokens]; rfl
  obtain ⟨-, hblank, -⟩ := hruns 0 _ hmisc
  obtain ⟨-, -, hmark, -⟩ := hruns 1 _ hcomment
  refine ⟨htokens, ?_, ?_⟩
  · have htext : (⟨.misc, 0, 0, 4⟩ : Token).text "é (# a\r\n\r;".toList = "é (".toList := by
      decide
    rw [← htext]
    exact (hblank rfl).1
  · obtain ⟨-, -, hend | hnext⟩ := hmark rfl
    · exact absurd hend (by decide)
    · exact hnext

end AsmListing
