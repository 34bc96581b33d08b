import AsmListing.Proofs.Alignment
import AsmListing.Proofs.PhysicalLines

/-!
# What a token depends on

Two statements about what surrounds a token.  Behind a line break at the end of a
listing everything is lexed as it would be alone, and is only moved: by the bytes of
the listing, and as for the aligned positions also by all of its padding.  And a token
is the same wherever it stands, as far as its extent and its kind are concerned: of the
text after it only a colon matters.

* Before a line break nothing is padded for what comes after it
  (`paddingAfter_append_left`), so the first token behind the line break tells how far
  all of them are moved (`aligned_first_behind`).
* A cut does not look past the character after what it takes, so it takes the same if
  the text ends there, or at any later place (`CutsAgain`).  This is the converse of
  `LooksNoFurther`, where the text becomes longer, and it holds of all cuts without
  exception: a string without an end takes the whole text, so there is no earlier place
  for the text to end.
-/

namespace AsmListing

open Finset

/-! ## Behind a line break -/

section Behind

variable {dialect : Dialect} {front : List Token}
  (hlast : ∃ last ∈ front.getLast?, last.kind = .newLine)

include hlast

/-- What follows a line break does not change the padding before it. -/
theorem paddingAfter_append_left (back : List Token) {index : Nat}
    (hindex : index < front.length) :
    paddingAfter dialect (front ++ back) index = paddingAfter dialect front index := by
  by_cases hinside : index + 1 < front.length
  · have happend := paddingAfter_append dialect [] front back hinside
    rwa [List.nil_append, List.length_nil, Nat.zero_add] at happend
  · -- the token is the line break itself
    obtain ⟨last, hmem, hkind⟩ := hlast
    have hfound : front[index]? = some last := by
      rw [show index = front.length - 1 by omega, ← List.getLast?_eq_getElem?]
      exact hmem
    simp only [paddingAfter, List.getElem?_append_left hindex, hfound,
      padding_of_newLine dialect hkind]

end Behind

section Restart

variable {dialect : Dialect} {front : Text}
  (hlast : ∃ last ∈ (tokenize dialect front).getLast?, last.kind = .newLine)

include hlast

/-- The first token behind a line break is moved by all the padding before it. -/
theorem aligned_first_behind {back : Text} {first : Token}
    (hfirst : (tokenize dialect (front ++ back))[(tokenize dialect front).length]? = some first)
    {later : List Token}
    (htokens : tokenize dialect (front ++ back) = tokenize dialect front ++ later) :
    first.aligned = first.position +
      ∑ index ∈ range (tokenize dialect front).length,
        paddingAfter dialect (tokenize dialect front) index := by
  have haligned := aligned_tokenize hfirst
  have howed : paddingBefore dialect 0 (tokenize dialect (front ++ back))
      (tokenize dialect front).length = 0 := by
    rw [htokens]
    apply paddingBefore_length
    intro last hmem
    obtain ⟨found, hfound, hkind⟩ := hlast
    rwa [Option.mem_unique hmem hfound]
  have hsum : ∑ index ∈ range (tokenize dialect front).length,
      paddingAfter dialect (tokenize dialect (front ++ back)) index =
        ∑ index ∈ range (tokenize dialect front).length,
          paddingAfter dialect (tokenize dialect front) index := by
    apply sum_congr rfl
    intro index hindex
    rw [htokens]
    exact paddingAfter_append_left hlast later (mem_range.mp hindex)
  rw [howed, ite_self, Nat.add_zero, hsum] at haligned
  exact haligned

/-- Lexing restarts at line breaks.  What stands behind a listing whose last token is a
line break with a line feed at its end does not change its tokens, and has the tokens that
it has alone: of the same kinds and lengths, moved by the bytes of the listing, and as for
their aligned positions also by the padding of all its tokens. -/
theorem tokenize_append_moved (hfeed : front.getLast? = some '\n') (back : Text) :
    tokenize dialect (front ++ back) = tokenize dialect front ++
      (tokenize dialect back).map (Token.moved front.byteSize
        (∑ index ∈ range (tokenize dialect front).length,
          paddingAfter dialect (tokenize dialect front) index)) := by
  obtain ⟨shift, htokens⟩ := exists_tokenize_append hlast (not_splitsPair_of_lineFeed hfeed back)
  cases hback : tokenize dialect back with
  | nil =>
      rw [htokens, hback]
      rfl
  | cons first rest =>
      have hfirst : (tokenize dialect (front ++ back))[(tokenize dialect front).length]? =
          some (first.moved front.byteSize shift) := by
        rw [htokens, hback]
        simp
      have haligned := aligned_first_behind hlast hfirst htokens
      -- at the start of a listing nothing is moved, so the distance is that of the shift
      have hstart : first.aligned = first.position := by
        have hzero : (tokenize dialect back)[0]? = some first := by
          rw [hback]
          rfl
        simpa [paddingBefore] using aligned_tokenize hzero
      have hshift : shift = ∑ index ∈ range (tokenize dialect front).length,
          paddingAfter dialect (tokenize dialect front) index := by
        simp only [Token.moved] at haligned
        omega
      rw [htokens, hback, hshift]

end Restart

set_option maxRecDepth 10000 in
/-- Behind the line break everything is moved by five bytes, and aligned positions by the
eight spaces that fill up the mnemonic too. -/
theorem tokenize_append_moved_sample :
    (∃ last ∈ (tokenize .intel "je 1\n".toList).getLast?, last.kind = .newLine) ∧
    "je 1\n".toList.getLast? = some '\n' ∧
    tokenize .intel ("je 1\n".toList ++ "call f".toList) =
      [⟨.branch, 0, 0, 2⟩, ⟨.misc, 2, 2, 1⟩, ⟨.number, 3, 11, 1⟩, ⟨.newLine, 4, 12, 1⟩] ++
        (tokenize .intel "call f".toList).map (Token.moved 5 8) := by
  have hfront : tokenize .intel "je 1\n".toList =
      [⟨.branch, 0, 0, 2⟩, ⟨.misc, 2, 2, 1⟩, ⟨.number, 3, 11, 1⟩, ⟨.newLine, 4, 12, 1⟩] := by
    decide +kernel
  have hlast : ∃ last ∈ (tokenize .intel "je 1\n".toList).getLast?, last.kind = .newLine := by
    rw [hfront]
    exact ⟨_, rfl, rfl⟩
  have hfeed : "je 1\n".toList.getLast? = some '\n' := by decide
  have htokens := tokenize_append_moved hlast hfeed "call f".toList
  rw [hfront] at htokens
  exact ⟨hlast, hfeed, htokens⟩

/-! ## How far a token extends, once more -/

/-- A text that ends earlier, behind what a cut takes, is cut at the same place. -/
def CutsAgain (cut : Text → Text × Text) : Prop :=
  ∀ text kept lost : Text, (cut text).2 = kept ++ lost →
    cut ((cut text).1 ++ kept) = ((cut text).1, kept)

theorem cutsAgain_cutWhile (continues : Char → Bool) : CutsAgain (cutWhile continues) := by
  intro text kept lost hrest
  have htaken : ∀ character ∈ (cutWhile continues text).1, continues character = true :=
    fun character hmem => List.mem_takeWhile_imp hmem
  have hkept : ∀ character ∈ kept.head?, continues character = false := by
    intro character hhead
    apply continues_head?_cutWhile continues text
    obtain ⟨more, rfl⟩ := List.head?_eq_some_iff.mp hhead
    rw [hrest]
    rfl
  exact cutWhile_eq htaken hkept

theorem Dialect.cutsAgain_cutWord (dialect : Dialect) : CutsAgain dialect.cutWord := by
  intro text kept lost hrest
  have hwhile := cutsAgain_cutWhile dialect.isWordChar text
  unfold Dialect.cutWord at hrest ⊢
  cases hparts : cutWhile dialect.isWordChar text with
  | mk body following =>
      rw [hparts] at hrest hwhile
      cases following with
      | nil =>
          obtain ⟨rfl, rfl⟩ := List.append_eq_nil_iff.mp hrest.symm
          simp only [hwhile [] [] rfl]
      | cons character rest =>
          by_cases hends : dialect.endsWord character
          · -- the character that ends the word is taken too
            simp only [hends, if_true] at hrest ⊢
            have hagain := hwhile (character :: kept) lost (by rw [hrest]; rfl)
            rw [List.append_assoc, List.singleton_append, hagain]
            simp [hends]
          · simp only [if_neg hends] at hrest ⊢
            have hagain : cutWhile dialect.isWordChar (body ++ kept) = (body, kept) :=
              hwhile kept lost hrest
            rw [hagain]
            cases kept with
            | nil => rfl
            | cons next more =>
                obtain ⟨rfl, -⟩ := List.cons.inj hrest
                exact if_neg hends

theorem cutsAgain_cutString : CutsAgain cutString := by
  intro text kept lost hrest
  fun_induction cutString text with
  | case1 =>
      obtain ⟨rfl, rfl⟩ := List.append_eq_nil_iff.mp hrest.symm
      rfl
  | case2 rest => simp [cutString]
  | case3 rest body following hcut ih =>
      rw [hcut] at ih
      simp [cutString, ih hrest]
  | case4 character rest hquote hescape body following hcut ih =>
      have happend := cutString_append rest
      rw [hcut] at ih happend
      -- the next character of the shorter text is that of the whole one
      have hopen : ¬ (character = '\\' ∧ (body ++ kept).head? = some '"') := by
        rintro ⟨rfl, hnext⟩
        obtain ⟨more, hmore⟩ := List.head?_eq_some_iff.mp hnext
        refine hescape (more ++ lost) rfl ?_
        rw [← happend, hrest, ← List.append_assoc, hmore]
        rfl
      rw [List.cons_append, cutString_cons_of_ne hquote hopen, ih hrest]

theorem cutsAgain_cutLineBreak (first : Char) : CutsAgain (cutLineBreak first) := by
  intro text kept lost hrest
  simp only [cutLineBreak_eq] at hrest ⊢
  by_cases hpair : first = '\r' ∧ text.head? = some '\n'
  · simp [hpair]
  · rw [if_neg hpair] at hrest ⊢
    have htext : text = kept ++ lost := hrest
    have hapart : ¬ (first = '\r' ∧ kept.head? = some '\n') := by
      rintro ⟨hreturn, hfeed⟩
      obtain ⟨more, rfl⟩ := List.head?_eq_some_iff.mp hfeed
      exact hpair ⟨hreturn, by rw [htext]; rfl⟩
    rw [List.nil_append, if_neg hapart]

theorem Dialect.cutsAgain_extent (dialect : Dialect) (first : Char) :
    CutsAgain (dialect.extent first) := by
  unfold Dialect.extent
  cases dialect.opening first with
  | word => exact dialect.cutsAgain_cutWord
  | quote => exact cutsAgain_cutString
  | lineBreak => exact cutsAgain_cutLineBreak first
  | _ => exact cutsAgain_cutWhile _

/-! ## The character after a token -/

/-- Whether a byte of a text is a colon. -/
def Text.ColonAt (text : Text) (offset : Nat) : Prop :=
  text.bytes[offset]? = some ':'.toUInt8

instance (text : Text) (offset : Nat) : Decidable (text.ColonAt offset) :=
  inferInstanceAs (Decidable (_ = _))

/-- What follows a part of a text decides whether there is a colon behind it. -/
theorem Text.colonAt_append_iff (before after : Text) :
    (before ++ after).ColonAt before.byteSize ↔ after.head? = some ':' := by
  rw [Text.ColonAt, Text.getElem?_bytes_append, Text.head?_bytes (by decide)]

/-! ## Tokens by themselves -/

/-- The kinds that a colon behind a token decides about: it makes a label of an
identifier, a number or a string. -/
def colonKinds : List TokenKind :=
  [.identifier, .number, .string, .label]

/-- A colon makes no difference to the other kinds. -/
theorem Dialect.kindOf_eq_of_notMem {dialect : Dialect} {first : Char} {body : Text}
    {colon : Bool} (hkind : dialect.kindOf first body colon ∉ colonKinds) (other : Bool) :
    dialect.kindOf first body other = dialect.kindOf first body colon := by
  unfold Dialect.kindOf at hkind ⊢
  cases hopening : dialect.opening first with
  | word =>
      rw [hopening] at hkind
      cases hword : dialect.classify (first :: body) with
      | identifier => cases colon <;> simp [hword, colonKinds] at hkind
      | _ => rfl
  | number => cases colon <;> simp [hopening, colonKinds] at hkind
  | quote => cases colon <;> simp [hopening, colonKinds] at hkind
  | _ => rfl

/-- How a token was read, once more: it is cut off the text at its place, and its kind
is told by its spelling and the colon. -/
theorem exists_cut_of_mem_tokenize {dialect : Dialect} {text : Text} {token : Token}
    (htoken : token ∈ tokenize dialect text) :
    ∃ first body following, token.text text = first :: body ∧
      token.length = Text.byteSize (first :: body) ∧
      dialect.extent first (body ++ following) = (body, following) ∧
      token.kind = dialect.kindOf first body (following.head? == some ':') ∧
      (text.ColonAt token.stop ↔ following.head? = some ':') := by
  obtain ⟨before, first, body, after, htext, -, hstop, hspelling, hcut, hkind⟩ :=
    exists_parts_of_mem_tokenize htoken
  refine ⟨first, body, after, hspelling, ?_, hcut, hkind, ?_⟩
  · rw [← hspelling, byteSize_text_of_mem_tokenize htoken]
  · rw [← hstop, htext]
    exact Text.colonAt_append_iff _ _

/-- A text that starts with a token and ends somewhere behind it. -/
theorem exists_tokenize_eq_cons {dialect : Dialect} {first : Char} {body kept : Text}
    (hcut : dialect.extent first (body ++ kept) = (body, kept)) :
    ∃ alone rest, tokenize dialect (first :: (body ++ kept)) = alone :: rest ∧
      alone.kind = dialect.kindOf first body (kept.head? == some ':') ∧
      alone.length = Text.byteSize (first :: body) ∧ (rest = [] ↔ kept = []) := by
  cases hnext : (Cursor.start (first :: (body ++ kept))).next? dialect with
  | none =>
      have hnil := Cursor.next?_eq_none.mp hnext
      cases hnil
  | some read =>
      obtain ⟨alone, following⟩ := read
      obtain ⟨character, text, hstart, hkind, -, hlength, hrest⟩ :=
        Cursor.exists_extent_of_next? hnext
      obtain ⟨rfl, rfl⟩ := List.cons.inj hstart
      rw [hcut] at hkind hlength hrest
      refine ⟨alone, following.tokens dialect, Cursor.tokens_of_next?_eq_some hnext, hkind,
        hlength, ?_⟩
      rw [Cursor.tokens_eq_nil, hrest]

/-- A token is the same wherever it stands.  Its spelling alone is one token of its
length, and of its kind unless a colon follows; with the colon it is the first token, of
its length and kind.  So tokens of the same spelling have the same kind in all listings,
if a colon follows both of them or none, or if it makes no difference: which is so for
mnemonics, registers and directives. -/
theorem tokens_depend_on_spelling {dialect : Dialect} {text : Text} {token : Token}
    (htoken : token ∈ tokenize dialect text) :
    (∃ alone, tokenize dialect (token.text text) = [alone] ∧ alone.length = token.length ∧
      (¬ text.ColonAt token.stop → alone.kind = token.kind)) ∧
    (text.ColonAt token.stop → ∃ first rest,
      tokenize dialect (token.text text ++ [':']) = first :: rest ∧
        first.kind = token.kind ∧ first.length = token.length) ∧
    ∀ other, ∀ found ∈ tokenize dialect other, found.text other = token.text text →
      (token.kind ∉ colonKinds ∨ (other.ColonAt found.stop ↔ text.ColonAt token.stop)) →
        found.kind = token.kind := by
  obtain ⟨first, body, following, htext, hlength, hcut, hkind, hcolon⟩ :=
    exists_cut_of_mem_tokenize htoken
  have hagain := dialect.cutsAgain_extent first (body ++ following)
  simp only [hcut] at hagain
  rw [htext, hlength, hkind, hcolon]
  refine ⟨?_, ?_, ?_⟩
  · obtain ⟨alone, rest, htokens, hsame, hsize, hrest⟩ :=
      exists_tokenize_eq_cons (hagain [] following rfl)
    rw [List.append_nil, hrest.mpr rfl] at htokens
    refine ⟨alone, htokens, hsize, ?_⟩
    intro hnone
    rw [hsame]
    congr 1
    simpa using hnone
  · intro hfollows
    obtain ⟨more, rfl⟩ := List.head?_eq_some_iff.mp hfollows
    obtain ⟨alone, rest, htokens, hsame, hsize, -⟩ :=
      exists_tokenize_eq_cons (hagain [':'] more rfl)
    exact ⟨alone, rest, htokens, hsame, hsize⟩
  · intro other found hfound hsame hreason
    obtain ⟨character, spelling, behind, htext', -, -, hkind', hcolon'⟩ :=
      exists_cut_of_mem_tokenize hfound
    obtain ⟨rfl, rfl⟩ := List.cons.inj (htext'.symm.trans hsame)
    rw [hkind']
    rcases hreason with hother | hboth
    · exact Dialect.kindOf_eq_of_notMem hother _
    · have hflag : (behind.head? == some ':') = (following.head? == some ':') := by
        rw [Bool.eq_iff_iff, beq_iff_eq, beq_iff_eq, ← hcolon', hboth]
      rw [hflag]

set_option maxRecDepth 10000 in
/-- A quoted label with an escaped quote, which alone would be a string. -/
theorem tokens_depend_on_spelling_sample :
    ∃ token ∈ tokenize .wasm " \"a\\\"\": br".toList,
      token.text " \"a\\\"\": br".toList = "\"a\\\"\"".toList ∧ token.kind = .label ∧
      Text.ColonAt " \"a\\\"\": br".toList token.stop ∧
      (∃ alone, tokenize .wasm "\"a\\\"\"".toList = [alone] ∧ alone.length = 5) ∧
      ∃ first rest, tokenize .wasm "\"a\\\"\":".toList = first :: rest ∧
        first.kind = .label ∧ first.length = 5 := by
  have htoken : (⟨.label, 1, 1, 5⟩ : Token) ∈ tokenize .wasm " \"a\\\"\": br".toList := by
    decide +kernel
  have htext : (⟨.label, 1, 1, 5⟩ : Token).text " \"a\\\"\": br".toList =
      "\"a\\\"\"".toList := by
    decide
  have hcolon : Text.ColonAt " \"a\\\"\": br".toList 6 := by decide
  obtain ⟨⟨alone, halone, hlength, -⟩, hfirst, -⟩ := tokens_depend_on_spelling htoken
  obtain ⟨first, rest, hwith, hkind, hsize⟩ := hfirst hcolon
  rw [htext] at halone hwith
  exact ⟨_, htoken, htext, rfl, hcolon, ⟨alone, halone, hlength⟩, first, rest, hwith, hkind, hsize⟩

end AsmListing
