import AsmListing.Proofs.ByteScan
import Mathlib.Data.List.Chain

/-!
# Tokens tile their listing

Every byte of a listing belongs to exactly one token.  The cursor only ever
moves forward by the token it returns, so the argument is about one call of
`Cursor.next?` (`next?_eq_some`): it takes a nonempty part off the front of the
rest and reports its byte range.  `Tiles` is what this adds up to over a whole
run, and `Cursor.tiles_tokens` says that every run ends in a tiling.

The consequences are drawn from `Tiles` alone:

* `Tiles.exists_spells`: a token is a part of the listing between two others, so
  both of its ends are character boundaries and its text has its length;
* `Tiles.flatten_texts`: the texts of the tokens make up the listing;
* `Cursor.ask_eq`: a cursor that is asked again and again gives the tokens, and
  then nothing for ever.
-/

namespace AsmListing

namespace Text

theorem byteSize_pos {text : Text} (hne : text ≠ []) : 0 < text.byteSize := by
  obtain ⟨character, rest, rfl⟩ := List.exists_cons_of_ne_nil hne
  exact Nat.add_pos_left character.utf8Size_pos _

/-- Whether a byte offset of a text lies between two of its characters, or at
one of its ends. -/
def IsBoundary (text : Text) (offset : Nat) : Prop :=
  ∃ before after, text = before ++ after ∧ before.byteSize = offset

end Text

/-- The byte offset just past a token. -/
def Token.stop (token : Token) : Nat :=
  token.position + token.length

/-- `Tiles text position tokens`: the tokens cut `text`, which starts at byte
`position` of the listing, into parts that are not empty. -/
inductive Tiles : Text → Nat → List Token → Prop
  | done {position : Nat} : Tiles [] position []
  | step {spelling following : Text} {position : Nat} {token : Token} {tokens : List Token} :
      spelling ≠ [] → token.position = position → token.length = spelling.byteSize →
      Tiles following (position + token.length) tokens →
      Tiles (spelling ++ following) position (token :: tokens)

/-! ## One call of the cursor -/

namespace Cursor

theorem next?_eq_none {dialect : Dialect} {cursor : Cursor} :
    cursor.next? dialect = none ↔ cursor.rest = [] := by
  unfold next?
  split <;> simp [*]

/-- What the cursor takes off the front of the rest is the token it returns. -/
theorem next?_eq_some {dialect : Dialect} {cursor following : Cursor} {token : Token}
    (hnext : cursor.next? dialect = some (token, following)) :
    ∃ spelling : Text, spelling ≠ [] ∧ cursor.rest = spelling ++ following.rest ∧
      token.position = cursor.position ∧ token.length = spelling.byteSize ∧
      following.position = cursor.position + token.length := by
  unfold next? at hnext
  split at hnext
  · cases hnext
  · next first text hrest =>
      simp only [Option.some.injEq, Prod.mk.injEq] at hnext
      obtain ⟨rfl, rfl⟩ := hnext
      refine ⟨first :: (dialect.extent first text).1, List.cons_ne_nil _ _, ?_, rfl, rfl, rfl⟩
      rw [hrest, List.cons_append, dialect.extent_append]

/-- What the cursor reads is a first character and all that belongs to it. -/
theorem exists_extent_of_next? {dialect : Dialect} {cursor following : Cursor} {token : Token}
    (hnext : cursor.next? dialect = some (token, following)) :
    ∃ first text, cursor.rest = first :: text ∧
      token.kind = dialect.kindOf first (dialect.extent first text).1
        ((dialect.extent first text).2.head? == some ':') ∧
      token.position = cursor.position ∧
      token.length = Text.byteSize (first :: (dialect.extent first text).1) ∧
      following.rest = (dialect.extent first text).2 := by
  unfold next? at hnext
  split at hnext
  · cases hnext
  · next first text hrest =>
      simp only [Option.some.injEq, Prod.mk.injEq] at hnext
      obtain ⟨rfl, rfl⟩ := hnext
      exact ⟨first, text, hrest, rfl, rfl, rfl, rfl⟩

/-- What the cursor does with the padding that it owes, and what it owes next. -/
theorem alignment_of_next? {dialect : Dialect} {cursor following : Cursor} {token : Token}
    (hnext : cursor.next? dialect = some (token, following)) :
    token.aligned = token.position + cursor.shift + settledOn token.kind cursor.owed ∧
      following.shift = cursor.shift + settledAfter token.kind cursor.owed ∧
      following.owed = owedBy dialect token.kind token.length following.rest := by
  unfold next? at hnext
  split at hnext
  · cases hnext
  · simp only [Option.some.injEq, Prod.mk.injEq] at hnext
    obtain ⟨rfl, rfl⟩ := hnext
    exact ⟨rfl, rfl, rfl⟩

/-! ## A whole run -/

/-- The tokens after a cursor tile the rest of the listing.  The induction
follows the run of the cursor. -/
theorem tiles_tokens (dialect : Dialect) (cursor : Cursor) :
    Tiles cursor.rest cursor.position (cursor.tokens dialect) := by
  fun_induction tokens dialect cursor with
  | case1 cursor hnext =>
      rw [next?_eq_none.mp hnext]
      exact .done
  | case2 cursor token following hnext ih =>
      obtain ⟨spelling, hne, hrest, hposition, hlength, hfollowing⟩ := next?_eq_some hnext
      rw [hrest]
      rw [hfollowing] at ih
      exact .step hne hposition hlength ih

/-- Every token was read by some call of the cursor, at its place in the text. -/
theorem exists_next?_of_mem_tokens {dialect : Dialect} {cursor : Cursor} {token : Token} :
    token ∈ cursor.tokens dialect → ∃ (before : Text) (here following : Cursor),
      here.next? dialect = some (token, following) ∧ cursor.rest = before ++ here.rest ∧
      here.position = cursor.position + before.byteSize := by
  fun_induction tokens dialect cursor with
  | case1 cursor hnext => simp
  | case2 cursor first following hnext ih =>
      intro htoken
      rcases List.mem_cons.mp htoken with rfl | htoken
      · exact ⟨[], cursor, following, hnext, rfl, rfl⟩
      · obtain ⟨before, here, next, hhere, hrest, hposition⟩ := ih htoken
        obtain ⟨spelling, -, hfront, -, hlength, hfollowing⟩ := next?_eq_some hnext
        refine ⟨spelling ++ before, here, next, hhere, ?_, ?_⟩
        · rw [hfront, hrest, List.append_assoc]
        · rw [hposition, hfollowing, hlength, Text.byteSize_append, Nat.add_assoc]

end Cursor

theorem tiles_tokenize (dialect : Dialect) (text : Text) :
    Tiles text 0 (tokenize dialect text) :=
  Cursor.tiles_tokens dialect (.start text)

/-! ## Where the tokens are -/

/-- `token.Spells text spelling`: the byte range of the token holds `spelling`. -/
def Token.Spells (token : Token) (text spelling : Text) : Prop :=
  ∃ before after, text = before ++ spelling ++ after ∧ before.byteSize = token.position ∧
    spelling.byteSize = token.length

namespace Token.Spells

variable {token : Token} {text spelling : Text}

theorem text_eq (hspells : token.Spells text spelling) : token.text text = spelling := by
  obtain ⟨before, after, rfl, hposition, hlength⟩ := hspells
  rw [Token.text, ← hposition, ← hlength]
  exact Text.view_append before spelling after

theorem append (hspells : token.Spells text spelling) (more : Text) :
    token.Spells (text ++ more) spelling := by
  obtain ⟨before, after, rfl, hposition, hlength⟩ := hspells
  exact ⟨before, after ++ more, List.append_assoc .., hposition, hlength⟩

theorem byteSize_text (hspells : token.Spells text spelling) :
    (token.text text).byteSize = token.length := by
  rw [hspells.text_eq]
  obtain ⟨_, _, _, _, hlength⟩ := hspells
  exact hlength

theorem isBoundary_position (hspells : token.Spells text spelling) :
    text.IsBoundary token.position := by
  obtain ⟨before, after, rfl, hposition, _⟩ := hspells
  exact ⟨before, spelling ++ after, by rw [List.append_assoc], hposition⟩

theorem isBoundary_stop (hspells : token.Spells text spelling) :
    text.IsBoundary token.stop := by
  obtain ⟨before, after, rfl, hposition, hlength⟩ := hspells
  exact ⟨before ++ spelling, after, rfl, by
    rw [Text.byteSize_append, hposition, hlength, Token.stop]⟩

/-- The text of a token is the byte range of the encoded listing that the token
names. -/
theorem bytes_text (hspells : token.Spells text spelling) :
    (token.text text).bytes = (text.bytes.drop token.position).take token.length := by
  rw [hspells.text_eq]
  obtain ⟨before, after, rfl, hposition, hlength⟩ := hspells
  rw [Text.bytes_append, Text.bytes_append, List.append_assoc, ← hposition, ← hlength,
    ← Text.length_bytes before, ← Text.length_bytes spelling, List.drop_left, List.take_left]

end Token.Spells

namespace Tiles

variable {text : Text} {position : Nat} {tokens : List Token}

theorem head_position (htiles : Tiles text position tokens) :
    ∀ token ∈ tokens.head?, token.position = position := by
  cases htiles with
  | done => simp
  | step hne hposition hlength hrest => simpa using hposition

theorem isChain (htiles : Tiles text position tokens) :
    tokens.IsChain fun token following => following.position = token.stop := by
  induction htiles with
  | done => exact .nil
  | step hne hposition hlength hrest ih =>
      refine List.isChain_cons.mpr ⟨fun following hfollowing => ?_, ih⟩
      rw [hrest.head_position following hfollowing, Token.stop, hposition]

theorem getLast_stop (htiles : Tiles text position tokens) :
    ∀ token ∈ tokens.getLast?, token.stop = position + text.byteSize := by
  induction htiles with
  | done => simp
  | @step spelling following position token tokens hne hposition hlength hrest ih =>
      intro last hlast
      rw [Text.byteSize_append, ← hlength, ← Nat.add_assoc]
      cases hrest with
      | done =>
          obtain rfl : token = last := by simpa using hlast
          rw [Token.stop, hposition, Text.byteSize_nil, Nat.add_zero]
      | step hne' hposition' hlength' hrest' =>
          exact ih last (by simpa using hlast)

theorem position_of_getElem? (htiles : Tiles text position tokens) {index : Nat}
    {token following : Token} (htoken : tokens[index]? = some token)
    (hfollowing : tokens[index + 1]? = some following) : following.position = token.stop := by
  obtain ⟨hnext, rfl⟩ := List.getElem?_eq_some_iff.mp hfollowing
  obtain ⟨-, rfl⟩ := List.getElem?_eq_some_iff.mp htoken
  exact List.isChain_iff_getElem.mp htiles.isChain index hnext

/-- The token without another one behind it ends with the text. -/
theorem stop_of_getElem?_eq_none (htiles : Tiles text position tokens) {index : Nat} {token : Token}
    (htoken : tokens[index]? = some token) (hnone : tokens[index + 1]? = none) :
    token.stop = position + text.byteSize := by
  obtain ⟨hindex, rfl⟩ := List.getElem?_eq_some_iff.mp htoken
  have hlast := List.getElem?_eq_none_iff.mp hnone
  apply htiles.getLast_stop
  rw [List.getLast?_eq_getElem?, show tokens.length - 1 = index by omega]
  exact List.getElem?_eq_getElem hindex

/-- Every token of a tiling spells a part of the listing that is not empty. -/
theorem exists_spells (htiles : Tiles text position tokens) :
    ∀ before : Text, before.byteSize = position → ∀ token ∈ tokens,
      ∃ spelling, spelling ≠ [] ∧ token.Spells (before ++ text) spelling := by
  induction htiles with
  | done => simp
  | @step spelling following position first tokens hne hposition hlength hrest ih =>
      intro before hbefore token hmem
      rcases List.mem_cons.mp hmem with rfl | hmem
      · exact ⟨spelling, hne, before, following, (List.append_assoc ..).symm,
          hbefore.trans hposition.symm, hlength.symm⟩
      · have hstop : Text.byteSize (before ++ spelling) = position + first.length := by
          rw [Text.byteSize_append, hbefore, hlength]
        rw [← List.append_assoc]
        exact ih _ hstop token hmem

/-- The texts of the tokens, one after the other, are the text that they tile. -/
theorem flatten_texts (htiles : Tiles text position tokens) :
    ∀ before : Text, before.byteSize = position →
      (tokens.map (·.text (before ++ text))).flatten = text := by
  induction htiles with
  | done => simp
  | @step spelling following position token tokens hne hposition hlength hrest ih =>
      intro before hbefore
      have hspells : token.Spells (before ++ (spelling ++ following)) spelling :=
        ⟨before, following, (List.append_assoc ..).symm, hbefore.trans hposition.symm,
          hlength.symm⟩
      have hstop : Text.byteSize (before ++ spelling) = position + token.length := by
        rw [Text.byteSize_append, hbefore, hlength]
      rw [List.map_cons, List.flatten_cons, hspells.text_eq, ← List.append_assoc before]
      rw [ih _ hstop]

end Tiles

theorem exists_spells_of_mem_tokenize {dialect : Dialect} {text : Text} {token : Token}
    (hmem : token ∈ tokenize dialect text) :
    ∃ spelling, spelling ≠ [] ∧ token.Spells text spelling :=
  (tiles_tokenize dialect text).exists_spells [] rfl token hmem

/-- How a token of a listing was read: from its first character and the text after
that, whatever stands before it. -/
theorem exists_extent_of_mem_tokenize {dialect : Dialect} {text : Text} {token : Token}
    (hmem : token ∈ tokenize dialect text) :
    ∃ (before : Text) (first : Char) (tail : Text), text = before ++ first :: tail ∧
      before.byteSize = token.position ∧
      token.Spells text (first :: (dialect.extent first tail).1) ∧
      token.kind = dialect.kindOf first (dialect.extent first tail).1
        ((dialect.extent first tail).2.head? == some ':') := by
  obtain ⟨before, here, following, hnext, hrest, hposition⟩ :=
    Cursor.exists_next?_of_mem_tokens hmem
  obtain ⟨first, tail, hhere, hkind, hstart, hlength, -⟩ := Cursor.exists_extent_of_next? hnext
  have htext : text = before ++ first :: tail := by
    rw [← hhere]
    exact hrest
  have hbefore : before.byteSize = token.position := by
    rw [hstart, hposition]
    exact (Nat.zero_add _).symm
  have hspells : token.Spells text (first :: (dialect.extent first tail).1) := by
    refine ⟨before, (dialect.extent first tail).2, ?_, hbefore, hlength.symm⟩
    rw [List.append_assoc, List.cons_append, dialect.extent_append, htext]
  exact ⟨before, first, tail, htext, hbefore, hspells, hkind⟩

/-- How a token cuts its listing: into what stands before it, its own characters, and
what follows, which is left when it has been read. -/
theorem exists_parts_of_mem_tokenize {dialect : Dialect} {text : Text} {token : Token}
    (hmem : token ∈ tokenize dialect text) :
    ∃ (before : Text) (first : Char) (body after : Text),
      text = before ++ (first :: body) ++ after ∧ before.byteSize = token.position ∧
      (before ++ first :: body).byteSize = token.stop ∧ token.text text = first :: body ∧
      dialect.extent first (body ++ after) = (body, after) ∧
      token.kind = dialect.kindOf first body (after.head? == some ':') := by
  obtain ⟨before, first, tail, htext, hbefore, hspells, hkind⟩ :=
    exists_extent_of_mem_tokenize hmem
  have happend := dialect.extent_append first tail
  have hlength := hspells.byteSize_text
  rw [hspells.text_eq] at hlength
  refine ⟨before, first, _, (dialect.extent first tail).2, ?_, hbefore, ?_, hspells.text_eq, ?_,
    hkind⟩
  · rw [List.append_assoc, List.cons_append, happend, htext]
  · rw [Text.byteSize_append, hbefore, hlength, Token.stop]
  · rw [happend]

theorem byteSize_text_of_mem_tokenize {dialect : Dialect} {text : Text} {token : Token}
    (hmem : token ∈ tokenize dialect text) : (token.text text).byteSize = token.length := by
  obtain ⟨spelling, -, hspells⟩ := exists_spells_of_mem_tokenize hmem
  exact hspells.byteSize_text

theorem text_ne_nil_of_mem_tokenize {dialect : Dialect} {text : Text} {token : Token}
    (hmem : token ∈ tokenize dialect text) : token.text text ≠ [] := by
  obtain ⟨spelling, hne, hspells⟩ := exists_spells_of_mem_tokenize hmem
  rwa [hspells.text_eq]

theorem length_pos_of_mem_tokenize {dialect : Dialect} {text : Text} {token : Token}
    (hmem : token ∈ tokenize dialect text) : 0 < token.length := by
  rw [← byteSize_text_of_mem_tokenize hmem]
  exact Text.byteSize_pos (text_ne_nil_of_mem_tokenize hmem)

/-! ## Asking for tokens one by one -/

namespace Cursor

theorem tokens_of_next?_eq_none {dialect : Dialect} {cursor : Cursor}
    (hnext : cursor.next? dialect = none) : cursor.tokens dialect = [] := by
  rw [tokens]
  split <;> simp_all

theorem tokens_of_next?_eq_some {dialect : Dialect} {cursor following : Cursor} {token : Token}
    (hnext : cursor.next? dialect = some (token, following)) :
    cursor.tokens dialect = token :: following.tokens dialect := by
  rw [tokens]
  split <;> simp_all

theorem tokens_eq_nil {dialect : Dialect} {cursor : Cursor} :
    cursor.tokens dialect = [] ↔ cursor.rest = [] := by
  cases hnext : cursor.next? dialect with
  | none => simp [tokens_of_next?_eq_none hnext, next?_eq_none.mp hnext]
  | some read =>
      have hne : cursor.rest ≠ [] := by
        intro hnil
        simp [next?_eq_none.mpr hnil] at hnext
      simp [tokens_of_next?_eq_some hnext, hne]

/-- A cursor answers with its tokens, each with its end, and from then on with
nothing, at the end of the listing. -/
theorem ask_eq (dialect : Dialect) (count : Nat) (cursor : Cursor) :
    ask dialect count cursor =
      ((cursor.tokens dialect).map (fun token : Token => (some token, token.stop)) ++
        List.replicate count (none, cursor.position + cursor.rest.byteSize)).take count := by
  induction count generalizing cursor with
  | zero => rfl
  | succ count ih =>
      rw [ask]
      split
      · next hnext =>
          rw [ih, tokens_of_next?_eq_none hnext, next?_eq_none.mp hnext]
          simp [List.replicate_succ, List.take_replicate]
      · next token following hnext =>
          obtain ⟨spelling, -, hrest, hposition, hlength, hfollowing⟩ := next?_eq_some hnext
          have hstop : following.position + following.rest.byteSize =
              cursor.position + cursor.rest.byteSize := by
            rw [hrest, Text.byteSize_append, hfollowing, hlength, Nat.add_assoc]
          rw [ih, tokens_of_next?_eq_some hnext, hstop, List.map_cons, List.cons_append,
            List.take_succ_cons, Token.stop, hposition, ← hfollowing]
          -- the answers past the listing are all the same, so one more of them is cut off
          rw [List.take_append, List.take_append, List.take_replicate, List.take_replicate,
            Nat.min_eq_left (Nat.sub_le _ _), Nat.min_eq_left (by omega)]

end Cursor

/-! ## The tiling of a listing -/

/-- The tokens of a listing cover it from its first to its last byte, without a
gap and without an overlap, and cut it between characters only, although a run
over its bytes finds the same ones.  Asking for one token after the other gives
them with their ends, and then nothing any more. -/
theorem tokenize_covers_listing (dialect : Dialect) (text : Text) :
    (∀ token ∈ (tokenize dialect text).head?, token.position = 0) ∧
    ((tokenize dialect text).IsChain fun token following => following.position = token.stop) ∧
    (∀ token ∈ (tokenize dialect text).getLast?, token.stop = text.byteSize) ∧
    (∀ token ∈ tokenize dialect text,
      0 < token.length ∧ text.IsBoundary token.position ∧ text.IsBoundary token.stop ∧
        (token.text text).byteSize = token.length ∧
        (token.text text).bytes = (text.bytes.drop token.position).take token.length) ∧
    ((tokenize dialect text).map (·.text text)).flatten = text ∧
    (tokenize dialect text).map (·.length) = dialect.scanBytes text.bytes ∧
    ∀ count, Cursor.ask dialect count (.start text) =
      ((tokenize dialect text).map (fun token : Token => (some token, token.stop)) ++
        List.replicate count (none, text.byteSize)).take count := by
  have htiles := tiles_tokenize dialect text
  refine ⟨htiles.head_position, htiles.isChain, ?_, ?_, htiles.flatten_texts [] rfl,
    (scanBytes_bytes dialect text).symm, ?_⟩
  · simpa using htiles.getLast_stop
  · intro token hmem
    obtain ⟨spelling, -, hspells⟩ := exists_spells_of_mem_tokenize hmem
    exact ⟨length_pos_of_mem_tokenize hmem, hspells.isBoundary_position, hspells.isBoundary_stop,
      hspells.byteSize_text, hspells.bytes_text⟩
  · intro count
    simpa [Cursor.start, tokenize] using Cursor.ask_eq dialect count (.start text)

end AsmListing
