import AsmListing.Proofs.LineBreaks

/-!
# Lexing restarts at line breaks

What is written after a listing does not change its tokens, if the listing ends
in a line break and what is written does not make another one of it.

A token depends on the text after it in three ways: how far it extends, whether a
colon follows, and whether the padding of a mnemonic is due.  All three look at
the next character at most.  So a token with some text after it is settled
(`Cursor.next?_extend`), and the same holds of a line break at the end: only a line
feed after a carriage return would join it (`SplitsPair`).  A string without an end
is not settled, and is what the condition excludes.  `Cursor.tokens_extend` is the
whole run.
-/

namespace AsmListing

/-- A carriage return and a line feed that belong together are parted. -/
def SplitsPair (front back : Text) : Prop :=
  front.getLast? = some '\r' ∧ back.head? = some '\n'

theorem not_splitsPair_of_lineFeed {front : Text} (hfeed : front.getLast? = some '\n')
    (back : Text) : ¬ SplitsPair front back := by
  simp [SplitsPair, hfeed]

/-! ## How far a token extends -/

/-- A cut that leaves something behind does not depend on what comes after that. -/
def LooksNoFurther (cut : Text → Text × Text) : Prop :=
  ∀ text : Text, (cut text).2 ≠ [] → ∀ more : Text,
    cut (text ++ more) = ((cut text).1, (cut text).2 ++ more)

theorem looksNoFurther_cutWhile (continues : Char → Bool) :
    LooksNoFurther (cutWhile continues) := by
  intro text hne more
  have hdrop : text.dropWhile continues ≠ [] := hne
  have htake : (text.takeWhile continues).length ≠ text.length := by
    intro hlength
    have hparts := congrArg List.length (cutWhile_append continues text)
    rw [List.length_append] at hparts
    have hpos := List.length_pos_iff.mpr hne
    have htaken : (cutWhile continues text).1.length = text.length := hlength
    omega
  simp only [cutWhile, List.takeWhile_append, List.dropWhile_append, if_neg htake,
    List.isEmpty_iff, if_neg hdrop]

theorem Dialect.looksNoFurther_cutWord (dialect : Dialect) : LooksNoFurther dialect.cutWord := by
  intro text hne more
  unfold Dialect.cutWord at hne ⊢
  have hcut := looksNoFurther_cutWhile dialect.isWordChar text
  cases hparts : cutWhile dialect.isWordChar text with
  | mk body following =>
      rw [hparts] at hne hcut
      cases following with
      | nil => simp at hne
      | cons character rest =>
          rw [hcut (List.cons_ne_nil _ _) more]
          simp only [List.cons_append]
          split <;> rfl

theorem looksNoFurther_cutString : LooksNoFurther cutString := by
  intro text hne more
  fun_induction cutString text with
  | case1 => simp at hne
  | case2 rest => simp [cutString]
  | case3 rest body following hrest ih =>
      rw [hrest] at ih
      simp [cutString, ih hne]
  | case4 character rest hquote hescape body following hrest ih =>
      rw [hrest] at ih
      -- the text that is left starts with what decides whether a quote is escaped
      obtain ⟨next, others, rfl⟩ : ∃ next others, rest = next :: others := by
        refine List.exists_cons_of_ne_nil ?_
        rintro rfl
        cases hrest
        simp at hne
      have hopen : ¬ (character = '\\' ∧ (next :: (others ++ more)).head? = some '"') := by
        rintro ⟨rfl, hnext⟩
        obtain rfl : next = '"' := by simpa using hnext
        exact hescape others rfl rfl
      rw [List.cons_append, List.cons_append, cutString_cons_of_ne hquote hopen,
        ← List.cons_append, ih hne]

theorem looksNoFurther_cutLineBreak (first : Char) : LooksNoFurther (cutLineBreak first) := by
  intro text hne more
  simp only [cutLineBreak_eq] at hne ⊢
  cases text with
  | nil => simp at hne
  | cons character rest =>
      by_cases hpair : first = '\r' ∧ character = '\n' <;> simp [hpair]

theorem Dialect.looksNoFurther_extent (dialect : Dialect) (first : Char) :
    LooksNoFurther (dialect.extent first) := by
  unfold Dialect.extent
  cases dialect.opening first with
  | word => exact dialect.looksNoFurther_cutWord
  | quote => exact looksNoFurther_cutString
  | lineBreak => exact looksNoFurther_cutLineBreak first
  | _ => exact looksNoFurther_cutWhile _

/-- A line break at the end stays as it is, unless a pair is parted. -/
theorem Dialect.extent_of_lineBreak (dialect : Dialect) {first : Char} {text more : Text}
    (hbreak : isLineBreak first) (hrest : (dialect.extent first text).2 = [])
    (hpair : ¬ SplitsPair (first :: text) more) :
    dialect.extent first (text ++ more) = ((dialect.extent first text).1, more) := by
  have hopening := (dialect.opening_eq_lineBreak first).mpr hbreak
  simp only [Dialect.extent, hopening, cutLineBreak_eq] at hrest ⊢
  cases text with
  | nil => simpa [SplitsPair] using hpair
  | cons character others =>
      split at hrest
      · next hjoined =>
          obtain rfl : others = [] := by simpa using hrest
          obtain rfl : character = '\n' := by simpa using hjoined.2
          simp [hjoined.1]
      · simp at hrest

/-! ## One call of the cursor -/

namespace Cursor

/-- The cursor in a listing with more text at its end. -/
def extend (cursor : Cursor) (more : Text) : Cursor :=
  { cursor with rest := cursor.rest ++ more }

theorem owedBy_append (dialect : Dialect) (kind : TokenKind) (length : Nat) {following : Text}
    (hne : following ≠ []) (more : Text) :
    owedBy dialect kind length (following ++ more) = owedBy dialect kind length following := by
  obtain ⟨character, rest, rfl⟩ := List.exists_cons_of_ne_nil hne
  rfl

theorem owedBy_newLine (dialect : Dialect) (length : Nat) (following : Text) :
    owedBy dialect .newLine length following = 0 := by
  cases following <;> simp [owedBy, TokenKind.isInstruction]

/-- More text at the end of the listing does not change a token after which some
text was left, and not a line break either unless it parts a pair. -/
theorem next?_extend {dialect : Dialect} {cursor following : Cursor} {token : Token}
    {more : Text} (hnext : cursor.next? dialect = some (token, following))
    (hsettled : following.rest ≠ [] ∨
      token.kind = .newLine ∧ ¬ SplitsPair cursor.rest more) :
    (cursor.extend more).next? dialect = some (token, following.extend more) := by
  have hkind := kind_eq_newLine hnext
  unfold next? at hnext
  split at hnext
  · cases hnext
  · next first text hrest =>
      simp only [Option.some.injEq, Prod.mk.injEq] at hnext
      obtain ⟨rfl, rfl⟩ := hnext
      have hmore : (cursor.extend more).rest = first :: (text ++ more) := by
        rw [extend, hrest, List.cons_append]
      simp only [next?, hmore]
      rw [hrest] at hsettled hkind
      by_cases hne : (dialect.extent first text).2 = []
      · obtain ⟨hnewLine, hpair⟩ := hsettled.resolve_left (absurd hne)
        have hbreak : isLineBreak first := by simpa using hkind.mp hnewLine
        have hline : ∀ body colon, dialect.kindOf first body colon = .newLine := fun body colon =>
          (dialect.kindOf_eq_newLine first body colon).mpr hbreak
        rw [dialect.extent_of_lineBreak hbreak hne hpair]
        simp only [hline, owedBy_newLine, extend, hne, List.nil_append]
      · rw [dialect.looksNoFurther_extent first text hne more]
        simp only [extend, List.head?_append_of_ne_nil _ hne, owedBy_append _ _ _ hne]

/-! ## A whole run -/

/-- After a last line break the cursor reads on as it would from there, unless a pair
is parted.  The induction follows the run of the cursor. -/
theorem tokens_extend {dialect : Dialect} (cursor : Cursor) (more : Text) :
    (∃ last ∈ (cursor.tokens dialect).getLast?, last.kind = .newLine) →
    ¬ SplitsPair cursor.rest more →
      ∃ shift, (cursor.extend more).tokens dialect = cursor.tokens dialect ++
        (Cursor.mk more (cursor.position + cursor.rest.byteSize) shift 0).tokens dialect := by
  fun_induction tokens dialect cursor with
  | case1 cursor hnext => simp
  | case2 cursor token following hnext ih =>
      rintro ⟨last, hlast, hnewLine⟩ hpair
      obtain ⟨spelling, -, hrest, -, hlength, hposition⟩ := next?_eq_some hnext
      have hend : following.position + following.rest.byteSize =
          cursor.position + cursor.rest.byteSize := by
        rw [hposition, hlength, hrest, Text.byteSize_append, Nat.add_assoc]
      by_cases hnil : following.rest = []
      · -- this is the last token, and it owes nothing
        have hdone : following.tokens dialect = [] := tokens_eq_nil.mpr hnil
        obtain rfl : token = last := by simpa [hdone] using hlast
        have howed : following.owed = 0 := by
          rw [(alignment_of_next? hnext).2.2, hnewLine, owedBy_newLine]
        have hstep := next?_extend hnext (.inr ⟨hnewLine, hpair⟩)
        refine ⟨following.shift, ?_⟩
        rw [tokens_of_next?_eq_some hstep, hdone, ← hend, ← howed, hnil, extend, hnil]
        rfl
      · have hstep : (cursor.extend more).next? dialect = some (token, following.extend more) :=
          next?_extend hnext (.inl hnil)
        have hlater : (following.tokens dialect).getLast? = some last := by
          have hne : following.tokens dialect ≠ [] := tokens_eq_nil.not.mpr hnil
          simpa [List.getLast?_cons, List.getLast?_eq_some_getLast hne] using hlast
        have hparted : ¬ SplitsPair following.rest more := by
          rwa [SplitsPair, ← List.getLast?_append_of_ne_nil spelling hnil, ← hrest]
        obtain ⟨shift, htokens⟩ := ih ⟨last, hlater, hnewLine⟩ hparted
        refine ⟨shift, ?_⟩
        rw [tokens_of_next?_eq_some hstep, htokens, hend, List.cons_append]

end Cursor

end AsmListing
