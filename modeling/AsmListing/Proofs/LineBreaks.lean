import AsmListing.Proofs.Keywords
import AsmListing.Proofs.Tiling

/-!
# Line breaks among the tokens

A token is a line break exactly if its first character ends a line.  In one
direction this is less than obvious: the kind of a word is looked up in the
vocabulary of its dialect, which could hold anything.  It holds the kinds of words
only (`Dialect.classify_mem_wordKinds`).
-/

namespace AsmListing

/-- The kinds that a word can have. -/
def wordKinds : List TokenKind :=
  [.identifier, .register, .qualifier, .instruction, .call, .branch, .jump, .ret, .simd]

/-! ## The kinds of words -/

/-- A table makes of a word what one of its groups is, or an identifier. -/
theorem KeywordTable.lookup_ofGroups_mem {groups : List (List String × TokenKind)}
    {kinds : List TokenKind} (hidentifier : .identifier ∈ kinds)
    (hgroups : ∀ group ∈ groups, group.2 ∈ kinds) (word : String) :
    (ofGroups groups).lookup word ∈ kinds := by
  rw [lookup_eq_uncapped, lookup_entries_ofGroups, firstKind?]
  cases hfound : groups.find? (·.1.contains word) with
  | none => exact hidentifier
  | some group => exact hgroups group (List.mem_of_find?_eq_some hfound)

theorem Dialect.classify_mem_wordKinds (dialect : Dialect) (word : Text) :
    dialect.classify word ∈ wordKinds := by
  cases dialect <;> exact KeywordTable.lookup_ofGroups_mem (by decide) (by simp [wordKinds]) _

/-! ## Which tokens are line breaks -/

theorem Dialect.opening_eq_lineBreak (dialect : Dialect) (first : Char) :
    dialect.opening first = .lineBreak ↔ isLineBreak first := by
  constructor
  · intro hopening
    unfold Dialect.opening at hopening
    split_ifs at hopening with _ _ _ _ _ hbreak
    exact hbreak
  · intro hbreak
    rw [isLineBreak, Bool.or_eq_true, beq_iff_eq, beq_iff_eq] at hbreak
    rcases hbreak with rfl | rfl <;> cases dialect <;> decide

theorem kindAfterPoint_notMem (spelling : Text) :
    kindAfterPoint spelling ∉ [.comment, .newLine, .misc] := by
  unfold kindAfterPoint
  split_ifs <;> decide

/-- Comments, line breaks and blanks are told by their first characters, and no other
token is taken for one of them. -/
theorem Dialect.kindOf_eq_iff_opening (dialect : Dialect) (first : Char) (body : Text)
    (colon : Bool) :
    (dialect.kindOf first body colon = .comment ↔ dialect.opening first = .comment) ∧
    (dialect.kindOf first body colon = .newLine ↔ dialect.opening first = .lineBreak) ∧
    (dialect.kindOf first body colon = .misc ↔ dialect.opening first = .misc) := by
  unfold Dialect.kindOf
  have hword := dialect.classify_mem_wordKinds (first :: body)
  cases hopening : dialect.opening first with
  | point => simpa using kindAfterPoint_notMem (first :: body)
  | word =>
      cases hkind : dialect.classify (first :: body) <;> cases colon <;> simp_all [wordKinds]
  | number => cases colon <;> simp
  | quote => cases colon <;> simp
  | _ => simp

theorem Dialect.kindOf_eq_newLine (dialect : Dialect) (first : Char) (body : Text)
    (colon : Bool) : dialect.kindOf first body colon = .newLine ↔ isLineBreak first := by
  rw [← dialect.opening_eq_lineBreak]
  exact (dialect.kindOf_eq_iff_opening first body colon).2.1

/-- The token after a cursor is a line break exactly if the text there starts with
one. -/
theorem Cursor.kind_eq_newLine {dialect : Dialect} {cursor following : Cursor} {token : Token}
    (hnext : cursor.next? dialect = some (token, following)) :
    token.kind = .newLine ↔ ∃ first ∈ cursor.rest.head?, isLineBreak first := by
  unfold next? at hnext
  split at hnext
  · cases hnext
  · next first text hrest =>
      simp only [Option.some.injEq, Prod.mk.injEq] at hnext
      obtain ⟨rfl, -⟩ := hnext
      simp [hrest, dialect.kindOf_eq_newLine]

end AsmListing
