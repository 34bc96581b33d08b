import AsmListing.Token.Basic
import Mathlib.Data.Finset.Card
import Mathlib.Tactic.Tauto

/-!
# What a keyword table knows

A keyword table is filled group by group, and the order of its entries is what
makes the first kind of a word win.  Here the table is compared with the groups
themselves: which words they hold (`spellings`), and which group is the first one
with a word (`firstKind?`).

* Looking a word up finds the kind of its first group.  The greatest length of an
  entry only saves a search that would find nothing (`lookup_eq_uncapped`).
* Entering a word that is there changes nothing, so what is kept of the entries has
  every spelling once and finds what the entries find (`kept_spec`).

All of this asks of a group only which words it has, and neither their order nor
their number matters (`SameWords`).
-/

namespace AsmListing

namespace KeywordTable

/-- The kind of the earliest group that has a word. -/
def firstKind? (groups : List (List String × TokenKind)) (word : String) : Option TokenKind :=
  (groups.find? (·.1.contains word)).map (·.2)

/-- The words of all groups, each one once. -/
def spellings (groups : List (List String × TokenKind)) : Finset String :=
  (groups.flatMap (·.1)).toFinset

/-- `Longest words length`: the greatest byte length of the words, zero if there are
none. -/
structure Longest (words : Finset String) (length : Nat) : Prop where
  le : ∀ word ∈ words, word.utf8ByteSize ≤ length
  attained : (words = ∅ ∧ length = 0) ∨ ∃ word ∈ words, word.utf8ByteSize = length

/-- Groups of the same kinds with the same words, in whatever order and however often
they are given. -/
def SameWords (groups others : List (List String × TokenKind)) : Prop :=
  List.Forall₂ (fun group other => group.2 = other.2 ∧ ∀ word, word ∈ group.1 ↔ word ∈ other.1)
    groups others

/-! ## The entries of a table -/

theorem ofGroups_concat (groups : List (List String × TokenKind))
    (group : List String × TokenKind) :
    ofGroups (groups ++ [group]) = (ofGroups groups).add group.1 group.2 := by
  simp [ofGroups]

/-- The entries are those of the groups, one group after the other. -/
theorem entries_ofGroups (groups : List (List String × TokenKind)) :
    (ofGroups groups).entries = groups.flatMap fun group => group.1.map (·, group.2) := by
  induction groups using List.reverseRecOn with
  | nil => rfl
  | append_singleton groups group ih => simp [ofGroups_concat, add, ih]

theorem map_fst_entries_ofGroups (groups : List (List String × TokenKind)) :
    (ofGroups groups).entries.map Prod.fst = groups.flatMap (·.1) := by
  rw [entries_ofGroups, List.map_flatMap]
  simp [Function.comp_def]

/-! ## The greatest length -/

namespace Longest

variable {words : Finset String} {longest : Nat}

theorem unique (hlongest : Longest words longest) {other : Nat} (hother : Longest words other) :
    longest = other := by
  rcases hlongest.attained with ⟨hnone, rfl⟩ | ⟨word, hword, rfl⟩ <;>
    rcases hother.attained with ⟨hotherNone, rfl⟩ | ⟨second, hsecond, rfl⟩
  · rfl
  · simp [hnone] at hsecond
  · simp [hotherNone] at hword
  · exact Nat.le_antisymm (hother.le word hword) (hlongest.le second hsecond)

theorem insert (hlongest : Longest words longest) (word : String) :
    Longest (insert word words) (max longest word.utf8ByteSize) where
  le := by
    intro other hother
    rcases Finset.mem_insert.mp hother with rfl | hother
    · exact Nat.le_max_right _ _
    · exact Nat.le_trans (hlongest.le other hother) (Nat.le_max_left _ _)
  attained := by
    right
    rcases Nat.le_total longest word.utf8ByteSize with hle | hle
    · exact ⟨word, Finset.mem_insert_self _ _, (Nat.max_eq_right hle).symm⟩
    · rw [Nat.max_eq_left hle]
      rcases hlongest.attained with ⟨-, hzero⟩ | ⟨other, hother, hlength⟩
      · exact ⟨word, Finset.mem_insert_self _ _, by omega⟩
      · exact ⟨other, Finset.mem_insert_of_mem hother, hlength⟩

theorem add {table : KeywordTable} (hlongest : Longest words table.maxLength)
    (given : List String) (kind : TokenKind) :
    Longest (words ∪ given.toFinset) (table.add given kind).maxLength := by
  have hrun : ∀ {known : Finset String} {length : Nat}, Longest known length →
      Longest (known ∪ given.toFinset)
        (given.foldl (fun longest word => max longest word.utf8ByteSize) length) := by
    induction given with
    | nil =>
        intro known length hknown
        simpa using hknown
    | cons word rest ih =>
        intro known length hknown
        rw [List.toFinset_cons, Finset.union_insert, ← Finset.insert_union]
        exact ih (hknown.insert word)
  exact hrun hlongest

end Longest

/-- A word that is given again counts for the greatest length as well, and does not
change it. -/
theorem longest_ofGroups (groups : List (List String × TokenKind)) :
    Longest (spellings groups) (ofGroups groups).maxLength := by
  induction groups using List.reverseRecOn with
  | nil => exact ⟨by simp [spellings], .inl ⟨rfl, rfl⟩⟩
  | append_singleton groups group ih =>
      rw [ofGroups_concat]
      simpa [spellings, List.toFinset_append] using ih.add group.1 group.2

/-! ## Looking words up -/

theorem lookup_map_pair (words : List String) (kind : TokenKind) (word : String) :
    (words.map (·, kind)).lookup word = if word ∈ words then some kind else none := by
  induction words with
  | nil => rfl
  | cons first rest ih =>
      rw [List.map_cons, List.lookup_cons, ih]
      by_cases hfirst : word = first
      · simp [hfirst]
      · simp [hfirst, beq_false_of_ne hfirst]

/-- The first entry of a word is one of the first group that has it. -/
theorem lookup_entries_ofGroups (groups : List (List String × TokenKind)) (word : String) :
    (ofGroups groups).entries.lookup word = firstKind? groups word := by
  rw [entries_ofGroups]
  induction groups with
  | nil => rfl
  | cons group rest ih =>
      rw [List.flatMap_cons, List.lookup_append, ih, lookup_map_pair, firstKind?, firstKind?,
        List.find?_cons]
      by_cases hword : word ∈ group.1 <;> simp [hword]

theorem firstKind?_isSome_iff (groups : List (List String × TokenKind)) (word : String) :
    (firstKind? groups word).isSome ↔ word ∈ spellings groups := by
  simp [firstKind?, spellings]

/-- A word that is longer than all entries is none of them: the search without the
question for its length gives the same. -/
theorem lookup_eq_uncapped (groups : List (List String × TokenKind)) (word : String) :
    (ofGroups groups).lookup word =
      ((ofGroups groups).entries.lookup word).getD .identifier := by
  rw [lookup]
  split
  · next hlong =>
      have habsent : word ∉ spellings groups := by
        intro hword
        exact absurd ((longest_ofGroups groups).le word hword) (Nat.not_le.mpr hlong)
      rw [← firstKind?_isSome_iff, Bool.not_eq_true, Option.isSome_eq_false_iff,
        Option.isNone_iff_eq_none] at habsent
      rw [lookup_entries_ofGroups, habsent]
      rfl
  · rfl

/-! ## Keeping words -/

section

variable (known : List (String × TokenKind)) (entry : String × TokenKind)

theorem any_known_iff (word : String) :
    known.any (·.1 == word) = true ↔ word ∈ known.map Prod.fst := by
  simp [List.any_eq_true]

theorem mem_enter_iff (word : String) :
    word ∈ (enter known entry).map Prod.fst ↔ word ∈ (known ++ [entry]).map Prod.fst := by
  unfold enter
  split
  · next hknown =>
      rw [any_known_iff] at hknown
      rw [List.map_append, List.mem_append]
      constructor
      · exact Or.inl
      · rintro (hmem | hmem)
        · exact hmem
        · obtain rfl : word = entry.1 := by simpa using hmem
          exact hknown
  · rfl

theorem nodup_enter (hnodup : (known.map Prod.fst).Nodup) :
    ((enter known entry).map Prod.fst).Nodup := by
  unfold enter
  split
  · exact hnodup
  · next hnew =>
      rw [any_known_iff] at hnew
      rw [List.map_append, List.nodup_append]
      refine ⟨hnodup, List.nodup_singleton _, ?_⟩
      intro word hword other hother
      obtain rfl : other = entry.1 := by simpa using hother
      rintro rfl
      exact hnew hword

/-- For looking words up, it is all the same whether a word that is there is entered
again. -/
theorem lookup_enter (word : String) :
    (enter known entry).lookup word = (known ++ [entry]).lookup word := by
  unfold enter
  split
  · next hknown =>
      rw [List.lookup_append]
      by_cases hword : word = entry.1
      · obtain ⟨found, hmem, hsame⟩ := List.any_eq_true.mp hknown
        have hfound : (known.lookup word).isSome := by
          rw [List.lookup_isSome_iff]
          exact ⟨found, hmem, by rw [hword, BEq.comm, hsame]⟩
        rw [Option.or_of_isSome hfound]
      · have hother : [entry].lookup word = none := by
          simp [List.lookup_eq_none_iff, hword]
        rw [hother, Option.or_none]
  · rfl

end

/-- What is kept of a table has the spellings of its entries, each one once, and finds
the same. -/
theorem kept_spec (table : KeywordTable) :
    (table.kept.map Prod.fst).Nodup ∧
    (∀ word, word ∈ table.kept.map Prod.fst ↔ word ∈ table.entries.map Prod.fst) ∧
    ∀ word, table.kept.lookup word = table.entries.lookup word := by
  obtain ⟨entries, longest⟩ := table
  rw [kept]
  induction entries using List.reverseRecOn with
  | nil => simp
  | append_singleton entries entry ih =>
      obtain ⟨hnodup, hmem, hlookup⟩ := ih
      simp only [List.foldl_append, List.foldl_cons, List.foldl_nil] at hnodup hmem hlookup ⊢
      refine ⟨nodup_enter _ entry hnodup, ?_, ?_⟩
      · intro word
        rw [mem_enter_iff, List.map_append, List.mem_append, hmem, List.map_append,
          List.mem_append]
      · intro word
        rw [lookup_enter, List.lookup_append, hlookup, List.lookup_append]

theorem size_ofGroups (groups : List (List String × TokenKind)) :
    (ofGroups groups).size = (spellings groups).card := by
  obtain ⟨hnodup, hmem, -⟩ := (ofGroups groups).kept_spec
  have hwords : ((ofGroups groups).kept.map Prod.fst).toFinset = spellings groups := by
    ext word
    rw [List.mem_toFinset, hmem, map_fst_entries_ofGroups, spellings, List.mem_toFinset]
  rw [size, ← hwords, List.toFinset_card_of_nodup hnodup, List.length_map]

/-! ## The order and number of the words of a group -/

theorem SameWords.firstKind?_eq {groups others : List (List String × TokenKind)}
    (hsame : SameWords groups others) (word : String) :
    firstKind? groups word = firstKind? others word := by
  unfold firstKind?
  induction hsame with
  | nil => rfl
  | @cons group other _ _ hgroup hrest ih =>
      obtain ⟨hkind, hwords⟩ := hgroup
      have hcontains : group.1.contains word = other.1.contains word := by
        rw [Bool.eq_iff_iff, List.contains_iff_mem, List.contains_iff_mem, hwords]
      rw [List.find?_cons, List.find?_cons, hcontains]
      split
      · simp [hkind]
      · exact ih

theorem SameWords.spellings_eq {groups others : List (List String × TokenKind)}
    (hsame : SameWords groups others) : spellings groups = spellings others := by
  ext word
  rw [← firstKind?_isSome_iff, hsame.firstKind?_eq, firstKind?_isSome_iff]

/-- A table keeps the first kind of every word.  It finds the kind of the earliest group
with the word, and else an identifier, just as a search in what is kept does that does
not ask for the length.  It has as many words as there are spellings, and its greatest
length is the greatest one among them, zero if there are none.  Only the words of each
group count for this, and neither their order nor how often they are given. -/
theorem keywords_keep_first_kinds (groups : List (List String × TokenKind)) :
    (∀ word, (ofGroups groups).lookup word = (firstKind? groups word).getD .identifier) ∧
    (∀ word, (ofGroups groups).lookup word =
      ((ofGroups groups).kept.lookup word).getD .identifier) ∧
    (ofGroups groups).size = (spellings groups).card ∧
    Longest (spellings groups) (ofGroups groups).maxLength ∧
    ∀ others, SameWords groups others →
      (∀ word, (ofGroups others).lookup word = (ofGroups groups).lookup word) ∧
      (ofGroups others).size = (ofGroups groups).size ∧
      (ofGroups others).maxLength = (ofGroups groups).maxLength := by
  have hlookup : ∀ given word, (ofGroups given).lookup word =
      (firstKind? given word).getD .identifier := by
    intro given word
    rw [lookup_eq_uncapped, lookup_entries_ofGroups]
  refine ⟨hlookup groups, ?_, size_ofGroups groups, longest_ofGroups groups, ?_⟩
  · intro word
    obtain ⟨-, -, hkept⟩ := (ofGroups groups).kept_spec
    rw [lookup_eq_uncapped, hkept]
  · intro others hsame
    refine ⟨?_, ?_, ?_⟩
    · intro word
      rw [hlookup, hlookup, hsame.firstKind?_eq]
    · rw [size_ofGroups, size_ofGroups, hsame.spellings_eq]
    · have hother := longest_ofGroups others
      rw [← hsame.spellings_eq] at hother
      exact hother.unique (longest_ofGroups groups)

/-- A word of both groups is of the first kind, and it is the longest one by its bytes.
Giving it twice, or giving the words in another order, changes nothing. -/
theorem keywords_keep_first_kinds_sample :
    SameWords [(["éé", "add"], .branch), (["éé", "", "r8"], .register)]
        [(["add", "éé", "éé"], .branch), (["r8", "éé", ""], .register)] ∧
      (ofGroups [(["éé", "add"], .branch), (["éé", "", "r8"], .register)]).lookup "éé" = .branch ∧
      (ofGroups [(["add", "éé", "éé"], .branch), (["r8", "éé", ""], .register)]).lookup "éé" =
        .branch ∧
      (ofGroups [(["add", "éé", "éé"], .branch), (["r8", "éé", ""], .register)]).size = 4 ∧
      (ofGroups [(["add", "éé", "éé"], .branch), (["r8", "éé", ""], .register)]).maxLength = 4 := by
  have hsame : SameWords [(["éé", "add"], .branch), (["éé", "", "r8"], .register)]
      [(["add", "éé", "éé"], .branch), (["r8", "éé", ""], .register)] := by
    refine .cons ⟨rfl, ?_⟩ (.cons ⟨rfl, ?_⟩ .nil)
    · intro word
      simp [or_comm]
    · intro word
      simp only [List.mem_cons, List.not_mem_nil, or_false]
      tauto
  obtain ⟨hlookup, -, hsize, hlongest, hothers⟩ :=
    keywords_keep_first_kinds [(["éé", "add"], .branch), (["éé", "", "r8"], .register)]
  obtain ⟨hotherLookup, hotherSize, hotherLength⟩ := hothers _ hsame
  refine ⟨hsame, hlookup "éé", ?_, ?_, ?_⟩
  · rw [hotherLookup, hlookup]
    rfl
  · rw [hotherSize, hsize]
    decide
  · rw [hotherLength]
    exact hlongest.unique ⟨by decide, .inr ⟨"éé", by decide, by decide⟩⟩

end KeywordTable

end AsmListing
