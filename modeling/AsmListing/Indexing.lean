/-!
# Indices

What the library needs to find things by number: the arithmetic of indices that
are machine words, a map from numbers, and the search for a border in a list.
-/

namespace AsmListing

/-!
## Indices as machine words

The records of a listing keep positions, indices and lengths in words of 64
bits.  A listing never comes near the largest word, but records can also be
given from outside, and then a sum may go past it.  Such a sum starts again at
zero.

Where a sum leads to a record that exists it is taken as it is, so nothing that
is said about the records of a listing depends on the size of a word.
-/

/-- The number of words. -/
def wordLimit : Nat := 18446744073709551616

/-- The sum of two words. -/
def addWord (left right : Nat) : Nat :=
  (left + right) % wordLimit

/-- The index that a sum of indices stands for among `count` records. -/
def wordIndex (count sum : Nat) : Nat :=
  if sum < count then sum else sum % wordLimit

theorem addWord_of_lt {left right : Nat} (hsum : left + right < wordLimit) :
    addWord left right = left + right :=
  Nat.mod_eq_of_lt hsum

theorem wordIndex_of_lt {count sum : Nat} (hsum : sum < count) : wordIndex count sum = sum :=
  if_pos hsum

/-!
## Values filed under numbers

A small map from natural numbers.  Filing a value under a number that is taken
replaces what was there.
-/

/-- Values filed under numbers, the latest first. -/
structure Numbered (α : Type) where
  entries : List (Nat × α)
  deriving DecidableEq, Repr

namespace Numbered

variable {α : Type}

/-- Nothing filed. -/
def empty : Numbered α :=
  ⟨[]⟩

/-- Files a value under a number. -/
def insert (map : Numbered α) (number : Nat) (value : α) : Numbered α :=
  ⟨(number, value) :: map.entries.filter (·.1 != number)⟩

/-- The value filed under a number. -/
def get? (map : Numbered α) (number : Nat) : Option α :=
  map.entries.lookup number

/-- How many numbers are taken. -/
def size (map : Numbered α) : Nat :=
  map.entries.length

/-- Whether nothing is filed. -/
def isEmpty (map : Numbered α) : Bool :=
  map.entries.isEmpty

/-- Files values one after the other, so that of two under one number the later
one counts. -/
def ofList (entries : List (Nat × α)) : Numbered α :=
  entries.foldl (fun map (number, value) => map.insert number value) empty

@[simp] theorem get?_empty (number : Nat) : (empty : Numbered α).get? number = none := rfl

theorem get?_insert (map : Numbered α) (number other : Nat) (value : α) :
    (map.insert number value).get? other =
      if other = number then some value else map.get? other := by
  unfold insert get?
  by_cases hother : other = number
  · simp [hother]
  · have hbeq : (other == number) = false := by simpa using hother
    simp only [List.lookup_cons, hbeq, hother, if_false]
    induction map.entries with
    | nil => rfl
    | cons entry rest ih =>
      obtain ⟨key, content⟩ := entry
      by_cases hkey : key = number
      · simp [List.lookup_cons, hkey, hbeq, ih]
      · simp [List.lookup_cons, hkey, ih]

end Numbered

/-!
## Search by bisection

`bisect` looks for the border between the items at the front of a list that pass
a test and the items after them that fail it, halving the part of the list in
which the border lies.  If there is such a border, it is found
(`bisect_eq_length_takeWhile`); otherwise the answer depends on which items the
search happens to look at.
-/

section

variable {α : Type}

/-- Whether there is an item at an index and it passes a test. -/
def passesAt (test : α → Bool) (items : List α) (index : Nat) : Bool :=
  items[index]?.any test

/-- The border among the `size` items from `base` on. -/
def bisectFrom (test : α → Bool) (items : List α) (base size : Nat) : Nat :=
  if size ≤ 1 then
    if passesAt test items base then base + 1 else base
  else
    bisectFrom test items
      (if passesAt test items (base + size / 2) then base + size / 2 else base) (size - size / 2)
termination_by size

/-- The border in a list. -/
def bisect (test : α → Bool) (items : List α) : Nat :=
  bisectFrom test items 0 items.length

/-- The search keeps the border between `base` and `base + size`, so it ends at
the border. -/
theorem bisectFrom_eq {test : α → Bool} {items : List α} {border : Nat}
    (hborder : ∀ index, passesAt test items index = true ↔ index < border) :
    ∀ size base, base ≤ border → border ≤ base + max size 1 →
      bisectFrom test items base size = border := by
  intro size
  induction size using Nat.strongRecOn with
  | ind size ih =>
    intro base hbase hsize
    rw [bisectFrom]
    split
    · split
      · have hlt : base < border := (hborder base).mp (by assumption)
        omega
      · have hge : ¬ base < border := fun hlt => absurd ((hborder base).mpr hlt) (by assumption)
        omega
    · apply ih (size - size / 2) (by omega)
      · split
        · have hlt : base + size / 2 < border := (hborder _).mp (by assumption)
          omega
        · exact hbase
      · split
        · omega
        · have hge : ¬ base + size / 2 < border :=
            fun hlt => absurd ((hborder _).mpr hlt) (by assumption)
          omega

/-- If every item before one that passes the test passes it too, the items that
pass are those before the first that fails. -/
theorem passesAt_iff_lt {test : α → Bool} {items : List α}
    (hfront : items.Pairwise fun earlier later => test later = true → test earlier = true) :
    ∀ index, passesAt test items index = true ↔ index < (items.takeWhile test).length := by
  induction items with
  | nil =>
    intro index
    simp [passesAt]
  | cons item rest ih =>
    obtain ⟨hitem, hrest⟩ := List.pairwise_cons.mp hfront
    intro index
    by_cases htest : test item = true
    · cases index with
      | zero => simp [passesAt, htest]
      | succ index => simpa [passesAt, htest] using ih hrest index
    · cases index with
      | zero => simp [passesAt, htest]
      | succ index =>
        have hnone : ∀ later ∈ rest, test later = false := fun later hmem =>
          Bool.eq_false_iff.mpr fun hlater => htest (hitem later hmem hlater)
        simp only [passesAt, List.getElem?_cons_succ, List.takeWhile_cons, htest]
        cases hget : rest[index]? with
        | none => simp
        | some later => simp [hnone later (List.mem_of_getElem? hget)]

/-- If every item before one that passes the test passes it too, bisection counts
the items that pass it. -/
theorem bisect_eq_length_takeWhile {test : α → Bool} {items : List α}
    (hfront : items.Pairwise fun earlier later => test later = true → test earlier = true) :
    bisect test items = (items.takeWhile test).length := by
  have hle : (items.takeWhile test).length ≤ items.length :=
    (List.takeWhile_prefix test).length_le
  exact bisectFrom_eq (passesAt_iff_lt hfront) _ _ (Nat.zero_le _) (by omega)

/-- If every item before one that passes the test passes it too, the items before the
border are those that pass it. -/
theorem lt_bisect_iff {test : α → Bool} {items : List α}
    (hfront : items.Pairwise fun earlier later => test later = true → test earlier = true)
    {index : Nat} : index < bisect test items ↔ passesAt test items index = true := by
  rw [bisect_eq_length_takeWhile hfront, passesAt_iff_lt hfront]

end

end AsmListing
