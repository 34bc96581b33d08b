import AsmListing.Token.Cursor

/-!
# Decimal numerals

What reading a numeral gives, for texts that are numerals and for all others.  A
`Numeral` is a text of decimal digits, at least one; leading zeros are allowed, and the
value has no bound.  Reading one with a limit gives its value if that is below the limit
and otherwise fails because the number is too large (`Reads.readNumeral_eq`), and whatever
can be read is a numeral, but for a plus sign before it (`exists_reads_of_readNumeral`).

A number that is written into a text can be found again, because it ends where its
digits end (`Text.ofNat_append_inj`).
-/

namespace AsmListing

/-- A text of decimal digits, at least one. -/
structure Numeral where
  digits : Text
  ne_nil : digits ≠ []
  isDigit_of_mem : ∀ character ∈ digits, character.isDigit = true

namespace Numeral

/-- The number that a numeral denotes. -/
def value (numeral : Numeral) : Nat :=
  Nat.ofDigitChars 10 numeral.digits 0

/-- The numeral that a number is written as. -/
def ofNat (number : Nat) : Numeral where
  digits := Text.ofNat number
  ne_nil := Nat.toDigits_ne_nil
  isDigit_of_mem := fun _ hmem => Nat.isDigit_of_mem_toDigits (by decide) (by decide) hmem

@[simp] theorem value_ofNat (number : Nat) : (ofNat number).value = number :=
  Nat.ofDigitChars_ten_toDigits

theorem exists_head (numeral : Numeral) :
    ∃ first rest, numeral.digits = first :: rest ∧ first.isDigit = true := by
  obtain ⟨first, rest, hdigits⟩ := List.exists_cons_of_ne_nil numeral.ne_nil
  exact ⟨first, rest, hdigits, numeral.isDigit_of_mem first (by simp [hdigits])⟩

end Numeral

namespace Text

theorem digit?_eq_some {character : Char} {digit : Nat} :
    digit? character = some digit ↔
      character.isDigit = true ∧ character.toNat - '0'.toNat = digit := by
  unfold digit?
  split <;> simp [*]

theorem le_ofDigitChars (digits : Text) (value : Nat) :
    value ≤ Nat.ofDigitChars 10 digits value := by
  rw [Nat.ofDigitChars_eq_ofDigitChars_zero]
  calc value
      ≤ 10 ^ digits.length * value := Nat.le_mul_of_pos_left value (Nat.pow_pos (by decide))
    _ ≤ 10 ^ digits.length * value + Nat.ofDigitChars 10 digits 0 := Nat.le_add_right _ _

/-- Reading digits stays below the limit all the way exactly if it does so at the
end, because the value only grows. -/
theorem readDigits_of_isDigit {limit : Nat} {digits : Text} :
    ∀ {value : Nat}, value < limit → (∀ character ∈ digits, character.isDigit = true) →
      readDigits limit value digits =
        if Nat.ofDigitChars 10 digits value < limit then
          .ok (Nat.ofDigitChars 10 digits value)
        else
          .error .tooLarge := by
  induction digits with
  | nil =>
      intro value hvalue hdigits
      rw [Nat.ofDigitChars_nil, if_pos hvalue]
      rfl
  | cons character rest ih =>
      intro value hvalue hdigits
      obtain ⟨hfirst, hrest⟩ := List.forall_mem_cons.mp hdigits
      have hdigit := digit?_eq_some.mpr ⟨hfirst, rfl⟩
      rw [readDigits, hdigit, Nat.ofDigitChars_cons, Nat.mul_comm 10 value]
      simp only
      by_cases hbelow : value * 10 + (character.toNat - '0'.toNat) < limit
      · rw [if_pos hbelow, ih hbelow hrest]
      · have hgrows := le_ofDigitChars rest (value * 10 + (character.toNat - '0'.toNat))
        rw [if_neg hbelow, if_neg (by omega)]

theorem isDigit_of_readDigits {limit : Nat} {text : Text} :
    ∀ {value result : Nat}, readDigits limit value text = .ok result →
      ∀ character ∈ text, character.isDigit = true := by
  induction text with
  | nil => simp
  | cons first rest ih =>
      intro value result hread
      rw [readDigits] at hread
      cases hdigit : digit? first with
      | none => simp [hdigit] at hread
      | some digit =>
          simp only [hdigit] at hread
          split at hread
          · exact List.forall_mem_cons.mpr ⟨(digit?_eq_some.mp hdigit).1, ih hread⟩
          · cases hread

theorem readDigits_eq_ok {limit : Nat} {digits : Text} {value result : Nat}
    (hvalue : value < limit) :
    readDigits limit value digits = .ok result ↔
      (∀ character ∈ digits, character.isDigit = true) ∧
        Nat.ofDigitChars 10 digits value = result ∧ result < limit := by
  constructor
  · intro hread
    have hdigits := isDigit_of_readDigits hread
    rw [readDigits_of_isDigit hvalue hdigits] at hread
    split at hread
    · next hbelow =>
        obtain rfl := Except.ok.inj hread
        exact ⟨hdigits, rfl, hbelow⟩
    · cases hread
  · rintro ⟨hdigits, rfl, hbelow⟩
    rw [readDigits_of_isDigit hvalue hdigits, if_pos hbelow]

theorem readNumeral_eq_readDigits (limit : Nat) {text : Text} (hne : text ≠ [])
    (hplus : text.head? ≠ some '+') : readNumeral limit text = readDigits limit 0 text := by
  unfold readNumeral
  split <;> simp_all

end Text

namespace Numeral

/-- `numeral.Reads text`: the text is the numeral, with a plus sign before it or without. -/
def Reads (numeral : Numeral) (text : Text) : Prop :=
  text = numeral.digits ∨ text = '+' :: numeral.digits

theorem reads_ofNat (number : Nat) : (ofNat number).Reads (Text.ofNat number) :=
  .inl rfl

/-- Reading a numeral gives its value, if that is below the limit. -/
theorem Reads.readNumeral_eq {numeral : Numeral} {text : Text} (hreads : numeral.Reads text)
    {limit : Nat} (hlimit : 0 < limit) :
    Text.readNumeral limit text =
      if numeral.value < limit then .ok numeral.value else .error .tooLarge := by
  obtain ⟨first, rest, hdigits, hfirst⟩ := numeral.exists_head
  rw [value, ← Text.readDigits_of_isDigit hlimit numeral.isDigit_of_mem]
  rcases hreads with rfl | rfl
  · apply Text.readNumeral_eq_readDigits limit numeral.ne_nil
    rw [hdigits]
    rintro hplus
    obtain rfl : first = '+' := Option.some_inj.mp hplus
    exact absurd hfirst (by decide)
  · rw [hdigits]
    rfl

/-- Whatever can be read is a numeral, but for a plus sign before it. -/
theorem exists_reads_of_readNumeral {limit : Nat} (hlimit : 0 < limit) {text : Text} {number : Nat}
    (hread : Text.readNumeral limit text = .ok number) :
    ∃ numeral : Numeral, numeral.Reads text ∧ numeral.value = number ∧ number < limit := by
  have hnumeral : ∀ digits : Text, digits ≠ [] → Text.readDigits limit 0 digits = .ok number →
      ∃ numeral : Numeral, numeral.digits = digits ∧ numeral.value = number ∧ number < limit := by
    intro digits hne hdigits
    obtain ⟨hisDigit, hvalue, hbelow⟩ := (Text.readDigits_eq_ok hlimit).mp hdigits
    exact ⟨⟨digits, hne, hisDigit⟩, rfl, hvalue, hbelow⟩
  unfold Text.readNumeral at hread
  split at hread
  · cases hread
  · cases hread
  · next digits hsign =>
      obtain ⟨numeral, rfl, hvalue, hbelow⟩ := hnumeral digits (by rintro rfl; simp at hsign) hread
      exact ⟨numeral, .inr rfl, hvalue, hbelow⟩
  · next digits hempty hsign hplus =>
      obtain ⟨numeral, rfl, hvalue, hbelow⟩ := hnumeral _ hempty hread
      exact ⟨numeral, .inl rfl, hvalue, hbelow⟩

end Numeral

/-! ## Numbers inside texts -/

namespace Text

theorem notMem_ofNat {character : Char} (hcharacter : character.isDigit = false) (number : Nat) :
    character ∉ ofNat number := by
  intro hmem
  have hdigit := (Numeral.ofNat number).isDigit_of_mem character hmem
  rw [hcharacter] at hdigit
  cases hdigit

theorem ofNat_injective : Function.Injective ofNat := by
  intro first second hsame
  calc first
      = Nat.ofDigitChars 10 (ofNat first) 0 := (Numeral.value_ofNat first).symm
    _ = Nat.ofDigitChars 10 (ofNat second) 0 := by rw [hsame]
    _ = second := Numeral.value_ofNat second

/-- A number ends where its digits end. -/
theorem cutWhile_ofNat_append (number : Nat) {rest : Text}
    (hrest : ∀ character ∈ rest.head?, character.isDigit = false) :
    cutWhile Char.isDigit (ofNat number ++ rest) = (ofNat number, rest) :=
  cutWhile_eq (Numeral.ofNat number).isDigit_of_mem hrest

theorem ofNat_append_inj {first second : Nat} {left right : Text}
    (hleft : ∀ character ∈ left.head?, character.isDigit = false)
    (hright : ∀ character ∈ right.head?, character.isDigit = false)
    (hsame : ofNat first ++ left = ofNat second ++ right) : first = second ∧ left = right := by
  have hparts := congrArg (cutWhile Char.isDigit) hsame
  rw [cutWhile_ofNat_append first hleft, cutWhile_ofNat_append second hright] at hparts
  obtain ⟨hdigits, hrest⟩ := Prod.mk.inj hparts
  exact ⟨ofNat_injective hdigits, hrest⟩

end Text

end AsmListing
