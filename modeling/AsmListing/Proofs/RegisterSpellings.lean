import AsmListing.Dialect.Intel
import AsmListing.Proofs.Numerals
import AsmListing.Proofs.RegisterAliases
import AsmListing.Token.Cursor
import Mathlib.Data.List.TakeWhile

/-!
# Which spellings stand for registers

The registers of Intel syntax that have numbers are not looked up: their spellings are
taken apart, and what stands where the number belongs is read as a numeral.  A numeral
may have a plus sign and zeros before it, and so `r+8` and `xmm007` stand for registers
although no list of registers has them.

`Spells` is the grammar of spellings, and `ofSpelling?_eq_some_iff` says that it is what
is read.  `plainSpelling` writes the number of a spelling as it is usually written.  A
spelling stands for a register exactly if its plain form is one of the spellings that are
known (`exists_spells_iff`), and the two stand for the same register
(`Spells.plain`).
-/

namespace AsmListing

/-- The spellings of registers: those that are registers in a listing, and those of the
instruction pointer. -/
def Dialect.Intel.registerSpellings : List Text :=
  (registers ++ ["rip", "eip", "ip"]).map String.toList

namespace PhysicalRegister

open Dialect.Intel (registerSpellings)

/-- The marks for the widths of a numbered general-purpose register. -/
def widthMarks : List Text :=
  [[], ['d'], ['w'], ['b']]

/-- How registers are spelled. -/
inductive Spells : Text → PhysicalRegister → Prop
  | named {name : String} {register : PhysicalRegister} :
      (name, register) ∈ named → Spells name.toList register
  | general {numeral mark : Text} {number : Nat} :
      number? numeral = some number → 8 ≤ number → number ≤ 15 → mark ∈ widthMarks →
      Spells ('r' :: (numeral ++ mark)) (general number)
  | numbered {lead numeral : Text} {numbers : List Nat} {register : Nat → PhysicalRegister}
      {number : Nat} :
      (lead, numbers, register) ∈ numbered → number? numeral = some number → number ∈ numbers →
      Spells (lead ++ numeral) (register number)

/-! ## Numbers of registers -/

theorem number?_of_reads {numeral : Numeral} {text : Text} (hreads : numeral.Reads text)
    (hbelow : numeral.value < 256) : number? text = some numeral.value := by
  rw [number?, hreads.readNumeral_eq (by decide), if_pos hbelow]
  rfl

theorem exists_reads_of_number? {text : Text} {number : Nat}
    (hnumber : number? text = some number) :
    ∃ numeral : Numeral, numeral.Reads text ∧ numeral.value = number ∧ number < 256 := by
  unfold number? at hnumber
  cases hread : Text.readNumeral 256 text with
  | error cause => simp [hread, Except.toOption] at hnumber
  | ok value =>
      obtain rfl : value = number := by simpa [hread, Except.toOption] using hnumber
      exact Numeral.exists_reads_of_readNumeral (by decide) hread

/-! ## What is read -/

theorem afterLead?_eq_some {lead text rest : Text} :
    afterLead? lead text = some rest ↔ text = lead ++ rest := by
  fun_induction afterLead? lead text with
  | case1 text => simp [eq_comm]
  | case2 lead hne => simpa using fun hnil => absurd hnil hne
  | case3 lead character text ih => simp [ih]
  | case4 expected lead character text hne => simp [Ne.symm hne]

theorem lookup_named {name : String} {register : PhysicalRegister}
    (hmem : (name, register) ∈ named) : named.lookup name = some register := by
  have htable : ∀ entry ∈ named, named.lookup entry.1 = some entry.2 := by decide +kernel
  exact htable _ hmem

/-- Names without numbers have no digits. -/
theorem isDigit_of_mem_named {name : String} {register : PhysicalRegister}
    (hmem : (name, register) ∈ named) : ∀ character ∈ name.toList, character.isDigit = false := by
  have htable : ∀ entry ∈ named, ∀ character ∈ entry.1.toList, character.isDigit = false := by
    simp [named]
  exact htable _ hmem

theorem lookup_named_of_digit {spelling : Text} {digit : Char} (hmem : digit ∈ spelling)
    (hdigit : digit.isDigit = true) : named.lookup (String.ofList spelling) = none := by
  rw [List.lookup_eq_none_iff]
  rintro ⟨name, register⟩ hentry
  by_contra hequal
  obtain rfl : String.ofList spelling = name := by simpa using hequal
  have hnone := isDigit_of_mem_named hentry digit (by simpa using hmem)
  rw [hdigit] at hnone
  cases hnone

theorem mem_widthMarks_iff {mark : Text} :
    mark ∈ widthMarks ↔ mark.length ≤ 1 ∧ ∀ character ∈ mark, isWidthMark character := by
  match mark with
  | [] => simp [widthMarks]
  | [character] => simp [widthMarks, isWidthMark, or_assoc]
  | _ :: _ :: _ => simp [widthMarks]

theorem getLast_of_number? {numeral : Text} {number : Nat}
    (hnumber : number? numeral = some number) :
    ∃ last ∈ numeral.getLast?, last.isDigit = true := by
  obtain ⟨digits, hreads, -, -⟩ := exists_reads_of_number? hnumber
  have hlast : numeral.getLast? = digits.digits.getLast? := by
    rcases hreads with rfl | rfl
    · rfl
    · rw [List.getLast?_cons, List.getLast?_eq_some_getLast digits.ne_nil, Option.getD_some]
  refine ⟨digits.digits.getLast digits.ne_nil, ?_, ?_⟩
  · rw [hlast, Option.mem_def, List.getLast?_eq_some_getLast digits.ne_nil]
  · exact digits.isDigit_of_mem _ (List.getLast_mem _)

theorem ofGeneral?_eq_some {spelling : Text} {register : PhysicalRegister} :
    ofGeneral? spelling = some register ↔ ∃ numeral mark number,
      spelling = 'r' :: (numeral ++ mark) ∧ number? numeral = some number ∧
        8 ≤ number ∧ number ≤ 15 ∧ mark ∈ widthMarks ∧ register = .general number := by
  constructor
  · intro hread
    unfold ofGeneral? at hread
    split at hread
    · next rest =>
        obtain ⟨mark, hrest, hmark⟩ := Text.exists_trimEnd_append isWidthMark rest
        simp only at hread
        split_ifs at hread with hshort
        cases hnumber : number? (Text.trimEnd isWidthMark rest) with
        | none => simp [hnumber] at hread
        | some number =>
            have hlength := congrArg List.length hrest
            rw [List.length_append] at hlength
            simp only [hnumber] at hread
            split_ifs at hread with hbetween
            obtain rfl := Option.some_inj.mp hread
            refine ⟨_, mark, number, congrArg _ hrest, hnumber, hbetween.1, hbetween.2, ?_, rfl⟩
            exact mem_widthMarks_iff.mpr ⟨by omega, hmark⟩
    · cases hread
  · rintro ⟨numeral, mark, number, rfl, hnumber, hlow, hhigh, hmark, rfl⟩
    obtain ⟨hlength, hmark⟩ := mem_widthMarks_iff.mp hmark
    have htrim : Text.trimEnd isWidthMark (numeral ++ mark) = numeral := by
      apply Text.trimEnd_append _ hmark
      intro last hlast
      obtain ⟨digit, hdigit, hisDigit⟩ := getLast_of_number? hnumber
      obtain rfl : digit = last := Option.some_inj.mp (hdigit.symm.trans hlast)
      by_contra hwidth
      rw [Bool.not_eq_false, isWidthMark] at hwidth
      simp only [Bool.or_eq_true, beq_iff_eq] at hwidth
      rcases hwidth with (rfl | rfl) | rfl <;> simp at hisDigit
    have hshort : (numeral ++ mark).length - numeral.length ≤ 1 := by
      rw [List.length_append]
      omega
    simp only [ofGeneral?, htrim, if_pos hshort, hnumber, if_pos (And.intro hlow hhigh)]

/-- No class of numbered registers has a lead that another one could be read with. -/
theorem ofNumbered?_eq_some {spelling : Text} {register : PhysicalRegister} :
    ofNumbered? spelling = some register ↔ ∃ lead numeral numbers kind number,
      (lead, numbers, kind) ∈ numbered ∧ number? numeral = some number ∧ number ∈ numbers ∧
        spelling = lead ++ numeral ∧ register = kind number := by
  constructor
  · intro hread
    obtain ⟨⟨lead, numbers, kind⟩, hentry, hread⟩ := List.exists_of_findSome?_eq_some hread
    obtain ⟨numeral, hlead, hread⟩ := Option.bind_eq_some_iff.mp hread
    obtain ⟨number, hnumber, hread⟩ := Option.bind_eq_some_iff.mp hread
    split_ifs at hread with hmem
    exact ⟨lead, numeral, numbers, kind, number, hentry, hnumber, by simpa using hmem,
      afterLead?_eq_some.mp hlead, (Option.some_inj.mp hread).symm⟩
  · rintro ⟨lead, numeral, numbers, kind, number, hentry, hnumber, hmem, rfl, rfl⟩
    simp only [numbered, List.mem_cons, Prod.mk.injEq, List.not_mem_nil, or_false] at hentry
    rcases hentry with ⟨rfl, rfl, rfl⟩ | ⟨rfl, rfl, rfl⟩ | ⟨rfl, rfl, rfl⟩ | ⟨rfl, rfl, rfl⟩ |
      ⟨rfl, rfl, rfl⟩ | ⟨rfl, rfl, rfl⟩
    all_goals simp_all [ofNumbered?, numbered, afterLead?]

/-- The grammar of spellings is what is read. -/
theorem ofSpelling?_eq_some_iff {spelling : Text} {register : PhysicalRegister} :
    ofSpelling? spelling = some register ↔ Spells spelling register := by
  constructor
  · intro hread
    rw [ofSpelling?, Option.or_eq_some_iff, Option.or_eq_some_iff] at hread
    rcases hread with hnamed | ⟨-, hgeneral | ⟨-, hnumbered⟩⟩
    · have hspelling : spelling = (String.ofList spelling).toList := String.toList_ofList.symm
      obtain ⟨before, after, htable, -⟩ := List.lookup_eq_some_iff.mp hnamed
      rw [hspelling]
      exact .named (by simp [htable])
    · obtain ⟨numeral, mark, number, rfl, hnumber, hlow, hhigh, hmark, rfl⟩ :=
        ofGeneral?_eq_some.mp hgeneral
      exact .general hnumber hlow hhigh hmark
    · obtain ⟨lead, numeral, numbers, kind, number, hentry, hnumber, hmem, rfl, rfl⟩ :=
        ofNumbered?_eq_some.mp hnumbered
      exact .numbered hentry hnumber hmem
  · intro hspells
    cases hspells with
    | named hentry => rw [ofSpelling?, String.ofList_toList, lookup_named hentry, Option.some_or]
    | @general numeral mark number hnumber hlow hhigh hmark =>
        obtain ⟨digit, hdigit, hisDigit⟩ := getLast_of_number? hnumber
        have hmem : digit ∈ 'r' :: (numeral ++ mark) := by
          simp [List.mem_of_getLast? hdigit]
        rw [ofSpelling?, lookup_named_of_digit hmem hisDigit, Option.none_or,
          ofGeneral?_eq_some.mpr ⟨numeral, mark, number, rfl, hnumber, hlow, hhigh, hmark, rfl⟩,
          Option.some_or]
    | @numbered lead numeral numbers kind number hentry hnumber hmem =>
        obtain ⟨digit, hdigit, hisDigit⟩ := getLast_of_number? hnumber
        have hin : digit ∈ lead ++ numeral := by
          simp [List.mem_of_getLast? hdigit]
        have hgeneral : ofGeneral? (lead ++ numeral) = none := by
          have hleads : ∀ entry ∈ numbered, entry.1 ≠ [] ∧ entry.1.head? ≠ some 'r' := by decide
          obtain ⟨hne, hother⟩ := hleads _ hentry
          obtain ⟨first, rest, rfl⟩ := List.exists_cons_of_ne_nil hne
          have hfirst : first ≠ 'r' := by simpa using hother
          simp [ofGeneral?, hfirst]
        rw [ofSpelling?, lookup_named_of_digit hin hisDigit, Option.none_or, hgeneral,
          Option.none_or]
        exact ofNumbered?_eq_some.mpr
          ⟨lead, numeral, numbers, kind, number, hentry, hnumber, hmem, rfl, rfl⟩

/-! ## Numbers written plainly -/

/-- Whether a character is neither a digit nor the sign of a number. -/
def isLeadChar (character : Char) : Bool :=
  !(character.isDigit || character == '+')

/-- A number without its plus sign. -/
def unsigned : Text → Text
  | '+' :: number => number
  | number => number

theorem eq_unsigned_or (number : Text) :
    number = unsigned number ∨ number = '+' :: unsigned number := by
  unfold unsigned
  split
  · exact .inr rfl
  · exact .inl rfl

/-- A spelling with its number written without a plus sign and without needless zeros.
What has no number stays as it is. -/
def plainSpelling (spelling : Text) : Text :=
  let (lead, number) := cutWhile isLeadChar spelling
  let (digits, mark) := cutWhile Char.isDigit (unsigned number)
  if digits = [] then
    spelling
  else
    lead ++ (Text.ofNat (Nat.ofDigitChars 10 digits 0) ++ mark)

example : plainSpelling "r+08d".toList = "r8d".toList ∧
    plainSpelling "cr000".toList = "cr0".toList ∧ plainSpelling "st+".toList = "st+".toList := by
  decide +kernel

/-- `Parted spelling lead numeral mark`: the spelling is a numeral, with a plus sign or
without, between a lead and a mark. -/
structure Parted (spelling lead : Text) (numeral : Numeral) (mark : Text) : Prop where
  exists_signed : ∃ signed, numeral.Reads signed ∧ spelling = lead ++ (signed ++ mark)
  isLeadChar_of_mem : ∀ character ∈ lead, isLeadChar character = true
  isDigit_of_head : ∀ character ∈ mark.head?, character.isDigit = false

theorem cutWhile_isDigit {numeral : Numeral} {signed mark : Text} (hreads : numeral.Reads signed)
    (hmark : ∀ character ∈ mark.head?, character.isDigit = false) :
    cutWhile Char.isDigit (unsigned (signed ++ mark)) = (numeral.digits, mark) := by
  have hunsigned : unsigned (signed ++ mark) = numeral.digits ++ mark := by
    rcases hreads with rfl | rfl
    · obtain ⟨first, rest, hdigits, hfirst⟩ := numeral.exists_head
      rw [hdigits]
      unfold unsigned
      split
      · next heq =>
          obtain ⟨rfl, -⟩ := List.cons.inj heq
          exact absurd hfirst (by decide)
      · rfl
    · rfl
  rw [hunsigned]
  exact cutWhile_eq numeral.isDigit_of_mem hmark

namespace Parted

variable {spelling lead mark : Text} {numeral : Numeral}

/-- The cuts that `plainSpelling` makes find the parts. -/
theorem cuts (hparted : Parted spelling lead numeral mark) :
    (cutWhile isLeadChar spelling).1 = lead ∧
      cutWhile Char.isDigit (unsigned (cutWhile isLeadChar spelling).2) =
        (numeral.digits, mark) := by
  obtain ⟨⟨signed, hreads, rfl⟩, hlead, hmark⟩ := hparted
  have hhead : ∀ character ∈ (signed ++ mark).head?, isLeadChar character = false := by
    obtain ⟨first, rest, hdigits, hfirst⟩ := numeral.exists_head
    intro character hcharacter
    rcases hreads with rfl | rfl
    · rw [hdigits] at hcharacter
      obtain rfl : first = character := Option.some_inj.mp hcharacter
      simp [isLeadChar, hfirst]
    · obtain rfl : '+' = character := Option.some_inj.mp hcharacter
      decide
  rw [cutWhile_eq hlead hhead]
  exact ⟨rfl, cutWhile_isDigit hreads hmark⟩

theorem exists_digit (hparted : Parted spelling lead numeral mark) :
    ∃ digit ∈ spelling, digit.isDigit = true := by
  obtain ⟨⟨signed, hreads, rfl⟩, -, -⟩ := hparted
  obtain ⟨first, rest, hdigits, hfirst⟩ := numeral.exists_head
  refine ⟨first, ?_, hfirst⟩
  rcases hreads with rfl | rfl <;> simp [hdigits]

theorem plainSpelling_eq (hparted : Parted spelling lead numeral mark) :
    plainSpelling spelling = lead ++ (Text.ofNat numeral.value ++ mark) := by
  obtain ⟨hlead, hdigits⟩ := hparted.cuts
  simp only [plainSpelling, hdigits, if_neg numeral.ne_nil, hlead]
  rfl

theorem unique {other otherMark : Text} {otherNumeral : Numeral}
    (hparted : Parted spelling lead numeral mark)
    (hother : Parted spelling other otherNumeral otherMark) :
    lead = other ∧ numeral.value = otherNumeral.value ∧ mark = otherMark := by
  obtain ⟨hlead, hdigits⟩ := hparted.cuts
  obtain ⟨hlead', hdigits'⟩ := hother.cuts
  obtain ⟨hsame, hmark⟩ := Prod.mk.inj (hdigits.symm.trans hdigits')
  exact ⟨hlead.symm.trans hlead', congrArg (Nat.ofDigitChars 10 · 0) hsame, hmark⟩

/-- The plain form has the same parts, with the number written plainly. -/
theorem plain (hparted : Parted spelling lead numeral mark) :
    Parted (PhysicalRegister.plainSpelling spelling) lead (.ofNat numeral.value) mark :=
  ⟨⟨_, .inl rfl, hparted.plainSpelling_eq⟩, hparted.isLeadChar_of_mem, hparted.isDigit_of_head⟩

end Parted

/-- A spelling is plain already, or it has the parts of which one is a number. -/
theorem plainSpelling_eq_self_or_parted (spelling : Text) :
    plainSpelling spelling = spelling ∨
      ∃ lead numeral mark, Parted spelling lead numeral mark := by
  obtain ⟨lead, number, hwhole⟩ : ∃ lead number, cutWhile isLeadChar spelling = (lead, number) :=
    ⟨_, _, rfl⟩
  obtain ⟨digits, mark, hparts⟩ :
      ∃ digits mark, cutWhile Char.isDigit (unsigned number) = (digits, mark) := ⟨_, _, rfl⟩
  by_cases hnone : digits = []
  · exact .inl (by simp only [plainSpelling, hwhole, hparts, if_pos hnone])
  · right
    have hspelling := cutWhile_append isLeadChar spelling
    have hnumber := cutWhile_append Char.isDigit (unsigned number)
    have hlead : ∀ character ∈ (cutWhile isLeadChar spelling).1, isLeadChar character = true :=
      fun _ hmem => List.mem_takeWhile_imp hmem
    have hdigits : ∀ character ∈ (cutWhile Char.isDigit (unsigned number)).1,
        character.isDigit = true := fun _ hmem => List.mem_takeWhile_imp hmem
    have hmark := continues_head?_cutWhile Char.isDigit (unsigned number)
    rw [hwhole] at hspelling hlead
    rw [hparts] at hnumber hdigits hmark
    refine ⟨lead, ⟨digits, hnone, hdigits⟩, mark, ⟨?_, hlead, hmark⟩⟩
    rw [← hspelling]
    rcases eq_unsigned_or number with hplain | hsigned
    · exact ⟨digits, .inl rfl, by rw [hnumber, ← hplain]⟩
    · exact ⟨'+' :: digits, .inr rfl, by rw [List.cons_append, hnumber, ← hsigned]⟩

theorem plainSpelling_eq_self {spelling : Text}
    (hnone : ∀ character ∈ spelling, character.isDigit = false) :
    plainSpelling spelling = spelling := by
  rcases plainSpelling_eq_self_or_parted spelling with hself | ⟨lead, numeral, mark, hparted⟩
  · exact hself
  · obtain ⟨digit, hdigit, hisDigit⟩ := hparted.exists_digit
    rw [hnone digit hdigit] at hisDigit
    cases hisDigit

/-! ## The spellings that are known -/

/-- The spellings of the grammar whose numbers are written plainly. -/
def plainSpellings : List Text :=
  named.map (·.1.toList) ++
    ((List.range' 8 8).flatMap fun number =>
      widthMarks.map fun mark => 'r' :: (Text.ofNat number ++ mark)) ++
    numbered.flatMap fun (lead, numbers, _) => numbers.map (lead ++ Text.ofNat ·)

/-- The lists of registers have these spellings, and each one of them once. -/
theorem perm_registerSpellings : registerSpellings.Perm plainSpellings := by
  -- the texts of the lists are spelled out first, because comparing strings is slow
  simp only [registerSpellings, Dialect.Intel.registers, plainSpellings, named, List.map,
    List.cons_append, List.nil_append, String.reduceToList]
  decide +kernel

theorem mem_registerSpellings_iff {spelling : Text} :
    spelling ∈ registerSpellings ↔
      (∃ name register, (name, register) ∈ named ∧ spelling = name.toList) ∨
      (∃ number mark, 8 ≤ number ∧ number ≤ 15 ∧ mark ∈ widthMarks ∧
        spelling = 'r' :: (Text.ofNat number ++ mark)) ∨
      ∃ lead numbers kind number, (lead, numbers, kind) ∈ numbered ∧ number ∈ numbers ∧
        spelling = lead ++ Text.ofNat number := by
  rw [perm_registerSpellings.mem_iff, plainSpellings, List.mem_append, List.mem_append, or_assoc]
  refine or_congr ?_ (or_congr ?_ ?_)
  · simp [eq_comm]
  · simp only [List.mem_flatMap, List.mem_map, List.mem_range'_1]
    constructor
    · rintro ⟨number, ⟨hlow, hhigh⟩, mark, hmark, rfl⟩
      exact ⟨number, mark, hlow, by omega, hmark, rfl⟩
    · rintro ⟨number, mark, hlow, hhigh, hmark, rfl⟩
      exact ⟨number, ⟨hlow, by omega⟩, mark, hmark, rfl⟩
  · simp [eq_comm]

theorem number?_ofNat {number : Nat} (hbelow : number < 256) :
    number? (Text.ofNat number) = some number := by
  simpa using number?_of_reads (Numeral.reads_ofNat number) (by simpa using hbelow)

theorem lt_of_mem_numbered {lead : Text} {numbers : List Nat} {kind : Nat → PhysicalRegister}
    (hentry : (lead, numbers, kind) ∈ numbered) {number : Nat} (hmem : number ∈ numbers) :
    number < 256 := by
  have htable : ∀ entry ∈ numbered, ∀ number ∈ entry.2.1, number < 256 := by decide
  exact htable _ hentry number hmem

theorem exists_spells_of_mem {spelling : Text} (hmem : spelling ∈ registerSpellings) :
    ∃ register, Spells spelling register := by
  rcases mem_registerSpellings_iff.mp hmem with ⟨name, register, hentry, rfl⟩ |
    ⟨number, mark, hlow, hhigh, hmark, rfl⟩ | ⟨lead, numbers, kind, number, hentry, hnumber, rfl⟩
  · exact ⟨register, .named hentry⟩
  · exact ⟨_, .general (number?_ofNat (by omega)) hlow hhigh hmark⟩
  · exact ⟨_, .numbered hentry (number?_ofNat (lt_of_mem_numbered hentry hnumber)) hnumber⟩

theorem parted_general {text mark : Text} {numeral : Numeral} (hreads : numeral.Reads text)
    (hmark : mark ∈ widthMarks) : Parted ('r' :: (text ++ mark)) ['r'] numeral mark := by
  have hdigit : ∀ character ∈ mark.head?, character.isDigit = false := by
    simp only [widthMarks, List.mem_cons, List.not_mem_nil, or_false] at hmark
    rcases hmark with rfl | rfl | rfl | rfl <;> rintro _ ⟨⟩ <;> rfl
  have hlead : ∀ character ∈ ['r'], isLeadChar character = true :=
    List.all_eq_true.mp (by decide)
  exact ⟨⟨text, hreads, rfl⟩, hlead, hdigit⟩

theorem parted_numbered {lead text : Text} {numbers : List Nat} {kind : Nat → PhysicalRegister}
    {numeral : Numeral} (hentry : (lead, numbers, kind) ∈ numbered)
    (hreads : numeral.Reads text) : Parted (lead ++ text) lead numeral [] := by
  have hleads : ∀ entry ∈ numbered, entry.1.all isLeadChar = true := by decide
  have hlead := List.all_eq_true.mp (hleads _ hentry)
  exact ⟨⟨text, hreads, by rw [List.append_nil]⟩, hlead, by simp⟩

/-- The plain form of a spelling is known, and stands for the same register. -/
theorem Spells.plain {spelling : Text} {register : PhysicalRegister}
    (hspells : Spells spelling register) :
    plainSpelling spelling ∈ registerSpellings ∧ Spells (plainSpelling spelling) register := by
  cases hspells with
  | named hentry =>
      rw [plainSpelling_eq_self (isDigit_of_mem_named hentry), mem_registerSpellings_iff]
      exact ⟨.inl ⟨_, _, hentry, rfl⟩, .named hentry⟩
  | @general text mark number hnumber hlow hhigh hmark =>
      obtain ⟨numeral, hreads, rfl, hbelow⟩ := exists_reads_of_number? hnumber
      rw [(parted_general hreads hmark).plainSpelling_eq, List.singleton_append,
        mem_registerSpellings_iff]
      exact ⟨.inr (.inl ⟨_, _, hlow, hhigh, hmark, rfl⟩),
        .general (number?_ofNat hbelow) hlow hhigh hmark⟩
  | @numbered lead text numbers kind number hentry hnumber hmem =>
      obtain ⟨numeral, hreads, rfl, hbelow⟩ := exists_reads_of_number? hnumber
      rw [(parted_numbered hentry hreads).plainSpelling_eq, List.append_nil,
        mem_registerSpellings_iff]
      exact ⟨.inr (.inr ⟨_, _, _, _, hentry, hmem, rfl⟩),
        .numbered hentry (number?_ofNat hbelow) hmem⟩

/-- A spelling stands for a register exactly if its plain form is known.  Two spellings of
the same parts differ in how their numbers are written at most. -/
theorem exists_spells_iff {spelling : Text} :
    (∃ register, Spells spelling register) ↔ plainSpelling spelling ∈ registerSpellings := by
  constructor
  · rintro ⟨register, hspells⟩
    exact hspells.plain.1
  · intro hmem
    rcases plainSpelling_eq_self_or_parted spelling with hself | ⟨lead, numeral, mark, hparted⟩
    · rw [hself] at hmem
      exact exists_spells_of_mem hmem
    · have hplain := hparted.plain
      obtain ⟨⟨signed, hreads, rfl⟩, -, -⟩ := hparted
      rcases mem_registerSpellings_iff.mp hmem with ⟨name, register, hentry, hequal⟩ |
        ⟨number, mark', hlow, hhigh, hmark, hequal⟩ |
        ⟨lead', numbers, kind, number, hentry, hnumber, hequal⟩
      · obtain ⟨digit, hdigit, hisDigit⟩ := hplain.exists_digit
        rw [isDigit_of_mem_named hentry digit (hequal ▸ hdigit)] at hisDigit
        cases hisDigit
      · rw [hequal] at hplain
        obtain ⟨rfl, hvalue, rfl⟩ :=
          hplain.unique (parted_general (Numeral.reads_ofNat number) hmark)
        simp only [Numeral.value_ofNat] at hvalue
        rw [List.singleton_append]
        exact ⟨_, .general (number?_of_reads hreads (by omega)) (by omega) (by omega) hmark⟩
      · rw [hequal] at hplain
        obtain ⟨rfl, hvalue, rfl⟩ :=
          hplain.unique (parted_numbered hentry (Numeral.reads_ofNat number))
        simp only [Numeral.value_ofNat] at hvalue
        rw [List.append_nil]
        have hbelow := lt_of_mem_numbered hentry hnumber
        exact ⟨_, .numbered hentry (number?_of_reads hreads (by omega)) (by rwa [hvalue])⟩

/-- A spelling that is known is plain. -/
theorem plainSpelling_of_mem {spelling : Text} (hmem : spelling ∈ registerSpellings) :
    plainSpelling spelling = spelling := by
  rcases mem_registerSpellings_iff.mp hmem with ⟨name, register, hentry, rfl⟩ |
    ⟨number, mark, hlow, hhigh, hmark, rfl⟩ | ⟨lead, numbers, kind, number, hentry, hnumber, rfl⟩
  · exact plainSpelling_eq_self (isDigit_of_mem_named hentry)
  · simpa using (parted_general (Numeral.reads_ofNat number) hmark).plainSpelling_eq
  · simpa using (parted_numbered hentry (Numeral.reads_ofNat number)).plainSpelling_eq

end PhysicalRegister

open Dialect.Intel (registerSpellings)

open PhysicalRegister (plainSpelling)

/-- In Intel syntax a name is equal to itself exactly if its plain form is a spelling that
is known.  Names that are equal have known plain forms, which are equal too, and they are
known themselves exactly as far as they are plain: their numbers have neither a plus sign
nor needless zeros. -/
theorem equal_registers_have_plain_forms (left right : Text) :
    (Dialect.intel.registerEqual left left ↔ plainSpelling left ∈ registerSpellings) ∧
    (Dialect.intel.registerEqual left right →
      plainSpelling left ∈ registerSpellings ∧ plainSpelling right ∈ registerSpellings ∧
      Dialect.intel.registerEqual (plainSpelling left) (plainSpelling right) ∧
      (left ∈ registerSpellings ↔ plainSpelling left = left) ∧
      (right ∈ registerSpellings ↔ plainSpelling right = right)) := by
  have hknown : ∀ {name register}, PhysicalRegister.Spells name register →
      (name ∈ registerSpellings ↔ plainSpelling name = name) := by
    intro name register hspells
    constructor
    · exact PhysicalRegister.plainSpelling_of_mem
    · intro hplain
      rw [← hplain]
      exact hspells.plain.1
  simp only [Dialect.registerEqual_intel_iff, PhysicalRegister.ofSpelling?_eq_some_iff]
  constructor
  · rw [← PhysicalRegister.exists_spells_iff]
    simp only [and_self]
  · rintro ⟨register, hleft, hright⟩
    exact ⟨hleft.plain.1, hright.plain.1, ⟨register, hleft.plain.2, hright.plain.2⟩,
      hknown hleft, hknown hright⟩

set_option maxRecDepth 10000 in
/-- Two widths of one register, the number of one of them with a sign and a zero. -/
theorem equal_registers_have_plain_forms_sample :
    Dialect.intel.registerEqual "r+08d".toList "r8b".toList ∧
    plainSpelling "r+08d".toList = "r8d".toList ∧
    "r8d".toList ∈ registerSpellings ∧ "r8b".toList ∈ registerSpellings ∧
    Dialect.intel.registerEqual "r8d".toList "r8b".toList ∧
    "r+08d".toList ∉ registerSpellings := by
  have hequal : Dialect.intel.registerEqual "r+08d".toList "r8b".toList := by decide +kernel
  have hplain : plainSpelling "r+08d".toList = "r8d".toList ∧
      plainSpelling "r8b".toList = "r8b".toList := by
    decide +kernel
  obtain ⟨hleft, hright⟩ := hplain
  obtain ⟨-, hforms⟩ := equal_registers_have_plain_forms "r+08d".toList "r8b".toList
  obtain ⟨hfirst, hsecond, hsame, hknown, -⟩ := hforms hequal
  rw [hleft] at hfirst hsame hknown
  rw [hright] at hsecond hsame
  exact ⟨hequal, hleft, hfirst, hsecond, hsame, hknown.not.mpr (by decide)⟩

set_option maxRecDepth 10000 in
/-- Names that no list of registers has, and that are nevertheless equal to themselves and
to registers. -/
theorem unknown_registers_are_equal :
    Dialect.intel.registerEqual "r+8".toList "r+8".toList ∧
    Dialect.intel.registerEqual "xmm007".toList "xmm7".toList ∧
    "r+8".toList ∉ registerSpellings ∧ "xmm007".toList ∉ registerSpellings := by
  have hequal : Dialect.intel.registerEqual "r+8".toList "r+8".toList ∧
      Dialect.intel.registerEqual "xmm007".toList "xmm7".toList := by
    decide +kernel
  have hplain : plainSpelling "r+8".toList ≠ "r+8".toList ∧
      plainSpelling "xmm007".toList ≠ "xmm007".toList := by
    decide +kernel
  exact ⟨hequal.1, hequal.2, fun hmem => hplain.1 (PhysicalRegister.plainSpelling_of_mem hmem),
    fun hmem => hplain.2 (PhysicalRegister.plainSpelling_of_mem hmem)⟩

end AsmListing
