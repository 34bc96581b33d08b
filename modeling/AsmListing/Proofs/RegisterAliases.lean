import AsmListing.Register
import Mathlib.Data.List.Induction
import Mathlib.Data.List.Nodup
import Mathlib.Data.Quot

/-!
# One register under several names

Names stand for the same register if they are equal or the dialect takes them for
one.  The second half alone is symmetric and transitive, but in Intel syntax a name
that stands for no register is not even equal to itself; the first half mends this,
so that together they make an equivalence (`Dialect.sameRegister_equivalence`).

`dedupRegisters` looks at the names that it has kept and at no others.  What it keeps
is described by one equation (`filter_dedupRegisters`): of the names of any register
it keeps the first one of the list.  A name that was passed over is not compared any
more, and transitivity says that this loses nothing.
-/

namespace AsmListing

/-! ## Names of the same register -/

namespace Dialect

theorem registerEqual_intel_iff {left right : Text} :
    Dialect.intel.registerEqual left right ↔ ∃ register,
      PhysicalRegister.ofSpelling? left = some register ∧
        PhysicalRegister.ofSpelling? right = some register := by
  simp only [registerEqual]
  cases PhysicalRegister.ofSpelling? left with
  | none => simp
  | some first =>
      cases PhysicalRegister.ofSpelling? right with
      | none => simp
      | some second =>
          rw [beq_iff_eq]
          constructor
          · rintro rfl
            exact ⟨first, rfl, rfl⟩
          · rintro ⟨register, hfirst, hsecond⟩
            exact Option.some_inj.mp (hfirst.trans hsecond.symm)

theorem registerEqual_iff_of_ne {dialect : Dialect} (hother : dialect ≠ .intel)
    {left right : Text} : dialect.registerEqual left right ↔ left = right := by
  cases dialect with
  | intel => contradiction
  | arm64 => exact beq_iff_eq
  | wasm => exact beq_iff_eq
  | llvmIr => exact beq_iff_eq

theorem registerEqual_symm {dialect : Dialect} {left right : Text}
    (hequal : dialect.registerEqual left right) : dialect.registerEqual right left := by
  by_cases hintel : dialect = .intel
  · subst hintel
    obtain ⟨register, hleft, hright⟩ := registerEqual_intel_iff.mp hequal
    exact registerEqual_intel_iff.mpr ⟨register, hright, hleft⟩
  · rw [registerEqual_iff_of_ne hintel] at hequal ⊢
    exact hequal.symm

theorem registerEqual_trans {dialect : Dialect} {first second third : Text}
    (hfirst : dialect.registerEqual first second) (hsecond : dialect.registerEqual second third) :
    dialect.registerEqual first third := by
  by_cases hintel : dialect = .intel
  · subst hintel
    obtain ⟨register, hstart, hmiddle⟩ := registerEqual_intel_iff.mp hfirst
    obtain ⟨other, hagain, hend⟩ := registerEqual_intel_iff.mp hsecond
    obtain rfl : register = other := Option.some_inj.mp (hmiddle.symm.trans hagain)
    exact registerEqual_intel_iff.mpr ⟨register, hstart, hend⟩
  · rw [registerEqual_iff_of_ne hintel] at hfirst hsecond ⊢
    exact hfirst.trans hsecond

theorem sameRegister_iff {dialect : Dialect} {left right : Text} :
    dialect.sameRegister left right ↔ left = right ∨ dialect.registerEqual left right := by
  rw [sameRegister, Bool.or_eq_true, beq_iff_eq]

theorem sameRegister_equivalence (dialect : Dialect) :
    Equivalence fun left right => dialect.sameRegister left right = true where
  refl name := sameRegister_iff.mpr (.inl rfl)
  symm := by
    intro left right hsame
    rw [sameRegister_iff] at hsame ⊢
    exact hsame.imp Eq.symm registerEqual_symm
  trans := by
    intro first second third hfirst hsecond
    rw [sameRegister_iff] at hfirst hsecond ⊢
    rcases hfirst with rfl | hfirst
    · exact hsecond
    · rcases hsecond with rfl | hsecond
      · exact .inr hfirst
      · exact .inr (registerEqual_trans hfirst hsecond)

theorem sameRegister_congr (dialect : Dialect) {left right : Text}
    (hsame : dialect.sameRegister left right) :
    (dialect.sameRegister · left) = (dialect.sameRegister · right) := by
  have hequivalence := dialect.sameRegister_equivalence
  funext name
  rw [Bool.eq_iff_iff]
  constructor
  · intro hleft
    exact hequivalence.trans hleft hsame
  · intro hright
    exact hequivalence.trans hright (hequivalence.symm hsame)

/-- Names up to the register that they stand for. -/
def registerSetoid (dialect : Dialect) : Setoid Text :=
  ⟨fun left right => dialect.sameRegister left right = true, dialect.sameRegister_equivalence⟩

end Dialect

/-! ## What is kept -/

section Dedup

variable (dialect : Dialect)

/-- One more name is kept unless it stands for a register that is kept already. -/
theorem dedupRegisters_concat (names : List Text) (name : Text) :
    dedupRegisters dialect (names ++ [name]) =
      if (dedupRegisters dialect names).any (dialect.sameRegister · name) then
        dedupRegisters dialect names
      else
        dedupRegisters dialect names ++ [name] := by
  unfold dedupRegisters
  rw [List.foldl_append]
  rfl

theorem sublist_dedupRegisters (names : List Text) :
    (dedupRegisters dialect names).Sublist names := by
  induction names using List.reverseRecOn with
  | nil => exact .slnil
  | append_singleton names name ih =>
      rw [dedupRegisters_concat]
      split
      · exact ih.trans (List.sublist_append_left names [name])
      · exact ih.append (.refl [name])

theorem pairwise_dedupRegisters (names : List Text) :
    (dedupRegisters dialect names).Pairwise fun left right =>
      ¬ dialect.sameRegister left right := by
  induction names using List.reverseRecOn with
  | nil => exact .nil
  | append_singleton names name ih =>
      rw [dedupRegisters_concat]
      split
      · exact ih
      · next hnew =>
          rw [List.pairwise_append]
          refine ⟨ih, List.pairwise_singleton _ _, ?_⟩
          intro kept hkept last hlast hsame
          obtain rfl := List.mem_singleton.mp hlast
          exact hnew (List.any_eq_true.mpr ⟨kept, hkept, hsame⟩)

theorem any_eq_true_iff_filter_ne_nil (names : List Text) (name : Text) :
    names.any (dialect.sameRegister · name) ↔ names.filter (dialect.sameRegister · name) ≠ [] := by
  simp [List.filter_eq_nil_iff]

/-- Of the names of a register the first one is kept, and no other.  The induction adds
names at the end, as the loop does. -/
theorem filter_dedupRegisters (names : List Text) (name : Text) :
    (dedupRegisters dialect names).filter (dialect.sameRegister · name) =
      (names.find? (dialect.sameRegister · name)).toList := by
  induction names using List.reverseRecOn with
  | nil => rfl
  | append_singleton names last ih =>
      rw [dedupRegisters_concat, List.find?_append, List.find?_singleton]
      by_cases hlast : dialect.sameRegister last name
      · -- whether the last name is kept depends on what was found before it
        have hseen := any_eq_true_iff_filter_ne_nil dialect (dedupRegisters dialect names) name
        rw [ih] at hseen
        rw [dialect.sameRegister_congr hlast]
        cases hfind : names.find? (dialect.sameRegister · name) with
        | some first =>
            rw [if_pos (hseen.mpr (by simp [hfind])), ih, hfind]
            rfl
        | none =>
            rw [if_neg (hseen.not.mpr (by simp [hfind])), List.filter_append, ih, hfind]
            simp [hlast]
      · have hsame : ∀ kept, (kept ++ [last]).filter (dialect.sameRegister · name) =
            kept.filter (dialect.sameRegister · name) := by
          intro kept
          simp [List.filter_append, hlast]
        rw [if_neg hlast, Option.or_none, ← ih]
        split
        · rfl
        · exact hsame _

/-- Every register that is named is kept, and nothing else. -/
theorem exists_mem_dedupRegisters_iff (names : List Text) (name : Text) :
    (∃ kept ∈ dedupRegisters dialect names, dialect.sameRegister kept name) ↔
      ∃ other ∈ names, dialect.sameRegister other name := by
  rw [← List.any_eq_true, any_eq_true_iff_filter_ne_nil, filter_dedupRegisters,
    ← List.find?_isSome]
  cases names.find? (dialect.sameRegister · name) <;> simp

/-- Names of different registers are all kept. -/
theorem dedupRegisters_eq_self {names : List Text}
    (hdifferent : names.Pairwise fun left right => ¬ dialect.sameRegister left right) :
    dedupRegisters dialect names = names := by
  induction names using List.reverseRecOn with
  | nil => rfl
  | append_singleton names name ih =>
      obtain ⟨hbefore, -, hlast⟩ := List.pairwise_append.mp hdifferent
      rw [dedupRegisters_concat, ih hbefore, if_neg]
      intro hseen
      obtain ⟨kept, hkept, hsame⟩ := List.any_eq_true.mp hseen
      exact hlast kept hkept name (List.mem_singleton_self name) hsame

/-- Two lists name the same registers. -/
def NameSame (names others : List Text) : Prop :=
  (∀ name ∈ names, ∃ other ∈ others, dialect.sameRegister other name) ∧
  ∀ other ∈ others, ∃ name ∈ names, dialect.sameRegister name other

instance (names others : List Text) : Decidable (NameSame dialect names others) :=
  inferInstanceAs (Decidable (_ ∧ _))

variable {dialect} in
theorem NameSame.exists_iff {names others : List Text} (hsame : NameSame dialect names others)
    (name : Text) : (∃ first ∈ names, dialect.sameRegister first name) ↔
      ∃ second ∈ others, dialect.sameRegister second name := by
  constructor
  · rintro ⟨first, hfirst, hname⟩
    obtain ⟨second, hsecond, hequal⟩ := hsame.1 first hfirst
    exact ⟨second, hsecond, dialect.sameRegister_equivalence.trans hequal hname⟩
  · rintro ⟨second, hsecond, hname⟩
    obtain ⟨first, hfirst, hequal⟩ := hsame.2 second hsecond
    exact ⟨first, hfirst, dialect.sameRegister_equivalence.trans hequal hname⟩

/-- Lists that name the same registers keep equally many names.  Up to the registers that
they stand for, the names that are kept are all different, and they are the same ones. -/
theorem length_dedupRegisters_eq {names others : List Text}
    (hsame : NameSame dialect names others) :
    (dedupRegisters dialect names).length = (dedupRegisters dialect others).length := by
  let register : Text → Quotient dialect.registerSetoid := Quotient.mk _
  have hnodup : ∀ list, ((dedupRegisters dialect list).map register).Nodup := by
    intro list
    rw [List.Nodup, List.pairwise_map]
    refine (pairwise_dedupRegisters dialect list).imp ?_
    intro left right hdifferent hequal
    exact hdifferent (Quotient.exact hequal)
  have hmem : ∀ list name, register name ∈ (dedupRegisters dialect list).map register ↔
      ∃ other ∈ list, dialect.sameRegister other name := by
    intro list name
    rw [List.mem_map, ← exists_mem_dedupRegisters_iff]
    exact exists_congr fun kept => and_congr_right fun _ => Quotient.eq
  have hperm : ((dedupRegisters dialect names).map register).Perm
      ((dedupRegisters dialect others).map register) := by
    rw [List.perm_ext_iff_of_nodup (hnodup names) (hnodup others)]
    intro quotient
    induction quotient using Quotient.inductionOn with
    | h name =>
        exact (hmem names name).trans ((hsame.exists_iff name).trans (hmem others name).symm)
  simpa using hperm.length_eq

end Dedup

/-- Names stand for the same register if they are one name or equal registers.  This is an
equivalence of names, and the names that are kept of a list represent it: they stand in the
list in this order, no two of them stand for the same register, and of the names that stand
for the register of any given one exactly one is kept, the first of the list.  So nothing is
left to be dropped a second time, and lists that name the same registers keep equally many
names. -/
theorem dedup_keeps_first_names (dialect : Dialect) :
    (∀ left right, dialect.sameRegister left right ↔
      left = right ∨ dialect.registerEqual left right) ∧
    Equivalence (fun left right => dialect.sameRegister left right = true) ∧
    ∀ names : List Text,
      (dedupRegisters dialect names).Sublist names ∧
      ((dedupRegisters dialect names).Pairwise fun left right =>
        ¬ dialect.sameRegister left right) ∧
      (∀ name ∈ names, ∃ first,
        names.find? (dialect.sameRegister · name) = some first ∧
        (dedupRegisters dialect names).filter (dialect.sameRegister · name) = [first]) ∧
      dedupRegisters dialect (dedupRegisters dialect names) = dedupRegisters dialect names ∧
      ∀ others, NameSame dialect names others →
        (dedupRegisters dialect names).length = (dedupRegisters dialect others).length := by
  refine ⟨fun _ _ => Dialect.sameRegister_iff, dialect.sameRegister_equivalence, ?_⟩
  intro names
  have hdifferent := pairwise_dedupRegisters dialect names
  refine ⟨sublist_dedupRegisters dialect names, hdifferent, ?_,
    dedupRegisters_eq_self dialect hdifferent, ?_⟩
  · intro name hname
    have hfound : (names.find? (dialect.sameRegister · name)).isSome :=
      List.find?_isSome.mpr ⟨name, hname, dialect.sameRegister_equivalence.refl name⟩
    obtain ⟨first, hfirst⟩ := Option.isSome_iff_exists.mp hfound
    refine ⟨first, hfirst, ?_⟩
    rw [filter_dedupRegisters, hfirst]
    rfl
  · intro others hsame
    exact length_dedupRegisters_eq dialect hsame

set_option maxRecDepth 10000 in
/-- The registers of two lists are the same, under other names and in another order, and
among them is a name that stands for no register at all. -/
theorem dedup_keeps_first_names_sample :
    let names := ["ecx".toList, "foo".toList, "rax".toList, "cl".toList, "foo".toList]
    let others := ["ah".toList, "rcx".toList, "foo".toList]
    "cl".toList ∈ names ∧ NameSame .intel names others ∧
    (dedupRegisters .intel names).filter (Dialect.intel.sameRegister · "cl".toList) =
      ["ecx".toList] ∧
    (dedupRegisters .intel names).length = (dedupRegisters .intel others).length := by
  intro names others
  have hmem : "cl".toList ∈ names := by decide
  have hsame : NameSame .intel names others := by decide +kernel
  have hfind : names.find? (Dialect.intel.sameRegister · "cl".toList) = some "ecx".toList := by
    decide +kernel
  obtain ⟨-, -, hnames⟩ := dedup_keeps_first_names .intel
  obtain ⟨-, -, hkept, -, hlength⟩ := hnames names
  obtain ⟨first, hfirst, hfilter⟩ := hkept _ hmem
  obtain rfl : "ecx".toList = first := Option.some_inj.mp (hfind.symm.trans hfirst)
  exact ⟨hmem, hsame, hfilter, hlength others hsame⟩

end AsmListing
