import AsmListing.Proofs.Numerals
import AsmListing.Proofs.Outline.Analysis
import AsmListing.Proofs.Tiling

/-!
# Numbers in directives

The operands of `.file` and `.loc` lines are the only part of a listing that can
be wrong.  This file says which tokens they are (`numericOperands`), when one of
them is right (`Text.IsNumeral`), and what reading the lines of a listing does
about it: it succeeds if all of them are right, and otherwise the error is about
the first one that is not.

`Judges` states this of any computation that reads operands.  It is closed under
doing one thing after the other (`Judges.bind`), so it passes from a single
operand to a line (`judges_readLine`) and from a line to a whole run
(`judges_readLines`), each time with the operands of the parts put end to end.

A numeral may be preceded by a plus sign, and `Text.IsNumeral` knows nothing of
that.  The two agree on a listing because no token but a blank starts with a
plus (`plainNumbers_tokenize`).
-/

namespace AsmListing

/-- Whether a text consists of decimal digits, at least one, and denotes a number
below 2³². -/
def Text.IsNumeral (text : Text) : Prop :=
  text ≠ [] ∧ text.all Char.isDigit = true ∧ Nat.ofDigitChars 10 text 0 < 4294967296

instance (text : Text) : Decidable text.IsNumeral :=
  inferInstanceAs (Decidable (_ ∧ _ ∧ _))

example : Text.IsNumeral "0004294967295".toList ∧ ¬ Text.IsNumeral "4294967296".toList ∧
    ¬ Text.IsNumeral "-1".toList ∧ ¬ Text.IsNumeral "0x1".toList := by
  decide

/-- The operands that a line has where numbers belong: one in a line that
registers a file, and three in a line that names a location.  Those that are no
numbers are passed over. -/
def numericOperands (text : Text) (tokens : List Token) : List Token :=
  let places : List Token :=
    match lineKind tokens with
    | .sourceFile => ((operands tokens).drop 1).take 1
    | .sourceLocation =>
      if (operands tokens).head?.map (·.text text) = some ".cv_loc".toList then
        ((operands tokens).drop 2).take 3
      else
        ((operands tokens).drop 1).take 3
    | _ => []
  places.filter (·.kind == .number)

/-- `Blames text numbers error`: the error is about the first of the operands
that is no numeral. -/
def Blames (text : Text) (numbers : List Token) (error : ListingError) : Prop :=
  ∃ before token after directive cause, numbers = before ++ token :: after ∧
    (∀ earlier ∈ before, (earlier.text text).IsNumeral) ∧ ¬ (token.text text).IsNumeral ∧
    error = .malformedNumber directive (token.text text) token.position cause

/-- `Judges text numbers result`: the result is an error exactly if some operand
is no numeral, and then it is about the first one. -/
def Judges {α : Type} (text : Text) (numbers : List Token) : Except ListingError α → Prop
  | .ok _ => ∀ token ∈ numbers, (token.text text).IsNumeral
  | .error error => Blames text numbers error

/-! ## Numerals -/

namespace Text

theorem isNumeral_iff {text : Text} (hplus : text.head? ≠ some '+') :
    text.IsNumeral ↔ ∃ number, readNumeral numberLimit text = .ok number := by
  by_cases hne : text = []
  · subst hne
    simp [IsNumeral, readNumeral]
  · rw [readNumeral_eq_readDigits _ hne hplus]
    simp only [IsNumeral, ne_eq, hne, not_false_eq_true, true_and, List.all_eq_true,
      readDigits_eq_ok (show 0 < numberLimit by decide)]
    constructor
    · rintro ⟨hdigits, hbelow⟩
      exact ⟨_, hdigits, rfl, hbelow⟩
    · rintro ⟨number, hdigits, rfl, hbelow⟩
      exact ⟨hdigits, hbelow⟩

end Text

/-! ## Numbers and plus signs -/

/-- The numbers among tokens do not start with a plus sign. -/
def PlainNumbers (text : Text) (tokens : List Token) : Prop :=
  ∀ token ∈ tokens, token.kind = .number → (token.text text).head? ≠ some '+'

theorem plainNumbers_tokenize (dialect : Dialect) (text : Text) :
    PlainNumbers text (tokenize dialect text) := by
  intro token htoken hnumber hplus
  obtain ⟨-, first, tail, -, -, hspells, hkind⟩ := exists_extent_of_mem_tokenize htoken
  obtain rfl : first = '+' := by simpa [hspells.text_eq] using hplus
  -- what starts with a plus sign is a blank in every dialect
  have hopening : dialect.opening '+' = .misc := by
    cases dialect <;> decide
  simp [hkind, Dialect.kindOf, hopening] at hnumber

/-! ## One thing after the other -/

namespace Judges

variable {α β : Type} {text : Text}

theorem nil (value : α) : Judges text [] (.ok value) := by
  intro token htoken
  simp at htoken

theorem bind {first second : List Token} {result : Except ListingError α}
    {next : α → Except ListingError β} (hfirst : Judges text first result)
    (hsecond : ∀ value, result = .ok value → Judges text second (next value)) :
    Judges text (first ++ second) (result >>= next) := by
  cases result with
  | error error =>
      obtain ⟨before, token, after, directive, cause, rfl, hbefore, htoken, rfl⟩ := hfirst
      exact ⟨before, token, after ++ second, directive, cause, by simp, hbefore, htoken, rfl⟩
  | ok value =>
      have hnext := hsecond value rfl
      rw [Fallible.ok_bind]
      cases hresult : next value with
      | error error =>
          rw [hresult] at hnext
          obtain ⟨before, token, after, directive, cause, rfl, hbefore, htoken, rfl⟩ := hnext
          have hearlier := List.forall_mem_append.mpr ⟨hfirst, hbefore⟩
          exact ⟨first ++ before, token, after, directive, cause, by simp, hearlier, htoken, rfl⟩
      | ok final =>
          rw [hresult] at hnext
          exact List.forall_mem_append.mpr ⟨hfirst, hnext⟩

/-- What is done afterwards without reading an operand makes no difference. -/
theorem bind_nil {numbers : List Token} {result : Except ListingError α}
    {next : α → Except ListingError β} (hresult : Judges text numbers result)
    (hnext : ∀ value, result = .ok value → Judges text [] (next value)) :
    Judges text numbers (result >>= next) := by
  rw [← List.append_nil numbers]
  exact hresult.bind hnext

theorem map {numbers : List Token} {result : Except ListingError α} (change : α → β)
    (hresult : Judges text numbers result) : Judges text numbers (result.map change) := by
  cases result <;> exact hresult

end Judges

/-! ## Operands, lines and runs -/

section Lines

variable {text : Text} {tokens : List Token} {token : Token}

theorem judges_readOperand (directive : NumericDirective)
    (hplus : (token.text text).head? ≠ some '+') :
    Judges text [token] (readOperand text directive token) := by
  have hnumeral := Text.isNumeral_iff hplus
  unfold readOperand
  cases hread : Text.readNumeral numberLimit (token.text text) with
  | ok number =>
      intro other hother
      obtain rfl := List.mem_singleton.mp hother
      exact hnumeral.mpr ⟨number, hread⟩
  | error cause =>
      refine ⟨[], token, [], directive, cause, rfl, by simp, ?_, rfl⟩
      intro hisNumeral
      obtain ⟨number, hok⟩ := hnumeral.mp hisNumeral
      rw [hread] at hok
      cases hok

theorem judges_readSlot {operand : Option Token}
    (hplain : PlainNumbers text operand.toList) :
    Judges text (operand.toList.filter (·.kind == .number)) (readSlot text operand) := by
  cases operand with
  | none => exact .nil 0
  | some token =>
      unfold readSlot
      by_cases hnumber : token.kind = .number
      · have hplus := hplain token (by simp) hnumber
        simpa [hnumber] using judges_readOperand .loc hplus
      · simpa [hnumber] using Judges.nil 0

theorem take_three_eq {α : Type} (items : List α) :
    items.take 3 = items[0]?.toList ++ (items[1]?.toList ++ items[2]?.toList) := by
  match items with
  | [] => rfl
  | [_] => rfl
  | [_, _] => rfl
  | _ :: _ :: _ :: _ => rfl

theorem mem_of_mem_locationOperands (htoken : token ∈ locationOperands text tokens) :
    token ∈ tokens := by
  have hrest : token ∈ operands tokens := by
    unfold locationOperands at htoken
    split at htoken
    · simp at htoken
    · next directive rest hoperands =>
        rw [hoperands]
        split at htoken
        · exact List.mem_cons_of_mem _ (List.mem_of_mem_drop htoken)
        · exact List.mem_cons_of_mem _ htoken
  exact List.mem_of_mem_filter hrest

theorem numericOperands_location (hkind : lineKind tokens = .sourceLocation) :
    numericOperands text tokens =
      ((locationOperands text tokens).take 3).filter (·.kind == .number) := by
  unfold numericOperands locationOperands
  simp only [hkind]
  cases operands tokens with
  | nil => simp
  | cons directive rest =>
      by_cases hcodeView : directive.text text = ".cv_loc".toList
      · simp [hcodeView]
      · have hdirective : (directive :: rest).head?.map (·.text text) ≠ some ".cv_loc".toList := by
          simpa using hcodeView
        simp only [if_neg hdirective, if_neg hcodeView, List.drop_one, List.tail_cons]

theorem judges_readLocation (hplain : PlainNumbers text tokens)
    (hkind : lineKind tokens = .sourceLocation) :
    Judges text (numericOperands text tokens) (readLocation text tokens) := by
  have hslot : ∀ index : Nat, PlainNumbers text (locationOperands text tokens)[index]?.toList := by
    intro index token htoken hnumber
    have hplace : (locationOperands text tokens)[index]? = some token := by simpa using htoken
    exact hplain token (mem_of_mem_locationOperands (List.mem_of_getElem? hplace)) hnumber
  rw [numericOperands_location hkind, take_three_eq, List.filter_append, List.filter_append]
  unfold readLocation
  refine (judges_readSlot (hslot 0)).bind fun file _ => ?_
  refine (judges_readSlot (hslot 1)).bind fun line _ => ?_
  exact (judges_readSlot (hslot 2)).bind_nil fun column _ => .nil _

theorem judges_readFileLine (hplain : PlainNumbers text tokens)
    (hkind : lineKind tokens = .sourceFile) :
    Judges text (numericOperands text tokens) (readFileLine text tokens) := by
  have hmem : ∀ token ∈ (operands tokens).drop 1, token ∈ tokens := fun token htoken =>
    List.mem_of_mem_filter (List.mem_of_mem_drop htoken)
  unfold numericOperands readFileLine
  simp only [hkind]
  cases hrest : (operands tokens).drop 1 with
  | nil => exact .nil _
  | cons token rest =>
      by_cases hnumber : token.kind = .number
      · have hplus := hplain token (hmem token (by simp [hrest])) hnumber
        have hplace : ((token :: rest).take 1).filter (·.kind == .number) = [token] := by
          simp [hnumber]
        rw [hplace]
        simp only [if_pos hnumber]
        exact (judges_readOperand _ hplus).bind_nil fun number _ => .nil _
      · simpa [hnumber] using Judges.nil _

theorem judges_register (hplain : PlainNumbers text tokens)
    (hkind : lineKind tokens = .sourceFile) (table : SourceTable) (files : Files) (load : Bool) :
    Judges text (numericOperands text tokens) (table.register files load text tokens) := by
  refine (judges_readFileLine hplain hkind).bind_nil fun registered _ => ?_
  match registered with
  | (_, none) => exact .nil _
  | (_, some _) => exact .nil _

end Lines

theorem judges_readLine {context : Context} {tokens : List Token}
    (hplain : PlainNumbers context.text tokens) (sources : SourceTable) :
    Judges context.text (numericOperands context.text tokens)
      (readLine context sources tokens) := by
  unfold readLine
  split
  · next hnil =>
      subst hnil
      exact .nil _
  · split
    · next hkind => exact (judges_register hplain hkind _ _ _).map _
    · next hkind => exact (judges_readLocation hplain hkind).map _
    · next hfile hlocation =>
        have hnone : numericOperands context.text tokens = [] := by
          unfold numericOperands
          split <;> simp_all
        rw [hnone]
        exact .nil _

/-- Reading lines judges the operands of all of them. -/
theorem judges_readLines {context : Context} {groups : List (List Token)}
    (hplain : ∀ tokens ∈ groups, PlainNumbers context.text tokens) :
    ∀ sources : SourceTable,
      Judges context.text (groups.flatMap (numericOperands context.text))
        (readLines context sources groups) := by
  induction groups with
  | nil => intro sources; exact .nil _
  | cons tokens rest ih =>
      intro sources
      rw [List.flatMap_cons, readLines]
      refine (judges_readLine (hplain tokens List.mem_cons_self) sources).bind fun read _ => ?_
      have hrest := ih (fun other hother => hplain other (List.mem_cons_of_mem _ hother)) read.1
      exact hrest.bind_nil fun following _ => .nil _

end AsmListing
