import Mathlib.Data.List.Forall2

/-!
# Results that may be errors

The analysis runs in `Except ListingError`.  These lemmas open its steps, so that
no proof has to unfold the monad: the `simp` lemmas run a step whose result is
known, and the others take a successful result apart.  Two runs that are compared
step by step are said to `Agree`.
-/

namespace AsmListing.Fallible

variable {ε α β : Type}

@[simp] theorem ok_bind (value : α) (next : α → Except ε β) :
    (Except.ok value >>= next) = next value := rfl

@[simp] theorem error_bind (error : ε) (next : α → Except ε β) :
    (Except.error error >>= next) = .error error := rfl

@[simp] theorem map_ok (change : α → β) (value : α) :
    (Except.ok value : Except ε α).map change = .ok (change value) := rfl

@[simp] theorem map_error (change : α → β) (error : ε) :
    (Except.error error : Except ε α).map change = .error error := rfl

@[simp] theorem map_map {γ : Type} (first : α → β) (second : β → γ) (result : Except ε α) :
    (result.map first).map second = result.map fun value => second (first value) := by
  cases result <;> rfl

theorem map_bind {γ : Type} (change : α → β) (next : β → Except ε γ) (result : Except ε α) :
    (result.map change >>= next) = result >>= fun value => next (change value) := by
  cases result <;> rfl

theorem mapError_bind {δ : Type} (change : ε → δ) (next : α → Except ε β) (result : Except ε α) :
    (result >>= next).mapError change =
      result.mapError change >>= fun value => (next value).mapError change := by
  cases result <;> rfl

theorem bind_eq_ok {result : Except ε α} {next : α → Except ε β} {value : β} :
    result >>= next = .ok value ↔ ∃ first, result = .ok first ∧ next first = .ok value := by
  cases result <;> simp

theorem map_eq_ok {result : Except ε α} {change : α → β} {value : β} :
    result.map change = .ok value ↔ ∃ first, result = .ok first ∧ change first = value := by
  cases result <;> simp

theorem toOption_eq_some {result : Except ε α} {value : α} :
    result.toOption = some value ↔ result = .ok value := by
  cases result <;> simp [Except.toOption]

/-- A step that succeeds on every item succeeds on the list of them. -/
theorem mapM_eq_ok {step : α → Except ε β} {items : List α} {values : List β}
    (hsteps : List.Forall₂ (fun item value => step item = .ok value) items values) :
    items.mapM step = .ok values := by
  induction hsteps with
  | nil => rfl
  | cons hstep _ ih =>
      rw [List.mapM_cons, hstep, ih]
      rfl

/-- Two results that agree: both are the same error, or both are values and these
are related. -/
inductive Agree (related : α → β → Prop) : Except ε α → Except ε β → Prop
  | error (error : ε) : Agree related (.error error) (.error error)
  | ok {left : α} {right : β} : related left right → Agree related (.ok left) (.ok right)

theorem Agree.bind {γ δ : Type} {related : α → β → Prop} {following : γ → δ → Prop}
    {left : Except ε α} {right : Except ε β} {nextLeft : α → Except ε γ}
    {nextRight : β → Except ε δ}
    (hagree : Agree related left right)
    (hnext : ∀ first second, related first second →
      Agree following (nextLeft first) (nextRight second)) :
    Agree following (left >>= nextLeft) (right >>= nextRight) := by
  cases hagree with
  | error error => exact .error error
  | ok hrelated => exact hnext _ _ hrelated

theorem Agree.refl (result : Except ε α) : Agree (· = ·) result result := by
  cases result with
  | error error => exact .error error
  | ok value => exact .ok rfl

end AsmListing.Fallible
