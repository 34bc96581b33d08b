import AsmListing.Proofs.Tiling
import Mathlib.Algebra.Ring.Parity

/-!
# Where strings end

A string runs up to the first quote that is not escaped.  Which quotes are escaped
is the question: in a text in which a backslash escapes the character after it, a
quote is escaped if an odd number of backslashes stands before it, because two of
them are one backslash that is escaped itself.  The scanner looks at one backslash
only, so that a quote after a backslash never ends a string.

`EndsAtQuote` says where a string ends, given which quotes are escaped.  A string
ends by the rule of the scanner (`endsAtQuote_cutString`), and the two rules part
company exactly at quotes after an even number of backslashes
(`endsAtQuote_odd_iff`).
-/

namespace AsmListing

/-- The number of backslashes at the end of a text. -/
def backslashes (text : Text) : Nat :=
  (text.reverse.takeWhile (· == '\\')).length

/-- `QuotesEscaped escaped text`: all quotes of a text are escaped.  Whether one is
depends on what stands before it. -/
def QuotesEscaped (escaped : Text → Prop) (text : Text) : Prop :=
  ∀ before after, text = before ++ '"' :: after → escaped before

/-- `EndsAtQuote escaped body rest`: a string with `body` after its opening quote,
and `rest` after that, ends at its first quote that is not escaped, or with the text
if there is none. -/
def EndsAtQuote (escaped : Text → Prop) (body rest : Text) : Prop :=
  (∃ inside, body = inside ++ ['"'] ∧ ¬ escaped inside ∧ QuotesEscaped escaped inside) ∨
  (rest = [] ∧ QuotesEscaped escaped body)

/-! ## The rule of the scanner -/

theorem getLast?_eq_backslash_iff (text : Text) :
    text.getLast? = some '\\' ↔ backslashes text ≠ 0 := by
  rw [← List.head?_reverse, backslashes]
  cases text.reverse with
  | nil => simp
  | cons last rest => by_cases hlast : last = '\\' <;> simp [hlast]

/-- A text whose quotes are escaped can be put before another one, if it escapes
nothing there that was not escaped. -/
theorem QuotesEscaped.append {escaped : Text → Prop} {front text : Text}
    (hfront : QuotesEscaped escaped front) (htext : QuotesEscaped escaped text)
    (hlater : ∀ before after, text = before ++ '"' :: after →
      (escaped (front ++ before) ↔ escaped before)) :
    QuotesEscaped escaped (front ++ text) := by
  intro before after hwhole
  rcases List.append_eq_append_iff.mp hwhole with ⟨later, rfl, hquote⟩ | ⟨later, hquote, hrest⟩
  · exact (hlater later after hquote).mpr (htext later after hquote)
  · cases later with
    | nil =>
        -- the quote is the first character of the second text
        have hfirst := (hlater [] after hrest.symm).mpr (htext [] after hrest.symm)
        rwa [List.append_nil, hquote, List.append_nil] at hfirst
    | cons character later =>
        obtain ⟨rfl, -⟩ := List.cons.inj hrest
        exact hfront before later hquote

theorem EndsAtQuote.append_left {escaped : Text → Prop} (front : Text) {body rest : Text}
    (hends : EndsAtQuote escaped body rest) (hfront : QuotesEscaped escaped front)
    (hlater : ∀ before after, body = before ++ '"' :: after →
      (escaped (front ++ before) ↔ escaped before)) :
    EndsAtQuote escaped (front ++ body) rest := by
  rcases hends with ⟨inside, rfl, hopen, hinside⟩ | ⟨hrest, hinside⟩
  · refine .inl ⟨front ++ inside, (List.append_assoc ..).symm, ?_, ?_⟩
    · exact (hlater inside [] rfl).not.mpr hopen
    · refine hfront.append hinside fun before after hquote => hlater before (after ++ ['"']) ?_
      rw [hquote, List.append_assoc, List.cons_append]
  · exact .inr ⟨hrest, hfront.append hinside hlater⟩

/-- A string ends at the first quote that does not stand right after a backslash. -/
theorem endsAtQuote_cutString (text : Text) :
    EndsAtQuote (·.getLast? = some '\\') (cutString text).1 (cutString text).2 := by
  fun_induction cutString text with
  | case1 => exact .inr ⟨rfl, by simp [QuotesEscaped]⟩
  | case2 rest => exact .inl ⟨[], rfl, by simp, by simp [QuotesEscaped]⟩
  | case3 rest body following hrest ih =>
      rw [hrest] at ih
      -- the backslash escapes the quote after it and nothing else
      refine ih.append_left ['\\', '"'] ?_ fun before after _ => ?_
      · intro before after hquote
        rcases before with _ | ⟨first, _ | ⟨second, others⟩⟩
        · simp at hquote
        · obtain ⟨rfl, -⟩ := List.cons.inj hquote
          rfl
        · simp at hquote
      · cases before <;> simp [List.getLast?_cons]
  | case4 character rest hquote hescape body following hrest ih =>
      have happend := cutString_append rest
      rw [hrest] at ih happend
      refine ih.append_left [character] ?_ fun before after hbefore => ?_
      · intro before after hfront
        cases before with
        | nil => simp_all
        | cons _ _ => simp at hfront
      · cases before with
        | nil =>
            -- a quote comes next, so the character is no backslash
            have hnext : rest = '"' :: (after ++ following) := by
              rw [← happend, hbefore]
              rfl
            have hcharacter : character ≠ '\\' := by
              rintro rfl
              exact hescape _ rfl hnext
            simpa using hcharacter
        | cons _ _ => simp [List.getLast?_cons]

/-! ## The two rules -/

/-- Where a string ends by the rule of the scanner, it ends by that of escaped
backslashes exactly if no quote stands after an even number of backslashes; one at
the end of the text does not count, since the string ends there by either rule. -/
theorem endsAtQuote_odd_iff {body rest : Text}
    (hends : EndsAtQuote (·.getLast? = some '\\') body rest) :
    EndsAtQuote (fun inside => Odd (backslashes inside)) body rest ↔
      ∀ inside after, body = inside ++ '"' :: after → after ++ rest ≠ [] →
        backslashes inside = 0 ∨ Odd (backslashes inside) := by
  simp only [EndsAtQuote, QuotesEscaped, getLast?_eq_backslash_iff, not_not] at hends ⊢
  constructor
  · rintro (⟨inside, rfl, heven, hinside⟩ | ⟨-, hodd⟩) before after hquote hmore
    · rcases List.eq_nil_or_concat after with rfl | ⟨earlier, last, rfl⟩
      · -- the quote that ends the string also ends it by the rule of the scanner
        obtain ⟨rfl, -⟩ := List.append_inj' hquote rfl
        rw [List.nil_append] at hmore
        obtain ⟨found, hfound, hzero, -⟩ | ⟨hnil, -⟩ := hends
        · obtain ⟨rfl, -⟩ := List.append_inj' hfound rfl
          exact .inl hzero
        · exact absurd hnil hmore
      · have hearlier : inside = before ++ '"' :: earlier := by
          rw [List.concat_eq_append, ← List.cons_append, ← List.append_assoc] at hquote
          exact (List.append_inj' hquote rfl).1
        exact .inr (hinside before earlier hearlier)
    · exact .inr (hodd before after hquote)
  · intro hquotes
    rcases hends with ⟨inside, rfl, hzero, hescaped⟩ | ⟨rfl, hescaped⟩
    · refine .inl ⟨inside, rfl, by simp [hzero], fun before after hquote => ?_⟩
      refine (hquotes before (after ++ ['"']) ?_ (by simp)).resolve_left
        (hescaped before after hquote)
      rw [hquote, List.append_assoc, List.cons_append]
    · have hodd : ∀ before after, body = before ++ '"' :: after → after ≠ [] →
          Odd (backslashes before) := by
        intro before after hquote hne
        exact (hquotes before after hquote (by simpa using hne)).resolve_left
          (hescaped before after hquote)
      by_cases hlast : ∃ inside, body = inside ++ ['"'] ∧ ¬ Odd (backslashes inside)
      · -- the quote at the end of the text ends the string by this rule only
        obtain ⟨inside, rfl, heven⟩ := hlast
        refine .inl ⟨inside, rfl, heven, fun before after hquote => ?_⟩
        refine hodd before (after ++ ['"']) ?_ (by simp)
        rw [hquote, List.append_assoc, List.cons_append]
      · refine .inr ⟨rfl, fun before after hquote => ?_⟩
        by_contra heven
        rcases eq_or_ne after [] with rfl | hne
        · exact hlast ⟨before, hquote, heven⟩
        · exact heven (hodd before after hquote hne)

/-! ## The strings of a listing -/

/-- A token that starts with a quote ends at the first later quote that does not
stand right after a backslash, or with the listing if there is none.  So it ends at
the first quote that is not escaped exactly if none of its quotes, but for one that
ends the listing, stands after an even number of backslashes other than zero. -/
theorem strings_end_at_quotes {dialect : Dialect} {text : Text} {token : Token}
    (htoken : token ∈ tokenize dialect text) (hquote : (token.text text).head? = some '"') :
    ∃ before body rest, text = before ++ '"' :: (body ++ rest) ∧
      before.byteSize = token.position ∧ token.length = Text.byteSize ('"' :: body) ∧
      EndsAtQuote (·.getLast? = some '\\') body rest ∧
      (EndsAtQuote (fun inside => Odd (backslashes inside)) body rest ↔
        ∀ inside after, body = inside ++ '"' :: after → after ++ rest ≠ [] →
          backslashes inside = 0 ∨ Odd (backslashes inside)) := by
  obtain ⟨before, first, tail, htext, hbefore, hspells, -⟩ := exists_extent_of_mem_tokenize htoken
  have hlength : token.length = Text.byteSize (first :: (dialect.extent first tail).1) := by
    rw [← hspells.byteSize_text, hspells.text_eq]
  obtain rfl : first = '"' := by simpa [hspells.text_eq] using hquote
  have hextent : dialect.extent '"' tail = cutString tail := by
    have hopening : dialect.opening '"' = .quote := by cases dialect <;> decide
    rw [Dialect.extent, hopening]
  rw [hextent] at hlength
  rw [← cutString_append tail] at htext
  have hends := endsAtQuote_cutString tail
  exact ⟨before, _, _, htext, hbefore, hlength, hends, endsAtQuote_odd_iff hends⟩

set_option maxRecDepth 10000 in
/-- The quote after one backslash does not end the string. -/
theorem strings_end_at_quotes_sample :
    (⟨.string, 1, 1, 6⟩ : Token) ∈ tokenize .wasm " \"a\\\"b\" c".toList ∧
    ∃ before body rest : Text, " \"a\\\"b\" c".toList = before ++ '"' :: (body ++ rest) ∧
      before.byteSize = 1 ∧ Text.byteSize ('"' :: body) = 6 ∧
      EndsAtQuote (·.getLast? = some '\\') body rest := by
  have htoken : (⟨.string, 1, 1, 6⟩ : Token) ∈ tokenize .wasm " \"a\\\"b\" c".toList := by
    decide +kernel
  obtain ⟨before, body, rest, htext, hposition, hlength, hends, -⟩ :=
    strings_end_at_quotes htoken (by decide)
  exact ⟨htoken, before, body, rest, htext, hposition, hlength.symm, hends⟩

set_option maxRecDepth 10000 in
/-- The quote after two backslashes is not escaped, and yet the string goes on to the
end of the listing. -/
theorem string_passes_unescaped_quote :
    tokenize .intel "\"a\\\\\" b".toList = [⟨.string, 0, 0, 7⟩] ∧
    ¬ EndsAtQuote (fun inside => Odd (backslashes inside)) "a\\\\\" b".toList [] := by
  refine ⟨by decide +kernel, ?_⟩
  rintro (⟨inside, hbody, -⟩ | ⟨-, hescaped⟩)
  · have hlast := congrArg List.getLast? hbody
    rw [List.getLast?_concat] at hlast
    exact absurd hlast (by decide)
  · have hodd : Odd (backslashes "a\\\\".toList) := hescaped _ " b".toList rfl
    exact absurd hodd (by decide)

end AsmListing
