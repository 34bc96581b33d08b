import AsmListing.Proofs.Numerals
import AsmListing.Proofs.Tiling
import AsmListing.Source

/-!
# Lines written field by field

What the tokens of a line are that was put together from a directive and operands with
blanks before them.  The operands are numerals and quoted texts.

Whether a spelling is read as one token depends on what follows it: digits go on in a
numeral, and a colon makes a label of it.  `Dialect.Lexes` therefore speaks of a spelling
together with the text behind it, and every text that starts with a blank or a line break
will do (`Text.Breaks`).  None of the tokens of such a line is a mnemonic, so nothing in it
is padded, and the tokens are known with their aligned positions
(`operands_tokens_fields`).
-/

namespace AsmListing

/-- Whether a text is empty or starts with a space, a tab or a line break. -/
def Text.Breaks (text : Text) : Prop :=
  ∀ character ∈ text.head?, character ∈ [' ', '\t', '\r', '\n']

/-- Whether a text is a point and characters that continue a directive. -/
def Text.isDirective : Text → Bool
  | '.' :: body => body.all isDirectiveChar
  | _ => false

/-- `text.Quotable`: between quotes the text is a string as it stands. -/
structure Text.Quotable (text : Text) : Prop where
  no_quote : '"' ∉ text
  last_ne_backslash : text.getLast? ≠ some '\\'

/-- A text between quotes. -/
def Text.inQuotes (text : Text) : Text :=
  '"' :: (text ++ ['"'])

/-- Spaces and tabs, at least one. -/
structure Blanks where
  text : Text
  ne_nil : text ≠ []
  blank_of_mem : ∀ character ∈ text, character ∈ [' ', '\t']

/-- One space. -/
def Blanks.single : Blanks :=
  ⟨[' '], by decide, by simp⟩

/-- An operand of a directive. -/
inductive Operand
  | number (numeral : Numeral)
  | string (content : Text) (hquotable : content.Quotable)

namespace Operand

def spelling : Operand → Text
  | number numeral => numeral.digits
  | string content _ => content.inQuotes

def kind : Operand → TokenKind
  | number _ => .number
  | string _ _ => .string

end Operand

/-- An operand with the blanks before it. -/
structure Field where
  blanks : Blanks
  operand : Operand

def Field.text (field : Field) : Text :=
  field.blanks.text ++ field.operand.spelling

/-- Fields, one after the other. -/
def Field.texts (fields : List Field) : Text :=
  fields.flatMap Field.text

@[simp] theorem Field.texts_nil : Field.texts [] = [] := rfl

@[simp] theorem Field.texts_cons (field : Field) (fields : List Field) :
    Field.texts (field :: fields) =
      field.blanks.text ++ (field.operand.spelling ++ Field.texts fields) :=
  List.append_assoc ..

/-- A token where nothing has been padded. -/
def Token.unpadded (kind : TokenKind) (position : Nat) (spelling : Text) : Token :=
  ⟨kind, position, position, spelling.byteSize⟩

/-- The tokens of the operands of fields that start at a byte offset. -/
def Field.tokens : Nat → List Field → List Token
  | _, [] => []
  | position, field :: fields =>
    Token.unpadded field.operand.kind (position + field.blanks.text.byteSize)
      field.operand.spelling :: Field.tokens (position + field.text.byteSize) fields

/-- A place between two tokens where nothing has been padded and nothing is owed. -/
def Cursor.unpadded (text : Text) (position : Nat) : Cursor :=
  ⟨text, position, 0, 0⟩

/-- `dialect.Lexes kind spelling following`: before the text that follows, the spelling is
read as one token of the kind. -/
def Dialect.Lexes (dialect : Dialect) (kind : TokenKind) (spelling following : Text) : Prop :=
  ∃ first body, spelling = first :: body ∧
    dialect.extent first (body ++ following) = (body, following) ∧
    dialect.kindOf first body (following.head? == some ':') = kind

theorem Text.breaks_nil : Text.Breaks [] := by
  simp [Breaks]

theorem Blanks.breaks_append (blanks : Blanks) (rest : Text) : (blanks.text ++ rest).Breaks := by
  obtain ⟨first, more, htext⟩ := List.exists_cons_of_ne_nil blanks.ne_nil
  intro character hhead
  rw [htext, List.cons_append, List.head?_cons, Option.mem_some_iff] at hhead
  have hblank := blanks.blank_of_mem first (by simp [htext])
  subst hhead
  exact List.mem_append_left ['\r', '\n'] hblank

/-! ## One token -/

/-- A condition that fails at blanks and line breaks fails at the start of such a text. -/
theorem Text.Breaks.stops {rest : Text} (hbreaks : rest.Breaks) {continues : Char → Bool}
    (hstops : [' ', '\t', '\r', '\n'].any continues = false) :
    ∀ character ∈ rest.head?, continues character = false := by
  intro character hhead
  have hnone := List.any_eq_false.mp hstops character (hbreaks character hhead)
  exact Bool.eq_false_iff.mpr hnone

theorem Text.Breaks.head?_ne_colon {rest : Text} (hbreaks : rest.Breaks) :
    (rest.head? == some ':') = false := by
  rw [beq_eq_false_iff_ne]
  intro hcolon
  have hmem := hbreaks ':' hcolon
  revert hmem
  decide

theorem Text.exists_of_isDirective {directive : Text} (hdirective : directive.isDirective = true) :
    ∃ body, directive = '.' :: body ∧ ∀ character ∈ body, isDirectiveChar character = true := by
  unfold isDirective at hdirective
  split at hdirective
  · next body => exact ⟨body, rfl, List.all_eq_true.mp hdirective⟩
  · cases hdirective

/-- A directive is read up to the next blank. -/
theorem Dialect.lexes_directive (dialect : Dialect) {directive rest : Text}
    (hdirective : directive.isDirective = true) (hrest : rest.Breaks) :
    dialect.Lexes (kindAfterPoint directive) directive rest := by
  obtain ⟨body, rfl, hbody⟩ := Text.exists_of_isDirective hdirective
  have hopening : dialect.opening '.' = .point := rfl
  refine ⟨'.', body, rfl, ?_, ?_⟩
  · rw [extent, hopening]
    exact cutWhile_eq hbody (hrest.stops (by decide))
  · rw [kindOf, hopening]

theorem isAlpha_of_isDigit {character : Char} (hdigit : character.isDigit = true) :
    character.isAlpha = false := by
  have hdigitLe : character.val.toNat ≤ 57 :=
    UInt32.le_iff_toNat_le.mp (of_decide_eq_true (Bool.and_eq_true_iff.mp hdigit).2)
  rw [Bool.eq_false_iff]
  intro halpha
  rcases Bool.or_eq_true_iff.mp halpha with hupper | hlower
  · have hletter : 65 ≤ character.val.toNat :=
      UInt32.le_iff_toNat_le.mp (of_decide_eq_true hupper).1
    omega
  · have hletter : 97 ≤ character.val.toNat :=
      UInt32.le_iff_toNat_le.mp (of_decide_eq_true (Bool.and_eq_true_iff.mp hlower).1)
    omega

theorem Dialect.opening_of_isDigit (dialect : Dialect) {character : Char}
    (hdigit : character.isDigit = true) : dialect.opening character = .number := by
  have hne : ∀ other : Char, other.isDigit = false → character ≠ other := by
    rintro other hother rfl
    exact absurd hdigit (by simp [hother])
  have hword : startsWord character = false := by
    simp [startsWord, isAlpha_of_isDigit hdigit, hne '_' (by decide), hne '@' (by decide)]
  rw [opening, if_neg (hne '.' (by decide)), hword, startsNumber, hdigit]
  rfl

/-- A numeral is read up to the next blank. -/
theorem Dialect.lexes_numeral (dialect : Dialect) (numeral : Numeral) {rest : Text}
    (hrest : rest.Breaks) : dialect.Lexes .number numeral.digits rest := by
  obtain ⟨first, body, hdigits, hfirst⟩ := numeral.exists_head
  have hopening := dialect.opening_of_isDigit hfirst
  have hbody : ∀ character ∈ body, isNumberChar character = true := by
    intro character hmem
    have hdigit := numeral.isDigit_of_mem character (by simp [hdigits, hmem])
    simp [isNumberChar, hdigit]
  refine ⟨first, body, hdigits, ?_, ?_⟩
  · rw [extent, hopening]
    exact cutWhile_eq hbody (hrest.stops (by decide))
  · rw [kindOf, hopening, hrest.head?_ne_colon]
    rfl

theorem Text.Quotable.of_cons {character : Char} {rest : Text}
    (hquotable : Text.Quotable (character :: rest)) : rest.Quotable where
  no_quote := fun hmem => hquotable.no_quote (List.mem_cons_of_mem _ hmem)
  last_ne_backslash := by
    intro hlast
    apply hquotable.last_ne_backslash
    rw [List.getLast?_cons, hlast]
    rfl

/-- A string ends at the quote behind its content. -/
theorem cutString_of_quotable {content : Text} (hquotable : content.Quotable) (rest : Text) :
    cutString (content ++ '"' :: rest) = (content ++ ['"'], rest) := by
  induction content with
  | nil => rfl
  | cons character content ih =>
      have hquote : character ≠ '"' := by
        rintro rfl
        exact hquotable.no_quote List.mem_cons_self
      -- only a backslash at the end of the content would stand before a quote
      have hescape : ¬ (character = '\\' ∧ (content ++ '"' :: rest).head? = some '"') := by
        rintro ⟨rfl, hhead⟩
        cases content with
        | nil => exact hquotable.last_ne_backslash rfl
        | cons second content =>
            obtain rfl : second = '"' := by simpa using hhead
            exact hquotable.no_quote (by simp)
      rw [List.cons_append, cutString_cons_of_ne hquote hescape, ih hquotable.of_cons]
      rfl

/-- A string is read up to its end. -/
theorem Dialect.lexes_string (dialect : Dialect) {content rest : Text}
    (hquotable : content.Quotable) (hrest : rest.Breaks) :
    dialect.Lexes .string content.inQuotes rest := by
  have hopening : dialect.opening '"' = .quote := rfl
  refine ⟨'"', content ++ ['"'], rfl, ?_, ?_⟩
  · rw [extent, hopening, List.append_assoc]
    exact cutString_of_quotable hquotable rest
  · rw [kindOf, hopening, hrest.head?_ne_colon]
    rfl

theorem Operand.lexes (operand : Operand) (dialect : Dialect) {rest : Text}
    (hrest : rest.Breaks) : dialect.Lexes operand.kind operand.spelling rest := by
  cases operand with
  | number numeral => exact dialect.lexes_numeral numeral hrest
  | string content hquotable => exact dialect.lexes_string hquotable hrest

theorem Operand.startsToken_head? (operand : Operand) (dialect : Dialect) (rest : Text) :
    ∀ character ∈ (operand.spelling ++ rest).head?, dialect.startsToken character = true := by
  cases operand with
  | number numeral =>
      obtain ⟨first, body, hdigits, hfirst⟩ := numeral.exists_head
      simp [spelling, hdigits, Dialect.startsToken, startsNumber, hfirst]
  | string content hquotable => simp [spelling, Text.inQuotes, Dialect.startsToken]

/-- Blanks are read up to the next token. -/
theorem Dialect.lexes_blanks (dialect : Dialect) (blanks : Blanks) {rest : Text}
    (hrest : ∀ character ∈ rest.head?, dialect.startsToken character = true) :
    dialect.Lexes .misc blanks.text rest := by
  obtain ⟨first, body, htext⟩ := List.exists_cons_of_ne_nil blanks.ne_nil
  have hblank : ∀ character ∈ [' ', '\t'],
      dialect.opening character = .misc ∧ (!dialect.startsToken character) = true := by
    intro character hcharacter
    obtain rfl | rfl : character = ' ' ∨ character = '\t' := by simpa using hcharacter
    all_goals cases dialect <;> decide
  have hfirst := hblank first (blanks.blank_of_mem first (by simp [htext]))
  have hbody : ∀ character ∈ body, (!dialect.startsToken character) = true := by
    intro character hmem
    exact (hblank character (blanks.blank_of_mem character (by simp [htext, hmem]))).2
  refine ⟨first, body, htext, ?_, ?_⟩
  · rw [extent, hfirst.1]
    exact cutWhile_eq hbody (by simpa using hrest)
  · rw [kindOf, hfirst.1]

/-! ## Token after token -/

/-- A token that is no mnemonic leaves the cursor without padding. -/
theorem Dialect.Lexes.tokens_eq {dialect : Dialect} {kind : TokenKind} {spelling following : Text}
    (hlexes : dialect.Lexes kind spelling following) (hkind : kind.isInstruction = false)
    (position : Nat) :
    (Cursor.unpadded (spelling ++ following) position).tokens dialect =
      Token.unpadded kind position spelling ::
        (Cursor.unpadded following (position + spelling.byteSize)).tokens dialect := by
  obtain ⟨first, body, rfl, hextent, rfl⟩ := hlexes
  have howed : Cursor.owedBy dialect (dialect.kindOf first body (following.head? == some ':'))
      (Text.byteSize (first :: body)) following = 0 := by
    unfold Cursor.owedBy
    cases following <;> simp_all
  apply Cursor.tokens_of_next?_eq_some
  simp only [Cursor.unpadded, Token.unpadded, Cursor.next?, List.cons_append, hextent, howed]
  simp [Cursor.settledOn, Cursor.settledAfter]

theorem Field.breaks_texts (fields : List Field) {rest : Text} (hrest : rest.Breaks) :
    (Field.texts fields ++ rest).Breaks := by
  cases fields with
  | nil => exact hrest
  | cons field fields =>
      rw [texts_cons, List.append_assoc]
      exact field.blanks.breaks_append _

/-- The operands of a text that continues with fields are those of the fields, and then
those of what follows. -/
theorem operands_tokens_fields (dialect : Dialect) (fields : List Field) {rest : Text}
    (hrest : rest.Breaks) : ∀ position : Nat,
    operands ((Cursor.unpadded (Field.texts fields ++ rest) position).tokens dialect) =
      Field.tokens position fields ++
        operands ((Cursor.unpadded rest (position + (Field.texts fields).byteSize)).tokens
          dialect) := by
  induction fields with
  | nil => intro position; rfl
  | cons field fields ih =>
      intro position
      have hblanks := dialect.lexes_blanks field.blanks
        (field.operand.startsToken_head? dialect (Field.texts fields ++ rest))
      have hoperand := field.operand.lexes dialect (Field.breaks_texts fields hrest)
      have hskip : ∀ (start stop : Nat) (later : List Token),
          operands (Token.unpadded .misc start field.blanks.text ::
            Token.unpadded field.operand.kind stop field.operand.spelling :: later) =
          Token.unpadded field.operand.kind stop field.operand.spelling :: operands later := by
        intro start stop later
        cases field.operand <;> rfl
      rw [Field.texts_cons, List.append_assoc, List.append_assoc, hblanks.tokens_eq rfl,
        hoperand.tokens_eq (by cases field.operand <;> rfl), hskip, ih, Field.tokens, Field.text]
      simp only [Text.byteSize_append, Nat.add_assoc, List.cons_append]

/-- The token of a spelling in its place shows the spelling. -/
theorem Token.text_unpadded (kind : TokenKind) (before spelling after : Text) :
    (Token.unpadded kind before.byteSize spelling).text (before ++ (spelling ++ after)) =
      spelling := by
  rw [← List.append_assoc]
  exact Text.view_append before spelling after

/-- The operands of a line: the directive, those of its fields, and those of what follows. -/
theorem exists_operands_line (dialect : Dialect) {directive : Text}
    (hdirective : directive.isDirective = true) (fields : List Field) {rest : Text}
    (hrest : rest.Breaks) :
    ∃ first : Token, first.text (directive ++ (Field.texts fields ++ rest)) = directive ∧
      operands (tokenize dialect (directive ++ (Field.texts fields ++ rest))) =
        first :: (Field.tokens directive.byteSize fields ++
          operands ((Cursor.unpadded rest
            (directive.byteSize + (Field.texts fields).byteSize)).tokens dialect)) := by
  have hlexes := dialect.lexes_directive hdirective (Field.breaks_texts fields hrest)
  have hoperand : ∀ tokens : List Token,
      operands (Token.unpadded (kindAfterPoint directive) 0 directive :: tokens) =
        Token.unpadded (kindAfterPoint directive) 0 directive :: operands tokens := by
    intro tokens
    unfold kindAfterPoint
    split_ifs <;> rfl
  have htokens := hlexes.tokens_eq (by unfold kindAfterPoint; split_ifs <;> rfl) 0
  rw [Nat.zero_add] at htokens
  refine ⟨_, Token.text_unpadded (kindAfterPoint directive) [] directive _, ?_⟩
  rw [tokenize, Cursor.start, ← Cursor.unpadded, htokens, hoperand,
    operands_tokens_fields dialect fields hrest]
  rfl

/-- The tokens of fields have the kinds and the texts of their operands. -/
theorem Field.map_tokens (fields : List Field) (rest : Text) : ∀ before : Text,
    (Field.tokens before.byteSize fields).map
        (fun token => (token.kind, token.text (before ++ (Field.texts fields ++ rest)))) =
      fields.map fun field => (field.operand.kind, field.operand.spelling) := by
  induction fields with
  | nil => intro before; rfl
  | cons field fields ih =>
      intro before
      have htexts : before ++ (Field.texts (field :: fields) ++ rest) =
          (before ++ field.text) ++ (Field.texts fields ++ rest) := by
        simp [Field.text]
      have hsize : before.byteSize + field.text.byteSize =
          Text.byteSize (before ++ field.text) := by
        simp
      have hfirst := Token.text_unpadded field.operand.kind (before ++ field.blanks.text)
        field.operand.spelling (Field.texts fields ++ rest)
      rw [Text.byteSize_append, List.append_assoc, ← List.append_assoc field.blanks.text,
        ← Field.text, ← List.append_assoc before] at hfirst
      rw [Field.tokens, List.map_cons, List.map_cons, hsize, htexts, ih, hfirst]
      rfl

/-! ## Numbers -/

/-- An operand that is a numeral is read as its value, if that is below the limit. -/
theorem readOperand_numeral {text : Text} {token : Token} {numeral : Numeral}
    (htext : token.text text = numeral.digits) (directive : NumericDirective) :
    readOperand text directive token =
      if numeral.value < numberLimit then
        .ok numeral.value
      else
        .error (.malformedNumber directive numeral.digits token.position .tooLarge) := by
  have hread := Numeral.Reads.readNumeral_eq (.inl rfl : numeral.Reads numeral.digits)
    (show 0 < numberLimit by decide)
  rw [readOperand, htext, hread]
  split_ifs <;> rfl

end AsmListing
