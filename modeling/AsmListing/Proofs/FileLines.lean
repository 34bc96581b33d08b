import AsmListing.Proofs.Fields
import AsmListing.Proofs.Fallible
import Mathlib.Data.List.DropRight

/-!
# Registering files

What the lines register that name source files.  A path is written between quotes with its
backslashes doubled, and it is read back with slashes in their place (`unquotePath_inQuotes`).
That takes three steps, each undoing one of the writing: the string ends at its own quote
(`cutString_of_quotable`), the quotes are trimmed off (`Text.trim_inQuotes`), and of two
backslashes one is left, for runs of any length (`undoubleBackslashes_doubleBackslashes`).

The forms of these lines differ in their operands only, and `registers_directiveLine` is
about all of them: a number at the front is the number of the file (`fileNumber`), and the
strings behind it give its name (`nameOfPaths`).
-/

namespace AsmListing

/-- A path with its backslashes doubled. -/
def doubleBackslashes (path : Text) : Text :=
  path.flatMap fun character => if character = '\\' then ['\\', '\\'] else [character]

/-- The character that a character of a path is read as. -/
def slashOf (character : Char) : Char :=
  if character = '\\' then '/' else character

/-- The ways in which a line can end. -/
def lineEndings : List Text :=
  [[], ['\n'], ['\r'], ['\r', '\n']]

/-- A line with a space before each of its operands. -/
def directiveLine (directive : Text) (operands : List Text) (ending : Text) : Text :=
  directive ++ (operands.flatMap (' ' :: ·) ++ ending)

/-- `Registers dialect line number name`: whatever is registered already, the line
registers a file with the name under the number, and none under another number. -/
def Registers (dialect : Dialect) (line : Text) (number : Nat) (name : Text) : Prop :=
  ∀ (table : SourceTable) (files : Files) (load : Bool), ∃ result,
    table.register files load line (tokenize dialect line) = .ok result ∧
    (result.get? number).map (·.name) = some name ∧
    ∀ other, other ≠ number → result.get? other = table.get? other

/-! ## Paths between quotes -/

theorem undoubleBackslashes_doubleBackslashes (path : Text) :
    undoubleBackslashes (doubleBackslashes path) = path := by
  induction path with
  | nil => rfl
  | cons character rest ih =>
      rw [doubleBackslashes, List.flatMap_cons, ← doubleBackslashes]
      by_cases hbackslash : character = '\\'
      · -- a pair is undone before the rest is looked at, so a longer run is no exception
        rw [if_pos hbackslash, hbackslash]
        exact congrArg ('\\' :: ·) ih
      · rw [if_neg hbackslash, List.singleton_append, undoubleBackslashes, ih]
        exact fun _ hcharacter _ => hbackslash hcharacter

theorem mem_doubleBackslashes {path : Text} {character : Char} :
    character ∈ doubleBackslashes path ↔ character ∈ path := by
  unfold doubleBackslashes
  constructor
  · intro hmem
    obtain ⟨original, horiginal, hcharacter⟩ := List.mem_flatMap.mp hmem
    split_ifs at hcharacter with hbackslash
    · obtain rfl : character = '\\' := by simpa using hcharacter
      exact hbackslash ▸ horiginal
    · exact List.mem_singleton.mp hcharacter ▸ horiginal
  · intro hmem
    refine List.mem_flatMap.mpr ⟨character, hmem, ?_⟩
    split_ifs with hbackslash <;> simp [hbackslash]

theorem getLast?_doubleBackslashes (path : Text) :
    (doubleBackslashes path).getLast? = path.getLast? := by
  rcases List.eq_nil_or_concat' path with rfl | ⟨front, last, rfl⟩
  · rfl
  · rw [doubleBackslashes, List.flatMap_append, List.flatMap_singleton]
    split_ifs with hbackslash <;> simp [hbackslash]

theorem Text.Quotable.doubleBackslashes {path : Text} (hquotable : path.Quotable) :
    (doubleBackslashes path).Quotable where
  no_quote := mem_doubleBackslashes.not.mpr hquotable.no_quote
  last_ne_backslash := (getLast?_doubleBackslashes path).trans_ne hquotable.last_ne_backslash

theorem Text.trim_inQuotes {content : Text} (hquote : '"' ∉ content) :
    content.inQuotes.trim (· == '"') = content := by
  have hother : ∀ character ∈ content, (character == '"') = false := by
    intro character hmem
    rw [beq_eq_false_iff_ne]
    rintro rfl
    exact hquote hmem
  cases content with
  | nil => rfl
  | cons first rest =>
      have hfirst := hother first List.mem_cons_self
      rw [inQuotes, trim, List.dropWhile_cons_of_pos rfl, List.cons_append,
        List.dropWhile_cons_of_neg (by simp [hfirst]), ← List.cons_append]
      exact trimEnd_append (fun last hlast => hother last (List.mem_of_getLast? hlast)) (by simp)

theorem unquotePath_inQuotes {path : Text} (hquotable : path.Quotable) :
    unquotePath (doubleBackslashes path).inQuotes = path.map slashOf := by
  rw [unquotePath, Text.trim_inQuotes hquotable.doubleBackslashes.no_quote,
    undoubleBackslashes_doubleBackslashes]
  rfl

/-! ## The operands of a line -/

/-- The number under which a line with the given operands registers a file, and the
operands behind it. -/
def fileNumber : List Operand → Nat × List Operand
  | .number numeral :: operands => (numeral.value, operands)
  | operands => (0, operands)

/-- The name that the paths of a line give to a file. -/
def nameOfPaths (directive : NumericDirective) : List Text → Option Text
  | [] => none
  | [name] => some name
  | first :: second :: _ =>
    if directive = .cvFile then some first else some (joinPath first second)

theorem sourceName?_eq_nameOfPaths (text : Text) (directive : NumericDirective)
    (tokens : List Token) :
    sourceName? text directive tokens =
      nameOfPaths directive ((tokens.takeWhile (·.kind == .string)).map
        fun token => unquotePath (token.text text)) := rfl

/-- The paths among operands, up to the first one that is no string. -/
def leadingPaths (operands : List Operand) : List Text :=
  (operands.takeWhile (·.kind == .string)).map fun operand => unquotePath operand.spelling

@[simp] theorem leadingPaths_string (content : Text) (hquotable : content.Quotable)
    (parts : List Operand) :
    leadingPaths (.string content hquotable :: parts) =
      unquotePath content.inQuotes :: leadingPaths parts := rfl

/-- Of tokens only the kinds and the texts make a difference for the name of a file. -/
theorem sourceName?_eq_leadingPaths {text : Text} {tokens : List Token} {operands : List Operand}
    (htokens : tokens.map (fun token => (token.kind, token.text text)) =
      operands.map fun operand => (operand.kind, operand.spelling))
    (directive : NumericDirective) :
    sourceName? text directive tokens = nameOfPaths directive (leadingPaths operands) := by
  have hpaths := congrArg (fun pairs => (pairs.takeWhile (·.1 == .string)).map
    fun pair : TokenKind × Text => unquotePath pair.2) htokens
  simp only [List.takeWhile_map, List.map_map] at hpaths
  rw [sourceName?_eq_nameOfPaths]
  exact congrArg (nameOfPaths directive) hpaths

/-- Operands with one space before each of them. -/
def spacedFields (operands : List Operand) : List Field :=
  operands.map (Field.mk .single)

theorem texts_spacedFields (operands : List Operand) :
    Field.texts (spacedFields operands) = (operands.map Operand.spelling).flatMap (' ' :: ·) := by
  induction operands with
  | nil => rfl
  | cons operand operands ih =>
      rw [spacedFields, List.map_cons, ← spacedFields, Field.texts_cons, ih]
      rfl

theorem breaks_of_mem_lineEndings {ending : Text} (hending : ending ∈ lineEndings) :
    ending.Breaks := by
  simp only [lineEndings, List.mem_cons, List.not_mem_nil, or_false] at hending
  rcases hending with rfl | rfl | rfl | rfl <;> rintro _ ⟨⟩ <;> decide

theorem operands_tokens_lineEnding (dialect : Dialect) {ending : Text}
    (hending : ending ∈ lineEndings) (position : Nat) :
    operands ((Cursor.unpadded ending position).tokens dialect) = [] := by
  have hnone : ∀ later, (Cursor.unpadded [] later).tokens dialect = [] :=
    fun later => Cursor.tokens_eq_nil.mpr rfl
  have hbreak : dialect.Lexes .newLine ending [] →
      operands ((Cursor.unpadded ending position).tokens dialect) = [] := by
    intro hlexes
    have htokens := hlexes.tokens_eq rfl position
    rw [List.append_nil, hnone] at htokens
    rw [htokens]
    rfl
  simp only [lineEndings, List.mem_cons, List.not_mem_nil, or_false] at hending
  rcases hending with rfl | rfl | rfl | rfl
  · rw [hnone]
    rfl
  all_goals exact hbreak ⟨_, _, rfl, by cases dialect <;> rfl, by cases dialect <;> rfl⟩

/-- What a line registers by its operands: the number at their front, if there is one, and
the name that the strings behind it give. -/
theorem readFileLine_eq {text : Text} {tokens rest : List Token} {first : Token}
    {parts : List Operand} (hoperands : operands tokens = first :: rest)
    (hrest : rest.map (fun token => (token.kind, token.text text)) =
      parts.map fun part => (part.kind, part.spelling))
    (hnumber : ∀ numeral, parts.head? = some (.number numeral) → numeral.value < 4294967296) :
    readFileLine text tokens =
      .ok ((fileNumber parts).1,
        nameOfPaths (fileDirectiveOf text (some first)) (leadingPaths (fileNumber parts).2)) := by
  unfold readFileLine
  rw [hoperands]
  simp only [List.head?_cons, List.drop_one, List.tail_cons]
  cases parts with
  | nil =>
      obtain rfl := List.map_eq_nil_iff.mp hrest
      rfl
  | cons part parts =>
      obtain ⟨token, later, rfl, htoken, hlater⟩ := List.map_eq_cons_iff.mp hrest
      obtain ⟨hkind, htext⟩ := Prod.mk.inj htoken
      cases part with
      | number numeral =>
          have hisNumber : token.kind = .number := hkind
          have hlimit : numeral.value < numberLimit := hnumber numeral rfl
          simp only
          rw [if_pos hisNumber, readOperand_numeral htext, if_pos hlimit, Fallible.ok_bind,
            sourceName?_eq_leadingPaths hlater]
          rfl
      | string content hquotable =>
          -- without a number the first operand belongs to the name already
          have hisString : token.kind = .string := hkind
          simp only
          rw [if_neg (by simp [hisString]), sourceName?_eq_leadingPaths hrest]
          rfl

/-! ## Lines that register files -/

theorem fileDirectiveOf_some {text directive : Text} {token : Token}
    (htext : token.text text = directive) :
    fileDirectiveOf text (some token) =
      if directive = ".cv_file".toList then .cvFile else .file := by
  rw [← htext]
  rfl

theorem registers_of_readFileLine {dialect : Dialect} {line : Text} {number : Nat} {name : Text}
    (hread : readFileLine line (tokenize dialect line) = .ok (number, some name)) :
    Registers dialect line number name := by
  intro table files load
  refine ⟨_, by rw [SourceTable.register, hread]; rfl, ?_, ?_⟩
  · rw [Numbered.get?_insert, if_pos rfl]
    rfl
  · intro other hother
    rw [Numbered.get?_insert, if_neg hother]

/-- A line with a space before each operand registers what its operands say. -/
theorem registers_directiveLine (dialect : Dialect) {directive : Text}
    (hdirective : directive.isDirective = true) (parts : List Operand) {ending name : Text}
    (hending : ending ∈ lineEndings)
    (hnumber : ∀ numeral, parts.head? = some (.number numeral) → numeral.value < 4294967296)
    (hname : nameOfPaths (if directive = ".cv_file".toList then .cvFile else .file)
      (leadingPaths (fileNumber parts).2) = some name) :
    Registers dialect (directiveLine directive (parts.map Operand.spelling) ending)
      (fileNumber parts).1 name := by
  obtain ⟨first, htext, hoperands⟩ :=
    exists_operands_line dialect hdirective (spacedFields parts) (breaks_of_mem_lineEndings hending)
  have hparts := Field.map_tokens (spacedFields parts) ending directive
  rw [operands_tokens_lineEnding dialect hending, List.append_nil] at hoperands
  rw [texts_spacedFields, ← directiveLine] at htext hoperands hparts
  rw [spacedFields, List.map_map] at hparts
  apply registers_of_readFileLine
  rw [readFileLine_eq hoperands hparts hnumber, fileDirectiveOf_some htext, hname]

/-- Lines that register files mean the paths that are written in them.  A path without
quotes and without a backslash at its end is written between quotes with its backslashes
doubled; it is registered with slashes in their place, under the number of the line or
else under 0.  A directory before it is joined to a path that is not absolute, and a
checksum behind it makes no difference.  The files under other numbers stay as they are. -/
theorem file_lines_mean_their_paths (dialect : Dialect) {directory path checksum : Text}
    (hdirectory : directory.Quotable) (hpath : path.Quotable)
    (hchecksum : '"' ∉ checksum ∧ '\\' ∉ checksum) {number : Numeral}
    (hnumber : number.value < 4294967296) (checksumKind : Numeral) {ending : Text}
    (hending : ending ∈ lineEndings) :
    Registers dialect
      (directiveLine ".file".toList [number.digits, (doubleBackslashes directory).inQuotes,
        (doubleBackslashes path).inQuotes] ending)
      number.value
      (if (path.map slashOf).head? = some '/' ∨ directory.map slashOf = [] then
        path.map slashOf
      else
        (directory.map slashOf).rdropWhile (· == '/') ++ '/' :: path.map slashOf) ∧
    Registers dialect
      (directiveLine ".file".toList [number.digits, (doubleBackslashes path).inQuotes] ending)
      number.value (path.map slashOf) ∧
    Registers dialect
      (directiveLine ".file".toList [(doubleBackslashes path).inQuotes] ending)
      0 (path.map slashOf) ∧
    Registers dialect
      (directiveLine ".cv_file".toList [number.digits, (doubleBackslashes path).inQuotes,
        checksum.inQuotes, checksumKind.digits] ending)
      number.value (path.map slashOf) := by
  have hquotable : checksum.Quotable :=
    ⟨hchecksum.1, fun hlast => hchecksum.2 (List.mem_of_getLast? hlast)⟩
  have hbelow : ∀ {parts : List Operand} (numeral : Numeral),
      (Operand.number number :: parts).head? = some (.number numeral) →
        numeral.value < 4294967296 := by
    intro parts numeral hhead
    obtain rfl : number = numeral := by simpa using hhead
    exact hnumber
  have hfile : Text.isDirective ".file".toList = true := by decide
  have hcvFile : Text.isDirective ".cv_file".toList = true := by decide
  have hdifferent : ".file".toList ≠ ".cv_file".toList := by decide
  let directoryPart := Operand.string _ hdirectory.doubleBackslashes
  let pathPart := Operand.string _ hpath.doubleBackslashes
  let checksumPart := Operand.string _ hquotable
  refine ⟨?_, ?_, ?_, ?_⟩
  · apply registers_directiveLine dialect hfile [.number number, directoryPart, pathPart] hending
      hbelow
    simp only [fileNumber, if_neg hdifferent, directoryPart, pathPart, leadingPaths_string,
      unquotePath_inQuotes hdirectory, unquotePath_inQuotes hpath]
    rfl
  · apply registers_directiveLine dialect hfile [.number number, pathPart] hending hbelow
    simp only [fileNumber, pathPart, leadingPaths_string, unquotePath_inQuotes hpath]
    rfl
  · apply registers_directiveLine dialect hfile [pathPart] hending (by simp [pathPart])
    simp only [fileNumber, pathPart, leadingPaths_string, unquotePath_inQuotes hpath]
    rfl
  · apply registers_directiveLine dialect hcvFile
      [.number number, pathPart, checksumPart, .number checksumKind] hending hbelow
    simp only [fileNumber, pathPart, checksumPart, leadingPaths_string, unquotePath_inQuotes hpath,
      if_true]
    rfl

/-- The slash at the end of the directory is not doubled, and the backslashes are. -/
theorem file_lines_mean_their_paths_sample :
    Text.Quotable "C:\\src/".toList ∧ Text.Quotable "a\\b.c".toList ∧
    Registers .intel ".file 1 \"C:\\\\src/\" \"a\\\\b.c\"\n".toList 1 "C:/src/a/b.c".toList ∧
    Registers .intel ".cv_file 1 \"a\\\\b.c\" \"0A1B\" 3\n".toList 1 "a/b.c".toList := by
  have hdirectory : Text.Quotable "C:\\src/".toList := ⟨by decide, by decide⟩
  have hpath : Text.Quotable "a\\b.c".toList := ⟨by decide, by decide⟩
  have hending : ['\n'] ∈ lineEndings := by decide
  have hnumber : (Numeral.ofNat 1).value < 4294967296 := by decide
  obtain ⟨hjoined, -, -, hcodeView⟩ := file_lines_mean_their_paths .intel hdirectory hpath
    (show '"' ∉ "0A1B".toList ∧ '\\' ∉ "0A1B".toList by decide) hnumber
    (.ofNat 3) hending
  exact ⟨hdirectory, hpath, hjoined, hcodeView⟩

end AsmListing
