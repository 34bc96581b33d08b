import AsmListing.Proofs.Displacement
import AsmListing.Proofs.Extension

/-!
# Lines of a listing are lines of its text

The analysis cuts tokens into lines and never looks at the text for that.  In a
listing without quotes its lines are nevertheless those of the text, cut after each
line break (`Text.physicalLines`).

Two things could go wrong, and both are ruled out at a single call of the cursor.  A
token could swallow a line break; but only strings and line breaks hold such
characters (`Cursor.kind_of_lineBreak_mem`).  And a line break could be cut short, or
be taken for two; but a cursor that reads one in the middle of a physical line has
read all of the line (`Cursor.rest_of_newLine`).

So a physical line, lexed alone, is one line of tokens.  Lexing restarts after it
(`Cursor.tokens_extend`), and the induction over the physical lines carries this to
the whole listing (`map_tokenLines_flatten`).
-/

namespace AsmListing

/-- Whether a line goes on after a character, given the next one.  It ends after a
line feed, and after a carriage return that does not make one line break with a line
feed after it. -/
def staysInLine (character next : Char) : Bool :=
  !(character == '\n' || (character == '\r' && next != '\n'))

/-- The lines of a text, each with its line break. -/
def Text.physicalLines (text : Text) : List Text :=
  text.splitBy staysInLine

example : Text.physicalLines "a\r\nb\r\r\n\nc".toList =
    ["a\r\n".toList, "b\r".toList, "\r\n".toList, "\n".toList, "c".toList] := by
  decide

/-- A text that has no line break but at its end. -/
def Text.IsLine (text : Text) : Prop :=
  text.IsChain fun character next => staysInLine character next

/-! ## Tokens hold no line breaks -/

theorem isLineBreak_eq_false {continues : Char → Bool} (hreturn : continues '\r' = false)
    (hfeed : continues '\n' = false) {character : Char} (hcontinues : continues character) :
    isLineBreak character = false := by
  by_contra hbreak
  rw [Bool.not_eq_false, isLineBreak, Bool.or_eq_true, beq_iff_eq, beq_iff_eq] at hbreak
  rcases hbreak with rfl | rfl <;> simp_all

theorem isLineBreak_of_mem_cutWhile {continues : Char → Bool} (hreturn : continues '\r' = false)
    (hfeed : continues '\n' = false) (text : Text) :
    ∀ character ∈ (cutWhile continues text).1, isLineBreak character = false := by
  intro character hmem
  exact isLineBreak_eq_false hreturn hfeed (List.mem_takeWhile_imp hmem)

/-- A word is made of the characters that continue it, and of the one that may end it. -/
theorem Dialect.mem_cutWord (dialect : Dialect) {text : Text} {character : Char}
    (hmem : character ∈ (dialect.cutWord text).1) :
    dialect.isWordChar character ∨ dialect.endsWord character := by
  have hword : ∀ inside ∈ (cutWhile dialect.isWordChar text).1, dialect.isWordChar inside :=
    fun inside hinside => List.mem_takeWhile_imp hinside
  unfold Dialect.cutWord at hmem
  split at hmem
  · next body final rest hcut =>
      rw [hcut] at hword
      split at hmem
      · next hends =>
          rcases List.mem_append.mp hmem with hmem | hmem
          · exact .inl (hword character hmem)
          · obtain rfl := List.mem_singleton.mp hmem
            exact .inr hends
      · exact .inl (hword character hmem)
  · next body hcut =>
      rw [hcut] at hword
      exact .inl (hword character hmem)

theorem Dialect.isLineBreak_of_mem_cutWord (dialect : Dialect) (text : Text) :
    ∀ character ∈ (dialect.cutWord text).1, isLineBreak character = false := by
  intro character hmem
  rcases dialect.mem_cutWord hmem with hword | hends
  · refine isLineBreak_eq_false ?_ ?_ hword <;> cases dialect <;> decide
  · refine isLineBreak_eq_false ?_ ?_ hends <;> cases dialect <;> decide

/-- A token that starts with neither a quote nor a line break holds no line break. -/
theorem Dialect.isLineBreak_of_mem_extent (dialect : Dialect) {first : Char}
    (hquote : first ≠ '"') (hbreak : isLineBreak first = false) (text : Text) :
    ∀ character ∈ (dialect.extent first text).1, isLineBreak character = false := by
  unfold Dialect.extent
  cases hopening : dialect.opening first with
  | point => apply isLineBreak_of_mem_cutWhile <;> decide
  | word => exact dialect.isLineBreak_of_mem_cutWord text
  | number => apply isLineBreak_of_mem_cutWhile <;> decide
  | quote =>
      unfold Dialect.opening at hopening
      split_ifs at hopening
  | comment => apply isLineBreak_of_mem_cutWhile <;> decide
  | lineBreak =>
      rw [dialect.opening_eq_lineBreak, hbreak] at hopening
      contradiction
  | misc => apply isLineBreak_of_mem_cutWhile <;> simp [Dialect.startsToken, isLineBreak]

/-! ## One call of the cursor -/

namespace Cursor

variable {dialect : Dialect} {cursor following : Cursor} {token : Token}

/-- Without quotes, what holds a line break is a line break. -/
theorem kind_of_lineBreak_mem (hnext : cursor.next? dialect = some (token, following))
    (hquote : '"' ∉ cursor.rest) {spelling : Text}
    (hrest : cursor.rest = spelling ++ following.rest) {character : Char}
    (hmem : character ∈ spelling) (hbreak : isLineBreak character) : token.kind = .newLine := by
  obtain ⟨first, text, hfirst, -, -, -, hfollowing⟩ := exists_extent_of_next? hnext
  rw [kind_eq_newLine hnext]
  refine ⟨first, by simp [hfirst], ?_⟩
  by_contra hother
  rw [Bool.not_eq_true] at hother
  have hne : first ≠ '"' := by
    rintro rfl
    exact hquote (by simp [hfirst])
  have hspelling : spelling = first :: (dialect.extent first text).1 := by
    rw [hfirst, hfollowing] at hrest
    nth_rewrite 1 [← dialect.extent_append first text] at hrest
    exact (List.append_cancel_right hrest).symm
  rw [hspelling] at hmem
  rcases List.mem_cons.mp hmem with rfl | hmem
  · simp [hother] at hbreak
  · simp [dialect.isLineBreak_of_mem_extent hne hother text character hmem] at hbreak

/-- In a text with one line break at most, nothing is left once it has been read. -/
theorem rest_of_newLine (hnext : cursor.next? dialect = some (token, following))
    (hline : Text.IsLine cursor.rest) (hkind : token.kind = .newLine) :
    following.rest = [] := by
  obtain ⟨first, text, hfirst, -, -, -, hfollowing⟩ := exists_extent_of_next? hnext
  have hbreak : isLineBreak first := by simpa [hfirst] using (kind_eq_newLine hnext).mp hkind
  have hopening := (dialect.opening_eq_lineBreak first).mpr hbreak
  rw [hfollowing, Dialect.extent, hopening]
  simp only [cutLineBreak_eq]
  rw [hfirst] at hline
  cases text with
  | nil => simp
  | cons second rest =>
      obtain ⟨hstays, hrest⟩ := List.isChain_cons_cons.mp hline
      -- the line goes on after its line break, so that is a pair
      obtain ⟨rfl, rfl⟩ : first = '\r' ∧ second = '\n' := by
        simp_all [staysInLine, isLineBreak]
      cases rest with
      | nil => simp
      | cons third rest => simp [staysInLine] at hrest

/-! ## A whole run -/

/-- No token of a physical line but the last one is a line break. -/
theorem isChain_tokens (dialect : Dialect) (cursor : Cursor) :
    Text.IsLine cursor.rest →
      (cursor.tokens dialect).IsChain fun token _ => token.kind != .newLine := by
  fun_induction tokens dialect cursor with
  | case1 cursor hnext => exact fun _ => .nil
  | case2 cursor token following hnext ih =>
      intro hline
      obtain ⟨spelling, -, hrest, -⟩ := next?_eq_some hnext
      have hlater : Text.IsLine following.rest := by
        rw [Text.IsLine, hrest] at hline
        exact (List.isChain_append.mp hline).2.1
      refine List.isChain_cons.mpr ⟨fun next hmem => ?_, ih hlater⟩
      rw [bne_iff_ne]
      intro hkind
      rw [tokens_eq_nil.mpr (rest_of_newLine hnext hline hkind)] at hmem
      simp at hmem

/-- The last token of a text without quotes that ends in a line break is that. -/
theorem exists_newLine_getLast? (dialect : Dialect) (cursor : Cursor) :
    '"' ∉ cursor.rest → (∃ final ∈ cursor.rest.getLast?, isLineBreak final) →
      ∃ last ∈ (cursor.tokens dialect).getLast?, last.kind = .newLine := by
  fun_induction tokens dialect cursor with
  | case1 cursor hnext =>
      rintro - ⟨final, hfinal, -⟩
      simp [next?_eq_none.mp hnext] at hfinal
  | case2 cursor token following hnext ih =>
      rintro hquote ⟨final, hfinal, hbreak⟩
      obtain ⟨spelling, -, hrest, -⟩ := next?_eq_some hnext
      by_cases hnil : following.rest = []
      · have hmem : final ∈ spelling := by
          rw [hrest, hnil, List.append_nil] at hfinal
          exact List.mem_of_getLast? hfinal
        refine ⟨token, ?_, kind_of_lineBreak_mem hnext hquote hrest hmem hbreak⟩
        rw [tokens_eq_nil.mpr hnil]
        rfl
      · have hlater : '"' ∉ following.rest := fun hmem =>
          hquote (by rw [hrest]; exact List.mem_append_right _ hmem)
        rw [hrest, List.getLast?_append_of_ne_nil _ hnil] at hfinal
        obtain ⟨last, hlast, hkind⟩ := ih hlater ⟨final, hfinal, hbreak⟩
        refine ⟨last, ?_, hkind⟩
        rw [List.getLast?_cons, Option.mem_def.mp hlast]
        rfl

end Cursor

/-! ## Line by line -/

/-- A physical line is one line of tokens. -/
theorem tokenLines_tokenize_of_isLine (dialect : Dialect) {line : Text} (hne : line ≠ [])
    (hline : line.IsLine) :
    tokenLines (tokenize dialect line) = [tokenize dialect line] :=
  List.splitBy_of_isChain (Cursor.tokens_eq_nil.not.mpr hne)
    (Cursor.isChain_tokens dialect (.start line) hline)

theorem flatMap_text_tokenize (dialect : Dialect) (text : Text) :
    (tokenize dialect text).flatMap (·.text text) = text := by
  rw [List.flatMap_def]
  exact (tiles_tokenize dialect text).flatten_texts [] rfl

/-- Lexing goes on after a line break as it would at the start, with all tokens moved. -/
theorem exists_tokenize_append {dialect : Dialect} {front back : Text}
    (hlast : ∃ last ∈ (tokenize dialect front).getLast?, last.kind = .newLine)
    (hpair : ¬ SplitsPair front back) :
    ∃ shift, tokenize dialect (front ++ back) = tokenize dialect front ++
      (tokenize dialect back).map (Token.moved front.byteSize shift) := by
  obtain ⟨shift, htokens⟩ := (Cursor.start front).tokens_extend back hlast hpair
  refine ⟨shift, ?_⟩
  rw [Cursor.tokens_eq_map_moved, Cursor.start, Nat.zero_add] at htokens
  exact htokens

theorem tokenLines_moved (distance shift : Nat) (tokens : List Token) :
    tokenLines (tokens.map (Token.moved distance shift)) =
      (tokenLines tokens).map (·.map (Token.moved distance shift)) := by
  rw [← cutLines_eq_tokenLines, ← cutLines_eq_tokenLines, cutLines_moved]

/-- Where a line ends, there is a line break, and not in the middle of a pair. -/
theorem staysInLine_eq_false {character next : Char} (hends : staysInLine character next = false) :
    isLineBreak character ∧ ¬ (character = '\r' ∧ next = '\n') := by
  simp only [staysInLine, isLineBreak] at hends ⊢
  grind

/-- The text of a line of tokens, and the kind that they give it. -/
def textAndKind (text : Text) (tokens : List Token) : Text × LineKind :=
  (tokens.flatMap (·.text text), lineKind tokens)

theorem textAndKind_tokenize (dialect : Dialect) (text : Text) :
    textAndKind text (tokenize dialect text) = (text, lineKind (tokenize dialect text)) := by
  rw [textAndKind, flatMap_text_tokenize]

theorem textAndKind_moved (front text : Text) (shift : Nat) (tokens : List Token) :
    textAndKind (front ++ text) (tokens.map (Token.moved front.byteSize shift)) =
      textAndKind text tokens := by
  rw [textAndKind, textAndKind, lineKind_moved, List.flatMap_map]
  simp only [Token.text_moved]

/-- A physical line comes first, and the lines after it are as they would be alone. -/
theorem map_tokenLines_append {dialect : Dialect} {line back : Text} (hquote : '"' ∉ line)
    (hne : line ≠ []) (hline : line.IsLine)
    (hbreak : ∃ final ∈ line.getLast?, isLineBreak final) (hpair : ¬ SplitsPair line back) :
    (tokenLines (tokenize dialect (line ++ back))).map (textAndKind (line ++ back)) =
      (line, lineKind (tokenize dialect line)) ::
        (tokenLines (tokenize dialect back)).map (textAndKind back) := by
  have hlast := Cursor.exists_newLine_getLast? dialect (.start line) hquote hbreak
  obtain ⟨shift, htokens⟩ := exists_tokenize_append hlast hpair
  have hfront : ∀ last ∈ (tokenize dialect line).getLast?, last.kind = .newLine := by
    obtain ⟨found, hfound, hkind⟩ := hlast
    intro last hmem
    rwa [Option.mem_unique hmem hfound]
  have hown : textAndKind (line ++ back) (tokenize dialect line) =
      (line, lineKind (tokenize dialect line)) := by
    rw [← textAndKind_tokenize, textAndKind, textAndKind, List.flatMap_def, List.flatMap_def]
    congr 2
    exact List.map_congr_left fun token htoken => text_append_of_mem_tokenize htoken back
  rw [htokens, tokenLines_append hfront, tokenLines_moved,
    tokenLines_tokenize_of_isLine dialect hne hline, List.singleton_append, List.map_cons, hown,
    List.map_map]
  simp only [Function.comp_def, textAndKind_moved]

/-- The lines of tokens are the physical lines.  The induction is over the latter. -/
theorem map_tokenLines_flatten (dialect : Dialect) {lines : List Text}
    (hquote : '"' ∉ lines.flatten) (hnil : [] ∉ lines) (hlines : ∀ line ∈ lines, line.IsLine)
    (hends : lines.IsChain fun line next =>
      ∃ hne hnext, staysInLine (line.getLast hne) (next.head hnext) = false) :
    (tokenLines (tokenize dialect lines.flatten)).map (textAndKind lines.flatten) =
      lines.map fun line => (line, lineKind (tokenize dialect line)) := by
  induction lines with
  | nil =>
      have hempty : tokenize dialect [] = [] := Cursor.tokens_eq_nil.mpr rfl
      simp [hempty, tokenLines]
  | cons line rest ih =>
      have hne : line ≠ [] := by
        rintro rfl
        exact hnil List.mem_cons_self
      have hline := hlines line List.mem_cons_self
      cases rest with
      | nil =>
          rw [List.flatten_singleton, tokenLines_tokenize_of_isLine dialect hne hline,
            List.map_singleton, textAndKind_tokenize]
          rfl
      | cons next others =>
          obtain ⟨⟨_, hnext, hend⟩, hlater⟩ := List.isChain_cons_cons.mp hends
          obtain ⟨hbreak, hpair⟩ := staysInLine_eq_false hend
          have hfinal := List.getLast?_eq_some_getLast hne
          have hhead : (next :: others).flatten.head? = some (next.head hnext) := by
            rw [List.flatten_cons, List.head?_append_of_ne_nil _ hnext, List.head?_eq_some_head]
          have hparted : ¬ SplitsPair line (next :: others).flatten := by
            rw [SplitsPair, hfinal, hhead, Option.some.injEq, Option.some.injEq]
            exact hpair
          rw [List.flatten_cons, List.mem_append, not_or] at hquote
          have hrest := ih hquote.2 (fun hmem => hnil (List.mem_cons_of_mem _ hmem))
            (fun other hother => hlines other (List.mem_cons_of_mem _ hother)) hlater
          rw [List.flatten_cons,
            map_tokenLines_append hquote.1 hne hline ⟨_, hfinal, hbreak⟩ hparted, hrest]
          rfl

theorem map_tokenLines_tokenize (dialect : Dialect) {text : Text} (hquote : '"' ∉ text) :
    (tokenLines (tokenize dialect text)).map (textAndKind text) =
      text.physicalLines.map fun line => (line, lineKind (tokenize dialect line)) := by
  have hflatten := List.flatten_splitBy staysInLine text
  have hlines := map_tokenLines_flatten dialect (by rwa [hflatten])
    (List.nil_notMem_splitBy staysInLine text) (fun line => List.isChain_of_mem_splitBy)
    (List.isChain_getLast_head_splitBy staysInLine text)
  rwa [hflatten] at hlines

/-! ## The lines of an analysis -/

theorem map_text_tokenLines (dialect : Dialect) {text : Text} (hquote : '"' ∉ text) :
    ((tokenLines (tokenize dialect text)).filter (lineKind · ≠ .sourceFile)).map
        (·.flatMap (·.text text)) =
      text.physicalLines.filter fun line => lineKind (tokenize dialect line) ≠ .sourceFile := by
  calc ((tokenLines (tokenize dialect text)).filter (lineKind · ≠ .sourceFile)).map
        (·.flatMap (·.text text))
      = (((tokenLines (tokenize dialect text)).map (textAndKind text)).filter
          (·.2 ≠ .sourceFile)).map Prod.fst := by
        rw [List.filter_map, List.map_map]
        rfl
    _ = ((text.physicalLines.map fun line => (line, lineKind (tokenize dialect line))).filter
          (·.2 ≠ .sourceFile)).map Prod.fst := by
        rw [map_tokenLines_tokenize dialect hquote]
    _ = text.physicalLines.filter fun line => lineKind (tokenize dialect line) ≠ .sourceFile := by
        rw [List.filter_map, List.map_map]
        exact List.map_id _

theorem StoredLine.flatMap_text_tokens (line : StoredLine) (text : Text) :
    line.tokens.flatMap (·.text text) = line.source.flatMap (·.text text) := by
  rw [List.flatMap_def, List.flatMap_def,
    map_eq_of_relabels (fun _ _ hrelabels => hrelabels.text_eq text) line.forall₂_relabels_tokens]

/-- The lines of a listing without quotes are the lines of its text, but for those
that register files.  The kind of a line is the one that it has by itself. -/
theorem lines_eq_physicalLines {files : Files} {dialect : Dialect} {options : Options}
    {text : Text} {analysis : Analysis}
    (hanalysis : analyze files dialect options text = .ok analysis)
    (hheader : options.skipHeaderLine = false) (hquote : '"' ∉ text) :
    analysis.lines.map (fun line =>
        (line.tokens? analysis.tokens).map (·.flatMap (·.text text))) =
      (text.physicalLines.filter fun line =>
        lineKind (tokenize dialect line) ≠ .sourceFile).map some ∧
    (tokenLines (tokenize dialect text)).map lineKind =
      text.physicalLines.map fun line => lineKind (tokenize dialect line) := by
  obtain ⟨read, hread, hlaid⟩ := exists_laidOut hanalysis
  have hkept : read.2.map StoredLine.source =
      (tokenLines (tokenize dialect text)).filter (lineKind · ≠ .sourceFile) := by
    rw [map_source_eq_keptLines hread, keptLines, bodyTokens, hheader]
    rfl
  constructor
  · calc analysis.lines.map (fun line =>
          (line.tokens? analysis.tokens).map (·.flatMap (·.text text)))
        = (analysis.lines.map (·.tokens? analysis.tokens)).map
            (Option.map (·.flatMap (·.text text))) := by
          rw [List.map_map]
          rfl
      _ = ((read.2.map StoredLine.source).map (·.flatMap (·.text text))).map some := by
          rw [hlaid.map_tokens?]
          simp only [List.map_map, Function.comp_def, Option.map_some,
            StoredLine.flatMap_text_tokens]
      _ = (text.physicalLines.filter fun line =>
        lineKind (tokenize dialect line) ≠ .sourceFile).map some := by
          rw [hkept, map_text_tokenLines dialect hquote]
  · have hkinds := congrArg (List.map Prod.snd) (map_tokenLines_tokenize dialect hquote)
    rw [List.map_map, List.map_map] at hkinds
    exact hkinds

set_option maxRecDepth 10000 in
/-- The three forms of line breaks, a file that is registered between them, and a last
line without any. -/
theorem lines_eq_physicalLines_sample :
    ∃ analysis, analyze .none .wasm {} "f:\r\n nop\r.file 1\n\n# é".toList = .ok analysis ∧
      analysis.lines.map (fun line => (line.tokens? analysis.tokens).map
          (·.flatMap (·.text "f:\r\n nop\r.file 1\n\n# é".toList))) =
        [some "f:\r\n".toList, some " nop\r".toList, some "\n".toList, some "# é".toList] := by
  have hlines : (Text.physicalLines "f:\r\n nop\r.file 1\n\n# é".toList).filter
      (fun line => lineKind (tokenize .wasm line) ≠ .sourceFile) =
      ["f:\r\n".toList, " nop\r".toList, "\n".toList, "# é".toList] := by
    decide +kernel
  have hok : (analyze .none .wasm {} "f:\r\n nop\r.file 1\n\n# é".toList).toOption.isSome := by
    decide +kernel
  obtain ⟨analysis, hanalysis⟩ := Option.isSome_iff_exists.mp hok
  rw [Fallible.toOption_eq_some] at hanalysis
  refine ⟨analysis, hanalysis, ?_⟩
  rw [(lines_eq_physicalLines hanalysis rfl (by decide)).1, hlines]
  rfl

end AsmListing
