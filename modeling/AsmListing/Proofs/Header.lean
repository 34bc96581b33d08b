import AsmListing.Proofs.PhysicalLines

/-!
# A header that is left out might as well not be there

The first line of a listing is left out after lexing, not before: its tokens are
dropped, and the cursor goes on from where it is.  So all that follows has other
positions than it has alone, and whatever padding the header was owed stays in the
aligned positions.

A header without quotes and line breaks is one line of tokens together with its line
feed (`dropHeader_tokenize_append`), and lexing restarts after it.  What is left is
the body behind other text, and its analysis is the one it has alone, moved
(`analyze_header_append`).
-/

namespace AsmListing

/-- The analysis of a listing behind other text. -/
def Analysis.moved (distance shift : Nat) (analysis : Analysis) : Analysis :=
  { analysis with tokens := analysis.tokens.map (Token.moved distance shift) }

/-! ## The analysis of what is assembled -/

theorem Assembly.complete_moved (front : Text) (shift : Nat) (context : Context)
    (assembly : Assembly) :
    (assembly.moved front.byteSize shift).complete (context.behind front) =
      ((assembly.complete context).map (Analysis.moved front.byteSize shift)).mapError
        (ListingError.moved front.byteSize) := by
  have hresolve := assembly.labels.resolve_moved front context.text assembly.lines assembly.blocks
  have herror := assembly.labels.mapError_resolve front.byteSize context.text assembly.lines
    assembly.blocks
  simp only [complete, moved, Context.behind, hresolve]
  cases houtcome : Resolution.outcome
    (assembly.labels.resolve context.text assembly.lines assembly.blocks) with
  | error error =>
      rw [houtcome] at herror
      exact congrArg Except.error (Except.error.inj herror).symm
  | ok count => rfl

theorem Analysis.renderBlock_moved (analysis : Analysis) (front text : Text) (shift : Nat)
    (options : Options) (index : Nat) (colored : Bool) :
    ((analysis.moved front.byteSize shift).renderer (front ++ text) options).renderBlock index
        colored =
      (analysis.renderer text options).renderBlock index colored :=
  Renderer.renderBlock_moved front shift (analysis.renderer text options) index colored

/-! ## The tokens of a header -/

/-- The tokens of a line and its line break are dropped, and no more. -/
theorem dropHeader_append {tokens : List Token}
    (hline : tokens.IsChain fun token _ => token.kind != .newLine)
    (hlast : ∃ last ∈ tokens.getLast?, last.kind = .newLine) (later : List Token) :
    dropHeader (tokens ++ later) = later := by
  obtain ⟨last, hmem, hkind⟩ := hlast
  obtain ⟨earlier, rfl⟩ := List.getLast?_eq_some_iff.mp hmem
  have hearlier : ∀ token ∈ earlier, token.kind != .newLine := by
    intro token htoken
    obtain ⟨-, hother⟩ := exists_rel_of_mem_dropLast hline token (by simpa using htoken)
    exact hother
  rw [dropHeader, List.append_assoc, List.dropWhile_append_of_pos hearlier]
  simp [hkind]

theorem isLine_concat {header : Text} (hheader : ∀ character ∈ header, ¬ isLineBreak character)
    (final : Char) : Text.IsLine (header ++ [final]) := by
  induction header with
  | nil => exact .singleton final
  | cons character rest ih =>
      have hrest := ih fun other hother => hheader other (List.mem_cons_of_mem _ hother)
      refine List.isChain_cons.mpr ⟨fun next _ => ?_, hrest⟩
      have hbreak := hheader character List.mem_cons_self
      simp only [isLineBreak, Bool.or_eq_true, beq_iff_eq, not_or] at hbreak
      simp [staysInLine, hbreak]

section

variable {header : Text} (hquote : '"' ∉ header)
  (hbreak : ∀ character ∈ header, ¬ isLineBreak character)

include hquote hbreak

theorem dropHeader_tokenize_append (dialect : Dialect) (body : Text) :
    ∃ shift, dropHeader (tokenize dialect (header ++ ['\n'] ++ body)) =
      (tokenize dialect body).map (Token.moved (header ++ ['\n']).byteSize shift) := by
  have hline := isLine_concat hbreak '\n'
  have hfeed : (header ++ ['\n']).getLast? = some '\n' := List.getLast?_concat
  have hlast := Cursor.exists_newLine_getLast? dialect (.start (header ++ ['\n']))
    (by simpa [Cursor.start] using hquote) ⟨'\n', hfeed, by decide⟩
  obtain ⟨shift, htokens⟩ := exists_tokenize_append hlast (not_splitsPair_of_lineFeed hfeed body)
  refine ⟨shift, ?_⟩
  rw [htokens]
  exact dropHeader_append (Cursor.isChain_tokens dialect (.start _) hline) hlast _

/-! ## The analysis of the body -/

/-- Behind a header that is left out, the analysis of the body is moved. -/
theorem analyze_header_append (files : Files) (dialect : Dialect) (options : Options)
    (body : Text) :
    ∃ shift, analyze files dialect { options with skipHeaderLine := true }
        (header ++ ['\n'] ++ body) =
      ((analyze files dialect { options with skipHeaderLine := false } body).map
        (Analysis.moved (header ++ ['\n']).byteSize shift)).mapError
          (ListingError.moved (header ++ ['\n']).byteSize) := by
  obtain ⟨shift, htokens⟩ := dropHeader_tokenize_append hquote hbreak dialect body
  refine ⟨shift, ?_⟩
  generalize header ++ ['\n'] = front at htokens ⊢
  let context : Context := ⟨files, dialect, { options with skipHeaderLine := false }, body⟩
  let lines := listingLines dialect { options with skipHeaderLine := false } body
  have hlines : listingLines dialect { options with skipHeaderLine := true } (front ++ body) =
      lines.map (·.map (Token.moved front.byteSize shift)) := by
    simp only [lines, listingLines, htokens, ↓reduceIte, cutLines_moved]
    rfl
  calc analyze files dialect { options with skipHeaderLine := true } (front ++ body)
      = Assembly.start.addLines
          ⟨files, dialect, { options with skipHeaderLine := true }, front ++ body⟩
          (lines.map (·.map (Token.moved front.byteSize shift))) >>= fun assembled =>
            assembled.closeBlock.complete (context.behind front) := by
        rw [analyze_eq_addLines, hlines]
        rfl
    -- only whether the header is left out sets the options apart
    _ = (Assembly.start.moved front.byteSize shift).addLines (context.behind front)
          (lines.map (·.map (Token.moved front.byteSize shift))) >>= fun assembled =>
            assembled.closeBlock.complete (context.behind front) := by
        rw [Assembly.addLines_congr files dialect (front ++ body) rfl]
        rfl
    _ = ((Assembly.start.addLines context lines >>= fun assembled =>
          assembled.closeBlock.complete context).map (Analysis.moved front.byteSize shift)).mapError
            (ListingError.moved front.byteSize) := by
        rw [Assembly.addLines_moved]
        cases Assembly.start.addLines context lines with
        | error error => rfl
        | ok assembled =>
            rw [Fallible.ok_bind, ← Assembly.complete_moved, ← Assembly.closeBlock_moved]
            rfl

end

/-! ## What a header changes -/

/-- Leaving out a header, without quotes and line breaks, is as good as never having
had it.  With and without it, the analysis of the body fails with the same error, but
for the position, or it gives the same records, but for the positions of the tokens:
these are moved by the header and its line feed, and all aligned positions by the
same distance.  The blocks look the same. -/
theorem skipped_header_leaves_no_trace (files : Files) (dialect : Dialect) (options : Options)
    {header : Text} (hquote : '"' ∉ header) (hreturn : '\r' ∉ header) (hfeed : '\n' ∉ header)
    (body : Text) :
    (∃ directive spelling position cause,
      analyze files dialect { options with skipHeaderLine := false } body =
        .error (.malformedNumber directive spelling position cause) ∧
      analyze files dialect { options with skipHeaderLine := true } (header ++ '\n' :: body) =
        .error (.malformedNumber directive spelling (position + (header.byteSize + 1)) cause)) ∨
    ∃ analysis behind distance,
      analyze files dialect { options with skipHeaderLine := false } body = .ok analysis ∧
      analyze files dialect { options with skipHeaderLine := true } (header ++ '\n' :: body) =
        .ok behind ∧
      behind = { analysis with
        tokens := analysis.tokens.map fun token =>
          { token with
            position := token.position + (header.byteSize + 1)
            aligned := token.aligned + distance } } ∧
      ∀ index colored,
        (behind.renderer (header ++ '\n' :: body)
            { options with skipHeaderLine := true }).renderBlock index colored =
          (analysis.renderer body { options with skipHeaderLine := false }).renderBlock index
            colored := by
  have hbreak : ∀ character ∈ header, ¬ isLineBreak character := by
    intro character hmem
    rw [isLineBreak, Bool.or_eq_true, beq_iff_eq, beq_iff_eq]
    rintro (rfl | rfl)
    · exact hreturn hmem
    · exact hfeed hmem
  have hsize : (header ++ ['\n']).byteSize = header.byteSize + 1 := Text.byteSize_append ..
  have htext : header ++ ['\n'] ++ body = header ++ '\n' :: body := List.append_assoc ..
  obtain ⟨shift, hwhole⟩ := analyze_header_append hquote hbreak files dialect options body
  rw [hsize, htext] at hwhole
  cases hbody : analyze files dialect { options with skipHeaderLine := false } body with
  | error error =>
      obtain ⟨directive, spelling, position, cause, rfl⟩ := eq_malformedNumber_of_analyze hbody
      rw [hbody] at hwhole
      exact .inl ⟨directive, spelling, position, cause, rfl, hwhole⟩
  | ok analysis =>
      rw [hbody] at hwhole
      have hmoved : Token.moved (header.byteSize + 1) shift = fun token : Token =>
          { token with
            position := token.position + (header.byteSize + 1)
            aligned := token.aligned + (header.byteSize + 1 + shift) } := by
        funext token
        rw [Token.moved, Nat.add_assoc]
      refine .inr ⟨analysis, _, header.byteSize + 1 + shift, rfl, hwhole, ?_, ?_⟩
      · rw [← hmoved]
        rfl
      · intro index colored
        have hrender := analysis.renderBlock_moved (header ++ ['\n']) body shift options index
          colored
        rw [hsize, htext] at hrender
        exact hrender

set_option maxRecDepth 10000 in
/-- A mnemonic in the header, and a file, a location and a branch behind it. -/
theorem skipped_header_leaves_no_trace_sample :
    ∃ analysis behind distance,
      analyze .none .wasm { skipHeaderLine := false }
        ".file 1 \"a\"\r\n.loc 1 2\nf: br f".toList = .ok analysis ∧
      analyze .none .wasm { skipHeaderLine := true }
        ("nop é:".toList ++ '\n' :: ".file 1 \"a\"\r\n.loc 1 2\nf: br f".toList) = .ok behind ∧
      behind.lines = [⟨.located ⟨1, 2, 0⟩, 0, 6⟩, ⟨.labelDeclaration, 6, 5⟩] ∧
      behind.tokens = analysis.tokens.map fun token =>
        { token with position := token.position + 8, aligned := token.aligned + distance } := by
  have hlines : (analyze .none .wasm { skipHeaderLine := false }
      ".file 1 \"a\"\r\n.loc 1 2\nf: br f".toList).toOption.map (·.lines) =
        some [⟨.located ⟨1, 2, 0⟩, 0, 6⟩, ⟨.labelDeclaration, 6, 5⟩] := by
    decide +kernel
  obtain ⟨found, hfound, hlines⟩ := Option.map_eq_some_iff.mp hlines
  rw [Fallible.toOption_eq_some] at hfound
  obtain ⟨_, _, _, _, herror, -⟩ | ⟨analysis, behind, distance, hbody, hwhole, hmoved, -⟩ :=
    skipped_header_leaves_no_trace .none .wasm {} (show '"' ∉ "nop é:".toList by decide)
      (by decide) (by decide) ".file 1 \"a\"\r\n.loc 1 2\nf: br f".toList
  · exact absurd (hfound.symm.trans herror) (by simp)
  · obtain rfl : found = analysis := Except.ok.inj (hfound.symm.trans hbody)
    refine ⟨found, behind, distance, hbody, hwhole, ?_, ?_⟩
    · rw [hmoved]
      exact hlines
    · rw [hmoved]
      rfl

end AsmListing
