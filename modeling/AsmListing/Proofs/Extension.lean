import AsmListing.Proofs.Borders
import AsmListing.Proofs.Displacement
import AsmListing.Proofs.Failures
import AsmListing.Proofs.Restart
import AsmListing.Proofs.Spans
import Mathlib.Data.List.TakeWhile

/-!
# What is written later changes nothing before it

A listing that ends in a line feed is analyzed together with more text after it.
Its own lines come out as if it stood alone:

* its tokens are the same (`Cursor.tokens_extend`), and so are its lines
  (`listingLines_append`);
* the lines are read from the texts of their tokens alone (`readLine_congr`), in
  order, and a line is read against the files registered before it
  (`readLines_append`);
* all records but the edges are functions of the lines that were read, and a block
  that another one follows is complete (`exists_splitBy_append`).

So an error in the listing remains the error, and its records remain the first
ones (`Analysis.Continues`).  Only its last block can grow.
-/

namespace AsmListing

/-- `whole.Continues first`: the records of `first` are the first records of `whole`.
Every block starts where it started, and only the last one may have become
longer. -/
structure Analysis.Continues (whole first : Analysis) : Prop where
  tokens_kept : first.tokens <+: whole.tokens
  lines_kept : first.lines <+: whole.lines
  registers_eq : ∀ index < first.lines.length,
    whole.registers.get? index = first.registers.get? index
  captions_eq : ∀ index < first.lines.length,
    whole.captions.get? index = first.captions.get? index
  blocks_grow : ∀ (index : Nat) (block : Block), first.blocks[index]? = some block →
    ∃ span grown grownSpan, first.spans[index]? = some span ∧
      whole.blocks[index]? = some grown ∧ whole.spans[index]? = some grownSpan ∧
      grown.lineIndex = block.lineIndex ∧ block.length ≤ grown.length ∧
      grownSpan.start = span.start ∧
      (index + 1 < first.blocks.length → grown.bare = block.bare ∧ grownSpan = span)

/-! ## Lines -/

theorem tokenLines_append {front : List Token}
    (hfront : ∀ last ∈ front.getLast?, last.kind = .newLine) (back : List Token) :
    tokenLines (front ++ back) = tokenLines front ++ tokenLines back :=
  List.splitBy_append fun last hlast _ _ => by simp [hfront last hlast]

theorem bodyTokens_append (options : Options) {front : List Token}
    (hbreak : ∃ token ∈ front, token.kind = .newLine) (back : List Token) :
    bodyTokens options (front ++ back) = bodyTokens options front ++ back := by
  unfold bodyTokens
  split
  · have hne : front.dropWhile (·.kind != .newLine) ≠ [] := by
      intro hnil
      obtain ⟨token, htoken, hkind⟩ := hbreak
      have hall := List.dropWhile_eq_nil_iff.mp hnil token htoken
      simp [hkind] at hall
    rw [List.dropWhile_append, if_neg (by simpa using hne), List.tail_append_of_ne_nil hne]
  · rfl

section

variable {dialect : Dialect} {front : Text}

theorem tokenize_append
    (hlast : ∃ last ∈ (tokenize dialect front).getLast?, last.kind = .newLine)
    (hfeed : front.getLast? = some '\n') (back : Text) :
    ∃ later, tokenize dialect (front ++ back) = tokenize dialect front ++ later := by
  obtain ⟨shift, htokens⟩ := (Cursor.start front).tokens_extend back hlast
    (not_splitsPair_of_lineFeed hfeed back)
  exact ⟨_, htokens⟩

/-- The lines of a listing come first. -/
theorem listingLines_append
    (hlast : ∃ last ∈ (tokenize dialect front).getLast?, last.kind = .newLine)
    (hfeed : front.getLast? = some '\n') (options : Options) (back : Text) :
    ∃ later, listingLines dialect options (front ++ back) =
      listingLines dialect options front ++ later := by
  obtain ⟨later, htokens⟩ := tokenize_append hlast hfeed back
  obtain ⟨last, hmem, hkind⟩ := hlast
  obtain ⟨header, hheader, -⟩ := exists_header options (tokenize dialect front)
  -- without the header line too, the last token is the line break, if any is left
  have hbody : ∀ final ∈ (bodyTokens options (tokenize dialect front)).getLast?,
      final.kind = .newLine := by
    intro final hfinal
    rw [hheader, List.getLast?_append, hfinal] at hmem
    obtain rfl : final = last := by simpa using hmem
    exact hkind
  refine ⟨tokenLines later, ?_⟩
  rw [listingLines_eq, listingLines_eq, htokens,
    bodyTokens_append options ⟨last, List.mem_of_getLast? hmem, hkind⟩, tokenLines_append hbody]

theorem text_append_of_mem_tokenize {token : Token} (htoken : token ∈ tokenize dialect front)
    (back : Text) : token.text (front ++ back) = token.text front := by
  obtain ⟨spelling, -, hspells⟩ := exists_spells_of_mem_tokenize htoken
  rw [(hspells.append back).text_eq, hspells.text_eq]

end

/-! ## Reading lines by the texts of their tokens -/

section

variable {text other : Text} {tokens : List Token}

/-- What is read of a line depends on the texts of its tokens and on nothing else of
the listing. -/
theorem readLine_congr (files : Files) (dialect : Dialect) (options : Options)
    (sources : SourceTable) (htokens : ∀ token ∈ tokens, token.text text = token.text other) :
    readLine ⟨files, dialect, options, text⟩ sources tokens =
      readLine ⟨files, dialect, options, other⟩ sources tokens := by
  have hrespells : Respells other text 0 id tokens := ⟨fun _ _ => rfl, htokens, fun _ _ => rfl⟩
  have hregister := hrespells.register_map sources files options.loadSourceFiles
  have hlocation := hrespells.readLocation_map
  rw [List.map_id, mapError_moved_zero] at hregister hlocation
  simp only [readLine, hregister, hlocation]

theorem readLines_congr (files : Files) (dialect : Dialect) (options : Options)
    {groups : List (List Token)}
    (hgroups : ∀ group ∈ groups, ∀ token ∈ group, token.text text = token.text other) :
    ∀ sources : SourceTable, readLines ⟨files, dialect, options, text⟩ sources groups =
      readLines ⟨files, dialect, options, other⟩ sources groups := by
  induction groups with
  | nil => intro sources; rfl
  | cons group rest ih =>
      intro sources
      have hrest := ih fun later hlater => hgroups later (List.mem_cons_of_mem _ hlater)
      simp only [readLines, readLine_congr files dialect options sources
        (hgroups group List.mem_cons_self), hrest]

/-- Reading goes on with the files that are registered by then. -/
theorem readLines_append (context : Context) (front back : List (List Token)) :
    ∀ sources : SourceTable, readLines context sources (front ++ back) =
      readLines context sources front >>= fun read =>
        (readLines context read.1 back).map fun following =>
          (following.1, read.2 ++ following.2) := by
  induction front with
  | nil =>
      intro sources
      simp only [List.nil_append, readLines, Fallible.ok_bind]
      cases readLines context sources back <;> rfl
  | cons tokens rest ih =>
      intro sources
      simp only [List.cons_append, readLines, ih]
      cases readLine context sources tokens with
      | error error => rfl
      | ok read =>
          simp only [Fallible.ok_bind]
          cases readLines context read.1 rest with
          | error error => rfl
          | ok following =>
              simp only [Fallible.ok_bind]
              cases readLines context following.1 back with
              | error error => rfl
              | ok final => simp

end

/-- A listing with more text after it is read as it is alone, and then on from
there. -/
theorem readLines_listingLines_append {dialect : Dialect} {front : Text}
    (hlast : ∃ last ∈ (tokenize dialect front).getLast?, last.kind = .newLine)
    (hfeed : front.getLast? = some '\n') (files : Files) (options : Options) (back : Text) :
    ∃ later, readLines ⟨files, dialect, options, front ++ back⟩ .empty
        (listingLines dialect options (front ++ back)) =
      readLines ⟨files, dialect, options, front⟩ .empty (listingLines dialect options front) >>=
        fun read => (readLines ⟨files, dialect, options, front ++ back⟩ read.1 later).map
          fun following => (following.1, read.2 ++ following.2) := by
  obtain ⟨later, hlines⟩ := listingLines_append hlast hfeed options back
  have htexts : ∀ group ∈ listingLines dialect options front, ∀ token ∈ group,
      token.text (front ++ back) = token.text front := by
    intro group hgroup token htoken
    apply text_append_of_mem_tokenize
    exact mem_tokenize_of_mem_listingLines hgroup token htoken
  refine ⟨later, ?_⟩
  rw [hlines, readLines_append, readLines_congr files dialect options htexts]

/-! ## Cutting a longer list -/

section

variable {α : Type} {related : α → α → Bool}

/-- A list of related items is not cut, and may go on. -/
theorem exists_splitBy_append_of_isChain {back : List α} :
    ∀ {part : List α}, part ≠ [] → part.IsChain (fun item next => related item next) →
      ∃ more rest, (part ++ back).splitBy related = (part ++ more) :: rest := by
  induction back with
  | nil =>
      intro part hne hchain
      exact ⟨[], [], by simp [List.splitBy_of_isChain hne hchain]⟩
  | cons item back ih =>
      intro part hne hchain
      have hlast := List.getLast?_eq_some_getLast hne
      cases hrelated : related (part.getLast hne) item with
      | true =>
          have hlonger : (part ++ [item]).IsChain fun item next => related item next :=
            List.isChain_append.mpr ⟨hchain, .singleton _, by simp [hlast, hrelated]⟩
          obtain ⟨more, rest, hsplit⟩ := ih (by simp) hlonger
          exact ⟨item :: more, rest, by simpa using hsplit⟩
      | false =>
          refine ⟨[], (item :: back).splitBy related, ?_⟩
          rw [List.splitBy_append (by simp [hlast, hrelated]),
            List.splitBy_of_isChain hne hchain]
          simp

/-- What stands before a part is cut on its own. -/
theorem splitBy_append_of_splitBy {front : List α} {before after : List (List α)} {part : List α}
    (hsplit : front.splitBy related = before ++ part :: after) (back : List α) :
    (front ++ back).splitBy related =
      before ++ (part ++ (after.flatten ++ back)).splitBy related := by
  have hne := ne_nil_of_splitBy_eq_append hsplit
  have hfront : front = before.flatten ++ (part ++ after.flatten) := by
    rw [← List.flatten_splitBy related front, hsplit]
    simp
  have hbefore : before.flatten.splitBy related = before := by
    have hchain := List.isChain_getLast_head_splitBy related front
    have hmem : ∀ block ∈ before, block ∈ front.splitBy related := by
      intro block hblock
      rw [hsplit]
      exact List.mem_append_left _ hblock
    rw [hsplit] at hchain
    apply List.splitBy_flatten
    · intro hnil
      exact List.nil_notMem_splitBy related front (hmem [] hnil)
    · intro block hblock
      exact List.isChain_of_mem_splitBy (hmem block hblock)
    · exact hchain.left_of_append
  have hborder : ∀ last ∈ before.flatten.getLast?,
      ∀ head ∈ (part ++ (after.flatten ++ back)).head?, related last head = false := by
    intro last hlast head hhead
    rw [List.head?_append_of_ne_nil _ hne] at hhead
    exact related_eq_false_of_append hsplit hlast hhead
  calc (front ++ back).splitBy related
      = (before.flatten ++ (part ++ (after.flatten ++ back))).splitBy related := by
        rw [hfront]
        simp only [List.append_assoc]
    _ = before ++ (part ++ (after.flatten ++ back)).splitBy related := by
        rw [List.splitBy_append hborder, hbefore]

/-- The parts of a list are those of every longer list, except that the last one may
go on. -/
theorem exists_splitBy_append {front : List α} {before after : List (List α)} {part : List α}
    (hsplit : front.splitBy related = before ++ part :: after) (back : List α) :
    ∃ more rest, (front ++ back).splitBy related = before ++ (part ++ more) :: rest ∧
      (after ≠ [] → more = []) := by
  cases after with
  | nil =>
      have hchain : part.IsChain fun item next => related item next := by
        apply List.isChain_of_mem_splitBy (l := front)
        rw [hsplit]
        exact List.mem_append_right _ List.mem_cons_self
      obtain ⟨more, rest, hmore⟩ := exists_splitBy_append_of_isChain
        (ne_nil_of_splitBy_eq_append hsplit) hchain
      refine ⟨more, rest, ?_, fun hne => absurd rfl hne⟩
      rw [splitBy_append_of_splitBy hsplit, List.flatten_nil, List.nil_append, hmore]
  | cons next later =>
      -- the part is complete, since the next one has begun
      have hnext : front.splitBy related = (before ++ [part]) ++ next :: later := by
        rw [hsplit, List.append_assoc, List.singleton_append]
      refine ⟨[], (next ++ (later.flatten ++ back)).splitBy related, ?_, fun _ => rfl⟩
      rw [splitBy_append_of_splitBy hnext, List.append_nil, List.append_assoc,
        List.singleton_append]

end

/-! ## Records -/

theorem StoredLine.registers_congr {text other : Text} {line : StoredLine}
    (hsource : ∀ token ∈ line.source, token.text text = token.text other) :
    line.registers text = line.registers other := by
  refine List.map_congr_left fun token htoken => ?_
  obtain ⟨index, hindex⟩ := List.mem_iff_getElem?.mp (List.mem_of_mem_filter htoken)
  obtain ⟨source, hfound, hrelabels⟩ :=
    exists_getElem?_of_forall₂ line.forall₂_relabels_tokens hindex
  rw [hrelabels.text_eq, hrelabels.text_eq, hsource source (List.mem_of_getElem? hfound)]

namespace LaidOut

/-- A part of the lines has a record of a block and a span. -/
theorem exists_record {context : Context} {read : SourceTable × List StoredLine}
    {analysis : Analysis} (hlaid : LaidOut context read analysis)
    {before after : List (List StoredLine)} {part : List StoredLine}
    (hsplit : read.2.splitBy joins = before ++ part :: after) :
    (∃ record, analysis.blocks[before.length]? = some record ∧
      record.bare = ⟨(contentOf part).blockKind (if before.isEmpty then .block else .none),
        before.flatten.length, part.length, []⟩) ∧
    analysis.spans[before.length]? =
      some ⟨shownLength context.dialect before.flatten,
        shownLength context.dialect before.flatten + shownLength context.dialect part⟩ := by
  constructor
  · have hrecord := getElem?_blockRecords before after part
    rw [← hsplit, ← hlaid.blocks_eq, List.getElem?_map] at hrecord
    exact Option.map_eq_some_iff.mp hrecord
  · rw [hlaid.spans_eq, hsplit, getElem?_spanRecords]

variable {files : Files} {dialect : Dialect} {options : Options} {front back : Text}
  {read following : SourceTable × List StoredLine} {first whole : Analysis}

theorem get?_registers_eq (hfirst : LaidOut ⟨files, dialect, options, front⟩ read first)
    (hwhole : LaidOut ⟨files, dialect, options, front ++ back⟩
      (following.1, read.2 ++ following.2) whole)
    (hmem : ∀ line ∈ read.2, ∀ token ∈ line.source, token ∈ tokenize dialect front) {index : Nat}
    (hindex : index < read.2.length) :
    whole.registers.get? index = first.registers.get? index := by
  rw [hfirst.registers_eq, hwhole.registers_eq, get?_registerRecords, get?_registerRecords,
    List.getElem?_append_left hindex]
  cases hstored : read.2[index]? with
  | none => rfl
  | some line =>
      have htexts : ∀ token ∈ line.source, token.text (front ++ back) = token.text front := by
        intro token htoken
        apply text_append_of_mem_tokenize
        exact hmem line (List.mem_of_getElem? hstored) token htoken
      simp only [Option.map_some, line.registers_congr htexts]

/-- A block starts where it started, and grows only if it was the last one. -/
theorem exists_grown (hfirst : LaidOut ⟨files, dialect, options, front⟩ read first)
    (hwhole : LaidOut ⟨files, dialect, options, front ++ back⟩
      (following.1, read.2 ++ following.2) whole) {index : Nat} {block : Block}
    (hblock : first.blocks[index]? = some block) :
    ∃ span grown grownSpan, first.spans[index]? = some span ∧
      whole.blocks[index]? = some grown ∧ whole.spans[index]? = some grownSpan ∧
      grown.lineIndex = block.lineIndex ∧ block.length ≤ grown.length ∧
      grownSpan.start = span.start ∧
      (index + 1 < first.blocks.length → grown.bare = block.bare ∧ grownSpan = span) := by
  have hparts := length_of_map_bare hfirst.blocks_eq
  have hindex : index < (read.2.splitBy joins).length := by
    rw [← hparts]
    exact (List.getElem?_eq_some_iff.mp hblock).1
  obtain ⟨before, after, hsplit, rfl⟩ :=
    exists_append_of_getElem? (List.getElem?_eq_getElem hindex)
  obtain ⟨more, rest, hlonger, hcomplete⟩ := exists_splitBy_append hsplit following.2
  obtain ⟨⟨record, hrecord, hbare⟩, hspan⟩ := hfirst.exists_record hsplit
  obtain ⟨⟨grown, hgrown, hgrownBare⟩, hgrownSpan⟩ := hwhole.exists_record hlonger
  obtain rfl : record = block := Option.some.inj (hrecord.symm.trans hblock)
  refine ⟨_, grown, _, hspan, hgrown, hgrownSpan, ?_, ?_, rfl, ?_⟩
  · calc grown.lineIndex
        = before.flatten.length := congrArg Block.lineIndex hgrownBare
      _ = record.lineIndex := (congrArg Block.lineIndex hbare).symm
  · have hlength := congrArg Block.length hbare
    have hgrownLength := congrArg Block.length hgrownBare
    simp only [Block.bare, List.length_append] at hlength hgrownLength
    omega
  · intro hlater
    have hafter : after ≠ [] := by
      rintro rfl
      rw [hparts, hsplit] at hlater
      simp at hlater
    obtain rfl := hcomplete hafter
    rw [List.append_nil] at hgrownBare
    exact ⟨hgrownBare.trans hbare.symm, by rw [List.append_nil]⟩

theorem continues (hfirst : LaidOut ⟨files, dialect, options, front⟩ read first)
    (hwhole : LaidOut ⟨files, dialect, options, front ++ back⟩
      (following.1, read.2 ++ following.2) whole)
    (hmem : ∀ line ∈ read.2, ∀ token ∈ line.source, token ∈ tokenize dialect front) :
    whole.Continues first := by
  have hcount : first.lines.length = read.2.length := by
    rw [hfirst.lines_eq, length_lineRecords]
  refine ⟨?_, ?_, ?_, ?_, fun index block => hfirst.exists_grown hwhole⟩
  · rw [hfirst.tokens_eq, hwhole.tokens_eq, List.flatMap_append]
    exact List.prefix_append _ _
  · rw [hfirst.lines_eq, hwhole.lines_eq, lineRecords_append]
    exact List.prefix_append _ _
  · intro index hindex
    rw [hcount] at hindex
    exact hfirst.get?_registers_eq hwhole hmem hindex
  · intro index hindex
    rw [hcount] at hindex
    rw [hfirst.captions_eq, hwhole.captions_eq, get?_captionRecords, get?_captionRecords,
      List.getElem?_append_left hindex]

end LaidOut

/-! ## A listing and more text after it -/

/-- A listing that ends in a line break with a line feed is analyzed as if nothing
came after it.  If its own analysis fails, so does that of a longer listing, with
the same error; and if that of a longer listing succeeds, so does its own, and the
longer one only continues it. -/
theorem analyze_append_continues (files : Files) (dialect : Dialect) (options : Options)
    {front : Text} (hlast : ∃ last ∈ (tokenize dialect front).getLast?, last.kind = .newLine)
    (hfeed : front.getLast? = some '\n') (back : Text) :
    (∀ error, analyze files dialect options front = .error error →
      analyze files dialect options (front ++ back) = .error error) ∧
    ∀ whole, analyze files dialect options (front ++ back) = .ok whole →
      ∃ first, analyze files dialect options front = .ok first ∧ whole.Continues first := by
  obtain ⟨later, hlines⟩ := readLines_listingLines_append hlast hfeed files options back
  constructor
  · intro error herror
    rw [analyze_eq] at herror ⊢
    rw [hlines]
    cases hread : readLines ⟨files, dialect, options, front⟩ .empty
        (listingLines dialect options front) with
    | error failure =>
        rw [hread] at herror
        cases herror
        rfl
    | ok read =>
        -- once its lines are read, a listing is analyzed to the end
        obtain ⟨analysis, hanalysis⟩ := exists_complete ⟨files, dialect, options, front⟩
          fun line hline => (source_of_readLines hread line hline).2
        rw [hread, Fallible.ok_bind, hanalysis] at herror
        cases herror
  · intro whole hwhole
    obtain ⟨total, htotal, hlaidWhole⟩ := exists_laidOut hwhole
    rw [hlines] at htotal
    obtain ⟨read, hread, hrest⟩ := Fallible.bind_eq_ok.mp htotal
    obtain ⟨following, -, rfl⟩ := Fallible.map_eq_ok.mp hrest
    have hmem : ∀ line ∈ read.2, ∀ token ∈ line.source, token ∈ tokenize dialect front := by
      intro line hline
      exact (source_of_readLines hread line hline).2
    obtain ⟨first, hfirst⟩ := exists_complete ⟨files, dialect, options, front⟩ hmem
    refine ⟨first, ?_, (laidOut_of_complete hfirst).continues hlaidWhole hmem⟩
    rw [analyze_eq, hread, Fallible.ok_bind, hfirst]

set_option maxRecDepth 10000 in
/-- The text that comes later registers file 1 under another name, but the location
was shown before; and it adds a line to the block of the jump before it starts
another one. -/
theorem analyze_append_continues_sample :
    ∃ first whole,
      analyze .none .wasm {} ".file 1 \"a\"\n.loc 1 2\n br f\n".toList = .ok first ∧
      analyze .none .wasm {} (".file 1 \"a\"\n.loc 1 2\n br f\n".toList ++
        ".file 1 \"b\"\n nop\nf:\n".toList) = .ok whole ∧
      first.captions.get? 0 = some "# a(2, 1)".toList ∧
      first.blocks.map (·.length) = [2] ∧ whole.blocks.map (·.length) = [3, 1] ∧
      whole.Continues first := by
  have hlast : (tokenize .wasm ".file 1 \"a\"\n.loc 1 2\n br f\n".toList).getLast?.map
      (·.kind) = some .newLine := by
    decide +kernel
  have hfront : (analyze .none .wasm {} ".file 1 \"a\"\n.loc 1 2\n br f\n".toList).toOption.map
      (fun analysis => (analysis.captions.get? 0, analysis.blocks.map (·.length))) =
      some (some "# a(2, 1)".toList, [2]) := by
    decide +kernel
  have hboth : (analyze .none .wasm {} (".file 1 \"a\"\n.loc 1 2\n br f\n".toList ++
      ".file 1 \"b\"\n nop\nf:\n".toList)).toOption.map (fun analysis =>
        analysis.blocks.map (·.length)) = some [3, 1] := by
    decide +kernel
  obtain ⟨whole, hwhole, hlengths⟩ := Option.map_eq_some_iff.mp hboth
  rw [Fallible.toOption_eq_some] at hwhole
  obtain ⟨-, hcontinues⟩ := analyze_append_continues .none .wasm {}
    (Option.map_eq_some_iff.mp hlast) (by decide) ".file 1 \"b\"\n nop\nf:\n".toList
  obtain ⟨first, hfirst, hcontinues⟩ := hcontinues whole hwhole
  rw [hfirst] at hfront
  obtain ⟨hcaption, hcount⟩ := Prod.mk.inj (Option.some.inj hfront)
  exact ⟨first, whole, hfirst, hwhole, hcaption, hcount, hlengths, hcontinues⟩

end AsmListing
