import AsmListing.Proofs.PlainText

/-!
# The rendered listing is the listing

Rendering all blocks of an analyzed listing without color gives the listing
back, up to what is changed on purpose.  `echo` says what that is, directly on
the tokens and line by line, with the source files registered so far as its only
state.  It knows no indices, no blocks and no edges.

The analysis and `echo` read the same lines in the same order, so they agree by
induction over the lines (`echo_eq`); that the renderer finds these lines again
through the records is `Renderer.Shows.plainTexts_eq`.
-/

namespace AsmListing

/-- The lines of a token sequence: it is cut after each line break. -/
def tokenLines (tokens : List Token) : List (List Token) :=
  tokens.splitBy fun token _ => token.kind != .newLine

/-- The tokens of a listing without those of its first line, if that is to be
left out. -/
def bodyTokens (options : Options) (tokens : List Token) : List Token :=
  if options.skipHeaderLine then (tokens.dropWhile (·.kind != .newLine)).tail else tokens

/-- Shows lines one after the other.  A line that registers a file shows nothing;
a line that names a location shows the comment that the files registered so far
give it; any other line shows its tokens. -/
def echo (context : Context) : SourceTable → List (List Token) → Except ListingError Text
  | _, [] => .ok []
  | sources, tokens :: rest =>
    match lineKind tokens with
    | .sourceFile => do
      let registered ← sources.register context.files context.options.loadSourceFiles
        context.text tokens
      echo context registered rest
    | .sourceLocation => do
      let location ← readLocation context.text tokens
      let following ← echo context sources rest
      .ok (sources.caption context.dialect.commentStart location ++ ['\n'] ++ following)
    | _ => do
      let following ← echo context sources rest
      .ok (plainLine context.dialect context.text tokens ++ following)

/-! ## Cutting lines -/

theorem nil_notMem_cutLines (tokens : List Token) : [] ∉ cutLines tokens := by
  fun_induction cutLines tokens <;> simp_all

/-- Line by line or after each line break, the same cuts are made. -/
theorem cutLines_eq_tokenLines (tokens : List Token) : cutLines tokens = tokenLines tokens := by
  refine (List.splitBy_eq_iff.mpr ⟨(flatten_cutLines tokens).symm, nil_notMem_cutLines tokens,
    ?_, ?_⟩).symm
  · -- no line break inside a line
    fun_induction cutLines tokens with
    | case1 => simp
    | case2 token rest hbreak ih => simpa using ih
    | case3 token rest hbreak hrest ih => simp
    | case4 token rest hbreak line lines hrest ih =>
        rw [hrest] at ih
        intro group hgroup
        rcases List.mem_cons.mp hgroup with rfl | hgroup
        · exact List.isChain_cons.mpr
            ⟨fun _ _ => by simpa using hbreak, ih line List.mem_cons_self⟩
        · exact ih group (List.mem_cons_of_mem _ hgroup)
  · -- a line break at the end of every line but the last
    fun_induction cutLines tokens with
    | case1 => exact .nil
    | case2 token rest hbreak ih =>
        refine List.isChain_cons.mpr ⟨fun line hline => ?_, ih⟩
        have hne : line ≠ [] := by
          rintro rfl
          exact nil_notMem_cutLines rest (List.mem_of_mem_head? hline)
        exact ⟨List.cons_ne_nil _ _, hne, by simpa using hbreak⟩
    | case3 token rest hbreak hrest ih => exact .singleton _
    | case4 token rest hbreak line lines hrest ih =>
        rw [hrest] at ih
        obtain ⟨hfirst, hlines⟩ := List.isChain_cons.mp ih
        refine List.isChain_cons.mpr ⟨fun following hfollowing => ?_, hlines⟩
        obtain ⟨hne, hne', hlast⟩ := hfirst following hfollowing
        exact ⟨List.cons_ne_nil _ _, hne', by rwa [List.getLast_cons hne]⟩

/-- What is left out is a line, with its line break if anything follows. -/
theorem exists_header (options : Options) (tokens : List Token) :
    ∃ header, tokens = header ++ bodyTokens options tokens ∧
      (bodyTokens options tokens = [] ∨ ∀ last ∈ header.getLast?, last.kind = .newLine) := by
  unfold bodyTokens
  split
  · cases hdrop : tokens.dropWhile (·.kind != .newLine) with
    | nil => exact ⟨tokens, by simp, .inl rfl⟩
    | cons lineBreak rest =>
        have hkind : lineBreak.kind = .newLine := by
          have hhead := List.head?_dropWhile_not (·.kind != .newLine) tokens
          simpa [hdrop] using hhead
        refine ⟨tokens.takeWhile (·.kind != .newLine) ++ [lineBreak], ?_, .inr (by simp [hkind])⟩
        calc tokens
            = tokens.takeWhile (·.kind != .newLine) ++ tokens.dropWhile (·.kind != .newLine) :=
              List.takeWhile_append_dropWhile.symm
          _ = _ := by simp [hdrop]
  · exact ⟨[], rfl, .inr (by simp)⟩

theorem listingLines_eq (dialect : Dialect) (options : Options) (text : Text) :
    listingLines dialect options text =
      tokenLines (bodyTokens options (tokenize dialect text)) := by
  rw [listingLines, cutLines_eq_tokenLines, bodyTokens]
  simp [dropHeader]

/-! ## Reading and showing -/

/-- Showing the lines one by one is reading them and showing what was stored. -/
theorem echo_eq (context : Context) (groups : List (List Token)) :
    ∀ sources : SourceTable, echo context sources groups =
      (readLines context sources groups).map fun read =>
        read.2.flatMap (·.shown context.dialect context.text) := by
  induction groups with
  | nil => intro sources; rfl
  | cons tokens rest ih =>
      intro sources
      rw [readLines, echo]
      by_cases hnil : tokens = []
      · rw [hnil, show lineKind [] = .empty from rfl, readLine, if_pos rfl]
        simp only [Fallible.ok_bind, ih]
        cases readLines context sources rest <;> rfl
      · rw [readLine, if_neg hnil]
        -- the cases of `echo` are those of `readLine`
        cases hkind : lineKind tokens with
        | sourceFile =>
            cases sources.register context.files context.options.loadSourceFiles context.text
              tokens with
            | error error => rfl
            | ok registered =>
                simp only [Fallible.ok_bind, Fallible.map_ok, ih]
                cases readLines context registered rest <;> rfl
        | sourceLocation =>
            cases readLocation context.text tokens with
            | error error => rfl
            | ok location =>
                simp only [Fallible.ok_bind, Fallible.map_ok, ih]
                cases readLines context sources rest <;> rfl
        | located location => exact absurd hkind (lineKind_ne_located tokens location)
        | _ =>
            simp only [Fallible.ok_bind, ih]
            cases readLines context sources rest <;> rfl

/-- The renderings of all blocks without color, put end to end, are the listing as
it is shown line by line. -/
theorem plainTexts_eq_echo {files : Files} {dialect : Dialect} {options : Options} {text : Text}
    {analysis : Analysis} (hanalysis : analyze files dialect options text = .ok analysis) :
    ∃ texts : List Text, (analysis.renderer text options).plainTexts = .ok texts ∧
      echo ⟨files, dialect, options, text⟩ .empty
        (tokenLines (bodyTokens options (tokenize dialect text))) = .ok texts.flatten := by
  obtain ⟨read, hread, hlaid⟩ := exists_laidOut hanalysis
  refine ⟨_, hlaid.plainTexts_eq options, ?_⟩
  rw [flatten_map_flatMap, List.flatten_splitBy, ← listingLines_eq, echo_eq, hread]
  rfl

set_option maxRecDepth 10000 in
/-- The second file with the number 1 counts from where it stands, the branch
keeps its operand, and the carriage return goes. -/
theorem plainTexts_eq_echo_sample :
    ∃ (analysis : Analysis) (texts : List Text),
      analyze .none .intel {}
          ".file 1 \"a\"\n.loc 1 2\n je f\r\n.file 1 \"b\"\n.loc 1 3\nf: ret".toList =
        .ok analysis ∧
      (analysis.renderer
          ".file 1 \"a\"\n.loc 1 2\n je f\r\n.file 1 \"b\"\n.loc 1 3\nf: ret".toList
          {}).plainTexts = .ok texts ∧
      texts.flatten = "# a(2, 1)\n je         f\n# b(3, 1)\nf: ret".toList := by
  have heval :
      (analyze .none .intel {}
        ".file 1 \"a\"\n.loc 1 2\n je f\r\n.file 1 \"b\"\n.loc 1 3\nf: ret".toList
        ).toOption.isSome ∧
      (echo ⟨.none, .intel, {},
        ".file 1 \"a\"\n.loc 1 2\n je f\r\n.file 1 \"b\"\n.loc 1 3\nf: ret".toList⟩ .empty
        (tokenLines (bodyTokens {} (tokenize .intel
          ".file 1 \"a\"\n.loc 1 2\n je f\r\n.file 1 \"b\"\n.loc 1 3\nf: ret".toList)))).toOption =
      some "# a(2, 1)\n je         f\n# b(3, 1)\nf: ret".toList := by
    decide +kernel
  obtain ⟨hsome, hecho⟩ := heval
  obtain ⟨analysis, hanalysis⟩ := Option.isSome_iff_exists.mp hsome
  rw [Fallible.toOption_eq_some] at hanalysis hecho
  obtain ⟨texts, htexts, hflatten⟩ := plainTexts_eq_echo hanalysis
  rw [hecho, Except.ok.injEq] at hflatten
  exact ⟨analysis, texts, hanalysis, htexts, hflatten.symm⟩

end AsmListing
