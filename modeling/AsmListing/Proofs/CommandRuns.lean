import AsmListing.Proofs.Partition
import AsmListing.Proofs.Reachable
import AsmListing.Proofs.Spans
import AsmListing.Proofs.Summary

/-!
# Runs of a command line

A run reads a listing, analyzes it and prints something.  Reading and analyzing can
fail, and printing cannot: a listing that has been analyzed can be rendered, in color
or without (`exists_fullText_load`), and the summary and the graph are plain
functions of it.  So the code with which a run ends tells whether the listing was
accepted (`Arguments.run_of_rejected`, `Arguments.exists_run_of_analyze`).

In the mode for blocks a run prints the span of each block, and it can be read from the
output again (`readSummary?_summary`); in the mode for text it prints the whole listing.
Which options a run has besides makes no difference to the analysis (`analyze_congr`),
so that the spans that one run prints are places in the output of another one.
-/

namespace AsmListing

/-! ## Rendering a whole listing -/

namespace Session

section Load

variable {files : Files} {dialect : Dialect} {options : Options} {text : Text}
  {analysis : Analysis} (hanalysis : analyze files dialect options text = .ok analysis)

include hanalysis

/-- The text of a listing that has just been loaded is that of its blocks. -/
theorem fullText_load {texts : List Text} (hlength : texts.length = analysis.blocks.length)
    (htexts : ∀ index block, texts[index]? = some block →
      ((analysis.renderer text options).renderBlock index options.syntaxColoring).map (·.text) =
        .ok block) :
    (fresh.load files text dialect options).2.fullText.1 = .ok texts.flatten := by
  have hsound := sound_load fresh files text dialect options
  rw [load_of_analyze hanalysis] at hsound ⊢
  have hrun := hsound.blockTexts_eq texts 0 fun index block hblock => by
    have hindex : index < analysis.blocks.length := by
      rw [← hlength]
      exact (List.getElem?_eq_some_iff.mp hblock).1
    rw [renderAnew_eq, Nat.zero_add]
    simp only [analysis?, Option.map_some, if_pos hindex]
    exact htexts index block hblock
  rw [hlength] at hrun
  exact hrun

/-- A listing that has just been loaded can be rendered. -/
theorem exists_fullText_load :
    ∃ output, (fresh.load files text dialect options).2.fullText.1 = .ok output := by
  have hfaithful := faithful_load fresh files text dialect options
  have hloaded : (fresh.load files text dialect options).2.loaded.isSome := by
    rw [load_of_analyze hanalysis]
    rfl
  obtain ⟨texts, -, htexts⟩ := hfaithful.exists_fullText hloaded
  exact ⟨texts.flatten, htexts⟩

end Load

end Session

/-! ## How a run ends -/

namespace Arguments

/-- The listing that arguments name: what a path holds, or the standard input. -/
def readInput (arguments : Arguments) (files : Files) (stdin : ByteArray) :
    Except ReadError Text :=
  match arguments.path? with
  | some path => files.read path
  | none => decodeText stdin

/-- The analysis of a listing that arguments ask for. -/
def analyzeText (arguments : Arguments) (files : Files) (text : Text) :
    Except ListingError Analysis :=
  analyze files (arguments.dialect.getD .intel) arguments.options text

/-- The listing that arguments name is not accepted: it cannot be read as a text, or a
number in it is malformed. -/
def Rejected (arguments : Arguments) (files : Files) (stdin : ByteArray) : Prop :=
  (∃ cause, arguments.readInput files stdin = .error cause) ∨
  ∃ text directive spelling position cause, arguments.readInput files stdin = .ok text ∧
    arguments.analyzeText files text =
      .error (.malformedNumber directive spelling position cause)

/-- Arguments that ask for the same analysis of the same listing. -/
structure SameAnalysis (first second : Arguments) (files : Files) (stdin : ByteArray) :
    Prop where
  input_eq : first.readInput files stdin = second.readInput files stdin
  dialect_eq : first.dialect.getD .intel = second.dialect.getD .intel
  skipHeader_eq : first.skipHeader = second.skipHeader
  noSource_eq : first.noSource = second.noSource

variable {arguments : Arguments} {files : Files} {stdin : ByteArray}

/-- Loading gets as far as the listing can be read. -/
theorem load_cases (arguments : Arguments) (files : Files) (stdin : ByteArray) :
    (∃ cause error, arguments.readInput files stdin = .error cause ∧
      (arguments.load files stdin).1 = .error error) ∨
    ∃ text, arguments.readInput files stdin = .ok text ∧ arguments.load files stdin =
      Session.fresh.load files text (arguments.dialect.getD .intel) arguments.options := by
  unfold readInput load
  cases arguments.path? with
  | some path =>
      simp only [Session.loadFile]
      cases files.read path with
      | error cause => exact .inl ⟨cause, _, rfl, rfl⟩
      | ok text => exact .inr ⟨text, rfl, rfl⟩
  | none =>
      simp only
      cases decodeText stdin with
      | error cause => exact .inl ⟨cause, _, rfl, rfl⟩
      | ok text => exact .inr ⟨text, rfl, rfl⟩

theorem load_of_readInput {text : Text} (hread : arguments.readInput files stdin = .ok text) :
    arguments.load files stdin =
      Session.fresh.load files text (arguments.dialect.getD .intel) arguments.options := by
  obtain ⟨cause, _, hunreadable, -⟩ | ⟨found, hfound, hload⟩ := arguments.load_cases files stdin
  · cases hread.symm.trans hunreadable
  · cases hread.symm.trans hfound
    exact hload

theorem run_of_load_error {error : ListingError}
    (hload : (arguments.load files stdin).1 = .error error) :
    arguments.run files stdin = ⟨1, [], errorLine error⟩ := by
  rcases hloaded : arguments.load files stdin with ⟨answer, session⟩
  rw [hloaded] at hload
  obtain rfl : answer = .error error := hload
  rw [run, output, hloaded]

/-- A listing that is not accepted leaves nothing but an error. -/
theorem run_of_rejected (hrejected : arguments.Rejected files stdin) :
    (arguments.run files stdin).code = 1 ∧ (arguments.run files stdin).stdout = [] := by
  have hload : ∃ error, (arguments.load files stdin).1 = .error error := by
    obtain ⟨cause, hread⟩ | ⟨text, directive, spelling, position, cause, hread, herror⟩ := hrejected
    · obtain ⟨_, error, -, hload⟩ | ⟨text, hfound, -⟩ := arguments.load_cases files stdin
      · exact ⟨error, hload⟩
      · cases hread.symm.trans hfound
    · rw [load_of_readInput hread, Session.load]
      rw [analyzeText] at herror
      rw [herror]
      exact ⟨_, rfl⟩
  obtain ⟨error, hload⟩ := hload
  rw [run_of_load_error hload]
  exact ⟨rfl, rfl⟩

theorem exists_analyzeText (haccepted : ¬ arguments.Rejected files stdin) :
    ∃ text analysis, arguments.readInput files stdin = .ok text ∧
      arguments.analyzeText files text = .ok analysis := by
  cases hread : arguments.readInput files stdin with
  | error cause => exact absurd (.inl ⟨cause, hread⟩) haccepted
  | ok text =>
      cases hanalysis : arguments.analyzeText files text with
      | error error =>
          obtain ⟨directive, spelling, position, cause, rfl⟩ :=
            eq_malformedNumber_of_analyze hanalysis
          exact absurd (.inr ⟨text, directive, spelling, position, cause, hread, hanalysis⟩)
            haccepted
      | ok analysis => exact ⟨text, analysis, rfl, hanalysis⟩

/-- After the analysis nothing fails, whatever is printed. -/
theorem exists_run_of_analyze {text : Text} {analysis : Analysis}
    (hread : arguments.readInput files stdin = .ok text)
    (hanalysis : arguments.analyzeText files text = .ok analysis) :
    ∃ output, (Session.fresh.load files text (arguments.dialect.getD .intel)
        arguments.options).2.print (arguments.mode.getD .text) = .ok output ∧
      arguments.run files stdin = ⟨0, output, []⟩ := by
  have hprint : ∃ output, (Session.fresh.load files text (arguments.dialect.getD .intel)
      arguments.options).2.print (arguments.mode.getD .text) = .ok output := by
    cases arguments.mode.getD .text with
    | text => exact Session.exists_fullText_load hanalysis
    | blocks => exact ⟨_, rfl⟩
    | dot => exact ⟨_, rfl⟩
  obtain ⟨output, hprint⟩ := hprint
  refine ⟨output, hprint, ?_⟩
  have hload := Session.load_of_analyze hanalysis Session.fresh
  rw [hload] at hprint
  rw [run, Arguments.output, load_of_readInput hread, hload]
  simp only [hprint]

/-- Arguments that ask for the same analysis get it. -/
theorem SameAnalysis.analyzeText_eq {first second : Arguments}
    (hsame : first.SameAnalysis second files stdin) (text : Text) :
    first.analyzeText files text = second.analyzeText files text := by
  rw [analyzeText, analyzeText, hsame.dialect_eq]
  refine analyze_congr files _ ?_ ?_ text
  · exact hsame.skipHeader_eq
  · rw [options, options, hsame.noSource_eq]

end Arguments

/-! ## Spans in the output -/

/-- The bytes that a span takes up. -/
def BlockSpan.range (span : BlockSpan) : Nat × Nat :=
  (span.start, span.length)

theorem covers_spanRecords {dialect : Dialect} {blocks : List (List StoredLine)}
    (hpos : ∀ lines ∈ blocks, 0 < shownLength dialect lines) (start : Nat) :
    Covers start ((spanRecords dialect start blocks).map BlockSpan.range)
      (start + shownLength dialect blocks.flatten) := by
  induction blocks generalizing start with
  | nil => rfl
  | cons lines rest ih =>
      have hrest := ih (fun other hother => hpos other (List.mem_cons_of_mem _ hother))
        (start + shownLength dialect lines)
      have hlength : start + shownLength dialect lines - start = shownLength dialect lines := by
        omega
      rw [List.flatten_cons, shownLength_append, ← Nat.add_assoc]
      simp only [spanRecords, List.map_cons, BlockSpan.range, BlockSpan.length, Covers, hlength]
      exact ⟨trivial, hpos lines List.mem_cons_self, hrest⟩

/-- The spans of an analyzed listing cover the texts of its blocks without color, put
end to end, and each of them is the place of its block there. -/
theorem exists_covered_texts {files : Files} {dialect : Dialect} {options : Options} {text : Text}
    {analysis : Analysis} (hanalysis : analyze files dialect options text = .ok analysis) :
    analysis.spans.length = analysis.blocks.length ∧
    ∃ texts : List Text, texts.length = analysis.blocks.length ∧
      Covers 0 (analysis.spans.map BlockSpan.range) (Text.byteSize texts.flatten) ∧
      ∀ index < analysis.blocks.length, ∃ rendering span,
        (analysis.renderer text options).renderBlock index false = .ok rendering ∧
        analysis.spans[index]? = some span ∧ texts[index]? = some rendering.text ∧
        Text.view texts.flatten span.start span.length = rendering.text := by
  obtain ⟨read, hread, hlaid⟩ := exists_laidOut hanalysis
  have hsource := source_of_readLines hread
  have hlength := length_of_map_bare hlaid.blocks_eq
  refine ⟨?_, (read.2.splitBy joins).map (·.flatMap (·.shown dialect text)), ?_, ?_, ?_⟩
  · rw [hlaid.spans_eq, length_spanRecords, hlength]
  · rw [List.length_map, hlength]
  · have hcovers := covers_spanRecords (shownLength_pos_of_mem_splitBy hsource) 0
    rw [List.flatten_splitBy, Nat.zero_add] at hcovers
    rwa [flatten_map_flatMap, List.flatten_splitBy,
      byteSize_flatMap_shown fun line hline => (hsource line hline).2, hlaid.spans_eq]
  · intro index hindex
    rw [hlength] at hindex
    obtain ⟨rendering, span, hrender, hspan, -, htext, -, hview⟩ :=
      hlaid.exists_rendering_span options (fun line hline => (hsource line hline).2)
        (List.getElem?_eq_getElem hindex)
    exact ⟨rendering, span, hrender, hspan, htext, hview⟩

namespace Arguments

variable {arguments : Arguments} {files : Files} {stdin : ByteArray} {text : Text}
  {analysis : Analysis} (hread : arguments.readInput files stdin = .ok text)
  (hanalysis : arguments.analyzeText files text = .ok analysis)

include hread hanalysis

/-- The spans of an analyzed listing can be read from what is printed of its blocks. -/
theorem readSummary?_stdout (hmode : arguments.mode.getD .text = .blocks)
    (hlength : analysis.spans.length = analysis.blocks.length) :
    readSummary? 0
        (BlockGraph.ofBlocks text analysis.tokens analysis.lines analysis.blocks).labels
        (arguments.run files stdin).stdout = some analysis.spans := by
  obtain ⟨output, hprint, hrun⟩ := exists_run_of_analyze hread hanalysis
  rw [hmode, Session.load_of_analyze hanalysis] at hprint
  rw [hrun, ← Except.ok.inj hprint]
  exact readSummary?_summary ⟨text, arguments.options, some ⟨analysis, _⟩⟩ hlength

theorem stdout_of_plainText (hmode : arguments.mode.getD .text = .text)
    (hcolor : arguments.noColor = true) {texts : List Text}
    (hlength : texts.length = analysis.blocks.length)
    (htexts : ∀ index block, texts[index]? = some block →
      ((analysis.renderer text arguments.options).renderBlock index false).map (·.text) =
        .ok block) :
    (arguments.run files stdin).stdout = texts.flatten := by
  have hplain : arguments.options.syntaxColoring = false := by
    rw [options, hcolor]
    rfl
  obtain ⟨output, hprint, hrun⟩ := exists_run_of_analyze hread hanalysis
  have hfull := Session.fullText_load hanalysis hlength (by rwa [hplain])
  rw [hmode] at hprint
  rw [hrun]
  exact Except.ok.inj (hprint.symm.trans hfull)

end Arguments

/-- The run of a command line that is accepted ends with code 1, and prints nothing, if
its listing is not accepted, and with code 0 otherwise.  Of two runs that analyze the
same listing in the same way, one prints it without color and the other one a summary
of its blocks; then the spans that are read from the summary are the places of the
blocks in the listing, and cover it. -/
theorem runs_of_command_lines (files : Files) (stdin : ByteArray) {line : List Text}
    {arguments : Arguments} (hline : Arguments.ofList? line = some arguments) :
    (arguments.Rejected files stdin →
      (runCommandLine line files stdin).code = 1 ∧ (runCommandLine line files stdin).stdout = []) ∧
    (¬ arguments.Rejected files stdin → (runCommandLine line files stdin).code = 0) ∧
    ∀ (other : List Text) (summarizing : Arguments),
      Arguments.ofList? other = some summarizing →
      arguments.SameAnalysis summarizing files stdin →
      arguments.mode.getD .text = .text → arguments.noColor = true →
      summarizing.mode = some .blocks → ¬ arguments.Rejected files stdin →
      ∃ text analysis, arguments.readInput files stdin = .ok text ∧
        arguments.analyzeText files text = .ok analysis ∧
        analysis.spans.length = analysis.blocks.length ∧
        readSummary? 0
            (BlockGraph.ofBlocks text analysis.tokens analysis.lines analysis.blocks).labels
            (runCommandLine other files stdin).stdout = some analysis.spans ∧
        Covers 0 (analysis.spans.map BlockSpan.range)
          (runCommandLine line files stdin).stdout.byteSize ∧
        ∀ index < analysis.blocks.length, ∃ rendering span,
          (analysis.renderer text arguments.options).renderBlock index false = .ok rendering ∧
          analysis.spans[index]? = some span ∧
          Text.view (runCommandLine line files stdin).stdout span.start span.length =
            rendering.text := by
  have hrun : runCommandLine line files stdin = arguments.run files stdin := by
    rw [runCommandLine, hline]
  rw [hrun]
  refine ⟨Arguments.run_of_rejected, fun haccepted => ?_, ?_⟩
  · obtain ⟨text, analysis, hread, hanalysis⟩ := Arguments.exists_analyzeText haccepted
    obtain ⟨output, -, houtput⟩ := Arguments.exists_run_of_analyze hread hanalysis
    rw [houtput]
  intro other summarizing hother hsame hmode hcolor hblocks haccepted
  obtain ⟨text, analysis, hread, hanalysis⟩ := Arguments.exists_analyzeText haccepted
  obtain ⟨hspans, texts, hlength, hcovers, htexts⟩ := exists_covered_texts hanalysis
  have hstdout : (arguments.run files stdin).stdout = texts.flatten := by
    refine Arguments.stdout_of_plainText hread hanalysis hmode hcolor hlength ?_
    intro index block hblock
    have hindex : index < analysis.blocks.length := by
      rw [← hlength]
      exact (List.getElem?_eq_some_iff.mp hblock).1
    obtain ⟨rendering, -, hrender, -, htext, -⟩ := htexts index hindex
    rw [hrender, ← Option.some.inj (htext.symm.trans hblock)]
    rfl
  have hsummary : runCommandLine other files stdin = summarizing.run files stdin := by
    rw [runCommandLine, hother]
  rw [hsummary, hstdout]
  refine ⟨text, analysis, hread, hanalysis, hspans, ?_, hcovers, ?_⟩
  · rw [hsame.input_eq] at hread
    rw [hsame.analyzeText_eq] at hanalysis
    exact Arguments.readSummary?_stdout hread hanalysis (by rw [hblocks]; rfl) hspans
  · intro index hindex
    obtain ⟨rendering, span, hrender, hspan, -, hview⟩ := htexts index hindex
    exact ⟨rendering, span, hrender, hspan, hview⟩

set_option maxRecDepth 10000 in
/-- Two runs on a file, with the options in different places and with different
colors.  The label of the first block breaks its line and looks like the span of another
one. -/
theorem runs_of_command_lines_sample :
    ∃ (files : Files) (text : Text) (analysis : Analysis),
      text = "\"\n#1 text 7..9\":\n br_if \"\n#1 text 7..9\"\nnop".toList ∧
      files.read "a".toList = .ok text ∧
      analysis.spans = [⟨0, 40⟩, ⟨40, 43⟩] ∧
      (runCommandLine ["--no-color".toList, "--arch=wasm".toList, "a".toList] files .empty).code =
        0 ∧
      readSummary? 0 (BlockGraph.ofBlocks text analysis.tokens analysis.lines
          analysis.blocks).labels
        (runCommandLine ["a".toList, "-mblocks".toList, "--light".toList, "--arch".toList,
          "wasm".toList] files .empty).stdout = some [⟨0, 40⟩, ⟨40, 43⟩] ∧
      Covers 0 [(0, 40), (40, 3)]
        (runCommandLine ["--no-color".toList, "--arch=wasm".toList, "a".toList] files
          .empty).stdout.byteSize := by
  let listing : Text := "\"\n#1 text 7..9\":\n br_if \"\n#1 text 7..9\"\nnop".toList
  let files : Files := .ofAnswers [("a".toList, .ok listing)]
  let plain : Arguments := { input := some "a".toList, dialect := some .wasm, noColor := true }
  let summarizing : Arguments :=
    { input := some "a".toList, dialect := some .wasm, mode := some .blocks, light := true }
  have hplain : Arguments.ofList? ["--no-color".toList, "--arch=wasm".toList, "a".toList] =
      some plain := by decide +kernel
  have hsummarizing : Arguments.ofList? ["a".toList, "-mblocks".toList, "--light".toList,
      "--arch".toList, "wasm".toList] = some summarizing := by decide +kernel
  have hread : plain.readInput files .empty = .ok listing := by decide +kernel
  have hspans : (plain.analyzeText files listing).toOption.map (·.spans) =
      some [⟨0, 40⟩, ⟨40, 43⟩] := by decide +kernel
  obtain ⟨analysis, hanalysis, hspans⟩ := Option.map_eq_some_iff.mp hspans
  rw [Fallible.toOption_eq_some] at hanalysis
  have haccepted : ¬ plain.Rejected files .empty := by
    rintro (⟨cause, herror⟩ | ⟨text, _, _, _, _, htext, herror⟩)
    · cases hread.symm.trans herror
    · cases Except.ok.inj (hread.symm.trans htext)
      cases hanalysis.symm.trans herror
  obtain ⟨-, hcode, hruns⟩ := runs_of_command_lines files .empty hplain
  obtain ⟨text, found, htext, hfound, -, hsummary, hcovers, -⟩ :=
    hruns _ summarizing hsummarizing ⟨rfl, rfl, rfl, rfl⟩ rfl rfl rfl haccepted
  obtain rfl := Except.ok.inj (hread.symm.trans htext)
  obtain rfl : analysis = found := Except.ok.inj (hanalysis.symm.trans hfound)
  rw [hspans] at hsummary hcovers
  exact ⟨files, listing, analysis, rfl, rfl, hspans, hcode haccepted, hsummary, hcovers⟩

end AsmListing
