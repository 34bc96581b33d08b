import AsmListing.Analysis
import AsmListing.Proofs.Fallible
import Mathlib.Data.List.SplitBy

/-!
# The outline of a listing

The analysis keeps flat sequences of tokens, lines and blocks that refer to each
other by index.  An outline is the same listing before it becomes records:
blocks are lists of lines, and lines are lists of tokens.  No index occurs in
it, so what the analysis does can be said without counting.

`Outline.addLine` takes one more line as `Assembly.addLine` does.  Two facts
describe a whole run of it, `Outline.addLines`:

* its lines are those that `readLines` reads, which knows nothing of blocks;
* `Outline.Cut`, kept by every step: no border lies inside a block, and one lies
  between any two blocks that follow each other.

Together they determine the result (`Outline.closeBlock_addLines`): the blocks
are the lines, cut wherever `joins` fails.
-/

namespace AsmListing

/-- A line that is stored, before it becomes records. -/
structure StoredLine where
  kind : LineKind
  /-- The tokens as they were read. -/
  source : List Token
  /-- The comment that shows the line, if it names a source location. -/
  caption : Text
  deriving DecidableEq, Repr

/-- Whether a line stays in the block of the line before it. -/
def joins (earlier later : StoredLine) : Bool :=
  earlier.kind != .codeBranch && later.kind != .labelDeclaration

/-! ## Reading lines -/

/-- Reads one line: the source files registered after it, and the line unless it
is used up. -/
def readLine (context : Context) (sources : SourceTable) (tokens : List Token) :
    Except ListingError (SourceTable × Option StoredLine) :=
  if tokens = [] then
    .ok (sources, none)
  else
    match lineKind tokens with
    | .sourceFile =>
      (sources.register context.files context.options.loadSourceFiles context.text tokens).map
        (·, none)
    | .sourceLocation =>
      (readLocation context.text tokens).map fun location =>
        (sources, some ⟨.located location, tokens,
          sources.caption context.dialect.commentStart location⟩)
    | kind => .ok (sources, some ⟨kind, tokens, []⟩)

/-- Reads lines one after the other, up to the first error. -/
def readLines (context : Context) :
    SourceTable → List (List Token) → Except ListingError (SourceTable × List StoredLine)
  | sources, [] => .ok (sources, [])
  | sources, tokens :: rest => do
    let read ← readLine context sources tokens
    let following ← readLines context read.1 rest
    .ok (following.1, read.2.toList ++ following.2)

/-- All that reading a line can do: pass over nothing, use up a line that
registers a file, caption a location, or store the line as it is. -/
theorem readLine_cases {context : Context} {sources registered : SourceTable}
    {tokens : List Token} {line : Option StoredLine}
    (hread : readLine context sources tokens = .ok (registered, line)) :
    (tokens = [] ∧ registered = sources ∧ line = none) ∨
    (lineKind tokens = .sourceFile ∧ line = none ∧
      sources.register context.files context.options.loadSourceFiles context.text tokens =
        .ok registered) ∨
    (tokens ≠ [] ∧ lineKind tokens = .sourceLocation ∧ registered = sources ∧
      ∃ location, readLocation context.text tokens = .ok location ∧
        line = some ⟨.located location, tokens,
          sources.caption context.dialect.commentStart location⟩) ∨
    (tokens ≠ [] ∧ lineKind tokens ≠ .sourceFile ∧ lineKind tokens ≠ .sourceLocation ∧
      registered = sources ∧ line = some ⟨lineKind tokens, tokens, []⟩) := by
  unfold readLine at hread
  split at hread
  · next hnil =>
      simp only [Except.ok.injEq, Prod.mk.injEq] at hread
      exact .inl ⟨hnil, hread.1.symm, hread.2.symm⟩
  · next hne =>
      split at hread
      · next hkind =>
          obtain ⟨table, hregister, hpair⟩ := Fallible.map_eq_ok.mp hread
          cases hpair
          exact .inr (.inl ⟨hkind, rfl, hregister⟩)
      · next hkind =>
          obtain ⟨location, hlocation, hpair⟩ := Fallible.map_eq_ok.mp hread
          cases hpair
          exact .inr (.inr (.inl ⟨hne, hkind, rfl, location, hlocation, rfl⟩))
      · next hfile hlocation =>
          cases hread
          exact .inr (.inr (.inr ⟨hne, hfile, hlocation, rfl, rfl⟩))

/-- A stored line has tokens, and its kind is theirs; only a location is told
apart by what it names. -/
theorem readLine_eq_some {context : Context} {sources registered : SourceTable}
    {tokens : List Token} {line : StoredLine}
    (hread : readLine context sources tokens = .ok (registered, some line)) :
    line.source = tokens ∧ tokens ≠ [] ∧ lineKind tokens ≠ .sourceFile ∧
      (line.kind = lineKind tokens ∨
        lineKind tokens = .sourceLocation ∧ ∃ location, line.kind = .located location) := by
  obtain ⟨-, -, hnone⟩ | ⟨-, hnone, -⟩ | ⟨hne, hkind, -, location, -, hline⟩ |
    ⟨hne, hfile, -, -, hline⟩ := readLine_cases hread
  · cases hnone
  · cases hnone
  · cases hline
    exact ⟨rfl, hne, by simp [hkind], .inr ⟨hkind, location, rfl⟩⟩
  · cases hline
    exact ⟨rfl, hne, hfile, .inl rfl⟩

/-! ## Outlines -/

/-- A listing as blocks of lines, with the block that is still open. -/
structure Outline where
  sources : SourceTable
  closed : List (List StoredLine)
  current : List StoredLine
  deriving DecidableEq, Repr

namespace Outline

/-- Nothing read. -/
def start : Outline :=
  ⟨.empty, [], []⟩

/-- All lines of an outline. -/
def lines (outline : Outline) : List StoredLine :=
  outline.closed.flatten ++ outline.current

/-- Whether the open block ends in a conditional branch. -/
def afterBranch (outline : Outline) : Bool :=
  outline.current.getLast?.any (·.kind == .codeBranch)

/-- Completes the open block, if it has lines. -/
def closeBlock (outline : Outline) : Outline :=
  if outline.current = [] then
    outline
  else
    { outline with closed := outline.closed ++ [outline.current], current := [] }

/-- Makes ready for a line that starts with the given token. -/
def beginLine (outline : Outline) (first : Token) : Outline :=
  if outline.afterBranch || first.kind == .label then outline.closeBlock else outline

/-- Puts a line at the end of the open block. -/
def add (outline : Outline) (line : StoredLine) : Outline :=
  { outline with current := outline.current ++ [line] }

/-- Takes what was read of a line, the sources after it and the line if it is
stored. -/
def take (outline : Outline) (read : SourceTable × Option StoredLine) : Outline :=
  { outline with sources := read.1, current := outline.current ++ read.2.toList }

/-- Takes one more line. -/
def addLine (context : Context) (outline : Outline) (tokens : List Token) :
    Except ListingError Outline :=
  match tokens with
  | [] => .ok outline
  | first :: _ => (readLine context outline.sources tokens).map (outline.beginLine first).take

/-- Takes lines one after the other, up to the first error. -/
def addLines (context : Context) (outline : Outline) (lines : List (List Token)) :
    Except ListingError Outline :=
  lines.foldlM (addLine context) outline

@[simp] theorem lines_closeBlock (outline : Outline) :
    outline.closeBlock.lines = outline.lines := by
  unfold closeBlock
  split <;> simp [lines]

@[simp] theorem sources_closeBlock (outline : Outline) :
    outline.closeBlock.sources = outline.sources := by
  unfold closeBlock
  split <;> rfl

@[simp] theorem current_closeBlock (outline : Outline) : outline.closeBlock.current = [] := by
  unfold closeBlock
  split <;> simp [*]

@[simp] theorem lines_beginLine (outline : Outline) (first : Token) :
    (outline.beginLine first).lines = outline.lines := by
  unfold beginLine
  split <;> simp

@[simp] theorem sources_beginLine (outline : Outline) (first : Token) :
    (outline.beginLine first).sources = outline.sources := by
  unfold beginLine
  split <;> simp

theorem lines_take (outline : Outline) (read : SourceTable × Option StoredLine) :
    (outline.take read).lines = outline.lines ++ read.2.toList := by
  simp [take, lines]

end Outline

theorem LineKind.exists_ofTokenKind? {kinds : List TokenKind} {kind : LineKind}
    (hkind : (kinds.findSome? ofTokenKind?).getD .empty = kind) (hne : kind ≠ .empty) :
    ∃ tokenKind, ofTokenKind? tokenKind = some kind := by
  cases hfound : kinds.findSome? ofTokenKind? with
  | none =>
      rw [hfound] at hkind
      exact absurd hkind.symm hne
  | some found =>
      obtain ⟨tokenKind, -, htoken⟩ := List.exists_of_findSome?_eq_some hfound
      obtain rfl : found = kind := by simpa [hfound] using hkind
      exact ⟨tokenKind, htoken⟩

theorem lineKind_cons_eq_labelDeclaration (first : Token) (rest : List Token) :
    lineKind (first :: rest) = .labelDeclaration ↔ first.kind = .label := by
  unfold lineKind LineKind.ofKinds
  split
  · next hkinds => simp_all
  · next hother =>
      constructor
      · intro hdeclares
        obtain ⟨tokenKind, htoken⟩ := LineKind.exists_ofTokenKind? hdeclares (by simp)
        cases tokenKind <;> simp [LineKind.ofTokenKind?] at htoken
      · intro hlabel
        exact absurd (by rw [List.map_cons, hlabel]) (hother (rest.map (·.kind)))

theorem lineKind_ne_located (tokens : List Token) (location : SourceLocation) :
    lineKind tokens ≠ .located location := by
  intro hkind
  unfold lineKind LineKind.ofKinds at hkind
  split at hkind
  · cases hkind
  · obtain ⟨tokenKind, htoken⟩ := LineKind.exists_ofTokenKind? hkind (by simp)
    cases tokenKind <;> simp [LineKind.ofTokenKind?] at htoken

/-! ## Where blocks are cut -/

namespace Outline

/-- The blocks of an outline are cut at every border and nowhere else: the
complete ones are, the open one has no border inside, and what ended the last
complete block is seen on either side of the border. -/
structure Cut (outline : Outline) : Prop where
  closed_eq : outline.closed.flatten.splitBy joins = outline.closed
  current_joined : outline.current.IsChain (joins · ·)
  ended : ∀ last ∈ outline.closed.flatten.getLast?,
    last.kind = .codeBranch ∨ ∃ head ∈ outline.current.head?, head.kind = .labelDeclaration

theorem cut_start : start.Cut :=
  ⟨rfl, .nil, by simp [start]⟩

namespace Cut

variable {outline : Outline}

theorem closed_eq_closeBlock (hcut : outline.Cut) :
    outline.closeBlock.closed.flatten.splitBy joins = outline.closeBlock.closed := by
  unfold closeBlock
  split
  · exact hcut.closed_eq
  · next hne =>
      -- a border lies between the last complete block and the open one
      have hborder : ∀ last ∈ outline.closed.flatten.getLast?, ∀ head ∈ outline.current.head?,
          joins last head = false := by
        intro last hlast head hhead
        rcases hcut.ended last hlast with hbranch | ⟨label, hlabel, hkind⟩
        · simp [joins, hbranch]
        · obtain rfl := Option.mem_unique hlabel hhead
          simp [joins, hkind]
      rw [List.flatten_append, List.flatten_singleton, List.splitBy_append hborder,
        hcut.closed_eq, List.splitBy_of_isChain hne hcut.current_joined]

/-- The line that comes after the open block was completed starts the next one. -/
theorem closeBlock_take (hcut : outline.Cut) {read : SourceTable × Option StoredLine}
    (hborder : outline.afterBranch = true ∨
      ∃ line, read.2 = some line ∧ line.kind = .labelDeclaration) :
    (outline.closeBlock.take read).Cut where
  closed_eq := hcut.closed_eq_closeBlock
  current_joined := by
    rw [take, current_closeBlock]
    cases read.2 with
    | none => exact .nil
    | some line => exact .singleton line
  ended := by
    intro last hlast
    rcases hborder with hbranch | ⟨line, hline, hkind⟩
    · -- the open block ended in the branch, so it was not empty
      left
      cases hfound : outline.current.getLast? with
      | none => simp [afterBranch, hfound] at hbranch
      | some final =>
          have hne : outline.current ≠ [] := by
            rintro hnil
            simp [hnil] at hfound
          have hfinal : final = last := by
            simpa [take, closeBlock, hne, List.getLast?_append, hfound] using hlast
          rw [← hfinal]
          simpa [afterBranch, hfound] using hbranch
    · exact .inr ⟨line, by simp [take, hline], hkind⟩

/-- A line that starts no block stays in the open one. -/
theorem take (hcut : outline.Cut) {read : SourceTable × Option StoredLine}
    (hbranch : outline.afterBranch = false)
    (hlabel : ∀ line, read.2 = some line → line.kind ≠ .labelDeclaration) :
    (outline.take read).Cut where
  closed_eq := hcut.closed_eq
  current_joined := by
    cases hread : read.2 with
    | none => simpa [Outline.take, hread] using hcut.current_joined
    | some line =>
        simp only [Outline.take, hread, Option.toList_some]
        refine List.isChain_append.mpr ⟨hcut.current_joined, .singleton line, ?_⟩
        intro last hlast head hhead
        obtain rfl : line = head := by simpa using hhead
        have hkind : last.kind ≠ .codeBranch := by
          have hlast' : outline.current.getLast? = some last := hlast
          simpa [afterBranch, hlast'] using hbranch
        simp [joins, hkind, hlabel line hread]
  ended := by
    intro last hlast
    rcases hcut.ended last hlast with hkind | ⟨head, hhead, hkind⟩
    · exact .inl hkind
    · refine .inr ⟨head, ?_, hkind⟩
      have hhead' : outline.current.head? = some head := hhead
      simp [Outline.take, List.head?_append, hhead']

end Cut

/-! ## A whole run -/

/-- One more line keeps the blocks cut at every border and nowhere else. -/
theorem Cut.addLine {context : Context} {outline following : Outline} {tokens : List Token}
    (hcut : outline.Cut) (hadd : outline.addLine context tokens = .ok following) :
    following.Cut := by
  cases tokens with
  | nil =>
      cases hadd
      exact hcut
  | cons first rest =>
      obtain ⟨⟨registered, line⟩, hread, rfl⟩ := Fallible.map_eq_ok.mp hadd
      have hlabel := lineKind_cons_eq_labelDeclaration first rest
      -- what is stored is a declaration exactly if the line starts with a label
      have hstored : ∀ stored, line = some stored →
          (stored.kind = .labelDeclaration ↔ first.kind = .label) := by
        rintro stored rfl
        obtain ⟨-, -, -, hkind | ⟨hkind, location, hlocated⟩⟩ := readLine_eq_some hread
        · rw [hkind, hlabel]
        · rw [hlocated, ← hlabel, hkind]
          simp
      rw [beginLine]
      split
      · next hsplit =>
          refine hcut.closeBlock_take ?_
          rcases Bool.or_eq_true_iff.mp hsplit with hbranch | hfirst
          · exact .inl hbranch
          · right
            have hdeclares := hlabel.mpr (by simpa using hfirst)
            obtain ⟨hnil, -⟩ | ⟨hkind, -⟩ | ⟨-, hkind, -⟩ | ⟨-, -, -, -, hline⟩ :=
              readLine_cases hread
            · cases hnil
            · simp [hkind] at hdeclares
            · simp [hkind] at hdeclares
            · exact ⟨_, hline, hdeclares⟩
      · next hsplit =>
          obtain ⟨hbranch, hfirst⟩ := Bool.or_eq_false_iff.mp (Bool.eq_false_iff.mpr hsplit)
          refine hcut.take hbranch fun stored hline => ?_
          rw [ne_eq, hstored stored hline]
          simpa using hfirst

theorem addLine_of_readLine {context : Context} {outline : Outline} {tokens : List Token}
    {read : SourceTable × Option StoredLine}
    (hread : readLine context outline.sources tokens = .ok read) :
    ∃ following, outline.addLine context tokens = .ok following ∧
      following.sources = read.1 ∧ following.lines = outline.lines ++ read.2.toList := by
  cases tokens with
  | nil =>
      obtain rfl : (outline.sources, none) = read := by simpa [readLine] using hread
      exact ⟨outline, rfl, rfl, (List.append_nil _).symm⟩
  | cons first rest =>
      refine ⟨(outline.beginLine first).take read, ?_, rfl, ?_⟩
      · simp [addLine, hread]
      · rw [lines_take, lines_beginLine]

theorem addLine_of_readLine_error {context : Context} {outline : Outline} {tokens : List Token}
    {error : ListingError} (hread : readLine context outline.sources tokens = .error error) :
    outline.addLine context tokens = .error error := by
  cases tokens with
  | nil => simp [readLine] at hread
  | cons first rest => simp [addLine, hread]

/-- Of a listing that was read, an outline keeps the source files and the lines,
which are cut into blocks at every border. -/
theorem closeBlock_addLines (context : Context) (groups : List (List Token)) :
    ∀ outline : Outline, outline.Cut →
      (outline.addLines context groups).map closeBlock =
        (readLines context outline.sources groups).map fun read =>
          ⟨read.1, (outline.lines ++ read.2).splitBy joins, []⟩ := by
  induction groups with
  | nil =>
      intro outline hcut
      have hclosed := hcut.closed_eq_closeBlock
      have hlines : outline.closeBlock.closed.flatten = outline.lines := by
        simpa [lines] using outline.lines_closeBlock
      rw [hlines] at hclosed
      show Except.ok outline.closeBlock = .ok ⟨outline.sources, _, []⟩
      rw [List.append_nil, hclosed, ← outline.sources_closeBlock, ← outline.current_closeBlock]
  | cons tokens rest ih =>
      intro outline hcut
      rw [addLines, List.foldlM_cons, readLines]
      cases hread : readLine context outline.sources tokens with
      | error error => rw [addLine_of_readLine_error hread]; rfl
      | ok read =>
          obtain ⟨following, hadd, hsources, hlines⟩ := addLine_of_readLine hread
          have hrest := ih following (hcut.addLine hadd)
          rw [hsources, hlines] at hrest
          rw [hadd, Fallible.ok_bind, Fallible.ok_bind, ← addLines, hrest]
          cases readLines context read.1 rest with
          | error error => rfl
          | ok final => simp [List.append_assoc]

end Outline

end AsmListing
